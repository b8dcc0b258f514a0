import EntityScaffold.Record
/-!
# Mapping annotations

The comments that map an entity to tables.  A scalar property has a column; a relation has an annotation of
its kind, and on the side with the foreign key a join column.

The names in a comment are written between double quotes as they stand, and nothing in them is escaped.  The
numbers of a column are those of a type, and one that has too many digits to be shown cannot be written
(`column`).
-/

namespace EntityScaffold.Artifact.Mapping

open Text

/-- An annotation with its arguments. -/
def directive (name : String) (args : List String) : String :=
  "@ORM\\" ++ name ++ "(" ++ join ", " args ++ ")"

/-- A truth value. -/
def truthWord (b : Bool) : String := if b then "true" else "false"

/-- A text between double quotes, as it stands. -/
def inQuotes (s : String) : String := "\"" ++ s ++ "\""

/-- The arguments of a column, as they are written where all numbers can be shown. -/
def columnArgs (p : Property) : List String :=
  ["type=" ++ inQuotes (p.storage.getD "None")] ++
    (p.modifiers.length.map fun n => "length=" ++ toString n).toList ++
    (p.modifiers.precision.map fun n => "precision=" ++ toString n).toList ++
    (p.modifiers.scale.map fun n => "scale=" ++ toString n).toList ++
    (if p.modifiers.unique then ["unique=true"] else []) ++
    (if p.nullable then ["nullable=true"] else [])

/-- What holds of every argument that there can be, holds of those of a column. -/
theorem forall_mem_columnArgs {p : Property} {P : String → Prop}
    (htype : P ("type=" ++ inQuotes (p.storage.getD "None")))
    (hnumber : ∀ key ∈ ["length=", "precision=", "scale="], ∀ n : Int, P (key ++ toString n))
    (hflag : ∀ arg ∈ ["unique=true", "nullable=true"], P arg) : ∀ arg ∈ columnArgs p, P arg := by
  have hnumbers {key : String} (hkey : key ∈ ["length=", "precision=", "scale="]) (n : Option Int) :
      ∀ arg ∈ (n.map fun n => key ++ toString n).toList, P arg := by
    cases n with
    | none => exact nofun
    | some n => exact List.forall_mem_singleton.2 (hnumber key hkey n)
  have hflags {flag : String} (hmem : flag ∈ ["unique=true", "nullable=true"]) (b : Bool) :
      ∀ arg ∈ if b then [flag] else [], P arg := by
    cases b with
    | false => exact nofun
    | true => exact List.forall_mem_singleton.2 (hflag flag hmem)
  simp only [columnArgs, List.forall_mem_append, List.forall_mem_singleton]
  exact ⟨⟨⟨⟨⟨htype, hnumbers (by decide) _⟩, hnumbers (by decide) _⟩, hnumbers (by decide) _⟩,
    hflags (by decide) _⟩, hflags (by decide) _⟩

/-- How the column of a scalar property is written where all numbers can be shown. -/
def columnText (p : Property) : String := directive "Column" (columnArgs p)

/-- The column of a scalar property, unless a number has too many digits to be shown. -/
def column (p : Property) : Except Failure String :=
  if p.modifiers.isShowable then .ok (columnText p) else .error (.ofSize .shown)

theorem column_eq_ok {p : Property} (h : p.modifiers.isShowable = true) : column p = .ok (columnText p) := if_pos h

theorem column_eq_error {p : Property} (h : ¬ p.modifiers.isShowable = true) :
    column p = .error (.ofSize .shown) := if_neg h

/-- How the target of a relation names this side.  A one-to-many relation is always mapped by its target;
the others are named only when they are bidirectional, in the plural where the target has many. -/
def inverseArgs (owner : String) (relation : Relation) : List String :=
  match relation.kind, relation.bidirectional with
  | .oneToMany, _ => ["mappedBy=" ++ inQuotes owner]
  | .oneToOne, true => ["inversedBy=" ++ inQuotes owner]
  | _, true => ["inversedBy=" ++ inQuotes (Naming.plural owner)]
  | _, false => []

/-- The relation annotation of a property of an entity. -/
def ofRelation (entityName : String) (relation : Relation) : String :=
  directive relation.kind.mappingName
    (["targetEntity=" ++ inQuotes relation.target] ++
      inverseArgs (uncapitalize entityName) relation ++
      (relation.cascade.map fun c => "cascade=\x7b" ++ inQuotes c.name ++ "\x7d").toList)

/-- The join column of a relation with a foreign key. -/
def joinColumn (nullable : Bool) (relation : Relation) : String :=
  directive "JoinColumn"
    (["nullable=" ++ truthWord nullable] ++
      if relation.onDeleteCascade then ["onDelete=" ++ inQuotes "CASCADE"] else [])

end EntityScaffold.Artifact.Mapping
