import EntityScaffold.Definition
import EntityScaffold.Proofs.Property
import EntityScaffold.Proofs.Text.Strip
/-!
# Descriptions of properties

A `Description` is what a person has in mind about a property: a name, a type, and then a default or what
there is to say about a relation.  It can be written into a definition file, as the fields of an entry, and it
can be told to the wizard, as answers.  `Description.Yields` says which property it stands for, in terms of
neither; `property_eq_ok_iff` shows that this is the one that a definition makes of the fields.
-/

namespace EntityScaffold

open Document Text

/-- What is said about a property besides its name and its type. -/
inductive Detail where
  | scalar (default : Option String)
  | relation (kind : String) (bidirectional : Bool) (cascade : Option String) (onDelete : Bool)
  deriving DecidableEq, Repr, Inhabited

/-- What is said about a property. -/
structure Description where
  name : String
  expression : String
  detail : Detail
  deriving DecidableEq, Repr, Inhabited

namespace Detail

/-- A text as a value, and null where there is none. -/
def textOrNull (text : Option String) : Value := text.elim .null .text

/-- The answer that means a truth value. -/
def yesNo (b : Bool) : String := if b then "yes" else "no"

/-- The fields of the block of a relation. -/
def blockFields (kind : String) (bidirectional : Bool) (cascade : Option String) (onDelete : Bool) :
    Schema.Fields :=
  [(.text "kind", .text kind), (.text "bidirectional", .bool bidirectional),
    (.text "cascade", textOrNull cascade), (.text "on_delete_cascade", .bool onDelete)]

/-- The fields of a definition that say as much. -/
def fields : Detail → Schema.Fields
  | .scalar default => [(.text "default", textOrNull default)]
  | .relation kind bidirectional cascade onDelete =>
    [(.text "relation", .mapping (blockFields kind bidirectional cascade onDelete))]

/-- The answers that say as much.  The last one is given only where it is asked for. -/
def answers : Detail → List (Option String)
  | .scalar default => [some (default.getD "")]
  | .relation kind bidirectional cascade onDelete =>
    [some kind, some (yesNo bidirectional), some (cascade.getD "no")] ++
      match RelationKind.read (some kind) with
      | .ok k => if k.isOwning then [some (yesNo onDelete)] else []
      | .error _ => []

lemma answers_relation {kind : String} {k : RelationKind}
    (hkind : RelationKind.read (some kind) = .ok k) (bidirectional onDelete : Bool)
    (cascade : Option String) :
    (relation kind bidirectional cascade onDelete).answers =
      some kind :: some (yesNo bidirectional) :: some (cascade.getD "no") ::
        if k.isOwning then [some (yesNo onDelete)] else [] := by
  simp [answers, hkind]

/-- Texts without blanks around them. -/
def IsPlain : Detail → Prop
  | .scalar default => ∀ text ∈ default, trim text = text
  | .relation kind .. => trim kind = kind ∧ kind ≠ ""

/-- Whether as much is to be said about a type: a default about a scalar, a relation about an entity. -/
def Suits : Detail → TypeSense → Prop
  | .scalar _, .scalar _ => True
  | .relation .., .entity .. => True
  | _, _ => False

end Detail

namespace Description

/-- The fields of a definition that say as much. -/
def fields (d : Description) : Schema.Fields :=
  [(.text "name", .text d.name), (.text "type", .text d.expression)] ++ d.detail.fields

/-- The answers that say as much. -/
def answers (d : Description) : List (Option String) :=
  [some d.name, some d.expression] ++ d.detail.answers

/-- A description without blanks around its texts, whose detail suits its type where that can be read. -/
structure IsPlain (reader : TypeReader) (d : Description) : Prop where
  name : trim d.name = d.name ∧ d.name ≠ ""
  expression : trim d.expression = d.expression ∧ d.expression ≠ ""
  detail : d.detail.IsPlain
  suits : ∀ outcome, reader.read d.expression = .ok outcome → d.detail.Suits outcome.sense

/-- The property that a description stands for. -/
inductive Yields (reader : TypeReader) : Description → Property → Prop
  | scalar {name expression : String} {outcome : TypeOutcome} {primitive : Primitive}
      {default : Option String} (hname : Property.checkName name = .ok ())
      (hread : reader.read expression = .ok outcome) (hsense : outcome.sense = .scalar primitive) :
      Yields reader ⟨name, expression, .scalar default⟩
        (.scalar name expression outcome primitive (default.filter (· != "")))
  | relation {name expression token entity target : String} {outcome : TypeOutcome}
      {kind : RelationKind} {bidirectional onDelete : Bool} {cascade : Option String}
      (hname : Property.checkName name = .ok ()) (hread : reader.read expression = .ok outcome)
      (hsense : outcome.sense = .entity entity target)
      (hkind : RelationKind.read (some token) = .ok kind) :
      Yields reader ⟨name, expression, .relation token bidirectional cascade onDelete⟩
        (.related name expression outcome
          (.build target kind bidirectional (Cascade.read cascade) onDelete))

variable {reader : TypeReader} {d : Description} {p : Property}

open Detail

lemma Yields.name_eq (h : d.Yields reader p) : p.name = d.name := by
  cases h <;> rfl

lemma Yields.checkName (h : d.Yields reader p) : Property.checkName p.name = .ok () := by
  cases h with
  | scalar hname => exact hname
  | relation hname => exact hname

/-! ## Definitions -/

lemma requiredText_name (hname : trim d.name = d.name ∧ d.name ≠ "") :
    Definition.requiredText d.fields "name" = .ok d.name := by
  have hblank : ¬ isBlankText d.name = true := by
    rw [← trim_eq_empty_iff, hname.1]
    exact hname.2
  have hget : Definition.get d.fields "name" = .text d.name := rfl
  simp [Definition.requiredText, hget, hblank, hname.1]

lemma typeText_fields (name : String) : Definition.typeText name d.fields = .ok d.expression := rfl

lemma defaultText_textOrNull (text : Option String) :
    Definition.defaultText (Detail.textOrNull text) = .ok text := by
  cases text <;> rfl

/-- The block of a relation has no issues. -/
lemma check_block (kind : String) (bidirectional onDelete : Bool) (cascade : Option String) :
    RelationBlock.check (.mapping (blockFields kind bidirectional cascade onDelete)) =
      .accepted ⟨kind, bidirectional, cascade, onDelete⟩ := by
  cases cascade <;> rfl

lemma relationOf_block (name target kind : String) (bidirectional onDelete : Bool)
    (cascade : Option String) :
    Definition.relationOf name target (.mapping (blockFields kind bidirectional cascade onDelete)) =
      (RelationKind.read (some kind)).map fun k =>
        Relation.build target k bidirectional (Cascade.read cascade) onDelete := by
  simp only [Definition.relationOf, ok_bind, check_block]
  rw [RelationBlock.relation]
  cases RelationKind.read (some kind) <;> rfl

lemma property_of_error {f : Failure} (hname : trim d.name = d.name ∧ d.name ≠ "")
    (hread : reader.read d.expression = .error f) :
    Definition.property reader d.fields = .error f := by
  simp only [Definition.property, requiredText_name hname, typeText_fields, ok_bind, hread,
    error_bind]

/-- A definition builds a scalar of its default. -/
lemma property_scalar {name expression : String} {default : Option String} {outcome : TypeOutcome}
    {primitive : Primitive} (hname : trim name = name ∧ name ≠ "")
    (hread : reader.read expression = .ok outcome) (hsense : outcome.sense = .scalar primitive) :
    Definition.property reader (fields ⟨name, expression, .scalar default⟩) =
      Property.build name expression outcome none default := by
  set d : Description := ⟨name, expression, .scalar default⟩
  have hdefault : Definition.defaultText (Definition.get d.fields "default") = .ok default :=
    defaultText_textOrNull default
  have hblock : Definition.get d.fields "relation" = .null := rfl
  unfold Definition.property
  rw [requiredText_name (d := d) hname, ok_bind, typeText_fields, ok_bind, hread, ok_bind, hdefault, ok_bind,
    hblock, hsense]

/-- A definition builds a relation of its kind, when that is one. -/
lemma property_relation {name expression kind entity target : String} {outcome : TypeOutcome}
    {bidirectional onDelete : Bool} {cascade : Option String}
    (hname : trim name = name ∧ name ≠ "") (hread : reader.read expression = .ok outcome)
    (hsense : outcome.sense = .entity entity target) :
    Definition.property reader
        (fields ⟨name, expression, .relation kind bidirectional cascade onDelete⟩) =
      RelationKind.read (some kind) >>= fun k =>
        Property.build name expression outcome
          (some (.build target k bidirectional (Cascade.read cascade) onDelete)) none := by
  set d : Description := ⟨name, expression, .relation kind bidirectional cascade onDelete⟩
  have hdefault : Definition.defaultText (Definition.get d.fields "default") = .ok none := rfl
  have hblock : Definition.get d.fields "relation" =
      .mapping (blockFields kind bidirectional cascade onDelete) := rfl
  unfold Definition.property
  rw [requiredText_name (d := d) hname, ok_bind, typeText_fields, ok_bind, hread, ok_bind, hdefault, ok_bind,
    hblock, hsense]
  simp only [relationOf_block, Option.isSome_none]
  cases RelationKind.read (some kind) <;> rfl

/-- A definition makes of the fields of a description the property that it stands for. -/
theorem property_eq_ok_iff (hd : d.IsPlain reader) :
    Definition.property reader d.fields = .ok p ↔ d.Yields reader p := by
  obtain ⟨name, expression, detail⟩ := d
  have hplain : trim name = name ∧ name ≠ "" := hd.name
  constructor
  · intro h
    cases hread : reader.read expression with
    | error f =>
      rw [property_of_error (d := ⟨name, expression, detail⟩) hplain hread] at h
      cases h
    | ok outcome =>
      have hsuits : detail.Suits outcome.sense := hd.suits outcome hread
      cases detail with
      | scalar default =>
        cases hsense : outcome.sense with
        | entity => simp [Suits, hsense] at hsuits
        | scalar primitive =>
          rw [property_scalar hplain hread hsense] at h
          have hname := Property.checkName_of_build h
          rw [Property.build_scalar _ hname hsense] at h
          cases h
          exact .scalar hname hread hsense
      | relation kind bidirectional cascade onDelete =>
        cases hsense : outcome.sense with
        | scalar => simp [Suits, hsense] at hsuits
        | entity entity target =>
          rw [property_relation hplain hread hsense] at h
          obtain ⟨k, hkind, h⟩ := bind_eq_ok_iff.1 h
          have hname := Property.checkName_of_build h
          rw [Property.build_related hname hsense] at h
          cases h
          exact .relation hname hread hsense hkind
  · intro h
    cases h with
    | scalar hname hread hsense =>
      rw [property_scalar hplain hread hsense]
      exact Property.build_scalar _ hname hsense _
    | relation hname hread hsense hkind =>
      rw [property_relation hplain hread hsense, hkind]
      exact Property.build_related hname hsense _

end Description

end EntityScaffold
