import EntityScaffold.Proofs.Naming.Words
import EntityScaffold.Proofs.Relation
import EntityScaffold.Proofs.Scaffold.EntityCalls
import EntityScaffold.Proofs.Scaffold.Siblings
import EntityScaffold.Proofs.Source.Brackets
import EntityScaffold.Proofs.Source.Comments
import EntityScaffold.Proofs.Text.Parts
/-!
# Foreign keys in the mapping

The entity class maps a relation to one target over a join column, and the database deletes along a relation
where its join column says `onDelete="CASCADE"`.  The printer of join columns never looks at the kind of the
relation; that a delete cascade is printed where there is a foreign key, and nowhere else, rests on what
relations can come into a record (`Relation.enters_iff`) and on which members have a join column at all.

Names are printed between quotes as they stand.  So what a comment says is read off its text, and of the other comments
those say `onDelete="CASCADE"` that put a name between quotes in which just that is written
(`cascadesDeletes_member_iff`).
-/

namespace EntityScaffold.Scaffold

open Artifact Text

variable {config : Config} {r : Record} {p : Property} {comment : String}

/-! ## Comments about foreign keys -/

/-- How a join column begins. -/
def joinMark : String := "@ORM\\JoinColumn("

/-- A comment that maps a foreign key. -/
def IsJoinColumn (comment : String) : Prop := joinMark.toList <+: comment.toList

/-- What a comment says for the database to delete along a foreign key. -/
def cascadeMark : String := "onDelete=\"CASCADE\""

/-- A comment that cascades deletes. -/
def CascadesDeletes (comment : String) : Prop := IsPartOf cascadeMark comment

/-- A name that spells out a delete cascade where it stands between quotes, with the quote behind it or without. -/
def SpellsCascade (name : String) : Prop := IsPartOf cascadeMark (name ++ "\"")

/-- The name by which a relation is known to its target, where it is. -/
def inverseName? (owner : String) (relation : Relation) : Option String :=
  match relation.kind, relation.bidirectional with
  | .oneToMany, _ => some owner
  | .oneToOne, true => some owner
  | _, true => some (Naming.plural owner)
  | _, false => none

/-- The names that the mapping of a property puts between quotes: the type of its column, or else the target of its
relation and the name of this side there. -/
def quotedNames (entityName : String) (p : Property) : List String :=
  match p.relation? with
  | none => [p.storage.getD "None"]
  | some relation => relation.target :: (inverseName? (uncapitalize entityName) relation).toList

instance : DecidablePred IsJoinColumn := fun comment =>
  inferInstanceAs (Decidable (joinMark.toList <+: comment.toList))

instance : DecidablePred CascadesDeletes := fun comment => inferInstanceAs (Decidable (IsPartOf cascadeMark comment))

instance : DecidablePred SpellsCascade := fun name =>
  inferInstanceAs (Decidable (IsPartOf cascadeMark (name ++ "\"")))

/-- How an entity class maps the foreign keys of a record. -/
structure MapsForeignKeys (r : Record) (entity : SourceUnit) : Prop where
  /-- There is one member for the identifier, and one for each property. -/
  members : entity.declaration.members.map (·.name) = "id" :: r.propertyNames
  distinct : ("id" :: r.propertyNames).Nodup
  /-- A property has a join column where it refers to one target, and so none where it refers to many. -/
  join : ∀ p ∈ r.properties, ∀ m ∈ entity.declaration.members, m.name = p.name →
    ((∃ comment ∈ m.comments, IsJoinColumn comment) ↔
      ∃ relation, p.relation? = some relation ∧ (relation.kind = .oneToOne ∨ relation.kind = .manyToOne))
  /-- The join column of a property cascades deletes where its relation does. -/
  cascade : ∀ p ∈ r.properties, ∀ m ∈ entity.declaration.members, m.name = p.name →
    ((∃ comment ∈ m.comments, IsJoinColumn comment ∧ CascadesDeletes comment) ↔
      ∃ relation, p.relation? = some relation ∧ relation.onDeleteCascade = true)
  /-- Another comment of a property cascades deletes where a name between quotes spells that out. -/
  quoted : ∀ p ∈ r.properties, ∀ m ∈ entity.declaration.members, m.name = p.name →
    ((∃ comment ∈ m.comments, ¬ IsJoinColumn comment ∧ CascadesDeletes comment) ↔
      ∃ name ∈ quotedNames r.entityName p, SpellsCascade name)
  /-- Nothing else in the class cascades deletes. -/
  elsewhere : ∀ comment ∈ entity.comments, CascadesDeletes comment →
    ∃ p ∈ r.properties, ∃ m ∈ entity.declaration.members, m.name = p.name ∧ comment ∈ m.comments

/-! ## Arguments of annotations -/

/-- Arguments do not run together, so a comment cascades deletes where one of them does. -/
lemma cascadesDeletes_directive_iff {name : String} {args : List String}
    (hname : ¬ CascadesDeletes ("@ORM\\" ++ name)) :
    CascadesDeletes (Mapping.directive name args) ↔ ∃ arg ∈ args, CascadesDeletes arg := by
  have hdirective : Mapping.directive name args = "@ORM\\" ++ name ++ "(" ++ (join ", " args ++ ")" ++ "") := by
    simp only [Mapping.directive, String.append_empty, String.append_assoc]
  have hjoin : IsPartOf cascadeMark (join ", " args) ↔ ∃ arg ∈ args, CascadesDeletes arg :=
    isPartOf_join_iff (by decide) (by decide) (by decide)
  rw [← hjoin, hdirective]
  constructor
  · intro h
    rcases IsPartOf.cases_append "(" (by decide) (by decide) h with h | h
    · exact absurd h hname
    · rcases IsPartOf.cases_append ")" (by decide) (by decide) h with h | h
      · exact h
      · exact absurd h (by decide)
  · exact fun h => ((h.append_right ")").append_right "").append_left _

/-- An argument that is a name between quotes cascades deletes exactly if the name spells that out. -/
lemma cascadesDeletes_quoted_iff {label name : String}
    (hlabel : '"' ∉ label.toList ∧ ¬ "onDelete=".toList <:+ label.toList) :
    CascadesDeletes (label ++ Mapping.inQuotes name) ↔ SpellsCascade name := by
  have hmark : cascadeMark.toList = "onDelete=".toList ++ '"' :: "CASCADE\"".toList := by decide
  have hquoted : (label ++ Mapping.inQuotes name).toList = label.toList ++ '"' :: (name ++ "\"").toList := by
    simp [Mapping.inQuotes]
  constructor
  · intro h
    rw [CascadesDeletes, IsPartOf, hquoted, hmark] at h
    rw [SpellsCascade, IsPartOf, hmark]
    exact infix_of_infix_append_cons (by decide) hlabel.1 hlabel.2 h
  · intro h
    rw [CascadesDeletes, Mapping.inQuotes, String.append_assoc]
    exact (h.append_left "\"").append_left label

/-- An argument without quotes does not cascade deletes. -/
lemma not_cascadesDeletes_of_noQuote {arg : String} (h : '"' ∉ arg.toList) : ¬ CascadesDeletes arg := by
  intro hcascades
  have hmark : '"' ∈ cascadeMark.toList := by decide
  exact h (hcascades.subset hmark)

/-! ## The comments of the entity -/

lemma cascadesDeletes_column_iff :
    CascadesDeletes (Mapping.columnText p) ↔ SpellsCascade (p.storage.getD "None") := by
  have htype : CascadesDeletes ("type=" ++ Mapping.inQuotes (p.storage.getD "None")) ↔
      SpellsCascade (p.storage.getD "None") := cascadesDeletes_quoted_iff (by decide)
  have hkeys : ∀ key ∈ ["length=", "precision=", "scale="], '"' ∉ key.toList := by decide
  have hargs : ∀ arg ∈ Mapping.columnArgs p, CascadesDeletes arg → SpellsCascade (p.storage.getD "None") := by
    refine Mapping.forall_mem_columnArgs htype.1 (fun key hkey n hcascades => ?_) ?_
    · refine absurd hcascades (not_cascadesDeletes_of_noQuote ?_)
      rw [String.toList_append, List.mem_append, not_or]
      exact ⟨hkeys key hkey, HasIdentifierChars.notMem_toString_int (by decide) (by decide) n⟩
    · have hflags : ∀ arg ∈ ["unique=true", "nullable=true"], ¬ CascadesDeletes arg := by decide
      exact fun arg harg hcascades => absurd hcascades (hflags arg harg)
  rw [Mapping.columnText, cascadesDeletes_directive_iff (by decide)]
  constructor
  · rintro ⟨arg, harg, hcascades⟩
    exact hargs arg harg hcascades
  · exact fun h => ⟨_, List.mem_append_left _ (by simp), htype.2 h⟩

lemma cascadesDeletes_inverseArgs_iff {owner : String} {relation : Relation} :
    (∃ arg ∈ Mapping.inverseArgs owner relation, CascadesDeletes arg) ↔
      ∃ name ∈ (inverseName? owner relation).toList, SpellsCascade name := by
  have hmapped (name : String) : CascadesDeletes ("mappedBy=" ++ Mapping.inQuotes name) ↔ SpellsCascade name :=
    cascadesDeletes_quoted_iff (by decide)
  have hinversed (name : String) : CascadesDeletes ("inversedBy=" ++ Mapping.inQuotes name) ↔ SpellsCascade name :=
    cascadesDeletes_quoted_iff (by decide)
  unfold Mapping.inverseArgs inverseName?
  cases relation.kind <;> cases relation.bidirectional <;> simp [hmapped, hinversed]

lemma cascadesDeletes_ofRelation_iff {entityName : String} {relation : Relation} :
    CascadesDeletes (Mapping.ofRelation entityName relation) ↔
      ∃ name ∈ relation.target :: (inverseName? (uncapitalize entityName) relation).toList, SpellsCascade name := by
  have hname : ¬ CascadesDeletes ("@ORM\\" ++ relation.kind.mappingName) := by cases relation.kind <;> decide
  have htarget : CascadesDeletes ("targetEntity=" ++ Mapping.inQuotes relation.target) ↔
      SpellsCascade relation.target := cascadesDeletes_quoted_iff (by decide)
  have hcascade (c : Cascade) : ¬ CascadesDeletes ("cascade=\x7b" ++ Mapping.inQuotes c.name ++ "\x7d") := by
    cases c <;> decide
  have hnone : ¬ ∃ arg ∈ (relation.cascade.map fun c => "cascade=\x7b" ++ Mapping.inQuotes c.name ++ "\x7d").toList,
      CascadesDeletes arg := by
    rintro ⟨arg, harg, h⟩
    obtain ⟨c, -, rfl⟩ := Option.map_eq_some_iff.1 (Option.mem_toList.1 harg)
    exact hcascade c h
  rw [Mapping.ofRelation, cascadesDeletes_directive_iff hname, List.exists_mem_cons_iff, ← htarget,
    ← cascadesDeletes_inverseArgs_iff]
  constructor
  · rintro ⟨arg, harg, h⟩
    rcases List.mem_append.1 harg with harg | harg
    · rcases List.mem_cons.1 harg with rfl | harg
      · exact .inl h
      · exact .inr ⟨arg, harg, h⟩
    · exact absurd ⟨arg, harg, h⟩ hnone
  · rintro (h | ⟨arg, harg, h⟩)
    · exact ⟨_, List.mem_append_left _ List.mem_cons_self, h⟩
    · exact ⟨arg, List.mem_append_left _ (List.mem_cons_of_mem _ harg), h⟩

/-- The join column of a relation cascades deletes where the relation does. -/
lemma cascadesDeletes_joinColumn_iff (nullable : Bool) (relation : Relation) :
    CascadesDeletes (Mapping.joinColumn nullable relation) ↔ relation.onDeleteCascade = true := by
  rw [Mapping.joinColumn]
  cases relation.onDeleteCascade <;> cases nullable <;> decide

lemma suffix_lastSegment (name : String) : (Entity.lastSegment name).toList <:+ name.toList := by
  have hname := join_pieces name
  rw [Entity.lastSegment]
  rcases List.eq_nil_or_concat' (pieces '\\' name) with hnil | ⟨before, last, hlast⟩
  · rw [hnil]
    exact List.nil_suffix
  · rw [hlast] at hname ⊢
    rw [List.getLastD_concat, ← hname]
    by_cases hbefore : before = []
    · rw [hbefore]
      exact List.suffix_rfl
    · rw [join_concat hbefore, String.toList_append]
      exact List.suffix_append _ _

/-- What is said about the items of a list only names the target. -/
lemma spellsCascade_of_list {target : String}
    (h : CascadesDeletes ("@var Collection|" ++ Entity.lastSegment target ++ "[]")) : SpellsCascade target := by
  have hsplit : "@var Collection|" ++ Entity.lastSegment target ++ "[]" =
      "@var Collection" ++ "|" ++ (Entity.lastSegment target ++ "[]" ++ "") := by
    rw [String.append_empty, ← String.append_assoc]
    rfl
  rw [hsplit] at h
  rcases IsPartOf.cases_append "|" (by decide) (by decide) h with h | h
  · exact absurd h (by decide)
  · rcases IsPartOf.cases_append "[]" (by decide) (by decide) h with h | h
    · have htarget : IsPartOf cascadeMark target := List.IsInfix.trans h (suffix_lastSegment target).isInfix
      exact htarget.append_right "\""
    · exact absurd h (by decide)

/-- The name of a table has no capitals. -/
lemma not_cascadesDeletes_table (entityName : String) :
    ¬ CascadesDeletes ("@ORM\\Table(name=" ++ Mapping.inQuotes (Naming.snake entityName) ++ ")") := by
  intro h
  have hend : "@ORM\\Table(name=" ++ Mapping.inQuotes (Naming.snake entityName) ++ ")" =
      "@ORM\\Table(name=" ++ Mapping.inQuotes (Naming.snake entityName) ++ ")" ++ "" := String.append_empty.symm
  rw [hend] at h
  rcases IsPartOf.cases_append ")" (by decide) (by decide) h with h | h
  · have hspells : SpellsCascade (Naming.snake entityName) := (cascadesDeletes_quoted_iff (by decide)).1 h
    have hcapital : 'C' ∈ (Naming.snake entityName ++ "\"").toList := hspells.subset (by decide)
    rw [String.toList_append] at hcapital
    rcases List.mem_append.1 hcapital with hsnake | hquote
    · exact absurd (Naming.isCapital_of_mem_snake hsnake) (by decide)
    · exact absurd hquote (by decide)
  · exact absurd h (by decide)

lemma not_cascadesDeletes_idComments (config : Config) :
    ∀ comment ∈ Entity.idComments config, ¬ CascadesDeletes comment := by
  rw [Entity.idComments]
  split <;> decide

/-! ## Join columns -/

lemma not_isJoinColumn_directive {name : String} {args : List String}
    (hname : ¬ joinMark.toList <+: ("@ORM\\" ++ name).toList ∧ ¬ ("@ORM\\" ++ name).toList <+: joinMark.toList) :
    ¬ IsJoinColumn (Mapping.directive name args) := by
  rw [IsJoinColumn, Mapping.directive, String.append_assoc, String.append_assoc]
  exact SourceUnit.not_prefix_append hname

lemma isJoinColumn_joinColumn (nullable : Bool) (relation : Relation) :
    IsJoinColumn (Mapping.joinColumn nullable relation) := by
  rw [IsJoinColumn, Mapping.joinColumn, Mapping.directive, String.append_assoc, String.toList_append]
  exact List.prefix_append _ _

lemma not_isJoinColumn_ofRelation (entityName : String) (relation : Relation) :
    ¬ IsJoinColumn (Mapping.ofRelation entityName relation) := by
  rw [Mapping.ofRelation]
  refine not_isJoinColumn_directive ?_
  cases relation.kind <;> decide

lemma not_isJoinColumn_list (target : String) :
    ¬ IsJoinColumn ("@var Collection|" ++ Entity.lastSegment target ++ "[]") := by
  rw [IsJoinColumn, String.append_assoc]
  exact SourceUnit.not_prefix_append (by decide)

/-! ## The member of a property -/

lemma comments_member_of_scalar (h : p.relation? = none) (r : Record) :
    (Entity.member r p).comments = [Mapping.columnText p] := by
  unfold Property.relation? at h
  unfold Entity.member
  cases hkind : p.kind with
  | scalar type format => rfl
  | relation relation =>
    simp only [hkind] at h
    cases h

lemma comments_member_of_relation {relation : Relation} (h : p.relation? = some relation) (r : Record) :
    (Entity.member r p).comments = [Mapping.ofRelation r.entityName relation,
      if relation.kind.isOwning then Mapping.joinColumn p.nullable relation
      else "@var Collection|" ++ Entity.lastSegment relation.target ++ "[]"] := by
  unfold Property.relation? at h
  unfold Entity.member
  cases hkind : p.kind with
  | scalar type format =>
    simp only [hkind] at h
    cases h
  | relation other =>
    simp only [hkind, Option.some.injEq] at h
    subst h
    cases howning : other.kind.isOwning <;> simp [RelationKind.isToMany, howning]

/-- A join column of a property is that of its relation to one target. -/
lemma exists_of_isJoinColumn (hmem : comment ∈ (Entity.member r p).comments) (h : IsJoinColumn comment) :
    ∃ relation, p.relation? = some relation ∧ relation.kind.isOwning = true ∧
      comment = Mapping.joinColumn p.nullable relation := by
  cases hrelation : p.relation? with
  | none =>
    rw [comments_member_of_scalar hrelation] at hmem
    rw [List.mem_singleton.1 hmem] at h
    exact absurd h (not_isJoinColumn_directive (by decide))
  | some relation =>
    rw [comments_member_of_relation hrelation] at hmem
    rcases List.mem_cons.1 hmem with rfl | hmem
    · exact absurd h (not_isJoinColumn_ofRelation _ _)
    · rw [List.mem_singleton] at hmem
      split at hmem
      · next howning => exact ⟨relation, rfl, howning, hmem⟩
      · rw [hmem] at h
        exact absurd h (not_isJoinColumn_list _)

lemma joinColumn_mem_comments {relation : Relation} (hrelation : p.relation? = some relation)
    (howning : relation.kind.isOwning = true) (r : Record) :
    Mapping.joinColumn p.nullable relation ∈ (Entity.member r p).comments := by
  rw [comments_member_of_relation hrelation, if_pos howning]
  exact List.mem_cons_of_mem _ (List.mem_singleton.2 rfl)

/-- A comment of a property that is no join column cascades deletes exactly if a name between quotes spells that out. -/
theorem cascadesDeletes_member_iff (r : Record) (p : Property) :
    (∃ comment ∈ (Entity.member r p).comments, ¬ IsJoinColumn comment ∧ CascadesDeletes comment) ↔
      ∃ name ∈ quotedNames r.entityName p, SpellsCascade name := by
  unfold quotedNames
  cases hrelation : p.relation? with
  | none =>
    have hcolumn : ¬ IsJoinColumn (Mapping.columnText p) := not_isJoinColumn_directive (by decide)
    rw [comments_member_of_scalar hrelation]
    simp only [List.mem_singleton, exists_eq_left, hcolumn, not_false_eq_true, true_and, cascadesDeletes_column_iff]
  | some relation =>
    simp only [← cascadesDeletes_ofRelation_iff]
    rw [comments_member_of_relation hrelation]
    constructor
    · rintro ⟨comment, hmem, hjoin, h⟩
      rcases List.mem_cons.1 hmem with rfl | hmem
      · exact h
      · rw [List.mem_singleton.1 hmem] at hjoin h
        split at hjoin
        · exact absurd (isJoinColumn_joinColumn _ _) hjoin
        · next hmany =>
          rw [if_neg hmany] at h
          exact cascadesDeletes_ofRelation_iff.2 ⟨_, List.mem_cons_self, spellsCascade_of_list h⟩
    · exact fun h => ⟨_, List.mem_cons_self, not_isJoinColumn_ofRelation _ _, h⟩

/-! ## The entity -/

/-- The member of a property is found by its name. -/
lemma eq_member_of_name (h : r.IsConsistent) (hp : p ∈ r.properties) {m : Source.Member}
    (hm : m ∈ (Entity.unit config r).declaration.members) (hname : m.name = p.name) : m = Entity.member r p := by
  rcases List.mem_cons.1 hm with rfl | hm
  · exact absurd hname.symm (name_ne_id h hp)
  · obtain ⟨q, hq, rfl⟩ := List.mem_map.1 hm
    rw [name_member] at hname
    have hnodup : (r.properties.map (·.name)).Nodup := (List.nodup_cons.1 (nodup_memberNames h)).2
    rw [List.inj_on_of_nodup_map hnodup hq hp hname]

lemma mapsForeignKeys_entity (h : r.IsConsistent) (hentered : r.HasEnteredRelations) (config : Config) :
    MapsForeignKeys r (Entity.unit config r) where
  members := names_members config r
  distinct := nodup_memberNames h
  join := by
    intro p hp m hm hname
    rw [eq_member_of_name h hp hm hname]
    constructor
    · rintro ⟨comment, hcomment, hjoin⟩
      obtain ⟨relation, hrelation, howning, -⟩ := exists_of_isJoinColumn hcomment hjoin
      exact ⟨relation, hrelation, Relation.isOwning_iff.1 howning⟩
    · rintro ⟨relation, hrelation, hkind⟩
      exact ⟨_, joinColumn_mem_comments hrelation (Relation.isOwning_iff.2 hkind) r, isJoinColumn_joinColumn _ _⟩
  cascade := by
    intro p hp m hm hname
    rw [eq_member_of_name h hp hm hname]
    constructor
    · rintro ⟨comment, hcomment, hjoin, hcascades⟩
      obtain ⟨relation, hrelation, -, rfl⟩ := exists_of_isJoinColumn hcomment hjoin
      exact ⟨relation, hrelation, (cascadesDeletes_joinColumn_iff _ _).1 hcascades⟩
    · rintro ⟨relation, hrelation, hdelete⟩
      -- the join column is printed for the kind, and says what the relation asks for
      have hkind := Relation.enters_iff.1 (hentered p hp relation hrelation) hdelete
      exact ⟨_, joinColumn_mem_comments hrelation (Relation.isOwning_iff.2 hkind) r, isJoinColumn_joinColumn _ _,
        (cascadesDeletes_joinColumn_iff _ _).2 hdelete⟩
  quoted := by
    intro p hp m hm hname
    rw [eq_member_of_name h hp hm hname]
    exact cascadesDeletes_member_iff r p
  elsewhere := by
    intro comment hcomment hcascades
    rw [SourceUnit.comments] at hcomment
    rcases List.mem_append.1 hcomment with hcomment | hmethod
    · rcases List.mem_append.1 hcomment with hclass | hmember
      · rcases List.mem_cons.1 hclass with rfl | hclass
        · exact absurd hcascades (by decide)
        · rw [List.mem_singleton.1 hclass] at hcascades
          exact absurd hcascades (not_cascadesDeletes_table _)
      · obtain ⟨m, hm, hcomment⟩ := List.mem_flatMap.1 hmember
        rcases List.mem_cons.1 hm with rfl | hproperty
        · exact absurd hcascades (not_cascadesDeletes_idComments config comment hcomment)
        · obtain ⟨p, hp, rfl⟩ := List.mem_map.1 hproperty
          exact ⟨p, hp, _, hm, name_member r p, hcomment⟩
    · obtain ⟨m, hm, hcomment⟩ := List.mem_flatMap.1 hmethod
      rw [comments_methods_entity m hm] at hcomment
      cases hcomment

/-- A review goes when its product goes, but stays when its author does. -/
def review : Record where
  space := "App\\Shop"
  entityName := "Review"
  properties :=
    [{ name := "text", expression := "string|200", kind := .scalar "string" none, storage := some "string"
       nullable := false, modifiers := { length := some 200 } },
      { name := "product", expression := "Product", storage := none, nullable := false, modifiers := {}
        kind := .relation (.build "App\\Shop\\Product" .manyToOne true none true) },
      { name := "author", expression := "?Author", storage := none, nullable := true, modifiers := {}
        kind := .relation (.build "App\\Shop\\Author" .manyToOne false none false) },
      { name := "replies", expression := "Reply", storage := none, nullable := false, modifiers := {}
        kind := .relation (.build "App\\Shop\\Reply" .oneToMany true (some .all) true) }]

/-- An entry whose type of column closes its quotes too early. -/
def entry : Property where
  name := "entry"
  expression := "string"
  kind := .scalar "string" none
  storage := some "string\", onDelete=\"CASCADE"
  nullable := false
  modifiers := {}

/-- A ledger with such entries. -/
def ledger : Record where
  space := "App\\Shop"
  entityName := "Ledger"
  properties := [entry]

end EntityScaffold.Scaffold
