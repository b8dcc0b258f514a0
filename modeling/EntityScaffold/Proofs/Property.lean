import EntityScaffold.Keyed
import EntityScaffold.Proofs.TypeExpression.Reading
import EntityScaffold.Property
/-!
# When a property is built

A property is built from a name that passes the check, and from a relation exactly where its type is an
entity.  A name is turned down for itself and for nothing else.  The types that a reader makes sense of are
entities and the primitive types, so a property that was built from one of them (`IsBuilt`) has a column type
exactly when it is no relation.  Its numbers have been read, and so they can be shown (`IsBuilt.isShowable`).
-/

namespace EntityScaffold.Property

open Text

variable {name expression : String} {outcome : TypeOutcome} {f : Failure}

/-- The check of a name only ever turns that name down. -/
theorem checkName_error (h : checkName name = .error f) :
    ∃ fault, f = .rejected (.propertyName name fault) := by
  unfold checkName at h
  split at h
  · cases h
    exact ⟨_, rfl⟩
  · split at h
    · cases h
      exact ⟨_, rfl⟩
    · cases h

/-- A name passes the check if it is an identifier, and no getter of that name is there in any case. -/
theorem checkName_eq_ok_iff :
    checkName name = .ok () ↔ isIdentifier name = true ∧ lower name ∉ reservedNames.map (·.1) := by
  have hreserved : lower name ∉ reservedNames.map (·.1) ↔ reservedNames.lookup (lower name) = none := by
    rw [List.lookup_eq_none_iff]
    simp [reservedNames]
  rw [hreserved, checkName]
  by_cases hname : isIdentifier name = true
  · cases hgetter : reservedNames.lookup (lower name) with
    | none => simp [hname]
    | some getter => simp [hname, reject]
  · simp [hname, reject]

lemma isIdentifier_of_checkName (h : checkName name = .ok ()) : isIdentifier name = true := by
  unfold checkName at h
  split at h
  · cases h
  · next hname => simpa using hname

/-- A scalar property of an outcome. -/
def scalar (name expression : String) (outcome : TypeOutcome) (primitive : Primitive)
    (default : Option String) : Property :=
  ⟨name, expression, .scalar primitive.hint default, some primitive.storage, outcome.nullable,
    outcome.modifiers⟩

/-- A property of an outcome that is a relation. -/
def related (name expression : String) (outcome : TypeOutcome) (relation : Relation) : Property :=
  ⟨name, expression, .relation relation, none, outcome.nullable, outcome.modifiers⟩

variable (expression) in
lemma build_scalar {primitive : Primitive} (hname : checkName name = .ok ())
    (hsense : outcome.sense = .scalar primitive) (default : Option String) :
    build name expression outcome none default =
      .ok (scalar name expression outcome primitive (default.filter (· != ""))) := by
  rw [build, hname, hsense]
  rfl

lemma build_related {entity target : String} (hname : checkName name = .ok ())
    (hsense : outcome.sense = .entity entity target) (relation : Relation) :
    build name expression outcome (some relation) none =
      .ok (related name expression outcome relation) := by
  rw [build, hname, hsense]
  rfl

/-- A property is only built under a name that passes the check. -/
theorem checkName_of_build {relation : Option Relation} {default : Option String} {p : Property}
    (h : build name expression outcome relation default = .ok p) : checkName name = .ok () := by
  obtain ⟨u, hname, -⟩ := bind_eq_ok_iff.1 h
  exact hname

/-- A property is built with the relation that it is given. -/
theorem relation?_of_build {relation : Option Relation} {default : Option String} {p : Property}
    (h : build name expression outcome relation default = .ok p) : p.relation? = relation := by
  obtain ⟨u, -, h⟩ := bind_eq_ok_iff.1 h
  obtain ⟨⟨kind, storage⟩, hkind, h⟩ := bind_eq_ok_iff.1 h
  obtain rfl := pure_eq_ok_iff.1 h
  unfold buildKind at hkind
  split at hkind
  · cases hkind
    rfl
  · cases hkind
  · cases hkind
  · split at hkind
    · cases hkind
    · cases hkind
      rfl

/-- Only scalars have defaults. -/
lemma exists_kind_of_default {p : Property} {value : String} (h : p.default? = some value) :
    ∃ type, p.kind = .scalar type (some value) := by
  unfold default? at h
  split at h
  · next type default hkind => exact ⟨type, by rw [hkind, h]⟩
  · cases h

/-! ## Built properties -/

/-- A property that was built from a type that a reader made sense of. -/
def IsBuilt (p : Property) : Prop :=
  ∃ (reader : TypeReader) (token : String) (outcome : TypeOutcome) (relation : Option Relation)
    (default : Option String), reader.read token = .ok outcome ∧
      build p.name p.expression outcome relation default = .ok p

/-- Only primitive types are read as scalars. -/
lemma exists_keyword {reader : TypeReader} {token : String} {primitive : Primitive}
    (h : reader.read token = .ok outcome) (hsense : outcome.sense = .scalar primitive) :
    ∃ keyword, (keyword, primitive) ∈ primitives := by
  obtain ⟨t, -, h⟩ := bind_eq_ok_iff.1 h
  obtain ⟨sense, hbase, h⟩ := bind_eq_ok_iff.1 h
  cases h
  cases hsense
  unfold TypeReader.sense at hbase
  split at hbase
  · next hprimitive =>
    cases hbase
    exact ⟨_, Keyed.mem_of_lookup hprimitive⟩
  · obtain ⟨target, -, hbase⟩ := bind_eq_ok_iff.1 hbase
    cases target with
    | none => cases hbase
    | some target => cases hbase

/-- A property is built as a scalar of a primitive type or as a relation. -/
theorem IsBuilt.cases {p : Property} (h : p.IsBuilt) : checkName p.name = .ok () ∧
    ((∃ keyword primitive default, (keyword, primitive) ∈ primitives ∧
        p.kind = .scalar primitive.hint default ∧ p.storage = some primitive.storage) ∨
      ∃ relation, p.kind = .relation relation ∧ p.storage = none) := by
  obtain ⟨reader, token, outcome, relation, default, hread, hbuild⟩ := h
  refine ⟨checkName_of_build hbuild, ?_⟩
  obtain ⟨⟨⟩, -, hbuild⟩ := bind_eq_ok_iff.1 hbuild
  obtain ⟨⟨kind, storage⟩, hkind, hbuild⟩ := bind_eq_ok_iff.1 hbuild
  have hparts : kind = p.kind ∧ storage = p.storage := by
    have hp := congrArg (fun p : Property => (p.kind, p.storage)) (pure_eq_ok_iff.1 hbuild)
    exact ⟨congrArg Prod.fst hp, congrArg Prod.snd hp⟩
  unfold buildKind at hkind
  split at hkind
  · next primitive hsense _ =>
    obtain ⟨keyword, hkeyword⟩ := exists_keyword hread hsense
    cases hkind
    exact .inl ⟨keyword, primitive, _, hkeyword, hparts.1.symm, hparts.2.symm⟩
  · cases hkind
  · cases hkind
  · split at hkind
    · cases hkind
    · cases hkind
      exact .inr ⟨_, hparts.1.symm, hparts.2.symm⟩

/-- What holds of the texts of the primitive types, and of the word for no type, holds of the types of a built property,
if it holds of the target of its relation. -/
lemma IsBuilt.of_texts {p : Property} {P : String → Prop} (h : p.IsBuilt)
    (hprimitives : ∀ entry ∈ primitives, P entry.2.hint ∧ P entry.2.storage) (hnone : P "None")
    (htarget : ∀ relation ∈ p.relation?, P relation.target) :
    isIdentifier p.name = true ∧ P p.typeHint ∧ P (p.storage.getD "None") := by
  obtain ⟨hname, ⟨keyword, primitive, default, hkeyword, hkind, hstorage⟩ | ⟨relation, hkind, hstorage⟩⟩ := h.cases
  · obtain ⟨hhint, hcolumn⟩ := hprimitives _ hkeyword
    refine ⟨isIdentifier_of_checkName hname, ?_, ?_⟩
    · simpa only [typeHint, hkind] using hhint
    · simpa only [hstorage, Option.getD_some] using hcolumn
  · have hrelation : P relation.target := htarget relation (by simp only [relation?, hkind, Option.mem_some])
    refine ⟨isIdentifier_of_checkName hname, ?_, ?_⟩
    · simpa only [typeHint, hkind] using hrelation
    · rw [hstorage]
      exact hnone

/-- The numbers of a built property can be shown. -/
theorem IsBuilt.isShowable {p : Property} (h : p.IsBuilt) : p.modifiers.isShowable = true := by
  obtain ⟨reader, token, outcome, relation, default, hread, hbuild⟩ := h
  obtain ⟨t, ht, hread⟩ := bind_eq_ok_iff.1 hread
  obtain ⟨sense, -, hread⟩ := bind_eq_ok_iff.1 hread
  obtain rfl := pure_eq_ok_iff.1 hread
  obtain ⟨⟨⟩, -, hbuild⟩ := bind_eq_ok_iff.1 hbuild
  obtain ⟨⟨kind, storage⟩, -, hbuild⟩ := bind_eq_ok_iff.1 hbuild
  have hmodifiers : t.modifiers = p.modifiers := congrArg Property.modifiers (pure_eq_ok_iff.1 hbuild)
  rw [← hmodifiers]
  exact TypeExpression.isShowable_of_read ht

end EntityScaffold.Property
