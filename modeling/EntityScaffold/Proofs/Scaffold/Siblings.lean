import EntityScaffold.Proofs.Property
import EntityScaffold.Proofs.Record.Classes
import EntityScaffold.Proofs.Record.Validation
import EntityScaffold.Proofs.Source.Linkage
import EntityScaffold.Proofs.Text.Case
import EntityScaffold.Scaffold
/-!
# The units of a record

A record that passes the check has a unit for each of its artifacts (`units_eq`), unless a number in a column has too
many digits to be shown: then the entity cannot be written, and there are no units at all (`units_eq_error`).  What
holds of the units of every such record is said with this one exception (`HasUnits`).

The units have different qualified names, so that the name of an artifact's class leads to the unit of that artifact
and to no other (`unitOf?_qualifiedName`, `count_qualifiedName`).
-/

namespace EntityScaffold.Scaffold

open Source

attribute [local irreducible] ClassName.qualify

variable {config : Config} {r : Record} {a : Artifact}

/-! ## Units by artifact -/

/-- The unit of an artifact; that of the entity as it is written where all columns can be. -/
def unitAt (config : Config) (r : Record) : Artifact → SourceUnit
  | .entity => Artifact.Entity.unit config r
  | a => (unit config r a).toOption.getD default

/-- The units of a record, without the artifacts they belong to. -/
def siblings (config : Config) (r : Record) : List SourceUnit :=
  (artifacts r).map (unitAt config r)

/-- The repository with lookups by some properties. -/
def repositoryOf (config : Config) (r : Record) (single multi : List Property) : SourceUnit :=
  { space := r.space
    uses := Artifact.Repository.uses config r (single ++ multi)
    declaration :=
      { name := r.className .repository, isAbstract := true
        methods := Artifact.Repository.methods config r single multi } }

/-- The lookups of a consistent record find properties, and the repository is made of these. -/
theorem exists_repository (h : r.IsConsistent) (config : Config) :
    ∃ single multi, (∀ p ∈ single ++ multi, p ∈ r.properties) ∧
      unit config r .repository = .ok (repositoryOf config r single multi) := by
  obtain ⟨single, hsingle, hsingles⟩ := Record.exists_propertiesOf h.getBy
  obtain ⟨multi, hmulti, hmultis⟩ := Record.exists_propertiesOf h.getAllBy
  refine ⟨single, multi, List.forall_mem_append.2 ⟨hsingles, hmultis⟩, ?_⟩
  show Artifact.Repository.unit config r = _
  rw [Artifact.Repository.unit, hsingle, ok_bind, hmulti, ok_bind]
  rfl

/-- All numbers in the columns of a record can be shown.  A relation has no column. -/
def ShowsNumbers (r : Record) : Prop := ∀ p ∈ r.properties, p.isRelation = false → p.modifiers.isShowable = true

instance (r : Record) : Decidable (ShowsNumbers r) :=
  inferInstanceAs (Decidable (∀ p ∈ r.properties, p.isRelation = false → p.modifiers.isShowable = true))

/-- Where all properties were built, their numbers were read before. -/
theorem showsNumbers_of_isBuilt (h : ∀ p ∈ r.properties, p.IsBuilt) : ShowsNumbers r :=
  fun p hp _ => (h p hp).isShowable

lemma mem_scalars {p : Property} : (p ∈ r.properties.filter fun p => !p.isRelation) ↔
    p ∈ r.properties ∧ p.isRelation = false := by
  rw [List.mem_filter, Bool.not_eq_true']

/-- The entity is written where all numbers can be shown. -/
theorem write_eq (h : ShowsNumbers r) (config : Config) :
    Artifact.Entity.write config r = .ok (Artifact.Entity.unit config r) := by
  have hcolumns : Artifact.Entity.columns r =
      .ok ((r.properties.filter fun p => !p.isRelation).map Artifact.Mapping.columnText) := by
    refine mapM_eq_ok_map fun p hp => Artifact.Mapping.column_eq_ok ?_
    obtain ⟨hmem, hscalar⟩ := mem_scalars.1 hp
    exact h p hmem hscalar
  rw [Artifact.Entity.write, hcolumns]
  rfl

/-- The first number that cannot be shown is what the entity fails with. -/
lemma write_eq_error (h : ¬ ShowsNumbers r) (config : Config) :
    Artifact.Entity.write config r = .error (.ofSize .shown) := by
  have hcolumns : Artifact.Entity.columns r = .error (.ofSize .shown) := by
    refine mapM_eq_error ?_ fun p _ f hf => ?_
    · unfold ShowsNumbers at h
      push Not at h
      obtain ⟨p, hmem, hscalar, hlong⟩ := h
      exact ⟨p, mem_scalars.2 ⟨hmem, hscalar⟩, Artifact.Mapping.column_eq_error hlong⟩
    · unfold Artifact.Mapping.column at hf
      split at hf
      · cases hf
      · exact (Except.error.inj hf).symm
  rw [Artifact.Entity.write, hcolumns]
  rfl

lemma unitAt_eq {u : SourceUnit} (h : unit config r a = .ok u) : unitAt config r a = u := by
  cases a with
  | entity =>
    obtain ⟨columns, -, hunit⟩ := bind_eq_ok_iff.1 h
    exact pure_eq_ok_iff.1 hunit
  | _ =>
    rw [unitAt, h]
    · rfl
    · nofun

/-- Every artifact but the entity has a unit always. -/
lemma unit_eq_of_ne (h : r.IsConsistent) (config : Config) (ha : a ≠ .entity) :
    unit config r a = .ok (unitAt config r a) := by
  cases a with
  | entity => exact absurd rfl ha
  | repository =>
    obtain ⟨single, multi, -, hunit⟩ := exists_repository h config
    rw [unitAt_eq hunit]
    exact hunit
  | _ => rfl

lemma unit_eq (h : r.IsConsistent) (hshown : ShowsNumbers r) (config : Config) (a : Artifact) :
    unit config r a = .ok (unitAt config r a) := by
  by_cases ha : a = .entity
  · rw [ha]
    exact write_eq hshown config
  · exact unit_eq_of_ne h config ha

lemma space_unitAt (h : r.IsConsistent) (config : Config) (a : Artifact) :
    (unitAt config r a).space = r.spaceOf a := by
  cases a with
  | repository =>
    obtain ⟨single, multi, -, hunit⟩ := exists_repository h config
    rw [unitAt_eq hunit]
    rfl
  | _ => rfl

lemma name_unitAt (h : r.IsConsistent) (config : Config) (a : Artifact) :
    (unitAt config r a).declaration.name = r.className a := by
  cases a with
  | repository =>
    obtain ⟨single, multi, -, hunit⟩ := exists_repository h config
    rw [unitAt_eq hunit]
    rfl
  | _ => rfl

lemma qualifiedName_unitAt (h : r.IsConsistent) (config : Config) (a : Artifact) :
    (unitAt config r a).qualifiedName = r.qualifiedName a := by
  rw [SourceUnit.qualifiedName, space_unitAt h, name_unitAt h]
  rfl

/-- The methods of the entity have no comments. -/
theorem comments_methods_entity : ∀ m ∈ (Artifact.Entity.unit config r).declaration.methods, m.comments = [] := by
  show ∀ m ∈ Artifact.Entity.methods config r, m.comments = []
  simp only [Artifact.Entity.methods, List.forall_mem_append, List.forall_mem_singleton, List.forall_mem_map]
  refine ⟨⟨⟨rfl, ?_⟩, rfl⟩, fun p _ => rfl⟩
  split
  · exact List.forall_mem_cons.2 ⟨rfl, List.forall_mem_singleton.2 rfl⟩
  · exact List.forall_mem_nil _

/-- A record that passes the check has a unit for each artifact, where all numbers can be shown. -/
theorem units_eq (h : r.validate = .ok ()) (hshown : ShowsNumbers r) (config : Config) :
    units config r = .ok ((artifacts r).map fun a => (a, unitAt config r a)) := by
  rw [units, h, ok_bind]
  refine mapM_eq_ok_map fun a _ => ?_
  rw [unit_eq (Record.isConsistent_of_validate h) hshown]
  rfl

/-- Where a number cannot be shown, the entity fails, which comes first. -/
theorem units_eq_error (h : r.validate = .ok ()) (hshown : ¬ ShowsNumbers r) (config : Config) :
    units config r = .error (.ofSize .shown) := by
  rw [units, h, ok_bind, artifacts, List.cons_append, List.cons_append, List.mapM_cons]
  show ((Artifact.Entity.write config r >>= _) >>= _) = _
  rw [write_eq_error hshown]
  rfl

/-- A record has units exactly if it passes the check and all numbers can be shown. -/
lemma units_eq_ok_iff {us : List (Artifact × SourceUnit)} : units config r = .ok us ↔
    r.validate = .ok () ∧ ShowsNumbers r ∧ us = (artifacts r).map fun a => (a, unitAt config r a) := by
  constructor
  · intro h
    obtain ⟨⟨⟩, hvalid, -⟩ := bind_eq_ok_iff.1 h
    have hshown : ShowsNumbers r := by
      by_contra hnot
      rw [units_eq_error hvalid hnot] at h
      cases h
    rw [units_eq hvalid hshown] at h
    exact ⟨hvalid, hshown, (Except.ok.inj h).symm⟩
  · rintro ⟨hvalid, hshown, rfl⟩
    exact units_eq hvalid hshown config

lemma map_fst_units (config : Config) (r : Record) :
    ((artifacts r).map fun a => (a, unitAt config r a)).map (·.1) = artifacts r := by
  rw [List.map_map]
  exact List.map_id _

/-- A record has a unit for each artifact, of which something holds, unless a number in a column has too many digits to
be shown: then the entity cannot be written, and there are no units. -/
def HasUnits (config : Config) (r : Record) (P : List (Artifact × SourceUnit) → Prop) : Prop :=
  (∃ us, units config r = .ok us ∧ us.map (·.1) = artifacts r ∧ P us) ∨
    ¬ ShowsNumbers r ∧ units config r = .error (.ofSize .shown)

/-- What holds of the units of the artifacts holds of a record that passes the check. -/
theorem hasUnits (h : r.validate = .ok ()) (config : Config) {P : List (Artifact × SourceUnit) → Prop}
    (hP : P ((artifacts r).map fun a => (a, unitAt config r a))) : HasUnits config r P := by
  by_cases hshown : ShowsNumbers r
  · exact .inl ⟨_, units_eq h hshown config, map_fst_units config r, hP⟩
  · exact .inr ⟨hshown, units_eq_error h hshown config⟩

lemma HasUnits.exists_units {P : List (Artifact × SourceUnit) → Prop} (h : HasUnits config r P)
    (hshown : ShowsNumbers r) : ∃ us, units config r = .ok us ∧ us.map (·.1) = artifacts r ∧ P us :=
  h.resolve_right fun hnot => hnot.1 hshown

/-- A unit of a record is that of its artifact. -/
theorem eq_unitAt {u : SourceUnit} (h : (a, u) ∈ (artifacts r).map fun a => (a, unitAt config r a)) :
    u = unitAt config r a := by
  obtain ⟨b, -, hb⟩ := List.mem_map.1 h
  cases hb
  rfl

/-- What holds of the units holds of those of the artifacts. -/
theorem forall_units_iff {P : SourceUnit → Prop} :
    (∀ au ∈ (artifacts r).map fun a => (a, unitAt config r a), P au.2) ↔ ∀ a ∈ artifacts r, P (unitAt config r a) :=
  List.forall_mem_map

/-! ## Names -/

lemma mem_events_of_mem_artifacts {name : String} (h : .event name ∈ artifacts r) :
    name ∈ r.events := by
  simp only [artifacts] at h
  split at h <;> simpa using h

lemma isIdentifierChar_ending (hstems : ∀ event ∈ r.events, isIdentifier (Naming.pascal event) = true)
    (ha : a ∈ artifacts r) : ∀ c ∈ a.ending.toList, isIdentifierChar c = true := by
  cases a with
  | event name =>
    have hstem := isIdentifierChar_of_isIdentifier (hstems name (mem_events_of_mem_artifacts ha))
    rw [Artifact.ending, String.toList_append]
    exact List.forall_mem_append.2 ⟨hstem, by decide⟩
  | _ => decide

lemma isIdentifier_className (hentity : isIdentifier r.entityName = true)
    (hstems : ∀ event ∈ r.events, isIdentifier (Naming.pascal event) = true) (ha : a ∈ artifacts r) :
    isIdentifier (r.className a) = true :=
  isIdentifier_append hentity (isIdentifierChar_ending hstems ha)

/-- Artifacts of a consistent record that share a class are the same. -/
lemma eq_of_sharesClass (h : r.IsConsistent) {b : Artifact} (ha : a ∈ artifacts r)
    (hb : b ∈ artifacts r) (hshare : a.SharesClass b) : a = b := by
  cases hshare with
  | same => rfl
  | @event m n hstem =>
    rw [List.inj_on_of_nodup_map h.events (mem_events_of_mem_artifacts ha)
      (mem_events_of_mem_artifacts hb) hstem]

/-- Artifacts whose class names differ by case at most are the same, if the stems of the events differ by more. -/
theorem eq_of_sharesStem (hnodup : (r.events.map fun e => Text.lower (Naming.pascal e)).Nodup)
    (hstems : ∀ event ∈ r.events, isIdentifier (Naming.pascal event) = true) {b : Artifact}
    (ha : a ∈ artifacts r) (hb : b ∈ artifacts r) (hshare : a.SharesStem b) : a = b := by
  cases hshare with
  | same => rfl
  | @event m n hstem =>
    have hm := mem_events_of_mem_artifacts ha
    have hn := mem_events_of_mem_artifacts hb
    rw [← lower_of_isIdentifier (hstems m hm), ← lower_of_isIdentifier (hstems n hn)] at hstem
    rw [List.inj_on_of_nodup_map hnodup hm hn hstem]

lemma nodup_artifacts (h : r.IsConsistent) : (artifacts r).Nodup := by
  have hevents : (r.events.map Artifact.event).Nodup :=
    (h.events.of_map _).map fun _ _ heq => Artifact.event.inj heq
  unfold artifacts
  split <;> simp [List.nodup_append, hevents]

/-- No two units have one qualified name. -/
lemma nodup_qualifiedNames (h : r.IsConsistent) (config : Config) :
    ((siblings config r).map (·.qualifiedName)).Nodup := by
  rw [siblings, List.map_map]
  refine (nodup_artifacts h).map_on ?_
  intro a ha b hb hname
  simp only [Function.comp_apply, qualifiedName_unitAt h] at hname
  exact eq_of_sharesClass h ha hb (Record.sharesClass_of_qualifiedName hname)

lemma unitAt_mem_siblings (ha : a ∈ artifacts r) : unitAt config r a ∈ siblings config r :=
  List.mem_map_of_mem ha

/-- The class of an artifact is that of exactly one unit. -/
theorem count_qualifiedName (h : r.IsConsistent) (ha : a ∈ artifacts r) :
    ((siblings config r).map (·.qualifiedName)).count (r.qualifiedName a) = 1 := by
  refine List.count_eq_one_of_mem (nodup_qualifiedNames h config) ?_
  rw [← qualifiedName_unitAt h config]
  exact List.mem_map_of_mem (unitAt_mem_siblings ha)

/-- The name of an artifact's class leads to the unit of the artifact. -/
theorem unitOf?_qualifiedName (h : r.IsConsistent) (ha : a ∈ artifacts r) :
    unitOf? (siblings config r) (r.qualifiedName a) = some (unitAt config r a) := by
  have hmem : unitAt config r a ∈ siblings config r := unitAt_mem_siblings ha
  unfold unitOf?
  cases hfound : (siblings config r).find? (·.qualifiedName == r.qualifiedName a) with
  | none =>
    have hmiss := List.find?_eq_none.1 hfound _ hmem
    simp [qualifiedName_unitAt h] at hmiss
  | some u =>
    have hname := List.find?_some hfound
    rw [beq_iff_eq, ← qualifiedName_unitAt h config] at hname
    rw [List.inj_on_of_nodup_map (nodup_qualifiedNames h config) (List.mem_of_find?_eq_some hfound)
      hmem hname]

end EntityScaffold.Scaffold
