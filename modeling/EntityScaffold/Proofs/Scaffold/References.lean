import EntityScaffold.Proofs.Scaffold.Siblings
import EntityScaffold.Proofs.Text.Order
/-!
# Every class that a unit refers to is there

The names in the types and imports of a unit are those of its siblings, of the framework, of the bases and
traits that were chosen, or of the declared properties (`Scaffold.IsKnown`).  Each artifact has its own lemma,
which goes through the parts of its unit; `isKnown_of_mem_references` puts them together.  For the factories, the
repository and the facade the lemmas are about any property of names that `Covers` the fixed ones.
-/

namespace EntityScaffold

open Source Artifact

namespace Artifact

/-- Whether every record has the artifact. -/
def isFixed : Artifact → Bool
  | .event _ | .dataFactory => false
  | _ => true

/-! ## Lists of imports -/

lemma mem_importsOf_iff {entry : String} {entries : List String} :
    entry ∈ importsOf entries ↔ entry ∈ entries ∧ entry ≠ "" := by
  rw [importsOf, Text.mem_distinct_iff, List.mem_filter, bne_iff_ne]

lemma mem_of_mem_foreignClasses {type space : String} {types : List String}
    (h : type ∈ foreignClasses types space) : type ∈ types :=
  List.mem_of_mem_filter h

end Artifact

namespace Scaffold

attribute [local irreducible] ClassName.qualify Config.usesUuid

/-! ## Known names -/

/-- The classes of the framework. -/
def frameworkClasses : List String :=
  [mappingImport, collection, arrayCollection, entityManager, queryBuilder, objectRepository, uuidClass,
    eventDispatcher, uuidInterface]

/-- A name that stands for a builtin type, or for a class that is there: that of exactly one of the units, a
class of the framework, a base or a trait that was chosen, or the type of a property. -/
inductive IsKnown (config : Config) (r : Record) (units : List SourceUnit) (name : String) : Prop
  | builtin (h : name ∈ SourceUnit.builtinTypes)
  | sibling (h : (units.map (·.qualifiedName)).count name = 1)
  | framework (h : name ∈ frameworkClasses)
  | base (h : name ∈ [ClassName.bare config.notFoundBase, ClassName.bare config.eventBase])
  | traitClass (h : name ∈ r.traitClasses)
  | property {p : Property} (hp : p ∈ r.properties) (h : p.typeHint = name)

/-- Known among the units of a record. -/
abbrev Known (config : Config) (r : Record) (name : String) : Prop :=
  IsKnown config r (siblings config r) name

variable {config : Config} {r : Record} {a : Artifact} {name : String}

lemma IsKnown.ofArtifact (h : r.IsConsistent) (ha : a ∈ artifacts r) :
    Known config r (r.qualifiedName a) :=
  .sibling (count_qualifiedName h ha)

lemma IsKnown.idTypeHint : Known config r config.idTypeHint := by
  unfold Config.idTypeHint
  split
  · exact .framework (by decide)
  · exact .builtin (by decide)

/-- The parameter of a lookup has the type of an identifier or that of its property. -/
theorem lookupParameter_cases {p : Property} {type : String} (h : type ∈ (lookupParameter config p).type) :
    type = config.idTypeHint ∨ p.primitive? = some type := by
  unfold lookupParameter at h
  split at h
  · cases h
    exact .inl rfl
  · exact .inr h

lemma typeHint_of_primitive {p : Property} {type : String} (h : p.primitive? = some type) :
    p.typeHint = type := by
  unfold Property.primitive? at h
  unfold Property.typeHint
  split at h
  · next hkind => simpa [hkind] using h
  · cases h

lemma IsKnown.lookupParameter {p : Property} {type : String} (hp : p ∈ r.properties)
    (h : type ∈ (lookupParameter config p).type) : Known config r type := by
  obtain rfl | hprimitive := lookupParameter_cases h
  · exact .idTypeHint
  · exact .property hp (typeHint_of_primitive hprimitive)

lemma mem_artifacts_of_isFixed (h : a.isFixed = true) : a ∈ artifacts r := by
  unfold artifacts
  cases a with
  | event | dataFactory => cases h
  | _ => simp

/-! ## Artifacts -/

/-- There is nothing to show of no value. -/
lemma forall_mem_none {α : Type} {P : α → Prop} : ∀ a ∈ (none : Option α), P a := nofun

/-- Both of two lists that are chosen from. -/
theorem forall_mem_ite {α : Type} {P : α → Prop} {c : Prop} [Decidable c] {as bs : List α}
    (has : c → ∀ a ∈ as, P a) (hbs : ¬ c → ∀ b ∈ bs, P b) : ∀ a ∈ if c then as else bs, P a := by
  split
  · next hc => exact has hc
  · next hc => exact hbs hc

lemma forall_mem_ite_nil {α : Type} {P : α → Prop} {c : Prop} [Decidable c] {as : List α}
    (has : c → ∀ a ∈ as, P a) : ∀ a ∈ if c then as else [], P a :=
  forall_mem_ite has fun _ => List.forall_mem_nil _

/-- A method refers to classes with a property only. -/
def RefersTo (P : String → Prop) (m : Method) : Prop :=
  (∀ p ∈ m.parameters, ∀ type ∈ p.type, P type) ∧ ∀ type ∈ m.returnType, P type

/-- The names in a unit, part by part. -/
lemma forall_mem_references {P : String → Prop} {u : SourceUnit} (huses : ∀ entry ∈ u.uses, P entry)
    (hparent : ∀ parent ∈ u.declaration.parent, P parent) (hinterfaces : u.declaration.interfaces = [])
    (htraits : ∀ trait ∈ u.declaration.traits, P trait)
    (hmembers : ∀ m ∈ u.declaration.members, ∀ type ∈ m.type, P type)
    (hmethods : ∀ m ∈ u.declaration.methods, RefersTo P m) : ∀ name ∈ u.references, P name := by
  intro name hname
  simp only [SourceUnit.references, hinterfaces, List.mem_append, List.not_mem_nil, or_false,
    Option.mem_toList, List.mem_filterMap, List.mem_flatMap] at hname
  rcases hname with (((hname | hname) | hname) | ⟨m, hm, hname⟩) | ⟨m, hm, ⟨p, hp, hname⟩ | hname⟩
  · exact huses name hname
  · exact hparent name hname
  · exact htraits name hname
  · exact hmembers m hm name hname
  · exact (hmethods m hm).1 p hp name hname
  · exact (hmethods m hm).2 name hname

/-- Names that foreign classes are chosen from are known. -/
lemma isKnown_foreignClasses {types : List String} {space : String}
    (h : ∀ type ∈ types, Known config r type) :
    ∀ type ∈ foreignClasses types space, Known config r type :=
  fun type htype => h type (mem_of_mem_foreignClasses htype)

lemma isKnown_typeHints : ∀ type ∈ r.properties.map (·.typeHint), Known config r type := by
  intro type htype
  obtain ⟨p, hp, rfl⟩ := List.mem_map.1 htype
  exact .property hp rfl

lemma isKnown_uses_entity : ∀ entry ∈ Entity.uses config r, Known config r entry := by
  intro entry hentry
  have hentry := (mem_importsOf_iff.1 hentry).1
  simp only [List.mem_append] at hentry
  rcases hentry with (((hentry | hentry) | hentry) | hentry) | hentry
  · rw [List.mem_singleton.1 hentry]
    exact .framework (by decide)
  · split at hentry
    · rcases List.mem_pair.1 hentry with rfl | rfl <;> exact .framework (by decide)
    · cases hentry
  · refine isKnown_foreignClasses (fun type htype => ?_) entry hentry
    rw [List.mem_singleton.1 htype]
    exact .idTypeHint
  · exact isKnown_foreignClasses isKnown_typeHints entry hentry
  · exact .traitClass hentry

lemma isKnown_member_entity {p : Property} (hp : p ∈ r.properties) :
    ∀ type ∈ (Entity.member r p).type, Known config r type := by
  intro type htype
  unfold Entity.member at htype
  split at htype
  · next hkind =>
    cases htype
    exact .property hp (by simp [Property.typeHint, hkind])
  · next hkind =>
    split at htype
    · cases htype
      exact .framework (by decide)
    · cases htype
      exact .property hp (by simp [Property.typeHint, hkind])

lemma isKnown_dataParameter (h : r.IsConsistent) :
    ∀ type ∈ (dataParameter r).type, Known config r type := by
  rintro _ ⟨⟩
  exact .ofArtifact h (mem_artifacts_of_isFixed rfl)

lemma isKnown_idParameter : ∀ type ∈ (idParameter config).type, Known config r type := by
  rintro _ ⟨⟩
  exact .idTypeHint

/-- A type that is known is known where it may be missing. -/
lemma isKnown_some {type : String} (h : Known config r type) :
    ∀ t ∈ some type, Known config r t := by
  rintro _ ⟨⟩
  exact h

lemma refersTo_constructor_entity (h : r.IsConsistent) :
    RefersTo (Known config r) (Entity.constructor config r) := by
  refine ⟨List.forall_mem_append.2 ⟨?_, ?_⟩, nofun⟩
  · exact forall_mem_ite (fun _ => List.forall_mem_singleton.2 isKnown_idParameter) nofun
  · exact List.forall_mem_singleton.2 (isKnown_dataParameter h)

lemma refersTo_getter {p : Property} (hp : p ∈ r.properties) :
    RefersTo (Known config r) (Entity.getter p) := by
  refine ⟨nofun, isKnown_some ?_⟩
  split
  · exact .framework (by decide)
  · exact .property hp rfl

lemma refersTo_methods_entity (h : r.IsConsistent) :
    ∀ m ∈ Entity.methods config r, RefersTo (Known config r) m := by
  have hdata : Known config r (r.qualifiedName .data) :=
    .ofArtifact h (mem_artifacts_of_isFixed rfl)
  have hedit : RefersTo (Known config r) (Entity.edit r) :=
    ⟨List.forall_mem_singleton.2 (isKnown_dataParameter h), isKnown_some (.builtin (by decide))⟩
  have hgetData : RefersTo (Known config r) (Entity.getData r) := ⟨nofun, isKnown_some hdata⟩
  have hgetId : RefersTo (Known config r) (Entity.getId config) := ⟨nofun, isKnown_some .idTypeHint⟩
  unfold Entity.methods
  simp only [List.forall_mem_append, List.forall_mem_singleton, List.forall_mem_map]
  refine ⟨⟨⟨refersTo_constructor_entity h, ?_⟩, hgetId⟩, fun p hp => refersTo_getter hp⟩
  exact forall_mem_ite
    (fun _ => List.forall_mem_cons.2 ⟨hedit, List.forall_mem_singleton.2 hgetData⟩) nofun

lemma isKnown_entity (h : r.IsConsistent) :
    ∀ name ∈ (Entity.unit config r).references, Known config r name := by
  refine forall_mem_references isKnown_uses_entity nofun rfl (fun _ => .traitClass) ?_
    (refersTo_methods_entity h)
  refine List.forall_mem_cons.2 ⟨isKnown_some .idTypeHint, ?_⟩
  exact List.forall_mem_map.2 fun p hp => isKnown_member_entity hp

lemma isKnown_data : ∀ name ∈ (Data.unit r).references, Known config r name := by
  refine forall_mem_references ?_ nofun rfl nofun ?_ nofun
  · intro entry hentry
    exact isKnown_foreignClasses isKnown_typeHints entry (mem_importsOf_iff.1 hentry).1
  · refine List.forall_mem_map.2 fun p hp => ?_
    unfold Data.member
    split
    · exact isKnown_some (.builtin (by decide))
    · exact isKnown_some (.property hp rfl)

lemma isKnown_notFound : ∀ name ∈ (NotFound.unit config r).references, Known config r name := by
  have hbase : Known config r (ClassName.bare config.notFoundBase) := .base (by simp)
  exact forall_mem_references (List.forall_mem_singleton.2 hbase) (isKnown_some hbase) rfl nofun nofun
    nofun

lemma isKnown_event (h : r.IsConsistent) (event : String) :
    ∀ name ∈ (Event.unit config r event).references, Known config r name := by
  have hentity : Known config r (r.qualifiedName .entity) :=
    .ofArtifact h (mem_artifacts_of_isFixed rfl)
  have hbase : Known config r (ClassName.bare config.eventBase) := .base (by simp)
  refine forall_mem_references ?_ (isKnown_some hbase) rfl nofun nofun ?_
  · exact List.forall_mem_cons.2 ⟨hentity, List.forall_mem_singleton.2 hbase⟩
  · refine List.forall_mem_cons.2 ⟨⟨?_, nofun⟩, List.forall_mem_singleton.2 ⟨nofun, ?_⟩⟩
    · exact List.forall_mem_singleton.2 (isKnown_some hentity)
    · exact isKnown_some hentity

/-! ## Factories, repository and facade -/

/-- The events that a facade dispatches have a unit each. -/
theorem event_mem_artifacts {event : String} (h : event ∈ r.events) : .event event ∈ artifacts r := by
  unfold artifacts
  simp [h]

lemma mem_events_of_dispatched {event : String} (h : event ∈ Facade.dispatched r) :
    event ∈ r.events :=
  List.contains_iff_mem.1 (List.mem_filter.1 h).2

/-- The classes of the framework that the classes around an entity work with. -/
def services (config : Config) (r : Record) : List String :=
  [entityManager, queryBuilder, objectRepository] ++
    (if config.usesUuid then [uuidClass, uuidInterface] else []) ++
      if (Facade.dispatched r).isEmpty then [] else [eventDispatcher]

/-- What holds of the names that the classes around an entity are made of. -/
structure Covers (config : Config) (r : Record) (P : String → Prop) : Prop where
  service : ∀ name ∈ services config r, P name
  artifact : ∀ a ∈ artifacts r, P (r.qualifiedName a)

namespace Covers

variable {P : String → Prop} {lookups single multi : List Property} (h : Covers config r P)

include h

lemma uses_factory : ∀ entry ∈ (Factory.unit config r).uses, P entry :=
  forall_mem_ite (fun huuid => List.forall_mem_singleton.2 (h.service _ (by simp [services, huuid]))) nofun

lemma foreignId {space : String} : ∀ entry ∈ foreignClasses [config.idTypeHint] space, P entry := by
  intro entry hentry
  obtain ⟨hmem, hclass⟩ := List.mem_filter.1 hentry
  rw [List.mem_singleton.1 hmem] at hclass ⊢
  unfold Config.idTypeHint at hclass ⊢
  split
  · next huuid => exact h.service _ (by simp [services, huuid])
  · next huuid =>
    have hint : isClassType "int" = false := by decide
    rw [if_neg huuid, hint] at hclass
    cases hclass

lemma uses_repository
    (hlookups : ∀ p ∈ lookups, ∀ type ∈ (lookupParameter config p).type, isClassType type → P type) :
    ∀ entry ∈ Repository.uses config r lookups, P entry := by
  intro entry hentry
  have hentry := (mem_importsOf_iff.1 hentry).1
  simp only [List.mem_append] at hentry
  rcases hentry with ((hentry | hentry) | hentry) | hentry
  · obtain ⟨hmem, hclass⟩ := List.mem_filter.1 hentry
    obtain ⟨p, hp, hparameter⟩ := List.mem_filterMap.1 hmem
    exact hlookups p hp entry hparameter (Bool.and_eq_true_iff.1 hclass).1
  · rcases List.mem_pair.1 hentry with rfl | rfl <;> exact h.service _ (by simp [services])
  · exact h.foreignId entry hentry
  · rcases List.mem_pair.1 hentry with heq | heq
    · rw [heq]
      exact h.artifact _ (mem_artifacts_of_isFixed rfl)
    · rw [heq]
      exact h.service _ (by simp [services])

lemma uses_facade : ∀ entry ∈ Facade.uses config r, P entry := by
  intro entry hentry
  have hentry := (mem_importsOf_iff.1 hentry).1
  simp only [List.mem_append] at hentry
  rcases hentry with ((hentry | hentry) | hentry) | hentry
  · rw [List.mem_singleton.1 hentry]
    exact h.service _ (by simp [services])
  · split at hentry
    · cases hentry
    · next hdispatched =>
      rw [List.mem_singleton.1 hentry]
      exact h.service _ (by simp [services, hdispatched])
  · split at hentry
    · rcases List.mem_append.1 hentry with hentry | hentry
      · exact h.foreignId entry hentry
      · rw [List.mem_singleton.1 hentry]
        exact h.artifact _ (mem_artifacts_of_isFixed rfl)
    · cases hentry
  · obtain ⟨event, hevent, heq⟩ := List.mem_map.1 hentry
    rw [← heq]
    exact h.artifact _ (event_mem_artifacts (mem_events_of_dispatched hevent))

/-! ### Types -/

variable (hword : ∀ name ∈ SourceUnit.builtinTypes, P name)

lemma entity : ∀ type ∈ some (r.qualifiedName .entity), P type := by
  rintro _ ⟨⟩
  exact h.artifact _ (mem_artifacts_of_isFixed rfl)

lemma dataParameter : ∀ type ∈ (dataParameter r).type, P type := by
  rintro _ ⟨⟩
  exact h.artifact _ (mem_artifacts_of_isFixed rfl)

lemma framework {name : String} (hname : name ∈ services config r) : ∀ type ∈ some name, P type := by
  rintro _ ⟨⟩
  exact h.service name hname

lemma references_factory : ∀ name ∈ (Factory.unit config r).references, P name :=
  forall_mem_references h.uses_factory nofun rfl nofun nofun
    (List.forall_mem_singleton.2 ⟨List.forall_mem_singleton.2 h.dataParameter, h.entity⟩)

include hword

omit h in
lemma word {name : String} (hname : name ∈ SourceUnit.builtinTypes) : ∀ type ∈ some name, P type := by
  rintro _ ⟨⟩
  exact hword name hname

lemma idParameter : ∀ type ∈ (idParameter config).type, P type := by
  rintro _ ⟨⟩
  unfold Config.idTypeHint
  split
  · next huuid => exact h.service _ (by simp [services, huuid])
  · exact hword _ (by decide)

lemma references_dataFactory : ∀ name ∈ (DataFactory.unit r).references, P name :=
  forall_mem_references nofun nofun rfl nofun nofun
    (List.forall_mem_singleton.2 ⟨List.forall_mem_singleton.2 (word hword (by decide)), h.dataParameter⟩)

lemma references_repository
    (hlookups : ∀ p ∈ single ++ multi, ∀ type ∈ (lookupParameter config p).type, P type) :
    ∀ name ∈ (repositoryOf config r single multi).references, P name := by
  obtain ⟨hsingle, hmulti⟩ := List.forall_mem_append.1 hlookups
  have hconstructor : RefersTo P Repository.constructor :=
    ⟨List.forall_mem_singleton.2 (h.framework (by simp [services])), nofun⟩
  have hgetRepository : RefersTo P (Repository.getRepository r) := ⟨nofun, h.framework (by simp [services])⟩
  have hget : RefersTo P (Repository.get config r) :=
    ⟨List.forall_mem_singleton.2 (h.idParameter hword), h.entity⟩
  have hgetBy : ∀ p ∈ single, RefersTo P (Repository.getBy config r p) := fun p hp =>
    ⟨List.forall_mem_singleton.2 (hsingle p hp), h.entity⟩
  have hgetAllBy : ∀ p ∈ multi, RefersTo P (Repository.getAllBy config r p) := fun p hp =>
    ⟨List.forall_mem_singleton.2 (hmulti p hp), word hword (by decide)⟩
  have hgetAll : RefersTo P (Repository.getAll r) := ⟨nofun, word hword (by decide)⟩
  have hquery : RefersTo P Repository.queryBuilderForAll ∧ RefersTo P Repository.queryBuilderForDataGrid :=
    ⟨⟨nofun, h.framework (by simp [services])⟩, ⟨nofun, h.framework (by simp [services])⟩⟩
  refine forall_mem_references (h.uses_repository fun p hp type htype _ => hlookups p hp type htype) nofun rfl
    nofun nofun ?_
  simp only [repositoryOf, Repository.methods, List.forall_mem_append, List.forall_mem_cons, List.forall_mem_map]
  refine ⟨⟨⟨⟨⟨hconstructor, hgetRepository, hget, nofun⟩, hgetBy⟩, hgetAllBy⟩, ?_⟩, hquery.1, hquery.2, nofun⟩
  exact forall_mem_ite (fun _ => List.forall_mem_singleton.2 hgetAll) nofun

lemma references_facade : ∀ name ∈ (Facade.unit config r).references, P name := by
  have hpromoted {name type : String} (htype : P type) : ∀ t ∈ (Facade.promoted name type).type, P t := by
    rintro _ ⟨⟩
    exact htype
  have hconstructor : RefersTo P (Facade.constructor r) := by
    refine ⟨List.forall_mem_append.2 ⟨?_, forall_mem_ite nofun fun hdispatched => ?_⟩, nofun⟩
    · simp only [List.forall_mem_cons]
      refine ⟨hpromoted (h.service _ (by simp [services])), hpromoted ?_, hpromoted ?_, nofun⟩
      · exact h.artifact _ (mem_artifacts_of_isFixed rfl)
      · exact h.artifact _ (mem_artifacts_of_isFixed rfl)
    · exact List.forall_mem_singleton.2 (hpromoted (h.service _ (by simp [services, hdispatched])))
  have hcreate : RefersTo P (Facade.create r) := ⟨List.forall_mem_singleton.2 h.dataParameter, h.entity⟩
  have hedit : RefersTo P (Facade.edit config r) :=
    ⟨List.forall_mem_cons.2 ⟨h.idParameter hword, List.forall_mem_singleton.2 h.dataParameter⟩, h.entity⟩
  have hdelete : RefersTo P (Facade.delete config r) :=
    ⟨List.forall_mem_singleton.2 (h.idParameter hword), word hword (by decide)⟩
  refine forall_mem_references h.uses_facade nofun rfl nofun nofun ?_
  simp only [Facade.unit, Facade.methods, List.forall_mem_append, List.forall_mem_cons]
  refine ⟨⟨⟨hconstructor, hcreate, nofun⟩, ?_⟩, ?_⟩
  · exact forall_mem_ite (fun _ => List.forall_mem_singleton.2 hedit) nofun
  · exact forall_mem_ite (fun _ => List.forall_mem_singleton.2 hdelete) nofun

end Covers

/-! ## All units -/

lemma covers_known (h : r.IsConsistent) : Covers config r (Known config r) where
  service := by
    have hservices : ∀ name ∈ services config r, name ∈ frameworkClasses := by
      unfold services
      split <;> split <;> decide
    exact fun name hname => .framework (hservices name hname)
  artifact := fun _ ha => .ofArtifact h ha

lemma isKnown_repository (h : r.IsConsistent) :
    ∀ name ∈ (unitAt config r .repository).references, Known config r name := by
  obtain ⟨single, multi, hlookups, hunit⟩ := exists_repository h config
  rw [unitAt_eq hunit]
  exact (covers_known h).references_repository (fun _ => .builtin)
    fun p hp type htype => .lookupParameter (hlookups p hp) htype

/-- Every name that a unit refers to is known. -/
theorem isKnown_of_mem_references (h : r.IsConsistent) (a : Artifact) :
    ∀ name ∈ (unitAt config r a).references, Known config r name := by
  cases a with
  | entity => exact isKnown_entity h
  | data => exact isKnown_data
  | factory => exact (covers_known h).references_factory
  | repository => exact isKnown_repository h
  | facade => exact (covers_known h).references_facade fun _ => .builtin
  | notFound => exact isKnown_notFound
  | event name => exact isKnown_event h name
  | dataFactory => exact (covers_known h).references_dataFactory fun _ => .builtin

end Scaffold

end EntityScaffold
