import EntityScaffold.Proofs.Scaffold.Siblings
/-!
# What a choice changes

A record is the answer to many questions, and eight generators read it.  Nothing in their types keeps one of them
from looking at an answer that is none of its business; that they do not is what `Part.reaches` says: it names, for
each part of a record that can be chosen on its own, the artifacts that may look different when the choice is
another one.

A part is taken out of a record by `Part.erase`, so that two records differ only in some parts if they are the same
once these are erased.  A generator that is out of reach makes the same unit of what is left (`unit_erase`), and
therefore of both records (`units_agree_out_of_reach`).  The events are a part twice, since the facade looks for
those of the lifecycle only.  Where the modifiers of a column have a number that cannot be shown, it is the entity that
fails, and there are no units to compare.
-/

namespace EntityScaffold

open Source Artifact

namespace Property

/-- A property without its default. -/
def withoutDefault (p : Property) : Property :=
  match p.kind with
  | .scalar type _ => { p with kind := .scalar type none }
  | .relation _ => p

/-- A property without the modifiers of its column, and without the expression that spells them out. -/
def withoutModifiers (p : Property) : Property := { p with expression := "", modifiers := {} }

/-- What two properties have in common when they differ in defaults or columns only. -/
structure SameValue (p q : Property) : Prop where
  name : p.name = q.name
  relation : p.relation? = q.relation?
  primitive : p.primitive? = q.primitive?
  nullable : p.nullable = q.nullable

lemma sameValue_withoutDefault (p : Property) : SameValue p.withoutDefault p := by
  obtain ⟨name, expression, kind, storage, nullable, modifiers⟩ := p
  cases kind with
  | scalar type default => exact ⟨rfl, rfl, rfl, rfl⟩
  | relation relation => exact ⟨rfl, rfl, rfl, rfl⟩

lemma sameValue_withoutModifiers (p : Property) : SameValue p.withoutModifiers p := ⟨rfl, rfl, rfl, rfl⟩

namespace SameValue

variable {p q : Property} (h : SameValue p q)

include h

lemma isRelation : p.isRelation = q.isRelation := by rw [Property.isRelation, h.relation, Property.isRelation]

lemma isCollection : p.isCollection = q.isCollection := by
  rw [Property.isCollection, h.relation, Property.isCollection]

lemma typeHint : p.typeHint = q.typeHint := by
  obtain ⟨-, hrelation, hprimitive, -⟩ := h
  unfold relation? at hrelation
  unfold primitive? at hprimitive
  unfold Property.typeHint
  cases hp : p.kind <;> cases hq : q.kind <;> simp_all

end SameValue

end Property

/-! ## Parts of a record -/

namespace Record

/-- A record with its properties retouched. -/
def retouch (r : Record) (φ : Property → Property) : Record := { r with properties := r.properties.map φ }

@[simp] lemma getBy_retouch (r : Record) (φ : Property → Property) : (r.retouch φ).getBy = r.getBy := rfl

@[simp] lemma getAllBy_retouch (r : Record) (φ : Property → Property) : (r.retouch φ).getAllBy = r.getAllBy := rfl

/-- The parts of a record that can be chosen one without the other. -/
inductive Part where
  /-- The lookups: the fields to look up by, and whether there is a lookup of every row. -/
  | lookups
  | traits
  | delete
  | edit
  | dataFactory
  | events
  /-- The events that are none of the lifecycle. -/
  | ownEvents
  | defaults
  /-- The modifiers of columns, and the expressions that spell them out. -/
  | modifiers
  deriving DecidableEq, Repr

namespace Part

/-- A record with nothing in a part. -/
def erase (r : Record) : Part → Record
  | .lookups => { r with getBy := [], getAllBy := [], features := { r.features with getAll := false } }
  | .traits => { r with traits := [] }
  | .delete => { r with features := { r.features with delete := false } }
  | .edit => { r with features := { r.features with edit := false } }
  | .dataFactory => { r with features := { r.features with dataFactory := false } }
  | .events => { r with events := [] }
  | .ownEvents => { r with events := lifecycle.filter r.events.contains }
  | .defaults => r.retouch (·.withoutDefault)
  | .modifiers => r.retouch (·.withoutModifiers)

/-- The artifacts that depend on a part, by what is in them or by being there at all. -/
def reaches : Part → Artifact → Bool
  | .lookups, .repository => true
  | .traits, .entity => true
  | .delete, .facade => true
  | .edit, .entity | .edit, .facade => true
  | .dataFactory, .dataFactory => true
  | .events, .facade | .events, .event _ => true
  | .ownEvents, .event _ => true
  | .defaults, .data | .defaults, .dataFactory => true
  | .modifiers, .entity => true
  | _, _ => false

end Part

/-- Whether an artifact depends on none of some parts. -/
def Part.spare (parts : List Part) (a : Artifact) : Bool := parts.all fun part => !part.reaches a

/-- A record with nothing in some parts. -/
def without (r : Record) (parts : List Part) : Record := parts.foldl Part.erase r

/-- Two records are the same but for some parts. -/
def DifferOnlyIn (parts : List Part) (r s : Record) : Prop := r.without parts = s.without parts

instance (parts : List Part) (r s : Record) : Decidable (DifferOnlyIn parts r s) :=
  inferInstanceAs (Decidable (_ = _))

end Record

/-! ## Retouched properties -/

namespace Property.SameValue

variable {p q : Property} (h : SameValue p q)

include h

lemma lookupParameter (config : Config) : lookupParameter config p = lookupParameter config q := by
  rw [Artifact.lookupParameter, h.isRelation, h.name, h.primitive, Artifact.lookupParameter]

lemma assignment : Entity.assignment p = Entity.assignment q := by
  rw [Entity.assignment, h.isCollection, h.name, Entity.assignment]

lemma copyBack : Entity.copyBack p = Entity.copyBack q := by
  rw [Entity.copyBack, h.isCollection, h.name, Entity.copyBack]

lemma emptyCollection : Entity.emptyCollection p = Entity.emptyCollection q := by
  rw [Entity.emptyCollection, h.name, Entity.emptyCollection]

lemma getter : Entity.getter p = Entity.getter q := by
  rw [Entity.getter, h.isCollection, h.name, h.nullable, h.typeHint, Entity.getter]

lemma getBy (config : Config) (r : Record) : Repository.getBy config r p = Repository.getBy config r q := by
  rw [Repository.getBy, h.lookupParameter, h.name, Repository.getBy]

lemma getAllBy (config : Config) (r : Record) : Repository.getAllBy config r p = Repository.getAllBy config r q := by
  rw [Repository.getAllBy, h.lookupParameter, h.name, Repository.getAllBy]

end Property.SameValue

section

variable {φ : Property → Property}

/-- What is made of each property is the same when it does not look at what was retouched. -/
lemma map_retouched {β : Type} {f : Property → β} (hf : ∀ p, f (φ p) = f p) (ps : List Property) :
    (ps.map φ).map f = ps.map f := by
  rw [List.map_map]
  exact List.map_congr_left fun p _ => hf p

/-- Properties are found under the same names when they keep their names. -/
lemma Record.propertiesOf_retouch (hname : ∀ p, (φ p).name = p.name) (r : Record) (names : List String) :
    (r.retouch φ).propertiesOf names = (r.propertiesOf names).map (List.map φ) := by
  have hproperty (name : String) : (r.retouch φ).property name = (r.property name).map φ := by
    have hfound : (r.properties.map φ).find? (·.name == name) = (r.properties.find? (·.name == name)).map φ := by
      rw [List.find?_map]
      simp only [Function.comp_def, hname]
    simp only [property, property?, retouch, hfound]
    cases r.properties.find? (·.name == name) <;> rfl
  induction names with
  | nil => rfl
  | cons name names ih =>
    simp only [propertiesOf] at ih
    simp only [propertiesOf, List.mapM_cons, ih, hproperty]
    cases r.property name with
    | error failure => rfl
    | ok p =>
      cases names.mapM r.property with
      | error failure => rfl
      | ok ps => rfl

end

namespace Scaffold

attribute [local irreducible] ClassName.qualify Config.usesUuid

open Record Property

variable {config : Config} {r s : Record} {a : Artifact} {part : Part} {parts : List Part}

/-! ## Generators out of reach -/

section

variable {φ : Property → Property} (hφ : ∀ p, SameValue (φ p) p)

include hφ

/-- The entity reads of properties what they hold and how they are mapped. -/
lemma entity_retouch (hmember : ∀ p, Entity.member r (φ p) = Entity.member r p) :
    Entity.unit config (r.retouch φ) = Entity.unit config r := by
  have hcollections : (r.properties.map φ).filter (·.isCollection) = (r.properties.filter (·.isCollection)).map φ := by
    simp only [List.filter_map, Function.comp_def, (hφ _).isCollection]
  have hempty : ((r.properties.map φ).filter (·.isCollection)).map Entity.emptyCollection =
      (r.properties.filter (·.isCollection)).map Entity.emptyCollection := by
    rw [hcollections, map_retouched fun p => (hφ p).emptyCollection]
  have hany : (r.properties.map φ).any (·.isCollection) = r.properties.any (·.isCollection) := by
    simp only [List.any_map, Function.comp_def, (hφ _).isCollection]
  have hmembers : (r.properties.map φ).map (Entity.member (r.retouch φ)) = r.properties.map (Entity.member r) :=
    map_retouched hmember r.properties
  have huses : Entity.uses config (r.retouch φ) = Entity.uses config r := by
    simp only [Entity.uses, retouch, hany, map_retouched fun p => (hφ p).typeHint, traitClasses]
  have hmethods : Entity.methods config (r.retouch φ) = Entity.methods config r := by
    simp only [Entity.methods, Entity.constructor, Entity.constructorBody, Entity.edit, Entity.getData,
      Entity.getDataBody, retouch, hempty, map_retouched fun p => (hφ p).assignment,
      map_retouched fun p => (hφ p).copyBack, map_retouched fun p => (hφ p).getter]
    rfl
  simp only [Entity.unit, huses, hmethods]
  rw [show (r.retouch φ).properties.map (Entity.member (r.retouch φ)) = _ from hmembers]
  rfl

/-- The entity is written from the columns, too. -/
lemma write_retouch (hmember : ∀ p, Entity.member r (φ p) = Entity.member r p)
    (hcolumn : ∀ p, Mapping.column (φ p) = Mapping.column p) :
    Entity.write config (r.retouch φ) = Entity.write config r := by
  have hcolumns : Entity.columns (r.retouch φ) = Entity.columns r := by
    simp only [Entity.columns, retouch, List.filter_map, List.mapM_map, Function.comp_def, (hφ _).isRelation, hcolumn]
  rw [Entity.write, hcolumns, entity_retouch hφ hmember]
  rfl

/-- The data object reads of properties what they hold and how they begin. -/
lemma data_retouch (hmember : ∀ p, Data.member (φ p) = Data.member p) :
    Data.unit (r.retouch φ) = Data.unit r := by
  have hmembers : (r.retouch φ).properties.map Data.member = r.properties.map Data.member :=
    map_retouched hmember r.properties
  have htypes : (r.retouch φ).properties.map (·.typeHint) = r.properties.map (·.typeHint) :=
    map_retouched (fun p => (hφ p).typeHint) r.properties
  rw [Data.unit, hmembers, htypes]
  rfl

/-- The data factory reads of properties their names and how to find their values. -/
lemma dataFactory_retouch (hvalue : ∀ p, DataFactory.formValue (φ p) = DataFactory.formValue p) :
    DataFactory.unit (r.retouch φ) = DataFactory.unit r := by
  have hbody : DataFactory.body (r.retouch φ) = DataFactory.body r := by
    simp only [DataFactory.body, retouch, List.map_map, Function.comp_def, hvalue, (hφ _).name]
    rfl
  rw [DataFactory.unit, hbody]
  rfl

/-- The repository reads of properties what they hold. -/
lemma repository_retouch : Repository.unit config (r.retouch φ) = Repository.unit config r := by
  have hmethods (single multi : List Property) :
      Repository.methods config (r.retouch φ) (single.map φ) (multi.map φ) =
        Repository.methods config r single multi := by
    have hsingle : (single.map φ).map (Repository.getBy config (r.retouch φ)) =
        single.map (Repository.getBy config r) :=
      map_retouched (fun p => (hφ p).getBy config r) single
    have hmulti : (multi.map φ).map (Repository.getAllBy config (r.retouch φ)) =
        multi.map (Repository.getAllBy config r) := map_retouched (fun p => (hφ p).getAllBy config r) multi
    rw [Repository.methods, hsingle, hmulti]
    rfl
  have huses (lookups : List Property) :
      Repository.uses config (r.retouch φ) (lookups.map φ) = Repository.uses config r lookups := by
    simp only [Repository.uses, List.filterMap_map, Function.comp_def, (hφ _).lookupParameter]
    rfl
  simp only [Repository.unit, propertiesOf_retouch fun p => (hφ p).name, getBy_retouch, getAllBy_retouch]
  cases r.propertiesOf r.getBy with
  | error failure => rfl
  | ok single =>
    cases r.propertiesOf r.getAllBy with
    | error failure => rfl
    | ok multi =>
      simp only [Except.map, ok_bind, ← List.map_append, huses, hmethods]
      rfl

end

lemma member_withoutDefault (r : Record) (p : Property) : Entity.member r p.withoutDefault = Entity.member r p := by
  obtain ⟨name, expression, kind, storage, nullable, modifiers⟩ := p
  cases kind <;> rfl

lemma column_withoutDefault (p : Property) : Mapping.column p.withoutDefault = Mapping.column p := by
  obtain ⟨name, expression, kind, storage, nullable, modifiers⟩ := p
  cases kind <;> rfl

/-- The facade asks for events of the lifecycle only, and these are kept. -/
lemma facade_erase_ownEvents (config : Config) (r : Record) :
    Facade.unit config (Part.erase r .ownEvents) = Facade.unit config r := by
  have hcontains {event : String} (hevent : event ∈ lifecycle) :
      (Part.erase r .ownEvents).events.contains event = r.events.contains event := by
    simp [Part.erase, hevent]
  have hdispatched : Facade.dispatched (Part.erase r .ownEvents) = Facade.dispatched r :=
    List.filter_congr fun event hevent => hcontains hevent
  have hdispatch {event : String} (hevent : event ∈ lifecycle) :
      Facade.dispatch (Part.erase r .ownEvents) event = Facade.dispatch r event := by
    rw [Facade.dispatch, hcontains hevent]
    rfl
  have huses : Facade.uses config (Part.erase r .ownEvents) = Facade.uses config r := by
    rw [Facade.uses, hdispatched]
    rfl
  have hconstructor : Facade.constructor (Part.erase r .ownEvents) = Facade.constructor r := by
    rw [Facade.constructor, hdispatched]
    rfl
  have hcreate : Facade.create (Part.erase r .ownEvents) = Facade.create r := by
    rw [Facade.create, Facade.createBody, hdispatch (by decide)]
    rfl
  have hedit : Facade.edit config (Part.erase r .ownEvents) = Facade.edit config r := by
    rw [Facade.edit, Facade.editBody, hdispatch (by decide)]
    rfl
  have hdelete : Facade.delete config (Part.erase r .ownEvents) = Facade.delete config r := by
    rw [Facade.delete, Facade.deleteBody, hdispatch (by decide)]
    rfl
  have hmethods : Facade.methods config (Part.erase r .ownEvents) = Facade.methods config r := by
    rw [Facade.methods, hconstructor, hcreate, hedit, hdelete]
    rfl
  rw [Facade.unit, huses, hmethods]
  rfl

/-- A generator makes the same of a record when what is out of its reach is erased. -/
theorem unit_erase (h : part.reaches a = false) : unit config (part.erase r) a = unit config r a := by
  cases part with
  | lookups | traits | delete | edit | events => cases a <;> first | rfl | cases h
  | dataFactory => cases a <;> rfl
  | ownEvents =>
    cases a with
    | facade => exact congrArg Except.ok (facade_erase_ownEvents config r)
    | _ => rfl
  | defaults =>
    cases a with
    | entity => exact write_retouch sameValue_withoutDefault (member_withoutDefault r) column_withoutDefault
    | repository => exact repository_retouch sameValue_withoutDefault
    | _ => first | rfl | cases h
  | modifiers =>
    cases a with
    | data => exact congrArg Except.ok (data_retouch sameValue_withoutModifiers fun _ => rfl)
    | dataFactory => exact congrArg Except.ok (dataFactory_retouch sameValue_withoutModifiers fun _ => rfl)
    | repository => exact repository_retouch sameValue_withoutModifiers
    | _ => first | rfl | cases h

/-- Erasing a part leaves all artifacts but those that depend on it. -/
lemma artifacts_erase (part : Part) (r : Record) :
    (artifacts (part.erase r)).filter (fun a => !part.reaches a) =
      (artifacts r).filter (fun a => !part.reaches a) := by
  have hevents (events : List String) (h : ∀ event, part.reaches (.event event) = true) :
      (events.map Artifact.event).filter (fun a => !part.reaches a) = [] := by
    refine List.filter_eq_nil_iff.2 (List.forall_mem_map.2 fun event _ => ?_)
    simp [h]
  cases part with
  | lookups | traits | delete | edit | defaults | modifiers => rfl
  | dataFactory =>
    unfold artifacts
    split <;> simp [Part.erase, Part.reaches, List.filter_append]
  | events | ownEvents =>
    simp only [artifacts, List.filter_append, hevents _ fun _ => rfl]
    rfl

/-! ## Two records -/

lemma unit_without (h : Part.spare parts a = true) : unit config (r.without parts) a = unit config r a := by
  induction parts generalizing r with
  | nil => rfl
  | cons part parts ih =>
    simp only [Part.spare, List.all_cons, Bool.and_eq_true, Bool.not_eq_true'] at h
    exact (ih h.2).trans (unit_erase h.1)

/-- The unit of a spared artifact is the same, and so is the failure where there is none. -/
lemma unit_of_differOnlyIn (config : Config) (h : DifferOnlyIn parts r s) (hspare : Part.spare parts a = true) :
    unit config r a = unit config s a := by
  rw [← unit_without hspare, h, unit_without hspare]

lemma artifacts_without (parts : List Part) (r : Record) :
    (artifacts (r.without parts)).filter (Part.spare parts) = (artifacts r).filter (Part.spare parts) := by
  induction parts generalizing r with
  | nil => rfl
  | cons part parts ih =>
    have hspare (as : List Artifact) : as.filter (Part.spare (part :: parts)) =
        (as.filter (Part.spare parts)).filter (fun a => !part.reaches a) := List.filter_filter.symm
    calc (artifacts ((part.erase r).without parts)).filter (Part.spare (part :: parts))
        = ((artifacts ((part.erase r).without parts)).filter (Part.spare parts)).filter (fun a => !part.reaches a) :=
          hspare _
      _ = ((artifacts (part.erase r)).filter (fun a => !part.reaches a)).filter (Part.spare parts) := by
          rw [ih, List.filter_comm]
      _ = ((artifacts r).filter (fun a => !part.reaches a)).filter (Part.spare parts) := by
          rw [artifacts_erase]
      _ = (artifacts r).filter (Part.spare (part :: parts)) := by
          rw [List.filter_comm, hspare]

/-- The units of spared artifacts are the same when two records differ only in some parts. -/
lemma spared_units_eq (config : Config) (hr : r.IsConsistent) (hrshown : ShowsNumbers r) (hs : s.IsConsistent)
    (hsshown : ShowsNumbers s) (h : DifferOnlyIn parts r s) :
    ((artifacts r).filter (Part.spare parts)).map (fun a => (a, unitAt config r a)) =
      ((artifacts s).filter (Part.spare parts)).map (fun a => (a, unitAt config s a)) := by
  have hartifacts : (artifacts r).filter (Part.spare parts) = (artifacts s).filter (Part.spare parts) := by
    rw [← artifacts_without parts r, h, artifacts_without]
  rw [hartifacts]
  refine List.map_congr_left fun a ha => ?_
  have hunit : unit config r a = unit config s a := unit_of_differOnlyIn config h (List.mem_filter.1 ha).2
  rw [unit_eq hr hrshown, unit_eq hs hsshown] at hunit
  rw [Except.ok.inj hunit]

/-- Events in common, as far as the lifecycle goes, are all that the facade needs. -/
lemma differOnlyIn_ownEvents (h : DifferOnlyIn [.events] r s)
    (hsame : ∀ event ∈ lifecycle, event ∈ r.events ↔ event ∈ s.events) : DifferOnlyIn [.ownEvents] r s := by
  have hevents : lifecycle.filter r.events.contains = lifecycle.filter s.events.contains := by
    refine List.filter_congr fun event hevent => ?_
    rw [Bool.eq_iff_iff, List.contains_iff_mem, List.contains_iff_mem, hsame event hevent]
  have hrest : { r with events := lifecycle.filter s.events.contains } =
      { s with events := lifecycle.filter s.events.contains } :=
    congrArg (fun t : Record => { t with events := lifecycle.filter s.events.contains }) h
  show { r with events := _ } = { s with events := _ }
  rw [hevents, hrest]

/-- The units of two records that differ in some parts are the same but for those that depend on these parts; and where
the events are such a part, the facade stays as it is as long as those of the lifecycle do.  A record with a number that
cannot be shown has no units; each unit that is spared is made in the same way even then, or fails in the same way. -/
theorem units_agree_out_of_reach (config : Config) (r s : Record) (hr : r.validate = .ok ())
    (hs : s.validate = .ok ()) :
    (∀ parts, DifferOnlyIn parts r s → ∀ a, Part.spare parts a = true → unit config r a = unit config s a) ∧
      (DifferOnlyIn [.events] r s → (∀ event ∈ lifecycle, event ∈ r.events ↔ event ∈ s.events) →
        unit config r .facade = unit config s .facade) ∧
      HasUnits config r fun us => HasUnits config s fun vs =>
        (∀ parts, DifferOnlyIn parts r s →
          us.filter (fun au => Part.spare parts au.1) = vs.filter (fun au => Part.spare parts au.1)) ∧
        (DifferOnlyIn [.events] r s → (∀ event ∈ lifecycle, event ∈ r.events ↔ event ∈ s.events) →
          us.filter (fun au => Part.spare [.ownEvents] au.1) = vs.filter (fun au => Part.spare [.ownEvents] au.1)) := by
  refine ⟨fun parts h a => unit_of_differOnlyIn config h,
    fun h hsame => unit_of_differOnlyIn config (differOnlyIn_ownEvents h hsame) rfl, ?_⟩
  by_cases hrshown : ShowsNumbers r
  swap
  · exact .inr ⟨hrshown, units_eq_error hr hrshown config⟩
  by_cases hsshown : ShowsNumbers s
  swap
  · exact hasUnits hr config (.inr ⟨hsshown, units_eq_error hs hsshown config⟩)
  have hspared {parts : List Part} (h : DifferOnlyIn parts r s) :
      ((artifacts r).map fun a => (a, unitAt config r a)).filter (fun au => Part.spare parts au.1) =
        ((artifacts s).map fun a => (a, unitAt config s a)).filter (fun au => Part.spare parts au.1) := by
    rw [List.filter_map, List.filter_map]
    exact spared_units_eq config (Record.isConsistent_of_validate hr) hrshown (Record.isConsistent_of_validate hs)
      hsshown h
  exact hasUnits hr config (hasUnits hs config
    ⟨fun parts => hspared, fun h hsame => hspared (differOnlyIn_ownEvents h hsame)⟩)

/-- A ticket with a subject of some length. -/
def ticket (length : Nat) : Record where
  space := "App\\Model"
  entityName := "Ticket"
  properties :=
    [{ name := "subject", expression := "string|" ++ toString length, kind := .scalar "string" none
       storage := some "string", nullable := false, modifiers := { length := some length } }]
  events := ["created"]

/-- A ticket that can be looked up by its subject and be escalated. -/
def escalatedTicket : Record := { ticket 80 with getBy := ["subject"], events := ["escalated", "created"] }

theorem escalation_reaches_three_units : (ticket 40).validate = .ok () ∧ escalatedTicket.validate = .ok () ∧
    DifferOnlyIn [.lookups, .ownEvents, .modifiers] (ticket 40) escalatedTicket ∧
      ∃ us vs, units {} (ticket 40) = .ok us ∧ units {} escalatedTicket = .ok vs ∧
        us.filter (fun au => Part.spare [.lookups, .ownEvents, .modifiers] au.1) =
          vs.filter (fun au => Part.spare [.lookups, .ownEvents, .modifiers] au.1) ∧
        (artifacts escalatedTicket).filter (Part.spare [.lookups, .ownEvents, .modifiers]) =
          [.data, .factory, .facade, .notFound, .dataFactory] := by
  have hr : (ticket 40).validate = .ok () := by decide
  have hs : escalatedTicket.validate = .ok () := by decide
  have hdiffer : DifferOnlyIn [.lookups, .ownEvents, .modifiers] (ticket 40) escalatedTicket := by decide
  obtain ⟨-, -, hunits⟩ := units_agree_out_of_reach {} (ticket 40) escalatedTicket hr hs
  obtain ⟨us, hus, -, hothers⟩ := hunits.exists_units (by decide +kernel)
  obtain ⟨vs, hvs, -, hspared, -⟩ := hothers.exists_units (by decide +kernel)
  exact ⟨hr, hs, hdiffer, us, vs, hus, hvs, hspared _ hdiffer, by decide⟩

end Scaffold

end EntityScaffold
