import EntityScaffold.Proofs.Scaffold.Calls
/-!
# The calls of the entity and its factories

The entity makes collections, converts them back, and edits itself when it is created; the factories create
the entity and its data object.  The constructor of the entity takes an identifier exactly where the factory
passes one.
-/

namespace EntityScaffold.Scaffold

open Source Artifact

attribute [local irreducible] ClassName.qualify Config.usesUuid

variable {config : Config} {r : Record} {p : Property} {scope : Scope}

/-! ## Members of the entity -/

/-- No property is called like the identifier. -/
theorem name_ne_id (h : r.IsConsistent) (hp : p ∈ r.properties) : p.name ≠ "id" := by
  intro hid
  have hname := h.names p hp
  rw [hid] at hname
  exact absurd hname (by decide +kernel)

lemma name_member (r : Record) (p : Property) : (Entity.member r p).name = p.name := by
  unfold Entity.member
  split
  · rfl
  · split <;> rfl

/-- The members of the entity are the identifier and the properties, in order. -/
theorem names_members (config : Config) (r : Record) :
    (Entity.unit config r).declaration.members.map (·.name) = "id" :: r.propertyNames := by
  have hnames : (r.properties.map (Entity.member r)).map (·.name) = r.propertyNames := by
    rw [List.map_map]
    exact List.map_congr_left fun p _ => name_member r p
  exact congrArg ("id" :: ·) hnames

lemma nodup_memberNames (h : r.IsConsistent) : ("id" :: r.propertyNames).Nodup := by
  refine List.nodup_cons.2 ⟨fun hid => ?_, ?_⟩
  · obtain ⟨p, hp, hname⟩ := List.mem_map.1 hid
    exact name_ne_id h hp hname
  · refine List.Nodup.of_map Text.lower ?_
    rw [Record.propertyNames, List.map_map]
    exact h.distinct

lemma nodup_members (h : r.IsConsistent) (config : Config) :
    ((Entity.unit config r).declaration.members.map (·.name)).Nodup := by
  rw [names_members]
  exact nodup_memberNames h

/-- A member that holds any number of entities is a collection. -/
lemma memberType?_collection (h : r.IsConsistent) (hp : p ∈ r.properties)
    (hcollection : p.isCollection = true) :
    (Entity.unit config r).declaration.memberType? p.name = some collection := by
  have hmem : Entity.member r p ∈ (Entity.unit config r).declaration.members :=
    List.mem_cons_of_mem _ (List.mem_map_of_mem hp)
  have htype : (Entity.member r p).type = some collection := by
    unfold Property.isCollection Property.relation? at hcollection
    unfold Entity.member
    split
    · next hkind => simp [hkind] at hcollection
    · next relation hkind =>
      have hmany : relation.kind.isToMany = true := by simpa [hkind] using hcollection
      rw [if_pos hmany]
  rw [← htype, ← Declaration.memberType?_of_mem (nodup_members h config) hmem, name_member]

/-! ## Bodies of the entity -/

/-- Where a property is a collection, the class of new collections is imported. -/
lemma linkedSite_arrayCollection (hp : p ∈ r.properties) (hcollection : p.isCollection = true)
    (arguments : Nat) :
    LinkedSite config r (Entity.unit config r) scope (.creation "ArrayCollection" arguments) := by
  have hany : r.properties.any (·.isCollection) = true := List.any_eq_true.2 ⟨p, hp, hcollection⟩
  refine Or.inr ⟨arrayCollection, mem_importsOf_iff.2 ⟨?_, by decide⟩, by decide, by decide +kernel⟩
  rw [if_pos hany]
  simp

/-- Taking over the value of a property. -/
lemma linkedSite_assignment (hp : p ∈ r.properties) :
    ∀ site ∈ (Entity.assignment p).calls, LinkedSite config r (Entity.unit config r) scope site := by
  unfold Entity.assignment
  split
  · next hcollection =>
    exact List.forall_mem_singleton.2 (linkedSite_arrayCollection hp hcollection 1)
  · nofun

lemma linked_assignments (config : Config) (r : Record) (scope : Scope) :
    Linked config r (Entity.unit config r) scope (r.properties.map Entity.assignment) := by
  rw [← List.append_nil (r.properties.map Entity.assignment)]
  refine linked_append ?_ ?_ linked_nil
  · exact List.forall_mem_map.2 fun _ _ => rfl
  · exact List.forall_mem_map.2 fun p hp => linkedSite_assignment hp

/-- What the entity calls of its own. -/
theorem declares_edit (hedit : r.features.edit = true) :
    (unitAt config r .entity).declaration.Declares "edit" 1 := by
  refine ⟨Entity.edit r, ?_, rfl⟩
  show (Entity.methods config r).find? _ = _
  rw [Entity.methods, if_pos hedit]
  rfl

/-- The constructor makes empty collections and edits the new entity, if it can be edited at all. -/
lemma linked_constructor_entity (h : r.IsConsistent) :
    LinkedMethod config r (unitAt config r .entity) (Entity.constructor config r) := by
  have hthis : ((Entity.constructor config r).parameters.map fun p => (p.name, p.type)).lookup "this" =
      none := by
    unfold Entity.constructor
    split <;> rfl
  refine linked_append (forall_mem_ite (fun _ => List.forall_mem_singleton.2 rfl) nofun)
    (forall_mem_ite (fun _ => List.forall_mem_singleton.2 nofun) nofun) ?_
  split
  · next hedit =>
    refine linked_append (List.forall_mem_map.2 fun _ _ => rfl) ?_ ?_
    · refine List.forall_mem_map.2 fun p hp => List.forall_mem_singleton.2 ?_
      obtain ⟨hp, hcollection⟩ := List.mem_filter.1 hp
      exact linkedSite_arrayCollection hp hcollection 0
    · refine linked_cons.2 ⟨List.forall_mem_singleton.2 ?_, linked_nil⟩
      exact linkedSite_this (a := .entity) h (mem_artifacts_of_isFixed rfl) hthis (declares_edit hedit)
  · exact linked_assignments config r _

/-- Reading back makes a data object, and lists of the collections. -/
lemma linked_getData (h : r.IsConsistent) :
    LinkedMethod config r (unitAt config r .entity) (Entity.getData r) := by
  refine linked_cons.2 ⟨List.forall_mem_singleton.2 ?_, linked_append ?_ ?_ ?_⟩
  · exact linkedSite_creation (a := .data) h (mem_artifacts_of_isFixed rfl) (.inr rfl) rfl
  · exact List.forall_mem_map.2 fun _ _ => rfl
  · refine List.forall_mem_map.2 fun p hp => ?_
    unfold Entity.copyBack
    split
    · next hcollection =>
      exact List.forall_mem_singleton.2 (linkedSite_own_foreign (c := collection) (by decide)
        (memberType?_collection h hp hcollection))
    · nofun
  · exact linked_of_noCalls (List.forall_mem_cons.2 ⟨rfl, List.forall_mem_singleton.2 rfl⟩)

lemma linked_entity (h : r.IsConsistent) :
    ∀ m ∈ (unitAt config r .entity).declaration.methods,
      LinkedMethod config r (unitAt config r .entity) m := by
  have hedit : LinkedMethod config r (unitAt config r .entity) (Entity.edit r) :=
    linked_assignments config r _
  have hgetId : LinkedMethod config r (unitAt config r .entity) (Entity.getId config) :=
    linked_of_noCalls (List.forall_mem_singleton.2 rfl)
  have hgetter (p : Property) : LinkedMethod config r (unitAt config r .entity) (Entity.getter p) :=
    linked_of_noCalls (List.forall_mem_singleton.2 rfl)
  show ∀ m ∈ Entity.methods config r, _
  unfold Entity.methods
  simp only [List.forall_mem_append, List.forall_mem_singleton, List.forall_mem_map]
  refine ⟨⟨⟨linked_constructor_entity h, forall_mem_ite (fun _ => ?_) nofun⟩, hgetId⟩,
    fun p _ => hgetter p⟩
  exact List.forall_mem_cons.2 ⟨hedit, List.forall_mem_singleton.2 (linked_getData h)⟩

/-! ## Factories -/

/-- The constructor of the entity takes an identifier under the UUID strategy only. -/
lemma constructorArity_entity (config : Config) (r : Record) :
    (unitAt config r .entity).declaration.constructorArity = if config.usesUuid then 2 else 1 := by
  show (Entity.constructor config r).parameters.length = _
  unfold Entity.constructor
  split <;> rfl

lemma linked_factory (h : r.IsConsistent) :
    ∀ m ∈ (unitAt config r .factory).declaration.methods,
      LinkedMethod config r (unitAt config r .factory) m := by
  refine List.forall_mem_singleton.2 (linked_cons.2 ⟨?_, linked_nil⟩)
  have hentity (arguments : Nat)
      (harity : (if config.usesUuid then 2 else 1) = arguments) :
      LinkedSite config r (unitAt config r .factory) [("data", some (r.qualifiedName .data))]
        (.creation (r.className .entity) arguments) := by
    refine linkedSite_creation (a := .entity) h (mem_artifacts_of_isFixed rfl) (.inr rfl) ?_
    rw [constructorArity_entity, harity]
  show ∀ site ∈ (Factory.creation config r).calls, _
  unfold Factory.creation
  by_cases huuid : config.usesUuid = true
  · have himport : (unitAt config r .factory).ImportsAs frameworkClasses "Uuid" := by
      refine ⟨uuidClass, ?_, by decide, by decide +kernel⟩
      show uuidClass ∈ if config.usesUuid then [uuidClass] else []
      rw [if_pos huuid]
      exact List.mem_singleton_self _
    rw [if_pos huuid]
    exact List.forall_mem_cons.2
      ⟨hentity 2 (if_pos huuid), List.forall_mem_singleton.2 himport⟩
  · rw [if_neg huuid]
    exact List.forall_mem_singleton.2 (hentity 1 (if_neg huuid))

lemma linked_dataFactory (h : r.IsConsistent) :
    ∀ m ∈ (unitAt config r .dataFactory).declaration.methods,
      LinkedMethod config r (unitAt config r .dataFactory) m := by
  refine List.forall_mem_singleton.2 (linked_cons.2 ⟨List.forall_mem_singleton.2 ?_, ?_⟩)
  · exact linkedSite_creation (a := .data) h (mem_artifacts_of_isFixed rfl) (.inr rfl) rfl
  · refine linked_of_noCalls (List.forall_mem_append.2 ⟨List.forall_mem_map.2 fun p _ => ?_, ?_⟩)
    · unfold DataFactory.formValue
      split <;> rfl
    · exact List.forall_mem_cons.2 ⟨rfl, List.forall_mem_singleton.2 rfl⟩

end EntityScaffold.Scaffold
