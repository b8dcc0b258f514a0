import EntityScaffold.Proofs.Scaffold.Parts
/-!
# When names in generated files collide

Nothing that is checked of a record keeps two imports of one file from having one short name, or an import from
being called like the class that the file declares.  `NamesApart` lists what would have to be checked, and
`files_are_collisionFree_iff` says that it is exactly this: the imports of the entity class against each other,
against the entity and against the classes next to it, and the classes of the framework and the two bases against
the names of the entity.  An entity called `Event` with any event is the simplest one to fail
(`event_named_event_collides`).

Most of this is about the entity class.  The data object imports nothing else, and the classes around the entity
are those of `Parts`.
-/

namespace EntityScaffold.Scaffold

open Source Artifact Text ClassName SourceUnit

attribute [local irreducible] qualify Config.usesUuid

/-! ## Conditions -/

/-- The type of the member and the getter of a property. -/
def valueType (p : Property) : String := if p.isCollection then collection else p.typeHint

/-- The imports of the entity class without that of the mapping. -/
def entityUses (config : Config) (r : Record) : List String :=
  (if r.properties.any (·.isCollection) then [collection, arrayCollection] else []) ++
    foreignClasses [config.idTypeHint] r.space ++ foreignClasses (r.properties.map (·.typeHint)) r.space ++
      r.traitClasses

/-- The types in the entity class. -/
def entityTypes (config : Config) (r : Record) : List String :=
  [r.qualifiedName .data, config.idTypeHint] ++ r.properties.map valueType ++ r.traitClasses

/-- The classes from other namespaces that the entity class imports. -/
def entityImports (config : Config) (r : Record) : List String :=
  (entityUses config r).filter fun c => namespaceOf c != r.space

/-- The classes of its own namespace that the entity class refers to. -/
def entityNeighbours (config : Config) (r : Record) : List String :=
  (entityTypes config r).filter fun c => !builtinTypes.contains (lower c) && namespaceOf c == r.space

/-- The classes of the framework from other namespaces that the classes around the entity import. -/
def serviceImports (config : Config) (r : Record) : List String :=
  (services config r).filter fun c => namespaceOf c != r.space

/-- What has to be known of the names of a record for its files to be free of collisions. -/
structure NamesApart (config : Config) (r : Record) : Prop where
  imports : ∀ c ∈ entityImports config r, ∀ d ∈ entityImports config r,
    foldCase (shortName c) = foldCase (shortName d) → c = d
  neighbours : ∀ c ∈ entityImports config r, ∀ d ∈ entityNeighbours config r,
    foldCase (shortName c) ≠ foldCase (shortName d)
  entity : ∀ c ∈ entityImports config r ++ serviceImports config r,
    foldCase (shortName c) ≠ foldCase r.entityName
  mapping : ∀ name ∈ r.entityName :: (entityImports config r ++ entityNeighbours config r).map shortName,
    foldCase name ≠ "orm"
  repository : namespaceOf objectRepository ≠ r.space → foldCase r.entityName ≠ "object"
  notFound : namespaceOf (bare config.notFoundBase) ≠ r.spaceOf .notFound →
    foldCase (shortName (bare config.notFoundBase)) ≠ foldCase (r.className .notFound)
  entityOfEvent : r.events ≠ [] → foldCase (shortName (bare config.eventBase)) = foldCase r.entityName →
    bare config.eventBase = r.qualifiedName .entity
  event : ∀ event ∈ r.events, namespaceOf (bare config.eventBase) ≠ r.spaceOf (.event event) →
    foldCase (shortName (bare config.eventBase)) ≠ foldCase (r.className (.event event))

variable {config : Config} {r : Record} {a : Artifact} {u : SourceUnit} {c type : String}

/-! ## The entity class -/

lemma type_member (r : Record) (p : Property) : (Entity.member r p).type = some (valueType p) := by
  unfold Entity.member valueType Property.isCollection Property.relation? Property.typeHint
  cases p.kind with
  | scalar type default => simp
  | relation relation => cases htoMany : relation.kind.isToMany <;> simp [htoMany]

lemma mem_types_entity : type ∈ (Entity.unit config r).types ↔
    type ∈ entityTypes config r ∨ r.features.edit = true ∧ type = "void" := by
  have hgetters : (r.properties.map Entity.getter).flatMap (fun m =>
      m.parameters.filterMap (·.type) ++ m.returnType.toList) = r.properties.map valueType := by
    rw [List.flatMap_map, List.map_eq_flatMap]
    rfl
  have hmembers : (r.properties.map (Entity.member r)).filterMap (·.type) = r.properties.map valueType := by
    simp [List.filterMap_map, type_member]
  simp only [types, Entity.unit, Entity.methods, Entity.constructor, List.flatMap_append, hgetters, List.filterMap_cons,
    hmembers, entityTypes]
  by_cases huuid : config.usesUuid <;> by_cases hedit : r.features.edit <;>
    simp [huuid, hedit, Entity.idMember, Entity.edit, Entity.getData, Entity.getId, dataParameter, idParameter,
      -List.mem_map] <;>
    tauto

/-- The classes next to the entity are those of its namespace in the types of its class. -/
lemma mem_entityNeighbours_iff :
    c ∈ entityNeighbours config r ↔ c ∈ (Entity.unit config r).classes ∧ namespaceOf c = r.space := by
  have hvoid : lower "void" ∈ builtinTypes := by decide
  rw [mem_classes_iff, mem_types_entity, entityNeighbours, List.mem_filter, Bool.and_eq_true, Bool.not_eq_true',
    beq_iff_eq, ← Bool.not_eq_true, List.contains_iff_mem]
  constructor
  · rintro ⟨hc, hword, hspace⟩
    exact ⟨⟨.inl hc, hword⟩, hspace⟩
  · rintro ⟨⟨hc | ⟨-, rfl⟩, hword⟩, hspace⟩
    · exact ⟨hc, hword, hspace⟩
    · exact absurd hvoid hword

lemma mem_entityImports_iff : c ∈ entityImports config r ↔ c ∈ entityUses config r ∧ namespaceOf c ≠ r.space := by
  rw [entityImports, List.mem_filter, bne_iff_ne]

lemma isProper_idTypeHint : IsProper config.idTypeHint := by
  unfold Config.idTypeHint
  split <;> decide

namespace HasClassNames

variable (h : HasClassNames config r)

include h

lemma isProper_typeHint : ∀ type ∈ r.properties.map (·.typeHint), IsProper type := by
  have hscalar : ∀ type ∈ scalarTypes, IsProper type := by decide
  refine List.forall_mem_map.2 fun p hp => ?_
  cases hkind : p.kind with
  | scalar type default =>
    have htype : p.typeHint = type := by rw [Property.typeHint, hkind]
    have hprimitive := h.primitives p hp type (by rw [Property.primitive?, hkind]; rfl)
    rw [htype]
    exact hprimitive.elim (hscalar type) (isProper_of_fixed type)
  | relation relation =>
    have htype : p.typeHint = relation.target := by rw [Property.typeHint, hkind]
    rw [htype]
    exact h.targets p hp relation (by rw [Property.relation?, hkind]; rfl)

lemma isProper_entityUses : ∀ c ∈ entityUses config r, IsProper c := by
  have hcollections : ∀ c ∈ [collection, arrayCollection], IsProper c := by decide
  unfold entityUses
  simp only [List.forall_mem_append]
  refine ⟨⟨⟨forall_mem_ite (fun _ => hcollections) nofun, fun c hc => ?_⟩, fun c hc => ?_⟩, h.traits⟩
  · rw [List.mem_singleton.1 (mem_of_mem_foreignClasses hc)]
    exact isProper_idTypeHint
  · exact h.isProper_typeHint c (mem_of_mem_foreignClasses hc)

lemma isProper_entityTypes : ∀ c ∈ entityTypes config r, IsProper c := by
  unfold entityTypes
  simp only [List.forall_mem_append, List.forall_mem_cons]
  refine ⟨⟨⟨(h.isProper_qualifiedName (mem_artifacts_of_isFixed (a := .data) rfl)).1, isProper_idTypeHint, nofun⟩,
    List.forall_mem_map.2 fun p hp => ?_⟩, h.traits⟩
  unfold valueType
  split
  · decide
  · exact h.isProper_typeHint _ (List.mem_map_of_mem hp)

lemma mem_uses_entity {entry : String} : entry ∈ (Entity.unit config r).uses ↔
    entry = "Doctrine\\ORM\\Mapping" ++ " as " ++ "ORM" ∨ entry ∈ entityUses config r := by
  have hmapping : mappingImport = "Doctrine\\ORM\\Mapping" ++ " as " ++ "ORM" := by decide
  have huses : (Entity.unit config r).uses = importsOf (mappingImport :: entityUses config r) := by
    simp [Entity.unit, Entity.uses, entityUses]
  rw [huses, mem_importsOf_iff, List.mem_cons, hmapping]
  refine and_iff_left_of_imp fun hentry => ?_
  rcases hentry with rfl | hentry
  · decide
  · exact ne_empty_of_isProper (h.isProper_entityUses entry hentry)

lemma entity_collisionFree_iff : (Entity.unit config r).CollisionFree ↔
    (∀ c ∈ entityImports config r, ∀ d ∈ entityImports config r,
      foldCase (shortName c) = foldCase (shortName d) → c = d) ∧
    (∀ c ∈ entityImports config r, foldCase (shortName c) ≠ foldCase r.entityName) ∧
    (∀ c ∈ entityImports config r, ∀ d ∈ entityNeighbours config r,
      foldCase (shortName c) ≠ foldCase (shortName d)) ∧
    ∀ name ∈ r.entityName :: (entityImports config r ++ entityNeighbours config r).map shortName,
      foldCase name ≠ "orm" := by
  have htarget : IsProper "Doctrine\\ORM\\Mapping" := by decide
  have hname : IsSegment "ORM" := by decide
  have horm : foldCase "ORM" = "orm" := by decide
  have hspace : (Entity.unit config r).space = r.space := rfl
  have hdeclared : (Entity.unit config r).declaration.name = r.entityName := className_entity r
  rw [collisionFree_alias_iff htarget hname h.isProper_entityUses fun _ => h.mem_uses_entity,
    collisionFree_iff_of_isProper (u := { Entity.unit config r with uses := entityUses config r })
      h.isProper_entityUses]
  -- the class that the alias stands for is not called like the alias, so it need not be left out
  have hmapping : foldCase (shortName "Doctrine\\ORM\\Mapping") ≠ "orm" := by decide
  simp only [hspace, hdeclared, horm, List.forall_mem_cons, List.forall_mem_map, List.forall_mem_append,
    mem_entityImports_iff, mem_entityNeighbours_iff]
  constructor
  · rintro ⟨hplain, himports, hentity, hneighbours⟩
    refine ⟨fun c hc d hd => (hplain c hc.1 hc.2).1 d hd.1 hd.2, fun c hc => (hplain c hc.1 hc.2).2.1,
      fun c hc d hd => (hplain c hc.1 hc.2).2.2 d hd.1 hd.2, hentity.symm,
      fun c hc => (himports c hc.1 hc.2).symm, fun c hc => ?_⟩
    by_cases htarget : "Doctrine\\ORM\\Mapping" = c
    · rwa [← htarget]
    · exact (hneighbours c hc.1 hc.2 htarget).symm
  · rintro ⟨himports, hentity, hneighbours, hdeclared, himports', hneighbours'⟩
    refine ⟨fun c hc hforeign => ⟨fun d hd hforeign' => himports c ⟨hc, hforeign⟩ d ⟨hd, hforeign'⟩,
      hentity c ⟨hc, hforeign⟩, fun d hd hspace => hneighbours c ⟨hc, hforeign⟩ d ⟨hd, hspace⟩⟩,
      fun c hc hforeign => (himports' c ⟨hc, hforeign⟩).symm, hdeclared.symm,
      fun c hc hspace _ => (hneighbours' c ⟨hc, hspace⟩).symm⟩

/-! ## The data object -/

omit h in
lemma mem_entityUses_of_data (hc : c ∈ (Data.unit r).uses) : c ∈ entityUses config r := by
  have hforeign := (mem_importsOf_iff.1 hc).1
  unfold entityUses
  simp [hforeign]

omit h in
lemma mem_entityTypes_of_data (hc : c ∈ (Data.unit r).classes) : c ∈ entityTypes config r := by
  obtain ⟨htype, hword⟩ := mem_classes_iff.1 hc
  have hmember : ∃ p ∈ r.properties, (Data.member p).type = some c := by
    simpa [types, Data.unit] using htype
  obtain ⟨p, hp, hmember⟩ := hmember
  have hvalue : valueType p = c := by
    unfold Data.member at hmember
    unfold valueType
    split at hmember
    · cases hmember
      exact absurd (by decide) hword
    · next hsingle =>
      rw [if_neg hsingle]
      exact Option.some.inj hmember
  simp only [entityTypes, List.mem_append, List.mem_map]
  exact .inl (.inr ⟨p, hp, hvalue⟩)

lemma data_mem_entityNeighbours : r.qualifiedName .data ∈ entityNeighbours config r := by
  have hends : ∀ word ∈ builtinTypes, ¬ (foldCase "Data").toList <:+ word.toList := by decide
  obtain ⟨hproper, hspace, hname⟩ := h.isProper_qualifiedName (mem_artifacts_of_isFixed (a := .data) rfl)
  refine mem_entityNeighbours_iff.2 ⟨mem_classes_iff.2 ⟨mem_types_entity.2 (.inl (by simp [entityTypes])), ?_⟩, hspace⟩
  -- the name of the entity may be anything, but no builtin word ends like that of its data object
  refine lower_notMem_builtinTypes hproper fun _ hword => hends _ hword ?_
  obtain ⟨front, hlower⟩ := exists_lower_append r.entityName (t := "Data") (by decide)
  rw [hname]
  show _ <:+ (lower (r.entityName ++ "Data")).toList
  rw [hlower, String.toList_append]
  exact List.suffix_append _ _

/-- The data object imports a part of what the entity class imports. -/
lemma data_collisionFree (hentity : (Entity.unit config r).CollisionFree) : (Data.unit r).CollisionFree := by
  obtain ⟨himports, -, hneighbours, -⟩ := h.entity_collisionFree_iff.1 hentity
  have hclasses {c : String} (hc : c ∈ (Data.unit r).classes) (hspace : namespaceOf c = r.space) :
      c ∈ entityNeighbours config r := by
    have htype : c ∈ (Entity.unit config r).types := mem_types_entity.2 (.inl (mem_entityTypes_of_data hc))
    exact mem_entityNeighbours_iff.2 ⟨mem_classes_iff.2 ⟨htype, (mem_classes_iff.1 hc).2⟩, hspace⟩
  rw [collisionFree_iff_of_isProper fun c hc => h.isProper_entityUses c (mem_entityUses_of_data hc)]
  intro c hc hforeign
  have himport : c ∈ entityImports config r := mem_entityImports_iff.2 ⟨mem_entityUses_of_data hc, hforeign⟩
  have hdata := hneighbours c himport _ h.data_mem_entityNeighbours
  rw [(h.isProper_qualifiedName (mem_artifacts_of_isFixed (a := .data) rfl)).2.2] at hdata
  exact ⟨fun d hd hforeign' => himports c himport d (mem_entityImports_iff.2 ⟨mem_entityUses_of_data hd, hforeign'⟩),
    hdata, fun d hd hspace => hneighbours c himport d (hclasses hd hspace)⟩

/-! ## Exception and events -/

omit h in
lemma eq_of_mem_classes_notFound (hc : c ∈ (NotFound.unit config r).classes) : c = bare config.notFoundBase := by
  simpa [types, NotFound.unit] using (mem_classes_iff.1 hc).1

omit h in
lemma mem_classes_event {event : String} (hc : c ∈ (Event.unit config r event).classes) :
    c = bare config.eventBase ∨ c = r.qualifiedName .entity := by
  simpa [types, Event.unit, Event.methods] using (mem_classes_iff.1 hc).1

lemma notFound_collisionFree_iff : (NotFound.unit config r).CollisionFree ↔
    (namespaceOf (bare config.notFoundBase) ≠ r.spaceOf .notFound →
      foldCase (shortName (bare config.notFoundBase)) ≠ foldCase (r.className .notFound)) := by
  rw [collisionFree_iff_of_isProper (u := NotFound.unit config r) (List.forall_mem_singleton.2 h.notFoundBase)]
  constructor
  · intro hfree hforeign
    exact (hfree _ List.mem_cons_self hforeign).2.1
  · intro hname c hc hforeign
    obtain rfl := List.mem_singleton.1 hc
    refine ⟨fun d hd _ _ => (List.mem_singleton.1 hd).symm, hname hforeign, fun d hd hspace => ?_⟩
    rw [eq_of_mem_classes_notFound hd] at hspace
    exact absurd hspace hforeign

lemma spaceOf_event_ne (event : String) : r.spaceOf (.event event) ≠ "" ∧ r.spaceOf (.event event) ≠ r.space := by
  have hevent : IsSegment "Event" := by decide
  refine ⟨ne_empty_of_isProper (isProper_qualify h.space hevent).1, fun heq => ?_⟩
  have heq : qualify r.space "Event" = r.space := heq
  rcases h.space with hspace | hspace
  · rw [hspace, qualify_of_bare_eq_empty (by decide)] at heq
    exact absurd heq (by decide)
  · have hbare := bare_of_isProper hspace
    rw [qualify_of_bare_ne_empty (by rw [hbare]; exact ne_empty_of_isProper hspace), hbare] at heq
    have hlength := congrArg String.length heq
    have hevent : "Event".length = 5 := rfl
    simp only [String.length_append] at hlength
    omega

/-- An event imports the entity and its base. -/
lemma event_collisionFree_iff {event : String} (hevent : event ∈ r.events) :
    (Event.unit config r event).CollisionFree ↔
      (foldCase (shortName (bare config.eventBase)) = foldCase r.entityName →
        bare config.eventBase = r.qualifiedName .entity) ∧
      (namespaceOf (bare config.eventBase) ≠ r.spaceOf (.event event) →
        foldCase (shortName (bare config.eventBase)) ≠ foldCase (r.className (.event event))) := by
  have hentity : .entity ∈ artifacts r := mem_artifacts_of_isFixed rfl
  obtain ⟨hproper, hspace, hname⟩ := h.isProper_qualifiedName hentity
  obtain ⟨hnonempty, hother⟩ := h.spaceOf_event_ne event
  -- events have a namespace of their own, so the entity is imported whatever its namespace
  have hforeign : namespaceOf (r.qualifiedName .entity) ≠ r.spaceOf (.event event) := by
    rw [hspace]
    exact hother.symm
  have hdeclared : foldCase (r.className .entity) ≠ foldCase (r.className (.event event)) := by
    intro heq
    cases h.eq_of_className hentity (event_mem_artifacts hevent) heq
  rw [className_entity] at hname hdeclared
  have huses : ∀ {c}, c ∈ (Event.unit config r event).uses ↔
      c = r.qualifiedName .entity ∨ c = bare config.eventBase := List.mem_pair
  have hunit : (Event.unit config r event).space = r.spaceOf (.event event) ∧
      (Event.unit config r event).declaration.name = r.className (.event event) := ⟨rfl, rfl⟩
  rw [collisionFree_iff_of_isProper (u := Event.unit config r event)
    (List.forall_mem_cons.2 ⟨hproper, List.forall_mem_singleton.2 h.eventBase⟩), hunit.1, hunit.2]
  constructor
  · intro hfree
    refine ⟨fun heq => ?_, fun hbase => (hfree _ (huses.2 (.inr rfl)) hbase).2.1⟩
    have hfirst := hfree _ (huses.2 (.inl rfl)) hforeign
    rw [hname, ← heq] at hfirst
    by_cases hbase : namespaceOf (bare config.eventBase) = r.spaceOf (.event event)
    · have hclass : bare config.eventBase ∈ (Event.unit config r event).classes := by
        refine mem_classes_iff.2 ⟨by simp [types, Event.unit], lower_notMem_builtinTypes h.eventBase fun hempty => ?_⟩
        exact absurd (hbase.symm.trans hempty) hnonempty
      exact absurd rfl (hfirst.2.2 _ hclass hbase)
    · exact (hfirst.1 _ (huses.2 (.inr rfl)) hbase rfl).symm
  · rintro ⟨hsame, hbase⟩ c hc hc'
    have hown : ∀ d ∈ (Event.unit config r event).classes, namespaceOf d = r.spaceOf (.event event) →
        d = bare config.eventBase := by
      intro d hd hd'
      refine (mem_classes_event hd).resolve_right fun heq => ?_
      rw [heq] at hd'
      exact hforeign hd'
    rcases huses.1 hc with rfl | rfl
    · rw [hname]
      refine ⟨fun d hd _ heq => ?_, hdeclared, fun d hd hd' heq => ?_⟩
      · rcases huses.1 hd with rfl | rfl
        · rfl
        · exact (hsame heq.symm).symm
      · rw [hown d hd hd'] at heq hd'
        rw [hsame heq.symm] at hd'
        exact hforeign hd'
    · refine ⟨fun d hd _ heq => ?_, hbase hc', fun d hd hd' => ?_⟩
      · rcases huses.1 hd with rfl | rfl
        · rw [hname] at heq
          exact hsame heq
        · rfl
      · rw [hown d hd hd'] at hd'
        exact absurd hd' hc'

/-! ## All units -/

lemma isProper_unitAt (hr : r.IsConsistent) (ha : a ∈ artifacts r) :
    (∀ entry ∈ (unitAt config r a).uses, IsEntry entry) ∧ ∀ c ∈ (unitAt config r a).classes, IsProper c := by
  have haround {a : Artifact} {u : SourceUnit} (hu : IsAround r a u) :
      (∀ entry ∈ u.uses, IsEntry entry) ∧ ∀ c ∈ u.classes, IsProper c :=
    ⟨fun c hc => .plain (hu.isProper_uses h c hc), fun c hc => h.isProper_of_isPart (hu.isPart_classes c hc)⟩
  have hentity := (h.isProper_qualifiedName (mem_artifacts_of_isFixed (a := .entity) rfl)).1
  cases a with
  | entity =>
    have hvoid : IsProper "void" := by decide
    refine ⟨fun entry hentry => ?_, fun c hc => ?_⟩
    · obtain rfl | hentry := h.mem_uses_entity.1 hentry
      · exact .aliased (by decide) (by decide)
      · exact .plain (h.isProper_entityUses entry hentry)
    · obtain hc | ⟨-, rfl⟩ := mem_types_entity.1 (mem_classes_iff.1 hc).1
      · exact h.isProper_entityTypes c hc
      · exact hvoid
  | data =>
    exact ⟨fun c hc => .plain (h.isProper_entityUses c (mem_entityUses_of_data hc)),
      fun c hc => h.isProper_entityTypes c (mem_entityTypes_of_data hc)⟩
  | factory => exact haround isAround_factory
  | repository =>
    obtain ⟨single, multi, hlookups, hunit⟩ := exists_repository hr config
    rw [unitAt_eq hunit]
    exact haround (h.isAround_repository hlookups)
  | facade => exact haround isAround_facade
  | notFound =>
    refine ⟨List.forall_mem_singleton.2 (.plain h.notFoundBase), fun c hc => ?_⟩
    rw [eq_of_mem_classes_notFound hc]
    exact h.notFoundBase
  | event name =>
    refine ⟨List.forall_mem_cons.2 ⟨.plain hentity, List.forall_mem_singleton.2 (.plain h.eventBase)⟩, fun c hc => ?_⟩
    obtain rfl | rfl := mem_classes_event hc
    · exact h.eventBase
    · exact hentity
  | dataFactory => exact haround (isAround_dataFactory ha)

lemma namesApart_of_collisionFree (hr : r.IsConsistent)
    (hfree : ∀ a ∈ artifacts r, (unitAt config r a).CollisionFree) : NamesApart config r := by
  have hentity := hfree .entity (mem_artifacts_of_isFixed rfl)
  have hfactory := hfree .factory (mem_artifacts_of_isFixed rfl)
  have hrepository := hfree .repository (mem_artifacts_of_isFixed rfl)
  have hfacade := hfree .facade (mem_artifacts_of_isFixed rfl)
  have hnotFound := hfree .notFound (mem_artifacts_of_isFixed rfl)
  obtain ⟨himports, hentity, hneighbours, hmapping⟩ := h.entity_collisionFree_iff.1 hentity
  obtain ⟨single, multi, hlookups, hunit⟩ := exists_repository hr config
  rw [unitAt_eq hunit] at hrepository
  have hservices : ∀ c ∈ services config r, namespaceOf c ≠ r.space →
      foldCase (shortName c) ≠ foldCase r.entityName := by
    intro c hc hforeign
    rcases mem_uses_of_mem_services single multi hc hforeign with hc | hc | hc
    · exact isAround_factory.ne_entity h (by simp [types, Factory.unit, Factory.create]) hfactory c hc hforeign
    · exact (h.isAround_repository hlookups).ne_entity h
        (by simp [types, repositoryOf, Repository.methods, Repository.get, Repository.single]) hrepository c hc hforeign
    · exact isAround_facade.ne_entity h (by simp [types, Facade.unit, Facade.methods, Facade.create]) hfacade c hc
        hforeign
  exact {
    imports := himports
    neighbours := hneighbours
    entity := by
      refine List.forall_mem_append.2 ⟨hentity, fun c hc => ?_⟩
      obtain ⟨hservice, hforeign⟩ := List.mem_filter.1 hc
      exact hservices c hservice (bne_iff_ne.1 hforeign)
    mapping := hmapping
    repository := h.ne_object hlookups hrepository
    notFound := h.notFound_collisionFree_iff.1 hnotFound
    entityOfEvent := by
      intro hne
      obtain ⟨event, hevent⟩ := List.exists_mem_of_ne_nil _ hne
      exact ((h.event_collisionFree_iff hevent).1 (hfree _ (event_mem_artifacts hevent))).1
    event := fun event hevent =>
      ((h.event_collisionFree_iff hevent).1 (hfree _ (event_mem_artifacts hevent))).2 }

lemma collisionFree_of_namesApart (hr : r.IsConsistent) (hapart : NamesApart config r) (ha : a ∈ artifacts r) :
    (unitAt config r a).CollisionFree := by
  have hentity : (Entity.unit config r).CollisionFree :=
    h.entity_collisionFree_iff.2 ⟨hapart.imports, (List.forall_mem_append.1 hapart.entity).1, hapart.neighbours,
      hapart.mapping⟩
  have hcovers : Covers config r fun c => namespaceOf c ≠ r.space → foldCase (shortName c) ≠ foldCase r.entityName := {
    service := fun c hc hforeign =>
      hapart.entity c (List.mem_append_right _ (List.mem_filter.2 ⟨hc, bne_iff_ne.2 hforeign⟩))
    artifact := fun a ha => h.name_ne_entity ha }
  cases a with
  | entity => exact hentity
  | data => exact h.data_collisionFree hentity
  | factory => exact isAround_factory.collisionFree h hcovers.uses_factory hapart.repository
  | repository =>
    obtain ⟨single, multi, hlookups, hunit⟩ := exists_repository hr config
    rw [unitAt_eq hunit]
    refine (h.isAround_repository hlookups).collisionFree h (hcovers.uses_repository ?_) hapart.repository
    intro p hp type htype hclass hforeign
    have hmem {hints : List String} (hhint : type ∈ hints) : type ∈ foreignClasses hints r.space :=
      List.mem_filter.2 ⟨hhint, by simp [hclass, hforeign]⟩
    refine (List.forall_mem_append.1 hapart.entity).1 type (mem_entityImports_iff.2 ⟨?_, hforeign⟩)
    simp only [entityUses, List.mem_append]
    obtain hid | hprimitive := lookupParameter_cases htype
    · exact .inl (.inl (.inr (hmem (List.mem_singleton.2 hid))))
    · have hhint : type ∈ r.properties.map (·.typeHint) :=
        List.mem_map.2 ⟨p, hlookups p hp, typeHint_of_primitive hprimitive⟩
      exact .inl (.inr (hmem hhint))
  | facade => exact isAround_facade.collisionFree h hcovers.uses_facade hapart.repository
  | notFound => exact h.notFound_collisionFree_iff.2 hapart.notFound
  | event name =>
    have hevent := mem_events_of_mem_artifacts ha
    exact (h.event_collisionFree_iff hevent).2
      ⟨hapart.entityOfEvent (List.ne_nil_of_mem hevent), hapart.event name hevent⟩
  | dataFactory => exact (isAround_dataFactory ha).collisionFree h nofun hapart.repository

end HasClassNames

/-- The files of an assembled record are free of collisions exactly where its names are apart, and then no two
classes are printed alike in one of them. -/
theorem files_are_collisionFree_iff (config : Config) (draft : Draft) (r : Record)
    (hr : draft.assemble config = .ok r) (hbuilt : ∀ p ∈ r.properties, p.IsBuilt) (hnames : HasProperNames config r) :
    ∃ us, units config r = .ok us ∧ us.map (·.1) = artifacts r ∧
      ((∀ au ∈ us, au.2.CollisionFree) ↔ NamesApart config r) ∧
        ∀ au ∈ us, au.2.CollisionFree → ∀ c ∈ au.2.classes, ∀ d ∈ au.2.classes,
          au.2.plainType c = au.2.plainType d → c = d := by
  have hvalid := Draft.validate_of_assemble hr
  have hconsistent := Record.isConsistent_of_validate hvalid
  have h := hnames.hasClassNames hvalid hbuilt
  refine (hasUnits hvalid config ⟨⟨fun hfree => ?_, fun hapart => ?_⟩, ?_⟩).exists_units
    (showsNumbers_of_isBuilt hbuilt)
  · exact h.namesApart_of_collisionFree hconsistent (forall_units_iff.1 hfree)
  · exact List.forall_mem_map.2 fun a ha => h.collisionFree_of_namesApart hconsistent hapart ha
  · refine List.forall_mem_map.2 fun a ha hfree => ?_
    obtain ⟨hentries, hproper⟩ := h.isProper_unitAt hconsistent ha
    exact fun c hc d hd => hfree.eq_of_plainType hentries hproper hc hd

/-- A parcel of a customer from another namespace, with labels of its own. -/
def parcel : Draft where
  space := "App\\Model"
  entityName := "Parcel"
  properties :=
    [{ name := "sender", expression := "Customer", storage := none, nullable := false, modifiers := {}
       kind := .relation (.build "Shop\\Customer" .manyToOne false none false) },
      { name := "labels", expression := "Label", storage := none, nullable := false, modifiers := {}
        kind := .relation (.build "App\\Model\\Label" .oneToMany false none false) }]
  events := .text "created"

/-- The record of a parcel. -/
def parcelRecord : Record where
  space := "App\\Model"
  entityName := "Parcel"
  properties := parcel.properties
  events := ["created"]
  traits := [("Timestampable", "Gedmo\\Timestampable\\Traits\\TimestampableEntity")]

theorem parcel_files_are_collisionFree_iff : parcel.assemble {} = .ok parcelRecord ∧
    ∃ us, units {} parcelRecord = .ok us ∧ us.map (·.1) = artifacts parcelRecord ∧
      ((∀ au ∈ us, au.2.CollisionFree) ↔ NamesApart {} parcelRecord) ∧
        ∀ au ∈ us, au.2.CollisionFree → ∀ c ∈ au.2.classes, ∀ d ∈ au.2.classes,
          au.2.plainType c = au.2.plainType d → c = d := by
  let reader : TypeReader :=
    ⟨.make ["App\\Model", "Shop"] ["App\\Model\\Label", "Shop\\Customer"] none ".php" (.empty []), []⟩
  have hassembled : parcel.assemble {} = .ok parcelRecord := by decide
  have hbuilt : ∀ p ∈ parcelRecord.properties, p.IsBuilt := by
    refine List.forall_mem_cons.2 ⟨?_, List.forall_mem_singleton.2 ?_⟩
    · exact ⟨reader, "Customer", ⟨.entity "Customer" "Shop\\Customer", false, {}⟩,
        some (.build "Shop\\Customer" .manyToOne false none false), none, by decide, by decide⟩
    · exact ⟨reader, "Label", ⟨.entity "Label" "App\\Model\\Label", false, {}⟩,
        some (.build "App\\Model\\Label" .oneToMany false none false), none, by decide, by decide⟩
  have hnames : HasProperNames {} parcelRecord :=
    ⟨by decide, by decide, by decide, by decide, by decide,
      by decide⟩
  exact ⟨hassembled, files_are_collisionFree_iff {} parcel parcelRecord hassembled hbuilt hnames⟩

/-- An event in the calendar. -/
def calendarEvent : Draft where
  space := "App\\Model"
  entityName := "Event"
  properties :=
    [{ name := "title", expression := "string", kind := .scalar "string" none, storage := some "string"
       nullable := false, modifiers := {} }]
  events := .text "created"

/-- The record of an event in the calendar. -/
def calendarEventRecord : Record where
  space := "App\\Model"
  entityName := "Event"
  properties := calendarEvent.properties
  events := ["created"]
  traits := [("Timestampable", "Gedmo\\Timestampable\\Traits\\TimestampableEntity")]

/-- The class of its event imports the entity and the base of all events under one name. -/
theorem event_named_event_collides : calendarEvent.assemble {} = .ok calendarEventRecord ∧
    (∀ p ∈ calendarEventRecord.properties, p.IsBuilt) ∧
      ∃ us, units {} calendarEventRecord = .ok us ∧ ∃ au ∈ us, ¬ au.2.CollisionFree := by
  let reader : TypeReader := ⟨.make ["App\\Model"] [] none ".php" (.empty []), []⟩
  have hassembled : calendarEvent.assemble {} = .ok calendarEventRecord := by decide
  have hbuilt : ∀ p ∈ calendarEventRecord.properties, p.IsBuilt :=
    List.forall_mem_singleton.2 ⟨reader, "string", ⟨.scalar ⟨"string", "string"⟩, false, {}⟩, none, none,
      by decide, by decide⟩
  have hnames : HasProperNames {} calendarEventRecord :=
    ⟨by decide, by decide, by decide, by decide, by decide,
      by decide⟩
  have hvalid := Draft.validate_of_assemble hassembled
  have h := hnames.hasClassNames hvalid hbuilt
  have hevent : "created" ∈ calendarEventRecord.events := List.mem_singleton.2 rfl
  refine ⟨hassembled, hbuilt, _, units_eq hvalid (showsNumbers_of_isBuilt hbuilt) {}, _,
    List.mem_map_of_mem (event_mem_artifacts hevent), fun hfree => ?_⟩
  have hname : foldCase (shortName (bare ({} : Config).eventBase)) = foldCase calendarEventRecord.entityName := by
    decide
  have hbase : bare ({} : Config).eventBase ≠ calendarEventRecord.qualifiedName .entity := by decide +kernel
  exact hbase (((h.event_collisionFree_iff hevent).1 hfree).1 hname)

end EntityScaffold.Scaffold
