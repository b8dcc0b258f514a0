import EntityScaffold.Proofs.Naming.Words
import EntityScaffold.Proofs.Property
import EntityScaffold.Proofs.Record.Assembly
import EntityScaffold.Proofs.Scaffold.References
import EntityScaffold.Proofs.Source.Collisions
import EntityScaffold.Proofs.Source.Resolution
/-!
# The classes around an entity

A factory, a repository and a facade are made of classes of the framework and of artifacts of the same entity
(`IsPart`).  Whatever the entity is called, two of these have one short name only if one is the entity or its
repository and the other a class of the framework (`eq_of_sameName`): all other artifacts end like no class of the
framework, and differ from each other.  So there is one thing to know of such a file, which is that the entity is
not called like something it imports (`IsAround.collisionFree`, `IsAround.ne_entity`).
-/

namespace EntityScaffold.Scaffold

open Source Artifact Text ClassName SourceUnit

attribute [local irreducible] qualify Config.usesUuid

/-- The names that a record takes over as they were given can be names of classes. -/
structure HasProperNames (config : Config) (r : Record) : Prop where
  space : r.space = "" ∨ IsProper r.space
  entity : IsSegment r.entityName
  targets : ∀ p ∈ r.properties, ∀ relation ∈ p.relation?, IsProper relation.target
  traits : ∀ traitClass ∈ r.traitClasses, IsProper traitClass
  notFoundBase : IsProper (bare config.notFoundBase)
  eventBase : IsProper (bare config.eventBase)

variable {config : Config} {r : Record} {a b : Artifact} {u : SourceUnit} {c d type : String}

/-! ## Classes of the framework -/

/-- The classes that are used for what they are called, whatever the names of a record. -/
def fixedClasses : List String :=
  [entityManager, queryBuilder, objectRepository, uuidClass, eventDispatcher, uuidInterface, "DateTime",
    "DateTimeImmutable"]

/-- Their short names in lower case. -/
def fixedNames : List String :=
  ["entitymanagerinterface", "querybuilder", "objectrepository", "uuid", "eventdispatcherinterface",
    "uuidinterface", "datetime", "datetimeimmutable"]

lemma map_name_fixedClasses : fixedClasses.map (fun c => foldCase (shortName c)) = fixedNames := by
  decide

lemma name_mem_fixedNames (hc : c ∈ fixedClasses) : foldCase (shortName c) ∈ fixedNames := by
  rw [← map_name_fixedClasses]
  exact List.mem_map_of_mem hc

lemma isProper_of_fixed : ∀ c ∈ fixedClasses, IsProper c := by decide

lemma eq_of_fixed (hc : c ∈ fixedClasses) (hd : d ∈ fixedClasses)
    (heq : foldCase (shortName c) = foldCase (shortName d)) : c = d := by
  have hnodup : (fixedClasses.map fun c => foldCase (shortName c)).Nodup := by
    rw [map_name_fixedClasses]
    decide
  exact List.inj_on_of_nodup_map hnodup hc hd heq

lemma name_objectRepository : foldCase (shortName objectRepository) = "object" ++ foldCase "Repository" := by
  decide

/-- Of what class names of artifacts end with, only one is the end of a name in the framework. -/
lemma not_tail_suffix_fixed (hc : c ∈ fixedClasses) (ha : a ≠ .entity)
    (h : (foldCase a.tail).toList <:+ (foldCase (shortName c)).toList) :
    c = objectRepository ∧ a = .repository := by
  have hname := name_mem_fixedNames hc
  have htails : ∀ name ∈ fixedNames, ∀ tail ∈ ["Data", "Factory", "Facade", "Exception", "Event"],
      ¬ (foldCase tail).toList <:+ name.toList := by decide
  have hrepository : ∀ name ∈ fixedNames, (foldCase "Repository").toList <:+ name.toList →
      name = "object" ++ foldCase "Repository" := by decide
  cases a with
  | entity => exact absurd rfl ha
  | repository =>
    refine ⟨eq_of_fixed hc (by simp [fixedClasses]) ?_, rfl⟩
    rw [name_objectRepository]
    exact hrepository _ hname h
  | _ => exact absurd h (htails _ hname _ (by simp [Artifact.tail]))

lemma not_builtin_of_fixed {name : String} (hc : c ∈ fixedClasses)
    (heq : foldCase (shortName c) = foldCase name) : lower name ∉ builtinTypes := by
  have hwords : ∀ name ∈ fixedNames, name ∉ builtinTypes ∧ ∀ d ∈ name.toList, d.toNat < 128 := by decide
  obtain ⟨hword, hascii⟩ := hwords _ (name_mem_fixedNames hc)
  rw [lower_of_foldCase_ascii (heq ▸ hascii), ← heq]
  exact hword

/-! ## Names of artifacts -/

lemma className_entity (r : Record) : r.className .entity = r.entityName := by
  simp [Record.className, Artifact.ending]

/-- What is known of the classes of a record. -/
structure HasClassNames (config : Config) (r : Record) : Prop extends HasProperNames config r where
  valid : r.validate = .ok ()
  primitives : ∀ p ∈ r.properties, ∀ type ∈ p.primitive?, type ∈ scalarTypes ∨ type ∈ fixedClasses

lemma HasProperNames.hasClassNames (h : HasProperNames config r) (hr : r.validate = .ok ())
    (hbuilt : ∀ p ∈ r.properties, p.IsBuilt) : HasClassNames config r := by
  have hprimitives : ∀ entry ∈ primitives, entry.2.hint ∈ scalarTypes ∨ entry.2.hint ∈ fixedClasses := by
    decide
  refine { h with valid := hr, primitives := fun p hp type htype => ?_ }
  obtain ⟨-, ⟨keyword, primitive, default, hkeyword, hkind, -⟩ | ⟨relation, hkind, -⟩⟩ := (hbuilt p hp).cases
  · have htype : primitive.hint = type := by simpa [Property.primitive?, hkind] using htype
    exact htype ▸ hprimitives _ hkeyword
  · simp [Property.primitive?, hkind] at htype

namespace HasClassNames

variable (h : HasClassNames config r)

include h

lemma isSegment_className (ha : a ∈ artifacts r) : IsSegment (r.className a) := by
  have hchar {c : Char} (hc : isIdentifierChar c = true) : c ≠ '\\' ∧ isBlank c = false :=
    Naming.of_isIdentifierChar (P := fun c => c ≠ '\\' ∧ isBlank c = false) (by decide) hc
  refine ⟨fun hempty => h.entity.1 (String.append_eq_empty_iff.1 hempty).1, fun c hc => ?_⟩
  rw [Record.className, String.toList_append, List.mem_append] at hc
  exact hc.elim (h.entity.2 c) fun hc => hchar (isIdentifierChar_ending (Record.stems_of_validate h.valid).1 ha c hc)

lemma isProper_spaceOf (a : Artifact) : r.spaceOf a = "" ∨ IsProper (r.spaceOf a) := by
  cases a with
  | notFound => exact .inr (isProper_qualify h.space (by decide)).1
  | event name => exact .inr (isProper_qualify h.space (by decide)).1
  | _ => exact h.space

/-- The class of an artifact is a proper name, put together from its namespace and its short name. -/
theorem isProper_qualifiedName (ha : a ∈ artifacts r) : IsProper (r.qualifiedName a) ∧
    namespaceOf (r.qualifiedName a) = r.spaceOf a ∧ shortName (r.qualifiedName a) = r.className a :=
  isProper_qualify (h.isProper_spaceOf a) (h.isSegment_className ha)

lemma eq_of_className (ha : a ∈ artifacts r) (hb : b ∈ artifacts r)
    (heq : foldCase (r.className a) = foldCase (r.className b)) : a = b := by
  obtain ⟨hstems, hnodup⟩ := Record.stems_of_validate h.valid
  let front : Artifact → String := fun _ => ""
  have heq : foldCase (front a ++ (r.entityName ++ a.ending)) = foldCase (front b ++ (r.entityName ++ b.ending)) := by
    simpa only [front, String.empty_append, Record.className] using heq
  exact eq_of_sharesStem hnodup hstems ha hb (Artifact.sharesStem_of_foldCase rfl (fun _ _ _ => rfl) heq)

end HasClassNames

/-! ## Classes around the entity -/

/-- The classes that appear in the factory, the repository and the facade. -/
inductive IsPart (r : Record) : String → Prop
  | fixed {c : String} (h : c ∈ fixedClasses) : IsPart r c
  | artifact {a : Artifact} (ha : a ∈ artifacts r) : IsPart r (r.qualifiedName a)

namespace HasClassNames

variable (h : HasClassNames config r)

include h

lemma isProper_of_isPart (hc : IsPart r c) : IsProper c := by
  cases hc with
  | fixed hc => exact isProper_of_fixed c hc
  | artifact ha => exact (h.isProper_qualifiedName ha).1

/-- Different classes with one name are the entity or its repository, and a class of the framework. -/
theorem eq_of_sameName (hc : IsPart r c) (hforeign : namespaceOf c ≠ r.space) (hd : IsPart r d)
    (heq : foldCase (shortName c) = foldCase (shortName d)) :
    c = d ∨ c ∈ fixedClasses ∧
      (d = r.qualifiedName .entity ∨ c = objectRepository ∧ d = r.qualifiedName .repository) := by
  cases hc with
  | fixed hc =>
    cases hd with
    | fixed hd => exact .inl (eq_of_fixed hc hd heq)
    | @artifact a ha =>
      by_cases hentity : a = .entity
      · exact .inr ⟨hc, .inl (by rw [hentity])⟩
      · rw [(h.isProper_qualifiedName ha).2.2] at heq
        obtain ⟨hfixed, hrepository⟩ := not_tail_suffix_fixed hc hentity (Artifact.tail_suffix heq)
        exact .inr ⟨hc, .inr ⟨hfixed, by rw [hrepository]⟩⟩
  | @artifact a ha =>
    rw [(h.isProper_qualifiedName ha).2.1] at hforeign
    rw [(h.isProper_qualifiedName ha).2.2] at heq
    cases hd with
    | fixed hd =>
      -- an artifact of another namespace is the exception or an event
      have hentity : a ≠ .entity := by
        rintro rfl
        exact hforeign rfl
      obtain ⟨-, hrepository⟩ := not_tail_suffix_fixed hd hentity (Artifact.tail_suffix heq.symm)
      rw [hrepository] at hforeign
      exact absurd rfl hforeign
    | artifact hb =>
      rw [(h.isProper_qualifiedName hb).2.2] at heq
      rw [h.eq_of_className ha hb heq]
      exact .inl rfl

/-- An artifact of another namespace is not the entity, and not called like it. -/
lemma name_ne_entity (ha : a ∈ artifacts r) (hforeign : namespaceOf (r.qualifiedName a) ≠ r.space) :
    foldCase (shortName (r.qualifiedName a)) ≠ foldCase r.entityName := by
  obtain ⟨-, hspace, hname⟩ := h.isProper_qualifiedName ha
  rw [hspace] at hforeign
  rw [hname, ← className_entity]
  intro heq
  have hentity : a = .entity := h.eq_of_className ha (mem_artifacts_of_isFixed rfl) heq
  rw [hentity] at hforeign
  exact hforeign rfl

end HasClassNames

/-- A unit next to the entity class that is made of parts. -/
structure IsAround (r : Record) (a : Artifact) (u : SourceUnit) : Prop where
  mem : a ∈ artifacts r
  own : r.spaceOf a = r.space
  space : u.space = r.space
  name : u.declaration.name = r.className a
  uses : ∀ c ∈ u.uses, IsPart r c
  types : ∀ c ∈ u.types, c ∈ builtinTypes ∨ IsPart r c

namespace IsAround

variable (h : HasClassNames config r) (hu : IsAround r a u)

include hu

lemma isPart_classes : ∀ c ∈ u.classes, IsPart r c := by
  have hbuiltin : ∀ word ∈ builtinTypes, lower word ∈ builtinTypes := by decide
  intro c hc
  obtain ⟨htype, hword⟩ := mem_classes_iff.1 hc
  exact (hu.types c htype).resolve_left fun hmem => hword (hbuiltin c hmem)

include h

lemma isProper_uses : ∀ c ∈ u.uses, IsProper c := fun c hc => h.isProper_of_isPart (hu.uses c hc)

theorem collisionFree
    (himports : ∀ c ∈ u.uses, namespaceOf c ≠ r.space → foldCase (shortName c) ≠ foldCase r.entityName)
    (hobject : namespaceOf objectRepository ≠ r.space → foldCase r.entityName ≠ "object") : u.CollisionFree := by
  rw [collisionFree_iff_of_isProper (hu.isProper_uses h), hu.space, hu.name]
  intro c hc hforeign
  have hsame {d : String} (hd : IsPart r d) (heq : foldCase (shortName c) = foldCase (shortName d)) : c = d := by
    obtain hcd | ⟨-, rfl | ⟨rfl, rfl⟩⟩ := h.eq_of_sameName (hu.uses c hc) hforeign hd heq
    · exact hcd
    · rw [(h.isProper_qualifiedName (mem_artifacts_of_isFixed (a := .entity) rfl)).2.2, className_entity] at heq
      exact absurd heq (himports c hc hforeign)
    · rw [(h.isProper_qualifiedName (mem_artifacts_of_isFixed (a := .repository) rfl)).2.2, name_objectRepository,
        Record.className, foldCase_append] at heq
      exact absurd ((String.append_left_inj _).1 heq).symm (hobject hforeign)
  -- an import from another namespace is neither the declared class nor one of the same namespace
  refine ⟨fun d hd _ => hsame (hu.uses d hd), fun heq => ?_, fun d hd hspace heq => ?_⟩
  · obtain ⟨-, hspace, hname⟩ := h.isProper_qualifiedName hu.mem
    rw [← hname] at heq
    rw [hsame (.artifact hu.mem) heq, hspace] at hforeign
    exact hforeign hu.own
  · rw [hsame (hu.isPart_classes d hd) heq] at hforeign
    exact hforeign hspace

/-- Free of collisions, such a unit imports nothing that is called like the entity that it refers to. -/
theorem ne_entity (hentity : r.qualifiedName .entity ∈ u.types) (hfree : u.CollisionFree) :
    ∀ c ∈ u.uses, namespaceOf c ≠ r.space → foldCase (shortName c) ≠ foldCase r.entityName := by
  obtain ⟨hproper, hspace, hname⟩ := h.isProper_qualifiedName (mem_artifacts_of_isFixed (a := .entity) rfl)
  rw [className_entity] at hname
  rw [collisionFree_iff_of_isProper (hu.isProper_uses h), hu.space] at hfree
  intro c hc hforeign
  cases hu.uses c hc with
  | artifact ha => exact h.name_ne_entity ha hforeign
  | fixed hfixed =>
    intro heq
    -- called like a class of the framework, the entity is not taken for a builtin word
    have hclass : r.qualifiedName .entity ∈ u.classes := by
      refine mem_classes_iff.2 ⟨hentity, lower_notMem_builtinTypes hproper fun _ => ?_⟩
      rw [hname]
      exact not_builtin_of_fixed hfixed heq
    refine (hfree c hc hforeign).2.2 _ hclass hspace ?_
    rw [hname, heq]

end IsAround

/-! ## Factory, repository and facade -/

lemma covers_isPart : Covers config r (IsPart r) where
  service := by
    have hservices : ∀ name ∈ services config r, name ∈ fixedClasses := by
      unfold services
      split <;> split <;> decide
    exact fun name hname => .fixed (hservices name hname)
  artifact := fun _ => .artifact

lemma covers_types : Covers config r fun c => c ∈ builtinTypes ∨ IsPart r c where
  service := fun c hc => .inr (covers_isPart.service c hc)
  artifact := fun _ ha => .inr (.artifact ha)

lemma mem_references_of_mem_types (hc : c ∈ u.types) : c ∈ u.references := by
  unfold types at hc
  unfold references
  simp only [List.mem_append] at hc ⊢
  tauto

lemma isAround_factory : IsAround r .factory (Factory.unit config r) where
  mem := mem_artifacts_of_isFixed rfl
  own := rfl
  space := rfl
  name := rfl
  uses := covers_isPart.uses_factory
  types := fun c hc => covers_types.references_factory c (mem_references_of_mem_types hc)

lemma isAround_facade : IsAround r .facade (Facade.unit config r) where
  mem := mem_artifacts_of_isFixed rfl
  own := rfl
  space := rfl
  name := rfl
  uses := covers_isPart.uses_facade
  types := fun c hc => covers_types.references_facade (fun _ => .inl) c (mem_references_of_mem_types hc)

lemma isAround_dataFactory (ha : .dataFactory ∈ artifacts r) : IsAround r .dataFactory (DataFactory.unit r) where
  mem := ha
  own := rfl
  space := rfl
  name := rfl
  uses := nofun
  types := by
    intro c hc
    have hc : c = "array" ∨ c = r.qualifiedName .data := by
      simpa [types, DataFactory.unit] using hc
    rcases hc with rfl | rfl
    · exact .inl (by decide)
    · exact .inr (.artifact (mem_artifacts_of_isFixed rfl))

lemma mem_uses_of_mem_services (single multi : List Property) (hc : c ∈ services config r)
    (hforeign : namespaceOf c ≠ r.space) : c ∈ (Factory.unit config r).uses ∨
      c ∈ (repositoryOf config r single multi).uses ∨ c ∈ (Facade.unit config r).uses := by
  have hrepository (hmem : c ∈ [entityManager, queryBuilder, objectRepository] ∨
      c ∈ foreignClasses [config.idTypeHint] r.space) (hne : c ≠ "") :
      c ∈ (repositoryOf config r single multi).uses := by
    refine mem_importsOf_iff.2 ⟨?_, hne⟩
    simp only [List.mem_append, List.mem_cons, List.not_mem_nil, or_false] at hmem ⊢
    rcases hmem with (hmem | hmem | hmem) | hmem
    · exact .inl (.inl (.inr (.inl hmem)))
    · exact .inl (.inl (.inr (.inr hmem)))
    · exact .inr (.inr hmem)
    · exact .inl (.inr hmem)
  unfold services at hc
  rcases List.mem_append.1 hc with hc | hc
  · rcases List.mem_append.1 hc with hc | hc
    · have hne : ∀ name ∈ [entityManager, queryBuilder, objectRepository], name ≠ "" := by decide
      exact .inr (.inl (hrepository (.inl hc) (hne c hc)))
    · split at hc
      · next huuid =>
        rcases List.mem_pair.1 hc with rfl | rfl
        · exact .inl (by simp [Factory.unit, huuid])
        · have hhint : config.idTypeHint = uuidInterface := if_pos huuid
          have hclass : isClassType uuidInterface = true := by decide
          refine .inr (.inl (hrepository (.inr ?_) (by decide)))
          simp [foreignClasses, hhint, hclass, hforeign]
      · cases hc
  · split at hc
    · cases hc
    · next hdispatched =>
      obtain rfl := List.mem_singleton.1 hc
      refine .inr (.inr (mem_importsOf_iff.2 ⟨?_, by decide⟩))
      simp [hdispatched]

namespace HasClassNames

variable (h : HasClassNames config r) {single multi : List Property}

include h

lemma lookupType {p : Property} (hp : p ∈ r.properties) (htype : type ∈ (lookupParameter config p).type) :
    type ∈ scalarTypes ∨ type ∈ fixedClasses := by
  obtain rfl | hprimitive := lookupParameter_cases htype
  · unfold Config.idTypeHint
    split
    · exact .inr (by decide)
    · exact .inl (by decide)
  · exact h.primitives p hp type hprimitive

lemma isAround_repository (hlookups : ∀ p ∈ single ++ multi, p ∈ r.properties) :
    IsAround r .repository (repositoryOf config r single multi) where
  mem := mem_artifacts_of_isFixed rfl
  own := rfl
  space := rfl
  name := rfl
  uses := by
    refine covers_isPart.uses_repository fun p hp type htype hclass => .fixed ?_
    refine (h.lookupType (hlookups p hp) htype).resolve_left fun hscalar => ?_
    simp [isClassType, hscalar] at hclass
  types := by
    have hscalar : ∀ type ∈ scalarTypes, type ∈ builtinTypes := by decide
    refine fun c hc => covers_types.references_repository (fun _ => .inl) (fun p hp type htype => ?_) c
      (mem_references_of_mem_types hc)
    exact (h.lookupType (hlookups p hp) htype).imp (hscalar type) .fixed

lemma ne_object (hlookups : ∀ p ∈ single ++ multi, p ∈ r.properties)
    (hfree : (repositoryOf config r single multi).CollisionFree) (hforeign : namespaceOf objectRepository ≠ r.space) :
    foldCase r.entityName ≠ "object" := by
  have hmem : objectRepository ∈ (repositoryOf config r single multi).uses := by
    simp [repositoryOf, Repository.uses, mem_importsOf_iff, objectRepository]
  rw [collisionFree_iff_of_isProper ((h.isAround_repository hlookups).isProper_uses h)] at hfree
  intro heq
  refine (hfree _ hmem hforeign).2.1 ?_
  show _ = foldCase (r.entityName ++ "Repository")
  rw [foldCase_append, heq, name_objectRepository]

end HasClassNames

end EntityScaffold.Scaffold
