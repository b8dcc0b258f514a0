import EntityScaffold.Proofs.Scaffold.Collisions
/-!
# Imports are complete

The imports of a unit are put together apart from the signatures and bodies that need them, under conditions of
their own: whether there is a collection, which events are dispatched, which features are selected, and which
namespace a class lives in.  A class that is missing among them would be printed rooted in a type, and be taken for a
class of the own namespace in a body.

Neither happens (`imports_are_complete`).  For the types this is one statement about all names in a unit,
`reaches_of_mem_references`.  The bodies name classes by short names, so which class is meant has to be said:
`namedClasses` lists the classes that the bodies of an artifact name.
-/

namespace EntityScaffold

open Source Artifact Text ClassName

namespace Source

/-! ## Classes that bodies name -/

namespace Expr

mutual

/-- The short names of classes in an expression. -/
def classNames : Expr → List String
  | .member object _ => object.classNames
  | .item array _ => array.classNames
  | .call object _ args => object.classNames ++ classNamesOfArgs args
  | .staticCall className _ => [className]
  | .create className args => className :: classNamesOfArgs args
  | .classOf className => [className]
  | .orElse value _ => value.classNames
  | .var _ | .text _ => []

/-- The short names of classes in the arguments of a call. -/
def classNamesOfArgs : List Expr → List String
  | [] => []
  | e :: rest => e.classNames ++ classNamesOfArgs rest

end

end Expr

/-- The short names of classes in a statement; a line that is kept as it stands may name anything. -/
def Statement.classNames : Statement → List String
  | .assign target value => target.classNames ++ value.classNames
  | .run e | .give e => e.classNames
  | .note className _ => [className]
  | .throwIfNull _ exceptionClass => [exceptionClass]
  | .line text => [text]
  | .find .. | .blank => []

/-- The short names of classes in the body of a method. -/
def Method.classNames (m : Method) : List String := m.body.flatMap Statement.classNames

end Source

namespace SourceUnit

/-- The short names of classes in the bodies of a unit. -/
def bodyNames (u : SourceUnit) : List String := u.declaration.methods.flatMap (·.classNames)

/-- A file can name a class by its short name: the class lives in its namespace, or is the target of a `use` line. -/
def Provides (u : SourceUnit) (c : String) : Prop :=
  namespaceOf c = u.space ∨ ∃ line ∈ u.importLines, UseClause.read? line = some ⟨c, shortName c⟩

/-- A type of a unit need not be rooted: it is a builtin word, a class of the unit's namespace, or imported. -/
def Reaches (u : SourceUnit) (c : String) : Prop :=
  lower c ∈ builtinTypes ∨ namespaceOf c = u.space ∨ c ∈ u.uses

variable {u : SourceUnit} {c : String}

/-- What is in reach is printed without a backslash. -/
lemma noBackslash_printType (hentries : ∀ entry ∈ u.uses, IsEntry entry)
    (hproper : lower c ∉ builtinTypes → IsProper c) (h : u.Reaches c) (nullable : Bool) :
    '\\' ∉ (u.printType (some c) nullable).toList := by
  have hwords : ∀ word ∈ builtinTypes, '\\' ∉ word.toList := by decide
  have hsegment {name : String} (hname : IsSegment name) : '\\' ∉ name.toList := fun hmem => (hname.2 _ hmem).1 rfl
  have hplain : '\\' ∉ (u.plainType c).toList := by
    have hprinted := u.isPlain_plainType c
    generalize u.plainType c = printed at hprinted ⊢
    cases hprinted with
    | builtin hword => exact hwords _ hword
    | imported _ hentry => exact hsegment (hentries _ hentry).read.2
    | own hclass =>
      rw [bare_of_isProper (hproper hclass)]
      exact hsegment (isSegment_shortName (hproper hclass))
    | rooted hclass hmissing hspace =>
      rw [bare_of_isProper (hproper hclass)] at hmissing hspace
      rcases h with hword | hown | huse
      · exact absurd hword hclass
      · exact absurd hown hspace
      · exact absurd (read_of_isProper (hproper hclass)).1 (hmissing c huse)
  have hmarked : '\\' ∉ ("?" ++ u.plainType c).toList := by
    rw [String.toList_append, List.mem_append]
    exact not_or_intro (by decide) hplain
  simp only [printType]
  split
  · exact List.not_mem_nil
  · split
    · exact hmarked
    · exact hplain

lemma provides_of_mem_uses (hentries : ∀ entry ∈ u.uses, IsEntry entry) (hc : IsProper c) (huse : c ∈ u.uses) :
    u.Provides c := by
  by_cases hspace : namespaceOf c = u.space
  · exact .inl hspace
  · have hprinted : u.isPrintedImport c = true := by
      rw [isPrintedImport, Import.read_of_isProper hc]
      simpa using hspace
    have hline : c ∈ u.importLines := (mem_importLines_of_isEntry hentries).2 ⟨huse, hprinted⟩
    refine .inr ⟨c, hline, ?_⟩
    rw [read?_of_mem_importLines hentries c hline, clauseOf, (read_of_isProper hc).1, (read_of_isProper hc).2]

end SourceUnit

namespace Scaffold

open SourceUnit

attribute [local irreducible] qualify Config.usesUuid

/-- The classes that the bodies of an artifact name. -/
def namedClasses (config : Config) (r : Record) : Artifact → List String
  | .entity =>
    (if r.properties.any (·.isCollection) then [arrayCollection] else []) ++
      if r.features.edit then [r.qualifiedName .data] else []
  | .factory => r.qualifiedName .entity :: if config.usesUuid then [uuidClass] else []
  | .repository => [r.qualifiedName .entity, r.qualifiedName .notFound]
  | .facade => (Facade.dispatched r).map fun event => r.qualifiedName (.event event)
  | .dataFactory => [r.qualifiedName .data]
  | .data | .notFound | .event _ => []

variable {config : Config} {r : Record} {a : Artifact} {u : SourceUnit} {c : String}

namespace HasClassNames

variable (h : HasClassNames config r)

/-! ## Types -/

/-- A type is in reach where the foreign classes of a list with it are imported. -/
lemma reaches_of_foreign {types : List String} (hc : c ∈ types) (hproper : IsProper c)
    (huses : ∀ entry ∈ foreignClasses types u.space, entry ∈ u.uses) : u.Reaches c := by
  have hscalar : ∀ type ∈ scalarTypes, lower type ∈ builtinTypes := by decide
  by_cases hword : lower c ∈ builtinTypes
  · exact .inl hword
  · by_cases hspace : namespaceOf c = u.space
    · exact .inr (.inl hspace)
    · have hclass : isClassType c = true := by
        simp [isClassType, ne_empty_of_isProper hproper, mt (hscalar c) hword]
      exact .inr (.inr (huses c (List.mem_filter.2 ⟨hc, by simp [hclass, hspace]⟩)))

lemma mem_importsOf_of_foreign {types entries : List String} {space entry : String}
    (hentry : entry ∈ foreignClasses types space) (hmem : entry ∈ entries) : entry ∈ importsOf entries := by
  refine mem_importsOf_iff.2 ⟨hmem, ?_⟩
  have hclass := (List.mem_filter.1 hentry).2
  rintro rfl
  simp [isClassType] at hclass

lemma reaches_word (hword : lower c ∈ builtinTypes) : ∀ type ∈ some c, u.Reaches type := by
  rintro _ ⟨⟩
  exact .inl hword

lemma reaches_import (huse : c ∈ u.uses) : ∀ type ∈ some c, u.Reaches type := by
  rintro _ ⟨⟩
  exact .inr (.inr huse)

include h

/-- The classes of the same namespace are in reach. -/
lemma reaches_artifact (ha : a ∈ artifacts r) (hspace : r.spaceOf a = u.space) :
    ∀ type ∈ some (r.qualifiedName a), u.Reaches type := by
  rintro _ ⟨⟩
  refine .inr (.inl ?_)
  rw [(h.isProper_qualifiedName ha).2.1, hspace]

lemma reaches_entity : ∀ c ∈ (Entity.unit config r).types, (Entity.unit config r).Reaches c := by
  have huses {entry : String} (hentry : entry ∈ entityUses config r) : entry ∈ (Entity.unit config r).uses :=
    h.mem_uses_entity.2 (.inr hentry)
  have hid : (Entity.unit config r).Reaches config.idTypeHint :=
    reaches_of_foreign (List.mem_singleton_self _) isProper_idTypeHint fun entry hentry =>
      huses (by simp only [entityUses, List.mem_append]; exact .inl (.inl (.inr hentry)))
  have hvalue (p : Property) (hp : p ∈ r.properties) : (Entity.unit config r).Reaches (valueType p) := by
    rw [valueType]
    split
    · next hcollection =>
      have hany : r.properties.any (·.isCollection) = true := List.any_eq_true.2 ⟨p, hp, hcollection⟩
      exact .inr (.inr (huses (by simp [entityUses, hany])))
    · have hhint := List.mem_map_of_mem (f := (·.typeHint)) hp
      exact reaches_of_foreign hhint (h.isProper_typeHint _ hhint) fun entry hentry =>
        huses (by simp only [entityUses, List.mem_append]; exact .inl (.inr hentry))
  intro c hc
  obtain hc | ⟨-, rfl⟩ := mem_types_entity.1 hc
  · simp only [entityTypes, List.mem_append, List.mem_cons, List.not_mem_nil, or_false, List.mem_map] at hc
    rcases hc with ((rfl | rfl) | ⟨p, hp, rfl⟩) | htrait
    · exact h.reaches_artifact (a := .data) (mem_artifacts_of_isFixed rfl) rfl _ rfl
    · exact hid
    · exact hvalue p hp
    · exact .inr (.inr (huses (List.mem_append_right _ htrait)))
  · exact .inl (by decide)

lemma reaches_data : ∀ c ∈ (Data.unit r).types, (Data.unit r).Reaches c := by
  have htypes : (Data.unit r).types = r.properties.filterMap fun p => (Data.member p).type := by
    simp [types, Data.unit, List.filterMap_map]
  intro c hc
  rw [htypes] at hc
  obtain ⟨p, hp, hmember⟩ := List.mem_filterMap.1 hc
  unfold Data.member at hmember
  split at hmember
  · exact reaches_word (by decide) c hmember
  · cases hmember
    have hhint := List.mem_map_of_mem (f := (·.typeHint)) hp
    exact reaches_of_foreign hhint (h.isProper_typeHint _ hhint) fun entry hentry =>
      mem_importsOf_of_foreign hentry hentry

omit h in
/-- Where the type of identifiers is imported if it is foreign, it is in reach. -/
lemma reaches_id (hid : ∀ entry ∈ foreignClasses [config.idTypeHint] u.space, entry ∈ u.uses) :
    ∀ type ∈ (idParameter config).type, u.Reaches type := by
  rintro _ ⟨⟩
  exact reaches_of_foreign (List.mem_singleton_self _) isProper_idTypeHint hid

omit h in
/-- What is in reach of a unit, if the types of its methods are. -/
lemma reaches_of_methods (hparent : ∀ parent ∈ u.declaration.parent, u.Reaches parent)
    (hinterfaces : u.declaration.interfaces = []) (htraits : u.declaration.traits = [])
    (hmembers : u.declaration.members = []) (hmethods : ∀ m ∈ u.declaration.methods, RefersTo u.Reaches m) :
    ∀ c ∈ u.types, u.Reaches c := by
  have hreferences : ∀ c ∈ u.references, u.Reaches c := by
    refine forall_mem_references (fun c huse => .inr (.inr huse)) hparent hinterfaces ?_ ?_ hmethods
    · rw [htraits]
      exact List.forall_mem_nil _
    · rw [hmembers]
      exact List.forall_mem_nil _
  exact fun c hc => hreferences c (mem_references_of_mem_types hc)

lemma isProper_lookupType {p : Property} (hp : p ∈ r.properties) {type : String}
    (htype : type ∈ (lookupParameter config p).type) : IsProper type := by
  have hscalar : ∀ type ∈ scalarTypes, IsProper type := by decide
  exact (h.lookupType hp htype).elim (hscalar type) (isProper_of_fixed type)

lemma reaches_repository {single multi : List Property} (hlookups : ∀ p ∈ single ++ multi, p ∈ r.properties) :
    ∀ c ∈ (repositoryOf config r single multi).types, (repositoryOf config r single multi).Reaches c := by
  have huse {name : String} (hname : name ∈ [entityManager, queryBuilder, objectRepository]) :
      ∀ type ∈ some name, (repositoryOf config r single multi).Reaches type := by
    have hne : ∀ name ∈ [entityManager, queryBuilder, objectRepository], name ≠ "" := by decide
    refine reaches_import (mem_importsOf_iff.2 ⟨?_, hne name hname⟩)
    simp only [List.mem_append, List.mem_cons, List.not_mem_nil, or_false] at hname ⊢
    tauto
  have hentity : ∀ type ∈ some (r.qualifiedName .entity), (repositoryOf config r single multi).Reaches type :=
    h.reaches_artifact (mem_artifacts_of_isFixed rfl) rfl
  have harray : ∀ type ∈ some "array", (repositoryOf config r single multi).Reaches type := reaches_word (by decide)
  have hid : ∀ type ∈ (idParameter config).type, (repositoryOf config r single multi).Reaches type :=
    reaches_id fun entry hentry => mem_importsOf_of_foreign hentry
      (List.mem_append_left _ (List.mem_append_right _ hentry))
  have hlookup : ∀ p ∈ single ++ multi, ∀ type ∈ (lookupParameter config p).type,
      (repositoryOf config r single multi).Reaches type := by
    intro p hp type htype
    have hmem : type ∈ (single ++ multi).filterMap fun p => (lookupParameter config p).type :=
      List.mem_filterMap.2 ⟨p, hp, htype⟩
    exact reaches_of_foreign hmem (h.isProper_lookupType (hlookups p hp) htype) fun entry hentry =>
      mem_importsOf_of_foreign hentry (List.mem_append_left _ (List.mem_append_left _ (List.mem_append_left _ hentry)))
  obtain ⟨hsingle, hmulti⟩ := List.forall_mem_append.1 hlookup
  refine reaches_of_methods forall_mem_none rfl rfl rfl ?_
  simp only [repositoryOf, Repository.methods, List.forall_mem_append, List.forall_mem_cons, List.forall_mem_map]
  refine ⟨⟨⟨⟨⟨?_, ?_, ?_, List.forall_mem_nil _⟩, fun p hp => ?_⟩, fun p hp => ?_⟩, ?_⟩, ?_, ?_, List.forall_mem_nil _⟩
  · exact ⟨List.forall_mem_singleton.2 (huse (by simp)), forall_mem_none⟩
  · exact ⟨List.forall_mem_nil _, huse (by simp)⟩
  · exact ⟨List.forall_mem_singleton.2 hid, hentity⟩
  · exact ⟨List.forall_mem_singleton.2 (hsingle p hp), hentity⟩
  · exact ⟨List.forall_mem_singleton.2 (hmulti p hp), harray⟩
  · exact forall_mem_ite_nil fun _ => List.forall_mem_singleton.2 ⟨List.forall_mem_nil _, harray⟩
  · exact ⟨List.forall_mem_nil _, huse (by simp)⟩
  · exact ⟨List.forall_mem_nil _, huse (by simp)⟩

lemma reaches_facade : ∀ c ∈ (Facade.unit config r).types, (Facade.unit config r).Reaches c := by
  have hown {a : Artifact} (ha : a ∈ artifacts r) (hspace : r.spaceOf a = r.space) :
      ∀ type ∈ some (r.qualifiedName a), (Facade.unit config r).Reaches type := h.reaches_artifact ha hspace
  have hdata := hown (a := .data) (mem_artifacts_of_isFixed rfl) rfl
  have hentity := hown (a := .entity) (mem_artifacts_of_isFixed rfl) rfl
  have hid (hlookup : Facade.needsLookup r = true) :
      ∀ type ∈ (idParameter config).type, (Facade.unit config r).Reaches type := by
    refine reaches_id fun entry hentry => mem_importsOf_of_foreign hentry ?_
    rw [if_pos hlookup]
    exact List.mem_append_left _ (List.mem_append_right _ (List.mem_append_left _ hentry))
  have hmanager : ∀ type ∈ some entityManager, (Facade.unit config r).Reaches type := by
    refine reaches_import (mem_importsOf_iff.2 ⟨?_, by decide⟩)
    simp
  have hdispatcher (hdispatched : ¬ (Facade.dispatched r).isEmpty = true) :
      ∀ type ∈ some eventDispatcher, (Facade.unit config r).Reaches type := by
    refine reaches_import (mem_importsOf_iff.2 ⟨?_, by decide⟩)
    rw [if_neg hdispatched]
    simp
  refine reaches_of_methods forall_mem_none rfl rfl rfl ?_
  simp only [Facade.unit, Facade.methods, List.forall_mem_append, List.forall_mem_cons]
  refine ⟨⟨⟨⟨?_, forall_mem_none⟩, ⟨List.forall_mem_singleton.2 hdata, hentity⟩, List.forall_mem_nil _⟩, ?_⟩, ?_⟩
  · simp only [Facade.constructor, List.forall_mem_append, List.forall_mem_cons]
    refine ⟨⟨hmanager, hown (mem_artifacts_of_isFixed rfl) rfl, hown (mem_artifacts_of_isFixed rfl) rfl,
      List.forall_mem_nil _⟩, ?_⟩
    exact forall_mem_ite (fun _ => List.forall_mem_nil _) fun hdispatched =>
      List.forall_mem_singleton.2 (hdispatcher hdispatched)
  · refine forall_mem_ite_nil fun hedit => List.forall_mem_singleton.2 ⟨?_, hentity⟩
    have hlookup : Facade.needsLookup r = true := by simp [Facade.needsLookup, hedit]
    exact List.forall_mem_cons.2 ⟨hid hlookup, List.forall_mem_singleton.2 hdata⟩
  · refine forall_mem_ite_nil fun hdelete => List.forall_mem_singleton.2 ⟨?_, reaches_word (by decide)⟩
    have hlookup : Facade.needsLookup r = true := by simp [Facade.needsLookup, hdelete]
    exact List.forall_mem_singleton.2 (hid hlookup)

/-- Every type in a unit is in reach of it. -/
lemma reaches_unitAt (hr : r.IsConsistent) (ha : a ∈ artifacts r) :
    ∀ c ∈ (unitAt config r a).types, (unitAt config r a).Reaches c := by
  have hdata := mem_artifacts_of_isFixed (r := r) (a := .data) rfl
  have hentity := mem_artifacts_of_isFixed (r := r) (a := .entity) rfl
  cases a with
  | entity => exact h.reaches_entity
  | data => exact h.reaches_data
  | factory =>
    refine reaches_of_methods forall_mem_none rfl rfl rfl
      (List.forall_mem_singleton.2 ⟨List.forall_mem_singleton.2 ?_, ?_⟩)
    · exact h.reaches_artifact hdata rfl
    · exact h.reaches_artifact hentity rfl
  | repository =>
    obtain ⟨single, multi, hlookups, hunit⟩ := exists_repository hr config
    rw [unitAt_eq hunit]
    exact h.reaches_repository hlookups
  | facade => exact h.reaches_facade
  | notFound => exact reaches_of_methods (reaches_import List.mem_cons_self) rfl rfl rfl (List.forall_mem_nil _)
  | event name =>
    have himport : ∀ type ∈ some (r.qualifiedName .entity), (Event.unit config r name).Reaches type :=
      reaches_import List.mem_cons_self
    have hbase : ∀ type ∈ some (bare config.eventBase), (Event.unit config r name).Reaches type :=
      reaches_import (List.mem_cons_of_mem _ List.mem_cons_self)
    refine reaches_of_methods hbase rfl rfl rfl (List.forall_mem_cons.2 ⟨?_, List.forall_mem_singleton.2 ?_⟩)
    · exact ⟨List.forall_mem_singleton.2 himport, forall_mem_none⟩
    · exact ⟨List.forall_mem_nil _, himport⟩
  | dataFactory =>
    refine reaches_of_methods forall_mem_none rfl rfl rfl
      (List.forall_mem_singleton.2 ⟨List.forall_mem_singleton.2 ?_, ?_⟩)
    · exact reaches_word (by decide)
    · exact h.reaches_artifact hdata rfl

end HasClassNames

/-! ## Bodies -/

/-- Every class that a statement names by its short name is among some classes. -/
def NamesOnly (classes : List String) (s : Statement) : Prop := ∀ name ∈ s.classNames, ∃ c ∈ classes, shortName c = name

variable {classes : List String} {p : Property}

lemma exists_named (hbodies : ∀ m ∈ u.declaration.methods, ∀ s ∈ m.body, NamesOnly classes s) :
    ∀ name ∈ u.bodyNames, ∃ c ∈ classes, shortName c = name := by
  intro name hname
  obtain ⟨m, hm, hname⟩ := List.mem_flatMap.1 hname
  obtain ⟨s, hs, hname⟩ := List.mem_flatMap.1 hname
  exact hbodies m hm s hs name hname

lemma namesOnly_of_eq_nil {s : Statement} (h : s.classNames = []) : NamesOnly classes s := by
  rw [NamesOnly, h]
  exact List.forall_mem_nil _

lemma namesOnly_of_eq {s : Statement} (h : s.classNames = [shortName c]) (hc : c ∈ classes) :
    NamesOnly classes s := by
  rw [NamesOnly, h]
  exact List.forall_mem_singleton.2 ⟨c, hc, rfl⟩

lemma arrayCollection_mem_namedClasses (hp : p ∈ r.properties) (hcollection : p.isCollection = true) :
    arrayCollection ∈ namedClasses config r .entity := by
  have hany : r.properties.any (·.isCollection) = true := List.any_eq_true.2 ⟨p, hp, hcollection⟩
  simp [namedClasses, hany]

lemma shortName_arrayCollection : "ArrayCollection" = shortName arrayCollection := by decide

lemma namesOnly_assignment (hp : p ∈ r.properties) :
    NamesOnly (namedClasses config r .entity) (Entity.assignment p) := by
  rw [Entity.assignment]
  split
  · next hcollection =>
    exact namesOnly_of_eq (congrArg ([·]) shortName_arrayCollection) (arrayCollection_mem_namedClasses hp hcollection)
  · exact namesOnly_of_eq_nil rfl

lemma namesOnly_copyBack (p : Property) : NamesOnly classes (Entity.copyBack p) := by
  rw [Entity.copyBack]
  split <;> exact namesOnly_of_eq_nil rfl

lemma classNames_formValue (p : Property) : (DataFactory.formValue p).classNames = [] := by
  simp only [DataFactory.formValue]
  cases DataFactory.fallback p <;> rfl

namespace HasClassNames

variable (h : HasClassNames config r)

include h

lemma namesOnly_artifact (ha : a ∈ artifacts r) (hmem : r.qualifiedName a ∈ classes) {s : Statement}
    (hs : s.classNames = [r.className a]) : NamesOnly classes s := by
  refine namesOnly_of_eq (c := r.qualifiedName a) ?_ hmem
  rw [hs, (h.isProper_qualifiedName ha).2.2]

lemma namesOnly_entity : ∀ m ∈ (Entity.unit config r).declaration.methods, ∀ s ∈ m.body,
    NamesOnly (namedClasses config r .entity) s := by
  have hassignments : ∀ s ∈ r.properties.map Entity.assignment, NamesOnly (namedClasses config r .entity) s :=
    List.forall_mem_map.2 fun p hp => namesOnly_assignment hp
  have hconstructor : ∀ s ∈ (Entity.constructor config r).body, NamesOnly (namedClasses config r .entity) s := by
    refine List.forall_mem_append.2
      ⟨forall_mem_ite_nil fun _ => ?_, forall_mem_ite (fun _ => ?_) fun _ => hassignments⟩
    · exact List.forall_mem_singleton.2 (namesOnly_of_eq_nil rfl)
    · refine List.forall_mem_append.2 ⟨List.forall_mem_map.2 fun p hp => ?_, List.forall_mem_singleton.2 ?_⟩
      · obtain ⟨hp, hcollection⟩ := List.mem_filter.1 hp
        exact namesOnly_of_eq (congrArg ([·]) shortName_arrayCollection)
          (arrayCollection_mem_namedClasses hp hcollection)
      · exact namesOnly_of_eq_nil rfl
  have hgetData (hedit : r.features.edit = true) :
      ∀ s ∈ (Entity.getData r).body, NamesOnly (namedClasses config r .entity) s := by
    have hdata : r.qualifiedName .data ∈ namedClasses config r .entity := by simp [namedClasses, hedit]
    simp only [Entity.getData, Entity.getDataBody, List.forall_mem_append, List.forall_mem_cons, List.forall_mem_map]
    refine ⟨⟨⟨?_, List.forall_mem_nil _⟩, fun p _ => namesOnly_copyBack p⟩, namesOnly_of_eq_nil rfl,
      namesOnly_of_eq_nil rfl, List.forall_mem_nil _⟩
    exact h.namesOnly_artifact (a := .data) (mem_artifacts_of_isFixed rfl) hdata rfl
  show ∀ m ∈ Entity.methods config r, _
  simp only [Entity.methods, List.forall_mem_append, List.forall_mem_singleton, List.forall_mem_map]
  refine ⟨⟨⟨hconstructor, forall_mem_ite_nil fun hedit => ?_⟩, ?_⟩, fun p _ => ?_⟩
  · exact List.forall_mem_cons.2 ⟨hassignments, List.forall_mem_singleton.2 (hgetData hedit)⟩
  · exact List.forall_mem_singleton.2 (namesOnly_of_eq_nil rfl)
  · exact List.forall_mem_singleton.2 (namesOnly_of_eq_nil rfl)

lemma namesOnly_factory : NamesOnly (namedClasses config r .factory) (.give (Factory.creation config r)) := by
  have hentity : ∃ c ∈ namedClasses config r .factory, shortName c = r.className .entity :=
    ⟨_, List.mem_cons_self, (h.isProper_qualifiedName (mem_artifacts_of_isFixed (a := .entity) rfl)).2.2⟩
  rw [NamesOnly, Statement.classNames, Factory.creation, Expr.classNames, List.forall_mem_cons]
  refine ⟨hentity, ?_⟩
  by_cases hstrategy : config.usesUuid = true
  · have huuid : uuidClass ∈ namedClasses config r .factory := by simp [namedClasses, hstrategy]
    rw [if_pos hstrategy]
    exact List.forall_mem_singleton.2 ⟨uuidClass, huuid, by decide⟩
  · rw [if_neg hstrategy]
    exact List.forall_mem_nil _

lemma namesOnly_repository {single multi : List Property} :
    ∀ m ∈ (repositoryOf config r single multi).declaration.methods, ∀ s ∈ m.body,
      NamesOnly (namedClasses config r .repository) s := by
  have hentity {s : Statement} (hs : s.classNames = [r.className .entity]) :
      NamesOnly (namedClasses config r .repository) s :=
    h.namesOnly_artifact (a := .entity) (mem_artifacts_of_isFixed rfl) List.mem_cons_self hs
  have hnotFound {s : Statement} (hs : s.classNames = [r.className .notFound]) :
      NamesOnly (namedClasses config r .repository) s :=
    h.namesOnly_artifact (a := .notFound) (mem_artifacts_of_isFixed rfl)
      (List.mem_cons_of_mem _ List.mem_cons_self) hs
  have hsingle {name column : String} {parameter : Parameter} : ∀ s ∈ (Repository.single r name column parameter).body,
      NamesOnly (namedClasses config r .repository) s := by
    simp only [Repository.single, Repository.getByBody, List.forall_mem_cons]
    exact ⟨hentity rfl, namesOnly_of_eq_nil rfl, namesOnly_of_eq_nil rfl, hnotFound rfl, namesOnly_of_eq_nil rfl,
      namesOnly_of_eq_nil rfl, List.forall_mem_nil _⟩
  simp only [repositoryOf, Repository.methods, List.forall_mem_append, List.forall_mem_cons, List.forall_mem_map]
  refine ⟨⟨⟨⟨⟨List.forall_mem_nil _, List.forall_mem_singleton.2 (hentity rfl), hsingle, List.forall_mem_nil _⟩,
    fun p _ => hsingle⟩, fun p _ => ?_⟩, ?_⟩, ?_, ?_, List.forall_mem_nil _⟩
  · exact List.forall_mem_singleton.2 (namesOnly_of_eq_nil rfl)
  · refine forall_mem_ite_nil fun _ => List.forall_mem_singleton.2 (List.forall_mem_singleton.2 ?_)
    exact namesOnly_of_eq_nil rfl
  · exact List.forall_mem_singleton.2 (namesOnly_of_eq_nil rfl)
  · exact List.forall_mem_singleton.2 (namesOnly_of_eq_nil rfl)

lemma namesOnly_facade : ∀ m ∈ (Facade.unit config r).declaration.methods, ∀ s ∈ m.body,
    NamesOnly (namedClasses config r .facade) s := by
  have hdispatch {event : String} (hlifecycle : event ∈ lifecycle) :
      ∀ s ∈ Facade.dispatch r event, NamesOnly (namedClasses config r .facade) s := by
    refine forall_mem_ite_nil fun hselected => List.forall_mem_singleton.2 ?_
    have hdispatched : event ∈ Facade.dispatched r := List.mem_filter.2 ⟨hlifecycle, hselected⟩
    exact h.namesOnly_artifact (event_mem_artifacts (mem_events_of_dispatched hdispatched))
      (List.mem_map.2 ⟨event, hdispatched, rfl⟩) rfl
  simp only [Facade.unit, Facade.methods, List.forall_mem_append, List.forall_mem_cons]
  refine ⟨⟨⟨List.forall_mem_nil _, ?_, List.forall_mem_nil _⟩,
    forall_mem_ite_nil fun _ => List.forall_mem_singleton.2 ?_⟩,
    forall_mem_ite_nil fun _ => List.forall_mem_singleton.2 ?_⟩
  · simp only [Facade.create, Facade.createBody, List.forall_mem_append, List.forall_mem_cons]
    exact ⟨⟨⟨namesOnly_of_eq_nil rfl, namesOnly_of_eq_nil rfl, namesOnly_of_eq_nil rfl, namesOnly_of_eq_nil rfl,
      List.forall_mem_nil _⟩, hdispatch (by decide)⟩, namesOnly_of_eq_nil rfl, namesOnly_of_eq_nil rfl,
      List.forall_mem_nil _⟩
  · simp only [Facade.edit, Facade.editBody, List.forall_mem_append, List.forall_mem_cons]
    exact ⟨⟨⟨namesOnly_of_eq_nil rfl, namesOnly_of_eq_nil rfl, namesOnly_of_eq_nil rfl, namesOnly_of_eq_nil rfl,
      List.forall_mem_nil _⟩, hdispatch (by decide)⟩, namesOnly_of_eq_nil rfl, namesOnly_of_eq_nil rfl,
      List.forall_mem_nil _⟩
  · simp only [Facade.delete, Facade.deleteBody, List.forall_mem_append, List.forall_mem_cons]
    exact ⟨⟨namesOnly_of_eq_nil rfl, namesOnly_of_eq_nil rfl, namesOnly_of_eq_nil rfl, namesOnly_of_eq_nil rfl,
      List.forall_mem_nil _⟩, hdispatch (by decide)⟩

lemma namesOnly_dataFactory : ∀ s ∈ DataFactory.body r, NamesOnly (namedClasses config r .dataFactory) s := by
  simp only [DataFactory.body, List.forall_mem_append, List.forall_mem_cons, List.forall_mem_map]
  refine ⟨⟨⟨?_, List.forall_mem_nil _⟩, fun p _ => namesOnly_of_eq_nil (classNames_formValue p)⟩,
    namesOnly_of_eq_nil rfl, namesOnly_of_eq_nil rfl, List.forall_mem_nil _⟩
  exact h.namesOnly_artifact (a := .data) (mem_artifacts_of_isFixed rfl) List.mem_cons_self rfl

lemma namesOnly_unitAt (hr : r.IsConsistent) (a : Artifact) :
    ∀ m ∈ (unitAt config r a).declaration.methods, ∀ s ∈ m.body, NamesOnly (namedClasses config r a) s := by
  cases a with
  | entity => exact h.namesOnly_entity
  | data => exact nofun
  | factory => exact List.forall_mem_singleton.2 (List.forall_mem_singleton.2 h.namesOnly_factory)
  | repository =>
    obtain ⟨single, multi, -, hunit⟩ := exists_repository hr config
    rw [unitAt_eq hunit]
    exact h.namesOnly_repository
  | facade => exact h.namesOnly_facade
  | notFound => exact nofun
  | event name =>
    refine List.forall_mem_cons.2 ⟨List.forall_mem_nil _, List.forall_mem_singleton.2 ?_⟩
    exact List.forall_mem_singleton.2 (namesOnly_of_eq_nil rfl)
  | dataFactory => exact List.forall_mem_singleton.2 h.namesOnly_dataFactory

/-! ## Classes of bodies -/

lemma provides_artifact (ha : a ∈ artifacts r) (hspace : r.spaceOf a = u.space) : u.Provides (r.qualifiedName a) := by
  refine .inl ?_
  rw [(h.isProper_qualifiedName ha).2.1, hspace]

/-- The classes that the bodies of a unit name are in its namespace or imported. -/
lemma provides_unitAt (hr : r.IsConsistent) (ha : a ∈ artifacts r) :
    ∀ c ∈ namedClasses config r a, (unitAt config r a).Provides c := by
  have hentries : ∀ entry ∈ (unitAt config r a).uses, IsEntry entry := (h.isProper_unitAt hr ha).1
  have himport {c : String} (hc : IsProper c) (huse : c ∈ (unitAt config r a).uses) : (unitAt config r a).Provides c :=
    provides_of_mem_uses hentries hc huse
  have hdata := mem_artifacts_of_isFixed (r := r) (a := .data) rfl
  have hentity := mem_artifacts_of_isFixed (r := r) (a := .entity) rfl
  have hnotFound := mem_artifacts_of_isFixed (r := r) (a := .notFound) rfl
  cases a with
  | entity =>
    refine List.forall_mem_append.2 ⟨forall_mem_ite_nil fun hany => List.forall_mem_singleton.2 ?_,
      forall_mem_ite_nil fun _ => List.forall_mem_singleton.2 (h.provides_artifact hdata rfl)⟩
    exact himport (by decide) (h.mem_uses_entity.2 (.inr (by simp [entityUses, hany])))
  | factory =>
    refine List.forall_mem_cons.2 ⟨h.provides_artifact hentity rfl, forall_mem_ite_nil fun hstrategy => ?_⟩
    have huse : uuidClass ∈ (Factory.unit config r).uses := by simp [Factory.unit, hstrategy]
    exact List.forall_mem_singleton.2 (himport (by decide) huse)
  | repository =>
    obtain ⟨single, multi, -, hunit⟩ := exists_repository hr config
    rw [unitAt_eq hunit] at himport ⊢
    have hproper := (h.isProper_qualifiedName hnotFound).1
    have huse : r.qualifiedName .notFound ∈ (repositoryOf config r single multi).uses := by
      refine mem_importsOf_iff.2 ⟨?_, ne_empty_of_isProper hproper⟩
      simp
    exact List.forall_mem_cons.2 ⟨h.provides_artifact hentity rfl, List.forall_mem_singleton.2 (himport hproper huse)⟩
  | facade =>
    refine List.forall_mem_map.2 fun event hevent => ?_
    have hproper := (h.isProper_qualifiedName (event_mem_artifacts (mem_events_of_dispatched hevent))).1
    refine himport hproper (mem_importsOf_iff.2 ⟨?_, ne_empty_of_isProper hproper⟩)
    exact List.mem_append_right _ (List.mem_map.2 ⟨event, hevent, rfl⟩)
  | dataFactory => exact List.forall_mem_singleton.2 (h.provides_artifact hdata rfl)
  | data | notFound | event => exact List.forall_mem_nil _

end HasClassNames

/-- The files of an assembled record import all that they need: no type in them is rooted, and each class that a body
names by its short name is of the namespace of the file or the target of one of its `use` lines. -/
theorem imports_are_complete (config : Config) (draft : Draft) (r : Record) (hr : draft.assemble config = .ok r)
    (hbuilt : ∀ p ∈ r.properties, p.IsBuilt) (hnames : HasProperNames config r) :
    ∃ us, units config r = .ok us ∧ us.map (·.1) = artifacts r ∧ ∀ a u, (a, u) ∈ us →
      (∀ type ∈ u.types, ∀ nullable, '\\' ∉ (u.printType (some type) nullable).toList) ∧
        ∀ name ∈ u.bodyNames, ∃ c ∈ namedClasses config r a, shortName c = name ∧ u.Provides c := by
  have hvalid := Draft.validate_of_assemble hr
  have hconsistent := Record.isConsistent_of_validate hvalid
  have h := hnames.hasClassNames hvalid hbuilt
  refine (hasUnits hvalid config fun a u hau => ?_).exists_units (showsNumbers_of_isBuilt hbuilt)
  have ha : a ∈ artifacts r := by
    rw [← map_fst_units config r]
    exact List.mem_map_of_mem hau
  obtain rfl := eq_unitAt hau
  obtain ⟨hentries, hproper⟩ : (∀ entry ∈ (unitAt config r a).uses, IsEntry entry) ∧
      ∀ c ∈ (unitAt config r a).classes, IsProper c := h.isProper_unitAt hconsistent ha
  constructor
  · intro type htype
    exact noBackslash_printType hentries (fun hclass => hproper type (mem_classes_iff.2 ⟨htype, hclass⟩))
      (h.reaches_unitAt hconsistent ha type htype)
  · intro name hname
    obtain ⟨c, hc, hshort⟩ := exists_named (h.namesOnly_unitAt hconsistent a) name hname
    exact ⟨c, hc, hshort, h.provides_unitAt hconsistent ha c hc⟩

/-- An invoice of a customer from another namespace, to be looked up by the day it is due. -/
def invoice : Draft where
  space := "App\\Model"
  entityName := "Invoice"
  properties :=
    [{ name := "customer", expression := "Customer", storage := none, nullable := true, modifiers := {}
       kind := .relation (.build "Shop\\Customer" .manyToMany false none false) },
      { name := "due", expression := "datetime", kind := .scalar "DateTime" none, storage := some "datetime"
        nullable := false, modifiers := {} }]
  getAllBy := .text "due"
  events := .text "deleted"

/-- The record of an invoice. -/
def invoiceRecord : Record where
  space := "App\\Model"
  entityName := "Invoice"
  properties := invoice.properties
  getAllBy := ["due"]
  events := ["deleted"]
  traits := [("Timestampable", "Gedmo\\Timestampable\\Traits\\TimestampableEntity")]

theorem invoice_imports_are_complete : invoice.assemble {} = .ok invoiceRecord ∧
    ∃ us, units {} invoiceRecord = .ok us ∧ us.map (·.1) = artifacts invoiceRecord ∧ ∀ a u, (a, u) ∈ us →
      (∀ type ∈ u.types, ∀ nullable, '\\' ∉ (u.printType (some type) nullable).toList) ∧
        ∀ name ∈ u.bodyNames, ∃ c ∈ namedClasses {} invoiceRecord a, shortName c = name ∧ u.Provides c := by
  let reader : TypeReader := ⟨.make ["App\\Model", "Shop"] ["Shop\\Customer"] none ".php" (.empty []), []⟩
  have hassembled : invoice.assemble {} = .ok invoiceRecord := by decide
  have hbuilt : ∀ p ∈ invoiceRecord.properties, p.IsBuilt := by
    refine List.forall_mem_cons.2 ⟨?_, List.forall_mem_singleton.2 ?_⟩
    · exact ⟨reader, "?Customer", ⟨.entity "Customer" "Shop\\Customer", true, {}⟩,
        some (.build "Shop\\Customer" .manyToMany false none false), none, by decide, by decide⟩
    · exact ⟨reader, "datetime", ⟨.scalar ⟨"DateTime", "datetime"⟩, false, {}⟩, none, none, by decide, by decide⟩
  have hnames : HasProperNames {} invoiceRecord :=
    ⟨by decide, by decide, by decide, by decide, by decide, by decide⟩
  exact ⟨hassembled, imports_are_complete {} invoice invoiceRecord hassembled hbuilt hnames⟩

end Scaffold

end EntityScaffold
