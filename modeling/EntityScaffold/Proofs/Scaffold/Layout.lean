import EntityScaffold.Proofs.Property
import EntityScaffold.Proofs.Record.Assembly
import EntityScaffold.Proofs.Scaffold.References
import EntityScaffold.Proofs.Source.Layout
/-!
# Rendered files are in normal form

Every unit of a record prints to a text that is in blank-line normal form before anything is done about it, if
the texts that were chosen freely have no line breaks (`HasOneLineTexts`).  Everything else that is written is an
identifier, a word of the language, or made of these; and the bodies of methods are spaced whichever features
and events are selected, since an empty line is only put between two statements that are always there.
-/

namespace EntityScaffold.Scaffold

open Source Artifact Text

attribute [local irreducible] ClassName.qualify Config.usesUuid

/-- The texts that a record takes over as they were given have no line breaks. -/
structure HasOneLineTexts (config : Config) (r : Record) : Prop where
  space : IsOneLine r.space
  targets : ∀ p ∈ r.properties, ∀ relation ∈ p.relation?, IsOneLine relation.target
  defaults : ∀ p ∈ r.properties, ∀ value ∈ p.default?, IsOneLine value
  traits : ∀ traitClass ∈ r.traitClasses, IsOneLine traitClass
  notFoundBase : IsOneLine config.notFoundBase
  eventBase : IsOneLine config.eventBase

/-- What is known of the texts that units are made of. -/
structure HasTidyTexts (config : Config) (r : Record) : Prop extends HasOneLineTexts config r where
  entity : isIdentifier r.entityName = true
  stems : ∀ event ∈ r.events, isIdentifier (Naming.pascal event) = true
  names : ∀ p ∈ r.properties, isIdentifier p.name = true
  hints : ∀ p ∈ r.properties, IsOneLine p.typeHint
  storage : ∀ p ∈ r.properties, IsOneLine (p.storage.getD "None")

variable {config : Config} {r : Record} {a : Artifact} {p : Property}

lemma HasOneLineTexts.hasTidyTexts (h : HasOneLineTexts config r) (hr : r.validate = .ok ())
    (hbuilt : ∀ p ∈ r.properties, p.IsBuilt) (hentity : isIdentifier r.entityName = true) :
    HasTidyTexts config r := by
  have hprimitives : ∀ entry ∈ primitives, IsOneLine entry.2.hint ∧ IsOneLine entry.2.storage := by
    decide
  have hnone : IsOneLine "None" := by decide
  have hproperty : ∀ p ∈ r.properties, isIdentifier p.name = true ∧ IsOneLine p.typeHint ∧
      IsOneLine (p.storage.getD "None") := by
    intro p hp
    exact (hbuilt p hp).of_texts hprimitives hnone (h.targets p hp)
  exact { h with
    entity := hentity
    stems := (Record.stems_of_validate hr).1
    names := fun p hp => (hproperty p hp).1
    hints := fun p hp => (hproperty p hp).2.1
    storage := fun p hp => (hproperty p hp).2.2 }

namespace HasTidyTexts

/-! ## Names -/

variable (h : HasTidyTexts config r)

include h

lemma className (ha : a ∈ artifacts r) : IsOneLine (r.className a) :=
  .of_isIdentifier (isIdentifier_className h.entity h.stems ha)

lemma variableOf : IsOneLine (variableOf r) :=
  .of_hasIdentifierChars (HasIdentifierChars.of_isIdentifier h.entity).uncapitalize

lemma name (hp : p ∈ r.properties) : IsOneLine p.name := .of_isIdentifier (h.names p hp)

omit h

lemma isOneLine_qualify {space name : String} (hspace : IsOneLine space) (hname : IsOneLine name) :
    IsOneLine (ClassName.qualify space name) := by
  intro c hc
  obtain hc | rfl | hc := mem_qualify hc
  · exact hspace c hc
  · decide
  · exact hname c hc

include h

lemma spaceOf (a : Artifact) : IsOneLine (r.spaceOf a) := by
  cases a with
  | notFound | event => exact isOneLine_qualify h.space (by decide)
  | _ => exact h.space

lemma qualifiedName (ha : a ∈ artifacts r) : IsOneLine (r.qualifiedName a) :=
  isOneLine_qualify (h.spaceOf a) (h.className ha)

omit h

lemma idTypeHint : IsOneLine config.idTypeHint := by
  rw [Config.idTypeHint]
  exact .ite (by decide) (by decide)

/-! ## Parameters -/

lemma idParameter : ∀ s ∈ (idParameter config).texts, IsOneLine s := by
  simp only [Parameter.texts, Artifact.idParameter, Option.toList_some, Option.toList_none, List.append_nil,
    List.forall_mem_cons]
  exact ⟨by decide, idTypeHint, List.forall_mem_nil _⟩

include h

lemma dataParameter : ∀ s ∈ (dataParameter r).texts, IsOneLine s := by
  have hdata := h.qualifiedName (mem_artifacts_of_isFixed (r := r) (a := .data) rfl)
  simp only [Parameter.texts, Artifact.dataParameter, Option.toList_some, Option.toList_none, List.append_nil,
    List.forall_mem_cons]
  exact ⟨by decide, hdata, List.forall_mem_nil _⟩

lemma lookupParameter (hp : p ∈ r.properties) :
    ∀ s ∈ (lookupParameter config p).texts, IsOneLine s := by
  have hname : IsOneLine (uncapitalize p.name) :=
    .of_hasIdentifierChars (HasIdentifierChars.of_isIdentifier (h.names p hp)).uncapitalize
  rw [Artifact.lookupParameter]
  split
  · simp only [Parameter.texts, Option.toList_some, Option.toList_none, List.append_nil, List.forall_mem_cons]
    exact ⟨isOneLine_append.2 ⟨hname, by decide⟩, idTypeHint, List.forall_mem_nil _⟩
  · simp only [Parameter.texts, Option.toList_none, List.append_nil, List.forall_mem_cons]
    refine ⟨hname, fun type htype => ?_⟩
    have hhint := h.hints p hp
    rw [Property.primitive?] at htype
    rw [Property.typeHint] at hhint
    split at htype
    · next hkind =>
      rw [hkind] at hhint
      rwa [List.mem_singleton.1 htype]
    · cases htype

/-! ## Comments of the entity -/

omit h

lemma isOneLine_directive {name : String} {args : List String} (hname : IsOneLine name)
    (hargs : ∀ arg ∈ args, IsOneLine arg) : IsOneLine (Mapping.directive name args) := by
  simp only [Mapping.directive, isOneLine_append]
  exact ⟨⟨⟨⟨by decide, hname⟩, by decide⟩, .join (by decide) hargs⟩, by decide⟩

lemma isOneLine_inQuotes {s : String} (hs : IsOneLine s) : IsOneLine (Mapping.inQuotes s) := by
  simp only [Mapping.inQuotes, isOneLine_append]
  exact ⟨⟨by decide, hs⟩, by decide⟩

lemma isOneLine_flag {c : Prop} [Decidable c] {arg : String} (harg : IsOneLine arg) :
    ∀ s ∈ if c then [arg] else [], IsOneLine s :=
  forall_mem_ite_nil fun _ => List.forall_mem_singleton.2 harg

include h

lemma column (hp : p ∈ r.properties) : IsOneLine (Mapping.columnText p) := by
  have hkeys : ∀ key ∈ ["length=", "precision=", "scale="], IsOneLine key := by decide
  refine isOneLine_directive (by decide) (Mapping.forall_mem_columnArgs ?_ (fun key hkey n => ?_) (by decide))
  · exact isOneLine_append.2 ⟨by decide, isOneLine_inQuotes (h.storage p hp)⟩
  · exact isOneLine_append.2 ⟨hkeys key hkey, .toString_int n⟩

lemma ofRelation {relation : Relation} (hp : p ∈ r.properties) (hkind : p.kind = .relation relation) :
    IsOneLine (Mapping.ofRelation r.entityName relation) := by
  have htarget : IsOneLine relation.target :=
    h.targets p hp relation (by simp only [Property.relation?, hkind, Option.mem_some])
  have hentity := (HasIdentifierChars.of_isIdentifier h.entity).uncapitalize
  have hone : IsOneLine (Mapping.inQuotes (uncapitalize r.entityName)) :=
    isOneLine_inQuotes (.of_hasIdentifierChars hentity)
  have hmany : IsOneLine (Mapping.inQuotes (Naming.plural (uncapitalize r.entityName))) :=
    isOneLine_inQuotes (.of_hasIdentifierChars hentity.plural)
  have hmapping : IsOneLine relation.kind.mappingName := by cases relation.kind <;> decide
  have hinverse : ∀ arg ∈ Mapping.inverseArgs (uncapitalize r.entityName) relation, IsOneLine arg := by
    rw [Mapping.inverseArgs]
    split
    · exact List.forall_mem_singleton.2 (isOneLine_append.2 ⟨by decide, hone⟩)
    · exact List.forall_mem_singleton.2 (isOneLine_append.2 ⟨by decide, hone⟩)
    · exact List.forall_mem_singleton.2 (isOneLine_append.2 ⟨by decide, hmany⟩)
    · exact List.forall_mem_nil _
  have hcascade : ∀ arg ∈ (relation.cascade.map fun c =>
      "cascade=\x7b" ++ Mapping.inQuotes c.name ++ "\x7d").toList, IsOneLine arg := by
    cases relation.cascade with
    | none => exact List.forall_mem_nil _
    | some c => exact List.forall_mem_singleton.2 (by cases c <;> decide)
  refine isOneLine_directive hmapping ?_
  simp only [List.forall_mem_append, List.forall_mem_singleton]
  exact ⟨⟨isOneLine_append.2 ⟨by decide, isOneLine_inQuotes htarget⟩, hinverse⟩, hcascade⟩

omit h in
lemma joinColumn (nullable : Bool) (relation : Relation) : IsOneLine (Mapping.joinColumn nullable relation) := by
  refine isOneLine_directive (by decide) (List.forall_mem_append.2 ⟨List.forall_mem_singleton.2 ?_, ?_⟩)
  · cases nullable <;> decide
  · exact isOneLine_flag (by decide)

lemma member_entity (hp : p ∈ r.properties) : ∀ s ∈ (Entity.member r p).texts, IsOneLine s := by
  have hname := h.name hp
  have hhint := h.hints p hp
  have hcolumn := h.column hp
  rw [Property.typeHint] at hhint
  rw [Entity.member]
  split
  · next type default hkind =>
    rw [hkind] at hhint
    simp only [Member.texts, Option.toList_some, Option.toList_none, List.append_nil, List.forall_mem_cons,
      List.forall_mem_append]
    exact ⟨hname, ⟨hhint, List.forall_mem_nil _⟩, hcolumn, List.forall_mem_nil _⟩
  · next relation hkind =>
    have hrelation := h.ofRelation hp hkind
    have hlist : IsOneLine ("@var Collection|" ++ Entity.lastSegment relation.target ++ "[]") := by
      rw [hkind] at hhint
      simp only [isOneLine_append]
      exact ⟨⟨by decide, hhint.lastPiece _⟩, by decide⟩
    rw [hkind] at hhint
    simp only
    split
    · simp only [Member.texts, Option.toList_some, Option.toList_none, List.append_nil, List.forall_mem_cons,
        List.forall_mem_append]
      exact ⟨hname, ⟨by decide, List.forall_mem_nil _⟩, hrelation, hlist, List.forall_mem_nil _⟩
    · simp only [Member.texts, Option.toList_some, Option.toList_none, List.append_nil, List.forall_mem_cons,
        List.forall_mem_append]
      exact ⟨hname, ⟨hhint, List.forall_mem_nil _⟩, hrelation, joinColumn _ _, List.forall_mem_nil _⟩

/-! ## Imports -/

omit h

lemma isOneLine_importsOf {entries : List String} (hentries : ∀ entry ∈ entries, IsOneLine entry) :
    ∀ entry ∈ importsOf entries, IsOneLine entry := fun entry hentry =>
  hentries entry (mem_importsOf_iff.1 hentry).1

lemma isOneLine_foreignClasses {types : List String} {space : String} (htypes : ∀ type ∈ types, IsOneLine type) :
    ∀ entry ∈ foreignClasses types space, IsOneLine entry := fun entry hentry =>
  htypes entry (mem_of_mem_foreignClasses hentry)

lemma isOneLine_foreignId (space : String) :
    ∀ entry ∈ foreignClasses [config.idTypeHint] space, IsOneLine entry :=
  isOneLine_foreignClasses (List.forall_mem_singleton.2 idTypeHint)

include h

lemma isOneLine_typeHints : ∀ entry ∈ foreignClasses (r.properties.map (·.typeHint)) r.space, IsOneLine entry :=
  isOneLine_foreignClasses (List.forall_mem_map.2 h.hints)

/-! ## The entity -/

lemma assignment (hp : p ∈ r.properties) : (Entity.assignment p).IsTidy := by
  have hname := h.name hp
  rw [Entity.assignment]
  split <;> simp +decide [Statement.IsTidy, Expr.own, Expr.this, Entity.dataVar, hname]

lemma copyBack (hp : p ∈ r.properties) : (Entity.copyBack p).IsTidy := by
  have hname := h.name hp
  rw [Entity.copyBack]
  split <;> simp +decide [Statement.IsTidy, Expr.own, Expr.this, Entity.dataVar, hname]

lemma constructor_entity : (Entity.constructor config r).IsTidy := by
  refine .of_parts (show IsOneLine "__construct" by decide) ?_ nofun nofun (spaced_of_forall ?_)
  · exact List.forall_mem_append.2 ⟨forall_mem_ite_nil fun _ => List.forall_mem_singleton.2 idParameter,
      List.forall_mem_singleton.2 h.dataParameter⟩
  · refine List.forall_mem_append.2 ⟨forall_mem_ite (fun _ => ?_) nofun, forall_mem_ite (fun _ => ?_) fun _ => ?_⟩
    · simp +decide [Statement.IsTidy, Expr.own, Expr.this]
    · refine List.forall_mem_append.2 ⟨List.forall_mem_map.2 fun p hp => ?_, ?_⟩
      · have hname := h.name (List.mem_of_mem_filter hp)
        simp +decide [Statement.IsTidy, Entity.emptyCollection, Expr.own, Expr.this, hname]
      · simp +decide [Statement.IsTidy, Expr.this, Entity.dataVar]
    · exact List.forall_mem_map.2 fun p hp => h.assignment hp

lemma getData : (Entity.getData r).IsTidy := by
  have hdata := mem_artifacts_of_isFixed (r := r) (a := .data) rfl
  refine .of_parts (show IsOneLine "getData" by decide) nofun
    (List.forall_mem_singleton.2 (h.qualifiedName hdata)) nofun (.inr ?_)
  have hfirst : (Statement.assign Entity.dataVar (.create (r.className .data) [])).IsTidy := by
    simp +decide [Statement.IsTidy, Entity.dataVar, h.className hdata]
  have hlast : (Statement.give Entity.dataVar).IsTidy := by
    simp +decide [Statement.IsTidy, Entity.dataVar]
  have hbody : ∀ s ∈ Statement.assign Entity.dataVar (.create (r.className .data) []) ::
      r.properties.map Entity.copyBack, s.IsTidy :=
    List.forall_mem_cons.2 ⟨hfirst, List.forall_mem_map.2 fun p hp => h.copyBack hp⟩
  exact (IsSpaced.of_forall (List.cons_ne_nil _ _) hbody).append_gap (.last hlast)

lemma getter (hp : p ∈ r.properties) : (Entity.getter p).IsTidy := by
  have hname := h.name hp
  have hcapital : IsOneLine (capitalize p.name) :=
    .of_hasIdentifierChars (HasIdentifierChars.of_isIdentifier (h.names p hp)).capitalize
  refine .of_parts (isOneLine_append.2 ⟨by decide, hcapital⟩) nofun
    (List.forall_mem_singleton.2 (.ite (by decide) (h.hints p hp))) nofun
    (spaced_of_forall (List.forall_mem_singleton.2 ?_))
  simp +decide [Statement.IsTidy, Expr.own, Expr.this, hname]

lemma isTidy_entity : (Entity.unit config r).IsTidy := by
  have hentity := h.className (mem_artifacts_of_isFixed (r := r) (a := .entity) rfl)
  have hedit : (Entity.edit r).IsTidy :=
    .of_parts (show IsOneLine "edit" by decide) (List.forall_mem_singleton.2 h.dataParameter)
      (List.forall_mem_singleton.2 (show IsOneLine "void" by decide)) nofun
      (spaced_of_forall (List.forall_mem_map.2 fun p hp => h.assignment hp))
  have hgetId : (Entity.getId config).IsTidy :=
    .of_parts (show IsOneLine "getId" by decide) nofun (List.forall_mem_singleton.2 idTypeHint) nofun
      (spaced_of_forall (List.forall_mem_singleton.2 (by simp +decide [Statement.IsTidy, Expr.own, Expr.this])))
  have hidMember : ∀ s ∈ (Entity.idMember config).texts, IsOneLine s := by
    have hcomments : ∀ line ∈ Entity.idComments config, IsOneLine line := by
      rw [Entity.idComments]
      split <;> decide
    simp only [Member.texts, Entity.idMember, Option.toList_some, Option.toList_none, List.append_nil,
      List.forall_mem_cons, List.forall_mem_append]
    exact ⟨by decide, ⟨idTypeHint, List.forall_mem_nil _⟩, hcomments⟩
  have htable : IsOneLine (Mapping.inQuotes (Naming.snake r.entityName)) :=
    isOneLine_inQuotes (.of_hasIdentifierChars (HasIdentifierChars.of_isIdentifier h.entity).snake)
  refine ⟨h.space, isOneLine_importsOf ?_, hentity, List.forall_mem_nil _, List.forall_mem_nil _, h.traits, ?_,
    List.forall_mem_cons.2 ⟨hidMember, List.forall_mem_map.2 fun p hp => h.member_entity hp⟩, ?_⟩
  · simp only [List.forall_mem_append]
    exact ⟨⟨⟨⟨List.forall_mem_singleton.2 (by decide), forall_mem_ite_nil fun _ => by decide⟩,
      isOneLine_foreignId r.space⟩, h.isOneLine_typeHints⟩, h.traits⟩
  · simp only [Entity.unit, List.forall_mem_cons, isOneLine_append]
    exact ⟨by decide, ⟨⟨by decide, htable⟩, by decide⟩, List.forall_mem_nil _⟩
  · simp only [Entity.unit, Entity.methods, List.forall_mem_append, List.forall_mem_singleton, List.forall_mem_map]
    exact ⟨⟨⟨h.constructor_entity, forall_mem_ite_nil fun _ => List.forall_mem_cons.2
      ⟨hedit, List.forall_mem_singleton.2 h.getData⟩⟩, hgetId⟩, fun p hp => h.getter hp⟩

/-! ## The data object and its factory -/

lemma initialValue (hp : p ∈ r.properties) : ∀ s ∈ (Data.initialValue p).toList, IsOneLine s := by
  rw [Data.initialValue]
  split
  · next value hvalue =>
    exact List.forall_mem_singleton.2 (Literal.isOneLine_print (h.defaults p hp value hvalue) p.primitive?)
  · split
    · exact List.forall_mem_singleton.2 (by decide)
    · exact nofun

lemma member_data (hp : p ∈ r.properties) : ∀ s ∈ (Data.member p).texts, IsOneLine s := by
  have hname := h.name hp
  have hhint := h.hints p hp
  have hlist : IsOneLine ("@var " ++ ClassName.shortName p.typeHint ++ "[]") := by
    simp only [isOneLine_append]
    exact ⟨⟨by decide, hhint.shortName⟩, by decide⟩
  rw [Data.member]
  split
  · simp only [Member.texts, Option.toList_some, List.forall_mem_cons, List.forall_mem_append]
    exact ⟨hname, ⟨⟨by decide, nofun⟩, by decide, nofun⟩, hlist, nofun⟩
  · simp only [Member.texts, Option.toList_some, List.append_nil, List.forall_mem_cons, List.forall_mem_append]
    exact ⟨hname, ⟨hhint, nofun⟩, h.initialValue hp⟩

lemma isTidy_data : (Data.unit r).IsTidy :=
  ⟨h.space, isOneLine_importsOf h.isOneLine_typeHints, h.className (mem_artifacts_of_isFixed rfl), nofun, nofun,
    nofun, nofun, List.forall_mem_map.2 fun _ hp => h.member_data hp, nofun⟩

lemma formValue (hp : p ∈ r.properties) :
    (Statement.assign (.member (.var "data") p.name) (DataFactory.formValue p)).IsTidy := by
  have hname := h.name hp
  have hfallback : ∀ s ∈ (DataFactory.fallback p).toList, IsOneLine s := by
    rw [DataFactory.fallback]
    split
    · exact List.forall_mem_singleton.2 (by decide)
    · exact h.initialValue hp
  rw [DataFactory.formValue]
  split
  · next literal hliteral =>
    rw [hliteral] at hfallback
    simp +decide [Statement.IsTidy, hname, hfallback literal List.mem_cons_self]
  · simp +decide [Statement.IsTidy, hname]

lemma isTidy_dataFactory (hfactory : .dataFactory ∈ artifacts r) : (DataFactory.unit r).IsTidy := by
  have hdata := mem_artifacts_of_isFixed (r := r) (a := .data) rfl
  have hfirst : (Statement.assign (.var "data") (.create (r.className .data) [])).IsTidy := by
    simp +decide [Statement.IsTidy, h.className hdata]
  have hlast : (Statement.give (.var "data")).IsTidy := by simp +decide [Statement.IsTidy]
  have hbody : ∀ s ∈ Statement.assign (.var "data") (.create (r.className .data) []) ::
      r.properties.map (fun p => .assign (.member (.var "data") p.name) (DataFactory.formValue p)), s.IsTidy :=
    List.forall_mem_cons.2 ⟨hfirst, List.forall_mem_map.2 fun p hp => h.formValue hp⟩
  have hparameter : ∀ s ∈ ({ name := "formData", type := some "array" } : Parameter).texts, IsOneLine s := by
    decide
  refine ⟨h.space, nofun, h.className hfactory, nofun, nofun, nofun, nofun, nofun, List.forall_mem_singleton.2 ?_⟩
  exact .of_parts (show IsOneLine "createFromFormArray" by decide) (List.forall_mem_singleton.2 hparameter)
    (List.forall_mem_singleton.2 (h.qualifiedName hdata)) nofun
    (.inr ((IsSpaced.of_forall (List.cons_ne_nil _ _) hbody).append_gap (.last hlast)))

/-! ## The factory -/

lemma isTidy_factory : (Factory.unit config r).IsTidy := by
  have hentity := mem_artifacts_of_isFixed (r := r) (a := .entity) rfl
  have hcreation : (Statement.give (Factory.creation config r)).IsTidy := by
    have hclass := h.className hentity
    rw [Factory.creation]
    split <;> simp +decide [Statement.IsTidy, hclass]
  refine ⟨h.space, forall_mem_ite (fun _ => by decide) nofun, h.className (mem_artifacts_of_isFixed rfl), nofun,
    nofun, nofun, nofun, nofun, List.forall_mem_singleton.2 ?_⟩
  exact .of_parts (show IsOneLine "create" by decide) (List.forall_mem_singleton.2 h.dataParameter)
    (List.forall_mem_singleton.2 (h.qualifiedName hentity)) nofun
    (spaced_of_forall (List.forall_mem_singleton.2 hcreation))

/-! ## The exception and the events -/

lemma isTidy_notFound : (NotFound.unit config r).IsTidy :=
  ⟨h.spaceOf .notFound, List.forall_mem_singleton.2 h.notFoundBase.bare,
    h.className (mem_artifacts_of_isFixed rfl), List.forall_mem_singleton.2 h.notFoundBase.bare, nofun, nofun,
    nofun, nofun, nofun⟩

lemma isTidy_event {name : String} (hevent : .event name ∈ artifacts r) :
    (Event.unit config r name).IsTidy := by
  have hentity := mem_artifacts_of_isFixed (r := r) (a := .entity) rfl
  have hclass := h.qualifiedName hentity
  have hgetter : IsOneLine ("get" ++ capitalize (Artifact.variableOf r)) :=
    isOneLine_append.2 ⟨by decide,
      .of_hasIdentifierChars (HasIdentifierChars.of_isIdentifier h.entity).uncapitalize.capitalize⟩
  refine ⟨h.spaceOf (.event name), List.forall_mem_cons.2 ⟨hclass, List.forall_mem_singleton.2 h.eventBase.bare⟩,
    h.className hevent, List.forall_mem_singleton.2 h.eventBase.bare, nofun, nofun, nofun, nofun,
    List.forall_mem_cons.2 ⟨?_, List.forall_mem_singleton.2 ?_⟩⟩
  · refine .of_parts (show IsOneLine "__construct" by decide) (List.forall_mem_singleton.2 ?_) nofun nofun (.inl rfl)
    simp only [Parameter.texts, Option.toList_some, Option.toList_none, List.append_nil, List.forall_mem_cons]
    exact ⟨h.variableOf, hclass, List.forall_mem_nil _⟩
  · refine .of_parts hgetter (List.forall_mem_nil _) (List.forall_mem_singleton.2 hclass) (List.forall_mem_nil _)
      (spaced_of_forall (List.forall_mem_singleton.2 ?_))
    simp +decide [Statement.IsTidy, Expr.own, Expr.this, h.variableOf]

/-! ## The repository -/

/-- A lookup of one row answers with what it found, or throws. -/
theorem single {name column : String} {parameter : Parameter} (hname : IsOneLine name) (hcolumn : IsOneLine column)
    (hparameter : ∀ s ∈ parameter.texts, IsOneLine s) : (Repository.single r name column parameter).IsTidy := by
  have hentity := mem_artifacts_of_isFixed (r := r) (a := .entity) rfl
  have hnotFound := mem_artifacts_of_isFixed (r := r) (a := .notFound) rfl
  have hfind : (Statement.find (some (Artifact.variableOf r)) "findOneBy" column parameter.name).IsTidy :=
    ⟨fun _ heq => Option.some.inj heq ▸ h.variableOf, by decide, hcolumn, hparameter _ List.mem_cons_self⟩
  refine .of_parts hname (List.forall_mem_singleton.2 hparameter)
    (List.forall_mem_singleton.2 (h.qualifiedName hentity)) (List.forall_mem_singleton.2 ?_) (.inr ?_)
  · exact isOneLine_append.2 ⟨by decide, h.className hnotFound⟩
  · refine .next ⟨h.className hentity, h.variableOf⟩
      (.gap hfind (.gap ⟨h.variableOf, h.className hnotFound⟩ (.last ?_)))
    simp [Statement.IsTidy, h.variableOf]

lemma isOneLine_returnsComment : ∀ line ∈ [Repository.returnsComment r], IsOneLine line := by
  have hclass := h.className (mem_artifacts_of_isFixed (r := r) (a := .entity) rfl)
  simp only [Repository.returnsComment, List.forall_mem_singleton, isOneLine_append]
  exact ⟨⟨by decide, hclass⟩, by decide⟩

lemma getBy (hp : p ∈ r.properties) : (Repository.getBy config r p).IsTidy := by
  have hchars := HasIdentifierChars.of_isIdentifier (h.names p hp)
  exact h.single (isOneLine_append.2 ⟨by decide, .of_hasIdentifierChars hchars.capitalize⟩)
    (.of_hasIdentifierChars hchars.uncapitalize) (h.lookupParameter hp)

lemma getAllBy (hp : p ∈ r.properties) : (Repository.getAllBy config r p).IsTidy := by
  have hchars := HasIdentifierChars.of_isIdentifier (h.names p hp)
  have hparameter := h.lookupParameter hp
  refine .of_parts (isOneLine_append.2 ⟨by decide, .of_hasIdentifierChars hchars.capitalize⟩)
    (List.forall_mem_singleton.2 hparameter) (List.forall_mem_singleton.2 (by decide)) h.isOneLine_returnsComment
    (spaced_of_forall (List.forall_mem_singleton.2 ?_))
  exact ⟨nofun, by decide, .of_hasIdentifierChars hchars.uncapitalize, hparameter _ List.mem_cons_self⟩

lemma isTidy_repository {single multi : List Property} (hlookups : ∀ p ∈ single ++ multi, p ∈ r.properties) :
    (repositoryOf config r single multi).IsTidy := by
  obtain ⟨hsingle, hmulti⟩ := List.forall_mem_append.1 hlookups
  have hclass := h.className (mem_artifacts_of_isFixed (r := r) (a := .entity) rfl)
  have hrepository := h.className (mem_artifacts_of_isFixed (r := r) (a := .repository) rfl)
  have hnotFound := h.qualifiedName (mem_artifacts_of_isFixed (r := r) (a := .notFound) rfl)
  have hconstructor : Repository.constructor.IsTidy := ⟨by decide, .inl rfl⟩
  have hgetRepository : (Repository.getRepository r).IsTidy := by
    refine .of_parts (show IsOneLine "getRepository" by decide) (List.forall_mem_nil _)
      (List.forall_mem_singleton.2 (show IsOneLine objectRepository by decide)) (List.forall_mem_nil _)
      (spaced_of_forall (List.forall_mem_singleton.2 ?_))
    simp +decide [Statement.IsTidy, Expr.own, Expr.this, hclass]
  have hget : (Repository.get config r).IsTidy := h.single (by decide) (by decide) idParameter
  have hgetAll : (Repository.getAll r).IsTidy := by
    refine .of_parts (show IsOneLine "getAll" by decide) (List.forall_mem_nil _)
      (List.forall_mem_singleton.2 (show IsOneLine "array" by decide)) h.isOneLine_returnsComment
      (spaced_of_forall (List.forall_mem_singleton.2 ?_))
    simp +decide [Statement.IsTidy, Expr.this]
  have hbuilder : Repository.queryBuilderForAll.IsTidy ∧ Repository.queryBuilderForDataGrid.IsTidy := by
    refine ⟨⟨by decide, spaced_of_forall (List.forall_mem_singleton.2 ?_)⟩,
      ⟨by decide, spaced_of_forall (List.forall_mem_singleton.2 ?_)⟩⟩ <;>
    simp +decide [Statement.IsTidy, Expr.this]
  refine ⟨h.space, isOneLine_importsOf ?_, hrepository, List.forall_mem_nil _, List.forall_mem_nil _,
    List.forall_mem_nil _, List.forall_mem_nil _, List.forall_mem_nil _, ?_⟩
  · have hparameters : ∀ type ∈ (single ++ multi).filterMap fun p => (Artifact.lookupParameter config p).type,
        IsOneLine type := by
      intro type htype
      obtain ⟨p, hp, heq⟩ := List.mem_filterMap.1 htype
      refine h.lookupParameter (hlookups p hp) type (List.mem_cons_of_mem _ (List.mem_append_left _ ?_))
      rw [heq]
      exact List.mem_cons_self
    simp only [List.forall_mem_append, List.forall_mem_cons]
    exact ⟨⟨⟨isOneLine_foreignClasses hparameters, by decide, by decide, List.forall_mem_nil _⟩,
      isOneLine_foreignId r.space⟩, hnotFound, by decide, List.forall_mem_nil _⟩
  · simp only [repositoryOf, Repository.methods, List.forall_mem_append, List.forall_mem_cons, List.forall_mem_map]
    exact ⟨⟨⟨⟨⟨hconstructor, hgetRepository, hget, List.forall_mem_nil _⟩, fun p hp => h.getBy (hsingle p hp)⟩,
      fun p hp => h.getAllBy (hmulti p hp)⟩, forall_mem_ite_nil fun _ => List.forall_mem_singleton.2 hgetAll⟩,
      hbuilder.1, hbuilder.2, List.forall_mem_nil _⟩

/-! ## The facade -/

lemma collaborator (ha : a ∈ artifacts r) : IsOneLine (uncapitalize (r.className a)) :=
  .of_hasIdentifierChars
    (HasIdentifierChars.of_isIdentifier (isIdentifier_className h.entity h.stems ha)).uncapitalize

lemma dispatch (event : String) : ∀ s ∈ Facade.dispatch r event, s.IsTidy := by
  rw [Facade.dispatch]
  refine forall_mem_ite (fun hevent => List.forall_mem_singleton.2 ?_) nofun
  have hclass := h.className (event_mem_artifacts (List.contains_iff_mem.1 hevent))
  simp +decide [Statement.IsTidy, Expr.own, Expr.this, Facade.entityVar, hclass, h.variableOf]

omit h in
lemma flush : Facade.flush.IsTidy := by simp +decide [Facade.flush, Statement.IsTidy, Expr.own, Expr.this]

lemma load : (Facade.load r).IsTidy := by
  have hrepository : IsOneLine (Facade.repositoryName r) := h.collaborator (mem_artifacts_of_isFixed rfl)
  simp +decide [Facade.load, Statement.IsTidy, Expr.own, Expr.this, Facade.entityVar, hrepository, h.variableOf]

lemma giveEntity : (Statement.give (Facade.entityVar r)).IsTidy := by
  simp [Statement.IsTidy, Facade.entityVar, h.variableOf]

-- In the bodies of the facade the empty lines stand after the first statement and before the last, and between
-- them is always something, whether or not an event is dispatched.

lemma createBody : IsSpaced .blank Statement.IsTidy (Facade.createBody r) := by
  have hfactory : IsOneLine (Facade.factoryName r) := h.collaborator (mem_artifacts_of_isFixed rfl)
  have hcreate : (Statement.assign (Facade.entityVar r)
      (.call (.own (Facade.factoryName r)) "create" [.var "data"])).IsTidy := by
    simp +decide [Statement.IsTidy, Expr.own, Expr.this, Facade.entityVar, hfactory, h.variableOf]
  have hpersist : (Statement.run (.call (.own "entityManager") "persist" [Facade.entityVar r])).IsTidy := by
    simp +decide [Statement.IsTidy, Expr.own, Expr.this, Facade.entityVar, h.variableOf]
  have hwrite : ∀ s ∈ Statement.run (.call (.own "entityManager") "persist" [Facade.entityVar r]) ::
      Facade.flush :: Facade.dispatch r "created", s.IsTidy :=
    List.forall_mem_cons.2 ⟨hpersist, List.forall_mem_cons.2 ⟨flush, h.dispatch "created"⟩⟩
  exact .gap hcreate ((IsSpaced.of_forall (List.cons_ne_nil _ _) hwrite).append_gap (.last h.giveEntity))

lemma editBody : IsSpaced .blank Statement.IsTidy (Facade.editBody r) := by
  have hedit : (Statement.run (.call (Facade.entityVar r) "edit" [.var "data"])).IsTidy := by
    simp +decide [Statement.IsTidy, Facade.entityVar, h.variableOf]
  have hwrite : ∀ s ∈ Facade.flush :: Facade.dispatch r "updated", s.IsTidy :=
    List.forall_mem_cons.2 ⟨flush, h.dispatch "updated"⟩
  exact .next h.load (.gap hedit
    ((IsSpaced.of_forall (List.cons_ne_nil _ _) hwrite).append_gap (.last h.giveEntity)))

lemma deleteBody : IsSpaced .blank Statement.IsTidy (Facade.deleteBody r) := by
  have hremove : (Statement.run (.call (.own "entityManager") "remove" [Facade.entityVar r])).IsTidy := by
    simp +decide [Statement.IsTidy, Expr.own, Expr.this, Facade.entityVar, h.variableOf]
  have hwrite : ∀ s ∈ Statement.run (.call (.own "entityManager") "remove" [Facade.entityVar r]) ::
      Facade.flush :: Facade.dispatch r "deleted", s.IsTidy :=
    List.forall_mem_cons.2 ⟨hremove, List.forall_mem_cons.2 ⟨flush, h.dispatch "deleted"⟩⟩
  exact .gap h.load (IsSpaced.of_forall (List.cons_ne_nil _ _) hwrite)

omit h in
lemma promoted {name type : String} (hname : IsOneLine name) (htype : IsOneLine type) :
    ∀ s ∈ (Facade.promoted name type).texts, IsOneLine s :=
  List.forall_mem_cons.2 ⟨hname, List.forall_mem_singleton.2 htype⟩

lemma isTidy_facade : (Facade.unit config r).IsTidy := by
  have hentity := h.qualifiedName (mem_artifacts_of_isFixed (r := r) (a := .entity) rfl)
  have hrepository := mem_artifacts_of_isFixed (r := r) (a := .repository) rfl
  have hfactory := mem_artifacts_of_isFixed (r := r) (a := .factory) rfl
  have hfacade := h.className (mem_artifacts_of_isFixed (r := r) (a := .facade) rfl)
  have hnotFound := mem_artifacts_of_isFixed (r := r) (a := .notFound) rfl
  have hthrows : ∀ line ∈ [Facade.throwsComment r], IsOneLine line :=
    List.forall_mem_singleton.2 (isOneLine_append.2 ⟨by decide, h.className hnotFound⟩)
  have hconstructor : (Facade.constructor r).IsTidy := by
    refine .of_parts (show IsOneLine "__construct" by decide) ?_ nofun nofun (.inl rfl)
    simp only [Facade.constructor, List.forall_mem_append, List.forall_mem_cons]
    exact ⟨⟨promoted (by decide) (by decide), promoted (h.collaborator hrepository) (h.qualifiedName hrepository),
      promoted (h.collaborator hfactory) (h.qualifiedName hfactory), List.forall_mem_nil _⟩,
      forall_mem_ite (fun _ => List.forall_mem_nil _) fun _ =>
        List.forall_mem_singleton.2 (promoted (by decide) (by decide))⟩
  have hcreate : (Facade.create r).IsTidy :=
    .of_parts (show IsOneLine "create" by decide) (List.forall_mem_singleton.2 h.dataParameter)
      (List.forall_mem_singleton.2 hentity) (List.forall_mem_nil _) (.inr h.createBody)
  have hedit : (Facade.edit config r).IsTidy :=
    .of_parts (show IsOneLine "edit" by decide)
      (List.forall_mem_cons.2 ⟨idParameter, List.forall_mem_singleton.2 h.dataParameter⟩)
      (List.forall_mem_singleton.2 hentity) hthrows (.inr h.editBody)
  have hdelete : (Facade.delete config r).IsTidy :=
    .of_parts (show IsOneLine "delete" by decide) (List.forall_mem_singleton.2 idParameter)
      (List.forall_mem_singleton.2 (show IsOneLine "void" by decide)) hthrows (.inr h.deleteBody)
  refine ⟨h.space, isOneLine_importsOf ?_, hfacade, List.forall_mem_nil _, List.forall_mem_nil _,
    List.forall_mem_nil _, List.forall_mem_nil _, List.forall_mem_nil _, ?_⟩
  · have hevents : ∀ event ∈ Facade.dispatched r, IsOneLine (r.qualifiedName (.event event)) := fun event hevent =>
      h.qualifiedName (event_mem_artifacts (mem_events_of_dispatched hevent))
    simp only [List.forall_mem_append, List.forall_mem_map]
    exact ⟨⟨⟨List.forall_mem_singleton.2 (by decide),
      forall_mem_ite (fun _ => List.forall_mem_nil _) fun _ => List.forall_mem_singleton.2 (by decide)⟩,
      forall_mem_ite_nil fun _ => List.forall_mem_append.2
        ⟨isOneLine_foreignId r.space, List.forall_mem_singleton.2 (h.qualifiedName hnotFound)⟩⟩, hevents⟩
  · simp only [Facade.unit, Facade.methods, List.forall_mem_append, List.forall_mem_cons]
    exact ⟨⟨⟨hconstructor, hcreate, List.forall_mem_nil _⟩,
      forall_mem_ite_nil fun _ => List.forall_mem_singleton.2 hedit⟩,
      forall_mem_ite_nil fun _ => List.forall_mem_singleton.2 hdelete⟩

/-! ## All units -/

lemma isTidy_unitAt (hr : r.IsConsistent) (ha : a ∈ artifacts r) : (unitAt config r a).IsTidy := by
  cases a with
  | entity => exact h.isTidy_entity
  | data => exact h.isTidy_data
  | factory => exact h.isTidy_factory
  | repository =>
    obtain ⟨single, multi, hlookups, hunit⟩ := exists_repository hr config
    rw [unitAt_eq hunit]
    exact h.isTidy_repository hlookups
  | facade => exact h.isTidy_facade
  | notFound => exact h.isTidy_notFound
  | event name => exact h.isTidy_event ha
  | dataFactory => exact h.isTidy_dataFactory ha

end HasTidyTexts

/-- What is printed for an assembled record is in blank-line normal form already, in every unit. -/
theorem rendered_units_are_normal (config : Config) (draft : Draft) (r : Record)
    (hr : draft.assemble config = .ok r) (hbuilt : ∀ p ∈ r.properties, p.IsBuilt)
    (hentity : isIdentifier r.entityName = true) (htexts : HasOneLineTexts config r) :
    ∃ us, units config r = .ok us ∧ us.map (·.1) = artifacts r ∧ ∀ au ∈ us, au.2.PrintsNormally := by
  have hvalid := Draft.validate_of_assemble hr
  have htidy := htexts.hasTidyTexts hvalid hbuilt hentity
  refine (hasUnits hvalid config (forall_units_iff.2 fun a ha => ?_)).exists_units (showsNumbers_of_isBuilt hbuilt)
  exact (htidy.isTidy_unitAt (Record.isConsistent_of_validate hvalid) ha).printsNormally

/-- A shelf with a label that has a default, and any number of books. -/
def shelf : Draft where
  space := " \\App\\Model\\ "
  entityName := "Shelf"
  properties :=
    [{ name := "label", expression := "string|80", kind := .scalar "string" (some "it's new")
       storage := some "string", nullable := false, modifiers := { length := some 80 } },
      { name := "books", expression := "Book", storage := none, nullable := false, modifiers := {}
        kind := .relation (.build "App\\Model\\Book" .oneToMany false none false) }]
  getBy := .text "label"
  events := .text "created, put-away"

/-- The record of a shelf. -/
def shelfRecord : Record where
  space := "App\\Model"
  entityName := "Shelf"
  properties := shelf.properties
  getBy := ["label"]
  events := ["created", "put-away"]
  traits := [("Timestampable", "Gedmo\\Timestampable\\Traits\\TimestampableEntity")]

theorem shelf_prints_normally : shelf.assemble {} = .ok shelfRecord ∧
    ∃ us, units {} shelfRecord = .ok us ∧ us.map (·.1) = artifacts shelfRecord ∧
      ∀ au ∈ us, au.2.PrintsNormally := by
  let reader : TypeReader := ⟨.make ["App\\Model"] ["App\\Model\\Book"] none ".php" (.empty []), ["unique"]⟩
  have hassembled : shelf.assemble {} = .ok shelfRecord := by decide
  have hbuilt : ∀ p ∈ shelfRecord.properties, p.IsBuilt := by
    refine List.forall_mem_cons.2 ⟨?_, List.forall_mem_singleton.2 ?_⟩
    · exact ⟨reader, "string|80", ⟨.scalar ⟨"string", "string"⟩, false, { length := some 80 }⟩, none,
        some "it's new", by decide, by decide⟩
    · exact ⟨reader, "Book", ⟨.entity "Book" "App\\Model\\Book", false, {}⟩,
        some (.build "App\\Model\\Book" .oneToMany false none false), none, by decide, by decide⟩
  have htexts : HasOneLineTexts {} shelfRecord :=
    ⟨by decide, by decide, by decide, by decide, by decide,
      by decide⟩
  exact ⟨hassembled, rendered_units_are_normal {} shelf shelfRecord hassembled hbuilt (by decide) htexts⟩

end EntityScaffold.Scaffold
