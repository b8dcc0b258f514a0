import EntityScaffold.Proofs.Property
import EntityScaffold.Proofs.Scaffold.References
import EntityScaffold.Proofs.Source.Brackets
/-!
# The words of the units

Apart from types and comments, the code of a unit is made of identifiers.  Only the data object and its factory have
other words: the empty list, and the literals of defaults.  So whatever holds of these holds of all words of all units
(`isWord_of_mem_words`).
-/

namespace EntityScaffold.Scaffold

open Source Artifact Text

attribute [local irreducible] ClassName.qualify Config.usesUuid

/-- The names that a record gives are identifiers. -/
structure HasIdentifiers (r : Record) : Prop where
  entity : isIdentifier r.entityName = true
  stems : ∀ event ∈ r.events, isIdentifier (Naming.pascal event) = true
  names : ∀ p ∈ r.properties, isIdentifier p.name = true

/-- A word in the code of a unit. -/
inductive IsWord (r : Record) (word : String) : Prop
  | identifier (h : HasIdentifierChars word)
  | emptyList (h : word = "[]")
  | literal {p : Property} {value : String} (hp : p ∈ r.properties) (hvalue : value ∈ p.default?)
    (h : word = Literal.print value p.primitive?)

/-- A method is written with identifiers only. -/
def UsesIdentifiers (m : Method) : Prop := ∀ word ∈ m.words, HasIdentifierChars word

variable {config : Config} {r : Record} {a : Artifact} {p : Property} {m : Method}

/-- The words of a method, part by part. -/
lemma forall_mem_words {P : String → Prop} (hname : P m.name)
    (hparameters : ∀ p ∈ m.parameters, ∀ word ∈ p.words, P word) (hbody : ∀ s ∈ m.body, ∀ word ∈ s.texts, P word) :
    ∀ word ∈ m.words, P word := by
  simp only [Method.words, List.forall_mem_cons, List.forall_mem_append, List.forall_mem_flatMap]
  exact ⟨hname, hparameters, hbody⟩

lemma UsesIdentifiers.of_parts (hname : HasIdentifierChars m.name)
    (hparameters : ∀ p ∈ m.parameters, ∀ word ∈ p.words, HasIdentifierChars word)
    (hbody : ∀ s ∈ m.body, ∀ word ∈ s.texts, HasIdentifierChars word) : UsesIdentifiers m :=
  forall_mem_words hname hparameters hbody

lemma idParameter_words : ∀ word ∈ (idParameter config).words, HasIdentifierChars word :=
  List.forall_mem_singleton.2 (show HasIdentifierChars "id" by decide)

lemma dataParameter_words : ∀ word ∈ (dataParameter r).words, HasIdentifierChars word :=
  List.forall_mem_singleton.2 (show HasIdentifierChars "data" by decide)

namespace HasIdentifiers

variable (h : HasIdentifiers r)

include h

lemma className (ha : a ∈ artifacts r) : HasIdentifierChars (r.className a) :=
  .of_isIdentifier (isIdentifier_className h.entity h.stems ha)

lemma variableOf : HasIdentifierChars (Artifact.variableOf r) :=
  (HasIdentifierChars.of_isIdentifier h.entity).uncapitalize

lemma name (hp : p ∈ r.properties) : HasIdentifierChars p.name := .of_isIdentifier (h.names p hp)

lemma lookupParameter (hp : p ∈ r.properties) :
    ∀ word ∈ (lookupParameter config p).words, HasIdentifierChars word := by
  have hname := (h.name hp).uncapitalize
  rw [Artifact.lookupParameter]
  split
  · exact List.forall_mem_singleton.2 (hname.append (by decide))
  · exact List.forall_mem_singleton.2 hname

/-! ## The entity -/

lemma assignment (hp : p ∈ r.properties) : ∀ word ∈ (Entity.assignment p).texts, HasIdentifierChars word := by
  have hname := h.name hp
  rw [Entity.assignment]
  split <;> simp +decide [Statement.texts, Expr.texts, Expr.textsOfArgs, Expr.own, Expr.this, Entity.dataVar, hname]

lemma copyBack (hp : p ∈ r.properties) : ∀ word ∈ (Entity.copyBack p).texts, HasIdentifierChars word := by
  have hname := h.name hp
  rw [Entity.copyBack]
  split <;> simp +decide [Statement.texts, Expr.texts, Expr.textsOfArgs, Expr.own, Expr.this, Entity.dataVar, hname]

lemma constructor_entity : UsesIdentifiers (Entity.constructor config r) := by
  refine .of_parts (show HasIdentifierChars "__construct" by decide) ?_ ?_
  · exact List.forall_mem_append.2 ⟨forall_mem_ite_nil fun _ => List.forall_mem_singleton.2 idParameter_words,
      List.forall_mem_singleton.2 dataParameter_words⟩
  · refine List.forall_mem_append.2 ⟨forall_mem_ite_nil fun _ => ?_, forall_mem_ite (fun _ => ?_) fun _ => ?_⟩
    · decide
    · refine List.forall_mem_append.2 ⟨List.forall_mem_map.2 fun p hp => ?_, ?_⟩
      · have hname := h.name (List.mem_of_mem_filter hp)
        simp +decide [Statement.texts, Entity.emptyCollection, Expr.texts, Expr.textsOfArgs, Expr.own, Expr.this, hname]
      · decide
    · exact List.forall_mem_map.2 fun p hp => h.assignment hp

lemma getData : UsesIdentifiers (Entity.getData r) := by
  have hclass := h.className (mem_artifacts_of_isFixed (r := r) (a := .data) rfl)
  refine .of_parts (show HasIdentifierChars "getData" by decide) (List.forall_mem_nil _) ?_
  simp only [Entity.getData, Entity.getDataBody, List.forall_mem_append, List.forall_mem_cons, List.forall_mem_map]
  refine ⟨⟨⟨?_, List.forall_mem_nil _⟩, fun p hp => h.copyBack hp⟩, ?_⟩
  · simp +decide [Statement.texts, Expr.texts, Expr.textsOfArgs, Entity.dataVar, hclass]
  · decide

lemma methods_entity : ∀ m ∈ Entity.methods config r, UsesIdentifiers m := by
  have hedit : UsesIdentifiers (Entity.edit r) :=
    .of_parts (show HasIdentifierChars "edit" by decide) (List.forall_mem_singleton.2 dataParameter_words)
      (List.forall_mem_map.2 fun p hp => h.assignment hp)
  have hgetId : UsesIdentifiers (Entity.getId config) := by
    show ∀ word ∈ ["getId", "this", "id"], HasIdentifierChars word
    decide
  have hgetter : ∀ p ∈ r.properties, UsesIdentifiers (Entity.getter p) := by
    intro p hp
    have hget : HasIdentifierChars "get" := by decide
    have hname := h.name hp
    refine .of_parts (hget.append hname.capitalize) (List.forall_mem_nil _) (List.forall_mem_singleton.2 ?_)
    simp +decide [Statement.texts, Expr.texts, Expr.own, Expr.this, hname]
  simp only [Entity.methods, List.forall_mem_append, List.forall_mem_singleton, List.forall_mem_map]
  exact ⟨⟨⟨h.constructor_entity, forall_mem_ite_nil fun _ => List.forall_mem_cons.2
    ⟨hedit, List.forall_mem_singleton.2 h.getData⟩⟩, hgetId⟩, hgetter⟩

/-! ## The factory and the events -/

lemma create_factory : UsesIdentifiers (Factory.create config r) := by
  have hclass := h.className (mem_artifacts_of_isFixed (r := r) (a := .entity) rfl)
  refine .of_parts (show HasIdentifierChars "create" by decide) (List.forall_mem_singleton.2 dataParameter_words)
    (List.forall_mem_singleton.2 ?_)
  rw [Factory.creation]
  split <;> simp +decide [Statement.texts, Expr.texts, Expr.textsOfArgs, hclass]

lemma methods_event : ∀ m ∈ Event.methods r, UsesIdentifiers m := by
  have hvariable := h.variableOf
  have hget : HasIdentifierChars "get" := by decide
  refine List.forall_mem_cons.2 ⟨?_, List.forall_mem_singleton.2 ?_⟩
  · exact .of_parts (show HasIdentifierChars "__construct" by decide)
      (List.forall_mem_singleton.2 (List.forall_mem_singleton.2 hvariable)) nofun
  · refine .of_parts (hget.append hvariable.capitalize) (List.forall_mem_nil _) (List.forall_mem_singleton.2 ?_)
    simp +decide [Statement.texts, Expr.texts, Expr.own, Expr.this, hvariable]

/-! ## The repository -/

lemma single {name column : String} {parameter : Parameter} (hname : HasIdentifierChars name)
    (hcolumn : HasIdentifierChars column) (hparameter : ∀ word ∈ parameter.words, HasIdentifierChars word) :
    UsesIdentifiers (Repository.single r name column parameter) := by
  have hvariable := h.variableOf
  have hentity := h.className (mem_artifacts_of_isFixed (r := r) (a := .entity) rfl)
  have hnotFound := h.className (mem_artifacts_of_isFixed (r := r) (a := .notFound) rfl)
  have hparameterName : HasIdentifierChars parameter.name := hparameter _ List.mem_cons_self
  refine .of_parts hname (List.forall_mem_singleton.2 hparameter) ?_
  simp +decide [Repository.single, Repository.getByBody, Statement.texts, Expr.texts, hvariable, hentity, hnotFound,
    hcolumn, hparameterName]

lemma getAllBy (hp : p ∈ r.properties) : UsesIdentifiers (Repository.getAllBy config r p) := by
  have hstem : HasIdentifierChars Lookup.multi.stem := by decide
  have hname := h.name hp
  have hparameter : ∀ word ∈ (Artifact.lookupParameter config p).words, HasIdentifierChars word :=
    h.lookupParameter hp
  refine .of_parts (hstem.append hname.capitalize) (List.forall_mem_singleton.2 hparameter)
    (List.forall_mem_singleton.2 ?_)
  simp +decide [Statement.texts, hname.uncapitalize, hparameter _ List.mem_cons_self]

lemma methods_repository {single multi : List Property} (hlookups : ∀ p ∈ single ++ multi, p ∈ r.properties) :
    ∀ m ∈ Repository.methods config r single multi, UsesIdentifiers m := by
  obtain ⟨hsingle, hmulti⟩ := List.forall_mem_append.1 hlookups
  have hentity := h.className (mem_artifacts_of_isFixed (r := r) (a := .entity) rfl)
  have hgetRepository : UsesIdentifiers (Repository.getRepository r) := by
    refine .of_parts (show HasIdentifierChars "getRepository" by decide) (List.forall_mem_nil _)
      (List.forall_mem_singleton.2 ?_)
    simp +decide [Statement.texts, Expr.texts, Expr.textsOfArgs, Expr.own, Expr.this, hentity]
  have hget : UsesIdentifiers (Repository.get config r) := h.single (by decide) (by decide) idParameter_words
  have hgetBy : ∀ p ∈ r.properties, UsesIdentifiers (Repository.getBy config r p) := by
    intro p hp
    have hstem : HasIdentifierChars Lookup.single.stem := by decide
    have hname := h.name hp
    exact h.single (hstem.append hname.capitalize) hname.uncapitalize (h.lookupParameter hp)
  have hgetAll : UsesIdentifiers (Repository.getAll r) := by
    refine .of_parts (show HasIdentifierChars "getAll" by decide) (List.forall_mem_nil _)
      (List.forall_mem_singleton.2 ?_)
    decide
  have hfixed : UsesIdentifiers Repository.constructor ∧ UsesIdentifiers Repository.queryBuilderForAll ∧
      UsesIdentifiers Repository.queryBuilderForDataGrid := by
    refine ⟨?_, ?_, ?_⟩ <;> unfold UsesIdentifiers <;> decide
  simp only [Repository.methods, List.forall_mem_append, List.forall_mem_cons, List.forall_mem_map]
  exact ⟨⟨⟨⟨⟨hfixed.1, hgetRepository, hget, List.forall_mem_nil _⟩, fun p hp => hgetBy p (hsingle p hp)⟩,
    fun p hp => h.getAllBy (hmulti p hp)⟩, forall_mem_ite_nil fun _ => List.forall_mem_singleton.2 hgetAll⟩,
    hfixed.2.1, hfixed.2.2, List.forall_mem_nil _⟩

/-! ## The facade -/

lemma dispatch (event : String) : ∀ s ∈ Facade.dispatch r event, ∀ word ∈ s.texts, HasIdentifierChars word := by
  rw [Facade.dispatch]
  refine forall_mem_ite_nil fun hevent => List.forall_mem_singleton.2 ?_
  have hclass := h.className (event_mem_artifacts (List.contains_iff_mem.1 hevent))
  simp +decide [Statement.texts, Expr.texts, Expr.textsOfArgs, Expr.own, Expr.this, Facade.entityVar, hclass,
    h.variableOf]

lemma repositoryName : HasIdentifierChars (Facade.repositoryName r) :=
  (h.className (mem_artifacts_of_isFixed (r := r) (a := .repository) rfl)).uncapitalize

lemma factoryName : HasIdentifierChars (Facade.factoryName r) :=
  (h.className (mem_artifacts_of_isFixed (r := r) (a := .factory) rfl)).uncapitalize

lemma load : ∀ word ∈ (Facade.load r).texts, HasIdentifierChars word := by
  simp +decide [Facade.load, Statement.texts, Expr.texts, Expr.textsOfArgs, Expr.own, Expr.this, Facade.entityVar,
    h.repositoryName, h.variableOf]

lemma giveEntity : ∀ word ∈ (Statement.give (Facade.entityVar r)).texts, HasIdentifierChars word :=
  List.forall_mem_singleton.2 h.variableOf

/-- A call on the entity manager that hands over the entity. -/
lemma handOver {method : String} (hmethod : HasIdentifierChars method) :
    ∀ word ∈ (Statement.run (.call (.own "entityManager") method [Facade.entityVar r])).texts,
      HasIdentifierChars word := by
  simp +decide [Statement.texts, Expr.texts, Expr.textsOfArgs, Expr.own, Expr.this, Facade.entityVar, hmethod,
    h.variableOf]

lemma methods_facade : ∀ m ∈ Facade.methods config r, UsesIdentifiers m := by
  have hflush : ∀ word ∈ Facade.flush.texts, HasIdentifierChars word := by decide
  have hblank : ∀ word ∈ Statement.blank.texts, HasIdentifierChars word := nofun
  have hconstructor : UsesIdentifiers (Facade.constructor r) := by
    have hpromoted {name type : String} (hname : HasIdentifierChars name) :
        ∀ word ∈ (Facade.promoted name type).words, HasIdentifierChars word := List.forall_mem_singleton.2 hname
    refine .of_parts (show HasIdentifierChars "__construct" by decide) ?_ nofun
    simp only [Facade.constructor, List.forall_mem_append, List.forall_mem_cons]
    exact ⟨⟨hpromoted (by decide), hpromoted h.repositoryName, hpromoted h.factoryName, List.forall_mem_nil _⟩,
      forall_mem_ite (fun _ => List.forall_mem_nil _) fun _ => List.forall_mem_singleton.2 (hpromoted (by decide))⟩
  have hcreate : UsesIdentifiers (Facade.create r) := by
    refine .of_parts (show HasIdentifierChars "create" by decide) (List.forall_mem_singleton.2 dataParameter_words) ?_
    have hmake : ∀ word ∈ (Statement.assign (Facade.entityVar r)
        (.call (.own (Facade.factoryName r)) "create" [.var "data"])).texts, HasIdentifierChars word := by
      simp +decide [Statement.texts, Expr.texts, Expr.textsOfArgs, Expr.own, Expr.this, Facade.entityVar,
        h.factoryName, h.variableOf]
    simp only [Facade.create, Facade.createBody, List.forall_mem_append, List.forall_mem_cons]
    exact ⟨⟨⟨hmake, hblank, h.handOver (by decide), hflush, List.forall_mem_nil _⟩, h.dispatch "created"⟩, hblank,
      h.giveEntity, List.forall_mem_nil _⟩
  have hedit : UsesIdentifiers (Facade.edit config r) := by
    refine .of_parts (show HasIdentifierChars "edit" by decide)
      (List.forall_mem_cons.2 ⟨idParameter_words, List.forall_mem_singleton.2 dataParameter_words⟩) ?_
    have htake : ∀ word ∈ (Statement.run (.call (Facade.entityVar r) "edit" [.var "data"])).texts,
        HasIdentifierChars word := by
      simp +decide [Statement.texts, Expr.texts, Expr.textsOfArgs, Facade.entityVar, h.variableOf]
    simp only [Facade.edit, Facade.editBody, List.forall_mem_append, List.forall_mem_cons]
    exact ⟨⟨⟨h.load, htake, hblank, hflush, List.forall_mem_nil _⟩, h.dispatch "updated"⟩, hblank, h.giveEntity,
      List.forall_mem_nil _⟩
  have hdelete : UsesIdentifiers (Facade.delete config r) := by
    refine .of_parts (show HasIdentifierChars "delete" by decide) (List.forall_mem_singleton.2 idParameter_words) ?_
    simp only [Facade.delete, Facade.deleteBody, List.forall_mem_append, List.forall_mem_cons]
    exact ⟨⟨h.load, hblank, h.handOver (by decide), hflush, List.forall_mem_nil _⟩, h.dispatch "deleted"⟩
  simp only [Facade.methods, List.forall_mem_append, List.forall_mem_cons]
  exact ⟨⟨⟨hconstructor, hcreate, List.forall_mem_nil _⟩,
    forall_mem_ite_nil fun _ => List.forall_mem_singleton.2 hedit⟩,
    forall_mem_ite_nil fun _ => List.forall_mem_singleton.2 hdelete⟩

/-! ## The data object and its factory -/

omit h in
lemma initialValue (hp : p ∈ r.properties) : ∀ word ∈ (Data.initialValue p).toList, IsWord r word := by
  rw [Data.initialValue]
  split
  · next value hvalue => exact List.forall_mem_singleton.2 (.literal hp hvalue rfl)
  · split
    · exact List.forall_mem_singleton.2 (.identifier (by decide))
    · exact nofun

lemma member_data (hp : p ∈ r.properties) : ∀ word ∈ (Data.member p).words, IsWord r word := by
  have hname : IsWord r p.name := .identifier (h.name hp)
  rw [Data.member]
  split
  · exact List.forall_mem_cons.2 ⟨hname, List.forall_mem_singleton.2 (.emptyList rfl)⟩
  · exact List.forall_mem_cons.2 ⟨hname, initialValue hp⟩

lemma formValue (hp : p ∈ r.properties) :
    ∀ word ∈ (Statement.assign (.member (.var "data") p.name) (DataFactory.formValue p)).texts, IsWord r word := by
  have hname : IsWord r p.name := .identifier (h.name hp)
  have hdata : IsWord r "data" ∧ IsWord r "formData" := ⟨.identifier (by decide), .identifier (by decide)⟩
  have hfallback : ∀ word ∈ (DataFactory.fallback p).toList, IsWord r word := by
    rw [DataFactory.fallback]
    split
    · exact List.forall_mem_singleton.2 (.emptyList rfl)
    · exact initialValue hp
  rw [DataFactory.formValue]
  split
  · next literal hliteral =>
    rw [hliteral] at hfallback
    simp [Statement.texts, Expr.texts, hname, hdata, hfallback literal List.mem_cons_self]
  · simp [Statement.texts, Expr.texts, hname, hdata]

lemma method_dataFactory : ∀ m ∈ (DataFactory.unit r).declaration.methods, ∀ word ∈ m.words, IsWord r word := by
  have hclass : IsWord r (r.className .data) := .identifier (h.className (mem_artifacts_of_isFixed rfl))
  have hdata : IsWord r "data" := .identifier (by decide)
  have hformData : IsWord r "formData" := .identifier (by decide)
  refine List.forall_mem_singleton.2
    (forall_mem_words (.identifier (show HasIdentifierChars "createFromFormArray" by decide)) ?_ ?_)
  · exact List.forall_mem_singleton.2 (List.forall_mem_singleton.2 hformData)
  · simp only [DataFactory.body, List.forall_mem_append, List.forall_mem_cons, List.forall_mem_map]
    refine ⟨⟨⟨?_, List.forall_mem_nil _⟩, fun p hp => h.formValue hp⟩, nofun, List.forall_mem_singleton.2 hdata,
      List.forall_mem_nil _⟩
    simp [Statement.texts, Expr.texts, Expr.textsOfArgs, hclass, hdata]

end HasIdentifiers

/-! ## All units -/

/-- The words of a unit, part by part. -/
lemma forall_mem_words_unit {P : String → Prop} {u : SourceUnit} (hname : P u.declaration.name)
    (hmembers : ∀ m ∈ u.declaration.members, ∀ word ∈ m.words, P word)
    (hmethods : ∀ m ∈ u.declaration.methods, ∀ word ∈ m.words, P word) : ∀ word ∈ u.words, P word := by
  simp only [SourceUnit.words, List.forall_mem_cons, List.forall_mem_append, List.forall_mem_flatMap]
  exact ⟨hname, hmembers, hmethods⟩

/-- The words of all units are identifiers, empty lists and literals of defaults. -/
theorem isWord_of_mem_words (h : HasIdentifiers r) (hr : r.IsConsistent) (ha : a ∈ artifacts r) :
    ∀ word ∈ (unitAt config r a).words, IsWord r word := by
  have hname : IsWord r (unitAt config r a).declaration.name := by
    rw [name_unitAt hr]
    exact .identifier (h.className ha)
  have hidentifiers {methods : List Method} (hmethods : ∀ m ∈ methods, UsesIdentifiers m) :
      ∀ m ∈ methods, ∀ word ∈ m.words, IsWord r word := fun m hm word hword => .identifier (hmethods m hm word hword)
  cases a with
  | entity =>
    have hid : IsWord r "id" := .identifier (by decide)
    have hmembers : ∀ m ∈ Entity.idMember config :: r.properties.map (Entity.member r),
        ∀ word ∈ m.words, IsWord r word := by
      refine List.forall_mem_cons.2 ⟨List.forall_mem_singleton.2 hid, List.forall_mem_map.2 fun p hp => ?_⟩
      have hproperty : IsWord r p.name := .identifier (h.name hp)
      rw [Entity.member]
      split
      · exact List.forall_mem_singleton.2 hproperty
      · simp only
        split <;> exact List.forall_mem_singleton.2 hproperty
    exact forall_mem_words_unit hname hmembers (hidentifiers h.methods_entity)
  | data => exact forall_mem_words_unit hname (List.forall_mem_map.2 fun p hp => h.member_data hp) nofun
  | factory =>
    exact forall_mem_words_unit hname nofun (hidentifiers (List.forall_mem_singleton.2 h.create_factory))
  | repository =>
    obtain ⟨single, multi, hlookups, hunit⟩ := exists_repository hr config
    rw [unitAt_eq hunit] at hname ⊢
    exact forall_mem_words_unit hname nofun (hidentifiers (h.methods_repository hlookups))
  | facade => exact forall_mem_words_unit hname nofun (hidentifiers h.methods_facade)
  | notFound => exact forall_mem_words_unit hname nofun nofun
  | event name => exact forall_mem_words_unit hname nofun (hidentifiers h.methods_event)
  | dataFactory => exact forall_mem_words_unit hname nofun h.method_dataFactory

end EntityScaffold.Scaffold
