import EntityScaffold.Proofs.Scaffold.FacadeCalls
/-!
# The units of a record fit together

The references and the calls of all units, put together: whatever features, lookups, events and properties a
consistent record has, its units name only classes that are there, and call only what is declared.

A class of the framework counts as there, also if a unit happens to have its name.  So that this does not hide
a call between units, `FitTogether` says separately that what the factory and the facade create, and what the
facade calls on the objects that it holds, is declared by the unit in question; `FacadeCall` lists what can be
called there.
-/

namespace EntityScaffold.Scaffold

open Source Artifact

attribute [local irreducible] ClassName.qualify Config.usesUuid

variable {config : Config} {r : Record} {a b : Artifact} {site : CallSite}

/-! ## Calls of the facade -/

/-- Where the facade has the object of another artifact: the factory and the repository in members, and the
entity in a variable. -/
def objectOf? (r : Record) : Artifact → Option Expr
  | .factory => some (.own (Facade.factoryName r))
  | .repository => some (.own (Facade.repositoryName r))
  | .entity => some (Facade.entityVar r)
  | _ => none

/-- What a facade can call. -/
inductive FacadeCall (r : Record) : CallSite → Prop
  | create : FacadeCall r (.method (.own (Facade.factoryName r)) "create" 1)
  | get : FacadeCall r (.method (.own (Facade.repositoryName r)) "get" 1)
  | edit (h : r.features.edit = true) : FacadeCall r (.method (Facade.entityVar r) "edit" 1)
  | manager (name : String) (arguments : Nat) :
    FacadeCall r (.method (.own "entityManager") name arguments)
  | dispatcher : FacadeCall r (.method (.own "eventDispatcher") "dispatch" 1)
  | event (name : String) : FacadeCall r (.creation (r.className (.event name)) 1)

/-- What a body of the facade calls. -/
def CallsOnly (r : Record) (body : List Statement) : Prop :=
  ∀ s ∈ body, ∀ site ∈ s.calls, FacadeCall r site

lemma callsOnly_dispatch (r : Record) (event : String) : CallsOnly r (Facade.dispatch r event) := by
  refine forall_mem_ite (fun _ => List.forall_mem_singleton.2 ?_) nofun
  exact List.forall_mem_cons.2 ⟨.dispatcher, List.forall_mem_singleton.2 (.event event)⟩

lemma callsOnly_createBody (r : Record) : CallsOnly r (Facade.createBody r) := by
  refine List.forall_mem_append.2 ⟨List.forall_mem_append.2 ⟨?_, callsOnly_dispatch r "created"⟩, ?_⟩
  · simp only [List.forall_mem_cons]
    exact ⟨List.forall_mem_singleton.2 .create, nofun, List.forall_mem_singleton.2 (.manager ..),
      List.forall_mem_singleton.2 (.manager ..), nofun⟩
  · exact List.forall_mem_cons.2 ⟨nofun, List.forall_mem_singleton.2 nofun⟩

lemma callsOnly_editBody (hedit : r.features.edit = true) : CallsOnly r (Facade.editBody r) := by
  refine List.forall_mem_append.2 ⟨List.forall_mem_append.2 ⟨?_, callsOnly_dispatch r "updated"⟩, ?_⟩
  · simp only [List.forall_mem_cons]
    exact ⟨List.forall_mem_singleton.2 .get, List.forall_mem_singleton.2 (.edit hedit), nofun,
      List.forall_mem_singleton.2 (.manager ..), nofun⟩
  · exact List.forall_mem_cons.2 ⟨nofun, List.forall_mem_singleton.2 nofun⟩

lemma callsOnly_deleteBody (r : Record) : CallsOnly r (Facade.deleteBody r) := by
  refine List.forall_mem_append.2 ⟨?_, callsOnly_dispatch r "deleted"⟩
  simp only [List.forall_mem_cons]
  exact ⟨List.forall_mem_singleton.2 .get, nofun, List.forall_mem_singleton.2 (.manager ..),
    List.forall_mem_singleton.2 (.manager ..), nofun⟩

lemma facadeCall_of_makes (h : (unitAt config r .facade).Makes site) : FacadeCall r site := by
  have hmethods : ∀ m ∈ Facade.methods config r, CallsOnly r m.body := by
    unfold Facade.methods
    simp only [List.forall_mem_append, List.forall_mem_cons]
    refine ⟨⟨⟨nofun, callsOnly_createBody r, nofun⟩, forall_mem_ite (fun hedit => ?_) nofun⟩,
      forall_mem_ite (fun _ => ?_) nofun⟩
    · exact List.forall_mem_singleton.2 (callsOnly_editBody hedit)
    · exact List.forall_mem_singleton.2 (callsOnly_deleteBody r)
  obtain ⟨m, hm, s, hs, hsite⟩ := h
  exact hmethods m hm s hs site hsite

/-- Members of the facade hold a factory or a repository. -/
lemma objectOf?_eq_own {name : String} (h : objectOf? r a = some (.own name)) :
    a = .factory ∧ Facade.factoryName r = name ∨ a = .repository ∧ Facade.repositoryName r = name := by
  cases a with
  | factory =>
    injection h with h
    injection h with _ h
    exact .inl ⟨rfl, h⟩
  | repository =>
    injection h with h
    injection h with _ h
    exact .inr ⟨rfl, h⟩
  | entity =>
    injection h with h
    cases h
  | _ => cases h

lemma objectOf?_eq_entityVar (h : objectOf? r a = some (Facade.entityVar r)) : a = .entity := by
  cases a with
  | entity => rfl
  | factory | repository =>
    injection h with h
    cases h
  | _ => cases h

/-- What the facade calls on the object of an artifact is declared by the artifact. -/
lemma declares_of_makes (h : r.IsConsistent) {object : Expr} {name : String} {arguments : Nat}
    (hobject : objectOf? r a = some object)
    (hmakes : (unitAt config r .facade).Makes (.method object name arguments)) :
    (unitAt config r a).declaration.Declares name arguments := by
  have hcall := facadeCall_of_makes hmakes
  generalize hsite : CallSite.method object name arguments = site at hcall
  cases hcall with
  | event name => cases hsite
  | create =>
    obtain ⟨hown, hname, hcount⟩ := CallSite.method.inj hsite
    rw [hown] at hobject
    rw [hname, hcount]
    rcases objectOf?_eq_own hobject with ⟨rfl, -⟩ | ⟨-, heq⟩
    · exact ⟨Factory.create config r, rfl, rfl⟩
    · exact absurd heq.symm (factoryName_ne_repositoryName r)
  | get =>
    obtain ⟨hown, hname, hcount⟩ := CallSite.method.inj hsite
    rw [hown] at hobject
    rw [hname, hcount]
    rcases objectOf?_eq_own hobject with ⟨-, heq⟩ | ⟨rfl, -⟩
    · exact absurd heq (factoryName_ne_repositoryName r)
    · exact ⟨Repository.get config r, method?_get h, rfl⟩
  | edit hedit =>
    obtain ⟨hown, hname, hcount⟩ := CallSite.method.inj hsite
    rw [hown] at hobject
    rw [hname, hcount, objectOf?_eq_entityVar hobject]
    exact declares_edit hedit
  | manager =>
    obtain ⟨hown, -, -⟩ := CallSite.method.inj hsite
    rw [hown] at hobject
    rcases objectOf?_eq_own hobject with ⟨-, heq⟩ | ⟨-, heq⟩
    · exact absurd heq (factoryName_ne_manager r)
    · exact absurd heq (repositoryName_ne_manager r)
  | dispatcher =>
    obtain ⟨hown, -, -⟩ := CallSite.method.inj hsite
    rw [hown] at hobject
    rcases objectOf?_eq_own hobject with ⟨-, heq⟩ | ⟨-, heq⟩
    · exact absurd heq (factoryName_ne_dispatcher r)
    · exact absurd heq (repositoryName_ne_dispatcher r)

/-! ## Creations -/

lemma eq_entity_of_className (h : r.className a = r.className .entity) : a = .entity := by
  have hending : a.ending = Artifact.entity.ending := (String.append_right_inj _).1 h
  cases a with
  | event name =>
    have hempty : Naming.pascal name ++ "Event" = "" := hending
    exact absurd (String.append_eq_empty_iff.1 hempty).2 (by decide)
  | entity => rfl
  | _ => exact absurd hending (by decide)

/-- Only the class of an event is named like that of an event. -/
lemma exists_event_of_className {name : String} (h : r.className a = r.className (.event name)) :
    ∃ other, a = .event other := by
  have hending : a.ending = (Artifact.event name).ending := (String.append_right_inj _).1 h
  have hlast : a.lastChar = some 't' := by
    rw [← Artifact.getLast?_ending, hending, Artifact.getLast?_ending]
    rfl
  cases a with
  | event other => exact ⟨other, rfl⟩
  | _ => exact absurd hlast (by decide)

/-- What the factory creates has a constructor for it. -/
lemma constructorArity_of_factory {arguments : Nat}
    (hmakes : (unitAt config r .factory).Makes (.creation (r.className a) arguments)) :
    (unitAt config r a).declaration.constructorArity = arguments := by
  obtain ⟨m, hm, s, hs, hsite⟩ := hmakes
  obtain rfl : m = Factory.create config r := List.mem_singleton.1 hm
  obtain rfl : s = .give (Factory.creation config r) := List.mem_singleton.1 hs
  have hcalls : (Factory.creation config r).calls =
      .creation (r.className .entity) (if config.usesUuid then 2 else 1) ::
        if config.usesUuid then [.static "Uuid"] else [] := by
    unfold Factory.creation
    split <;> rfl
  have hcreation : CallSite.creation (r.className a) arguments =
      .creation (r.className .entity) (if config.usesUuid then 2 else 1) := by
    have hsite : CallSite.creation (r.className a) arguments ∈ (Factory.creation config r).calls := hsite
    rw [hcalls, List.mem_cons] at hsite
    rcases hsite with hsite | hsite
    · exact hsite
    · split at hsite
      · cases List.mem_singleton.1 hsite
      · cases hsite
  obtain ⟨hname, hcount⟩ := CallSite.creation.inj hcreation
  rw [eq_entity_of_className hname, constructorArity_entity, hcount]

/-- What the facade creates has a constructor for it. -/
lemma constructorArity_of_facade {arguments : Nat}
    (hmakes : (unitAt config r .facade).Makes (.creation (r.className a) arguments)) :
    (unitAt config r a).declaration.constructorArity = arguments := by
  have hcall := facadeCall_of_makes hmakes
  generalize hsite : CallSite.creation (r.className a) arguments = site at hcall
  cases hcall with
  | event name =>
    obtain ⟨hname, hcount⟩ := CallSite.creation.inj hsite
    obtain ⟨other, rfl⟩ := exists_event_of_className hname
    rw [hcount]
    rfl
  | _ => cases hsite

/-! ## All units -/

/-- The calls of every unit are linked. -/
lemma linked_unitAt (h : r.IsConsistent) (a : Artifact) :
    ∀ m ∈ (unitAt config r a).declaration.methods, LinkedMethod config r (unitAt config r a) m := by
  cases a with
  | entity => exact linked_entity h
  | data | notFound => nofun
  | factory => exact linked_factory h
  | repository => exact linked_repository h
  | facade => exact linked_facade h
  | event name =>
    refine List.forall_mem_cons.2 ⟨linked_nil, List.forall_mem_singleton.2 ?_⟩
    exact linked_of_noCalls (List.forall_mem_singleton.2 rfl)
  | dataFactory => exact linked_dataFactory h

/-- Units that name only classes which are there, and call only what is declared. -/
structure FitTogether (config : Config) (r : Record) (units : List (Artifact × SourceUnit)) : Prop where
  references : ∀ u ∈ units.map (·.2), ∀ name ∈ u.references, IsKnown config r (units.map (·.2)) name
  calls : ∀ u ∈ units.map (·.2), ∀ m ∈ u.declaration.methods,
    ∀ c ∈ m.callSites (units.map (·.2)) u, c.2.IsLinked (units.map (·.2)) u frameworkClasses c.1
  /-- The entity is created from an identifier and its data under the UUID strategy only. -/
  entity : ∀ u, (.entity, u) ∈ units →
    u.declaration.constructorArity = if config.usesUuid then 2 else 1
  /-- What the factory and the facade create has a constructor with as many parameters. -/
  created : ∀ a u b v arguments, a ∈ [Artifact.factory, .facade] → (a, u) ∈ units → (b, v) ∈ units →
    u.Makes (.creation (r.className b) arguments) → v.declaration.constructorArity = arguments
  /-- What the facade calls on the object of a unit is declared there. -/
  held : ∀ u b v object name arguments, (.facade, u) ∈ units → (b, v) ∈ units →
    objectOf? r b = some object → u.Makes (.method object name arguments) →
    v.declaration.Declares name arguments

/-- The units of a record that passes the check fit together, under every configuration; only where a number cannot be
shown there are none. -/
theorem units_fit_together (config : Config) (r : Record) (h : r.validate = .ok ()) :
    HasUnits config r (FitTogether config r) := by
  have hconsistent : r.IsConsistent := Record.isConsistent_of_validate h
  have hunits : ((artifacts r).map fun a => (a, unitAt config r a)).map (·.2) = siblings config r := by
    rw [List.map_map]
    rfl
  refine hasUnits h config ⟨?_, ?_, ?_, ?_, ?_⟩
  · rw [hunits]
    exact List.forall_mem_map.2 fun a _ => isKnown_of_mem_references hconsistent a
  · rw [hunits]
    exact List.forall_mem_map.2 fun a _ => linked_unitAt hconsistent a
  · intro u hu
    rw [eq_unitAt hu]
    exact constructorArity_entity config r
  · intro a u b v arguments ha hu hv hmakes
    rw [eq_unitAt hu] at hmakes
    rw [eq_unitAt hv]
    rcases List.mem_pair.1 ha with rfl | rfl
    · exact constructorArity_of_factory hmakes
    · exact constructorArity_of_facade hmakes
  · intro u b v object name arguments hu hv hobject hmakes
    rw [eq_unitAt hu] at hmakes
    rw [eq_unitAt hv]
    exact declares_of_makes hconsistent hobject hmakes

/-- An article with a title to look it up by, any number of authors, and events of which one belongs to the
lifecycle. -/
def article : Record where
  space := "App\\Model"
  entityName := "Article"
  properties :=
    [{ name := "title", expression := "string", kind := .scalar "string" none, storage := some "string"
       nullable := false, modifiers := {} },
      { name := "authors", expression := "User", storage := none, nullable := false, modifiers := {}
        kind := .relation (.build "App\\Model\\User" .manyToMany false none false) }]
  getBy := ["title"]
  events := ["created", "put_aside"]

theorem article_units_fit_together :
    article.validate = .ok () ∧ ∃ us, units {} article = .ok us ∧ us.map (·.1) = artifacts article ∧
      FitTogether {} article us := by
  have hvalid : article.validate = .ok () := by decide +kernel
  exact ⟨hvalid, (units_fit_together {} article hvalid).exists_units (by decide)⟩

end EntityScaffold.Scaffold
