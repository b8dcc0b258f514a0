import EntityScaffold.Proofs.Scaffold.Dispatch
import EntityScaffold.Proofs.Scaffold.RepositoryMethods
import EntityScaffold.Proofs.Source.Evaluation
/-!
# Variables that are taken already

The methods of a facade take an identifier and data under fixed names, and put the entity into a variable of their own,
which is called like the entity.  Nothing keeps the two apart but the names.  An entity `Data` is loaded into the
variable in which its new data came, and then it is edited with itself: what the data was is gone.  The names `id` and
`data` are refused to properties, for the getters that they would make, and not to entities.

No variable may be called `this`, as a parameter or by an assignment.  Every variable of every unit has one of few
kinds of names (`IsVariable`), so the question is which of them can be that.  The entity's own is, if the entity is
called `This`, and so is that of a lookup by a scalar of this name; a lookup by a relation takes a parameter that ends
otherwise.

All this is exact (`facade_keeps_parameters_iff`): outside the named cases, parameters hold at the end of every method
what was given for them, the entity is edited with the data of the caller, and no variable is called `this`.
-/

namespace EntityScaffold

open Source Artifact Text

/-- Rows are looked up by a property. -/
def Record.IsLookedUp (r : Record) (p : Property) : Prop :=
  p ∈ r.properties ∧ ∃ lookup, p.name ∈ r.lookupFields lookup

namespace Scaffold

attribute [local irreducible] ClassName.qualify Config.usesUuid

variable {config : Config} {r : Record} {p : Property} {m : Method} {name : String} {single multi : List Property}
  {lookup : Lookup} {a : Artifact}

/-! ## What the facade assigns -/

lemma assignedIn_dispatch (r : Record) (event : String) : assignedIn (Facade.dispatch r event) = [] :=
  assignedIn_eq_nil (forall_mem_ite (fun _ => List.forall_mem_singleton.2 rfl) nofun)

lemma assigned_create (r : Record) : (Facade.create r).assigned = [variableOf r] := by
  show assignedIn (Facade.createBody r) = _
  rw [Facade.createBody, assignedIn_append, assignedIn_append, assignedIn_dispatch]
  rfl

lemma assigned_edit (config : Config) (r : Record) : (Facade.edit config r).assigned = [variableOf r] := by
  show assignedIn (Facade.editBody r) = _
  rw [Facade.editBody, assignedIn_append, assignedIn_append, assignedIn_dispatch]
  rfl

lemma assigned_delete (config : Config) (r : Record) : (Facade.delete config r).assigned = [variableOf r] := by
  show assignedIn (Facade.deleteBody r) = _
  rw [Facade.deleteBody, assignedIn_append, assignedIn_dispatch]
  rfl

/-- The methods of a facade keep their parameters if the entity is called like none of them. -/
lemma keepsParameters_facade_iff (hedit : r.features.edit = true) :
    (∀ m ∈ Facade.methods config r, m.KeepsParameters) ↔ variableOf r ∉ ["id", "data"] := by
  have hcreate : (Facade.create r).KeepsParameters ↔ variableOf r ∉ ["data"] :=
    keepsParameters_iff rfl (assigned_create r) nofun
  have hediting : (Facade.edit config r).KeepsParameters ↔ variableOf r ∉ ["id", "data"] :=
    keepsParameters_iff rfl (assigned_edit config r) nofun
  have hdelete : (Facade.delete config r).KeepsParameters ↔ variableOf r ∉ ["id"] :=
    keepsParameters_iff rfl (assigned_delete config r) nofun
  constructor
  · intro hall
    exact hediting.1 (hall _ (mem_methods_facade_iff.2 (.inr (.inr (.inl ⟨hedit, rfl⟩)))))
  · intro hapart m hm
    have hapart' := hapart
    rw [List.mem_cons, not_or] at hapart'
    rcases mem_methods_facade_iff.1 hm with rfl | rfl | ⟨-, rfl⟩ | ⟨-, rfl⟩
    · exact keepsParameters_of_assigned rfl
    · exact hcreate.2 hapart'.2
    · exact hediting.2 hapart
    · exact hdelete.2 (mt List.mem_singleton.1 hapart'.1)

/-! ## What the facade edits with -/

/-- The entity as the facade loads it. -/
def loadedEntity (r : Record) : Expr := .call (.own (Facade.repositoryName r)) "get" [.var "id"]

/-- The loaded entity is edited, and nothing else is, with what the variable of the data then holds. -/
lemma callsTo_edit (config : Config) (r : Record) : (Facade.edit config r).execution.callsTo "edit" =
    [.call (loadedEntity r) "edit" [Store.given.set (variableOf r) (loadedEntity r) "data"]] := by
  have hdispatch : ∀ s ∈ Facade.dispatch r "updated", s.mayCall "edit" = false :=
    forall_mem_ite (fun _ => List.forall_mem_singleton.2 rfl) nofun
  have hlast : ∀ s ∈ [Statement.blank, .give (Facade.entityVar r)], s.mayCall "edit" = false :=
    List.forall_mem_cons.2 ⟨rfl, List.forall_mem_singleton.2 rfl⟩
  have hwritten : ∀ s ∈ [Statement.blank, Facade.flush], s.mayCall "edit" = false :=
    List.forall_mem_cons.2 ⟨rfl, List.forall_mem_singleton.2 rfl⟩
  have hsplit : [Facade.load r, .run (.call (Facade.entityVar r) "edit" [.var "data"]), .blank, Facade.flush] =
      [Facade.load r, .run (.call (Facade.entityVar r) "edit" [.var "data"])] ++ [.blank, Facade.flush] := rfl
  show (execute {} (Facade.editBody r)).callsTo "edit" = _
  -- Nothing behind the first two statements can call `edit`, so that the store after them decides.
  rw [Facade.editBody, hsplit, execute_append, execute_append, execute_append, callsTo_execute _ hlast,
    callsTo_execute _ hdispatch, callsTo_execute _ hwritten]
  have hloaded : Store.given.set (variableOf r) (loadedEntity r) (variableOf r) = loadedEntity r := Store.set_self
  show [Expr.call (Store.given.set (variableOf r) (loadedEntity r) (variableOf r)) "edit" _] = _
  rw [hloaded]
  rfl

/-- The data of the caller is what the entity is edited with, unless its variable is taken for the entity. -/
lemma exists_callsTo_edit (config : Config) (r : Record) :
    ∃ value, (Facade.edit config r).execution.callsTo "edit" = [.call (loadedEntity r) "edit" [value]] ∧
      (value = .var "data" ↔ variableOf r ≠ "data") ∧ (value = loadedEntity r ↔ variableOf r = "data") := by
  refine ⟨_, callsTo_edit config r, ?_⟩
  by_cases hname : variableOf r = "data"
  · rw [← hname, Store.set_self]
    exact ⟨iff_of_false nofun (not_not_intro rfl), iff_of_true rfl rfl⟩
  · rw [Store.set_of_ne (Ne.symm hname)]
    exact ⟨iff_of_true rfl hname, iff_of_false nofun hname⟩

/-! ## Names of variables -/

/-- The names of the variables in the units of a record. -/
@[mk_iff] inductive IsVariable (config : Config) (r : Record) : String → Prop
  | fixed {name : String} (h : name ∈ ["id", "data", "formData", "entityManager", "eventDispatcher"]) :
    IsVariable config r name
  | repository : IsVariable config r (Facade.repositoryName r)
  | factory : IsVariable config r (Facade.factoryName r)
  | entity : IsVariable config r (variableOf r)
  | lookup {p : Property} (h : r.IsLookedUp p) : IsVariable config r (lookupParameter config p).name

/-- The variables of a method have names of these kinds. -/
def HasNames (config : Config) (r : Record) (m : Method) : Prop := ∀ name ∈ m.variables, IsVariable config r name

lemma isVariable_id : IsVariable config r "id" := .fixed (by decide)

lemma isVariable_data : IsVariable config r "data" := .fixed (by decide)

lemma hasNames_constructor_entity : HasNames config r (Entity.constructor config r) := by
  have hedit : ∀ s ∈ (r.properties.filter (·.isCollection)).map Entity.emptyCollection ++
      [Statement.run (.call .this "edit" [Entity.dataVar])], s.assigned = none :=
    List.forall_mem_append.2 ⟨List.forall_mem_map.2 fun _ _ => rfl, List.forall_mem_singleton.2 rfl⟩
  have hcopy : ∀ s ∈ r.properties.map Entity.assignment, s.assigned = none := List.forall_mem_map.2 fun _ _ => rfl
  have hassigned : (Entity.constructor config r).assigned = [] := by
    refine assignedIn_eq_nil (List.forall_mem_append.2 ⟨?_, ?_⟩)
    · exact forall_mem_ite (fun _ => List.forall_mem_singleton.2 rfl) nofun
    · exact forall_mem_ite (fun _ => hedit) fun _ => hcopy
  refine forall_mem_variables.2 ⟨List.forall_mem_append.2 ⟨?_, ?_⟩, hassigned ▸ nofun⟩
  · exact forall_mem_ite (fun _ => List.forall_mem_singleton.2 isVariable_id) nofun
  · exact List.forall_mem_singleton.2 isVariable_data

lemma hasNames_edit_entity : HasNames config r (Entity.edit r) := by
  have hassigned : (Entity.edit r).assigned = [] := assignedIn_eq_nil (List.forall_mem_map.2 fun _ _ => rfl)
  exact forall_mem_variables.2 ⟨List.forall_mem_singleton.2 isVariable_data, hassigned ▸ nofun⟩

lemma hasNames_getData : HasNames config r (Entity.getData r) := by
  have hcopies : assignedIn (r.properties.map Entity.copyBack) = [] :=
    assignedIn_eq_nil (List.forall_mem_map.2 fun _ _ => rfl)
  have hassigned : (Entity.getData r).assigned = ["data"] := by
    show assignedIn (Entity.getDataBody r) = _
    rw [Entity.getDataBody, assignedIn_append, assignedIn_append, hcopies]
    rfl
  exact forall_mem_variables.2 ⟨nofun, hassigned ▸ List.forall_mem_singleton.2 isVariable_data⟩

lemma hasNames_methods_entity : ∀ m ∈ Entity.methods config r, HasNames config r m := by
  unfold Entity.methods
  simp only [List.forall_mem_append, List.forall_mem_singleton, List.forall_mem_map]
  refine ⟨⟨⟨hasNames_constructor_entity, ?_⟩, nofun⟩, fun _ _ => nofun⟩
  exact forall_mem_ite
    (fun _ => List.forall_mem_cons.2 ⟨hasNames_edit_entity, List.forall_mem_singleton.2 hasNames_getData⟩) nofun

lemma hasNames_methods_facade : ∀ m ∈ Facade.methods config r, HasNames config r m := by
  have hentity : ∀ name ∈ [variableOf r], IsVariable config r name := List.forall_mem_singleton.2 .entity
  have hdata : ∀ p ∈ [dataParameter r], IsVariable config r p.name := List.forall_mem_singleton.2 isVariable_data
  intro m hm
  rcases mem_methods_facade_iff.1 hm with rfl | rfl | ⟨-, rfl⟩ | ⟨-, rfl⟩
  · refine forall_mem_variables.2 ⟨List.forall_mem_append.2 ⟨?_, ?_⟩, nofun⟩
    · refine List.forall_mem_cons.2 ⟨.fixed (by decide), List.forall_mem_cons.2 ⟨.repository, ?_⟩⟩
      exact List.forall_mem_singleton.2 .factory
    · exact forall_mem_ite nofun fun _ => List.forall_mem_singleton.2 (.fixed (by decide))
  · exact forall_mem_variables.2 ⟨hdata, assigned_create r ▸ hentity⟩
  · exact forall_mem_variables.2 ⟨List.forall_mem_cons.2 ⟨isVariable_id, hdata⟩, assigned_edit config r ▸ hentity⟩
  · exact forall_mem_variables.2
      ⟨List.forall_mem_singleton.2 isVariable_id, assigned_delete config r ▸ hentity⟩

/-- A lookup takes its parameter, and puts what it finds into the variable of the entity. -/
lemma hasNames_lookupMethod (h : r.IsLookedUp p) (lookup : Lookup) :
    HasNames config r (lookupMethod config r lookup p) := by
  have hparameter : ∀ q ∈ [lookupParameter config p], IsVariable config r q.name :=
    List.forall_mem_singleton.2 (.lookup h)
  cases lookup with
  | single => exact forall_mem_variables.2 ⟨hparameter, List.forall_mem_singleton.2 .entity⟩
  | multi => exact forall_mem_variables.2 ⟨hparameter, nofun⟩

lemma hasNames_methods_repository (hsingle : ∀ p ∈ single, r.IsLookedUp p) (hmulti : ∀ p ∈ multi, r.IsLookedUp p) :
    ∀ m ∈ Repository.methods config r single multi, HasNames config r m := by
  have hconstructor : HasNames config r Repository.constructor :=
    forall_mem_variables.2 ⟨List.forall_mem_singleton.2 (.fixed (by decide)), nofun⟩
  have hget : HasNames config r (Repository.get config r) :=
    forall_mem_variables.2 ⟨List.forall_mem_singleton.2 isVariable_id, List.forall_mem_singleton.2 .entity⟩
  unfold Repository.methods
  simp only [List.forall_mem_append, List.forall_mem_cons, List.forall_mem_map]
  refine ⟨⟨⟨⟨⟨hconstructor, nofun, hget, nofun⟩, ?_⟩, ?_⟩, ?_⟩, nofun, nofun, nofun⟩
  · exact fun p hp => hasNames_lookupMethod (hsingle p hp) .single
  · exact fun p hp => hasNames_lookupMethod (hmulti p hp) .multi
  · exact forall_mem_ite (fun _ => List.forall_mem_singleton.2 nofun) nofun

/-- What is found for the fields of a lookup is looked up. -/
lemma isLookedUp_of_propertiesOf (lookup : Lookup) {ps : List Property}
    (hps : r.propertiesOf (r.lookupFields lookup) = .ok ps) (hdeclared : ∀ p ∈ ps, p ∈ r.properties) :
    ∀ p ∈ ps, r.IsLookedUp p := by
  intro p hp
  refine ⟨hdeclared p hp, lookup, ?_⟩
  rw [← Record.names_propertiesOf hps]
  exact List.mem_map_of_mem hp

/-- Every variable of every unit has a name of these kinds. -/
lemma hasNames_unitAt (h : r.IsConsistent) (config : Config) (a : Artifact) :
    ∀ m ∈ (unitAt config r a).declaration.methods, HasNames config r m := by
  cases a with
  | entity => exact hasNames_methods_entity
  | data | notFound => exact nofun
  | factory =>
    have hcreate : HasNames config r (Factory.create config r) :=
      forall_mem_variables.2 ⟨List.forall_mem_singleton.2 isVariable_data, nofun⟩
    exact List.forall_mem_singleton.2 hcreate
  | repository =>
    obtain ⟨single, multi, hsingle, hmulti, hdeclared, hunit⟩ := exists_lookups h config
    obtain ⟨hsingles, hmultis⟩ := List.forall_mem_append.1 hdeclared
    rw [hunit]
    exact hasNames_methods_repository (isLookedUp_of_propertiesOf .single hsingle hsingles)
      (isLookedUp_of_propertiesOf .multi hmulti hmultis)
  | facade => exact hasNames_methods_facade
  | event name =>
    have hconstructor : ∀ p ∈ [variableOf r], IsVariable config r p := List.forall_mem_singleton.2 .entity
    exact List.forall_mem_cons.2 ⟨hconstructor, List.forall_mem_singleton.2 nofun⟩
  | dataFactory =>
    have hassigned : assignedIn (DataFactory.body r) = ["data"] := by
      have hfilled : assignedIn (r.properties.map fun p => .assign (.member (.var "data") p.name)
          (DataFactory.formValue p)) = [] := assignedIn_eq_nil (List.forall_mem_map.2 fun _ _ => rfl)
      rw [DataFactory.body, assignedIn_append, assignedIn_append, hfilled]
      rfl
    refine List.forall_mem_singleton.2 (forall_mem_variables.2 ⟨List.forall_mem_singleton.2 (.fixed (by decide)), ?_⟩)
    show ∀ name ∈ assignedIn (DataFactory.body r), IsVariable config r name
    exact hassigned ▸ List.forall_mem_singleton.2 isVariable_data

/-! ## Which variables are called otherwise than they should -/

lemma variableOf_eq_iff (hname : isIdentifier r.entityName = true) {word : String}
    (hword : uncapitalize word = word) (hcapital : uncapitalize (capitalize word) = word) :
    variableOf r = word ↔ r.entityName ∈ [word, capitalize word] :=
  (HasIdentifierChars.of_isIdentifier hname).uncapitalize_eq_iff hword hcapital

/-- The parameter of a lookup is called `this` only if the lookup is by a scalar of this name. -/
lemma name_lookupParameter_eq_this_iff (h : r.IsConsistent) (hp : p ∈ r.properties) :
    (lookupParameter config p).name = "this" ↔ p.isRelation = false ∧ p.name ∈ ["this", "This"] := by
  rw [lookupParameter]
  cases p.isRelation with
  | true =>
    have hending : uncapitalize p.name ++ "Id" ≠ "this" := by
      refine ne_of_suffix (a := "Id".toList) (b := "this".toList) ?_ List.suffix_rfl (by decide) (by decide)
      rw [String.toList_append]
      exact List.suffix_append _ _
    exact iff_of_false hending nofun
  | false =>
    have hword : uncapitalize p.name = "this" ↔ p.name ∈ ["this", "This"] :=
      (Record.hasIdentifierChars_name h hp).uncapitalize_eq_iff (by decide) (by decide)
    exact hword.trans (and_iff_right rfl).symm

lemma isVariable_this_iff (h : r.IsConsistent) (hname : isIdentifier r.entityName = true) :
    IsVariable config r "this" ↔ r.entityName ∈ ["this", "This"] ∨
      ∃ p, r.IsLookedUp p ∧ p.isRelation = false ∧ p.name ∈ ["this", "This"] := by
  have hentity : variableOf r = "this" ↔ r.entityName ∈ ["this", "This"] :=
    variableOf_eq_iff hname (by decide) (by decide)
  -- The names of the services end in what they are, whatever the entity is called.
  have hrepository : Facade.repositoryName r ≠ "this" :=
    ne_of_suffix (suffix_repositoryName r) List.suffix_rfl (by decide) (by decide)
  have hfactory : Facade.factoryName r ≠ "this" :=
    ne_of_suffix (suffix_factoryName r) List.suffix_rfl (by decide) (by decide)
  constructor
  · intro hthis
    rcases (isVariable_iff config r "this").1 hthis with hfixed | heq | heq | heq | ⟨p, hp, heq⟩
    · exact absurd hfixed (by decide)
    · exact absurd heq.symm hrepository
    · exact absurd heq.symm hfactory
    · exact .inl (hentity.1 heq.symm)
    · exact .inr ⟨p, hp, (name_lookupParameter_eq_this_iff h hp.1).1 heq.symm⟩
  · rintro (hthis | ⟨p, hp, hthis⟩)
    · rw [← hentity.2 hthis]
      exact .entity
    · have hparameter : (lookupParameter config p).name = "this" := (name_lookupParameter_eq_this_iff h hp.1).2 hthis
      rw [← hparameter]
      exact .lookup hp

/-- A property by which rows are looked up has a method that takes it. -/
lemma exists_method_of_isLookedUp (h : r.IsConsistent) (config : Config) (hp : r.IsLookedUp p) :
    ∃ m ∈ (unitAt config r .repository).declaration.methods, (lookupParameter config p).name ∈ m.variables := by
  obtain ⟨single, multi, hsingle, hmulti, hdeclared, hunit⟩ := exists_lookups h config
  obtain ⟨hp, lookup, hfield⟩ := hp
  obtain ⟨q, hq, hname, hmethod⟩ : ∃ q ∈ single ++ multi, q.name = p.name ∧
      lookupMethod config r lookup q ∈ Repository.methods config r single multi :=
    exists_property_of_lookupFields hsingle hmulti hfield
  obtain rfl : q = p := Record.eq_of_foldCase_name h (hdeclared q hq) hp (congrArg foldCase hname)
  have hparameters : (lookupMethod config r lookup q).parameters = [lookupParameter config q] := by
    cases lookup <;> rfl
  refine ⟨lookupMethod config r lookup q, hunit ▸ hmethod, List.mem_append_left _ ?_⟩
  rw [hparameters]
  exact List.mem_singleton_self _

/-- Some variable is called `this` exactly if a name of one of these kinds is that. -/
lemma forall_this_notMem_variables_iff (h : r.IsConsistent) (hname : isIdentifier r.entityName = true) :
    (∀ a ∈ artifacts r, ∀ m ∈ (unitAt config r a).declaration.methods, "this" ∉ m.variables) ↔
      r.entityName ∉ ["this", "This"] ∧ ∀ p, r.IsLookedUp p → p.isRelation = false → p.name ∉ ["this", "This"] := by
  have hthis : (∀ a ∈ artifacts r, ∀ m ∈ (unitAt config r a).declaration.methods, "this" ∉ m.variables) ↔
      ¬ IsVariable config r "this" := by
    constructor
    · intro hall hvariable
      rcases (isVariable_this_iff h hname).1 hvariable with hentity | ⟨p, hp, hrelation⟩
      · have hcreate : Facade.create r ∈ Facade.methods config r := mem_methods_facade_iff.2 (.inr (.inl rfl))
        refine hall .facade (mem_artifacts_of_isFixed rfl) (Facade.create r) hcreate ?_
        rw [Method.variables, assigned_create, (variableOf_eq_iff hname (by decide) (by decide)).2 hentity]
        exact List.mem_append_right _ (List.mem_singleton_self _)
      · obtain ⟨m, hm, hmem⟩ := exists_method_of_isLookedUp h config hp
        rw [(name_lookupParameter_eq_this_iff h hp.1).2 hrelation] at hmem
        exact hall .repository (mem_artifacts_of_isFixed rfl) m hm hmem
    · exact fun hnot a _ m hm hmem => hnot (hasNames_unitAt h config a m hm "this" hmem)
  rw [hthis, isVariable_this_iff h hname, not_or]
  simp only [not_exists, not_and]

/-- With editing on, the facade of an assembled record edits the entity that it has loaded with the data of the caller,
unless the entity is called like the data; its methods keep their parameters, unless the entity is called like one of
them; and no variable of any unit is called `this`, unless the entity is, or a scalar by which rows are looked up.  Only
where a number cannot be shown there are no units. -/
theorem facade_keeps_parameters_iff (config : Config) (draft : Draft) (r : Record) (hr : draft.assemble config = .ok r)
    (hname : isIdentifier r.entityName = true) (hedit : r.features.edit = true) :
    HasUnits config r fun us => ∃ facade, (.facade, facade) ∈ us ∧
      "edit" ∈ facade.declaration.methodNames ∧
        (∀ m ∈ facade.declaration.methods, m.name = "edit" →
          ∃ value, m.execution.callsTo "edit" = [.call (loadedEntity r) "edit" [value]] ∧
            (value = .var "data" ↔ r.entityName ∉ ["data", "Data"]) ∧
              (value = loadedEntity r ↔ r.entityName ∈ ["data", "Data"])) ∧
          ((∀ m ∈ facade.declaration.methods, m.KeepsParameters) ↔ r.entityName ∉ ["id", "Id", "data", "Data"]) ∧
            ((∀ au ∈ us, ∀ m ∈ au.2.declaration.methods, "this" ∉ m.variables) ↔
              r.entityName ∉ ["this", "This"] ∧
                ∀ p, r.IsLookedUp p → p.isRelation = false → p.name ∉ ["this", "This"]) := by
  have hvalid := Draft.validate_of_assemble hr
  have h := Record.isConsistent_of_validate hvalid
  have hdata : variableOf r = "data" ↔ r.entityName ∈ ["data", "Data"] :=
    variableOf_eq_iff hname (by decide) (by decide)
  have hid : variableOf r = "id" ↔ r.entityName ∈ ["id", "Id"] := variableOf_eq_iff hname (by decide) (by decide)
  have hfacade : (Artifact.facade, unitAt config r .facade) ∈ (artifacts r).map fun a => (a, unitAt config r a) :=
    List.mem_map_of_mem (mem_artifacts_of_isFixed rfl)
  refine hasUnits hvalid config
    ⟨Facade.unit config r, hfacade, (mem_methodNames_facade config r).2.1.2 hedit, ?_, ?_, ?_⟩
  · intro m hm hediting
    obtain rfl : m = Facade.edit config r := by
      rcases mem_methods_facade_iff.1 hm with rfl | rfl | ⟨-, rfl⟩ | ⟨-, rfl⟩
      · exact absurd hediting (by simp [Facade.constructor])
      · exact absurd hediting (by simp [Facade.create])
      · rfl
      · exact absurd hediting (by simp [Facade.delete])
    obtain ⟨value, hcalls, hgiven, hloaded⟩ := exists_callsTo_edit config r
    exact ⟨value, hcalls, hgiven.trans (not_congr hdata), hloaded.trans hdata⟩
  · have hnames : ["id", "Id", "data", "Data"] = ["id", "Id"] ++ ["data", "Data"] := rfl
    refine (keepsParameters_facade_iff hedit).trans (not_congr ?_)
    rw [hnames, List.mem_append, ← hid, ← hdata, List.mem_cons, List.mem_singleton]
  · rw [List.forall_mem_map]
    exact forall_this_notMem_variables_iff h hname

/-- Measured values under some name, which are looked up by their station. -/
def measurement (entityName : String) : Draft where
  space := "App\\Model"
  entityName
  properties :=
    [{ name := "station", expression := "string", kind := .scalar "string" none, storage := some "string"
       nullable := false, modifiers := {} },
      { name := "value", expression := "float", kind := .scalar "float" none, storage := some "float"
        nullable := false, modifiers := {} }]
  getAllBy := .list [.text "station"]

/-- The record of a measurement. -/
def measurementRecord (entityName : String) : Record where
  space := "App\\Model"
  entityName
  properties := (measurement entityName).properties
  getAllBy := ["station"]
  traits := [("Timestampable", "Gedmo\\Timestampable\\Traits\\TimestampableEntity")]

/-- A measurement is edited with the data that the caller gives. -/
theorem measurement_takes_its_data : (measurement "Measurement").assemble {} = .ok (measurementRecord "Measurement") ∧
    ∃ us facade, units {} (measurementRecord "Measurement") = .ok us ∧ (.facade, facade) ∈ us ∧
      "edit" ∈ facade.declaration.methodNames ∧
        (∀ m ∈ facade.declaration.methods, m.name = "edit" → m.execution.callsTo "edit" =
          [.call (loadedEntity (measurementRecord "Measurement")) "edit" [.var "data"]]) ∧
          (∀ m ∈ facade.declaration.methods, m.KeepsParameters) ∧
            ∀ au ∈ us, ∀ m ∈ au.2.declaration.methods, "this" ∉ m.variables := by
  have hassembled : (measurement "Measurement").assemble {} = .ok (measurementRecord "Measurement") := by
    decide +kernel
  have hscalars : ∀ p ∈ (measurementRecord "Measurement").properties, p.name ∉ ["this", "This"] := by decide
  obtain ⟨us, hunits, -, facade, hfacade, hedit, hedits, hkeeps, hthis⟩ :=
    (facade_keeps_parameters_iff {} _ _ hassembled (by decide) rfl).exists_units (by decide)
  refine ⟨hassembled, us, facade, hunits, hfacade, hedit, fun m hm hname => ?_, hkeeps.2 (by decide),
    hthis.2 ⟨by decide, fun p hp _ => hscalars p hp.1⟩⟩
  obtain ⟨value, hcalls, hgiven, -⟩ := hedits m hm hname
  rw [hcalls, hgiven.2 (by decide)]

/-- A measurement that is called `Data` is edited with itself instead of the data that the caller gives. -/
theorem measurement_is_edited_with_itself : (measurement "Data").assemble {} = .ok (measurementRecord "Data") ∧
    isIdentifier (measurementRecord "Data").entityName = true ∧ (measurementRecord "Data").features.edit = true ∧
      ∃ us facade, units {} (measurementRecord "Data") = .ok us ∧ (.facade, facade) ∈ us ∧
        ∃ m ∈ facade.declaration.methods, m.name = "edit" ∧
          m.parameters.map (·.name) = ["id", "data"] ∧ m.execution.callsTo "edit" =
            [.call (.call (.own "dataRepository") "get" [.var "id"]) "edit"
              [.call (.own "dataRepository") "get" [.var "id"]]] := by
  have hassembled : (measurement "Data").assemble {} = .ok (measurementRecord "Data") := by decide +kernel
  have hfacade : Artifact.facade ∈ artifacts (measurementRecord "Data") := mem_artifacts_of_isFixed rfl
  have hedit : Facade.edit {} (measurementRecord "Data") ∈ Facade.methods {} (measurementRecord "Data") :=
    mem_methods_facade_iff.2 (.inr (.inr (.inl ⟨rfl, rfl⟩)))
  have hloaded : loadedEntity (measurementRecord "Data") = .call (.own "dataRepository") "get" [.var "id"] :=
    congrArg (fun name => Expr.call (.own name) "get" [.var "id"]) (by decide)
  have hvariable : variableOf (measurementRecord "Data") = "data" := by decide
  refine ⟨hassembled, by decide, rfl, _, _, units_eq (Draft.validate_of_assemble hassembled) (by decide) {},
    List.mem_map_of_mem hfacade, _, hedit, rfl, rfl, ?_⟩
  rw [callsTo_edit, hvariable, Store.set_self, hloaded]

end Scaffold

end EntityScaffold
