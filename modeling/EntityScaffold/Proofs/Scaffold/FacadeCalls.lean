import EntityScaffold.Proofs.Scaffold.EntityCalls
/-!
# The calls of the facade and the repository

The repository asks the entity manager for rows and throws the exception of the entity; the facade calls the
factory, the repository and the entity itself, and dispatches events.  What the facade holds is told apart by
the ends of the member names, whatever the entity is called (`ne_of_suffix`).
-/

namespace EntityScaffold.Scaffold

open Source Artifact

attribute [local irreducible] ClassName.qualify Config.usesUuid

variable {config : Config} {r : Record} {scope : Scope}

/-! ## What the repository declares -/

lemma exists_repositoryOf (h : r.IsConsistent) (config : Config) :
    ∃ single multi, unitAt config r .repository = repositoryOf config r single multi := by
  obtain ⟨single, multi, -, hunit⟩ := exists_repository h config
  exact ⟨single, multi, unitAt_eq hunit⟩

lemma memberType?_repository (h : r.IsConsistent) :
    (unitAt config r .repository).declaration.memberType? "entityManager" = some entityManager := by
  obtain ⟨single, multi, hunit⟩ := exists_repositoryOf h config
  rw [hunit]
  exact Declaration.memberType?_of_promoted (m := Repository.constructor) rfl rfl rfl rfl

lemma method?_getRepository (h : r.IsConsistent) :
    (unitAt config r .repository).declaration.method? "getRepository" =
      some (Repository.getRepository r) := by
  obtain ⟨single, multi, hunit⟩ := exists_repositoryOf h config
  rw [hunit]
  rfl

lemma method?_get (h : r.IsConsistent) :
    (unitAt config r .repository).declaration.method? "get" = some (Repository.get config r) := by
  obtain ⟨single, multi, hunit⟩ := exists_repositoryOf h config
  rw [hunit]
  rfl

/-- No lookup is called like the query builder. -/
lemma method?_queryBuilderForAll (h : r.IsConsistent) :
    (unitAt config r .repository).declaration.method? "getQueryBuilderForAll" =
      some Repository.queryBuilderForAll := by
  obtain ⟨single, multi, hunit⟩ := exists_repositoryOf h config
  have hgetBy : (single.map (Repository.getBy config r)).find? (·.name == "getQueryBuilderForAll") =
      none := by
    refine List.find?_eq_none.2 (List.forall_mem_map.2 fun p _ hname => ?_)
    have hchars := congrArg String.toList (beq_iff_eq.1 hname)
    simp [Repository.getBy, Repository.single, Lookup.stem] at hchars
  have hgetAllBy : (multi.map (Repository.getAllBy config r)).find?
      (·.name == "getQueryBuilderForAll") = none := by
    refine List.find?_eq_none.2 (List.forall_mem_map.2 fun p _ hname => ?_)
    have hchars := congrArg String.toList (beq_iff_eq.1 hname)
    simp [Repository.getAllBy, Lookup.stem] at hchars
  rw [hunit]
  show (Repository.methods config r single multi).find? _ = _
  unfold Repository.methods
  rw [List.find?_append, List.find?_append, List.find?_append, List.find?_append, hgetBy, hgetAllBy]
  split <;> rfl

/-! ## Bodies of the repository -/

/-- Finding rows asks the repository for the one of the entity manager. -/
lemma linkedSite_find (h : r.IsConsistent) {into : Option String} {finder column parameter : String} :
    ∀ site ∈ (Statement.find into finder column parameter).calls,
      LinkedSite config r (unitAt config r .repository) scope site := by
  have hown : (unitAt config r .repository).declaration.Declares "getRepository" 0 :=
    ⟨Repository.getRepository r, method?_getRepository h, rfl⟩
  refine List.forall_mem_cons.2 ⟨hown, List.forall_mem_singleton.2 ?_⟩
  exact ⟨Repository.getRepository r, objectRepository, method?_getRepository h, rfl, .inr (by decide)⟩

/-- The exception of the entity can be thrown. -/
lemma linkedSite_notFound (h : r.IsConsistent) :
    LinkedSite config r (unitAt config r .repository) scope (.creation (r.className .notFound) 0) := by
  refine linkedSite_creation (a := .notFound) h (mem_artifacts_of_isFixed rfl) (.inl ?_) rfl
  obtain ⟨single, multi, hunit⟩ := exists_repositoryOf h config
  rw [hunit, qualifiedName_unitAt h]
  refine mem_importsOf_iff.2 ⟨?_, Record.qualifiedName_ne_empty (by decide)⟩
  simp

lemma linked_single (h : r.IsConsistent) {name column : String} {parameter : Parameter} :
    LinkedMethod config r (unitAt config r .repository)
      (Repository.single r name column parameter) := by
  refine linked_cons.2 ⟨nofun, linked_cons.2 ⟨linkedSite_find h, linked_cons.2 ⟨nofun, ?_⟩⟩⟩
  refine linked_cons.2 ⟨List.forall_mem_singleton.2 (linkedSite_notFound h), ?_⟩
  exact linked_of_noCalls (List.forall_mem_cons.2 ⟨rfl, List.forall_mem_singleton.2 rfl⟩)

/-- A method without parameters can call a method of its own. -/
lemma linkedSite_repository (h : r.IsConsistent) {name : String} {m : Method}
    (hmethod : (unitAt config r .repository).declaration.method? name = some m)
    (hparameters : m.parameters = []) :
    LinkedSite config r (unitAt config r .repository) [] (.method .this name 0) :=
  linkedSite_this (a := .repository) h (mem_artifacts_of_isFixed rfl) rfl
    ⟨m, hmethod, by rw [hparameters]; rfl⟩

lemma class?_call_repository (config : Config) (h : r.IsConsistent) {name : String} {m : Method}
    (hmethod : (unitAt config r .repository).declaration.method? name = some m) :
    (Expr.call .this name []).class? (siblings config r) (unitAt config r .repository) [] =
      m.returnType := by
  refine class?_call (a := .repository) h (mem_artifacts_of_isFixed rfl) ?_ hmethod
  rw [class?_this _ rfl, qualifiedName_unitAt h]

/-- Every row comes from the query of the query builder. -/
lemma linked_getAll (h : r.IsConsistent) :
    LinkedMethod config r (unitAt config r .repository) (Repository.getAll r) := by
  have hclass := class?_call_repository config h (method?_queryBuilderForAll h)
  refine linked_cons.2 ⟨List.forall_mem_cons.2 ⟨?_, List.forall_mem_cons.2 ⟨?_, ?_⟩⟩, linked_nil⟩
  · exact Or.inr (Or.inr (Or.inl ⟨queryBuilder, by decide, hclass⟩))
  · exact linkedSite_foreign (c := queryBuilder) (by decide) hclass
  · exact List.forall_mem_singleton.2 (linkedSite_repository h (method?_queryBuilderForAll h) rfl)

lemma linked_queryBuilderForAll (h : r.IsConsistent) :
    LinkedMethod config r (unitAt config r .repository) Repository.queryBuilderForAll := by
  have hclass := class?_call_repository config h (method?_getRepository h)
  refine linked_cons.2 ⟨List.forall_mem_cons.2 ⟨?_, List.forall_mem_singleton.2 ?_⟩, linked_nil⟩
  · exact linkedSite_foreign (c := objectRepository) (by decide) hclass
  · exact linkedSite_repository h (method?_getRepository h) rfl

lemma linked_repository (h : r.IsConsistent) :
    ∀ m ∈ (unitAt config r .repository).declaration.methods,
      LinkedMethod config r (unitAt config r .repository) m := by
  have hgetRepository :
      LinkedMethod config r (unitAt config r .repository) (Repository.getRepository r) := by
    refine linked_cons.2 ⟨List.forall_mem_singleton.2 ?_, linked_nil⟩
    exact linkedSite_own_foreign (c := entityManager) (by decide) (memberType?_repository h)
  have hgetAllBy (p : Property) :
      LinkedMethod config r (unitAt config r .repository) (Repository.getAllBy config r p) :=
    linked_cons.2 ⟨linkedSite_find h, linked_nil⟩
  have hdataGrid :
      LinkedMethod config r (unitAt config r .repository) Repository.queryBuilderForDataGrid := by
    refine linked_cons.2 ⟨List.forall_mem_singleton.2 ?_, linked_nil⟩
    exact linkedSite_repository h (method?_queryBuilderForAll h) rfl
  have hmethods (single multi : List Property) : ∀ m ∈ Repository.methods config r single multi,
      LinkedMethod config r (unitAt config r .repository) m := by
    unfold Repository.methods
    simp only [List.forall_mem_append, List.forall_mem_cons, List.forall_mem_map]
    refine ⟨⟨⟨⟨⟨linked_nil, hgetRepository, linked_single h, nofun⟩,
      fun p _ => linked_single h⟩, fun p _ => hgetAllBy p⟩, forall_mem_ite (fun _ => ?_) nofun⟩,
      linked_queryBuilderForAll h, hdataGrid, nofun⟩
    exact List.forall_mem_singleton.2 (linked_getAll h)
  obtain ⟨single, multi, hunit⟩ := exists_repositoryOf h config
  intro m hm
  rw [hunit] at hm
  exact hmethods single multi m hm

/-! ## What the facade holds -/

/-- The end of a class name stays when its first character is lowered. -/
lemma suffix_uncapitalize (s t : String) :
    t.toList.tail <:+ (Text.uncapitalize (s ++ t)).toList := by
  rw [Text.uncapitalize, Text.toList_through, String.toList_append]
  cases s.toList with
  | nil =>
    cases t.toList with
    | nil => exact List.nil_suffix
    | cons c rest => exact List.suffix_append _ _
  | cons c rest =>
    rw [List.cons_append, Text.uncapitalizeChars, ← List.append_assoc]
    exact (List.tail_suffix _).trans (List.suffix_append _ _)

/-- Texts with ends of which neither is an end of the other are different. -/
theorem ne_of_suffix {s t : String} {a b : List Char} (ha : a <:+ s.toList) (hb : b <:+ t.toList)
    (hab : ¬ a <:+ b) (hba : ¬ b <:+ a) : s ≠ t := by
  intro heq
  rw [heq] at ha
  rcases List.suffix_or_suffix_of_suffix ha hb with h | h
  · exact hab h
  · exact hba h

lemma suffix_repositoryName (r : Record) :
    "epository".toList <:+ (Facade.repositoryName r).toList :=
  suffix_uncapitalize r.entityName "Repository"

lemma suffix_factoryName (r : Record) : "actory".toList <:+ (Facade.factoryName r).toList :=
  suffix_uncapitalize r.entityName "Factory"

lemma repositoryName_ne_manager (r : Record) : Facade.repositoryName r ≠ "entityManager" :=
  ne_of_suffix (suffix_repositoryName r) List.suffix_rfl (by decide) (by decide)

lemma repositoryName_ne_dispatcher (r : Record) : Facade.repositoryName r ≠ "eventDispatcher" :=
  ne_of_suffix (suffix_repositoryName r) List.suffix_rfl (by decide) (by decide)

lemma factoryName_ne_manager (r : Record) : Facade.factoryName r ≠ "entityManager" :=
  ne_of_suffix (suffix_factoryName r) List.suffix_rfl (by decide) (by decide)

lemma factoryName_ne_dispatcher (r : Record) : Facade.factoryName r ≠ "eventDispatcher" :=
  ne_of_suffix (suffix_factoryName r) List.suffix_rfl (by decide) (by decide)

lemma factoryName_ne_repositoryName (r : Record) :
    Facade.factoryName r ≠ Facade.repositoryName r :=
  ne_of_suffix (suffix_factoryName r) (suffix_repositoryName r) (by decide) (by decide)

lemma promotedTypes_facade (r : Record) :
    (Facade.constructor r).promotedTypes =
      [("entityManager", some entityManager),
        (Facade.repositoryName r, some (r.qualifiedName .repository)),
        (Facade.factoryName r, some (r.qualifiedName .factory))] ++
        if (Facade.dispatched r).isEmpty then [] else [("eventDispatcher", some eventDispatcher)] := by
  unfold Facade.constructor Method.promotedTypes
  split <;> rfl

lemma memberType?_facade {name : String} {type : Option String}
    (hlookup : (Facade.constructor r).promotedTypes.lookup name = some type) :
    (unitAt config r .facade).declaration.memberType? name = type :=
  Declaration.memberType?_of_promoted rfl rfl rfl hlookup

lemma memberType?_manager :
    (unitAt config r .facade).declaration.memberType? "entityManager" = some entityManager := by
  refine memberType?_facade ?_
  rw [promotedTypes_facade]
  rfl

lemma memberType?_repositoryName :
    (unitAt config r .facade).declaration.memberType? (Facade.repositoryName r) =
      some (r.qualifiedName .repository) := by
  refine memberType?_facade ?_
  rw [promotedTypes_facade]
  simp [List.lookup_cons, beq_false_of_ne (repositoryName_ne_manager r)]

lemma memberType?_factoryName :
    (unitAt config r .facade).declaration.memberType? (Facade.factoryName r) =
      some (r.qualifiedName .factory) := by
  refine memberType?_facade ?_
  rw [promotedTypes_facade]
  simp [List.lookup_cons, beq_false_of_ne (factoryName_ne_manager r),
    beq_false_of_ne (factoryName_ne_repositoryName r)]

/-- A facade with something to dispatch holds the dispatcher. -/
lemma memberType?_dispatcher {event : String} (h : event ∈ Facade.dispatched r) :
    (unitAt config r .facade).declaration.memberType? "eventDispatcher" = some eventDispatcher := by
  have hmanager : "eventDispatcher" ≠ "entityManager" := by decide
  have hsome : (Facade.dispatched r).isEmpty = false := by
    rw [List.isEmpty_eq_false_iff]
    exact List.ne_nil_of_mem h
  refine memberType?_facade ?_
  rw [promotedTypes_facade, hsome]
  simp [List.lookup_cons, beq_false_of_ne hmanager,
    beq_false_of_ne (repositoryName_ne_dispatcher r).symm,
    beq_false_of_ne (factoryName_ne_dispatcher r).symm]

/-! ## Bodies of the facade -/

lemma linkedSite_manager (name : String) (arguments : Nat) :
    LinkedSite config r (unitAt config r .facade) scope
      (.method (.own "entityManager") name arguments) :=
  linkedSite_own_foreign (c := entityManager) (by decide) memberType?_manager

/-- The scope in which the variable of the entity has its value. -/
def loaded (r : Record) (scope : Scope) : Scope :=
  (Artifact.variableOf r, some (r.qualifiedName .entity)) :: scope

/-- The entity comes from a member of the facade, whose class has a method that gives it. -/
lemma linked_obtained (h : r.IsConsistent) {a : Artifact} (ha : a ∈ artifacts r)
    {member name : String} {args : List Expr} {m : Method} {rest : List Statement}
    (hmember : (unitAt config r .facade).declaration.memberType? member = some (r.qualifiedName a))
    (hmethod : (unitAt config r a).declaration.method? name = some m)
    (hparameters : m.parameters.length = args.length)
    (hreturn : m.returnType = some (r.qualifiedName .entity)) (hargs : Expr.callsOfArgs args = [])
    (hrest : Linked config r (unitAt config r .facade) (loaded r scope) rest) :
    Linked config r (unitAt config r .facade) scope
      (.assign (Facade.entityVar r) (.call (.own member) name args) :: rest) := by
  have hclass : (Expr.own member).class? (siblings config r) (unitAt config r .facade) scope =
      some (r.qualifiedName a) := by
    rw [class?_own, hmember]
  have hcalls : (Statement.assign (Facade.entityVar r) (.call (.own member) name args)).calls =
      [.method (.own member) name args.length] := by
    simp [Facade.entityVar, Expr.own, Expr.this, Statement.calls, Expr.calls, hargs]
  refine linked_cons.2 ⟨?_, ?_⟩
  · rw [hcalls]
    exact List.forall_mem_singleton.2 (linkedSite_artifact h ha hclass ⟨m, hmethod, hparameters⟩)
  · rw [Facade.entityVar, Statement.scopeAfter, class?_call h ha hclass hmethod, hreturn]
    exact hrest

lemma linked_created (h : r.IsConsistent) {rest : List Statement}
    (hrest : Linked config r (unitAt config r .facade) (loaded r scope) rest) :
    Linked config r (unitAt config r .facade) scope
      (.assign (Facade.entityVar r) (.call (.own (Facade.factoryName r)) "create" [.var "data"]) ::
        rest) :=
  linked_obtained (a := .factory) (m := Factory.create config r) h (mem_artifacts_of_isFixed rfl)
    memberType?_factoryName rfl rfl rfl rfl hrest

lemma linked_load (h : r.IsConsistent) {rest : List Statement}
    (hrest : Linked config r (unitAt config r .facade) (loaded r scope) rest) :
    Linked config r (unitAt config r .facade) scope (Facade.load r :: rest) :=
  linked_obtained (a := .repository) (m := Repository.get config r) h (mem_artifacts_of_isFixed rfl)
    memberType?_repositoryName (method?_get h) rfl rfl rfl hrest

/-- What is pending is written, and then an event of the lifecycle is dispatched if it is selected. -/
lemma linked_dispatch (h : r.IsConsistent) {event : String} (hevent : event ∈ lifecycle)
    {rest : List Statement} (hrest : Linked config r (unitAt config r .facade) scope rest) :
    Linked config r (unitAt config r .facade) scope
      (Facade.flush :: (Facade.dispatch r event ++ rest)) := by
  refine linked_cons.2 ⟨List.forall_mem_singleton.2 (linkedSite_manager "flush" 0), ?_⟩
  show Linked config r (unitAt config r .facade) scope (Facade.dispatch r event ++ rest)
  unfold Facade.dispatch
  split
  · next hselected =>
    have hdispatched : event ∈ Facade.dispatched r := List.mem_filter.2 ⟨hevent, hselected⟩
    have hevents : event ∈ r.events := mem_events_of_dispatched hdispatched
    refine linked_cons.2 ⟨List.forall_mem_cons.2 ⟨?_, List.forall_mem_singleton.2 ?_⟩, hrest⟩
    · exact linkedSite_own_foreign (c := eventDispatcher) (by decide) (memberType?_dispatcher hdispatched)
    · refine linkedSite_creation (a := .event event) h (event_mem_artifacts hevents) (.inl ?_) rfl
      rw [qualifiedName_unitAt h]
      refine mem_importsOf_iff.2 ⟨?_, Record.qualifiedName_ne_empty (by simp [Artifact.place])⟩
      exact List.mem_append_right _ (List.mem_map_of_mem hdispatched)
  · exact hrest

lemma linked_createBody (h : r.IsConsistent) :
    Linked config r (unitAt config r .facade) scope (Facade.createBody r) := by
  refine linked_created h (linked_cons.2 ⟨nofun, linked_cons.2 ⟨?_, ?_⟩⟩)
  · exact List.forall_mem_singleton.2 (linkedSite_manager "persist" 1)
  · refine linked_dispatch h (by decide) (linked_of_noCalls ?_)
    exact List.forall_mem_cons.2 ⟨rfl, List.forall_mem_singleton.2 rfl⟩

/-- The entity that was found takes the new data. -/
lemma linked_editBody (h : r.IsConsistent) (hedit : r.features.edit = true) :
    Linked config r (unitAt config r .facade) scope (Facade.editBody r) := by
  refine linked_load h (linked_cons.2 ⟨List.forall_mem_singleton.2 ?_, linked_cons.2 ⟨nofun, ?_⟩⟩)
  · refine linkedSite_artifact (a := .entity) h (mem_artifacts_of_isFixed rfl) ?_
      (declares_edit hedit)
    exact class?_var_self _ _ _
  · refine linked_dispatch h (by decide) (linked_of_noCalls ?_)
    exact List.forall_mem_cons.2 ⟨rfl, List.forall_mem_singleton.2 rfl⟩

lemma linked_deleteBody (h : r.IsConsistent) :
    Linked config r (unitAt config r .facade) scope (Facade.deleteBody r) := by
  refine linked_load h (linked_cons.2 ⟨nofun, linked_cons.2 ⟨?_, ?_⟩⟩)
  · exact List.forall_mem_singleton.2 (linkedSite_manager "remove" 1)
  · rw [← List.append_nil (Facade.dispatch r "deleted")]
    exact linked_dispatch h (by decide) linked_nil

lemma linked_facade (h : r.IsConsistent) :
    ∀ m ∈ (unitAt config r .facade).declaration.methods,
      LinkedMethod config r (unitAt config r .facade) m := by
  show ∀ m ∈ Facade.methods config r, _
  unfold Facade.methods
  simp only [List.forall_mem_append, List.forall_mem_cons]
  refine ⟨⟨⟨linked_nil, linked_createBody h, nofun⟩, forall_mem_ite (fun hedit => ?_) nofun⟩,
    forall_mem_ite (fun _ => ?_) nofun⟩
  · exact List.forall_mem_singleton.2 (linked_editBody h hedit)
  · exact List.forall_mem_singleton.2 (linked_deleteBody h)

end EntityScaffold.Scaffold
