import EntityScaffold.Proofs.Scaffold.References
/-!
# Every call into a sibling is linked

The bodies of the generated methods call the siblings by names and with arguments that were chosen in other
places than the methods they call.  Here each body is followed statement by statement, with the classes of its
variables: `linked_cons` is the step, and `linked_append` passes over statements that give no value to a
variable.  What is needed of a sibling is which class its members have and which methods it declares, stated
before the bodies that call it.
-/

namespace EntityScaffold.Scaffold

open Source Artifact

variable {config : Config} {r : Record} {u : SourceUnit} {scope : Scope}

/-! ## Bodies -/

/-- A call of a unit is linked to the siblings of a record or to the framework. -/
def LinkedSite (config : Config) (r : Record) (u : SourceUnit) (scope : Scope) (site : CallSite) :
    Prop :=
  site.IsLinked (siblings config r) u frameworkClasses scope

/-- All calls of a body are linked. -/
def Linked (config : Config) (r : Record) (u : SourceUnit) (scope : Scope) (body : List Statement) :
    Prop :=
  ∀ c ∈ callsIn (siblings config r) u scope body, LinkedSite config r u c.1 c.2

/-- All calls of a method are linked. -/
def LinkedMethod (config : Config) (r : Record) (u : SourceUnit) (m : Method) : Prop :=
  Linked config r u (m.parameters.map fun p => (p.name, p.type)) m.body

lemma linked_nil : Linked config r u scope [] := nofun

/-- The calls of the first statement are linked, and those of the others in the scope after it. -/
theorem linked_cons {s : Statement} {rest : List Statement} :
    Linked config r u scope (s :: rest) ↔
      (∀ site ∈ s.calls, LinkedSite config r u scope site) ∧
        Linked config r u (s.scopeAfter (siblings config r) u scope) rest := by
  unfold Linked
  rw [callsIn, List.forall_mem_append, List.forall_mem_map]

/-- Statements that give no value to a variable can be passed over. -/
theorem linked_append {body rest : List Statement}
    (hscope : ∀ s ∈ body, s.scopeAfter (siblings config r) u scope = scope)
    (hcalls : ∀ s ∈ body, ∀ site ∈ s.calls, LinkedSite config r u scope site)
    (hrest : Linked config r u scope rest) : Linked config r u scope (body ++ rest) := by
  induction body with
  | nil => exact hrest
  | cons s body ih =>
    obtain ⟨hs, hbody⟩ := List.forall_mem_cons.1 hscope
    obtain ⟨hsite, hsites⟩ := List.forall_mem_cons.1 hcalls
    rw [List.cons_append, linked_cons, hs]
    exact ⟨hsite, ih hbody hsites⟩

/-- Statements without calls are linked. -/
theorem linked_of_noCalls {body : List Statement} (h : ∀ s ∈ body, s.calls = []) :
    Linked config r u scope body := by
  induction body generalizing scope with
  | nil => exact linked_nil
  | cons s body ih =>
    obtain ⟨hs, hbody⟩ := List.forall_mem_cons.1 h
    refine linked_cons.2 ⟨?_, ih hbody⟩
    rw [hs]
    nofun

/-! ## Calls -/

/-- The class of a variable. -/
lemma class?_var_self (sibs : List SourceUnit) (name : String) (c : Option String) :
    (Expr.var name).class? sibs u ((name, c) :: scope) = c := by
  simp [Expr.class?]

lemma class?_own (sibs : List SourceUnit) (name : String) :
    (Expr.own name).class? sibs u scope = u.declaration.memberType? name := by
  simp [Expr.own, Expr.this, Expr.class?, Expr.isThis]

/-- The class of the object whose method runs. -/
lemma class?_this (sibs : List SourceUnit) (hscope : scope.lookup "this" = none) :
    Expr.this.class? sibs u scope = some u.qualifiedName := by
  simp [Expr.this, Expr.class?, hscope]

/-- A call on a member of a class of the framework. -/
lemma linkedSite_foreign {object : Expr} {name : String} {arguments : Nat} {c : String}
    (hc : c ∈ frameworkClasses) (hclass : object.class? (siblings config r) u scope = some c) :
    LinkedSite config r u scope (.method object name arguments) := by
  refine Or.inr ?_
  cases object with
  | call => exact Or.inl ⟨c, hc, hclass⟩
  | _ => exact ⟨c, hc, hclass⟩

/-- A call on an own member of such a class. -/
theorem linkedSite_own_foreign {member name : String} {arguments : Nat} {c : String}
    (hc : c ∈ frameworkClasses) (hmember : u.declaration.memberType? member = some c) :
    LinkedSite config r u scope (.method (.own member) name arguments) := by
  refine linkedSite_foreign hc ?_
  rw [class?_own, hmember]

/-- A call on an object whose class is that of an artifact which declares what is called. -/
lemma linkedSite_artifact (h : r.IsConsistent) {a : Artifact} (ha : a ∈ artifacts r) {object : Expr}
    {name : String} {arguments : Nat}
    (hclass : object.class? (siblings config r) u scope = some (r.qualifiedName a))
    (hdeclares : (unitAt config r a).declaration.Declares name arguments) :
    LinkedSite config r u scope (.method object name arguments) := by
  refine Or.inl ⟨unitAt config r a, unitAt_mem_siblings ha, ?_, hdeclares⟩
  rw [hclass, qualifiedName_unitAt h]

/-- A call on the object whose method runs. -/
theorem linkedSite_this (h : r.IsConsistent) {a : Artifact} (ha : a ∈ artifacts r)
    (hscope : scope.lookup "this" = none) {name : String} {arguments : Nat}
    (hdeclares : (unitAt config r a).declaration.Declares name arguments) :
    LinkedSite config r (unitAt config r a) scope (.method .this name arguments) := by
  refine linkedSite_artifact h ha ?_ hdeclares
  rw [class?_this _ hscope, qualifiedName_unitAt h]

/-- The result of such a call. -/
lemma class?_call (h : r.IsConsistent) {a : Artifact} (ha : a ∈ artifacts r) {object : Expr}
    {name : String} {args : List Expr} {m : Method}
    (hclass : object.class? (siblings config r) u scope = some (r.qualifiedName a))
    (hmethod : (unitAt config r a).declaration.method? name = some m) :
    (Expr.call object name args).class? (siblings config r) u scope = m.returnType := by
  simp [Expr.class?, hclass, unitOf?_qualifiedName h ha, hmethod]

/-- The creation of an object of an artifact's class. -/
theorem linkedSite_creation (h : r.IsConsistent) {a : Artifact} (ha : a ∈ artifacts r)
    {arguments : Nat} (hsees : u.Sees (unitAt config r a))
    (harity : (unitAt config r a).declaration.constructorArity = arguments) :
    LinkedSite config r u scope (.creation (r.className a) arguments) :=
  Or.inl ⟨unitAt config r a, unitAt_mem_siblings ha, name_unitAt h config a, hsees, harity⟩

end EntityScaffold.Scaffold
