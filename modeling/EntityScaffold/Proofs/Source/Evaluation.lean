import Mathlib.Tactic.Lemma
import EntityScaffold.Source.Unit
/-!
# What a body computes

The variables of a method hold values, and every value comes from what the method was given.  So a value is written
as an expression over what was given: the variables of an expression are replaced by what they hold (`Expr.under`),
and a statement that assigns a variable changes what it holds (`Statement.exec`).  The statements of a body are run in
order, from a store in which every variable stands for what was given under its name.

What a variable holds can be read off only if one knows that nothing has been assigned to it.  That is
`store_execute`: the names that a body assigns are listed (`assignedIn`), and what is not among them is kept, by one
step after another (`store_exec`).  In the same way, the calls of a method that are run are those of the statements
that can run one (`callsTo_execute`).
-/

namespace EntityScaffold.Source

/-- What each variable holds, as an expression over what was given. -/
abbrev Store := String → Expr

namespace Store

/-- Every variable holds what was given under its name. -/
def given : Store := .var

/-- A variable gets a new value. -/
def set (σ : Store) (name : String) (value : Expr) : Store := fun other => if other = name then value else σ other

variable {σ : Store} {name other : String} {value : Expr}

@[simp] lemma given_apply (name : String) : given name = .var name := rfl

@[simp] lemma set_self : σ.set name value name = value := if_pos rfl

@[simp] lemma set_of_ne (h : other ≠ name) : σ.set name value other = σ other := if_neg h

end Store

namespace Expr

mutual

/-- An expression over what was given, where variables are replaced by what they hold. -/
def under (σ : Store) : Expr → Expr
  | .var name => σ name
  | .member object name => .member (object.under σ) name
  | .item array key => .item (array.under σ) key
  | .call object method args => .call (object.under σ) method (underArgs σ args)
  | .staticCall className method => .staticCall className method
  | .create className args => .create className (underArgs σ args)
  | .classOf className => .classOf className
  | .orElse value fallback => .orElse (value.under σ) fallback
  | .text content => .text content

/-- Arguments over what was given. -/
def underArgs (σ : Store) : List Expr → List Expr
  | [] => []
  | e :: rest => e.under σ :: underArgs σ rest

end

end Expr

/-- How far a method has been run. -/
structure Execution where
  store : Store := .given
  /-- The expressions that were run for themselves, in order. -/
  ran : List Expr := []
  /-- What the method has given back. -/
  result : Option Expr := none

namespace Execution

/-- A variable gets a new value. -/
def assign (x : Execution) (name : String) (value : Expr) : Execution := { x with store := x.store.set name value }

end Execution

/-- What rows are found by: the column, and what it has to be equal to. -/
def foundBy (finder column : String) (value : Expr) : Expr :=
  .call (.call .this "getRepository" []) finder [.text column, value]

/-- Run a statement.  Members and items are no variables, and what is assigned to them is not followed. -/
def Statement.exec (x : Execution) : Statement → Execution
  | .assign (.var name) value => x.assign name (value.under x.store)
  | .run expr => { x with ran := x.ran ++ [expr.under x.store] }
  | .give expr => { x with result := some (expr.under x.store) }
  | .find (some name) finder column parameter => x.assign name ((foundBy finder column (.var parameter)).under x.store)
  | .find none finder column parameter =>
    { x with result := some ((foundBy finder column (.var parameter)).under x.store) }
  | .assign _ _ | .note _ _ | .throwIfNull _ _ | .blank | .line _ => x

/-- Run the statements of a body in order. -/
def execute (x : Execution) (body : List Statement) : Execution := body.foldl Statement.exec x

/-- Run a method on what it was given. -/
def Method.execution (m : Method) : Execution := execute {} m.body

/-! ## Variables that are assigned -/

/-- The variable that a statement assigns. -/
def Statement.assigned : Statement → Option String
  | .assign (.var name) _ => some name
  | .find into _ _ _ => into
  | _ => none

/-- The variables that a body assigns. -/
def assignedIn (body : List Statement) : List String := body.filterMap Statement.assigned

/-- The variables that a method assigns. -/
def Method.assigned (m : Method) : List String := assignedIn m.body

variable {name : String} {s : Statement} {body : List Statement}

/-- A statement leaves every variable alone but the one that it assigns. -/
theorem store_exec (x : Execution) (h : s.assigned ≠ some name) : (s.exec x).store name = x.store name := by
  cases s with
  | assign target value =>
    cases target with
    | var other =>
      have hne : name ≠ other := fun heq => h (congrArg some heq.symm)
      exact Store.set_of_ne hne
    | _ => rfl
  | find into finder column parameter =>
    cases into with
    | none => rfl
    | some other =>
      have hne : name ≠ other := fun heq => h (congrArg some heq.symm)
      exact Store.set_of_ne hne
  | _ => rfl

/-- A body leaves every variable alone but those that it assigns. -/
theorem store_execute (x : Execution) (h : name ∉ assignedIn body) : (execute x body).store name = x.store name := by
  induction body generalizing x with
  | nil => rfl
  | cons s rest ih =>
    have hfirst : s.assigned ≠ some name := by
      intro heq
      exact h (List.mem_filterMap.2 ⟨s, List.mem_cons_self, heq⟩)
    have hrest : name ∉ assignedIn rest := by
      intro hmem
      obtain ⟨t, ht, heq⟩ := List.mem_filterMap.1 hmem
      exact h (List.mem_filterMap.2 ⟨t, List.mem_cons_of_mem s ht, heq⟩)
    exact (ih (s.exec x) hrest).trans (store_exec x hfirst)

@[simp] lemma execute_cons (x : Execution) (s : Statement) (rest : List Statement) :
    execute x (s :: rest) = execute (s.exec x) rest := rfl

@[simp] lemma execute_append (x : Execution) (body rest : List Statement) :
    execute x (body ++ rest) = execute (execute x body) rest := List.foldl_append

lemma assignedIn_append (body rest : List Statement) :
    assignedIn (body ++ rest) = assignedIn body ++ assignedIn rest :=
  List.filterMap_append

lemma assignedIn_eq_nil (h : ∀ s ∈ body, s.assigned = none) : assignedIn body = [] := List.filterMap_eq_nil_iff.2 h

/-! ## Parameters -/

/-- The names of the variables of a method: its parameters, and what it assigns. -/
def Method.variables (m : Method) : List String := m.parameters.map (·.name) ++ m.assigned

lemma forall_mem_variables {m : Method} {P : String → Prop} :
    (∀ name ∈ m.variables, P name) ↔ (∀ p ∈ m.parameters, P p.name) ∧ ∀ name ∈ m.assigned, P name := by
  rw [Method.variables, List.forall_mem_append, List.forall_mem_map]

/-- At the end of a method, every parameter holds what was given for it. -/
def Method.KeepsParameters (m : Method) : Prop := ∀ p ∈ m.parameters, m.execution.store p.name = .var p.name

/-- A method that assigns nothing keeps its parameters. -/
lemma keepsParameters_of_assigned {m : Method} (h : m.assigned = []) : m.KeepsParameters := by
  intro p _
  have hnot : p.name ∉ assignedIn m.body := by
    rw [← Method.assigned, h]
    exact List.not_mem_nil
  exact store_execute {} hnot

/-- If a method assigns one variable and does so first, it keeps its parameters exactly if the variable is none of
them. -/
lemma keepsParameters_iff {m : Method} {value : Expr} (hbody : m.body = .assign (.var name) value :: body)
    (hassigned : m.assigned = [name]) (hvalue : value.under .given ≠ .var name) :
    m.KeepsParameters ↔ name ∉ m.parameters.map (·.name) := by
  have hrest : assignedIn body = [] := by
    rw [Method.assigned, hbody] at hassigned
    exact (List.cons.inj hassigned).2
  have hstore (other : String) : m.execution.store other = Store.given.set name (value.under .given) other := by
    rw [Method.execution, hbody, execute_cons]
    exact store_execute _ (hrest ▸ List.not_mem_nil)
  constructor
  · intro hkeeps hmem
    obtain ⟨p, hp, rfl⟩ := List.mem_map.1 hmem
    have hkept := hkeeps p hp
    rw [hstore, Store.set_self] at hkept
    exact hvalue hkept
  · intro hname p hp
    have hne : p.name ≠ name := fun heq => hname (heq ▸ List.mem_map_of_mem hp)
    rw [hstore, Store.set_of_ne hne, Store.given_apply]

/-! ## Calls that are run -/

/-- Whether an expression is a call of a method. -/
def Expr.isCallTo (method : String) : Expr → Bool
  | .call _ name _ => name == method
  | _ => false

/-- The calls of a method among the expressions that were run. -/
def Execution.callsTo (x : Execution) (method : String) : List Expr := x.ran.filter (Expr.isCallTo method)

/-- Whether a statement can run a call of a method.  What a variable holds can be such a call. -/
def Statement.mayCall (method : String) : Statement → Bool
  | .run (.var _) => true
  | .run e => e.isCallTo method
  | _ => false

/-- A statement that cannot run a call of a method adds none. -/
lemma callsTo_exec {method : String} (x : Execution) (h : s.mayCall method = false) :
    (s.exec x).callsTo method = x.callsTo method := by
  cases s with
  | run e =>
    have hcall : (e.under x.store).isCallTo method = false := by
      cases e with
      -- A variable may hold such a call, so `mayCall` is true of it.
      | var name => cases h
      | call object other args => exact h
      | _ => rfl
    have hnone : [e.under x.store].filter (Expr.isCallTo method) = [] :=
      List.filter_eq_nil_iff.2 (List.forall_mem_singleton.2 (Bool.eq_false_iff.1 hcall))
    rw [Statement.exec, Execution.callsTo, List.filter_append, hnone, List.append_nil]
    rfl
  | assign target value => cases target <;> rfl
  | find into finder column parameter => cases into <;> rfl
  | _ => rfl

/-- A body of statements that cannot run a call of a method adds none. -/
theorem callsTo_execute {method : String} (x : Execution) (h : ∀ s ∈ body, s.mayCall method = false) :
    (execute x body).callsTo method = x.callsTo method := by
  induction body generalizing x with
  | nil => rfl
  | cons s rest ih =>
    obtain ⟨hfirst, hrest⟩ := List.forall_mem_cons.1 h
    exact (ih (s.exec x) hrest).trans (callsTo_exec x hfirst)

end EntityScaffold.Source
