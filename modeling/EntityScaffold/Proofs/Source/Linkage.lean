import EntityScaffold.Proofs.Keyed
import EntityScaffold.Source.Import
import EntityScaffold.Source.Printer
/-!
# References and calls between units

What a source unit says about other classes, and when that holds of the units it is generated with, its
siblings.  `SourceUnit.references` are the names in its types and imports.  `Method.callSites` are the calls in
a body, each with the variables in scope there and their classes; `Expr.class?` follows types through members
and results of sibling methods to the class of an object.

A call is linked when the class of its object is a sibling which declares the method with as many parameters
as there are arguments, or when the object is not ours (`Expr.IsForeign`).  A line of a body that is kept as it
stands may call anything, so it counts as a call that is never linked.
-/

namespace EntityScaffold

namespace Source

/-! ## Members and methods -/

/-- The types of the promoted parameters of a method by name. -/
def Method.promotedTypes (m : Method) : List (String × Option String) :=
  (m.parameters.filter (·.promoted.isSome)).map fun p => (p.name, p.type)

namespace Declaration

/-- The types of data members by name: those of the class, and the promoted parameters of its
constructor. -/
def memberTypes (d : Declaration) : List (String × Option String) :=
  d.members.map (fun m => (m.name, m.type)) ++
    (d.methods.filter (·.name == "__construct")).flatMap (·.promotedTypes)

/-- The type of a data member. -/
def memberType? (d : Declaration) (name : String) : Option String :=
  (d.memberTypes.lookup name).join

/-- A member whose name no other has is found with its type. -/
lemma memberType?_of_mem {d : Declaration} {m : Member} (hnodup : (d.members.map (·.name)).Nodup)
    (hm : m ∈ d.members) : d.memberType? m.name = m.type := by
  have hkeys : ((d.members.map fun m => (m.name, m.type)).map (·.1)).Nodup := by
    rw [List.map_map]
    exact hnodup
  have hlookup : (d.members.map fun m => (m.name, m.type)).lookup m.name = some m.type :=
    Keyed.lookup_of_mem hkeys (List.mem_map_of_mem hm)
  rw [memberType?, memberTypes, List.lookup_append, hlookup]
  rfl

/-- In a class without members of its own, the promoted parameters of the constructor are found with
their types. -/
lemma memberType?_of_promoted {d : Declaration} {m : Method} {rest : List Method} {name : String}
    {type : Option String} (hmembers : d.members = []) (hmethods : d.methods = m :: rest)
    (hname : m.name = "__construct") (hlookup : m.promotedTypes.lookup name = some type) :
    d.memberType? name = type := by
  have hconstructor : d.methods.filter (·.name == "__construct") =
      m :: rest.filter (·.name == "__construct") := by
    rw [hmethods, List.filter_cons, hname]
    rfl
  rw [memberType?, memberTypes, hmembers, hconstructor, List.flatMap_cons, List.map_nil,
    List.nil_append, List.lookup_append, hlookup]
  rfl

/-- A method whose name no other has is found. -/
lemma method?_of_mem {d : Declaration} {m : Method} (hnodup : d.methodNames.Nodup) (hm : m ∈ d.methods) :
    d.method? m.name = some m := by
  cases hfound : d.method? m.name with
  | none =>
    rw [method?, List.find?_eq_none] at hfound
    exact absurd (beq_self_eq_true m.name) (hfound m hm)
  | some other =>
    have hname := List.find?_some hfound
    rw [beq_iff_eq] at hname
    rw [List.inj_on_of_nodup_map hnodup (List.mem_of_find?_eq_some hfound) hm hname]

/-- A method of a name is declared, with so many parameters. -/
def Declares (d : Declaration) (name : String) (parameters : Nat) : Prop :=
  ∃ m, d.method? name = some m ∧ m.parameters.length = parameters

/-- How many parameters the constructor has; without a constructor there are none. -/
def constructorArity (d : Declaration) : Nat :=
  (d.method? "__construct").elim 0 (·.parameters.length)

end Declaration

end Source

open Source

namespace SourceUnit

/-- Every name in a unit that may be the name of a class: in imports, behind `extends`, `implements` and
`use`, and in the types of members, parameters and results. -/
def references (u : SourceUnit) : List String :=
  let d := u.declaration
  u.uses ++ d.parent.toList ++ d.interfaces ++ d.traits ++ d.members.filterMap (·.type) ++
    d.methods.flatMap fun m => m.parameters.filterMap (·.type) ++ m.returnType.toList

/-- A unit can call the class of another by its short name: it imports the class, or lives in the same
namespace. -/
def Sees (u v : SourceUnit) : Prop := v.qualifiedName ∈ u.uses ∨ v.space = u.space

/-- A unit imports one of some classes under a name. -/
def ImportsAs (u : SourceUnit) (classes : List String) (name : String) : Prop :=
  ∃ entry ∈ u.uses, entry ∈ classes ∧ (Import.read entry).shortName = name

end SourceUnit

/-! ## Calls -/

namespace Source

/-- A call in a body. -/
inductive CallSite where
  | method (object : Expr) (name : String) (arguments : Nat)
  /-- A call of a method of the class itself. -/
  | own (name : String) (arguments : Nat)
  /-- A call on what a method of the class itself gives. -/
  | ownResult (inner name : String) (arguments : Nat)
  | creation (className : String) (arguments : Nat)
  | static (className : String)
  /-- Whatever a line does that is kept as it stands. -/
  | unknown

namespace Expr

mutual

/-- The calls in an expression.  A fallback is a literal that is pasted as it stands, and what it could hold besides
its value is not counted. -/
def calls : Expr → List CallSite
  | .member object _ => object.calls
  | .item array _ => array.calls
  | .call object name args => .method object name args.length :: (object.calls ++ callsOfArgs args)
  | .staticCall className _ => [.static className]
  | .create className args => .creation className args.length :: callsOfArgs args
  | .orElse value _ => value.calls
  | .var _ | .classOf _ | .text _ => []

/-- The calls in the arguments of a call. -/
def callsOfArgs : List Expr → List CallSite
  | [] => []
  | e :: rest => e.calls ++ callsOfArgs rest

end

/-- Whether an expression is the object whose method runs. -/
def isThis : Expr → Bool
  | .var name => name == "this"
  | _ => false

end Expr

namespace Statement

/-- The calls in a statement. -/
def calls : Statement → List CallSite
  | .assign target value => target.calls ++ value.calls
  | .run e | .give e => e.calls
  | .find _ finder .. => [.own "getRepository" 0, .ownResult "getRepository" finder 1]
  | .throwIfNull _ exceptionClass => [.creation exceptionClass 0]
  | .line _ => [.unknown]
  | .note .. | .blank => []

end Statement

end Source

/-- A unit makes a call in the body of one of its methods. -/
def SourceUnit.Makes (u : SourceUnit) (site : CallSite) : Prop :=
  ∃ m ∈ u.declaration.methods, ∃ s ∈ m.body, site ∈ s.calls

namespace Source

/-! ## Classes of objects -/

/-- The variables of a body with their classes, where these are known; the latest comes first. -/
abbrev Scope := List (String × Option String)

section

variable (siblings : List SourceUnit) (own : SourceUnit)

/-- The unit of a class. -/
def unitOf? (className : String) : Option SourceUnit :=
  siblings.find? (·.qualifiedName == className)

/-- The class of an expression of the unit `own`. -/
def Expr.class? (scope : Scope) : Expr → Option String
  | .var name => (scope.lookup name).getD (if name = "this" then some own.qualifiedName else none)
  | .member object name => if object.isThis then own.declaration.memberType? name else none
  | .call object name _ => do
    let v ← unitOf? siblings (← object.class? scope)
    let m ← v.declaration.method? name
    m.returnType
  | .create name _ => (siblings.find? (·.declaration.name == name)).map (·.qualifiedName)
  | _ => none

/-- The scope after a statement. -/
def Statement.scopeAfter (scope : Scope) : Statement → Scope
  | .assign (.var name) value => (name, value.class? siblings own scope) :: scope
  | .find (some name) .. => (name, none) :: scope
  | _ => scope

/-- The calls of a body, each with its scope. -/
def callsIn (scope : Scope) : List Statement → List (Scope × CallSite)
  | [] => []
  | s :: rest => s.calls.map (scope, ·) ++ callsIn (s.scopeAfter siblings own scope) rest

/-- The calls of a method, each with its scope. -/
def Method.callSites (m : Method) : List (Scope × CallSite) :=
  callsIn siblings own (m.parameters.map fun p => (p.name, p.type)) m.body

/-! ## Linked calls -/

variable (foreign : List String)

/-- An object that is not ours: its class is one of the foreign ones, or it is the result of a call on an
object that is not ours. -/
def Expr.IsForeign (scope : Scope) : Expr → Prop
  | .call object name args =>
    (∃ c ∈ foreign, (Expr.call object name args).class? siblings own scope = some c) ∨
      object.IsForeign scope
  | e => ∃ c ∈ foreign, e.class? siblings own scope = some c

/-- A call goes to a sibling that declares what is called, or to a class that is not ours. -/
def CallSite.IsLinked (scope : Scope) : CallSite → Prop
  | .method object name arguments =>
    (∃ v ∈ siblings, object.class? siblings own scope = some v.qualifiedName ∧
      v.declaration.Declares name arguments) ∨ object.IsForeign siblings own foreign scope
  | .own name arguments => own.declaration.Declares name arguments
  | .ownResult inner name arguments =>
    ∃ m c, own.declaration.method? inner = some m ∧ m.returnType = some c ∧
      ((∃ v ∈ siblings, c = v.qualifiedName ∧ v.declaration.Declares name arguments) ∨ c ∈ foreign)
  | .creation name arguments =>
    (∃ v ∈ siblings, v.declaration.name = name ∧ own.Sees v ∧
      v.declaration.constructorArity = arguments) ∨ own.ImportsAs foreign name
  | .static name => own.ImportsAs foreign name
  | .unknown => False

end

end Source

end EntityScaffold
