import EntityScaffold.Proofs.Source.Literal.Inert
import EntityScaffold.Source.Unit
/-!
# What a body does with data

The statements of a body take values from some places and put them into others.  A `Place` is a variable, or a
member or an item of what a variable holds, and the `Flow` of a statement says which place it writes and which
it reads.  The flows of a method are those of its statements in order, so that they tell what is written how
often, from where, and that nothing else is read or written.

Places that are reached in another way, and whatever a line does that is kept as it stands, are `Place.elsewhere`.
A variable that is passed on, or whose methods are called, is read as a whole.  A fallback is pasted into the statement
as it was printed: it is not read from any place, but it may do more than give a value, and if it is not seen to be
inert, it counts as a line that is kept as it stands.
-/

namespace EntityScaffold.Source

/-- A place that a body reads or writes. -/
inductive Place where
  | variable (name : String)
  /-- A member of the object that a variable holds. -/
  | member (holder name : String)
  /-- An item of the array that a variable holds. -/
  | item (holder key : String)
  | elsewhere
  deriving DecidableEq, Repr, Inhabited

namespace Expr

/-- The place that an expression stands for. -/
def place : Expr → Place
  | .var name => .variable name
  | .member (.var holder) name => .member holder name
  | .item (.var holder) key => .item holder key
  | _ => .elsewhere

mutual

/-- The places that an expression reads. -/
def reads : Expr → List Place
  | .var name => [.variable name]
  | .member (.var holder) name => [.member holder name]
  | .member object _ => .elsewhere :: object.reads
  | .item (.var holder) key => [.item holder key]
  | .item array _ => .elsewhere :: array.reads
  | .call object _ args => object.reads ++ readsOfArgs args
  | .create _ args => readsOfArgs args
  | .orElse value _ => value.reads
  | .staticCall _ _ => [.elsewhere]
  | .classOf _ | .text _ => []

/-- The places that the arguments of a call read. -/
def readsOfArgs : List Expr → List Place
  | [] => []
  | e :: rest => e.reads ++ readsOfArgs rest

end

mutual

/-- The texts that are pasted into an expression. -/
def pasted : Expr → List String
  | .orElse value fallback => value.pasted ++ [fallback]
  | .member object _ => object.pasted
  | .item array _ => array.pasted
  | .call object _ args => object.pasted ++ pastedOfArgs args
  | .create _ args => pastedOfArgs args
  | .var _ | .staticCall _ _ | .classOf _ | .text _ => []

/-- The texts that are pasted into the arguments of a call. -/
def pastedOfArgs : List Expr → List String
  | [] => []
  | e :: rest => e.pasted ++ pastedOfArgs rest

end

end Expr

/-- What a statement does with data. -/
structure Flow where
  /-- The place that is written, if there is one. -/
  target : Option Place
  sources : List Place
  deriving DecidableEq, Repr, Inhabited

/-- What a text does with data that is pasted into a statement. -/
def pasteFlows (text : String) : List Flow := if Literal.isInert text then [] else [⟨some .elsewhere, [.elsewhere]⟩]

/-- What a statement means to do with data; notes and blank lines do nothing. -/
def Statement.flow : Statement → Option Flow
  | .assign target value => some ⟨some target.place, value.reads⟩
  | .run expr | .give expr => some ⟨none, expr.reads⟩
  | .find into _ _ parameter => some ⟨into.map .variable, [.variable "this", .variable parameter]⟩
  | .throwIfNull variableName _ => some ⟨none, [.variable variableName]⟩
  | .line _ => some ⟨some .elsewhere, [.elsewhere]⟩
  | .note _ _ | .blank => none

/-- The texts that are pasted into a statement. -/
def Statement.pasted : Statement → List String
  | .assign target value => target.pasted ++ value.pasted
  | .run expr | .give expr => expr.pasted
  | .note _ _ | .find _ _ _ _ | .throwIfNull _ _ | .blank | .line _ => []

/-- What a statement does with data: what it means to do, and what is done by the texts that are pasted into it. -/
def Statement.flows (s : Statement) : List Flow := s.flow.toList ++ s.pasted.flatMap pasteFlows

/-- What the statements of a body do with data, in order. -/
def flowsOf (body : List Statement) : List Flow := body.flatMap Statement.flows

/-- What a method does with data. -/
def Method.flows (m : Method) : List Flow := flowsOf m.body

/-- Each of some names is written from one kind of place to another, and nothing else. -/
def transfer (source target : String → Place) (names : List String) : List Flow :=
  names.map fun name => ⟨some (target name), [source name]⟩

@[simp] lemma flowsOf_nil : flowsOf [] = [] := rfl

@[simp] lemma flowsOf_cons (s : Statement) (rest : List Statement) :
    flowsOf (s :: rest) = s.flows ++ flowsOf rest := List.flatMap_cons

@[simp] lemma flowsOf_append (body rest : List Statement) :
    flowsOf (body ++ rest) = flowsOf body ++ flowsOf rest := List.flatMap_append

section

variable {α : Type} {f : α → Statement} {g : α → Flow} {more : α → List Flow} {items : List α}

/-- Statements that each do one thing do these one after another. -/
lemma flowsOf_map (h : ∀ item ∈ items, (f item).flows = [g item]) : flowsOf (items.map f) = items.map g := by
  induction items with
  | nil => rfl
  | cons item items ih =>
    obtain ⟨hitem, hitems⟩ := List.forall_mem_cons.1 h
    rw [List.map_cons, flowsOf_cons, hitem, ih hitems]
    rfl

lemma length_le_flowsOf_map (h : ∀ item ∈ items, (f item).flows = g item :: more item) :
    items.length ≤ (flowsOf (items.map f)).length := by
  induction items with
  | nil => exact Nat.zero_le 0
  | cons item items ih =>
    obtain ⟨hitem, hitems⟩ := List.forall_mem_cons.1 h
    have hrest := ih hitems
    rw [List.map_cons, flowsOf_cons, hitem, List.length_append, List.length_cons, List.length_cons]
    omega

/-- Statements that each do one thing, and perhaps more, do one thing each exactly if none of them does more. -/
lemma flowsOf_map_eq_iff (h : ∀ item ∈ items, (f item).flows = g item :: more item) :
    flowsOf (items.map f) = items.map g ↔ ∀ item ∈ items, more item = [] := by
  induction items with
  | nil => exact iff_of_true rfl nofun
  | cons item items ih =>
    obtain ⟨hitem, hitems⟩ := List.forall_mem_cons.1 h
    rw [List.forall_mem_cons, List.map_cons, List.map_cons, flowsOf_cons, hitem, List.cons_append, List.cons.injEq,
      and_iff_right rfl, ← ih hitems]
    constructor
    · intro heq
      have hnone : more item = [] := by
        have hsum := congrArg List.length heq
        have hleast := length_le_flowsOf_map hitems
        rw [List.length_append, List.length_map] at hsum
        exact List.eq_nil_of_length_eq_zero (by omega)
      rw [hnone] at heq
      exact ⟨hnone, heq⟩
    · rintro ⟨hnone, heq⟩
      rw [hnone, heq]
      rfl

end

end EntityScaffold.Source
