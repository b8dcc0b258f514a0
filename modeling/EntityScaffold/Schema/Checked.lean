import EntityScaffold.Schema.Issue
/-!
# Checked values

The outcome of checking a part of a document: the value it describes, or every issue it has.  Combining
two checks keeps the issues of both, in order, which is why `Checked` is an applicative functor and not a
monad: no check may depend on the success of another.
-/

namespace EntityScaffold.Schema

/-- A value, or the issues that stand against it. -/
inductive Checked (α : Type) where
  | accepted (value : α)
  | refused (issues : List Issue)
  deriving Inhabited

namespace Checked

variable {α β γ : Type}

/-- Apply a function to the value. -/
def map (f : α → β) : Checked α → Checked β
  | .accepted a => .accepted (f a)
  | .refused issues => .refused issues

/-- Apply a checked function to a checked value; the issues of both count. -/
def apply (f : Checked (α → β)) (x : Checked α) : Checked β :=
  match f, x with
  | .accepted f, .accepted a => .accepted (f a)
  | .accepted _, .refused issues => .refused issues
  | .refused issues, .accepted _ => .refused issues
  | .refused issues, .refused more => .refused (issues ++ more)

instance : Applicative Checked where
  pure := .accepted
  map := map
  seq f x := apply f (x ())

@[simp] theorem pure_eq (a : α) : (pure a : Checked α) = .accepted a := rfl

@[simp] theorem map_eq (f : α → β) (x : Checked α) : f <$> x = map f x := rfl

@[simp] theorem seq_eq (f : Checked (α → β)) (x : Checked α) : f <*> x = apply f x := rfl

/-- One issue, at the place itself. -/
def fail (kind : IssueKind) : Checked α := .refused [⟨[], kind⟩]

/-- The outcome seen from further outside. -/
def under (key : String) : Checked α → Checked α
  | .accepted a => .accepted a
  | .refused issues => .refused (issues.map (Issue.under key))

/-- Go on with a rule that needs the whole value; it is not asked when there are issues already. -/
def andThen (x : Checked α) (rule : α → Checked β) : Checked β :=
  match x with
  | .accepted a => rule a
  | .refused issues => .refused issues

/-- The outcome as a value or an error. -/
def toExcept {ε : Type} (fault : List Issue → ε) : Checked α → Except ε α
  | .accepted a => .ok a
  | .refused issues => .error (fault issues)

/-- Check the items of a list, each under its position. -/
def eachFrom (check : α → Checked β) (position : Nat) : List α → Checked (List β)
  | [] => .accepted []
  | a :: rest =>
    apply (map List.cons ((check a).under (toString position))) (eachFrom check (position + 1) rest)

/-- Check the items of a list. -/
def each (check : α → Checked β) (items : List α) : Checked (List β) := eachFrom check 0 items

end Checked

end EntityScaffold.Schema
