import EntityScaffold.Document.Yaml.Node
import EntityScaffold.Document.Yaml.Plain
/-!
# The value of a YAML node

A scalar has the value that it is written for, a list those of its items, and a mapping those of its entries.
Keys have to be scalars, and of entries with the same key the last counts.  The mark that includes another
mapping and the mark of a default value are read as texts nowhere but, the latter, as a key.

When several parts have no value, the fault that is reported is the one nearest to the root, and of those the
first: `both` combines the outcomes of two parts in that way.
-/

namespace EntityScaffold.Document.Yaml

/-- A fault and how deep below a node it lies. -/
structure Misfit where
  depth : Nat
  fault : Fault
  deriving DecidableEq, Repr, Inhabited

/-- The outcomes of two parts as one: both values, or the fault that lies less deep, the first of two at one
depth. -/
def both {α β γ : Type} (f : α → β → γ) (x : Except Misfit α) (y : Except Misfit β) :
    Except Misfit γ :=
  match x, y with
  | .ok a, .ok b => .ok (f a b)
  | .ok _, .error later => .error later
  | .error first, .ok _ => .error first
  | .error first, .error later => .error (if later.depth < first.depth then later else first)

/-- The outcome of a part as one of the whole. -/
def ofPart {α β : Type} (f : α → β) (x : Except Misfit α) : Except Misfit β :=
  match x with
  | .ok a => .ok (f a)
  | .error m => .error { m with depth := m.depth + 1 }

/-- The value of a scalar. -/
def scalarOf (text : String) (plain : Bool) : Except Misfit Scalar :=
  if plain then
    match Meaning.ofPlain text with
    | .scalar s => .ok s
    | .merge | .default => .error ⟨0, .unreadable⟩
    | .fault fault => .error ⟨0, fault⟩
  else .ok (.text text)

/-- The value of a key. -/
def keyOf : Node → Except Misfit Scalar
  | .scalar text plain => if plain && text == "=" then .ok (.text text) else scalarOf text plain
  | _ => .error ⟨0, .unreadable⟩

mutual

/-- The value of a node. -/
def Node.value : Node → Except Misfit Value
  | .scalar text plain => (scalarOf text plain).map .scalar
  | .list items => ofPart .list (valuesOf items)
  | .mapping entries => ofPart (fun entries => .mapping (putAll entries)) (entriesOf entries)

/-- The values of the items of a list. -/
def valuesOf : List Node → Except Misfit (List Value)
  | [] => .ok []
  | node :: rest => both List.cons node.value (valuesOf rest)

/-- The entries of a mapping, in the order in which they stand. -/
def entriesOf : List (Node × Node) → Except Misfit (List (Scalar × Value))
  | [] => .ok []
  | (key, node) :: rest => both List.cons (both Prod.mk (keyOf key) node.value) (entriesOf rest)

end

end EntityScaffold.Document.Yaml
