import EntityScaffold.Document.Display
import EntityScaffold.Failure
import EntityScaffold.Naming.Identifier
import EntityScaffold.Naming.Words
/-!
# Lists of fields and events

The properties to look up by and the events of an entity are given as a text with commas or as a list.  Void
items are dropped, and so are items of nothing but blanks; spaces are taken out of the others.  An event is
known by the stem of its class name without regard to case, and of the events with one stem only the first
is kept.
-/

namespace EntityScaffold

open Document Text

/-- The items that a value lists: those of a list, the keys of a mapping, none for null. -/
def listedItems : Value → Except Failure (List Value)
  | .null => .ok []
  | .list items => .ok items
  | .mapping entries => .ok (entries.map fun (key, _) => .scalar key)
  | .scalar _ => .error .wrongKind

/-- The texts of a list, without the void items. -/
def listedTexts : List Value → Except Failure (List String)
  | [] => .ok []
  | item :: rest =>
    if item.isVoid then listedTexts rest
    else
      match item with
      | .text s => do pure (s :: (← listedTexts rest))
      | _ => .error .notText

/-- An item without the spaces in it. -/
def withoutSpaces (s : String) : String := through (·.filter (· != ' ')) s

/-- The items that are more than blanks, without spaces. -/
def normalItems (items : List String) : List String :=
  (items.filter fun item => !isBlankText item).map withoutSpaces

/-- The field names that a value lists. -/
def fieldNames : Value → Except Failure (List String)
  | .text s => .ok (normalItems (pieces ',' s))
  | value => do pure (normalItems (← listedTexts (← listedItems value)))

/-- The events of every entity's life, in order. -/
def lifecycle : List String := ["created", "updated", "deleted"]

/-- What tells events apart: the stem of the class name in lower case. -/
def eventKey (event : String) : Except Failure String :=
  let stem := Naming.pascal event
  if isIdentifier stem then .ok (lower stem) else reject (.event event .unusable)

/-- The events whose key was not seen before. -/
def newEvents (seen : List String) : List String → Except Failure (List String)
  | [] => .ok []
  | event :: rest => do
    let key ← eventKey event
    if seen.contains key then newEvents seen rest
    else pure (event :: (← newEvents (seen ++ [key]) rest))

/-- The events that a value lists; the text `all` stands for the whole lifecycle. -/
def eventNames (value : Value) : Except Failure (List String) := do
  match value with
  | .text s =>
    if lower (trim s) = "all" then pure lifecycle else newEvents [] (← fieldNames value)
  | _ => newEvents [] (← fieldNames value)

end EntityScaffold
