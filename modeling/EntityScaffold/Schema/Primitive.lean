import EntityScaffold.Document.Display
import EntityScaffold.Schema.Checked
import EntityScaffold.Schema.WholeNumber
import EntityScaffold.Text.Case
/-!
# Checks of single values

The checks from which the checks of records are built.  Texts are taken as they are and nothing else is
taken for a text.  Truth values may be written as numbers equal to zero or one and as the usual words,
whole numbers as texts, as truth values, and as floating-point numbers without a fraction.
-/

namespace EntityScaffold.Schema

open Document Text

/-- A check of a document value. -/
abbrev Check (α : Type) := Value → Checked α

/-- Any text. -/
def text : Check String
  | .text s => .accepted s
  | _ => .fail .notText

/-- The words for true. -/
def truthWords : List String := ["1", "on", "t", "true", "y", "yes"]

/-- The words for false. -/
def falsehoodWords : List String := ["0", "off", "f", "false", "n", "no"]

/-- The bound of the numbers that are whole numbers by their size alone. -/
def wordBound : Int := 9223372036854775808

/-- Whether a whole number lies within the bound. -/
def isWord (n : Int) : Bool := -wordBound ≤ n && n < wordBound

/-- Whether a whole number lies strictly within the bound, as a floating-point number has to. -/
def isInnerWord (n : Int) : Bool := -wordBound < n && n < wordBound

/-- The truth value that a whole number stands for: one or zero. -/
def truthOfNumber (n : Int) : Checked Bool :=
  if n = 1 then .accepted true else if n = 0 then .accepted false else .fail .unclearTruth

/-- A truth value. -/
def truth : Check Bool
  | .bool b => .accepted b
  | .int n => if isWord n then truthOfNumber n else .fail .notTruth
  | .float x =>
    match (Decimal.whole? x).filter isInnerWord with
    | some n => truthOfNumber n
    | none => .fail .notTruth
  | .text s =>
    if truthWords.contains (lower s) then .accepted true
    else if falsehoodWords.contains (lower s) then .accepted false
    else .fail .unclearTruth
  | _ => .fail .notTruth

/-- A whole number. -/
def integer : Check Int
  | .int n => .accepted n
  | .bool b => .accepted (if b then 1 else 0)
  | .float x =>
    if x.isNaN || x.isInf then .fail .notFinite
    else
      match Decimal.whole? x with
      | some n => if isInnerWord n then .accepted n else .fail .tooLarge
      | none => .fail .fraction
  | .text s =>
    match WholeNumber.read s with
    | .ok n => .accepted n
    | .error kind => .fail kind
  | _ => .fail .notInteger

/-- Null, or something that passes the check. -/
def optional {α : Type} (check : Check α) : Check (Option α)
  | .null => .accepted none
  | v => (check v).map some

/-- One of the words of a table. -/
def choice {α : Type} (words : List (String × α)) : Check α
  | .text s =>
    match words.lookup s with
    | some a => .accepted a
    | none => .fail .notAChoice
  | _ => .fail .notAChoice

/-- A list whose items pass the check. -/
def list {α : Type} (check : Check α) : Check (List α)
  | .list items => .each check items
  | _ => .fail .notList

/-- A sequence whose items pass the check. -/
def sequence {α : Type} (check : Check α) : Check (List α)
  | .list items => .each check items
  | _ => .fail .notSequence

/-- A sequence of two texts. -/
def textPair : Check (String × String)
  | .list [a, b] => Prod.mk <$> (text a).under "0" <*> (text b).under "1"
  | .list [a] => Prod.mk <$> (text a).under "0" <*> Checked.under "1" (.fail .missing)
  | .list [] => Prod.mk <$> Checked.under "0" (.fail .missing) <*> Checked.under "1" (.fail .missing)
  | .list _ => .fail .tooLong
  | _ => .fail .notSequence

/-- The place of a mapping key. -/
def keyPlace : Scalar → String
  | .text s => s
  | .bool b => if b then "1" else "0"
  | s => if s.isShowable then s.displayInside else "<unprintable int object>"

/-- The key of a mapping, which has to be a text. -/
def textKey : Scalar → Checked String
  | .text s => .accepted s
  | s => Checked.under (keyPlace s) (Checked.under "[key]" (.fail .notText))

/-- A mapping from texts to values that pass the check. -/
def mapping {α : Type} (check : Check α) : Check (List (String × α))
  | .mapping entries => entriesOf entries
  | _ => .fail .notMapping
where
  /-- The entries in order, the key of each before its value. -/
  entriesOf : List (Scalar × Value) → Checked (List (String × α))
    | [] => .accepted []
    | (k, v) :: rest =>
      (fun key value more => (key, value) :: more) <$> textKey k <*> (check v).under (keyPlace k) <*>
        entriesOf rest

/-- The fields of a record. -/
abbrev Fields := List (Scalar × Value)

/-- A record, whose fields are checked together. -/
def record {α : Type} (fields : Fields → Checked α) : Check α
  | .mapping entries => fields entries
  | _ => .fail .notRecord

/-- A field that has to be there. -/
def required {α : Type} (name : String) (check : Check α) (fields : Fields) : Checked α :=
  Checked.under name <|
    match find? fields name with
    | some v => check v
    | none => .fail .missing

/-- A field that has a value of its own when it is not there. -/
def field {α : Type} (name : String) (default : α) (check : Check α) (fields : Fields) : Checked α :=
  match find? fields name with
  | some v => (check v).under name
  | none => .accepted default

/-- The issues of the fields that a record does not have. -/
def strangers (names : List String) (fields : Fields) : List Issue :=
  fields.filterMap fun (key, _) =>
    match key with
    | .text s => if names.contains s then none else some ⟨[s], .unknownField⟩
    | s => some ⟨[keyPlace s], .unnamedField⟩

/-- A record without other fields than the named ones. -/
def closed {α : Type} (names : List String) (fields : Fields) (checked : Checked α) : Checked α :=
  match strangers names fields with
  | [] => checked
  | issues => (fun a _ => a) <$> checked <*> (.refused issues : Checked Unit)

end EntityScaffold.Schema
