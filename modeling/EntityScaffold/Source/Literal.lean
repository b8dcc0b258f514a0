import EntityScaffold.Text.Blank
import EntityScaffold.Text.Case
import EntityScaffold.Text.Digit
/-!
# Default values as literals

A default that a person typed becomes a literal of the generated source.  Words for null, truth values,
numbers and lists are taken as they are where the declared type has them, and so is a text that stands
between equal quotes already.  Everything else is put between single quotes, with a backslash before each
backslash and each single quote; `unquote` reads such a literal back.
-/

namespace EntityScaffold.Literal

open Text

/-- The words for truth values, with what they stand for. -/
def truthWords : List (String × String) :=
  [("true", "true"), ("1", "true"), ("yes", "true"), ("false", "false"), ("0", "false"),
    ("no", "false")]

/-- Whether a text is one or more digits. -/
def isDigits (cs : List Char) : Bool := !cs.isEmpty && cs.all isDigit

/-- Whether a text is digits with an optional point and more digits. -/
def isUnsigned (cs : List Char) : Bool :=
  match cutAt? '.' cs with
  | some (whole, fraction) => isDigits whole && isDigits fraction
  | none => isDigits cs

/-- Whether a text is a number, with an optional minus sign. -/
def isNumber (cs : List Char) : Bool :=
  match cs with
  | '-' :: rest => isUnsigned rest
  | cs => isUnsigned cs

/-- Whether a text begins with one character and ends with another. -/
def isBetween (first last : Char) (cs : List Char) : Bool :=
  cs.head? == some first && cs.getLast? == some last

/-- Whether a text stands between equal quotes. -/
def isQuoted (cs : List Char) : Bool :=
  2 ≤ cs.length && (isBetween '\'' '\'' cs || isBetween '"' '"' cs)

/-- One character between single quotes. -/
def escapeChar (c : Char) : List Char := if c == '\\' || c == '\'' then ['\\', c] else [c]

/-- A text between single quotes. -/
def quote (cs : List Char) : List Char := '\'' :: cs.flatMap escapeChar ++ ['\'']

/-- Read characters up to a single quote that ends the literal, and what follows it. -/
def readQuoted : List Char → Option (List Char × List Char)
  | [] => none
  | '\'' :: rest => some ([], rest)
  | '\\' :: c :: rest =>
    if c == '\\' || c == '\'' then (readQuoted rest).map fun (cs, rest) => (c :: cs, rest)
    else (readQuoted (c :: rest)).map fun (cs, rest) => ('\\' :: cs, rest)
  | c :: rest => (readQuoted rest).map fun (cs, rest) => (c :: cs, rest)

/-- Read a single-quoted literal that takes up the whole text. -/
def unquote (cs : List Char) : Option (List Char) :=
  match cs with
  | '\'' :: rest =>
    match readQuoted rest with
    | some (content, []) => some content
    | _ => none
  | _ => none

/-- The literal for a trimmed text, where it is taken as it is: by the words of its type, or because it
is a literal already. -/
def asItIs? (text : List Char) (type : Option String) : Option String :=
  let lowered := lower (String.ofList text)
  if lowered = "null" then some "null"
  else if type = some "bool" ∧ (truthWords.lookup lowered).isSome then truthWords.lookup lowered
  else if (type = some "int" ∨ type = some "float") ∧ isNumber text then some (String.ofList text)
  else if type = some "array" ∧ isBetween '[' ']' text then some (String.ofList text)
  else if isQuoted text then some (String.ofList text)
  else none

/-- The literal for a default value of a type. -/
def print (value : String) (type : Option String) : String :=
  let text := (trim value).toList
  (asItIs? text type).getD (String.ofList (quote text))

end EntityScaffold.Literal
