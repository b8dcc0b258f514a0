import EntityScaffold.Document.Display
/-!
# Writing JSON

A document value as JSON text over several lines: two spaces for each level, one item or entry on a line,
empty lists and objects closed at once.  Characters beyond ASCII stand as they are; only the quote, the
backslash and the control characters are escaped.
-/

namespace EntityScaffold.Document.Json

/-- One character of a string. -/
def printChar (c : Char) : List Char :=
  if c == '"' then ['\\', '"']
  else if c == '\\' then ['\\', '\\']
  else if c == '\n' then ['\\', 'n']
  else if c == '\r' then ['\\', 'r']
  else if c == '\t' then ['\\', 't']
  else if c == '\x08' then ['\\', 'b']
  else if c == '\x0c' then ['\\', 'f']
  else if c.toNat < 0x20 then '\\' :: 'u' :: Text.hexDigits 4 c.toNat
  else [c]

/-- A string between quotes. -/
def printText (s : String) : String :=
  String.ofList ('"' :: s.toList.flatMap printChar ++ ['"'])

/-- A scalar; as a key it stands between quotes. -/
def printScalar : Scalar → String
  | .null => "null"
  | .bool b => if b then "true" else "false"
  | .text s => printText s
  | .date y m d => printText (Scalar.date y m d).display
  | s => s.display

/-- A key of an object. -/
def printKey : Scalar → String
  | .text s => printText s
  | s => printText (printScalar s)

/-- The start of a line at a level. -/
def indent (level : Nat) : String := String.ofList (List.replicate (2 * level) ' ')

/-- A list or an object over several lines, from its printed parts. -/
def block (level : Nat) (opening closing : String) (parts : List String) : String :=
  match parts with
  | [] => opening ++ closing
  | parts =>
    opening ++ "\n" ++ Text.join ",\n" (parts.map (indent (level + 1) ++ ·)) ++ "\n" ++
      indent level ++ closing

mutual

/-- A value whose first line stands at `level`. -/
def printAt (level : Nat) : Value → String
  | .scalar s => printScalar s
  | .list items => block level "[" "]" (printItems (level + 1) items)
  | .mapping entries => block level "\x7b" "\x7d" (printEntries (level + 1) entries)

/-- The items of a list. -/
def printItems (level : Nat) : List Value → List String
  | [] => []
  | v :: rest => printAt level v :: printItems level rest

/-- The entries of an object. -/
def printEntries (level : Nat) : List (Scalar × Value) → List String
  | [] => []
  | (k, v) :: rest => (printKey k ++ ": " ++ printAt level v) :: printEntries level rest

end

/-- A value as JSON text. -/
def print (v : Value) : String := printAt 0 v

end EntityScaffold.Document.Json
