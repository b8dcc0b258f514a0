import EntityScaffold.Failure
import EntityScaffold.Naming.Identifier
import EntityScaffold.Text.Blank
import EntityScaffold.Text.Case
import EntityScaffold.Text.Digit
import EntityScaffold.TypeExpression.Modifiers
/-!
# Type expressions

The type of a property is written in one line: an optional `?` for nullability, a base name, after a bar a
length or a precision with a scale, and after blanks any number of flags, each beginning with two hyphens.

    ?string|31 --unique        decimal|10,2        ?App\Model\Author

`TypeExpression.split` takes such a text apart and `TypeExpression.print` writes one.  Only the form is
looked at here; what the base name means is decided in `TypeOutcome`.  Flags that nobody asks for are
dropped.
-/

namespace EntityScaffold

open Text

/-- The parts of a type expression. -/
structure TypeExpression where
  nullable : Bool
  base : String
  modifiers : Modifiers
  deriving DecidableEq, Repr, Inhabited

namespace TypeExpression

/-- Whether a text is a class name: identifiers with backslashes between them, and perhaps one before. -/
def isClassName (cs : List Char) : Bool :=
  let cs := if cs.head? == some '\\' then cs.drop 1 else cs
  (cs.splitOnP (· == '\\')).all isIdentifierChars

/-- Whether a text is one or more digits. -/
def isNumber (cs : List Char) : Bool := !cs.isEmpty && cs.all isDigit

/-- The number a digit text writes, unless its digits are too many. -/
def number (cs : List Char) : Except TypeFault Int :=
  match Decimal.sizeFault? cs.length with
  | some fault => .error (.number fault)
  | none => .ok (Int.ofNat (natOfDigits cs))

/-- The length, or precision and scale, that a modifier stands for. -/
def readModifier (cs : List Char) : Except TypeFault Modifiers :=
  if isNumber cs then do pure { length := some (← number cs) }
  else
    match cutAt? ',' cs with
    | some (precision, scale) =>
      if isNumber precision && isNumber scale then do
        pure { precision := some (← number precision), scale := some (← number scale) }
      else .error (.badModifier (String.ofList cs))
    | none => .error (.badModifier (String.ofList cs))

/-- The flag that a word stands for, in lower case. -/
def readFlag (word : List Char) : Except TypeFault String :=
  match word with
  | '-' :: '-' :: flag => .ok (lower (String.ofList flag))
  | word => .error (.strayWord (String.ofList word))

/-- The recognized ones among the words after the type, each once; `seen` holds the flags so far. -/
def readFlags (recognized seen : List String) : List (List Char) → Except TypeFault (List String)
  | [] => .ok seen
  | word :: rest => do
    let flag ← readFlag word
    readFlags recognized
      (if recognized.contains flag && !seen.contains flag then seen ++ [flag] else seen) rest

/-- Check the base name of a type. -/
def readBase (cs : List Char) : Except TypeFault String :=
  if cs.isEmpty then .error .noBase
  else if isClassName cs then .ok (String.ofList cs)
  else .error (.badName (String.ofList cs))

/-- Whether a type begins with the mark of nullability, and the rest. -/
def readNullable : List Char → Bool × List Char
  | '?' :: rest => (true, rest)
  | cs => (false, cs)

/-- The base and the modifiers of a type without its mark of nullability. -/
def readHead (cs : List Char) : Except TypeFault (String × Modifiers) :=
  match cutAt? '|' cs with
  | some (base, modifier) => do
    let modifiers ← readModifier modifier
    let base ← readBase base
    pure (base, modifiers)
  | none => do
    let base ← readBase cs
    pure (base, {})

/-- The parts of a type expression given as words. -/
def ofWords (recognized : List String) : List (List Char) → Except TypeFault TypeExpression
  | [] => .error .empty
  | head :: rest => do
    let flags ← readFlags recognized [] rest
    let (nullable, head) := readNullable head
    let (base, modifiers) ← readHead head
    pure ⟨nullable, base, { modifiers with flags := flags }⟩

/-- Take a type expression apart. -/
def split (recognized : List String) (token : String) : Except TypeFault TypeExpression :=
  ofWords recognized (wordsOf token.toList)

/-- Take apart a type expression that may be missing, which is the same as an empty one. -/
def read (recognized : List String) (token : Option String) : Except Failure TypeExpression :=
  match split recognized (token.getD "") with
  | .ok t => .ok t
  | .error (.number fault) => .error (.ofSize fault)
  | .error fault => reject (.typeExpression token fault)

/-- Write the length, or the precision with the scale, after a bar. -/
def printModifier (m : Modifiers) : String :=
  match m.length, m.precision, m.scale with
  | some length, _, _ => "|" ++ toString length
  | none, some precision, some scale => "|" ++ toString precision ++ "," ++ toString scale
  | _, _, _ => ""

/-- Write a type expression. -/
def print (t : TypeExpression) : String :=
  (if t.nullable then "?" else "") ++ t.base ++ printModifier t.modifiers ++
    String.join (t.modifiers.flags.map (" --" ++ ·))

end TypeExpression

end EntityScaffold
