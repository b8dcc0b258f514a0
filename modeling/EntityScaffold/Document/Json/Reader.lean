import EntityScaffold.Decimal.Nearest
import EntityScaffold.Document.Fault
import EntityScaffold.Document.Value
import EntityScaffold.Text.Basic
/-!
# Reading JSON

A JSON text as a document value.  A number with a fraction or an exponent is a floating-point number,
any other a whole number; beyond the standard the words `NaN`, `Infinity` and `-Infinity` are accepted.  A
repeated key keeps its first place and takes its last value.  Each step returns what is left of the text; the
recursion over nested values is bounded by the length of the text, since every nested value takes at least one
character.

A text is read up to its first fault.  That is nearly always a breach of the format; a whole number with too
many digits is one, and so are values that are nested too deeply, and an escape that writes half of a surrogate
pair where the other half does not follow.
-/

namespace EntityScaffold.Document.Json

/-- The characters between tokens. -/
def isSpace (c : Char) : Bool := c == ' ' || c == '\t' || c == '\n' || c == '\r'

/-- Skip what stands between tokens. -/
def skip (cs : List Char) : List Char := cs.dropWhile isSpace

/-- The value of a hexadecimal digit. -/
def hexValue? (c : Char) : Option Nat :=
  if '0' ≤ c && c ≤ '9' then some (c.toNat - 48)
  else if 'a' ≤ c && c ≤ 'f' then some (c.toNat - 87)
  else if 'A' ≤ c && c ≤ 'F' then some (c.toNat - 55)
  else none

/-- Read four hexadecimal digits. -/
def readCode : List Char → Option (Nat × List Char)
  | a :: b :: c :: d :: rest => do
    let a ← hexValue? a
    let b ← hexValue? b
    let c ← hexValue? c
    let d ← hexValue? d
    pure (((a * 16 + b) * 16 + c) * 16 + d, rest)
  | _ => none

/-- The second half of a surrogate pair, when the text goes on with one. -/
def readLowHalf : List Char → Option (Nat × List Char)
  | '\\' :: 'u' :: rest =>
    match readCode rest with
    | some (code, rest) => if 0xDC00 ≤ code && code < 0xE000 then some (code, rest) else none
    | none => none
  | _ => none

/-- The character of a short escape. -/
def shortEscape? : Char → Option Char
  | '"' => some '"'
  | '\\' => some '\\'
  | '/' => some '/'
  | 'b' => some '\x08'
  | 'f' => some '\x0c'
  | 'n' => some '\n'
  | 'r' => some '\r'
  | 't' => some '\t'
  | _ => none

/-- The character of a code, with what follows it; the other half of a pair is taken from there. -/
def charOf (code : Nat) (rest : List Char) : Except Fault (Char × List Char) :=
  if 0xD800 ≤ code && code < 0xDC00 then
    match readLowHalf rest with
    | some (low, rest) =>
      .ok (Char.ofNat (0x10000 + (code - 0xD800) * 0x400 + (low - 0xDC00)), rest)
    | none => .error .unpaired
  else if 0xDC00 ≤ code && code < 0xE000 then .error .unpaired
  else .ok (Char.ofNat code, rest)

/-- Read an escape, after its backslash. -/
def readEscape : List Char → Except Fault (Char × List Char)
  | 'u' :: rest =>
    match readCode rest with
    | some (code, rest) => charOf code rest
    | none => .error .unreadable
  | c :: rest =>
    match shortEscape? c with
    | some short => .ok (short, rest)
    | none => .error .unreadable
  | [] => .error .unreadable

/-- Read the characters of a string, after its opening quote.  `fuel` bounds their number. -/
def readChars : (fuel : Nat) → List Char → Except Fault (List Char × List Char)
  | 0, _ => .error .unreadable
  | fuel + 1, cs =>
    match cs with
    | [] => .error .unreadable
    | '"' :: rest => .ok ([], rest)
    | '\\' :: rest => do
      let (c, rest) ← readEscape rest
      let (more, rest) ← readChars fuel rest
      pure (c :: more, rest)
    | c :: rest =>
      if c.toNat < 0x20 then .error .unreadable
      else do
        let (more, rest) ← readChars fuel rest
        pure (c :: more, rest)

/-- Read a string, after its opening quote. -/
def readString (cs : List Char) : Except Fault (String × List Char) :=
  (readChars (cs.length + 1) cs).map fun (chars, rest) => (String.ofList chars, rest)

/-- The number an ASCII digit string writes. -/
def natOf (digits : List Char) : Nat := digits.foldl (fun n c => 10 * n + (c.toNat - 48)) 0

/-- The digits of a whole part: a zero alone, or digits that do not start with one. -/
def readWhole (cs : List Char) : Option (List Char × List Char) :=
  match cs with
  | '0' :: rest => some (['0'], rest)
  | c :: _ => if c.isDigit then some (cs.takeWhile Char.isDigit, cs.dropWhile Char.isDigit) else none
  | [] => none

/-- The digits of a fraction, if there is one. -/
def readFraction (cs : List Char) : Option (List Char) × List Char :=
  match cs with
  | '.' :: c :: rest =>
    if c.isDigit then
      (some ((c :: rest).takeWhile Char.isDigit), (c :: rest).dropWhile Char.isDigit)
    else (none, cs)
  | _ => (none, cs)

/-- The digits of an exponent, after its mark and sign. -/
def readExponentDigits (negative : Bool) (whole cs : List Char) : Option Int × List Char :=
  match cs with
  | c :: _ =>
    if c.isDigit then
      let n := Int.ofNat (natOf (cs.takeWhile Char.isDigit))
      (some (if negative then -n else n), cs.dropWhile Char.isDigit)
    else (none, whole)
  | [] => (none, whole)

/-- An exponent, if there is one. -/
def readExponent (cs : List Char) : Option Int × List Char :=
  match cs with
  | c :: rest =>
    if c == 'e' || c == 'E' then
      match rest with
      | '-' :: digits => readExponentDigits true cs digits
      | '+' :: digits => readExponentDigits false cs digits
      | digits => readExponentDigits false cs digits
    else (none, cs)
  | [] => (none, cs)

/-- A whole number, from its digits, unless they are too many. -/
def wholeOf (negative : Bool) (digits : List Char) : Except Fault Value :=
  match Decimal.sizeFault? digits.length with
  | some fault => .error (.ofSize fault)
  | none =>
    let n := Int.ofNat (natOf digits)
    .ok (.int (if negative then -n else n))

/-- A number, from the digits of its parts. -/
def numberOf (negative : Bool) (whole : List Char) (fraction : Option (List Char))
    (exponent : Option Int) : Except Fault Value :=
  match fraction, exponent with
  | none, none => wholeOf negative whole
  | fraction, exponent =>
    let places := fraction.getD []
    let e := exponent.getD 0 - Int.ofNat places.length
    .ok (.float (Decimal.nearest negative (natOf (whole ++ places)) e))

/-- Read a number, after its sign. -/
def readNumber (negative : Bool) (cs : List Char) : Except Fault (Value × List Char) :=
  match readWhole cs with
  | none => .error .unreadable
  | some (whole, rest) => do
    let (fraction, rest) := readFraction rest
    let (exponent, rest) := readExponent rest
    pure (← numberOf negative whole fraction exponent, rest)

/-- The words that are values, with what they stand for. -/
def words : List (List Char × Value) :=
  [("null".toList, .null), ("true".toList, .bool true), ("false".toList, .bool false),
    ("NaN".toList, .float (0 / 0)), ("Infinity".toList, .float (1 / 0)),
    ("-Infinity".toList, .float (-1 / 0))]

/-- Read one of the words. -/
def readWord (cs : List Char) : Option (Value × List Char) :=
  words.findSome? fun (word, value) =>
    if word.isPrefixOf cs then some (value, cs.drop word.length) else none

/-- Read a word or a number. -/
def readPlain (cs : List Char) : Except Fault (Value × List Char) :=
  match readWord cs with
  | some found => .ok found
  | none =>
    match cs with
    | '-' :: rest => readNumber true rest
    | _ => readNumber false cs

/-- How deeply lists and objects may be nested. -/
def mostNested : Nat := 990

mutual

/-- Read a value inside lists and objects that may be nested `depth` times more. -/
def readValue : (fuel depth : Nat) → List Char → Except Fault (Value × List Char)
  | 0, _, _ => .error .unreadable
  | fuel + 1, depth, cs =>
    match cs with
    | '"' :: rest => (readString rest).map fun (s, rest) => (.text s, rest)
    | '[' :: rest => readList fuel depth (skip rest)
    | '\x7b' :: rest => readObject fuel depth (skip rest)
    | cs => readPlain cs

/-- Read a list, after its opening bracket. -/
def readList : (fuel depth : Nat) → List Char → Except Fault (Value × List Char)
  | 0, _, _ => .error .unreadable
  | _ + 1, 0, _ => .error .tooDeep
  | fuel + 1, depth + 1, cs =>
    match cs with
    | ']' :: rest => .ok (.list [], rest)
    | cs => (readItems fuel depth cs).map fun (items, rest) => (.list items, rest)

/-- Read an object, after its opening brace. -/
def readObject : (fuel depth : Nat) → List Char → Except Fault (Value × List Char)
  | 0, _, _ => .error .unreadable
  | _ + 1, 0, _ => .error .tooDeep
  | fuel + 1, depth + 1, cs =>
    match cs with
    | '\x7d' :: rest => .ok (.mapping [], rest)
    | cs => (readEntries fuel depth cs).map fun (entries, rest) => (.mapping (putAll entries), rest)

/-- Read the items of a list, one at least. -/
def readItems : (fuel depth : Nat) → List Char → Except Fault (List Value × List Char)
  | 0, _, _ => .error .unreadable
  | fuel + 1, depth, cs => do
    let (item, rest) ← readValue fuel depth cs
    match skip rest with
    | ']' :: rest => pure ([item], rest)
    | ',' :: rest =>
      let (items, rest) ← readItems fuel depth (skip rest)
      pure (item :: items, rest)
    | _ => .error .unreadable

/-- Read the entries of an object, one at least, in the order in which they stand. -/
def readEntries : (fuel depth : Nat) → List Char → Except Fault (List (Scalar × Value) × List Char)
  | 0, _, _ => .error .unreadable
  | fuel + 1, depth, cs =>
    match cs with
    | '"' :: rest => do
      let (key, rest) ← readString rest
      match skip rest with
      | ':' :: rest =>
        let (value, rest) ← readValue fuel depth (skip rest)
        match skip rest with
        | '\x7d' :: rest => pure ([(.text key, value)], rest)
        | ',' :: rest =>
          let (entries, rest) ← readEntries fuel depth (skip rest)
          pure ((.text key, value) :: entries, rest)
        | _ => .error .unreadable
      | _ => .error .unreadable
    | _ => .error .unreadable

end

/-- Read a whole text as one JSON value. -/
def read (s : String) : Except Fault Value := do
  let cs := s.toList
  let (value, rest) ← readValue (3 * cs.length + 3) mostNested (skip cs)
  if (skip rest).isEmpty then pure value else .error .unreadable

end EntityScaffold.Document.Json
