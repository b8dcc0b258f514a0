import EntityScaffold.Document.Yaml.Flow
/-!
# Tokens of a YAML text

A YAML text is cut into tokens that make its structure explicit: where block collections begin and end,
which follows from indentation, and what is a key, which is known only when the colon after it is reached.
For that a scalar or bracketed collection that may turn out to be a key is remembered with its place
(`PossibleKey`), and the marks that make it one are inserted before it later.  A key must stand on one line
with its colon and not too far from it.

Where the text cannot be cut any further, the tokens that are settled by then are kept: what they say is looked
at first.  Anchors, tags, directives and block scalars are not read.
-/

namespace EntityScaffold.Document.Yaml

/-- A token. -/
inductive Token where
  | documentStart
  | documentEnd
  | blockListStart
  | blockMappingStart
  | blockEnd
  | flowListStart
  | flowListEnd
  | flowMappingStart
  | flowMappingEnd
  | blockEntry
  | flowEntry
  | key
  | value
  /-- A scalar, and whether it stands without quotes. -/
  | scalar (text : String) (plain : Bool)
  deriving DecidableEq, Repr, Inhabited

/-- Whether a list or mapping begins with a token. -/
def Token.isStart : Token → Bool
  | .blockListStart | .blockMappingStart | .flowListStart | .flowMappingStart => true
  | _ => false

/-- Whether a list or mapping ends with a token. -/
def Token.isEnd : Token → Bool
  | .blockEnd | .flowListEnd | .flowMappingEnd => true
  | _ => false

/-- Something that becomes a key if a colon follows. -/
structure PossibleKey where
  /-- The number of tokens before it. -/
  position : Nat
  /-- Whether nothing else can stand there. -/
  required : Bool
  index : Nat
  line : Nat
  column : Nat

/-- The tokens so far and what has to be remembered about them. -/
structure Scan where
  cursor : Cursor
  /-- The tokens so far. -/
  tokens : Array Token
  /-- The brackets and braces that are open. -/
  flow : Nat
  /-- The column of the innermost block collection, and those of the collections around it. -/
  indent : Int
  outer : List Int
  /-- Whether a key may begin here. -/
  keyAllowed : Bool
  /-- The possible keys, by the number of brackets and braces open around them. -/
  keys : List (Nat × PossibleKey)

namespace Scan

/-- Before the first token. -/
def start (cs : List Char) : Scan := ⟨.start cs, #[], 0, -1, [], true, []⟩

/-- Add a token. -/
def push (s : Scan) (t : Token) : Scan := { s with tokens := s.tokens.push t }

/-- Whether some bracket or brace is open. -/
def inFlow (s : Scan) : Bool := s.flow != 0

/-- The column reached. -/
def column (s : Scan) : Int := Int.ofNat s.cursor.column

/-! ## Possible keys -/

/-- Whether a possible key can no longer become one. -/
def isStale (s : Scan) (key : PossibleKey) : Bool :=
  key.line != s.cursor.line || s.cursor.index - key.index > 1024

/-- Forget the keys that can no longer become one; a required one is an error. -/
def dropStale (s : Scan) : Except Fault Scan :=
  if s.keys.any fun (_, key) => s.isStale key && key.required then .error .unreadable
  else .ok { s with keys := s.keys.filter fun (_, key) => !s.isStale key }

/-- Forget the possible key of this level; a required one is an error. -/
def dropKey (s : Scan) : Except Fault Scan :=
  match s.keys.lookup s.flow with
  | some key =>
    if key.required then .error .unreadable
    else .ok { s with keys := s.keys.filter fun entry => entry.1 != s.flow }
  | none => .ok s

/-- Remember that a key may begin here. -/
def saveKey (s : Scan) : Except Fault Scan :=
  if s.keyAllowed then do
    let s ← s.dropKey
    let key : PossibleKey :=
      ⟨s.tokens.size, !s.inFlow && s.indent == s.column, s.cursor.index, s.cursor.line,
        s.cursor.column⟩
    pure { s with keys := (s.flow, key) :: s.keys }
  else .ok s

/-! ## Indentation -/

/-- Close the block collections that are indented by more than `column`. -/
def unwindTo (column : Int) : List Int → Scan → Scan
  | [], s => s
  | indent :: outer, s =>
    if s.indent > column then
      unwindTo column outer ({ s with indent := indent, outer := outer }.push .blockEnd)
    else s

/-- Close the block collections that are indented by more than `column`, outside brackets and braces. -/
def unwind (s : Scan) (column : Int) : Scan := if s.inFlow then s else unwindTo column s.outer s

/-- Begin a block collection at a column, if none begins there yet. -/
def indentTo? (s : Scan) (column : Int) : Option Scan :=
  if s.indent < column then some { s with indent := column, outer := s.indent :: s.outer } else none

/-! ## Moving on -/

/-- Skip spaces, comments and line breaks before the next token. -/
def skipGaps : (fuel : Nat) → Scan → Scan
  | 0, s => s
  | fuel + 1, s =>
    let c := s.cursor.skipWhile (· == ' ')
    let c := if c.head == '#' then c.skipWhile fun ch => !isBreak ch else c
    if isBreak c.head then
      skipGaps fuel
        { s with cursor := c.next, keyAllowed := if s.inFlow then s.keyAllowed else true }
    else { s with cursor := c }

/-- Take some characters as a token. -/
def take (s : Scan) (count : Nat) (t : Token) : Scan :=
  { s.push t with cursor := s.cursor.skip count }

/-! ## Tokens -/

/-- A mark between documents. -/
def documentMark (s : Scan) (t : Token) : Except Fault Scan := do
  let s ← (s.unwind (-1)).dropKey
  pure ({ s with keyAllowed := false }.take 3 t)

/-- An opening bracket or brace. -/
def openFlow (s : Scan) (t : Token) : Except Fault Scan := do
  let s ← s.saveKey
  pure ({ s with flow := s.flow + 1, keyAllowed := true }.take 1 t)

/-- A closing bracket or brace. -/
def closeFlow (s : Scan) (t : Token) : Except Fault Scan := do
  if s.flow = 0 then .error .unreadable
  else
    let s ← s.dropKey
    pure ({ s with flow := s.flow - 1, keyAllowed := false }.take 1 t)

/-- A comma between brackets or braces. -/
def flowEntry (s : Scan) : Except Fault Scan := do
  let s ← { s with keyAllowed := true }.dropKey
  pure (s.take 1 .flowEntry)

/-- A hyphen that begins an item. -/
def blockEntry (s : Scan) : Except Fault Scan := do
  let s ←
    if s.inFlow then .ok s
    else if !s.keyAllowed then .error .unreadable
    else
      match s.indentTo? s.column with
      | some s => .ok (s.push .blockListStart)
      | none => .ok s
  let s ← { s with keyAllowed := true }.dropKey
  pure (s.take 1 .blockEntry)

/-- A question mark that begins a key. -/
def explicitKey (s : Scan) : Except Fault Scan := do
  let s ←
    if s.inFlow then .ok s
    else if !s.keyAllowed then .error .unreadable
    else
      match s.indentTo? s.column with
      | some s => .ok (s.push .blockMappingStart)
      | none => .ok s
  let s ← { s with keyAllowed := !s.inFlow }.dropKey
  pure (s.take 1 .key)

/-- Make a possible key one: mark it, and begin a block mapping before it if none begins there yet. -/
def makeKey (s : Scan) (key : PossibleKey) : Scan :=
  let s := { s with keys := s.keys.filter fun entry => entry.1 != s.flow }
  let s := { s with tokens := s.tokens.insertIdxIfInBounds key.position .key }
  let s :=
    if s.inFlow then s
    else
      match s.indentTo? (Int.ofNat key.column) with
      | some s => { s with tokens := s.tokens.insertIdxIfInBounds key.position .blockMappingStart }
      | none => s
  { s with keyAllowed := false }

/-- A colon without a key before it on its line. -/
def bareValue (s : Scan) : Except Fault Scan := do
  let s ←
    if s.inFlow then .ok s
    else if !s.keyAllowed then .error .unreadable
    else
      match s.indentTo? s.column with
      | some s => .ok (s.push .blockMappingStart)
      | none => .ok s
  { s with keyAllowed := !s.inFlow }.dropKey

/-- A colon that begins a value. -/
def value (s : Scan) : Except Fault Scan := do
  let s ←
    match s.keys.lookup s.flow with
    | some key => .ok (s.makeKey key)
    | none => s.bareValue
  pure (s.take 1 .value)

/-- A quoted scalar. -/
def quoted (s : Scan) (quote : Char) : Except Fault Scan := do
  let s ← s.saveKey
  let (text, cursor) ← readQuoted quote (s.cursor.rest.length + 1) s.cursor.next
  pure ({ s with keyAllowed := false, cursor := cursor }.push (.scalar (String.ofList text) false))

/-- A plain scalar. -/
def plain (s : Scan) : Except Fault Scan := do
  let s ← s.saveKey
  let (text, broken, cursor) :=
    readPlain s.inFlow (s.indent + 1) (s.cursor.rest.length + 1) [] false s.cursor
  pure ({ s with keyAllowed := broken, cursor := cursor }.push (.scalar (String.ofList text) true))

/-- The characters that no plain scalar begins with, unless some of them stand before more text. -/
def isIndicator (c : Char) : Bool :=
  "-?:,[]\x7b\x7d#&*!|>'\"%@".toList.contains c || c.toNat == 0x60

/-- Whether a plain scalar begins here. -/
def atPlain (s : Scan) : Bool :=
  let c := s.cursor.head
  let after := s.cursor.peek 1
  (!isGap c && !isIndicator c) ||
    (!isGap after && (c == '-' || (!s.inFlow && (c == '?' || c == ':'))))

/-- The next token, at a character that begins one. -/
def token (s : Scan) : Except Fault Scan :=
  let c := s.cursor.head
  let beforeGap := isGap (s.cursor.peek 1)
  let lineStart := s.cursor.column == 0
  if c == '%' && lineStart then .error .unreadable
  else if lineStart && s.cursor.atMark ['-', '-', '-'] then s.documentMark .documentStart
  else if lineStart && s.cursor.atMark ['.', '.', '.'] then s.documentMark .documentEnd
  else if c == '[' then s.openFlow .flowListStart
  else if c == '\x7b' then s.openFlow .flowMappingStart
  else if c == ']' then s.closeFlow .flowListEnd
  else if c == '\x7d' then s.closeFlow .flowMappingEnd
  else if c == ',' then s.flowEntry
  else if c == '-' && beforeGap then s.blockEntry
  else if c == '?' && (s.inFlow || beforeGap) then s.explicitKey
  else if c == ':' && (s.inFlow || beforeGap) then s.value
  else if c == '\'' || c == '"' then s.quoted c
  else if s.atPlain then s.plain
  else .error .unreadable

/-- The scan after one more token, and whether the text ends there, as do the block collections that are
open. -/
def advance (s : Scan) : Except Fault (Scan × Bool) := do
  let s ← (skipGaps (s.cursor.rest.length + 1) s).dropStale
  let s := s.unwind s.column
  if s.cursor.rest.isEmpty then pure (← (s.unwind (-1)).dropKey, true)
  else pure (← s.token, false)

/-- The tokens that are settled: no key will be marked before them any more. -/
def settled (s : Scan) : List Token :=
  let fresh := s.keys.filter fun (_, key) => !s.isStale key
  s.tokens.toList.take (fresh.foldl (fun n (_, key) => min n key.position) s.tokens.size)

end Scan

/-- The tokens of a text, or those before a fault. -/
structure Scanned where
  tokens : List Token
  fault : Option Fault

namespace Scan

/-- Scan up to the end of the text or to a fault. -/
def run : (fuel : Nat) → Scan → Scanned
  | 0, s => ⟨s.settled, some .unreadable⟩
  | fuel + 1, s =>
    match s.advance with
    | .error fault => ⟨s.settled, some fault⟩
    | .ok (s, true) => ⟨s.tokens.toList, none⟩
    | .ok (s, false) => run fuel s

end Scan

/-- The tokens of a YAML text. -/
def Token.scan (cs : List Char) : Scanned :=
  if cs.all isAllowed then Scan.run (cs.length + 2) (.start cs) else ⟨[], some .unreadable⟩

end EntityScaffold.Document.Yaml
