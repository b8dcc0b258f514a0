import EntityScaffold.Document.Fault
import EntityScaffold.Document.Json.Reader
import EntityScaffold.Document.Yaml.Cursor
/-!
# Scalars as they stand in a YAML text

Plain and quoted scalars may go on over several lines.  A line break between their parts is read as a space,
and further line breaks as themselves.  Each function returns what it has read with the cursor behind it; the
loops are bounded by the length of the text that is left.
-/

namespace EntityScaffold.Document.Yaml

/-! ## Plain scalars -/

/-- The characters that end a plain scalar inside brackets and braces. -/
def isFlowStop (c : Char) : Bool :=
  c == ',' || c == '?' || c == '[' || c == ']' || c == '\x7b' || c == '\x7d'

/-- The characters that make a colon before them end a plain scalar inside brackets and braces. -/
def isFlowMark (c : Char) : Bool :=
  c == ',' || c == '[' || c == ']' || c == '\x7b' || c == '\x7d'

/-- The part of a plain scalar up to the next gap. -/
def plainRun (inFlow : Bool) : List Char → List Char
  | [] => []
  | c :: rest =>
    let after := rest.headD endMark
    if isGap c || (c == ':' && (isGap after || (inFlow && isFlowMark after))) ||
        (inFlow && isFlowStop c) then []
    else c :: plainRun inFlow rest

/-- The line breaks and spaces that follow a line break: the breaks among them, and whether a mark between
documents ends them. -/
def plainBreaks : (fuel : Nat) → Cursor → List Char × Bool × Cursor
  | 0, c => ([], false, c)
  | fuel + 1, c =>
    if c.head == ' ' then plainBreaks fuel c.next
    else if isBreak c.head then
      let b := breakChar c.head
      let c := c.next
      if c.atDocumentMark then ([], true, c)
      else
        let (breaks, marked, c) := plainBreaks fuel c
        (b :: breaks, marked, c)
    else ([], false, c)

/-- What the breaks between two lines are read as. -/
def foldBreaks (first : Char) (breaks : List Char) : List Char :=
  if first != '\n' then first :: breaks else if breaks.isEmpty then [' '] else breaks

/-- The gap inside a plain scalar: what it is read as, and whether it went over a line break. -/
def plainGap (c : Cursor) : List Char × Bool × Cursor :=
  let spaces := c.rest.takeWhile (· == ' ')
  let c := c.skip spaces.length
  if isBreak c.head then
    let first := breakChar c.head
    let c := c.next
    if c.atDocumentMark then ([], true, c)
    else
      let (breaks, marked, c) := plainBreaks (c.rest.length + 1) c
      if marked then ([], true, c) else (foldBreaks first breaks, true, c)
  else (spaces, false, c)

/-- Read a plain scalar whose further lines are indented by `indent` columns at least: the text, and
whether the last gap went over a line break. -/
def readPlain (inFlow : Bool) (indent : Int) :
    (fuel : Nat) → (gap : List Char) → (broken : Bool) → Cursor → List Char × Bool × Cursor
  | 0, _, broken, c => ([], broken, c)
  | fuel + 1, gap, broken, c =>
    let run := plainRun inFlow c.rest
    if run.isEmpty then ([], broken, c)
    else
      let (next, broken, c) := plainGap (c.skip run.length)
      if next.isEmpty || c.head == '#' || (!inFlow && Int.ofNat c.column < indent) then
        (gap ++ run, broken, c)
      else
        let (more, broken, c) := readPlain inFlow indent fuel next broken c
        (gap ++ run ++ more, broken, c)

/-! ## Quoted scalars -/

/-- The characters of the short escapes. -/
def escapes : List (Char × Nat) :=
  [('0', 0x0), ('a', 0x7), ('b', 0x8), ('t', 0x9), ('\t', 0x9), ('n', 0xA), ('v', 0xB), ('f', 0xC),
    ('r', 0xD), ('e', 0x1B), (' ', 0x20), ('"', 0x22), ('\\', 0x5C), ('/', 0x2F), ('N', 0x85),
    ('_', 0xA0), ('L', 0x2028), ('P', 0x2029)]

/-- The numbers of digits of the escapes by code. -/
def codeEscapes : List (Char × Nat) := [('x', 2), ('u', 4), ('U', 8)]

/-- The code that hexadecimal digits write. -/
def codeOf? (digits : List Char) : Option Nat :=
  digits.foldlM (fun n c => (Json.hexValue? c).map (16 * n + ·)) 0

/-- The number of codes that a character may have. -/
def codeLimit : Nat := 0x110000

/-- The number from which a code is none by its size. -/
def wordLimit : Nat := 0x80000000

/-- The character of a code. -/
def charOf (code : Nat) : Except Fault Char :=
  if 0xD800 ≤ code && code < 0xE000 then .error .unpaired
  else if code < codeLimit then .ok (Char.ofNat code)
  else if code < wordLimit then .error (.impossible "chr() arg not in range(0x110000)")
  else .error .outOfRange

/-- The line breaks after a line break in a quoted scalar; a mark between documents is an error. -/
def quotedBreaks : (fuel : Nat) → Cursor → Except Fault (List Char × Cursor)
  | 0, _ => .error .unreadable
  | fuel + 1, c =>
    if c.atDocumentMark then .error .unreadable
    else
      let c := c.skipWhile fun ch => ch == ' ' || ch == '\t'
      if isBreak c.head then do
        let (breaks, rest) ← quotedBreaks fuel c.next
        pure (breakChar c.head :: breaks, rest)
      else .ok ([], c)

/-- The gap inside a quoted scalar. -/
def quotedGap (c : Cursor) : Except Fault (List Char × Cursor) :=
  let spaces := c.rest.takeWhile fun ch => ch == ' ' || ch == '\t'
  let c := c.skip spaces.length
  if c.head == endMark then .error .unreadable
  else if isBreak c.head then do
    let (breaks, rest) ← quotedBreaks (c.rest.length + 1) c.next
    pure (foldBreaks (breakChar c.head) breaks, rest)
  else .ok (spaces, c)

/-- An escape by code, whose digits follow the letter that the cursor is at. -/
def readCode (c : Cursor) (count : Nat) : Except Fault (List Char × Cursor) :=
  let digits := c.next.rest.take count
  match if digits.length < count then none else codeOf? digits with
  | none => .error .unreadable
  | some code => do pure ([← charOf code], c.skip (count + 1))

/-- An escape in a double-quoted scalar, at its backslash. -/
def readEscape (c : Cursor) : Except Fault (List Char × Cursor) :=
  let c := c.next
  match escapes.lookup c.head with
  | some code => .ok ([Char.ofNat code], c.next)
  | none =>
    match codeEscapes.lookup c.head with
    | some count => readCode c count
    | none =>
      if isBreak c.head then quotedBreaks (c.rest.length + 1) c.next else .error .unreadable

/-- Read a quoted scalar up to its closing quote. -/
def readQuoted (quote : Char) : (fuel : Nat) → Cursor → Except Fault (List Char × Cursor)
  | 0, _ => .error .unreadable
  | fuel + 1, c =>
    if c.head == quote then
      if quote == '\'' && c.peek 1 == '\'' then do
        let (more, rest) ← readQuoted quote fuel (c.skip 2)
        pure ('\'' :: more, rest)
      else .ok ([], c.next)
    else do
      let (part, c) ←
        if quote == '"' && c.head == '\\' then readEscape c
        else if isGap c.head then quotedGap c
        else .ok ([c.head], c.next)
      let (more, rest) ← readQuoted quote fuel c
      pure (part ++ more, rest)

end EntityScaffold.Document.Yaml
