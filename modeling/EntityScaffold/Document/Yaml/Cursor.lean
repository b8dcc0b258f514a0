import EntityScaffold.Document.Value
import EntityScaffold.Text.Basic
/-!
# A place in a YAML text

The text that is left, with the line and column reached.  Beyond the end every character is the null
character, which no YAML text contains.  Lines end at a line feed, a next-line character, or one of the two
Unicode separators; the byte order mark has no width.
-/

namespace EntityScaffold.Document.Yaml

/-- The text that is left and the place reached. -/
structure Cursor where
  rest : List Char
  index : Nat
  line : Nat
  column : Nat

/-- The character that stands for the end. -/
def endMark : Char := '\x00'

/-- Whether a character ends a line. -/
def isBreak (c : Char) : Bool :=
  c == '\n' || c.toNat == 0x85 || c.toNat == 0x2028 || c.toNat == 0x2029

/-- Whether a character ends a line or the text. -/
def isBreakOrEnd (c : Char) : Bool := c == endMark || isBreak c

/-- Whether a character separates tokens. -/
def isGap (c : Char) : Bool := c == ' ' || c == '\t' || isBreakOrEnd c

/-- A line break as it is read: the two Unicode separators stand for themselves, all others for a line
feed. -/
def breakChar (c : Char) : Char := if c.toNat == 0x2028 || c.toNat == 0x2029 then c else '\n'

/-- The characters that a YAML text may hold. -/
def isAllowed (c : Char) : Bool :=
  let n := c.toNat
  n == 0x9 || n == 0xA || n == 0xD || (0x20 ≤ n && n ≤ 0x7E) || n == 0x85 ||
    (0xA0 ≤ n && n ≤ 0xD7FF) || (0xE000 ≤ n && n ≤ 0xFFFD) || 0x10000 ≤ n

namespace Cursor

/-- The beginning of a text; a byte order mark there is passed over. -/
def start (cs : List Char) : Cursor :=
  match cs with
  | c :: rest => if c.toNat == 0xFEFF then ⟨rest, 1, 0, 0⟩ else ⟨cs, 0, 0, 0⟩
  | [] => ⟨[], 0, 0, 0⟩

/-- The character `n` places on. -/
def peek (c : Cursor) (n : Nat) : Char := c.rest.getD n endMark

/-- The next character. -/
def head (c : Cursor) : Char := c.peek 0

/-- One character on. -/
def next (c : Cursor) : Cursor :=
  match c.rest with
  | [] => c
  | ch :: rest =>
    if isBreak ch then ⟨rest, c.index + 1, c.line + 1, 0⟩
    else ⟨rest, c.index + 1, c.line, if ch.toNat == 0xFEFF then c.column else c.column + 1⟩

/-- Some characters on. -/
def skip (c : Cursor) : Nat → Cursor
  | 0 => c
  | n + 1 => c.next.skip n

/-- Past the characters that satisfy `p`. -/
def skipWhile (c : Cursor) (p : Char → Bool) : Cursor := c.skip (c.rest.takeWhile p).length

/-- Whether a line with a mark of three characters stands here, as `---` and `...` do between
documents. -/
def atMark (c : Cursor) (mark : List Char) : Bool := mark.isPrefixOf c.rest && isGap (c.peek 3)

/-- Whether a mark between documents stands here. -/
def atDocumentMark (c : Cursor) : Bool := c.atMark ['-', '-', '-'] || c.atMark ['.', '.', '.']

end Cursor

end EntityScaffold.Document.Yaml
