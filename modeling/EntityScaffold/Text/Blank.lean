import EntityScaffold.Text.Basic
/-!
# Blank characters

The characters that separate words: the white space of Unicode together with the four ASCII
information separators.  A text is trimmed of them at both ends, and its words are the maximal runs
without one.
-/

namespace EntityScaffold.Text

/-- White space of Unicode, or an information separator. -/
def isBlank (c : Char) : Bool :=
  let n := c.toNat
  (0x9 ≤ n && n ≤ 0xD) || (0x1C ≤ n && n ≤ 0x20) || n == 0x85 || n == 0xA0 || n == 0x1680 ||
    (0x2000 ≤ n && n ≤ 0x200A) || n == 0x2028 || n == 0x2029 || n == 0x202F || n == 0x205F ||
    n == 0x3000

/-- The text without blanks at its ends. -/
def trim (s : String) : String := through (stripWhile isBlank) s

/-- Whether a text holds nothing but blanks. -/
def isBlankText (s : String) : Bool := s.toList.all isBlank

/-- The words of a text: its maximal runs without a blank. -/
def wordsOf (cs : List Char) : List (List Char) :=
  (cs.splitOnP isBlank).filter fun w => !w.isEmpty

/-- The words of a text, as strings. -/
def words (s : String) : List String := (wordsOf s.toList).map String.ofList

end EntityScaffold.Text
