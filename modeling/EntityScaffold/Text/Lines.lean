import EntityScaffold.Text.Basic
/-!
# Blank-line normal form

Generated sources are written in one normal form: lines end in a line feed, blank lines are empty, there
is none at the beginning or the end, and never two in a row.  `Lines.normalize` brings any text into
this form by cutting it into lines (`cut`), keeping the lines that are not blank together with the one
fact that matters about the gap before each of them, and printing them again.
-/

namespace EntityScaffold.Text.Lines

/-- The lines of a text, cut at carriage return with line feed, at carriage return, and at line feed. -/
def cut : List Char → List (List Char)
  | [] => [[]]
  | '\r' :: '\n' :: rest => [] :: cut rest
  | '\r' :: rest => [] :: cut rest
  | '\n' :: rest => [] :: cut rest
  | c :: rest => (cut rest).modifyHead (c :: ·)

/-- A line that holds only spaces and tabs. -/
def isBlankLine (line : List Char) : Bool := line.all fun c => c == ' ' || c == '\t'

/-- The lines that are not blank, each with an empty line before it where at least one blank line stood
before it.  `gap` tells whether one has just been passed. -/
def squeezeFrom (gap : Bool) : List (List Char) → List (List Char)
  | [] => []
  | line :: rest =>
    if isBlankLine line then squeezeFrom true rest
    else if gap then [] :: line :: squeezeFrom false rest
    else line :: squeezeFrom false rest

/-- The normal form of a list of lines: nothing blank before the first that is not blank. -/
def squeeze (lines : List (List Char)) : List (List Char) :=
  squeezeFrom false (lines.dropWhile isBlankLine)

/-- Print lines, each ended by a line feed. -/
def print (lines : List (List Char)) : List Char := lines.flatMap (· ++ ['\n'])

/-- A text in blank-line normal form. -/
def normalize (s : String) : String := through (fun cs => print (squeeze (cut cs))) s

end EntityScaffold.Text.Lines
