import EntityScaffold.Text.Basic
import EntityScaffold.Text.Case.Table
/-!
# Letter case

Upper and lower case of texts by the full mappings of Unicode: a letter may become several (`ß` is
`SS` in upper case), and a capital sigma at the end of a word becomes a final sigma in lower case.
ASCII letters never reach a table, so that facts about them follow by computation.
-/

namespace EntityScaffold.Text

/-- ASCII capitals become small letters; other characters of ASCII stay. -/
def asciiLower (c : Char) : Char := if 'A' ≤ c && c ≤ 'Z' then Char.ofNat (c.toNat + 32) else c

/-- ASCII small letters become capitals; other characters of ASCII stay. -/
def asciiUpper (c : Char) : Char := if 'a' ≤ c && c ≤ 'z' then Char.ofNat (c.toNat - 32) else c

/-- The counterpart of `c` in case tables: an expansion first, then a run, else `c` itself. -/
def caseCounterpart (expansions : List (Nat × List Nat)) (runs : List CaseRun) (c : Char) :
    List Char :=
  match expansions.lookup c.toNat with
  | some codes => codes.map Char.ofNat
  | none =>
    match runs.findSome? (·.map? c.toNat) with
    | some code => [Char.ofNat code]
    | none => [c]

/-- The upper-case form of one character. -/
def upperChar (c : Char) : List Char :=
  if c.toNat < 128 then [asciiUpper c] else caseCounterpart upperExpansions upperRuns c

/-- The lower-case form of one character on its own. -/
def lowerChar (c : Char) : List Char :=
  if c.toNat < 128 then [asciiLower c] else caseCounterpart lowerExpansions lowerRuns c

/-- A letter with case, as far as the end of a word is concerned. -/
def isCased (c : Char) : Bool :=
  if c.toNat < 128 then ('A' ≤ c && c ≤ 'Z') || ('a' ≤ c && c ≤ 'z')
  else casedRanges.any fun r => r.1 ≤ c.toNat && c.toNat ≤ r.2

/-- A character that is passed over when looking for the end of a word. -/
def isCaseIgnorable (c : Char) : Bool :=
  if c.toNat < 128 then c == '\'' || c == '.' || c == ':' || c == '^' || c.toNat == 0x60
  else caseIgnorableRanges.any fun r => r.1 ≤ c.toNat && c.toNat ≤ r.2

/-- Whether a letter between `before` (nearest character first) and `after` ends a word: a letter with
case comes before it and none after it. -/
def endsWord (before after : List Char) : Bool :=
  ((before.dropWhile isCaseIgnorable).head?.any isCased) &&
    !((after.dropWhile isCaseIgnorable).head?.any isCased)

/-- Lower case of `cs`, where `before` holds the characters before it, nearest first. -/
def lowerAfter (before : List Char) : List Char → List Char
  | [] => []
  | c :: rest =>
    (if c == 'Σ' then [if endsWord before rest then 'ς' else 'σ'] else lowerChar c) ++
      lowerAfter (c :: before) rest

/-- A text in lower case. -/
def lower (s : String) : String := through (lowerAfter []) s

/-- Raise the first character only. -/
def capitalizeChars : List Char → List Char
  | [] => []
  | c :: rest => upperChar c ++ rest

/-- Lower the first character only. -/
def uncapitalizeChars : List Char → List Char
  | [] => []
  | c :: rest => lowerChar c ++ rest

/-- The text with its first character in upper case. -/
def capitalize (s : String) : String := through capitalizeChars s

/-- The text with its first character in lower case. -/
def uncapitalize (s : String) : String := through uncapitalizeChars s

end EntityScaffold.Text
