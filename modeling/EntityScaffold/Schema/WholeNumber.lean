import EntityScaffold.Decimal.Size
import EntityScaffold.Schema.Issue
import EntityScaffold.Text.Digit
/-!
# Whole numbers in texts

A text may stand where a whole number is expected if it writes one: a sign, digits, and after a point nothing
but zeros.  White space around it does not count, and neither do zeros at the beginning and single underscores
between digits.

    42        +4_2        -0_042.00

Zeros at the beginning are passed over as a run, in which underscores may stand anywhere but at its start.
After such a run there may be one more minus sign, if there was none before.

A number has only so many digits.  A text that begins with more digits than that, after a minus sign perhaps, is
too large, whatever follows them; a number that only is too long without what stands around and between its
digits is none.
-/

namespace EntityScaffold.Schema.WholeNumber

open Text

/-- White space around a number. -/
def isSpace (c : Char) : Bool :=
  let n := c.toNat
  (0x9 ≤ n && n ≤ 0xD) || n == 0x20 || n == 0x85 || n == 0xA0 || n == 0x1680 ||
    (0x2000 ≤ n && n ≤ 0x200A) || n == 0x2028 || n == 0x2029 || n == 0x202F || n == 0x205F ||
    n == 0x3000

/-- A digit that a number can begin with. -/
def isLeading (c : Char) : Bool := '1' ≤ c && c ≤ '9'

/-- Split off a sign: whether it is a minus sign, and the rest. -/
def readSign : List Char → Bool × List Char
  | '-' :: rest => (true, rest)
  | '+' :: rest => (false, rest)
  | cs => (false, cs)

/-- What follows a run of zeros and underscores, of which `last` was just passed over.  It is needed again
when no other digit follows it. -/
def afterZeros? (last : Char) : List Char → Option (List Char)
  | [] => some [last]
  | c :: rest =>
    if c == '0' || c == '_' then afterZeros? c rest
    else if c == '.' then some (last :: c :: rest)
    else if isLeading c || c == '-' then some (c :: rest)
    else none

/-- A number without the zeros at its beginning. -/
def withoutZeros? : List Char → Option (List Char)
  | [] => none
  | c :: rest =>
    if c == '0' then afterZeros? c rest else if isLeading c then some (c :: rest) else none

/-- A number without a fraction of zeros. -/
def withoutFraction? (cs : List Char) : Option (List Char) :=
  match cutAt? '.' cs with
  | some (whole, zeros) => if !zeros.isEmpty && zeros.all (· == '0') then some whole else none
  | none => some cs

/-- A number without the underscores between its digits. -/
def ungrouped? (cs : List Char) : Option (List Char) :=
  if (cs.splitOnP (· == '_')).any (·.isEmpty) then none else some (cs.filter (· != '_'))

/-- Whether a text is a number by its digits alone: a zero, or digits that do not begin with one. -/
def isDigits : List Char → Bool
  | [] => false
  | c :: rest => (c == '0' && rest.isEmpty) || (isLeading c && rest.all Char.isDigit)

/-- Whether a number has too many digits. -/
def isTooLong (digits : List Char) : Bool := Decimal.mostDigits < digits.length

/-- Whether a text begins with a number that has too many digits. -/
def beginsTooLong (cs : List Char) : Bool :=
  let unsigned := if cs.head? == some '-' then cs.drop 1 else cs
  unsigned.head?.any isLeading && isTooLong (unsigned.takeWhile Char.isDigit)

/-- The number that digits write. -/
def ofDigits? (negative : Bool) (cs : List Char) : Option Int :=
  if !isDigits cs || isTooLong cs then none
  else some (if negative then -Int.ofNat (natOfDigits cs) else Int.ofNat (natOfDigits cs))

/-- The number that a text writes with what may stand around and between its digits. -/
def readLoose? (cs : List Char) : Option Int :=
  let (negative, unsigned) := readSign (stripWhile isSpace cs)
  match ((withoutZeros? unsigned).bind withoutFraction?).bind ungrouped? with
  | some ('-' :: cs) => if negative then none else ofDigits? true cs
  | some cs => ofDigits? negative cs
  | none => none

/-- The whole number that a text writes. -/
def read (s : String) : Except IssueKind Int :=
  if beginsTooLong s.toList then .error .tooLarge
  else (readLoose? s.toList).elim (.error .unclearInteger) .ok

end EntityScaffold.Schema.WholeNumber
