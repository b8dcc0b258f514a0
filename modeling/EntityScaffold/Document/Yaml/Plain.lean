import EntityScaffold.Decimal.Nearest
import EntityScaffold.Document.Fault
import EntityScaffold.Document.Json.Reader
import EntityScaffold.Text.Case
/-!
# What a plain scalar means

A scalar without quotes stands for null, a truth value, a number, or a date if it is written like one, and
for its text otherwise.  Whole numbers may be binary, octal, hexadecimal, or of base sixty with colons between
the places; floating-point numbers have a point and may be of base sixty too; digits may be grouped by
underscores.
-/

namespace EntityScaffold.Document.Yaml

open Text

/-- What a plain scalar stands for. -/
inductive Meaning where
  | scalar (s : Scalar)
  /-- The mark that includes another mapping. -/
  | merge
  /-- The mark of a default value. -/
  | default
  /-- Something that is written like a number or a date and is none. -/
  | fault (fault : Fault)

/-- A decimal digit. -/
def isDecimal (c : Char) : Bool := '0' ≤ c && c ≤ '9'

/-- A decimal digit or an underscore. -/
def isGrouped (c : Char) : Bool := isDecimal c || c == '_'

/-- A hexadecimal digit or an underscore. -/
def isHexGrouped (c : Char) : Bool := (Json.hexValue? c).isSome || c == '_'

/-- A binary digit or an underscore. -/
def isBinaryGrouped (c : Char) : Bool := c == '0' || c == '1' || c == '_'

/-- An octal digit or an underscore. -/
def isOctalGrouped (c : Char) : Bool := ('0' ≤ c && c ≤ '7') || c == '_'

/-- Split off a sign: whether the number is negative, and the rest. -/
def readSign : List Char → Bool × List Char
  | '-' :: rest => (true, rest)
  | '+' :: rest => (false, rest)
  | cs => (false, cs)

/-- A text without its underscores. -/
def ungroup (cs : List Char) : List Char := cs.filter (· != '_')

/-- The number that digits write to a base. -/
def numberTo (base : Nat) (cs : List Char) : Nat :=
  cs.foldl (fun n c => base * n + (Json.hexValue? c).getD 0) 0

/-- A place of a number of base sixty after the first: up to 59. -/
def isSixtieth (cs : List Char) : Bool :=
  match cs with
  | [a] => isDecimal a
  | [a, b] => '0' ≤ a && a ≤ '5' && isDecimal b
  | _ => false

/-- The first place of a number of base sixty. -/
def isFirstPlace (cs : List Char) (zeroAllowed : Bool) : Bool :=
  match cs with
  | c :: rest => isDecimal c && (zeroAllowed || c != '0') && rest.all isGrouped
  | [] => false

/-- A number with a sign. -/
def signed (negative : Bool) (n : Nat) : Int := if negative then -Int.ofNat n else Int.ofNat n

/-- What a number without digits is told. -/
def noDigits (base : Nat) : String :=
  "invalid literal for int() with base " ++ toString base ++ ": ''"

/-- A number with a mark of its base. -/
def readBased (negative : Bool) (base : Nat) (digits : List Char) : Meaning :=
  if (ungroup digits).isEmpty then .fault (.impossible (noDigits base))
  else .scalar (.int (signed negative (numberTo base (ungroup digits))))

/-- A number, given by the value of its digits, unless its first decimal digits are too many. -/
def sized (negative : Bool) (digits : List Char) (n : Nat) : Meaning :=
  match Decimal.sizeFault? digits.length with
  | some fault => .fault (.ofSize fault)
  | none => .scalar (.int (signed negative n))

/-- A whole number of base sixty. -/
def readSixty? (negative : Bool) (cs : List Char) : Option Meaning :=
  match cs.splitOnP (· == ':') with
  | first :: second :: rest =>
    if isFirstPlace first false && (second :: rest).all isSixtieth then
      some (sized negative (ungroup first)
        ((first :: second :: rest).foldl (fun n place => 60 * n + numberTo 10 (ungroup place)) 0))
    else none
  | _ => none

/-- A whole number. -/
def readInteger? (cs : List Char) : Option Meaning :=
  let (negative, cs) := readSign cs
  match cs with
  | ['0'] => some (.scalar (.int 0))
  | '0' :: 'b' :: digits =>
    if !digits.isEmpty && digits.all isBinaryGrouped then some (readBased negative 2 digits) else none
  | '0' :: 'x' :: digits =>
    if !digits.isEmpty && digits.all isHexGrouped then some (readBased negative 16 digits) else none
  | '0' :: digits =>
    if digits.all isOctalGrouped then
      some (.scalar (.int (signed negative (numberTo 8 (ungroup digits)))))
    else none
  | c :: rest =>
    if isDecimal c && rest.all isGrouped then
      some (sized negative (ungroup (c :: rest)) (numberTo 10 (ungroup (c :: rest))))
    else readSixty? negative cs
  | [] => none

/-- An exponent, with its mark and sign. -/
def readExponent? (cs : List Char) : Option Int :=
  match cs with
  | [] => some 0
  | mark :: sign :: digits =>
    if (mark == 'e' || mark == 'E') && (sign == '-' || sign == '+') && !digits.isEmpty &&
        digits.all isDecimal then
      some (signed (sign == '-') (numberTo 10 digits))
    else none
  | _ => none

/-- The floating-point number with these digits before and after its point. -/
def floatOf (negative : Bool) (whole fraction : List Char) (exponent : Int) : Float :=
  Decimal.nearest negative (numberTo 10 (whole ++ fraction)) (exponent - Int.ofNat fraction.length)

/-- A number with a point, of base ten. -/
def readPointed? (cs : List Char) : Option Meaning := do
  let (negative, unsigned) := readSign cs
  let (whole, rest) ← cutAt? '.' unsigned
  let fraction := rest.takeWhile isGrouped
  let exponent ← readExponent? (rest.dropWhile isGrouped)
  let fits :=
    if whole.isEmpty then unsigned.length == cs.length && fraction.head?.any isDecimal
    else isFirstPlace whole true
  if fits then pure (.scalar (.float (floatOf negative (ungroup whole) (ungroup fraction) exponent)))
  else none

/-- The value of a place of base sixty, from the value of its digits: they are multiplied by the power of sixty
as a floating-point number, and there are powers too large for one. -/
def placeValue? (power : Nat) (digits : Float) : Option Float :=
  let weight := Decimal.nearest false (Nat.pow 60 power) 0
  if weight.isInf then none else some (digits * weight)

/-- The sum of places of base sixty, the last place first. -/
def sumOfPlaces? (power : Nat) (total : Float) : List Float → Option Float
  | [] => some total
  | digits :: rest => do sumOfPlaces? (power + 1) (total + (← placeValue? power digits)) rest

/-- A number with a point, of base sixty. -/
def readPointedSixty? (cs : List Char) : Option Meaning := do
  let (negative, cs) := readSign cs
  let (places, fraction) ← cutAt? '.' cs
  match places.splitOnP (· == ':') with
  | first :: second :: rest =>
    let last := (second :: rest).getLastD []
    if isFirstPlace first true && (second :: rest).all isSixtieth && fraction.all isGrouped then
      let wholes := (first :: second :: rest).dropLast.map fun p => floatOf false (ungroup p) [] 0
      let parts := floatOf false last (ungroup fraction) 0 :: wholes.reverse
      match sumOfPlaces? 0 0 parts with
      | some total => pure (.scalar (.float (if negative then -1 * total else total)))
      | none => pure (.fault .outOfRange)
    else none
  | _ => none

/-- The words for infinities and for what is no number. -/
def floatWords : List (String × Float) :=
  [(".inf", 1 / 0), (".Inf", 1 / 0), (".INF", 1 / 0), ("+.inf", 1 / 0), ("+.Inf", 1 / 0),
    ("+.INF", 1 / 0), ("-.inf", -1 / 0), ("-.Inf", -1 / 0), ("-.INF", -1 / 0), (".nan", 0 / 0),
    (".NaN", 0 / 0), (".NAN", 0 / 0)]

/-- The words for truth values. -/
def truthWords : List (String × Bool) :=
  [("yes", true), ("Yes", true), ("YES", true), ("no", false), ("No", false), ("NO", false),
    ("true", true), ("True", true), ("TRUE", true), ("false", false), ("False", false),
    ("FALSE", false), ("on", true), ("On", true), ("ON", true), ("off", false), ("Off", false),
    ("OFF", false)]

/-- The words for null. -/
def nullWords : List String := ["", "~", "null", "Null", "NULL"]

/-- The days of a month. -/
def daysOf (year month : Nat) : Nat :=
  if month == 2 then
    if year % 4 == 0 && (year % 100 != 0 || year % 400 == 0) then 29 else 28
  else if month == 4 || month == 6 || month == 9 || month == 11 then 30
  else 31

/-- A date of the calendar. -/
def dateOf (year month day : Nat) : Meaning :=
  if year = 0 then .fault (.impossible ("year " ++ toString year ++ " is out of range"))
  else if month < 1 || 12 < month then .fault (.impossible "month must be in 1..12")
  else if day < 1 || daysOf year month < day then
    .fault (.impossible "day is out of range for month")
  else .scalar (.date year month day)

/-- A date, with four digits for the year and two for month and day. -/
def readDate? (cs : List Char) : Option Meaning :=
  match cs.splitOnP (· == '-') with
  | [year, month, day] =>
    if year.length == 4 && month.length == 2 && day.length == 2 &&
        (year ++ month ++ day).all isDecimal then
      some (dateOf (numberTo 10 year) (numberTo 10 month) (numberTo 10 day))
    else none
  | _ => none

/-- What a plain scalar stands for. -/
def Meaning.ofPlain (s : String) : Meaning :=
  let cs := s.toList
  if nullWords.contains s then .scalar .null
  else if s = "<<" then .merge
  else if s = "=" then .default
  else
    match truthWords.lookup s, floatWords.lookup s with
    | some b, _ => .scalar (.bool b)
    | none, some x => .scalar (.float x)
    | none, none =>
      (readPointed? cs <|> readPointedSixty? cs <|> readInteger? cs <|> readDate? cs).getD
        (.scalar (.text s))

end EntityScaffold.Document.Yaml
