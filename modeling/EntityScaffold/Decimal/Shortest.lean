import EntityScaffold.Decimal.Binary
/-!
# Shortest decimals

A floating-point number is written with the fewest digits that read back as the same number, and of
several such decimals the nearest.  `shortest` finds them: it takes the interval of reals that round to
the number, whose ends belong to it exactly when the significand is even, and tests for one digit, two
digits and so on the two decimals next to the value.  `Layout` decides how digits and exponent are laid
out.
-/

namespace EntityScaffold.Decimal

/-- The interval of reals that read back as a number, and the number, over one denominator. -/
structure Interval where
  low : Nat
  value : Nat
  high : Nat
  den : Nat
  closed : Bool

/-- The interval of a double, in quarters of its last place. -/
def Binary.interval (b : Binary) : Interval :=
  let unit := if 0 ≤ b.q then twoTo b.q.toNat else 1
  let den := if 0 ≤ b.q then 4 else 4 * twoTo (-b.q).toNat
  ⟨(4 * b.m - if b.narrow then 1 else 2) * unit, 4 * b.m * unit, (4 * b.m + 2) * unit, den,
    b.m % 2 = 0⟩

/-- Whether `d · 10^p` lies in the interval. -/
def Interval.contains (i : Interval) (d : Nat) (p : Int) : Bool :=
  let point := if 0 ≤ p then d * tenTo p.toNat * i.den else d * i.den
  let unit := if 0 ≤ p then 1 else tenTo (-p).toNat
  if i.closed then i.low * unit ≤ point && point ≤ i.high * unit
  else i.low * unit < point && point < i.high * unit

/-- The decimal exponent of the first digit of `num / den`, for a positive fraction. -/
def leadingExponent (num den : Nat) : Int :=
  if den ≤ num then Int.ofNat (digitCount (num / den)) - 1
  else
    let places := digitCount (den / num)
    if den ≤ num * tenTo (places - 1) then 1 - Int.ofNat places else -Int.ofNat places

/-- The decimal next to the value on the grid of multiples of `10^p` that lies in the interval; of two
the nearer, in a tie the even one. -/
def Interval.candidate? (i : Interval) (p : Int) : Option Nat :=
  let num := if 0 ≤ p then i.value else i.value * tenTo (-p).toNat
  let den := if 0 ≤ p then i.den * tenTo p.toNat else i.den
  let below := num / den
  let near := roundHalfEven num den
  let far := if near = below then below + 1 else below
  if i.contains near p then some near else if i.contains far p then some far else none

/-- The first grid, from `places` digits on, on which a decimal reads back. -/
def Interval.search (i : Interval) (lead : Int) : (tries places : Nat) → Nat × Int
  | 0, places => (0, lead - Int.ofNat places + 1)
  | tries + 1, places =>
    let p := lead - Int.ofNat places + 1
    match i.candidate? p with
    | some d => (d, p)
    | none => i.search lead tries (places + 1)

/-- Digits `d` and exponent `p` of the shortest decimal `d · 10^p` that reads back as a positive finite
double. -/
def shortest (b : Binary) : Nat × Int :=
  let i := b.interval
  i.search (leadingExponent i.value i.den) 17 1

/-- Drop the zeros at the end of a digit string. -/
def dropTrailingZeros (digits : List Char) : List Char :=
  (digits.reverse.dropWhile (· == '0')).reverse

/-- How the digits of a number are laid out. -/
structure Layout where
  /-- The first exponent below zero that is not written positionally. -/
  smallest : Int
  /-- The first exponent above zero that is not written positionally. -/
  largest : Int
  /-- The least number of digits of an exponent. -/
  exponentDigits : Nat
  infinity : String
  notANumber : String

/-- Zeros before a digit string, up to a least length. -/
def padZeros (length : Nat) (digits : List Char) : List Char :=
  List.replicate (length - digits.length) '0' ++ digits

/-- Lay out the digits of a number whose first digit has the exponent `lead`.  A number without a
fraction ends in `.0`; exponents always carry a sign. -/
def Layout.place (layout : Layout) (digits : List Char) (lead : Int) : List Char :=
  if layout.smallest < lead && lead < layout.largest then
    if lead < 0 then '0' :: '.' :: List.replicate (-lead - 1).toNat '0' ++ digits
    else
      let whole := lead.toNat + 1
      if digits.length ≤ whole then
        digits ++ List.replicate (whole - digits.length) '0' ++ ['.', '0']
      else digits.take whole ++ '.' :: digits.drop whole
  else
    let mantissa :=
      match digits with
      | [] => []
      | [d] => [d]
      | d :: rest => d :: '.' :: rest
    let exponent := padZeros layout.exponentDigits (Nat.toDigits 10 lead.natAbs)
    mantissa ++ 'e' :: (if lead < 0 then '-' else '+') :: exponent

/-- The text of a double. -/
def Layout.print (layout : Layout) (x : Float) : String :=
  let bits := x.toBits.toNat
  let sign := if twoTo 63 ≤ bits then ['-'] else []
  let magnitude := bits % twoTo 63
  if magnitude > infinityBits then layout.notANumber
  else if magnitude = infinityBits then String.ofList (sign ++ layout.infinity.toList)
  else if magnitude = 0 then String.ofList (sign ++ ['0', '.', '0'])
  else
    let (d, p) := shortest (.ofBits magnitude)
    let digits := Nat.toDigits 10 d
    let lead := p + Int.ofNat digits.length - 1
    String.ofList (sign ++ layout.place (dropTrailingZeros digits) lead)

end EntityScaffold.Decimal
