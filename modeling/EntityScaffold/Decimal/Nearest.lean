/-!
# From decimals to floating-point numbers

A decimal `m · 10^e` is read as the double-precision number nearest to it, and of two equally near ones
as the one with an even significand.  The value is kept as a fraction of naturals and rounded once, so
that no intermediate result is inexact; numbers beyond the range become an infinity or zero.
-/

namespace EntityScaffold.Decimal

/-- A power of two. -/
def twoTo (n : Nat) : Nat := Nat.pow 2 n

/-- A power of ten. -/
def tenTo (n : Nat) : Nat := Nat.pow 10 n

/-- The bits of infinity, sign apart; those of what is no number are greater. -/
def infinityBits : Nat := 0x7FF0000000000000

/-- Round a fraction to the nearest natural number, a tie to the even one. -/
def roundHalfEven (num den : Nat) : Nat :=
  let floor := num / den
  let rest := num % den
  if 2 * rest < den then floor
  else if 2 * rest > den then floor + 1
  else if floor % 2 = 0 then floor else floor + 1

/-- Divide the fraction by `2^q`. -/
def scaleDown (num den : Nat) (q : Int) : Nat × Nat :=
  if 0 ≤ q then (num, den * twoTo q.toNat) else (num * twoTo (-q).toNat, den)

/-- The exponent `q` for which `num / den / 2^q` has 53 binary digits before the point, but at least
the smallest exponent there is. -/
def binaryExponent (num den : Nat) : Int :=
  let guess := (Int.ofNat num.log2) - (Int.ofNat den.log2) - 53
  let (n, d) := scaleDown num den guess
  let q := if n / d < twoTo 53 then guess else guess + 1
  max q (-1074)

/-- The bits of the positive double nearest to `num / den`. -/
def nearestBits (num den : Nat) : Nat :=
  if num = 0 then 0
  else
    let q := binaryExponent num den
    let (n, d) := scaleDown num den q
    let m := roundHalfEven n d
    let (m, q) := if m = twoTo 53 then (twoTo 52, q + 1) else (m, q)
    if q > 971 then infinityBits
    else if m < twoTo 52 then m
    else (q + 1075).toNat * twoTo 52 + (m - twoTo 52)

/-- The number of decimal digits of a natural number. -/
def digitCount (n : Nat) : Nat := (Nat.toDigits 10 n).length

/-- The double nearest to `m · 10^e`, negated if wanted.  Exponents so large or so small that the
result cannot be finite or cannot differ from zero are not computed with. -/
def nearest (negative : Bool) (m : Nat) (e : Int) : Float :=
  let magnitude := e + Int.ofNat (digitCount m)
  let bits :=
    if m = 0 || magnitude < -400 then 0
    else if magnitude > 400 then infinityBits
    else if 0 ≤ e then nearestBits (m * tenTo e.toNat) 1
    else nearestBits m (tenTo (-e).toNat)
  Float.ofBits (UInt64.ofNat (if negative then bits + twoTo 63 else bits))

end EntityScaffold.Decimal
