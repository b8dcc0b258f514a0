import EntityScaffold.Decimal.Nearest
/-!
# Floating-point numbers as fractions

A double is `m · 2^q`, sign apart.  `Binary.ofBits` takes it apart, and `whole?` is the whole number that it
equals, where it equals one; nothing is rounded on the way.
-/

namespace EntityScaffold.Decimal

/-- A finite positive double `m · 2^q` with its neighbours' distance: `narrow` when the number below
is only half as far away as the one above. -/
structure Binary where
  m : Nat
  q : Int
  narrow : Bool

/-- The parts of a double, sign apart. -/
def Binary.ofBits (bits : Nat) : Binary :=
  let fraction := bits % twoTo 52
  let exponent := bits / twoTo 52 % twoTo 11
  if exponent = 0 then ⟨fraction, -1074, false⟩
  else ⟨twoTo 52 + fraction, Int.ofNat exponent - 1075, fraction = 0 && exponent > 1⟩

/-- The whole number that `m · 2^q` is. -/
def Binary.whole? (b : Binary) : Option Nat :=
  if 0 ≤ b.q then some (b.m * twoTo b.q.toNat)
  else
    let unit := twoTo (-b.q).toNat
    if b.m % unit = 0 then some (b.m / unit) else none

/-- The whole number that a double equals, if it equals one. -/
def whole? (x : Float) : Option Int :=
  let bits := x.toBits.toNat
  let magnitude := bits % twoTo 63
  if infinityBits ≤ magnitude then none
  else
    (Binary.ofBits magnitude).whole?.map fun n =>
      if twoTo 63 ≤ bits then -Int.ofNat n else Int.ofNat n

end EntityScaffold.Decimal
