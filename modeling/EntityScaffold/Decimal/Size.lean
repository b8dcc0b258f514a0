/-!
# The size of whole numbers

A whole number is read from decimal digits, and shown in them, only while they are not too many.  A number that
is written to a base which is a power of two is read at any size, so whether a number can be shown is asked
again (`isShowable`).
-/

namespace EntityScaffold.Decimal

/-- The most decimal digits with which a whole number is read or shown. -/
def mostDigits : Nat := 4300

/-- Why a whole number is not read, or not shown. -/
inductive SizeFault where
  /-- It is written with this many digits. -/
  | written (digits : Nat)
  /-- It would be shown with too many digits. -/
  | shown
  deriving DecidableEq, Repr, Inhabited

/-- The reason in words. -/
def SizeFault.message (fault : SizeFault) : String :=
  let count :=
    match fault with
    | .written digits => ": value has " ++ toString digits ++ " digits"
    | .shown => ""
  "Exceeds the limit (" ++ toString mostDigits ++ " digits) for integer string conversion" ++ count ++
    "; use sys.set_int_max_str_digits() to increase the limit"

/-- What is wrong with a whole number that is written with so many digits, if they are too many. -/
def sizeFault? (digits : Nat) : Option SizeFault :=
  if mostDigits < digits then some (.written digits) else none

/-- Whether a whole number is shown. -/
def isShowable (n : Int) : Bool := n.natAbs < Nat.pow 10 mostDigits

end EntityScaffold.Decimal
