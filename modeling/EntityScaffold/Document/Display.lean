import EntityScaffold.Decimal.Shortest
import EntityScaffold.Decimal.Size
import EntityScaffold.Document.Value
import EntityScaffold.Text.Basic
import EntityScaffold.Text.Quoted
/-!
# Values shown as text

A default value that a document gives as a number, a list or a mapping is kept as the text that shows
it.  A text shows itself; inside a list or a mapping it is quoted.
-/

namespace EntityScaffold.Document

open Text

/-- Numbers are positional from a ten-thousandth up to sixteen places; exponents have two digits. -/
def numberLayout : Decimal.Layout := ⟨-5, 16, 2, "inf", "nan"⟩

/-- A natural number with zeros before it up to a least length. -/
def padded (length n : Nat) : String :=
  String.ofList (Decimal.padZeros length (Nat.toDigits 10 n))

/-- A scalar shown on its own. -/
def Scalar.display : Scalar → String
  | .null => "None"
  | .bool b => if b then "True" else "False"
  | .int n => toString n
  | .float x => numberLayout.print x
  | .text s => s
  | .date year month day => padded 4 year ++ "-" ++ padded 2 month ++ "-" ++ padded 2 day

/-- A scalar shown inside another value. -/
def Scalar.displayInside : Scalar → String
  | .text s => quoted s
  | .date year month day =>
    "datetime.date(" ++ join ", " [toString year, toString month, toString day] ++ ")"
  | s => s.display

/-- Whether a scalar can be shown: a whole number may have too many digits. -/
def Scalar.isShowable : Scalar → Bool
  | .int n => Decimal.isShowable n
  | _ => true

mutual

/-- Whether everything in a value can be shown. -/
def Value.isShowable : Value → Bool
  | .scalar s => s.isShowable
  | .list items => areShowable items
  | .mapping entries => entriesAreShowable entries

/-- Whether the items of a list can be shown. -/
def areShowable : List Value → Bool
  | [] => true
  | v :: rest => v.isShowable && areShowable rest

/-- Whether the entries of a mapping can be shown. -/
def entriesAreShowable : List (Scalar × Value) → Bool
  | [] => true
  | (k, v) :: rest => k.isShowable && v.isShowable && entriesAreShowable rest

end

mutual

/-- A value shown inside another value. -/
def Value.displayInside : Value → String
  | .scalar s => s.displayInside
  | .list items => "[" ++ join ", " (displayItems items) ++ "]"
  | .mapping entries => "\x7b" ++ join ", " (displayEntries entries) ++ "\x7d"

/-- The items of a list, each shown. -/
def displayItems : List Value → List String
  | [] => []
  | v :: rest => v.displayInside :: displayItems rest

/-- The entries of a mapping, each shown. -/
def displayEntries : List (Scalar × Value) → List String
  | [] => []
  | (k, v) :: rest => (k.displayInside ++ ": " ++ v.displayInside) :: displayEntries rest

end

/-- A value shown as text. -/
def Value.display : Value → String
  | .scalar s => s.display
  | v => v.displayInside

end EntityScaffold.Document
