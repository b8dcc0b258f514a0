import EntityScaffold.Decimal.Size
/-!
# Modifiers of a type

What a type says besides its base: a length, or a precision with a scale, and flags.
-/

namespace EntityScaffold

/-- Length, precision, scale and flags of a type. -/
structure Modifiers where
  length : Option Int := none
  precision : Option Int := none
  scale : Option Int := none
  flags : List String := []
  deriving DecidableEq, Repr, Inhabited

/-- The numbers among the modifiers of a type. -/
def Modifiers.numbers (m : Modifiers) : List Int := m.length.toList ++ m.precision.toList ++ m.scale.toList

/-- Whether all of these numbers can be shown. -/
def Modifiers.isShowable (m : Modifiers) : Bool := m.numbers.all Decimal.isShowable

/-- Whether the values of a column have to be distinct. -/
def Modifiers.unique (m : Modifiers) : Bool := m.flags.contains "unique"

end EntityScaffold
