import EntityScaffold.Decimal.Size
/-!
# Why a text has no value

Most texts that cannot be read break the rules of their format, and no more is said about them.  Others are
written by the rules and still say something that is not there: a date that no calendar has, a number without
digits or with too many, a code that no character has, a number beyond all bounds, or values nested too deeply.

A code for half of a surrogate pair is a fault too, because texts here are made of characters, and it is none.
-/

namespace EntityScaffold.Document

/-- Why a text has no value. -/
inductive Fault where
  | unreadable
  /-- It writes something that does not exist. -/
  | impossible (reason : String)
  /-- It writes a number that is too large. -/
  | outOfRange
  /-- Its values are nested too deeply. -/
  | tooDeep
  /-- It writes half of a surrogate pair without the other half. -/
  | unpaired
  deriving DecidableEq, Repr, Inhabited

/-- The fault of a number that is not read for its size. -/
def Fault.ofSize (fault : Decimal.SizeFault) : Fault := .impossible fault.message

end EntityScaffold.Document
