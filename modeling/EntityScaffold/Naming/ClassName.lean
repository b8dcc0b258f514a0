import EntityScaffold.Text.Basic
/-!
# Class names

A class name is a path of segments with a backslash between neighbours, such as `App\Model\User`:
the last segment is its short name, the others are its namespace.  Backslashes around a name carry no
meaning and are dropped before it is cut.  A class of the global namespace has the empty namespace.
-/

namespace EntityScaffold.ClassName

open Text

/-- The text without backslashes around it. -/
def bare (name : String) : String := through (stripWhile (· == '\\')) name

/-- The segments of a class name; always at least one, and inner segments may be empty. -/
def segments (name : String) : List String := pieces '\\' (bare name)

/-- The last segment: `User` for `App\Model\User`. -/
def shortName (name : String) : String := (segments name).getLastD ""

/-- All segments but the last: `App\Model` for `App\Model\User`, empty for a global class. -/
def namespaceOf (name : String) : String := join "\\" (segments name).dropLast

/-- A name inside a namespace; in the empty namespace it stays as it is. -/
def qualify (space name : String) : String :=
  let space := bare space
  if space.isEmpty then name else space ++ "\\" ++ name

end EntityScaffold.ClassName
