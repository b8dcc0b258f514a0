import EntityScaffold.Config
/-!
# Primitive types

The keywords for types that are no entities: each stands for the type of a class property and the type of
a column.
-/

namespace EntityScaffold

/-- A property type and the column type it is stored as. -/
structure Primitive where
  hint : String
  storage : String
  deriving DecidableEq, Repr, Inhabited

/-- The primitive types by keyword. -/
def primitives : List (String × Primitive) :=
  [("string", ⟨"string", "string"⟩),
    ("text", ⟨"string", "text"⟩),
    ("int", ⟨"int", "integer"⟩),
    ("integer", ⟨"int", "integer"⟩),
    ("smallint", ⟨"int", "smallint"⟩),
    ("bigint", ⟨"int", "bigint"⟩),
    ("float", ⟨"float", "float"⟩),
    ("decimal", ⟨"string", "decimal"⟩),
    ("bool", ⟨"bool", "boolean"⟩),
    ("boolean", ⟨"bool", "boolean"⟩),
    ("date", ⟨"DateTime", "date"⟩),
    ("datetime", ⟨"DateTime", "datetime"⟩),
    ("time", ⟨"DateTime", "time"⟩),
    ("datetime_immutable", ⟨"DateTimeImmutable", "datetime_immutable"⟩),
    ("uuid", ⟨uuidInterface, "uuid"⟩),
    ("array", ⟨"array", "json"⟩),
    ("json", ⟨"array", "json"⟩)]

/-- The primitive type of a keyword, in whatever case. -/
def primitive? (keyword : String) : Option Primitive := primitives.lookup (Text.lower keyword)

end EntityScaffold
