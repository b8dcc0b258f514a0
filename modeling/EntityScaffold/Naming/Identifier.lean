import EntityScaffold.Text.Basic
/-!
# Identifiers

An identifier is a letter or an underscore followed by letters, digits and underscores, all of ASCII.
-/

namespace EntityScaffold

/-- A character an identifier may begin with. -/
def isIdentifierStart (c : Char) : Bool :=
  ('A' ≤ c && c ≤ 'Z') || ('a' ≤ c && c ≤ 'z') || c == '_'

/-- A character an identifier may go on with. -/
def isIdentifierChar (c : Char) : Bool := isIdentifierStart c || ('0' ≤ c && c ≤ '9')

/-- Whether the characters form an identifier. -/
def isIdentifierChars : List Char → Bool
  | [] => false
  | c :: rest => isIdentifierStart c && rest.all isIdentifierChar

/-- Whether a text is an identifier. -/
def isIdentifier (s : String) : Bool := isIdentifierChars s.toList

end EntityScaffold
