import EntityScaffold.Text.Basic
/-!
# Paths

File paths in normal form: a root and the components below it.  Reading a path drops empty components
and `.`; `..` is kept, because what it leads to depends on the files.  Two leading slashes are a root of
their own, three or more are the plain root.  The empty path is shown as `.`.
-/

namespace EntityScaffold

open Text

/-- Where a path starts. -/
inductive Root where
  | relative
  | single
  | double
  deriving DecidableEq, Repr, Inhabited

/-- The slashes of a root. -/
def Root.text : Root → String
  | .relative => ""
  | .single => "/"
  | .double => "//"

/-- A path in normal form. -/
structure Path where
  root : Root
  components : List String
  deriving DecidableEq, Repr, Inhabited

namespace Path

/-- Whether a piece between slashes names something. -/
def isComponent (piece : String) : Bool := piece != "" && piece != "."

/-- The root of a text, by its leading slashes. -/
def rootOf : List Char → Root
  | '/' :: '/' :: '/' :: _ => .single
  | '/' :: '/' :: _ => .double
  | '/' :: _ => .single
  | _ => .relative

/-- Read a path. -/
def ofString (s : String) : Path := ⟨rootOf s.toList, (pieces '/' s).filter isComponent⟩

/-- The text of a path. -/
def toString (p : Path) : String :=
  match p.root, p.components with
  | .relative, [] => "."
  | root, components => root.text ++ join "/" components

instance : ToString Path := ⟨toString⟩

/-- A path seen from another: a path with a root of its own replaces what it is seen from. -/
def append (p q : Path) : Path :=
  if q.root = .relative then { p with components := p.components ++ q.components } else q

/-- Whether some component holds the null character. -/
def hasNull (p : Path) : Bool := p.components.any fun name => name.toList.contains '\x00'

/-- The most bytes of a component of a path that can be followed. -/
def longestName : Nat := 255

/-- The most bytes of a path that can be followed. -/
def longest : Nat := 4095

/-- Whether a component has too many bytes. -/
def isLongName (name : String) : Bool := longestName < name.utf8ByteSize

/-- Whether a path as a whole has too many bytes. -/
def isLong (p : Path) : Bool := longest < p.toString.utf8ByteSize

/-- The path without its last component. -/
def parent (p : Path) : Path := { p with components := p.components.dropLast }

/-- The last component, empty if there is none. -/
def name (p : Path) : String := p.components.getLastD ""

/-- The suffix of a file name: from its last dot on, unless that is its first or its last character. -/
def suffixOf (name : String) : String :=
  let ending := (name.toList.reverse.takeWhile (· != '.')).reverse
  if ending.isEmpty || name.toList.length ≤ ending.length + 1 then ""
  else String.ofList ('.' :: ending)

/-- The suffix of the last component. -/
def suffix (p : Path) : String := suffixOf p.name

end Path

end EntityScaffold
