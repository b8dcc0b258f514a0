import EntityScaffold.Source.Unit
import EntityScaffold.Text.Blank
import EntityScaffold.Text.Case
/-!
# Imports

An import makes a class known in a file under a short name: its own or an alias.  `Import.read` reads the
entry of a source unit, and `SourceUnit.importLines` gives the entries that are printed: those of the unit's
own namespace are left out unless they have an alias, each is printed once, and they are sorted without
regard to case.
-/

namespace EntityScaffold.Source

open Text ClassName

/-- What stands between a class and its alias. -/
def aliasMark : List Char := " as ".toList

/-- Split at the first occurrence of a mark. -/
def cutAtMark? (mark : List Char) : List Char → Option (List Char × List Char)
  | [] => none
  | c :: rest =>
    if mark.isPrefixOf (c :: rest) then some ([], (c :: rest).drop mark.length)
    else (cutAtMark? mark rest).map fun (before, after) => (c :: before, after)

/-- An import: the class, and what was written as its alias. -/
structure Import where
  target : String
  aliasText : Option String
  deriving DecidableEq, Repr, Inhabited

namespace Import

/-- Read an entry. -/
def read (entry : String) : Import :=
  match cutAtMark? aliasMark entry.toList with
  | some (target, aliasText) =>
    ⟨bare (trim (String.ofList target)), some (trim (String.ofList aliasText))⟩
  | none => ⟨bare (trim entry), none⟩

/-- The name under which the class is known. -/
def shortName (i : Import) : String :=
  match i.aliasText with
  | some name => if name = "" then ClassName.shortName i.target else name
  | none => ClassName.shortName i.target

/-- An entry as it is printed: without blanks around it and backslashes before it. -/
def printed (entry : String) : String := through (·.dropWhile (· == '\\')) (trim entry)

end Import

end EntityScaffold.Source

namespace EntityScaffold.SourceUnit

open Source Text

/-- Whether an entry is printed: it has an alias, or its class lives in another namespace. -/
def isPrintedImport (u : SourceUnit) (entry : String) : Bool :=
  let i := Import.read entry
  i.aliasText.isSome || ClassName.namespaceOf i.target != u.space

/-- Order of texts without regard to case. -/
def leIgnoringCase (a b : String) : Bool := le (lower a) (lower b)

/-- The imports that are printed. -/
def importLines (u : SourceUnit) : List String :=
  (distinct ((u.uses.filter u.isPrintedImport).map Import.printed)).mergeSort leIgnoringCase

/-- The name under which a class is imported, if it is; the last import of a class counts. -/
def importedAs? (u : SourceUnit) (className : String) : Option String :=
  (u.uses.reverse.map Import.read).findSome? fun i =>
    if i.target = className then some i.shortName else none

end EntityScaffold.SourceUnit
