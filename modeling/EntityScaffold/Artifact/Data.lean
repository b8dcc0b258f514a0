import EntityScaffold.Artifact.Vocabulary
import EntityScaffold.Source.Literal
/-!
# The data object

The plain object from which an entity is created and edited: one public member for each property, with the
default of a scalar, the target for a to-one relation and a list for a to-many one.
-/

namespace EntityScaffold.Artifact.Data

open Source

/-- The initial value of a member that is no list: the default, or null where that is allowed. -/
def initialValue (p : Property) : Option String :=
  match p.default? with
  | some value => some (Literal.print value p.primitive?)
  | none => if p.nullable then some "null" else none

/-- The member of a property. -/
def member (p : Property) : Member :=
  if p.isCollection then
    { name := p.name, type := some "array", visibility := .isPublic, default := some "[]"
      comments := ["@var " ++ ClassName.shortName p.typeHint ++ "[]"] }
  else
    { name := p.name, type := some p.typeHint, nullable := p.nullable, visibility := .isPublic
      default := initialValue p }

/-- The data object. -/
def unit (r : Record) : SourceUnit :=
  { space := r.space
    uses := importsOf (foreignClasses (r.properties.map (·.typeHint)) r.space)
    declaration :=
      { name := r.className .data, isFinal := true, members := r.properties.map member } }

end EntityScaffold.Artifact.Data
