import EntityScaffold.Artifact.Vocabulary
import EntityScaffold.Source.Literal
/-!
# The data factory

Fills a data object from the values of a submitted form.  A key that may be left out has a fallback: an
empty list, the default, or null.
-/

namespace EntityScaffold.Artifact.DataFactory

open Source

/-- The fallback for a key that may be left out. -/
def fallback (p : Property) : Option String :=
  if p.isCollection then some "[]"
  else
    match p.default? with
    | some value => some (Literal.print value p.primitive?)
    | none => if p.nullable then some "null" else none

/-- The value of a property in the form. -/
def formValue (p : Property) : Expr :=
  let value := Expr.item (.var "formData") p.name
  match fallback p with
  | some literal => .orElse value literal
  | none => value

/-- The body of the method that fills a data object. -/
def body (r : Record) : List Statement :=
  [.assign (.var "data") (.create (r.className .data) [])] ++
    r.properties.map (fun p => .assign (.member (.var "data") p.name) (formValue p)) ++
    [.blank, .give (.var "data")]

/-- The data factory. -/
def unit (r : Record) : SourceUnit :=
  { space := r.space
    declaration :=
      { name := r.className .dataFactory
        methods :=
          [{ name := "createFromFormArray"
             parameters := [{ name := "formData", type := some "array" }]
             returnType := some (r.qualifiedName .data)
             body := body r }] } }

end EntityScaffold.Artifact.DataFactory
