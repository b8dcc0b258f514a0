import EntityScaffold.Artifact.Vocabulary
import EntityScaffold.Record.Lists
/-!
# The facade

The way in for changes: it creates, edits and deletes entities through the factory, the repository and the
entity manager, and dispatches the events of the lifecycle that were selected.
-/

namespace EntityScaffold.Artifact.Facade

open Source Text

/-- The events of the lifecycle that are selected. -/
def dispatched (r : Record) : List String := lifecycle.filter r.events.contains

/-- Whether some method looks the entity up first. -/
def needsLookup (r : Record) : Bool := r.features.edit || r.features.delete

/-- The member that holds the repository. -/
def repositoryName (r : Record) : String := uncapitalize (r.className .repository)

/-- The member that holds the factory. -/
def factoryName (r : Record) : String := uncapitalize (r.className .factory)

/-- The entity in the bodies of methods. -/
def entityVar (r : Record) : Expr := .var (variableOf r)

/-! ## Bodies -/

/-- Dispatch an event if it is selected. -/
def dispatch (r : Record) (event : String) : List Statement :=
  if r.events.contains event then
    [.run (.call (.own "eventDispatcher") "dispatch"
      [.create (r.className (.event event)) [entityVar r]])]
  else []

/-- Write everything that is pending. -/
def flush : Statement := .run (.call (.own "entityManager") "flush" [])

/-- Look the entity up by its identifier. -/
def load (r : Record) : Statement :=
  .assign (entityVar r) (.call (.own (repositoryName r)) "get" [.var "id"])

/-- The body of the method that creates. -/
def createBody (r : Record) : List Statement :=
  [.assign (entityVar r) (.call (.own (factoryName r)) "create" [.var "data"]), .blank,
    .run (.call (.own "entityManager") "persist" [entityVar r]), flush] ++
    dispatch r "created" ++ [.blank, .give (entityVar r)]

/-- The body of the method that edits. -/
def editBody (r : Record) : List Statement :=
  [load r, .run (.call (entityVar r) "edit" [.var "data"]), .blank, flush] ++ dispatch r "updated" ++
    [.blank, .give (entityVar r)]

/-- The body of the method that deletes. -/
def deleteBody (r : Record) : List Statement :=
  [load r, .blank, .run (.call (.own "entityManager") "remove" [entityVar r]), flush] ++
    dispatch r "deleted"

/-! ## Methods -/

/-- A parameter of the constructor. -/
def promoted (name type : String) : Parameter :=
  { name, type := some type, promoted := some .isPrivate }

/-- The constructor. -/
def constructor (r : Record) : Method :=
  { name := "__construct"
    parameters :=
      [promoted "entityManager" entityManager,
        promoted (repositoryName r) (r.qualifiedName .repository),
        promoted (factoryName r) (r.qualifiedName .factory)] ++
        if (dispatched r).isEmpty then [] else [promoted "eventDispatcher" eventDispatcher] }

/-- The comment on a method that throws. -/
def throwsComment (r : Record) : String := "@throws " ++ r.className .notFound

/-- The method that creates. -/
def create (r : Record) : Method :=
  { name := "create", parameters := [dataParameter r], returnType := some (r.qualifiedName .entity)
    body := createBody r }

/-- The method that edits. -/
def edit (config : Config) (r : Record) : Method :=
  { name := "edit", parameters := [idParameter config, dataParameter r]
    returnType := some (r.qualifiedName .entity), comments := [throwsComment r], body := editBody r }

/-- The method that deletes. -/
def delete (config : Config) (r : Record) : Method :=
  { name := "delete", parameters := [idParameter config], returnType := some "void"
    comments := [throwsComment r], body := deleteBody r }

/-- The methods of the class. -/
def methods (config : Config) (r : Record) : List Method :=
  [constructor r, create r] ++ (if r.features.edit then [edit config r] else []) ++
    if r.features.delete then [delete config r] else []

/-- The imports of the class. -/
def uses (config : Config) (r : Record) : List String :=
  importsOf
    ([entityManager] ++ (if (dispatched r).isEmpty then [] else [eventDispatcher]) ++
      (if needsLookup r then
        foreignClasses [config.idTypeHint] r.space ++ [r.qualifiedName .notFound]
      else []) ++
      (dispatched r).map fun event => r.qualifiedName (.event event))

/-- The facade. -/
def unit (config : Config) (r : Record) : SourceUnit :=
  { space := r.space
    uses := uses config r
    declaration := { name := r.className .facade, methods := methods config r } }

end EntityScaffold.Artifact.Facade
