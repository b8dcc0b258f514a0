import EntityScaffold.Artifact.Vocabulary
/-!
# The factory

Creates an entity from its data object, with a fresh identifier where the application makes them.
-/

namespace EntityScaffold.Artifact.Factory

open Source

/-- The expression that creates the entity. -/
def creation (config : Config) (r : Record) : Expr :=
  .create (r.className .entity)
    ((if config.usesUuid then [.staticCall "Uuid" "uuid4"] else []) ++ [.var "data"])

/-- The method that creates the entity. -/
def create (config : Config) (r : Record) : Method :=
  { name := "create", parameters := [dataParameter r], returnType := some (r.qualifiedName .entity)
    body := [.give (creation config r)] }

/-- The factory. -/
def unit (config : Config) (r : Record) : SourceUnit :=
  { space := r.space
    uses := if config.usesUuid then [uuidClass] else []
    declaration := { name := r.className .factory, methods := [create config r] } }

end EntityScaffold.Artifact.Factory
