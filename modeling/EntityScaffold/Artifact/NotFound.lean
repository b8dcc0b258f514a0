import EntityScaffold.Artifact.Vocabulary
/-!
# The not-found exception

The exception that the repository throws when there is no entity to answer with.
-/

namespace EntityScaffold.Artifact.NotFound

open Source

/-- The exception. -/
def unit (config : Config) (r : Record) : SourceUnit :=
  let base := ClassName.bare config.notFoundBase
  { space := r.spaceOf .notFound
    uses := [base]
    declaration := { name := r.className .notFound, parent := some base } }

end EntityScaffold.Artifact.NotFound
