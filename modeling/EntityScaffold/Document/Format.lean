import EntityScaffold.Path
import EntityScaffold.Text.Case
/-!
# Document formats

A document is written in one of two formats, and the suffix of its file tells which.
-/

namespace EntityScaffold.Document

/-- A format in which documents are written. -/
inductive Format where
  | json
  | yaml
  deriving DecidableEq, Repr, Inhabited

/-- The format of a file: the YAML suffixes mean YAML, in whatever case, and everything else JSON. -/
def Format.ofPath (path : Path) : Format :=
  let suffix := Text.lower path.suffix
  if suffix = ".yml" ∨ suffix = ".yaml" then .yaml else .json

end EntityScaffold.Document
