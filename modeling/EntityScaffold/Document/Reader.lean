import EntityScaffold.Document.Json.Reader
import EntityScaffold.Document.Yaml.Reader
import EntityScaffold.Failure
/-!
# Reading documents

A document is read in the format that the suffix of its file names.
-/

namespace EntityScaffold.Document

/-- Read a text in a format. -/
def Format.read (format : Format) (content : String) : Except Failure Value :=
  match if format = .json then Json.read content else Yaml.read content with
  | .ok value => .ok value
  | .error .unreadable => .error (.unreadable format)
  | .error (.impossible reason) => .error (.misused (.impossible reason))
  | .error .outOfRange => .error .outOfRange
  | .error .tooDeep => .error .tooDeep
  | .error .unpaired => .error .unpaired

end EntityScaffold.Document
