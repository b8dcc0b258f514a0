import EntityScaffold.Config.Document
import EntityScaffold.Document.Reader
/-!
# Reading configurations

A configuration file holds the document of a configuration.  In YAML a document that says nothing, or whose
value is void, stands for the default configuration.
-/

namespace EntityScaffold.Config

open Document

/-- A void document says nothing. -/
def orNothing (value : Value) : Value := if value.isVoid then .mapping [] else value

/-- Read the text of a configuration file. -/
def read (path : Path) (content : String) : Except Failure Config := do
  let format := Format.ofPath path
  let value ← format.read content
  (check (if format = .yaml then orNothing value else value)).toExcept .invalid

end EntityScaffold.Config
