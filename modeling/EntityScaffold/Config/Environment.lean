import EntityScaffold.Config
import EntityScaffold.Text.Blank
/-!
# Configuration from the environment

Without a configuration file, four settings can come from environment variables.  A variable that is not
set or empty leaves its setting alone.
-/

namespace EntityScaffold.Config

open Text

/-- The namespaces of a comma-separated list, without blanks and backslashes around them. -/
def namespacesOf (s : String) : List String :=
  ((pieces ',' s).filter fun item => !isBlankText item).map fun item => ClassName.bare (trim item)

/-- The value of a setting that is made and not empty. -/
def setting? (env : List (String × String)) (name : String) : Option String :=
  (env.lookup name).filter (· != "")

/-- The configuration that the environment describes. -/
def ofEnvironment (env : List (String × String)) : Config :=
  let config : Config := {}
  { config with
    appDir := (setting? env "APPGEN_APP_DIR").elim config.appDir .ofString
    fileExtension := (setting? env "APPGEN_FILE_EXTENSION").getD config.fileExtension
    idType := (setting? env "APPGEN_ID_TYPE").getD config.idType
    namespaces := (setting? env "APPGEN_NAMESPACES").elim config.namespaces namespacesOf }

end EntityScaffold.Config
