import EntityScaffold.Keyed
import EntityScaffold.Naming.ClassName
import EntityScaffold.Path
import EntityScaffold.Text.Case
/-!
# Configuration

What is the same for every entity of an application: where its classes live, how entities are identified,
which traits an entity may use, which namespaces are searched for entities, and from which classes
exceptions and events inherit.
-/

namespace EntityScaffold

/-- The class that identifies an entity under the UUID strategy. -/
def uuidInterface : String := "Ramsey\\Uuid\\UuidInterface"

/-- The settings of an application. -/
structure Config where
  /-- The directory that the first segment of a class name stands for. -/
  appDir : Path := ⟨.relative, ["app"]⟩
  fileExtension : String := ".php"
  /-- The strategy for identifiers: UUIDs when it contains `uuid` in any case, integers otherwise. -/
  idType : String := "uuid"
  /-- Traits by name; one without a class is never offered. -/
  traits : List (String × Option String) :=
    [("Timestampable", some "Gedmo\\Timestampable\\Traits\\TimestampableEntity"),
      ("SoftDeleteable", none)]
  /-- The namespaces in which the short name of an entity is looked up. -/
  namespaces : List String := ["App\\Model"]
  /-- Entity classes that are there without a file. -/
  knownClasses : List String := []
  recognizedFlags : List String := ["unique"]
  notFoundBase : String := "Exception"
  eventBase : String := "Symfony\\Contracts\\EventDispatcher\\Event"
  deriving DecidableEq, Repr, Inhabited

namespace Config

/-- Whether one text occurs in another. -/
def occursIn (part : List Char) : List Char → Bool
  | [] => part.isEmpty
  | c :: rest => part.isPrefixOf (c :: rest) || occursIn part rest

/-- Whether entities are identified by UUIDs. -/
def usesUuid (config : Config) : Bool := occursIn "uuid".toList (Text.lower config.idType).toList

/-- The type of an identifier. -/
def idTypeHint (config : Config) : String := if config.usesUuid then uuidInterface else "int"

/-- The table of the traits that may be selected, in the order of the configuration. -/
def offeredTraits (config : Config) : List (String × String) :=
  Keyed.ofWrites (config.traits.filterMap fun (name, traitClass) => traitClass.map (name, ·))

end Config

end EntityScaffold
