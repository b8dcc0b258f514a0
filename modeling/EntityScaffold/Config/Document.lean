import EntityScaffold.Config
import EntityScaffold.Document.Json.Printer
import EntityScaffold.Schema.Primitive
/-!
# Configurations as documents

A configuration is written as a document of nested records: the settings of the application, of its model
classes, and of their entities.  `Config.check` reads such a document, `Config.toDocument` writes it, and
`Config.print` is the text in which it is kept.  A field that a document leaves out has its default value,
and fields it does not know are ignored.
-/

namespace EntityScaffold.Config

open Document Schema

/-- A file path. -/
def checkPath : Check Path
  | .text s => .accepted (.ofString s)
  | _ => .fail .notPath

/-- The settings of entities, put into a configuration. -/
def checkEntity (config : Config) : Check Config :=
  record fun fields =>
    (fun idType traits namespaces knownClasses =>
        { config with idType, traits, namespaces, knownClasses }) <$>
      field "id_type" config.idType text fields <*>
      field "default_traits" config.traits (mapping (optional text)) fields <*>
      field "namespaces" config.namespaces (list text) fields <*>
      field "known_classes" config.knownClasses (list text) fields

/-- The settings of model classes, put into a configuration. -/
def checkModel (config : Config) : Check Config :=
  record fun fields =>
    (fun config recognizedFlags notFoundBase eventBase =>
        { config with recognizedFlags, notFoundBase, eventBase }) <$>
      field "entity" config (checkEntity config) fields <*>
      field "recognized_flags" config.recognizedFlags (list text) fields <*>
      field "not_found_base_class" config.notFoundBase text fields <*>
      field "event_base_class" config.eventBase text fields

/-- A configuration. -/
def check : Check Config :=
  let config : Config := {}
  record fun fields =>
    (fun appDir fileExtension config => { config with appDir, fileExtension }) <$>
      field "app_dir" config.appDir checkPath fields <*>
      field "file_extension" config.fileExtension text fields <*>
      field "model" config (checkModel config) fields

/-- The document of the traits; one without a class stays in it. -/
def traitsDocument (traits : List (String × Option String)) : Value :=
  .mapping (traits.map fun (name, traitClass) => (.text name, traitClass.elim .null .text))

/-- The document of the settings of entities. -/
def entityDocument (config : Config) : Value :=
  .mapping
    [(.text "id_type", .text config.idType),
      (.text "default_traits", traitsDocument config.traits),
      (.text "namespaces", .ofTexts config.namespaces),
      (.text "known_classes", .ofTexts config.knownClasses)]

/-- The document of the settings of model classes. -/
def modelDocument (config : Config) : Value :=
  .mapping
    [(.text "entity", entityDocument config),
      (.text "recognized_flags", .ofTexts config.recognizedFlags),
      (.text "not_found_base_class", .text config.notFoundBase),
      (.text "event_base_class", .text config.eventBase)]

/-- The document of a configuration. -/
def toDocument (config : Config) : Value :=
  .mapping
    [(.text "app_dir", .text config.appDir.toString),
      (.text "file_extension", .text config.fileExtension),
      (.text "model", modelDocument config)]

/-- The text in which a configuration is kept. -/
def print (config : Config) : String := Json.print config.toDocument

end EntityScaffold.Config
