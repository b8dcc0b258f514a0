import EntityScaffold.Document.Reader
import EntityScaffold.Record.Assembly
import EntityScaffold.Record.Document
/-!
# Definitions

A definition is a document that says about an entity what a person would otherwise be asked: its name and
namespace, its properties with their types and relations, what to generate, lookups, events and traits.

    entity: User
    namespace: App\Model\User
    properties:
      - name: email
        type: string|255 --unique
    get_by: [email]
    events: all

The entity that is being defined counts as a class that is there, so its properties may refer to it.
-/

namespace EntityScaffold.Definition

open Document Schema Text

/-- Turn a definition down. -/
def refuse {α : Type} (fault : DefinitionFault) : Except Failure α := reject (.definition fault)

/-- The value under a key; null when nothing is there. -/
def get (fields : Fields) (key : String) : Value := (find? fields key).getD .null

/-- The text under a key, which has to be more than blanks; blanks around it are dropped. -/
def requiredText (fields : Fields) (key : String) : Except Failure String :=
  match get fields key with
  | .text s => if isBlankText s then refuse (.noText key) else .ok (trim s)
  | _ => refuse (.noText key)

/-- Lay entries over others: a key that is there already keeps its place. -/
def overlay (base top : Fields) : Fields :=
  top.foldl (fun entries (key, value) => put key value entries) base

/-- The entry of a property in a mapping from names to types or to more about the property. -/
def namedEntry (name : Scalar) : Value → Fields
  | .mapping more => overlay [(.text "name", .scalar name)] more
  | type => [(.text "name", .scalar name), (.text "type", type)]

/-- The entries of a list of mappings. -/
def listedEntries : List Value → Option (List Fields)
  | [] => some []
  | .mapping fields :: rest => (listedEntries rest).map (fields :: ·)
  | _ :: _ => none

/-- The entries of the properties. -/
def propertyEntries : Value → Except Failure (List Fields)
  | .null => .ok []
  | .mapping entries => .ok (entries.map fun (name, value) => namedEntry name value)
  | .list items => (listedEntries items).elim (refuse .badProperties) .ok
  | _ => refuse .badProperties

/-- The text of a default value. -/
def defaultText : Value → Except Failure (Option String)
  | .null => .ok none
  | .bool b => .ok (some (if b then "true" else "false"))
  | v => if v.isShowable then .ok (some v.display) else .error (.ofSize .shown)

/-- The relation to a target that the block of a property describes. -/
def relationOf (name target : String) (block : Value) : Except Failure Relation := do
  let fields ←
    match block with
    | .null => .ok []
    | .mapping fields => .ok fields
    | _ => refuse (.relationNotMapping name)
  match RelationBlock.check (.mapping fields) with
  | .accepted block => block.relation target
  | .refused issues => refuse (.badRelation name issues)

/-- The type expression of a property, which is `string` when nothing is said. -/
def typeText (name : String) (fields : Fields) : Except Failure String :=
  match find? fields "type" with
  | none => .ok "string"
  | some (.text s) => .ok s
  | some _ => refuse (.typeNotText name)

/-- The property that an entry describes. -/
def property (reader : TypeReader) (fields : Fields) : Except Failure Property := do
  let name ← requiredText fields "name"
  let expression ← typeText name fields
  let outcome ← reader.read expression
  let block := get fields "relation"
  let default ← defaultText (get fields "default")
  match outcome.sense with
  | .scalar _ =>
    match block with
    | .null => Property.build name expression outcome none default
    | _ => refuse (.relationOfScalar name)
  | .entity _ target =>
    if default.isSome then refuse (.defaultOfRelation name)
    else do
      let relation ← relationOf name target block
      Property.build name expression outcome (some relation) none

/-- What to generate; a void value says nothing. -/
def features (value : Value) : Except Failure Features :=
  match Features.check (if value.isVoid then .mapping [] else value) with
  | .accepted features => .ok features
  | .refused issues => refuse (.badFeatures issues)

/-- The selected traits; a text is one of them. -/
def traitList : Value → Value
  | .text s => .list [.text s]
  | v => v

/-- The record that the fields of a definition describe. -/
def ofFields (config : Config) (files : FileTree) (fields : Fields) : Except Failure Record := do
  let entity ← requiredText fields "entity"
  let space := ClassName.bare (← requiredText fields "namespace")
  let reader := TypeReader.ofConfig config [ClassName.qualify space entity] files
  let entries ← propertyEntries (get fields "properties")
  let properties ← entries.mapM (property reader)
  let features ← features (get fields "features")
  let draft : Draft :=
    { space, entityName := entity, properties, features
      getBy := get fields "get_by"
      getAllBy := get fields "get_all_by"
      events := get fields "events"
      traits := traitList (get fields "traits") }
  draft.assemble config

/-- The record that a document defines. -/
def ofValue (config : Config) (files : FileTree) : Value → Except Failure Record
  | .mapping fields => ofFields config files fields
  | _ => refuse .notMapping

/-- The record that the text of a definition file defines. -/
def read (config : Config) (files : FileTree) (path : Path) (content : String) :
    Except Failure Record :=
  match (Format.ofPath path).read content with
  | .ok value => ofValue config files value
  | .error (.unreadable _) => refuse (.unreadable path)
  | .error failure => .error failure

end EntityScaffold.Definition
