import EntityScaffold.Keyed
import EntityScaffold.Record
import EntityScaffold.Record.Lists
/-!
# Assembling records

Properties, features, lookups, events and traits are put together to a record, and everything in it that
refers to something else is checked first, so that no artifact is generated from an inconsistent record.
`Record.validate` checks a record that is there already; `Draft.assemble` makes one.
-/

namespace EntityScaffold

open Document Text

/-- Check names of properties: each must be usable, and no two may differ by case only, since the methods
made from them could not be told apart.  `seen` holds the lower-case names so far. -/
def checkPropertyNames (seen : List String) : List String → Except Failure Unit
  | [] => .ok ()
  | name :: rest => do
    Property.checkName name
    if seen.contains (lower name) then reject (.duplicateProperty name)
    else checkPropertyNames (lower name :: seen) rest

/-- Check that the fields of a lookup are declared. -/
def checkLookup (lookup : Lookup) (declared : List String) : List String → Except Failure Unit
  | [] => .ok ()
  | name :: rest =>
    if declared.contains name then checkLookup lookup declared rest
    else reject (.unknownProperty name lookup)

/-- Check properties and the lookups on them. -/
def checkProperties (properties : List Property) (getBy getAllBy : List String) :
    Except Failure Unit := do
  let names := properties.map (·.name)
  checkPropertyNames [] names
  checkLookup .single names getBy
  checkLookup .multi names getAllBy

/-- Check events: each must form a class name, and no two the same. -/
def checkEvents (seen : List String) : List String → Except Failure Unit
  | [] => .ok ()
  | event :: rest => do
    let key ← eventKey event
    if seen.contains key then reject (.event event .repeated)
    else checkEvents (key :: seen) rest

/-- Check that a record is consistent. -/
def Record.validate (r : Record) : Except Failure Unit := do
  checkProperties r.properties r.getBy r.getAllBy
  checkEvents [] r.events

/-- Select traits one after another from the offered ones. -/
def selectFrom (offered selected : List (String × String)) :
    List Value → Except Failure (List (String × String))
  | [] => .ok selected
  | item :: rest =>
    match item with
    | .text name =>
      match offered.lookup name with
      | some traitClass => selectFrom offered (Keyed.put name traitClass selected) rest
      | none => reject (.unknownTrait name)
    | .scalar s => if s.isShowable then reject (.unknownTrait s.display) else .error (.ofSize .shown)
    | _ => .error .wrongKind

/-- The traits that a value selects: all that are offered when it is null, the characters of a text, the
items of a list, the keys of a mapping. -/
def selectTraits (config : Config) (value : Value) : Except Failure (List (String × String)) :=
  match value with
  | .null => .ok config.offeredTraits
  | .text s => selectFrom config.offeredTraits [] (s.toList.map fun c => .text (String.singleton c))
  | value => do selectFrom config.offeredTraits [] (← listedItems value)

/-- What is said about an entity before it is checked.  Lookups, events and traits are taken as a document
gives them. -/
structure Draft where
  space : String
  entityName : String
  properties : List Property
  features : Features := {}
  getBy : Value := .null
  getAllBy : Value := .null
  events : Value := .null
  traits : Value := .null

/-- Make a record of a draft. -/
def Draft.assemble (draft : Draft) (config : Config) : Except Failure Record := do
  let getBy ← fieldNames draft.getBy
  let getAllBy ← fieldNames draft.getAllBy
  checkProperties draft.properties getBy getAllBy
  let events ← eventNames draft.events
  let traits ← selectTraits config draft.traits
  pure
    { space := ClassName.bare (trim draft.space)
      entityName := trim draft.entityName
      properties := draft.properties
      features := draft.features
      getBy, getAllBy, events, traits }

end EntityScaffold
