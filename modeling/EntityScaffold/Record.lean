import EntityScaffold.Naming.Words
import EntityScaffold.Property
/-!
# Specification records

Everything that is needed to scaffold the classes of one entity, collected in one `Record`.  The classes are
the artifacts of the record: `Artifact` lists their kinds, and a record names the class of each artifact and
the namespace it lives in.
-/

namespace EntityScaffold

open ClassName

/-- Parts of the generated classes that can be left out. -/
structure Features where
  dataFactory : Bool := true
  edit : Bool := true
  getAll : Bool := true
  delete : Bool := true
  deriving DecidableEq, Repr, Inhabited

/-- The classes that are generated for an entity. -/
inductive Artifact where
  | entity
  | data
  | factory
  | repository
  | facade
  | notFound
  | event (name : String)
  | dataFactory
  deriving DecidableEq, Repr, Inhabited

namespace Artifact

/-- The key under which an artifact is reported. -/
def key : Artifact → String
  | .entity => "entity"
  | .data => "data"
  | .factory => "factory"
  | .repository => "repository"
  | .facade => "facade"
  | .notFound => "not_found_exception"
  | .event name => "event:" ++ name
  | .dataFactory => "data_factory"

/-- What the class name of an artifact adds to the name of the entity. -/
def ending : Artifact → String
  | .entity => ""
  | .data => "Data"
  | .factory => "Factory"
  | .repository => "Repository"
  | .facade => "Facade"
  | .notFound => "NotFoundException"
  | .event name => Naming.pascal name ++ "Event"
  | .dataFactory => "DataFactory"

/-- The namespace of an artifact of an entity that lives in `space`. -/
def spaceIn (space : String) : Artifact → String
  | .notFound => qualify space "Exception"
  | .event _ => qualify space "Event"
  | _ => space

end Artifact

/-- Everything that is needed to scaffold one entity. -/
structure Record where
  space : String
  entityName : String
  properties : List Property := []
  features : Features := {}
  /-- The properties by which one row is looked up. -/
  getBy : List String := []
  /-- The properties by which every row is looked up. -/
  getAllBy : List String := []
  events : List String := []
  /-- The selected traits with their classes. -/
  traits : List (String × String) := []
  deriving DecidableEq, Repr, Inhabited

namespace Record

/-- The property of a name. -/
def property? (r : Record) (name : String) : Option Property :=
  r.properties.find? (·.name == name)

/-- The property of a name, which has to be declared. -/
def property (r : Record) (name : String) : Except Failure Property :=
  match r.property? name with
  | some p => .ok p
  | none => .error .notDeclared

/-- The properties of names, which all have to be declared. -/
def propertiesOf (r : Record) (names : List String) : Except Failure (List Property) :=
  names.mapM r.property

/-- The names of the properties. -/
def propertyNames (r : Record) : List String := r.properties.map (·.name)

/-- The classes of the selected traits. -/
def traitClasses (r : Record) : List String := r.traits.map (·.2)

/-- The short class name of an artifact. -/
def className (r : Record) (a : Artifact) : String := r.entityName ++ a.ending

/-- The namespace of an artifact. -/
def spaceOf (r : Record) (a : Artifact) : String := a.spaceIn r.space

/-- The qualified class name of an artifact. -/
def qualifiedName (r : Record) (a : Artifact) : String := qualify (r.spaceOf a) (r.className a)

/-- The class name of the event artifact that stands for all events, which is that of the first. -/
def firstEvent (r : Record) : Except Failure String :=
  match r.events with
  | event :: _ => .ok event
  | [] => .error .noItem

end Record

end EntityScaffold
