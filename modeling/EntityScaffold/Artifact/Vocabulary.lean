import EntityScaffold.Config
import EntityScaffold.Record
import EntityScaffold.Source.Unit
/-!
# What the artifacts share

The framework classes that generated code refers to, the choice of types that need an import, and the
parameters that several artifacts have in common.
-/

namespace EntityScaffold.Artifact

open Source ClassName Text

/-! ## Framework classes -/

/-- The manager of persisted objects. -/
def entityManager : String := "Doctrine\\ORM\\EntityManagerInterface"

/-- The builder of queries. -/
def queryBuilder : String := "Doctrine\\ORM\\QueryBuilder"

/-- The base of all repositories. -/
def objectRepository : String := "Doctrine\\Persistence\\ObjectRepository"

/-- The import of the mapping annotations. -/
def mappingImport : String := "Doctrine\\ORM\\Mapping as ORM"

/-- The type of to-many relations. -/
def collection : String := "Doctrine\\Common\\Collections\\Collection"

/-- The class of new to-many relations. -/
def arrayCollection : String := "Doctrine\\Common\\Collections\\ArrayCollection"

/-- The class that makes identifiers. -/
def uuidClass : String := "Ramsey\\Uuid\\Uuid"

/-- The dispatcher of events. -/
def eventDispatcher : String := "Symfony\\Contracts\\EventDispatcher\\EventDispatcherInterface"

/-! ## Types and imports -/

/-- The types that are no classes. -/
def scalarTypes : List String := ["string", "int", "float", "bool", "array"]

/-- Whether a type is a class. -/
def isClassType (type : String) : Bool := type != "" && !scalarTypes.contains type

/-- The classes among some types that live outside a namespace. -/
def foreignClasses (types : List String) (space : String) : List String :=
  types.filter fun t => isClassType t && namespaceOf t != space

/-- Imports, each once and none of them empty, in order of first appearance. -/
def importsOf (entries : List String) : List String := distinct (entries.filter (· != ""))

/-! ## Names and parameters -/

/-- The variable that holds the entity. -/
def variableOf (r : Record) : String := uncapitalize r.entityName

/-- A parameter that takes an identifier. -/
def idParameter (config : Config) : Parameter := { name := "id", type := some config.idTypeHint }

/-- The parameter of a lookup.  A relation is looked up by the identifier of its target. -/
def lookupParameter (config : Config) (p : Property) : Parameter :=
  if p.isRelation then { name := uncapitalize p.name ++ "Id", type := some config.idTypeHint }
  else { name := uncapitalize p.name, type := p.primitive? }

/-- The parameter that takes the data of an entity. -/
def dataParameter (r : Record) : Parameter := { name := "data", type := some (r.qualifiedName .data) }

end EntityScaffold.Artifact
