import EntityScaffold.Artifact.Mapping
import EntityScaffold.Artifact.Vocabulary
/-!
# The entity class

The mapped class itself: the identifier, one member for each property in order of declaration, the selected
traits, a constructor that takes the data object, editing and reading back when editing is wanted, and a
getter for each property.

`unit` is the class as it is written where all columns can be, and `write` makes it unless one cannot.
-/

namespace EntityScaffold.Artifact.Entity

open Source Text

/-! ## Members -/

/-- The comments of the identifier. -/
def idComments (config : Config) : List String :=
  if config.usesUuid then ["@ORM\\Id", "@ORM\\Column(type=\"uuid\", unique=true)"]
  else ["@ORM\\Id", "@ORM\\GeneratedValue", "@ORM\\Column(type=\"integer\")"]

/-- The identifier. -/
def idMember (config : Config) : Member :=
  { name := "id", type := some config.idTypeHint, comments := idComments config }

/-- The last segment of a class name as it stands. -/
def lastSegment (name : String) : String := (pieces '\\' name).getLastD ""

/-- The member of a property. -/
def member (r : Record) (p : Property) : Member :=
  match p.kind with
  | .scalar type _ =>
    { name := p.name, type := some type, nullable := p.nullable, comments := [Mapping.columnText p] }
  | .relation relation =>
    let comment := Mapping.ofRelation r.entityName relation
    if relation.kind.isToMany then
      { name := p.name, type := some collection
        comments := [comment, "@var Collection|" ++ lastSegment relation.target ++ "[]"] }
    else
      { name := p.name, type := some relation.target, nullable := p.nullable
        comments := [comment, Mapping.joinColumn p.nullable relation] }

/-! ## Bodies -/

/-- The data object that methods take and make. -/
def dataVar : Expr := .var "data"

/-- Take the value of a property over from the data object. -/
def assignment (p : Property) : Statement :=
  let value := Expr.member dataVar p.name
  .assign (.own p.name) (if p.isCollection then .create "ArrayCollection" [value] else value)

/-- Put the value of a property into the data object. -/
def copyBack (p : Property) : Statement :=
  let value := Expr.own p.name
  .assign (.member dataVar p.name) (if p.isCollection then .call value "toArray" [] else value)

/-- Begin with an empty collection. -/
def emptyCollection (p : Property) : Statement := .assign (.own p.name) (.create "ArrayCollection" [])

/-- The body of the constructor. -/
def constructorBody (config : Config) (r : Record) : List Statement :=
  (if config.usesUuid then [.assign (.own "id") (.var "id")] else []) ++
    if r.features.edit then
      (r.properties.filter (·.isCollection)).map emptyCollection ++
        [.run (.call .this "edit" [dataVar])]
    else r.properties.map assignment

/-- The body of the method that reads back. -/
def getDataBody (r : Record) : List Statement :=
  [.assign dataVar (.create (r.className .data) [])] ++ r.properties.map copyBack ++
    [.blank, .give dataVar]

/-! ## Methods -/

/-- The constructor; it takes an identifier where the application makes them. -/
def constructor (config : Config) (r : Record) : Method :=
  { name := "__construct"
    parameters := (if config.usesUuid then [idParameter config] else []) ++ [dataParameter r]
    body := constructorBody config r }

/-- The method that takes new data. -/
def edit (r : Record) : Method :=
  { name := "edit", parameters := [dataParameter r], returnType := some "void"
    body := r.properties.map assignment }

/-- The method that reads the data back. -/
def getData (r : Record) : Method :=
  { name := "getData", returnType := some (r.qualifiedName .data), body := getDataBody r }

/-- The getter of the identifier. -/
def getId (config : Config) : Method :=
  { name := "getId", returnType := some config.idTypeHint, body := [.give (.own "id")] }

/-- The getter of a property. -/
def getter (p : Property) : Method :=
  { name := "get" ++ capitalize p.name
    returnType := some (if p.isCollection then collection else p.typeHint)
    returnNullable := p.nullable && !p.isCollection
    body := [.give (.own p.name)] }

/-- The methods of the class. -/
def methods (config : Config) (r : Record) : List Method :=
  [constructor config r] ++ (if r.features.edit then [edit r, getData r] else []) ++ [getId config] ++
    r.properties.map getter

/-- The imports of the class. -/
def uses (config : Config) (r : Record) : List String :=
  importsOf
    ([mappingImport] ++
      (if r.properties.any (·.isCollection) then [collection, arrayCollection] else []) ++
      foreignClasses [config.idTypeHint] r.space ++
      foreignClasses (r.properties.map (·.typeHint)) r.space ++ r.traitClasses)

/-- The entity class, as it is written where all columns can be. -/
def unit (config : Config) (r : Record) : SourceUnit :=
  { space := r.space
    uses := uses config r
    declaration :=
      { name := r.className .entity
        comments := ["@ORM\\Entity",
          "@ORM\\Table(name=" ++ Mapping.inQuotes (Naming.snake r.entityName) ++ ")"]
        traits := r.traitClasses
        members := idMember config :: r.properties.map (member r)
        methods := methods config r } }

/-- The columns of the scalar properties. -/
def columns (r : Record) : Except Failure (List String) :=
  (r.properties.filter fun p => !p.isRelation).mapM Mapping.column

/-- The entity class, unless one of its columns cannot be written. -/
def write (config : Config) (r : Record) : Except Failure SourceUnit := do
  let _ ← columns r
  pure (unit config r)

end EntityScaffold.Artifact.Entity
