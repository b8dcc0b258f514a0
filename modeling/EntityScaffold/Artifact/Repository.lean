import EntityScaffold.Artifact.Vocabulary
/-!
# The repository

Finds the rows of an entity.  `get` and the `getBy` lookups answer with one entity and throw the exception of
the entity when there is none; the `getAllBy` lookups and `getAll` answer with a list that may be empty.  The
query builder for data grids only passes on the one for all rows, so that it can be replaced.
-/

namespace EntityScaffold.Artifact.Repository

open Source Text

/-! ## Bodies -/

/-- Find one row by a column, or throw an exception. -/
def getByBody (variableName entity notFound column parameter : String) : List Statement :=
  [.note entity variableName, .find (some variableName) "findOneBy" column parameter, .blank,
    .throwIfNull variableName notFound, .blank, .give (.var variableName)]

/-- Find every row by a column. -/
def getAllByBody (column parameter : String) : List Statement := [.find none "findBy" column parameter]

/-! ## Methods -/

/-- The constructor. -/
def constructor : Method :=
  { name := "__construct"
    parameters :=
      [{ name := "entityManager", type := some entityManager, promoted := some .isPrivate }] }

/-- The method that asks the entity manager for the repository of the entity. -/
def getRepository (r : Record) : Method :=
  { name := "getRepository", visibility := .isPrivate, returnType := some objectRepository
    body :=
      [.give (.call (.own "entityManager") "getRepository" [.classOf (r.className .entity)])] }

/-- The comment on a method that throws. -/
def throwsComment (r : Record) : String := "@throws " ++ r.className .notFound

/-- The comment on a method that answers with a list. -/
def returnsComment (r : Record) : String := "@return " ++ r.className .entity ++ "[]"

/-- The lookup of one row by a column. -/
def single (r : Record) (name column : String) (parameter : Parameter) : Method :=
  { name, parameters := [parameter], returnType := some (r.qualifiedName .entity)
    comments := [throwsComment r]
    body := getByBody (variableOf r) (r.className .entity) (r.className .notFound) column
      parameter.name }

/-- The lookup by identifier. -/
def get (config : Config) (r : Record) : Method := single r "get" "id" (idParameter config)

/-- The lookup of one row by a property. -/
def getBy (config : Config) (r : Record) (p : Property) : Method :=
  single r (Lookup.single.stem ++ capitalize p.name) (uncapitalize p.name) (lookupParameter config p)

/-- The lookup of every row by a property. -/
def getAllBy (config : Config) (r : Record) (p : Property) : Method :=
  let parameter := lookupParameter config p
  { name := Lookup.multi.stem ++ capitalize p.name, parameters := [parameter]
    returnType := some "array", comments := [returnsComment r]
    body := getAllByBody (uncapitalize p.name) parameter.name }

/-- Every row. -/
def getAll (r : Record) : Method :=
  { name := "getAll", returnType := some "array", comments := [returnsComment r]
    body := [.give (.call (.call (.call .this "getQueryBuilderForAll" []) "getQuery" []) "execute" [])] }

/-- The query builder for every row. -/
def queryBuilderForAll : Method :=
  { name := "getQueryBuilderForAll", visibility := .isPrivate, returnType := some queryBuilder
    body := [.give (.call (.call .this "getRepository" []) "createQueryBuilder" [.text "e"])] }

/-- The query builder for data grids. -/
def queryBuilderForDataGrid : Method :=
  { name := "getQueryBuilderForDataGrid", returnType := some queryBuilder
    body := [.give (.call .this "getQueryBuilderForAll" [])] }

/-- The methods of the class, for the properties to look up by. -/
def methods (config : Config) (r : Record) (single multi : List Property) : List Method :=
  [constructor, getRepository r, get config r] ++ single.map (getBy config r) ++
    multi.map (getAllBy config r) ++
    (if r.features.getAll then [getAll r] else []) ++ [queryBuilderForAll, queryBuilderForDataGrid]

/-- The imports of the class. -/
def uses (config : Config) (r : Record) (lookups : List Property) : List String :=
  importsOf
    (foreignClasses (lookups.filterMap fun p => (lookupParameter config p).type) r.space ++
      [entityManager, queryBuilder] ++ foreignClasses [config.idTypeHint] r.space ++
      [r.qualifiedName .notFound, objectRepository])

/-- The repository.  It exists only if every property to look up by is declared. -/
def unit (config : Config) (r : Record) : Except Failure SourceUnit := do
  let single ← r.propertiesOf r.getBy
  let multi ← r.propertiesOf r.getAllBy
  pure
    { space := r.space
      uses := uses config r (single ++ multi)
      declaration :=
        { name := r.className .repository, isAbstract := true
          methods := methods config r single multi } }

end EntityScaffold.Artifact.Repository
