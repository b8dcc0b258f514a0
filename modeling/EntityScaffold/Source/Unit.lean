import EntityScaffold.Naming.ClassName
import EntityScaffold.Source.Statement
/-!
# Source units

One generated source file, as data: a namespace, imports, and one class with its members.  Types are
qualified class names or builtin words; how they are shortened is the business of `Source.Printer`.
-/

namespace EntityScaffold.Source

/-- Who may use a member. -/
inductive Visibility where
  | isPublic
  | isProtected
  | isPrivate
  deriving DecidableEq, Repr, Inhabited

/-- The keyword of a visibility. -/
def Visibility.keyword : Visibility → String
  | .isPublic => "public"
  | .isProtected => "protected"
  | .isPrivate => "private"

/-- A parameter of a method; a promoted one is a member of the class as well. -/
structure Parameter where
  name : String
  type : Option String := none
  nullable : Bool := false
  default : Option String := none
  promoted : Option Visibility := none
  deriving DecidableEq, Repr, Inhabited

/-- A data member of a class; its default is a literal. -/
structure Member where
  name : String
  type : Option String := none
  nullable : Bool := false
  visibility : Visibility := .isPrivate
  default : Option String := none
  comments : List String := []
  deriving DecidableEq, Repr, Inhabited

/-- A method of a class. -/
structure Method where
  name : String
  visibility : Visibility := .isPublic
  isStatic : Bool := false
  parameters : List Parameter := []
  returnType : Option String := none
  returnNullable : Bool := false
  comments : List String := []
  body : List Statement := []
  deriving Inhabited

/-- The class that a unit declares. -/
structure Declaration where
  name : String
  isAbstract : Bool := false
  isFinal : Bool := false
  parent : Option String := none
  interfaces : List String := []
  traits : List String := []
  comments : List String := []
  members : List Member := []
  methods : List Method := []
  deriving Inhabited

/-- The method of a name. -/
def Declaration.method? (d : Declaration) (name : String) : Option Method :=
  d.methods.find? (·.name == name)

/-- The names of the methods. -/
def Declaration.methodNames (d : Declaration) : List String := d.methods.map (·.name)

end EntityScaffold.Source

namespace EntityScaffold

open Source

/-- A namespace with imports and one class.  An import is a class name, perhaps with an alias after
` as `. -/
structure SourceUnit where
  space : String
  uses : List String := []
  declaration : Declaration
  deriving Inhabited

/-- The qualified name of the class that a unit declares. -/
def SourceUnit.qualifiedName (u : SourceUnit) : String :=
  ClassName.qualify u.space u.declaration.name

end EntityScaffold
