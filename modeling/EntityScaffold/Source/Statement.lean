import EntityScaffold.Text.Basic
/-!
# Statements of method bodies

The bodies of generated methods, as data.  A `Statement` is what a generator means, such as giving a value
to a variable or looking up a row; `Statement.lines` is how it is written.  Lines that are not the work of a
generator are kept as they are.
-/

namespace EntityScaffold.Source

/-- An expression of a method body. -/
inductive Expr where
  /-- A variable, without its mark. -/
  | var (name : String)
  | member (object : Expr) (name : String)
  | item (array : Expr) (key : String)
  | call (object : Expr) (method : String) (args : List Expr)
  | staticCall (className method : String)
  | create (className : String) (args : List Expr)
  | classOf (className : String)
  /-- A value, or a literal where the value is null. -/
  | orElse (value : Expr) (fallback : String)
  | text (content : String)
  deriving Inhabited

namespace Expr

/-- The object whose method runs. -/
def this : Expr := .var "this"

/-- A member of the object whose method runs. -/
def own (name : String) : Expr := .member this name

mutual

/-- How an expression is written. -/
def print : Expr → String
  | .var name => "$" ++ name
  | .member object name => object.print ++ "->" ++ name
  | .item array key => array.print ++ "['" ++ key ++ "']"
  | .call object method args => object.print ++ "->" ++ method ++ "(" ++ printArgs args ++ ")"
  | .staticCall className method => className ++ "::" ++ method ++ "()"
  | .create className args => "new " ++ className ++ "(" ++ printArgs args ++ ")"
  | .classOf className => className ++ "::class"
  | .orElse value fallback => value.print ++ " ?? " ++ fallback
  | .text content => "'" ++ content ++ "'"

/-- How the arguments of a call are written. -/
def printArgs : List Expr → String
  | [] => ""
  | [e] => e.print
  | e :: rest => e.print ++ ", " ++ printArgs rest

end

end Expr

/-- A statement of a method body. -/
inductive Statement where
  | assign (target value : Expr)
  | run (expr : Expr)
  | give (expr : Expr)
  /-- A note on the class of a variable. -/
  | note (className variableName : String)
  /-- Look rows up by one column; the result goes into a variable or is the result of the method. -/
  | find (into : Option String) (finder column parameter : String)
  /-- Throw an exception if a variable is null. -/
  | throwIfNull (variableName exceptionClass : String)
  | blank
  /-- A line as it stands. -/
  | line (text : String)
  deriving Inhabited

/-- How a statement is written. -/
def Statement.lines : Statement → List String
  | .assign target value => [target.print ++ " = " ++ value.print ++ ";"]
  | .run expr => [expr.print ++ ";"]
  | .give expr => ["return " ++ expr.print ++ ";"]
  | .note className variableName => ["/** @var " ++ className ++ " $" ++ variableName ++ " */"]
  | .find into finder column parameter =>
    let receiver :=
      match into with
      | some variableName => "$" ++ variableName ++ " = "
      | none => "return "
    [receiver ++ "$this->getRepository()->" ++ finder ++ "([",
      "\t'" ++ column ++ "' => $" ++ parameter ++ ",", "]);"]
  | .throwIfNull variableName exceptionClass =>
    ["if ($" ++ variableName ++ " === null) \x7b", "\tthrow new " ++ exceptionClass ++ "();", "\x7d"]
  | .blank => [""]
  | .line text => [text]

/-- The lines of a method body. -/
def bodyLines (body : List Statement) : List String := body.flatMap Statement.lines

end EntityScaffold.Source
