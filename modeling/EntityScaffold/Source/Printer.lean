import EntityScaffold.Source.Import
/-!
# Printing source units

How a source unit is written.  Classes are written by the short name under which they are imported, by
their own short name in their own namespace, and with a leading backslash otherwise; builtin type words are
written in lower case.  Members are separated by one empty line.
-/

namespace EntityScaffold.SourceUnit

open Source Text ClassName

/-- The words that are types and no classes. -/
def builtinTypes : List String :=
  ["array", "bool", "callable", "false", "float", "int", "iterable", "mixed", "never", "null", "object",
    "self", "static", "string", "void"]

/-- The types that are never marked as nullable. -/
def unmarkedTypes : List String := ["mixed", "null", "void"]

/-- A type as it is written, without a mark of nullability. -/
def plainType (u : SourceUnit) (type : String) : String :=
  if builtinTypes.contains (lower type) then lower type
  else
    let target := bare type
    match u.importedAs? target with
    | some name => name
    | none => if namespaceOf target = u.space then shortName target else "\\" ++ target

/-- A type as it is written; no type is written as nothing. -/
def printType (u : SourceUnit) (type : Option String) (nullable : Bool) : String :=
  match type with
  | none => ""
  | some type =>
    if type = "" then ""
    else
      let printed := u.plainType type
      if nullable && !unmarkedTypes.contains printed then "?" ++ printed else printed

/-- A text without blanks at its end. -/
def trimEnd (s : String) : String := through (dropEndWhile isBlank) s

/-- The lines of a comment block. -/
def commentLines (comments : List String) (margin : String) : List String :=
  (margin ++ "/**") :: comments.map (fun line => trimEnd (margin ++ " * " ++ line)) ++
    [margin ++ " */"]

/-- A comment block, or nothing when there are no comments. -/
def commentsBefore (comments : List String) (margin : String) : List String :=
  if comments.isEmpty then [] else commentLines comments margin

/-- Whether a type is there to be written. -/
def hasType (type : Option String) : Bool := type.any (· != "")

/-- The first line of a class. -/
def header (u : SourceUnit) : String :=
  let d := u.declaration
  (if d.isAbstract then "abstract " else if d.isFinal then "final " else "") ++ "class " ++ d.name ++
    (if hasType d.parent then " extends " ++ u.printType d.parent false else "") ++
    (if d.interfaces.isEmpty then ""
      else " implements " ++ join ", " (d.interfaces.map fun i => u.printType (some i) false))

/-- What is written for a default. -/
def defaultPart (default : Option String) : String :=
  default.elim "" (" = " ++ ·)

/-- A parameter. -/
def printParameter (u : SourceUnit) (p : Parameter) : String :=
  p.promoted.elim "" (·.keyword ++ " ") ++
    (if hasType p.type then u.printType p.type p.nullable ++ " " else "") ++ "$" ++ p.name ++
    defaultPart p.default

/-- One level of indentation. -/
def margin : String := "\t"

/-- The lines of a data member. -/
def memberLines (u : SourceUnit) (m : Member) : List String :=
  commentsBefore m.comments margin ++
    [margin ++ m.visibility.keyword ++ " " ++
      (if hasType m.type then u.printType m.type m.nullable ++ " " else "") ++ "$" ++ m.name ++
      defaultPart m.default ++ ";"]

/-- A line of a method body; a blank one is written as nothing. -/
def bodyLine (line : String) : String := if isBlankText line then "" else margin ++ margin ++ line

/-- The first lines of a method.  Promoted parameters stand on lines of their own. -/
def methodHead (u : SourceUnit) (m : Method) : List String :=
  let opening :=
    margin ++ m.visibility.keyword ++ (if m.isStatic then " static" else "") ++ " function " ++
      m.name ++ "("
  let result :=
    if hasType m.returnType then ": " ++ u.printType m.returnType m.returnNullable else ""
  if m.parameters.any (·.promoted.isSome) then
    opening :: m.parameters.map (fun p => margin ++ margin ++ u.printParameter p ++ ",") ++
      [margin ++ ")" ++ result ++ " \x7b"]
  else
    [opening ++ join ", " (m.parameters.map u.printParameter) ++ ")" ++ result, margin ++ "\x7b"]

/-- The lines of a method. -/
def methodLines (u : SourceUnit) (m : Method) : List String :=
  commentsBefore m.comments margin ++ u.methodHead m ++ (bodyLines m.body).map bodyLine ++
    [margin ++ "\x7d"]

/-- The lines that take over traits. -/
def traitLines (u : SourceUnit) : List String :=
  u.declaration.traits.map fun t => margin ++ "use " ++ u.printType (some t) false ++ ";"

/-- The members of a class, each with its lines. -/
def blocks (u : SourceUnit) : List (List String) :=
  (if u.declaration.traits.isEmpty then [] else [u.traitLines]) ++
    u.declaration.members.map u.memberLines ++ u.declaration.methods.map u.methodLines

/-- Put one empty line between blocks. -/
def separate : List (List String) → List String
  | [] => []
  | [block] => block
  | block :: rest => block ++ "" :: separate rest

/-- The lines of a file. -/
def lines (u : SourceUnit) : List String :=
  let imports := u.importLines
  ["<?php", "", "declare(strict_types=1);", "", "namespace " ++ u.space ++ ";"] ++
    (if imports.isEmpty then [] else "" :: imports.map fun entry => "use " ++ entry ++ ";") ++
    [""] ++ commentsBefore u.declaration.comments "" ++ [u.header, "\x7b"] ++ separate u.blocks ++
    ["\x7d"]

/-- The text of a file. -/
def print (u : SourceUnit) : String := String.join (u.lines.map (· ++ "\n"))

end EntityScaffold.SourceUnit
