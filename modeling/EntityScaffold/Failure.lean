import EntityScaffold.Decimal.Size
import EntityScaffold.Document.Format
import EntityScaffold.FileTree
import EntityScaffold.Schema.Issue
import EntityScaffold.Text.Quoted
/-!
# Failures

Everything that can go wrong, by cause.  A `Rejection` is an answer to the person who wrote the input: the
input is understood well enough to say what is wrong with it, and `Rejection.message` says it.  All other
failures are collected in `Failure`: values of a kind for which an operation has no meaning, requests that
contradict themselves, documents that cannot be read, and files that cannot be written.
-/

namespace EntityScaffold

open Text

/-- Why a text is not a type expression. -/
inductive TypeFault where
  | empty
  /-- A word after the type that is no flag. -/
  | strayWord (word : String)
  /-- What follows the bar is neither a length nor a precision with a scale. -/
  | badModifier (modifier : String)
  /-- A number after the bar is too long. -/
  | number (fault : Decimal.SizeFault)
  | noBase
  /-- The base is not a class name. -/
  | badName (name : String)
  /-- The base names neither a primitive type nor a class. -/
  | unknownName (name : String)
  deriving DecidableEq, Repr, Inhabited

/-- The reason in words. -/
def TypeFault.message : TypeFault → String
  | .empty => "empty type"
  | .strayWord word => "unexpected " ++ quoted word ++ ", flags start with '--'"
  | .badModifier modifier => "invalid modifier " ++ quoted modifier
  | .number fault => fault.message
  | .noBase => "missing base type"
  | .badName name => quoted name ++ " is not a valid type name"
  | .unknownName name => quoted name ++ " is neither a known type nor an entity"

/-- Why a text is not a property name. -/
inductive NameFault where
  | notIdentifier
  /-- The getter of a property of this name is generated in any case. -/
  | reserved (getter : String)
  deriving DecidableEq, Repr, Inhabited

/-- The reason in words. -/
def NameFault.message : NameFault → String
  | .notIdentifier => "not a valid identifier"
  | .reserved getter => "reserved, the entity already generates " ++ getter

/-- Why a text is not an event. -/
inductive EventFault where
  | unusable
  | repeated
  deriving DecidableEq, Repr, Inhabited

/-- The reason in words. -/
def EventFault.message : EventFault → String
  | .unusable => "not usable in a class name"
  | .repeated => "maps to the same class as another event"

/-- The two kinds of lookup a repository offers: one row, or every row. -/
inductive Lookup where
  | single
  | multi
  deriving DecidableEq, Repr, Inhabited

/-- The beginning of the method names of a lookup. -/
def Lookup.stem : Lookup → String
  | .single => "getBy"
  | .multi => "getAllBy"

/-- Why a document does not define an entity. -/
inductive DefinitionFault where
  /-- The file cannot be read in its format. -/
  | unreadable (path : Path)
  | notMapping
  /-- A required text is missing or blank. -/
  | noText (key : String)
  | typeNotText (name : String)
  | relationOfScalar (name : String)
  | defaultOfRelation (name : String)
  | relationNotMapping (name : String)
  | badRelation (name : String) (issues : List Schema.Issue)
  | badProperties
  | badFeatures (issues : List Schema.Issue)
  deriving DecidableEq, Repr, Inhabited

/-- The reason in words. -/
def DefinitionFault.message : DefinitionFault → String
  | .unreadable path => "Cannot read definition " ++ path.toString
  | .notMapping => "Definition must be a mapping"
  | .noText key => "Definition needs a non-empty \"" ++ key ++ "\""
  | .typeNotText name => "Property \"" ++ name ++ "\" has a non-string type"
  | .relationOfScalar name => "Property \"" ++ name ++ "\" is scalar and cannot have a relation"
  | .defaultOfRelation name => "Relation \"" ++ name ++ "\" cannot have a default value"
  | .relationNotMapping name => "Relation of \"" ++ name ++ "\" must be a mapping"
  | .badRelation name _ => "Invalid relation of \"" ++ name ++ "\""
  | .badProperties => "\"properties\" must be a list of mappings or a mapping"
  | .badFeatures _ => "Invalid features"

/-- The issues behind the reason, when it is a part of the document that has some. -/
def DefinitionFault.issues? : DefinitionFault → Option (List Schema.Issue)
  | .badRelation _ issues => some issues
  | .badFeatures issues => some issues
  | _ => none

/-- Whether the reason goes on with what a reader of the format or a check of the document says. -/
def DefinitionFault.hasDetail : DefinitionFault → Bool
  | .unreadable _ => true
  | fault => fault.issues?.isSome

/-- An input that is understood and turned down. -/
inductive Rejection where
  | typeExpression (token : Option String) (fault : TypeFault)
  | relationKind (token : Option String)
  | unknownProperty (name : String) (lookup : Lookup)
  | duplicateProperty (name : String)
  | unknownTrait (name : String)
  | propertyName (name : String) (fault : NameFault)
  | event (name : String) (fault : EventFault)
  | definition (fault : DefinitionFault)
  deriving DecidableEq, Repr, Inhabited

/-- A token as a message shows it; a token that is not there has a word of its own. -/
def shownToken (token : Option String) : String := token.elim "None" quoted

/-- What the person who wrote the input is told. -/
def Rejection.message : Rejection → String
  | .typeExpression token fault =>
    "Invalid type expression " ++ shownToken token ++ ": " ++ fault.message
  | .relationKind token =>
    "Invalid relation kind " ++ shownToken token ++ " (expected one of 1:1, M:1, 1:M, N:M)"
  | .unknownProperty name lookup =>
    "Property \"" ++ name ++ "\" does not exist (" ++ lookup.stem ++ " lookup)"
  | .duplicateProperty name => "Property \"" ++ name ++ "\" is declared more than once"
  | .unknownTrait name => "Trait \"" ++ name ++ "\" is not configured"
  | .propertyName name fault => "Invalid property name \"" ++ name ++ "\": " ++ fault.message
  | .event name fault => "Invalid event \"" ++ name ++ "\": " ++ fault.message
  | .definition fault => fault.message

/-- A request that contradicts itself. -/
inductive Misuse where
  | relationOfScalar (name : String)
  | noRelation (name : String)
  | notRelation (name : String)
  /-- A property is asked for its type and is nothing at all. -/
  | noType (name : String)
  | noEvents (entity : String)
  /-- A class name without segments has no file. -/
  | noSegments
  /-- The last option of a relation is answered, and its target or its kind is not known. -/
  | optionsTooEarly
  /-- A property is complete, and its name or its type is not known. -/
  | propertyTooEarly
  /-- A text writes a date that no calendar has, or a number without digits or with too many. -/
  | impossible (reason : String)
  deriving DecidableEq, Repr, Inhabited

/-- What the request is told; nothing more can be said of a class name without segments. -/
def Misuse.message? : Misuse → Option String
  | .relationOfScalar name => some ("scalar property " ++ quoted name ++ " cannot have a relation")
  | .noRelation name => some ("relational property " ++ quoted name ++ " needs a relation descriptor")
  | .notRelation name => some ("property " ++ quoted name ++ " is not a relation")
  | .noType name => some ("property " ++ quoted name ++ " has neither a type nor a relation")
  | .noEvents entity => some (entity ++ " declares no events")
  | .noSegments => none
  | .optionsTooEarly => some "relation options answered before type and kind"
  | .propertyTooEarly => some "property finished before name and type were given"
  | .impossible reason => some reason

/-- Everything that can go wrong. -/
inductive Failure where
  | rejected (rejection : Rejection)
  | misused (misuse : Misuse)
  /-- A document does not describe what it should. -/
  | invalid (issues : List Schema.Issue)
  /-- A text is not in its format. -/
  | unreadable (format : Document.Format)
  /-- A number in a document is too large to be computed with. -/
  | outOfRange
  /-- A document in which values are nested too deeply. -/
  | tooDeep
  /-- A document in which a text has half of a surrogate pair, so that it cannot be taken on as a text. -/
  | unpaired
  /-- A value for which the operation has no meaning. -/
  | wrongKind
  /-- An item that should be a text and is not. -/
  | notText
  /-- A name that is looked up and not there. -/
  | notDeclared
  /-- An item beyond the end of a list. -/
  | noItem
  /-- The answers have run out. -/
  | noAnswer
  /-- An answer to questions that are all answered. -/
  | finished
  | file (fault : FileFault)
  deriving DecidableEq, Repr, Inhabited

/-- What is said to an answer after the last question. -/
def finishedMessage : String := "property wizard is already done"

/-- A number that is not read, or not shown, for its size. -/
def Failure.ofSize (fault : Decimal.SizeFault) : Failure := .misused (.impossible fault.message)

/-- The outcome of looking at files. -/
def ofFiles {α : Type} (outcome : Except FileFault α) : Except Failure α := outcome.mapError .file

/-- Turn an input down. -/
def reject {α : Type} (rejection : Rejection) : Except Failure α := .error (.rejected rejection)

end EntityScaffold
