import EntityScaffold.Naming.Identifier
import EntityScaffold.Relation
import EntityScaffold.TypeExpression.Outcome
/-!
# Properties

A property of an entity is a scalar, with the type of its value and perhaps a default, or a relation to
another entity, which never has a default.  `Property.build` makes one from a type expression that has
been read.
-/

namespace EntityScaffold

open Text

/-- What a property holds. -/
inductive PropertyKind where
  | scalar (type : String) (default : Option String)
  | relation (relation : Relation)
  deriving DecidableEq, Repr, Inhabited

/-- A property of an entity. -/
structure Property where
  name : String
  /-- The type expression as it was written. -/
  expression : String
  kind : PropertyKind
  /-- The column type, where there is one. -/
  storage : Option String
  nullable : Bool
  modifiers : Modifiers
  deriving DecidableEq, Repr, Inhabited

namespace Property

/-- The relation of a property. -/
def relation? (p : Property) : Option Relation :=
  match p.kind with
  | .scalar .. => none
  | .relation r => some r

/-- The type of the value of a scalar property. -/
def primitive? (p : Property) : Option String :=
  match p.kind with
  | .scalar type _ => some type
  | .relation _ => none

/-- The default of a property. -/
def default? (p : Property) : Option String :=
  match p.kind with
  | .scalar _ default => default
  | .relation _ => none

/-- Whether a property refers to another entity. -/
def isRelation (p : Property) : Bool := p.relation?.isSome

/-- Whether a property refers to any number of entities. -/
def isCollection (p : Property) : Bool := p.relation?.any (·.kind.isToMany)

/-- The type of the value, or the class of the target. -/
def typeHint (p : Property) : String :=
  match p.kind with
  | .scalar type _ => type
  | .relation r => r.target

/-- The relation of a property that is known to have one. -/
def requiredRelation (p : Property) : Except Failure Relation :=
  match p.kind with
  | .scalar .. => .error (.misused (.notRelation p.name))
  | .relation r => .ok r

/-- The type of a property by its two parts, of which one has to be there. -/
def requiredType (p : Property) : Except Failure String :=
  match p.relation?, p.primitive? with
  | some relation, _ => .ok relation.target
  | none, some type => .ok type
  | none, none => .error (.misused (.noType p.name))

/-- Names whose getter every entity has, in lower case, with that getter. -/
def reservedNames : List (String × String) := [("id", "getId()"), ("data", "getData()")]

/-- Check that a text can be the name of a property. -/
def checkName (name : String) : Except Failure Unit :=
  if !isIdentifier name then reject (.propertyName name .notIdentifier)
  else
    match reservedNames.lookup (lower name) with
    | some getter => reject (.propertyName name (.reserved getter))
    | none => .ok ()

/-- What a property holds, from what its type means: an entity needs a relation, a scalar must not have
one, and a relation has no default. -/
def buildKind (name : String) (sense : TypeSense) (relation : Option Relation)
    (default : Option String) : Except Failure (PropertyKind × Option String) :=
  match sense, relation with
  | .scalar primitive, none => .ok (.scalar primitive.hint default, some primitive.storage)
  | .scalar _, some _ => .error (.misused (.relationOfScalar name))
  | .entity .., none => .error (.misused (.noRelation name))
  | .entity .., some relation =>
    if default.isSome then .error (.invalid [⟨[], .refused⟩]) else .ok (.relation relation, none)

/-- A property from its name, its type, and what else is said about it.  An empty default is none. -/
def build (name expression : String) (outcome : TypeOutcome) (relation : Option Relation)
    (default : Option String) : Except Failure Property := do
  checkName name
  let (kind, storage) ← buildKind name outcome.sense relation (default.filter (· != ""))
  pure ⟨name, expression, kind, storage, outcome.nullable, outcome.modifiers⟩

end Property

end EntityScaffold
