import EntityScaffold.Resolver
import EntityScaffold.TypeExpression
import EntityScaffold.TypeExpression.Primitive
/-!
# What a type expression means

The base name of a type expression is the keyword of a primitive type or else the name of an entity, for
which a class is looked up.  A name that is neither is turned down.
-/

namespace EntityScaffold

/-- What a base name stands for. -/
inductive TypeSense where
  | scalar (primitive : Primitive)
  /-- An entity, by its short name as written and by its class. -/
  | entity (name : String) (target : String)
  deriving DecidableEq, Repr, Inhabited

/-- A type expression with the meaning of its base name. -/
structure TypeOutcome where
  sense : TypeSense
  nullable : Bool
  modifiers : Modifiers
  deriving DecidableEq, Repr, Inhabited

/-- What type expressions are read with: a way to find entities, and the flags that count. -/
structure TypeReader where
  resolver : Resolver
  recognizedFlags : List String

namespace TypeReader

/-- The reader of a configuration, which knows some entity classes more. -/
def ofConfig (config : Config) (extra : List String) (files : FileTree) : TypeReader :=
  ⟨.ofConfig config extra files, config.recognizedFlags⟩

/-- What a base name stands for. -/
def sense (reader : TypeReader) (token : Option String) (base : String) : Except Failure TypeSense :=
  match primitive? base with
  | some primitive => .ok (.scalar primitive)
  | none => do
    match ← reader.resolver.resolve base with
    | some target => pure (.entity (ClassName.shortName base) target)
    | none => reject (.typeExpression token (.unknownName base))

/-- Read a type expression that may be missing. -/
def readToken (reader : TypeReader) (token : Option String) : Except Failure TypeOutcome := do
  let t ← TypeExpression.read reader.recognizedFlags token
  pure ⟨← reader.sense token t.base, t.nullable, t.modifiers⟩

/-- Read a type expression. -/
def read (reader : TypeReader) (token : String) : Except Failure TypeOutcome :=
  reader.readToken (some token)

/-- The files that are looked at when a type expression is read. -/
def places (reader : TypeReader) (token : String) : List Path :=
  match TypeExpression.split reader.recognizedFlags token with
  | .ok t => reader.resolver.places t.base
  | .error _ => []

end TypeReader

end EntityScaffold
