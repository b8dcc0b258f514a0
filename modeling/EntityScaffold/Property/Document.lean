import EntityScaffold.Property
import EntityScaffold.Relation.Document
/-!
# Properties as documents

A document may describe a property completely.  It must then say either the type of a scalar or a
relation, and not both, and a relation must not have a default.
-/

namespace EntityScaffold

open Document Schema

/-- Length, precision, scale and flags. -/
def Modifiers.check : Check Modifiers :=
  record fun fields =>
    Modifiers.mk <$> field "length" none (optional integer) fields <*>
      field "precision" none (optional integer) fields <*>
      field "scale" none (optional integer) fields <*>
      field "flags" [] (sequence text) fields

namespace Property

/-- What a property holds, from the type, the default and the relation that a document names. -/
def kindOf (type default : Option String) (relation : Option Relation) : Checked PropertyKind :=
  match type, relation, default with
  | some type, none, default => .accepted (.scalar type default)
  | none, some relation, none => .accepted (.relation relation)
  | _, _, _ => .fail .refused

/-- A complete description of a property. -/
def check : Check Property :=
  record fun fields =>
    ((fun name expression type storage nullable modifiers default relation =>
        (kindOf type default relation).map fun kind =>
          (⟨name, expression, kind, storage, nullable, modifiers⟩ : Property)) <$>
      required "name" text fields <*>
      required "raw_expression" text fields <*>
      field "primitive_type" none (optional text) fields <*>
      field "storage_type" none (optional text) fields <*>
      field "nullable" false truth fields <*>
      field "modifiers" {} Modifiers.check fields <*>
      field "default_value" none (optional text) fields <*>
      field "relation" none (optional Relation.check) fields).andThen id

end Property

end EntityScaffold
