import EntityScaffold.Relation
import EntityScaffold.Schema.Primitive
/-!
# Relations as documents

Two kinds of document describe a relation.  `Relation.check` reads a complete one, with the name of the
kind and the target.  `RelationBlock.check` reads the part that a definition says about a relation whose
target is known already; it says the kind by its token, says nothing about the target, and must not say
anything else.

Documents are what the data formats have: mappings, with texts for names.  A description that a program hands
over may also be an object of another type, or name its kind by bytes, and then the delete cascade that its kind
cannot have is not looked for.  Such descriptions are left out here.
-/

namespace EntityScaffold

open Document Schema

namespace Relation

/-- The kind of relation that fields name, when they name one. -/
def namedKind? (fields : Fields) : Option RelationKind :=
  match find? fields "kind" with
  | some (.text name) => RelationKind.byName.lookup name
  | _ => none

/-- The fields of a relation, where a delete cascade that the kind cannot have is no longer asked for,
whatever the value by which it was. -/
def withoutVainCascade (fields : Fields) : Fields :=
  match namedKind? fields, find? fields "on_delete_cascade" with
  | some kind, some wish =>
    if kind.isOwning || wish.isVoid then fields
    else put (.text "on_delete_cascade") (.bool false) fields
  | _, _ => fields

/-- A complete description of a relation. -/
def check : Check Relation :=
  record fun fields =>
    let fields := withoutVainCascade fields
    Relation.mk <$> required "kind" (choice RelationKind.byName) fields <*>
      required "target_entity" text fields <*>
      field "bidirectional" false truth fields <*>
      field "cascade" none (optional (choice Cascade.byName)) fields <*>
      field "on_delete_cascade" false truth fields

end Relation

/-- What a definition says about a relation. -/
structure RelationBlock where
  kind : String
  bidirectional : Bool
  cascade : Option String
  onDeleteCascade : Bool
  deriving DecidableEq, Repr, Inhabited

namespace RelationBlock

/-- A token for a kind.  Some tokens read as numbers where they are not quoted, and a number or truth
value is refused in a way of its own. -/
def checkKind : Check String
  | .scalar (.int _) | .scalar (.bool _) => .fail .refused
  | v => text v

/-- The answer about cascades, where false means none. -/
def checkCascade : Check (Option String)
  | .scalar (.bool false) => .accepted none
  | v => optional text v

/-- The block of a definition. -/
def check : Check RelationBlock :=
  record fun fields =>
    closed ["kind", "bidirectional", "cascade", "on_delete_cascade"] fields <|
      RelationBlock.mk <$> field "kind" RelationKind.defaultToken checkKind fields <*>
        field "bidirectional" false truth fields <*>
        field "cascade" none checkCascade fields <*>
        field "on_delete_cascade" false truth fields

/-- The relation to a target that a block describes. -/
def relation (block : RelationBlock) (target : String) : Except Failure Relation := do
  let kind ← RelationKind.read (some block.kind)
  pure (.build target kind block.bidirectional (Cascade.read block.cascade) block.onDeleteCascade)

end RelationBlock

end EntityScaffold
