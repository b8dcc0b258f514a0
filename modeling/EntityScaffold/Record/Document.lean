import EntityScaffold.Property.Document
import EntityScaffold.Record
/-!
# Records as documents

A document may describe a record completely.  Its properties are complete descriptions too, and its traits
are a mapping from names to classes or a sequence of pairs.
-/

namespace EntityScaffold

open Document Schema

/-- The parts to generate; what is not mentioned is generated. -/
def Features.check : Check Features :=
  record fun fields =>
    Features.mk <$> field "data_factory" true truth fields <*> field "edit" true truth fields <*>
      field "get_all" true truth fields <*>
      field "delete" true truth fields

/-- The traits of a record. -/
def Record.checkTraits : Check (List (String × String))
  | .mapping entries =>
    Checked.each textPair (entries.map fun (key, value) => .list [.scalar key, value])
  | v => sequence textPair v

/-- A complete description of a record. -/
def Record.check : Check Record :=
  record fun fields =>
    Record.mk <$> required "namespace" text fields <*> required "entity_name" text fields <*>
      field "properties" [] (sequence Property.check) fields <*>
      field "features" {} Features.check fields <*>
      field "single_lookup_fields" [] (sequence text) fields <*>
      field "multi_lookup_fields" [] (sequence text) fields <*>
      field "events" [] (sequence text) fields <*>
      field "traits" [] checkTraits fields

end EntityScaffold
