import EntityScaffold.Schema.Primitive
import EntityScaffold.Source.Unit
/-!
# Source units as documents

A document may describe a source unit completely.  The body of a method is a sequence of lines.
-/

namespace EntityScaffold

open Document Schema

namespace Source

/-- A visibility by its keyword. -/
def Visibility.check : Check Visibility :=
  choice ([.isPublic, .isProtected, .isPrivate].map fun v => (v.keyword, v))

/-- A parameter. -/
def Parameter.check : Check Parameter :=
  record fun fields =>
    Parameter.mk <$> required "name" text fields <*> field "type" none (optional text) fields <*>
      field "nullable" false truth fields <*>
      field "default" none (optional text) fields <*>
      field "promoted" none (optional Visibility.check) fields

/-- A data member. -/
def Member.check : Check Member :=
  record fun fields =>
    Member.mk <$> required "name" text fields <*> field "type" none (optional text) fields <*>
      field "nullable" false truth fields <*>
      field "visibility" .isPrivate Visibility.check fields <*>
      field "default" none (optional text) fields <*>
      field "comments" [] (sequence text) fields

/-- A method. -/
def Method.check : Check Method :=
  record fun fields =>
    Method.mk <$> required "name" text fields <*>
      field "visibility" .isPublic Visibility.check fields <*>
      field "static" false truth fields <*>
      field "parameters" [] (sequence Parameter.check) fields <*>
      field "return_type" none (optional text) fields <*>
      field "return_nullable" false truth fields <*>
      field "comments" [] (sequence text) fields <*>
      field "body" [] (sequence fun v => (text v).map Statement.line) fields

/-- A class. -/
def Declaration.check : Check Declaration :=
  record fun fields =>
    Declaration.mk <$> required "name" text fields <*> field "abstract" false truth fields <*>
      field "final" false truth fields <*>
      field "extends" none (optional text) fields <*>
      field "implements" [] (sequence text) fields <*>
      field "traits" [] (sequence text) fields <*>
      field "comments" [] (sequence text) fields <*>
      field "properties" [] (sequence Member.check) fields <*>
      field "methods" [] (sequence Method.check) fields

end Source

/-- A source unit. -/
def SourceUnit.check : Check SourceUnit :=
  record fun fields =>
    SourceUnit.mk <$> required "namespace" text fields <*> field "uses" [] (sequence text) fields <*>
      required "class_type" Source.Declaration.check fields

end EntityScaffold
