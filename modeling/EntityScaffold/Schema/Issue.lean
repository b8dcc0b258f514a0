import EntityScaffold.Text.Basic
/-!
# Issues of a document

What is wrong with the parts of a document: an `Issue` names the place, as the path of keys and positions
that leads there, and the kind of fault.  Checking a document collects all its issues; see
`Schema.Checked`.
-/

namespace EntityScaffold.Schema

/-- The ways in which a part of a document can be wrong. -/
inductive IssueKind where
  /-- A required field is not there. -/
  | missing
  /-- A text is expected. -/
  | notText
  /-- A truth value is expected, or something that stands for one. -/
  | notTruth
  /-- A text or a whole number that stands for no truth value. -/
  | unclearTruth
  /-- A whole number is expected, or something that stands for one. -/
  | notInteger
  /-- A text that writes no whole number. -/
  | unclearInteger
  /-- A whole number that is too large, as a text or as a floating-point number. -/
  | tooLarge
  /-- A number with a fraction where a whole number is expected. -/
  | fraction
  /-- An infinite number, or none at all, where a whole number is expected. -/
  | notFinite
  /-- None of the words to choose from. -/
  | notAChoice
  /-- A list is expected. -/
  | notList
  /-- A sequence of given parts is expected. -/
  | notSequence
  /-- A sequence with more parts than it may have. -/
  | tooLong
  /-- A mapping is expected. -/
  | notMapping
  /-- A mapping with the fields of a record is expected. -/
  | notRecord
  /-- A file path is expected. -/
  | notPath
  /-- A field that the record does not have. -/
  | unknownField
  /-- A field whose name is not a text. -/
  | unnamedField
  /-- A value that breaks a rule of its own. -/
  | refused
  deriving DecidableEq, Repr, Inhabited

/-- A fault at a place in a document. -/
structure Issue where
  location : List String
  kind : IssueKind
  deriving DecidableEq, Repr, Inhabited

/-- The place as text: keys and positions with dots between them. -/
def Issue.place (issue : Issue) : String := Text.join "." issue.location

/-- The same fault seen from further outside. -/
def Issue.under (key : String) (issue : Issue) : Issue :=
  { issue with location := key :: issue.location }

end EntityScaffold.Schema
