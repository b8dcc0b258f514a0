import EntityScaffold.Keyed
import EntityScaffold.Property
/-!
# The property wizard

The properties of an entity can be given by answers to questions, one after another.  Which question comes
next hangs on the answers so far: after the name of a property and its type, a scalar is asked for its
default and a relation for its cardinality and its options; a delete cascade is asked for only where there
is a foreign key.  An empty name ends it.

    name ── type ──┬── default ─────────────────────────────────────────── name
                   └── kind ── bidirectional ── cascade ──┬── onDelete ─── name
                                                          └──────────────── name

What has been said about the property at hand is kept in a `Stage`, in one place for each answer, and the
handlers of the answers fill these places one after another.  A handler that turns an answer down stops
where it is, and `Wizard.respond` returns the wizard as the handler has left it.  Nothing in the types says
that a stage holds what its state needs, or that a rejected answer leaves no trace; both are theorems about
the wizards that can be reached.
-/

namespace EntityScaffold

open Text

/-- What a wizard waits for. -/
inductive WizardState where
  | name
  | type
  | kind
  | options
  | default
  | done
  deriving DecidableEq, Repr, Inhabited

/-- The key under which a state is reported. -/
def WizardState.key : WizardState → String
  | .name => "awaiting_name"
  | .type => "awaiting_type"
  | .kind => "awaiting_relation_kind"
  | .options => "awaiting_relation_options"
  | .default => "awaiting_default"
  | .done => "done"

/-- An option of a relation. -/
inductive RelationOption where
  | bidirectional
  | cascade
  | onDelete
  deriving DecidableEq, Repr, Inhabited

/-- The options that a relation of a kind is asked for, in order. -/
def RelationOption.ofKind (kind : RelationKind) : List RelationOption :=
  [.bidirectional, .cascade] ++ if kind.isOwning then [.onDelete] else []

/-- A question about a property. -/
inductive Inquiry where
  | name
  | type
  | kind
  | option (o : RelationOption)
  | default
  deriving DecidableEq, Repr, Inhabited

namespace Inquiry

/-- The question in words. -/
def question : Inquiry → String
  | .name => "Property Name (empty to finish)"
  | .type => "Type (e.g. \"?string|31 --unique\")"
  | .kind => "Relation Type (1:1/M:1/1:M/N:M)"
  | .option .bidirectional => "Bidirectional (add mappedBy/inversedBy)?"
  | .option .cascade => "Define Cascade Attributes (persist/remove/all)"
  | .option .onDelete => "Add Cascade Delete on Database Level?"
  | .default => "Default Value"

/-- What an empty answer means. -/
def defaultAnswer : Inquiry → String
  | .type => "string"
  | .kind => RelationKind.defaultToken
  | .option _ => "no"
  | .name | .default => ""

/-- Whether the question is one for yes or no. -/
def isConfirmation : Inquiry → Bool
  | .option .bidirectional | .option .onDelete => true
  | _ => false

end Inquiry

/-- What a wizard waits for, and what it has been told about the property at hand. -/
structure Stage where
  state : WizardState := .name
  name : Option String := none
  expression : Option String := none
  outcome : Option TypeOutcome := none
  kind : Option RelationKind := none
  /-- The answers about options of the relation. -/
  options : List (RelationOption × String) := []
  /-- The options that are still to be asked for. -/
  pending : List RelationOption := []
  deriving DecidableEq, Repr, Inhabited

namespace Stage

/-- The key under which a stage is reported. -/
def key (s : Stage) : String := s.state.key

/-- The question that is open.  There is none at the end, nor where options are to be asked for and no
option is left. -/
def inquiry? (s : Stage) : Option Inquiry :=
  match s.state with
  | .name => some .name
  | .type => some .type
  | .kind => some .kind
  | .options => s.pending.head?.map .option
  | .default => some .default
  | .done => none

/-- The question in words; nothing is said where none is open. -/
def question (s : Stage) : String := s.inquiry?.elim "" Inquiry.question

/-- What an empty answer means. -/
def defaultAnswer (s : Stage) : String := s.inquiry?.elim "" Inquiry.defaultAnswer

/-- Whether the question is one for yes or no. -/
def isConfirmation (s : Stage) : Bool := s.inquiry?.any Inquiry.isConfirmation

end Stage

/-- The properties so far, and the stage of the next one. -/
structure Wizard where
  reader : TypeReader
  properties : List Property := []
  stage : Stage := {}

namespace Wizard

/-- What an answer does to a wizard; the wizard is kept when it fails. -/
abbrev Action := ExceptT Failure (StateM Wizard)

/-- The words for yes, in lower case. -/
def yesWords : List String := ["y", "yes", "true", "1"]

/-- Whether an answer means yes; everything that is no word for it means no. -/
def isYes (answer : String) : Bool := yesWords.contains (lower (trim answer))

/-- Whether nothing is asked any more. -/
def isDone (w : Wizard) : Bool := w.stage.state == .done

/-- The question that is open. -/
def question (w : Wizard) : String := w.stage.question

/-- Whether a name is taken; names that differ by case only are the same. -/
def isTaken (w : Wizard) (name : String) : Bool :=
  w.properties.any fun p => lower p.name == lower name

/-! ## Handlers -/

/-- Take a name, or end. -/
def takeName (value : String) : Action Unit := do
  if value = "" then modify fun w => { w with stage.state := .done }
  else
    ofExcept (Property.checkName value)
    if (← get).isTaken value then ofExcept (reject (.duplicateProperty value))
    else modify fun w => { w with stage.name := some value, stage.state := .type }

/-- Take the type of a property. -/
def takeType (value : String) : Action Unit := do
  let outcome ← ofExcept ((← get).reader.read value)
  modify fun w => { w with stage.expression := some value, stage.outcome := some outcome }
  match outcome.sense with
  | .scalar _ => modify fun w => { w with stage.state := .default }
  | .entity .. => modify fun w => { w with stage.state := .kind }

/-- Take the kind of a relation. -/
def takeKind (value : String) : Action Unit := do
  let kind ← ofExcept (RelationKind.read (some value))
  modify fun w => { w with stage.kind := some kind, stage.pending := RelationOption.ofKind kind }
  modify fun w => { w with stage.state := .options }

/-- Add a property, forget what was said about it, and ask for the name of the next. -/
def finish (relation : Option Relation) (default : Option String) : Action Unit := do
  let s := (← get).stage
  match s.name, s.expression, s.outcome with
  | some name, some expression, some outcome =>
    let property ← ofExcept (Property.build name expression outcome relation default)
    modify fun w => { w with properties := w.properties ++ [property], stage := {} }
  | _, _, _ => throw (.misused .propertyTooEarly)

/-- The answer about an option, which has to be given. -/
def optionAnswer (o : RelationOption) : Action String := do
  match (← get).stage.options.lookup o with
  | some answer => pure answer
  | none => throw .notDeclared

/-- Add the relation that the answers describe.  A delete cascade that was not asked for is not wanted. -/
def finishRelation : Action Unit := do
  let s := (← get).stage
  match s.outcome.map TypeOutcome.sense, s.kind with
  | some (.entity _ target), some kind =>
    let bidirectional ← optionAnswer .bidirectional
    let cascade ← optionAnswer .cascade
    let onDelete := (s.options.lookup .onDelete).getD "no"
    let relation :=
      Relation.build target kind (isYes bidirectional) (Cascade.read (some cascade)) (isYes onDelete)
    finish (some relation) none
  | _, _ => throw (.misused .optionsTooEarly)

/-- Take the answer about the next option of a relation; after the last one the relation is there. -/
def takeOption (value : String) : Action Unit := do
  match (← get).stage.pending with
  | [] => throw .noItem
  | option :: rest =>
    modify fun w =>
      { w with stage.options := Keyed.put option value w.stage.options, stage.pending := rest }
    if rest.isEmpty then finishRelation

/-- Take the default of a scalar. -/
def takeDefault (value : String) : Action Unit :=
  finish none (if value = "" then none else some value)

/-! ## Answers -/

/-- What an answer says: the text without blanks around it, or the default when nothing is left. -/
def valueOf (w : Wizard) (answer : Option String) : Except Failure String :=
  let value := trim (answer.getD "")
  if value = "" then (w.stage.inquiry?.map Inquiry.defaultAnswer).elim (.error .noItem) .ok
  else .ok value

/-- Answer the open question. -/
def hear (answer : Option String) : Action Unit := do
  let w ← get
  if w.isDone then throw .finished
  else
    let value ← ofExcept (w.valueOf answer)
    match w.stage.state with
    | .name => takeName value
    | .type => takeType value
    | .kind => takeKind value
    | .options => takeOption value
    | .default => takeDefault value
    | .done => pure ()

/-- What comes of an action on a wizard, and the wizard after it. -/
def perform {α : Type} (w : Wizard) (action : Action α) : Except Failure α × Wizard := action.run.run w

/-- What comes of an answer, and the wizard after it. -/
def respond (w : Wizard) (answer : Option String) : Except Failure Unit × Wizard :=
  w.perform (hear answer)

/-- The wizard after an answer that is not turned down. -/
def answer (w : Wizard) (answer : Option String) : Except Failure Wizard :=
  (w.respond answer).1.map fun () => (w.respond answer).2

/-- Give answers until nothing is asked any more. -/
def run (w : Wizard) : List (Option String) → Except Failure Wizard
  | [] => .ok w
  | a :: rest => do
    let next ← w.answer a
    if next.isDone then pure next else next.run rest

/-- The properties that a list of answers describes. -/
def collect (reader : TypeReader) (answers : List (Option String)) : Except Failure (List Property) :=
  (Wizard.run { reader } answers).map (·.properties)

end Wizard

end EntityScaffold
