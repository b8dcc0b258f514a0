import EntityScaffold.Console
import EntityScaffold.Record.Assembly
import EntityScaffold.Record.Document
import EntityScaffold.Wizard
/-!
# Sessions

A person describes an entity by answering questions.  A `Session` holds the answers that are still to come,
the log, and the files; `Dialogue` is the monad of what happens in one, where the log and the files outlive
a failure.  A question that is asked when no answer is left fails with `Failure.noAnswer`.

A question whose answer is turned down is asked again.  `Session.converse` is the only loop, and it recurs
on the answers, of which each turn uses up one.
-/

namespace EntityScaffold

open Text

/-- The state of a run. -/
structure Session where
  replies : List Reply
  log : List Console.Entry
  files : FileTree

/-- What happens in a session; the session is kept when it fails. -/
abbrev Dialogue := ExceptT Failure (StateM Session)

namespace Session

/-- What a turn of a conversation leads to. -/
inductive Turn (σ α : Type) where
  /-- Another question, after a remark. -/
  | again (state : σ) (remark : Option Console.Entry)
  | settled (result : α)

/-- Ask the question of a state, see what the answer leads to, and go on until something is settled. -/
def converse {σ α : Type} (files : FileTree) (question : σ → Question)
    (turn : σ → Reply → Except Failure (Turn σ α)) :
    List Reply → List Console.Entry → σ → Except Failure α × Session
  | [], log, state => (.error .noAnswer, ⟨[], log ++ [.asked (question state)], files⟩)
  | reply :: rest, log, state =>
    let log := log ++ [.asked (question state)]
    match turn state reply with
    | .error failure => (.error failure, ⟨rest, log, files⟩)
    | .ok (.settled result) => (.ok result, ⟨rest, log, files⟩)
    | .ok (.again state remark) => converse files question turn rest (log ++ remark.toList) state

/-- A conversation as a part of a session. -/
def askFrom {σ α : Type} (state : σ) (question : σ → Question)
    (turn : σ → Reply → Except Failure (Turn σ α)) : Dialogue α :=
  ExceptT.mk fun session => converse session.files question turn session.replies session.log state

/-- Ask one question until an answer is not turned down. -/
def askUntil {α : Type} (question : Question) (read : Reply → Except Failure α) : Dialogue α :=
  askFrom () (fun _ => question) fun _ reply =>
    match read reply with
    | .ok result => .ok (.settled result)
    | .error (.rejected r) => .ok (.again () (some (Console.rejection r)))
    | .error failure => .error failure

/-- A result that does not need the session. -/
def result {α : Type} (outcome : Except Failure α) : Dialogue α := ExceptT.mk (pure outcome)

/-- Show something. -/
def tell (entry : Console.Entry) : Dialogue Unit :=
  modify fun session => { session with log := session.log ++ [entry] }

/-- Ask for yes or no. -/
def askTruth (prompt : String) (offered : Bool) : Dialogue Bool :=
  askUntil (.truth prompt offered) fun reply => .ok (reply.asTruth offered)

/-- What is said about an answer that is blank where a text is required. -/
def requiredMessage : String := "A value is required."

/-- Ask for a text that is more than blanks. -/
def askRequired (prompt : String) (offered : Option String) : Dialogue String :=
  askFrom () (fun _ => .text prompt offered) fun _ reply => do
    let answer ← reply.asText offered
    pure (if isBlankText answer then .again () (some (Console.error requiredMessage))
      else .settled (trim answer))

/-- The fields that a reply lists, which have to be declared. -/
def readFields (declared : List String) (lookup : Lookup) (reply : Reply) : Except Failure (List String) := do
  let names ← fieldNames (reply.asValue (.text ""))
  checkLookup lookup declared names
  pure names

/-- The events that a reply lists. -/
def readEvents (reply : Reply) : Except Failure (List String) := eventNames (reply.asValue (.text ""))

/-- Ask for a list of declared names. -/
def askFields (prompt : String) (declared : List String) (lookup : Lookup) :
    Dialogue (List String) :=
  askUntil (.text prompt (some "")) (readFields declared lookup)

/-- Ask for a list of events. -/
def askEvents : Dialogue (List String) :=
  askUntil
    (.text "Define events (comma separated, 'all' for created, updated, deleted)" (some "")) readEvents

/-- The open question of a wizard.  To a question for yes or no the answer offered is no. -/
def wizardQuestion (w : Wizard) : Question :=
  if w.stage.isConfirmation then .truth w.question false
  else .text w.question (some w.stage.defaultAnswer)

/-- An answer as the wizard takes it. -/
def wizardAnswer (w : Wizard) (reply : Reply) : Except Failure String :=
  if w.stage.isConfirmation then .ok (if reply.asTruth false then "yes" else "no")
  else reply.asText (some w.stage.defaultAnswer)

/-- One turn of the wizard.  After an answer that is turned down, the wizard goes on as the answer has left
it. -/
def wizardTurn (w : Wizard) (reply : Reply) : Except Failure (Turn Wizard (List Property)) := do
  let answer ← wizardAnswer w reply
  match w.respond (some answer) with
  | (.ok (), next) => pure (if next.isDone then .settled next.properties else .again next none)
  | (.error (.rejected r), next) => pure (.again next (some (Console.rejection r)))
  | (.error failure, _) => .error failure

/-- Ask for properties until a name is left empty. -/
def askProperties (reader : TypeReader) : Dialogue (List Property) :=
  askFrom ({ reader } : Wizard) wizardQuestion wizardTurn

/-- The questions for what to generate, by the fields of a document that they stand for. -/
def featureQuestions : List (String × String) :=
  [("data_factory", "Generate DataFactory?"), ("edit", "Generate edit method?"),
    ("get_all", "Generate getAll method?"), ("delete", "Generate delete method?")]

/-- Ask for the fields of a document. -/
def askForFields : List (String × String) → Dialogue Schema.Fields
  | [] => pure []
  | (field, prompt) :: rest => do
    let value ← askUntil (.truth prompt true) fun reply => .ok (reply.asValue (.bool true))
    let others ← askForFields rest
    pure ((.text field, value) :: others)

/-- Ask what to generate.  The answers are checked together, as those of a document are. -/
def askFeatures : Dialogue Features := do
  let fields ← askForFields featureQuestions
  result ((Features.check (.mapping fields)).toExcept .invalid)

/-- Ask which of the offered traits to use. -/
def askTraits : List String → Dialogue (List String)
  | [] => pure []
  | name :: rest => do
    let chosen ← askTruth ("Use " ++ name ++ " trait?") true
    let others ← askTraits rest
    pure (if chosen then name :: others else others)

/-- The namespace that is offered for an entity: one of its own below the first that is searched. -/
def offeredSpace (config : Config) (entity : String) : String :=
  ClassName.qualify (config.namespaces.headD "") entity

/-- Ask for everything about an entity. -/
def askDraft (config : Config) : Dialogue Draft := do
  let entity := capitalize (← askRequired "Entity Name" none)
  let space := ClassName.bare (← askRequired "Namespace" (some (offeredSpace config entity)))
  let files := (← get).files
  let properties ←
    askProperties (.ofConfig config [ClassName.qualify space entity] files)
  let names := properties.map (·.name)
  let features ← askFeatures
  let getBy ← askFields "Define getBy fields (comma separated)" names .single
  let getAllBy ← askFields "Define getAllBy fields (comma separated)" names .multi
  let events ← askEvents
  let traits ← askTraits (config.offeredTraits.map (·.1))
  pure
    { space, entityName := entity, properties, features, getBy := .ofTexts getBy
      getAllBy := .ofTexts getAllBy, events := .ofTexts events, traits := .ofTexts traits }

/-- Ask for everything about an entity, and make its record. -/
def askRecord (config : Config) : Dialogue Record := do
  let draft ← askDraft config
  result (draft.assemble config)

end Session

end EntityScaffold
