import EntityScaffold.CommandLine.Arguments
import EntityScaffold.Config.Environment
import EntityScaffold.Config.File
import EntityScaffold.Definition
import EntityScaffold.Scaffold
import EntityScaffold.Session
/-!
# The command line

One run of the command: find the configuration, get the record of an entity from a definition file or from
a person's answers, write the files of its artifacts, and report.  `CommandLine.run` is a function from the
arguments, the environment and a session to an exit code and the session afterwards.

What the person can mend is shown and ends the run with exit code 1; arguments that cannot be understood
end it with 2.  Any other failure is left to the caller.
-/

namespace EntityScaffold.CommandLine

open Session

/-- Whether a failure means that a configuration file does not hold a configuration. -/
def isAboutConfig : Failure → Bool
  | .invalid _ | .unreadable _ | .misused _ => true
  | _ => false

/-- The configuration of a run, or what is shown when there is none. -/
def configOf (files : FileTree) (environment : List (String × String)) (argument : Option String) :
    Except Failure (Console.Entry ⊕ Config) := do
  match argument.filter (· != "") with
  | none => pure (.inr (Config.ofEnvironment environment))
  | some argument =>
    let path := Path.ofString argument
    if !(← ofFiles (files.isThere path)) then
      pure (.inl (Console.error ("Config file not found: " ++ path.toString)))
    else
      match Config.load files path with
      | .ok config => pure (.inr config)
      | .error failure =>
        if isAboutConfig failure then
          pure (.inl (Console.errorBeforeDetail ("Invalid config " ++ path.toString)))
        else .error failure

/-- The record of a definition file. -/
def definedRecord (config : Config) (files : FileTree) (path : Path) : Except Failure Record := do
  Definition.read config files path (← ofFiles (files.read path))

/-- Items with commas between them, or a dash when that is nothing. -/
def listed (items : List String) : String :=
  let shown := Text.join ", " items
  if shown = "" then "-" else shown

/-- What is shown at the end of a run. -/
def report (r : Record) (paths : List Path) (dryRun : Bool) : List Console.Entry :=
  let heading := if dryRun then "Files that would be created:" else "Files created:"
  let count := toString paths.length
  let closing :=
    if dryRun then "Dry run complete, nothing written."
    else "Scaffolded " ++ r.entityName ++ " (" ++ count ++ " files)."
  [Console.blankLine, .line heading] ++ (paths.map fun path => .line ("  " ++ path.toString)) ++
    [Console.blankLine] ++
    Console.summary "appgen"
      [("Entity", r.qualifiedName .entity), ("Properties", listed r.propertyNames),
        ("Events", listed r.events), ("Traits", listed (r.traits.map (·.1))),
        ("Artifacts", count)] ++
    [Console.success closing]

/-- Write the files of a record, or only find out where they would go. -/
def emit (config : Config) (r : Record) (dryRun : Bool) : Dialogue (List Path) := do
  if dryRun then
    pure ((← result (Scaffold.render config r)).map (·.path))
  else
    let session ← get
    let (files, outcome) := Scaffold.generate config r session.files
    set { session with files }
    result outcome

/-- Show what is wrong with an input that is turned down, and end with exit code 1. -/
def guarded (run : Dialogue Nat) : Dialogue Nat :=
  tryCatch run fun
    | .rejected r => do tell (Console.rejection r); pure 1
    | failure => throw failure

/-- Scaffold the entity of a definition file, or else the one that a person describes. -/
def scaffold (config : Config) (definition : Option String) (dryRun : Bool) : Dialogue Nat := do
  let r ←
    match definition with
    | some path => result (definedRecord config (← get).files (Path.ofString path))
    | none => askRecord config
  if r.properties.isEmpty then
    tell (Console.warning (r.entityName ++ " has no properties besides its id."))
  let paths ← emit config r dryRun
  (report r paths dryRun).forM tell
  pure 0

/-- The definition file that is named and not there. -/
def missing (files : FileTree) (definition : Option String) : Except Failure (Option String) := do
  match definition with
  | some path => pure (if ← ofFiles (files.isThere (Path.ofString path)) then none else some path)
  | none => pure none

/-- Run with options; the exit code. -/
def runOptions (environment : List (String × String)) (options : Options) : Dialogue Nat := do
  let files := (← get).files
  match ← result (configOf files environment options.config) with
  | .inl entry =>
    tell entry
    pure 1
  | .inr config =>
    let definition := options.definition.filter (· != "")
    match ← result (missing files definition) with
    | some path =>
      tell (Console.error ("Definition file not found: " ++ path))
      pure 1
    | none => guarded (scaffold config definition options.dryRun)

/-- The texts of a definition file, among which its type expressions are. -/
def definitionTexts (files : FileTree) (path : Path) : List String :=
  match files.read path with
  | .ok content =>
    match (Document.Format.ofPath path).read content with
    | .ok value => value.texts
    | .error _ => []
  | .error _ => []

/-- The text of an answer. -/
def replyText? : Reply → Option String
  | .text s => some s
  | _ => none

/-- The files of classes that a run may look at, given the files that its options name. -/
def classPlaces (environment : List (String × String)) (options : Options) (session : Session) :
    List Path :=
  match configOf session.files environment options.config with
  | .ok (.inr config) =>
    let texts :=
      match options.definition.filter (· != "") with
      | some path => definitionTexts session.files (Path.ofString path)
      | none => session.replies.filterMap replyText?
    texts.flatMap (TypeReader.ofConfig config [] session.files).places
  | _ => []

/-- Run with arguments; the exit code. -/
def run (arguments : List String) (environment : List (String × String)) : Dialogue Nat :=
  match Request.ofArguments arguments with
  | .help => pure 0
  | .unclear => pure 2
  | .run options => runOptions environment options

end EntityScaffold.CommandLine
