import EntityScaffold.CommandLine
/-!
# The program

The outer layer of the command: it brings the files that a run may look at into a `FileTree`, lets
`CommandLine.run` decide what happens, shows the log, and writes the files that are new.  A run that has no
answer left is started again with one answer more, and only what is new in its log is shown.
-/

namespace EntityScaffold.Main

open CommandLine

/-- The environment variables that a configuration can come from. -/
def settingNames : List String :=
  ["APPGEN_APP_DIR", "APPGEN_FILE_EXTENSION", "APPGEN_ID_TYPE", "APPGEN_NAMESPACES"]

/-- Those of them that are set. -/
def environment : IO (List (String × String)) :=
  settingNames.filterMapM fun name => do pure ((← IO.getEnv name).map (name, ·))

/-- Bring a file into the tree, if it can be read. -/
def load (files : FileTree) (path : Path) : IO FileTree := do
  try
    let content ← IO.FS.readFile path.toString
    pure (files.write path content).1
  catch _ => pure files

/-- The files that options name. -/
def namedFiles (options : Options) : List Path :=
  (options.config.toList ++ options.definition.toList).map .ofString

/-- A table, its columns one below the other. -/
def showTable (title : String) (rows : List (String × String)) : IO Unit := do
  IO.println title
  for (name, value) in rows do
    IO.println ("  " ++ name ++ ": " ++ value)

/-- Show an entry of the log. -/
def showEntry : Console.Entry → IO Unit
  | .line text => IO.println text
  | .marked markup => IO.println (Console.unmarked markup)
  | .table title rows => showTable title rows
  | .asked (.text prompt offered) => IO.print (prompt ++ (offered.filter (· != "")).elim "" (" (" ++ · ++ ")") ++ ": ")
  | .asked (.truth prompt offered) =>
    IO.print (prompt ++ " [y/n] (" ++ (if offered then "y" else "n") ++ "): ")

/-- A line as an answer to the last question.  An empty line is none, and a question for a truth value takes
no other texts than `y` and `n`. -/
def replyTo (log : List Console.Entry) (line : String) : Option Reply :=
  let text := Text.trim line
  if text = "" then some .default
  else
    match log.getLast? with
    | some (.asked (.truth ..)) =>
      if text = "y" then some (.truth true) else if text = "n" then some (.truth false) else none
    | _ => some (.text text)

/-- Ask for a line until it answers the last question; none when there is no line left. -/
partial def ask (log : List Console.Entry) : IO (Option Reply) := do
  let line ← (← IO.getStdin).getLine
  if line.isEmpty then pure none
  else
    match replyTo log line with
    | some reply => pure (some reply)
    | none =>
      IO.println "Please enter Y or N"
      ask log

/-- The text of a place in the tree. -/
def placeText (place : List String) : String := "/" ++ Text.join "/" place

/-- Write the files that a run has changed. -/
def writeFiles (before after : FileTree) : IO Unit := do
  for (place, node) in after.nodes do
    if before.node? place != some node then
      match node with
      | .directory => IO.FS.createDirAll (placeText place)
      | .file content => IO.FS.writeFile (placeText place) content

/-- What is said about a failure that is not the person's to mend. -/
def describe (failure : Failure) : String := "failed: " ++ reprStr failure

/-- Run with the answers given so far, of which the log up to `shown` is known already. -/
partial def runWith (arguments : List String) (environment : List (String × String))
    (options : Options) (files : FileTree) (replies : List Reply) (shown : Nat) : IO UInt32 := do
  let given : Session := ⟨replies, [], files⟩
  let files ← (classPlaces environment options given).foldlM load files
  let (outcome, session) := (CommandLine.run arguments environment).run.run ⟨replies, [], files⟩
  (session.log.drop shown).forM showEntry
  (← IO.getStdout).flush
  match outcome with
  | .ok code =>
    writeFiles files session.files
    pure code.toUInt32
  | .error .noAnswer =>
    match ← ask session.log with
    | some reply =>
      runWith arguments environment options files (replies ++ [reply]) session.log.length
    | none => pure 1
  | .error failure =>
    writeFiles files session.files
    IO.eprintln (describe failure)
    pure 1

/-- The directories of the working directory. -/
def home : IO (List String) := do
  pure (Path.ofString (toString (← IO.currentDir))).components

/-- What is shown for help, and for arguments that cannot be understood. -/
def usage : String :=
  "usage: appgen [-h] [--config CONFIG] [--definition DEFINITION] [--dry-run]"

end EntityScaffold.Main

open EntityScaffold EntityScaffold.Main

/-- The command. -/
def main (arguments : List String) : IO UInt32 := do
  match CommandLine.Request.ofArguments arguments with
  | .help =>
    IO.println usage
    pure 0
  | .unclear =>
    IO.eprintln usage
    pure 2
  | .run options =>
    let files ← (namedFiles options).foldlM load (.empty (← home))
    runWith arguments (← environment) options files [] 0
