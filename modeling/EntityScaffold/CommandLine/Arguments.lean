import EntityScaffold.Text.Basic
import EntityScaffold.Text.Digit
/-!
# Arguments

The arguments of the command line.  An option is given by its long name, by an unambiguous beginning of it,
or by its letter; its value follows as the next argument, after an equals sign, or right after the letter.
What follows `--` is never an option, and an option to which `--` is attached as its value has none.  There are
no arguments besides options and their values.  The letter for help takes no value; what is attached to it are
further letters.

The arguments are first sorted into `Word`s, each by itself, and then read from left to right.  Help is given
as soon as it is asked for; whether there is something left that is not understood is only seen at the end.
-/

namespace EntityScaffold.CommandLine

open Text

/-- The options. -/
inductive Flag where
  | help
  | config
  | definition
  | dryRun
  deriving DecidableEq, Repr, Inhabited

namespace Flag

/-- The options. -/
def all : List Flag := [.help, .config, .definition, .dryRun]

/-- The long name. -/
def long : Flag → String
  | .help => "--help"
  | .config => "--config"
  | .definition => "--definition"
  | .dryRun => "--dry-run"

/-- The letter. -/
def letter? : Flag → Option Char
  | .help => some 'h'
  | .config => some 'c'
  | .definition => some 'd'
  | .dryRun => none

/-- Whether a value belongs to the option. -/
def takesValue : Flag → Bool
  | .config | .definition => true
  | .help | .dryRun => false

/-- The option of a letter. -/
def ofLetter? (c : Char) : Option Flag := all.find? fun flag => flag.letter? == some c

/-- The options whose long name begins with some characters. -/
def beginningWith (cs : List Char) : List Flag :=
  all.filter fun flag => cs.isPrefixOf flag.long.toList

end Flag

/-- How a value stands in the argument of its option. -/
inductive Attached where
  | nothing
  /-- After the long name and an equals sign. -/
  | assigned (value : List Char)
  /-- After the letter, where an equals sign between them does not count. -/
  | joined (value : List Char)
  deriving DecidableEq, Repr, Inhabited

/-- An argument by itself. -/
inductive Word where
  /-- An argument that can be a value. -/
  | plain (value : String)
  /-- The mark after which there are no options. -/
  | separator
  | option (flag : Flag) (attached : Attached)
  /-- An option that does not exist. -/
  | unknown
  deriving DecidableEq, Repr, Inhabited

/-- Whether characters after a minus sign make a negative number. -/
def isNumber (cs : List Char) : Bool :=
  let (whole, rest) := cs.span isDigit
  match rest with
  | [] => !whole.isEmpty
  | ['\n'] => !whole.isEmpty
  | '.' :: fraction =>
    let (digits, rest) := fraction.span isDigit
    !digits.isEmpty && (rest == [] || rest == ['\n'])
  | _ => false

/-- What an argument is that begins with a minus sign and names no option. -/
def unnamed (argument : String) (rest : List Char) : Word :=
  if isNumber rest || argument.toList.contains ' ' then .plain argument else .unknown

/-- A name and what is assigned to it. -/
def assignment (cs : List Char) : List Char × Attached :=
  match cutAt? '=' cs with
  | some (name, value) => (name, .assigned value)
  | none => (cs, .nothing)

/-- The value after a letter. -/
def afterLetter : List Char → Attached
  | [] => .nothing
  | '=' :: value => .joined value
  | value => .joined value

/-- What an argument is; none if it may be short for several options. -/
def word? (argument : String) : Option Word :=
  match argument.toList with
  | '-' :: '-' :: rest =>
    let (name, attached) := assignment ('-' :: '-' :: rest)
    match Flag.all.find? (·.long.toList == name) with
    | some flag => some (.option flag attached)
    | none =>
      match Flag.beginningWith name with
      | [] => some (unnamed argument ('-' :: rest))
      | [flag] => some (.option flag attached)
      | _ => none
  | '-' :: c :: rest =>
    match Flag.ofLetter? c with
    | some flag => some (.option flag (afterLetter rest))
    | none => some (unnamed argument (c :: rest))
  | _ => some (.plain argument)

/-- What the arguments are, one by one. -/
def words? : List String → Option (List Word)
  | [] => some []
  | argument :: rest =>
    if argument = "--" then some (.separator :: rest.map .plain)
    else do
      let word ← word? argument
      pure (word :: (← words? rest))

/-- What the options ask for. -/
structure Options where
  config : Option String := none
  definition : Option String := none
  dryRun : Bool := false
  deriving DecidableEq, Repr, Inhabited

/-- What the arguments ask for. -/
inductive Request where
  | help
  | run (options : Options)
  /-- The arguments cannot be understood. -/
  | unclear
  deriving DecidableEq, Repr, Inhabited

/-- The options with another value for one of them, or without one. -/
def Options.withValue (options : Options) (value : Option String) : Flag → Options
  | .config => { options with config := value }
  | .definition => { options with definition := value }
  | .help | .dryRun => options

/-- The value that is attached to an option. -/
def attachedValue (value : List Char) : Option String :=
  if value = ['-', '-'] then none else some (String.ofList value)

/-- Whether the letters after the one for help are understood, where `next` comes after them: letters of
options, up to one that takes a value. -/
def understood (next : List Word) : List Char → Bool
  | [] => true
  | c :: rest =>
    match Flag.ofLetter? c with
    | none => false
    | some flag =>
      if flag.takesValue then
        !rest.isEmpty || (match next with | .plain _ :: _ => true | _ => false)
      else understood next rest

/-- Read words from left to right; `stray` says whether there was one that is not understood. -/
def readWords (options : Options) (stray : Bool) : List Word → Request
  | [] => if stray then .unclear else .run options
  | .option flag attached :: rest =>
    match flag, attached with
    | .help, .nothing => .help
    | .help, .joined letters =>
      if !letters.isEmpty && understood rest letters then .help else .unclear
    | .help, .assigned _ => .unclear
    | .dryRun, .nothing => readWords { options with dryRun := true } stray rest
    | .dryRun, _ => .unclear
    | flag, .assigned value | flag, .joined value =>
      readWords (options.withValue (attachedValue value) flag) stray rest
    | flag, .nothing =>
      match rest with
      | .plain value :: rest => readWords (options.withValue (some value) flag) stray rest
      | _ => .unclear
  | _ :: rest => readWords options true rest

/-- What the arguments ask for. -/
def Request.ofArguments (arguments : List String) : Request :=
  match words? arguments with
  | some words => readWords {} false words
  | none => .unclear

end EntityScaffold.CommandLine
