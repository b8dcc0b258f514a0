import EntityScaffold.Document.Value
import EntityScaffold.Failure
import EntityScaffold.Keyed
/-!
# What is shown and asked

A run shows lines and tables and asks questions; an `Entry` is one of them, and a run's log is the list of
its entries.  Messages are marked up: `[bold red]` and `[/bold red]` stand around what they apply to.  A text
that is put between such tags is escaped first, so that nothing in it is taken for a tag; `Console.unmarked`
takes the tags out again.
-/

namespace EntityScaffold

/-- A question, with the answer that is meant when none is given. -/
inductive Question where
  /-- A question for a text. -/
  | text (prompt : String) (default : Option String)
  /-- A question for yes or no. -/
  | truth (prompt : String) (default : Bool)
  deriving DecidableEq, Repr, Inhabited

/-- An answer to a question. -/
inductive Reply where
  | text (s : String)
  | truth (b : Bool)
  /-- Whatever the question offers. -/
  | default
  deriving DecidableEq, Repr, Inhabited

/-- The text of an answer to a question that may offer one.  No is the empty text, and yes is none. -/
def Reply.asText (offered : Option String) : Reply → Except Failure String
  | .text s => .ok s
  | .truth true => .error .notText
  | .truth false => .ok ""
  | .default => .ok (offered.getD "")

/-- An answer as a value of a document, where the question offers one. -/
def Reply.asValue (offered : Document.Value) : Reply → Document.Value
  | .text s => .text s
  | .truth b => .bool b
  | .default => offered

/-- The truth value of an answer; every text but the empty one means yes. -/
def Reply.asTruth (offered : Bool) : Reply → Bool
  | .text s => s != ""
  | .truth b => b
  | .default => offered

namespace Console

/-- Something that is shown or asked. -/
inductive Entry where
  /-- A line as it stands. -/
  | line (text : String)
  /-- A line with tags. -/
  | marked (markup : String)
  /-- A table with two columns. -/
  | table (title : String) (rows : List (String × String))
  | asked (question : Question)
  deriving DecidableEq, Repr, Inhabited

/-- Whether a tag can begin with a character. -/
def opensTag (c : Char) : Bool := ('a' ≤ c && c ≤ 'z') || c == '#' || c == '/' || c == '@'

/-- Whether what follows an opening bracket makes a tag of it: it begins like one, and the next bracket
after that closes it. -/
def isTag : List Char → Bool
  | [] => false
  | c :: rest => opensTag c && (rest.dropWhile fun d => d != '[' && d != ']').head? == some ']'

/-- Escape the opening brackets of tags by a backslash.  The backslashes before such a bracket, of which
`slashes` were seen, are doubled. -/
def escapeTags (slashes : Nat) : List Char → List Char
  | [] => List.replicate slashes '\\'
  | c :: rest =>
    if c = '\\' then escapeTags (slashes + 1) rest
    else
      let before := if c = '[' && isTag rest then 2 * slashes + 1 else slashes
      List.replicate before '\\' ++ c :: escapeTags 0 rest

/-- Double a lone backslash at the end, which would escape the bracket that comes next. -/
def sealEnd (cs : List Char) : List Char :=
  match cs.reverse with
  | '\\' :: '\\' :: _ => cs
  | '\\' :: _ => cs ++ ['\\']
  | _ => cs

/-- A text with tags as it is seen: tags are taken out, and the backslashes that escape brackets.  `inTag`
says whether a tag is open, and `slashes` counts the backslashes just seen. -/
def unmarkedFrom (inTag : Bool) (slashes : Nat) : List Char → List Char
  | [] => if inTag then [] else List.replicate slashes '\\'
  | c :: rest =>
    if inTag then unmarkedFrom (c != ']') 0 rest
    else if c = '\\' then unmarkedFrom false (slashes + 1) rest
    else if c = '[' && isTag rest then
      List.replicate (slashes / 2) '\\' ++
        if slashes % 2 = 1 then c :: unmarkedFrom false 0 rest else unmarkedFrom true 0 rest
    else List.replicate slashes '\\' ++ c :: unmarkedFrom false 0 rest

/-- A text with tags as it is seen. -/
def unmarked (markup : String) : String := Text.through (unmarkedFrom false 0) markup

/-- A text between the tags of a style. -/
def styled (style : String) (markup : List Char) : Entry :=
  .marked ("[" ++ style ++ "]" ++ String.ofList markup ++ "[/" ++ style ++ "]")

/-- A message in a style. -/
def message (style text : String) : Entry := styled style (sealEnd (escapeTags 0 text.toList))

/-- Say that something is done. -/
def success (text : String) : Entry := message "bold green" text

/-- Say that something is wrong. -/
def error (text : String) : Entry := message "bold red" text

/-- Say that something is wrong, where a detail would follow the text. -/
def errorBeforeDetail (text : String) : Entry := styled "bold red" (escapeTags 0 text.toList)

/-- Say that something may not be meant. -/
def warning (text : String) : Entry := message "bold yellow" text

/-- Say why an input is turned down. -/
def rejection : Rejection → Entry
  | .definition fault =>
    if fault.hasDetail then errorBeforeDetail fault.message else error fault.message
  | other => error other.message

/-- An empty line. -/
def blankLine : Entry := .line ""

/-- A table of names and values, and an empty line; the last value of a name counts. -/
def summary (title : String) (rows : List (String × String)) : List Entry :=
  [.table title (Keyed.ofWrites rows), blankLine]

/-- The title of a table that has no other. -/
def defaultTitle : String := "Summary"

end Console

end EntityScaffold
