import EntityScaffold.Document.Yaml.Value
/-!
# Reading YAML

A YAML text as a document value.  The text holds one document at most; an empty one is null.  A text is cut
into tokens, the tokens make a node, and the node has a value; what goes wrong first is reported.
-/

namespace EntityScaffold.Document.Yaml

/-- A text in which every line ends in a line feed where it ended in a carriage return before. -/
def unixLines : List Char → List Char
  | [] => []
  | '\r' :: '\n' :: rest => '\n' :: unixLines rest
  | '\r' :: rest => '\n' :: unixLines rest
  | c :: rest => c :: unixLines rest

/-- How deeply lists and mappings may be nested. -/
def mostNested : Nat := 490

/-- The tokens up to the first list or mapping that is nested in more than `depth` others, and whether there is
one. -/
def shallow (depth : Nat) : List Token → List Token × Bool
  | [] => ([], false)
  | t :: rest =>
    if t.isStart && depth = 0 then ([], true)
    else
      let (tokens, isCut) :=
        shallow (if t.isStart then depth - 1 else if t.isEnd then depth + 1 else depth) rest
      (t :: tokens, isCut)

/-- A scan that goes no deeper than lists and mappings may be nested. -/
def Scanned.shallow (scanned : Scanned) : Scanned :=
  let (tokens, isCut) := Yaml.shallow mostNested scanned.tokens
  if isCut then ⟨tokens, some .tooDeep⟩ else scanned

/-- The node of a text.  A text that cannot be cut into tokens up to its end is at fault there, unless a token
before cannot stand where it stands. -/
def nodeOf (scanned : Scanned) : Except Fault Node :=
  match Node.ofTokens scanned.tokens, scanned.fault with
  | .ok node, none => .ok node
  | .error .unexpected, _ => .error .unreadable
  | _, some fault => .error fault
  | .error .exhausted, none => .error .unreadable

/-- Read a text as one YAML value. -/
def read (s : String) : Except Fault Value := do
  let node ← nodeOf (Token.scan (unixLines s.toList)).shallow
  match node.value with
  | .ok value => pure value
  | .error m => .error m.fault

end EntityScaffold.Document.Yaml
