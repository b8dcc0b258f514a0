import EntityScaffold.Document.Yaml.Token
/-!
# Nodes of a YAML text

The tree that the tokens of a YAML text describe: scalars as they stand, lists, and mappings whose keys may be
nodes of any kind.  Something that is left out, such as the value after a colon or the item after a hyphen, is
a plain scalar without text.  The recursion over nested nodes is bounded by the number of tokens.

Reading stops at a token that cannot stand where it stands, or where no token is left; `Stop` tells which.
-/

namespace EntityScaffold.Document.Yaml

/-- A node. -/
inductive Node where
  /-- A scalar, and whether it stands without quotes. -/
  | scalar (text : String) (plain : Bool)
  | list (items : List Node)
  | mapping (entries : List (Node × Node))
  deriving Inhabited

/-- Why no node could be read. -/
inductive Stop where
  /-- A token cannot stand where it stands. -/
  | unexpected
  /-- More tokens are needed. -/
  | exhausted
  deriving DecidableEq, Repr, Inhabited

/-- Stop before some tokens. -/
def stopBefore {α : Type} (ts : List Token) : Except Stop α :=
  .error (if ts.isEmpty then .exhausted else .unexpected)

namespace Node

/-- What is left out. -/
def absent : Node := .scalar "" true

/-- The tokens that may follow a hyphen whose item is left out. -/
def endsItem : Token → Bool
  | .blockEntry | .blockEnd => true
  | _ => false

/-- The tokens that may follow a hyphen whose item is left out, when the list is not indented more than the
mapping around it. -/
def endsLooseItem : Token → Bool
  | .blockEntry | .key | .value | .blockEnd => true
  | _ => false

/-- The tokens that may follow a key or value that is left out in a block mapping. -/
def endsPart : Token → Bool
  | .key | .value | .blockEnd => true
  | _ => false

/-- The tokens that may follow a key that is left out between brackets or braces. -/
def endsFlowKey (closing : Token) (t : Token) : Bool := t == .value || t == .flowEntry || t == closing

/-- The tokens that may follow a value that is left out between brackets or braces. -/
def endsFlowValue (closing : Token) (t : Token) : Bool := t == .flowEntry || t == closing

/-- Whether the next token satisfies a test. -/
def nextIs (test : Token → Bool) (ts : List Token) : Bool := ts.head?.any test

/-- What the entry of a list or mapping between brackets or braces begins with: the tokens of the entry, or
nothing when the closing token follows. -/
def enterFlow (closing : Token) (first : Bool) (ts : List Token) :
    Except Stop (Option (List Token)) :=
  if nextIs (· == closing) ts then .ok none
  else if first then .ok (some ts)
  else
    match ts with
    | .flowEntry :: rest => .ok (if nextIs (· == closing) rest then none else some rest)
    | ts => stopBefore ts

mutual

/-- Read a node.  Block collections are read only where `block` allows them, and a list that is not indented
more than the mapping around it only where `loose` does. -/
def read : (fuel : Nat) → (block loose : Bool) → List Token → Except Stop (Node × List Token)
  | 0, _, _, _ => .error .unexpected
  | fuel + 1, block, loose, ts =>
    match ts with
    | .scalar text plain :: rest => .ok (.scalar text plain, rest)
    | .flowListStart :: rest =>
      (readFlowItems fuel true rest).map fun (items, rest) => (.list items, rest)
    | .flowMappingStart :: rest =>
      (readFlowEntries fuel true rest).map fun (entries, rest) => (.mapping entries, rest)
    | .blockListStart :: rest =>
      if block then (readItems fuel rest).map fun (items, rest) => (.list items, rest)
      else .error .unexpected
    | .blockMappingStart :: rest =>
      if block then (readEntries fuel rest).map fun (entries, rest) => (.mapping entries, rest)
      else .error .unexpected
    | .blockEntry :: rest =>
      if loose then
        (readLooseItems fuel (.blockEntry :: rest)).map fun (items, rest) => (.list items, rest)
      else .error .unexpected
    | ts => stopBefore ts

/-- Read a part that may be left out. -/
def readPart (fuel : Nat) (block loose : Bool) (isEnd : Token → Bool) (ts : List Token) :
    Except Stop (Node × List Token) :=
  match fuel with
  | 0 => .error .unexpected
  | fuel + 1 => if nextIs isEnd ts then .ok (absent, ts) else read fuel block loose ts

/-- Read the value of a key, if a value follows. -/
def readValue (fuel : Nat) (block : Bool) (isEnd : Token → Bool) (ts : List Token) :
    Except Stop (Node × List Token) :=
  match fuel with
  | 0 => .error .unexpected
  | fuel + 1 =>
    match ts with
    | .value :: rest => readPart fuel block block isEnd rest
    | ts => .ok (absent, ts)

/-- Read the items of a block list up to its end. -/
def readItems : (fuel : Nat) → List Token → Except Stop (List Node × List Token)
  | 0, _ => .error .unexpected
  | fuel + 1, ts =>
    match ts with
    | .blockEnd :: rest => .ok ([], rest)
    | .blockEntry :: rest => do
      let (item, rest) ← readPart fuel true false endsItem rest
      let (items, rest) ← readItems fuel rest
      pure (item :: items, rest)
    | ts => stopBefore ts

/-- Read the items of a list that is not indented more than the mapping around it. -/
def readLooseItems : (fuel : Nat) → List Token → Except Stop (List Node × List Token)
  | 0, _ => .error .unexpected
  | fuel + 1, ts =>
    match ts with
    | .blockEntry :: rest => do
      let (item, rest) ← readPart fuel true false endsLooseItem rest
      let (items, rest) ← readLooseItems fuel rest
      pure (item :: items, rest)
    | ts => .ok ([], ts)

/-- Read the entries of a block mapping up to its end. -/
def readEntries : (fuel : Nat) → List Token → Except Stop (List (Node × Node) × List Token)
  | 0, _ => .error .unexpected
  | fuel + 1, ts =>
    match ts with
    | .blockEnd :: rest => .ok ([], rest)
    | .key :: rest => do
      let (key, rest) ← readPart fuel true true endsPart rest
      let (value, rest) ← readValue fuel true endsPart rest
      let (entries, rest) ← readEntries fuel rest
      pure ((key, value) :: entries, rest)
    | ts => stopBefore ts

/-- Read the items between brackets.  A key with its value is an item that is a mapping of one entry. -/
def readFlowItems : (fuel : Nat) → (first : Bool) → List Token → Except Stop (List Node × List Token)
  | 0, _, _ => .error .unexpected
  | fuel + 1, first, ts => do
    match ← enterFlow .flowListEnd first ts with
    | none => pure ([], ts.drop (if nextIs (· == .flowListEnd) ts then 1 else 2))
    | some (.key :: rest) =>
      let (key, rest) ← readPart fuel false false (endsFlowKey .flowListEnd) rest
      let (value, rest) ← readValue fuel false (endsFlowValue .flowListEnd) rest
      let (items, rest) ← readFlowItems fuel false rest
      pure (.mapping [(key, value)] :: items, rest)
    | some ts =>
      let (item, rest) ← read fuel false false ts
      let (items, rest) ← readFlowItems fuel false rest
      pure (item :: items, rest)

/-- Read the entries between braces.  An entry without a colon has no value. -/
def readFlowEntries :
    (fuel : Nat) → (first : Bool) → List Token → Except Stop (List (Node × Node) × List Token)
  | 0, _, _ => .error .unexpected
  | fuel + 1, first, ts => do
    match ← enterFlow .flowMappingEnd first ts with
    | none => pure ([], ts.drop (if nextIs (· == .flowMappingEnd) ts then 1 else 2))
    | some (.key :: rest) =>
      let (key, rest) ← readPart fuel false false (endsFlowKey .flowMappingEnd) rest
      let (value, rest) ← readValue fuel false (endsFlowValue .flowMappingEnd) rest
      let (entries, rest) ← readFlowEntries fuel false rest
      pure ((key, value) :: entries, rest)
    | some ts =>
      let (key, rest) ← read fuel false false ts
      let (entries, rest) ← readFlowEntries fuel false rest
      pure ((key, absent) :: entries, rest)

end

/-- Whether nothing but ends of the document follows. -/
def isOver (ts : List Token) : Bool := ts.all (· == .documentEnd)

/-- The node of a document that begins with these tokens and is the last of the text. -/
def ofBody (ts : List Token) : Except Stop Node := do
  let (node, rest) ← read (4 * ts.length + 4) true false ts
  if isOver rest then pure node else .error .unexpected

/-- The node of a text with one document at most. -/
def ofTokens (ts : List Token) : Except Stop Node :=
  match ts with
  | [] => .ok absent
  | .documentStart :: rest => if isOver rest then .ok absent else ofBody rest
  | ts => ofBody ts

end Node

end EntityScaffold.Document.Yaml
