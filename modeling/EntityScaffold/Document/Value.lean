import EntityScaffold.Decimal.Binary
/-!
# Document values

What a document in a data format says: scalars, lists, and mappings in the order in which they were
written.  Mapping keys are scalars, because some formats allow more than texts there.  A mapping holds
each key once: writing to a key that is there already keeps its place and replaces its value.

Scalars are numbers of unlimited size, floating-point numbers, texts, truth values, calendar dates and
null.  Two keys are the same when they are equal as values, where the whole number one, the floating-point
number one and `true` count as equal, as do zero and `false`, and what is no number is the same as itself.
-/

namespace EntityScaffold.Document

/-- A value without parts. -/
inductive Scalar where
  | null
  | bool (b : Bool)
  | int (n : Int)
  | float (x : Float)
  | text (s : String)
  | date (year month day : Nat)
  deriving Inhabited

/-- A value of a document. -/
inductive Value where
  | scalar (s : Scalar)
  | list (items : List Value)
  | mapping (entries : List (Scalar × Value))
  deriving Inhabited

namespace Value

/-- The absent value. -/
@[match_pattern] abbrev null : Value := .scalar .null

/-- A text value. -/
@[match_pattern] abbrev text (s : String) : Value := .scalar (.text s)

/-- A truth value. -/
@[match_pattern] abbrev bool (b : Bool) : Value := .scalar (.bool b)

/-- A whole number. -/
@[match_pattern] abbrev int (n : Int) : Value := .scalar (.int n)

/-- A floating-point number. -/
@[match_pattern] abbrev float (x : Float) : Value := .scalar (.float x)

/-- A list of texts. -/
def ofTexts (items : List String) : Value := .list (items.map .text)

end Value

/-- The number a scalar stands for among keys. -/
def Scalar.number? : Scalar → Option (Int ⊕ Float)
  | .bool b => some (.inl (if b then 1 else 0))
  | .int n => some (.inl n)
  | .float x => some (.inr x)
  | _ => none

/-- Whether two scalars are the same key. -/
def Scalar.sameKey (a b : Scalar) : Bool :=
  match a, b with
  | .null, .null => true
  | .text s, .text t => s == t
  | .date y m d, .date y' m' d' => y == y' && m == m' && d == d'
  | a, b =>
    match a.number?, b.number? with
    | some (.inl m), some (.inl n) => m == n
    | some (.inr x), some (.inr y) => x == y || (x.isNaN && y.isNaN)
    | some (.inl n), some (.inr x) => Decimal.whole? x == some n
    | some (.inr x), some (.inl n) => Decimal.whole? x == some n
    | _, _ => false

/-- Write a value to a key of a mapping. -/
def put (key : Scalar) (value : Value) : List (Scalar × Value) → List (Scalar × Value)
  | [] => [(key, value)]
  | (k, v) :: rest => if k.sameKey key then (k, value) :: rest else (k, v) :: put key value rest

/-- The mapping that a sequence of writes builds. -/
def putAll (writes : List (Scalar × Value)) : List (Scalar × Value) :=
  writes.foldl (fun entries (key, value) => put key value entries) []

/-- The value under a text key. -/
def find? (entries : List (Scalar × Value)) (key : String) : Option Value :=
  entries.findSome? fun (k, v) =>
    match k with
    | .text s => if s == key then some v else none
    | _ => none

/-- Whether a value counts as absent: null, false, zero, or empty. -/
def Value.isVoid : Value → Bool
  | .scalar .null => true
  | .scalar (.bool b) => !b
  | .scalar (.int n) => n == 0
  | .scalar (.float x) => x == 0
  | .scalar (.text s) => s.isEmpty
  | .scalar (.date ..) => false
  | .list items => items.isEmpty
  | .mapping entries => entries.isEmpty

mutual

/-- The texts in a value, keys not counted. -/
def Value.texts : Value → List String
  | .scalar (.text s) => [s]
  | .scalar _ => []
  | .list items => textsOfItems items
  | .mapping entries => textsOfEntries entries

/-- The texts in the items of a list. -/
def textsOfItems : List Value → List String
  | [] => []
  | v :: rest => v.texts ++ textsOfItems rest

/-- The texts in the entries of a mapping. -/
def textsOfEntries : List (Scalar × Value) → List String
  | [] => []
  | (_, v) :: rest => v.texts ++ textsOfEntries rest

end

end EntityScaffold.Document
