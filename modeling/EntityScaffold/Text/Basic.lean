/-!
# Text as characters

Everything in this library that looks inside a text does so on its list of characters; `String` is the
form in which texts are stored and shown.  `Text.through` carries a function on characters over to
strings, and its only law is that it shows the function's own result.

The cutting functions are the standard `List.splitOnP`, `List.takeWhile` and `List.dropWhile`; what is
added here is cutting from the end (`dropEndWhile`, `stripWhile`) and the pieces between separators as
strings (`pieces`), together with their inverse, joining.
-/

namespace EntityScaffold.Text

/-- Apply a function on characters to a string. -/
def through (f : List Char → List Char) (s : String) : String := String.ofList (f s.toList)

@[simp] theorem toList_through (f : List Char → List Char) (s : String) :
    (through f s).toList = f s.toList := by
  simp [through]

/-- What holds of every character of a text is decided along the text, not along all characters there are. -/
instance decidableForallMem (cs : List Char) (p : Char → Prop) [DecidablePred p] : Decidable (∀ c ∈ cs, p c) :=
  List.decidableBAll p cs

instance decidableExistsMem (cs : List Char) (p : Char → Prop) [DecidablePred p] : Decidable (∃ c ∈ cs, p c) :=
  List.decidableBEx p cs

/-- Drop the longest run at the end whose characters satisfy `p`. -/
def dropEndWhile (p : Char → Bool) (cs : List Char) : List Char :=
  (cs.reverse.dropWhile p).reverse

/-- Drop the longest such runs at both ends. -/
def stripWhile (p : Char → Bool) (cs : List Char) : List Char :=
  dropEndWhile p (cs.dropWhile p)

/-- The pieces of a string between the characters that satisfy `p`; always at least one. -/
def piecesBy (p : Char → Bool) (s : String) : List String :=
  (s.toList.splitOnP p).map String.ofList

/-- The pieces of a string between the separators `sep`; always at least one. -/
def pieces (sep : Char) (s : String) : List String := piecesBy (· == sep) s

/-- Join strings with a separator between neighbours. -/
def join (sep : String) : List String → String
  | [] => ""
  | [s] => s
  | s :: rest => s ++ sep ++ join sep rest

/-- The first item of a list of strings, each once, in order of first appearance; `seen` holds those
that came before. -/
def distinctFrom (seen : List String) : List String → List String
  | [] => []
  | s :: rest => if s ∈ seen then distinctFrom seen rest else s :: distinctFrom (s :: seen) rest

/-- Each string once, in order of first appearance. -/
def distinct (items : List String) : List String := distinctFrom [] items

/-- Split at the first separator, if there is one. -/
def cutAt? (sep : Char) (cs : List Char) : Option (List Char × List Char) :=
  match cs.dropWhile (· != sep) with
  | [] => none
  | _ :: rest => some (cs.takeWhile (· != sep), rest)

/-- Order of two texts by their code points. -/
def le (a b : String) : Bool := !(b < a)

/-- Sort texts by code point; equal texts keep their order. -/
def sorted (items : List String) : List String := items.mergeSort le

end EntityScaffold.Text
