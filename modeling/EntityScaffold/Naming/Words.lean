import EntityScaffold.Text.Blank
import EntityScaffold.Text.Case
/-!
# Compound words

Names are compounds of words.  `pascal` writes a compound with a capital at the start of each word,
`snake` in lower case with underscores at the breaks between words, and `plural` forms the usual English
plural.
-/

namespace EntityScaffold.Naming

open Text

/-- A character that separates the words of a compound. -/
def isJoint (c : Char) : Bool := c == '-' || c == '_' || isBlank c

/-- `password_reset` and `password-reset` become `PasswordReset`; inner capitals stay. -/
def pascal (s : String) : String :=
  through (fun cs => (cs.splitOnP isJoint).flatMap capitalizeChars) s

/-- An ASCII capital. -/
def isCapital (c : Char) : Bool := 'A' ≤ c && c ≤ 'Z'

/-- An ASCII small letter. -/
def isSmall (c : Char) : Bool := 'a' ≤ c && c ≤ 'z'

/-- An ASCII digit. -/
def isFigure (c : Char) : Bool := '0' ≤ c && c ≤ '9'

theorem length_dropWhile_le (p : Char → Bool) (cs : List Char) :
    (cs.dropWhile p).length ≤ cs.length :=
  (List.dropWhile_sublist p).length_le

/-- An underscore before each capital that is followed by small letters, except at the start of a line;
what precedes the capital must not itself be part of the word found before. -/
def breakBeforeWords : List Char → List Char
  | [] => []
  | [c] => [c]
  | c :: u :: rest =>
    if c != '\n' && isCapital u && (rest.head?.any isSmall) then
      c :: '_' :: u :: rest.takeWhile isSmall ++ breakBeforeWords (rest.dropWhile isSmall)
    else c :: breakBeforeWords (u :: rest)
termination_by cs => cs.length
decreasing_by
  · have := length_dropWhile_le isSmall rest
    simp; omega
  · simp

/-- An underscore between a small letter or digit and the capital after it. -/
def breakBeforeCapitals : List Char → List Char
  | [] => []
  | [c] => [c]
  | c :: u :: rest =>
    if (isSmall c || isFigure c) && isCapital u then c :: '_' :: u :: breakBeforeCapitals rest
    else c :: breakBeforeCapitals (u :: rest)
termination_by cs => cs.length

/-- Each run of hyphens and blanks becomes one underscore. -/
def joinWords (inGap : Bool) : List Char → List Char
  | [] => []
  | c :: rest =>
    if c == '-' || isBlank c then
      if inGap then joinWords true rest else '_' :: joinWords true rest
    else c :: joinWords false rest

/-- `BlogPost` and `blogPost` become `blog_post`. -/
def snake (s : String) : String :=
  through
    (fun cs => lowerAfter [] (joinWords false (breakBeforeCapitals (breakBeforeWords cs)))) s

/-- The endings after which an English plural takes `es`. -/
def sibilants : List String := ["s", "sh", "ch", "x", "z"]

/-- Whether a lower-cased character is one of the vowels `a`, `e`, `i`, `o`, `u`. -/
def isVowel (cs : List Char) : Bool :=
  match cs with
  | [c] => c == 'a' || c == 'e' || c == 'i' || c == 'o' || c == 'u'
  | _ => false

/-- The usual English plural: `user` becomes `users`, `category` `categories`, `box` `boxes`. -/
def pluralChars (cs : List Char) : List Char :=
  match cs.reverse with
  | 'y' :: before :: rest =>
    if isVowel (lowerChar before) then cs ++ ['s'] else (before :: rest).reverse ++ ['i', 'e', 's']
  | _ =>
    if sibilants.any fun ending => ending.toList.isSuffixOf cs then cs ++ ['e', 's'] else cs ++ ['s']

/-- The usual English plural of a word. -/
def plural (word : String) : String := through pluralChars word

end EntityScaffold.Naming
