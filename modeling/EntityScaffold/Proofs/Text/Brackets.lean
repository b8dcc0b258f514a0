import EntityScaffold.Proofs.Naming.Words
import EntityScaffold.Proofs.Text.Characters
import EntityScaffold.Proofs.Text.Join
import EntityScaffold.Proofs.Text.Lines
/-!
# Balanced brackets

A text is read character by character with the closing brackets that are still wanted on a stack (`readChar`).  It is
balanced if nothing is closed that is not open, and nothing stays open.  What is wanted before a text does not matter
to a balanced one (`unclosed_append_stack`), so it can be put anywhere into another (`IsBalanced.insert`).

Characters that are no brackets are passed over, and it is enough to look at the brackets of a text
(`isBalanced_iff`).  In lines, a bracket and its partner may stand on different lines (`AreBalanced`), and what stands
between them is balanced on its own.
-/

namespace EntityScaffold.Text

/-- The pairs of brackets. -/
def bracketPairs : List (Char × Char) := [('(', ')'), ('[', ']'), ('\x7b', '\x7d')]

/-- The bracket that closes an opening one. -/
def closing? (c : Char) : Option Char := bracketPairs.lookup c

/-- Whether a character is a closing bracket. -/
def isClosing (c : Char) : Bool := (bracketPairs.map (·.2)).contains c

/-- Whether a character is a bracket. -/
def isBracket (c : Char) : Bool := (closing? c).isSome || isClosing c

/-- The closing brackets that are wanted after a character when some are wanted before it; `none` if the character
closes what is not open. -/
def readChar (wanted : List Char) (c : Char) : Option (List Char) :=
  match closing? c with
  | some close => some (close :: wanted)
  | none =>
    if isClosing c then
      match wanted with
      | first :: others => if first = c then some others else none
      | [] => none
    else some wanted

/-- The closing brackets that are wanted after some characters when some are wanted before them. -/
def unclosed (wanted cs : List Char) : Option (List Char) := cs.foldlM readChar wanted

/-- Every bracket among some characters has its partner. -/
def AreMatched (cs : List Char) : Prop := unclosed [] cs = some []

/-- Every bracket of a text has its partner. -/
def IsBalanced (s : String) : Prop := AreMatched s.toList

/-- A text without brackets. -/
def HasNoBrackets (s : String) : Prop := ∀ c ∈ s.toList, isBracket c = false

instance : DecidablePred IsBalanced := fun _ => inferInstanceAs (Decidable (_ = _))

instance : DecidablePred HasNoBrackets := fun _ => inferInstanceAs (Decidable (∀ _ ∈ _, _))

variable {cs ds wanted left : List Char} {s t : String}

lemma isBracket_iff {c : Char} : isBracket c = true ↔ c ∈ ['(', '[', '\x7b', ')', ']', '\x7d'] := by
  have hopening : (closing? c).isSome = true ↔ c ∈ bracketPairs.map (·.1) := by
    rw [closing?, Option.isSome_iff_ne_none, ne_eq, List.lookup_eq_none_iff]
    simp
  rw [isBracket, Bool.or_eq_true, hopening, isClosing, List.contains_iff_mem, ← List.mem_append]
  rfl

/-! ## Reading -/

/-- Brackets that were wanted before a character stay wanted after it, if it did not need them. -/
lemma readChar_append_stack {c : Char} (h : readChar wanted c = some left) (before : List Char) :
    readChar (wanted ++ before) c = some (left ++ before) := by
  unfold readChar at h ⊢
  cases hopen : closing? c with
  | some close =>
    rw [hopen] at h
    cases h
    rfl
  | none =>
    rw [hopen] at h
    cases hclose : isClosing c with
    | false =>
      rw [hclose] at h
      cases h
      rfl
    | true =>
      rw [hclose] at h
      cases wanted with
      | nil => cases h
      | cons first others =>
        by_cases hfirst : first = c
        · simp only [hfirst, if_true, Option.some.injEq] at h
          simp only [List.cons_append, hfirst, if_true, h]
        · simp only [hfirst, if_false, if_true, reduceCtorEq] at h

lemma readChar_of_isBracket_eq_false {c : Char} (h : isBracket c = false) (wanted : List Char) :
    readChar wanted c = some wanted := by
  obtain ⟨hopen, hclose⟩ := Bool.or_eq_false_iff.1 h
  unfold readChar
  rw [Option.isSome_eq_false_iff.1 hopen |> Option.isNone_iff_eq_none.1, hclose]
  rfl

lemma unclosed_append (wanted cs ds : List Char) :
    unclosed wanted (cs ++ ds) = (unclosed wanted cs).bind fun left => unclosed left ds := List.foldlM_append

theorem unclosed_append_stack (h : unclosed wanted cs = some left) (before : List Char) :
    unclosed (wanted ++ before) cs = some (left ++ before) := by
  induction cs generalizing wanted with
  | nil =>
    cases h
    rfl
  | cons c cs ih =>
    obtain ⟨next, hnext, hleft⟩ := Option.bind_eq_some_iff.1 h
    exact Option.bind_eq_some_iff.2 ⟨next ++ before, readChar_append_stack hnext before, ih hleft⟩

/-- Only brackets are read. -/
lemma unclosed_filter (wanted cs : List Char) : unclosed wanted (cs.filter isBracket) = unclosed wanted cs := by
  rw [unclosed, List.foldlM_filter, unclosed]
  congr 1
  funext wanted c
  split
  · rfl
  · exact (readChar_of_isBracket_eq_false (eq_false_of_ne_true ‹_›) wanted).symm

namespace AreMatched

lemma unclosed_eq (h : AreMatched cs) (wanted : List Char) : unclosed wanted cs = some wanted :=
  unclosed_append_stack h wanted

/-- Among characters that are matched, others can be put in anywhere. -/
theorem insert (before : List Char) {after : List Char} (h : AreMatched (before ++ after)) (hcs : AreMatched cs) :
    AreMatched (before ++ cs ++ after) := by
  rw [AreMatched, unclosed_append] at h
  obtain ⟨wanted, hbefore, hafter⟩ := Option.bind_eq_some_iff.1 h
  rw [AreMatched, unclosed_append, unclosed_append, hbefore, Option.bind_some, hcs.unclosed_eq]
  exact hafter

lemma append (hcs : AreMatched cs) (hds : AreMatched ds) : AreMatched (cs ++ ds) := insert [] hds hcs

end AreMatched

/-! ## Brackets of texts -/

/-- The brackets of a text. -/
def brackets (s : String) : List Char := s.toList.filter isBracket

@[simp] lemma brackets_append (s t : String) : brackets (s ++ t) = brackets s ++ brackets t := by
  rw [brackets, String.toList_append, List.filter_append, brackets, brackets]

theorem isBalanced_iff : IsBalanced s ↔ AreMatched (brackets s) := by
  rw [IsBalanced, AreMatched, AreMatched, brackets, unclosed_filter]

lemma brackets_eq_nil_iff : brackets s = [] ↔ HasNoBrackets s := by
  rw [brackets, List.filter_eq_nil_iff]
  exact forall₂_congr fun c _ => iff_of_eq (Bool.not_eq_true _)

namespace IsBalanced

lemma append (hs : IsBalanced s) (ht : IsBalanced t) : IsBalanced (s ++ t) := by
  rw [IsBalanced, String.toList_append]
  exact AreMatched.append hs ht

lemma ite {c : Prop} [Decidable c] (hs : IsBalanced s) (ht : IsBalanced t) : IsBalanced (if c then s else t) := by
  split
  · exact hs
  · exact ht

lemma of_hasNoBrackets (h : HasNoBrackets s) : IsBalanced s := by
  rw [isBalanced_iff, brackets_eq_nil_iff.2 h]
  rfl

lemma join {sep : String} {items : List String} (hsep : IsBalanced sep) (h : ∀ item ∈ items, IsBalanced item) :
    IsBalanced (join sep items) := by
  induction items with
  | nil => rfl
  | cons first more ih =>
    obtain ⟨hfirst, hmore⟩ := List.forall_mem_cons.1 h
    cases more with
    | nil => exact hfirst
    | cons second more =>
      rw [join_cons_cons]
      exact (hfirst.append hsep).append (ih hmore)

/-- Into a balanced text, another can be put anywhere. -/
theorem insert {before after : String} (h : IsBalanced (before ++ after)) (hs : IsBalanced s) :
    IsBalanced (before ++ s ++ after) := by
  rw [IsBalanced, String.toList_append] at h
  rw [IsBalanced, String.toList_append, String.toList_append]
  exact AreMatched.insert _ h hs

variable {left right : String}

/-- After a balanced text, two parts that are balanced together. -/
lemma append_pair (hs : IsBalanced s) (hpair : IsBalanced (left ++ right)) : IsBalanced (s ++ left ++ right) := by
  rw [String.append_assoc]
  exact hs.append hpair

/-- After a balanced text, another between brackets. -/
theorem enclose (hs : IsBalanced s) (hpair : IsBalanced (left ++ right)) (ht : IsBalanced t) :
    IsBalanced (s ++ left ++ t ++ right) :=
  (hs.append_pair hpair).insert ht

end IsBalanced

namespace HasNoBrackets

lemma of_subset (ht : HasNoBrackets t) (h : s.toList ⊆ t.toList) : HasNoBrackets s := fun c hc => ht c (h hc)

lemma of_hasIdentifierChars (h : HasIdentifierChars s) : HasNoBrackets s := fun c hc =>
  Naming.of_isIdentifierChar (P := fun c => isBracket c = false) (by decide) (h c hc)

end HasNoBrackets

/-! ## Lines -/

/-- Every bracket of some lines has its partner, on the same line or on another. -/
def AreBalanced (lines : List String) : Prop := IsBalanced (textOf lines)

variable {lines inner after : List String}

@[simp] lemma brackets_textOf_nil : brackets (textOf []) = [] := rfl

@[simp] lemma brackets_textOf_cons (line : String) (rest : List String) :
    brackets (textOf (line :: rest)) = brackets line ++ brackets (textOf rest) := by
  rw [textOf_cons, brackets_append, brackets_append]
  exact congrArg (· ++ _) (List.append_nil (brackets line))

lemma brackets_textOf_map {f : String → String} (hf : ∀ line, brackets (f line) = brackets line)
    (lines : List String) : brackets (textOf (lines.map f)) = brackets (textOf lines) := by
  induction lines with
  | nil => rfl
  | cons line rest ih => rw [List.map_cons, brackets_textOf_cons, brackets_textOf_cons, hf, ih]

/-- Two lines have the brackets of one. -/
lemma areBalanced_cons_cons_iff {first second : String} :
    AreBalanced (first :: second :: lines) ↔ AreBalanced ((first ++ second) :: lines) := by
  simp only [AreBalanced, isBalanced_iff, brackets_textOf_cons, brackets_append, List.append_assoc]

lemma areBalanced_singleton_iff {line : String} : AreBalanced [line] ↔ IsBalanced line := by
  simp only [AreBalanced, isBalanced_iff, brackets_textOf_cons, brackets_textOf_nil, List.append_nil]

namespace AreBalanced

theorem insert (before : List String) (h : AreBalanced (before ++ after)) (hinner : AreBalanced inner) :
    AreBalanced (before ++ inner ++ after) := by
  rw [AreBalanced, textOf_append] at h
  rw [AreBalanced, textOf_append, textOf_append]
  exact IsBalanced.insert h hinner

lemma append {before : List String} (hbefore : AreBalanced before) (hafter : AreBalanced after) :
    AreBalanced (before ++ after) :=
  insert [] hafter hbefore

lemma of_forall (h : ∀ line ∈ lines, IsBalanced line) : AreBalanced lines := by
  induction lines with
  | nil => rfl
  | cons line rest ih =>
    obtain ⟨hline, hrest⟩ := List.forall_mem_cons.1 h
    exact append (areBalanced_singleton_iff.2 hline) (ih hrest)

lemma flatMap {α : Type} {f : α → List String} {items : List α} (h : ∀ item ∈ items, AreBalanced (f item)) :
    AreBalanced (items.flatMap f) := by
  induction items with
  | nil => rfl
  | cons item items ih =>
    obtain ⟨hitem, hitems⟩ := List.forall_mem_cons.1 h
    rw [List.flatMap_cons]
    exact hitem.append (ih hitems)

/-- Lines between a line that opens a bracket and one that closes it. -/
theorem enclose {first last : String} (hends : IsBalanced (first ++ last)) (hinner : AreBalanced inner) :
    AreBalanced (first :: inner ++ [last]) :=
  insert [first] (areBalanced_cons_cons_iff.2 (areBalanced_singleton_iff.2 hends)) hinner

/-- Lines that are written with the same brackets. -/
theorem map {f : String → String} (hf : ∀ line, brackets (f line) = brackets line) (h : AreBalanced lines) :
    AreBalanced (lines.map f) := by
  rw [AreBalanced, isBalanced_iff] at h ⊢
  rwa [brackets_textOf_map hf]

end AreBalanced

/-! ## Blank-line normal form -/

namespace Lines

/-- The brackets of lines of characters. -/
def bracketsOf (lines : List (List Char)) : List Char := lines.flatMap (List.filter isBracket)

lemma bracketsOf_cons (line : List Char) (rest : List (List Char)) :
    bracketsOf (line :: rest) = line.filter isBracket ++ bracketsOf rest := List.flatMap_cons

lemma filter_print (lines : List (List Char)) : (print lines).filter isBracket = bracketsOf lines := by
  have hfeed (line : List Char) : (line ++ ['\n']).filter isBracket = line.filter isBracket := by
    rw [List.filter_append]
    exact List.append_nil _
  rw [print, List.filter_flatMap, bracketsOf]
  exact List.flatMap_congr fun line _ => hfeed line

/-- Cutting takes nothing away but line breaks. -/
lemma bracketsOf_cut (cs : List Char) : bracketsOf (cut cs) = cs.filter isBracket := by
  have hbreak {c : Char} (hc : isBracket c = false) (rest : List Char) :
      (c :: rest).filter isBracket = rest.filter isBracket := List.filter_cons_of_neg (ne_true_of_eq_false hc)
  have hempty (lines : List (List Char)) : bracketsOf ([] :: lines) = bracketsOf lines := bracketsOf_cons [] lines
  induction cs using cut.induct with
  | case1 => rfl
  | case2 rest ih => rw [cut, hempty, ih, hbreak (by decide), hbreak (by decide)]
  | case3 rest hfeed ih => rw [cut, hempty, ih, hbreak (by decide)]; exact hfeed
  | case4 rest ih => rw [cut, hempty, ih, hbreak (by decide)]
  | case5 c rest _ _ _ ih =>
    obtain ⟨line, more, hlines⟩ := List.exists_cons_of_ne_nil (cut_ne_nil rest)
    rw [cut]
    · have hfront (ds : List Char) : (c :: ds).filter isBracket = [c].filter isBracket ++ ds.filter isBracket :=
        List.filter_append [c] ds
      rw [hlines] at ih ⊢
      rw [List.modifyHead_cons, bracketsOf_cons, hfront line, hfront rest, ← ih, bracketsOf_cons, List.append_assoc]
    all_goals assumption

lemma filter_of_isBlankLine {line : List Char} (h : isBlankLine line = true) : line.filter isBracket = [] := by
  rw [List.filter_eq_nil_iff]
  intro c hc
  have hblank := List.all_eq_true.1 h c hc
  rw [Bool.or_eq_true, beq_iff_eq, beq_iff_eq] at hblank
  obtain rfl | rfl := hblank <;> decide

/-- Only blank lines are left out. -/
lemma bracketsOf_squeezeFrom (gap : Bool) (lines : List (List Char)) :
    bracketsOf (squeezeFrom gap lines) = bracketsOf lines := by
  induction lines generalizing gap with
  | nil => rfl
  | cons line rest ih =>
    rw [squeezeFrom, bracketsOf_cons]
    split
    · next hblank => rw [filter_of_isBlankLine hblank, ih, List.nil_append]
    · split
      · rw [bracketsOf_cons, bracketsOf_cons, ih, List.filter_nil, List.nil_append]
      · rw [bracketsOf_cons, ih]

lemma bracketsOf_dropWhile (lines : List (List Char)) :
    bracketsOf (lines.dropWhile isBlankLine) = bracketsOf lines := by
  induction lines with
  | nil => rfl
  | cons line rest ih =>
    rw [List.dropWhile_cons]
    split
    · next hblank => rw [ih, bracketsOf_cons, filter_of_isBlankLine hblank, List.nil_append]
    · rfl

/-- The normal form of a text has its brackets. -/
lemma brackets_normalize (s : String) : brackets (normalize s) = brackets s := by
  rw [brackets, normalize, toList_through, filter_print, squeeze, bracketsOf_squeezeFrom, bracketsOf_dropWhile,
    bracketsOf_cut, brackets]

end Lines

lemma IsBalanced.normalize (h : IsBalanced s) : IsBalanced (Lines.normalize s) := by
  rw [isBalanced_iff] at h ⊢
  rwa [Lines.brackets_normalize]

end EntityScaffold.Text
