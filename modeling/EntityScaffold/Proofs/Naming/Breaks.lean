import EntityScaffold.Proofs.Naming.Words
import EntityScaffold.Proofs.Text.Join
/-!
# Breaks between the words of a table name

The name of a table is made of a compound (`compound`) in three passes.  The first puts an underscore before each word
that has small letters, except at the start of a line; the second puts one between a small letter and a capital, where
the first has none because it had just used up the word before; and the third makes one underscore of each run of
hyphens and blanks, and does not look at the underscores that are there.

So words that follow each other immediately get one underscore between them, whichever of the first two passes puts
it there (`breakBeforeCapitals_breakBeforeWords`).  Where something stands between two words, its last character is
what the first pass finds before the word, and the underscore comes in addition to it: the break is one underscore
only if that character ends a line (`Joint.IsSingle`), and two otherwise (`toList_snake_compound`).
-/

namespace EntityScaffold.Naming

open Text

/-- A word with a capital and small letters after it, all of ASCII. -/
structure CapitalWord where
  initial : Char
  small : List Char
  isCapital_initial : isCapital initial = true
  small_ne_nil : small ≠ []
  isSmall_of_mem : ∀ c ∈ small, isSmall c = true

/-- What stands between two words of a compound. -/
inductive Joint where
  | none
  | underscore
  | hyphen
  | blanks (cs : List Char) (hne : cs ≠ []) (hblank : ∀ c ∈ cs, isBlank c = true)

/-- The characters of a word. -/
def CapitalWord.chars (w : CapitalWord) : List Char := w.initial :: w.small

namespace Joint

/-- The characters of a joint. -/
def chars : Joint → List Char
  | none => []
  | underscore => ['_']
  | hyphen => ['-']
  | blanks cs .. => cs

/-- A joint that becomes one underscore: there is nothing, or blanks that end with the end of a line. -/
def IsSingle (j : Joint) : Prop := j.chars = [] ∨ j.chars.getLast? = some '\n'

instance : DecidablePred IsSingle := fun _ => inferInstanceAs (Decidable (_ ∨ _))

/-- What becomes of a joint in the end. -/
def gap (j : Joint) : List Char := if j.IsSingle then ['_'] else ['_', '_']

/-- What the first two passes make of a joint. -/
def broken (j : Joint) : List Char := if j.chars.getLast? = some '\n' then j.chars else j.chars ++ ['_']

end Joint

/-- Words after another word, each behind its joint. -/
def following (parts : List (Joint × CapitalWord)) : List Char := parts.flatMap fun part => part.1.chars ++ part.2.chars

/-- A compound of words, as it is written. -/
def compound (first : CapitalWord) (parts : List (Joint × CapitalWord)) : String :=
  String.ofList (first.chars ++ following parts)

variable {c d : Char} {cs rest : List Char} {w : CapitalWord} {j : Joint} {parts : List (Joint × CapitalWord)}

/-! ## Kinds of characters -/

lemma isIdentifierChar_of_isSmall (h : isSmall c = true) : isIdentifierChar c = true := by
  simp only [isSmall, Bool.and_eq_true, decide_eq_true_eq] at h
  simp [isIdentifierChar, isIdentifierStart, h.1, h.2]

lemma isIdentifierChar_of_isCapital (h : isCapital c = true) : isIdentifierChar c = true := by
  simp only [isCapital, Bool.and_eq_true, decide_eq_true_eq] at h
  simp [isIdentifierChar, isIdentifierStart, h.1, h.2]

lemma not_isCapital_of_isSmall (h : isSmall c = true) : isCapital c = false :=
  of_isIdentifierChar (P := fun c => isSmall c = true → isCapital c = false) (by decide)
    (isIdentifierChar_of_isSmall h) h

lemma not_isSmall_of_isCapital (h : isCapital c = true) : isSmall c = false ∧ isFigure c = false :=
  of_isIdentifierChar (P := fun c => isCapital c = true → isSmall c = false ∧ isFigure c = false) (by decide)
    (isIdentifierChar_of_isCapital h) h

lemma isIdentifierChar_of_mem_chars (hc : c ∈ w.chars) : isIdentifierChar c = true := by
  rcases List.mem_cons.1 hc with rfl | hc
  · exact isIdentifierChar_of_isCapital w.isCapital_initial
  · exact isIdentifierChar_of_isSmall (w.isSmall_of_mem c hc)

/-- A word ends with a small letter, and has no capital behind its first one. -/
lemma CapitalWord.exists_last (w : CapitalWord) : ∃ before last, isSmall last = true ∧
    (∀ rest, w.chars ++ rest = (w.initial :: before) ++ last :: rest) ∧
      ∀ b ∈ ((w.initial :: before) ++ [last]).tail, isCapital b = false := by
  have hsmall : w.small = w.small.dropLast ++ [w.small.getLast w.small_ne_nil] :=
    (List.dropLast_concat_getLast _).symm
  refine ⟨w.small.dropLast, w.small.getLast w.small_ne_nil, w.isSmall_of_mem _ (List.getLast_mem _), fun rest => ?_, ?_⟩
  · show w.initial :: (w.small ++ rest) = w.initial :: (w.small.dropLast ++ w.small.getLast w.small_ne_nil :: rest)
    rw [List.append_cons, ← hsmall]
  · show ∀ b ∈ w.small.dropLast ++ [w.small.getLast w.small_ne_nil], isCapital b = false
    rw [← hsmall]
    exact fun b hb => not_isCapital_of_isSmall (w.isSmall_of_mem b hb)

/-- Nothing in a joint is a letter or a figure. -/
lemma Joint.not_letter_of_mem (hc : c ∈ j.chars) :
    isCapital c = false ∧ isSmall c = false ∧ isFigure c = false := by
  cases j with
  | none => cases hc
  | underscore =>
    rw [List.mem_singleton.1 hc]
    decide
  | hyphen =>
    rw [List.mem_singleton.1 hc]
    decide
  | blanks cs hne hcs =>
    have hident : isIdentifierChar c = false := by
      rw [← Bool.not_eq_true]
      intro hident
      have hblank := hcs c hc
      rw [isBlank_of_isIdentifierChar hident] at hblank
      cases hblank
    simp only [isIdentifierChar, isIdentifierStart, Bool.or_eq_false_iff] at hident
    exact ⟨hident.1.1.1, hident.1.1.2, hident.2⟩

/-- A joint is nothing, or is broken behind its last character, if that does not end a line. -/
lemma Joint.broken_cases (j : Joint) : j.chars = [] ∧ j.broken = ['_'] ∨ ∃ before d,
    j.chars = before ++ [d] ∧ j.broken = before ++ d :: (if d = '\n' then [] else ['_']) := by
  rcases List.eq_nil_or_concat j.chars with hnil | ⟨before, d, hchars⟩
  · exact .inl ⟨hnil, by simp [broken, hnil]⟩
  · refine .inr ⟨before, d, by rw [hchars, List.concat_eq_append], ?_⟩
    by_cases hline : d = '\n' <;> simp [broken, hchars, hline]

/-- What follows a word does not begin with a small letter. -/
lemma isSmall_of_mem_head?_following : ∀ c ∈ (following parts).head?, isSmall c = false := by
  cases parts with
  | nil => nofun
  | cons part parts =>
    obtain ⟨j, w⟩ := part
    intro c hc
    rw [following, List.flatMap_cons] at hc
    cases hchars : j.chars with
    | nil =>
      rw [hchars] at hc
      obtain rfl : w.initial = c := Option.some.inj hc
      exact (not_isSmall_of_isCapital w.isCapital_initial).1
    | cons d ds =>
      rw [hchars] at hc
      obtain rfl : d = c := Option.some.inj hc
      exact (Joint.not_letter_of_mem (j := j) (by rw [hchars]; exact List.mem_cons_self)).2.1

/-! ## The passes -/

lemma breakBeforeWords_cons_of_not (hd : isCapital d = false) (c : Char) (rest : List Char) :
    breakBeforeWords (c :: d :: rest) = c :: breakBeforeWords (d :: rest) := by
  rw [breakBeforeWords, if_neg (by simp [hd])]

lemma breakBeforeCapitals_cons_of_not (hd : isCapital d = false) (c : Char) (rest : List Char) :
    breakBeforeCapitals (c :: d :: rest) = c :: breakBeforeCapitals (d :: rest) := by
  rw [breakBeforeCapitals, if_neg (by simp [hd])]

/-- Without a small letter or a figure before it, the second pass leaves a capital alone. -/
lemma breakBeforeCapitals_cons_of_no_letter (hc : isSmall c = false ∧ isFigure c = false) (rest : List Char) :
    breakBeforeCapitals (c :: rest) = c :: breakBeforeCapitals rest := by
  cases rest with
  | nil => rw [breakBeforeCapitals, breakBeforeCapitals]
  | cons d rest => rw [breakBeforeCapitals, if_neg (by simp [hc.1, hc.2])]

/-- The passes go on without a change as long as there is no capital. -/
lemma breakBeforeWords_append (h : ∀ b ∈ (cs ++ [d]).tail, isCapital b = false) (rest : List Char) :
    breakBeforeWords (cs ++ d :: rest) = cs ++ breakBeforeWords (d :: rest) := by
  induction cs with
  | nil => rfl
  | cons c cs ih =>
    have hnext : ∀ b ∈ cs ++ [d], isCapital b = false := h
    have hrest := ih fun b hb => hnext b (List.mem_of_mem_tail hb)
    cases cs with
    | nil => exact breakBeforeWords_cons_of_not (hnext d List.mem_cons_self) c rest
    | cons b cs =>
      show breakBeforeWords (c :: b :: (cs ++ d :: rest)) = c :: (b :: cs ++ breakBeforeWords (d :: rest))
      rw [breakBeforeWords_cons_of_not (hnext b List.mem_cons_self), ← hrest, List.cons_append]

lemma breakBeforeCapitals_append (h : ∀ b ∈ (cs ++ [d]).tail, isCapital b = false) (rest : List Char) :
    breakBeforeCapitals (cs ++ d :: rest) = cs ++ breakBeforeCapitals (d :: rest) := by
  induction cs with
  | nil => rfl
  | cons c cs ih =>
    have hnext : ∀ b ∈ cs ++ [d], isCapital b = false := h
    have hrest := ih fun b hb => hnext b (List.mem_of_mem_tail hb)
    cases cs with
    | nil => exact breakBeforeCapitals_cons_of_not (hnext d List.mem_cons_self) c rest
    | cons b cs =>
      show breakBeforeCapitals (c :: b :: (cs ++ d :: rest)) = c :: (b :: cs ++ breakBeforeCapitals (d :: rest))
      rw [breakBeforeCapitals_cons_of_not (hnext b List.mem_cons_self), ← hrest, List.cons_append]

lemma exists_breakBeforeWords_cons (c : Char) (rest : List Char) :
    ∃ after, breakBeforeWords (c :: rest) = c :: after := by
  cases rest with
  | nil => exact ⟨[], by rw [breakBeforeWords]⟩
  | cons d rest =>
    rw [breakBeforeWords]
    split
    · exact ⟨_, rfl⟩
    · exact ⟨_, rfl⟩

/-- What satisfies a condition is taken up to where something begins that does not. -/
lemma takeWhile_append_of_head? {p : Char → Bool} (hcs : ∀ c ∈ cs, p c = true) (hrest : ∀ c ∈ rest.head?, p c = false) :
    (cs ++ rest).takeWhile p = cs ∧ (cs ++ rest).dropWhile p = rest := by
  rw [List.takeWhile_append_of_pos hcs, List.dropWhile_append_of_pos hcs]
  cases rest with
  | nil => exact ⟨List.append_nil cs, rfl⟩
  | cons d rest =>
    have hd : p d = false := hrest d rfl
    simp [hd]

/-- The first pass breaks before a word that is not at the start of a line, and goes on behind it. -/
lemma breakBeforeWords_word (hc : c ≠ '\n') (hrest : ∀ b ∈ rest.head?, isSmall b = false) (w : CapitalWord) :
    breakBeforeWords (c :: (w.chars ++ rest)) = c :: '_' :: (w.chars ++ breakBeforeWords rest) := by
  have hletters := w.isSmall_of_mem
  obtain ⟨htake, hdrop⟩ := takeWhile_append_of_head? hletters hrest
  have hfirst : (w.small ++ rest).head?.any isSmall = true := by
    obtain ⟨first, more, hsmall⟩ := List.exists_cons_of_ne_nil w.small_ne_nil
    rw [hsmall] at hletters ⊢
    exact hletters first List.mem_cons_self
  have hbreak : (c != '\n' && isCapital w.initial && (w.small ++ rest).head?.any isSmall) = true := by
    rw [hfirst, w.isCapital_initial, Bool.and_true, Bool.and_true, bne_iff_ne]
    exact hc
  rw [CapitalWord.chars, List.cons_append, breakBeforeWords, if_pos hbreak, htake, hdrop]
  rfl

/-- At the start of a line there is no break. -/
lemma breakBeforeWords_newline (rest : List Char) :
    breakBeforeWords ('\n' :: rest) = '\n' :: breakBeforeWords rest := by
  cases rest with
  | nil => rw [breakBeforeWords, breakBeforeWords]
  | cons d rest => rw [breakBeforeWords, if_neg (by simp)]

/-! ## The breaks at a joint -/

/-- What the first two passes make of a text behind a small letter, whether the first one begins with that letter or
has used it up. -/
def BreaksTo (rest out : List Char) : Prop :=
  ∀ c, isSmall c = true → breakBeforeCapitals (breakBeforeWords (c :: rest)) = c :: out ∧
    breakBeforeCapitals (c :: breakBeforeWords rest) = c :: out

namespace BreaksTo

variable {out : List Char}

/-- A word at the start of a line gets no break. -/
theorem line (h : BreaksTo rest out) (w : CapitalWord) :
    breakBeforeCapitals (breakBeforeWords (w.chars ++ rest)) = w.chars ++ out := by
  obtain ⟨before, last, hlast, hchars, hletters⟩ := w.exists_last
  obtain ⟨after, hafter⟩ := exists_breakBeforeWords_cons last rest
  have hrest := (h last hlast).1
  rw [hafter] at hrest
  rw [hchars, breakBeforeWords_append hletters, hafter, breakBeforeCapitals_append hletters, hrest, hchars]

/-- A word that has got a break gets no other one. -/
theorem marked (h : BreaksTo rest out) (w : CapitalWord) :
    breakBeforeCapitals ('_' :: (w.chars ++ breakBeforeWords rest)) = '_' :: (w.chars ++ out) := by
  obtain ⟨before, last, hlast, hchars, hletters⟩ := w.exists_last
  rw [breakBeforeCapitals_cons_of_no_letter (by decide), hchars, breakBeforeCapitals_append hletters,
    (h last hlast).2, hchars]

/-- A word behind a letter gets its break in the second pass, where the first one had used up that letter. -/
theorem behind (h : BreaksTo rest out) (hc : isSmall c = true) (w : CapitalWord) :
    breakBeforeCapitals (c :: breakBeforeWords (w.chars ++ rest)) = c :: '_' :: (w.chars ++ out) := by
  obtain ⟨after, hafter⟩ := exists_breakBeforeWords_cons w.initial (w.small ++ rest)
  have hline : breakBeforeCapitals (breakBeforeWords (w.initial :: (w.small ++ rest))) =
      w.initial :: (w.small ++ out) := h.line w
  rw [hafter, breakBeforeCapitals_cons_of_no_letter (not_isSmall_of_isCapital w.isCapital_initial)] at hline
  show breakBeforeCapitals (c :: breakBeforeWords (w.initial :: (w.small ++ rest))) =
    c :: '_' :: w.initial :: (w.small ++ out)
  rw [hafter, breakBeforeCapitals, if_pos (by simp [hc, w.isCapital_initial]), (List.cons.inj hline).2]

/-- Of a joint only the last character is looked at together with the word behind it. -/
theorem last (h : BreaksTo rest out) (hrest : ∀ b ∈ rest.head?, isSmall b = false) (d : Char) (w : CapitalWord) :
    ∃ after, breakBeforeWords (d :: (w.chars ++ rest)) = d :: after ∧
      breakBeforeCapitals after = (if d = '\n' then [] else ['_']) ++ (w.chars ++ out) := by
  by_cases hline : d = '\n'
  · rw [hline, breakBeforeWords_newline]
    exact ⟨_, rfl, h.line w⟩
  · rw [breakBeforeWords_word hline hrest, if_neg hline]
    exact ⟨_, rfl, h.marked w⟩

/-- A joint and a word behind it, as the first two passes leave them. -/
theorem part (h : BreaksTo rest out) (hrest : ∀ b ∈ rest.head?, isSmall b = false) (j : Joint) (w : CapitalWord) :
    BreaksTo (j.chars ++ (w.chars ++ rest)) (j.broken ++ (w.chars ++ out)) := by
  intro c hc
  have hnewline : c ≠ '\n' := by
    rintro rfl
    exact absurd hc (by decide)
  rcases j.broken_cases with ⟨hchars, hbroken⟩ | ⟨before, d, hchars, hbroken⟩
  · rw [hchars, hbroken, List.nil_append]
    constructor
    · rw [breakBeforeWords_word hnewline hrest, breakBeforeCapitals_cons_of_not (by decide), h.marked]
      rfl
    · rw [h.behind hc]
      rfl
  · have hletters : ∀ b ∈ before ++ [d], isCapital b = false := fun b hb =>
      (Joint.not_letter_of_mem (hchars ▸ hb)).1
    have hd : isSmall d = false ∧ isFigure d = false :=
      (Joint.not_letter_of_mem (j := j) (hchars ▸ List.mem_concat_self)).2
    have htail : ∀ b ∈ ((c :: before) ++ [d]).tail, isCapital b = false := hletters
    obtain ⟨after, hafter, hout⟩ := h.last hrest d w
    have hall : breakBeforeCapitals (c :: (before ++ d :: after)) =
        c :: (before ++ d :: ((if d = '\n' then [] else ['_']) ++ (w.chars ++ out))) := by
      rw [← List.cons_append, breakBeforeCapitals_append htail, breakBeforeCapitals_cons_of_no_letter hd, hout,
        List.cons_append]
    rw [hchars, hbroken, List.append_assoc, List.append_assoc, List.singleton_append, List.cons_append]
    constructor
    · rw [← List.cons_append, breakBeforeWords_append htail, hafter, List.cons_append, hall]
    · rw [breakBeforeWords_append fun b hb => hletters b (List.mem_of_mem_tail hb), hafter, hall]

end BreaksTo

/-- Words after another word, each behind what the first two passes make of its joint. -/
def followingBroken (parts : List (Joint × CapitalWord)) : List Char :=
  parts.flatMap fun part => part.1.broken ++ part.2.chars

/-- The words of a compound after each other. -/
lemma breaksTo_following (parts : List (Joint × CapitalWord)) : BreaksTo (following parts) (followingBroken parts) := by
  induction parts with
  | nil =>
    intro c hc
    rw [following, List.flatMap_nil, breakBeforeWords, breakBeforeWords, breakBeforeCapitals]
    exact ⟨rfl, rfl⟩
  | cons part parts ih =>
    have hstep := ih.part isSmall_of_mem_head?_following part.1 part.2
    rwa [← List.append_assoc, ← List.append_assoc] at hstep

/-! ## The third pass -/

/-- Words after another word, each behind what becomes of its joint in the end. -/
def followingSettled (parts : List (Joint × CapitalWord)) : List Char :=
  parts.flatMap fun part => part.1.gap ++ part.2.chars

lemma joinWords_cons_of_isIdentifierChar (hc : isIdentifierChar c = true) (inGap : Bool) (rest : List Char) :
    joinWords inGap (c :: rest) = c :: joinWords false rest := by
  have hplain : ¬ (c == '-' || isBlank c) = true :=
    of_isIdentifierChar (P := fun c => ¬ (c == '-' || isBlank c) = true) (by decide) hc
  rw [joinWords, if_neg hplain]

lemma joinWords_append_of_isIdentifierChar (hcs : ∀ c ∈ cs, isIdentifierChar c = true) (rest : List Char) :
    joinWords false (cs ++ rest) = cs ++ joinWords false rest := by
  induction cs with
  | nil => rfl
  | cons c cs ih =>
    obtain ⟨hc, hcs⟩ := List.forall_mem_cons.1 hcs
    rw [List.cons_append, joinWords_cons_of_isIdentifierChar hc, ih hcs, List.cons_append]

/-- The rest of a run of blanks leaves nothing. -/
lemma joinWords_append_of_isBlank (hcs : ∀ c ∈ cs, isBlank c = true) (rest : List Char) :
    joinWords true (cs ++ rest) = joinWords true rest := by
  induction cs with
  | nil => rfl
  | cons c cs ih =>
    obtain ⟨hc, hcs⟩ := List.forall_mem_cons.1 hcs
    rw [List.cons_append, joinWords, if_pos (by simp [hc]), if_pos rfl, ih hcs]

/-- What the first two passes have left of a joint is settled before the word behind it. -/
lemma joinWords_broken (j : Joint) (hc : isIdentifierChar c = true) (rest : List Char) :
    joinWords false (j.broken ++ c :: rest) = j.gap ++ c :: joinWords false rest := by
  have hletter (inGap : Bool) := joinWords_cons_of_isIdentifierChar hc inGap rest
  have hunderscore (inGap : Bool) (rest : List Char) : joinWords inGap ('_' :: rest) = '_' :: joinWords false rest :=
    joinWords_cons_of_isIdentifierChar (by decide) inGap rest
  cases j with
  | none =>
    show joinWords false ('_' :: c :: rest) = '_' :: c :: joinWords false rest
    rw [hunderscore, hletter]
  | underscore =>
    show joinWords false ('_' :: '_' :: c :: rest) = '_' :: '_' :: c :: joinWords false rest
    rw [hunderscore, hunderscore, hletter]
  | hyphen =>
    show joinWords false ('-' :: '_' :: c :: rest) = '_' :: '_' :: c :: joinWords false rest
    rw [joinWords, if_pos (by decide), if_neg (by decide), hunderscore, hletter]
  | blanks cs hne hblank =>
    obtain ⟨b, bs, rfl⟩ := List.exists_cons_of_ne_nil hne
    obtain ⟨hb, hbs⟩ := List.forall_mem_cons.1 hblank
    have hrun (rest : List Char) : joinWords false (b :: bs ++ rest) = '_' :: joinWords true rest := by
      rw [List.cons_append, joinWords, if_pos (by simp [hb]), if_neg (by decide), joinWords_append_of_isBlank hbs]
    have hgap : (Joint.blanks (b :: bs) hne hblank).gap =
        if (b :: bs).getLast? = some '\n' then ['_'] else ['_', '_'] := by
      simp [Joint.gap, Joint.IsSingle, Joint.chars]
    rw [hgap, Joint.broken, Joint.chars]
    split
    · rw [hrun, hletter]
      rfl
    · rw [List.append_assoc, hrun, List.singleton_append, hunderscore, hletter]
      rfl

lemma joinWords_followingBroken (parts : List (Joint × CapitalWord)) :
    joinWords false (followingBroken parts) = followingSettled parts := by
  induction parts with
  | nil => rfl
  | cons part parts ih =>
    obtain ⟨j, w⟩ := part
    have hsmall : ∀ c ∈ w.small, isIdentifierChar c = true := fun c hc =>
      isIdentifierChar_of_mem_chars (List.mem_cons_of_mem w.initial hc)
    show joinWords false (j.broken ++ w.initial :: w.small ++ followingBroken parts) =
      j.gap ++ w.initial :: w.small ++ followingSettled parts
    rw [List.append_assoc, List.cons_append, joinWords_broken j (isIdentifierChar_of_mem_chars List.mem_cons_self),
      joinWords_append_of_isIdentifierChar hsmall, ih, List.append_assoc, List.cons_append]

/-! ## Table names -/

/-- A word as a text. -/
def CapitalWord.text (w : CapitalWord) : String := String.ofList w.chars

lemma Joint.gap_cases (j : Joint) : j.IsSingle ∧ j.gap = ['_'] ∨ ¬ j.IsSingle ∧ j.gap = ['_', '_'] := by
  by_cases h : j.IsSingle <;> simp [gap, h]

lemma isIdentifierChar_of_mem_followingSettled (hc : c ∈ followingSettled parts) : isIdentifierChar c = true := by
  obtain ⟨⟨j, w⟩, -, hc⟩ := List.mem_flatMap.1 hc
  rcases List.mem_append.1 hc with hc | hc
  · have hunderscore : c = '_' := by
      rcases j.gap_cases with ⟨-, hgap⟩ | ⟨-, hgap⟩ <;> simpa [hgap] using hc
    rw [hunderscore]
    decide
  · exact isIdentifierChar_of_mem_chars hc

/-- The three passes together, before the letters are made small. -/
lemma passes_compound (first : CapitalWord) (parts : List (Joint × CapitalWord)) :
    joinWords false (breakBeforeCapitals (breakBeforeWords (first.chars ++ following parts))) =
      first.chars ++ followingSettled parts := by
  have hchars : ∀ c ∈ first.chars, isIdentifierChar c = true := fun c hc => isIdentifierChar_of_mem_chars hc
  rw [(breaksTo_following parts).line first, joinWords_append_of_isIdentifierChar hchars, joinWords_followingBroken]

lemma toList_lower_text (w : CapitalWord) : (lower w.text).toList = w.chars.map asciiLower := by
  rw [lower, toList_through, CapitalWord.text, String.toList_ofList]
  exact lowerAfter_of_ascii fun c hc => toNat_lt_of_isIdentifierChar (isIdentifierChar_of_mem_chars hc)

/-- A name of words in small letters, with one underscore or two at each joint. -/
def settled (parts : List (Joint × CapitalWord)) : String :=
  String.join (parts.map fun part => String.ofList part.1.gap ++ lower part.2.text)

lemma map_asciiLower_followingSettled (parts : List (Joint × CapitalWord)) :
    (followingSettled parts).map asciiLower = (settled parts).toList := by
  induction parts with
  | nil => rfl
  | cons part parts ih =>
    obtain ⟨j, w⟩ := part
    have hgap : j.gap.map asciiLower = j.gap := by
      rcases j.gap_cases with ⟨-, hgap⟩ | ⟨-, hgap⟩ <;> rw [hgap] <;> decide
    rw [settled] at ih ⊢
    show (j.gap ++ w.chars ++ followingSettled parts).map asciiLower = _
    rw [List.map_append, List.map_append, ih, hgap, List.map_cons, String.join_cons, String.toList_append,
      String.toList_append, String.toList_ofList, toList_lower_text]

/-- The words in small letters, with one underscore or two at each joint. -/
lemma snake_compound (first : CapitalWord) (parts : List (Joint × CapitalWord)) :
    snake (compound first parts) = lower first.text ++ settled parts := by
  have hascii : ∀ c ∈ first.chars ++ followingSettled parts, c.toNat < 128 := by
    intro c hc
    rcases List.mem_append.1 hc with hc | hc
    · exact toNat_lt_of_isIdentifierChar (isIdentifierChar_of_mem_chars hc)
    · exact toNat_lt_of_isIdentifierChar (isIdentifierChar_of_mem_followingSettled hc)
  rw [← String.toList_inj, snake, toList_through, compound, String.toList_ofList, passes_compound,
    lowerAfter_of_ascii hascii, List.map_append, String.toList_append, toList_lower_text,
    map_asciiLower_followingSettled]

/-! ## One underscore for each break -/

/-- Words in small letters, each behind an underscore. -/
def underscored (parts : List (Joint × CapitalWord)) : String :=
  String.join (parts.map fun part => "_" ++ lower part.2.text)

lemma length_underscored_le (parts : List (Joint × CapitalWord)) :
    (underscored parts).length ≤ (settled parts).length := by
  induction parts with
  | nil => exact Nat.le_refl 0
  | cons part parts ih =>
    obtain ⟨j, w⟩ := part
    rw [underscored, settled] at ih ⊢
    rw [List.map_cons, List.map_cons, String.join_cons, String.join_cons]
    simp only [String.length_append, String.length_ofList]
    have hone : "_".length = 1 := rfl
    rcases j.gap_cases with ⟨-, hgap⟩ | ⟨-, hgap⟩ <;> simp only [hgap, List.length_cons, List.length_nil] <;> omega

lemma settled_eq_underscored_iff : settled parts = underscored parts ↔ ∀ part ∈ parts, part.1.IsSingle := by
  induction parts with
  | nil => exact iff_of_true rfl (List.forall_mem_nil _)
  | cons part parts ih =>
    obtain ⟨j, w⟩ := part
    rw [List.forall_mem_cons, ← ih]
    have hsettled : settled ((j, w) :: parts) = String.ofList j.gap ++ lower w.text ++ settled parts := by
      simp [settled]
    have hunderscored : underscored ((j, w) :: parts) = "_" ++ lower w.text ++ underscored parts := by
      simp [underscored]
    rw [hsettled, hunderscored]
    rcases j.gap_cases with ⟨hsingle, hgap⟩ | ⟨hdouble, hgap⟩
    · have hone : String.ofList j.gap = "_" := by rw [hgap]
      rw [hone, String.append_right_inj]
      exact (and_iff_right hsingle).symm
    · refine iff_of_false (fun heq => ?_) fun h => hdouble h.1
      -- two underscores are too long, whatever is behind them
      have hlength := congrArg String.length heq
      have hle := length_underscored_le parts
      have hone : "_".length = 1 := rfl
      simp only [String.length_append, String.length_ofList, hgap, List.length_cons, List.length_nil] at hlength
      omega

/-- The name of a table has the words of a compound in small letters, with one underscore or two at each joint, and it
has one at every joint exactly if each of them is nothing, or blanks that end with the end of a line. -/
theorem one_underscore_at_each_joint_iff (first : CapitalWord) (parts : List (Joint × CapitalWord)) :
    snake (compound first parts) = lower first.text ++ settled parts ∧
      (snake (compound first parts) = join "_" (lower first.text :: parts.map fun part => lower part.2.text) ↔
        ∀ part ∈ parts, part.1.IsSingle) := by
  have hjoin : join "_" (lower first.text :: parts.map fun part => lower part.2.text) =
      lower first.text ++ underscored parts := by
    have hbehind := join_append_cons "_" [] (lower first.text) (parts.map fun part => lower part.2.text)
    simpa [underscored, Function.comp_def] using hbehind
  refine ⟨snake_compound first parts, ?_⟩
  rw [hjoin, snake_compound, String.append_right_inj, settled_eq_underscored_iff]

/-- The words of `BlogPost`. -/
def blog : CapitalWord := ⟨'B', ['l', 'o', 'g'], by decide, by decide, by decide⟩

def post : CapitalWord := ⟨'P', ['o', 's', 't'], by decide, by decide, by decide⟩

example : snake (compound blog [(.none, post)]) = "blog_post" := by
  rw [snake_compound]
  decide

/-- An underscore that is there already is doubled, and so is a hyphen. -/
theorem underscore_is_doubled :
    compound blog [(.underscore, post)] = "Blog_Post" ∧ snake "Blog_Post" = "blog__post" ∧
      snake (compound blog [(.underscore, post)]) ≠ join "_" [lower blog.text, lower post.text] := by
  have hcompound : compound blog [(.underscore, post)] = "Blog_Post" := by decide
  have hsnake : snake "Blog_Post" = "blog__post" := by
    rw [← hcompound, snake_compound]
    decide
  refine ⟨hcompound, hsnake, ?_⟩
  rw [hcompound, hsnake]
  decide

end EntityScaffold.Naming
