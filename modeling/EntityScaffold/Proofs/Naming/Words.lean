import EntityScaffold.Keyed
import EntityScaffold.Naming.Words
import EntityScaffold.Proofs.Text.Case
/-!
# Words of identifiers

What is made of an identifier, by changing the case of letters or putting underscores and endings in, has the
characters of identifiers again.  That is all that is kept: an identifier may begin with an underscore, and its
plural may be anything.  Of any text, the name that is made for a table has no capitals (`isCapital_of_mem_snake`).
-/

namespace EntityScaffold

open Text

/-- A text with the characters that identifiers may go on with. -/
def HasIdentifierChars (s : String) : Prop := ∀ c ∈ s.toList, isIdentifierChar c = true

instance : DecidablePred HasIdentifierChars := fun _ => inferInstanceAs (Decidable (∀ _ ∈ _, _))

namespace Naming

variable {c : Char} {cs : List Char} {s : String}

/-- What holds of the characters of ASCII in turn, holds of one that identifiers have. -/
theorem of_isIdentifierChar {P : Char → Prop} (h : ∀ n < 128, isIdentifierChar (Char.ofNat n) = true →
    P (Char.ofNat n)) (hc : isIdentifierChar c = true) : P c :=
  of_ascii (P := fun c => isIdentifierChar c = true → P c) h (toNat_lt_of_isIdentifierChar hc) hc

lemma isIdentifierChar_asciiLower (hc : isIdentifierChar c = true) :
    isIdentifierChar (asciiLower c) = true :=
  of_isIdentifierChar (P := fun c => isIdentifierChar (asciiLower c) = true) (by decide) hc

lemma isIdentifierChar_asciiUpper (hc : isIdentifierChar c = true) :
    isIdentifierChar (asciiUpper c) = true :=
  of_isIdentifierChar (P := fun c => isIdentifierChar (asciiUpper c) = true) (by decide) hc

lemma lowerChar_of_isIdentifierChar (hc : isIdentifierChar c = true) : lowerChar c = [asciiLower c] := by
  rw [lowerChar, if_pos (toNat_lt_of_isIdentifierChar hc)]

lemma upperChar_of_isIdentifierChar (hc : isIdentifierChar c = true) : upperChar c = [asciiUpper c] := by
  rw [upperChar, if_pos (toNat_lt_of_isIdentifierChar hc)]

lemma isBlank_of_isIdentifierChar (hc : isIdentifierChar c = true) : isBlank c = false :=
  of_isIdentifierChar (P := fun c => isBlank c = false) (by decide) hc

end Naming

namespace HasIdentifierChars

open Naming

variable {s t : String} {cs : List Char}

lemma of_isIdentifier (h : isIdentifier s = true) : HasIdentifierChars s := isIdentifierChar_of_isIdentifier h

lemma append (hs : HasIdentifierChars s) (ht : HasIdentifierChars t) : HasIdentifierChars (s ++ t) := by
  intro c hc
  rw [String.toList_append, List.mem_append] at hc
  exact hc.elim (hs c) (ht c)

/-- Numbers are digits. -/
theorem toString_nat (n : Nat) : HasIdentifierChars (toString n) := by
  intro c hc
  have hdigit : c.isDigit = true := by
    refine Nat.isDigit_of_mem_toDigits (by decide) (by decide) (b := 10) (n := n) ?_
    simpa using hc
  rw [isIdentifierChar, Bool.or_eq_true, Bool.and_eq_true]
  simp only [Char.isDigit, Bool.and_eq_true, decide_eq_true_eq] at hdigit ⊢
  exact .inr hdigit

/-- Apart from digits there is at most a sign in a number. -/
theorem notMem_toString_int {c : Char} (hminus : c ≠ '-') (hc : isIdentifierChar c = false) (n : Int) :
    c ∉ (toString n).toList := by
  have hnat (n : Nat) : c ∉ (toString n).toList := by
    intro hmem
    rw [toString_nat n c hmem] at hc
    cases hc
  cases n with
  | ofNat n => exact hnat n
  | negSucc n =>
    show c ∉ ("-" ++ toString (n + 1)).toList
    rw [String.toList_append, List.mem_append, not_or]
    exact ⟨fun hmem => hminus (List.mem_singleton.1 hmem), hnat (n + 1)⟩

/-- Another character of identifiers in front. -/
lemma through_first {f : List Char → List Char} (hnil : f [] = [])
    (hcons : ∀ c rest, isIdentifierChar c = true →
      ∃ d, isIdentifierChar d = true ∧ f (c :: rest) = d :: rest)
    (hs : HasIdentifierChars s) : HasIdentifierChars (through f s) := by
  rw [HasIdentifierChars] at hs ⊢
  rw [toList_through]
  cases hchars : s.toList with
  | nil =>
    rw [hnil]
    nofun
  | cons c rest =>
    rw [hchars] at hs
    obtain ⟨hc, hrest⟩ := List.forall_mem_cons.1 hs
    obtain ⟨d, hd, hfirst⟩ := hcons c rest hc
    rw [hfirst]
    exact List.forall_mem_cons.2 ⟨hd, hrest⟩

lemma uncapitalize (hs : HasIdentifierChars s) : HasIdentifierChars (uncapitalize s) := by
  refine through_first rfl (fun c rest hc => ⟨asciiLower c, isIdentifierChar_asciiLower hc, ?_⟩) hs
  rw [uncapitalizeChars, lowerChar_of_isIdentifierChar hc]
  rfl

lemma capitalize (hs : HasIdentifierChars s) : HasIdentifierChars (capitalize s) := by
  refine through_first rfl (fun c rest hc => ⟨asciiUpper c, isIdentifierChar_asciiUpper hc, ?_⟩) hs
  rw [capitalizeChars, upperChar_of_isIdentifierChar hc]
  rfl

/-! ## First characters -/

/-- A change of the first character that ignoring case undoes. -/
lemma foldCase_through_first {f : List Char → List Char} (hnil : f [] = [])
    (hcons : ∀ c rest, isIdentifierChar c = true →
      ∃ d, asciiLower d = asciiLower c ∧ f (c :: rest) = d :: rest)
    (hs : HasIdentifierChars s) : foldCase (through f s) = foldCase s := by
  rw [← String.toList_inj, foldCase, foldCase, toList_through, toList_through, toList_through]
  cases hchars : s.toList with
  | nil => rw [hnil]
  | cons c rest =>
    obtain ⟨d, hd, hfirst⟩ := hcons c rest (hs c (by simp [hchars]))
    rw [hfirst, List.map_cons, List.map_cons, hd]

lemma foldCase_uncapitalize (hs : HasIdentifierChars s) : foldCase (Text.uncapitalize s) = foldCase s := by
  refine foldCase_through_first rfl (fun c rest hc => ⟨asciiLower c, ?_, ?_⟩) hs
  · exact of_isIdentifierChar (P := fun c => asciiLower (asciiLower c) = asciiLower c) (by decide) hc
  · rw [uncapitalizeChars, lowerChar_of_isIdentifierChar hc]
    rfl

lemma foldCase_capitalize (hs : HasIdentifierChars s) : foldCase (Text.capitalize s) = foldCase s := by
  refine foldCase_through_first rfl (fun c rest hc => ⟨asciiUpper c, ?_, ?_⟩) hs
  · exact of_isIdentifierChar (P := fun c => asciiLower (asciiUpper c) = asciiLower c) (by decide) hc
  · rw [capitalizeChars, upperChar_of_isIdentifierChar hc]
    rfl

/-- Lowering the first character keeps a text exactly if it is no capital. -/
lemma uncapitalize_eq_self_iff (hs : HasIdentifierChars s) :
    Text.uncapitalize s = s ↔ ∀ c ∈ s.toList.head?, isCapital c = false := by
  rw [← String.toList_inj, Text.uncapitalize, toList_through]
  cases hchars : s.toList with
  | nil => simp [uncapitalizeChars]
  | cons c rest =>
    have hc : isIdentifierChar c = true := hs c (by simp [hchars])
    have hcapital : asciiLower c = c ↔ isCapital c = false :=
      of_isIdentifierChar (P := fun c => asciiLower c = c ↔ isCapital c = false) (by decide) hc
    rw [uncapitalizeChars, lowerChar_of_isIdentifierChar hc]
    simpa using hcapital

/-- A text is what its first character in small gives, or that with a capital. -/
lemma eq_or_eq_capitalize (hs : HasIdentifierChars s) :
    s = Text.uncapitalize s ∨ s = Text.capitalize (Text.uncapitalize s) := by
  rw [← String.toList_inj, ← String.toList_inj, Text.capitalize, toList_through, Text.uncapitalize, toList_through]
  cases hchars : s.toList with
  | nil => exact .inl rfl
  | cons c rest =>
    have hc : isIdentifierChar c = true := hs c (by simp [hchars])
    have hback : c = asciiLower c ∨ c = asciiUpper (asciiLower c) :=
      of_isIdentifierChar (P := fun c => c = asciiLower c ∨ c = asciiUpper (asciiLower c)) (by decide) hc
    rw [uncapitalizeChars, lowerChar_of_isIdentifierChar hc, List.singleton_append, capitalizeChars,
      upperChar_of_isIdentifierChar (isIdentifierChar_asciiLower hc), List.singleton_append]
    exact hback.imp (congrArg (· :: rest)) (congrArg (· :: rest))

/-- Two texts are the same word but for a capital: the word and the word with a capital. -/
lemma uncapitalize_eq_iff (hs : HasIdentifierChars s) {word : String} (hword : Text.uncapitalize word = word)
    (hcapital : Text.uncapitalize (Text.capitalize word) = word) :
    Text.uncapitalize s = word ↔ s ∈ [word, Text.capitalize word] := by
  rw [List.mem_cons, List.mem_singleton]
  constructor
  · rintro rfl
    exact eq_or_eq_capitalize hs
  · rintro (rfl | rfl)
    · exact hword
    · exact hcapital

/-! ## Breaks between words -/

lemma breakBeforeWords (h : ∀ c ∈ cs, isIdentifierChar c = true) :
    ∀ c ∈ breakBeforeWords cs, isIdentifierChar c = true := by
  induction cs using Naming.breakBeforeWords.induct with
  | case1 =>
    rw [Naming.breakBeforeWords]
    nofun
  | case2 c => simpa [Naming.breakBeforeWords] using h
  | case3 c u rest hbreak ih =>
    obtain ⟨hc, hu, hrest⟩ : isIdentifierChar c = true ∧ isIdentifierChar u = true ∧
        ∀ d ∈ rest, isIdentifierChar d = true := by simpa using h
    have hunderscore : isIdentifierChar '_' = true := by decide
    rw [Naming.breakBeforeWords, if_pos hbreak]
    simp only [List.forall_mem_cons, List.forall_mem_append, List.cons_append]
    refine ⟨hc, hunderscore, hu, fun d hd => ?_, ih fun d hd => ?_⟩
    · exact hrest d ((List.takeWhile_sublist isSmall).subset hd)
    · exact hrest d ((List.dropWhile_sublist isSmall).subset hd)
  | case4 c u rest hbreak ih =>
    obtain ⟨hc, hrest⟩ := List.forall_mem_cons.1 h
    rw [Naming.breakBeforeWords, if_neg hbreak]
    exact List.forall_mem_cons.2 ⟨hc, ih hrest⟩

lemma breakBeforeCapitals (h : ∀ c ∈ cs, isIdentifierChar c = true) :
    ∀ c ∈ breakBeforeCapitals cs, isIdentifierChar c = true := by
  induction cs using Naming.breakBeforeCapitals.induct with
  | case1 =>
    rw [Naming.breakBeforeCapitals]
    nofun
  | case2 c => simpa [Naming.breakBeforeCapitals] using h
  | case3 c u rest hbreak ih =>
    obtain ⟨hc, hu, hrest⟩ : isIdentifierChar c = true ∧ isIdentifierChar u = true ∧
        ∀ d ∈ rest, isIdentifierChar d = true := by simpa using h
    have hunderscore : isIdentifierChar '_' = true := by decide
    rw [Naming.breakBeforeCapitals, if_pos hbreak]
    simp only [List.forall_mem_cons]
    exact ⟨hc, hunderscore, hu, ih hrest⟩
  | case4 c u rest hbreak ih =>
    obtain ⟨hc, hrest⟩ := List.forall_mem_cons.1 h
    rw [Naming.breakBeforeCapitals, if_neg hbreak]
    exact List.forall_mem_cons.2 ⟨hc, ih hrest⟩

lemma joinWords {inGap : Bool} (h : ∀ c ∈ cs, isIdentifierChar c = true) :
    ∀ c ∈ joinWords inGap cs, isIdentifierChar c = true := by
  have hunderscore : isIdentifierChar '_' = true := by decide
  induction cs generalizing inGap with
  | nil => nofun
  | cons c cs ih =>
    obtain ⟨hc, hcs⟩ := List.forall_mem_cons.1 h
    rw [Naming.joinWords]
    split
    · split
      · exact ih hcs
      · exact List.forall_mem_cons.2 ⟨hunderscore, ih hcs⟩
    · exact List.forall_mem_cons.2 ⟨hc, ih hcs⟩

lemma snake (hs : HasIdentifierChars s) : HasIdentifierChars (snake s) := by
  intro c hc
  have hjoined : ∀ d ∈ Naming.joinWords false (Naming.breakBeforeCapitals (Naming.breakBeforeWords s.toList)),
      isIdentifierChar d = true := joinWords (breakBeforeCapitals (breakBeforeWords hs))
  rw [Naming.snake, toList_through,
    lowerAfter_of_ascii fun d hd => toNat_lt_of_isIdentifierChar (hjoined d hd), List.mem_map] at hc
  obtain ⟨d, hd, rfl⟩ := hc
  exact isIdentifierChar_asciiLower (hjoined d hd)

lemma plural (hs : HasIdentifierChars s) : HasIdentifierChars (plural s) := by
  have hendings : HasIdentifierChars "s" ∧ HasIdentifierChars "es" ∧ HasIdentifierChars "ies" := by decide
  obtain ⟨hs', hes, hies⟩ := hendings
  intro c hc
  rw [Naming.plural, toList_through, pluralChars] at hc
  split at hc
  · next before rest hreverse =>
    split at hc
    · exact (List.mem_append.1 hc).elim (hs c) (hs' c)
    · refine (List.mem_append.1 hc).elim (fun hc => hs c ?_) (hies c)
      rw [← List.mem_reverse, hreverse]
      exact List.mem_cons_of_mem _ (List.mem_reverse.1 hc)
  · split at hc
    · exact (List.mem_append.1 hc).elim (hs c) (hes c)
    · exact (List.mem_append.1 hc).elim (hs c) (hs' c)

end HasIdentifierChars

/-! ## Words of any text -/

namespace Naming

variable {c d : Char} {cs before : List Char} {s : String}

lemma isCapital_iff : isCapital c = true ↔ 65 ≤ c.toNat ∧ c.toNat ≤ 90 := by
  rw [isCapital, Bool.and_eq_true, decide_eq_true_iff, decide_eq_true_iff, Char.le_def, Char.le_def,
    UInt32.le_iff_toNat_le, UInt32.le_iff_toNat_le]
  rfl

/-- A code point above the capitals is none, nor is what stands for an invalid one. -/
lemma isCapital_ofNat {n : Nat} (h : 91 ≤ n) : isCapital (Char.ofNat n) = false := by
  have hcode : (Char.ofNat n).toNat = n ∨ (Char.ofNat n).toNat = 0 := by
    rw [Char.ofNat]
    by_cases hvalid : n.isValidChar
    · rw [dif_pos hvalid]
      exact .inl rfl
    · rw [dif_neg hvalid]
      exact .inr rfl
  rw [← Bool.not_eq_true, isCapital_iff]
  omega

lemma isCapital_asciiLower (hc : c.toNat < 128) : isCapital (asciiLower c) = false :=
  of_ascii (P := fun c => isCapital (asciiLower c) = false) (by decide) hc

set_option maxRecDepth 2000 in
/-- No run of letters beyond ASCII is sent to capitals of ASCII. -/
lemma le_of_lowerRuns : ∀ run ∈ lowerRuns, 91 ≤ (run.first : Int) + run.shift := by decide

lemma isCapital_of_mem_lowerChar (hd : d ∈ lowerChar c) : isCapital d = false := by
  unfold lowerChar caseCounterpart at hd
  split at hd
  · next hc =>
    rw [List.mem_singleton.1 hd]
    exact isCapital_asciiLower hc
  · next hc =>
    split at hd
    · next codes hcodes =>
      have hexpansions : ∀ entry ∈ lowerExpansions, ∀ code ∈ entry.2, 91 ≤ code := by decide
      obtain ⟨code, hcode, rfl⟩ := List.mem_map.1 hd
      exact isCapital_ofNat (hexpansions _ (Keyed.mem_of_lookup hcodes) code hcode)
    · split at hd
      · next code hcode =>
        rw [List.mem_singleton.1 hd]
        obtain ⟨run, hrun, hmap⟩ := List.exists_of_findSome?_eq_some hcode
        have hle := le_of_lowerRuns run hrun
        unfold CaseRun.map? at hmap
        split at hmap
        · next hin =>
          simp only [Bool.and_eq_true, decide_eq_true_eq] at hin
          cases hmap
          rw [Int.ofNat_eq_natCast]
          exact isCapital_ofNat (by omega)
        · cases hmap
      · rw [List.mem_singleton.1 hd, ← Bool.not_eq_true, isCapital_iff]
        omega

lemma isCapital_of_mem_lowerAfter (hd : d ∈ lowerAfter before cs) : isCapital d = false := by
  induction cs generalizing before with
  | nil => cases hd
  | cons c cs ih =>
    rw [lowerAfter, List.mem_append] at hd
    rcases hd with hd | hd
    · split at hd
      · rw [List.mem_singleton.1 hd]
        split <;> decide
      · exact isCapital_of_mem_lowerChar hd
    · exact ih hd

theorem isCapital_of_mem_snake (hd : d ∈ (snake s).toList) : isCapital d = false := by
  rw [snake, toList_through] at hd
  exact isCapital_of_mem_lowerAfter hd

end Naming

end EntityScaffold
