import EntityScaffold.Proofs.TypeExpression.Grammar
/-!
# Type expressions as they are written

What is written is read again: the words of a printed expression are its first word and one word for each flag
(`wordsOf_print`), they are those of the grammar (`exists_isExpression_print`), and flags in small letters that are
recognized and distinct are read as they are (`readFlags_map`).  Together with the grammar this says when an
expression comes back (`expressions_are_read_iff`), which is whenever its numbers can be shown: the numbers that are
read and those that are shown have the same greatest length.
-/

namespace EntityScaffold

open Text

namespace TypeExpression

open Decimal

variable {n : Nat} {numbers : List (List Char)} {m : Modifiers} {recognized : List String} {t : TypeExpression}

/-- Modifiers that can be written: at most a length, or else both a precision and a scale. -/
inductive IsWritable : Modifiers → Prop
  | none (flags : List String) : IsWritable { flags }
  | length (n : Nat) (flags : List String) : IsWritable { length := some n, flags }
  | precision (p s : Nat) (flags : List String) : IsWritable { precision := some p, scale := some s, flags }

/-- An expression that can be written in words: its flags are distinct, recognized, in small letters and without
blanks. -/
structure IsPrintable (recognized : List String) (t : TypeExpression) : Prop where
  base : IsBase t.base
  writable : IsWritable t.modifiers
  nodup : t.modifiers.flags.Nodup
  known : ∀ flag ∈ t.modifiers.flags, flag ∈ recognized
  small : ∀ flag ∈ t.modifiers.flags, lower flag = flag
  noBlank : ∀ flag ∈ t.modifiers.flags, ∀ c ∈ flag.toList, isBlank c = false

/-! ## Numbers -/

/-- The digits of a number. -/
def digitsOf (n : Nat) : List Char := Nat.toDigits 10 n

lemma isDigit_of_mem_digitsOf {c : Char} (hc : c ∈ digitsOf n) : '0' ≤ c ∧ c ≤ '9' := by
  have hdigit := Nat.isDigit_of_mem_toDigits (by decide) (by decide) hc
  simp only [Char.isDigit, Bool.and_eq_true, decide_eq_true_eq] at hdigit
  exact hdigit

lemma digitValue?_of_digit {c : Char} (hc : '0' ≤ c ∧ c ≤ '9') : digitValue? c = some (c.toNat - 48) := by
  have hlast : c.toNat ≤ '9'.toNat := hc.2
  have hascii : c.toNat < 128 := Nat.lt_of_le_of_lt hlast (by decide)
  simp [digitValue?, hascii, hc.1, hc.2]

lemma isDigits_digitsOf (n : Nat) : IsDigits (digitsOf n) := by
  refine ⟨Nat.toDigits_ne_nil, fun c hc => ?_⟩
  rw [isDigit, digitValue?_of_digit (isDigit_of_mem_digitsOf hc)]
  rfl

lemma natOfDigits_digitsOf (n : Nat) : natOfDigits (digitsOf n) = n := by
  have hvalues : (digitsOf n).filterMap digitValue? = (digitsOf n).map fun c => c.toNat - 48 := by
    rw [← List.filterMap_eq_map]
    exact List.filterMap_congr fun c hc => digitValue?_of_digit (isDigit_of_mem_digitsOf hc)
  rw [natOfDigits, hvalues, List.foldl_map]
  exact (Nat.ofDigitChars_eq_foldl).symm.trans Nat.ofDigitChars_ten_toDigits

lemma length_digitsOf_le_iff : (digitsOf n).length ≤ mostDigits ↔ isShowable n = true := by
  rw [digitsOf, Nat.length_toDigits_le_iff (by decide) (by decide), isShowable, decide_eq_true_iff,
    Int.natAbs_natCast, Nat.pow_eq]

lemma isBlank_of_mem_digitsOf {c : Char} (hc : c ∈ digitsOf n) : isBlank c = false := by
  obtain ⟨hfirst, hlast⟩ := isDigit_of_mem_digitsOf hc
  have hlow : 48 ≤ c.toNat := hfirst
  have hhigh : c.toNat ≤ 57 := hlast
  simp only [isBlank, Bool.or_eq_false_iff, Bool.and_eq_false_iff, beq_eq_false_iff_ne, decide_eq_false_iff_not]
  omega

/-! ## The first word -/

lemma toList_toString (n : Nat) : (toString (n : Int)).toList = digitsOf n := Nat.toList_repr

lemma toList_printModifier_length (n : Nat) (flags : List String) :
    (printModifier { length := some (n : Int), flags }).toList = '|' :: digitsOf n := by
  simp [printModifier, ← toList_toString]

lemma toList_printModifier_precision (p s : Nat) (flags : List String) :
    (printModifier { precision := some (p : Int), scale := some (s : Int), flags }).toList =
      '|' :: (digitsOf p ++ ',' :: digitsOf s) := by
  simp [printModifier, ← toList_toString]

/-- What is written of modifiers says the same, and its numbers are short exactly if they can be shown. -/
lemma isModifier_printModifier (h : IsWritable m) :
    ∃ numbers, IsModifier (printModifier m).toList numbers { m with flags := [] } ∧
      (AreShort numbers ↔ ∀ n ∈ m.numbers, isShowable n = true) := by
  cases h with
  | none flags => exact ⟨[], .none, by simp [AreShort, Modifiers.numbers]⟩
  | length n flags =>
    have hm := IsModifier.length (isDigits_digitsOf n)
    rw [natOfDigits_digitsOf] at hm
    rw [toList_printModifier_length]
    exact ⟨[digitsOf n], hm, by simp [AreShort, Modifiers.numbers, length_digitsOf_le_iff]⟩
  | precision p s flags =>
    have hm := IsModifier.precision (isDigits_digitsOf p) (isDigits_digitsOf s)
    rw [natOfDigits_digitsOf, natOfDigits_digitsOf] at hm
    rw [toList_printModifier_precision]
    exact ⟨[digitsOf p, digitsOf s], hm, by simp [AreShort, Modifiers.numbers, length_digitsOf_le_iff]⟩

lemma noBlank_printModifier (h : IsWritable m) : ∀ c ∈ (printModifier m).toList, isBlank c = false := by
  have hbar : isBlank '|' = false := by decide
  have hcomma : isBlank ',' = false := by decide
  cases h with
  | none flags => exact nofun
  | length n flags =>
    rw [toList_printModifier_length]
    exact List.forall_mem_cons.2 ⟨hbar, fun c hc => isBlank_of_mem_digitsOf hc⟩
  | precision p s flags =>
    rw [toList_printModifier_precision]
    refine List.forall_mem_cons.2 ⟨hbar, List.forall_mem_append.2 ⟨fun c hc => isBlank_of_mem_digitsOf hc, ?_⟩⟩
    exact List.forall_mem_cons.2 ⟨hcomma, fun c hc => isBlank_of_mem_digitsOf hc⟩

lemma IsBase.noBlank {base : String} (h : IsBase base) : ∀ c ∈ base.toList, isBlank c = false := by
  intro c hc
  rw [← Bool.not_eq_true]
  intro hblank
  refine h.notMem (c := c) ?_ ?_ hc
  · rw [← Bool.not_eq_true]
    intro hident
    rw [Naming.isBlank_of_isIdentifierChar hident] at hblank
    cases hblank
  · rintro rfl
    exact absurd hblank (by decide)

/-- The first word of a printed expression. -/
def headWord (t : TypeExpression) : List Char :=
  (if t.nullable then ['?'] else []) ++ (t.base.toList ++ (printModifier t.modifiers).toList)

/-- The word of a flag. -/
def flagWord (flag : String) : List Char := '-' :: '-' :: flag.toList

lemma IsPrintable.isWord_headWord (h : IsPrintable recognized t) :
    headWord t ≠ [] ∧ ∀ c ∈ headWord t, isBlank c = false := by
  obtain ⟨first, rest, hbase, -⟩ := h.base.exists_cons
  have hmark : ∀ c ∈ if t.nullable then ['?'] else [], isBlank c = false := by
    split <;> decide
  constructor
  · simp [headWord, hbase]
  · rw [headWord, List.forall_mem_append, List.forall_mem_append]
    exact ⟨hmark, h.base.noBlank, noBlank_printModifier h.writable⟩

/-! ## Words -/

/-- Words with a blank before each but the first are taken apart again. -/
lemma wordsOf_spaced {word : List Char} {words : List (List Char)}
    (hword : word ≠ [] ∧ ∀ c ∈ word, isBlank c = false)
    (hwords : ∀ word ∈ words, word ≠ [] ∧ ∀ c ∈ word, isBlank c = false) :
    wordsOf (word ++ words.flatMap (' ' :: ·)) = word :: words := by
  induction words generalizing word with
  | nil => simpa using wordsOf_of_noBlank hword.1 hword.2
  | cons next rest ih =>
    obtain ⟨hnext, hrest⟩ := List.forall_mem_cons.1 hwords
    rw [List.flatMap_cons, List.cons_append, wordsOf_append_cons (by decide), wordsOf_of_noBlank hword.1 hword.2,
      ih hnext hrest]
    rfl

theorem wordsOf_print (h : IsPrintable recognized t) :
    wordsOf (print t).toList = headWord t :: t.modifiers.flags.map flagWord := by
  have hchars : (print t).toList = headWord t ++ (t.modifiers.flags.map flagWord).flatMap (' ' :: ·) := by
    have hmark : (if t.nullable then "?" else "").toList = if t.nullable then ['?'] else [] := by split <;> rfl
    simp [print, headWord, hmark, String.toList_join, List.flatMap_map, flagWord]
  have hflags : ∀ word ∈ t.modifiers.flags.map flagWord, word ≠ [] ∧ ∀ c ∈ word, isBlank c = false := by
    rw [List.forall_mem_map]
    intro flag hflag
    refine ⟨List.cons_ne_nil _ _, ?_⟩
    rw [flagWord, List.forall_mem_cons, List.forall_mem_cons]
    exact ⟨by decide, by decide, h.noBlank flag hflag⟩
  rw [hchars, wordsOf_spaced h.isWord_headWord hflags]

lemma readFlag_flagWord (flag : String) : readFlag (flagWord flag) = .ok (lower flag) := by
  rw [flagWord, readFlag, String.ofList_toList]

/-- Distinct recognized flags in small letters are read as they are, behind those that have been read. -/
theorem readFlags_map {seen flags : List String} (hnodup : (seen ++ flags).Nodup)
    (hknown : ∀ flag ∈ flags, flag ∈ recognized) (hsmall : ∀ flag ∈ flags, lower flag = flag) :
    readFlags recognized seen (flags.map flagWord) = .ok (seen ++ flags) := by
  induction flags generalizing seen with
  | nil => simp [readFlags]
  | cons flag rest ih =>
    obtain ⟨hflag, hrest⟩ := List.forall_mem_cons.1 hknown
    obtain ⟨hlower, hlowers⟩ := List.forall_mem_cons.1 hsmall
    have hnew : flag ∉ seen := fun hseen => (List.nodup_append.1 hnodup).2.2 flag hseen flag List.mem_cons_self rfl
    rw [List.append_cons] at hnodup ⊢
    have hword : readFlag (flagWord flag) = .ok flag := by rw [readFlag_flagWord, hlower]
    rw [List.map_cons, readFlags_cons, hword, ok_bind, addFlag_of_new hflag hnew]
    exact ih hnodup hrest hlowers

/-! ## Reading what is written -/

lemma read_eq_ok_iff {token : Option String} :
    read recognized token = .ok t ↔ ofWords recognized (wordsOf (token.getD "").toList) = .ok t := by
  rw [← split, read]
  split
  · next hsplit => rw [hsplit, Except.ok.injEq, Except.ok.injEq]
  · next hsplit => simp [hsplit]
  · next hsplit => simp [hsplit, reject]

/-- The words of a printed expression are those of the grammar, and have a number that is too long exactly if one
cannot be shown. -/
theorem exists_isExpression_print (h : IsPrintable recognized t) :
    ∃ numbers, IsHead (headWord t) numbers t.nullable t.base { t.modifiers with flags := [] } ∧
      IsExpression (wordsOf (print t).toList) numbers ∧
      (AreShort numbers ↔ ∀ n ∈ t.modifiers.numbers, isShowable n = true) := by
  obtain ⟨numbers, hm, hshort⟩ := isModifier_printModifier h.writable
  have hhead : IsHead (headWord t) numbers t.nullable t.base { t.modifiers with flags := [] } :=
    ⟨_, rfl, h.base, hm⟩
  refine ⟨numbers, hhead, ⟨_, _, _, _, _, wordsOf_print h, hhead, ?_⟩, hshort⟩
  rw [List.forall_mem_map]
  exact fun flag _ => ⟨flag.toList, rfl⟩

/-- A printed expression is read as what it was, exactly if its numbers can be shown. -/
lemma read_print_iff (h : IsPrintable recognized t) :
    read recognized (some (print t)) = .ok t ↔ ∀ n ∈ t.modifiers.numbers, isShowable n = true := by
  obtain ⟨numbers, hhead, hexpression, hshort⟩ := exists_isExpression_print h
  rw [read_eq_ok_iff, Option.getD_some, ← hshort]
  constructor
  · intro hread
    by_contra hlong
    obtain ⟨size, herror⟩ := ofWords_eq_number_iff.2 (hexpression.hasLongNumber_iff.2 hlong)
    cases hread.symm.trans herror
  · intro hshort
    have hflags : readFlags recognized [] (t.modifiers.flags.map flagWord) = .ok t.modifiers.flags :=
      readFlags_map (by simpa using h.nodup) h.known h.small
    rw [wordsOf_print h]
    exact ofWords_eq_ok_iff.2 ⟨_, _, numbers, _, rfl, hhead, hshort, hflags, rfl⟩

/-- A text is read exactly if its words are in the grammar, with no number of more digits than are read, and a printed
expression is read as what it was exactly if its numbers can be shown. -/
theorem expressions_are_read_iff (recognized : List String) :
    (∀ token : Option String, (∃ t, read recognized token = .ok t) ↔
      ∃ numbers, IsExpression (wordsOf (token.getD "").toList) numbers ∧ AreShort numbers) ∧
    ∀ t, IsPrintable recognized t →
      (read recognized (some (print t)) = .ok t ↔ ∀ n ∈ t.modifiers.numbers, isShowable n = true) := by
  refine ⟨fun token => ?_, fun t h => read_print_iff h⟩
  rw [← exists_ofWords_iff recognized]
  exact exists_congr fun t => read_eq_ok_iff

/-- A price, with flags in another order than they are recognized in. -/
def price : TypeExpression :=
  ⟨true, "\\App\\Money", { precision := some (10 : Nat), scale := some (2 : Nat), flags := ["unique", "index"] }⟩

theorem price_is_read_as_it_is_written : IsPrintable ["index", "unique"] price ∧
    print price = "?\\App\\Money|10,2 --unique --index" ∧
      read ["index", "unique"] (some "?\\App\\Money|10,2 --unique --index") = .ok price := by
  have hprintable : IsPrintable ["index", "unique"] price :=
    ⟨.inr ⟨"App\\Money", by decide, by decide⟩, .precision 10 2 _, by decide, by decide, by decide, by decide⟩
  have hprint : print price = "?\\App\\Money|10,2 --unique --index" := by decide
  have hread := ((expressions_are_read_iff ["index", "unique"]).2 price hprintable).2
  rw [hprint] at hread
  have hdigits : ∀ n ∈ [10, 2], (digitsOf n).length ≤ mostDigits := by decide
  simp only [List.forall_mem_cons, length_digitsOf_le_iff] at hdigits
  refine ⟨hprintable, hprint, hread ?_⟩
  exact List.forall_mem_cons.2 ⟨hdigits.1, List.forall_mem_singleton.2 hdigits.2.1⟩

/-- A text with the least length that is not read. -/
def longest : TypeExpression := ⟨false, "string", { length := some (Nat.pow 10 mostDigits) }⟩

/-- The expression is in the grammar and can be written, but is not read. -/
theorem longest_is_not_read : IsPrintable ["unique"] longest ∧
    (∃ numbers, IsExpression (wordsOf (print longest).toList) numbers) ∧
      ¬ ∃ t, read ["unique"] (some (print longest)) = .ok t := by
  have hprintable : IsPrintable ["unique"] longest :=
    ⟨.inl (by decide), .length _ [], List.nodup_nil, nofun, nofun, nofun⟩
  obtain ⟨numbers, -, hexpression, hshort⟩ := exists_isExpression_print hprintable
  have hnotshort : ¬ AreShort numbers := by
    rw [hshort]
    intro hall
    have hshowable := hall (Nat.pow 10 mostDigits) (List.mem_singleton_self _)
    rw [isShowable, decide_eq_true_iff, Int.natAbs_natCast] at hshowable
    exact Nat.lt_irrefl _ hshowable
  obtain ⟨size, herror⟩ : ∃ size, ofWords ["unique"] (wordsOf (print longest).toList) = .error (.number size) :=
    ofWords_eq_number_iff.2 (hexpression.hasLongNumber_iff.2 hnotshort)
  refine ⟨hprintable, ⟨numbers, hexpression⟩, ?_⟩
  rintro ⟨t, hread⟩
  cases (read_eq_ok_iff.1 hread).symm.trans herror

end TypeExpression

end EntityScaffold
