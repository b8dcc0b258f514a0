import Mathlib.Tactic.Lemma
import EntityScaffold.Naming.Identifier
import EntityScaffold.Text.Case
/-!
# Letter case in ASCII

File systems and compilers that do not tell `A` from `a` do so for the letters of ASCII alone: two names are
the same to them when `foldCase` takes them to the same text.  It goes character by character, so it passes
through concatenation, and on identifiers it is the lower case of `Text.Case`, which in general is not that
simple (`lower_of_ascii`).
-/

namespace EntityScaffold

namespace Text

/-- A text with the capitals of ASCII in lower case, and everything else as it is. -/
def foldCase (s : String) : String := through (·.map asciiLower) s

variable {cs : List Char} {s t : String}

@[simp] lemma foldCase_append (s t : String) : foldCase (s ++ t) = foldCase s ++ foldCase t := by
  rw [← String.toList_inj]
  simp [foldCase]

@[simp] lemma length_foldCase (s : String) : (foldCase s).length = s.length := by
  simp [foldCase, through, ← String.length_toList]

/-- The one letter whose lower case depends on what is around it is not of ASCII. -/
lemma beq_sigma_of_ascii {c : Char} (h : c.toNat < 128) : (c == 'Σ') = false := by
  refine beq_false_of_ne ?_
  rintro rfl
  exact absurd h (by decide)

lemma lowerAfter_of_ascii {before : List Char} (h : ∀ c ∈ cs, c.toNat < 128) :
    lowerAfter before cs = cs.map asciiLower := by
  induction cs generalizing before with
  | nil => rfl
  | cons c cs ih =>
    obtain ⟨hc, hcs⟩ := List.forall_mem_cons.1 h
    simp [lowerAfter, beq_sigma_of_ascii hc, lowerChar, hc, ih hcs]

theorem lower_of_ascii (h : ∀ c ∈ s.toList, c.toNat < 128) : lower s = foldCase s := by
  rw [lower, foldCase, through, through, lowerAfter_of_ascii h]

/-- Lower case of an end of ASCII does not depend on what is before it. -/
lemma exists_lower_append (s : String) (h : ∀ c ∈ t.toList, c.toNat < 128) :
    ∃ front, lower (s ++ t) = front ++ foldCase t := by
  have hchars (before cs : List Char) :
      ∃ front, lowerAfter before (cs ++ t.toList) = front ++ t.toList.map asciiLower := by
    induction cs generalizing before with
    | nil => exact ⟨[], lowerAfter_of_ascii h⟩
    | cons c cs ih =>
      obtain ⟨front, hfront⟩ := ih (c :: before)
      rw [List.cons_append, lowerAfter, hfront, ← List.append_assoc]
      exact ⟨_, rfl⟩
  obtain ⟨front, hfront⟩ := hchars [] s.toList
  refine ⟨String.ofList front, ?_⟩
  rw [← String.toList_inj]
  simpa [lower, foldCase] using hfront

/-- What holds of the characters of ASCII in turn holds of each of them. -/
theorem of_ascii {P : Char → Prop} (h : ∀ n < 128, P (Char.ofNat n)) {c : Char} (hc : c.toNat < 128) : P c := by
  have hchar := h c.toNat hc
  rwa [Char.ofNat_toNat] at hchar

lemma asciiLower_of_not_ascii {c : Char} (h : ¬ c.toNat < 128) : asciiLower c = c := by
  have hcapital : ¬ c ≤ 'Z' := fun hle =>
    h (Nat.lt_of_le_of_lt (UInt32.le_iff_toNat_le.1 (Char.le_def.1 hle)) (by decide))
  simp [asciiLower, hcapital]

/-- Only texts of ASCII are like a text of ASCII but for case. -/
theorem lower_of_foldCase_ascii (h : ∀ c ∈ (foldCase s).toList, c.toNat < 128) : lower s = foldCase s := by
  refine lower_of_ascii fun c hc => ?_
  have hmem : asciiLower c ∈ (foldCase s).toList := by
    rw [foldCase, toList_through]
    exact List.mem_map_of_mem hc
  by_cases hascii : c.toNat < 128
  · exact hascii
  · rw [asciiLower_of_not_ascii hascii] at hmem
    exact h c hmem

lemma mem_lowerAfter {before : List Char} {c : Char} (hascii : c.toNat < 128) (hc : asciiLower c = c)
    (h : c ∈ cs) : c ∈ lowerAfter before cs := by
  induction cs generalizing before with
  | nil => cases h
  | cons d cs ih =>
    rw [lowerAfter, List.mem_append]
    rcases List.mem_cons.1 h with rfl | h
    · simp [beq_sigma_of_ascii hascii, lowerChar, hascii, hc]
    · exact .inr (ih h)

end Text

open Text

/-! ## Identifiers -/

variable {c d : Char} {s : String}

lemma ne_of_isIdentifierChar (hc : isIdentifierChar c = true) (hd : isIdentifierChar d = false) :
    c ≠ d := by
  rintro rfl
  rw [hc] at hd
  cases hd

lemma toNat_lt_of_isIdentifierChar (h : isIdentifierChar c = true) : c.toNat < 128 := by
  simp only [isIdentifierChar, isIdentifierStart, Bool.or_eq_true, Bool.and_eq_true,
    decide_eq_true_eq, beq_iff_eq, Char.le_def, UInt32.le_iff_toNat_le] at h
  rcases h with ((⟨-, h⟩ | ⟨-, h⟩) | rfl) | ⟨-, h⟩
  · exact Nat.lt_of_le_of_lt h (by decide)
  · exact Nat.lt_of_le_of_lt h (by decide)
  · decide
  · exact Nat.lt_of_le_of_lt h (by decide)

lemma isIdentifierChar_of_isIdentifier (h : isIdentifier s = true) :
    ∀ c ∈ s.toList, isIdentifierChar c = true := by
  rw [isIdentifier] at h
  cases hs : s.toList with
  | nil => nofun
  | cons c cs =>
    rw [hs, isIdentifierChars, Bool.and_eq_true, List.all_eq_true] at h
    refine List.forall_mem_cons.2 ⟨?_, h.2⟩
    rw [isIdentifierChar, h.1, Bool.true_or]

lemma ne_empty_of_isIdentifier (h : isIdentifier s = true) : s ≠ "" := by
  rintro rfl
  exact absurd h (by decide)

lemma isIdentifier_append {s t : String} (hs : isIdentifier s = true)
    (ht : ∀ c ∈ t.toList, isIdentifierChar c = true) : isIdentifier (s ++ t) = true := by
  rw [isIdentifier] at hs ⊢
  rw [String.toList_append]
  cases hchars : s.toList with
  | nil => simp [hchars, isIdentifierChars] at hs
  | cons c cs =>
    rw [hchars, isIdentifierChars, Bool.and_eq_true, List.all_eq_true] at hs
    rw [List.cons_append, isIdentifierChars, Bool.and_eq_true, List.all_append, Bool.and_eq_true,
      List.all_eq_true, List.all_eq_true]
    exact ⟨hs.1, hs.2, ht⟩

lemma lower_of_isIdentifier (h : isIdentifier s = true) : lower s = foldCase s :=
  lower_of_ascii fun c hc => toNat_lt_of_isIdentifierChar (isIdentifierChar_of_isIdentifier h c hc)

end EntityScaffold
