import Mathlib.Data.List.Nodup
import EntityScaffold.Text.Basic
/-!
# Texts in order, each once

`distinct` keeps the first of equal texts, so the same texts are in the list as before (`mem_distinct_iff`), and each of
them once (`nodup_distinct`).

Texts are ordered by code point, and lists of them are sorted by the texts themselves or by a key, such as the text in
lower case.  Texts with one key stay in the order in which they were listed, so a list is determined by what is in it
only if the keys differ (`eq_of_sortedBy`).
-/

namespace EntityScaffold.Text

variable {items others seen : List String} {key : String → String} {s t : String}

/-! ## Each text once -/

lemma mem_distinctFrom_iff : s ∈ distinctFrom seen items ↔ s ∈ items ∧ s ∉ seen := by
  induction items generalizing seen with
  | nil => simp [distinctFrom]
  | cons item items ih =>
    rw [distinctFrom]
    split
    · next hseen =>
      rw [ih, List.mem_cons]
      constructor
      · rintro ⟨hmem, hnew⟩
        exact ⟨.inr hmem, hnew⟩
      · rintro ⟨rfl | hmem, hnew⟩
        · exact absurd hseen hnew
        · exact ⟨hmem, hnew⟩
    · next hseen =>
      rw [List.mem_cons, ih, List.mem_cons, List.mem_cons, not_or]
      constructor
      · rintro (rfl | ⟨hmem, -, hnew⟩)
        · exact ⟨.inl rfl, hseen⟩
        · exact ⟨.inr hmem, hnew⟩
      · rintro ⟨heq | hmem, hnew⟩
        · exact .inl heq
        · by_cases heq : s = item
          · exact .inl heq
          · exact .inr ⟨hmem, heq, hnew⟩

@[simp] theorem mem_distinct_iff : s ∈ distinct items ↔ s ∈ items := by
  rw [distinct, mem_distinctFrom_iff]
  simp

lemma nodup_distinctFrom : (distinctFrom seen items).Nodup := by
  induction items generalizing seen with
  | nil => exact List.nodup_nil
  | cons item items ih =>
    rw [distinctFrom]
    split
    · exact ih
    · refine List.nodup_cons.2 ⟨fun hmem => ?_, ih⟩
      exact (mem_distinctFrom_iff.1 hmem).2 List.mem_cons_self

theorem nodup_distinct (items : List String) : (distinct items).Nodup := nodup_distinctFrom

/-! ## Order -/

lemma le_iff : le s t = true ↔ s ≤ t := by
  rw [le, Bool.not_eq_true', decide_eq_false_iff_not, String.not_lt]

/-- Sorting by a key puts the keys in order. -/
lemma pairwise_mergeSort_key (key : String → String) (items : List String) :
    (items.mergeSort fun s t => le (key s) (key t)).Pairwise fun s t => key s ≤ key t := by
  have hsorted : (items.mergeSort fun s t => le (key s) (key t)).Pairwise fun s t => le (key s) (key t) = true := by
    refine List.pairwise_mergeSort (fun a b c hab hbc => ?_) (fun a b => ?_) items
    · exact le_iff.2 (String.le_trans (le_iff.1 hab) (le_iff.1 hbc))
    · rw [Bool.or_eq_true, le_iff, le_iff]
      exact String.le_total (key a) (key b)
  exact hsorted.imp le_iff.1

lemma pairwise_sorted (items : List String) : (sorted items).Pairwise (· ≤ ·) := pairwise_mergeSort_key id items

/-- Lists with the same texts, each once and in order of different keys, are the same. -/
theorem eq_of_sortedBy (hitems : items.Pairwise fun s t => key s ≤ key t)
    (hothers : others.Pairwise fun s t => key s ≤ key t) (hnodup : items.Nodup) (hnodup' : others.Nodup)
    (hkeys : ∀ s ∈ items, ∀ t ∈ items, key s = key t → s = t) (hmem : ∀ s, s ∈ others ↔ s ∈ items) :
    others = items := by
  refine List.Perm.eq_of_pairwise (fun s t hs ht hle hge => ?_) hothers hitems
    ((List.perm_ext_iff_of_nodup hnodup' hnodup).2 hmem)
  exact hkeys s ((hmem s).1 hs) t ht (String.le_antisymm hle hge)

end EntityScaffold.Text
