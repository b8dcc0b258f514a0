import Mathlib.Data.List.Basic
import EntityScaffold.Text.Basic
/-!
# Parts of texts

Where a text can stand in a longer one.  It does not reach over what has no character in common with it
(`IsPartOf.cases_append`), so that a part of a joined text is a part of one of the texts that are joined
(`isPartOf_join_iff`).  A part that itself has a quote in it is found behind the first quote of a text, unless what is
before that quote makes it up (`infix_of_infix_append_cons`).
-/

namespace EntityScaffold.Text

/-- A text stands somewhere in another. -/
def IsPartOf (part whole : String) : Prop := part.toList <:+: whole.toList

/-- Whether some characters stand one after another among others, looked for from left to right. -/
def standsIn (part : List Char) : List Char → Bool
  | [] => part.isEmpty
  | c :: cs => part.isPrefixOf (c :: cs) || standsIn part cs

lemma standsIn_iff {part cs : List Char} : standsIn part cs = true ↔ part <:+: cs := by
  induction cs with
  | nil => simp [standsIn]
  | cons c cs ih => rw [standsIn, Bool.or_eq_true, ih, List.isPrefixOf_iff_prefix, List.infix_cons_iff]

instance (part whole : String) : Decidable (IsPartOf part whole) := decidable_of_iff _ standsIn_iff

/-! ## Characters -/

section Lists

variable {α : Type} {c : α} {l cs ds : List α}

/-- Nothing reaches over a character that it does not have. -/
lemma infix_append_cons_cases (hc : c ∉ l) (h : l <:+: cs ++ c :: ds) : l <:+: cs ∨ l <:+: ds := by
  have hbegin {t : List α} (ht : t <+: c :: ds) (hmem : c ∉ t) : t = [] := by
    rcases List.prefix_cons_iff.1 ht with hnil | ⟨t', rfl, -⟩
    · exact hnil
    · exact absurd List.mem_cons_self hmem
  rcases List.infix_append_iff.1 h with h | h | ⟨u, v, rfl, hu, hv⟩
  · exact .inl h
  · rcases List.infix_cons_iff.1 h with h | h
    · rw [hbegin h hc]
      exact .inl (List.nil_infix)
    · exact .inr h
  · obtain rfl := hbegin hv fun hmem => hc (List.mem_append_right u hmem)
    rw [List.append_nil]
    exact .inl hu.isInfix

/-- What has a mark stands behind the first mark of a list, unless it is made up by what is before that. -/
theorem infix_of_infix_append_cons {before after label : List α} (hbefore : c ∉ before) (hlabel : c ∉ label)
    (hends : ¬ before <:+ label) (h : before ++ c :: after <:+: label ++ c :: cs) : before ++ c :: after <:+: cs := by
  have hmark : c ∈ before ++ c :: after := List.mem_append_right before List.mem_cons_self
  rcases List.infix_append_iff.1 h with h | h | ⟨u, v, heq, hu, hv⟩
  · exact absurd (h.subset hmark) hlabel
  · rcases List.infix_cons_iff.1 h with h | h
    · cases before with
      | nil => exact absurd List.nil_suffix hends
      | cons d before => exact absurd (List.cons_prefix_cons.1 h).1 fun hd => hbefore (hd ▸ List.mem_cons_self)
    · exact h
  · -- the mark of the part would be the one of the list, as there is none before either
    have hfree : c ∉ u := fun hmem => hlabel (hu.subset hmem)
    rcases List.prefix_cons_iff.1 hv with rfl | ⟨t, rfl, -⟩
    · rw [heq, List.append_nil] at hmark
      exact absurd hmark hfree
    · rcases List.append_eq_append_iff.1 heq with ⟨e, rfl, he⟩ | ⟨e, rfl, he⟩
      · cases e with
        | nil =>
          rw [List.append_nil] at hu
          exact absurd hu hends
        | cons d e =>
          cases he
          exact absurd (List.mem_append_right before List.mem_cons_self) hfree
      · cases e with
        | nil =>
          rw [List.append_nil] at hends
          exact absurd hu hends
        | cons d e =>
          cases he
          exact absurd (List.mem_append_right u List.mem_cons_self) hbefore

end Lists

/-! ## Joined texts -/

namespace IsPartOf

variable {part sep s t : String}

lemma of_append_left (s : String) : IsPartOf part (s ++ part) := by
  rw [IsPartOf, String.toList_append]
  exact (List.suffix_append _ _).isInfix

/-- What has a character does not stand in a text without it. -/
lemma not_of_notMem {c : Char} (hpart : c ∈ part.toList) (hs : c ∉ s.toList) : ¬ IsPartOf part s :=
  fun h => hs (h.subset hpart)

/-- A text does not reach over a separator that has no character in common with it. -/
theorem cases_append (sep : String) (hsep : sep ≠ "") (hpart : ∀ c ∈ sep.toList, c ∉ part.toList)
    (h : IsPartOf part (s ++ sep ++ t)) : IsPartOf part s ∨ IsPartOf part t := by
  have hbehind {cs : List Char} (hcs : ∀ c ∈ cs, c ∉ part.toList) (h : part.toList <:+: cs ++ t.toList) :
      IsPartOf part t := by
    induction cs with
    | nil => exact h
    | cons c cs ih =>
      obtain ⟨hc, hcs⟩ := List.forall_mem_cons.1 hcs
      have hcons : part.toList <:+: [] ++ c :: (cs ++ t.toList) := h
      rcases infix_append_cons_cases hc hcons with h | h
      · rw [IsPartOf, List.infix_nil.1 h]
        exact List.nil_infix
      · exact ih hcs h
  obtain ⟨c, cs, hchars⟩ := List.exists_cons_of_ne_nil (mt String.toList_eq_nil_iff.1 hsep)
  rw [hchars] at hpart
  obtain ⟨hc, hcs⟩ := List.forall_mem_cons.1 hpart
  rw [IsPartOf, String.toList_append, String.toList_append, hchars, List.append_assoc, List.cons_append] at h
  rcases infix_append_cons_cases hc h with h | h
  · exact .inl h
  · exact .inr (hbehind hcs h)

lemma append_right (h : IsPartOf part s) (t : String) : IsPartOf part (s ++ t) := by
  rw [IsPartOf, String.toList_append]
  exact List.IsInfix.trans h (List.prefix_append _ _).isInfix

lemma append_left (h : IsPartOf part t) (s : String) : IsPartOf part (s ++ t) := by
  rw [IsPartOf, String.toList_append]
  exact List.IsInfix.trans h (List.suffix_append _ _).isInfix

end IsPartOf

/-- A text stands among others with separators in between, over which it cannot reach, exactly if it stands in one of
them. -/
theorem isPartOf_join_iff {part sep : String} (hne : part ≠ "") (hsep : sep ≠ "")
    (hpart : ∀ c ∈ sep.toList, c ∉ part.toList) {items : List String} :
    IsPartOf part (join sep items) ↔ ∃ item ∈ items, IsPartOf part item := by
  induction items with
  | nil =>
    have hnone : ¬ IsPartOf part (join sep []) := fun h => hne (String.toList_eq_nil_iff.1 (List.infix_nil.1 h))
    simp [hnone]
  | cons first more ih =>
    cases more with
    | nil => simp [join]
    | cons second more =>
      have hsplit : IsPartOf part (join sep (first :: second :: more)) ↔
          IsPartOf part first ∨ IsPartOf part (join sep (second :: more)) := by
        constructor
        · exact IsPartOf.cases_append sep hsep hpart
        · rintro (h | h)
          · exact (h.append_right sep).append_right _
          · exact h.append_left (first ++ sep)
      rw [hsplit, ih]
      simp only [List.exists_mem_cons_iff]

end EntityScaffold.Text
