import EntityScaffold.Proofs.Text.Strip
/-!
# Words and the blanks between them

A text is cut into its words at the blanks.  Seen from the other side, the words of a text are what is left of it when
the blanks are forgotten: `IsWritten words cs` says that `cs` writes these words one after another, with at least one
blank between neighbours and any blanks around, and there is one list of words for each text (`wordsOf_eq_iff`).  So
two texts have the same words exactly if they differ in blanks, and never in where there are some.
-/

namespace EntityScaffold.Text

variable {c : Char} {cs gap : List Char} {words : List (List Char)}

/-- A text that writes some words, with blanks between them and around them. -/
inductive IsWritten : List (List Char) → List Char → Prop
  | blank {cs : List Char} (h : ∀ c ∈ cs, isBlank c = true) : IsWritten [] cs
  /-- What follows a word begins with a blank, or there is nothing. -/
  | word {gap word rest : List Char} {words : List (List Char)} (hgap : ∀ c ∈ gap, isBlank c = true)
      (hne : word ≠ []) (hword : ∀ c ∈ word, isBlank c = false) (hrest : ∀ c ∈ rest.head?, isBlank c = true)
      (h : IsWritten words rest) : IsWritten (word :: words) (gap ++ (word ++ rest))

lemma wordsOf_cons_of_isBlank (hc : isBlank c = true) (cs : List Char) : wordsOf (c :: cs) = wordsOf cs :=
  wordsOf_append_cons hc [] cs

/-- Blanks before a text are no words. -/
lemma wordsOf_append_of_blank (hgap : ∀ c ∈ gap, isBlank c = true) (cs : List Char) :
    wordsOf (gap ++ cs) = wordsOf cs := by
  induction gap with
  | nil => rfl
  | cons c gap ih =>
    obtain ⟨hc, hgap⟩ := List.forall_mem_cons.1 hgap
    rw [List.cons_append, wordsOf_cons_of_isBlank hc, ih hgap]

/-- A character that is no blank begins the first word, and so does another one before it. -/
lemma exists_wordsOf_cons (hc : isBlank c = false) (cs : List Char) : ∃ word rest,
    wordsOf (c :: cs) = (c :: word) :: rest ∧
      ∀ b, isBlank b = false → wordsOf (b :: c :: cs) = (b :: c :: word) :: rest := by
  obtain ⟨word, more, hsplit⟩ := List.exists_cons_of_ne_nil (List.splitOnP_ne_nil isBlank cs)
  refine ⟨word, more.filter fun w => !w.isEmpty, ?_, fun b hb => ?_⟩
  · simp [wordsOf, List.splitOnP_cons_eq_if_modifyHead, hc, hsplit]
  · simp [wordsOf, List.splitOnP_cons_eq_if_modifyHead, hc, hb, hsplit]

/-! ## Words that are written -/

lemma IsWritten.wordsOf_eq (h : IsWritten words cs) : wordsOf cs = words := by
  induction h with
  | @blank cs h =>
    have hall := wordsOf_append_of_blank h []
    rwa [List.append_nil] at hall
  | @word gap word rest words hgap hne hword hrest h ih =>
    rw [wordsOf_append_of_blank hgap]
    cases rest with
    | nil =>
      rw [List.append_nil, wordsOf_of_noBlank hne hword, ← ih]
      rfl
    | cons c rest =>
      have hc : isBlank c = true := hrest c rfl
      rw [wordsOf_cons_of_isBlank hc] at ih
      rw [wordsOf_append_cons hc, wordsOf_of_noBlank hne hword, ih, List.singleton_append]

/-- A blank before a text changes nothing of what it writes. -/
lemma IsWritten.cons_blank (hc : isBlank c = true) (h : IsWritten words cs) : IsWritten words (c :: cs) := by
  cases h with
  | blank h => exact .blank (List.forall_mem_cons.2 ⟨hc, h⟩)
  | word hgap hne hword hrest h => exact .word (List.forall_mem_cons.2 ⟨hc, hgap⟩) hne hword hrest h

/-- A text without a blank at the beginning begins with its first word, and another character goes before that. -/
lemma IsWritten.cons_of_head {d : Char} (hc : isBlank c = false) (hd : isBlank d = false)
    (h : IsWritten words (d :: cs)) : IsWritten (words.modifyHead (c :: ·)) (c :: d :: cs) := by
  generalize htext : d :: cs = text at h
  cases h with
  | blank h =>
    rw [← htext] at h
    rw [h d List.mem_cons_self] at hd
    cases hd
  | @word gap word rest words hgap hne hword hrest h =>
    cases gap with
    | nil =>
      have hlonger : ∀ b ∈ c :: word, isBlank b = false := List.forall_mem_cons.2 ⟨hc, hword⟩
      exact .word (List.forall_mem_nil _) (List.cons_ne_nil c word) hlonger hrest h
    | cons b gap =>
      obtain rfl : d = b := (List.cons.inj htext).1
      rw [hgap d List.mem_cons_self] at hd
      cases hd

/-- Every text writes its words. -/
lemma isWritten_wordsOf (cs : List Char) : IsWritten (wordsOf cs) cs := by
  induction cs with
  | nil => exact .blank (List.forall_mem_nil _)
  | cons c cs ih =>
    cases hc : isBlank c with
    | true =>
      rw [wordsOf_cons_of_isBlank hc]
      exact ih.cons_blank hc
    | false =>
      have halone (h : ∀ d ∈ cs.head?, isBlank d = true) : IsWritten ([c] :: wordsOf cs) (c :: cs) :=
        .word (List.forall_mem_nil _) (List.cons_ne_nil c []) (List.forall_mem_singleton.2 hc) h ih
      cases cs with
      | nil =>
        rw [wordsOf_of_noBlank (List.cons_ne_nil c []) (List.forall_mem_singleton.2 hc)]
        exact halone (by simp)
      | cons d cs =>
        cases hd : isBlank d with
        | true =>
          have hwords : wordsOf (c :: d :: cs) = [c] :: wordsOf (d :: cs) := by
            rw [wordsOf_cons_of_isBlank hd, ← List.singleton_append, wordsOf_append_cons hd,
              wordsOf_of_noBlank (List.cons_ne_nil c []) (List.forall_mem_singleton.2 hc), List.singleton_append]
          rw [hwords]
          exact halone (by simpa using hd)
        | false =>
          obtain ⟨word, rest, hwords, hbefore⟩ := exists_wordsOf_cons hd cs
          rw [hbefore c hc]
          rw [hwords] at ih
          exact ih.cons_of_head hc hd

/-- The words of a text are those that it writes. -/
theorem wordsOf_eq_iff : wordsOf cs = words ↔ IsWritten words cs := by
  constructor
  · rintro rfl
    exact isWritten_wordsOf cs
  · exact IsWritten.wordsOf_eq

end EntityScaffold.Text
