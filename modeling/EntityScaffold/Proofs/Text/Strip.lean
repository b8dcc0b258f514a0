import Mathlib.Data.List.DropRight
import EntityScaffold.Naming.ClassName
import EntityScaffold.Text.Blank
/-!
# Stripping

What `stripWhile` leaves of a text: nothing when every character is dropped, and otherwise a text that
begins and ends with a character that is kept, which is why stripping twice is stripping once.  The two
uses of it are `trim`, which drops blanks, and `ClassName.bare`, which drops backslashes.
-/

namespace EntityScaffold.Text

variable {p : Char → Bool} {cs : List Char}

lemma dropEndWhile_eq_rdropWhile (p : Char → Bool) (cs : List Char) :
    dropEndWhile p cs = cs.rdropWhile p := rfl

/-- Nothing is left exactly when every character is dropped. -/
lemma stripWhile_eq_nil_iff : stripWhile p cs = [] ↔ ∀ c ∈ cs, p c = true := by
  rw [stripWhile, dropEndWhile_eq_rdropWhile, List.rdropWhile_eq_nil_iff]
  constructor
  · intro h c hc
    rw [← List.takeWhile_append_dropWhile (p := p) (l := cs), List.mem_append] at hc
    rcases hc with hc | hc
    · exact List.mem_takeWhile_imp hc
    · exact h c hc
  · intro h c hc
    exact h c ((List.dropWhile_sublist p).subset hc)

lemma dropEndWhile_subset (p : Char → Bool) (cs : List Char) : dropEndWhile p cs ⊆ cs := by
  intro c hc
  have hmem := (List.dropWhile_sublist p).subset (List.mem_reverse.1 hc)
  exact List.mem_reverse.1 hmem

/-- What is not dropped stays. -/
lemma mem_dropEndWhile {c : Char} (hc : c ∈ cs) (hp : p c = false) :
    c ∈ dropEndWhile p cs := by
  have hsplit : c ∈ cs.reverse.takeWhile p ++ cs.reverse.dropWhile p := by
    rw [List.takeWhile_append_dropWhile]
    exact List.mem_reverse.2 hc
  rcases List.mem_append.1 hsplit with hdropped | hkept
  · rw [List.mem_takeWhile_imp hdropped] at hp
    cases hp
  · exact List.mem_reverse.2 hkept

lemma stripWhile_subset (p : Char → Bool) (cs : List Char) : stripWhile p cs ⊆ cs :=
  fun _ hc => (List.dropWhile_sublist p).subset (dropEndWhile_subset p _ hc)

/-- What is stripped from a text stood around the rest. -/
theorem exists_stripWhile_eq (p : Char → Bool) (cs : List Char) :
    ∃ before after, cs = before ++ stripWhile p cs ++ after ∧ (∀ c ∈ before, p c = true) ∧ ∀ c ∈ after, p c = true := by
  refine ⟨cs.takeWhile p, (cs.dropWhile p).rtakeWhile p, ?_, fun c => List.mem_takeWhile_imp,
    fun c => List.mem_rtakeWhile_imp⟩
  rw [stripWhile, dropEndWhile_eq_rdropWhile, List.append_assoc, List.rdropWhile_append_rtakeWhile,
    List.takeWhile_append_dropWhile]

/-- A text that begins and ends with characters that are kept is left as it is. -/
theorem stripWhile_eq_self (hfirst : ∀ h : cs ≠ [], p (cs.head h) = false)
    (hlast : ∀ h : cs ≠ [], p (cs.getLast h) = false) : stripWhile p cs = cs := by
  have hdrop : cs.dropWhile p = cs := by
    cases cs with
    | nil => rfl
    | cons c rest =>
      have hc : p c = false := hfirst (List.cons_ne_nil c rest)
      simp [hc]
  rw [stripWhile, hdrop, dropEndWhile_eq_rdropWhile, List.rdropWhile_eq_self_iff]
  intro h
  simp [hlast h]

/-- What is left begins with a character that is kept. -/
theorem head_stripWhile (h : stripWhile p cs ≠ []) : p ((stripWhile p cs).head h) = false := by
  have hfront : stripWhile p cs <+: cs.dropWhile p := List.rdropWhile_prefix p (cs.dropWhile p)
  have hne : cs.dropWhile p ≠ [] := fun hnil => h (by simpa [hnil] using hfront)
  rw [hfront.head h]
  exact List.head_dropWhile_not p hne

/-- What is left ends with a character that is kept. -/
theorem getLast_stripWhile (h : stripWhile p cs ≠ []) :
    p ((stripWhile p cs).getLast h) = false :=
  Bool.eq_false_iff.2 (List.rdropWhile_last_not p (cs.dropWhile p) h)

/-- Stripping twice is stripping once. -/
@[simp] lemma stripWhile_stripWhile : stripWhile p (stripWhile p cs) = stripWhile p cs :=
  stripWhile_eq_self head_stripWhile getLast_stripWhile

/-- What is dropped may stand around a text or not. -/
lemma stripWhile_append_append {before after : List Char} (hbefore : ∀ c ∈ before, p c = true)
    (hafter : ∀ c ∈ after, p c = true) : stripWhile p (before ++ cs ++ after) = stripWhile p cs := by
  have hend : dropEndWhile p (cs.dropWhile p ++ after) = dropEndWhile p (cs.dropWhile p) := by
    have hreverse : ∀ c ∈ after.reverse, p c = true := fun c hc => hafter c (List.mem_reverse.1 hc)
    rw [dropEndWhile, List.reverse_append, List.dropWhile_append_of_pos hreverse, dropEndWhile]
  rw [stripWhile, List.append_assoc, List.dropWhile_append_of_pos hbefore, List.dropWhile_append]
  split
  · next hempty =>
    rw [List.dropWhile_eq_nil_iff.2 hafter, stripWhile, List.isEmpty_iff.1 hempty]
  · exact hend

@[simp] lemma trim_trim (s : String) : trim (trim s) = trim s := by
  simp [trim, through]

/-- A text is trimmed to nothing exactly when it is blank. -/
lemma trim_eq_empty_iff (s : String) : trim s = "" ↔ isBlankText s = true := by
  rw [trim, through, String.ofList_eq_empty_iff, stripWhile_eq_nil_iff, isBlankText,
    List.all_eq_true]

/-! ## Texts without blanks -/

/-- A text without blanks is trimmed already. -/
theorem trim_of_noBlank {s : String} (h : ∀ c ∈ s.toList, isBlank c = false) : trim s = s := by
  rw [trim, through, stripWhile_eq_self, String.ofList_toList]
  · exact fun hne => h _ (List.head_mem hne)
  · exact fun hne => h _ (List.getLast_mem hne)

/-- A text without blanks is one word. -/
theorem wordsOf_of_noBlank (hne : cs ≠ []) (h : ∀ c ∈ cs, isBlank c = false) :
    wordsOf cs = [cs] := by
  rw [wordsOf, List.splitOnP_eq_singleton]
  · simp [hne]
  · simpa using h

/-- A blank ends a word. -/
theorem wordsOf_append_cons {c : Char} (hc : isBlank c = true) (cs ds : List Char) :
    wordsOf (cs ++ c :: ds) = wordsOf cs ++ wordsOf ds := by
  rw [wordsOf, List.splitOnP_append_cons _ _ hc, List.filter_append]
  rfl

end EntityScaffold.Text
