import EntityScaffold.Proofs.Text.Words
import EntityScaffold.Proofs.TypeExpression.Printing
/-!
# Words that do not count

A type expression is read by its words, so it does not matter how they are spaced.  Behind the first word there are
flags, and of these only the ones count that are recognized and have not been given before.  The others are idle
(`IsIdle`): an idle word may be left out or put in anywhere behind the first word, and the same is read as before,
also where that is nothing (`ofWords_idle`).

Flags are compared in small letters, so a flag is repeated in whatever case it is written.  That it was given before
is a matter of the place: a word that repeats a flag further behind is not idle, because it would come first.
-/

namespace EntityScaffold.TypeExpression

open Text

variable {recognized seen : List String} {before after words : List (List Char)} {word : List Char}
  {flag : String} {t : TypeExpression}

/-- A flag behind other words that does not count: it is not recognized, or one of those words gives it already. -/
def IsIdle (recognized : List String) (before : List (List Char)) (word : List Char) : Prop :=
  ∃ flag, word = flagWord flag ∧
    (lower flag ∉ recognized ∨ ∃ other, flagWord other ∈ before ∧ lower other = lower flag)

/-- What has been read only grows, so a flag that is repeated has been seen when it is reached. -/
lemma readFlags_idle (h : lower flag ∉ recognized ∨ lower flag ∈ seen ∨
      ∃ other, flagWord other ∈ before ∧ lower other = lower flag) :
    readFlags recognized seen (before ++ flagWord flag :: after) = readFlags recognized seen (before ++ after) := by
  induction before generalizing seen with
  | nil =>
    have hidle : lower flag ∉ recognized ∨ lower flag ∈ seen := by
      rcases h with h | h | ⟨other, hother, -⟩
      · exact .inl h
      · exact .inr h
      · cases hother
    rw [List.nil_append, List.nil_append, readFlags_cons, readFlag_flagWord, ok_bind, addFlag_eq_self hidle]
  | cons first rest ih =>
    rw [List.cons_append, List.cons_append, readFlags_cons, readFlags_cons]
    cases hfirst : readFlag first with
    | error fault => rfl
    | ok given =>
      rw [ok_bind, ok_bind]
      apply ih
      rcases h with h | h | ⟨other, hother, hlower⟩
      · exact .inl h
      · exact .inr (.inl (subset_addFlag recognized seen given h))
      · rcases List.mem_cons.1 hother with rfl | hother
        · -- the first word gives the flag, so it is recognized and seen, or not recognized at all
          rw [readFlag_flagWord, hlower] at hfirst
          cases hfirst
          by_cases hknown : lower flag ∈ recognized
          · exact .inr (.inl (mem_addFlag_self hknown seen))
          · exact .inl hknown
        · exact .inr (.inr ⟨other, hother, hlower⟩)

/-- The same is read with an idle word and without it. -/
theorem ofWords_idle (h : IsIdle recognized before word) (head : List Char) (after : List (List Char)) :
    ofWords recognized (head :: (before ++ word :: after)) = ofWords recognized (head :: (before ++ after)) := by
  obtain ⟨flag, rfl, hidle⟩ := h
  have hflags :
      readFlags recognized [] (before ++ flagWord flag :: after) = readFlags recognized [] (before ++ after) :=
    readFlags_idle (hidle.imp_right .inr)
  simp only [ofWords, hflags]

/-- A text is read as the words that it writes. -/
lemma read_of_isWritten {token : String} (h : IsWritten words token.toList) :
    read recognized (some token) = .ok t ↔ ofWords recognized words = .ok t := by
  rw [read_eq_ok_iff, Option.getD_some, h.wordsOf_eq]

/-- Texts that write the same words are read as the same, and so are texts of which one has an idle word more. -/
theorem spacing_and_idle_words_are_ignored (recognized : List String) (token token' : String) :
    (∀ words, IsWritten words token.toList → IsWritten words token'.toList →
        ∀ t, read recognized (some token) = .ok t ↔ read recognized (some token') = .ok t) ∧
      ∀ head before word after, IsWritten (head :: (before ++ after)) token.toList →
        IsWritten (head :: (before ++ word :: after)) token'.toList → IsIdle recognized before word →
          ∀ t, read recognized (some token) = .ok t ↔ read recognized (some token') = .ok t := by
  constructor
  · intro words h h' t
    rw [read_of_isWritten h, read_of_isWritten h']
  · intro head before word after h h' hidle t
    rw [read_of_isWritten h, read_of_isWritten h', ofWords_idle hidle]

/-- An expression in which the blanks are other ones, and in which a flag is repeated and another not recognized. -/
theorem code_is_read_with_idle_words :
    let code : TypeExpression := ⟨false, "string", { length := some 31, flags := ["unique"] }⟩
    read ["unique", "index"] (some "string|31 --unique") = .ok code ∧
      read ["unique", "index"] (some "\tstring|31  \n--unique ") = .ok code ∧
      read ["unique", "index"] (some "string|31 --unique --UNIQUE") = .ok code ∧
      read ["unique", "index"] (some "string|31 --Hidden --unique") = .ok code := by
  intro code
  have hread : read ["unique", "index"] (some "string|31 --unique") = .ok code := by decide
  have hwords : IsWritten ["string|31".toList, "--unique".toList] "string|31 --unique".toList :=
    wordsOf_eq_iff.1 (by decide)
  have hspaced : IsWritten ["string|31".toList, "--unique".toList] "\tstring|31  \n--unique ".toList :=
    wordsOf_eq_iff.1 (by decide)
  have hrepeated : IsWritten ["string|31".toList, "--unique".toList, "--UNIQUE".toList]
      "string|31 --unique --UNIQUE".toList := wordsOf_eq_iff.1 (by decide)
  have hunknown : IsWritten ["string|31".toList, "--Hidden".toList, "--unique".toList]
      "string|31 --Hidden --unique".toList := wordsOf_eq_iff.1 (by decide)
  have hidle : IsIdle ["unique", "index"] ["--unique".toList] "--UNIQUE".toList :=
    ⟨"UNIQUE", by decide, .inr ⟨"unique", by decide, by decide⟩⟩
  have hidle' : IsIdle ["unique", "index"] [] "--Hidden".toList := ⟨"Hidden", by decide, .inl (by decide)⟩
  have happly (token' : String) :=
    spacing_and_idle_words_are_ignored ["unique", "index"] "string|31 --unique" token'
  refine ⟨hread, ((happly _).1 _ hwords hspaced code).1 hread, ?_, ?_⟩
  · exact ((happly _).2 _ ["--unique".toList] _ [] hwords hrepeated hidle code).1 hread
  · exact ((happly _).2 _ [] _ ["--unique".toList] hwords hunknown hidle' code).1 hread

end EntityScaffold.TypeExpression
