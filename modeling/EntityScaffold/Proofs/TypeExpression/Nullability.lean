import EntityScaffold.Proofs.Definition
import EntityScaffold.Proofs.Resolver.Answers
import EntityScaffold.Proofs.Text.Words
/-!
# The mark of nullability

A type that may be null is written with a question mark before it.  The mark belongs to the first word, so it has to
stand right before the base: an expression that begins with a blank or with another mark is a different matter
(`IsUnmarked`).  Before every other text, whatever there is behind its first character, the mark is taken off and what
remains is read as if it had not been there, faults included (`split_mark`).

The one text without a first character is the empty one.  It is no expression, and neither is the mark alone, but they
are turned down for different reasons.
-/

namespace EntityScaffold

open Text

namespace TypeExpression

variable {recognized : List String} {token : String} {head : List Char} {t : TypeExpression}

/-- A text before which the mark may be put: it begins with neither a blank nor a mark. -/
def IsUnmarked (token : String) : Prop := ∀ c ∈ token.toList.head?, isBlank c = false ∧ c ≠ '?'

instance : DecidablePred IsUnmarked := fun _ => Option.decidableForallMem _

/-- The same type, but it may be null. -/
def orNull (t : TypeExpression) : TypeExpression := { t with nullable := true }

lemma readNullable_of_head?_ne (h : head.head? ≠ some '?') : readNullable head = (false, head) := by
  unfold readNullable
  split
  · exact absurd rfl h
  · rfl

/-- The mark is taken off the first word. -/
lemma ofWords_mark (recognized : List String) (h : head.head? ≠ some '?') (rest : List (List Char)) :
    ofWords recognized (('?' :: head) :: rest) = (ofWords recognized (head :: rest)).map orNull := by
  have hmark : readNullable ('?' :: head) = (true, head) := rfl
  simp only [ofWords, hmark, readNullable_of_head?_ne h]
  cases readFlags recognized [] rest with
  | error fault => rfl
  | ok flags =>
    cases readHead head with
    | error fault => rfl
    | ok parts => rfl

lemma nullable_of_ofWords {rest : List (List Char)} (h : head.head? ≠ some '?')
    (ht : ofWords recognized (head :: rest) = .ok t) : t.nullable = false := by
  simp only [ofWords, readNullable_of_head?_ne h] at ht
  obtain ⟨flags, -, ht⟩ := bind_eq_ok_iff.1 ht
  obtain ⟨parts, -, ht⟩ := bind_eq_ok_iff.1 ht
  cases ht
  rfl

/-- With the mark before it, a text is taken apart in the same way, and turned down for the same reason. -/
theorem split_mark (recognized : List String) (h : IsUnmarked token) (hne : token ≠ "") :
    split recognized ("?" ++ token) = (split recognized token).map orNull ∧
      ∀ t, split recognized token = .ok t → t.nullable = false := by
  obtain ⟨c, cs, hchars⟩ := List.exists_cons_of_ne_nil (mt String.toList_eq_nil_iff.1 hne)
  obtain ⟨hblank, hmark⟩ := h c (by rw [hchars]; rfl)
  obtain ⟨word, rest, hwords, hbefore⟩ := exists_wordsOf_cons hblank cs
  have hmarked : wordsOf ("?" ++ token).toList = ('?' :: c :: word) :: rest := by
    rw [String.toList_append, hchars]
    exact hbefore '?' (by decide)
  have hhead : (c :: word).head? ≠ some '?' := fun heq => hmark (Option.some.inj heq)
  rw [split, split, hmarked, hchars, hwords]
  exact ⟨ofWords_mark recognized hhead rest, fun t ht => nullable_of_ofWords hhead ht⟩

lemma split_mark_eq_ok_iff (h : IsUnmarked token) :
    split recognized ("?" ++ token) = .ok t ↔
      ∃ u, split recognized token = .ok u ∧ u.nullable = false ∧ t = u.orNull := by
  by_cases hempty : token = ""
  · -- no base stands behind a mark alone, and the empty text has no words
    subst hempty
    constructor
    · intro h
      cases h
    · rintro ⟨u, hu, -⟩
      cases hu
  · obtain ⟨hsplit, hnullable⟩ := split_mark recognized h hempty
    rw [hsplit]
    cases hu : split recognized token with
    | error fault => simp [Except.map]
    | ok u =>
      rw [Except.map, Except.ok.injEq]
      constructor
      · rintro rfl
        exact ⟨u, rfl, hnullable u hu, rfl⟩
      · rintro ⟨u', hu', -, rfl⟩
        cases hu'
        rfl

end TypeExpression

namespace TypeReader

open TypeExpression

variable {reader : TypeReader} {token : String} {o : TypeOutcome}

/-- What a base stands for does not hang on the text in which it is written. -/
lemma sense_congr {text text' : Option String} {base : String} {sense : TypeSense} :
    reader.sense text base = .ok sense ↔ reader.sense text' base = .ok sense :=
  sense_eq_ok_iff.trans sense_eq_ok_iff.symm

/-- With the mark before it, a text is read as the same type, which may be null. -/
lemma read_mark_eq_ok_iff (h : IsUnmarked token) :
    reader.read ("?" ++ token) = .ok o ↔
      ∃ p, reader.read token = .ok p ∧ p.nullable = false ∧ o = { p with nullable := true } := by
  rw [read_eq_ok_iff]
  constructor
  · rintro ⟨t, sense, hsplit, hsense, rfl⟩
    obtain ⟨u, hu, hnullable, rfl⟩ := (split_mark_eq_ok_iff h).1 hsplit
    have hread : reader.read token = .ok ⟨sense, u.nullable, u.modifiers⟩ :=
      read_eq_ok_iff.2 ⟨u, sense, hu, sense_congr.1 hsense, rfl⟩
    exact ⟨_, hread, hnullable, rfl⟩
  · rintro ⟨p, hread, hnullable, rfl⟩
    obtain ⟨u, sense, hu, hsense, rfl⟩ := read_eq_ok_iff.1 hread
    exact ⟨u.orNull, sense, (split_mark_eq_ok_iff h).2 ⟨u, hu, hnullable, rfl⟩, sense_congr.1 hsense, rfl⟩

/-- An unmarked text that is read as a type is read as one that may not be null. -/
lemma nullable_of_read (h : IsUnmarked token) (hread : reader.read token = .ok o) : o.nullable = false := by
  obtain ⟨t, sense, hsplit, -, rfl⟩ := read_eq_ok_iff.1 hread
  have hne : token ≠ "" := by
    rintro rfl
    cases hsplit
  exact (split_mark reader.recognizedFlags h hne).2 t hsplit

/-- A text is read with the mark before it exactly if it is read without, and then the types differ in nothing but
that one of them may be null. -/
theorem mark_changes_nullability_only (reader : TypeReader) (token : String) (h : IsUnmarked token) :
    ((∃ o, reader.read ("?" ++ token) = .ok o) ↔ ∃ o, reader.read token = .ok o) ∧
      ∀ o o', reader.read token = .ok o → reader.read ("?" ++ token) = .ok o' →
        o.nullable = false ∧ o'.nullable = true ∧ o'.sense = o.sense ∧ o'.modifiers = o.modifiers := by
  constructor
  · constructor
    · rintro ⟨o, ho⟩
      obtain ⟨p, hp, -, -⟩ := (read_mark_eq_ok_iff h).1 ho
      exact ⟨p, hp⟩
    · rintro ⟨p, hp⟩
      exact ⟨_, (read_mark_eq_ok_iff h).2 ⟨p, hp, nullable_of_read h hp, rfl⟩⟩
  · intro o o' ho ho'
    obtain ⟨p, hp, hnullable, rfl⟩ := (read_mark_eq_ok_iff h).1 ho'
    obtain rfl : p = o := Except.ok.inj (hp.symm.trans ho)
    exact ⟨hnullable, rfl, rfl, rfl⟩

/-- A reader that knows one class. -/
def plain : TypeReader := ⟨Resolver.library ["App"] ["App\\User"], ["unique"]⟩

/-- A primitive type with modifiers, and an entity with a flag that does not count. -/
theorem marked_types_are_read :
    (IsUnmarked "decimal|10,2 --UNIQUE" ∧ ∃ o o', plain.read "decimal|10,2 --UNIQUE" = .ok o ∧
      plain.read "?decimal|10,2 --UNIQUE" = .ok o' ∧
        o.nullable = false ∧ o'.nullable = true ∧ o'.sense = o.sense ∧ o'.modifiers = o.modifiers) ∧
    IsUnmarked "User --x" ∧ ∃ o o', plain.read "User --x" = .ok o ∧ plain.read "?User --x" = .ok o' ∧
      o.nullable = false ∧ o'.nullable = true ∧ o'.sense = o.sense ∧ o'.modifiers = o.modifiers := by
  have happlied {token : String} {o : TypeOutcome} (h : IsUnmarked token) (ho : plain.read token = .ok o) :
      ∃ o o', plain.read token = .ok o ∧ plain.read ("?" ++ token) = .ok o' ∧
        o.nullable = false ∧ o'.nullable = true ∧ o'.sense = o.sense ∧ o'.modifiers = o.modifiers := by
    obtain ⟨hiff, hsame⟩ := mark_changes_nullability_only plain token h
    obtain ⟨o', ho'⟩ := hiff.2 ⟨o, ho⟩
    exact ⟨o, o', ho, ho', hsame o o' ho ho'⟩
  have hdecimal : plain.read "decimal|10,2 --UNIQUE" = .ok
      ⟨.scalar ⟨"string", "decimal"⟩, false, { precision := some 10, scale := some 2, flags := ["unique"] }⟩ := by
    decide
  have huser : plain.read "User --x" = .ok ⟨.entity "User" "App\\User", false, {}⟩ := by decide
  exact ⟨⟨by decide, happlied (by decide) hdecimal⟩, by decide, happlied (by decide) huser⟩

end TypeReader

end EntityScaffold
