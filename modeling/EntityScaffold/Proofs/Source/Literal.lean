import Mathlib.Algebra.Ring.Parity
import EntityScaffold.Proofs.Source.Literal.Forms
import EntityScaffold.Proofs.Text.Strip
/-!
# Literals of texts

The default of a text goes into the generated source as a literal, and there it is read by other rules: a backslash
takes the character behind it along, and the first quote that is not taken along ends the literal.  Whether that is
the last character can be told in two ways: by the backslashes before each quote (`IsSealed`), or by reading from the
left (`behind`).  They agree (`behind_eq_some_iff`), so a text that is one literal is read to its end and no further,
whatever follows it in the source (`isComplete_iff`).

A text that is put between quotes is escaped, and makes one literal always (`isComplete_quote`).  The other way for a
default to come into the source is to stand between quotes already.  It is then taken as it is, so it makes one
literal exactly if it is one: this is the only way in which a default can end early, and what stands behind the end
is read as source (`text_defaults_are_complete_iff`).
-/

namespace EntityScaffold.Literal

open Text

variable {q c : Char} {cs body rest : List Char} {value : String}

/-! ## Quotes that are taken along -/

/-- A quote of either kind. -/
def IsQuote (q : Char) : Prop := q = '\'' ∨ q = '"'

instance : DecidablePred IsQuote := fun _ => inferInstanceAs (Decidable (_ ∨ _))

/-- How many backslashes stand at the end of a text. -/
def backslashes (cs : List Char) : Nat := (cs.rtakeWhile (· == '\\')).length

/-- What can stand between two quotes: every quote in it has an odd number of backslashes right before it, and the
last quote has not. -/
structure IsSealed (q : Char) (body : List Char) : Prop where
  inside : ∀ before after, body = before ++ q :: after → Odd (backslashes before)
  close : ¬ Odd (backslashes body)

/-- One complete literal: two quotes, and between them what is sealed. -/
def IsComplete (cs : List Char) : Prop := ∃ q body, IsQuote q ∧ cs = q :: (body ++ [q]) ∧ IsSealed q body

lemma IsQuote.ne (h : IsQuote q) : q ≠ '\\' := by
  rcases h with rfl | rfl <;> decide

/-- A character before a text adds to the backslashes at its end only if the text has nothing else. -/
lemma backslashes_cons (c : Char) (cs : List Char) :
    backslashes (c :: cs) = if (∀ d ∈ cs, d = '\\') ∧ c = '\\' then backslashes cs + 1 else backslashes cs := by
  rw [backslashes, backslashes, List.rtakeWhile, List.rtakeWhile, List.reverse_cons, List.length_reverse,
    List.length_reverse]
  by_cases hall : ∀ d ∈ cs, d = '\\'
  · have hreverse : ∀ d ∈ cs.reverse, (d == '\\') = true := fun d hd => beq_iff_eq.2 (hall d (List.mem_reverse.1 hd))
    rw [List.takeWhile_append_of_pos hreverse, List.takeWhile_eq_self_iff.2 hreverse]
    by_cases hc : c = '\\'
    · rw [if_pos ⟨hall, hc⟩, hc]
      simp
    · rw [if_neg fun h => hc h.2]
      simp [hc]
  · have hshort : (cs.reverse.takeWhile (· == '\\')).length ≠ cs.reverse.length := by
      intro hlength
      have heq := (List.takeWhile_prefix (· == '\\')).eq_of_length hlength
      refine hall fun d hd => ?_
      simpa using List.takeWhile_eq_self_iff.1 heq d (List.mem_reverse.2 hd)
    rw [List.takeWhile_append, if_neg hshort, if_neg (fun h => hall h.1)]

lemma backslashes_cons_of_ne (hc : c ≠ '\\') (cs : List Char) : backslashes (c :: cs) = backslashes cs := by
  rw [backslashes_cons, if_neg (fun h => hc h.2)]

/-- What a backslash takes along does not count. -/
lemma odd_backslashes_escaped (c : Char) (cs : List Char) :
    Odd (backslashes ('\\' :: c :: cs)) ↔ Odd (backslashes cs) := by
  rw [backslashes_cons, backslashes_cons]
  by_cases hall : (∀ d ∈ cs, d = '\\') ∧ c = '\\'
  · obtain ⟨hcs, rfl⟩ := hall
    have hcons : ∀ d ∈ '\\' :: cs, d = '\\' := List.forall_mem_cons.2 ⟨rfl, hcs⟩
    rw [if_pos ⟨hcons, rfl⟩, if_pos ⟨hcs, rfl⟩, Nat.odd_add_one, Nat.odd_add_one, not_not]
  · have hnot : ¬ ((∀ d ∈ c :: cs, d = '\\') ∧ '\\' = '\\') := by
      rintro ⟨h, -⟩
      obtain ⟨hc, hcs⟩ := List.forall_mem_cons.1 h
      exact hall ⟨hcs, hc⟩
    rw [if_neg hnot, if_neg hall]

/-! ## Sealed texts, from the left -/

lemma isSealed_nil (q : Char) : IsSealed q [] where
  inside before after h := by cases before <;> cases h
  close := by decide

lemma isSealed_cons_iff (hc : c ≠ '\\') : IsSealed q (c :: cs) ↔ c ≠ q ∧ IsSealed q cs := by
  constructor
  · rintro ⟨hinside, hclose⟩
    rw [backslashes_cons_of_ne hc] at hclose
    refine ⟨?_, fun before after hcs => ?_, hclose⟩
    · rintro rfl
      exact absurd (hinside [] cs rfl) (by decide)
    · have hbefore := hinside (c :: before) after (by rw [hcs, List.cons_append])
      rwa [backslashes_cons_of_ne hc] at hbefore
  · rintro ⟨hne, hinside, hclose⟩
    refine ⟨fun before after hcs => ?_, by rwa [backslashes_cons_of_ne hc]⟩
    cases before with
    | nil => exact absurd (List.cons.inj hcs).1 hne
    | cons d before =>
      cases hcs
      rw [backslashes_cons_of_ne hc]
      exact hinside before after rfl

lemma isSealed_escaped_iff (hq : q ≠ '\\') (c : Char) (cs : List Char) :
    IsSealed q ('\\' :: c :: cs) ↔ IsSealed q cs := by
  constructor
  · rintro ⟨hinside, hclose⟩
    refine ⟨fun before after hcs => ?_, by rwa [odd_backslashes_escaped] at hclose⟩
    rw [← odd_backslashes_escaped c]
    exact hinside ('\\' :: c :: before) after (by rw [hcs, List.cons_append, List.cons_append])
  · rintro ⟨hinside, hclose⟩
    refine ⟨fun before after hcs => ?_, by rwa [odd_backslashes_escaped]⟩
    rcases before with _ | ⟨d, _ | ⟨e, before⟩⟩
    · cases hcs
      exact absurd rfl hq
    · -- this is the character that the backslash takes along
      cases hcs
      decide
    · cases hcs
      rw [odd_backslashes_escaped]
      exact hinside before after rfl

lemma not_isSealed_backslash (q : Char) : ¬ IsSealed q ['\\'] := fun h => h.close (by decide)

/-! ## Reading -/

/-- What follows the quote that ends a literal, behind its first quote.  A backslash takes a character along. -/
def behind (q : Char) : List Char → Option (List Char)
  | [] => none
  | '\\' :: _ :: rest => behind q rest
  | c :: rest => if c = q then some rest else behind q rest

/-- What follows the literal at the beginning of a text. -/
def afterLiteral : List Char → Option (List Char)
  | [] => none
  | q :: rest => if IsQuote q then behind q rest else none

/-- Reading ends at the first quote before which the text is sealed. -/
theorem behind_eq_some_iff (hq : q ≠ '\\') :
    behind q cs = some rest ↔ ∃ body, cs = body ++ q :: rest ∧ IsSealed q body := by
  fun_induction behind q cs with
  | case1 =>
    simp
  | case2 c cs ih =>
    rw [ih]
    constructor
    · rintro ⟨body, rfl, hbody⟩
      exact ⟨'\\' :: c :: body, rfl, (isSealed_escaped_iff hq c body).2 hbody⟩
    · rintro ⟨body, hcs, hbody⟩
      rcases body with _ | ⟨d, _ | ⟨e, body⟩⟩
      · cases hcs
        exact absurd rfl hq
      · cases hcs
        exact absurd hbody (not_isSealed_backslash q)
      · cases hcs
        exact ⟨body, rfl, (isSealed_escaped_iff hq c body).1 hbody⟩
  | case3 cs hlast =>
    constructor
    · intro h
      cases h
      exact ⟨[], rfl, isSealed_nil q⟩
    · rintro ⟨body, hcs, hbody⟩
      cases body with
      | nil =>
        cases hcs
        rfl
      | cons d body =>
        cases hcs
        exact absurd rfl ((isSealed_cons_iff hq).1 hbody).1
  | case4 c cs hlast hc ih =>
    -- a backslash with nothing behind it is the only one that comes here
    have hplain (body : List Char) (hcs : cs = body ++ q :: rest) : c ≠ '\\' := by
      intro hslash
      obtain ⟨d, more, hmore⟩ := List.exists_cons_of_ne_nil (l := cs) (by simp [hcs])
      exact hlast d more hslash hmore
    rw [ih]
    constructor
    · rintro ⟨body, hcs, hbody⟩
      exact ⟨c :: body, by rw [hcs, List.cons_append], (isSealed_cons_iff (hplain body hcs)).2 ⟨hc, hbody⟩⟩
    · rintro ⟨body, hcs, hbody⟩
      cases body with
      | nil =>
        cases hcs
        exact absurd rfl hc
      | cons d body =>
        cases hcs
        exact ⟨body, rfl, ((isSealed_cons_iff (hplain body rfl)).1 hbody).2⟩

lemma afterLiteral_eq_some_iff :
    afterLiteral cs = some rest ↔ ∃ literal, IsComplete literal ∧ cs = literal ++ rest := by
  constructor
  · intro h
    unfold afterLiteral at h
    split at h
    · cases h
    · next q cs =>
      split_ifs at h with hq
      obtain ⟨body, rfl, hbody⟩ := (behind_eq_some_iff hq.ne).1 h
      exact ⟨q :: (body ++ [q]), ⟨q, body, hq, rfl, hbody⟩, by simp⟩
  · rintro ⟨literal, ⟨q, body, hq, rfl, hbody⟩, rfl⟩
    rw [List.cons_append, List.append_assoc, afterLiteral, if_pos hq]
    exact (behind_eq_some_iff hq.ne).2 ⟨body, rfl, hbody⟩

/-- One literal is read to its end and no further, whatever follows it, and nothing else is. -/
theorem isComplete_iff : IsComplete cs ↔ ∀ rest, afterLiteral (cs ++ rest) = some rest := by
  constructor
  · intro h rest
    exact afterLiteral_eq_some_iff.2 ⟨cs, h, rfl⟩
  · intro h
    obtain ⟨literal, hliteral, hcs⟩ := afterLiteral_eq_some_iff.1 (h [])
    rw [List.append_nil, List.append_nil] at hcs
    rwa [hcs]

/-! ## Literals that are printed -/

/-- Between quotes that stand there already, a text has to be sealed by itself. -/
lemma isComplete_quoted_iff (hq : IsQuote q) : IsComplete (q :: (body ++ [q])) ↔ IsSealed q body := by
  constructor
  · rintro ⟨q', body', -, heq, hbody⟩
    obtain ⟨rfl, heq⟩ := List.cons.inj heq
    rwa [List.append_cancel_right heq]
  · intro hbody
    exact ⟨q, body, hq, rfl, hbody⟩

/-- What is escaped is sealed. -/
lemma isSealed_flatMap_escapeChar (cs : List Char) : IsSealed '\'' (cs.flatMap escapeChar) := by
  induction cs with
  | nil => exact isSealed_nil '\''
  | cons c cs ih =>
    rw [List.flatMap_cons, escapeChar]
    split_ifs with hc
    · exact (isSealed_escaped_iff (by decide) c _).2 ih
    · rw [Bool.or_eq_true, beq_iff_eq, beq_iff_eq, not_or] at hc
      exact (isSealed_cons_iff hc.1).2 ⟨hc.2, ih⟩

theorem isComplete_quote (cs : List Char) : IsComplete (quote cs) :=
  ⟨'\'', _, .inl rfl, rfl, isSealed_flatMap_escapeChar cs⟩

lemma isBetween_iff : 2 ≤ cs.length ∧ isBetween q q cs = true ↔ ∃ body, cs = q :: (body ++ [q]) := by
  rw [isBetween, Bool.and_eq_true, beq_iff_eq, beq_iff_eq]
  constructor
  · rintro ⟨hlength, hfirst, hlast⟩
    obtain ⟨more, rfl⟩ := List.head?_eq_some_iff.1 hfirst
    rcases List.eq_nil_or_concat' more with rfl | ⟨body, d, rfl⟩
    · cases Nat.lt_irrefl 1 hlength
    · rw [← List.cons_append, List.getLast?_concat] at hlast
      cases hlast
      exact ⟨body, rfl⟩
  · rintro ⟨body, rfl⟩
    rw [← List.cons_append, List.getLast?_concat]
    simp

lemma isQuoted_iff : isQuoted cs = true ↔ ∃ q body, IsQuote q ∧ cs = q :: (body ++ [q]) := by
  rw [isQuoted, Bool.and_eq_true, decide_eq_true_iff, Bool.or_eq_true, and_or_left, isBetween_iff, isBetween_iff]
  constructor
  · rintro (⟨body, rfl⟩ | ⟨body, rfl⟩)
    · exact ⟨_, body, .inl rfl, rfl⟩
    · exact ⟨_, body, .inr rfl, rfl⟩
  · rintro ⟨q, body, rfl | rfl, rfl⟩
    · exact .inl ⟨body, rfl⟩
    · exact .inr ⟨body, rfl⟩

/-- The word for nothing does not begin with a quote, in whatever case. -/
lemma lower_ne_null (hq : IsQuote q) (cs : List Char) : lower (String.ofList (q :: cs)) ≠ "null" := by
  intro heq
  have hchars := congrArg String.toList heq
  rw [lower, toList_through, String.toList_ofList] at hchars
  rcases hq with rfl | rfl <;> cases hchars

/-- The default of a text is nothing, or it stands between quotes already, or it is put between quotes. -/
lemma print_text_cases (value : String) :
    (print value (some "string") = "null" ∧ isQuoted (trim value).toList = false) ∨
      (print value (some "string") = trim value ∧ isQuoted (trim value).toList = true) ∨
        (print value (some "string")).toList = quote (trim value).toList ∧ isQuoted (trim value).toList = false := by
  have hchars : String.ofList (trim value).toList = trim value := String.ofList_toList
  have hprinted := isPrintedAs_print value (some "string")
  generalize print value (some "string") = literal at hprinted ⊢
  cases hprinted with
  | nothing hnull =>
    left
    refine ⟨rfl, Bool.eq_false_iff.2 fun hquoted => ?_⟩
    obtain ⟨q, body, hq, hbody⟩ := isQuoted_iff.1 hquoted
    rw [← hchars, hbody] at hnull
    exact lower_ne_null hq _ hnull
  | truth _ htype | number _ htype | list _ htype => exact absurd htype (by decide)
  | quoted _ _ hquoted => exact .inr (.inl ⟨rfl, hquoted⟩)
  | escaped _ _ hquoted => exact .inr (.inr ⟨String.toList_ofList, hquoted⟩)

/-- A default that stands between quotes and is not one literal: a quote in it ends it early, or the last one does not
end it. -/
def BreaksOut (value : String) : Prop :=
  ∃ q body, IsQuote q ∧ (trim value).toList = q :: (body ++ [q]) ∧ ¬ IsSealed q body

lemma not_breaksOut_of_isQuoted_eq_false (h : isQuoted (trim value).toList = false) : ¬ BreaksOut value := by
  rintro ⟨q, body, hq, hbody, -⟩
  rw [isQuoted_iff.2 ⟨q, body, hq, hbody⟩] at h
  cases h

lemma isComplete_trim_iff (h : isQuoted (trim value).toList = true) :
    IsComplete (trim value).toList ↔ ¬ BreaksOut value := by
  obtain ⟨q, body, hq, hbody⟩ := isQuoted_iff.1 h
  rw [hbody, isComplete_quoted_iff hq]
  constructor
  · rintro hsealed ⟨q', body', -, hbody', hnot⟩
    obtain ⟨rfl, heq⟩ := List.cons.inj (hbody.symm.trans hbody')
    rw [List.append_cancel_right heq] at hsealed
    exact hnot hsealed
  · intro hbreaks
    by_contra hnot
    exact hbreaks ⟨q, body, hq, hbody, hnot⟩

/-- The default of a text is nothing or one complete literal, unless it stands between quotes and breaks out of them;
and a complete literal is one that is read to its end and no further, whatever follows it in the source. -/
theorem text_defaults_are_complete_iff (value : String) :
    let literal := print value (some "string")
    (literal = "null" ∨ IsComplete literal.toList ↔ ¬ BreaksOut value) ∧
      (IsComplete literal.toList ↔ ∀ rest, afterLiteral (literal.toList ++ rest) = some rest) := by
  intro literal
  refine ⟨?_, isComplete_iff⟩
  rcases print_text_cases value with ⟨hprint, hquoted⟩ | ⟨hprint, hquoted⟩ | ⟨hprint, hquoted⟩
  · exact iff_of_true (.inl hprint) (not_breaksOut_of_isQuoted_eq_false hquoted)
  · have hne : literal ≠ "null" := by
      intro hnull
      rw [hprint.symm.trans hnull] at hquoted
      exact absurd hquoted (by decide)
    rw [or_iff_right hne, ← isComplete_trim_iff hquoted, ← hprint]
  · have hcomplete : IsComplete literal.toList := by
      show IsComplete (print value (some "string")).toList
      rw [hprint]
      exact isComplete_quote _
    exact iff_of_true (.inr hcomplete) (not_breaksOut_of_isQuoted_eq_false hquoted)

/-- A state that was typed with quotes around both of its ends, and something else between. -/
theorem draft_breaks_out :
    print "'draft'; public $admin = 'yes'" (some "string") = "'draft'; public $admin = 'yes'" ∧
      afterLiteral "'draft'; public $admin = 'yes'".toList = some "; public $admin = 'yes'".toList ∧
      ¬ (print "'draft'; public $admin = 'yes'" (some "string") = "null" ∨
        IsComplete (print "'draft'; public $admin = 'yes'" (some "string")).toList) := by
  have hprint : print "'draft'; public $admin = 'yes'" (some "string") = "'draft'; public $admin = 'yes'" := by
    decide
  have hafter : afterLiteral "'draft'; public $admin = 'yes'".toList = some "; public $admin = 'yes'".toList := by
    decide
  refine ⟨hprint, hafter, ?_⟩
  rw [hprint, or_iff_right (by decide), isComplete_iff]
  intro hall
  have hend := hall []
  rw [List.append_nil, hafter] at hend
  exact absurd hend (by decide)

end EntityScaffold.Literal
