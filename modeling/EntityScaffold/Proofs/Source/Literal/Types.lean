import EntityScaffold.Naming.Words
import EntityScaffold.Proofs.Keyed
import EntityScaffold.Proofs.Source.Literal
import EntityScaffold.Proofs.Source.Literal.Forms
import EntityScaffold.Proofs.TypeExpression.Grammar
/-!
# Literals and types

A literal that is printed for a type need not be one of the type.  What the type admits is said of the literal alone
(`Admits`), and what has to be written for a default so that its literal is admitted is said of the text (`Suits`);
that they agree is `admits_print_iff`.

Three things come between a default and its type.  The word for nothing is printed for every type, whether it may be
nothing or not.  Numbers are known by their digits, which may be those of any script and may have a fraction where the
type is that of whole numbers, while an exponent or a plus makes the text no number.  And everything that no type has
a word for is printed between quotes, or stands between them already, which only the type of texts admits: a literal
of any other type does not begin with a quote (`IsOfType.exists_cons`), and a text that suits another type is a word
of it (`SuitsType.isWordOf`).
-/

namespace EntityScaffold.Literal

open Text

variable {cs rest : List Char} {q : Char} {value literal type : String} {nullable : Bool} {P : List Char → Prop}

/-! ## Numbers -/

/-- One or more of the figures from 0 to 9. -/
def IsFigures (cs : List Char) : Prop := cs ≠ [] ∧ ∀ c ∈ cs, Naming.isFigure c = true

/-- Figures, perhaps with a point and more figures. -/
def IsAmount (cs : List Char) : Prop :=
  IsFigures cs ∨ ∃ whole fraction, cs = whole ++ '.' :: fraction ∧ IsFigures whole ∧ IsFigures fraction

/-- A number with a sign or without. -/
def IsSigned (P : List Char → Prop) (cs : List Char) : Prop :=
  P cs ∨ ∃ sign rest, (sign = '-' ∨ sign = '+') ∧ cs = sign :: rest ∧ P rest

/-- A number with a minus or without a sign. -/
def IsNegatable (P : List Char → Prop) (cs : List Char) : Prop := P cs ∨ ∃ rest, cs = '-' :: rest ∧ P rest

lemma isDigit_of_isFigure {c : Char} (h : Naming.isFigure c = true) : isDigit c = true := by
  have hbounds : ('0' ≤ c && c ≤ '9') = true := h
  have hnine : c ≤ '9' := of_decide_eq_true (Bool.and_eq_true_iff.1 hbounds).2
  have hascii : c.toNat < 128 := Nat.lt_of_le_of_lt hnine (by decide)
  rw [isDigit, digitValue?, if_pos hascii, if_pos hbounds]
  rfl

lemma isDigits_of_isFigures (h : IsFigures cs) : isDigits cs = true := by
  rw [isDigits, Bool.and_eq_true, Bool.not_eq_true', List.isEmpty_eq_false_iff, List.all_eq_true]
  exact ⟨h.1, fun c hc => isDigit_of_isFigure (h.2 c hc)⟩

lemma notMem_of_isFigures (h : IsFigures cs) {c : Char} (hc : Naming.isFigure c = false) : c ∉ cs := by
  intro hmem
  rw [h.2 c hmem] at hc
  cases hc

lemma isUnsigned_of_isAmount (h : IsAmount cs) : isUnsigned cs = true := by
  rcases h with h | ⟨whole, fraction, rfl, hwhole, hfraction⟩
  · have hcut : cutAt? '.' cs = none := by
      rcases cutAt?_cases '.' cs with ⟨-, hcut⟩ | ⟨before, after, rfl, -, -⟩
      · exact hcut
      · exact absurd (List.mem_append_right before List.mem_cons_self) (notMem_of_isFigures h (by decide))
    rw [isUnsigned, hcut]
    exact isDigits_of_isFigures h
  · rw [isUnsigned, cutAt?_append_cons (notMem_of_isFigures hwhole (by decide))]
    exact Bool.and_eq_true_iff.2 ⟨isDigits_of_isFigures hwhole, isDigits_of_isFigures hfraction⟩

/-- A number begins with a figure. -/
theorem IsAmount.exists_cons (h : IsAmount cs) : ∃ c rest, cs = c :: rest ∧ Naming.isFigure c = true := by
  have hfirst {cs : List Char} (h : IsFigures cs) : ∃ c rest, cs = c :: rest ∧ Naming.isFigure c = true := by
    obtain ⟨c, rest, rfl⟩ := List.exists_cons_of_ne_nil h.1
    exact ⟨c, rest, rfl, h.2 c List.mem_cons_self⟩
  rcases h with h | ⟨whole, fraction, rfl, hwhole, -⟩
  · exact hfirst h
  · obtain ⟨c, rest, rfl, hc⟩ := hfirst hwhole
    exact ⟨c, rest ++ '.' :: fraction, rfl, hc⟩

lemma isNumber_of_isNegatable (h : IsNegatable IsAmount cs) : isNumber cs = true := by
  rcases h with h | ⟨rest, rfl, h⟩
  · obtain ⟨c, rest, rfl, hc⟩ := h.exists_cons
    rw [isNumber]
    · exact isUnsigned_of_isAmount h
    · rintro more heq
      cases heq
      exact absurd hc (by decide)
  · exact isUnsigned_of_isAmount h

/-- A plus makes no number. -/
lemma isNumber_plus (rest : List Char) : isNumber ('+' :: rest) = false := by
  have hdigits (more : List Char) : isDigits ('+' :: more) = false := rfl
  have hnumber : isNumber ('+' :: rest) = isUnsigned ('+' :: rest) := by
    rw [isNumber]
    exact nofun
  rw [hnumber, isUnsigned]
  rcases cutAt?_cases '.' ('+' :: rest) with ⟨-, hcut⟩ | ⟨before, after, hplus, -, hcut⟩
  · rw [hcut]
    exact hdigits rest
  · rw [hcut]
    cases before with
    | nil => cases hplus
    | cons c before =>
      obtain ⟨rfl, -⟩ := List.cons.inj hplus
      exact congrArg (· && isDigits after) (hdigits before)

/-- So a number that has a sign has a minus. -/
lemma isSigned_iff (h : isNumber cs = true) : IsSigned P cs ↔ IsNegatable P cs := by
  constructor
  · rintro (hplain | ⟨sign, rest, rfl | rfl, rfl, hrest⟩)
    · exact .inl hplain
    · exact .inr ⟨rest, rfl, hrest⟩
    · rw [isNumber_plus] at h
      cases h
  · rintro (hplain | ⟨rest, rfl, hrest⟩)
    · exact .inl hplain
    · exact .inr ⟨'-', rest, .inl rfl, rfl, hrest⟩

theorem IsSigned.exists_cons (h : IsSigned IsAmount cs) :
    ∃ c rest, cs = c :: rest ∧ (c = '-' ∨ c = '+' ∨ Naming.isFigure c = true) := by
  rcases h with h | ⟨sign, rest, hsign, rfl, -⟩
  · obtain ⟨c, rest, rfl, hc⟩ := h.exists_cons
    exact ⟨c, rest, rfl, .inr (.inr hc)⟩
  · exact ⟨sign, rest, rfl, hsign.imp_right .inl⟩

lemma IsSigned.of_isFigures (h : IsSigned IsFigures cs) : IsSigned IsAmount cs := by
  rcases h with h | ⟨sign, rest, hsign, hcs, h⟩
  · exact .inl (.inl h)
  · exact .inr ⟨sign, rest, hsign, hcs, .inl h⟩

lemma IsNegatable.of_isFigures (h : IsNegatable IsFigures cs) : IsNegatable IsAmount cs := by
  rcases h with h | ⟨rest, hcs, h⟩
  · exact .inl (.inl h)
  · exact .inr ⟨rest, hcs, .inl h⟩

/-! ## Types -/

/-- The literals of a type.  A class has none. -/
def IsOfType (type literal : String) : Prop :=
  match type with
  | "int" => IsSigned IsFigures literal.toList
  | "float" => IsSigned IsAmount literal.toList
  | "bool" => literal = "true" ∨ literal = "false"
  | "array" => ∃ items, literal.toList = '[' :: (items ++ [']'])
  | "string" => IsComplete literal.toList
  | _ => False

/-- What a type admits as a default: its literals, and nothing where it may be nothing. -/
def Admits (nullable : Bool) (type literal : String) : Prop :=
  literal = "null" ∧ nullable = true ∨ IsOfType type literal

/-- The texts that are, as a default, literals of a type. -/
def SuitsType (type value : String) : Prop :=
  match type with
  | "int" => IsNegatable IsFigures (trim value).toList
  | "float" => IsNegatable IsAmount (trim value).toList
  | "bool" => lower (trim value) ∈ truthWords.map (·.1)
  | "array" => ∃ items, (trim value).toList = '[' :: (items ++ [']'])
  | "string" => ¬ BreaksOut value
  | _ => False

/-- The texts that are fit for a default of a type. -/
def Suits (nullable : Bool) (type value : String) : Prop :=
  lower (trim value) = "null" ∧ nullable = true ∨ lower (trim value) ≠ "null" ∧ SuitsType type value

/-- The first character of a literal is not that of the word for nothing, and if it is a quote, the type is that of
texts. -/
theorem IsOfType.exists_cons (h : IsOfType type literal) :
    ∃ c rest, literal.toList = c :: rest ∧ c ≠ 'n' ∧ (IsQuote c → type = "string") := by
  have hsigned (h : IsSigned IsAmount literal.toList) :
      ∃ c rest, literal.toList = c :: rest ∧ c ≠ 'n' ∧ ¬ IsQuote c := by
    obtain ⟨c, rest, hcons, hc⟩ := h.exists_cons
    refine ⟨c, rest, hcons, ?_, ?_⟩
    · rintro rfl
      exact absurd hc (by decide)
    · rintro (rfl | rfl)
      · exact absurd hc (by decide)
      · exact absurd hc (by decide)
  have hother {c : Char} (hc : ¬ IsQuote c) : IsQuote c → type = "string" := fun h => absurd h hc
  unfold IsOfType at h
  split at h
  · obtain ⟨c, rest, hcons, hn, hquote⟩ := hsigned h.of_isFigures
    exact ⟨c, rest, hcons, hn, fun hc => absurd hc hquote⟩
  · obtain ⟨c, rest, hcons, hn, hquote⟩ := hsigned h
    exact ⟨c, rest, hcons, hn, fun hc => absurd hc hquote⟩
  · rcases h with rfl | rfl
    · exact ⟨'t', _, rfl, by decide, fun hc => absurd hc (by decide)⟩
    · exact ⟨'f', _, rfl, by decide, fun hc => absurd hc (by decide)⟩
  · obtain ⟨items, hitems⟩ := h
    exact ⟨'[', _, hitems, by decide, fun hc => absurd hc (by decide)⟩
  · obtain ⟨q, body, hq, hbody, -⟩ := h
    refine ⟨q, _, hbody, ?_, fun _ => rfl⟩
    rintro rfl
    exact absurd hq (by decide)
  · exact absurd h id

lemma admits_null_iff : Admits nullable type "null" ↔ nullable = true := by
  constructor
  · rintro (⟨-, h⟩ | h)
    · exact h
    · obtain ⟨c, rest, hcons, hn, -⟩ := h.exists_cons
      exact absurd (List.cons.inj hcons).1.symm hn
  · exact fun h => .inl ⟨rfl, h⟩

/-- Every other literal has to be one of the type. -/
lemma admits_iff_of_ne_null (h : literal ≠ "null") : Admits nullable type literal ↔ IsOfType type literal :=
  or_iff_right fun hnull => h hnull.1

lemma isBetween_brackets_iff : isBetween '[' ']' cs = true ↔ ∃ items, cs = '[' :: (items ++ [']']) := by
  rw [isBetween, Bool.and_eq_true, beq_iff_eq, beq_iff_eq]
  constructor
  · rintro ⟨hfirst, hlast⟩
    obtain ⟨more, rfl⟩ := List.head?_eq_some_iff.1 hfirst
    rcases List.eq_nil_or_concat' more with rfl | ⟨items, c, rfl⟩
    · exact absurd hlast (by decide)
    · rw [← List.cons_append, List.getLast?_concat] at hlast
      cases hlast
      exact ⟨items, rfl⟩
  · rintro ⟨items, rfl⟩
    exact ⟨rfl, List.getLast?_concat (l := '[' :: items)⟩

lemma suits_iff_of_null (h : lower (trim value) = "null") : Suits nullable type value ↔ nullable = true := by
  simp [Suits, h]

lemma suits_iff_of_ne_null (h : lower (trim value) ≠ "null") : Suits nullable type value ↔ SuitsType type value := by
  simp [Suits, h]

/-- A text that suits a type is a word of the type, unless that is the type of texts. -/
theorem SuitsType.isWordOf (h : SuitsType type value) : type = "string" ∨ IsWordOf (some type) (trim value) := by
  unfold SuitsType at h
  split at h
  · exact .inr (.inr (.inl ⟨.inl rfl, isNumber_of_isNegatable h.of_isFigures⟩))
  · exact .inr (.inr (.inl ⟨.inr rfl, isNumber_of_isNegatable h⟩))
  · exact .inr (.inl ⟨rfl, Option.isSome_iff_exists.2 (Keyed.exists_lookup_iff.2 h)⟩)
  · exact .inr (.inr (.inr ⟨rfl, isBetween_brackets_iff.2 h⟩))
  · exact .inl rfl
  · exact absurd h id

/-- What begins with a quote is of no type but that of texts, and so is a text that no type has a word for. -/
lemma not_isOfType_of_quote (htype : type ≠ "string") (hword : ¬ IsWordOf (some type) (trim value)) (hq : IsQuote q)
    (hliteral : literal.toList = q :: rest) : ¬ IsOfType type literal ∧ ¬ SuitsType type value := by
  constructor
  · intro h
    obtain ⟨c, more, hcons, -, hquote⟩ := h.exists_cons
    rw [hliteral] at hcons
    exact htype (hquote ((List.cons.inj hcons).1 ▸ hq))
  · exact fun h => h.isWordOf.elim htype hword

/-- The literal of a default is one that its type admits exactly if the default suits the type. -/
theorem admits_print_iff (nullable : Bool) (type value : String) :
    Admits nullable type (print value (some type)) ↔ Suits nullable type value := by
  have hne (hnull : lower (trim value) ≠ "null") : trim value ≠ "null" := fun h => hnull (by rw [h]; decide)
  have hprinted := isPrintedAs_print value (some type)
  generalize print value (some type) = literal at hprinted
  cases hprinted with
  | nothing hnull => rw [admits_null_iff, suits_iff_of_null hnull]
  | truth hnull htype hword =>
    obtain rfl := Option.some.inj htype
    have hkey : lower (trim value) ∈ truthWords.map (·.1) := List.mem_map.2 ⟨_, Keyed.mem_of_lookup hword, rfl⟩
    rw [suits_iff_of_ne_null hnull]
    exact iff_of_true (.inr (eq_true_or_eq_false_of_lookup hword)) hkey
  | number hnull htype hnumber =>
    -- The printer takes digits of any script, and fractions for whole numbers; all that it settles is the sign.
    rw [admits_iff_of_ne_null (hne hnull), suits_iff_of_ne_null hnull]
    rcases htype with htype | htype
    · obtain rfl := Option.some.inj htype
      show IsSigned IsFigures (trim value).toList ↔ IsNegatable IsFigures (trim value).toList
      exact isSigned_iff hnumber
    · obtain rfl := Option.some.inj htype
      show IsSigned IsAmount (trim value).toList ↔ IsNegatable IsAmount (trim value).toList
      exact isSigned_iff hnumber
  | list hnull htype hlist =>
    obtain rfl := Option.some.inj htype
    rw [admits_iff_of_ne_null (hne hnull), suits_iff_of_ne_null hnull]
    exact Iff.rfl
  | quoted hnull hword hquoted =>
    rw [admits_iff_of_ne_null (hne hnull), suits_iff_of_ne_null hnull]
    obtain ⟨q, body, hq, hbody⟩ := isQuoted_iff.1 hquoted
    by_cases htype : type = "string"
    · subst htype
      exact isComplete_trim_iff hquoted
    · obtain ⟨hliteral, hvalue⟩ := not_isOfType_of_quote htype hword hq hbody
      exact iff_of_false hliteral hvalue
  | escaped hnull hword hquoted =>
    have hchars : (String.ofList (quote (trim value).toList)).toList = quote (trim value).toList := String.toList_ofList
    have hliteral : String.ofList (quote (trim value).toList) ≠ "null" := by
      intro heq
      rw [heq] at hchars
      exact absurd (List.cons.inj hchars).1 (by decide)
    rw [admits_iff_of_ne_null hliteral, suits_iff_of_ne_null hnull]
    by_cases htype : type = "string"
    · subst htype
      refine iff_of_true ?_ (not_breaksOut_of_isQuoted_eq_false hquoted)
      show IsComplete (String.ofList (quote (trim value).toList)).toList
      rw [hchars]
      exact isComplete_quote _
    · obtain ⟨hliteral, hvalue⟩ := not_isOfType_of_quote htype hword (.inl rfl) hchars
      exact iff_of_false hliteral hvalue

end EntityScaffold.Literal
