import EntityScaffold.Naming.Identifier
import EntityScaffold.Proofs.Source.Literal
/-!
# Literals that only give a value

A literal is pasted into the bodies of methods as it was printed, and what comes of it there is for the language to
say.  `isInert` reads it as the language does, as far as it takes to see that the text gives a value and does nothing
besides: outside of its quoted parts it has numbers, the words for null and for truth values, and the marks of lists
only, each quoted part is ended, and none of those in double quotes has a variable in it.  A call, an assignment, the
end of a statement, or the name of a variable or a constant each need something else.

What is put between quotes by `print` is inert always, and so is the default of a text that does not stand between
quotes already (`isInert_print_text`); one that does is looked at as it stands.
-/

namespace EntityScaffold.Literal

open Text

variable {q c : Char} {cs body rest : List Char} {value : String}

/-- A variable begins in a text between double quotes: its mark before a name or a brace, or behind a brace. -/
def interpolates (c : Char) (rest : List Char) : Bool :=
  (c == '$' && rest.head?.any fun d => isIdentifierStart d || d == '\x7b' || !d.toNat < 128) ||
    (c == '\x7b' && rest.head? == some '$')

/-- What a text has outside of its quoted parts, a blank for each of these; the quote of the part that is read is
given.  There is nothing if a quoted part is not ended, or if a variable begins in one. -/
def outside : Option Char → List Char → Option (List Char)
  | none, [] => some []
  | none, c :: rest =>
    if IsQuote c then (outside (some c) rest).map (' ' :: ·) else (outside none rest).map (c :: ·)
  | some _, [] => none
  | some q, '\\' :: _ :: rest => outside (some q) rest
  | some q, c :: rest =>
    if c = q then outside none rest
    else if q = '"' && interpolates c rest then none
    else outside (some q) rest

/-- The characters of values other than texts, and of lists of them. -/
def isPlain (c : Char) : Bool := isIdentifierChar c || " \t\n\r[],=>.-".toList.contains c

/-- A number, or the word for null or for a truth value. -/
def isValueWord (word : List Char) : Bool :=
  match word with
  | [] => true
  | c :: _ => ('0' ≤ c && c ≤ '9') || ["null", "true", "false"].contains (lower (String.ofList word))

/-- Whether a text that is pasted into a body gives a value and does nothing besides. -/
def isInert (text : String) : Bool :=
  match outside none text.toList with
  | none => false
  | some rest => rest.all isPlain && (rest.splitOnP fun c => !isIdentifierChar c).all isValueWord

/-! ## Quoted parts -/

/-- A part between single quotes is passed over. -/
lemma outside_of_isSealed (h : IsSealed '\'' body) :
    outside (some '\'') (body ++ '\'' :: rest) = outside none rest := by
  fun_induction behind '\'' body with
  | case1 => simp [outside]
  | case2 c cs ih =>
    rw [List.cons_append, List.cons_append, outside]
    exact ih ((isSealed_escaped_iff (by decide) c cs).1 h)
  | case3 cs hlast =>
    -- a quote that is not taken along would end the part
    exact absurd rfl ((isSealed_cons_iff (by decide)).1 h).1
  | case4 c cs hlast hc ih =>
    have hslash : c ≠ '\\' := by
      rintro rfl
      cases cs with
      | nil => exact not_isSealed_backslash _ h
      | cons d more => exact hlast d more rfl rfl
    rw [List.cons_append, outside, if_neg hc]
    · exact ih ((isSealed_cons_iff hslash).1 h).2
    · intro d more heq
      exact absurd heq hslash

lemma isInert_of_isSealed (h : IsSealed '\'' body) : isInert (String.ofList ('\'' :: (body ++ ['\'']))) = true := by
  have houtside : outside none ('\'' :: (body ++ ['\''])) = some [' '] := by
    rw [outside, if_pos (.inl rfl), outside_of_isSealed h, outside]
    rfl
  rw [isInert, String.toList_ofList, houtside]
  decide

/-- What is put between quotes is inert. -/
lemma isInert_quote (cs : List Char) : isInert (String.ofList (quote cs)) = true :=
  isInert_of_isSealed (isSealed_flatMap_escapeChar cs)

/-- The default of a text is inert, unless it stands between quotes already. -/
theorem isInert_print_text (h : isQuoted (trim value).toList = false) :
    isInert (print value (some "string")) = true := by
  rcases print_text_cases value with ⟨hprint, -⟩ | ⟨-, hquoted⟩ | ⟨hprint, -⟩
  · rw [hprint]
    decide
  · rw [h] at hquoted
    cases hquoted
  · rw [← String.ofList_toList (s := print value (some "string")), hprint]
    exact isInert_quote _

/-- Lists of values are inert; the end of a statement is not, nor is a variable between double quotes. -/
example : isInert "['draft' => -1.5, \"it's\" => [true, null]]" = true ∧
    isInert "'user'; $data->level = 'admin'" = false ∧ isInert "\"$data\"" = false ∧
      isInert "[PHP_EOL]" = false := by
  decide

end EntityScaffold.Literal
