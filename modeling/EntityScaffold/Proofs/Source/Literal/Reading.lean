import EntityScaffold.Proofs.Source.Literal
import EntityScaffold.Proofs.Source.Literal.Forms
/-!
# Literals are read back

Escaping puts a backslash before each backslash and each single quote, and a reader takes it away again from left to
right.  The reader does not know where escaping began: of a run of backslashes it takes two at a time, whatever they
were.  So what is proved by induction on the text is that the reader, put before an escaped text with its quote and
anything behind it, gives the text and exactly what is behind (`readQuoted_escaped`).  Being quantified over what is
behind, this holds in the middle of a source file as well as at its end.

A default is escaped unless it is a word for nothing, stands between quotes already, or is of a type that has words of
its own (`IsEscaped`).  Of all those the text can be read off the literal, so that different texts have different
literals (`escaped_defaults_read_back`).
-/

namespace EntityScaffold.Literal

open Text

variable {c : Char} {cs rest : List Char} {value : String} {type : Option String}

/-! ## Reading what was escaped -/

/-- A backslash and what it was put before are read as one character. -/
lemma readQuoted_escapeChar_append (c : Char) (cs : List Char) :
    readQuoted (escapeChar c ++ cs) = (readQuoted cs).map fun (content, rest) => (c :: content, rest) := by
  rw [escapeChar]
  split_ifs with hc
  · rw [List.cons_append, List.singleton_append, readQuoted, if_pos hc]
  · rw [Bool.or_eq_true, beq_iff_eq, beq_iff_eq, not_or] at hc
    rw [List.singleton_append, readQuoted]
    · exact hc.2
    · exact fun _ _ hslash => absurd hslash hc.1

/-- Escaped text is read up to its quote, and what is behind it is left. -/
theorem readQuoted_escaped (cs rest : List Char) :
    readQuoted (cs.flatMap escapeChar ++ '\'' :: rest) = some (cs, rest) := by
  induction cs with
  | nil => rfl
  | cons c cs ih => rw [List.flatMap_cons, List.append_assoc, readQuoted_escapeChar_append, ih, Option.map_some]

lemma unquote_quote (cs : List Char) : unquote (quote cs) = some cs := by
  rw [quote, List.cons_append, unquote, readQuoted_escaped cs []]

/-! ## Defaults that are escaped -/

/-- A default that is put between quotes: it is no word for nothing, it does not stand between quotes already, and
its type has no words of its own. -/
structure IsEscaped (value : String) (type : Option String) : Prop where
  notNull : lower (trim value) ≠ "null"
  unquoted : ∀ q body, IsQuote q → (trim value).toList ≠ q :: (body ++ [q])
  wordless : ∀ word ∈ ["bool", "int", "float", "array"], type ≠ some word

/-- A type without words of its own takes no text for one. -/
lemma not_isWordOf (htype : ∀ word ∈ ["bool", "int", "float", "array"], type ≠ some word) (text : String) :
    ¬ IsWordOf type text := by
  rintro (⟨h, -⟩ | ⟨h | h, -⟩ | ⟨h, -⟩)
  · exact htype "bool" (by decide) h
  · exact htype "int" (by decide) h
  · exact htype "float" (by decide) h
  · exact htype "array" (by decide) h

lemma isQuoted_eq_false_iff : isQuoted cs = false ↔ ∀ q body, IsQuote q → cs ≠ q :: (body ++ [q]) := by
  rw [← Bool.not_eq_true, isQuoted_iff]
  exact ⟨fun h q body hq hcs => h ⟨q, body, hq, hcs⟩, fun h ⟨q, body, hq, hcs⟩ => h q body hq hcs⟩

/-- What is no word and does not stand between quotes is printed between quotes. -/
lemma IsPrintedAs.eq_quote {text literal : String} (h : IsPrintedAs text type literal) (hnull : lower text ≠ "null")
    (hword : ¬ IsWordOf type text) (hquoted : isQuoted text.toList = false) :
    literal = String.ofList (quote text.toList) := by
  cases h with
  | nothing hnull' => exact absurd hnull' hnull
  | truth _ htype hlookup => exact absurd (.inl ⟨htype, Option.isSome_of_eq_some hlookup⟩) hword
  | number _ htype hnumber => exact absurd (.inr (.inl ⟨htype, hnumber⟩)) hword
  | list _ htype hlist => exact absurd (.inr (.inr ⟨htype, hlist⟩)) hword
  | quoted _ _ hquoted' => exact absurd hquoted' (Bool.eq_false_iff.1 hquoted)
  | escaped => rfl

lemma IsEscaped.print_eq (h : IsEscaped value type) : print value type = String.ofList (quote (trim value).toList) :=
  (isPrintedAs_print value type).eq_quote h.notNull (not_isWordOf h.wordless _) (isQuoted_eq_false_iff.2 h.unquoted)

/-- A default that is escaped is read back from its literal, which ends where it ends whatever follows it; so no two
defaults with different texts have the same literal. -/
theorem escaped_defaults_read_back (h : IsEscaped value type) :
    unquote (print value type).toList = some (trim value).toList ∧
      (∃ body, (print value type).toList = '\'' :: body ∧
        ∀ rest, readQuoted (body ++ rest) = some ((trim value).toList, rest)) ∧
      ∀ other otherType, IsEscaped other otherType →
        (print other otherType = print value type ↔ trim other = trim value) := by
  have hread {value : String} {type : Option String} (h : IsEscaped value type) :
      unquote (print value type).toList = some (trim value).toList := by
    rw [h.print_eq, String.toList_ofList, unquote_quote]
  refine ⟨hread h, ⟨(trim value).toList.flatMap escapeChar ++ ['\''], ?_, fun rest => ?_⟩, fun other otherType h' => ?_⟩
  · rw [h.print_eq, String.toList_ofList, quote, List.cons_append]
  · rw [List.append_assoc, List.singleton_append, readQuoted_escaped]
  · constructor
    · intro heq
      have hsome := hread h'
      rw [heq, hread h] at hsome
      exact String.toList_injective (Option.some.inj hsome).symm
    · intro htrim
      rw [h.print_eq, h'.print_eq, htrim]

/-- A path that ends in backslashes, with a quote before them. -/
theorem shared_folder_reads_back :
    IsEscaped " C:\\it's\\\\ " (some "string") ∧
      print " C:\\it's\\\\ " (some "string") = "'C:\\\\it\\'s\\\\\\\\'" ∧
      unquote "'C:\\\\it\\'s\\\\\\\\'".toList = some "C:\\it's\\\\".toList := by
  have h : IsEscaped " C:\\it's\\\\ " (some "string") :=
    { notNull := by decide
      unquoted := isQuoted_eq_false_iff.1 (by decide)
      wordless := by decide }
  have hprint : print " C:\\it's\\\\ " (some "string") = "'C:\\\\it\\'s\\\\\\\\'" := by decide
  have htrim : trim " C:\\it's\\\\ " = "C:\\it's\\\\" := by decide
  refine ⟨h, hprint, ?_⟩
  rw [← hprint, (escaped_defaults_read_back h).1, htrim]

end EntityScaffold.Literal
