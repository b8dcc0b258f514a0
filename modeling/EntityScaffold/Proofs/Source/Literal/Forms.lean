import Mathlib.Tactic.SplitIfs
import EntityScaffold.Proofs.Keyed
import EntityScaffold.Source.Literal
/-!
# The forms of a literal

The words that a default value can be are tried in a fixed order, and the first that fits decides what is printed.
What is printed in the end says nothing of that order any more, so it is kept here: `IsPrintedAs` has one constructor
for each way in which a literal comes about, and each of them says which of the ways before it were not taken.  It is
the one place where the printer is opened (`isPrintedAs_print`).
-/

namespace EntityScaffold.Literal

open Text

variable {text literal : String} {type : Option String}

/-- A text that a type has a word for: a truth value, a number or a list. -/
def IsWordOf (type : Option String) (text : String) : Prop :=
  (type = some "bool" ∧ (truthWords.lookup (lower text)).isSome) ∨
    ((type = some "int" ∨ type = some "float") ∧ isNumber text.toList) ∨
      type = some "array" ∧ isBetween '[' ']' text.toList

/-- How a trimmed text becomes a literal of a type. -/
inductive IsPrintedAs (text : String) (type : Option String) : String → Prop
  | nothing (hnull : lower text = "null") : IsPrintedAs text type "null"
  | truth {word : String} (hnull : lower text ≠ "null") (htype : type = some "bool")
      (hword : truthWords.lookup (lower text) = some word) : IsPrintedAs text type word
  | number (hnull : lower text ≠ "null") (htype : type = some "int" ∨ type = some "float")
      (hnumber : isNumber text.toList = true) : IsPrintedAs text type text
  | list (hnull : lower text ≠ "null") (htype : type = some "array") (hlist : isBetween '[' ']' text.toList = true) :
      IsPrintedAs text type text
  | quoted (hnull : lower text ≠ "null") (hword : ¬ IsWordOf type text) (hquoted : isQuoted text.toList = true) :
      IsPrintedAs text type text
  | escaped (hnull : lower text ≠ "null") (hword : ¬ IsWordOf type text) (hquoted : isQuoted text.toList = false) :
      IsPrintedAs text type (String.ofList (quote text.toList))

/-- There are two literals of truth values. -/
theorem eq_true_or_eq_false_of_lookup {word : String} (h : truthWords.lookup text = some word) :
    word = "true" ∨ word = "false" := by
  have hwords : ∀ entry ∈ truthWords, entry.2 = "true" ∨ entry.2 = "false" := by decide
  exact hwords _ (Keyed.mem_of_lookup h)

/-- Every literal comes about in one of these ways. -/
theorem isPrintedAs_print (value : String) (type : Option String) :
    IsPrintedAs (trim value) type (print value type) := by
  have hchars : String.ofList (trim value).toList = trim value := String.ofList_toList
  rw [print]
  simp only [asItIs?, hchars]
  split_ifs with hnull htruth hnumber hlist hquoted
  · exact .nothing hnull
  · obtain ⟨word, hword⟩ := Option.isSome_iff_exists.1 htruth.2
    rw [hword]
    exact .truth hnull htruth.1 hword
  · exact .number hnull hnumber.1 hnumber.2
  · exact .list hnull hlist.1 hlist.2
  all_goals
    have hword : ¬ IsWordOf type (trim value) := by
      rintro (h | h | h)
      · exact htruth h
      · exact hnumber h
      · exact hlist h
  · exact .quoted hnull hword hquoted
  · exact .escaped hnull hword (Bool.eq_false_iff.2 hquoted)

end EntityScaffold.Literal
