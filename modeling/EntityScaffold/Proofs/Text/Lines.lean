import Mathlib.Data.List.Chain
import EntityScaffold.Text.Blank
import EntityScaffold.Text.Lines
/-!
# Lists of lines that print to a normal text

A file is laid out as a list of lines, and its text is in blank-line normal form when the list is tidy: it
begins and ends with a line that is not blank, and between two such lines stands at most one empty line
(`IsTidy`).  Lists that are spaced in this way, of lines or of what lines are made from, can be put one after the
other, with a gap between them or without, so that a layout is tidy when its parts are.  `normalize_textOf` is
the reason for the notion.
-/

namespace EntityScaffold.Text

/-! ## Spaced lists -/

/-- A list of items with a property, with at most one gap between two of them. -/
inductive IsSpaced {α : Type} (empty : α) (P : α → Prop) : List α → Prop
  | last {item : α} (h : P item) : IsSpaced empty P [item]
  | next {item : α} {rest : List α} (h : P item) (hrest : IsSpaced empty P rest) : IsSpaced empty P (item :: rest)
  | gap {item : α} {rest : List α} (h : P item) (hrest : IsSpaced empty P rest) :
    IsSpaced empty P (item :: empty :: rest)

namespace IsSpaced

variable {α β : Type} {empty : α} {P : α → Prop} {items before after : List α}

lemma append (hbefore : IsSpaced empty P before) (hafter : IsSpaced empty P after) :
    IsSpaced empty P (before ++ after) := by
  induction hbefore with
  | last h => exact .next h hafter
  | next h _ ih => exact .next h ih
  | gap h _ ih => exact .gap h ih

lemma append_gap (hbefore : IsSpaced empty P before) (hafter : IsSpaced empty P after) :
    IsSpaced empty P (before ++ empty :: after) := by
  induction hbefore with
  | last h => exact .gap h hafter
  | next h _ ih => exact .next h ih
  | gap h _ ih => exact .gap h ih

lemma of_forall (hne : items ≠ []) (h : ∀ item ∈ items, P item) : IsSpaced empty P items := by
  induction items with
  | nil => exact absurd rfl hne
  | cons item rest ih =>
    obtain ⟨hitem, hrest⟩ := List.forall_mem_cons.1 h
    cases rest with
    | nil => exact .last hitem
    | cons second rest => exact .next hitem (ih (List.cons_ne_nil second rest) hrest)

lemma exists_cons (h : IsSpaced empty P items) : ∃ item rest, items = item :: rest ∧ P item := by
  cases h with
  | last h | next h _ | gap h _ => exact ⟨_, _, rfl, h⟩

/-- Items may be spelled out, if the gap stays one. -/
theorem flatMap {other : β} {Q : β → Prop} {f : α → List β} (h : IsSpaced empty P items)
    (hempty : f empty = [other]) (hf : ∀ item ∈ items, P item → IsSpaced other Q (f item)) :
    IsSpaced other Q (items.flatMap f) := by
  induction h with
  | @last item h =>
    rw [List.flatMap_singleton]
    exact hf item List.mem_cons_self h
  | @next item rest h _ ih =>
    obtain ⟨hitem, hrest⟩ := List.forall_mem_cons.1 hf
    rw [List.flatMap_cons]
    exact (hitem h).append (ih hrest)
  | @gap item rest h _ ih =>
    obtain ⟨hitem, hrest⟩ := List.forall_mem_cons.1 hf
    rw [List.flatMap_cons, List.flatMap_cons, hempty]
    exact (hitem h).append_gap (ih (List.forall_mem_cons.1 hrest).2)

end IsSpaced

/-! ## Tidy lists of lines -/

/-- A text without a line break. -/
def IsOneLine (s : String) : Prop := ∀ c ∈ s.toList, c ≠ '\n' ∧ c ≠ '\r'

/-- A line that is not blank. -/
def IsSolid (s : String) : Prop := IsOneLine s ∧ ∃ c ∈ s.toList, isBlank c = false

/-- Lines that are not blank, with at most one empty line between two of them. -/
abbrev IsTidy (lines : List String) : Prop := IsSpaced "" IsSolid lines

/-- The text of a list of lines, each ended by a line feed. -/
def textOf (lines : List String) : String := String.join (lines.map (· ++ "\n"))

instance : DecidablePred IsOneLine := fun _ => inferInstanceAs (Decidable (∀ _ ∈ _, _))

instance : DecidablePred IsSolid := fun _ => inferInstanceAs (Decidable (_ ∧ _))

variable {line : String} {lines : List String}

lemma IsTidy.isOneLine (h : IsTidy lines) : ∀ line ∈ lines, IsOneLine line := by
  induction h with
  | last h => exact List.forall_mem_singleton.2 h.1
  | next h _ ih => exact List.forall_mem_cons.2 ⟨h.1, ih⟩
  | gap h _ ih => exact List.forall_mem_cons.2 ⟨h.1, List.forall_mem_cons.2 ⟨nofun, ih⟩⟩

/-! ## Texts of lines -/

lemma textOf_append (before after : List String) : textOf (before ++ after) = textOf before ++ textOf after := by
  rw [textOf, List.map_append, String.join_append]
  rfl

lemma textOf_cons (line : String) (rest : List String) :
    textOf (line :: rest) = line ++ "\n" ++ textOf rest := textOf_append [line] rest

namespace Lines

lemma print_map_toList (lines : List String) : String.ofList (print (lines.map String.toList)) = textOf lines := by
  induction lines with
  | nil => rfl
  | cons line lines ih =>
    rw [textOf_cons, ← ih, ← String.toList_inj]
    simp [print]

lemma cut_ne_nil (cs : List Char) : cut cs ≠ [] := by
  induction cs using cut.induct with
  | case5 c rest _ _ _ ih =>
    rw [cut]
    · simpa using ih
    all_goals assumption
  | _ => simp [cut]

lemma cut_append_cons {cs : List Char} (h : ∀ c ∈ cs, c ≠ '\n' ∧ c ≠ '\r') (ds : List Char) :
    cut (cs ++ '\n' :: ds) = cs :: cut ds := by
  induction cs with
  | nil => rfl
  | cons c cs ih =>
    obtain ⟨⟨hfeed, hreturn⟩, hcs⟩ := List.forall_mem_cons.1 h
    rw [List.cons_append, cut, ih hcs]
    · rfl
    all_goals simp [hfeed, hreturn]

/-- Lines without breaks are cut where they are ended, and what is behind the last is one line more. -/
lemma cut_print {lines : List (List Char)} (h : ∀ line ∈ lines, ∀ c ∈ line, c ≠ '\n' ∧ c ≠ '\r') :
    cut (print lines) = lines ++ [[]] := by
  induction lines with
  | nil => rfl
  | cons line lines ih =>
    obtain ⟨hline, hlines⟩ := List.forall_mem_cons.1 h
    have hcons : print (line :: lines) = line ++ '\n' :: print lines := by simp [print]
    rw [hcons, cut_append_cons hline, ih hlines]
    rfl

lemma cut_textOf (h : ∀ line ∈ lines, IsOneLine line) :
    cut (textOf lines).toList = lines.map String.toList ++ [[]] := by
  rw [← print_map_toList, String.toList_ofList]
  exact cut_print (List.forall_mem_map.2 h)

lemma isBlankLine_of_isSolid (h : IsSolid line) : isBlankLine line.toList = false := by
  obtain ⟨-, c, hc, hblank⟩ := h
  refine List.all_eq_false.2 ⟨c, hc, ?_⟩
  have hspace : c ≠ ' ' := by
    rintro rfl
    exact absurd hblank (by decide)
  have htab : c ≠ '\t' := by
    rintro rfl
    exact absurd hblank (by decide)
  simp [hspace, htab]

lemma squeezeFrom_false_of_notBlank {line : List Char} (h : isBlankLine line = false) (rest : List (List Char)) :
    squeezeFrom false (line :: rest) = line :: squeezeFrom false rest := by
  rw [squeezeFrom, h]
  rfl

/-- The gap that was passed is written before a line that is not blank. -/
theorem squeezeFrom_true_of_notBlank {line : List Char} (h : isBlankLine line = false) (rest : List (List Char)) :
    squeezeFrom true (line :: rest) = [] :: line :: squeezeFrom false rest := by
  rw [squeezeFrom, h]
  rfl

lemma squeezeFrom_false_cons (h : IsSolid line) (rest : List (List Char)) :
    squeezeFrom false (line.toList :: rest) = line.toList :: squeezeFrom false rest :=
  squeezeFrom_false_of_notBlank (isBlankLine_of_isSolid h) rest

lemma squeezeFrom_true (h : IsTidy lines) (rest : List (List Char)) :
    squeezeFrom true (lines.map String.toList ++ rest) =
      [] :: squeezeFrom false (lines.map String.toList ++ rest) := by
  obtain ⟨line, more, rfl, hline⟩ := h.exists_cons
  rw [List.map_cons, List.cons_append, squeezeFrom_false_cons hline,
    squeezeFrom_true_of_notBlank (isBlankLine_of_isSolid hline)]

/-- A tidy list is squeezed already, but for the blank line after it. -/
lemma squeezeFrom_false (h : IsTidy lines) :
    squeezeFrom false (lines.map String.toList ++ [[]]) = lines.map String.toList := by
  induction h with
  | last h => exact squeezeFrom_false_cons h [[]]
  | @next line rest h _ ih =>
    rw [List.map_cons, List.cons_append, squeezeFrom_false_cons h, ih]
  | @gap line rest h hrest ih =>
    have hgap (rest : List (List Char)) : squeezeFrom false ([] :: rest) = squeezeFrom true rest := rfl
    rw [List.map_cons, List.map_cons, List.cons_append, List.cons_append, squeezeFrom_false_cons h,
      String.toList_empty, hgap, squeezeFrom_true hrest, ih]

/-- The text of a tidy list is in blank-line normal form. -/
theorem normalize_textOf (h : IsTidy lines) : normalize (textOf lines) = textOf lines := by
  obtain ⟨line, more, hlines, hline⟩ := h.exists_cons
  -- there are no blank lines at the front, and the one at the end is only what follows the last line feed
  have hdrop : (lines.map String.toList ++ [[]]).dropWhile isBlankLine = lines.map String.toList ++ [[]] := by
    rw [hlines, List.map_cons, List.cons_append,
      List.dropWhile_cons_of_neg (by simp [isBlankLine_of_isSolid hline])]
  rw [normalize, through, cut_textOf h.isOneLine, squeeze, hdrop, squeezeFrom_false h, print_map_toList]

/-- No two lines in a row are blank. -/
def HasLoneGaps (s : String) : Prop :=
  (cut s.toList).IsChain fun line next => ¬ (isBlankLine line = true ∧ isBlankLine next = true)

lemma hasLoneGaps_textOf (h : IsTidy lines) : HasLoneGaps (textOf lines) := by
  have hsolid {line : String} (hline : IsSolid line) {next : List Char} :
      ¬ (isBlankLine line.toList = true ∧ isBlankLine next = true) := by
    simp [isBlankLine_of_isSolid hline]
  rw [HasLoneGaps, cut_textOf h.isOneLine]
  induction h with
  | last h => exact .cons_cons (hsolid h) (.singleton _)
  | @next line rest h hrest ih =>
    obtain ⟨second, more, rfl, -⟩ := hrest.exists_cons
    exact .cons_cons (hsolid h) ih
  | @gap line rest h hrest ih =>
    obtain ⟨second, more, rfl, hsecond⟩ := hrest.exists_cons
    refine .cons_cons (hsolid h) (.cons_cons ?_ ih)
    simp [isBlankLine_of_isSolid hsecond]

end Lines

end EntityScaffold.Text
