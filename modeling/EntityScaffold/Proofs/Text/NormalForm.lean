import EntityScaffold.Proofs.Text.Passes
/-!
# What the normal form is

The lines of a text are blank lines at its front and then blocks, each a line that is not blank with the blank lines
behind it (`exists_isLaidOut`).  The normal form keeps the lines of the blocks, and of a gap between two of them it
keeps that there is one (`squeeze_of_isLaidOut`); of what is before the first block and behind the last it keeps
nothing.  It follows that a normal form is its own (`squeeze_squeeze`).
-/

namespace EntityScaffold.Text.Lines

/-! ## Blocks -/

/-- A line with the blank lines behind it. -/
structure Block where
  line : List Char
  gap : List (List Char)

/-- The lines of a block. -/
def Block.all (b : Block) : List (List Char) := b.line :: b.gap

variable {line : List Char} {lines front : List (List Char)} {blocks : List Block}

/-- A block begins with a line that is not blank, and no other line of it is like that. -/
def Block.IsProper (b : Block) : Prop := isBlankLine b.line = false ∧ ∀ line ∈ b.gap, isBlankLine line = true

/-- Lines that are blank at the front and blocks behind. -/
structure IsLaidOut (lines front : List (List Char)) (blocks : List Block) : Prop where
  eq : lines = front ++ blocks.flatMap Block.all
  blank : ∀ line ∈ front, isBlankLine line = true
  proper : ∀ b ∈ blocks, b.IsProper

/-- The first lines of blocks, with an empty line between two of them if there is a gap. -/
def spaced : List Block → List (List Char)
  | [] => []
  | [b] => [b.line]
  | b :: next :: more =>
    if b.gap = [] then b.line :: spaced (next :: more) else b.line :: [] :: spaced (next :: more)

/-- All lines can be laid out. -/
theorem exists_isLaidOut (lines : List (List Char)) : ∃ front blocks, IsLaidOut lines front blocks := by
  induction lines with
  | nil => exact ⟨[], [], rfl, nofun, nofun⟩
  | cons line lines ih =>
    obtain ⟨front, blocks, rfl, hblank, hproper⟩ := ih
    cases hline : isBlankLine line with
    | true => exact ⟨line :: front, blocks, rfl, List.forall_mem_cons.2 ⟨hline, hblank⟩, hproper⟩
    | false =>
      -- what was the front is now the gap behind the line
      exact ⟨[], ⟨line, front⟩ :: blocks, rfl, nofun, List.forall_mem_cons.2 ⟨⟨hline, hblank⟩, hproper⟩⟩

/-! ## Squeezing blocks -/

/-- Of a gap it is kept that there is one. -/
lemma squeezeFrom_append (h : ∀ line ∈ front, isBlankLine line = true) (hne : front ≠ []) (gap : Bool)
    (rest : List (List Char)) : squeezeFrom gap (front ++ rest) = squeezeFrom true rest := by
  induction front generalizing gap with
  | nil => exact absurd rfl hne
  | cons line front ih =>
    obtain ⟨hline, hfront⟩ := List.forall_mem_cons.1 h
    rw [List.cons_append, squeezeFrom, if_pos hline]
    cases front with
    | nil => rfl
    | cons next more => exact ih hfront (List.cons_ne_nil next more) true

lemma squeezeFrom_blocks (h : ∀ b ∈ blocks, b.IsProper) :
    squeezeFrom false (blocks.flatMap Block.all) = spaced blocks := by
  induction blocks with
  | nil => rfl
  | cons b rest ih =>
    obtain ⟨⟨hline, hgap⟩, hrest⟩ := List.forall_mem_cons.1 h
    have hb : squeezeFrom false ((b :: rest).flatMap Block.all) =
        b.line :: squeezeFrom false (b.gap ++ rest.flatMap Block.all) := squeezeFrom_false_of_notBlank hline _
    rw [hb]
    by_cases hempty : b.gap = []
    · rw [hempty, List.nil_append, ih hrest]
      cases rest with
      | nil => rfl
      | cons next more => rw [spaced, if_pos hempty]
    · rw [squeezeFrom_append hgap hempty]
      cases rest with
      | nil => rfl
      | cons next more =>
        -- the next block begins with a line that is not blank, and the gap is written before it
        obtain ⟨hnext, -⟩ := (List.forall_mem_cons.1 hrest).1
        have hgap : squeezeFrom true ((next :: more).flatMap Block.all) =
            [] :: squeezeFrom false ((next :: more).flatMap Block.all) := by
          rw [List.flatMap_cons, Block.all, List.cons_append, squeezeFrom_true_of_notBlank hnext,
            squeezeFrom_false_of_notBlank hnext]
        rw [hgap, ih hrest, spaced, if_neg hempty]

theorem squeeze_of_isLaidOut (h : IsLaidOut lines front blocks) : squeeze lines = spaced blocks := by
  have hdrop : (blocks.flatMap Block.all).dropWhile isBlankLine = blocks.flatMap Block.all := by
    cases blocks with
    | nil => rfl
    | cons b rest =>
      have hline := (h.proper b List.mem_cons_self).1
      exact List.dropWhile_cons_of_neg (Bool.eq_false_iff.1 hline)
  rw [squeeze, h.eq, List.dropWhile_append_of_pos h.blank, hdrop, squeezeFrom_blocks h.proper]

/-- There are blocks where there is a line that is not blank. -/
lemma IsLaidOut.blocks_eq_nil_iff (h : IsLaidOut lines front blocks) :
    blocks = [] ↔ ∀ line ∈ lines, isBlankLine line = true := by
  constructor
  · rintro rfl
    rw [h.eq]
    simpa using h.blank
  · intro hall
    cases blocks with
    | nil => rfl
    | cons b rest =>
      have hmem : b.line ∈ lines := by
        rw [h.eq]
        simp [Block.all]
      cases (h.proper b List.mem_cons_self).1.symm.trans (hall b.line hmem)

lemma exists_spaced_cons (b : Block) (rest : List Block) : ∃ more, spaced (b :: rest) = b.line :: more := by
  cases rest with
  | nil => exact ⟨[], rfl⟩
  | cons next more =>
    rw [spaced]
    split
    · exact ⟨_, rfl⟩
    · exact ⟨_, rfl⟩

/-! ## Normal forms -/

/-- Squeezed lines are squeezed already, but for the line behind the last feed. -/
lemma squeezeFrom_squeezeFrom (gap : Bool) (lines : List (List Char)) :
    squeezeFrom false (squeezeFrom gap lines ++ [[]]) = squeezeFrom gap lines := by
  induction lines generalizing gap with
  | nil => rfl
  | cons line rest ih =>
    cases hline : isBlankLine line with
    | true =>
      rw [squeezeFrom, if_pos hline]
      exact ih true
    | false =>
      cases gap with
      | false =>
        rw [squeezeFrom_false_of_notBlank hline, List.cons_append, squeezeFrom_false_of_notBlank hline, ih false]
      | true =>
        have hpassed (lines : List (List Char)) : squeezeFrom false ([] :: lines) = squeezeFrom true lines := rfl
        rw [squeezeFrom_true_of_notBlank hline, List.cons_append, List.cons_append, hpassed,
          squeezeFrom_true_of_notBlank hline, ih false]

theorem squeeze_squeeze (lines : List (List Char)) : squeeze (squeeze lines ++ [[]]) = squeeze lines := by
  obtain ⟨front, blocks, h⟩ := exists_isLaidOut lines
  rw [squeeze_of_isLaidOut h]
  have hdrop : squeeze (spaced blocks ++ [[]]) = squeezeFrom false (spaced blocks ++ [[]]) := by
    cases blocks with
    | nil => rfl
    | cons b rest =>
      obtain ⟨more, hspaced⟩ := exists_spaced_cons b rest
      have hline := (h.proper b List.mem_cons_self).1
      rw [squeeze, hspaced, List.cons_append, List.dropWhile_cons_of_neg (Bool.eq_false_iff.1 hline)]
  rw [hdrop, ← squeezeFrom_blocks h.proper, squeezeFrom_squeezeFrom]

/-- What is squeezed has no lines but those that were there, and empty ones. -/
lemma forall_mem_squeezeFrom {P : List Char → Prop} (hnil : P []) (h : ∀ line ∈ lines, P line) (gap : Bool) :
    ∀ line ∈ squeezeFrom gap lines, P line := by
  induction lines generalizing gap with
  | nil => exact nofun
  | cons line rest ih =>
    obtain ⟨hline, hrest⟩ := List.forall_mem_cons.1 h
    rw [squeezeFrom]
    split_ifs
    · exact ih hrest true
    · exact List.forall_mem_cons.2 ⟨hnil, List.forall_mem_cons.2 ⟨hline, ih hrest false⟩⟩
    · exact List.forall_mem_cons.2 ⟨hline, ih hrest false⟩

lemma forall_mem_squeeze_cut (cs : List Char) : ∀ line ∈ squeeze (cut cs), ∀ c ∈ line, c ≠ '\n' ∧ c ≠ '\r' := by
  refine forall_mem_squeezeFrom nofun ?_ false
  exact fun line hline => forall_mem_cut cs line ((List.dropWhile_sublist isBlankLine).subset hline)

/-- A normal form is cut into the lines that it was printed from, and an empty one behind the last feed. -/
lemma cut_print_squeeze (cs : List Char) : cut (print (squeeze (cut cs))) = squeeze (cut cs) ++ [[]] :=
  cut_print (forall_mem_squeeze_cut cs)

lemma normalize_normalize (s : String) : normalize (normalize s) = normalize s := by
  have hchars : (normalize s).toList = print (squeeze (cut s.toList)) := toList_through _ s
  rw [normalize, through, hchars, cut_print_squeeze, squeeze_squeeze]
  rfl

/-- What the normal form of a text is: nothing where all lines are blank, and otherwise the lines that are not, in
their order and each ended by a line feed, with one empty line between two of them exactly if there is a gap between
them in the text.  It is what the passes make of the text, and it is its own normal form. -/
theorem normal_form_is_exact (s : String) :
    normalize s = through passes s ∧
      (∃ front blocks, IsLaidOut (cut s.toList) front blocks ∧ (normalize s).toList = print (spaced blocks)) ∧
      (normalize s = "" ↔ ∀ line ∈ cut s.toList, isBlankLine line = true) ∧
      normalize (normalize s) = normalize s := by
  obtain ⟨front, blocks, h⟩ := exists_isLaidOut (cut s.toList)
  have hchars : (normalize s).toList = print (spaced blocks) := by
    rw [normalize, toList_through, squeeze_of_isLaidOut h]
  refine ⟨normalize_eq_passes s, ⟨front, blocks, h, hchars⟩, ?_, normalize_normalize s⟩
  rw [← String.toList_eq_nil_iff, hchars, ← h.blocks_eq_nil_iff]
  cases blocks with
  | nil => simp [spaced, print]
  | cons b rest =>
    obtain ⟨more, hspaced⟩ := exists_spaced_cons b rest
    simp [hspaced, print]

/-- Line ends of all kinds, blanks on blank lines, and a last line that is not ended. -/
example : normalize "\r\n \t\na\r\r\t\n\n  b\n\n \rc" = "a\n\n  b\n\nc\n" := by decide

end EntityScaffold.Text.Lines
