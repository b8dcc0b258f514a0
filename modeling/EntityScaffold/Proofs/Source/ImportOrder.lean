import EntityScaffold.Proofs.Source.Collisions
import EntityScaffold.Proofs.Text.Order
/-!
# The order of imports

The imports of a unit are gone through twice: for the names of classes, where the last import of a class counts, and
for the `use` lines, which are sorted without regard to case and keep their order where that does not tell them apart.
So the order of the imports shows in the text in two cases: a class that is imported under two names goes by the later
one, and lines that differ by case only stand as they were listed.  A class has two names as soon as it is imported
with an alias and without one (`newsletter_depends_on_order`).

Where neither is the case, the names and the lines are those of the set of imports (`importedAs?_eq_some_iff`,
`importLines_congr`), and nothing else in the text hangs on the imports (`print_congr`).
-/

namespace EntityScaffold

open Text Source

/-! ## Texts that differ by case and padding -/

/-- Blanks and backslashes carry no meaning around an import. -/
def Text.isPadding (c : Char) : Bool := isBlank c || c == '\\'

/-- A text with padding around it. -/
def Text.IsPadded (core s : String) : Prop :=
  ∃ before after : List Char, s.toList = before ++ core.toList ++ after ∧
    (∀ c ∈ before, isPadding c = true) ∧ ∀ c ∈ after, isPadding c = true

/-- Texts that differ at most in letter case, and in the padding around them. -/
def Text.IsSpelledLike (s t : String) : Prop :=
  ∃ core core', IsPadded core s ∧ IsPadded core' t ∧ lower core = lower core'

namespace Text

variable {s t core : String}

lemma IsPadded.subset (h : IsPadded core s) : core.toList ⊆ s.toList := by
  obtain ⟨before, after, hs, -⟩ := h
  rw [hs]
  exact fun c hc => List.mem_append_left _ (List.mem_append_right _ hc)

/-- The characters of a text that are no padding, without regard to case. -/
def letters (s : String) : List Char := (s.toList.map asciiLower).filter fun c => !isPadding c

set_option maxRecDepth 2000 in
lemma isPadding_asciiLower (c : Char) : isPadding (asciiLower c) = isPadding c := by
  by_cases hc : c.toNat < 128
  · exact of_ascii (P := fun c => isPadding (asciiLower c) = isPadding c) (by decide) hc
  · rw [asciiLower_of_not_ascii hc]

lemma IsPadded.letters_eq (h : IsPadded core s) : letters s = letters core := by
  obtain ⟨before, after, hs, hbefore, hafter⟩ := h
  have hnone {cs : List Char} (h : ∀ c ∈ cs, isPadding c = true) :
      (cs.map asciiLower).filter (fun c => !isPadding c) = [] := by
    rw [List.filter_eq_nil_iff, List.forall_mem_map]
    intro c hc
    simp [isPadding_asciiLower, h c hc]
  rw [letters, hs, List.map_append, List.map_append, List.filter_append, List.filter_append, hnone hbefore,
    hnone hafter, List.append_nil, List.nil_append, letters]

/-- Texts of ASCII with different letters are not spelled alike. -/
lemma letters_eq_of_isSpelledLike (hs : ∀ c ∈ s.toList, c.toNat < 128) (ht : ∀ c ∈ t.toList, c.toNat < 128)
    (h : IsSpelledLike s t) : letters s = letters t := by
  obtain ⟨core, core', hcore, hcore', hlower⟩ := h
  rw [lower_of_ascii fun c hc => hs c (hcore.subset hc), lower_of_ascii fun c hc => ht c (hcore'.subset hc)] at hlower
  have hfold : core.toList.map asciiLower = core'.toList.map asciiLower := by
    simpa only [foldCase, toList_through] using congrArg String.toList hlower
  rw [hcore.letters_eq, hcore'.letters_eq, letters, letters, hfold]

end Text

namespace SourceUnit

variable {u v : SourceUnit} {uses : List String} {c name line : String}

/-! ## Lines of entries -/

/-- An entry is its line with padding around it. -/
lemma isPadded_printed (entry : String) : IsPadded (Import.printed entry) entry := by
  obtain ⟨before, after, htrim, hbefore, hafter⟩ := exists_stripWhile_eq isBlank entry.toList
  have hprinted : (trim entry).toList =
      (trim entry).toList.takeWhile (· == '\\') ++ (Import.printed entry).toList := by
    rw [Import.printed, toList_through, List.takeWhile_append_dropWhile]
  refine ⟨before ++ (trim entry).toList.takeWhile (· == '\\'), after, ?_, ?_, fun c hc => ?_⟩
  · rw [List.append_assoc before, ← hprinted, trim, toList_through]
    exact htrim
  · refine List.forall_mem_append.2 ⟨fun c hc => ?_, fun c hc => ?_⟩
    · rw [isPadding, hbefore c hc, Bool.true_or]
    · rw [isPadding, List.mem_takeWhile_imp (p := (· == '\\')) hc, Bool.or_true]
  · rw [isPadding, hafter c hc, Bool.true_or]

/-- Entries whose lines are the same in lower case are spelled alike. -/
lemma isSpelledLike_of_lower_printed {entry entry' : String}
    (h : lower (Import.printed entry) = lower (Import.printed entry')) : IsSpelledLike entry entry' :=
  ⟨_, _, isPadded_printed entry, isPadded_printed entry', h⟩

/-! ## Names and lines -/

/-- No class is imported under two names. -/
def NamesAgree (uses : List String) : Prop :=
  ∀ entry ∈ uses, ∀ entry' ∈ uses, (Import.read entry).target = (Import.read entry').target →
    (Import.read entry).shortName = (Import.read entry').shortName

/-- No class has two aliases.  It may have an alias and be imported under its own name as well. -/
def AliasesAgree (uses : List String) : Prop :=
  ∀ entry ∈ uses, ∀ entry' ∈ uses, (Import.read entry).target = (Import.read entry').target →
    ∀ name ∈ (Import.read entry).aliasText, ∀ name' ∈ (Import.read entry').aliasText, name = name'

/-- No two entries differ only by case and padding. -/
def SpellingsDiffer (uses : List String) : Prop :=
  ∀ entry ∈ uses, ∀ entry' ∈ uses, IsSpelledLike entry entry' → entry = entry'

/-- Of entries of ASCII it is enough to compare the letters. -/
lemma spellingsDiffer_of_letters (hascii : ∀ entry ∈ uses, ∀ c ∈ entry.toList, c.toNat < 128)
    (h : ∀ entry ∈ uses, ∀ entry' ∈ uses, letters entry = letters entry' → entry = entry') : SpellingsDiffer uses :=
  fun entry hentry entry' hentry' hlike =>
    h entry hentry entry' hentry' (letters_eq_of_isSpelledLike (hascii entry hentry) (hascii entry' hentry') hlike)

/-- A class that is imported under one name goes by it, whichever of its imports counts. -/
theorem importedAs?_eq_some_iff (h : NamesAgree u.uses) :
    u.importedAs? c = some name ↔
      ∃ entry ∈ u.uses, (Import.read entry).target = c ∧ (Import.read entry).shortName = name := by
  constructor
  · exact importedAs?_eq_some
  · rintro ⟨entry, hentry, htarget, rfl⟩
    cases himported : u.importedAs? c with
    | none => exact absurd htarget (importedAs?_eq_none himported entry hentry)
    | some name =>
      obtain ⟨entry', hentry', htarget', rfl⟩ := importedAs?_eq_some himported
      exact congrArg some (h entry' hentry' entry hentry (htarget'.trans htarget.symm))

lemma importedAs?_congr (h : NamesAgree u.uses) (huses : ∀ entry, entry ∈ v.uses ↔ entry ∈ u.uses) (c : String) :
    v.importedAs? c = u.importedAs? c := by
  have hv : NamesAgree v.uses := fun entry hentry entry' hentry' =>
    h entry ((huses entry).1 hentry) entry' ((huses entry').1 hentry')
  refine Option.ext fun name => ?_
  rw [importedAs?_eq_some_iff h, importedAs?_eq_some_iff hv]
  simp only [huses]

lemma pairwise_importLines (u : SourceUnit) : u.importLines.Pairwise fun s t => lower s ≤ lower t :=
  pairwise_mergeSort_key lower _

/-- Different lines differ by more than case. -/
lemma eq_of_lower_importLines (h : SpellingsDiffer u.uses) :
    ∀ s ∈ u.importLines, ∀ t ∈ u.importLines, lower s = lower t → s = t := by
  intro s hs t ht heq
  obtain ⟨entry, hentry, -, rfl⟩ := mem_importLines_iff.1 hs
  obtain ⟨entry', hentry', -, rfl⟩ := mem_importLines_iff.1 ht
  rw [h entry hentry entry' hentry' (isSpelledLike_of_lower_printed heq)]

theorem importLines_congr (h : SpellingsDiffer u.uses) (hspace : v.space = u.space)
    (huses : ∀ entry, entry ∈ v.uses ↔ entry ∈ u.uses) : v.importLines = u.importLines := by
  refine eq_of_sortedBy (pairwise_importLines u) (pairwise_importLines v) (nodup_importLines u) (nodup_importLines v)
    (eq_of_lower_importLines h) fun line => ?_
  rw [mem_importLines_iff, mem_importLines_iff]
  simp only [huses, isPrintedImport, hspace]

/-! ## Texts -/

section

variable (hspace : v.space = u.space) (hdeclaration : v.declaration = u.declaration)
  (hnames : ∀ c, v.importedAs? c = u.importedAs? c)

include hspace hnames

lemma printType_congr : v.printType = u.printType := by
  have hplain (type : String) : v.plainType type = u.plainType type := by
    simp only [plainType, hspace, hnames]
  funext type nullable
  simp only [printType, hplain]

lemma methodLines_congr : v.methodLines = u.methodLines := by
  have htype := printType_congr hspace hnames
  have hparameter : v.printParameter = u.printParameter := by
    funext p
    simp only [printParameter, htype]
  funext m
  simp only [methodLines, methodHead, hparameter, htype]

include hdeclaration

/-- The text of a unit hangs on its imports by their lines and by the names that they give to classes. -/
theorem print_congr (hlines : v.importLines = u.importLines) : v.print = u.print := by
  have htype := printType_congr hspace hnames
  have hmember : v.memberLines = u.memberLines := by
    funext m
    simp only [memberLines, htype]
  have hblocks : v.blocks = u.blocks := by
    simp only [blocks, traitLines, hdeclaration, htype, hmember, methodLines_congr hspace hnames]
  have hheader : v.header = u.header := by
    simp only [header, hdeclaration, htype]
  simp only [print, lines, hspace, hlines, hdeclaration, hheader, hblocks]

end

/-- A unit in which no class is imported under two names, and no two imports differ only by case or by what stands
around them, prints to one text in whatever order its imports are listed, and however often.  Its `use` lines are
those of the imports that have an alias or belong to another namespace, each once. -/
theorem text_does_not_depend_on_import_order (u : SourceUnit) (hnames : NamesAgree u.uses)
    (hspellings : SpellingsDiffer u.uses) :
    (∀ uses, (∀ entry, entry ∈ uses ↔ entry ∈ u.uses) → SourceUnit.print { u with uses := uses } = u.print) ∧
      u.importLines.Nodup ∧
        ∀ line, line ∈ u.importLines ↔ ∃ entry ∈ u.uses, Import.printed entry = line ∧
          ((Import.read entry).aliasText.isSome ∨ ClassName.namespaceOf (Import.read entry).target ≠ u.space) := by
  refine ⟨fun uses huses => ?_, nodup_importLines u, fun line => ?_⟩
  · exact print_congr (u := u) (v := { u with uses := uses }) rfl rfl (importedAs?_congr hnames huses)
      (importLines_congr hspellings rfl huses)
  · rw [mem_importLines_iff]
    refine exists_congr fun entry => and_congr_right fun _ => ?_
    rw [isPrintedImport, Bool.or_eq_true, bne_iff_ne]
    exact and_comm

/-- A class that sends letters, with some imports. -/
def newsletter (uses : List String) : SourceUnit where
  space := "App\\Model"
  uses := uses
  declaration :=
    { name := "Newsletter"
      members := [{ name := "mailer", type := some "App\\Model\\Mailer" }] }

theorem newsletter_has_one_text :
    let uses := ["App\\Model\\Mailer as Post", "\\Lib\\Letter", "App\\Model\\Reader"]
    let others := ["App\\Model\\Reader", "\\Lib\\Letter", "App\\Model\\Mailer as Post", "\\Lib\\Letter"]
    NamesAgree (newsletter uses).uses ∧ SpellingsDiffer (newsletter uses).uses ∧
      (newsletter others).print = (newsletter uses).print ∧ (newsletter uses).importLines.Nodup ∧
        "Lib\\Letter" ∈ (newsletter uses).importLines ∧ "App\\Model\\Reader" ∉ (newsletter uses).importLines := by
  intro uses others
  have hnames : NamesAgree uses := by
    unfold NamesAgree
    decide
  have hspellings : SpellingsDiffer uses := spellingsDiffer_of_letters (by decide) (by decide)
  have hothers : ∀ entry, entry ∈ others ↔ entry ∈ uses := fun entry => by
    simp only [others, uses, List.mem_cons, List.not_mem_nil, or_false]
    tauto
  obtain ⟨hprint, hnodup, hlines⟩ := text_does_not_depend_on_import_order (newsletter uses) hnames hspellings
  refine ⟨hnames, hspellings, hprint others hothers, hnodup, ?_, ?_⟩
  · rw [hlines]
    decide
  · rw [hlines]
    decide

/-- With an alias and without one, a class goes by the name that comes last. -/
theorem newsletter_depends_on_order :
    let uses := ["App\\Model\\Mailer as Post", "App\\Model\\Mailer"]
    AliasesAgree uses ∧ SpellingsDiffer uses ∧ uses.reverse.Perm uses ∧
      (newsletter uses.reverse).print ≠ (newsletter uses).print := by
  intro uses
  have haliases : AliasesAgree uses := by
    unfold AliasesAgree
    decide
  have hspellings : SpellingsDiffer uses := spellingsDiffer_of_letters (by decide) (by decide)
  have hline : (newsletter uses).importLines = ["App\\Model\\Mailer as Post"] := by
    have hone : distinct (((newsletter uses).uses.filter (newsletter uses).isPrintedImport).map Import.printed) =
        ["App\\Model\\Mailer as Post"] := by decide +kernel
    rw [importLines, hone, List.mergeSort_singleton]
  have hline' : (newsletter uses.reverse).importLines = ["App\\Model\\Mailer as Post"] :=
    (importLines_congr (u := newsletter uses) (v := newsletter uses.reverse) hspellings rfl fun _ =>
      List.mem_reverse).trans hline
  refine ⟨haliases, hspellings, uses.reverse_perm, ?_⟩
  simp only [print, lines, hline, hline']
  decide +kernel

end SourceUnit

end EntityScaffold
