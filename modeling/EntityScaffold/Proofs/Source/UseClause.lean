import EntityScaffold.Proofs.Naming.ProperName
import EntityScaffold.Proofs.Source.Import
import EntityScaffold.Proofs.Text.Case
/-!
# What a compiler reads in a file

A compiler knows nothing of the unit that was printed: it has the `use` lines of the file, its namespace,
and the names in its types.  `UseClause.read?` is what it makes of one `use` line, and `resolve` is the class
that it takes a name for; neither looks at how names are shortened when they are printed.

An entry of a unit is either a class or a class with an alias (`IsEntry`), and then the line printed for it is
the entry itself and says what `Import.read` says (`UseClause.read?_of_isEntry`).
-/

namespace EntityScaffold

open Text ClassName

namespace Source

/-! ## The rules of the language -/

/-- What a `use` line says: a class, and the name that stands for it in the file. -/
structure UseClause where
  target : String
  name : String
  deriving DecidableEq, Repr

/-- A class name without the backslash that roots it. -/
def unrooted (name : String) : String :=
  match pieces '\\' name with
  | "" :: rest => join "\\" rest
  | all => join "\\" all

/-- Read the text behind `use`: a class, or a class with an alias. -/
def UseClause.read? (line : String) : Option UseClause :=
  match words line with
  | [target] => some ⟨unrooted target, (pieces '\\' target).getLastD ""⟩
  | [target, mark, name] => if foldCase mark = "as" then some ⟨unrooted target, name⟩ else none
  | _ => none

/-- A name below a namespace. -/
def below (space name : String) : String := if space = "" then name else space ++ "\\" ++ name

/-- The class that a name stands for in a file with a namespace and `use` lines; `none` for the words that are
no classes.  A rooted name is complete.  Otherwise the first segment is looked up among the names of the
`use` lines, without regard to case, and a name that is not there belongs to the namespace. -/
def resolve (space : String) (clauses : List UseClause) (text : String) : Option String :=
  let imported? (name : String) : Option String :=
    (clauses.find? fun c => foldCase c.name == foldCase name).map (·.target)
  match pieces '\\' text with
  | [name] =>
    if SourceUnit.builtinTypes.contains (foldCase name) then none
    else some ((imported? name).getD (below space name))
  | "" :: rest => some (join "\\" rest)
  | first :: rest =>
    if foldCase first = "namespace" then some (below space (join "\\" rest))
    else some (join "\\" ((imported? first).getD (below space first) :: rest))
  | [] => none

/-! ## Entries -/

/-- An entry of a unit that names a class properly: the class alone, or the class and an alias. -/
inductive IsEntry : String → Prop
  | plain {target : String} (h : IsProper target) : IsEntry target
  | aliased {target name : String} (h : IsProper target) (hname : IsSegment name) :
    IsEntry (target ++ " as " ++ name)

variable {target name entry : String} {cs : List Char}

lemma cutAtMark?_of_noBlank (h : ∀ c ∈ cs, isBlank c = false) :
    cutAtMark? aliasMark cs = none ∧
      ∀ ds, cutAtMark? aliasMark (cs ++ aliasMark ++ ds) = some (cs, ds) := by
  induction cs with
  | nil => exact ⟨rfl, fun _ => rfl⟩
  | cons c cs ih =>
    obtain ⟨hc, hcs⟩ := List.forall_mem_cons.1 h
    -- the mark begins with a blank, so it cannot begin here
    have hspace : ' ' ≠ c := by
      rintro rfl
      exact absurd hc (by decide)
    have hprefix (rest : List Char) : aliasMark.isPrefixOf (c :: rest) = false := by
      have hfalse : (' ' == c) = false := beq_false_of_ne hspace
      show (' ' == c && _) = false
      rw [hfalse, Bool.false_and]
    obtain ⟨hnone, hsome⟩ := ih hcs
    constructor
    · rw [cutAtMark?, hprefix, hnone]
      rfl
    · intro ds
      rw [List.cons_append, List.cons_append, cutAtMark?, hprefix, hsome]
      rfl

lemma Import.read_of_isProper (h : IsProper target) : Import.read target = ⟨target, none⟩ := by
  rw [Import.read, (cutAtMark?_of_noBlank (isBlank_of_isProper h)).1]
  simp [trim_of_isProper h, bare_of_isProper h]

lemma Import.read_aliased (h : IsProper target) (hname : IsSegment name) :
    Import.read (target ++ " as " ++ name) = ⟨target, some name⟩ := by
  have hchars : (target ++ " as " ++ name).toList = target.toList ++ aliasMark ++ name.toList := by
    simp [aliasMark]
  rw [Import.read, hchars, (cutAtMark?_of_noBlank (isBlank_of_isProper h)).2]
  simp [trim_of_isProper h, bare_of_isProper h, trim_of_isProper hname.isProper]

theorem IsEntry.read (h : IsEntry entry) :
    IsProper (Import.read entry).target ∧ IsSegment (Import.read entry).shortName := by
  cases h with
  | plain h =>
    rw [Import.read_of_isProper h]
    exact ⟨h, isSegment_shortName h⟩
  | aliased h hname =>
    rw [Import.read_aliased h hname]
    refine ⟨h, ?_⟩
    simpa [Import.shortName, hname.1] using hname

/-! ## Printed lines -/

lemma Import.printed_eq_self {s : String} {c : Char} (hfirst : s.toList = c :: cs)
    (hc : isBlank c = false) (hslash : c ≠ '\\') (hlast : ∀ h, isBlank (s.toList.getLast h) = false) :
    Import.printed s = s := by
  have htrim : trim s = s := by
    rw [trim, through, stripWhile_eq_self, String.ofList_toList]
    · intro h
      simpa only [hfirst, List.head_cons] using hc
    · exact hlast
  have hdrop : s.toList.dropWhile (· == '\\') = s.toList := by
    rw [hfirst, List.dropWhile_cons_of_neg (by simpa using hslash)]
  rw [Import.printed, htrim, through, hdrop, String.ofList_toList]

lemma Import.printed_of_isEntry (h : IsEntry entry) : Import.printed entry = entry := by
  cases h with
  | plain h =>
    obtain ⟨c, cs, hfirst, hslash⟩ := h.exists_cons
    have hblank := isBlank_of_isProper h
    exact printed_eq_self hfirst (hblank c (by simp [hfirst])) hslash
      fun hne => hblank _ (List.getLast_mem hne)
  | @aliased target name h hname =>
    obtain ⟨c, cs, hfirst, hslash⟩ := h.exists_cons
    have hchars : (target ++ " as " ++ name).toList = c :: (cs ++ " as ".toList ++ name.toList) := by
      simp [hfirst]
    refine printed_eq_self hchars (isBlank_of_isProper h c (by simp [hfirst])) hslash fun hne => ?_
    have hlast : name.toList ≠ [] := by simpa using hname.1
    simp only [String.toList_append]
    rw [List.getLast_append_of_ne_nil _ hlast]
    exact (hname.2 _ (List.getLast_mem hlast)).2

lemma unrooted_of_isProper (h : IsProper target) : unrooted target = target := by
  have hroot : ∀ rest, pieces '\\' target ≠ "" :: rest := fun rest hpieces =>
    (h "" (hpieces ▸ List.mem_cons_self)).1 rfl
  rw [unrooted]
  split
  · next rest hpieces => exact absurd hpieces (hroot rest)
  · exact join_pieces target

lemma words_of_noBlank {s : String} (hne : s ≠ "") (h : ∀ c ∈ s.toList, isBlank c = false) :
    words s = [s] := by
  rw [words, wordsOf_of_noBlank (by simpa using hne) h]
  simp

lemma words_append (s t : String) : words (s ++ " " ++ t) = words s ++ words t := by
  have hchars : (s ++ " " ++ t).toList = s.toList ++ ' ' :: t.toList := by simp
  rw [words, hchars, wordsOf_append_cons (by decide), List.map_append]
  rfl

/-- A compiler reads in the line of an entry what the entry says. -/
theorem UseClause.read?_of_isEntry (h : IsEntry entry) :
    UseClause.read? entry = some ⟨(Import.read entry).target, (Import.read entry).shortName⟩ := by
  cases h with
  | plain h =>
    have hlast : (pieces '\\' entry).getLastD "" = ClassName.shortName entry := by
      rw [ClassName.shortName, segments, bare_of_isProper h]
    rw [Import.read_of_isProper h, read?, words_of_noBlank (ne_empty_of_isProper h) (isBlank_of_isProper h)]
    simp only [unrooted_of_isProper h, hlast, Import.shortName]
  | @aliased target name h hname =>
    have hwords : words (target ++ " as " ++ name) = [target, "as", name] := by
      have hmark : target ++ " as " ++ name = target ++ " " ++ ("as" ++ " " ++ name) := by
        simp only [String.append_assoc]
        rfl
      rw [hmark, words_append, words_append,
        words_of_noBlank (ne_empty_of_isProper h) (isBlank_of_isProper h),
        words_of_noBlank (s := "as") (by decide) (by decide),
        words_of_noBlank hname.1 fun c hc => (hname.2 c hc).2]
      rfl
    have has : foldCase "as" = "as" := by decide
    rw [Import.read_aliased h hname, read?, hwords]
    simp only [has, if_true, unrooted_of_isProper h, Import.shortName, if_neg hname.1]

end Source

/-! ## Lines of a unit -/

namespace SourceUnit

open Source

variable {u : SourceUnit} {line : String}

/-- The clause that a compiler reads for an entry. -/
def clauseOf (entry : String) : UseClause :=
  ⟨(Import.read entry).target, (Import.read entry).shortName⟩

lemma mem_importLines_of_isEntry (h : ∀ entry ∈ u.uses, IsEntry entry) :
    line ∈ u.importLines ↔ line ∈ u.uses ∧ u.isPrintedImport line = true := by
  rw [mem_importLines_iff]
  constructor
  · rintro ⟨entry, hentry, hprinted, hline⟩
    rw [Import.printed_of_isEntry (h entry hentry)] at hline
    exact hline ▸ ⟨hentry, hprinted⟩
  · rintro ⟨hentry, hprinted⟩
    exact ⟨line, hentry, hprinted, Import.printed_of_isEntry (h line hentry)⟩

lemma read?_of_mem_importLines (h : ∀ entry ∈ u.uses, IsEntry entry) :
    ∀ line ∈ u.importLines, UseClause.read? line = some (clauseOf line) := fun line hline =>
  UseClause.read?_of_isEntry (h line ((mem_importLines_of_isEntry h).1 hline).1)

end SourceUnit

end EntityScaffold
