import EntityScaffold.Proofs.Source.UseClause
import EntityScaffold.Proofs.Text.Case
/-!
# Printed class names resolve back

A class is printed under an alias, under its short name, or rooted, as the imports of its unit have it, and the
`use` lines that a compiler goes by are found from the same imports in another way: an import from the unit's
own namespace has none.  The two agree (`printed_type_resolves_back`) because a name without a `use` line
belongs to the namespace, where that import would have led.

What has to be known of the unit is `SourceUnit.HasProperImports`.  Of a class that the unit does not import but
shares a namespace with, it has to be known that no import has taken its short name.
-/

namespace EntityScaffold

open Text ClassName Source

namespace SourceUnit

variable {u : SourceUnit} {c entry line name : String}

/-! ## Imports of a unit -/

/-- A unit in a proper namespace whose imports are proper, under names that differ, and that are no builtin
types. -/
structure HasProperImports (u : SourceUnit) : Prop where
  space : u.space = "" ∨ IsProper u.space
  entries : ∀ entry ∈ u.uses, IsEntry entry
  names : (u.uses.map fun entry => foldCase (Import.read entry).shortName).Nodup
  words : ∀ entry ∈ u.uses, lower (Import.read entry).shortName ∉ builtinTypes

lemma HasProperImports.mem_importLines_iff (h : u.HasProperImports) :
    line ∈ u.importLines ↔ line ∈ u.uses ∧ u.isPrintedImport line = true :=
  mem_importLines_of_isEntry h.entries

lemma HasProperImports.clauses_eq (h : u.HasProperImports) :
    u.importLines.mapM UseClause.read? = some (u.importLines.map clauseOf) := by
  have hread := read?_of_mem_importLines h.entries
  generalize u.importLines = lines at hread
  induction lines with
  | nil => rfl
  | cons line lines ih =>
    obtain ⟨hline, hlines⟩ := List.forall_mem_cons.1 hread
    rw [List.mapM_cons, hline, ih hlines]
    rfl

/-! ## Names -/

lemma foldCase_notMem_builtinTypes (h : lower name ∉ builtinTypes) : foldCase name ∉ builtinTypes := by
  intro hmem
  -- lower case in general agrees with that of ASCII where the outcome is of ASCII, as builtin words are
  have hascii : ∀ word ∈ builtinTypes, ∀ c ∈ word.toList, c.toNat < 128 := by decide
  exact h (lower_of_foldCase_ascii (hascii _ hmem) ▸ hmem)

/-- A class is not taken for a builtin word, if it is in a namespace or its short name is none. -/
theorem lower_notMem_builtinTypes (hc : IsProper c)
    (h : namespaceOf c = "" → lower (shortName c) ∉ builtinTypes) : lower c ∉ builtinTypes := by
  obtain ⟨-, ⟨hspace, hname⟩ | ⟨-, hname⟩⟩ := hc.cases
  · rw [hname]
    exact h hspace
  · intro hmem
    have hwords : ∀ word ∈ builtinTypes, '\\' ∉ word.toList := by decide
    refine hwords _ hmem ?_
    rw [lower, toList_through]
    refine mem_lowerAfter (by decide) (by decide) ?_
    rw [hname]
    simp

lemma below_namespaceOf (hc : IsProper c) : below (namespaceOf c) (shortName c) = c := by
  obtain ⟨-, ⟨hspace, hname⟩ | ⟨hspace, hname⟩⟩ := hc.cases
  · rw [hspace, below, if_pos rfl, ← hname]
  · rw [below, if_neg (ne_empty_of_isProper hspace), ← hname]

/-! ## Resolution -/

variable {space target : String} {clauses : List UseClause}

lemma resolve_rooted (space : String) (clauses : List UseClause) (c : String) :
    resolve space clauses ("\\" ++ c) = some c := by
  have hpieces : pieces '\\' ("\\" ++ c) = "" :: pieces '\\' c := by
    have happend := pieces_append "" c
    rwa [String.empty_append] at happend
  obtain ⟨first, more, hmore⟩ := List.exists_cons_of_ne_nil (pieces_ne_nil c)
  have hjoin : join "\\" (first :: more) = c := hmore ▸ join_pieces c
  rw [resolve, hpieces, hmore]
  exact congrArg some hjoin

/-- A name that is taken by one clause alone is the class of that clause. -/
lemma resolve_imported (hname : IsSegment name) (hword : lower name ∉ builtinTypes)
    (hmem : ⟨target, name⟩ ∈ clauses)
    (halone : ∀ clause ∈ clauses, foldCase clause.name = foldCase name → clause.target = target) :
    resolve space clauses name = some target := by
  have hbuiltin := foldCase_notMem_builtinTypes hword
  rw [resolve, pieces_of_isSegment hname]
  simp only [List.contains_iff_mem, hbuiltin, if_false]
  cases hfound : clauses.find? fun c => foldCase c.name == foldCase name with
  | none =>
    have hmiss := List.find?_eq_none.1 hfound _ hmem
    exact absurd (beq_self_eq_true _) hmiss
  | some clause =>
    have hsame : foldCase clause.name = foldCase name := by simpa using List.find?_some hfound
    rw [Option.map_some, Option.getD_some, halone clause (List.mem_of_find?_eq_some hfound) hsame]

lemma resolve_own (hname : IsSegment name) (hword : lower name ∉ builtinTypes)
    (hfree : ∀ clause ∈ clauses, foldCase clause.name ≠ foldCase name) :
    resolve space clauses name = some (below space name) := by
  have hbuiltin := foldCase_notMem_builtinTypes hword
  have hmiss : clauses.find? (fun c => foldCase c.name == foldCase name) = none :=
    List.find?_eq_none.2 fun clause hclause heq => hfree clause hclause (beq_iff_eq.1 heq)
  rw [resolve, pieces_of_isSegment hname]
  simp only [List.contains_iff_mem, hbuiltin, if_false, hmiss, Option.map_none, Option.getD_none]

/-! ## Printed types -/

/-- The name of an import resolves to its class, whether or not there is a `use` line for it. -/
lemma HasProperImports.resolve_shortName (h : u.HasProperImports) (hentry : entry ∈ u.uses) :
    resolve u.space (u.importLines.map clauseOf) (Import.read entry).shortName =
      some (Import.read entry).target := by
  obtain ⟨htarget, hname⟩ := (h.entries entry hentry).read
  have hword := h.words entry hentry
  have hsame : ∀ other ∈ u.uses,
      foldCase (Import.read other).shortName = foldCase (Import.read entry).shortName → other = entry :=
    fun other hother heq => List.inj_on_of_nodup_map h.names hother hentry heq
  by_cases hprinted : u.isPrintedImport entry = true
  · have hclause : clauseOf entry ∈ u.importLines.map clauseOf :=
      List.mem_map_of_mem (h.mem_importLines_iff.2 ⟨hentry, hprinted⟩)
    refine resolve_imported hname hword hclause fun clause hclause heq => ?_
    obtain ⟨other, hother, rfl⟩ := List.mem_map.1 hclause
    rw [hsame other (h.mem_importLines_iff.1 hother).1 heq]
    rfl
  · -- without a line for it the name is looked for in the namespace, where the class is
    obtain ⟨hspace, hshort⟩ := own_of_not_isPrintedImport hprinted
    rw [resolve_own hname hword, hshort, ← hspace, below_namespaceOf htarget]
    intro clause hclause heq
    obtain ⟨other, hother, rfl⟩ := List.mem_map.1 hclause
    obtain ⟨hmem, hline⟩ := h.mem_importLines_iff.1 hother
    rw [hsame other hmem heq] at hline
    exact hprinted hline

/-- How a class is printed, read by the rules of the language against the `use` lines of the file, is the class
again. -/
theorem printed_type_resolves_back (u : SourceUnit) (c : String) (hu : u.HasProperImports)
    (hc : IsProper c) (hword : lower (shortName c) ∉ builtinTypes)
    (hfree : (∀ entry ∈ u.uses, (Import.read entry).target ≠ c) → namespaceOf c = u.space →
      ∀ entry ∈ u.uses, foldCase (Import.read entry).shortName ≠ foldCase (shortName c)) :
    ∃ clauses, u.importLines.mapM UseClause.read? = some clauses ∧
      resolve u.space clauses (u.printType (some c) false) = some c := by
  refine ⟨_, hu.clauses_eq, ?_⟩
  have hbuiltin := lower_notMem_builtinTypes hc fun _ => hword
  have hprinted : u.printType (some c) false = u.plainType c := by
    simp [printType, ne_empty_of_isProper hc]
  have hbare := bare_of_isProper hc
  have hplain := u.isPlain_plainType c
  rw [hprinted]
  generalize u.plainType c = printed at hplain ⊢
  cases hplain with
  | builtin hbuiltin' => exact absurd hbuiltin' hbuiltin
  | imported _ hentry htarget =>
    rw [hu.resolve_shortName hentry, htarget, hbare]
  | own _ hmissing hspace =>
    rw [hbare] at hmissing hspace ⊢
    rw [resolve_own (isSegment_shortName hc) hword, ← hspace, below_namespaceOf hc]
    -- a clause with the short name would belong to an entry that is not there
    intro clause hclause
    obtain ⟨entry, hentry, rfl⟩ := List.mem_map.1 hclause
    exact hfree hmissing hspace entry (hu.mem_importLines_iff.1 hentry).1
  | rooted =>
    rw [hbare]
    exact resolve_rooted u.space _ c

/-- A unit that calls another class by an alias, because a class of its own namespace has the name. -/
def labelled : SourceUnit :=
  { space := "App\\Model"
    uses := ["Shop\\Tag as ShopTag", "App\\Model\\Label", "Ramsey\\Uuid\\UuidInterface"]
    declaration := { name := "Note" } }

theorem tag_beside_shop_tag_resolves_back : labelled.HasProperImports ∧
    ∃ clauses, labelled.importLines.mapM UseClause.read? = some clauses ∧
      resolve "App\\Model" clauses (labelled.printType (some "App\\Model\\Tag") false) =
        some "App\\Model\\Tag" := by
  have himports : labelled.HasProperImports := {
    space := .inr (by decide)
    entries := by
      have hshop : IsEntry "Shop\\Tag as ShopTag" :=
        .aliased (show IsProper "Shop\\Tag" by decide) (show IsSegment "ShopTag" by decide)
      have hlabel : IsEntry "App\\Model\\Label" := .plain (by decide)
      have huuid : IsEntry "Ramsey\\Uuid\\UuidInterface" := .plain (by decide)
      simp [labelled, hshop, hlabel, huuid]
    names := by decide
    words := by decide }
  exact ⟨himports, printed_type_resolves_back labelled "App\\Model\\Tag" himports (by decide)
    (by decide) (by decide)⟩

end SourceUnit

end EntityScaffold
