import EntityScaffold.Proofs.Text.Characters
import EntityScaffold.Proofs.Text.Order
import EntityScaffold.Source.Printer
/-!
# Imports and printed types

The printed lines are those of the entries that are to be printed (`mem_importLines_iff`), each once, and a
class is known under the name of one of its entries (`importedAs?_eq_some`).  Everything about printed types goes
by `isPlain_plainType`.
-/

namespace EntityScaffold.SourceUnit

open Text Source ClassName

variable {u : SourceUnit} {c line name type : String}

theorem mem_importLines_iff :
    line ∈ u.importLines ↔ ∃ entry ∈ u.uses, u.isPrintedImport entry = true ∧ Import.printed entry = line := by
  rw [importLines, List.mem_mergeSort, mem_distinct_iff, List.mem_map]
  simp only [List.mem_filter, and_assoc]

/-- A class is imported under the name of one of its entries. -/
theorem importedAs?_eq_some (h : u.importedAs? c = some name) :
    ∃ entry ∈ u.uses, (Import.read entry).target = c ∧ (Import.read entry).shortName = name := by
  obtain ⟨i, hi, hsome⟩ := List.exists_of_findSome?_eq_some h
  rw [List.mem_map] at hi
  obtain ⟨entry, hentry, rfl⟩ := hi
  split at hsome
  · next htarget => exact ⟨entry, List.mem_reverse.1 hentry, htarget, Option.some.inj hsome⟩
  · cases hsome

lemma importedAs?_eq_none (h : u.importedAs? c = none) :
    ∀ entry ∈ u.uses, (Import.read entry).target ≠ c := by
  intro entry hentry htarget
  have hnone := List.findSome?_eq_none_iff.1 h (Import.read entry)
    (List.mem_map_of_mem (List.mem_reverse.2 hentry))
  simp [htarget] at hnone

/-- An import that is not printed is a class of the unit's namespace, under its own short name. -/
theorem own_of_not_isPrintedImport {entry : String} (h : ¬ u.isPrintedImport entry = true) :
    namespaceOf (Import.read entry).target = u.space ∧
      (Import.read entry).shortName = ClassName.shortName (Import.read entry).target := by
  have hown : (Import.read entry).aliasText = none ∧ namespaceOf (Import.read entry).target = u.space := by
    simpa [isPrintedImport] using h
  exact ⟨hown.2, by rw [Import.shortName, hown.1]⟩

/-! ## Printed types -/

/-- How a type can be printed: as a builtin word, by the name of an import, and if there is none, by its short name
in its namespace and rooted elsewhere. -/
inductive IsPlain (u : SourceUnit) (type : String) : String → Prop
  | builtin (h : lower type ∈ builtinTypes) : IsPlain u type (lower type)
  | imported {entry : String} (h : lower type ∉ builtinTypes) (hentry : entry ∈ u.uses)
    (htarget : (Import.read entry).target = bare type) : IsPlain u type (Import.read entry).shortName
  | own (h : lower type ∉ builtinTypes) (hmissing : ∀ entry ∈ u.uses, (Import.read entry).target ≠ bare type)
    (hspace : namespaceOf (bare type) = u.space) : IsPlain u type (shortName (bare type))
  | rooted (h : lower type ∉ builtinTypes) (hmissing : ∀ entry ∈ u.uses, (Import.read entry).target ≠ bare type)
    (hspace : namespaceOf (bare type) ≠ u.space) : IsPlain u type ("\\" ++ bare type)

theorem isPlain_plainType (u : SourceUnit) (type : String) : u.IsPlain type (u.plainType type) := by
  by_cases hword : lower type ∈ builtinTypes
  · rw [plainType, if_pos (List.contains_iff_mem.2 hword)]
    exact .builtin hword
  · rw [plainType, if_neg (mt List.contains_iff_mem.1 hword)]
    cases himported : u.importedAs? (bare type) with
    | some name =>
      obtain ⟨entry, hentry, htarget, rfl⟩ := importedAs?_eq_some himported
      simp only [himported]
      exact .imported hword hentry htarget
    | none =>
      have hmissing := importedAs?_eq_none himported
      simp only [himported]
      split
      · next hspace => exact .own hword hmissing hspace
      · next hspace => exact .rooted hword hmissing hspace

/-! ## Characters -/

/-- The characters that a printed type may have besides those of the type and of the imports: the letters of builtin
words, and two marks. -/
def typeChars : List Char := '?' :: '\\' :: builtinTypes.flatMap String.toList

lemma mem_plainType {ch : Char} (h : ch ∈ (u.plainType type).toList) :
    ch ∈ typeChars ∨ (∃ entry ∈ u.uses, ch ∈ entry.toList) ∨ ch ∈ type.toList := by
  have hprinted := u.isPlain_plainType type
  generalize u.plainType type = printed at hprinted h
  cases hprinted with
  | builtin hword =>
    exact .inl (List.mem_cons_of_mem _ (List.mem_cons_of_mem _ (List.mem_flatMap.2 ⟨_, hword, h⟩)))
  | imported _ hentry => exact .inr (.inl ⟨_, hentry, Import.shortName_subset _ h⟩)
  | own => exact .inr (.inr (bare_subset _ (shortName_subset _ h)))
  | rooted =>
    rw [String.toList_append, List.mem_append] at h
    obtain hmark | hbare := h
    · exact .inl (List.mem_cons_of_mem _ (List.mem_singleton.1 hmark ▸ List.mem_cons_self))
    · exact .inr (.inr (bare_subset _ hbare))

/-- A printed type has characters of the type, of the imports and of a few words only. -/
theorem mem_printType {ch : Char} {type : Option String} {nullable : Bool}
    (h : ch ∈ (u.printType type nullable).toList) :
    ch ∈ typeChars ∨ (∃ entry ∈ u.uses, ch ∈ entry.toList) ∨ ∃ t ∈ type, ch ∈ t.toList := by
  cases type with
  | none => cases h
  | some type =>
    have hplain (hch : ch ∈ (u.plainType type).toList) :
        ch ∈ typeChars ∨ (∃ entry ∈ u.uses, ch ∈ entry.toList) ∨ ∃ t ∈ some type, ch ∈ t.toList :=
      (mem_plainType hch).imp_right (Or.imp_right fun htype => ⟨type, rfl, htype⟩)
    simp only [printType] at h
    split at h
    · cases h
    · split at h
      · rw [String.toList_append, List.mem_append] at h
        exact h.elim (fun hmark => .inl (List.mem_singleton.1 hmark ▸ List.mem_cons_self)) hplain
      · exact hplain h

end EntityScaffold.SourceUnit
