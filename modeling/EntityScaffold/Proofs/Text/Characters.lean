import EntityScaffold.Keyed
import EntityScaffold.Proofs.Naming.ClassName
import EntityScaffold.Proofs.Text.Join
import EntityScaffold.Proofs.Text.Strip
import EntityScaffold.Source.Import
import EntityScaffold.Source.Literal
/-!
# The characters of what is made of a text

Names, types and defaults are cut up and put between quotes on the way to a file, but hardly anything is added to
them: what is cut out of a text has characters of the text only, and a literal has besides those of its quotes, or is
one of a few words.  Whatever is known of all characters of a text is therefore known of these, too.
-/

namespace EntityScaffold

namespace Text

lemma trim_subset (s : String) : (trim s).toList ⊆ s.toList := by
  rw [trim, toList_through]
  exact stripWhile_subset isBlank s.toList

lemma bare_subset (s : String) : (ClassName.bare s).toList ⊆ s.toList := by
  rw [ClassName.bare, toList_through]
  exact stripWhile_subset _ s.toList

/-- A qualified name has characters of its parts, and backslashes. -/
theorem mem_qualify {space name : String} {c : Char} (hc : c ∈ (ClassName.qualify space name).toList) :
    c ∈ space.toList ∨ c = '\\' ∨ c ∈ name.toList := by
  by_cases hbare : ClassName.bare space = ""
  · rw [ClassName.qualify_of_bare_eq_empty hbare] at hc
    exact .inr (.inr hc)
  · rw [ClassName.qualify_of_bare_ne_empty hbare, String.toList_append, String.toList_append, List.mem_append,
      List.mem_append] at hc
    rcases hc with (hc | hc) | hc
    · exact .inl (bare_subset space hc)
    · exact .inr (.inl (List.mem_singleton.1 hc))
    · exact .inr (.inr hc)

lemma pieces_subset (sep : Char) (s : String) : ∀ piece ∈ pieces sep s, piece.toList ⊆ s.toList := by
  intro piece hpiece
  obtain ⟨cs, hcs, rfl⟩ := List.mem_map.1 hpiece
  rw [String.toList_ofList]
  exact fun c hc => (of_mem_splitOnP hcs c hc).1

lemma lastPiece_subset (sep : Char) (s : String) : ((pieces sep s).getLastD "").toList ⊆ s.toList :=
  pieces_subset sep s _ (lastPiece_mem_pieces sep s)

lemma shortName_subset (s : String) : (ClassName.shortName s).toList ⊆ s.toList :=
  List.Subset.trans (lastPiece_subset '\\' _) (bare_subset s)

end Text

open Text

/-! ## Imports -/

namespace Source

lemma cutAtMark?_subset {mark cs before after : List Char} (h : cutAtMark? mark cs = some (before, after)) :
    before ⊆ cs ∧ after ⊆ cs := by
  induction cs generalizing before with
  | nil => cases h
  | cons c cs ih =>
    rw [cutAtMark?] at h
    split at h
    · obtain ⟨rfl, rfl⟩ : [] = before ∧ (c :: cs).drop mark.length = after := by simpa using h
      exact ⟨List.nil_subset _, (List.drop_sublist _ _).subset⟩
    · obtain ⟨⟨before, after⟩, hcut, hsome⟩ := Option.map_eq_some_iff.1 h
      cases hsome
      obtain ⟨hbefore, hafter⟩ := ih hcut
      exact ⟨List.cons_subset_cons c hbefore, List.subset_cons_of_subset c hafter⟩

namespace Import

lemma shortName_subset (entry : String) : (Import.read entry).shortName.toList ⊆ entry.toList := by
  have htarget (s : String) : (ClassName.shortName (ClassName.bare (trim s))).toList ⊆ s.toList :=
    List.Subset.trans (Text.shortName_subset _) (List.Subset.trans (bare_subset _) (trim_subset s))
  rw [Import.read]
  cases hcut : cutAtMark? aliasMark entry.toList with
  | none => exact htarget entry
  | some parts =>
    obtain ⟨target, aliasText⟩ := parts
    obtain ⟨hbefore, hafter⟩ := cutAtMark?_subset hcut
    rw [← String.toList_ofList (l := target)] at hbefore
    rw [← String.toList_ofList (l := aliasText)] at hafter
    simp only [Import.shortName]
    split
    · exact List.Subset.trans (htarget _) hbefore
    · exact List.Subset.trans (trim_subset _) hafter

lemma printed_subset (entry : String) : (Import.printed entry).toList ⊆ entry.toList := by
  rw [Import.printed, toList_through]
  exact List.Subset.trans (List.dropWhile_sublist _).subset (trim_subset entry)

end Import

end Source

/-! ## Literals -/

namespace Literal

lemma mem_quote {cs : List Char} {c : Char} (hc : c ∈ quote cs) : c ∈ ['\'', '\\'] ∨ c ∈ cs := by
  simp only [quote, List.cons_append, List.mem_cons, List.mem_append, List.mem_flatMap] at hc
  rcases hc with rfl | ⟨d, hd, hc⟩ | hc
  · exact .inl List.mem_cons_self
  · rw [escapeChar] at hc
    split at hc
    · rcases List.mem_cons.1 hc with rfl | hc
      · exact .inl (List.mem_cons_of_mem _ List.mem_cons_self)
      · exact .inr (List.mem_singleton.1 hc ▸ hd)
    · exact .inr (List.mem_singleton.1 hc ▸ hd)
  · simp_all

/-- A literal that is taken as it is, is a word or the text itself. -/
lemma asItIs?_eq_some {cs : List Char} {type : Option String} {literal : String}
    (h : asItIs? cs type = some literal) :
    literal = "null" ∨ literal ∈ truthWords.map (·.2) ∨ literal = String.ofList cs := by
  simp only [asItIs?] at h
  split at h
  · exact .inl (Option.some.inj h).symm
  · split at h
    · exact .inr (.inl (List.mem_map.2 ⟨_, Keyed.mem_of_lookup h, rfl⟩))
    · split at h
      · exact .inr (.inr (Option.some.inj h).symm)
      · split at h
        · exact .inr (.inr (Option.some.inj h).symm)
        · split at h
          · exact .inr (.inr (Option.some.inj h).symm)
          · cases h

/-- The characters that a literal may have besides those of the value: the letters of its words, and quotes. -/
def ownChars : List Char := '\'' :: '\\' :: ("null" :: truthWords.map (·.2)).flatMap String.toList

lemma mem_print {value : String} {type : Option String} {c : Char} (hc : c ∈ (print value type).toList) :
    c ∈ ownChars ∨ c ∈ value.toList := by
  have hmarks : ∀ c ∈ ['\'', '\\'], c ∈ ownChars := by decide
  have hwords : ∀ word ∈ "null" :: truthWords.map (·.2), word.toList ⊆ ownChars := by
    intro word hword c hc
    exact List.mem_cons_of_mem _ (List.mem_cons_of_mem _ (List.mem_flatMap.2 ⟨word, hword, hc⟩))
  rw [print] at hc
  cases hasItIs : asItIs? (trim value).toList type with
  | none =>
    rw [hasItIs, Option.getD_none, String.toList_ofList] at hc
    exact (mem_quote hc).imp (hmarks c) fun hc => trim_subset value hc
  | some literal =>
    rw [hasItIs, Option.getD_some] at hc
    obtain rfl | hword | rfl := asItIs?_eq_some hasItIs
    · exact .inl (hwords _ List.mem_cons_self hc)
    · exact .inl (hwords _ (List.mem_cons_of_mem _ hword) hc)
    · rw [String.toList_ofList] at hc
      exact .inr (trim_subset value hc)

end Literal

end EntityScaffold
