import EntityScaffold.Proofs.Naming.ClassName.Parts
/-!
# Proper class names

Configurations and documents may call a class by any text; a compiler takes it for a class name only if there
is something between the backslashes, and no blank.  Such a name is the qualified name of its short name in
its namespace (`qualify_namespaceOf`), so it is known when these two are known, and it is read the same way
wherever it is cut or trimmed.
-/

namespace EntityScaffold.ClassName

open Text

/-- A text that can stand between the backslashes of a class name. -/
def IsSegment (s : String) : Prop := s ≠ "" ∧ ∀ c ∈ s.toList, c ≠ '\\' ∧ isBlank c = false

/-- A class name with something between its backslashes and without blanks. -/
def IsProper (name : String) : Prop := ∀ piece ∈ pieces '\\' name, IsSegment piece

instance : DecidablePred IsSegment := fun _ => inferInstanceAs (Decidable (_ ∧ _))

instance : DecidablePred IsProper := fun _ => inferInstanceAs (Decidable (∀ _ ∈ _, IsSegment _))

variable {space name s t : String}

lemma pieces_of_isSegment (h : IsSegment s) : pieces '\\' s = [s] :=
  pieces_of_notMem fun hmem => (h.2 _ hmem).1 rfl

/-! ## Proper names -/

lemma IsSegment.isProper (h : IsSegment s) : IsProper s := by
  rw [IsProper, pieces_of_isSegment h]
  exact List.forall_mem_singleton.2 h

lemma isProper_append_iff : IsProper (s ++ "\\" ++ t) ↔ IsProper s ∧ IsProper t := by
  rw [IsProper, pieces_append, List.forall_mem_append, IsProper, IsProper]

lemma not_isSegment_empty : ¬ IsSegment "" := fun h => h.1 rfl

lemma bare_of_isProper (h : IsProper name) : bare name = name :=
  bare_of_pieces fun hempty => not_isSegment_empty (h "" hempty)

lemma ne_empty_of_isProper (h : IsProper name) : name ≠ "" := by
  rintro rfl
  exact (h "" List.mem_cons_self).1 rfl

lemma IsProper.exists_cons (h : IsProper name) : ∃ c cs, name.toList = c :: cs ∧ c ≠ '\\' := by
  have hne : name.toList ≠ [] := by simpa using ne_empty_of_isProper h
  exact ⟨name.toList.head hne, name.toList.tail, (List.cons_head_tail hne).symm,
    (bare_eq_self_iff.1 (bare_of_isProper h)).1 hne⟩

lemma isBlank_of_isProper (h : IsProper name) : ∀ c ∈ name.toList, isBlank c = false := by
  intro c hc
  rw [← join_pieces name] at hc
  obtain hc | ⟨piece, hpiece, hc⟩ := mem_join hc
  · rw [List.mem_singleton.1 hc]
    decide
  · exact ((h piece hpiece).2 c hc).2

lemma trim_of_isProper (h : IsProper name) : trim name = name := trim_of_noBlank (isBlank_of_isProper h)

/-- A proper name is a segment of the global namespace, or a segment in a namespace that is proper. -/
theorem IsProper.cases (h : IsProper name) :
    IsSegment (shortName name) ∧
      (namespaceOf name = "" ∧ name = shortName name ∨
        IsProper (namespaceOf name) ∧ name = namespaceOf name ++ "\\" ++ shortName name) := by
  have hbare := bare_of_isProper h
  have hshort := shortName_mem_segments name
  have hparts := parts_cases name
  rw [segments, hbare] at hshort
  rw [hbare] at hparts
  refine ⟨h _ hshort, hparts.imp_right ?_⟩
  rintro ⟨-, hname⟩
  have hproper : IsProper (namespaceOf name ++ "\\" ++ shortName name) := hname ▸ h
  exact ⟨(isProper_append_iff.1 hproper).1, hname⟩

lemma isSegment_shortName (h : IsProper name) : IsSegment (shortName name) := h.cases.1

/-- A proper name is known by its namespace and its short name. -/
theorem qualify_namespaceOf (h : IsProper name) : qualify (namespaceOf name) (shortName name) = name := by
  have hspace : bare (namespaceOf name) = namespaceOf name := by
    obtain ⟨-, ⟨hspace, -⟩ | ⟨hspace, -⟩⟩ := h.cases
    · rw [hspace]
      decide
    · exact bare_of_isProper hspace
  rw [qualify_parts_iff.2 hspace, bare_of_isProper h]

/-- A segment in a namespace is a proper name of that namespace. -/
theorem isProper_qualify (hspace : space = "" ∨ IsProper space) (hs : IsSegment s) :
    IsProper (qualify space s) ∧ namespaceOf (qualify space s) = space ∧
      shortName (qualify space s) = s := by
  have hbare : bare space = space := by
    obtain rfl | hspace := hspace
    · decide
    · exact bare_of_isProper hspace
  have hparts : namespaceOf (qualify space s) = bare space ∧ shortName (qualify space s) = s :=
    parts_qualify_iff.2 ⟨fun hmem => (hs.2 _ hmem).1 rfl, fun hempty => absurd hempty hs.1⟩
  rw [hbare] at hparts
  refine ⟨?_, hparts⟩
  obtain rfl | hspace := hspace
  · rw [qualify_of_bare_eq_empty hbare]
    exact hs.isProper
  · rw [qualify_of_bare_ne_empty (by rw [hbare]; exact ne_empty_of_isProper hspace), hbare]
    exact isProper_append_iff.2 ⟨hspace, hs.isProper⟩

end EntityScaffold.ClassName
