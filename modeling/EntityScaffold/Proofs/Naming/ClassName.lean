import EntityScaffold.Naming.ClassPath
import EntityScaffold.Proofs.Text.Strip
/-!
# Bare and qualified class names

`bare` takes the backslashes off a class name, and a name of nothing but backslashes is the only one of
which nothing is left; it is also the only one that has no proper segment, and so no file
(`path?_eq_none_iff`).  A name in a namespace is the name with the same text before it whatever the name, so
that names in one namespace differ as they differ on their own (`qualify_injective`).
-/

namespace EntityScaffold.ClassName

open Text

@[simp] lemma bare_bare (name : String) : bare (bare name) = bare name := by
  simp [bare, through]

/-- Nothing is left of a name exactly when it is nothing but backslashes. -/
theorem bare_eq_empty_iff {name : String} : bare name = "" ↔ ∀ c ∈ name.toList, c = '\\' := by
  rw [bare, through, String.ofList_eq_empty_iff, stripWhile_eq_nil_iff]
  simp

/-- A name is bare when it neither begins nor ends with a backslash. -/
theorem bare_eq_self_iff {name : String} : bare name = name ↔
    (∀ h : name.toList ≠ [], name.toList.head h ≠ '\\') ∧
      ∀ h : name.toList ≠ [], name.toList.getLast h ≠ '\\' := by
  constructor
  · intro hbare
    have hstrip : stripWhile (· == '\\') name.toList = name.toList :=
      (toList_through _ name).symm.trans (congrArg String.toList hbare)
    generalize name.toList = cs at hstrip
    rw [← hstrip]
    exact ⟨fun h => by simpa using head_stripWhile h, fun h => by simpa using getLast_stripWhile h⟩
  · rintro ⟨hfirst, hlast⟩
    rw [bare, through, stripWhile_eq_self, String.ofList_toList]
    · exact fun h => beq_false_of_ne (hfirst h)
    · exact fun h => beq_false_of_ne (hlast h)

/-- All pieces between separators are empty exactly when there are separators only. -/
lemma forall_splitOnP_eq_nil_iff {p : Char → Bool} {cs : List Char} :
    (∀ piece ∈ cs.splitOnP p, piece = []) ↔ ∀ c ∈ cs, p c = true := by
  induction cs with
  | nil => simp
  | cons c rest ih =>
    rw [List.splitOnP_cons_eq_if_modifyHead]
    by_cases hc : p c = true
    · simp [hc, ih]
    · obtain ⟨first, more, hsplit⟩ := List.exists_cons_of_ne_nil (List.splitOnP_ne_nil p rest)
      simp [hc, hsplit]

lemma properSegments_eq_nil_iff {name : String} :
    properSegments name = [] ↔ ∀ c ∈ name.toList, c = '\\' := by
  have hpieces : properSegments name = [] ↔ ∀ piece ∈ (bare name).toList.splitOnP (· == '\\'),
      piece = [] := by
    simp [properSegments, segments, pieces, piecesBy]
  rw [hpieces, forall_splitOnP_eq_nil_iff, ← bare_eq_empty_iff]
  constructor
  · intro h
    have hbare : bare (bare name) = "" := bare_eq_empty_iff.2 fun c hc => by simpa using h c hc
    simpa using hbare
  · intro h
    simp [h]

/-- Only a name of nothing but backslashes has no file. -/
theorem path?_eq_none_iff {name : String} {appDir : Path} {extension : String} :
    path? name appDir extension = none ↔ ∀ c ∈ name.toList, c = '\\' := by
  rw [← properSegments_eq_nil_iff, path?, Option.map_eq_none_iff, placeBelow?]
  split
  · next h => simp [h]
  · next h => simp [h]
  · next first rest hrest h =>
    have hne : rest ≠ [] := hrest
    simp [h, hne]

/-! ## Qualified names -/

variable {space inner name : String}

lemma qualify_of_bare_eq_empty (h : bare space = "") (name : String) : qualify space name = name := by
  simp [qualify, h]

lemma qualify_of_bare_ne_empty (h : bare space ≠ "") (name : String) :
    qualify space name = bare space ++ "\\" ++ name := by
  simp [qualify, h]

/-- A name that begins and ends with something else than a backslash is bare, in a namespace as well. -/
theorem bare_qualify (hfirst : ∀ h : name.toList ≠ [], name.toList.head h ≠ '\\')
    (hlast : ∀ h : name.toList ≠ [], name.toList.getLast h ≠ '\\') (hne : name ≠ "") :
    bare (qualify space name) = qualify space name := by
  have hname : name.toList ≠ [] := by simpa using hne
  by_cases hspace : bare space = ""
  · rw [qualify_of_bare_eq_empty hspace]
    exact bare_eq_self_iff.2 ⟨hfirst, hlast⟩
  · have hbare : (bare space).toList ≠ [] := by simpa using hspace
    rw [qualify_of_bare_ne_empty hspace]
    refine bare_eq_self_iff.2 ⟨fun h => ?_, fun h => ?_⟩
    · simp only [String.toList_append]
      rw [List.head_append_of_ne_nil (by simp [hbare]), List.head_append_of_ne_nil hbare]
      exact (bare_eq_self_iff.1 (bare_bare space)).1 hbare
    · simp only [String.toList_append]
      rw [List.getLast_append_of_ne_nil _ hname]
      exact hlast hname

lemma qualify_ne_empty (h : name ≠ "") : qualify space name ≠ "" := by
  by_cases hspace : bare space = ""
  · rw [qualify_of_bare_eq_empty hspace]
    exact h
  · rw [qualify_of_bare_ne_empty hspace]
    simp

/-- A namespace in a namespace. -/
lemma qualify_qualify (h : bare (qualify space inner) = qualify space inner) (hne : inner ≠ "")
    (name : String) : qualify (qualify space inner) name = qualify space (inner ++ "\\" ++ name) := by
  have hqualify : qualify space inner ≠ "" := qualify_ne_empty hne
  rw [qualify_of_bare_ne_empty (by rwa [h]), h]
  by_cases hspace : bare space = ""
  · rw [qualify_of_bare_eq_empty hspace, qualify_of_bare_eq_empty hspace]
  · rw [qualify_of_bare_ne_empty hspace, qualify_of_bare_ne_empty hspace]
    simp only [String.append_assoc]

theorem qualify_injective (h : qualify space inner = qualify space name) : inner = name := by
  by_cases hspace : bare space = ""
  · rwa [qualify_of_bare_eq_empty hspace, qualify_of_bare_eq_empty hspace] at h
  · rw [qualify_of_bare_ne_empty hspace, qualify_of_bare_ne_empty hspace] at h
    exact (String.append_right_inj _).1 h

end EntityScaffold.ClassName
