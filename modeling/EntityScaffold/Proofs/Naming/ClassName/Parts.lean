import EntityScaffold.Proofs.Naming.ClassName
import EntityScaffold.Proofs.Text.Join
import EntityScaffold.Source.Unit
/-!
# The parts of a class name

A class name is cut at its last backslash into a namespace and a short name, and `qualify` puts a name into a
namespace.  Each of the three drops backslashes at the ends of what it is given, so whether they undo one another
depends on what the ends of the parts are.

A name that is cut and qualified again is the bare name exactly if its namespace is bare as well
(`qualify_parts_iff`): a backslash that is doubled in front of the short name is lost, one that is doubled further
ahead is kept.  A namespace and a name come apart again exactly if there is no backslash in the name, and the name is
not empty or the namespace is (`parts_qualify_iff`); for this the namespace may have doubled backslashes anywhere.

What is written with one backslash between its segments (`IsCompact`) meets both, and the backslashes that are
written around it (`IsWrapped`) are dropped wherever they are (`parts_and_names_are_inverse`).
-/

namespace EntityScaffold.ClassName

open Text

variable {space name short s t : String}

/-! ## Pieces -/

lemma pieces_append (s t : String) : pieces '\\' (s ++ "\\" ++ t) = pieces '\\' s ++ pieces '\\' t := by
  have hchars : (s ++ "\\" ++ t).toList = s.toList ++ '\\' :: t.toList := by
    simp
  rw [pieces, piecesBy, hchars, List.splitOnP_append_cons _ _ (by rfl), List.map_append]
  rfl

lemma pieces_ne_nil (s : String) : pieces '\\' s ≠ [] := by
  simp [pieces, piecesBy]

/-- A text without backslashes is one piece. -/
lemma pieces_of_notMem (h : '\\' ∉ s.toList) : pieces '\\' s = [s] := by
  have hchars : ∀ c ∈ s.toList, (c == '\\') = false := fun c hc => beq_false_of_ne fun heq => h (heq ▸ hc)
  rw [pieces, piecesBy, List.splitOnP_eq_singleton hchars]
  simp

/-- A text is bare if none of its pieces is empty: a backslash at either end would have such a piece beside it. -/
lemma bare_of_pieces (h : "" ∉ pieces '\\' name) : bare name = name := by
  refine bare_eq_self_iff.2 ⟨fun hne hfirst => h ?_, fun hne hlast => h ?_⟩
  · have hname : name = "" ++ "\\" ++ String.ofList name.toList.tail := by
      rw [← String.toList_inj]
      have hcons := List.cons_head_tail hne
      rw [hfirst] at hcons
      simpa using hcons.symm
    rw [hname, pieces_append]
    exact List.mem_append_left _ List.mem_cons_self
  · have hname : name = String.ofList name.toList.dropLast ++ "\\" ++ "" := by
      rw [← String.toList_inj]
      have hconcat := List.dropLast_concat_getLast hne
      rw [hlast] at hconcat
      simpa using hconcat.symm
    rw [hname, pieces_append]
    exact List.mem_append_right _ List.mem_cons_self

/-! ## Cutting -/

/-- The short name is the segment after those of the namespace. -/
lemma segments_eq_concat (name : String) : segments name = (segments name).dropLast ++ [shortName name] :=
  pieces_eq_concat '\\' (bare name)

lemma shortName_mem_segments (name : String) : shortName name ∈ segments name :=
  lastPiece_mem_pieces '\\' (bare name)

lemma shortName_bare (name : String) : shortName (bare name) = shortName name := by
  rw [shortName, shortName, segments, segments, bare_bare]

lemma notMem_shortName (name : String) : '\\' ∉ (shortName name).toList :=
  notMem_of_mem_pieces (shortName_mem_segments name)

/-- A bare name is a short name, or a short name behind a namespace that is not empty. -/
lemma parts_cases (name : String) :
    namespaceOf name = "" ∧ bare name = shortName name ∨
      namespaceOf name ≠ "" ∧ bare name = namespaceOf name ++ "\\" ++ shortName name := by
  have hname : bare name = join "\\" ((segments name).dropLast ++ [shortName name]) := by
    rw [← segments_eq_concat]
    exact (join_pieces (bare name)).symm
  by_cases hinit : (segments name).dropLast = []
  · left
    rw [hinit] at hname
    exact ⟨by rw [namespaceOf, hinit]; rfl, hname⟩
  · right
    rw [join_concat hinit, ← namespaceOf] at hname
    refine ⟨fun hspace => ?_, hname⟩
    -- behind an empty namespace the bare name would begin with a backslash
    have hfirst := (bare_eq_self_iff.1 (bare_bare name)).1
    rw [hname, hspace] at hfirst
    simp at hfirst

/-- What stands behind the last backslash is the short name, and what stands before it is the namespace. -/
lemma parts_of_bare_eq (hname : bare name = space ++ "\\" ++ short) (hshort : '\\' ∉ short.toList) :
    namespaceOf name = space ∧ shortName name = short := by
  have hsegments : segments name = pieces '\\' space ++ [short] := by
    rw [segments, hname, pieces_append, pieces_of_notMem hshort]
  rw [namespaceOf, shortName, hsegments, List.dropLast_concat, List.getLastD_concat, join_pieces]
  exact ⟨rfl, rfl⟩

/-- A name without a backslash inside belongs to the global namespace. -/
theorem parts_of_notMem (h : '\\' ∉ (bare name).toList) : namespaceOf name = "" ∧ shortName name = bare name := by
  rw [namespaceOf, shortName, segments, pieces_of_notMem h]
  exact ⟨rfl, rfl⟩

/-- Only a name of nothing but backslashes has an empty short name. -/
lemma shortName_eq_empty_iff : shortName name = "" ↔ bare name = "" := by
  constructor
  · intro hshort
    obtain ⟨-, hname⟩ | ⟨-, hname⟩ := parts_cases name
    · rw [hname, hshort]
    · have hlast := (bare_eq_self_iff.1 (bare_bare name)).2
      rw [hname, hshort] at hlast
      simp at hlast
  · intro hbare
    rw [(parts_of_notMem (by simp [hbare])).2, hbare]

/-! ## Cutting and qualifying -/

/-- A name is put together again from its parts unless its namespace ends with a backslash. -/
theorem qualify_parts_iff :
    qualify (namespaceOf name) (shortName name) = bare name ↔ bare (namespaceOf name) = namespaceOf name := by
  obtain ⟨hspace, hname⟩ | ⟨hspace, hname⟩ := parts_cases name
  · rw [hspace, qualify_of_bare_eq_empty (by decide), hname]
    exact iff_of_true rfl (by decide)
  · by_cases hbare : bare (namespaceOf name) = ""
    · -- the short name alone is shorter than the name, and a namespace that is not empty is not bare
      rw [qualify_of_bare_eq_empty hbare, hname, hbare]
      refine iff_of_false (fun heq => ?_) fun heq => hspace heq.symm
      have hlength := congrArg String.length heq
      simp at hlength
    · rw [qualify_of_bare_ne_empty hbare, hname, String.append_left_inj, String.append_left_inj]

-- A doubled backslash is lost in front of the short name only.
example : qualify (namespaceOf "App\\\\Model\\User") (shortName "App\\\\Model\\User") = "App\\\\Model\\User" ∧
    qualify (namespaceOf "App\\Model\\\\User") (shortName "App\\Model\\\\User") = "App\\Model\\User" := by
  decide

/-! ## Qualifying and cutting -/

/-- A text with backslashes around it, any number of them on either side. -/
def IsWrapped (inner text : String) : Prop :=
  ∃ before after, text = before ++ inner ++ after ∧
    (∀ c ∈ before.toList, c = '\\') ∧ ∀ c ∈ after.toList, c = '\\'

/-- The bare name of a text is the bare name that the text has backslashes around. -/
lemma bare_eq_iff (hs : bare s = s) : bare t = s ↔ IsWrapped s t := by
  constructor
  · rintro rfl
    obtain ⟨before, after, ht, hbefore, hafter⟩ := exists_stripWhile_eq (· == '\\') t.toList
    refine ⟨.ofList before, .ofList after, ?_, by simpa using hbefore, by simpa using hafter⟩
    rw [← String.toList_inj]
    simpa [bare] using ht
  · rintro ⟨before, after, rfl, hbefore, hafter⟩
    rw [bare, through, String.toList_append, String.toList_append, stripWhile_append_append, ← through, ← bare, hs]
    · exact fun c hc => beq_iff_eq.2 (hbefore c hc)
    · exact fun c hc => beq_iff_eq.2 (hafter c hc)

lemma bare_of_notMem (h : '\\' ∉ name.toList) : bare name = name := by
  refine bare_eq_self_iff.2 ⟨fun hne hfirst => h ?_, fun hne hlast => h ?_⟩
  · exact hfirst ▸ List.head_mem hne
  · exact hlast ▸ List.getLast_mem hne

/-- A name without backslashes is cut off again where it was put, unless it is empty and the namespace is not. -/
theorem parts_qualify_iff :
    namespaceOf (qualify space name) = bare space ∧ shortName (qualify space name) = name ↔
      '\\' ∉ name.toList ∧ (name = "" → bare space = "") := by
  constructor
  · rintro ⟨-, hshort⟩
    refine ⟨hshort ▸ notMem_shortName (qualify space name), ?_⟩
    rintro rfl
    by_contra hspace
    -- the backslash before the empty name is at the end, and is dropped
    have hwrapped : IsWrapped (bare space) (qualify space "") :=
      ⟨"", "\\", by rw [qualify_of_bare_ne_empty hspace, String.append_empty, String.empty_append],
        by decide, by decide⟩
    have hbare : bare (qualify space "") = "" := shortName_eq_empty_iff.1 hshort
    exact hspace (((bare_eq_iff (bare_bare space)).2 hwrapped).symm.trans hbare)
  · rintro ⟨hname, hempty⟩
    by_cases hspace : bare space = ""
    · have hinner : '\\' ∉ (bare name).toList := by rwa [bare_of_notMem hname]
      have hparts := parts_of_notMem hinner
      rw [bare_of_notMem hname] at hparts
      rwa [qualify_of_bare_eq_empty hspace, hspace]
    · have hends := bare_eq_self_iff.1 (bare_of_notMem hname)
      have hself : bare (qualify space name) = qualify space name :=
        bare_qualify hends.1 hends.2 (mt hempty hspace)
      exact parts_of_bare_eq (hself.trans (qualify_of_bare_ne_empty hspace name)) hname

/-! ## Compact names -/

/-- A name with one backslash between its segments and none around them, or the empty name of the global
namespace. -/
def IsCompact (name : String) : Prop := name = "" ∨ "" ∉ pieces '\\' name

instance : DecidablePred IsCompact := fun _ => inferInstanceAs (Decidable (_ ∨ _))

lemma IsCompact.bare_eq (h : IsCompact name) : bare name = name := by
  obtain rfl | hpieces := h
  · decide
  · exact bare_of_pieces hpieces

/-- The namespace of a compact name is compact. -/
lemma isCompact_namespaceOf (h : IsCompact (bare name)) : IsCompact (namespaceOf name) := by
  obtain ⟨hspace, -⟩ | ⟨hspace, hname⟩ := parts_cases name
  · exact .inl hspace
  · rw [hname] at h
    obtain hempty | hpieces := h
    · simp at hempty
    · rw [pieces_append] at hpieces
      exact .inr fun hmem => hpieces (List.mem_append_left _ hmem)

/-- A compact name, whatever backslashes are written around it, is what its namespace and its short name are
qualified to; and a compact namespace and a name of one segment are what the qualified name is cut into, in
particular the name of the class that a unit declares. -/
theorem parts_and_names_are_inverse :
    (∀ name text, IsCompact name → IsWrapped name text → qualify (namespaceOf text) (shortName text) = name) ∧
    (∀ space text name, IsCompact space → IsWrapped space text → name ≠ "" → '\\' ∉ name.toList →
      namespaceOf (qualify text name) = space ∧ shortName (qualify text name) = name) ∧
    ∀ (u : SourceUnit) (space : String), IsCompact space → IsWrapped space u.space →
      u.declaration.name ≠ "" → '\\' ∉ u.declaration.name.toList →
      namespaceOf u.qualifiedName = space ∧ shortName u.qualifiedName = u.declaration.name := by
  have hcut {space text name : String} (hspace : IsCompact space) (hwrapped : IsWrapped space text) (hne : name ≠ "")
      (hname : '\\' ∉ name.toList) :
      namespaceOf (qualify text name) = space ∧ shortName (qualify text name) = name := by
    have hparts : namespaceOf (qualify text name) = bare text ∧ shortName (qualify text name) = name :=
      parts_qualify_iff.2 ⟨hname, fun hempty => absurd hempty hne⟩
    rwa [(bare_eq_iff hspace.bare_eq).2 hwrapped] at hparts
  refine ⟨?_, fun _ _ _ => hcut, fun _ _ => hcut⟩
  intro name text hname hwrapped
  have hbare : bare text = name := (bare_eq_iff hname.bare_eq).2 hwrapped
  have hspace : IsCompact (namespaceOf text) := isCompact_namespaceOf (by rwa [hbare])
  rw [qualify_parts_iff.2 hspace.bare_eq, hbare]

/-- A class in a namespace and a global one, with backslashes around them, and the class of a unit. -/
theorem user_is_cut_and_qualified :
    qualify (namespaceOf "\\\\App\\Model\\User\\") (shortName "\\\\App\\Model\\User\\") = "App\\Model\\User" ∧
      qualify (namespaceOf "\\DateTime") (shortName "\\DateTime") = "DateTime" ∧
      (namespaceOf (qualify "\\\\" "DateTime") = "" ∧ shortName (qualify "\\\\" "DateTime") = "DateTime") ∧
      namespaceOf (SourceUnit.qualifiedName { space := "\\App\\Model\\", declaration := { name := "User" } }) =
        "App\\Model" ∧
      shortName (SourceUnit.qualifiedName { space := "\\App\\Model\\", declaration := { name := "User" } }) =
        "User" := by
  obtain ⟨hjoin, hcut, hunit⟩ := parts_and_names_are_inverse
  exact ⟨hjoin _ _ (by decide) ⟨"\\\\", "\\", by decide, by decide, by decide⟩,
    hjoin _ _ (by decide) ⟨"\\", "", by decide, by decide, by decide⟩,
    hcut _ _ _ (.inl rfl) ⟨"\\", "\\", by decide, by decide, by decide⟩ (by decide) (by decide),
    hunit _ _ (by decide) ⟨"\\", "\\", by decide, by decide, by decide⟩ (by decide) (by decide)⟩

end EntityScaffold.ClassName
