import EntityScaffold.Path
import EntityScaffold.Proofs.Text.Join
/-!
# Paths that lead down

A path is joined of parts, each of which is read as a path of its own.  A part that begins with a slash replaces
everything before it, and one with two dots between its slashes leads up again.  A part that does neither is inward,
and a path that is joined of inward parts lies below the directory where it starts (`isBelow_foldl_iff`).
-/

namespace EntityScaffold.Path

open Text

variable {s t u part : String} {parts : List String} {directory : Path}

/-- A part of a path that stays inside: it has no root of its own, and no name in it leads up. -/
structure IsInward (part : String) : Prop where
  root : (ofString part).root = .relative
  up : ".." ∉ (ofString part).components

lemma isInward_iff : IsInward part ↔ (ofString part).root = .relative ∧ ".." ∉ (ofString part).components :=
  ⟨fun h => ⟨h.root, h.up⟩, fun h => ⟨h.1, h.2⟩⟩

instance : DecidablePred IsInward := fun _ => decidable_of_iff' _ isInward_iff

/-- A path lies below a directory: one or more names are added to it, and none of them leads up. -/
def IsBelow (directory path : Path) : Prop :=
  ∃ names, names ≠ [] ∧ ".." ∉ names ∧ path = ⟨directory.root, directory.components ++ names⟩

/-! ## Joining -/

/-- Parts without roots are added one after another. -/
theorem foldl_append (h : ∀ part ∈ parts, (ofString part).root = .relative) (p : Path) :
    parts.foldl (fun p part => p.append (.ofString part)) p =
      ⟨p.root, p.components ++ parts.flatMap fun part => (ofString part).components⟩ := by
  induction parts generalizing p with
  | nil => simp
  | cons part parts ih =>
    obtain ⟨hpart, hparts⟩ := List.forall_mem_cons.1 h
    rw [List.foldl_cons, ih hparts, append, if_pos hpart, List.flatMap_cons, List.append_assoc]

/-- Parts without roots lead below a directory exactly if they are inward and there is a name in them. -/
theorem isBelow_foldl_iff (directory : Path) (parts : List String) :
    ((∀ part ∈ parts, (ofString part).root = .relative) ∧
        IsBelow directory (parts.foldl (fun p part => p.append (.ofString part)) directory)) ↔
      (∀ part ∈ parts, IsInward part) ∧ ∃ part ∈ parts, (ofString part).components ≠ [] := by
  have hbelow (h : ∀ part ∈ parts, (ofString part).root = .relative) :
      IsBelow directory (parts.foldl (fun p part => p.append (.ofString part)) directory) ↔
        (∀ part ∈ parts, ".." ∉ (ofString part).components) ∧ ∃ part ∈ parts, (ofString part).components ≠ [] := by
    rw [foldl_append h]
    constructor
    · rintro ⟨names, hne, hdots, heq⟩
      obtain rfl : (parts.flatMap fun part => (ofString part).components) = names :=
        List.append_cancel_left (congrArg components heq)
      simp only [List.mem_flatMap, not_exists, not_and] at hdots
      obtain ⟨name, hname⟩ := List.exists_mem_of_ne_nil _ hne
      obtain ⟨part, hpart, hmem⟩ := List.mem_flatMap.1 hname
      exact ⟨hdots, part, hpart, List.ne_nil_of_mem hmem⟩
    · rintro ⟨hdots, part, hpart, hnames⟩
      refine ⟨_, ?_, ?_, rfl⟩
      · intro hnil
        exact hnames (List.flatMap_eq_nil_iff.1 hnil part hpart)
      · rw [List.mem_flatMap]
        rintro ⟨part, hpart, hup⟩
        exact hdots part hpart hup
  constructor
  · rintro ⟨hroot, hpath⟩
    obtain ⟨hdots, hnames⟩ := (hbelow hroot).1 hpath
    exact ⟨fun part hpart => ⟨hroot part hpart, hdots part hpart⟩, hnames⟩
  · rintro ⟨hinward, hnames⟩
    have hroot : ∀ part ∈ parts, (ofString part).root = .relative := fun part hpart => (hinward part hpart).root
    exact ⟨hroot, (hbelow hroot).2 ⟨fun part hpart => (hinward part hpart).up, hnames⟩⟩

/-! ## Parts with endings -/

lemma rootOf_eq_relative_iff {cs : List Char} : rootOf cs = .relative ↔ cs.head? ≠ some '/' := by
  unfold rootOf
  split
  · simp
  · simp
  · simp
  · next hslash =>
    cases cs with
    | nil => simp
    | cons c cs =>
      have hc : c ≠ '/' := by
        rintro rfl
        exact hslash cs rfl
      simpa using hc

/-- An ending that can be seen: it has no slash, and something else than dots. -/
def IsEnding (t : String) : Prop := '/' ∉ t.toList ∧ ∃ c ∈ t.toList, c ≠ '.'

instance : DecidablePred IsEnding := fun _ => inferInstanceAs (Decidable (_ ∧ _))

lemma IsEnding.append (h : IsEnding t) (hu : '/' ∉ u.toList) : IsEnding (t ++ u) := by
  obtain ⟨hslash, c, hc, hdot⟩ := h
  refine ⟨?_, c, ?_, hdot⟩
  · rw [String.toList_append, List.mem_append]
    exact not_or.2 ⟨hslash, hu⟩
  · rw [String.toList_append]
    exact List.mem_append_left _ hc

/-- The last name of a part with an ending is there, and does not lead up. -/
theorem IsEnding.isComponent (h : IsEnding t) (s : String) : isComponent (s ++ t) = true ∧ s ++ t ≠ ".." := by
  obtain ⟨-, c, hc, hdot⟩ := h
  have hmem : c ∈ (s ++ t).toList := by
    rw [String.toList_append]
    exact List.mem_append_right _ hc
  have hdots : ∀ name ∈ ["", ".", ".."], ∀ d ∈ name.toList, d = '.' := by decide
  have hne (name : String) (hname : name ∈ ["", ".", ".."]) : s ++ t ≠ name := by
    rintro rfl
    exact hdot (hdots _ hname c hmem)
  refine ⟨?_, hne ".." (by simp)⟩
  rw [Path.isComponent, Bool.and_eq_true, bne_iff_ne, bne_iff_ne]
  exact ⟨hne "" (by simp), hne "." (by simp)⟩

lemma components_append_ne_nil (h : IsEnding t) (s : String) : (ofString (s ++ t)).components ≠ [] := by
  have hmem : (pieces '/' s).getLastD "" ++ t ∈ (ofString (s ++ t)).components := by
    show _ ∈ (pieces '/' (s ++ t)).filter Path.isComponent
    rw [pieces_append_of_notMem h.1, List.mem_filter]
    exact ⟨by simp, (h.isComponent _).1⟩
  exact List.ne_nil_of_mem hmem

/-- A part with an ending is inward if its text does not begin with a slash and has no two dots before one. -/
lemma isInward_append_iff (h : IsEnding t) :
    IsInward (s ++ t) ↔ s.toList.head? ≠ some '/' ∧ ".." ∉ (pieces '/' s).dropLast := by
  have hroot : (ofString (s ++ t)).root = .relative ↔ s.toList.head? ≠ some '/' := by
    show rootOf (s ++ t).toList = .relative ↔ _
    rw [rootOf_eq_relative_iff, String.toList_append]
    cases s.toList with
    | nil =>
      have hfirst : t.toList.head? ≠ some '/' := fun hslash => h.1 (List.mem_of_mem_head? hslash)
      simpa using hfirst
    | cons c cs => rfl
  have hup : ".." ∉ (ofString (s ++ t)).components ↔ ".." ∉ (pieces '/' s).dropLast := by
    have hdots : Path.isComponent ".." = true := by decide
    have hlast : ".." ≠ (pieces '/' s).getLastD "" ++ t := (h.isComponent _).2.symm
    show ".." ∉ (pieces '/' (s ++ t)).filter Path.isComponent ↔ _
    rw [pieces_append_of_notMem h.1, List.mem_filter, List.mem_append, List.mem_singleton]
    simp only [hdots, hlast, and_true, or_false]
  rw [isInward_iff, hroot, hup]

/-- It does not matter which ending that is. -/
lemma isInward_append_congr (ht : IsEnding t) (hu : IsEnding u) : IsInward (s ++ t) ↔ IsInward (s ++ u) := by
  rw [isInward_append_iff ht, isInward_append_iff hu]

end EntityScaffold.Path
