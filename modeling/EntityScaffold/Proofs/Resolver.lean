import EntityScaffold.Proofs.FileTree
import EntityScaffold.Proofs.Naming.ClassName
import EntityScaffold.Resolver
/-!
# When a name cannot be resolved

A resolver looks for classes one after another, `Resolver.searched`, and each of them has a file to look for
because none is nothing but backslashes (`isThere_error`).  So looking for the class behind a name fails
exactly where it comes, before any class is found, to one whose file cannot be looked for: the path to it is too long,
or leads through a directory that may not be searched (`resolve_eq_error_iff`).
-/

namespace EntityScaffold.Resolver

open ClassName

variable {r : Resolver} {name : String} {f : Failure} {fault : FileFault}

/-- The classes that are looked for, in order, to find the one that a name stands for. -/
def searched (r : Resolver) (name : String) : List String :=
  if bare name = "" then []
  else if (bare name).toList.contains '\\' then [bare name]
  else r.candidates (bare name)

/-- The search for a name comes to a class whose file cannot be looked for, and none was found before. -/
def GetsStuck (r : Resolver) (name : String) (fault : FileFault) : Prop :=
  ∃ before c after, r.searched name = before ++ c :: after ∧
    (∀ b ∈ before, r.isThere b = .ok false) ∧ r.isThere c = .error (.file fault)

/-- A class that is more than backslashes has a file, so only the way to it can be at fault. -/
theorem isThere_error (hname : bare name ≠ "") (h : r.isThere name = .error f) :
    ∃ fault : FileFault, f = .file fault ∧ fault.Hides := by
  have hfile {appDir extension} : path? (bare name) appDir extension ≠ none := by
    rw [ne_eq, path?_eq_none_iff, ← bare_eq_empty_iff, bare_bare]
    exact hname
  simp only [isThere] at h
  split_ifs at h
  split at h
  · cases h
  · next appDir _ =>
    split at h
    · next hnone => exact absurd hnone hfile
    · next path _ =>
      cases hlook : r.files.isFile path with
      | ok found => simp [hlook, ofFiles, Except.mapError] at h
      | error fault =>
        simp only [hlook, ofFiles, Except.mapError, Except.error.injEq] at h
        exact ⟨fault, h.symm, FileTree.isFile_error hlook⟩

/-- Nothing that is looked for is nothing but backslashes. -/
lemma bare_ne_empty_of_mem_searched {c : String} (hc : c ∈ r.searched name) : bare c ≠ "" := by
  unfold searched at hc
  split_ifs at hc with hempty hinner
  · cases hc
  · rw [List.mem_singleton.1 hc, bare_bare]
    exact hempty
  · obtain ⟨d, hd, hslash⟩ : ∃ d ∈ (bare name).toList, d ≠ '\\' := by
      by_contra hall
      push Not at hall
      exact hempty (by rw [← bare_bare, bare_eq_empty_iff]; exact hall)
    have hcd : d ∈ c.toList := by
      obtain ⟨space, -, hspace⟩ := List.mem_flatMap.1 hc
      rcases List.mem_pair.1 hspace with rfl | rfl <;> simp [hd]
    intro hbare
    exact hslash (bare_eq_empty_iff.1 hbare d hcd)

lemma firstThere_cons (r : Resolver) (c : String) (rest : List String) :
    r.firstThere (c :: rest) =
      match r.isThere c with
      | .error f => .error f
      | .ok true => .ok (some c)
      | .ok false => r.firstThere rest := by
  rw [firstThere]
  cases r.isThere c with
  | error f => rfl
  | ok found => cases found <;> rfl

/-- The classes are looked for until one is found or one cannot be looked for. -/
lemma firstThere_eq_error_iff {names : List String} : r.firstThere names = .error f ↔
    ∃ before c after, names = before ++ c :: after ∧ (∀ b ∈ before, r.isThere b = .ok false) ∧
      r.isThere c = .error f := by
  induction names with
  | nil => simp [firstThere]
  | cons c rest ih =>
    rw [firstThere_cons]
    constructor
    · intro h
      split at h
      · next f' hc =>
        cases h
        exact ⟨[], c, rest, rfl, nofun, hc⟩
      · cases h
      · next hc =>
        obtain ⟨before, d, after, rfl, hbefore, hd⟩ := ih.1 h
        refine ⟨c :: before, d, after, rfl, ?_, hd⟩
        simpa [hc] using hbefore
    · rintro ⟨before, d, after, hnames, hbefore, hd⟩
      cases before with
      | nil =>
        cases hnames
        rw [hd]
      | cons b before =>
        cases hnames
        rw [hbefore c List.mem_cons_self]
        exact ih.2 ⟨before, d, after, rfl, fun b hb => hbefore b (List.mem_cons_of_mem c hb), hd⟩

/-- What becomes of the search decides whether resolving a name fails. -/
lemma resolve_eq_error_iff_firstThere :
    r.resolve name = .error f ↔ r.firstThere (r.searched name) = .error f := by
  simp only [resolve, searched]
  split
  · simp [firstThere]
  · split
    · rw [firstThere_cons]
      cases r.isThere (bare name) with
      | error f' => rfl
      | ok found => cases found <;> simp [firstThere]
    · rw [bind_eq_error_iff]
      constructor
      · rintro (h | ⟨found, -, h⟩)
        · exact h
        · cases found <;> cases h
      · exact Or.inl

/-- What the search gets stuck at is a path that is too long or a closed directory. -/
theorem GetsStuck.hides (h : r.GetsStuck name fault) : fault.Hides := by
  obtain ⟨before, c, after, hsearched, -, hc⟩ := h
  have hmem : c ∈ r.searched name := by simp [hsearched]
  obtain ⟨fault', heq, hhides⟩ := isThere_error (bare_ne_empty_of_mem_searched hmem) hc
  rwa [Failure.file.inj heq]

/-- Resolving a name fails exactly where the search gets stuck. -/
theorem resolve_eq_error_iff :
    r.resolve name = .error f ↔ ∃ fault, f = .file fault ∧ r.GetsStuck name fault := by
  rw [resolve_eq_error_iff_firstThere, firstThere_eq_error_iff]
  constructor
  · rintro ⟨before, c, after, hsearched, hbefore, hc⟩
    have hmem : c ∈ r.searched name := by simp [hsearched]
    obtain ⟨fault, rfl, -⟩ := isThere_error (bare_ne_empty_of_mem_searched hmem) hc
    exact ⟨fault, rfl, before, c, after, hsearched, hbefore, hc⟩
  · rintro ⟨fault, rfl, h⟩
    exact h

end EntityScaffold.Resolver
