import EntityScaffold.FileTree
import EntityScaffold.Proofs.Outcome
/-!
# Looking for files

Looking whether a path leads to a file fails for two reasons only: a name on the path, or the whole of it, is
too long, or a directory on the way may not be searched (`FileFault.Hides`).  Every other way in which a path leads
nowhere means that there is no file.
-/

namespace EntityScaffold

/-- A fault that keeps one from saying whether anything is there. -/
def FileFault.Hides (fault : FileFault) : Prop := fault = .tooLong ∨ fault = .denied

namespace FileTree

variable {tree : FileTree} {path : Path} {fault : FileFault}

lemma isAbsence_or_hides_of_locateFrom {place names : List String}
    (h : tree.locateFrom place names = .error fault) : fault.isAbsence = true ∨ fault.Hides := by
  fun_induction locateFrom tree place names with
  | case1 => cases h
  | case2 =>
    cases h
    exact .inr (.inr rfl)
  | case3 =>
    cases h
    exact .inr (.inl rfl)
  | case4 place name rest hnode hopen hlong ih => exact ih h
  | case5 =>
    cases h
    exact .inl rfl
  | case6 =>
    cases h
    exact .inl rfl

lemma isAbsence_or_hides_of_locate (h : tree.locate path = .error fault) :
    fault.isAbsence = true ∨ fault.Hides := by
  unfold locate followed at h
  split_ifs at h
  · cases h
    exact .inl rfl
  · cases h
    exact .inr (.inl rfl)
  · exact isAbsence_or_hides_of_locateFrom h

lemma isAbsence_or_hides_of_find (h : tree.find path = .error fault) :
    fault.isAbsence = true ∨ fault.Hides := by
  rcases bind_eq_error_iff.1 h with h | ⟨place, -, h⟩
  · exact isAbsence_or_hides_of_locate h
  · split at h
    · cases h
    · cases h
      exact .inl rfl

/-- Only a path that is too long, or leads through a closed directory, keeps one from saying whether it leads to a
file. -/
lemma isFile_error (h : tree.isFile path = .error fault) : fault.Hides := by
  have hfind : tree.find? path = .error fault := by
    rcases bind_eq_error_iff.1 h with h | ⟨node, -, h⟩
    · exact h
    · split at h <;> cases h
  unfold find? at hfind
  split at hfind
  · cases hfind
  · next fault' hfault =>
    split_ifs at hfind with habsent
    cases hfind
    exact (isAbsence_or_hides_of_find hfault).resolve_left habsent

/-- A path leads to a file exactly where it can be followed to one. -/
theorem isFile_eq_true_iff : tree.isFile path = .ok true ↔
    ∃ place content, tree.locate path = .ok place ∧ tree.node? place = some (.file content) := by
  constructor
  · intro h
    obtain ⟨found, hfind, h⟩ := bind_eq_ok_iff.1 h
    split at h
    · next content =>
      unfold find? at hfind
      split at hfind
      · next node hnode =>
        cases hfind
        obtain ⟨place, hlocate, hnode⟩ := bind_eq_ok_iff.1 hnode
        split at hnode
        · next node hplace =>
          cases hnode
          exact ⟨place, content, hlocate, hplace⟩
        · cases hnode
      · split_ifs at hfind
        cases hfind
    · cases h
  · rintro ⟨place, content, hlocate, hplace⟩
    have hfind : tree.find path = .ok (.file content) := by
      rw [find, hlocate, ok_bind, hplace]
      rfl
    rw [isFile, find?, hfind]
    rfl

end FileTree

end EntityScaffold
