import EntityScaffold.Proofs.FileTree.Writing
import EntityScaffold.Scaffold
/-!
# What writing files does to a tree

Files are written one after another, and a later one may go to the place of an earlier one.  What stands at a
place in the end is therefore what the last file of that place says (`lastText`); everywhere else nothing has
changed, but that directories were made on the way to the files (`writeAll_done`).

A run that fails is a run that succeeded, up to the file that could not be written (`writeAll_failed`).  Of that file
itself either nothing is changed, or writing broke off after it was opened and a beginning of its text is left
(`HasStopped`).  A run that succeeded can be repeated, with other texts too, because nothing has been taken away that it
needed (`writeAll_again`).
-/

namespace EntityScaffold.Scaffold

open FileTree

variable {tree mid tree' : FileTree} {file : GeneratedFile} {files rest : List GeneratedFile} {paths : List Path}
  {place : List String} {failure : Failure}

/-- The text of the last of some files that go to a place. -/
def lastText (tree : FileTree) (place : List String) : List GeneratedFile → Option String
  | [] => none
  | file :: rest =>
    (lastText tree place rest).or (if tree.placeOf file.path = place then some file.content else none)

/-- The places of the directories on the way to some files. -/
def ways (tree : FileTree) (files : List GeneratedFile) : List (List String) :=
  files.flatMap fun file => tree.way file.path

lemma lastText_congr (h : tree'.home = tree.home) (place : List String) (files : List GeneratedFile) :
    lastText tree' place files = lastText tree place files := by
  induction files with
  | nil => rfl
  | cons file rest ih => rw [lastText, lastText, ih, placeOf_congr h]

lemma ways_congr (h : tree'.home = tree.home) (files : List GeneratedFile) :
    ways tree' files = ways tree files := by
  rw [ways, ways]
  exact congrArg files.flatMap (funext fun file => way_congr h file.path)

/-- No file says anything about the places of other files. -/
lemma lastText_eq_none_iff :
    lastText tree place files = none ↔ ∀ file ∈ files, tree.placeOf file.path ≠ place := by
  induction files with
  | nil => simp [lastText]
  | cons file rest ih =>
    rw [lastText, Option.or_eq_none_iff, ih, List.forall_mem_cons, and_comm]
    split <;> simp_all

/-- The last file of a place is among the rest, or it is the first one. -/
lemma lastText_cons_eq_some_iff {content : String} : lastText tree place (file :: rest) = some content ↔
    lastText tree place rest = some content ∨
      lastText tree place rest = none ∧ tree.placeOf file.path = place ∧ file.content = content := by
  rw [lastText]
  cases lastText tree place rest with
  | some text => simp
  | none => simp

/-- Where files have different places, the last of a place is the only one. -/
lemma lastText_placeOf (hnodup : (files.map fun file => tree.placeOf file.path).Nodup) (hfile : file ∈ files) :
    lastText tree (tree.placeOf file.path) files = some file.content := by
  induction files with
  | nil => cases hfile
  | cons first rest ih =>
    obtain ⟨hfirst, hrest⟩ := List.nodup_cons.1 hnodup
    rcases List.mem_cons.1 hfile with rfl | hfile
    · have hnone : lastText tree (tree.placeOf file.path) rest = none :=
        lastText_eq_none_iff.2 fun other hother heq => hfirst (List.mem_map.2 ⟨other, hother, heq⟩)
      rw [lastText, hnone, Option.none_or, if_pos rfl]
    · rw [lastText, ih hrest hfile, Option.some_or]

/-! ## Runs that succeed -/

/-- Files are written one after another. -/
lemma writeAll_cons_eq_ok_iff : writeAll tree (file :: rest) = (tree', .ok paths) ↔
    ∃ mid more, tree.write file.path file.content = (mid, none) ∧ writeAll mid rest = (tree', .ok more) ∧
      paths = file.path :: more := by
  constructor
  · intro h
    rw [writeAll] at h
    split at h
    · cases h
    · next mid hwrite =>
      cases hrest : writeAll mid rest with
      | mk tree'' outcome =>
        rw [hrest] at h
        cases outcome with
        | error f => cases h
        | ok more =>
          cases h
          exact ⟨mid, more, hwrite, hrest, rfl⟩
  · rintro ⟨mid, more, hwrite, hrest, rfl⟩
    rw [writeAll, hwrite]
    show ((writeAll mid rest).1, (writeAll mid rest).2.map (file.path :: ·)) = _
    rw [hrest]
    rfl

/-- Files that were written are there, and nothing else has changed but for directories on the way to them. -/
theorem writeAll_done (h : writeAll tree files = (tree', .ok paths)) :
    paths = files.map (·.path) ∧ Grows tree tree' ∧ (∀ file ∈ files, tree'.HoldsFile file.path) ∧
      (∀ place content, lastText tree place files = some content →
        tree'.node? place = some (.file content)) ∧
      ∀ place, lastText tree place files = none → tree'.node? place = tree.node? place ∨
        place ∈ ways tree files ∧ tree.node? place = none ∧ tree'.node? place = some .directory := by
  induction files generalizing tree paths with
  | nil =>
    cases h
    exact ⟨rfl, .refl _, nofun, nofun, fun _ _ => .inl rfl⟩
  | cons file rest ih =>
    obtain ⟨mid, more, hwrite, hrest, rfl⟩ := writeAll_cons_eq_ok_iff.1 h
    obtain ⟨rfl, hgrows, hholds, hlast, hother⟩ := ih hrest
    obtain ⟨hfirst, hfile, hunchanged⟩ := write_node? hwrite
    obtain ⟨-, -, -, -, hfileHolds⟩ := write_done hwrite
    refine ⟨rfl, hfirst.trans hgrows, List.forall_mem_cons.2 ⟨hfileHolds.grows hgrows, hholds⟩, ?_, ?_⟩
    · intro place content hcontent
      obtain hmore | ⟨hmore, rfl, rfl⟩ := lastText_cons_eq_some_iff.1 hcontent
      · rw [← lastText_congr hfirst.home] at hmore
        exact hlast place content hmore
      · -- nothing later goes to the place of the first file, and it is no place for a directory
        rw [← lastText_congr hfirst.home] at hmore
        obtain heq | ⟨-, hnone, -⟩ := hother _ hmore
        · rw [heq]
          exact hfile
        · rw [hnone] at hfile
          cases hfile
    · intro place hnone
      obtain ⟨hplace, hmore⟩ := List.forall_mem_cons.1 (lastText_eq_none_iff.1 hnone)
      rw [← lastText_eq_none_iff, ← lastText_congr hfirst.home] at hmore
      have hways : ways tree (file :: rest) = tree.way file.path ++ ways mid rest := by
        rw [ways_congr hfirst.home]
        rfl
      rw [hways, List.mem_append]
      rcases hunchanged place (Ne.symm hplace) with heq | ⟨hway, habsent, hmade⟩
      · rw [← heq]
        exact (hother place hmore).imp_right fun ⟨hway, hnode⟩ => ⟨.inr hway, hnode⟩
      · exact .inr ⟨.inl hway, habsent, hgrows.directory place hmade⟩

/-! ## Runs that fail -/

/-- A run fails with its first file, or later. -/
lemma writeAll_cons_eq_error (h : writeAll tree (file :: rest) = (tree', .error failure)) :
    (∃ fault, tree.write file.path file.content = (tree', some fault) ∧ failure = .file fault) ∨
      ∃ mid, tree.write file.path file.content = (mid, none) ∧ writeAll mid rest = (tree', .error failure) := by
  rw [writeAll] at h
  split at h
  · next mid fault hwrite =>
    cases h
    exact .inl ⟨fault, hwrite, rfl⟩
  · next mid hwrite =>
    cases hrest : writeAll mid rest with
    | mk tree'' outcome =>
      rw [hrest] at h
      cases outcome with
      | ok more => cases h
      | error f =>
        cases h
        exact .inr ⟨mid, hwrite, hrest⟩

/-- A run fails with the first file that cannot be written. -/
theorem writeAll_failed (h : writeAll tree files = (tree', .error failure)) :
    ∃ written file rest mid paths fault, files = written ++ file :: rest ∧
      writeAll tree written = (mid, .ok paths) ∧ mid.write file.path file.content = (tree', some fault) ∧
        failure = .file fault := by
  induction files generalizing tree with
  | nil => cases h
  | cons file rest ih =>
    obtain ⟨fault, hwrite, hfault⟩ | ⟨mid, hwrite, hrest⟩ := writeAll_cons_eq_error h
    · exact ⟨[], file, rest, tree, [], fault, rfl, rfl, hwrite, hfault⟩
    · obtain ⟨written, next, after, mid', paths, fault, rfl, hwritten, hnext, hfault⟩ := ih hrest
      refine ⟨file :: written, next, after, mid', file.path :: paths, fault, rfl, ?_, hnext, hfault⟩
      exact writeAll_cons_eq_ok_iff.2 ⟨mid, paths, hwrite, hwritten, rfl⟩

/-- The files are there with their texts, and of the rest nothing has changed but that directories were made. -/
structure HasWritten (tree tree' : FileTree) (files : List GeneratedFile) : Prop where
  home : tree'.home = tree.home
  located : ∀ file ∈ files, tree'.locate file.path = .ok (tree.placeOf file.path)
  written : ∀ file ∈ files, tree'.read file.path = .ok file.content
  others : ∀ place, (∀ file ∈ files, tree.placeOf file.path ≠ place) →
    tree'.node? place = tree.node? place ∨ tree.node? place = none ∧ tree'.node? place = some .directory

/-- Files that have places of their own, none of them where an earlier file or the file itself needs a
directory. -/
structure Apart (tree : FileTree) (files : List GeneratedFile) : Prop where
  places : (files.map fun file => tree.placeOf file.path).Nodup
  clear : files.Pairwise fun file later => tree.placeOf later.path ∉ tree.way file.path
  own : ∀ file ∈ files, tree.placeOf file.path ∉ tree.way file.path

lemma hasWritten_of_writeAll (hnodup : (files.map fun file => tree.placeOf file.path).Nodup)
    (h : writeAll tree files = (tree', .ok paths)) : HasWritten tree tree' files := by
  obtain ⟨-, hgrows, hholds, hlast, hother⟩ := writeAll_done h
  refine ⟨hgrows.home, fun file hfile => ?_, fun file hfile => ?_, fun place hplace => ?_⟩
  · rw [← placeOf_congr hgrows.home]
    exact (hholds file hfile).located
  · have hnode := hlast _ _ (lastText_placeOf hnodup hfile)
    rw [← placeOf_congr hgrows.home] at hnode
    exact (hholds file hfile).read_eq hnode
  · exact (hother place (lastText_eq_none_iff.2 hplace)).imp_right And.right

/-- The files that were written stand at their places. -/
theorem HasWritten.node? (h : HasWritten tree tree' files) (hholds : ∀ file ∈ files, tree'.HoldsFile file.path)
    {file : GeneratedFile} (hfile : file ∈ files) :
    tree'.node? (tree'.placeOf file.path) = some (.file file.content) := by
  obtain ⟨content, hnode⟩ := (hholds file hfile).file
  have hread := (hholds file hfile).read_eq hnode
  rw [h.written file hfile] at hread
  cases hread
  exact hnode

/-- More directories do not change what was written, and change little else. -/
lemma HasWritten.addsDirectories {places : List (List String)} (h : HasWritten tree mid files)
    (hnodes : ∀ file ∈ files, mid.HoldsFile file.path) (hadds : AddsDirectories places mid tree') :
    HasWritten tree tree' files where
  home := hadds.home.trans h.home
  located file hfile := hadds.grows.locate (h.located file hfile)
  written file hfile := by
    refine ((hnodes file hfile).grows hadds.grows).read_eq ?_
    rw [placeOf_congr hadds.home]
    exact hadds.node?_of_some (h.node? hnodes hfile)
  others place hplace := by
    rcases hadds.node place with heq | ⟨-, hnone, hmade⟩
    · rw [heq]
      exact h.others place hplace
    · rcases h.others place hplace with heq | ⟨-, hmade'⟩
      · exact .inr ⟨heq.symm.trans hnone, hmade⟩
      · rw [hnone] at hmade'
        cases hmade'

/-- One more file at a place of its own does not change what was written. -/
theorem HasWritten.put (h : HasWritten tree mid files) (file : GeneratedFile)
    (hnodes : ∀ other ∈ files, mid.HoldsFile other.path)
    (hlocated : mid.locate file.path = .ok (tree.placeOf file.path))
    (hnode : mid.node? (tree.placeOf file.path) ≠ some .directory)
    (hown : ∀ other ∈ files, tree.placeOf other.path ≠ tree.placeOf file.path) :
    HasWritten tree (mid.put (tree.placeOf file.path) (.file file.content)) (files ++ [file]) := by
  have hgrows : Grows mid (mid.put (tree.placeOf file.path) (.file file.content)) := .put hnode file.content
  refine ⟨h.home, ?_, ?_, fun place hplace => ?_⟩
  · rw [List.forall_mem_append, List.forall_mem_singleton]
    exact ⟨fun other hother => hgrows.locate (h.located other hother), hgrows.locate hlocated⟩
  · rw [List.forall_mem_append, List.forall_mem_singleton]
    refine ⟨fun other hother => ((hnodes other hother).grows hgrows).read_eq ?_, ?_⟩
    · rw [placeOf_congr hgrows.home]
      have hne : mid.placeOf other.path ≠ tree.placeOf file.path := by
        rw [placeOf_congr h.home]
        exact hown other hother
      rw [node?_put_of_ne mid hne]
      exact h.node? hnodes hother
    · exact read_of_locate (hgrows.locate hlocated) (node?_put_self mid (ne_nil_of_node? hnode) _)
  · rw [List.forall_mem_append, List.forall_mem_singleton] at hplace
    rw [node?_put_of_ne mid (Ne.symm hplace.2)]
    exact h.others place hplace.1

/-- How a run leaves the file it stopped at: as it was, or, where writing broke off after the file was opened, with a
beginning of its text. -/
def LeavesOff (file : GeneratedFile) (fault : FileFault) (mid tree' : FileTree) : Prop :=
  tree' = mid ∨ fault = .brokenOff ∧ mid.locate file.path = .ok (mid.placeOf file.path) ∧
    mid.node? (mid.placeOf file.path) ≠ some .directory ∧
      ∃ stored : String, stored.toList <+: file.content.toList ∧
        tree' = mid.put (mid.placeOf file.path) (.file stored)

/-- A run fails with the first file that cannot be written, when directories have been made on the way to it at most,
and leaves off there. -/
lemma writeAll_leavesOff (h : writeAll tree files = (tree', .error failure)) :
    ∃ written file rest done mid paths fault, files = written ++ file :: rest ∧ failure = .file fault ∧
      writeAll tree written = (done, .ok paths) ∧ AddsDirectories (done.way file.path) done mid ∧
        LeavesOff file fault mid tree' := by
  obtain ⟨written, file, rest, done, paths, fault, rfl, hwritten, hfile, rfl⟩ := writeAll_failed h
  refine ⟨written, file, rest, done, ?_⟩
  rcases write_failed hfile with hadds | ⟨rfl, mid, stored, hadds, hlocated, hnode, hprefix, rfl⟩
  · exact ⟨tree', paths, fault, rfl, rfl, hwritten, hadds, .inl rfl⟩
  · exact ⟨mid, paths, .brokenOff, rfl, rfl, hwritten, hadds, .inr ⟨rfl, hlocated, hnode, stored, hprefix, rfl⟩⟩

/-- A run stopped at a file before anything was changed but directories, or writing broke off in that file. -/
def HasStopped (tree tree' : FileTree) (fault : FileFault) (written : List GeneratedFile) (file : GeneratedFile)
    (rest : List GeneratedFile) : Prop :=
  (HasWritten tree tree' written ∧
      ∀ later ∈ file :: rest, tree'.node? (tree.placeOf later.path) = tree.node? (tree.placeOf later.path)) ∨
    fault = .brokenOff ∧ ∃ stored : String, stored.toList <+: file.content.toList ∧
      HasWritten tree tree' (written ++ [{ file with content := stored }]) ∧
        ∀ later ∈ rest, tree'.node? (tree.placeOf later.path) = tree.node? (tree.placeOf later.path)

/-- A run over files that are apart writes them all, or else those before the first that cannot be written; it
then leaves the places of all later ones as they were, and that one too, unless writing broke off there. -/
lemma writeAll_effect (hapart : Apart tree files) :
    (∃ tree', writeAll tree files = (tree', .ok (files.map (·.path))) ∧ HasWritten tree tree' files) ∨
      ∃ tree' fault written file rest, files = written ++ file :: rest ∧
        writeAll tree files = (tree', .error (.file fault)) ∧ HasStopped tree tree' fault written file rest := by
  cases hrun : writeAll tree files with
  | mk tree' outcome =>
    cases outcome with
    | ok paths =>
      obtain ⟨rfl, -⟩ := writeAll_done hrun
      exact .inl ⟨tree', rfl, hasWritten_of_writeAll hapart.places hrun⟩
    | error failure =>
      obtain ⟨written, file, rest, done, mid, paths, fault, rfl, rfl, hwritten, hadds, hleaves⟩ :=
        writeAll_leavesOff hrun
      obtain ⟨-, hgrows, hholds, -, hother⟩ := writeAll_done hwritten
      have hnodup := hapart.places
      rw [List.map_append, List.nodup_append] at hnodup
      obtain ⟨hfirst, hlast, hdistinct⟩ := hnodup
      obtain ⟨-, hrest, hclear⟩ := List.pairwise_append.1 hapart.clear
      have hpart : HasWritten tree mid written := (hasWritten_of_writeAll hfirst hwritten).addsDirectories hholds hadds
      have hlater : ∀ later ∈ file :: rest,
          mid.node? (tree.placeOf later.path) = tree.node? (tree.placeOf later.path) := by
        intro later hlater
        have hnone : lastText tree (tree.placeOf later.path) written = none :=
          lastText_eq_none_iff.2 fun earlier hearlier =>
            hdistinct _ (List.mem_map_of_mem hearlier) _ (List.mem_map_of_mem hlater)
        have hways : tree.placeOf later.path ∉ ways tree written := by
          intro hway
          obtain ⟨earlier, hearlier, hway⟩ := List.mem_flatMap.1 hway
          exact hclear earlier hearlier later hlater hway
        have hway : tree.placeOf later.path ∉ done.way file.path := by
          rw [way_congr hgrows.home]
          rcases List.mem_cons.1 hlater with rfl | hlater
          · exact hapart.own later (by simp)
          · exact List.rel_of_pairwise_cons hrest hlater
        have hdone := (hother _ hnone).resolve_right fun ⟨hmem, _⟩ => hways hmem
        exact ((hadds.node _).resolve_right fun ⟨hmem, _⟩ => hway hmem).trans hdone
      refine .inr ⟨tree', fault, written, file, rest, rfl, rfl, ?_⟩
      rcases hleaves with rfl | ⟨rfl, hlocated, hnode, stored, hprefix, rfl⟩
      · exact .inl ⟨hpart, hlater⟩
      · rw [placeOf_congr hpart.home] at hlocated hnode ⊢
        refine .inr ⟨rfl, stored, hprefix, ?_, fun later hmem => ?_⟩
        · have hnodes : ∀ other ∈ written, mid.HoldsFile other.path := fun other hother =>
            (hholds other hother).grows hadds.grows
          refine hpart.put { file with content := stored } hnodes hlocated hnode fun other hother => ?_
          exact hdistinct _ (List.mem_map_of_mem hother) _ List.mem_cons_self
        · have hne : tree.placeOf later.path ≠ tree.placeOf file.path := fun heq =>
            (List.nodup_cons.1 hlast).1 (List.mem_map.2 ⟨later, hmem, heq⟩)
          rw [node?_put_of_ne mid hne]
          exact hlater later (List.mem_cons_of_mem file hmem)

/-! ## Runs that are repeated -/

/-- Files that are there are written to their places, and nothing else changes. -/
theorem writeAll_again (h : ∀ file ∈ files, tree.HoldsFile file.path) :
    ∃ tree', writeAll tree files = (tree', .ok (files.map (·.path))) ∧ tree'.home = tree.home ∧
      ∀ place, tree'.node? place =
        match lastText tree place files with
        | some content => some (.file content)
        | none => tree.node? place := by
  induction files generalizing tree with
  | nil => exact ⟨tree, rfl, rfl, fun _ => rfl⟩
  | cons file rest ih =>
    obtain ⟨hfile, hrest⟩ := List.forall_mem_cons.1 h
    obtain ⟨old, hold⟩ := hfile.file
    have hnode : tree.node? (tree.placeOf file.path) ≠ some .directory := by simp [hold]
    have hwrite := hfile.write_eq file.content
    have hgrows : Grows tree (tree.put (tree.placeOf file.path) (.file file.content)) := .put hnode _
    obtain ⟨tree', hagain, hhome, hnodes⟩ := ih fun other hother => (hrest other hother).grows hgrows
    refine ⟨tree', writeAll_cons_eq_ok_iff.2 ⟨_, _, hwrite, hagain, rfl⟩, hhome.trans hgrows.home, ?_⟩
    intro place
    rw [hnodes, lastText, lastText_congr hgrows.home]
    cases lastText tree place rest with
    | some content => rfl
    | none =>
      rw [Option.none_or]
      by_cases hplace : tree.placeOf file.path = place
      · subst hplace
        rw [if_pos rfl]
        exact node?_put_self tree (ne_nil_of_node? hnode) _
      · rw [if_neg hplace]
        exact node?_put_of_ne tree (Ne.symm hplace) _

end EntityScaffold.Scaffold
