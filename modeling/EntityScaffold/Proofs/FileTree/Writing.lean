import EntityScaffold.Proofs.FileTree
/-!
# What a write does to a tree

A write makes the directories that are missing on the way to a file, opens the file and stores a text in it.
`write_failed` and `write_done` say this of the nodes of the tree: nothing else changes.  A write that fails has made
directories at most if it fails before the file is opened; where it breaks off afterwards, the file is left with a
beginning of the text.

Directories stay directories, and files stay files, whatever becomes of their contents (`Grows`).  That is why a
file that was written once can always be written again, and why the second write makes nothing but the file
(`HoldsFile.write_eq`): the way to it can be gone still (`Passable`), and nothing breaks off now that did not before.
-/

namespace EntityScaffold.FileTree

variable {tree mid tree' : FileTree} {path : Path} {p place names : List String}
  {places more : List (List String)} {content : String} {made : Bool} {fault : FileFault}

/-! ## Places -/

/-- The places that names lead to one after another. -/
def along (place : List String) : List String → List (List String)
  | [] => []
  | name :: rest => step place name :: along (step place name) rest

/-- The place of a path by its names alone, whatever stands on the way. -/
def placeOf (tree : FileTree) (path : Path) : List String := path.components.foldl step (tree.start path)

/-- The places of the directories on the way to a file. -/
def way (tree : FileTree) (path : Path) : List (List String) := along (tree.start path) path.parent.components

lemma start_congr (h : tree'.home = tree.home) (path : Path) : tree'.start path = tree.start path := by
  rw [start, start, h]

lemma placeOf_congr (h : tree'.home = tree.home) (path : Path) : tree'.placeOf path = tree.placeOf path := by
  rw [placeOf, placeOf, start_congr h]

lemma way_congr (h : tree'.home = tree.home) (path : Path) : tree'.way path = tree.way path := by
  rw [way, way, start_congr h]

/-- The root is a directory, so where something else stands a node can be put. -/
lemma ne_nil_of_node? (h : tree.node? p ≠ some .directory) : p ≠ [] := by
  rintro rfl
  exact h rfl

lemma ne_nil_of_node?_eq_none (h : tree.node? p = none) : p ≠ [] := by
  rintro rfl
  cases h

/-! ## Trees that grow -/

/-- Trees that differ in what stands at their places at most. -/
structure SameSetting (tree tree' : FileTree) : Prop where
  home : tree'.home = tree.home
  closed : tree'.closed = tree.closed
  stops : tree'.stops = tree.stops

namespace SameSetting

lemma refl (tree : FileTree) : SameSetting tree tree := ⟨rfl, rfl, rfl⟩

lemma trans (h : SameSetting tree mid) (h' : SameSetting mid tree') : SameSetting tree tree' :=
  ⟨h'.home.trans h.home, h'.closed.trans h.closed, h'.stops.trans h.stops⟩

lemma put (tree : FileTree) (place : List String) (node : FileNode) : SameSetting tree (tree.put place node) :=
  ⟨rfl, rfl, rfl⟩

lemma isClosed (h : SameSetting tree tree') (p : List String) : tree'.isClosed p = tree.isClosed p := by
  rw [FileTree.isClosed, FileTree.isClosed, h.closed]

end SameSetting

/-- What is there in a tree is there in another, files perhaps with other contents. -/
structure Grows (tree tree' : FileTree) : Prop extends SameSetting tree tree' where
  directory : ∀ p, tree.node? p = some .directory → tree'.node? p = some .directory
  file : ∀ p content, tree.node? p = some (.file content) → ∃ content', tree'.node? p = some (.file content')

namespace Grows

lemma refl (tree : FileTree) : Grows tree tree := ⟨.refl tree, fun _ h => h, fun _ _ h => ⟨_, h⟩⟩

lemma trans (h : Grows tree mid) (h' : Grows mid tree') : Grows tree tree' where
  toSameSetting := h.toSameSetting.trans h'.toSameSetting
  directory p hp := h'.directory p (h.directory p hp)
  file p content hp := by
    obtain ⟨content', hmid⟩ := h.file p content hp
    exact h'.file p content' hmid

/-- A file can be put wherever no directory stands. -/
theorem put (h : tree.node? place ≠ some .directory) (content : String) :
    Grows tree (tree.put place (.file content)) where
  toSameSetting := .put tree place _
  directory p hp := by
    have hne : p ≠ place := by
      rintro rfl
      exact h hp
    rw [node?_put_of_ne tree hne]
    exact hp
  file p old hp := by
    by_cases hne : p = place
    · rw [hne]
      exact ⟨content, node?_put_self tree (ne_nil_of_node? h) _⟩
    · rw [node?_put_of_ne tree hne]
      exact ⟨old, hp⟩

lemma locateFrom (h : Grows tree tree') (hp : tree.locateFrom place names = .ok p) :
    tree'.locateFrom place names = .ok p := by
  fun_induction FileTree.locateFrom tree place names with
  | case1 => exact hp
  | case2 => cases hp
  | case3 => cases hp
  | case4 place name rest hnode hopen hlong ih =>
    rw [FileTree.locateFrom, h.directory place hnode]
    simp only [h.isClosed, hopen, hlong]
    exact ih hp
  | case5 => cases hp
  | case6 => cases hp

/-- A path that can be followed can be followed still, to the same place. -/
theorem locate (h : Grows tree tree') (hp : tree.locate path = .ok p) : tree'.locate path = .ok p := by
  unfold FileTree.locate followed at hp ⊢
  split_ifs at hp ⊢
  rw [start_congr h.home]
  exact h.locateFrom hp

/-- A file that is found is found still. -/
theorem isFile (h : Grows tree tree') (hfile : tree.isFile path = .ok true) : tree'.isFile path = .ok true := by
  obtain ⟨place, content, hlocate, hplace⟩ := isFile_eq_true_iff.1 hfile
  obtain ⟨content', hplace'⟩ := h.file place content hplace
  exact isFile_eq_true_iff.2 ⟨place, content', h.locate hlocate, hplace'⟩

end Grows

lemma locateFrom_eq (h : tree.locateFrom place names = .ok p) : p = names.foldl step place := by
  fun_induction locateFrom tree place names with
  | case1 =>
    cases h
    rfl
  | case2 => cases h
  | case3 => cases h
  | case4 place name rest hnode hopen hlong ih => exact ih h
  | case5 => cases h
  | case6 => cases h

lemma locate_eq (h : tree.locate path = .ok p) : p = tree.placeOf path := by
  unfold locate followed at h
  split_ifs at h
  exact locateFrom_eq h

/-! ## Making directories -/

/-- Nothing has changed but that directories were made at some places where nothing was. -/
structure AddsDirectories (places : List (List String)) (tree tree' : FileTree) : Prop
    extends SameSetting tree tree' where
  node : ∀ p, tree'.node? p = tree.node? p ∨
    p ∈ places ∧ tree.node? p = none ∧ tree'.node? p = some .directory

namespace AddsDirectories

lemma refl (places : List (List String)) (tree : FileTree) : AddsDirectories places tree tree :=
  ⟨.refl tree, fun _ => .inl rfl⟩

lemma mono (h : AddsDirectories places tree tree') (hsub : places ⊆ more) :
    AddsDirectories more tree tree' :=
  ⟨h.toSameSetting, fun p => (h.node p).imp_right fun ⟨hp, hnode⟩ => ⟨hsub hp, hnode⟩⟩

lemma trans (h : AddsDirectories places tree mid) (h' : AddsDirectories places mid tree') :
    AddsDirectories places tree tree' where
  toSameSetting := h.toSameSetting.trans h'.toSameSetting
  node p := by
    rcases h'.node p with heq | ⟨hp, hnone, hmade⟩
    · rcases h.node p with heq' | ⟨hp, hnone, hmade⟩
      · exact .inl (heq.trans heq')
      · exact .inr ⟨hp, hnone, heq.trans hmade⟩
    · rcases h.node p with heq' | ⟨_, _, hmade'⟩
      · exact .inr ⟨hp, heq'.symm.trans hnone, hmade⟩
      · rw [hnone] at hmade'
        cases hmade'

/-- A directory is made where nothing is. -/
theorem put (h : tree.node? place = none) : AddsDirectories [place] tree (tree.put place .directory) where
  toSameSetting := .put tree place _
  node p := by
    by_cases hp : p = place
    · rw [hp]
      exact .inr ⟨List.mem_singleton_self place, h, node?_put_self tree (ne_nil_of_node?_eq_none h) _⟩
    · exact .inl (node?_put_of_ne tree hp _)

lemma node?_of_some (h : AddsDirectories places tree tree') {node : FileNode} (hp : tree.node? p = some node) :
    tree'.node? p = some node := by
  rcases h.node p with heq | ⟨-, hnone, -⟩
  · rw [heq]
    exact hp
  · rw [hnone] at hp
    cases hp

lemma grows (h : AddsDirectories places tree tree') : Grows tree tree' :=
  ⟨h.toSameSetting, fun _ hp => h.node?_of_some hp, fun _ _ hp => ⟨_, h.node?_of_some hp⟩⟩

end AddsDirectories

/-- Names can be gone along from a place: each leads on to a directory, out of one that may be searched. -/
def Passable (tree : FileTree) (place : List String) : List String → Prop
  | [] => True
  | name :: rest => tree.isClosed place = false ∧ Path.isLongName name = false ∧
      tree.node? (step place name) = some .directory ∧ tree.Passable (step place name) rest

lemma Grows.passable (hgrows : Grows tree tree') (h : tree.Passable place names) : tree'.Passable place names := by
  induction names generalizing place with
  | nil => trivial
  | cons name rest ih =>
    obtain ⟨hopen, hname, hdirectory, hrest⟩ := h
    exact ⟨(hgrows.isClosed place).trans hopen, hname, hgrows.directory _ hdirectory, ih hrest⟩

/-- Making directories makes some along the names, and all that are missing if there is no fault. -/
lemma makeFrom_adds (tree : FileTree) (place : List String) (made : Bool) (names : List String) :
    AddsDirectories (along place names) tree (tree.makeFrom place made names).1 ∧
      ((tree.makeFrom place made names).2 = none → (tree.makeFrom place made names).1.Passable place names) := by
  fun_induction makeFrom tree place made names with
  | case1 => exact ⟨.refl _ _, fun _ => trivial⟩
  | case2 => exact ⟨.refl _ _, nofun⟩
  | case3 => exact ⟨.refl _ _, nofun⟩
  | case4 tree place made name rest next hopen hlong hnode ih =>
    obtain ⟨hadds, hall⟩ := ih
    refine ⟨hadds.mono (List.subset_cons_self _ _), fun hdone => ?_⟩
    exact ⟨(hadds.isClosed place).trans (eq_false_of_ne_true hopen), eq_false_of_ne_true hlong,
      hadds.node?_of_some hnode, hall hdone⟩
  | case5 => exact ⟨.refl _ _, nofun⟩
  | case6 tree place made name rest next hopen hlong hnode ih =>
    obtain ⟨hadds, hall⟩ := ih
    have hput : AddsDirectories [next] tree (tree.put next .directory) := .put hnode
    have hnext : (tree.put next .directory).node? next = some .directory :=
      node?_put_self tree (ne_nil_of_node?_eq_none hnode) _
    refine ⟨(hput.mono ?_).trans (hadds.mono (List.subset_cons_self _ _)), fun hdone => ?_⟩
    · exact List.cons_subset_cons next (List.nil_subset _)
    · exact ⟨(hadds.isClosed place).trans (eq_false_of_ne_true hopen), eq_false_of_ne_true hlong,
        hadds.node?_of_some hnext, hall hdone⟩

/-- Where all directories are there, none is made. -/
lemma makeFrom_eq (h : tree.Passable place names) : tree.makeFrom place made names = (tree, none) := by
  induction names generalizing place with
  | nil => rfl
  | cons name rest ih =>
    obtain ⟨hopen, hname, hdirectory, hrest⟩ := h
    simp only [makeFrom, hopen, hname, hdirectory]
    exact ih hrest

/-! ## Writing -/

/-- What stands at the place that a path leads to is what is read. -/
lemma read_of_locate (hlocated : tree.locate path = .ok p) (hfile : tree.node? p = some (.file content)) :
    tree.read path = .ok content := by
  have hfind : tree.find path = .ok (.file content) := by
    rw [find, hlocated]
    simp only [bind, Except.bind, hfile]
    rfl
  rw [read, hfind]
  rfl

/-- A file stands at the end of a path, and it can be written: a write can go the way to it, and does not break
off. -/
structure HoldsFile (tree : FileTree) (path : Path) : Prop where
  parent : followed path.parent (.ok ()) = .ok ()
  passable : tree.Passable (tree.start path) path.parent.components
  located : tree.locate path = .ok (tree.placeOf path)
  stores : tree.stops.lookup (tree.placeOf path) = none
  file : ∃ content, tree.node? (tree.placeOf path) = some (.file content)

namespace HoldsFile

lemma grows (h : tree.HoldsFile path) (hgrows : Grows tree tree') : tree'.HoldsFile path where
  parent := h.parent
  passable := by
    rw [start_congr hgrows.home]
    exact hgrows.passable h.passable
  located := by
    rw [placeOf_congr hgrows.home]
    exact hgrows.locate h.located
  stores := by
    rw [placeOf_congr hgrows.home, hgrows.stops]
    exact h.stores
  file := by
    obtain ⟨content, hfile⟩ := h.file
    rw [placeOf_congr hgrows.home]
    exact hgrows.file _ content hfile

/-- A file that is there is written in its place, and nothing is made. -/
theorem write_eq (h : tree.HoldsFile path) (content : String) :
    tree.write path content = (tree.put (tree.placeOf path) (.file content), none) := by
  have hmake : tree.makeDirectories path.parent = (tree, none) := by
    rw [makeDirectories, h.parent]
    exact makeFrom_eq h.passable
  obtain ⟨old, hfile⟩ := h.file
  have hdirectory : tree.isDirectoryAt (tree.placeOf path) = false := by
    rw [isDirectoryAt, hfile]
    rfl
  rw [write, hmake]
  simp only [writeAt, h.located, hdirectory, store, h.stores]
  rfl

lemma read_eq (h : tree.HoldsFile path) (hfile : tree.node? (tree.placeOf path) = some (.file content)) :
    tree.read path = .ok content :=
  read_of_locate h.located hfile

end HoldsFile

/-- The directories of a write: some on the way, and all that are missing if there is no fault. -/
lemma makeDirectories_parent_adds (tree : FileTree) (path : Path) :
    AddsDirectories (tree.way path) tree (tree.makeDirectories path.parent).1 ∧
      ((tree.makeDirectories path.parent).2 = none → followed path.parent (.ok ()) = .ok () ∧
        (tree.makeDirectories path.parent).1.Passable (tree.start path) path.parent.components) := by
  unfold makeDirectories
  split
  · next hfollowed =>
    obtain ⟨hadds, hall⟩ := makeFrom_adds tree (tree.start path) false path.parent.components
    exact ⟨hadds, fun hdone => ⟨hfollowed, hall hdone⟩⟩
  · exact ⟨.refl _ _, nofun⟩

/-- Storing a text puts all of it to a place, or a beginning of it where writing breaks off. -/
lemma store_cases (tree : FileTree) (place : List String) (content : String) :
    (tree.store place content = (tree.put place (.file content), none) ∧ tree.stops.lookup place = none) ∨
      ∃ stored : String, stored.toList <+: content.toList ∧
        tree.store place content = (tree.put place (.file stored), some .brokenOff) := by
  unfold store
  cases hstop : tree.stops.lookup place with
  | none => exact .inl ⟨rfl, rfl⟩
  | some n =>
    refine .inr ⟨String.ofList (content.toList.take n), ?_, rfl⟩
    rw [String.toList_ofList]
    exact List.take_prefix n content.toList

/-- What a write does when the directories are made: a fault comes before the file is opened, or the text is stored at
the place of the path. -/
lemma writeAt_cases (tree : FileTree) (path : Path) (content : String) :
    (∃ fault, tree.writeAt path content = (tree, some fault)) ∨
      tree.locate path = .ok (tree.placeOf path) ∧ tree.node? (tree.placeOf path) ≠ some .directory ∧
        tree.writeAt path content = tree.store (tree.placeOf path) content := by
  unfold writeAt
  cases hlocated : tree.locate path with
  | error fault => exact .inl ⟨fault, rfl⟩
  | ok place =>
    obtain rfl := locate_eq hlocated
    by_cases hdirectory : tree.isDirectoryAt (tree.placeOf path) = true
    · exact .inl ⟨.isDirectory, if_pos hdirectory⟩
    · refine .inr ⟨rfl, ?_, if_neg hdirectory⟩
      simpa [isDirectoryAt] using hdirectory

/-- A write that fails has made directories on the way at most, unless it broke off after the file was opened: then
the file is left with a beginning of the text. -/
theorem write_failed (h : tree.write path content = (tree', some fault)) :
    AddsDirectories (tree.way path) tree tree' ∨
      fault = .brokenOff ∧ ∃ mid, ∃ stored : String, AddsDirectories (tree.way path) tree mid ∧
        mid.locate path = .ok (mid.placeOf path) ∧ mid.node? (mid.placeOf path) ≠ some .directory ∧
          stored.toList <+: content.toList ∧ tree' = mid.put (mid.placeOf path) (.file stored) := by
  obtain ⟨hadds, -⟩ := makeDirectories_parent_adds tree path
  unfold write at h
  split at h
  · next hmake =>
    rw [hmake] at hadds
    cases h
    exact .inl hadds
  · next mid hmake =>
    rw [hmake] at hadds
    rcases writeAt_cases mid path content with ⟨fault', hfault⟩ | ⟨hlocated, hdirectory, hstored⟩
    · rw [hfault] at h
      cases h
      exact .inl hadds
    · rw [hstored] at h
      rcases store_cases mid (mid.placeOf path) content with ⟨hstore, -⟩ | ⟨stored, hprefix, hstore⟩
      · rw [hstore] at h
        cases h
      · rw [hstore] at h
        cases h
        exact .inr ⟨rfl, mid, stored, hadds, hlocated, hdirectory, hprefix, rfl⟩

/-- A write that does not fail has made the directories on the way and put the file to its place. -/
theorem write_done (h : tree.write path content = (tree', none)) :
    ∃ mid, AddsDirectories (tree.way path) tree mid ∧
      mid.node? (tree.placeOf path) ≠ some .directory ∧
        tree' = mid.put (tree.placeOf path) (.file content) ∧ tree'.HoldsFile path := by
  obtain ⟨hadds, hall⟩ := makeDirectories_parent_adds tree path
  unfold write at h
  split at h
  · cases h
  · next mid hmake =>
    rw [hmake] at hadds hall
    obtain ⟨hparent, hpassable⟩ := hall rfl
    rcases writeAt_cases mid path content with ⟨fault, hfault⟩ | ⟨hlocated, hdirectory, hstored⟩
    · rw [hfault] at h
      cases h
    · rw [hstored] at h
      rcases store_cases mid (mid.placeOf path) content with ⟨hstore, hstops⟩ | ⟨stored, -, hstore⟩
      · rw [hstore] at h
        cases h
        have hgrows : Grows mid (mid.put (mid.placeOf path) (.file content)) := .put hdirectory content
        have hholds : (mid.put (mid.placeOf path) (.file content)).HoldsFile path := by
          refine ⟨hparent, ?_, hgrows.locate hlocated, hstops, content, ?_⟩
          · have hstart : (mid.put (mid.placeOf path) (.file content)).start path = tree.start path :=
              start_congr hadds.home path
            rw [hstart]
            exact hgrows.passable hpassable
          · exact node?_put_self mid (ne_nil_of_node? hdirectory) _
        rw [placeOf_congr hadds.home] at hdirectory hholds ⊢
        exact ⟨mid, hadds, hdirectory, rfl, hholds⟩
      · rw [hstore] at h
        cases h

/-- What a write that does not fail leaves at a place. -/
theorem write_node? (h : tree.write path content = (tree', none)) :
    Grows tree tree' ∧ tree'.node? (tree.placeOf path) = some (.file content) ∧
      ∀ p ≠ tree.placeOf path, tree'.node? p = tree.node? p ∨
        p ∈ tree.way path ∧ tree.node? p = none ∧ tree'.node? p = some .directory := by
  obtain ⟨mid, hadds, hnode, rfl, -⟩ := write_done h
  refine ⟨hadds.grows.trans (.put hnode content), node?_put_self mid (ne_nil_of_node? hnode) _, ?_⟩
  intro p hp
  rw [node?_put_of_ne mid hp]
  exact hadds.node p

/-! ## Places of plain paths -/

/-- Without `..` a place is the start with the names after it. -/
lemma foldl_step (h : ".." ∉ names) (place : List String) : names.foldl step place = place ++ names := by
  induction names generalizing place with
  | nil => simp
  | cons name rest ih =>
    obtain ⟨hname, hrest⟩ := not_or.1 (mt List.mem_cons.2 h)
    rw [List.foldl_cons, ih hrest, step, if_neg (Ne.symm hname)]
    simp

lemma placeOf_eq (h : ".." ∉ path.components) : tree.placeOf path = tree.start path ++ path.components :=
  foldl_step h _

/-- Without `..` the places on the way are the beginnings of the place. -/
lemma mem_along (h : ".." ∉ names) (hp : p ∈ along place names) :
    ∃ before after, before ≠ [] ∧ names = before ++ after ∧ p = place ++ before := by
  induction names generalizing place with
  | nil => cases hp
  | cons name rest ih =>
    obtain ⟨hname, hrest⟩ := not_or.1 (mt List.mem_cons.2 h)
    have hstep : step place name = place ++ [name] := by rw [step, if_neg (Ne.symm hname)]
    rcases List.mem_cons.1 hp with rfl | hp
    · exact ⟨[name], rest, by simp, rfl, hstep⟩
    · obtain ⟨before, after, -, rfl, rfl⟩ := ih hrest hp
      exact ⟨name :: before, after, by simp, rfl, by simp [hstep]⟩

end EntityScaffold.FileTree
