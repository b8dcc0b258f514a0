import EntityScaffold.CommandLine
import EntityScaffold.Proofs.Scaffold.Files
import EntityScaffold.Proofs.Scaffold.Writing
/-!
# What scaffolding does to the files that are there

All checks and all texts come before the first write, so a record that is turned down changes nothing, nor does one
with a number that cannot be shown, and any other is written file by file (`generate_effect`).  Whatever the tree held
before, a run that succeeds leaves the rendered texts in their files, one that fails those before the file it fails at,
and either changes nothing else but that directories are made.  The file that a run fails at is as it was, unless
writing broke off in it, which leaves a beginning of its text.

The paths of the files are plain where the namespace and the entity are made of identifiers (`pathOf`), so no file
can be reached by two of them.  What is left to show is that no file stands where an earlier one needs a directory.
An exception and the events have a directory of their own, and the one class that comes after them and lies above
has a longer name (`clear_pathOf`).
-/

namespace EntityScaffold.Scaffold

open Text ClassName FileTree

attribute [local irreducible] qualify

variable {config : Config} {r : Record} {a b : Artifact} {tree : FileTree}

/-! ## Plain paths -/

/-- The directories that the files of a record have in common. -/
def front (config : Config) (r : Record) : List String :=
  config.appDir.components ++ (properSegments r.space).tail

/-- The name of the file of an artifact. -/
def fileName (config : Config) (r : Record) (a : Artifact) : String := r.className a ++ config.fileExtension

/-- The path of the file of an artifact, when the names in it are identifiers. -/
def pathOf (config : Config) (r : Record) (a : Artifact) : Path :=
  ⟨config.appDir.root, front config r ++ (directories r a ++ [fileName config r a])⟩

/-- The file of an artifact. -/
def fileOf (config : Config) (r : Record) (a : Artifact) : GeneratedFile :=
  ⟨a.key, r.qualifiedName a, pathOf config r a, Lines.normalize (unitAt config r a).print⟩

lemma directories_cases (r : Record) (a : Artifact) :
    directories r a = [] ∨ directories r a = ["Exception"] ∨ directories r a = ["Event"] := by
  unfold directories
  split
  · exact .inl rfl
  · cases a <;> simp [Artifact.directories]

lemma isIdentifier_of_mem_directories {name : String} (h : name ∈ directories r a) :
    isIdentifier name = true := by
  rcases directories_cases r a with hnone | hone | hone
  · rw [hnone] at h
    cases h
  · rw [hone, List.mem_singleton] at h
    subst h
    decide
  · rw [hone, List.mem_singleton] at h
    subst h
    decide

lemma path?_qualifiedName (hextension : '/' ∉ config.fileExtension.toList)
    (hspace : ∀ segment ∈ properSegments r.space, isIdentifier segment = true)
    (hname : isIdentifier (r.className a) = true) :
    path? (r.qualifiedName a) config.appDir config.fileExtension = some (pathOf config r a) := by
  obtain ⟨above, hsegments, habove⟩ := properSegments_qualifiedName r a hname
  have hidentifiers : ∀ name ∈ above.tail, isIdentifier name = true := by
    rw [habove, List.forall_mem_append]
    exact ⟨fun name hmem => hspace name (List.mem_of_mem_tail hmem),
      fun name => isIdentifier_of_mem_directories⟩
  have hfile := Path.ofString_append_of_not_mem hname hextension
  rw [path?, placeBelow?_eq hsegments, Option.map_some]
  simp only [List.foldl_append, Path.foldl_append_ofString hidentifiers]
  simp [habove, hfile, Path.append, pathOf, front, fileName]

/-- The files of a record that passes the check and shows its numbers. -/
lemma render_eq (hextension : '/' ∉ config.fileExtension.toList)
    (hspace : ∀ segment ∈ properSegments r.space, isIdentifier segment = true)
    (hentity : isIdentifier r.entityName = true) (h : r.validate = .ok ()) (hshown : ShowsNumbers r) :
    render config r = .ok ((artifacts r).map (fileOf config r)) := by
  obtain ⟨hstems, -⟩ := Record.stems_of_validate h
  refine render_eq_map h hshown fun a ha => path?_qualifiedName hextension hspace ?_
  exact isIdentifier_className hentity hstems ha

lemma ne_dots_of_isIdentifier {name : String} (h : isIdentifier name = true) (more : String) :
    name ++ more ≠ ".." := by
  obtain ⟨c, cs, hname⟩ : ∃ c cs, name.toList = c :: cs :=
    List.exists_cons_of_ne_nil (by simpa using ne_empty_of_isIdentifier h)
  have hdot : c ≠ '.' :=
    ne_of_isIdentifierChar (isIdentifierChar_of_isIdentifier h c (by simp [hname])) (by decide)
  intro hdots
  have hhead := congrArg (fun s => s.toList.head?) hdots
  rw [String.toList_append, hname] at hhead
  exact hdot (Option.some.inj hhead)

/-- Plain paths go down only. -/
lemma dots_not_mem_pathOf (happDir : ".." ∉ config.appDir.components)
    (hspace : ∀ segment ∈ properSegments r.space, isIdentifier segment = true)
    (hname : isIdentifier (r.className a) = true) : ".." ∉ (pathOf config r a).components := by
  have hplain {name : String} (h : isIdentifier name = true) : ".." ≠ name := by
    simpa using (ne_dots_of_isIdentifier h "").symm
  simp only [pathOf, front, List.mem_append, List.mem_singleton, not_or]
  refine ⟨⟨happDir, fun hmem => ?_⟩, fun hmem => ?_, (ne_dots_of_isIdentifier hname _).symm⟩
  · exact hplain (hspace _ (List.mem_of_mem_tail hmem)) rfl
  · exact hplain (isIdentifier_of_mem_directories hmem) rfl

/-! ## Places -/

lemma placeOf_pathOf (tree : FileTree) (h : ".." ∉ (pathOf config r a).components) :
    tree.placeOf (pathOf config r a) =
      tree.start config.appDir ++ (front config r ++ (directories r a ++ [fileName config r a])) :=
  placeOf_eq h

/-- Artifacts in one place have one class. -/
lemma eq_of_placeOf (hnodup : (r.events.map fun e => Text.lower (Naming.pascal e)).Nodup)
    (hstems : ∀ event ∈ r.events, isIdentifier (Naming.pascal event) = true) (ha : a ∈ artifacts r)
    (hb : b ∈ artifacts r) (hdotsa : ".." ∉ (pathOf config r a).components)
    (hdotsb : ".." ∉ (pathOf config r b).components)
    (h : tree.placeOf (pathOf config r a) = tree.placeOf (pathOf config r b)) : a = b := by
  rw [placeOf_pathOf tree hdotsa, placeOf_pathOf tree hdotsb, List.append_cancel_left_eq,
    List.append_cancel_left_eq] at h
  obtain ⟨hdirectories, hfile⟩ := List.append_inj' h rfl
  have hclass : r.className a = r.className b := (String.append_left_inj _).1 (List.cons.inj hfile).1
  refine foldCase_place_injective hnodup hstems ha hb ?_
  rw [directoryText, directoryText, hdirectories, hclass]

/-- A file stands on the way to another only if it is named like the directory of the other. -/
lemma directories_of_mem_way (hdotsa : ".." ∉ (pathOf config r a).components)
    (hdotsb : ".." ∉ (pathOf config r b).components)
    (h : tree.placeOf (pathOf config r b) ∈ tree.way (pathOf config r a)) :
    directories r b = [] ∧ directories r a = [fileName config r b] := by
  have hparent : (pathOf config r a).parent.components = front config r ++ directories r a := by
    simp [pathOf, Path.parent, ← List.append_assoc]
  rw [way, hparent, placeOf_pathOf tree hdotsb] at h
  have hdots : ".." ∉ front config r ++ directories r a := by
    intro hmem
    refine hdotsa ?_
    rw [← hparent] at hmem
    exact List.dropLast_subset _ hmem
  obtain ⟨before, after, -, hnames, hplace⟩ := mem_along hdots h
  have hbefore : front config r ++ (directories r b ++ [fileName config r b]) = before :=
    List.append_cancel_left hplace
  rw [← hbefore, List.append_assoc, List.append_cancel_left_eq] at hnames
  have hone : (directories r a).length ≤ 1 := by
    rcases directories_cases r a with h | h | h <;> simp [h]
  have hlength := congrArg List.length hnames
  simp only [List.length_append, List.length_singleton] at hlength
  have hb : directories r b = [] := List.eq_nil_of_length_eq_zero (by omega)
  have hafter : after = [] := List.eq_nil_of_length_eq_zero (by omega)
  rw [hb, hafter] at hnames
  exact ⟨hb, hnames⟩

/-- After an artifact with a directory come artifacts with directories, and then the data factory. -/
lemma pairwise_directories (r : Record) : (artifacts r).Pairwise fun a b =>
    a.directories = [] ∨ b.directories ≠ [] ∨ b = .dataFactory := by
  have hevents : (r.events.map Artifact.event).Pairwise fun a b =>
      a.directories = [] ∨ b.directories ≠ [] ∨ b = .dataFactory :=
    List.pairwise_map.2 (List.pairwise_of_forall fun _ _ => .inr (.inl (List.cons_ne_nil _ _)))
  unfold artifacts
  rw [List.pairwise_append, List.pairwise_append]
  refine ⟨⟨?_, hevents, ?_⟩, ?_, ?_⟩
  · simp [Artifact.directories]
  · intro a _ b hb
    obtain ⟨event, -, rfl⟩ := List.mem_map.1 hb
    exact .inr (.inl (List.cons_ne_nil _ _))
  · split <;> simp
  · intro a _ b hb
    split at hb
    · exact .inr (.inr (List.mem_singleton.1 hb))
    · cases hb

/-- The file of the data factory is named like no directory. -/
lemma fileName_dataFactory_ne (config : Config) (r : Record) (h : directories r a = [fileName config r b]) :
    b ≠ .dataFactory := by
  rintro rfl
  have hlong : 11 ≤ (fileName config r .dataFactory).length := by
    have hending : Artifact.dataFactory.ending.length = 11 := rfl
    rw [fileName, Record.className, String.length_append, String.length_append, hending]
    omega
  have hshort : (fileName config r .dataFactory).length ≤ 9 := by
    rcases directories_cases r a with hnone | hone | hone
    · rw [hnone] at h
      cases h
    · rw [hone] at h
      rw [← (List.cons.inj h).1]
      decide
    · rw [hone] at h
      rw [← (List.cons.inj h).1]
      decide
  omega

/-- No file of a record stands on the way to an earlier one, or to itself. -/
theorem clear_pathOf (tree : FileTree) (hdots : ∀ a ∈ artifacts r, ".." ∉ (pathOf config r a).components) :
    (artifacts r).Pairwise (fun a b => tree.placeOf (pathOf config r b) ∉ tree.way (pathOf config r a)) ∧
      ∀ a ∈ artifacts r, tree.placeOf (pathOf config r a) ∉ tree.way (pathOf config r a) := by
  constructor
  · refine (pairwise_directories r).imp_of_mem ?_
    intro a b ha hb horder hway
    obtain ⟨hnone, hone⟩ := directories_of_mem_way (hdots a ha) (hdots b hb) hway
    have hspace : properSegments r.space ≠ [] := by
      intro hspace
      rw [directories, if_pos hspace] at hone
      cases hone
    have howna : a.directories ≠ [] := by
      intro hown
      rw [directories, if_neg hspace, hown] at hone
      cases hone
    rw [directories, if_neg hspace] at hnone
    rcases horder with hown | hother | hlast
    · exact howna hown
    · exact hother hnone
    · exact fileName_dataFactory_ne config r hone hlast
  · intro a ha hway
    obtain ⟨hnone, hone⟩ := directories_of_mem_way (hdots a ha) (hdots a ha) hway
    rw [hnone] at hone
    cases hone

lemma apart_files (happDir : ".." ∉ config.appDir.components)
    (hspace : ∀ segment ∈ properSegments r.space, isIdentifier segment = true)
    (hentity : isIdentifier r.entityName = true) (h : r.validate = .ok ()) (tree : FileTree) :
    Apart tree ((artifacts r).map (fileOf config r)) := by
  obtain ⟨hstems, hnodup⟩ := Record.stems_of_validate h
  have hdots : ∀ a ∈ artifacts r, ".." ∉ (pathOf config r a).components := fun a ha =>
    dots_not_mem_pathOf happDir hspace (isIdentifier_className hentity hstems ha)
  obtain ⟨hclear, hown⟩ := clear_pathOf tree hdots
  refine ⟨?_, List.pairwise_map.2 hclear, List.forall_mem_map.2 hown⟩
  rw [List.map_map]
  refine (nodup_artifacts (Record.isConsistent_of_validate h)).map_on ?_
  intro a ha b hb hplace
  exact eq_of_placeOf hnodup hstems ha hb (hdots a ha) (hdots b hb) hplace

/-! ## Runs -/

/-- After a run that succeeded, the file of an artifact is the normal form of its unit. -/
lemma read_of_generate (hextension : '/' ∉ config.fileExtension.toList) (happDir : ".." ∉ config.appDir.components)
    (hspace : ∀ segment ∈ properSegments r.space, isIdentifier segment = true)
    (hentity : isIdentifier r.entityName = true) (hvalid : r.validate = .ok ()) {tree' : FileTree} {paths : List Path}
    (hrun : generate config r tree = (tree', .ok paths)) (ha : a ∈ artifacts r) :
    tree'.read (pathOf config r a) = .ok (Lines.normalize (unitAt config r a).print) := by
  have hshown : ShowsNumbers r := by
    by_contra hnot
    rw [generate, render_eq_error hvalid hnot] at hrun
    cases hrun
  rw [generate, render_eq hextension hspace hentity hvalid hshown] at hrun
  have hplaces := (apart_files happDir hspace hentity hvalid tree).places
  exact (hasWritten_of_writeAll hplaces hrun).written _ (List.mem_map_of_mem ha)

/-- A post with one event. -/
def post : Record where
  space := "App\\Model"
  entityName := "Post"
  properties :=
    [{ name := "title", expression := "string", kind := .scalar "string" none, storage := some "string"
       nullable := false, modifiers := {} }]
  events := ["created"]

/-- Files among which one stands where the exceptions of a namespace need a directory, and room for ten characters in
the file of the post's data. -/
def crowded (stops : List (List String × Nat)) : FileTree where
  home := ["srv"]
  nodes :=
    [(["srv"], .directory), (["srv", "app"], .directory), (["srv", "app", "Model"], .directory),
      (["srv", "app", "Model", "Exception"], .file "")]
  stops := stops

end EntityScaffold.Scaffold
