import EntityScaffold.Proofs.Definition
import EntityScaffold.Proofs.Scaffold.Effects
/-!
# Scaffolding a definition again

A run looks for classes in the directory that it writes to, so what it has written may change what a type of the
same definition means to the next run.  `scaffold_again` says how far this goes.  A second run that can read the
definition writes the same paths, whatever its types have come to mean: paths are made of the names of a record,
and only the targets of relations can have changed.  It writes the same texts as well if the record is the same, and
that is so exactly if no class has come into being that was looked for in vain.
-/

namespace EntityScaffold.Scaffold

open Text ClassName FileTree

attribute [local irreducible] qualify

variable {config : Config} {r : Record} {tree tree' : FileTree} {files : List GeneratedFile} {paths : List Path}

/-! ## Paths of a record -/

/-- The path of the file of an artifact, wherever there is one. -/
def pathAt (config : Config) (r : Record) (a : Artifact) : Path :=
  (path? (r.qualifiedName a) config.appDir config.fileExtension).getD ⟨.relative, []⟩

lemma path?_of_prepare {a : Artifact} {file : GeneratedFile} (hvalid : r.validate = .ok ())
    (h : prepare config a.key (unitAt config r a).qualifiedName (unitAt config r a).print = .ok file) :
    path? (r.qualifiedName a) config.appDir config.fileExtension = some file.path := by
  rw [qualifiedName_unitAt (Record.isConsistent_of_validate hvalid)] at h
  unfold prepare at h
  split at h
  · cases h
  · next path hpath =>
    cases h
    exact hpath

/-- A record that is rendered has passed the check and shows its numbers, and its artifacts have paths, which are those
of the files. -/
theorem of_render (h : render config r = .ok files) : r.validate = .ok () ∧ ShowsNumbers r ∧
    (∀ a ∈ artifacts r, path? (r.qualifiedName a) config.appDir config.fileExtension = some (pathAt config r a)) ∧
      files.map (·.path) = (artifacts r).map (pathAt config r) := by
  obtain ⟨us, hunits, hprepare⟩ := bind_eq_ok_iff.1 h
  obtain ⟨hvalid, hshown, rfl⟩ := units_eq_ok_iff.1 hunits
  rw [mapM_eq_ok_iff, List.forall₂_map_left_iff] at hprepare
  refine ⟨hvalid, hshown, ?_⟩
  clear h
  generalize artifacts r = as at hprepare
  induction hprepare with
  | nil => exact ⟨nofun, rfl⟩
  | @cons a file as files hfile hrest ih =>
    obtain ⟨hpaths, hmap⟩ := ih
    have hpath := path?_of_prepare hvalid hfile
    have hat : pathAt config r a = file.path := by
      rw [pathAt, hpath, Option.getD_some]
    refine ⟨List.forall_mem_cons.2 ⟨?_, hpaths⟩, ?_⟩
    · rw [hat]
      exact hpath
    · rw [List.map_cons, List.map_cons, hmap, hat]

/-- A record is rendered to the same paths with other properties of the same names, if their numbers can be shown. -/
lemma render_of_names {ps : List Property} (h : render config r = .ok files)
    (hnames : ps.map (·.name) = r.propertyNames) (hshown : ShowsNumbers { r with properties := ps }) :
    ∃ files', render config { r with properties := ps } = .ok files' ∧ files'.map (·.path) = files.map (·.path) := by
  obtain ⟨hvalid, -, hpaths, hmap⟩ := of_render h
  have hvalid' : ({ r with properties := ps } : Record).validate = .ok () := by
    unfold Record.validate checkProperties at hvalid ⊢
    simp only [hnames]
    exact hvalid
  have hartifacts : artifacts { r with properties := ps } = artifacts r := rfl
  have hpaths' : ∀ a ∈ artifacts { r with properties := ps },
      path? (({ r with properties := ps } : Record).qualifiedName a) config.appDir config.fileExtension =
        some (pathAt config r a) := by
    rw [hartifacts]
    exact hpaths
  refine ⟨_, render_eq_map hvalid' hshown hpaths', ?_⟩
  rw [hmap, List.map_map, hartifacts]
  simp only [Function.comp_def]

/-! ## Runs -/

lemma generate_eq_ok_iff : generate config r tree = (tree', .ok paths) ↔
    ∃ files, render config r = .ok files ∧ writeAll tree files = (tree', .ok paths) := by
  unfold generate
  cases render config r with
  | error failure => simp
  | ok files => simp

/-- After a run that succeeded, a record with other properties of the same names is written to the same paths, and
nothing else changes; with the same properties nothing changes at all. -/
lemma generate_of_names {ps : List Property} (hrun : generate config r tree = (tree', .ok paths))
    (hnames : ps.map (·.name) = r.propertyNames) (hshown : ShowsNumbers { r with properties := ps }) :
    ∃ tree'', generate config { r with properties := ps } tree' = (tree'', .ok paths) ∧
      (∀ place, (∀ path ∈ paths, tree'.locate path ≠ .ok place) → tree''.node? place = tree'.node? place) ∧
        (ps = r.properties → ∀ place, tree''.node? place = tree'.node? place) := by
  obtain ⟨files, hrender, hwrite⟩ := generate_eq_ok_iff.1 hrun
  obtain ⟨rfl, hgrows, hholds, hlast, -⟩ := writeAll_done hwrite
  obtain ⟨files', hrender', hpaths⟩ := render_of_names hrender hnames hshown
  have hholds' : ∀ file ∈ files', tree'.HoldsFile file.path := by
    intro file hfile
    obtain ⟨other, hother, heq⟩ := List.mem_map.1 (hpaths ▸ List.mem_map_of_mem hfile)
    exact heq ▸ hholds other hother
  obtain ⟨tree'', hagain, -, hnodes⟩ := writeAll_again hholds'
  refine ⟨tree'', ?_, fun place hplace => ?_, fun hsame place => ?_⟩
  · rw [generate_eq_ok_iff, ← hpaths]
    exact ⟨files', hrender', hagain⟩
  · have hnone : lastText tree' place files' = none := by
      refine lastText_eq_none_iff.2 fun file hfile heq => ?_
      refine hplace file.path (hpaths ▸ List.mem_map_of_mem hfile) ?_
      rw [← heq]
      exact (hholds' file hfile).located
    rw [hnodes, hnone]
  · -- the same texts go to the same places, where they are already
    obtain rfl : files = files' := by
      rw [hsame, hrender] at hrender'
      exact Except.ok.inj hrender'
    rw [hnodes]
    cases htext : lastText tree' place files with
    | none => rfl
    | some content =>
      rw [lastText_congr hgrows.home] at htext
      exact (hlast place content htext).symm

/-- Properties that differ in the targets of relations show their numbers as well. -/
lemma showsNumbers_of_retargeted {ps : List Property} (h : List.Forall₂ Property.Retargeted r.properties ps)
    (hshown : ShowsNumbers r) : ShowsNumbers { r with properties := ps } := by
  intro p hp hscalar
  obtain ⟨q, hq, hsame⟩ := Property.exists_of_retargeted h hp
  cases hsame with
  | same => exact hshown p hq hscalar
  | relation => cases hscalar

lemma grows_of_generate (hrun : generate config r tree = (tree', .ok paths)) : Grows tree tree' := by
  obtain ⟨files, -, hwrite⟩ := generate_eq_ok_iff.1 hrun
  obtain ⟨-, hgrows, -⟩ := writeAll_done hwrite
  exact hgrows

/-- What becomes of a second run after one that succeeded.  The definition is read again, unless the path to a class is
too long or leads through a directory that may not be searched, to a record that differs in the targets of relations at
most.  This is written to the same paths, and nothing else changes.  The record is the same exactly if all types are
undisturbed, and then nothing changes at all. -/
theorem scaffold_again (config : Config) (value : Document.Value) (tree tree' : FileTree) (r : Record)
    (paths : List Path) (hread : Definition.ofValue config tree value = .ok r)
    (hrun : generate config r tree = (tree', .ok paths)) :
    (∀ failure, Definition.ofValue config tree' value = .error failure →
      failure = .file .tooLong ∨ failure = .file .denied) ∧
      (∀ r', Definition.ofValue config tree' value = .ok r' →
        r' = { r with properties := r'.properties } ∧
          List.Forall₂ Property.Retargeted r.properties r'.properties ∧
            ∃ tree'', generate config r' tree' = (tree'', .ok paths) ∧
              (∀ place, (∀ path ∈ paths, tree'.locate path ≠ .ok place) → tree''.node? place = tree'.node? place) ∧
                (r' = r → ∀ place, tree''.node? place = tree'.node? place)) ∧
      (Definition.ofValue config tree' value = .ok r ↔
        ∀ p ∈ r.properties, (Definition.readerOf config tree value).IsUndisturbed tree' p.expression) := by
  have hgrows := grows_of_generate hrun
  have hcases := Definition.ofValue_lookingAt_cases hgrows hread
  refine ⟨fun failure hfailure => ?_, fun r' hread' => ?_, Definition.ofValue_lookingAt_iff hgrows hread⟩
  · obtain ⟨fault, hhides, hfault⟩ | ⟨ps, hread', -⟩ := hcases
    · rw [hfault] at hfailure
      obtain rfl := Except.error.inj hfailure
      exact hhides.imp (congrArg Failure.file) (congrArg Failure.file)
    · rw [hread'] at hfailure
      cases hfailure
  · obtain ⟨fault, -, hfault⟩ | ⟨ps, hps, hsames⟩ := hcases
    · rw [hfault] at hread'
      cases hread'
    · obtain rfl : { r with properties := ps } = r' := Except.ok.inj (hps.symm.trans hread')
      obtain ⟨files, hrender, -⟩ := generate_eq_ok_iff.1 hrun
      obtain ⟨-, hshown, -⟩ := of_render hrender
      obtain ⟨tree'', hrun', hothers, hsame⟩ :=
        generate_of_names hrun (Property.names_of_retargeted hsames) (showsNumbers_of_retargeted hsames hshown)
      exact ⟨rfl, hsames, tree'', hrun', hothers, fun heq => hsame (congrArg Record.properties heq)⟩

/-! ## A user whose type changes -/

/-- The files that a run leaves. -/
def filesAfter (config : Config) (r : Record) (tree : FileTree) : FileTree := (generate config r tree).1

lemma generate_eq {outcome : Except Failure (List Path)} (h : (generate config r tree).2 = outcome) :
    generate config r tree = (filesAfter config r tree, outcome) := Prod.ext rfl h

/-- An application with entities in two namespaces. -/
def forge : Config := { namespaces := ["App", "Git\\Hub"] }

/-- Its files, with a class of the second namespace. -/
def forgeFiles : FileTree where
  home := []
  nodes := [(["app"], .directory), (["app", "Hub"], .directory), (["app", "Hub", "UserRepository.php"], .file "")]

/-- The definition of a user, of whom it is said which repository is the source. -/
def user : Document.Value :=
  .mapping [(.text "entity", .text "User"), (.text "namespace", .text "App"),
    (.text "properties", .mapping [(.text "source", .text "UserRepository")])]

/-- The record of a user, with the class that the type of the source stands for. -/
def userRecord (target : String) : Record where
  space := "App"
  entityName := "User"
  properties :=
    [{ name := "source", expression := "UserRepository", storage := none, nullable := false, modifiers := {}
       kind := .relation (.build target .manyToOne false none false) }]
  traits := [("Timestampable", "Gedmo\\Timestampable\\Traits\\TimestampableEntity")]

/-- The paths of a user. -/
def userPaths : List Path :=
  [["User.php"], ["UserData.php"], ["UserFactory.php"], ["UserRepository.php"], ["UserFacade.php"],
    ["Exception", "UserNotFoundException.php"], ["UserDataFactory.php"]].map fun names => ⟨.relative, "app" :: names⟩

/-- The files after the first run, and after the second. -/
def onceScaffolded : FileTree := filesAfter forge (userRecord "Git\\Hub\\UserRepository") forgeFiles

def twiceScaffolded : FileTree := filesAfter forge (userRecord "App\\UserRepository") onceScaffolded

/-- The first run reads the definition and succeeds; what the second run reads is the repository that the first
has made, which is found before the other. -/
lemma user_runs : Definition.ofValue forge forgeFiles user = .ok (userRecord "Git\\Hub\\UserRepository") ∧
    (generate forge (userRecord "Git\\Hub\\UserRepository") forgeFiles).2 = .ok userPaths ∧
      Definition.ofValue forge onceScaffolded user = .ok (userRecord "App\\UserRepository") := by
  decide +kernel

lemma user_read : Definition.ofValue forge forgeFiles user = .ok (userRecord "Git\\Hub\\UserRepository") :=
  user_runs.1

lemma user_written : generate forge (userRecord "Git\\Hub\\UserRepository") forgeFiles =
    (onceScaffolded, .ok userPaths) :=
  generate_eq user_runs.2.1

lemma user_read_again : Definition.ofValue forge onceScaffolded user = .ok (userRecord "App\\UserRepository") :=
  user_runs.2.2

lemma user_written_again : generate forge (userRecord "App\\UserRepository") onceScaffolded =
    (twiceScaffolded, .ok userPaths) := by
  have hrecord : { userRecord "Git\\Hub\\UserRepository" with
      properties := (userRecord "App\\UserRepository").properties } = userRecord "App\\UserRepository" := rfl
  have hnames : (userRecord "App\\UserRepository").properties.map (·.name) =
      (userRecord "Git\\Hub\\UserRepository").propertyNames := by
    simp only [userRecord, Record.propertyNames, List.map_cons, List.map_nil]
  have hshown : ShowsNumbers { userRecord "Git\\Hub\\UserRepository" with
      properties := (userRecord "App\\UserRepository").properties } := by decide
  obtain ⟨tree'', hrun, -⟩ := generate_of_names user_written hnames hshown
  rw [hrecord] at hrun
  exact generate_eq (by rw [hrun])

/-- Only the first text of the data object has an import. -/
lemma userData_text_ne :
    Lines.normalize (Artifact.Data.unit (userRecord "App\\UserRepository")).print ≠
      Lines.normalize (Artifact.Data.unit (userRecord "Git\\Hub\\UserRepository")).print := by
  have hentries : (Artifact.Data.unit (userRecord "Git\\Hub\\UserRepository")).importLines =
      ["Git\\Hub\\UserRepository"] := by
    unfold SourceUnit.importLines
    have hone : distinct (((Artifact.Data.unit (userRecord "Git\\Hub\\UserRepository")).uses.filter
        (Artifact.Data.unit (userRecord "Git\\Hub\\UserRepository")).isPrintedImport).map Source.Import.printed) =
          ["Git\\Hub\\UserRepository"] := by
      decide
    rw [hone, List.mergeSort_singleton]
  have hnone : (Artifact.Data.unit (userRecord "App\\UserRepository")).importLines = [] := by
    unfold SourceUnit.importLines
    have hnone : distinct (((Artifact.Data.unit (userRecord "App\\UserRepository")).uses.filter
        (Artifact.Data.unit (userRecord "App\\UserRepository")).isPrintedImport).map Source.Import.printed) = [] := by
      decide
    rw [hnone, List.mergeSort_nil]
  unfold SourceUnit.print SourceUnit.lines
  rw [hentries, hnone]
  decide +kernel

/-- Where the data object of a user is, whatever the source is. -/
lemma read_userData {target : String} (hvalid : (userRecord target).validate = .ok ())
    (hrun : generate forge (userRecord target) tree = (tree', .ok userPaths)) :
    tree'.read ⟨.relative, ["app", "UserData.php"]⟩ =
      .ok (Lines.normalize (Artifact.Data.unit (userRecord target)).print) := by
  have hspace : ∀ segment ∈ properSegments (userRecord target).space, isIdentifier segment = true := by
    show ∀ segment ∈ properSegments "App", isIdentifier segment = true
    decide
  have hentity : isIdentifier (userRecord target).entityName = true := by
    show isIdentifier "User" = true
    decide
  have hpath : pathOf forge (userRecord target) .data = pathOf forge (userRecord "") .data := by
    simp only [pathOf, front, directories, fileName, Record.className, userRecord]
    rfl
  have hplain : pathOf forge (userRecord "") .data = ⟨.relative, ["app", "UserData.php"]⟩ := by decide
  have hunit : unitAt forge (userRecord target) .data = Artifact.Data.unit (userRecord target) := unitAt_eq rfl
  rw [← hplain, ← hpath, ← hunit]
  exact read_of_generate (by decide) (by decide) hspace hentity hvalid hrun (by simp [artifacts])

/-- Both runs succeed, but the second leaves another text. -/
theorem user_is_not_scaffolded_again :
    Definition.ofValue forge forgeFiles user = .ok (userRecord "Git\\Hub\\UserRepository") ∧
      generate forge (userRecord "Git\\Hub\\UserRepository") forgeFiles = (onceScaffolded, .ok userPaths) ∧
        Definition.ofValue forge onceScaffolded user = .ok (userRecord "App\\UserRepository") ∧
          generate forge (userRecord "App\\UserRepository") onceScaffolded = (twiceScaffolded, .ok userPaths) ∧
            ∃ path ∈ userPaths, twiceScaffolded.read path ≠ onceScaffolded.read path := by
  have honce := read_userData (by decide +kernel) user_written
  have htwice := read_userData (by decide +kernel) user_written_again
  refine ⟨user_read, user_written, user_read_again, user_written_again,
    ⟨.relative, ["app", "UserData.php"]⟩, by decide +kernel, ?_⟩
  intro heq
  rw [htwice, honce] at heq
  exact userData_text_ne (Except.ok.inj heq)

/-- The type is undisturbed after the first run. -/
lemma user_isUndisturbed : ∀ p ∈ (userRecord "App\\UserRepository").properties,
    (Definition.readerOf forge onceScaffolded user).IsUndisturbed twiceScaffolded p.expression := by
  have hmissed : (Definition.readerOf forge onceScaffolded user).resolver.missed "UserRepository" = [] := by
    decide +kernel
  intro p hp t hsplit _ c hc
  obtain rfl := List.mem_singleton.1 hp
  have hbase : t.base = "UserRepository" := by
    have h : (TypeExpression.split (Definition.readerOf forge onceScaffolded user).recognizedFlags
        "UserRepository").map (·.base) = .ok "UserRepository" := by
      decide +kernel
    rw [hsplit] at h
    exact Except.ok.inj h
  rw [hbase, hmissed] at hc
  cases hc

theorem user_settles_after_two_runs :
    Definition.ofValue forge onceScaffolded user = .ok (userRecord "App\\UserRepository") ∧
      generate forge (userRecord "App\\UserRepository") onceScaffolded = (twiceScaffolded, .ok userPaths) ∧
        Definition.ofValue forge twiceScaffolded user = .ok (userRecord "App\\UserRepository") ∧
          ∃ tree, generate forge (userRecord "App\\UserRepository") twiceScaffolded = (tree, .ok userPaths) ∧
            ∀ place, tree.node? place = twiceScaffolded.node? place := by
  obtain ⟨-, hruns, hsame⟩ := scaffold_again forge user onceScaffolded twiceScaffolded
    (userRecord "App\\UserRepository") userPaths user_read_again user_written_again
  have hread := hsame.2 user_isUndisturbed
  obtain ⟨-, -, tree, hrun, -, hnodes⟩ := hruns _ hread
  exact ⟨user_read_again, user_written_again, hread, tree, hrun, hnodes rfl⟩

end EntityScaffold.Scaffold
