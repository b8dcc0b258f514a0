import EntityScaffold.Proofs.Scaffold.Repetition
import EntityScaffold.Proofs.TypeExpression.Names
/-!
# Scaffolded classes are found again

What a run has written is there for the next one: the file of a class is looked for where it was put, whatever the
application directory and the extension (`isThere_of_generate`).  So an entity in a configured namespace, or in one of
its own below that, is a class that its short name is tried for, and the short name is the type of a relation from
then on (`scaffolded_classes_are_found`).  It is the scaffolded class that is found if no class that is tried before
is there.

That nothing else can come of it hangs on the search getting as far as that.  A namespace of the configuration with a
segment that no directory can be called ends the search before (`user_is_out_of_reach`), and so does one whose
directory may not be searched.
-/

namespace EntityScaffold.Scaffold

open ClassName FileTree TypeExpression

variable {config : Config} {r : Record} {tree tree' : FileTree} {paths : List Path} {space : String}

/-! ## Files and classes -/

/-- A class that is not known is there if its file is. -/
lemma isThere_eq_isFile {resolver : Resolver} {name : String} {appDir path : Path}
    (hknown : ¬ resolver.knownClasses.contains (bare name) = true) (happDir : resolver.appDir = some appDir)
    (hpath : path? name appDir resolver.fileExtension = some path) :
    resolver.isThere name = ofFiles (resolver.files.isFile path) := by
  rw [Resolver.isThere, if_neg hknown]
  simp only [happDir, path?_bare, hpath]

/-- A class whose file is there is there, known or not. -/
lemma isThere_of_isFile {resolver : Resolver} {name : String} {appDir path : Path}
    (happDir : resolver.appDir = some appDir) (hpath : path? name appDir resolver.fileExtension = some path)
    (hfile : resolver.files.isFile path = .ok true) : resolver.isThere name = .ok true := by
  by_cases hknown : resolver.knownClasses.contains (bare name) = true
  · exact if_pos hknown
  · rw [isThere_eq_isFile hknown happDir hpath, hfile]
    rfl

/-- Every class of a record is there after a run that succeeded. -/
theorem isThere_of_generate (hrun : generate config r tree = (tree', .ok paths)) (extra : List String) {a : Artifact}
    (ha : a ∈ artifacts r) : (Resolver.ofConfig config extra tree').isThere (r.qualifiedName a) = .ok true := by
  obtain ⟨files, hrender, hwrite⟩ := generate_eq_ok_iff.1 hrun
  obtain ⟨-, -, hpaths, hfiles⟩ := of_render hrender
  obtain ⟨-, -, hholds, -⟩ := writeAll_done hwrite
  obtain ⟨file, hfile, hpath⟩ : ∃ file ∈ files, file.path = pathAt config r a := by
    rw [← List.mem_map, hfiles]
    exact List.mem_map_of_mem ha
  obtain ⟨content, hnode⟩ := (hholds file hfile).file
  refine isThere_of_isFile rfl (hpaths a ha) ?_
  rw [← hpath]
  exact isFile_eq_true_iff.2 ⟨_, content, (hholds file hfile).located, hnode⟩

/-! ## Where an entity is looked for -/

/-- The namespace of a record is one of the configuration, or the one of its entity in such a namespace. -/
def LiesIn (r : Record) (space : String) : Prop :=
  bare r.space = bare space ∨ bare r.space = bare space ++ "\\" ++ r.entityName

lemma qualifiedName_entity (hspace : IsName (bare r.space)) :
    r.qualifiedName .entity = bare r.space ++ "\\" ++ r.entityName := by
  have hname : r.className .entity = r.entityName := String.append_empty
  have hne : bare r.space ≠ "" := ne_empty_of_isProper hspace.isProper
  rw [Record.qualifiedName, hname]
  exact qualify_of_bare_ne_empty hne _

/-- A namespace in which a record can lie is searched. -/
lemma mem_namespaces (hname : IsName (bare r.space)) (hspace : space ∈ config.namespaces) (hlies : LiesIn r space)
    (extra : List String) (tree : FileTree) : bare space ∈ (Resolver.ofConfig config extra tree).namespaces := by
  refine List.mem_filter.2 ⟨List.mem_map_of_mem hspace, ?_⟩
  have hne : bare space ≠ "" := by
    intro hempty
    rcases hlies with heq | heq
    · exact ne_empty_of_isProper hname.isProper (heq.trans hempty)
    · -- a name does not begin with a backslash
      obtain ⟨c, cs, hchars, hc⟩ := hname.isProper.exists_cons
      rw [heq, hempty, String.toList_append, String.toList_append] at hchars
      exact hc (List.cons.inj hchars).1.symm
  simpa using hne

/-- The class of an entity is one that its short name is tried for. -/
lemma entity_tried (hname : IsName (bare r.space)) (hspace : space ∈ config.namespaces) (hlies : LiesIn r space)
    (extra : List String) (tree : FileTree) :
    r.qualifiedName .entity ∈ (Resolver.ofConfig config extra tree).tried r.entityName := by
  refine List.mem_append_left _ (List.mem_flatMap.2 ⟨bare space, mem_namespaces hname hspace hlies extra tree, ?_⟩)
  rw [qualifiedName_entity hname, List.mem_pair]
  rcases hlies with heq | heq
  · exact .inl (by rw [heq])
  · exact .inr (by rw [heq])

/-- After a run that succeeded, every class of the record is there.  The short name of an entity in a namespace of the
configuration is the type of a relation, unless the search gets stuck at a path that is too long or leads through a
directory that may not be searched, and stands for the entity exactly if no class that is tried before is there. -/
theorem scaffolded_classes_are_found (config : Config) (r : Record) (tree tree' : FileTree) (paths : List Path)
    (extra : List String) (hrun : generate config r tree = (tree', .ok paths)) :
    let reader := TypeReader.ofConfig config extra tree'
    (∃ us, units config r = .ok us ∧ ∀ u ∈ us, reader.resolver.isThere u.2.qualifiedName = .ok true) ∧
      (isIdentifier r.entityName = true → primitive? r.entityName = none →
        (∀ segment ∈ segments r.space, isIdentifier segment = true) →
          ∀ space ∈ config.namespaces, LiesIn r space → ∀ nullable,
            ((∃ fault, (fault = .tooLong ∨ fault = .denied) ∧
                  reader.read (named nullable r.entityName) = .error (.file fault) ∧
                    reader.resolver.GetsStuck r.entityName fault) ∨
              ∃ target, reader.read (named nullable r.entityName) = .ok ⟨.entity r.entityName target, nullable, {}⟩ ∧
                reader.resolver.isThere target = .ok true) ∧
              (reader.read (named nullable r.entityName) =
                  .ok ⟨.entity r.entityName (r.qualifiedName .entity), nullable, {}⟩ ↔
                ∀ c ∈ reader.resolver.earlier r.entityName (r.qualifiedName .entity),
                  reader.resolver.isThere c = .ok false)) := by
  intro reader
  constructor
  · obtain ⟨files, hrender, -⟩ := generate_eq_ok_iff.1 hrun
    obtain ⟨hvalid, hshown, -⟩ := of_render hrender
    refine ⟨_, units_eq hvalid hshown config, ?_⟩
    rw [List.forall_mem_map]
    intro a ha
    rw [qualifiedName_unitAt (Record.isConsistent_of_validate hvalid)]
    exact isThere_of_generate hrun extra ha
  · intro hentity hprimitive hname space hspace hlies nullable
    have hbare : reader.resolver.IsBare := Resolver.isBare_make _ _ _ _ _
    have htried : r.qualifiedName .entity ∈ reader.resolver.tried r.entityName :=
      entity_tried hname hspace hlies extra tree'
    have hthere : reader.resolver.isThere (r.qualifiedName .entity) = .ok true :=
      isThere_of_generate hrun extra (by simp [artifacts])
    refine ⟨?_, TypeReader.read_short_iff hbare hentity hprimitive htried hthere nullable⟩
    rcases TypeReader.read_short_cases hbare hentity hprimitive htried hthere nullable with
      ⟨fault, hread, hstuck⟩ | ⟨target, hread, -, hfound⟩
    · exact .inl ⟨fault, hstuck.hides, hread, hstuck⟩
    · exact .inr ⟨target, hread, hfound⟩

/-! ## A user that is found, and one that is not -/

/-- After the first run, a user of the forge may have a user as a property. -/
theorem user_is_found :
    generate forge (userRecord "Git\\Hub\\UserRepository") forgeFiles = (onceScaffolded, .ok userPaths) ∧
      (TypeReader.ofConfig forge [] onceScaffolded).read "?User" = .ok ⟨.entity "User" "App\\User", true, {}⟩ := by
  obtain ⟨-, hfound⟩ := scaffolded_classes_are_found forge (userRecord "Git\\Hub\\UserRepository") forgeFiles
    onceScaffolded userPaths [] user_written
  have hspace : "App" ∈ forge.namespaces := List.mem_cons_self
  obtain ⟨-, hfirst⟩ := hfound (by decide) (by decide) (by decide) "App" hspace (.inl rfl) true
  have hnone : (TypeReader.ofConfig forge [] onceScaffolded).resolver.earlier "User" "App\\User" = [] := rfl
  refine ⟨user_written, hfirst.2 ?_⟩
  show ∀ c ∈ (TypeReader.ofConfig forge [] onceScaffolded).resolver.earlier "User" "App\\User", _
  rw [hnone]
  exact List.forall_mem_nil _

lemma unit_namespaces (config : Config) (spaces : List String) (r : Record) (a : Artifact) :
    unit { config with namespaces := spaces } r a = unit config r a := by
  cases a with
  | repository =>
    unfold unit
    rfl
  | _ => rfl

/-- What is scaffolded does not hang on the namespaces that are searched. -/
lemma generate_namespaces (config : Config) (spaces : List String) (r : Record) (tree : FileTree) :
    generate { config with namespaces := spaces } r tree = generate config r tree := by
  have hunits : units { config with namespaces := spaces } r = units config r := by
    unfold units
    simp only [unit_namespaces]
  have hprepare (artifact className content : String) :
      prepare { config with namespaces := spaces } artifact className content =
        prepare config artifact className content := by
    simp only [prepare]
  have hrender : render { config with namespaces := spaces } r = render config r := by
    unfold render
    simp only [hunits, hprepare]
  rw [generate, generate, hrender]

lemma null_notMem_of_isIdentifier {s : String} (h : isIdentifier s = true) : '\x00' ∉ s.toList := fun hnull =>
  ne_of_isIdentifierChar (isIdentifierChar_of_isIdentifier h _ hnull) (by decide) rfl

/-- Where a name on a path is too long, there is no telling whether the path leads to a file. -/
lemma isFile_of_isLongName {first name : String} {rest : List String} (hhome : tree.node? tree.home = some .directory)
    (hfirst : Path.isLongName first = false) (hdirectory : tree.node? (step tree.home first) = some .directory)
    (hopen : tree.closed = []) (hname : Path.isLongName name = true)
    (hnull : Path.hasNull ⟨.relative, first :: name :: rest⟩ = false) :
    tree.isFile ⟨.relative, first :: name :: rest⟩ = .error .tooLong := by
  have hlocate : tree.locate ⟨.relative, first :: name :: rest⟩ = .error .tooLong := by
    simp [locate, followed, locateFrom, start, isClosed, hhome, hfirst, hdirectory, hopen, hname, hnull]
  simp [isFile, find?, find, hlocate, FileFault.isAbsence]

/-- The forge, with a namespace that is searched before that of its users. -/
def forgeWith (far : String) : Config := { forge with namespaces := [qualify "App" far, "App"] }

/-- A user of the other namespace. -/
def farUser (far : String) : Record := { space := qualify "App" far, entityName := "User" }

section

variable {far : String} (hfar : isIdentifier far = true)

include hfar

lemma properSegments_farUser : properSegments (farUser far).space = ["App", far] := by
  show properSegments (qualify "App" far) = _
  rw [properSegments_qualify, properSegments_of_isIdentifier hfar]
  rfl

lemma path?_farUser :
    path? ((farUser far).qualifiedName .entity) (forgeWith far).appDir (forgeWith far).fileExtension =
      some ⟨.relative, ["app", far, "User.php"]⟩ := by
  have hspace : ∀ segment ∈ properSegments (farUser far).space, isIdentifier segment = true := by
    rw [properSegments_farUser hfar]
    exact List.forall_mem_cons.2 ⟨by decide, List.forall_mem_singleton.2 hfar⟩
  have hname : isIdentifier ((farUser far).className .entity) = true := by
    show isIdentifier ("User" ++ "") = true
    decide
  have hextension : '/' ∉ (forgeWith far).fileExtension.toList := by
    show '/' ∉ ".php".toList
    decide
  have hdirectories : directories (farUser far) .entity = [] := by
    rw [directories, properSegments_farUser hfar]
    rfl
  rw [path?_qualifiedName hextension hspace hname, pathOf, front, properSegments_farUser hfar, hdirectories]
  rfl

/-- The class of the other user cannot be looked for where there is a directory of the application. -/
lemma isThere_farUser (hlong : Path.isLongName far = true) (hhome : tree.home = []) (hopen : tree.closed = [])
    (happ : tree.node? ["app"] = some .directory) :
    (Resolver.ofConfig (forgeWith far) [] tree).isThere ((farUser far).qualifiedName .entity) =
      .error (.file .tooLong) := by
  have hfile : tree.isFile ⟨.relative, ["app", far, "User.php"]⟩ = .error .tooLong := by
    have hnull : '\x00' ∉ far.toList := null_notMem_of_isIdentifier hfar
    refine isFile_of_isLongName ?_ (by decide) ?_ hopen hlong ?_
    · rw [hhome]
      rfl
    · rw [hhome]
      exact happ
    · simpa [Path.hasNull] using hnull
  have hknown : ¬ (Resolver.ofConfig (forgeWith far) [] tree).knownClasses.contains
      (bare ((farUser far).qualifiedName .entity)) = true := Bool.false_ne_true
  have hlook : (Resolver.ofConfig (forgeWith far) [] tree).isThere ((farUser far).qualifiedName .entity) =
      ofFiles (tree.isFile ⟨.relative, ["app", far, "User.php"]⟩) := isThere_eq_isFile hknown rfl (path?_farUser hfar)
  rw [hlook, hfile]
  rfl

/-- So the search for a user gets stuck there. -/
lemma getsStuck_forgeWith (hlong : Path.isLongName far = true) (hhome : tree.home = []) (hopen : tree.closed = [])
    (happ : tree.node? ["app"] = some .directory) :
    (Resolver.ofConfig (forgeWith far) [] tree).GetsStuck "User" .tooLong := by
  have hname : IsName (qualify "App" far) := by
    rw [qualify_of_bare_ne_empty (by decide)]
    exact isName_append_iff.2 ⟨by decide, isName_of_isIdentifier hfar⟩
  have hbare : bare (qualify "App" far) = qualify "App" far := bare_of_isProper hname.isProper
  have hnamespaces : (Resolver.ofConfig (forgeWith far) [] tree).namespaces = [qualify "App" far, "App"] := by
    have hne : qualify "App" far ≠ "" := ne_empty_of_isProper hname.isProper
    have happ : bare "App" = "App" := by decide
    simp [Resolver.ofConfig, Resolver.make, forgeWith, hbare, hne, happ]
  have hsearched : ∃ after, (Resolver.ofConfig (forgeWith far) [] tree).searched "User" =
      (farUser far).qualifiedName .entity :: after := by
    obtain ⟨hcandidates, -⟩ :=
      (Resolver.ofConfig (forgeWith far) [] tree).searched_of_isSegment (show IsSegment "User" by decide)
    rw [hcandidates, Resolver.candidates, hnamespaces, qualifiedName_entity (by rwa [farUser, hbare]), farUser, hbare]
    exact ⟨_, rfl⟩
  obtain ⟨after, hsearched⟩ := hsearched
  exact ⟨[], _, after, hsearched, List.forall_mem_nil _, isThere_farUser hfar hlong hhome hopen happ⟩

end

/-- A segment of so many letters. -/
def segmentOf (n : Nat) : String := String.ofList (List.replicate n 'x')

lemma isIdentifier_segmentOf {n : Nat} (h : n ≠ 0) : isIdentifier (segmentOf n) = true := by
  obtain ⟨n, rfl⟩ := Nat.exists_eq_succ_of_ne_zero h
  have hx : isIdentifierStart 'x' = true ∧ isIdentifierChar 'x' = true := by decide
  rw [isIdentifier, segmentOf, String.toList_ofList, List.replicate_succ, isIdentifierChars, List.all_replicate]
  simp [hx]

lemma isLongName_segmentOf {n : Nat} (h : Path.longestName < n) : Path.isLongName (segmentOf n) = true := by
  have hsize (n : Nat) : (segmentOf n).utf8ByteSize = n := by
    induction n with
    | zero => rfl
    | succ n ih =>
      rw [segmentOf] at ih ⊢
      rw [List.replicate_succ, ← List.singleton_append, String.ofList_append, String.utf8ByteSize_append, ih]
      exact Nat.add_comm 1 n
  rw [Path.isLongName, hsize]
  exact decide_eq_true h

/-- The user has been scaffolded, but its name cannot be read any more, because the search does not get as far. -/
theorem user_is_out_of_reach :
    let config := forgeWith (segmentOf 256)
    generate config (userRecord "Git\\Hub\\UserRepository") forgeFiles = (onceScaffolded, .ok userPaths) ∧
      "App" ∈ config.namespaces ∧ LiesIn (userRecord "Git\\Hub\\UserRepository") "App" ∧
      (TypeReader.ofConfig config [] onceScaffolded).read "User" = .error (.file .tooLong) := by
  intro config
  have hgrows := grows_of_generate user_written
  have hstuck : (TypeReader.ofConfig config [] onceScaffolded).resolver.GetsStuck "User" .tooLong :=
    getsStuck_forgeWith (isIdentifier_segmentOf (by decide)) (isLongName_segmentOf (by decide)) hgrows.home
      hgrows.closed (hgrows.directory ["app"] rfl)
  have hread := TypeReader.read_named_of_getsStuck (by decide) (by decide) hstuck false
  exact ⟨(generate_namespaces forge _ _ _).trans user_written, List.mem_cons_of_mem _ List.mem_cons_self,
    .inl rfl, hread⟩

end EntityScaffold.Scaffold
