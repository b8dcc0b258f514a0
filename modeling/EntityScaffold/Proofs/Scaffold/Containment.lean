import EntityScaffold.Proofs.Definition
import EntityScaffold.Proofs.Path
import EntityScaffold.Proofs.Record.Assembly
import EntityScaffold.Proofs.Scaffold.Repetition
/-!
# Files below the directory of the application

The classes of a record are written to files that are meant to lie below the directory of the application.  Namespace
and entity are free texts, though, and class names are cut at backslashes only.  What is between two backslashes is a
part of a path, and it may begin with a slash or go up.  `Record.LeadsInward` says of a record that none of this is in
its texts, and by `files_stay_below_iff` the files of a definition stay below the directory exactly if it holds.

All classes but the one of the entity have endings that can be seen, so that their last part stays inside whatever the
file extension is, if the name of the entity does.  The file of the entity ends in the extension alone, and if nothing
is behind the last backslash of its name it is called like a segment of the namespace; it has a condition of its own.
-/

namespace EntityScaffold

open Text ClassName

/-! ## Parts -/

namespace ClassName

variable {name short : String} {above : List String}

/-- The parts of which the path of a class is joined: directories and the name of the file. -/
def partsOf (extension name : String) : List String :=
  match placeBelow? name with
  | none => []
  | some (directories, short) => directories ++ [short ++ extension]

lemma partsOf_eq (extension : String) (h : properSegments name = above ++ [short]) :
    partsOf extension name = above.tail ++ [short ++ extension] := by
  rw [partsOf, placeBelow?_eq h]

lemma path?_eq_foldl {appDir path : Path} {extension : String} (h : path? name appDir extension = some path) :
    path = (partsOf extension name).foldl (fun p part => p.append (.ofString part)) appDir := by
  obtain ⟨⟨directories, short⟩, hplace, rfl⟩ := Option.map_eq_some_iff.1 h
  rw [partsOf, hplace]

/-- The pieces of a name before its last backslash. -/
def outerPieces (name : String) : List String := (pieces '\\' name).dropLast

/-- What is behind the last backslash of a name. -/
def tip (name : String) : String := (pieces '\\' name).getLastD ""

lemma pieces_append_eq {ending : String} (h : '\\' ∉ ending.toList) :
    pieces '\\' (name ++ ending) = outerPieces name ++ [tip name ++ ending] := pieces_append_of_notMem h

lemma properSegments_eq_pieces (name : String) : properSegments name = (pieces '\\' name).filter (· != "") := by
  rw [properSegments_eq, properPieces, pieces, piecesBy, List.filter_map]
  congr 1
  refine List.filter_congr fun piece _ => ?_
  cases piece <;> simp

/-- An ending gets to the last segment, which there is then in any case. -/
lemma properSegments_append {ending : String} (h : '\\' ∉ ending.toList) (hne : ending ≠ "") :
    properSegments (name ++ ending) = (outerPieces name).filter (· != "") ++ [tip name ++ ending] := by
  have hnonempty : tip name ++ ending ≠ "" := by
    intro hempty
    exact hne (String.append_eq_empty_iff.1 hempty).2
  have hlast : [tip name ++ ending].filter (· != "") = [tip name ++ ending] := by simp [hnonempty]
  rw [properSegments_eq_pieces, pieces_append_eq h, List.filter_append, hlast]

/-- Without an ending there is a last segment only if something is behind the last backslash. -/
lemma properSegments_eq_outer (name : String) : properSegments name =
    (outerPieces name).filter (· != "") ++ if tip name = "" then [] else [tip name] := by
  have hpieces : pieces '\\' (name ++ "") = outerPieces name ++ [tip name ++ ""] := pieces_append_eq (by decide)
  rw [String.append_empty, String.append_empty] at hpieces
  rw [properSegments_eq_pieces, hpieces, List.filter_append]
  split
  · next htip => simp [htip]
  · next htip => simp [htip]

end ClassName

/-- A file is below the directory of the application: no part of its class name replaces what is before it, and the
parts add one or more names, none of which leads up. -/
structure Scaffold.GeneratedFile.StaysBelow (config : Config) (file : Scaffold.GeneratedFile) : Prop where
  parts : ∀ part ∈ partsOf config.fileExtension file.className, (Path.ofString part).root = .relative
  path : Path.IsBelow config.appDir file.path

/-- The texts of a record lead down only. -/
structure Record.LeadsInward (extension : String) (r : Record) : Prop where
  /-- The namespace, of which the first segment stands for the directory of the application. -/
  space : ∀ segment ∈ (properSegments r.space).tail, Path.IsInward segment
  /-- What is before backslashes in the name of the entity. -/
  outer : ∀ piece ∈ outerPieces r.entityName, Path.IsInward piece
  /-- What is behind them, which gets an ending in the names of the other classes. -/
  name : Path.IsInward (tip r.entityName ++ Artifact.data.ending)
  /-- The file of the entity itself, which has a name. -/
  own : ∀ directories short, placeBelow? (r.qualifiedName .entity) = some (directories, short) →
    Path.IsInward (short ++ extension) ∧
      ∃ part ∈ directories ++ [short ++ extension], (Path.ofString part).components ≠ []

namespace Scaffold

section

attribute [local irreducible] qualify pathAt

variable {config : Config} {r : Record} {a : Artifact} {files : List GeneratedFile}

lemma staysBelow_iff {file : GeneratedFile} : file.StaysBelow config ↔
    (∀ part ∈ partsOf config.fileExtension file.className, (Path.ofString part).root = .relative) ∧
      Path.IsBelow config.appDir file.path :=
  ⟨fun h => ⟨h.parts, h.path⟩, fun h => ⟨h.1, h.2⟩⟩

/-! ## Classes with endings -/

/-- The endings of the classes beside the entity can be seen. -/
lemma isEnding_ending (hstems : ∀ event ∈ r.events, isIdentifier (Naming.pascal event) = true)
    (ha : a ∈ artifacts r) (hne : a ≠ .entity) :
    Path.IsEnding a.ending ∧ '\\' ∉ a.ending.toList ∧ a.ending ≠ "" := by
  have hchars := isIdentifierChar_ending hstems ha
  have hother {c : Char} (hc : isIdentifierChar c = false) : c ∉ a.ending.toList := by
    intro hmem
    rw [hchars c hmem] at hc
    cases hc
  have hnonempty : a.ending ≠ "" := by
    intro hempty
    exact Artifact.ending_ne_empty hne hempty
  obtain ⟨c, cs, hcs⟩ : ∃ c cs, a.ending.toList = c :: cs :=
    List.exists_cons_of_ne_nil (by simpa using hnonempty)
  have hmem : c ∈ a.ending.toList := by simp [hcs]
  refine ⟨⟨hother (by decide), c, hmem, ?_⟩, hother (by decide), hnonempty⟩
  rintro rfl
  exact hother (by decide) hmem

/-- The segments of the classes beside the entity. -/
lemma properSegments_qualifiedName_of_ending (r : Record) (hending : '\\' ∉ a.ending.toList) (hne : a.ending ≠ "") :
    properSegments (r.qualifiedName a) =
      properSegments r.space ++ a.directories ++ (outerPieces r.entityName).filter (· != "") ++
        [tip r.entityName ++ a.ending] := by
  have hspace : properSegments (r.spaceOf a) = properSegments r.space ++ a.directories := by
    have hinner {inner : String} (hinner : isIdentifier inner = true) :
        properSegments (qualify r.space inner) = properSegments r.space ++ [inner] := by
      rw [properSegments_qualify, properSegments_of_isIdentifier hinner]
    cases a with
    | notFound => exact hinner (by decide)
    | event name => exact hinner (by decide)
    | _ => simp [Record.spaceOf, Artifact.spaceIn, Artifact.directories]
  rw [Record.qualifiedName, properSegments_qualify, hspace, Record.className, properSegments_append hending hne,
    ← List.append_assoc]

/-- The file of a class with an ending stays below exactly if its directories and the name of the entity are
inward. -/
lemma staysBelow_of_ending_iff (hslash : '/' ∉ config.fileExtension.toList)
    (hending : Path.IsEnding a.ending ∧ '\\' ∉ a.ending.toList ∧ a.ending ≠ "") {file : GeneratedFile}
    (hclass : file.className = r.qualifiedName a)
    (hpath : path? (r.qualifiedName a) config.appDir config.fileExtension = some file.path) :
    file.StaysBelow config ↔
      (∀ part ∈ (properSegments r.space ++ a.directories ++
        (outerPieces r.entityName).filter (· != "")).tail, Path.IsInward part) ∧
        Path.IsInward (tip r.entityName ++ Artifact.data.ending) := by
  obtain ⟨hseen, hbackslash, hne⟩ := hending
  have hwhole : Path.IsEnding (a.ending ++ config.fileExtension) := hseen.append hslash
  have hdata : Path.IsEnding Artifact.data.ending := by decide
  rw [staysBelow_iff, hclass, path?_eq_foldl hpath, Path.isBelow_foldl_iff,
    partsOf_eq _ (properSegments_qualifiedName_of_ending r hbackslash hne), List.forall_mem_append,
    List.forall_mem_singleton, String.append_assoc, Path.isInward_append_congr hwhole hdata]
  refine and_iff_left ⟨_, List.mem_append_right _ (List.mem_singleton_self _), ?_⟩
  exact Path.components_append_ne_nil hwhole _

lemma isInward_of_mem_directories {part : String} (h : part ∈ a.directories) : Path.IsInward part := by
  cases a with
  | notFound =>
    obtain rfl := List.mem_singleton.1 h
    decide
  | event name =>
    obtain rfl := List.mem_singleton.1 h
    decide
  | _ => cases h

/-! ## The class of the entity -/

/-- The first of some names stands for the directory of the application, and it is the first of the namespace, or
else one of those behind it. -/
lemma mem_tail_append {names more : List String} {name : String} (h : name ∈ (names ++ more).tail) :
    name ∈ names.tail ∨ name ∈ more := by
  cases names with
  | nil => exact .inr (List.mem_of_mem_tail h)
  | cons first names => exact List.mem_append.1 h

/-- Above the file of the entity are directories of the namespace and of its name. -/
lemma mem_directories_entity {directories : List String} {short part : String}
    (h : placeBelow? (r.qualifiedName .entity) = some (directories, short)) (hpart : part ∈ directories) :
    part ∈ (properSegments r.space).tail ∨ part ∈ outerPieces r.entityName := by
  let outer := properSegments r.space ++ (outerPieces r.entityName).filter (· != "")
  have hsegments : properSegments (r.qualifiedName .entity) =
      outer ++ if tip r.entityName = "" then [] else [tip r.entityName] := by
    show properSegments (qualify r.space (r.entityName ++ "")) = _
    rw [String.append_empty, properSegments_qualify, properSegments_eq_outer r.entityName, List.append_assoc]
  obtain ⟨above, last, hlast⟩ : ∃ above last, properSegments (r.qualifiedName .entity) = above ++ [last] := by
    refine ⟨(properSegments (r.qualifiedName .entity)).dropLast, _, (List.dropLast_concat_getLast ?_).symm⟩
    intro hnil
    rw [placeBelow?, hnil] at h
    cases h
  rw [placeBelow?_eq hlast] at h
  cases h
  -- the file is called like the tip of the name, or else like the last of the outer segments
  have habove : above <+: outer := by
    rw [hlast] at hsegments
    split at hsegments
    · rw [List.append_nil] at hsegments
      rw [← hsegments]
      exact List.prefix_append _ _
    · have hwhole : outer = above := (List.append_inj' hsegments rfl).1.symm
      exact hwhole ▸ List.prefix_rfl
  obtain ⟨rest, hrest⟩ := habove
  have hmem : part ∈ outer.tail := by
    rw [← hrest]
    cases above with
    | nil => cases hpart
    | cons first above => exact List.mem_append_left _ hpart
  rcases mem_tail_append hmem with hspace | houter
  · exact .inl hspace
  · exact .inr (List.mem_filter.1 houter).1

/-! ## All classes -/

/-- A file is the one of an artifact. -/
def IsFileOf (config : Config) (r : Record) (a : Artifact) (file : GeneratedFile) : Prop :=
  file.className = r.qualifiedName a ∧
    path? (r.qualifiedName a) config.appDir config.fileExtension = some file.path

/-- The files of a record are those of its artifacts. -/
lemma isFileOf_of_render (h : render config r = .ok files) :
    (∀ file ∈ files, ∃ a ∈ artifacts r, IsFileOf config r a file) ∧
      ∀ a ∈ artifacts r, ∃ file ∈ files, IsFileOf config r a file := by
  obtain ⟨hvalid, hshown, hpaths, -⟩ := of_render h
  have hfile {a : Artifact} (ha : a ∈ artifacts r) (content : String) :
      IsFileOf config r a ⟨a.key, r.qualifiedName a, pathAt config r a, content⟩ := ⟨rfl, hpaths a ha⟩
  rw [render_eq_map hvalid hshown hpaths, Except.ok.injEq] at h
  subst h
  constructor
  · intro file hmem
    obtain ⟨a, ha, rfl⟩ := List.mem_map.1 hmem
    exact ⟨a, ha, hfile ha _⟩
  · intro a ha
    exact ⟨_, List.mem_map_of_mem ha, hfile ha _⟩

/-- The parts of the path of the entity are inward where its record is, and one of them has a name. -/
lemma staysBelow_entity {file : GeneratedFile} (hfile : IsFileOf config r .entity file)
    (h : r.LeadsInward config.fileExtension) : file.StaysBelow config := by
  obtain ⟨hclass, hpath⟩ := hfile
  rw [staysBelow_iff, hclass, path?_eq_foldl hpath, Path.isBelow_foldl_iff]
  obtain ⟨⟨directories, short⟩, hplace, -⟩ := Option.map_eq_some_iff.1 hpath
  obtain ⟨hshort, hnames⟩ := h.own directories short hplace
  rw [partsOf, hplace]
  refine ⟨List.forall_mem_append.2 ⟨fun part hpart => ?_, List.forall_mem_singleton.2 hshort⟩, hnames⟩
  rcases mem_directories_entity hplace hpart with hspace | houter
  · exact h.space part hspace
  · exact h.outer part houter

/-- The file of the entity stays below only if its own name leads down. -/
lemma own_of_staysBelow {file : GeneratedFile} (hfile : IsFileOf config r .entity file)
    (h : file.StaysBelow config) {directories : List String} {short : String}
    (hplace : placeBelow? (r.qualifiedName .entity) = some (directories, short)) :
    Path.IsInward (short ++ config.fileExtension) ∧
      ∃ part ∈ directories ++ [short ++ config.fileExtension], (Path.ofString part).components ≠ [] := by
  obtain ⟨hclass, hpath⟩ := hfile
  rw [staysBelow_iff, hclass, path?_eq_foldl hpath, Path.isBelow_foldl_iff, partsOf, hplace] at h
  obtain ⟨hinward, hnames⟩ := h
  exact ⟨hinward _ (List.mem_append_right _ (List.mem_singleton_self _)), hnames⟩

/-- The files of a record stay below exactly if its texts lead down only. -/
lemma forall_staysBelow_iff (hslash : '/' ∉ config.fileExtension.toList) (h : render config r = .ok files) :
    (∀ file ∈ files, file.StaysBelow config) ↔ r.LeadsInward config.fileExtension := by
  obtain ⟨hstems, -⟩ := Record.stems_of_validate (of_render h).1
  obtain ⟨hfiles, hartifacts⟩ := isFileOf_of_render h
  have hother {a : Artifact} (ha : a ∈ artifacts r) (hne : a ≠ .entity) {file : GeneratedFile}
      (hfile : IsFileOf config r a file) : file.StaysBelow config ↔
        (∀ part ∈ (properSegments r.space ++ a.directories ++ (outerPieces r.entityName).filter (· != "")).tail,
          Path.IsInward part) ∧ Path.IsInward (tip r.entityName ++ Artifact.data.ending) :=
    staysBelow_of_ending_iff hslash (isEnding_ending hstems ha hne) hfile.1 hfile.2
  constructor
  · intro hall
    obtain ⟨entity, hentity, hentityFile⟩ := hartifacts .entity (by simp [artifacts])
    have hnotFound : Artifact.notFound ∈ artifacts r := by simp [artifacts]
    obtain ⟨notFound, hmem, hfile⟩ := hartifacts .notFound hnotFound
    obtain ⟨hparts, hname⟩ := (hother hnotFound (by decide) hfile).1 (hall _ hmem)
    -- the class of the exception has every segment but the first of the namespace, and all outer pieces
    have hbehind {part : String} (hpart : part ∈ (outerPieces r.entityName).filter (· != "")) :
        Path.IsInward part := by
      refine hparts part ?_
      cases properSegments r.space with
      | nil => exact hpart
      | cons first rest => exact List.mem_append_right _ hpart
    refine ⟨fun segment hsegment => hparts segment ?_, fun piece hpiece => ?_, hname, fun directories short =>
      own_of_staysBelow hentityFile (hall _ hentity)⟩
    · cases hspace : properSegments r.space with
      | nil =>
        rw [hspace] at hsegment
        cases hsegment
      | cons first rest =>
        rw [hspace] at hsegment
        exact List.mem_append_left _ (List.mem_append_left _ hsegment)
    · by_cases hempty : piece = ""
      · rw [hempty]
        decide
      · exact hbehind (List.mem_filter.2 ⟨hpiece, bne_iff_ne.2 hempty⟩)
  · intro hinward file hmem
    obtain ⟨a, ha, hfile⟩ := hfiles file hmem
    by_cases hne : a = .entity
    · subst hne
      exact staysBelow_entity hfile hinward
    · refine (hother ha hne hfile).2 ⟨fun part hpart => ?_, hinward.name⟩
      rcases mem_tail_append hpart with hspace | houter
      · rcases mem_tail_append hspace with hspace | hdirectory
        · exact hinward.space part hspace
        · exact isInward_of_mem_directories hdirectory
      · exact hinward.outer part (List.mem_filter.1 houter).1

/-- A text that begins with an identifier and has no slash is inward, and a name. -/
lemma isInward_of_isIdentifier {name extension : String} (hname : isIdentifier name = true)
    (hslash : '/' ∉ extension.toList) :
    Path.IsInward (name ++ extension) ∧ (Path.ofString (name ++ extension)).components ≠ [] := by
  have hpart := Path.ofString_append_of_not_mem hname hslash
  rw [Path.isInward_iff, hpart]
  refine ⟨⟨rfl, fun hmem => ?_⟩, List.cons_ne_nil _ _⟩
  exact ne_dots_of_isIdentifier hname extension (List.mem_singleton.1 hmem).symm

/-- Identifiers lead down only. -/
lemma leadsInward_of_isIdentifier {extension : String} (hslash : '/' ∉ extension.toList)
    (hspace : ∀ segment ∈ properSegments r.space, isIdentifier segment = true)
    (hentity : isIdentifier r.entityName = true) : r.LeadsInward extension := by
  have hnothing : '/' ∉ "".toList := by decide
  have hinward {name : String} (hname : isIdentifier name = true) : Path.IsInward name := by
    simpa using (isInward_of_isIdentifier hname hnothing).1
  have hchars : ∀ c ∈ r.entityName.toList, c ≠ '\\' := fun c hc =>
    ne_of_isIdentifierChar (isIdentifierChar_of_isIdentifier hentity c hc) (by decide)
  have hpieces : pieces '\\' ("" ++ r.entityName) = outerPieces "" ++ [tip "" ++ r.entityName] :=
    pieces_append_eq fun hmem => hchars _ hmem rfl
  have houter : outerPieces r.entityName = [] ∧ tip r.entityName = r.entityName := by
    rw [String.empty_append] at hpieces
    rw [outerPieces, tip, hpieces]
    exact ⟨rfl, String.empty_append⟩
  have hclass : r.className .entity = r.entityName := String.append_empty
  obtain ⟨above, hsegments, -⟩ := properSegments_qualifiedName r .entity (hclass ▸ hentity)
  refine ⟨fun segment hsegment => hinward (hspace segment (List.mem_of_mem_tail hsegment)), ?_, ?_, ?_⟩
  · rw [houter.1]
    exact List.forall_mem_nil _
  · rw [houter.2]
    exact (isInward_of_isIdentifier hentity (by decide)).1
  · intro directories short hplace
    rw [placeBelow?_eq hsegments, hclass] at hplace
    cases hplace
    obtain ⟨hshort, hname⟩ := isInward_of_isIdentifier hentity hslash
    exact ⟨hshort, _, List.mem_append_right _ (List.mem_singleton_self _), hname⟩

/-! ## Definitions -/

/-- A record that passes the check and shows its numbers is rendered, unless its entity has a name of nothing but
backslashes in a namespace of the same kind. -/
lemma exists_render_or (h : r.validate = .ok ()) (hshown : ShowsNumbers r) (config : Config) :
    (∃ files, render config r = .ok files) ∨
      (∀ c ∈ (r.qualifiedName .entity).toList, c = '\\') ∧
        render config r = .error (.misused .noSegments) := by
  obtain ⟨hstems, -⟩ := Record.stems_of_validate h
  cases hentity : path? (r.qualifiedName .entity) config.appDir config.fileExtension with
  | none =>
    refine .inr ⟨path?_eq_none_iff.1 hentity, ?_⟩
    obtain ⟨rest, hrest⟩ : ∃ rest, artifacts r = .entity :: rest := ⟨_, rfl⟩
    have hprepare : prepare config Artifact.entity.key (unitAt config r .entity).qualifiedName
        (unitAt config r .entity).print = .error (.misused .noSegments) := by
      rw [qualifiedName_unitAt (Record.isConsistent_of_validate h), prepare, hentity]
    rw [render, units_eq h hshown, ok_bind, hrest, List.map_cons, List.mapM_cons]
    simp only [hprepare, error_bind]
  | some path =>
    have hpaths : ∀ a ∈ artifacts r,
        path? (r.qualifiedName a) config.appDir config.fileExtension = some (pathAt config r a) := by
      intro a ha
      obtain ⟨found, hfound⟩ : ∃ found, path? (r.qualifiedName a) config.appDir config.fileExtension = some found := by
        by_cases hne : a = .entity
        · rw [hne]
          exact ⟨path, hentity⟩
        · obtain ⟨-, hbackslash, hempty⟩ := isEnding_ending hstems ha hne
          rw [← Option.isSome_iff_exists, ← Option.ne_none_iff_isSome, ne_eq, path?_eq_none_iff,
            ← properSegments_eq_nil_iff, properSegments_qualifiedName_of_ending r hbackslash hempty]
          exact List.append_ne_nil_of_right_ne_nil _ (List.cons_ne_nil _ _)
      rw [pathAt, hfound, Option.getD_some]
    exact .inl ⟨_, render_eq_map h hshown hpaths⟩

/-- The files that are written for a definition stay below the directory of the application exactly if namespace and
entity lead down only.  Nothing is written for an entity that has no file at all. -/
theorem files_stay_below_iff (config : Config) (tree : FileTree) (value : Document.Value) (r : Record)
    (hslash : '/' ∉ config.fileExtension.toList) (hr : Definition.ofValue config tree value = .ok r) :
    (∃ files, render config r = .ok files ∧ (∀ tree, generate config r tree = writeAll tree files) ∧
        ((∀ file ∈ files, file.StaysBelow config) ↔ r.LeadsInward config.fileExtension)) ∨
      (∀ c ∈ (r.qualifiedName .entity).toList, c = '\\') ∧
        ∀ tree, generate config r tree = (tree, .error (.misused .noSegments)) := by
  obtain ⟨_, _, _, _, _, _, _, _, _, _, _, hassembled⟩ := Definition.ofValue_eq_ok_iff.1 hr
  -- the numbers of a definition were read by a parser, so that they can be shown again
  have hshown : ShowsNumbers r := showsNumbers_of_isBuilt (Definition.isBuilt_of_ofValue hr)
  rcases exists_render_or (Draft.validate_of_assemble hassembled) hshown config with ⟨files, hfiles⟩ | ⟨hnone, hfailed⟩
  · refine .inl ⟨files, hfiles, fun tree => ?_, forall_staysBelow_iff hslash hfiles⟩
    rw [generate, hfiles]
  · refine .inr ⟨hnone, fun tree => ?_⟩
    rw [generate, hfailed]

end

/-- A user without properties in a namespace. -/
def userIn (space : String) : Document.Value :=
  .mapping [(.text "entity", .text "User"), (.text "namespace", .text space)]

/-- The record of such a user. -/
def userRecordIn (space : String) : Record where
  space
  entityName := "User"
  traits := [("Timestampable", "Gedmo\\Timestampable\\Traits\\TimestampableEntity")]

theorem user_stays_below_app :
    '/' ∉ ({} : Config).fileExtension.toList ∧
      Definition.ofValue {} (.empty []) (userIn "App\\Model\\User") = .ok (userRecordIn "App\\Model\\User") ∧
        ∃ files, render {} (userRecordIn "App\\Model\\User") = .ok files ∧
          ∀ file ∈ files, file.StaysBelow {} := by
  have hslash : '/' ∉ ({} : Config).fileExtension.toList := by decide
  have hread : Definition.ofValue {} (.empty []) (userIn "App\\Model\\User") =
      .ok (userRecordIn "App\\Model\\User") := by rfl
  have hinward : (userRecordIn "App\\Model\\User").LeadsInward ({} : Config).fileExtension :=
    leadsInward_of_isIdentifier hslash (by decide) (by decide)
  refine ⟨hslash, hread, ?_⟩
  rcases files_stay_below_iff {} (.empty []) (userIn "App\\Model\\User") _ hslash hread with
    ⟨files, hfiles, -, hbelow⟩ | ⟨hnone, -⟩
  · exact ⟨files, hfiles, hbelow.2 hinward⟩
  · exact absurd hnone (by decide)

/-- A namespace may lead out of the directory again. -/
theorem user_leaves_app :
    ".." ∉ ({} : Config).appDir.components ∧ '/' ∉ ({} : Config).fileExtension.toList ∧
      Definition.ofValue {} (.empty []) (userIn "App\\..") = .ok (userRecordIn "App\\..") ∧
        ∃ files, render {} (userRecordIn "App\\..") = .ok files ∧
          ∃ file ∈ files, file.path = ⟨.relative, ["app", "..", "User.php"]⟩ ∧ ¬ file.StaysBelow {} := by
  have hread : Definition.ofValue {} (.empty []) (userIn "App\\..") = .ok (userRecordIn "App\\..") := by rfl
  have hvalid : (userRecordIn "App\\..").validate = .ok () := by decide
  have hpath : path? ((userRecordIn "App\\..").qualifiedName .entity) ({} : Config).appDir
      ({} : Config).fileExtension = some ⟨.relative, ["app", "..", "User.php"]⟩ := by decide
  refine ⟨by decide, by decide, hread, ?_⟩
  rcases exists_render_or hvalid (by decide) {} with ⟨files, hfiles⟩ | ⟨hnone, -⟩
  · obtain ⟨file, hmem, -, hfile⟩ := (isFileOf_of_render hfiles).2 .entity (by simp [artifacts])
    have hout : file.path = ⟨.relative, ["app", "..", "User.php"]⟩ := Option.some.inj (hfile.symm.trans hpath)
    refine ⟨files, hfiles, file, hmem, hout, ?_⟩
    rintro ⟨-, names, -, hdots, heq⟩
    rw [hout, Path.mk.injEq] at heq
    have hnames : ["app"] ++ ["..", "User.php"] = ["app"] ++ names := heq.2
    rw [← List.append_cancel_left hnames] at hdots
    exact hdots List.mem_cons_self
  · exact absurd hnone (by decide)

end Scaffold

end EntityScaffold
