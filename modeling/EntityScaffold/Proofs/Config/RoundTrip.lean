import EntityScaffold.Config.Environment
import EntityScaffold.Config.File
import EntityScaffold.Proofs.Document.Json.Values
import EntityScaffold.Proofs.FileTree.Writing
import EntityScaffold.Proofs.Keyed
import EntityScaffold.Proofs.Path.Text
/-!
# Saved configurations

A configuration that was saved is loaded again as it was, with its traits in their order and those without a class
among them (`saved_settings_are_kept`).  Nothing is assumed of the JSON in between: its printer and its reader are
those of this library, and they agree on the document of a configuration because that has each key once and holds
nothing but texts and null.

Two things could get lost.  The directory of the application is printed as a text, so it has to be the path that its
own text is read as, and a trait with two entries would have only the last of them.  Neither can happen to a
configuration as it is held (`IsSound`).
-/

namespace EntityScaffold

open Document

/-! ## Lists of texts -/

namespace Schema

lemma eachFrom_text (position : Nat) (items : List String) :
    Checked.eachFrom text position (items.map .text) = .accepted items := by
  induction items generalizing position with
  | nil => rfl
  | cons item rest ih =>
    rw [List.map_cons, Checked.eachFrom, ih]
    rfl

lemma list_text_ofTexts (items : List String) : list text (.ofTexts items) = .accepted items := eachFrom_text 0 items

end Schema

namespace Config

open Schema

variable {config : Config} {tree tree' : FileTree} {path : Path}

/-- A configuration as it is held: its directory is in normal form, as every path is that was read from a text, and
its traits are a mapping. -/
structure IsSound (config : Config) : Prop where
  appDir : config.appDir.IsNormal
  traits : (config.traits.map (·.1)).Nodup

theorem isSound_ofEnvironment (env : List (String × String)) : (ofEnvironment env).IsSound where
  appDir := by
    show ((setting? env "APPGEN_APP_DIR").elim _ Path.ofString).IsNormal
    cases setting? env "APPGEN_APP_DIR" with
    | none => decide
    | some directory => exact Path.isNormal_ofString directory
  traits := by
    show ([_, _].map _).Nodup
    decide

/-! ## Reading the document of a configuration -/

lemma check_traitsDocument (traits : List (String × Option String)) :
    mapping (optional text) (traitsDocument traits) = .accepted traits := by
  show mapping.entriesOf _ _ = _
  induction traits with
  | nil => rfl
  | cons entry rest ih =>
    obtain ⟨name, traitClass⟩ := entry
    rw [List.map_cons, mapping.entriesOf, ih]
    cases traitClass <;> rfl

lemma checkEntity_entityDocument (base config : Config) :
    checkEntity base (entityDocument config) = .accepted
      { base with
        idType := config.idType
        traits := config.traits
        namespaces := config.namespaces
        knownClasses := config.knownClasses } := by
  simp [checkEntity, entityDocument, record, field, find?, text, check_traitsDocument, list_text_ofTexts,
    Checked.under, Checked.map, Checked.apply]

lemma checkModel_modelDocument (base config : Config) :
    checkModel base (modelDocument config) = .accepted
      { config with appDir := base.appDir, fileExtension := base.fileExtension } := by
  simp [checkModel, modelDocument, checkEntity_entityDocument, record, field, find?, text, list_text_ofTexts,
    Checked.under, Checked.map, Checked.apply]

/-- Every setting is read from the field into which it was written. -/
lemma check_toDocument (h : config.appDir.IsNormal) : check config.toDocument = .accepted config := by
  simp [check, toDocument, checkModel_modelDocument, checkPath, Path.ofString_toString h, record, field, find?, text,
    Checked.under, Checked.map, Checked.apply]

/-! ## Printing a configuration -/

lemma isPlain_ofTexts (depth : Nat) (items : List String) : (Value.ofTexts items).IsPlain (depth + 1) :=
  .list (List.forall_mem_map.2 fun item _ => .text depth item)

lemma isPlain_traitsDocument (h : (config.traits.map (·.1)).Nodup) : (traitsDocument config.traits).IsPlain 1 := by
  refine .mapping (List.forall_mem_map.2 fun entry _ => ⟨entry.1, rfl⟩) ?_ (List.forall_mem_map.2 ?_)
  · have hkeys : ((config.traits.map (·.1)).map Scalar.text).Nodup := h.map fun _ _ => Scalar.text.inj
    rw [List.map_map] at hkeys ⊢
    exact hkeys
  · rintro ⟨name, traitClass⟩ -
    cases traitClass with
    | none => exact .null 0
    | some traitClass => exact .text 0 traitClass

/-- The document of a configuration has each key once, and is four levels deep. -/
lemma isPlain_toDocument (h : (config.traits.map (·.1)).Nodup) : config.toDocument.IsPlain 4 := by
  have hentity : (entityDocument config).IsPlain 2 := by
    refine .mapping (by simp) (by simp) ?_
    simp only [List.forall_mem_cons]
    exact ⟨.text _ _, isPlain_traitsDocument h, isPlain_ofTexts _ _, isPlain_ofTexts _ _, List.forall_mem_nil _⟩
  have hmodel : (modelDocument config).IsPlain 3 := by
    refine .mapping (by simp) (by simp) ?_
    simp only [List.forall_mem_cons]
    exact ⟨hentity, isPlain_ofTexts _ _, .text _ _, .text _ _, List.forall_mem_nil _⟩
  refine .mapping (by simp) (by simp) ?_
  simp only [List.forall_mem_cons]
  exact ⟨.text _ _, .text _ _, hmodel, List.forall_mem_nil _⟩

/-- A printed configuration is read back. -/
lemma read_print (h : config.IsSound) {path : Path} (hjson : Format.ofPath path = .json) :
    Config.read path config.print = .ok config := by
  have hread : Json.read config.print = .ok config.toDocument :=
    Json.read_print (isPlain_toDocument h.traits) (by decide)
  have hformat : Format.json.read config.print = .ok config.toDocument := by
    rw [Format.read, if_pos rfl, hread]
  rw [Config.read, hjson, hformat]
  show (check config.toDocument).toExcept Failure.invalid = _
  rw [check_toDocument h.appDir]
  rfl

/-! ## Saving and loading -/

/-- The traits that are offered are those with a class, in the order of the configuration. -/
lemma offeredTraits_eq_filterMap (h : (config.traits.map (·.1)).Nodup) :
    config.offeredTraits = config.traits.filterMap fun (name, traitClass) => traitClass.map (name, ·) := by
  rw [offeredTraits]
  refine Keyed.ofWrites_eq_self (h.sublist ?_)
  induction config.traits with
  | nil => exact .slnil
  | cons entry rest ih =>
    obtain ⟨name, traitClass⟩ := entry
    cases traitClass with
    | none => exact ih.cons name
    | some traitClass => exact ih.cons_cons name

/-- What a configuration was saved with is loaded from its file, whatever the tree held before, if the suffix of the
file does not mean YAML: the same settings, and the same traits offered in the same order. -/
theorem saved_settings_are_kept (hsound : config.IsSound) (hyml : Text.lower path.suffix ≠ ".yml")
    (hyaml : Text.lower path.suffix ≠ ".yaml") (hsave : config.save tree path = (tree', none)) :
    Config.load tree' path = .ok config ∧
      config.offeredTraits = config.traits.filterMap fun (name, traitClass) => traitClass.map (name, ·) := by
  have hjson : Format.ofPath path = .json := by
    rw [Format.ofPath]
    exact if_neg (not_or.2 ⟨hyml, hyaml⟩)
  obtain ⟨hgrows, hnode, -⟩ := FileTree.write_node? hsave
  obtain ⟨-, -, -, -, hholds⟩ := FileTree.write_done hsave
  have hplace : tree'.node? (tree'.placeOf path) = some (.file config.print) := by
    rw [FileTree.placeOf_congr hgrows.home]
    exact hnode
  have hfile : tree'.read path = .ok config.print := hholds.read_eq hplace
  have hload : Config.load tree' path = .ok config := by
    simp only [Config.load, hfile, ofFiles, Except.mapError, bind, Except.bind]
    exact read_print hsound hjson
  exact ⟨hload, offeredTraits_eq_filterMap hsound.traits⟩

/-- Settings of an application in a directory above, with names that JSON has to escape. -/
def unusual : Config where
  appDir := ⟨.double, ["srv", "..", "my \"app\""]⟩
  fileExtension := ".inc\x00"
  idType := "UUIDs\n"
  traits := [("Zeitstempel", some "Gedmo\\Zeit"), ("é\x7f", none), ("", some "Leer")]
  namespaces := []
  knownClasses := ["App\\Model\\Tag", "App\\Model\\Tag"]
  recognizedFlags := ["unique", "\x1b"]
  notFoundBase := ""

/-- They are kept in a file in a directory that is made for it. -/
theorem unusual_settings_are_kept :
    ∃ tree', unusual.save (.empty ["work"]) ⟨.relative, ["nested", "appgen.JSON"]⟩ = (tree', none) ∧
      Config.load tree' ⟨.relative, ["nested", "appgen.JSON"]⟩ = .ok unusual ∧
      unusual.offeredTraits = [("Zeitstempel", "Gedmo\\Zeit"), ("", "Leer")] := by
  have hsave : unusual.save (.empty ["work"]) ⟨.relative, ["nested", "appgen.JSON"]⟩ =
      ((unusual.save (.empty ["work"]) ⟨.relative, ["nested", "appgen.JSON"]⟩).1, none) := rfl
  obtain ⟨hload, htraits⟩ := saved_settings_are_kept ⟨by decide, by decide⟩ (by decide) (by decide) hsave
  exact ⟨_, hsave, hload, htraits⟩

end Config

end EntityScaffold
