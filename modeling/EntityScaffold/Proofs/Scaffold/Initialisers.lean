import EntityScaffold.Proofs.Scaffold.Containment
import EntityScaffold.Proofs.Scaffold.EntityCalls
import EntityScaffold.Proofs.Scaffold.Defaults
import EntityScaffold.Proofs.Source.Literal.Forms
import EntityScaffold.Proofs.Source.Members
/-!
# Defaults in the file of the data object

The default of a property is printed as a literal into the data object, and then the file is brought into normal form,
which knows of lines and nothing of literals.  A default of several lines is therefore not safe: its line ends become
line feeds, its lines of blanks become empty, and several empty lines become one.  This is all that happens to it, for
a literal has something visible at both ends, so that no gap reaches into it from outside or out of it
(`hasVisibleEnds_print`).  The initialiser of a property is its literal in settled form, and the literal itself exactly
if that is settled (`data_initialisers_are_settled`).  The properties are built from their types; a record of others
could have a number in a column that is too long to be shown, and then there would be no file.
-/

namespace EntityScaffold

open Source Text

/-! ## The ends of a literal -/

namespace Literal

variable {cs : List Char} {value : String} {type : Option String}

/-- A text with a visible character at both of its ends. -/
structure HasVisibleEnds (cs : List Char) : Prop where
  first : ∃ c ∈ cs.head?, isBlank c = false
  last : ∃ c ∈ cs.getLast?, isBlank c = false

lemma HasVisibleEnds.beginsFull (h : HasVisibleEnds cs) : Lines.BeginsFull cs := by
  obtain ⟨c, hc, hblank⟩ := h.first
  obtain ⟨rest, rfl⟩ := List.head?_eq_some_iff.1 hc
  exact Lines.beginsFull_cons hblank rest

lemma HasVisibleEnds.endsFull (h : HasVisibleEnds cs) : Lines.EndsFull cs := by
  obtain ⟨c, hc, hblank⟩ := h.last
  obtain ⟨init, rfl⟩ := List.getLast?_eq_some_iff.1 hc
  have hbreak : c ≠ '\n' ∧ c ≠ '\r' := Lines.ne_break_of_isBlank_eq_false hblank
  have hsolid : IsSolid (String.ofList [c]) := by
    rw [IsSolid, IsOneLine, String.toList_ofList]
    exact ⟨List.forall_mem_singleton.2 hbreak, c, List.mem_singleton_self c, hblank⟩
  have hends := Lines.endsFull_of_isSolid hsolid
  rw [String.toList_ofList] at hends
  exact hends.append_left (by simpa using hbreak.1) init

lemma HasVisibleEnds.ne_empty {s : String} (h : HasVisibleEnds s.toList) : s ≠ "" := by
  rintro rfl
  obtain ⟨c, hc, -⟩ := h.first
  cases hc

/-- What is trimmed has visible ends, if there is something left. -/
lemma hasVisibleEnds_trim (hne : (trim value).toList ≠ []) : HasVisibleEnds (trim value).toList := by
  rw [trim, toList_through] at hne ⊢
  exact ⟨⟨_, List.head?_eq_some_head hne, head_stripWhile hne⟩,
    ⟨_, List.getLast?_eq_some_getLast hne, getLast_stripWhile hne⟩⟩

lemma hasVisibleEnds_quote (cs : List Char) : HasVisibleEnds (quote cs) := by
  refine ⟨⟨'\'', rfl, by decide⟩, ⟨'\'', ?_, by decide⟩⟩
  exact List.getLast?_concat

/-- Every literal has visible ends. -/
theorem hasVisibleEnds_print (value : String) (type : Option String) : HasVisibleEnds (print value type).toList := by
  have hnothing : HasVisibleEnds "null".toList := ⟨⟨'n', rfl, by decide⟩, ⟨'l', rfl, by decide⟩⟩
  have htrue : HasVisibleEnds "true".toList := ⟨⟨'t', rfl, by decide⟩, ⟨'e', rfl, by decide⟩⟩
  have hfalse : HasVisibleEnds "false".toList := ⟨⟨'f', rfl, by decide⟩, ⟨'e', rfl, by decide⟩⟩
  have hprinted := isPrintedAs_print value type
  generalize print value type = literal at hprinted
  cases hprinted with
  | nothing => exact hnothing
  | truth _ _ hword =>
    obtain rfl | rfl := eq_true_or_eq_false_of_lookup hword
    · exact htrue
    · exact hfalse
  | number _ _ htaken | list _ _ htaken | quoted _ _ htaken =>
    refine hasVisibleEnds_trim fun hnil => ?_
    rw [hnil] at htaken
    cases htaken
  | escaped =>
    rw [String.toList_ofList]
    exact hasVisibleEnds_quote _

end Literal

/-! ## The data object -/

namespace Scaffold

open Artifact

attribute [local irreducible] ClassName.qualify

variable {config : Config} {r : Record} {p : Property} {earlier later : List Property} {value : String}

lemma members_data (h : r.properties = earlier ++ p :: later) :
    (Data.unit r).declaration.members = earlier.map Data.member ++ Data.member p :: later.map Data.member := by
  show r.properties.map Data.member = _
  rw [h, List.map_append, List.map_cons]

lemma name_dataMember (p : Property) : (Data.member p).name = p.name := by
  unfold Data.member
  split
  · rfl
  · rfl

lemma nodup_memberNames_data (h : r.IsConsistent) : ((Data.unit r).declaration.members.map (·.name)).Nodup := by
  have hnames : (Data.unit r).declaration.members.map (·.name) = r.propertyNames := by
    show (r.properties.map Data.member).map (·.name) = _
    rw [List.map_map]
    exact List.map_congr_left fun p _ => name_dataMember p
  rw [hnames]
  exact (List.nodup_cons.1 (nodup_memberNames h)).2

/-- The text of the data object in normal form, around the default of a property. -/
lemma normalize_data_eq (hproperties : r.properties = earlier ++ p :: later) (hdefault : p.default? = some value)
    (hname : IsOneLine p.name) :
    Lines.normalize (Data.unit r).print =
      Lines.settled ((Data.unit r).textBefore (earlier.map Data.member) (Data.member p)) ++
          Lines.settled (Literal.print value p.primitive?) ++
        Lines.normalize (";\n" ++ (Data.unit r).textAfter (later.map Data.member)) := by
  obtain ⟨type, hprimitive, hmember⟩ := dataMember_of_default hdefault
  have hinitial : (Data.member p).default = some (Literal.print value p.primitive?) := by rw [hmember, hprimitive]
  have hends := Literal.hasVisibleEnds_print value p.primitive?
  exact SourceUnit.normalize_print_eq_around (members_data hproperties) hinitial
    (by rwa [name_dataMember]) hends.beginsFull hends.endsFull

/-- The file of an artifact. -/
lemma exists_fileOf (hvalid : r.validate = .ok ()) (hshown : ShowsNumbers r) (config : Config) {a : Artifact}
    (ha : a ∈ artifacts r) :
    (∃ files file, render config r = .ok files ∧ file ∈ files ∧ file.artifact = a.key ∧
      (∀ other ∈ files, other.artifact = a.key → other = file) ∧
        file.content = Lines.normalize (unitAt config r a).print) ∨
      (∀ c ∈ (r.qualifiedName .entity).toList, c = '\\') ∧ render config r = .error (.misused .noSegments) := by
  refine (exists_render_or hvalid hshown config).imp_left ?_
  rintro ⟨files, hfiles⟩
  obtain ⟨-, -, hpaths, -⟩ := of_render hfiles
  rw [render_eq_map hvalid hshown hpaths]
  refine ⟨_, _, rfl, List.mem_map_of_mem ha, rfl, fun other hother hkey => ?_, rfl⟩
  obtain ⟨b, -, rfl⟩ := List.mem_map.1 hother
  rw [key_injective hkey]

/-- The file of the data object of a record that is assembled from built properties has a literal for each property
with a default, in settled form: line ends are line feeds, lines of blanks are empty, and there is one empty line where
there were several.  So the literal is there as it was printed exactly if it is settled itself. -/
theorem data_initialisers_are_settled (config : Config) (draft : Draft) (r : Record)
    (hr : draft.assemble config = .ok r) (hbuilt : ∀ p ∈ r.properties, p.IsBuilt) :
    (∃ files file, render config r = .ok files ∧ file ∈ files ∧ file.artifact = Artifact.data.key ∧
      (∀ other ∈ files, other.artifact = Artifact.data.key → other = file) ∧
        ∀ p ∈ r.properties, ∀ value ∈ p.default?,
          let literal := Literal.print value p.primitive?
          (∀ text, (Data.unit r).IsInitialiser p.name text file.content ↔ text = Lines.settled literal) ∧
            (∃ before after, file.content =
              before ++ ("$" ++ p.name ++ " = ") ++ Lines.settled literal ++ (";\n" ++ after)) ∧
            ((Data.unit r).IsInitialiser p.name literal file.content ↔
              '\r' ∉ literal.toList ∧ IsSpaced [] Lines.IsFull (Lines.cut literal.toList))) ∨
      (∀ c ∈ (r.qualifiedName .entity).toList, c = '\\') ∧ render config r = .error (.misused .noSegments) := by
  have hvalid := Draft.validate_of_assemble hr
  have hconsistent := Record.isConsistent_of_validate hvalid
  have hdata : Artifact.data ∈ artifacts r := mem_artifacts_of_isFixed rfl
  refine (exists_fileOf hvalid (showsNumbers_of_isBuilt hbuilt) config hdata).imp_left ?_
  rintro ⟨files, file, hfiles, hfile, hkey, hunique, hprinted⟩
  refine ⟨files, file, hfiles, hfile, hkey, hunique, fun p hp value hvalue => ?_⟩
  intro literal
  obtain ⟨earlier, later, hproperties⟩ := List.append_of_mem hp
  have hname : IsOneLine p.name := .of_isIdentifier (Property.isIdentifier_of_checkName (hconsistent.names p hp))
  have hcontent := hprinted.trans (normalize_data_eq hproperties hvalue hname)
  have hplace := SourceUnit.isInitialiser_iff (nodup_memberNames_data hconsistent) (members_data hproperties) hcontent
  rw [name_dataMember] at hplace
  refine ⟨hplace, ?_, ?_⟩
  · obtain ⟨before, hbefore⟩ := SourceUnit.exists_settled_textBefore (m := Data.member p) (by rwa [name_dataMember])
      (Data.unit r) (earlier.map Data.member)
    obtain ⟨after, hafter⟩ := SourceUnit.exists_normalize_semicolon ((Data.unit r).textAfter (later.map Data.member))
    exact ⟨before, after, by rw [hcontent, hbefore, hafter, name_dataMember]⟩
  · have hne : literal ≠ "" := (Literal.hasVisibleEnds_print value p.primitive?).ne_empty
    exact (hplace literal).trans (eq_comm.trans (Lines.settled_eq_self_iff hne))

/-- A notice whose text is there from the start. -/
def notice (text : String) : Draft where
  space := "App\\Model"
  entityName := "Notice"
  properties :=
    [{ name := "text", expression := "text", kind := .scalar "string" (some text), storage := some "text"
       nullable := false, modifiers := {} }]

/-- The record of a notice. -/
def noticeRecord (text : String) : Record where
  space := "App\\Model"
  entityName := "Notice"
  properties := (notice text).properties
  traits := [("Timestampable", "Gedmo\\Timestampable\\Traits\\TimestampableEntity")]

/-- The text of a notice is read as a type of its own. -/
lemma isBuilt_notice {text : String} (h : text ≠ "") : ∀ p ∈ (noticeRecord text).properties, p.IsBuilt := by
  let reader : TypeReader := ⟨.make ["App\\Model"] [] none ".php" (.empty []), []⟩
  have hname : Property.checkName "text" = .ok () := by decide
  refine List.forall_mem_singleton.2 ⟨reader, "text", ⟨.scalar ⟨"string", "text"⟩, false, {}⟩, none, some text,
    by decide, ?_⟩
  rw [Property.build_scalar "text" hname rfl, Option.filter_some, if_pos (bne_iff_ne.2 h)]
  rfl

/-- One empty line is kept. -/
theorem notice_keeps_its_text :
    (notice "Dear reader,\n\nyours").assemble {} = .ok (noticeRecord "Dear reader,\n\nyours") ∧
      (∀ p ∈ (noticeRecord "Dear reader,\n\nyours").properties, p.IsBuilt) ∧
        ∃ files file, render {} (noticeRecord "Dear reader,\n\nyours") = .ok files ∧ file ∈ files ∧
          file.artifact = Artifact.data.key ∧
            (Data.unit (noticeRecord "Dear reader,\n\nyours")).IsInitialiser "text" "'Dear reader,\n\nyours'"
              file.content := by
  have hr : (notice "Dear reader,\n\nyours").assemble {} = .ok (noticeRecord "Dear reader,\n\nyours") := by
    decide +kernel
  have hsettled : "'Dear reader,\n\nyours'" =
      Lines.settled (Literal.print "Dear reader,\n\nyours" (some "string")) := by
    decide
  have hbuilt : ∀ p ∈ (noticeRecord "Dear reader,\n\nyours").properties, p.IsBuilt := isBuilt_notice (by decide)
  refine ⟨hr, hbuilt, ?_⟩
  rcases data_initialisers_are_settled {} _ _ hr hbuilt with
    ⟨files, file, hfiles, hfile, hkey, -, hall⟩ | ⟨hnone, -⟩
  · exact ⟨files, file, hfiles, hfile, hkey, ((hall _ List.mem_cons_self _ rfl).1 _).2 hsettled⟩
  · exact absurd hnone (by decide +kernel)

/-- Of two empty lines one is lost, and then the literal is nowhere in the file. -/
theorem notice_loses_a_line :
    (notice "Dear reader,\n\n\nyours").assemble {} = .ok (noticeRecord "Dear reader,\n\n\nyours") ∧
      (∀ p ∈ (noticeRecord "Dear reader,\n\n\nyours").properties, p.IsBuilt) ∧
        Literal.print "Dear reader,\n\n\nyours" (some "string") = "'Dear reader,\n\n\nyours'" ∧
          ∃ files file, render {} (noticeRecord "Dear reader,\n\n\nyours") = .ok files ∧ file ∈ files ∧
            file.artifact = Artifact.data.key ∧ (∀ other ∈ files, other.artifact = Artifact.data.key → other = file) ∧
              ¬ "'Dear reader,\n\n\nyours'".toList <:+: file.content.toList := by
  have hr : (notice "Dear reader,\n\n\nyours").assemble {} = .ok (noticeRecord "Dear reader,\n\n\nyours") := by
    decide +kernel
  have hlost : ¬ "'Dear reader,\n\n\nyours'".toList <:+:
      (Lines.normalize (Data.unit (noticeRecord "Dear reader,\n\n\nyours")).print).toList := by
    decide +kernel
  have hdata : Artifact.data ∈ artifacts (noticeRecord "Dear reader,\n\n\nyours") := mem_artifacts_of_isFixed rfl
  have hbuilt : ∀ p ∈ (noticeRecord "Dear reader,\n\n\nyours").properties, p.IsBuilt :=
    isBuilt_notice (by decide)
  refine ⟨hr, hbuilt, by decide, ?_⟩
  rcases exists_fileOf (Draft.validate_of_assemble hr) (showsNumbers_of_isBuilt hbuilt) {} hdata with
    ⟨files, file, hfiles, hfile, hkey, hunique, hcontent⟩ | ⟨hnone, -⟩
  · exact ⟨files, file, hfiles, hfile, hkey, hunique, hcontent ▸ hlost⟩
  · exact absurd hnone (by decide +kernel)

end Scaffold

end EntityScaffold
