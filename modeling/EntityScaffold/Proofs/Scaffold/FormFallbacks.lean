import EntityScaffold.Proofs.Scaffold.DataFlow
import EntityScaffold.Proofs.Scaffold.Initialisers
/-!
# Defaults of the data object and of the form

A property can be left out in two places: the data object has a default for it, and the form is read with a fallback.
Each generator decides for itself whether there is one, and which: an empty list, the default of the property, null, or
none at all.  They decide alike (`default_dataMember`).

What is asked of the form is a line of its method (`formLine`), and a line says which property it reads and with which
fallback, for the name ends before the first blank (`formLine_inj`); a literal may have anything in it.  So each
property has one default in the data object, and the form is read with this and with no other
(`form_falls_back_to_the_default`).
-/

namespace EntityScaffold

open Source Artifact Text

/-! ## Lines of the form -/

/-- A member of a class begins with a literal, or with nothing. -/
def Source.Declaration.HasDefault (d : Declaration) (name : String) (default : Option String) : Prop :=
  ∃ m ∈ d.members, m.name = name ∧ m.default = default

/-- The line that takes a property from the form, with a fallback or without. -/
def formLine (name : String) (fallback : Option String) : String :=
  "$data->" ++ (name ++ (" = $formData['" ++ name ++ "']" ++ fallback.elim "" (" ?? " ++ ·) ++ ";"))

/-- A method takes a property from the form, with a fallback or without. -/
def Source.Method.ReadsForm (m : Method) (name : String) (fallback : Option String) : Prop :=
  formLine name fallback ∈ bodyLines m.body

/-- Names without blanks end at the first one. -/
lemma eq_of_append_blank {name name' rest rest' : String} (h : ' ' ∉ name.toList) (h' : ' ' ∉ name'.toList)
    (heq : name ++ (" " ++ rest) = name' ++ (" " ++ rest')) : name = name' := by
  have hname {name : String} (h : ' ' ∉ name.toList) (rest : String) :
      (name ++ (" " ++ rest)).toList.takeWhile (· != ' ') = name.toList := by
    rw [String.toList_append, String.toList_append, List.takeWhile_append_of_pos]
    · simp
    · intro c hc
      exact bne_iff_ne.2 fun hblank => h (hblank ▸ hc)
  rw [← String.toList_inj, ← hname h rest, heq, hname h']

/-- A line says what it reads, and with which fallback. -/
theorem formLine_inj {name name' : String} {fallback fallback' : Option String} (h : ' ' ∉ name.toList)
    (h' : ' ' ∉ name'.toList) :
    formLine name fallback = formLine name' fallback' ↔ name = name' ∧ fallback = fallback' := by
  constructor
  · intro heq
    have hblank (s : String) : " = $formData['" ++ s = " " ++ ("= $formData['" ++ s) := by
      rw [← String.append_assoc]
      rfl
    have hrest := (String.append_right_inj _).1 heq
    obtain rfl : name = name' := by
      simp only [String.append_assoc, hblank] at hrest
      exact eq_of_append_blank h h' hrest
    have hend := (String.append_right_inj _).1 ((String.append_left_inj _).1 ((String.append_right_inj _).1 hrest))
    refine ⟨rfl, ?_⟩
    cases fallback with
    | none =>
      cases fallback' with
      | none => rfl
      | some literal' =>
        have hchars := congrArg String.toList hend
        simp at hchars
    | some literal =>
      cases fallback' with
      | none =>
        have hchars := congrArg String.toList hend
        simp at hchars
      | some literal' => exact congrArg some ((String.append_right_inj _).1 hend)
  · rintro ⟨rfl, rfl⟩
    rfl

namespace Scaffold

attribute [local irreducible] ClassName.qualify

variable {r : Record} {p : Property} {line : String} {d : Option String}

/-! ## The two generators -/

/-- The member of a property has the default with which the form is read. -/
theorem default_dataMember (p : Property) : (Data.member p).default = DataFactory.fallback p := by
  unfold Data.member DataFactory.fallback
  by_cases hmany : p.isCollection = true
  · rw [if_pos hmany, if_pos hmany]
  · rw [if_neg hmany, if_neg hmany]
    rfl

/-- A property is read in one line. -/
lemma lines_form (p : Property) :
    (Statement.assign (.member (.var "data") p.name) (DataFactory.formValue p)).lines =
      [formLine p.name (DataFactory.fallback p)] := by
  unfold DataFactory.formValue formLine
  refine congrArg (fun line => [line]) (String.toList_inj.1 ?_)
  cases DataFactory.fallback p with
  | none => simp [Expr.print]
  | some literal => simp [Expr.print]

/-- The lines of the method: one for each property, between those that make the object and give it back. -/
lemma bodyLines_createFromForm (r : Record) : bodyLines (createFromForm r).body =
    ["$data = new " ++ r.className .data ++ "();"] ++
      r.properties.map (fun p => formLine p.name (DataFactory.fallback p)) ++ ["", "return $data;"] := by
  have hform : bodyLines (r.properties.map fun p => .assign (.member (.var "data") p.name) (DataFactory.formValue p)) =
      r.properties.map fun p => formLine p.name (DataFactory.fallback p) := by
    rw [bodyLines, List.flatMap_map, List.map_eq_flatMap]
    exact List.flatMap_congr fun p _ => lines_form p
  have hnew : bodyLines [.assign (.var "data") (.create (r.className .data) [])] =
      ["$data = new " ++ r.className .data ++ "();"] := by
    refine congrArg (fun line => [line]) (String.toList_inj.1 ?_)
    simp [Expr.print, Expr.printArgs]
  have hgive : bodyLines [.blank, .give (.var "data")] = ["", "return $data;"] := by
    simp [bodyLines, Statement.lines, Expr.print]
  show bodyLines (DataFactory.body r) = _
  rw [DataFactory.body, bodyLines, List.flatMap_append, List.flatMap_append]
  exact congrArg₂ (· ++ ·) (congrArg₂ (· ++ ·) hnew hform) hgive

/-- No line but those of the properties reads the form. -/
lemma formLine_mem_bodyLines_iff {name : String} : formLine name d ∈ bodyLines (createFromForm r).body ↔
    ∃ p ∈ r.properties, formLine p.name (DataFactory.fallback p) = formLine name d := by
  have hfirst (s : String) : formLine name d ≠ "$data = new " ++ s ++ "();" := fun heq => by
    have hchars := congrArg String.toList heq
    simp [formLine] at hchars
  have hends : formLine name d ∉ ["", "return $data;"] := by
    rw [List.mem_pair]
    rintro (heq | heq)
    all_goals
      have hchars := congrArg String.toList heq
      simp [formLine] at hchars
  rw [bodyLines_createFromForm, List.mem_append, List.mem_append, List.mem_singleton, List.mem_map]
  simp only [hfirst, hends, false_or, or_false]

lemma blank_notMem_name (h : r.IsConsistent) (hp : p ∈ r.properties) : ' ' ∉ p.name.toList := fun hblank =>
  absurd (Record.hasIdentifierChars_name h hp ' ' hblank) (by decide)

/-- The form is read with the fallback of the property only. -/
lemma readsForm_iff (h : r.IsConsistent) (hp : p ∈ r.properties) :
    (createFromForm r).ReadsForm p.name d ↔ d = DataFactory.fallback p := by
  rw [Method.ReadsForm, formLine_mem_bodyLines_iff]
  constructor
  · rintro ⟨q, hq, heq⟩
    obtain ⟨hname, hfallback⟩ := (formLine_inj (blank_notMem_name h hq) (blank_notMem_name h hp)).1 heq
    obtain rfl := Record.eq_of_foldCase_name h hq hp (congrArg foldCase hname)
    exact hfallback.symm
  · rintro rfl
    exact ⟨p, hp, rfl⟩

/-- The data object has the same for its default. -/
lemma hasDefault_iff (h : r.IsConsistent) (hp : p ∈ r.properties) :
    (Data.unit r).declaration.HasDefault p.name d ↔ d = DataFactory.fallback p := by
  constructor
  · rintro ⟨m, hm, hname, rfl⟩
    obtain ⟨q, hq, rfl⟩ := List.mem_map.1 hm
    rw [name_dataMember] at hname
    obtain rfl := Record.eq_of_foldCase_name h hq hp (congrArg foldCase hname)
    exact default_dataMember q
  · rintro rfl
    exact ⟨Data.member p, List.mem_map_of_mem hp, name_dataMember p, default_dataMember p⟩

/-- Each property of a record that passes the check has one default in the data object, or none, and the form is read
with exactly this fallback. -/
theorem form_falls_back_to_the_default (config : Config) (r : Record) (h : r.validate = .ok ()) :
    ∃ data factory m, unit config r .data = .ok data ∧ unit config r .dataFactory = .ok factory ∧
      factory.declaration.method? "createFromFormArray" = some m ∧
        ∀ p ∈ r.properties, (∃! d, data.declaration.HasDefault p.name d) ∧
          ∀ d, data.declaration.HasDefault p.name d ↔ m.ReadsForm p.name d := by
  have hconsistent := Record.isConsistent_of_validate h
  refine ⟨Data.unit r, DataFactory.unit r, createFromForm r, rfl, rfl, rfl, fun p hp => ⟨?_, fun d => ?_⟩⟩
  · exact ⟨DataFactory.fallback p, (hasDefault_iff hconsistent hp).2 rfl, fun d => (hasDefault_iff hconsistent hp).1⟩
  · rw [hasDefault_iff hconsistent hp, readsForm_iff hconsistent hp]

/-- A voucher with a property of each kind. -/
def voucher : Record where
  space := "App\\Model"
  entityName := "Voucher"
  properties :=
    [{ name := "labels", expression := "Label[]", storage := none, nullable := true, modifiers := {}
       kind := .relation (.build "App\\Model\\Label" .manyToMany false none false) },
      { name := "title", expression := "?string", storage := some "string", nullable := true, modifiers := {}
        kind := .scalar "string" (some "?? it's new") },
      { name := "owner", expression := "?User", storage := none, nullable := true, modifiers := {}
        kind := .relation (.build "App\\Model\\User" .manyToOne false none false) },
      { name := "number", expression := "int", storage := some "integer", nullable := false, modifiers := {}
        kind := .scalar "int" none }]

/-- Only the number of a voucher has to be given. -/
theorem voucher_falls_back : voucher.validate = .ok () ∧
    ∃ data factory m, unit {} voucher .data = .ok data ∧ unit {} voucher .dataFactory = .ok factory ∧
      factory.declaration.method? "createFromFormArray" = some m ∧
        (data.declaration.members.map fun d => (d.name, d.default)) =
            [("labels", some "[]"), ("title", some "'?? it\\'s new'"), ("owner", some "null"), ("number", none)] ∧
          ∀ p ∈ voucher.properties, (∃! d, data.declaration.HasDefault p.name d) ∧
            ∀ d, data.declaration.HasDefault p.name d ↔ m.ReadsForm p.name d := by
  have hvalid : voucher.validate = .ok () := by decide
  have hdefaults : ((Data.unit voucher).declaration.members.map fun d => (d.name, d.default)) =
      [("labels", some "[]"), ("title", some "'?? it\\'s new'"), ("owner", some "null"), ("number", none)] := by
    decide
  obtain ⟨data, factory, m, hdata, hfactory, hm, hall⟩ := form_falls_back_to_the_default {} voucher hvalid
  obtain rfl : Data.unit voucher = data := Except.ok.inj hdata
  exact ⟨hvalid, _, factory, m, rfl, hfactory, hm, hdefaults, hall⟩

end Scaffold

end EntityScaffold
