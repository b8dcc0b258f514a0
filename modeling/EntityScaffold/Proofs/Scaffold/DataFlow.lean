import EntityScaffold.Proofs.Scaffold.EntityNames
import EntityScaffold.Proofs.Source.Flow
/-!
# Entity, data object and form agree

The properties of a record go through five loops: over the members of the entity, its getters and its bodies,
over the members of the data object, and over the keys of the form.  Each loop distinguishes the properties in
its own way.  Here the results are compared: all of them name the same properties in the same order, give them
the same types, and carry every value over from the place of its name to the place of its name, once and without
touching anything else (`Carries`).

The form is the odd one out.  A key that may be left out has a fallback, which is the default of the property as it is
printed, and a default that stands between quotes or brackets already is printed as it stands.  Where it is more than a
value, so is the statement that it is pasted into; the form fills the data object and does nothing besides exactly if
all fallbacks are inert (`fillsData_createFromForm_iff`).

A getter would be hidden by another method of its name, but methods differ in their names (`nodup_methodNames`), so
each is found by its own.
-/

namespace EntityScaffold

open Source Artifact Text

/-! ## Types -/

/-- The type of a member, and whether it may be null. -/
def Source.Member.typing (m : Member) : Option String × Bool := (m.type, m.nullable)

/-- The type of what a method gives, and whether it may be null. -/
def Source.Method.typing (m : Method) : Option String × Bool := (m.returnType, m.returnNullable)

namespace Scaffold

attribute [local irreducible] ClassName.qualify Config.usesUuid

variable {config : Config} {r : Record} {p q : Property} {m : Method}

/-- The member of the entity, the member of the data object and the getter of a property have the same type.
Any number of entities is a collection in the entity and an array in the data object, and neither is ever null. -/
structure SharesType (p : Property) (own stored : Member) (getter : Method) : Prop where
  own_name : own.name = p.name
  stored_name : stored.name = p.name
  getter_gives : getter.flows = [⟨none, [.member "this" p.name]⟩]
  single : p.isCollection = false → own.typing = (some p.typeHint, p.nullable) ∧
    stored.typing = own.typing ∧ getter.typing = own.typing
  many : p.isCollection = true → own.typing = (some collection, false) ∧ getter.typing = own.typing ∧
    stored.typing = (some "array", false)

lemma typing_member (r : Record) (p : Property) : (Entity.member r p).typing =
    if p.isCollection then (some collection, false) else (some p.typeHint, p.nullable) := by
  unfold Entity.member Property.isCollection Property.relation? Property.typeHint
  cases p.kind with
  | scalar type default => rfl
  | relation relation => by_cases hmany : relation.kind.isToMany = true <;> simp [hmany, Member.typing]

lemma sharesType (r : Record) (p : Property) :
    SharesType p (Entity.member r p) (Data.member p) (Entity.getter p) := by
  have hown := typing_member r p
  by_cases hmany : p.isCollection = true
  · rw [if_pos hmany] at hown
    refine ⟨name_member r p, ?_, rfl, fun hsingle => ?_, fun _ => ⟨hown, ?_, ?_⟩⟩
    · simp [Data.member, hmany]
    · rw [hmany] at hsingle
      cases hsingle
    · rw [hown]
      simp [Method.typing, Entity.getter, hmany]
    · simp [Member.typing, Data.member, hmany]
  · rw [if_neg hmany] at hown
    refine ⟨name_member r p, ?_, rfl, fun _ => ⟨hown, ?_, ?_⟩, fun hcollection => absurd hcollection hmany⟩
    · simp [Data.member, hmany]
    · rw [hown]
      simp [Member.typing, Data.member, hmany]
    · rw [hown]
      simp [Method.typing, Entity.getter, hmany]

/-! ## Methods by name -/

lemma method?_getter (h : r.IsConsistent) (config : Config) (hp : p ∈ r.properties) :
    (Entity.unit config r).declaration.method? ("get" ++ capitalize p.name) = some (Entity.getter p) :=
  Declaration.method?_of_mem (nodup_methodNames h config) (List.mem_append_right _ (List.mem_map_of_mem hp))

/-- The method that reads back is there only where the entity can be edited. -/
lemma method?_getData_eq_none (h : r.IsConsistent) (config : Config) (hedit : r.features.edit = false) :
    (Entity.unit config r).declaration.method? "getData" = none := by
  refine List.find?_eq_none.2 fun m hm hname => ?_
  have hmem : "getData" ∈ (Entity.unit config r).declaration.methodNames := by
    rw [← beq_iff_eq.1 hname]
    exact List.mem_map_of_mem hm
  rw [methodNames_entity, List.mem_append, getterNames_eq, List.mem_map] at hmem
  rcases hmem with hown | ⟨p, hp, hgetter⟩
  · rw [ownMethodNames, hedit] at hown
    exact absurd hown (by decide)
  · refine name_getter_notMem h hp ?_
    rw [hgetter]
    decide

/-! ## Bodies -/

/-- The identifier is taken over where the application makes them. -/
def identifierFlows (config : Config) : List Flow :=
  if config.usesUuid then [⟨some (.member "this" "id"), [.variable "id"]⟩] else []

lemma flowsOf_identifier (config : Config) :
    flowsOf (if config.usesUuid then [.assign (.own "id") (.var "id")] else []) = identifierFlows config := by
  unfold identifierFlows
  split
  · rfl
  · rfl

/-- The values of all properties are taken from the members of the data object into those of the entity. -/
lemma flowsOf_assignments (r : Record) : flowsOf (r.properties.map Entity.assignment) =
    transfer (.member "data") (.member "this") r.propertyNames := by
  rw [transfer, Record.propertyNames, List.map_map]
  refine flowsOf_map fun p _ => ?_
  unfold Entity.assignment
  split
  · rfl
  · rfl

lemma flowsOf_copies (r : Record) : flowsOf (r.properties.map Entity.copyBack) =
    transfer (.member "this") (.member "data") r.propertyNames := by
  rw [transfer, Record.propertyNames, List.map_map]
  refine flowsOf_map fun p _ => ?_
  unfold Entity.copyBack
  split
  · rfl
  · rfl

/-- The form fills the members one by one, and what the fallbacks do comes on top of that. -/
lemma flowsOf_form_iff (r : Record) :
    flowsOf (r.properties.map fun p => .assign (.member (.var "data") p.name) (DataFactory.formValue p)) =
        transfer (.item "formData") (.member "data") r.propertyNames ↔
      ∀ p ∈ r.properties, ∀ literal, DataFactory.fallback p = some literal → Literal.isInert literal = true := by
  have hflows : ∀ p ∈ r.properties,
      (Statement.assign (.member (.var "data") p.name) (DataFactory.formValue p)).flows =
        ⟨some (.member "data" p.name), [.item "formData" p.name]⟩ ::
          (DataFactory.fallback p).toList.flatMap pasteFlows := by
    intro p _
    unfold DataFactory.formValue
    cases DataFactory.fallback p with
    | none => rfl
    | some literal => rfl
  rw [transfer, Record.propertyNames, List.map_map]
  refine (flowsOf_map_eq_iff hflows).trans (forall₂_congr fun p _ => ?_)
  cases DataFactory.fallback p with
  | none => simp
  | some literal => simp [pasteFlows]

/-- Collections are there before anything is put into them. -/
lemma flowsOf_collections (r : Record) :
    flowsOf ((r.properties.filter (·.isCollection)).map Entity.emptyCollection) =
      (r.properties.filter (·.isCollection)).map fun p => ⟨some (.member "this" p.name), []⟩ :=
  flowsOf_map fun _ _ => rfl

/-! ## Agreement -/

/-- A method takes the data object. -/
def TakesData (data : SourceUnit) (m : Method) : Prop :=
  ("data", some data.qualifiedName) ∈ m.parameters.map fun p => (p.name, p.type)

/-- A method makes a data object, fills each of its members from the place of the same name, and gives it back. -/
structure FillsData (data : SourceUnit) (source : String → Place) (names : List String) (m : Method) : Prop where
  result : m.returnType = some data.qualifiedName
  fresh : m.body.head? = some (.assign (.var "data") (.create data.declaration.name []))
  flows : m.flows = ⟨some (.variable "data"), []⟩ ::
    (transfer source (.member "data") names ++ [⟨none, [.variable "data"]⟩])

/-- The entity and the data object have the properties of a record, and carry their values over.  The entity takes
them in the method that edits, or in its constructor where it cannot be edited; with that method, its constructor
only makes the collections. -/
structure Carries (config : Config) (r : Record) (entity data : SourceUnit) : Prop where
  data_members : data.declaration.members.map (·.name) = r.propertyNames
  entity_members : entity.declaration.members.map (·.name) = "id" :: r.propertyNames
  distinct : ("id" :: r.propertyNames).Nodup
  types : ∀ p ∈ r.properties, ∃ own ∈ entity.declaration.members, ∃ stored ∈ data.declaration.members, ∃ getter,
    entity.declaration.method? ("get" ++ capitalize p.name) = some getter ∧ SharesType p own stored getter
  taken : ∃ m, entity.declaration.method? (if r.features.edit then "edit" else "__construct") = some m ∧
    TakesData data m ∧
      m.flows = (if r.features.edit then [] else identifierFlows config) ++
        transfer (.member "data") (.member "this") r.propertyNames
  begun : r.features.edit = true → ∃ m, entity.declaration.method? "__construct" = some m ∧ TakesData data m ∧
    m.flows = identifierFlows config ++
      (r.properties.filter (·.isCollection)).map (fun p => ⟨some (.member "this" p.name), []⟩) ++
        [⟨none, [.variable "this", .variable "data"]⟩]
  given_back : if r.features.edit then
      ∃ m, entity.declaration.method? "getData" = some m ∧
        FillsData data (.member "this") r.propertyNames m
    else entity.declaration.method? "getData" = none

lemma qualifiedName_data (r : Record) : (Data.unit r).qualifiedName = r.qualifiedName .data := rfl

lemma takesData_edit (r : Record) : TakesData (Data.unit r) (Entity.edit r) := by
  rw [TakesData, qualifiedName_data]
  exact List.mem_singleton_self _

lemma takesData_constructor (config : Config) (r : Record) :
    TakesData (Data.unit r) (Entity.constructor config r) := by
  rw [TakesData, qualifiedName_data, Entity.constructor, List.map_append]
  exact List.mem_append_right _ (List.mem_singleton_self _)

/-- The method that reads back fills a data object from the members of the entity. -/
lemma fillsData_getData (r : Record) :
    FillsData (Data.unit r) (.member "this") r.propertyNames (Entity.getData r) where
  result := rfl
  fresh := rfl
  flows := by
    show flowsOf (Entity.getDataBody r) = _
    rw [Entity.getDataBody, flowsOf_append, flowsOf_append, flowsOf_copies]
    rfl

/-- The method of the data factory. -/
def createFromForm (r : Record) : Method :=
  { name := "createFromFormArray"
    parameters := [{ name := "formData", type := some "array" }]
    returnType := some (r.qualifiedName .data)
    body := DataFactory.body r }

/-- It fills the data object from the form, and does nothing besides exactly if all fallbacks are inert. -/
theorem fillsData_createFromForm_iff (r : Record) :
    FillsData (Data.unit r) (.item "formData") r.propertyNames (createFromForm r) ↔
      ∀ p ∈ r.properties, ∀ literal, DataFactory.fallback p = some literal → Literal.isInert literal = true := by
  have hflows : (createFromForm r).flows = ⟨some (.variable "data"), []⟩ ::
      (flowsOf (r.properties.map fun p => .assign (.member (.var "data") p.name) (DataFactory.formValue p)) ++
        [⟨none, [.variable "data"]⟩]) := by
    show flowsOf (DataFactory.body r) = _
    rw [DataFactory.body, flowsOf_append, flowsOf_append]
    rfl
  rw [← flowsOf_form_iff]
  constructor
  · intro h
    have hfills := h.flows
    rw [hflows, List.cons.injEq, and_iff_right rfl] at hfills
    exact List.append_cancel_right hfills
  · intro h
    refine ⟨rfl, rfl, ?_⟩
    rw [hflows, h]

lemma carries (h : r.IsConsistent) (config : Config) : Carries config r (Entity.unit config r) (Data.unit r) := by
  have hstored (p : Property) : (Data.member p).name = p.name := (sharesType r p).stored_name
  have hconstructor : (Entity.unit config r).declaration.method? "__construct" =
      some (Entity.constructor config r) := rfl
  refine ⟨?_, ?_, nodup_memberNames h, ?_, ?_, ?_, ?_⟩
  · show (r.properties.map Data.member).map (·.name) = _
    rw [List.map_map]
    exact List.map_congr_left fun p _ => hstored p
  · exact names_members config r
  · intro p hp
    refine ⟨Entity.member r p, List.mem_cons_of_mem _ (List.mem_map_of_mem hp), Data.member p,
      List.mem_map_of_mem hp, Entity.getter p, method?_getter h config hp, sharesType r p⟩
  · by_cases hedit : r.features.edit = true
    · rw [if_pos hedit, if_pos hedit]
      refine ⟨Entity.edit r, ?_, takesData_edit r, flowsOf_assignments r⟩
      show (Entity.methods config r).find? _ = _
      rw [Entity.methods, if_pos hedit]
      rfl
    · rw [if_neg hedit, if_neg hedit]
      refine ⟨Entity.constructor config r, hconstructor, takesData_constructor config r, ?_⟩
      show flowsOf (Entity.constructorBody config r) = _
      rw [Entity.constructorBody, if_neg hedit, flowsOf_append, flowsOf_identifier, flowsOf_assignments]
  · intro hedit
    refine ⟨Entity.constructor config r, hconstructor, takesData_constructor config r, ?_⟩
    show flowsOf (Entity.constructorBody config r) = _
    rw [Entity.constructorBody, if_pos hedit, flowsOf_append, flowsOf_append, flowsOf_identifier,
      flowsOf_collections, List.append_assoc]
    rfl
  · by_cases hedit : r.features.edit = true
    · rw [if_pos hedit]
      refine ⟨Entity.getData r, ?_, fillsData_getData r⟩
      show (Entity.methods config r).find? _ = _
      rw [Entity.methods, if_pos hedit]
      rfl
    · rw [if_neg hedit]
      exact method?_getData_eq_none h config (Bool.eq_false_iff.2 hedit)

/-- The entity and the data object of a record that passes the check agree on every property: they have the same
properties in the same order and with the same types, and carry each value over exactly once, between places of one
name, without reading or writing anything else.  The form does so exactly if all fallbacks are inert.  Only where a
number cannot be shown there are no units. -/
theorem entity_data_and_form_agree_iff (config : Config) (r : Record) (h : r.validate = .ok ()) :
    HasUnits config r fun us =>
      ∀ data, (.data, data) ∈ us →
        (∀ entity, (.entity, entity) ∈ us → Carries config r entity data) ∧
          ∀ factory, (.dataFactory, factory) ∈ us →
            ∃ m, factory.declaration.method? "createFromFormArray" = some m ∧
              ("formData", some "array") ∈ m.parameters.map (fun p => (p.name, p.type)) ∧
                (FillsData data (.item "formData") r.propertyNames m ↔
                  ∀ p ∈ r.properties, ∀ literal, DataFactory.fallback p = some literal →
                    Literal.isInert literal = true) := by
  have hconsistent : r.IsConsistent := Record.isConsistent_of_validate h
  refine hasUnits h config fun data hdata => ?_
  rw [eq_unitAt hdata]
  constructor
  · intro entity hentity
    rw [eq_unitAt hentity]
    exact carries hconsistent config
  · intro factory hfactory
    rw [eq_unitAt hfactory]
    exact ⟨createFromForm r, rfl, List.mem_singleton_self _, fillsData_createFromForm_iff r⟩

/-- A journal with a property of each kind, of which one begins with a capital. -/
def journal : Record where
  space := "App\\Model"
  entityName := "Journal"
  properties :=
    [{ name := "ISSN", expression := "string", kind := .scalar "string" none, storage := some "string"
       nullable := true, modifiers := {} },
      { name := "editor", expression := "?User", storage := none, nullable := true, modifiers := {}
        kind := .relation (.build "App\\Model\\User" .manyToOne false none false) },
      { name := "issues", expression := "Issue", storage := none, nullable := true, modifiers := {}
        kind := .relation (.build "App\\Model\\Issue" .oneToMany false none false) }]

theorem journal_carries_its_values :
    journal.validate = .ok () ∧ ∃ us, units {} journal = .ok us ∧ us.map (·.1) = artifacts journal ∧
      ∀ data, (.data, data) ∈ us →
        (∀ entity, (.entity, entity) ∈ us → Carries {} journal entity data) ∧
          ∀ factory, (.dataFactory, factory) ∈ us →
            ∃ m, factory.declaration.method? "createFromFormArray" = some m ∧
              ("formData", some "array") ∈ m.parameters.map (fun p => (p.name, p.type)) ∧
                FillsData data (.item "formData") journal.propertyNames m := by
  have hvalid : journal.validate = .ok () := by decide
  have hinert : ∀ p ∈ journal.properties, ∀ literal, DataFactory.fallback p = some literal →
      Literal.isInert literal = true := by
    have hfallbacks : ∀ p ∈ journal.properties, (DataFactory.fallback p).all Literal.isInert = true := by decide
    intro p hp literal hliteral
    have hall := hfallbacks p hp
    rwa [hliteral] at hall
  obtain ⟨us, hunits, hartifacts, hagree⟩ :=
    (entity_data_and_form_agree_iff {} journal hvalid).exists_units (by decide)
  refine ⟨hvalid, us, hunits, hartifacts, fun data hdata => ?_⟩
  obtain ⟨hentity, hform⟩ := hagree data hdata
  refine ⟨hentity, fun factory hfactory => ?_⟩
  obtain ⟨m, hm, hparameters, hfills⟩ := hform factory hfactory
  exact ⟨m, hm, hparameters, hfills.2 hinert⟩

/-- A user whose role was given a default that ends early. -/
def roleUser : Record where
  space := "App\\Model"
  entityName := "User"
  properties :=
    [{ name := "role", expression := "string", storage := some "string", nullable := false, modifiers := {}
       kind := .scalar "string" (some "'user'; $data->level = 'admin'") },
      { name := "level", expression := "string", storage := some "string", nullable := false, modifiers := {}
        kind := .scalar "string" none }]

/-- The form of such a user takes the level from the form, and before that from the default of the role. -/
theorem roleUser_is_levelled_twice : roleUser.validate = .ok () ∧
    ∃ us factory m, units {} roleUser = .ok us ∧ (.dataFactory, factory) ∈ us ∧
      factory.declaration.method? "createFromFormArray" = some m ∧
        "$data->role = $formData['role'] ?? 'user'; $data->level = 'admin';" ∈ bodyLines m.body ∧
          "$data->level = $formData['level'];" ∈ bodyLines m.body ∧
            ¬ FillsData (Data.unit roleUser) (.item "formData") roleUser.propertyNames m := by
  have hvalid : roleUser.validate = .ok () := by decide
  have hfactory : Artifact.dataFactory ∈ artifacts roleUser := by decide
  refine ⟨hvalid, _, _, createFromForm roleUser, units_eq hvalid (by decide) {}, List.mem_map_of_mem hfactory, rfl,
    by decide, by decide, ?_⟩
  rw [fillsData_createFromForm_iff]
  intro hall
  exact absurd (hall roleUser.properties.head! List.mem_cons_self _ rfl) (by decide)

end Scaffold

end EntityScaffold
