import EntityScaffold.Proofs.Scaffold.Lookups
/-!
# Names in the entity

The entity has methods of its own beside the getters of the properties, and a compiler does not tell methods apart by
case.  A getter is called after its property, with a capital, so two things have to be known of the properties: that
their names differ by more than case, and that none of them has a getter that is there already.  The reserved names
are exactly the names of which this is true (`foldCase_getter_mem_iff`), so the check of a name turns down all of them
and no other.

Members are told apart by case; they are the identifier and the properties, and the identifier is reserved as well.
-/

namespace EntityScaffold.Scaffold

open Source Artifact Text

attribute [local irreducible] ClassName.qualify Config.usesUuid

variable {config : Config} {r : Record} {p : Property} {name : String}

/-- The methods that an entity can have beside the getters of its properties. -/
def otherNames : List String := ["__construct", "edit", "getData", "getId"]

/-- Those that the entity of a record has; it is edited only where that is wanted. -/
def ownMethodNames (r : Record) : List String :=
  "__construct" :: ((if r.features.edit then ["edit", "getData"] else []) ++ ["getId"])

/-- The names of the getters of a record. -/
def getterNames (r : Record) : List String := r.propertyNames.map fun name => "get" ++ capitalize name

lemma ownMethodNames_sublist (r : Record) : (ownMethodNames r).Sublist otherNames := by
  unfold ownMethodNames
  by_cases hedit : r.features.edit = true
  · rw [if_pos hedit]
    exact List.Sublist.refl _
  · rw [if_neg hedit]
    decide

/-! ## Getters -/

lemma foldCase_getter (hp : HasIdentifierChars p.name) :
    foldCase (Entity.getter p).name = "get" ++ foldCase p.name := by
  show foldCase ("get" ++ capitalize p.name) = _
  rw [foldCase_append, hp.foldCase_capitalize]
  rfl

/-- A getter is called like another method, in any case, exactly if the name of its property is reserved. -/
theorem foldCase_getter_mem_iff (hp : HasIdentifierChars p.name) :
    foldCase (Entity.getter p).name ∈ otherNames.map foldCase ↔
      foldCase p.name ∈ Property.reservedNames.map (·.1) := by
  have hothers : otherNames.map foldCase = ["__construct", "edit", "get" ++ "data", "get" ++ "id"] := by decide
  have hconstruct (s : String) : "get" ++ s ≠ "__construct" := fun heq => by
    have hchars := congrArg String.toList heq
    simp at hchars
  have hedit (s : String) : "get" ++ s ≠ "edit" := fun heq => by
    have hchars := congrArg String.toList heq
    simp at hchars
  rw [foldCase_getter hp, hothers]
  simp only [List.mem_cons, List.not_mem_nil, or_false, hconstruct, hedit, false_or, String.append_right_inj]
  exact ⟨fun h => by simpa [Property.reservedNames] using h.symm, fun h => by
    simpa [Property.reservedNames, or_comm] using h⟩

/-- No getter is called like another method, in any case. -/
lemma foldCase_getter_notMem (h : r.IsConsistent) (hp : p ∈ r.properties) :
    foldCase (Entity.getter p).name ∉ otherNames.map foldCase :=
  mt (foldCase_getter_mem_iff (Record.hasIdentifierChars_name h hp)).1 (Record.foldCase_name_notMem_reserved h hp)

lemma name_getter_notMem (h : r.IsConsistent) (hp : p ∈ r.properties) :
    (Entity.getter p).name ∉ otherNames :=
  fun hmem => foldCase_getter_notMem h hp (List.mem_map_of_mem hmem)

lemma getterNames_eq (r : Record) : getterNames r = r.properties.map fun p => (Entity.getter p).name := by
  rw [getterNames, Record.propertyNames, List.map_map]
  rfl

lemma nodup_foldCase_getterNames (h : r.IsConsistent) : ((getterNames r).map foldCase).Nodup := by
  rw [getterNames_eq, List.map_map]
  refine h.distinct.of_map.map_on ?_
  intro p hp q hq heq
  simp only [Function.comp_apply, foldCase_getter (Record.hasIdentifierChars_name h hp),
    foldCase_getter (Record.hasIdentifierChars_name h hq)] at heq
  exact Record.eq_of_foldCase_name h hp hq ((String.append_right_inj "get").1 heq)

/-! ## Methods -/

/-- The methods of an entity are its own and the getters, in this order. -/
lemma methodNames_entity (config : Config) (r : Record) :
    (Entity.unit config r).declaration.methodNames = ownMethodNames r ++ getterNames r := by
  show (Entity.methods config r).map (·.name) = _
  rw [Entity.methods, List.map_append, List.map_map, getterNames_eq]
  by_cases hedit : r.features.edit = true
  · rw [ownMethodNames, if_pos hedit, if_pos hedit]
    rfl
  · rw [ownMethodNames, if_neg hedit, if_neg hedit]
    rfl

/-- No two methods of an entity have one name, in any case. -/
lemma nodup_foldCase_methodNames (h : r.IsConsistent) (config : Config) :
    ((Entity.unit config r).declaration.methodNames.map foldCase).Nodup := by
  have hown := (ownMethodNames_sublist r).map foldCase
  have hdistinct : (otherNames.map foldCase).Nodup := by decide
  rw [methodNames_entity, List.map_append]
  refine (hdistinct.sublist hown).append (nodup_foldCase_getterNames h) ?_
  intro key hkey hgetter
  rw [getterNames_eq, List.map_map] at hgetter
  obtain ⟨p, hp, rfl⟩ := List.mem_map.1 hgetter
  exact foldCase_getter_notMem h hp (hown.subset hkey)

/-- No method of an entity is hidden by another. -/
theorem nodup_methodNames (h : r.IsConsistent) (config : Config) :
    (Entity.unit config r).declaration.methodNames.Nodup :=
  (nodup_foldCase_methodNames h config).of_map _

/-- Methods are called by identifiers, of which the lower case is that of ASCII. -/
lemma lower_methodName (h : r.IsConsistent) (hname : name ∈ (Entity.unit config r).declaration.methodNames) :
    lower name = foldCase name := by
  have hchars : HasIdentifierChars name := by
    have hothers : ∀ other ∈ otherNames, HasIdentifierChars other := by decide
    rw [methodNames_entity, List.mem_append, getterNames_eq, List.mem_map] at hname
    rcases hname with hown | ⟨p, hp, rfl⟩
    · exact hothers name ((ownMethodNames_sublist r).subset hown)
    · exact HasIdentifierChars.append (by decide) (Record.hasIdentifierChars_name h hp).capitalize
  exact lower_of_ascii fun c hc => toNat_lt_of_isIdentifierChar (hchars c hc)

/-! ## The entity of a record -/

/-- The entity of a record that passes the check has its own methods and a getter for each property, which all differ
by more than case, and the identifier and the properties as members, which differ; only where a number cannot be shown
there is no entity. -/
theorem names_of_entity_are_distinct (config : Config) (r : Record) (h : r.validate = .ok ()) :
    HasUnits config r fun us => ∀ entity, (.entity, entity) ∈ us →
      entity.declaration.methodNames = ownMethodNames r ++ getterNames r ∧
        (entity.declaration.methodNames.map lower).Nodup ∧
          entity.declaration.members.map (·.name) = "id" :: r.propertyNames ∧
            (entity.declaration.members.map (·.name)).Nodup := by
  have hconsistent := Record.isConsistent_of_validate h
  refine hasUnits h config fun entity hentity => ?_
  rw [eq_unitAt hentity]
  refine ⟨methodNames_entity config r, ?_, names_members config r, nodup_members hconsistent config⟩
  show ((Entity.unit config r).declaration.methodNames.map lower).Nodup
  rw [List.map_congr_left fun name => lower_methodName hconsistent]
  exact nodup_foldCase_methodNames hconsistent config

/-- A form, with properties that are called almost like the entity's own names. -/
def form : Record where
  space := "App\\Model"
  entityName := "Form"
  properties :=
    [{ name := "_id", expression := "int", kind := .scalar "int" none, storage := some "integer"
       nullable := false, modifiers := {} },
      { name := "DataSet", expression := "string", kind := .scalar "string" none, storage := some "string"
        nullable := false, modifiers := {} },
      { name := "edit", expression := "?User", storage := none, nullable := true, modifiers := {}
        kind := .relation (.build "App\\Model\\User" .manyToOne false none false) }]

theorem names_of_form_are_distinct : form.validate = .ok () ∧
    ∃ us, units {} form = .ok us ∧ us.map (·.1) = artifacts form ∧ ∀ entity, (.entity, entity) ∈ us →
      entity.declaration.methodNames =
          ["__construct", "edit", "getData", "getId", "get_id", "getDataSet", "getEdit"] ∧
        (entity.declaration.methodNames.map lower).Nodup ∧
          entity.declaration.members.map (·.name) = ["id", "_id", "DataSet", "edit"] ∧
            (entity.declaration.members.map (·.name)).Nodup := by
  have hvalid : form.validate = .ok () := by decide
  have hnames : ownMethodNames form ++ getterNames form =
      ["__construct", "edit", "getData", "getId", "get_id", "getDataSet", "getEdit"] := by decide
  obtain ⟨us, hunits, hartifacts, hentity⟩ := (names_of_entity_are_distinct {} form hvalid).exists_units (by decide)
  refine ⟨hvalid, us, hunits, hartifacts, fun entity hmem => ?_⟩
  obtain ⟨hmethods, hkeys, hmembers, hdistinct⟩ := hentity entity hmem
  exact ⟨hmethods.trans hnames, hkeys, hmembers, hdistinct⟩

end EntityScaffold.Scaffold
