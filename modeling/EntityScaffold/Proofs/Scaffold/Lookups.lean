import EntityScaffold.Proofs.Naming.Words
import EntityScaffold.Proofs.Property
import EntityScaffold.Proofs.Record.Assembly
import EntityScaffold.Proofs.Scaffold.FacadeCalls
/-!
# What lookups look up

A lookup by a field queries one column, and the columns of a table are the members of the entity class.  The entity
takes the name of the field as it is, the repository lowers its first character.  So the two agree exactly on the
fields that do not begin with a capital (`lookups_query_members_iff`), and where they do not, the query is for a
column that no member has: names of properties differ by more than case, and none of them is called like the
identifier in any case.
-/

namespace EntityScaffold

open Source Artifact Text

/-- The columns by which the body of a method looks rows up. -/
def Source.Method.criteria (m : Method) : List String :=
  m.body.filterMap fun
    | .find _ _ column _ => some column
    | _ => none

/-- The fields of a lookup. -/
def Record.lookupFields (r : Record) : Lookup → List String
  | .single => r.getBy
  | .multi => r.getAllBy

namespace Record

variable {r : Record} {name : String} {p q : Property}

/-- What is found under a name has this name. -/
theorem of_property (h : r.property name = .ok p) : p ∈ r.properties ∧ p.name = name := by
  unfold property property? at h
  split at h
  · next hfound =>
    cases h
    exact ⟨List.mem_of_find?_eq_some hfound, by simpa using List.find?_some hfound⟩
  · cases h

/-- A lookup finds a property for each of its names. -/
lemma exists_of_propertiesOf {names : List String} {ps : List Property} (h : r.propertiesOf names = .ok ps)
    (hname : name ∈ names) : ∃ p ∈ ps, p.name = name := by
  have hforall := mapM_eq_ok_iff.1 h
  induction hforall with
  | nil => cases hname
  | cons hfirst hrest ih =>
    rcases List.mem_cons.1 hname with rfl | hname
    · exact ⟨_, List.mem_cons_self, (of_property hfirst).2⟩
    · obtain ⟨p, hp, hpname⟩ := ih (mapM_eq_ok_iff.2 hrest) hname
      exact ⟨p, List.mem_cons_of_mem _ hp, hpname⟩

/-- Properties of a consistent record have names that differ by more than case. -/
theorem eq_of_foldCase_name (h : r.IsConsistent) (hp : p ∈ r.properties) (hq : q ∈ r.properties)
    (heq : foldCase p.name = foldCase q.name) : p = q := by
  refine List.inj_on_of_nodup_map h.distinct hp hq ?_
  have hlower {q : Property} (hq : q ∈ r.properties) : lower q.name = foldCase q.name :=
    lower_of_isIdentifier (Property.isIdentifier_of_checkName (h.names q hq))
  rw [hlower hp, hlower hq, heq]

lemma hasIdentifierChars_name (h : r.IsConsistent) (hp : p ∈ r.properties) : HasIdentifierChars p.name :=
  .of_isIdentifier (Property.isIdentifier_of_checkName (h.names p hp))

lemma eq_of_capitalize_name (h : r.IsConsistent) (hp : p ∈ r.properties) (hq : q ∈ r.properties)
    (heq : capitalize p.name = capitalize q.name) : p = q := by
  refine eq_of_foldCase_name h hp hq ?_
  rw [← (hasIdentifierChars_name h hp).foldCase_capitalize, heq, (hasIdentifierChars_name h hq).foldCase_capitalize]

/-- No property is called like one whose getter the entity has in any case. -/
lemma foldCase_name_notMem_reserved (h : r.IsConsistent) (hp : p ∈ r.properties) :
    foldCase p.name ∉ Property.reservedNames.map (·.1) := by
  obtain ⟨hname, hreserved⟩ := Property.checkName_eq_ok_iff.1 (h.names p hp)
  rwa [← lower_of_isIdentifier hname]

/-- No property is called like the identifier, in any case. -/
lemma foldCase_name_ne_id (h : r.IsConsistent) (hp : p ∈ r.properties) : foldCase p.name ≠ "id" := by
  intro hid
  refine foldCase_name_notMem_reserved h hp ?_
  rw [hid]
  decide

end Record

namespace Scaffold

attribute [local irreducible] ClassName.qualify Config.usesUuid

variable {config : Config} {r : Record} {p q : Property} {m : Method} {single multi : List Property}
  {lookup : Lookup}

/-! ## Methods of the repository -/

/-- The method of a lookup by a property. -/
def lookupMethod (config : Config) (r : Record) : Lookup → Property → Method
  | .single => Repository.getBy config r
  | .multi => Repository.getAllBy config r

lemma name_lookupMethod (config : Config) (r : Record) (lookup : Lookup) (p : Property) :
    (lookupMethod config r lookup p).name = lookup.stem ++ capitalize p.name := by
  cases lookup <;> rfl

lemma criteria_lookupMethod (config : Config) (r : Record) (lookup : Lookup) (p : Property) :
    (lookupMethod config r lookup p).criteria = [uncapitalize p.name] := by
  cases lookup <;> rfl

lemma stem_ne_stem {s t : String} : Lookup.single.stem ++ s ≠ Lookup.multi.stem ++ t := by
  intro heq
  have hchars := congrArg String.toList heq
  simp [Lookup.stem] at hchars

/-- Only lookups are called like lookups. -/
theorem exists_lookupMethod {text : String} (hm : m ∈ Repository.methods config r single multi)
    (hname : m.name = lookup.stem ++ text) : ∃ p ∈ single ++ multi, m = lookupMethod config r lookup p := by
  have hfixed : ∀ name ∈ ["__construct", "getRepository", "get", "getAll", "getQueryBuilderForAll",
      "getQueryBuilderForDataGrid"], m.name ≠ name := by
    have hstem : ∀ name ∈ ["__construct", "getRepository", "get", "getAll", "getQueryBuilderForAll",
        "getQueryBuilderForDataGrid"], ∀ lookup ∈ [Lookup.single, Lookup.multi],
        ¬ lookup.stem.toList <+: name.toList := by decide
    intro name hfixed heq
    refine hstem name hfixed lookup (by cases lookup <;> simp) ?_
    rw [← heq, hname, String.toList_append]
    exact List.prefix_append _ _
  simp only [List.forall_mem_cons] at hfixed
  obtain ⟨hconstruct, hrepository, hget, hgetAll, hforAll, hforGrid, -⟩ := hfixed
  simp only [Repository.methods, List.mem_append, List.mem_cons, List.mem_map, List.not_mem_nil, or_false,
    or_assoc] at hm
  rcases hm with rfl | rfl | rfl | ⟨p, hp, rfl⟩ | ⟨p, hp, rfl⟩ | hm | rfl | rfl
  · exact absurd rfl hconstruct
  · exact absurd rfl hrepository
  · exact absurd rfl hget
  · cases lookup with
    | single => exact ⟨p, List.mem_append_left _ hp, rfl⟩
    | multi => exact absurd hname stem_ne_stem
  · cases lookup with
    | single => exact absurd hname.symm stem_ne_stem
    | multi => exact ⟨p, List.mem_append_right _ hp, rfl⟩
  · split at hm
    · rw [List.mem_singleton] at hm
      exact absurd (congrArg Method.name hm) hgetAll
    · cases hm
  · exact absurd rfl hforAll
  · exact absurd rfl hforGrid

/-- Every field of a lookup has a method. -/
theorem exists_property_of_lookupFields {field : String} (hsingle : r.propertiesOf r.getBy = .ok single)
    (hmulti : r.propertiesOf r.getAllBy = .ok multi) (hfield : field ∈ r.lookupFields lookup) :
    ∃ p ∈ single ++ multi, p.name = field ∧
      lookupMethod config r lookup p ∈ Repository.methods config r single multi := by
  cases lookup with
  | single =>
    obtain ⟨p, hp, hname⟩ := Record.exists_of_propertiesOf hsingle hfield
    exact ⟨p, List.mem_append_left _ hp, hname, by simp [Repository.methods, lookupMethod, List.mem_map_of_mem hp]⟩
  | multi =>
    obtain ⟨p, hp, hname⟩ := Record.exists_of_propertiesOf hmulti hfield
    exact ⟨p, List.mem_append_right _ hp, hname, by simp [Repository.methods, lookupMethod, List.mem_map_of_mem hp]⟩

/-- The repository of a consistent record is made of the properties that its lookups find. -/
theorem exists_lookups (h : r.IsConsistent) (config : Config) :
    ∃ single multi, r.propertiesOf r.getBy = .ok single ∧ r.propertiesOf r.getAllBy = .ok multi ∧
      (∀ p ∈ single ++ multi, p ∈ r.properties) ∧ unitAt config r .repository = repositoryOf config r single multi := by
  obtain ⟨single, hsingle, hsingles⟩ := Record.exists_propertiesOf h.getBy
  obtain ⟨multi, hmulti, hmultis⟩ := Record.exists_propertiesOf h.getAllBy
  refine ⟨single, multi, hsingle, hmulti, List.forall_mem_append.2 ⟨hsingles, hmultis⟩, unitAt_eq ?_⟩
  show Repository.unit config r = _
  rw [Repository.unit, hsingle, ok_bind, hmulti]
  rfl

/-! ## Columns and members -/

lemma mem_memberNames_entity {name : String} :
    name ∈ (Entity.unit config r).declaration.members.map (·.name) ↔
      name = "id" ∨ ∃ p ∈ r.properties, p.name = name := by
  rw [names_members, List.mem_cons, Record.propertyNames, List.mem_map]

/-- The column of a lookup is a member of the entity exactly if it is the one of the property. -/
lemma uncapitalize_mem_memberNames_iff (h : r.IsConsistent) (hp : p ∈ r.properties) :
    uncapitalize p.name ∈ (Entity.unit config r).declaration.members.map (·.name) ↔
      uncapitalize p.name = p.name := by
  have hfold : foldCase (uncapitalize p.name) = foldCase p.name :=
    (Record.hasIdentifierChars_name h hp).foldCase_uncapitalize
  rw [mem_memberNames_entity]
  constructor
  · rintro (hid | ⟨q, hq, hname⟩)
    · rw [hid] at hfold
      exact absurd hfold.symm (Record.foldCase_name_ne_id h hp)
    · rw [← hname] at hfold ⊢
      rw [Record.eq_of_foldCase_name h hq hp hfold]
  · intro heq
    exact .inr ⟨p, hp, heq.symm⟩

/-- The lookups of an assembled record query the members that their fields name exactly where the fields do not begin
with a capital; otherwise they query what no member is called.  Only where a number cannot be shown, there are no
units. -/
theorem lookups_query_members_iff (config : Config) (draft : Draft) (r : Record) (hr : draft.assemble config = .ok r) :
    HasUnits config r fun us => ∃ repository entity, (.repository, repository) ∈ us ∧ (.entity, entity) ∈ us ∧
        ∀ lookup, ∀ field ∈ r.lookupFields lookup,
          field ∈ entity.declaration.members.map (·.name) ∧
            lookup.stem ++ capitalize field ∈ repository.declaration.methodNames ∧
              ∀ m ∈ repository.declaration.methods, m.name = lookup.stem ++ capitalize field →
                ∃ key, m.criteria = [key] ∧ (key ∈ entity.declaration.members.map (·.name) ↔ key = field) ∧
                  (key = field ↔ ∀ c ∈ field.toList.head?, Naming.isCapital c = false) := by
  have hvalid := Draft.validate_of_assemble hr
  have h := Record.isConsistent_of_validate hvalid
  obtain ⟨singles, multis, hsingle, hmulti, hlisted, hunit⟩ := exists_lookups h config
  have hmem {a : Artifact} (ha : a ∈ artifacts r) :
      (a, unitAt config r a) ∈ (artifacts r).map fun a => (a, unitAt config r a) := List.mem_map_of_mem ha
  have hrepository : Artifact.repository ∈ artifacts r := by simp [artifacts]
  have hentity : Artifact.entity ∈ artifacts r := by simp [artifacts]
  refine hasUnits hvalid config ⟨repositoryOf config r singles multis, Entity.unit config r,
    hunit ▸ hmem hrepository, hmem hentity, ?_⟩
  intro lookup field hfield
  obtain ⟨p, hp, rfl, hfound⟩ := exists_property_of_lookupFields hsingle hmulti hfield
  have hp : p ∈ r.properties := hlisted p hp
  refine ⟨mem_memberNames_entity.2 (.inr ⟨p, hp, rfl⟩),
    List.mem_map.2 ⟨_, hfound, name_lookupMethod config r lookup p⟩, fun m hm hname => ?_⟩
  obtain ⟨q, hq, rfl⟩ := exists_lookupMethod hm hname
  rw [name_lookupMethod] at hname
  obtain rfl := Record.eq_of_capitalize_name h (hlisted q hq) hp ((String.append_right_inj _).1 hname)
  exact ⟨_, criteria_lookupMethod config r lookup q, uncapitalize_mem_memberNames_iff h hp,
    (Record.hasIdentifierChars_name h hp).uncapitalize_eq_self_iff⟩

/-- A book, looked up by a field that begins with a capital and by one that does not. -/
def book : Draft where
  space := "App\\Model"
  entityName := "Book"
  properties :=
    [{ name := "Title", expression := "string", kind := .scalar "string" none, storage := some "string"
       nullable := false, modifiers := {} },
      { name := "shelf", expression := "int", kind := .scalar "int" none, storage := some "integer"
        nullable := false, modifiers := {} }]
  getBy := .list [.text "Title"]
  getAllBy := .list [.text "shelf"]

/-- The record of a book. -/
def bookRecord : Record where
  space := "App\\Model"
  entityName := "Book"
  properties := book.properties
  getBy := ["Title"]
  getAllBy := ["shelf"]
  traits := [("Timestampable", "Gedmo\\Timestampable\\Traits\\TimestampableEntity")]

theorem book_is_found_by_shelf_only : book.assemble {} = .ok bookRecord ∧
    ∃ us repository entity, units {} bookRecord = .ok us ∧ (.repository, repository) ∈ us ∧ (.entity, entity) ∈ us ∧
      ∀ m ∈ repository.declaration.methods,
        (m.name = "getAllByShelf" → m.criteria = ["shelf"] ∧ "shelf" ∈ entity.declaration.members.map (·.name)) ∧
          (m.name = "getByTitle" → ∀ key ∈ m.criteria, key ∉ entity.declaration.members.map (·.name)) := by
  have hassembled : book.assemble {} = .ok bookRecord := by decide +kernel
  have hshelf : Lookup.multi.stem ++ capitalize "shelf" = "getAllByShelf" := by decide
  have htitle : Lookup.single.stem ++ capitalize "Title" = "getByTitle" := by decide
  obtain ⟨us, hunits, -, repository, entity, hrepository, hentity, hlookups⟩ :=
    (lookups_query_members_iff {} book bookRecord hassembled).exists_units (by decide)
  refine ⟨hassembled, us, repository, entity, hunits, hrepository, hentity,
    fun m hm => ⟨fun hname => ?_, fun hname => ?_⟩⟩
  · obtain ⟨hmember, -, hmethods⟩ := hlookups .multi "shelf" (List.mem_singleton_self _)
    obtain ⟨key, hcriteria, -, hsmall⟩ := hmethods m hm (hname.trans hshelf.symm)
    have hfirst : ∀ c ∈ "shelf".toList.head?, Naming.isCapital c = false := by
      intro c hc
      obtain rfl : 's' = c := Option.some.inj hc
      decide
    rw [hsmall.2 hfirst] at hcriteria
    exact ⟨hcriteria, hmember⟩
  · obtain ⟨-, -, hmethods⟩ := hlookups .single "Title" (List.mem_singleton_self _)
    obtain ⟨key, hcriteria, hmember, hsmall⟩ := hmethods m hm (hname.trans htitle.symm)
    have hfirst : ¬ ∀ c ∈ "Title".toList.head?, Naming.isCapital c = false := by
      intro hall
      exact absurd (hall 'T' rfl) (by decide)
    rw [hcriteria, List.forall_mem_singleton]
    exact mt hmember.1 (mt hsmall.1 hfirst)

/-- The lookup by the title queries a column of another name. -/
theorem book_title_is_queried_in_small_letters : book.assemble {} = .ok bookRecord ∧
    ∃ us repository entity, units {} bookRecord = .ok us ∧ (.repository, repository) ∈ us ∧ (.entity, entity) ∈ us ∧
      "Title" ∈ bookRecord.getBy ∧ (entity.declaration.members.map (·.name)) = ["id", "Title", "shelf"] ∧
        ∃ m ∈ repository.declaration.methods, m.name = "getByTitle" ∧ m.criteria = ["title"] := by
  have hassembled : book.assemble {} = .ok bookRecord := by decide +kernel
  have hvalid := Draft.validate_of_assemble hassembled
  have hrepository : Artifact.repository ∈ artifacts bookRecord := mem_artifacts_of_isFixed rfl
  have hentity : Artifact.entity ∈ artifacts bookRecord := mem_artifacts_of_isFixed rfl
  have hmethods : (unitAt {} bookRecord .repository).declaration.methods =
      Repository.methods {} bookRecord (bookRecord.properties.take 1) (bookRecord.properties.drop 1) := rfl
  refine ⟨hassembled, _, _, _, units_eq hvalid (by decide) {}, List.mem_map_of_mem hrepository,
    List.mem_map_of_mem hentity,
    List.mem_singleton_self _, rfl, lookupMethod {} bookRecord .single book.properties.head!, ?_, by decide, by decide⟩
  rw [hmethods]
  simp [Repository.methods, lookupMethod, bookRecord, book]

end Scaffold

end EntityScaffold
