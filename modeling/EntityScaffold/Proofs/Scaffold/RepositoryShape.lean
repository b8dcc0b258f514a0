import EntityScaffold.Proofs.Scaffold.RepositoryMethods
import EntityScaffold.Proofs.Text.Parts
/-!
# The shape of the repository

A repository is put together from two lists of fields, a feature, and methods that are always there.  Whatever the
lists hold, its methods come in one order, and what a method is called says what it does when there is nothing to
find: `get` and what begins with `getBy` throw the exception of the entity, what begins with `getAllBy` and `getAll`
answer with a list that may be empty, and nothing else throws anything (`repository_has_shape`).  Names can be relied
on for this because no field can make a lookup of one kind look like one of the other kind, or like a fixed method.

That a body throws is said of its lines, as they are written.  Names of fields and of the entity stand in these lines
too, but no identifier has a blank in it, so that none of them can be taken for what is looked for.
-/

namespace EntityScaffold

open Source Text

/-! ## What is written in a body -/

/-- A text that stands in some line of the body of a method. -/
def Source.Method.Says (m : Method) (part : String) : Prop := ∃ line ∈ bodyLines m.body, IsPartOf part line

instance (m : Method) (part : String) : Decidable (m.Says part) :=
  inferInstanceAs (Decidable (∃ line ∈ bodyLines m.body, IsPartOf part line))

/-- A method throws a new exception of a class. -/
def Source.Method.Throws (m : Method) (className : String) : Prop := m.Says ("throw new " ++ className ++ "();")

/-- The columns by which a method looks rows up, each with the variable for its value. -/
def Source.Method.queries (m : Method) : List (String × String) :=
  m.body.filterMap fun
    | .find _ _ column parameter => some (column, parameter)
    | _ => none

/-- A method of this name answers with one row. -/
def AsksForOne (name : String) : Prop := name = "get" ∨ Lookup.single.stem.toList <+: name.toList

/-- A method of this name answers with every row. -/
def AsksForAll (name : String) : Prop := name = "getAll" ∨ Lookup.multi.stem.toList <+: name.toList

instance (name : String) : Decidable (AsksForOne name) := inferInstanceAs (Decidable (_ ∨ _))

instance (name : String) : Decidable (AsksForAll name) := inferInstanceAs (Decidable (_ ∨ _))

lemma AsksForAll.not_asksForOne {name : String} (h : AsksForAll name) : ¬ AsksForOne name := by
  have hstems : ¬ Lookup.single.stem.toList <+: Lookup.multi.stem.toList := by decide
  rcases h with rfl | hmulti
  · decide
  · rintro (rfl | hsingle)
    · exact absurd hmulti (by decide)
    · exact hstems (List.prefix_of_prefix_length_le hsingle hmulti (by decide))

/-- There is no blank in an identifier. -/
lemma HasIdentifierChars.not_isPartOf {s part : String} (hs : HasIdentifierChars s) (hpart : ' ' ∈ part.toList) :
    ¬ IsPartOf part s :=
  IsPartOf.not_of_notMem hpart fun h => ne_of_isIdentifierChar (hs _ h) (by decide) rfl

/-- What throws an exception of a class throws one. -/
lemma Source.Method.Throws.says {m : Method} {className : String} (h : m.Throws className) : m.Says "throw " := by
  obtain ⟨line, hline, hpart⟩ := h
  have hthrow : IsPartOf "throw " ("throw new " ++ className ++ "();") := by
    rw [IsPartOf, String.toList_append, String.toList_append, List.append_assoc]
    exact (List.prefix_append ("throw ".toList) _).isInfix
  exact ⟨line, hline, hthrow.trans hpart⟩

namespace Scaffold

open Artifact

attribute [local irreducible] ClassName.qualify Config.usesUuid

variable {config : Config} {r : Record} {p : Property} {m : Method} {single multi : List Property}
  {column parameter : String}

/-! ## Methods that do not throw -/

/-- A criterion holds nothing but the names in it. -/
lemma not_isPartOf_criterion (hcolumn : HasIdentifierChars column) (hparameter : HasIdentifierChars parameter) :
    ¬ IsPartOf "throw " ("\t'" ++ column ++ "' => $" ++ parameter ++ ",") := by
  have hblank : ' ' ∈ "throw ".toList := by decide
  have hline : "\t'" ++ column ++ "' => $" ++ parameter ++ "," =
      "\t" ++ "'" ++ (column ++ "'" ++ (" =" ++ ">" ++ (" " ++ "$" ++ (parameter ++ "," ++ "")))) := by
    simp only [← String.toList_inj, String.toList_append, List.append_assoc]
    rfl
  rw [hline]
  intro h
  -- what is around the names has no word in it, and the names have no blank
  rcases IsPartOf.cases_append "'" (by decide) (by decide) h with h | h
  · exact absurd h (by decide)
  rcases IsPartOf.cases_append "'" (by decide) (by decide) h with h | h
  · exact hcolumn.not_isPartOf hblank h
  rcases IsPartOf.cases_append ">" (by decide) (by decide) h with h | h
  · exact absurd h (by decide)
  rcases IsPartOf.cases_append "$" (by decide) (by decide) h with h | h
  · exact absurd h (by decide)
  rcases IsPartOf.cases_append "," (by decide) (by decide) h with h | h
  · exact hparameter.not_isPartOf hblank h
  · exact absurd h (by decide)

lemma not_says_getAllBy (hp : HasIdentifierChars p.name) (config : Config) (r : Record) :
    ¬ (Repository.getAllBy config r p).Says "throw " := by
  have hparameter : HasIdentifierChars (lookupParameter config p).name := by
    rw [lookupParameter]
    split
    · exact hp.uncapitalize.append (by decide)
    · exact hp.uncapitalize
  have hcriterion := not_isPartOf_criterion hp.uncapitalize hparameter
  have hlines : bodyLines (Repository.getAllBy config r p).body =
      ["return $this->getRepository()->findBy([",
        "\t'" ++ uncapitalize p.name ++ "' => $" ++ (lookupParameter config p).name ++ ",", "]);"] := rfl
  rintro ⟨line, hline, hpart⟩
  rw [hlines] at hline
  simp only [List.mem_cons, List.not_mem_nil, or_false] at hline
  rcases hline with rfl | rfl | rfl
  · exact absurd hpart (by decide)
  · exact hcriterion hpart
  · exact absurd hpart (by decide)

/-- The class that is asked for is named by an identifier. -/
lemma not_says_getRepository (hentity : HasIdentifierChars r.entityName) :
    ¬ (Repository.getRepository r).Says "throw " := by
  have hclass : HasIdentifierChars (r.className .entity) := hentity.append (by decide)
  have hlines : bodyLines (Repository.getRepository r).body =
      ["return $this->entityManager->getRepository" ++ "(" ++ (r.className .entity ++ ":" ++ ":class);")] := by
    have hline : "return " ++ (Expr.call (.own "entityManager") "getRepository" [.classOf (r.className .entity)]).print
        ++ ";" = "return $this->entityManager->getRepository" ++ "(" ++ (r.className .entity ++ ":" ++ ":class);") := by
      rw [show (Expr.call (.own "entityManager") "getRepository" [.classOf (r.className .entity)]).print =
        "$this->entityManager" ++ "->" ++ "getRepository" ++ "(" ++ (r.className .entity ++ "::class") ++ ")" from rfl]
      simp only [← String.toList_inj, String.toList_append, List.append_assoc]
      rfl
    exact congrArg (fun line => [line]) hline
  rintro ⟨line, hline, hpart⟩
  rw [hlines, List.mem_singleton] at hline
  subst hline
  rcases IsPartOf.cases_append "(" (by decide) (by decide) hpart with h | h
  · exact absurd h (by decide)
  rcases IsPartOf.cases_append ":" (by decide) (by decide) h with h | h
  · exact hclass.not_isPartOf (by decide) h
  · exact absurd h (by decide)

/-! ## Kinds of methods -/

/-- A lookup of one row throws the exception of the entity. -/
lemma throws_single (r : Record) (name column : String) (parameter : Parameter) :
    (Repository.single r name column parameter).Throws (r.className .notFound) := by
  refine ⟨"\tthrow new " ++ r.className .notFound ++ "();", ?_, ?_⟩
  · have hthrow : Statement.throwIfNull (variableOf r) (r.className .notFound) ∈
        (Repository.single r name column parameter).body := by
      simp [Repository.single, Repository.getByBody]
    exact List.mem_flatMap.2 ⟨_, hthrow, by simp [Statement.lines]⟩
  · have htab : "\tthrow new " = "\t" ++ "throw new " := by decide
    have hline : "\tthrow new " ++ r.className .notFound ++ "();" =
        "\t" ++ ("throw new " ++ r.className .notFound ++ "();") := by
      rw [htab]
      simp only [String.append_assoc]
    rw [hline]
    exact .of_append_left "\t"

lemma stem_isPrefix_name (config : Config) (r : Record) (lookup : Lookup) (p : Property) :
    lookup.stem.toList <+: (lookupMethod config r lookup p).name.toList := by
  rw [name_lookupMethod, String.toList_append]
  exact List.prefix_append _ _

/-- Every method of the repository looks for one row, or for every row, or does not throw either. -/
lemma mem_methods_cases (hentity : HasIdentifierChars r.entityName)
    (hmulti : ∀ p ∈ multi, HasIdentifierChars p.name) (hm : m ∈ Repository.methods config r single multi) :
    (AsksForOne m.name ∧ (m = Repository.get config r ∨ ∃ p, m = Repository.getBy config r p)) ∨
      (AsksForAll m.name ∧ m.returnType = some "array" ∧ m.returnNullable = false ∧ ¬ m.Says "throw ") ∨
        (¬ AsksForOne m.name ∧ ¬ AsksForAll m.name ∧ ¬ m.Says "throw ") := by
  have hfixed : ∀ name ∈ ["__construct", "getRepository", "getQueryBuilderForAll", "getQueryBuilderForDataGrid"],
      ¬ AsksForOne name ∧ ¬ AsksForAll name := by decide
  simp only [List.forall_mem_cons] at hfixed
  obtain ⟨hconstruct, hgetRepository, hforAll, hforGrid, -⟩ := hfixed
  simp only [Repository.methods, List.mem_append, List.mem_cons, List.mem_map, List.not_mem_nil, or_false,
    or_assoc] at hm
  rcases hm with rfl | rfl | rfl | ⟨p, -, rfl⟩ | ⟨p, hp, rfl⟩ | hm | rfl | rfl
  · exact .inr (.inr ⟨hconstruct.1, hconstruct.2, by decide⟩)
  · exact .inr (.inr ⟨hgetRepository.1, hgetRepository.2, not_says_getRepository hentity⟩)
  · exact .inl ⟨.inl rfl, .inl rfl⟩
  · exact .inl ⟨.inr (stem_isPrefix_name config r .single p), .inr ⟨p, rfl⟩⟩
  · exact .inr (.inl ⟨.inr (stem_isPrefix_name config r .multi p), rfl, rfl, not_says_getAllBy (hmulti p hp) config r⟩)
  · have hline : ¬ IsPartOf "throw " "return $this->getQueryBuilderForAll()->getQuery()->execute();" := by decide
    split at hm
    · obtain rfl := List.mem_singleton.1 hm
      refine .inr (.inl ⟨.inl rfl, rfl, rfl, ?_⟩)
      rintro ⟨line, hmem, hpart⟩
      obtain rfl := List.mem_singleton.1 hmem
      exact hline hpart
    · cases hm
  · exact .inr (.inr ⟨hforAll.1, hforAll.2, by decide⟩)
  · exact .inr (.inr ⟨hforGrid.1, hforGrid.2, by decide⟩)

/-- What is called like a lookup of one row is one. -/
lemma exists_single_of_asksForOne (hentity : HasIdentifierChars r.entityName)
    (hmulti : ∀ p ∈ multi, HasIdentifierChars p.name) (hm : m ∈ Repository.methods config r single multi)
    (hone : AsksForOne m.name) : ∃ name column parameter, m = Repository.single r name column parameter := by
  rcases mem_methods_cases hentity hmulti hm with ⟨-, rfl | ⟨p, rfl⟩⟩ | ⟨hall, -⟩ | ⟨hnot, -⟩
  · exact ⟨_, _, _, rfl⟩
  · exact ⟨_, _, _, rfl⟩
  · exact absurd hone hall.not_asksForOne
  · exact absurd hone hnot

lemma not_says_of_not_asksForOne (hentity : HasIdentifierChars r.entityName)
    (hmulti : ∀ p ∈ multi, HasIdentifierChars p.name) (hm : m ∈ Repository.methods config r single multi)
    (hnot : ¬ AsksForOne m.name) : ¬ m.Says "throw " := by
  rcases mem_methods_cases hentity hmulti hm with ⟨hone, -⟩ | ⟨-, -, -, hsilent⟩ | ⟨-, -, hsilent⟩
  · exact absurd hone hnot
  · exact hsilent
  · exact hsilent

/-! ## Lookups -/

/-- The parameter of a lookup by a field: the value that the field holds, or the identifier of what it refers to. -/
def keyOf (config : Config) (field : String) : PropertyKind → Parameter
  | .scalar type _ => { name := uncapitalize field, type := some type }
  | .relation _ => { name := uncapitalize field ++ "Id", type := some config.idTypeHint }

/-- A method has one parameter and looks rows up by one column, with the parameter as the value. -/
def LooksUpBy (m : Method) (column : String) (parameter : Parameter) : Prop :=
  m.parameters = [parameter] ∧ m.queries = [(column, parameter.name)]

lemma lookupParameter_eq (config : Config) (p : Property) :
    lookupParameter config p = keyOf config p.name p.kind := by
  rw [lookupParameter, Property.isRelation, Property.relation?, Property.primitive?]
  cases p.kind <;> rfl

lemma looksUpBy_lookupMethod (config : Config) (r : Record) (lookup : Lookup) (p : Property) :
    LooksUpBy (lookupMethod config r lookup p) (uncapitalize p.name) (keyOf config p.name p.kind) := by
  rw [← lookupParameter_eq]
  cases lookup <;> exact ⟨rfl, rfl⟩

/-- The names of the methods of the repository, in their order. -/
def repositoryMethodNames (r : Record) : List String :=
  ["__construct", "getRepository", "get"] ++ r.getBy.map (fun field => Lookup.single.stem ++ capitalize field) ++
    r.getAllBy.map (fun field => Lookup.multi.stem ++ capitalize field) ++
    (if r.features.getAll then ["getAll"] else []) ++ ["getQueryBuilderForAll", "getQueryBuilderForDataGrid"]

/-- What the methods of the repository of a record are. -/
structure HasRepositoryShape (config : Config) (r : Record) (methods : List Method) : Prop where
  names : methods.map (·.name) = repositoryMethodNames r
  get : ∀ m ∈ methods, m.name = "get" → LooksUpBy m "id" { name := "id", type := some config.idTypeHint }
  lookups : ∀ lookup, ∀ field ∈ r.lookupFields lookup, ∃ p, r.property field = .ok p ∧
    ∀ m ∈ methods, m.name = lookup.stem ++ capitalize field →
      LooksUpBy m (uncapitalize field) (keyOf config field p.kind)
  throws_iff : ∀ m ∈ methods, m.Throws (r.className .notFound) ↔ AsksForOne m.name
  one : ∀ m ∈ methods, AsksForOne m.name → m.returnType = some (r.qualifiedName .entity) ∧ m.returnNullable = false
  all : ∀ m ∈ methods, AsksForAll m.name →
    m.returnType = some "array" ∧ m.returnNullable = false ∧ ¬ m.Says "throw "

lemma names_methods (hsingle : r.propertiesOf r.getBy = .ok single) (hmulti : r.propertiesOf r.getAllBy = .ok multi) :
    (Repository.methods config r single multi).map (·.name) = repositoryMethodNames r := by
  have hgetAll : (if r.features.getAll then [Repository.getAll r] else []).map (·.name) =
      if r.features.getAll then ["getAll"] else [] := by
    split <;> rfl
  rw [repositoryMethodNames, ← Record.names_propertiesOf hsingle, ← Record.names_propertiesOf hmulti,
    Repository.methods]
  simp only [List.map_append, hgetAll, List.map_map]
  rfl

/-- The one method called `get` looks rows up by their identifier. -/
lemma eq_get (hentity : HasIdentifierChars r.entityName) (hmulti : ∀ p ∈ multi, HasIdentifierChars p.name)
    (hm : m ∈ Repository.methods config r single multi) (hname : m.name = "get") : m = Repository.get config r := by
  rcases mem_methods_cases hentity hmulti hm with ⟨-, hget | ⟨p, rfl⟩⟩ | ⟨hall, -⟩ | ⟨hone, -⟩
  · exact hget
  · have hprefix := stem_isPrefix_name config r .single p
    rw [show (lookupMethod config r .single p).name = "get" from hname] at hprefix
    exact absurd hprefix (by decide)
  · rw [hname] at hall
    exact absurd hall (by decide)
  · rw [hname] at hone
    exact absurd (by decide) hone

lemma hasRepositoryShape (h : r.IsConsistent) (hentity : HasIdentifierChars r.entityName)
    (hsingle : r.propertiesOf r.getBy = .ok single) (hmulti : r.propertiesOf r.getAllBy = .ok multi)
    (hlisted : ∀ p ∈ single ++ multi, p ∈ r.properties) :
    HasRepositoryShape config r (Repository.methods config r single multi) := by
  have hnames : ∀ p ∈ multi, HasIdentifierChars p.name := fun p hp =>
    Record.hasIdentifierChars_name h (hlisted p (List.mem_append_right _ hp))
  refine ⟨names_methods hsingle hmulti, ?_, ?_, ?_, ?_, ?_⟩
  · intro m hm hname
    rw [eq_get hentity hnames hm hname]
    exact ⟨rfl, rfl⟩
  · intro lookup field hfield
    obtain ⟨p, hp, hfound⟩ := Record.exists_property (Record.mem_propertyNames_of_lookupFields h hfield)
    obtain rfl := (Record.of_property hfound).2
    refine ⟨p, hfound, fun m hm hname => ?_⟩
    obtain ⟨q, hq, rfl⟩ := exists_lookupMethod hm hname
    rw [name_lookupMethod, String.append_right_inj] at hname
    obtain rfl := Record.eq_of_capitalize_name h (hlisted q hq) hp hname
    exact looksUpBy_lookupMethod config r lookup q
  · intro m hm
    constructor
    · intro hthrows
      by_contra hone
      exact not_says_of_not_asksForOne hentity hnames hm hone hthrows.says
    · intro hone
      obtain ⟨name, column, parameter, rfl⟩ := exists_single_of_asksForOne hentity hnames hm hone
      exact throws_single r name column parameter
  · intro m hm hone
    obtain ⟨name, column, parameter, rfl⟩ := exists_single_of_asksForOne hentity hnames hm hone
    exact ⟨rfl, rfl⟩
  · intro m hm hall
    rcases mem_methods_cases hentity hnames hm with ⟨hone, -⟩ | ⟨-, harray⟩ | ⟨-, hnot, -⟩
    · exact absurd hone hall.not_asksForOne
    · exact harray
    · exact absurd hall hnot

/-- The repository of a record that passes the check, with an identifier as the name of its entity, has this shape; only
where a number cannot be shown there is no repository. -/
theorem repository_has_shape (config : Config) (r : Record) (hvalid : r.validate = .ok ())
    (hentity : isIdentifier r.entityName = true) :
    HasUnits config r fun us => ∃ repository, (.repository, repository) ∈ us ∧
      HasRepositoryShape config r repository.declaration.methods := by
  have h := Record.isConsistent_of_validate hvalid
  obtain ⟨single, multi, hsingle, hmulti, hlisted, hunit⟩ := exists_lookups h config
  have hrepository : (Artifact.repository, unitAt config r .repository) ∈
      (artifacts r).map fun a => (a, unitAt config r a) := List.mem_map_of_mem (mem_artifacts_of_isFixed rfl)
  exact hasUnits hvalid config ⟨repositoryOf config r single multi, hunit ▸ hrepository,
    hasRepositoryShape h (.of_isIdentifier hentity) hsingle hmulti hlisted⟩

/-- A complaint, looked up by what is called like other methods. -/
def complaint : Record where
  space := "App\\Desk"
  entityName := "Complaint"
  properties :=
    [{ name := "allByNumber", expression := "int", kind := .scalar "int" none, storage := some "integer"
       nullable := false, modifiers := {} },
      { name := "byNumber", expression := "Agent", storage := none, nullable := false, modifiers := {}
        kind := .relation (.build "App\\Desk\\Agent" .manyToOne false none false) }]
  getBy := ["allByNumber", "byNumber"]
  getAllBy := ["byNumber"]
  features := { getAll := false }

theorem complaint_repository_has_shape : complaint.validate = .ok () ∧ isIdentifier complaint.entityName = true ∧
    ∃ us repository, units {} complaint = .ok us ∧ (.repository, repository) ∈ us ∧
      repository.declaration.methods.map (·.name) =
        ["__construct", "getRepository", "get", "getByAllByNumber", "getByByNumber", "getAllByByNumber",
          "getQueryBuilderForAll", "getQueryBuilderForDataGrid"] ∧
        ∀ m ∈ repository.declaration.methods,
          (m.Throws "ComplaintNotFoundException" ↔ m.name ∈ ["get", "getByAllByNumber", "getByByNumber"]) ∧
            (m.name = "getByByNumber" → m.queries = [("byNumber", "byNumberId")]) := by
  have hvalid : complaint.validate = .ok () := by decide +kernel
  have hentity : isIdentifier complaint.entityName = true := by decide
  obtain ⟨us, hunits, -, repository, hmem, hshape⟩ :=
    (repository_has_shape {} complaint hvalid hentity).exists_units (by decide)
  have hnames : repository.declaration.methods.map (·.name) =
      ["__construct", "getRepository", "get", "getByAllByNumber", "getByByNumber", "getAllByByNumber",
        "getQueryBuilderForAll", "getQueryBuilderForDataGrid"] := hshape.names.trans (by decide)
  have hasks : ∀ name ∈ ["__construct", "getRepository", "get", "getByAllByNumber", "getByByNumber",
      "getAllByByNumber", "getQueryBuilderForAll", "getQueryBuilderForDataGrid"],
      AsksForOne name ↔ name ∈ ["get", "getByAllByNumber", "getByByNumber"] := by decide
  refine ⟨hvalid, hentity, us, repository, hunits, hmem, hnames, fun m hm => ⟨?_, fun hname => ?_⟩⟩
  · have hlisted := List.mem_map_of_mem (f := (·.name)) hm
    rw [hnames] at hlisted
    exact (hshape.throws_iff m hm).trans (hasks _ hlisted)
  · obtain ⟨p, hfound, hlookups⟩ := hshape.lookups .single "byNumber" (by decide)
    obtain rfl : complaint.properties[1] = p := Except.ok.inj (Eq.trans (by decide) hfound)
    exact (hlookups m hm (hname.trans (by decide))).2.trans (by decide)

end Scaffold

end EntityScaffold
