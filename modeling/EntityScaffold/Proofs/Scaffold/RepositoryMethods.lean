import EntityScaffold.Proofs.Scaffold.Lookups
/-!
# Methods of the repository

Method names are compared without regard to case, and a class that declares one of them twice cannot be loaded.  The
entity is safe from that, since no two of its properties are called alike; the repository makes its methods of two
lists that are only checked for fields that exist.  The names themselves do not get into each other's way: the fixed
ones begin like no lookup, the lookups of one row begin otherwise than those of all rows, and fields that differ make
names that differ.  What is left is a field that is listed twice, and it makes its method twice.  So the names are
distinct exactly if neither list repeats a field (`repository_methods_are_distinct_iff`).  The lists of events and of
traits drop what repeats; the lists of fields do not.
-/

namespace EntityScaffold

open Source Artifact Text

/-- The properties that are found for names have these names, in the same order. -/
theorem Record.names_propertiesOf {r : Record} {names : List String} {ps : List Property}
    (h : r.propertiesOf names = .ok ps) : ps.map (·.name) = names := by
  have hforall : List.Forall₂ (fun name p => r.property name = .ok p) names ps := mapM_eq_ok_iff.1 h
  induction hforall with
  | nil => rfl
  | cons hfirst hrest ih =>
    rw [List.map_cons, (Record.of_property hfirst).2, ih (mapM_eq_ok_iff.2 hrest)]

/-- The fields of lookups are declared. -/
lemma Record.mem_propertyNames_of_lookupFields {r : Record} (h : r.IsConsistent) {lookup : Lookup} {field : String}
    (hfield : field ∈ r.lookupFields lookup) : field ∈ r.propertyNames := by
  cases lookup with
  | single => exact h.getBy field hfield
  | multi => exact h.getAllBy field hfield

namespace Scaffold

attribute [local irreducible] ClassName.qualify Config.usesUuid

variable {config : Config} {r : Record} {single multi : List Property} {lookup : Lookup} {field : String}

/-! ## Names -/

/-- The name of the method of a lookup by a field, without regard to case. -/
def lookupKey (lookup : Lookup) (field : String) : String := foldCase (lookup.stem ++ capitalize field)

/-- The names of the other methods of the repository, without regard to case. -/
def fixedMethodKeys (r : Record) : List String :=
  ["__construct", "getrepository", "get"] ++ (if r.features.getAll then ["getall"] else []) ++
    ["getquerybuilderforall", "getquerybuilderfordatagrid"]

/-- The names of the methods of the repository, in another order: the lookups are those of the listed fields. -/
lemma methodKeys_perm (hsingle : r.propertiesOf r.getBy = .ok single)
    (hmulti : r.propertiesOf r.getAllBy = .ok multi) :
    ((Repository.methods config r single multi).map fun m => foldCase m.name).Perm
      (fixedMethodKeys r ++ (r.getBy.map (lookupKey .single) ++ r.getAllBy.map (lookupKey .multi))) := by
  have hgetBy : (single.map (Repository.getBy config r)).map (fun m => foldCase m.name) =
      r.getBy.map (lookupKey .single) := by
    rw [← Record.names_propertiesOf hsingle, List.map_map, List.map_map]
    rfl
  have hgetAllBy : (multi.map (Repository.getAllBy config r)).map (fun m => foldCase m.name) =
      r.getAllBy.map (lookupKey .multi) := by
    rw [← Record.names_propertiesOf hmulti, List.map_map, List.map_map]
    rfl
  have hgetAll : (if r.features.getAll then [Repository.getAll r] else []).map (fun m => foldCase m.name) =
      if r.features.getAll then ["getall"] else [] := by
    split
    · show [foldCase "getAll"] = ["getall"]
      decide
    · rfl
  have hfirst : [Repository.constructor, Repository.getRepository r, Repository.get config r].map
      (fun m => foldCase m.name) = ["__construct", "getrepository", "get"] := by
    show ["__construct", "getRepository", "get"].map foldCase = _
    decide
  have hlast : [Repository.queryBuilderForAll, Repository.queryBuilderForDataGrid].map (fun m => foldCase m.name) =
      ["getquerybuilderforall", "getquerybuilderfordatagrid"] := by
    show ["getQueryBuilderForAll", "getQueryBuilderForDataGrid"].map foldCase = _
    decide
  simp only [Repository.methods, List.map_append, hgetBy, hgetAllBy, hgetAll, hfirst, hlast, fixedMethodKeys,
    List.append_assoc]
  refine List.Perm.append_left _ ?_
  rw [← List.append_assoc, ← List.append_assoc _ _ (List.map _ _ ++ _)]
  exact List.perm_append_comm

lemma nodup_fixedMethodKeys (r : Record) : (fixedMethodKeys r).Nodup := by
  rw [fixedMethodKeys]
  split <;> decide

/-- No other method is called like a lookup. -/
lemma lookupKey_notMem_fixed (r : Record) (lookup : Lookup) (field : String) :
    lookupKey lookup field ∉ fixedMethodKeys r := by
  have hstem : ∀ key ∈ ["__construct", "getrepository", "get", "getall", "getquerybuilderforall",
      "getquerybuilderfordatagrid"], ¬ (foldCase lookup.stem).toList <+: key.toList := by
    cases lookup <;> decide
  have hsub : fixedMethodKeys r ⊆ ["__construct", "getrepository", "get", "getall", "getquerybuilderforall",
      "getquerybuilderfordatagrid"] := by
    rw [fixedMethodKeys]
    split <;> decide
  intro hmem
  refine hstem _ (hsub hmem) ?_
  rw [lookupKey, foldCase_append, String.toList_append]
  exact List.prefix_append _ _

lemma lookupKey_single_ne_multi (field other : String) : lookupKey .single field ≠ lookupKey .multi other := by
  intro heq
  have hchars := congrArg (fun key => key.toList.take 4) heq
  have hsingle : foldCase Lookup.single.stem = "getby" := by decide
  have hmulti : foldCase Lookup.multi.stem = "getallby" := by decide
  simp [lookupKey, foldCase_append, hsingle, hmulti] at hchars

/-- Declared fields that differ are looked up by methods that differ. -/
lemma lookupKey_inj (h : r.IsConsistent) {other : String} (hfield : field ∈ r.propertyNames)
    (hother : other ∈ r.propertyNames) (heq : lookupKey lookup field = lookupKey lookup other) : field = other := by
  obtain ⟨p, hp, rfl⟩ := List.mem_map.1 hfield
  obtain ⟨q, hq, rfl⟩ := List.mem_map.1 hother
  rw [lookupKey, lookupKey, foldCase_append, foldCase_append, String.append_right_inj,
    (Record.hasIdentifierChars_name h hp).foldCase_capitalize,
    (Record.hasIdentifierChars_name h hq).foldCase_capitalize] at heq
  rw [Record.eq_of_foldCase_name h hp hq heq]

/-! ## Repetitions -/

/-- The lookups of a list have distinct names if the list has distinct fields. -/
lemma nodup_map_lookupKey_iff (h : r.IsConsistent) (lookup : Lookup) :
    ((r.lookupFields lookup).map (lookupKey lookup)).Nodup ↔ (r.lookupFields lookup).Nodup := by
  refine ⟨List.Nodup.of_map _, fun hnodup => hnodup.map_on ?_⟩
  intro field hfield other hother heq
  exact lookupKey_inj h (Record.mem_propertyNames_of_lookupFields h hfield)
    (Record.mem_propertyNames_of_lookupFields h hother) heq

/-- A lookup is there as often as its field is listed. -/
lemma count_map_lookupKey (h : r.IsConsistent) (hfield : field ∈ r.lookupFields lookup) :
    ((r.lookupFields lookup).map (lookupKey lookup)).count (lookupKey lookup field) =
      (r.lookupFields lookup).count field := by
  rw [List.count, List.countP_map, List.count]
  refine List.countP_congr fun other hother => ?_
  have hdeclared {field : String} (hfield : field ∈ r.lookupFields lookup) : field ∈ r.propertyNames :=
    Record.mem_propertyNames_of_lookupFields h hfield
  rw [Function.comp_apply, beq_iff_eq, beq_iff_eq]
  exact ⟨lookupKey_inj h (hdeclared hother) (hdeclared hfield), congrArg (lookupKey lookup)⟩

lemma nodup_methodKeys_iff (h : r.IsConsistent) (hsingle : r.propertiesOf r.getBy = .ok single)
    (hmulti : r.propertiesOf r.getAllBy = .ok multi) :
    ((Repository.methods config r single multi).map fun m => foldCase m.name).Nodup ↔
      r.getBy.Nodup ∧ r.getAllBy.Nodup := by
  have hfixed : ∀ key ∈ fixedMethodKeys r,
      ∀ lookedUp ∈ r.getBy.map (lookupKey .single) ++ r.getAllBy.map (lookupKey .multi), key ≠ lookedUp := by
    rintro key hkey lookedUp hlookup rfl
    rcases List.mem_append.1 hlookup with hlookup | hlookup
    all_goals
      obtain ⟨field, -, rfl⟩ := List.mem_map.1 hlookup
      exact lookupKey_notMem_fixed r _ field hkey
  have hapart : ∀ one ∈ r.getBy.map (lookupKey .single), ∀ all ∈ r.getAllBy.map (lookupKey .multi), one ≠ all := by
    simp only [List.forall_mem_map]
    exact fun field _ other _ => lookupKey_single_ne_multi field other
  have hgetBy : (r.getBy.map (lookupKey .single)).Nodup ↔ r.getBy.Nodup := nodup_map_lookupKey_iff h .single
  have hgetAllBy : (r.getAllBy.map (lookupKey .multi)).Nodup ↔ r.getAllBy.Nodup := nodup_map_lookupKey_iff h .multi
  rw [(methodKeys_perm hsingle hmulti).nodup_iff, List.nodup_append, List.nodup_append, hgetBy, hgetAllBy]
  constructor
  · rintro ⟨-, ⟨hone, hall, -⟩, -⟩
    exact ⟨hone, hall⟩
  · rintro ⟨hone, hall⟩
    exact ⟨nodup_fixedMethodKeys r, ⟨hone, hall, hapart⟩, hfixed⟩

/-- In the whole repository, a lookup is there as often as its field is listed. -/
lemma count_methodKeys (h : r.IsConsistent) (hsingle : r.propertiesOf r.getBy = .ok single)
    (hmulti : r.propertiesOf r.getAllBy = .ok multi) (hfield : field ∈ r.lookupFields lookup) :
    ((Repository.methods config r single multi).map fun m => foldCase m.name).count (lookupKey lookup field) =
      (r.lookupFields lookup).count field := by
  have hfixed : (fixedMethodKeys r).count (lookupKey lookup field) = 0 :=
    List.count_eq_zero.2 (lookupKey_notMem_fixed r lookup field)
  have hcount := count_map_lookupKey h hfield
  rw [(methodKeys_perm hsingle hmulti).count_eq, List.count_append, List.count_append, hfixed, Nat.zero_add]
  cases lookup with
  | single =>
    have hother : (r.getAllBy.map (lookupKey .multi)).count (lookupKey .single field) = 0 := by
      rw [List.count_eq_zero, List.mem_map]
      rintro ⟨other, -, heq⟩
      exact lookupKey_single_ne_multi field other heq.symm
    rw [hother, Nat.add_zero]
    exact hcount
  | multi =>
    have hother : (r.getBy.map (lookupKey .single)).count (lookupKey .multi field) = 0 := by
      rw [List.count_eq_zero, List.mem_map]
      rintro ⟨other, -, heq⟩
      exact lookupKey_single_ne_multi other field heq
    rw [hother, Nat.zero_add]
    exact hcount

/-- The repository of an assembled record declares each method once, in any case of letters, exactly if no field is
listed twice for one of the lookups; a lookup is declared as often as its field is listed.  Only where a number cannot
be shown there is no repository. -/
theorem repository_methods_are_distinct_iff (config : Config) (draft : Draft) (r : Record)
    (hr : draft.assemble config = .ok r) :
    HasUnits config r fun us => ∃ repository, (.repository, repository) ∈ us ∧
      ((repository.declaration.methodNames.map foldCase).Nodup ↔ r.getBy.Nodup ∧ r.getAllBy.Nodup) ∧
        ∀ lookup, ∀ field ∈ r.lookupFields lookup,
          (repository.declaration.methodNames.map foldCase).count (foldCase (lookup.stem ++ capitalize field)) =
            (r.lookupFields lookup).count field := by
  have hvalid := Draft.validate_of_assemble hr
  have h := Record.isConsistent_of_validate hvalid
  obtain ⟨single, multi, hsingle, hmulti, -, hunit⟩ := exists_lookups h config
  have hrepository : (Artifact.repository, unitAt config r .repository) ∈
      (artifacts r).map fun a => (a, unitAt config r a) := List.mem_map_of_mem (mem_artifacts_of_isFixed rfl)
  have hkeys : (repositoryOf config r single multi).declaration.methodNames.map foldCase =
      (Repository.methods config r single multi).map fun m => foldCase m.name := List.map_map
  refine hasUnits hvalid config ⟨repositoryOf config r single multi, hunit ▸ hrepository, ?_, ?_⟩
  · rw [hkeys]
    exact nodup_methodKeys_iff h hsingle hmulti
  · intro lookup field hfield
    rw [hkeys]
    exact count_methodKeys h hsingle hmulti hfield

/-- An account that is looked up by the fields of a list. -/
def account (getBy : List String) : Draft where
  space := "App\\Model"
  entityName := "Account"
  properties :=
    [{ name := "email", expression := "string", kind := .scalar "string" none, storage := some "string"
       nullable := false, modifiers := {} },
      { name := "slug", expression := "string", kind := .scalar "string" none, storage := some "string"
        nullable := false, modifiers := {} }]
  getBy := .ofTexts getBy
  getAllBy := .list [.text "slug"]

/-- The record of an account. -/
def accountRecord (getBy : List String) : Record where
  space := "App\\Model"
  entityName := "Account"
  properties := (account getBy).properties
  getBy
  getAllBy := ["slug"]
  traits := [("Timestampable", "Gedmo\\Timestampable\\Traits\\TimestampableEntity")]

/-- A field may be listed for both lookups. -/
theorem account_by_two_fields : (account ["email", "slug"]).assemble {} = .ok (accountRecord ["email", "slug"]) ∧
    ∃ us repository, units {} (accountRecord ["email", "slug"]) = .ok us ∧ (.repository, repository) ∈ us ∧
      (repository.declaration.methodNames.map foldCase).Nodup := by
  have hassembled : (account ["email", "slug"]).assemble {} = .ok (accountRecord ["email", "slug"]) := by
    decide +kernel
  obtain ⟨us, hunits, -, repository, hmem, hnodup, -⟩ :=
    (repository_methods_are_distinct_iff {} _ _ hassembled).exists_units (by decide)
  exact ⟨hassembled, us, repository, hunits, hmem, hnodup.2 (by decide)⟩

/-- A field that is listed twice for one lookup gets two methods of one name. -/
theorem account_is_looked_up_twice_by_email :
    (account ["email", "email"]).assemble {} = .ok (accountRecord ["email", "email"]) ∧
      ∃ us repository, units {} (accountRecord ["email", "email"]) = .ok us ∧ (.repository, repository) ∈ us ∧
        repository.declaration.methodNames.count "getByEmail" = 2 ∧
          ¬ (repository.declaration.methodNames.map foldCase).Nodup := by
  have hassembled : (account ["email", "email"]).assemble {} = .ok (accountRecord ["email", "email"]) := by
    decide +kernel
  have hnames : (unitAt {} (accountRecord ["email", "email"]) .repository).declaration.methodNames =
      ["__construct", "getRepository", "get", "getByEmail", "getByEmail", "getAllBySlug", "getAll",
        "getQueryBuilderForAll", "getQueryBuilderForDataGrid"] := by decide
  refine ⟨hassembled, _, _, units_eq (Draft.validate_of_assemble hassembled) (by decide) {},
    List.mem_map_of_mem (mem_artifacts_of_isFixed rfl), ?_, ?_⟩
  · rw [hnames]
    decide
  · rw [hnames]
    decide

end Scaffold

end EntityScaffold
