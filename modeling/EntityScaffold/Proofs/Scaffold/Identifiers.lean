import EntityScaffold.Proofs.Scaffold.DataFlow
import EntityScaffold.Proofs.Source.Comments
/-!
# One strategy for identifiers

Five generators ask how entities are identified, three by the type of an identifier and two by whether the
application makes it.  Both come down to the one text of the configuration, so all of them decide alike: the classes
of a record pass identifiers of one type to each other, and an identifier is made in one place only, by the factory
or by the database (`identifiers_follow_one_strategy`).

That a mapping is printed or not is a statement about lines, which is why `exists_comment_of_mem_lines` is needed: it
leads from a line of the class back to the comment of a member.
-/

namespace EntityScaffold

open Source Artifact Text

namespace Config

/-- Identifiers are UUIDs: the name of the strategy contains `uuid` in whatever case. -/
def NamesUuid (config : Config) : Prop :=
  ∃ before after, lower config.idType = before ++ "uuid" ++ after

lemma occursIn_iff {part cs : List Char} : occursIn part cs = true ↔ part <:+: cs := by
  induction cs with
  | nil => rw [occursIn, List.isEmpty_iff, List.infix_nil]
  | cons c rest ih => rw [occursIn, Bool.or_eq_true, ih, List.isPrefixOf_iff_prefix, List.infix_cons_iff]

lemma usesUuid_iff {config : Config} : config.usesUuid = true ↔ config.NamesUuid := by
  rw [usesUuid, occursIn_iff]
  constructor
  · rintro ⟨before, after, heq⟩
    refine ⟨String.ofList before, String.ofList after, String.toList_inj.1 ?_⟩
    simp [← heq]
  · rintro ⟨before, after, heq⟩
    exact ⟨before.toList, after.toList, by simp [heq]⟩

instance (config : Config) : Decidable config.NamesUuid := decidable_of_iff _ usesUuid_iff

example : { idType := "ordered UUIDs" : Config }.NamesUuid := by decide

lemma idTypeHint_eq (config : Config) : config.idTypeHint = if config.NamesUuid then uuidInterface else "int" := by
  simp only [idTypeHint, usesUuid_iff]

end Config

/-- A method of a name is there, and whatever method has this name is as wanted. -/
def Source.Declaration.HasAs (d : Declaration) (name : String) (P : Method → Prop) : Prop :=
  name ∈ d.methodNames ∧ ∀ m ∈ d.methods, m.name = name → P m

lemma Source.Declaration.hasAs_of_mem {d : Declaration} {m : Method} {P : Method → Prop}
    (hnodup : d.methodNames.Nodup) (hm : m ∈ d.methods) (hP : P m) : d.HasAs m.name P := by
  refine ⟨List.mem_map_of_mem hm, fun other hother hname => ?_⟩
  rw [List.inj_on_of_nodup_map hnodup hother hm hname]
  exact hP

namespace Scaffold

attribute [local irreducible] ClassName.qualify Config.usesUuid

/-- The parameter that takes an identifier of a type. -/
def identifierOf (type : String) : Parameter := { name := "id", type := some type }

/-- The classes of a record pass identifiers of one type to each other, and agree on who makes them. -/
structure IdentifiedBy (config : Config) (r : Record) (type : String)
    (entity factory repository facade : SourceUnit) : Prop where
  member : "id" ∈ entity.declaration.members.map (·.name) ∧
    ∀ m ∈ entity.declaration.members, m.name = "id" → m.type = some type
  getter : entity.declaration.HasAs "getId" fun m => m.returnType = some type
  get : repository.declaration.HasAs "get" fun m => m.parameters = [identifierOf type]
  edit : if r.features.edit then
      facade.declaration.HasAs "edit" fun m => m.parameters = [identifierOf type, dataParameter r]
    else "edit" ∉ facade.declaration.methodNames
  delete : if r.features.delete then
      facade.declaration.HasAs "delete" fun m => m.parameters = [identifierOf type]
    else "delete" ∉ facade.declaration.methodNames
  /-- A relation is looked up by the identifier of its target. -/
  lookup : ∀ lookup, ∀ field ∈ r.lookupFields lookup, ∀ p ∈ r.properties, p.name = field → p.isRelation = true →
    repository.declaration.HasAs (lookup.stem ++ capitalize field) fun m =>
      m.parameters = [{ name := uncapitalize field ++ "Id", type := some type }]
  constructor : entity.declaration.HasAs "__construct" fun m =>
    m.parameters = (if config.NamesUuid then [identifierOf type] else []) ++ [dataParameter r]
  creation : factory.declaration.HasAs "create" fun m =>
    m.body = [.give (.create (r.className .entity)
      ((if config.NamesUuid then [.staticCall "Uuid" "uuid4"] else []) ++ [.var "data"]))]
  generated : SourceUnit.margin ++ " * @ORM\\GeneratedValue" ∈ entity.lines ↔ ¬ config.NamesUuid

variable {config : Config} {r : Record} {p : Property} {single multi : List Property}

/-! ## The entity -/

lemma member_identifiers (h : r.IsConsistent) (config : Config) :
    "id" ∈ (Entity.unit config r).declaration.members.map (·.name) ∧
      ∀ m ∈ (Entity.unit config r).declaration.members, m.name = "id" → m.type = some config.idTypeHint := by
  refine ⟨List.mem_cons_self, List.forall_mem_cons.2 ⟨fun _ => rfl, List.forall_mem_map.2 fun p hp hname => ?_⟩⟩
  rw [name_member] at hname
  exact absurd hname (name_ne_id h hp)

/-- The mapping of a value that the database generates. -/
def generatedMark : String := "@ORM\\GeneratedValue"

/-- The comments of a property are about columns and relations. -/
lemma not_generated_of_mem_comments (r : Record) (p : Property) :
    ∀ comment ∈ (Entity.member r p).comments, ¬ generatedMark.toList <+: comment.toList := by
  have hdirective {name : String} {args : List String}
      (hname : ¬ generatedMark.toList <+: ("@ORM\\" ++ name).toList ∧
        ¬ ("@ORM\\" ++ name).toList <+: generatedMark.toList) :
      ¬ generatedMark.toList <+: (Mapping.directive name args).toList := by
    rw [Mapping.directive, String.append_assoc, String.append_assoc]
    exact SourceUnit.not_prefix_append hname
  have hrelation (relation : Relation) :
      ¬ generatedMark.toList <+: (Mapping.ofRelation r.entityName relation).toList := by
    rw [Mapping.ofRelation]
    cases relation.kind <;> exact hdirective (by decide)
  have hlist (target : String) : ¬ generatedMark.toList <+: ("@var Collection|" ++ target ++ "[]").toList := by
    rw [String.append_assoc]
    exact SourceUnit.not_prefix_append (by decide)
  rw [Entity.member]
  split
  · exact List.forall_mem_singleton.2 (hdirective (by decide))
  · next relation _ =>
    simp only
    split
    · exact List.forall_mem_cons.2 ⟨hrelation relation, List.forall_mem_singleton.2 (hlist _)⟩
    · exact List.forall_mem_cons.2 ⟨hrelation relation, List.forall_mem_singleton.2 (hdirective (by decide))⟩

/-- A value is generated by the database where the application makes none. -/
lemma generated_mem_lines_iff (config : Config) (r : Record) :
    SourceUnit.margin ++ " * " ++ generatedMark ∈ (Entity.unit config r).lines ↔ ¬ config.NamesUuid := by
  rw [← Config.usesUuid_iff]
  constructor
  · intro hline huuid
    obtain ⟨comment, hcomment, hprefix⟩ := SourceUnit.exists_comment_of_mem_lines hline
    rcases List.mem_append.1 hcomment with hmember | hmethod
    · obtain ⟨m, hm, hcomment⟩ := List.mem_flatMap.1 hmember
      rcases List.mem_cons.1 hm with rfl | hproperty
      · have hnone : ∀ comment ∈ ["@ORM\\Id", "@ORM\\Column(type=\"uuid\", unique=true)"],
            ¬ generatedMark.toList <+: comment.toList := by decide
        rw [Entity.idMember, Entity.idComments, huuid] at hcomment
        exact hnone comment hcomment hprefix
      · obtain ⟨p, -, rfl⟩ := List.mem_map.1 hproperty
        exact not_generated_of_mem_comments r p comment hcomment hprefix
    · obtain ⟨m, hm, hcomment⟩ := List.mem_flatMap.1 hmethod
      rw [comments_methods_entity m hm] at hcomment
      cases hcomment
  · intro huuid
    have hcomment : generatedMark ∈ (Entity.idMember config).comments := by
      rw [Entity.idMember, Entity.idComments, if_neg huuid]
      exact List.mem_cons_of_mem _ List.mem_cons_self
    have hline := SourceUnit.mem_lines_of_comment (u := Entity.unit config r) List.mem_cons_self hcomment
    have hkept : SourceUnit.trimEnd (SourceUnit.margin ++ " * " ++ generatedMark) =
        SourceUnit.margin ++ " * " ++ generatedMark := by decide
    rwa [hkept] at hline

/-! ## The classes around the entity -/

/-- The lookup by identifier is the only method of its name. -/
lemma hasAs_get (config : Config) (r : Record) (single multi : List Property) :
    (repositoryOf config r single multi).declaration.HasAs "get" fun m =>
      m.parameters = [identifierOf config.idTypeHint] := by
  have hstem (lookup : Lookup) (p : Property) : (lookupMethod config r lookup p).name ≠ "get" := by
    intro heq
    have hchars := congrArg String.toList ((name_lookupMethod config r lookup p).symm.trans heq)
    cases lookup <;> simp [Lookup.stem] at hchars
  refine ⟨List.mem_cons_of_mem _ (List.mem_cons_of_mem _ List.mem_cons_self), fun m hm hname => ?_⟩
  simp only [repositoryOf, Repository.methods, List.mem_append, List.mem_cons, List.mem_map, List.not_mem_nil,
    or_false, or_assoc] at hm
  rcases hm with rfl | rfl | rfl | ⟨p, -, rfl⟩ | ⟨p, -, rfl⟩ | hm | rfl | rfl
  · exact absurd hname (by decide)
  · exact absurd (show "getRepository" = "get" from hname) (by decide)
  · rfl
  · exact absurd hname (hstem .single p)
  · exact absurd hname (hstem .multi p)
  · split at hm
    · rw [List.mem_singleton.1 hm] at hname
      exact absurd (show "getAll" = "get" from hname) (by decide)
    · cases hm
  · exact absurd hname (by decide)
  · exact absurd hname (by decide)

/-- A relation is looked up by an identifier. -/
lemma hasAs_lookup (h : r.IsConsistent) {lookup : Lookup} (hsingle : r.propertiesOf r.getBy = .ok single)
    (hmulti : r.propertiesOf r.getAllBy = .ok multi) (hlisted : ∀ q ∈ single ++ multi, q ∈ r.properties)
    (hp : p ∈ r.properties) (hfield : p.name ∈ r.lookupFields lookup) (hrelation : p.isRelation = true) :
    (repositoryOf config r single multi).declaration.HasAs (lookup.stem ++ capitalize p.name) fun m =>
      m.parameters = [{ name := uncapitalize p.name ++ "Id", type := some config.idTypeHint }] := by
  obtain ⟨q, hq, hname, hfound⟩ : ∃ q ∈ single ++ multi, q.name = p.name ∧
      lookupMethod config r lookup q ∈ Repository.methods config r single multi :=
    exists_property_of_lookupFields hsingle hmulti hfield
  refine ⟨List.mem_map.2 ⟨_, hfound, ?_⟩, fun m hm hnamed => ?_⟩
  · rw [name_lookupMethod, hname]
  · obtain ⟨q, hq, rfl⟩ := exists_lookupMethod hm hnamed
    rw [name_lookupMethod] at hnamed
    obtain rfl := Record.eq_of_capitalize_name h (hlisted q hq) hp ((String.append_right_inj _).1 hnamed)
    have hparameter : (lookupMethod config r lookup q).parameters = [lookupParameter config q] := by
      cases lookup <;> rfl
    rw [hparameter, lookupParameter, if_pos hrelation]

lemma methodNames_facade (config : Config) (r : Record) : (Facade.unit config r).declaration.methodNames =
    ["__construct", "create"] ++ (if r.features.edit then ["edit"] else []) ++
      if r.features.delete then ["delete"] else [] := by
  show (Facade.methods config r).map (·.name) = _
  rw [Facade.methods]
  split <;> split <;> rfl

lemma nodup_methodNames_facade (config : Config) (r : Record) :
    (Facade.unit config r).declaration.methodNames.Nodup := by
  rw [methodNames_facade]
  split <;> split <;> decide

/-- The facade takes an identifier to edit an entity. -/
lemma hasAs_edit (config : Config) (r : Record) : if r.features.edit then
      (Facade.unit config r).declaration.HasAs "edit" fun m =>
        m.parameters = [identifierOf config.idTypeHint, dataParameter r]
    else "edit" ∉ (Facade.unit config r).declaration.methodNames := by
  split
  · next hedit =>
    have hmem : Facade.edit config r ∈ (Facade.unit config r).declaration.methods := by
      simp [Facade.unit, Facade.methods, hedit]
    exact Declaration.hasAs_of_mem (nodup_methodNames_facade config r) hmem rfl
  · next hedit =>
    rw [methodNames_facade, if_neg hedit]
    split <;> decide

/-- The facade takes an identifier to delete an entity. -/
lemma hasAs_delete (config : Config) (r : Record) : if r.features.delete then
      (Facade.unit config r).declaration.HasAs "delete" fun m => m.parameters = [identifierOf config.idTypeHint]
    else "delete" ∉ (Facade.unit config r).declaration.methodNames := by
  split
  · next hdelete =>
    have hmem : Facade.delete config r ∈ (Facade.unit config r).declaration.methods := by
      simp [Facade.unit, Facade.methods, hdelete]
    exact Declaration.hasAs_of_mem (nodup_methodNames_facade config r) hmem rfl
  · next hdelete =>
    rw [methodNames_facade, if_neg hdelete]
    split <;> decide

/-- The classes of a record that passes the check identify entities in one way: by UUIDs, which the factory makes and
the constructor takes, or by numbers that the database generates.  Only where a number in a column cannot be shown there
are no classes. -/
theorem identifiers_follow_one_strategy (config : Config) (r : Record) (h : r.validate = .ok ()) :
    HasUnits config r fun us => ∃ entity factory repository facade,
      (.entity, entity) ∈ us ∧ (.factory, factory) ∈ us ∧ (.repository, repository) ∈ us ∧ (.facade, facade) ∈ us ∧
        ∃ type, type = (if config.NamesUuid then uuidInterface else "int") ∧
          IdentifiedBy config r type entity factory repository facade := by
  have hconsistent := Record.isConsistent_of_validate h
  obtain ⟨single, multi, hsingle, hmulti, hlisted, hunit⟩ := exists_lookups hconsistent config
  have hmem {a : Artifact} (ha : a ∈ artifacts r) :
      (a, unitAt config r a) ∈ (artifacts r).map fun a => (a, unitAt config r a) := List.mem_map_of_mem ha
  have hconstructor : Entity.constructor config r ∈ (Entity.unit config r).declaration.methods := List.mem_cons_self
  have hgetter : Entity.getId config ∈ (Entity.unit config r).declaration.methods := by
    simp [Entity.unit, Entity.methods]
  have hparameters : (Entity.constructor config r).parameters =
      (if config.NamesUuid then [identifierOf config.idTypeHint] else []) ++ [dataParameter r] := by
    simp only [← Config.usesUuid_iff]
    rfl
  have hbody : (Factory.create config r).body = [.give (.create (r.className .entity)
      ((if config.NamesUuid then [.staticCall "Uuid" "uuid4"] else []) ++ [.var "data"]))] := by
    simp only [← Config.usesUuid_iff]
    rfl
  refine hasUnits h config ⟨_, _, _, _, hmem (a := .entity) (mem_artifacts_of_isFixed rfl),
    hmem (a := .factory) (mem_artifacts_of_isFixed rfl), hmem (a := .repository) (mem_artifacts_of_isFixed rfl),
    hmem (a := .facade) (mem_artifacts_of_isFixed rfl), config.idTypeHint, config.idTypeHint_eq, ?_⟩
  rw [hunit]
  exact {
    member := member_identifiers hconsistent config
    getter := Declaration.hasAs_of_mem (nodup_methodNames hconsistent config) hgetter rfl
    get := hasAs_get config r single multi
    edit := hasAs_edit config r
    delete := hasAs_delete config r
    lookup := by
      rintro lookup _ hfield p hp rfl hrelation
      exact hasAs_lookup hconsistent hsingle hmulti hlisted hp hfield hrelation
    constructor := Declaration.hasAs_of_mem (nodup_methodNames hconsistent config) hconstructor hparameters
    creation := Declaration.hasAs_of_mem (d := (Factory.unit config r).declaration) (List.nodup_singleton "create")
      List.mem_cons_self hbody
    generated := generated_mem_lines_iff config r }

/-- A shipment that is looked up by its carrier. -/
def shipment : Record where
  space := "App\\Model"
  entityName := "Shipment"
  properties :=
    [{ name := "Carrier", expression := "Company", storage := none, nullable := false, modifiers := {}
       kind := .relation (.build "App\\Model\\Company" .manyToOne false none false) }]
  getAllBy := ["Carrier"]

theorem shipments_are_numbered : shipment.validate = .ok () ∧ ¬ { idType := "Integer" : Config }.NamesUuid ∧
    ∃ us repository, units { idType := "Integer" } shipment = .ok us ∧ (.repository, repository) ∈ us ∧
      repository.declaration.HasAs "getAllByCarrier" fun m =>
        m.parameters = [{ name := "carrierId", type := some "int" }] := by
  have hvalid : shipment.validate = .ok () := by decide
  have hnumbers : ¬ { idType := "Integer" : Config }.NamesUuid := by
    rw [← Config.usesUuid_iff, Config.usesUuid]
    decide
  obtain ⟨us, hunits, -, _, _, repository, _, -, -, hmem, -, type, rfl, hidentified⟩ :=
    (identifiers_follow_one_strategy { idType := "Integer" } shipment hvalid).exists_units (by decide)
  have hlookup := hidentified.lookup .multi "Carrier" List.mem_cons_self _ List.mem_cons_self rfl rfl
  rw [if_neg hnumbers] at hlookup
  exact ⟨hvalid, hnumbers, us, repository, hunits, hmem, hlookup⟩

end Scaffold

end EntityScaffold
