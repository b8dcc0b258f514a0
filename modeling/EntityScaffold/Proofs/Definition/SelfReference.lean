import EntityScaffold.Proofs.Definition
import EntityScaffold.Proofs.Resolver.Order
import EntityScaffold.Proofs.TypeExpression.Names
/-!
# Entities that refer to themselves

While an entity is being defined its class counts as one that is there, so that a property may refer to the entity
before there is a file of it.  Written with its namespace, the class is found whatever else there is.  Written as a
short name it is one of the known classes, and these are tried last: another class of that name that is found in a
namespace, or one that is known and comes earlier by code point, is taken in its place.

`self_references_iff` says when the short name of an entity stands for the entity itself, and that it is the type of a
relation in any case, unless a class that is tried cannot be looked for.  That it may well stand for another one is
`user_refers_to_another_user`.
-/

namespace EntityScaffold.Definition

open ClassName Document Schema TypeExpression

variable {config : Config} {tree : FileTree} {fields : Fields} {entity space : String} {p : Property} {r : Record}

/-- The fields define an entity of a namespace, under a name that is not the keyword of a type. -/
structure Defines (fields : Fields) (entity space : String) : Prop where
  hentity : requiredText fields "entity" = .ok entity
  hspace : requiredText fields "namespace" = .ok space
  isEntity : isIdentifier entity = true
  isSpace : ∀ segment ∈ segments space, isIdentifier segment = true
  notKeyword : primitive? entity = none

/-- The class of an entity that is defined. -/
def ownClass (entity space : String) : String := bare space ++ "\\" ++ entity

namespace Defines

variable (h : Defines fields entity space)

include h

lemma isName_space : IsName (bare space) := h.isSpace

lemma isName_ownClass : IsName (ownClass entity space) :=
  isName_append_iff.2 ⟨h.isName_space, isName_of_isIdentifier h.isEntity⟩

lemma qualify_eq_ownClass : qualify (bare space) entity = ownClass entity space := by
  rw [qualify_of_bare_ne_empty, bare_bare, ownClass]
  rw [bare_bare]
  exact ne_empty_of_isProper h.isName_space.isProper

lemma shortName_ownClass : shortName (ownClass entity space) = entity := by
  rw [← h.qualify_eq_ownClass]
  exact (isProper_qualify (.inr h.isName_space.isProper) (isSegment_of_isIdentifier h.isEntity)).2.2

variable (config tree)

/-- The class of the entity is known while it is defined. -/
lemma ownClass_known : ownClass entity space ∈ (readerOf config tree (.mapping fields)).resolver.knownClasses := by
  rw [readerOf_mapping h.hentity h.hspace, h.qualify_eq_ownClass]
  refine List.mem_map.2 ⟨ownClass entity space, ?_, bare_of_isProper h.isName_ownClass.isProper⟩
  exact List.mem_append_right _ (List.mem_singleton_self _)

lemma ownClass_tried :
    ownClass entity space ∈ (readerOf config tree (.mapping fields)).resolver.tried entity := by
  refine List.mem_append_right _ (List.mem_filter.2 ⟨Resolver.mem_sorted.2 (h.ownClass_known config tree), ?_⟩)
  rw [h.shortName_ownClass]
  exact beq_self_eq_true entity

lemma isThere_ownClass :
    (readerOf config tree (.mapping fields)).resolver.isThere (ownClass entity space) = .ok true :=
  Resolver.isThere_of_known (isBare_readerOf config tree _) (h.ownClass_known config tree)

/-- With its namespace, the class of the entity is found whatever else there is. -/
lemma read_ownClass (nullable : Bool) :
    (readerOf config tree (.mapping fields)).read (named nullable (ownClass entity space)) =
      .ok ⟨.entity entity (ownClass entity space), nullable, {}⟩ := by
  have hinner : '\\' ∈ (ownClass entity space).toList := by simp [ownClass]
  have hresolve := Resolver.resolve_of_isProper h.isName_ownClass.isProper hinner (h.isThere_ownClass config tree)
  have hread := TypeReader.read_named_of_resolve h.isName_ownClass (primitive?_of_backslash hinner) hresolve nullable
  rwa [h.shortName_ownClass] at hread

end Defines

/-! ## Properties -/

/-- A property whose type is an entity is a relation to the class of that. -/
lemma relation_of_complete {name expression entity target : String} {block : Value} {default : Option String}
    {outcome : TypeOutcome} (hsense : outcome.sense = .entity entity target)
    (h : complete name expression block default outcome = .ok p) :
    ∃ relation, p.relation? = some relation ∧ relation.target = bare target := by
  simp only [complete, hsense] at h
  split at h
  · cases h
  · obtain ⟨relation, hrelation, h⟩ := bind_eq_ok_iff.1 h
    exact ⟨relation, Property.relation?_of_build h, (relationOf_retargeted hrelation target).1⟩

/-- The properties of a definition are what their types are read as. -/
lemma of_mem_properties (h : ofValue config tree (.mapping fields) = .ok r) (hp : p ∈ r.properties) :
    ∃ name block default outcome, (readerOf config tree (.mapping fields)).read p.expression = .ok outcome ∧
      complete name p.expression block default outcome = .ok p := by
  obtain ⟨_, _, _, entries, _, -, -, -, -, hentries, -⟩ := ofValue_eq_ok_iff.1 h
  obtain ⟨entry, -, hentry⟩ := exists_of_mapM_eq_ok hentries p hp
  obtain ⟨name, expression, outcome, default, -, -, hread, -, hcomplete⟩ := property_eq_ok_iff.1 hentry
  obtain rfl := (of_complete hcomplete).2
  exact ⟨name, _, default, outcome, hread, hcomplete⟩

/-- A property whose type is read as an entity is a relation to the class of that. -/
lemma relation_of_read {entity target : String} {nullable : Bool} {modifiers : Modifiers}
    (h : ofValue config tree (.mapping fields) = .ok r) (hp : p ∈ r.properties) (hbare : bare target = target)
    (hread : (readerOf config tree (.mapping fields)).read p.expression =
      .ok ⟨.entity entity target, nullable, modifiers⟩) :
    ∃ relation, p.relation? = some relation ∧ relation.target = target := by
  obtain ⟨name, block, default, outcome, hread', hcomplete⟩ := of_mem_properties h hp
  obtain rfl := Except.ok.inj (hread.symm.trans hread')
  obtain ⟨relation, hrelation, htarget⟩ := relation_of_complete rfl hcomplete
  exact ⟨relation, hrelation, htarget.trans hbare⟩

/-- How an entity refers to itself.  With its namespace, it does so always.  Its short name is the type of a relation
unless the search gets stuck, and a relation to the entity itself exactly if every class that is tried before is
missing: those in the namespaces, and the known ones that come earlier by code point. -/
theorem self_references_iff (config : Config) (tree : FileTree) (h : Defines fields entity space) (nullable : Bool) :
    let reader := readerOf config tree (.mapping fields)
    let own := ownClass entity space
    let isFirst := ∀ c ∈ reader.resolver.earlier entity own, reader.resolver.isThere c = .ok false
    reader.read (named nullable own) = .ok ⟨.entity entity own, nullable, {}⟩ ∧
      ((∃ fault, reader.read (named nullable entity) = .error (.file fault) ∧
          reader.resolver.GetsStuck entity fault) ∨
        ∃ target, reader.read (named nullable entity) = .ok ⟨.entity entity target, nullable, {}⟩ ∧
          reader.resolver.isThere target = .ok true) ∧
      (reader.read (named nullable entity) = .ok ⟨.entity entity own, nullable, {}⟩ ↔ isFirst) ∧
      ∀ r, ofValue config tree (.mapping fields) = .ok r → ∀ p ∈ r.properties,
        (p.expression = named nullable own → ∃ relation, p.relation? = some relation ∧ relation.target = own) ∧
          (p.expression = named nullable entity →
            ∃ relation, p.relation? = some relation ∧ (relation.target = own ↔ isFirst)) := by
  intro reader own isFirst
  have hbare : reader.resolver.IsBare := isBare_readerOf config tree _
  have htried := h.ownClass_tried config tree
  have hthere := h.isThere_ownClass config tree
  have hcases := TypeReader.read_short_cases hbare h.isEntity h.notKeyword htried hthere nullable
  have hfirst := TypeReader.read_short_iff hbare h.isEntity h.notKeyword htried hthere nullable
  refine ⟨h.read_ownClass config tree nullable, ?_, hfirst, fun r hr p hp => ⟨?_, ?_⟩⟩
  · rcases hcases with hstuck | ⟨target, hread, -, hthere⟩
    · exact .inl hstuck
    · exact .inr ⟨target, hread, hthere⟩
  · intro hexpression
    have hread : reader.read p.expression = .ok ⟨.entity entity own, nullable, {}⟩ :=
      hexpression ▸ h.read_ownClass config tree nullable
    exact relation_of_read hr hp (bare_of_isProper h.isName_ownClass.isProper) hread
  · intro hexpression
    rcases hcases with ⟨fault, hfail, -⟩ | ⟨target, hread, htarget, -⟩
    · obtain ⟨_, _, _, outcome, hread, -⟩ := of_mem_properties hr hp
      rw [hexpression] at hread
      cases hfail.symm.trans hread
    · obtain ⟨relation, hrelation, heq⟩ := relation_of_read hr hp htarget (hexpression ▸ hread)
      refine ⟨relation, hrelation, Iff.trans ?_ hfirst⟩
      rw [heq, hread]
      simp [own]

/-- A user in a namespace, with a parent. -/
def userWithParent (space type : String) : Fields :=
  [(.text "entity", .text "User"), (.text "namespace", .text space),
    (.text "properties", .mapping [(.text "parent", .text type)])]

/-- Where the namespace of a user is the first to be searched, its parent is a user of the same kind. -/
theorem user_refers_to_itself :
    Defines (userWithParent "App\\Model" "?User") "User" "App\\Model" ∧
      ∃ r, ofValue {} (.empty []) (.mapping (userWithParent "App\\Model" "?User")) = .ok r ∧
        ∃ p ∈ r.properties, p.expression = "?User" ∧
          ∃ relation, p.relation? = some relation ∧ relation.target = "App\\Model\\User" := by
  have hdefines : Defines (userWithParent "App\\Model" "?User") "User" "App\\Model" :=
    ⟨rfl, rfl, by decide, by decide, by decide⟩
  obtain ⟨r, hr, hproperties⟩ :
      ∃ r, ofValue {} (.empty []) (.mapping (userWithParent "App\\Model" "?User")) = .ok r ∧
        r.properties.map (·.expression) = ["?User"] := ⟨_, rfl, rfl⟩
  obtain ⟨p, hp, hexpression⟩ : ∃ p ∈ r.properties, p.expression = "?User" := by
    rw [← List.mem_map, hproperties]
    exact List.mem_singleton_self _
  obtain ⟨-, -, -, hall⟩ := self_references_iff {} (.empty []) hdefines true
  obtain ⟨relation, hrelation, htarget⟩ := (hall r hr p hp).2 hexpression
  refine ⟨hdefines, r, hr, p, hp, hexpression, relation, hrelation, htarget.2 ?_⟩
  have hnone : (readerOf {} (.empty []) (.mapping (userWithParent "App\\Model" "?User"))).resolver.earlier "User"
      (ownClass "User" "App\\Model") = [] := rfl
  rw [hnone]
  exact List.forall_mem_nil _

/-- A tree in which there is a user already. -/
def treeOfUser : FileTree :=
  { home := []
    nodes := [(["app"], .directory), (["app", "Model"], .directory), (["app", "Model", "User.php"], .file "")] }

/-- A user of another namespace refers to the one that is there already, and not to itself. -/
theorem user_refers_to_another_user :
    Defines (userWithParent "App\\Other" "User") "User" "App\\Other" ∧
      ownClass "User" "App\\Other" = "App\\Other\\User" ∧
      (ofValue {} treeOfUser (.mapping (userWithParent "App\\Other" "User"))).map
        (fun r => r.properties.map fun p => (p.expression, p.relation?.map (·.target))) =
          .ok [("User", some "App\\Model\\User")] :=
  ⟨⟨rfl, rfl, by decide, by decide, by decide⟩, by decide, rfl⟩

end EntityScaffold.Definition
