import EntityScaffold.Proofs.Scaffold.Words
/-!
# Rendered files are balanced

If the texts that were chosen freely have no brackets (`HasBracketFreeTexts`), every bracket of a rendered file was
written by a generator, and has its partner.  What a unit says in its code and its types is covered by
`isWord_of_mem_words` and `isKnown_of_mem_references` for all artifacts at once; only the comments, which have brackets
of their own, are gone through one by one.
-/

namespace EntityScaffold.Scaffold

open Source Artifact Text

attribute [local irreducible] ClassName.qualify Config.usesUuid

/-- The texts that a record takes over as they were given have no brackets. -/
structure HasBracketFreeTexts (config : Config) (r : Record) : Prop where
  space : HasNoBrackets r.space
  targets : ∀ p ∈ r.properties, ∀ relation ∈ p.relation?, HasNoBrackets relation.target
  defaults : ∀ p ∈ r.properties, ∀ value ∈ p.default?, HasNoBrackets value
  traits : ∀ traitClass ∈ r.traitClasses, HasNoBrackets traitClass
  notFoundBase : HasNoBrackets config.notFoundBase
  eventBase : HasNoBrackets config.eventBase

/-- What is known of the texts that units are made of. -/
structure HasPlainTexts (config : Config) (r : Record) : Prop
    extends HasBracketFreeTexts config r, HasIdentifiers r where
  hints : ∀ p ∈ r.properties, HasNoBrackets p.typeHint
  storage : ∀ p ∈ r.properties, HasNoBrackets (p.storage.getD "None")

variable {config : Config} {r : Record} {a : Artifact} {p : Property}

lemma HasBracketFreeTexts.target (h : HasBracketFreeTexts config r) {relation : Relation} (hp : p ∈ r.properties)
    (hkind : p.kind = .relation relation) : HasNoBrackets relation.target :=
  h.targets p hp relation (by simp only [Property.relation?, hkind, Option.mem_some])

lemma HasBracketFreeTexts.hasPlainTexts (h : HasBracketFreeTexts config r) (hr : r.validate = .ok ())
    (hbuilt : ∀ p ∈ r.properties, p.IsBuilt) (hentity : isIdentifier r.entityName = true) :
    HasPlainTexts config r := by
  have hprimitives : ∀ entry ∈ primitives, HasNoBrackets entry.2.hint ∧ HasNoBrackets entry.2.storage := by
    decide
  have hnone : HasNoBrackets "None" := by decide
  have hproperty : ∀ p ∈ r.properties, isIdentifier p.name = true ∧ HasNoBrackets p.typeHint ∧
      HasNoBrackets (p.storage.getD "None") := by
    intro p hp
    exact (hbuilt p hp).of_texts hprimitives hnone (h.targets p hp)
  exact { h with
    entity := hentity
    stems := (Record.stems_of_validate hr).1
    names := fun p hp => (hproperty p hp).1
    hints := fun p hp => (hproperty p hp).2.1
    storage := fun p hp => (hproperty p hp).2.2 }

/-! ## Comments -/

lemma isBalanced_inQuotes {s : String} (hs : IsBalanced s) : IsBalanced (Mapping.inQuotes s) := by
  have hquote : IsBalanced "\"" := by decide
  exact (hquote.append hs).append hquote

lemma isBalanced_directive {name : String} {args : List String} (hname : IsBalanced name)
    (hargs : ∀ arg ∈ args, IsBalanced arg) : IsBalanced (Mapping.directive name args) := by
  have hmark : IsBalanced "@ORM\\" := by decide
  exact (hmark.append hname).enclose (by decide) (.join (by decide) hargs)

lemma isBalanced_toString_int (n : Int) : IsBalanced (toString n) := by
  have hminus : IsBalanced "-" := by decide
  have hnat (n : Nat) : IsBalanced (toString n) := .of_hasNoBrackets (.of_hasIdentifierChars (.toString_nat n))
  cases n with
  | ofNat n => exact hnat n
  | negSucc n => exact hminus.append (hnat (n + 1))

lemma isBalanced_flag {c : Prop} [Decidable c] {arg : String} (harg : IsBalanced arg) :
    ∀ s ∈ if c then [arg] else [], IsBalanced s :=
  forall_mem_ite_nil fun _ => List.forall_mem_singleton.2 harg

lemma isBalanced_joinColumn (nullable : Bool) (relation : Relation) :
    IsBalanced (Mapping.joinColumn nullable relation) := by
  refine isBalanced_directive (by decide) (List.forall_mem_append.2 ⟨List.forall_mem_singleton.2 ?_, ?_⟩)
  · cases nullable <;> decide
  · exact isBalanced_flag (by decide)

lemma isBalanced_list {start name : String} (hstart : IsBalanced start) (hname : HasNoBrackets name) :
    IsBalanced (start ++ name ++ "[]") :=
  (hstart.append (.of_hasNoBrackets hname)).append (by decide)

namespace HasPlainTexts

variable (h : HasPlainTexts config r)

include h

lemma column (hp : p ∈ r.properties) : IsBalanced (Mapping.columnText p) := by
  have htype : IsBalanced "type=" := by decide
  have hkeys : ∀ key ∈ ["length=", "precision=", "scale="], IsBalanced key := by decide
  refine isBalanced_directive (by decide) (Mapping.forall_mem_columnArgs ?_ (fun key hkey n => ?_) (by decide))
  · exact htype.append (isBalanced_inQuotes (.of_hasNoBrackets (h.storage p hp)))
  · exact (hkeys key hkey).append (isBalanced_toString_int n)

lemma ofRelation {relation : Relation} (hp : p ∈ r.properties) (hkind : p.kind = .relation relation) :
    IsBalanced (Mapping.ofRelation r.entityName relation) := by
  have htarget : HasNoBrackets relation.target := h.target hp hkind
  have hentity := h.variableOf
  have hone : IsBalanced (Mapping.inQuotes (uncapitalize r.entityName)) :=
    isBalanced_inQuotes (.of_hasNoBrackets (.of_hasIdentifierChars hentity))
  have hmany : IsBalanced (Mapping.inQuotes (Naming.plural (uncapitalize r.entityName))) :=
    isBalanced_inQuotes (.of_hasNoBrackets (.of_hasIdentifierChars hentity.plural))
  have hmapped : IsBalanced "mappedBy=" := by decide
  have hinversed : IsBalanced "inversedBy=" := by decide
  have hinverse : ∀ arg ∈ Mapping.inverseArgs (uncapitalize r.entityName) relation, IsBalanced arg := by
    rw [Mapping.inverseArgs]
    split
    · exact List.forall_mem_singleton.2 (hmapped.append hone)
    · exact List.forall_mem_singleton.2 (hinversed.append hone)
    · exact List.forall_mem_singleton.2 (hinversed.append hmany)
    · exact nofun
  have hcascade : ∀ arg ∈ (relation.cascade.map fun c =>
      "cascade=\x7b" ++ Mapping.inQuotes c.name ++ "\x7d").toList, IsBalanced arg := by
    cases relation.cascade with
    | none => exact nofun
    | some c => exact List.forall_mem_singleton.2 (by cases c <;> decide)
  have hmapping : IsBalanced relation.kind.mappingName := by cases relation.kind <;> decide
  have hkey : IsBalanced "targetEntity=" := by decide
  refine isBalanced_directive hmapping ?_
  simp only [List.forall_mem_append, List.forall_mem_singleton]
  exact ⟨⟨hkey.append (isBalanced_inQuotes (.of_hasNoBrackets htarget)), hinverse⟩, hcascade⟩

lemma comments_member_entity (hp : p ∈ r.properties) :
    ∀ comment ∈ (Entity.member r p).comments, IsBalanced comment := by
  rw [Entity.member]
  split
  · exact List.forall_mem_singleton.2 (h.column hp)
  · next relation hkind =>
    have hrelation := h.ofRelation hp hkind
    have htarget : HasNoBrackets relation.target := h.target hp hkind
    have hlist : IsBalanced ("@var Collection|" ++ Entity.lastSegment relation.target ++ "[]") :=
      isBalanced_list (by decide) (htarget.of_subset (lastPiece_subset '\\' relation.target))
    simp only
    split
    · exact List.forall_mem_cons.2 ⟨hrelation, List.forall_mem_singleton.2 hlist⟩
    · exact List.forall_mem_cons.2 ⟨hrelation, List.forall_mem_singleton.2 (isBalanced_joinColumn _ _)⟩

lemma comments_entity : ∀ comment ∈ (Entity.unit config r).comments, IsBalanced comment := by
  have htable : IsBalanced ("@ORM\\Table(name=" ++ Mapping.inQuotes (Naming.snake r.entityName) ++ ")") := by
    have hparens : IsBalanced ("@ORM\\Table(name=" ++ ")") := by decide
    have hname := (HasIdentifierChars.of_isIdentifier h.entity).snake
    exact hparens.insert (isBalanced_inQuotes (.of_hasNoBrackets (.of_hasIdentifierChars hname)))
  have hid : ∀ comment ∈ Entity.idComments config, IsBalanced comment := by
    rw [Entity.idComments]
    split <;> decide
  have hmethods : ∀ m ∈ (Entity.unit config r).declaration.methods, ∀ comment ∈ m.comments, IsBalanced comment := by
    intro m hm
    rw [comments_methods_entity m hm]
    exact List.forall_mem_nil _
  simp only [SourceUnit.comments, List.forall_mem_append, List.forall_mem_flatMap]
  refine ⟨⟨?_, ?_⟩, hmethods⟩
  · exact List.forall_mem_cons.2 ⟨by decide, List.forall_mem_singleton.2 htable⟩
  · exact List.forall_mem_cons.2 ⟨hid, List.forall_mem_map.2 fun p hp => h.comments_member_entity hp⟩

lemma comments_data : ∀ comment ∈ (Data.unit r).comments, IsBalanced comment := by
  have hmember : ∀ p ∈ r.properties, ∀ comment ∈ (Data.member p).comments, IsBalanced comment := by
    intro p hp
    have hlist : IsBalanced ("@var " ++ ClassName.shortName p.typeHint ++ "[]") :=
      isBalanced_list (by decide) ((h.hints p hp).of_subset (shortName_subset p.typeHint))
    rw [Data.member]
    split
    · exact List.forall_mem_singleton.2 hlist
    · exact List.forall_mem_nil _
  simp only [SourceUnit.comments, List.forall_mem_append, List.forall_mem_flatMap]
  exact ⟨⟨List.forall_mem_nil _, List.forall_mem_map.2 hmember⟩, List.forall_mem_nil _⟩

lemma throwsComment : ∀ comment ∈ [Facade.throwsComment r], IsBalanced comment := by
  have hclass := h.className (mem_artifacts_of_isFixed (r := r) (a := .notFound) rfl)
  have hthrows : IsBalanced "@throws " := by decide
  exact List.forall_mem_singleton.2 (hthrows.append (.of_hasNoBrackets (.of_hasIdentifierChars hclass)))

lemma comments_repository (single multi : List Property) :
    ∀ comment ∈ (repositoryOf config r single multi).comments, IsBalanced comment := by
  have hnone : ∀ comment ∈ ([] : List String), IsBalanced comment := List.forall_mem_nil _
  have hclass := h.className (mem_artifacts_of_isFixed (r := r) (a := .entity) rfl)
  have hreturns : ∀ comment ∈ [Repository.returnsComment r], IsBalanced comment :=
    List.forall_mem_singleton.2 (isBalanced_list (by decide) (.of_hasIdentifierChars hclass))
  have hmethods : ∀ m ∈ Repository.methods config r single multi, ∀ comment ∈ m.comments, IsBalanced comment := by
    simp only [Repository.methods, List.forall_mem_append, List.forall_mem_cons, List.forall_mem_map]
    exact ⟨⟨⟨⟨⟨hnone, hnone, h.throwsComment, List.forall_mem_nil _⟩, fun p _ => h.throwsComment⟩, fun p _ => hreturns⟩,
      forall_mem_ite_nil fun _ => List.forall_mem_singleton.2 hreturns⟩, hnone, hnone, List.forall_mem_nil _⟩
  exact List.forall_mem_append.2 ⟨List.forall_mem_nil _, List.forall_mem_flatMap.2 hmethods⟩

lemma comments_facade : ∀ comment ∈ (Facade.unit config r).comments, IsBalanced comment := by
  have hnone : ∀ comment ∈ ([] : List String), IsBalanced comment := List.forall_mem_nil _
  have hmethods : ∀ m ∈ Facade.methods config r, ∀ comment ∈ m.comments, IsBalanced comment := by
    simp only [Facade.methods, List.forall_mem_append, List.forall_mem_cons]
    exact ⟨⟨⟨hnone, hnone, List.forall_mem_nil _⟩,
      forall_mem_ite_nil fun _ => List.forall_mem_singleton.2 h.throwsComment⟩,
      forall_mem_ite_nil fun _ => List.forall_mem_singleton.2 h.throwsComment⟩
  exact List.forall_mem_append.2 ⟨List.forall_mem_nil _, List.forall_mem_flatMap.2 hmethods⟩

lemma comments_unitAt (hr : r.IsConsistent) (a : Artifact) :
    ∀ comment ∈ (unitAt config r a).comments, IsBalanced comment := by
  cases a with
  | entity => exact h.comments_entity
  | data => exact h.comments_data
  | repository =>
    obtain ⟨single, multi, -, hunit⟩ := exists_repository hr config
    rw [unitAt_eq hunit]
    exact h.comments_repository single multi
  | facade => exact h.comments_facade
  | _ => exact List.forall_mem_nil _

/-! ## Names and words -/

omit h in
lemma hasNoBrackets_qualify {space name : String} (hspace : HasNoBrackets space) (hname : HasNoBrackets name) :
    HasNoBrackets (ClassName.qualify space name) := by
  intro c hc
  obtain hc | rfl | hc := mem_qualify hc
  · exact hspace c hc
  · decide
  · exact hname c hc

lemma spaceOf (a : Artifact) : HasNoBrackets (r.spaceOf a) := by
  cases a with
  | notFound | event => exact hasNoBrackets_qualify h.space (by decide)
  | _ => exact h.space

/-- Whatever a name stands for, it has no brackets. -/
lemma hasNoBrackets_of_isKnown (hr : r.IsConsistent) {name : String} (hname : Known config r name) :
    HasNoBrackets name := by
  cases hname with
  | builtin hname =>
    have hwords : ∀ word ∈ SourceUnit.builtinTypes, HasNoBrackets word := by decide
    exact hwords name hname
  | sibling hcount =>
    obtain ⟨u, hu, rfl⟩ := List.mem_map.1 (List.count_pos_iff.1 (hcount ▸ Nat.one_pos))
    obtain ⟨a, ha, rfl⟩ := List.mem_map.1 hu
    rw [qualifiedName_unitAt hr]
    exact hasNoBrackets_qualify (h.spaceOf a) (.of_hasIdentifierChars (h.className ha))
  | framework hname =>
    have hclasses : ∀ name ∈ frameworkClasses, HasNoBrackets name := by decide
    exact hclasses name hname
  | base hname =>
    obtain rfl | rfl := List.mem_pair.1 hname
    · exact h.notFoundBase.of_subset (bare_subset config.notFoundBase)
    · exact h.eventBase.of_subset (bare_subset config.eventBase)
  | traitClass hname => exact h.traits name hname
  | property hp htype => exact htype ▸ h.hints _ hp

lemma isBalanced_of_isWord {word : String} (hword : IsWord r word) : IsBalanced word := by
  cases hword with
  | identifier hchars => exact .of_hasNoBrackets (.of_hasIdentifierChars hchars)
  | emptyList hword =>
    rw [hword]
    decide
  | literal hp hvalue hword =>
    have hown : ∀ c ∈ Literal.ownChars, isBracket c = false := by decide
    rw [hword]
    exact .of_hasNoBrackets fun c hc => (Literal.mem_print hc).elim (hown c) (h.defaults _ hp _ hvalue c)

lemma hasBalancedTexts_unitAt (hr : r.IsConsistent) (ha : a ∈ artifacts r) :
    (unitAt config r a).HasBalancedTexts where
  space := by
    rw [space_unitAt hr]
    exact h.spaceOf a
  references name hname := h.hasNoBrackets_of_isKnown hr (isKnown_of_mem_references hr a name hname)
  words word hword := h.isBalanced_of_isWord (isWord_of_mem_words h.toHasIdentifiers hr ha word hword)
  comments := h.comments_unitAt hr a

end HasPlainTexts

/-- Every bracket in the text of a unit has its partner, in the text that is printed and in that of the file. -/
theorem rendered_units_are_balanced (config : Config) (r : Record) (hvalid : r.validate = .ok ())
    (hbuilt : ∀ p ∈ r.properties, p.IsBuilt) (hentity : isIdentifier r.entityName = true)
    (htexts : HasBracketFreeTexts config r) :
    ∃ us, units config r = .ok us ∧ us.map (·.1) = artifacts r ∧
      ∀ au ∈ us, IsBalanced au.2.print ∧ IsBalanced (Lines.normalize au.2.print) := by
  have hplain := htexts.hasPlainTexts hvalid hbuilt hentity
  have hshown : ShowsNumbers r := showsNumbers_of_isBuilt hbuilt
  refine (hasUnits hvalid config (List.forall_mem_map.2 fun a ha => ?_)).exists_units hshown
  have hbalanced : IsBalanced (unitAt config r a).print :=
    (hplain.hasBalancedTexts_unitAt (Record.isConsistent_of_validate hvalid) ha).isBalanced_print
  exact ⟨hbalanced, hbalanced.normalize⟩

/-- A consignment with a label, and the stops on its way. -/
def consignment : Record where
  space := "App\\Post"
  entityName := "Consignment"
  properties :=
    [{ name := "label", expression := "string|40", kind := .scalar "string" (some "handle with care")
       storage := some "string", nullable := false, modifiers := { length := some 40 } },
      { name := "stops", expression := "Stop", storage := none, nullable := false, modifiers := {}
        kind := .relation (.build "App\\Post\\Stop" .oneToMany false (some .all) false) }]
  getBy := ["label"]
  events := ["created"]
  traits := [("Timestampable", "Gedmo\\Timestampable\\Traits\\TimestampableEntity")]

theorem consignment_is_balanced : consignment.validate = .ok () ∧ HasBracketFreeTexts {} consignment ∧
    ∃ us, units {} consignment = .ok us ∧ us.map (·.1) = artifacts consignment ∧
      ∀ au ∈ us, IsBalanced au.2.print ∧ IsBalanced (Lines.normalize au.2.print) := by
  let reader : TypeReader := ⟨.make ["App\\Post"] ["App\\Post\\Stop"] none ".php" (.empty []), []⟩
  have hvalid : consignment.validate = .ok () := by decide
  have hbuilt : ∀ p ∈ consignment.properties, p.IsBuilt := by
    refine List.forall_mem_cons.2 ⟨?_, List.forall_mem_singleton.2 ?_⟩
    · exact ⟨reader, "string|40", ⟨.scalar ⟨"string", "string"⟩, false, { length := some 40 }⟩, none,
        some "handle with care", by decide, by decide⟩
    · exact ⟨reader, "Stop", ⟨.entity "Stop" "App\\Post\\Stop", false, {}⟩,
        some (.build "App\\Post\\Stop" .oneToMany false (some .all) false), none, by decide, by decide⟩
  have htexts : HasBracketFreeTexts {} consignment := ⟨by decide, by decide, by decide, by decide, by decide, by decide⟩
  exact ⟨hvalid, htexts, rendered_units_are_balanced {} consignment hvalid hbuilt (by decide) htexts⟩

end EntityScaffold.Scaffold
