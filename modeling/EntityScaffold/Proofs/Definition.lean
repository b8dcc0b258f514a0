import EntityScaffold.Definition
import EntityScaffold.Proofs.Property
import EntityScaffold.Proofs.Record.Assembly
import EntityScaffold.Proofs.Resolver.Growth
/-!
# Definitions that are read again

Where files have been added, a definition is read again to a record that differs in the targets of relations at
most, unless a path is too long to look (`ofValue_lookingAt_cases`).  The record is the same exactly if none of the
types is disturbed: no class has come into being that was looked for in vain before the one that was found
(`ofValue_lookingAt_iff`).
-/

namespace EntityScaffold

open ClassName FileTree Document

/-! ## Types -/

/-- Outcomes that differ in the class of an entity at most. -/
inductive TypeOutcome.Retargeted : TypeOutcome → TypeOutcome → Prop
  | scalar (primitive : Primitive) (nullable : Bool) (modifiers : Modifiers) :
      Retargeted ⟨.scalar primitive, nullable, modifiers⟩ ⟨.scalar primitive, nullable, modifiers⟩
  | entity {target target' : String} (entity : String) (nullable : Bool) (modifiers : Modifiers)
      (hbare : bare target = target) (hbare' : bare target' = target') :
      Retargeted ⟨.entity entity target, nullable, modifiers⟩ ⟨.entity entity target', nullable, modifiers⟩

namespace TypeReader

variable {reader : TypeReader} {tree : FileTree} {token base : String} {text : Option String} {o : TypeOutcome}

/-- The reader that looks at other files. -/
def lookingAt (reader : TypeReader) (tree : FileTree) : TypeReader :=
  { reader with resolver := reader.resolver.lookingAt tree }

/-- No class is there in another tree that was looked for in vain when a type was read, unless it is the one that was
found all the same. -/
def IsUndisturbed (reader : TypeReader) (tree : FileTree) (token : String) : Prop :=
  ∀ t, TypeExpression.split reader.recognizedFlags token = .ok t → primitive? t.base = none →
    ∀ c ∈ reader.resolver.missed t.base, (reader.resolver.lookingAt tree).isThere c = .ok false ∨
      (reader.resolver.lookingAt tree).isThere c = .ok true ∧ reader.resolver.resolve t.base = .ok (some c)

lemma sense_eq_ok_iff {sense : TypeSense} : reader.sense text base = .ok sense ↔
    (∃ primitive, primitive? base = some primitive ∧ sense = .scalar primitive) ∨
      primitive? base = none ∧ ∃ target, reader.resolver.resolve base = .ok (some target) ∧
        sense = .entity (shortName base) target := by
  unfold TypeReader.sense
  cases primitive? base with
  | some primitive => simp [eq_comm]
  | none =>
    rw [bind_eq_ok_iff]
    constructor
    · rintro ⟨found, hfound, h⟩
      cases found with
      | none => cases h
      | some target =>
        cases h
        exact .inr ⟨rfl, target, hfound, rfl⟩
    · rintro (⟨primitive, hprimitive, -⟩ | ⟨-, target, hfound, rfl⟩)
      · cases hprimitive
      · exact ⟨some target, hfound, rfl⟩

lemma read_eq_ok_iff : reader.read token = .ok o ↔
    ∃ t sense, TypeExpression.split reader.recognizedFlags token = .ok t ∧
      reader.sense (some token) t.base = .ok sense ∧ o = ⟨sense, t.nullable, t.modifiers⟩ := by
  have hsplit {t : TypeExpression} : TypeExpression.read reader.recognizedFlags (some token) = .ok t ↔
      TypeExpression.split reader.recognizedFlags token = .ok t := by
    unfold TypeExpression.read
    rw [Option.getD_some]
    split <;> simp_all [reject]
  unfold TypeReader.read readToken
  rw [bind_eq_ok_iff]
  constructor
  · rintro ⟨t, ht, h⟩
    obtain ⟨sense, hsense, h⟩ := bind_eq_ok_iff.1 h
    exact ⟨t, sense, hsplit.1 ht, hsense, (pure_eq_ok_iff.1 h).symm⟩
  · rintro ⟨t, sense, ht, hsense, rfl⟩
    exact ⟨t, hsplit.2 ht, bind_eq_ok_iff.2 ⟨sense, hsense, rfl⟩⟩

/-- In a tree that has grown, a type that was read is read again, unless a path hides what it leads to. -/
lemma read_lookingAt_cases (hbare : reader.resolver.IsBare) (hgrows : Grows reader.resolver.files tree)
    (h : reader.read token = .ok o) :
    (∃ fault, fault.Hides ∧ (reader.lookingAt tree).read token = .error (.file fault)) ∨
      ∃ o', (reader.lookingAt tree).read token = .ok o' ∧ o.Retargeted o' := by
  obtain ⟨t, sense, hsplit, hsense, rfl⟩ := read_eq_ok_iff.1 h
  obtain ⟨primitive, hprimitive, rfl⟩ | ⟨hprimitive, target, htarget, rfl⟩ := sense_eq_ok_iff.1 hsense
  · have hsense' : (reader.lookingAt tree).sense (some token) t.base = .ok (.scalar primitive) :=
      sense_eq_ok_iff.2 (.inl ⟨primitive, hprimitive, rfl⟩)
    exact .inr ⟨_, read_eq_ok_iff.2 ⟨t, _, hsplit, hsense', rfl⟩, .scalar primitive t.nullable t.modifiers⟩
  · obtain ⟨fault, hhides, hfault⟩ | ⟨target', htarget'⟩ := Resolver.resolve_lookingAt_cases hgrows htarget
    · refine .inl ⟨fault, hhides, ?_⟩
      have hfault' : (reader.lookingAt tree).resolver.resolve t.base = .error (.file fault) := hfault
      have hread : TypeExpression.read (reader.lookingAt tree).recognizedFlags (some token) = .ok t := by
        have hsplit' : TypeExpression.split (reader.lookingAt tree).recognizedFlags token = .ok t := hsplit
        simp only [TypeExpression.read, Option.getD_some, hsplit']
      rw [TypeReader.read, readToken, hread, ok_bind, TypeReader.sense, hprimitive, hfault']
      rfl
    · right
      have hsense' : (reader.lookingAt tree).sense (some token) t.base = .ok (.entity (shortName t.base) target') :=
        sense_eq_ok_iff.2 (.inr ⟨hprimitive, target', htarget', rfl⟩)
      have hbare' : (reader.resolver.lookingAt tree).IsBare := ⟨hbare.namespaces, hbare.known⟩
      exact ⟨_, read_eq_ok_iff.2 ⟨t, _, hsplit, hsense', rfl⟩, .entity _ _ _
        (Resolver.bare_of_resolve hbare htarget) (Resolver.bare_of_resolve hbare' htarget')⟩

/-- In a tree that has grown, a type has the same outcome exactly if it is undisturbed. -/
lemma read_lookingAt_iff (hbare : reader.resolver.IsBare) (hgrows : Grows reader.resolver.files tree)
    (h : reader.read token = .ok o) : (reader.lookingAt tree).read token = .ok o ↔ reader.IsUndisturbed tree token := by
  obtain ⟨t, sense, hsplit, hsense, rfl⟩ := read_eq_ok_iff.1 h
  have hagain : (reader.lookingAt tree).read token = .ok ⟨sense, t.nullable, t.modifiers⟩ ↔
      (reader.lookingAt tree).sense (some token) t.base = .ok sense := by
    rw [read_eq_ok_iff]
    constructor
    · rintro ⟨t', sense', hsplit', hsense', heq⟩
      obtain rfl : t = t' := Except.ok.inj (hsplit.symm.trans hsplit')
      cases heq
      exact hsense'
    · intro hsense'
      exact ⟨t, sense, hsplit, hsense', rfl⟩
  have hone : reader.IsUndisturbed tree token ↔ (primitive? t.base = none →
      ∀ c ∈ reader.resolver.missed t.base, (reader.resolver.lookingAt tree).isThere c = .ok false ∨
        (reader.resolver.lookingAt tree).isThere c = .ok true ∧ reader.resolver.resolve t.base = .ok (some c)) := by
    constructor
    · intro hall
      exact hall t hsplit
    · intro hthis t' hsplit'
      obtain rfl : t = t' := Except.ok.inj (hsplit.symm.trans hsplit')
      exact hthis
  rw [hagain, hone]
  obtain ⟨primitive, hprimitive, rfl⟩ | ⟨hprimitive, target, htarget, rfl⟩ := sense_eq_ok_iff.1 hsense
  · simp [sense_eq_ok_iff, hprimitive]
  · have hresolve : (reader.lookingAt tree).sense (some token) t.base = .ok (.entity (shortName t.base) target) ↔
        (reader.resolver.lookingAt tree).resolve t.base = .ok (some target) := by
      simp [sense_eq_ok_iff, hprimitive, lookingAt]
    rw [hresolve, Resolver.resolve_lookingAt_iff hbare hgrows htarget, htarget]
    simp [hprimitive, eq_comm]

end TypeReader

/-! ## Properties -/

/-- Properties that differ in the target of a relation at most. -/
inductive Property.Retargeted : Property → Property → Prop
  | same (p : Property) : Retargeted p p
  | relation {p : Property} {relation : Relation} (target : String) (h : p.kind = .relation relation) :
      Retargeted p { p with kind := .relation { relation with target } }

lemma Property.Retargeted.name_eq {p p' : Property} (h : p.Retargeted p') : p'.name = p.name := by
  cases h <;> rfl

lemma Property.exists_of_retargeted {ps ps' : List Property} (h : List.Forall₂ Property.Retargeted ps ps')
    {p' : Property} (hp : p' ∈ ps') : ∃ p ∈ ps, p.Retargeted p' := by
  induction h with
  | nil => cases hp
  | @cons q q' _ _ hfirst hrest ih =>
    rcases List.mem_cons.1 hp with rfl | hp
    · exact ⟨q, List.mem_cons_self, hfirst⟩
    · obtain ⟨p, hmem, hsame⟩ := ih hp
      exact ⟨p, List.mem_cons_of_mem q hmem, hsame⟩

lemma Property.names_of_retargeted {ps ps' : List Property} (h : List.Forall₂ Property.Retargeted ps ps') :
    ps'.map (·.name) = ps.map (·.name) := by
  induction h with
  | nil => rfl
  | cons hfirst hrest ih => rw [List.map_cons, List.map_cons, hfirst.name_eq, ih]

namespace Definition

variable {config : Config} {reader : TypeReader} {tree tree' : FileTree} {fields : Schema.Fields} {p : Property}
  {ps : List Property} {entries : List Schema.Fields} {value : Value} {r : Record}

/-- The property of a name and a type whose outcome is known. -/
def complete (name expression : String) (block : Value) (default : Option String) (outcome : TypeOutcome) :
    Except Failure Property :=
  match outcome.sense with
  | .scalar _ =>
    match block with
    | .null => Property.build name expression outcome none default
    | _ => refuse (.relationOfScalar name)
  | .entity _ target =>
    if default.isSome then refuse (.defaultOfRelation name)
    else do
      let relation ← relationOf name target block
      Property.build name expression outcome (some relation) none

lemma property_eq_ok_iff : property reader fields = .ok p ↔
    ∃ name expression outcome default, requiredText fields "name" = .ok name ∧
      typeText name fields = .ok expression ∧ reader.read expression = .ok outcome ∧
        defaultText (get fields "default") = .ok default ∧
          complete name expression (get fields "relation") default outcome = .ok p := by
  unfold property
  constructor
  · intro h
    obtain ⟨name, hname, h⟩ := bind_eq_ok_iff.1 h
    obtain ⟨expression, hexpression, h⟩ := bind_eq_ok_iff.1 h
    obtain ⟨outcome, houtcome, h⟩ := bind_eq_ok_iff.1 h
    obtain ⟨default, hdefault, h⟩ := bind_eq_ok_iff.1 h
    exact ⟨name, expression, outcome, default, hname, hexpression, houtcome, hdefault, h⟩
  · rintro ⟨name, expression, outcome, default, hname, hexpression, houtcome, hdefault, h⟩
    rw [hname, ok_bind, hexpression, ok_bind, houtcome, ok_bind, hdefault, ok_bind]
    exact h

lemma of_build {name expression : String} {outcome : TypeOutcome} {relation : Option Relation}
    {default : Option String} (h : Property.build name expression outcome relation default = .ok p) :
    p.name = name ∧ p.expression = expression := by
  obtain ⟨⟨⟩, -, h⟩ := bind_eq_ok_iff.1 h
  obtain ⟨⟨kind, storage⟩, -, h⟩ := bind_eq_ok_iff.1 h
  cases h
  exact ⟨rfl, rfl⟩

/-- What is completed is built. -/
lemma exists_build_of_complete {name expression : String} {block : Value} {default : Option String}
    {outcome : TypeOutcome} (h : complete name expression block default outcome = .ok p) :
    ∃ relation default, Property.build name expression outcome relation default = .ok p := by
  unfold complete at h
  split at h
  · split at h
    · exact ⟨none, default, h⟩
    · cases h
  · split at h
    · cases h
    · obtain ⟨relation, -, h⟩ := bind_eq_ok_iff.1 h
      exact ⟨some relation, none, h⟩

lemma of_complete {name expression : String} {block : Value} {default : Option String} {outcome : TypeOutcome}
    (h : complete name expression block default outcome = .ok p) : p.name = name ∧ p.expression = expression := by
  obtain ⟨_, _, hbuild⟩ := exists_build_of_complete h
  exact of_build hbuild

lemma isBuilt_of_property (h : property reader fields = .ok p) : p.IsBuilt := by
  obtain ⟨name, expression, outcome, _, -, -, hread, -, hcomplete⟩ := property_eq_ok_iff.1 h
  obtain ⟨relation, default, hbuild⟩ := exists_build_of_complete hcomplete
  obtain ⟨rfl, rfl⟩ := of_build hbuild
  exact ⟨reader, p.expression, outcome, relation, default, hread, hbuild⟩

lemma relation_retargeted {described : RelationBlock} {target : String} {relation : Relation}
    (h : described.relation target = .ok relation) (target' : String) :
    relation.target = bare target ∧ described.relation target' = .ok { relation with target := bare target' } := by
  rw [RelationBlock.relation] at h ⊢
  obtain ⟨kind, hkind, h⟩ := bind_eq_ok_iff.1 h
  obtain rfl := pure_eq_ok_iff.1 h
  rw [hkind, ok_bind]
  exact ⟨rfl, rfl⟩

/-- The block of a relation says nothing about its target. -/
lemma relationOf_retargeted {name target : String} {block : Value} {relation : Relation}
    (h : relationOf name target block = .ok relation) (target' : String) :
    relation.target = bare target ∧ relationOf name target' block = .ok { relation with target := bare target' } := by
  have hfields {fields : Schema.Fields} (h : relationOf name target (.mapping fields) = .ok relation) :
      relation.target = bare target ∧
        relationOf name target' (.mapping fields) = .ok { relation with target := bare target' } := by
    simp only [relationOf, ok_bind] at h ⊢
    cases hcheck : RelationBlock.check (.mapping fields) with
    | accepted described =>
      rw [hcheck] at h
      exact relation_retargeted h target'
    | refused issues =>
      rw [hcheck] at h
      cases h
  unfold relationOf at h
  split at h
  · exact hfields h
  · exact hfields h
  · cases h

/-- What is said about a property besides its type suits every target. -/
lemma complete_retargeted {name expression : String} {block : Value} {default : Option String}
    {o o' : TypeOutcome} (h : o.Retargeted o') (hp : complete name expression block default o = .ok p) :
    ∃ p', complete name expression block default o' = .ok p' ∧ p.Retargeted p' ∧ (p' = p ↔ o' = o) := by
  cases h with
  | scalar primitive nullable modifiers => exact ⟨p, hp, .same p, by simp⟩
  | @entity target target' entity nullable modifiers hbare hbare' =>
    simp only [complete] at hp ⊢
    split at hp
    · cases hp
    · next hdefault =>
      obtain ⟨relation, hrelation, hp⟩ := bind_eq_ok_iff.1 hp
      obtain ⟨htarget, hrelation'⟩ := relationOf_retargeted hrelation target'
      have hname : Property.checkName name = .ok () := Property.checkName_of_build hp
      rw [Property.build_related hname rfl] at hp
      cases hp
      refine ⟨.related name expression ⟨.entity entity target', nullable, modifiers⟩
        { relation with target := bare target' }, ?_, .relation (bare target') rfl, ?_⟩
      · rw [if_neg hdefault, hrelation', ok_bind]
        exact Property.build_related hname rfl _
      · simp only [Property.related, Property.mk.injEq, PropertyKind.relation.injEq, TypeOutcome.mk.injEq,
          TypeSense.entity.injEq, true_and, and_true]
        constructor
        · intro heq
          rw [← hbare, ← htarget, ← heq, hbare']
        · intro heq
          rw [heq, hbare, ← hbare, ← htarget]

/-- In a tree that has grown, a property is read again but for its target, unless a path hides what it leads to. -/
lemma property_lookingAt_cases (hbare : reader.resolver.IsBare) (hgrows : Grows reader.resolver.files tree)
    (h : property reader fields = .ok p) :
    (∃ fault, fault.Hides ∧ property (reader.lookingAt tree) fields = .error (.file fault)) ∨
      ∃ p', property (reader.lookingAt tree) fields = .ok p' ∧ p.Retargeted p' := by
  obtain ⟨name, expression, o, default, hname, hexpression, hread, hdefault, hp⟩ := property_eq_ok_iff.1 h
  obtain ⟨fault, hhides, hfault⟩ | ⟨o', hread', hretargeted⟩ := TypeReader.read_lookingAt_cases hbare hgrows hread
  · refine .inl ⟨fault, hhides, ?_⟩
    unfold property
    rw [hname, ok_bind, hexpression, ok_bind, hfault]
    rfl
  · right
    obtain ⟨p', hp', hsame, -⟩ := complete_retargeted hretargeted hp
    exact ⟨p', property_eq_ok_iff.2 ⟨name, expression, o', default, hname, hexpression, hread', hdefault, hp'⟩, hsame⟩

/-- In a tree that has grown, a property is the same exactly if its type is undisturbed. -/
lemma property_lookingAt_iff (hbare : reader.resolver.IsBare) (hgrows : Grows reader.resolver.files tree)
    (h : property reader fields = .ok p) :
    property (reader.lookingAt tree) fields = .ok p ↔ reader.IsUndisturbed tree p.expression := by
  obtain ⟨name, expression, o, default, hname, hexpression, hread, hdefault, hp⟩ := property_eq_ok_iff.1 h
  rw [(of_complete hp).2, ← TypeReader.read_lookingAt_iff hbare hgrows hread]
  constructor
  · intro h'
    obtain ⟨name', expression', o', default', hname', hexpression', hread', hdefault', hp'⟩ :=
      property_eq_ok_iff.1 h'
    obtain rfl : name = name' := Except.ok.inj (hname.symm.trans hname')
    obtain rfl : expression = expression' := Except.ok.inj (hexpression.symm.trans hexpression')
    obtain rfl : default = default' := Except.ok.inj (hdefault.symm.trans hdefault')
    obtain ⟨fault, -, hfault⟩ | ⟨o'', hread'', hretargeted⟩ := TypeReader.read_lookingAt_cases hbare hgrows hread
    · rw [hfault] at hread'
      cases hread'
    · obtain rfl : o' = o'' := Except.ok.inj (hread'.symm.trans hread'')
      obtain ⟨p', hp'', -, hsame⟩ := complete_retargeted hretargeted hp
      obtain rfl : p = p' := Except.ok.inj (hp'.symm.trans hp'')
      rwa [hsame.1 rfl] at hread'
  · intro hread'
    exact property_eq_ok_iff.2 ⟨name, expression, o, default, hname, hexpression, hread', hdefault, hp⟩

lemma properties_lookingAt_cases (hbare : reader.resolver.IsBare) (hgrows : Grows reader.resolver.files tree)
    (h : entries.mapM (property reader) = .ok ps) :
    (∃ fault, fault.Hides ∧ entries.mapM (property (reader.lookingAt tree)) = .error (.file fault)) ∨
      ∃ ps', entries.mapM (property (reader.lookingAt tree)) = .ok ps' ∧ List.Forall₂ Property.Retargeted ps ps' := by
  have hforall := mapM_eq_ok_iff.1 h
  induction hforall with
  | nil => exact .inr ⟨[], rfl, .nil⟩
  | @cons fields p entries ps hfirst hrest ih =>
    rw [List.mapM_cons]
    obtain ⟨fault, hhides, hfault⟩ | ⟨p', hp', hsame⟩ := property_lookingAt_cases hbare hgrows hfirst
    · refine .inl ⟨fault, hhides, ?_⟩
      rw [hfault]
      rfl
    · rw [hp', ok_bind]
      obtain ⟨fault, hhides, hfault⟩ | ⟨ps', hps', hsames⟩ := ih (mapM_eq_ok_iff.2 hrest)
      · refine .inl ⟨fault, hhides, ?_⟩
        rw [hfault]
        rfl
      · right
        rw [hps']
        exact ⟨p' :: ps', rfl, .cons hsame hsames⟩

lemma properties_lookingAt_iff (hbare : reader.resolver.IsBare) (hgrows : Grows reader.resolver.files tree)
    (h : entries.mapM (property reader) = .ok ps) :
    entries.mapM (property (reader.lookingAt tree)) = .ok ps ↔ ∀ p ∈ ps, reader.IsUndisturbed tree p.expression := by
  rw [mapM_eq_ok_iff] at h ⊢
  induction h with
  | nil => simp
  | cons hfirst hrest ih =>
    rw [List.forall₂_cons, List.forall_mem_cons, property_lookingAt_iff hbare hgrows hfirst, ih]

/-! ## Records -/

/-- The class that a definition is about, which counts as one that is there. -/
def ownClasses : Value → List String
  | .mapping fields =>
    match requiredText fields "entity", requiredText fields "namespace" with
    | .ok entity, .ok space => [qualify (bare space) entity]
    | _, _ => []
  | _ => []

/-- What the types of a definition are read with. -/
def readerOf (config : Config) (tree : FileTree) (value : Value) : TypeReader :=
  TypeReader.ofConfig config (ownClasses value) tree

lemma isBare_readerOf (config : Config) (tree : FileTree) (value : Value) :
    (readerOf config tree value).resolver.IsBare := Resolver.isBare_make _ _ _ _ _

/-- A record is assembled of other properties of the same names. -/
lemma assemble_of_names {draft : Draft} (h : draft.assemble config = .ok r)
    (hnames : ps.map (·.name) = draft.properties.map (·.name)) :
    { draft with properties := ps }.assemble config = .ok { r with properties := ps } := by
  obtain ⟨hgetBy, hgetAllBy, hproperties, hevents, htraits, hspace, hname, -, hfeatures⟩ :=
    Draft.assemble_eq_ok_iff.1 h
  refine Draft.assemble_eq_ok_iff.2 ⟨hgetBy, hgetAllBy, ?_, hevents, htraits, hspace, hname, rfl, hfeatures⟩
  simp only [checkProperties, hnames]
  exact hproperties

lemma properties_of_assemble {draft : Draft} (h : draft.assemble config = .ok r) :
    r.properties = draft.properties := by
  obtain ⟨-, -, -, -, -, -, -, hproperties, -⟩ := Draft.assemble_eq_ok_iff.1 h
  exact hproperties

lemma readerOf_mapping {entity space : String} (hentity : requiredText fields "entity" = .ok entity)
    (hspace : requiredText fields "namespace" = .ok space) : readerOf config tree (.mapping fields) =
      TypeReader.ofConfig config [qualify (bare space) entity] tree := by
  simp only [readerOf, ownClasses, hentity, hspace]

/-- A definition is a record of the properties that its entries describe. -/
theorem ofValue_eq_ok_iff : ofValue config tree value = .ok r ↔
    ∃ fields entity space entries features, value = .mapping fields ∧ requiredText fields "entity" = .ok entity ∧
      requiredText fields "namespace" = .ok space ∧ propertyEntries (get fields "properties") = .ok entries ∧
        entries.mapM (property (readerOf config tree value)) = .ok r.properties ∧
          Definition.features (get fields "features") = .ok features ∧
            Draft.assemble
              { space := bare space, entityName := entity, properties := r.properties, features
                getBy := get fields "get_by", getAllBy := get fields "get_all_by"
                events := get fields "events", traits := traitList (get fields "traits") } config = .ok r := by
  constructor
  · intro h
    unfold ofValue at h
    split at h
    · next fields =>
      obtain ⟨entity, hentity, h⟩ := bind_eq_ok_iff.1 h
      obtain ⟨space, hspace, h⟩ := bind_eq_ok_iff.1 h
      obtain ⟨entries, hentries, h⟩ := bind_eq_ok_iff.1 h
      obtain ⟨ps, hps, h⟩ := bind_eq_ok_iff.1 h
      obtain ⟨features, hfeatures, h⟩ := bind_eq_ok_iff.1 h
      obtain rfl := properties_of_assemble h
      refine ⟨fields, entity, space, entries, features, rfl, hentity, hspace, hentries, ?_, hfeatures, h⟩
      rw [readerOf_mapping hentity hspace]
      exact hps
    · cases h
  · rintro ⟨fields, entity, space, entries, features, rfl, hentity, hspace, hentries, hps, hfeatures, h⟩
    rw [readerOf_mapping hentity hspace] at hps
    show ofFields config tree fields = .ok r
    simp only [ofFields, hentity, hspace, hentries, hps, hfeatures, ok_bind]
    exact h

/-- The properties of a definition are built from their types. -/
lemma isBuilt_of_ofValue (h : ofValue config tree value = .ok r) : ∀ p ∈ r.properties, p.IsBuilt := by
  obtain ⟨_, _, _, _, _, -, -, -, -, hps, -⟩ := ofValue_eq_ok_iff.1 h
  intro p hp
  obtain ⟨fields, -, hproperty⟩ := exists_of_mapM_eq_ok hps p hp
  exact isBuilt_of_property hproperty

/-- In a tree that has grown, a definition is read again to a record that differs in the targets of relations at most,
unless a path hides what it leads to. -/
theorem ofValue_lookingAt_cases (hgrows : Grows tree tree') (h : ofValue config tree value = .ok r) :
    (∃ fault, fault.Hides ∧ ofValue config tree' value = .error (.file fault)) ∨
      ∃ ps, ofValue config tree' value = .ok { r with properties := ps } ∧
        List.Forall₂ Property.Retargeted r.properties ps := by
  obtain ⟨fields, entity, space, entries, features, rfl, hentity, hspace, hentries, hps, hfeatures, hassemble⟩ :=
    ofValue_eq_ok_iff.1 h
  obtain ⟨fault, hhides, hfault⟩ | ⟨ps, hps', hsames⟩ :=
    properties_lookingAt_cases (isBare_readerOf config tree _) hgrows hps
  · refine .inl ⟨fault, hhides, ?_⟩
    have hfault' : entries.mapM (property (readerOf config tree' (.mapping fields))) = .error (.file fault) := hfault
    rw [readerOf_mapping hentity hspace] at hfault'
    show ofFields config tree' fields = _
    simp only [ofFields, hentity, hspace, hentries, hfault', ok_bind, error_bind]
  · right
    refine ⟨ps, ofValue_eq_ok_iff.2 ⟨fields, entity, space, entries, features, rfl, hentity, hspace, hentries, hps',
      hfeatures, ?_⟩, hsames⟩
    exact assemble_of_names hassemble (Property.names_of_retargeted hsames)

/-- In a tree that has grown, a definition is read to the same record exactly if all its types are undisturbed. -/
theorem ofValue_lookingAt_iff (hgrows : Grows tree tree') (h : ofValue config tree value = .ok r) :
    ofValue config tree' value = .ok r ↔
      ∀ p ∈ r.properties, (readerOf config tree value).IsUndisturbed tree' p.expression := by
  obtain ⟨fields, entity, space, entries, features, rfl, hentity, hspace, hentries, hps, hfeatures, hassemble⟩ :=
    ofValue_eq_ok_iff.1 h
  rw [← properties_lookingAt_iff (isBare_readerOf config tree _) hgrows hps]
  constructor
  · intro h'
    obtain ⟨fields', entity', space', entries', features', hfields, -, -, hentries', hps', -, -⟩ :=
      ofValue_eq_ok_iff.1 h'
    obtain rfl : fields = fields' := by simpa using hfields
    obtain rfl : entries = entries' := Except.ok.inj (hentries.symm.trans hentries')
    exact hps'
  · intro hps'
    exact ofValue_eq_ok_iff.2 ⟨fields, entity, space, entries, features, rfl, hentity, hspace, hentries, hps',
      hfeatures, hassemble⟩

end Definition

end EntityScaffold
