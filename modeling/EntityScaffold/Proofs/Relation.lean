import EntityScaffold.Definition
import EntityScaffold.Proofs.Definition
import EntityScaffold.Proofs.Schema.Fields
import EntityScaffold.Proofs.Schema.Void
import EntityScaffold.Proofs.Session.Record
/-!
# Where relations come from

A relation gets into a record in one of four ways: a document describes it completely, it is built from its
parts, the block of a definition says what it is, or the answers to a wizard do.  Two of these ask for a delete
cascade in loosely typed data, and one does not ask for it at all where there is no foreign key; all of them
leave a delete cascade to the kinds that have a foreign key, and nothing else sets such relations apart
(`enters_iff`).
-/

namespace EntityScaffold

open Document Schema

namespace Relation

variable {relation : Relation} {fields : Fields}

/-- Only a relation with a foreign key cascades deletes. -/
def HasKeyToCascade (relation : Relation) : Prop :=
  relation.onDeleteCascade = true → relation.kind = .oneToOne ∨ relation.kind = .manyToOne

lemma isOwning_iff {kind : RelationKind} : kind.isOwning = true ↔ kind = .oneToOne ∨ kind = .manyToOne := by
  cases kind <;> simp [RelationKind.isOwning]

lemma hasKeyToCascade_build (target : String) (kind : RelationKind) (bidirectional : Bool) (cascade : Option Cascade)
    (onDeleteCascade : Bool) : (build target kind bidirectional cascade onDeleteCascade).HasKeyToCascade := by
  intro h
  rw [build_onDeleteCascade, Bool.and_eq_true] at h
  exact isOwning_iff.1 h.2

/-! ## Complete descriptions -/

/-- Dropping a delete cascade does not change the kind. -/
lemma namedKind?_withoutVainCascade (fields : Fields) :
    namedKind? (withoutVainCascade fields) = namedKind? fields := by
  unfold withoutVainCascade
  split
  · split
    · rfl
    · rw [namedKind?, find?_put_of_ne (by decide)]
      rfl
  · rfl

/-- A delete cascade that is still asked for, whatever the value by which it is, belongs to a kind that can have it. -/
lemma isOwning_of_wish {kind : RelationKind} {wish : Value} (hkind : namedKind? fields = some kind)
    (hwish : find? (withoutVainCascade fields) "on_delete_cascade" = some wish) (htrue : truth wish = .accepted true) :
    kind.isOwning = true := by
  cases hfound : find? fields "on_delete_cascade" with
  | none =>
    simp only [withoutVainCascade, hkind, hfound] at hwish
    cases hwish
  | some asked =>
    simp only [withoutVainCascade, hkind, hfound] at hwish
    split at hwish
    · next hkept =>
      rw [hfound] at hwish
      cases hwish
      rw [isVoid_of_truth htrue, Bool.or_false] at hkept
      exact hkept
    · rw [find?_put_self] at hwish
      cases hwish
      cases htrue

lemma hasKeyToCascade_of_check {v : Value} (h : check v = .accepted relation) : relation.HasKeyToCascade := by
  obtain ⟨fields, -, h⟩ := record_eq_accepted_iff.1 h
  simp only [Checked.map_eq, Checked.seq_eq, Checked.apply_eq_accepted_iff, Checked.map_eq_accepted_iff,
    required_eq_accepted_iff, choice_eq_accepted_iff, field_eq_accepted_iff] at h
  obtain ⟨_, onDelete, ⟨_, _, ⟨_, _, ⟨_, _, ⟨kind, ⟨v, hv, ⟨word, rfl, hword⟩⟩, rfl⟩, -, rfl⟩, -, rfl⟩, -, rfl⟩,
    hdelete, rfl⟩ := h
  rintro rfl
  rcases hdelete with ⟨-, hfalse⟩ | ⟨wish, hwish, htrue⟩
  · cases hfalse
  · refine isOwning_iff.1 (isOwning_of_wish ?_ hwish htrue)
    rw [← namedKind?_withoutVainCascade, namedKind?, hv]
    exact hword

/-- The complete description of a relation. -/
def document (relation : Relation) : Value :=
  .mapping
    [(.text "kind", .text relation.kind.name), (.text "target_entity", .text relation.target),
      (.text "bidirectional", .bool relation.bidirectional),
      (.text "cascade", relation.cascade.elim .null fun cascade => .text cascade.name),
      (.text "on_delete_cascade", .bool relation.onDeleteCascade)]

/-- A relation with the key that it needs is the one that it describes. -/
lemma check_document (h : relation.HasKeyToCascade) : check relation.document = .accepted relation := by
  obtain ⟨kind, target, bidirectional, cascade, onDeleteCascade⟩ := relation
  cases onDeleteCascade with
  | false => cases kind <;> rcases cascade with _ | _ | _ | _ <;> rfl
  | true =>
    rcases h rfl with hkind | hkind
    · cases hkind
      rcases cascade with _ | _ | _ | _ <;> rfl
    · cases hkind
      rcases cascade with _ | _ | _ | _ <;> rfl

/-! ## Blocks of definitions -/

lemma hasKeyToCascade_of_relationOf {name target : String} {block : Value}
    (h : Definition.relationOf name target block = .ok relation) : relation.HasKeyToCascade := by
  have hfields {fields : Fields} (h : Definition.relationOf name target (.mapping fields) = .ok relation) :
      relation.HasKeyToCascade := by
    simp only [Definition.relationOf, ok_bind] at h
    split at h
    · obtain ⟨kind, -, h⟩ := bind_eq_ok_iff.1 h
      obtain rfl := pure_eq_ok_iff.1 h
      exact hasKeyToCascade_build _ _ _ _ _
    · cases h
  unfold Definition.relationOf at h
  split at h
  · exact hfields h
  · exact hfields h
  · cases h

/-! ## Answers to a wizard -/

/-- Whatever a wizard hears, the relations of its properties have the keys that they need. -/
lemma hasKeyToCascade_of_heard {w : Wizard} (h : w.Coherent) (answers : List (Option String))
    (hbefore : ∀ p ∈ w.properties, ∀ relation, p.relation? = some relation → relation.HasKeyToCascade) :
    ∀ p ∈ (w.heard answers).properties, ∀ relation, p.relation? = some relation → relation.HasKeyToCascade := by
  induction answers generalizing w with
  | nil => exact hbefore
  | cons answer rest ih =>
    have hnext : (w.respond answer).2.Coherent := (Wizard.coherent_heard h [answer]).1
    refine ih hnext ?_
    rcases Wizard.properties_respond h answer with hsame | ⟨p, -, hadded, hmore⟩
    · rw [hsame]
      exact hbefore
    · rw [hmore]
      refine List.forall_mem_append.2 ⟨hbefore, List.forall_mem_singleton.2 fun relation hrelation => ?_⟩
      obtain ⟨target, kind, options, rfl⟩ := hadded relation hrelation
      exact hasKeyToCascade_build _ _ _ _ _

/-! ## Ways in -/

/-- The ways in which a relation comes into a record. -/
inductive Enters : Relation → Prop
  /-- A document describes it completely. -/
  | described {v : Value} {relation : Relation} (h : check v = .accepted relation) : Enters relation
  /-- It is built, whatever is asked for. -/
  | built (target : String) (kind : RelationKind) (bidirectional : Bool) (cascade : Option Cascade)
      (onDeleteCascade : Bool) : Enters (build target kind bidirectional cascade onDeleteCascade)
  /-- The block of a definition says what it is. -/
  | defined {name target : String} {block : Value} {relation : Relation}
      (h : Definition.relationOf name target block = .ok relation) : Enters relation
  /-- A wizard has been told about it, whatever else it has heard. -/
  | answered {reader : TypeReader} {answers : List (Option String)} {p : Property} {relation : Relation}
      (hp : p ∈ (({ reader } : Wizard).heard answers).properties) (hrelation : p.relation? = some relation) :
      Enters relation

/-- The relations that come into records are those with the keys that they need. -/
theorem enters_iff : relation.Enters ↔ relation.HasKeyToCascade := by
  constructor
  · intro h
    cases h with
    | described h => exact hasKeyToCascade_of_check h
    | built target kind bidirectional cascade onDeleteCascade => exact hasKeyToCascade_build _ _ _ _ _
    | defined h => exact hasKeyToCascade_of_relationOf h
    | answered hp hrelation =>
      refine hasKeyToCascade_of_heard (Wizard.coherent_fresh _) _ ?_ _ hp _ hrelation
      exact fun p hp => absurd hp List.not_mem_nil
  · intro h
    exact .described (check_document h)

end Relation

/-! ## Records -/

variable {relation : Relation} {p : Property} {r : Record}

/-- Every relation of a record has come into it. -/
def Record.HasEnteredRelations (r : Record) : Prop :=
  ∀ p ∈ r.properties, ∀ relation, p.relation? = some relation → relation.Enters

/-- The relation of a property that a document describes is described in it. -/
lemma Property.enters_of_check {v : Value} (h : Property.check v = .accepted p)
    (hrelation : p.relation? = some relation) : relation.Enters := by
  obtain ⟨fields, -, h⟩ := record_eq_accepted_iff.1 h
  obtain ⟨checked, h, hp⟩ := Checked.andThen_eq_accepted_iff.1 h
  obtain ⟨g, described, hg, hdescribed, rfl⟩ := Checked.apply_eq_accepted_iff.1 h
  simp only [Checked.map_eq, Checked.seq_eq, Checked.apply_eq_accepted_iff, Checked.map_eq_accepted_iff] at hg
  -- of the other fields, the type and the default tell what the property holds
  obtain ⟨_, default, ⟨_, _, ⟨_, _, ⟨_, _, ⟨_, type, ⟨_, _, ⟨_, -, rfl⟩, -, rfl⟩, -, rfl⟩, -, rfl⟩, -, rfl⟩, -, rfl⟩,
    -, rfl⟩ := hg
  obtain ⟨kind, hkind, rfl⟩ := Checked.map_eq_accepted_iff.1 hp
  unfold kindOf at hkind
  split at hkind
  · cases hkind
    cases hrelation
  · cases hkind
    cases hrelation
    rcases field_eq_accepted_iff.1 hdescribed with ⟨-, hnone⟩ | ⟨v, -, hv⟩
    · cases hnone
    · exact .described (check_of_optional hv)
  · cases hkind

/-- The properties of a document are described in it. -/
theorem Record.hasEnteredRelations_of_check {v : Value} (h : Record.check v = .accepted r) :
    r.HasEnteredRelations := by
  obtain ⟨fields, -, h⟩ := record_eq_accepted_iff.1 h
  simp only [Checked.map_eq, Checked.seq_eq, Checked.apply_eq_accepted_iff, Checked.map_eq_accepted_iff] at h
  obtain ⟨_, _, ⟨_, _, ⟨_, _, ⟨_, _, ⟨_, _, ⟨_, properties, ⟨_, _, ⟨_, -, rfl⟩, -, rfl⟩, hproperties, rfl⟩, -, rfl⟩,
    -, rfl⟩, -, rfl⟩, -, rfl⟩, -, rfl⟩ := h
  intro p hp relation hrelation
  rcases field_eq_accepted_iff.1 hproperties with ⟨-, rfl⟩ | ⟨v, -, hv⟩
  · cases hp
  · obtain ⟨item, hitem⟩ := exists_of_sequence hv p hp
    exact Property.enters_of_check hitem hrelation

theorem Record.hasEnteredRelations_of_ofValue {config : Config} {tree : FileTree} {value : Value}
    (h : Definition.ofValue config tree value = .ok r) : r.HasEnteredRelations := by
  obtain ⟨fields, entity, space, entries, features, -, -, -, -, hps, -⟩ := Definition.ofValue_eq_ok_iff.1 h
  intro p hp relation hrelation
  obtain ⟨entry, -, hentry⟩ := exists_of_mapM_eq_ok hps p hp
  obtain ⟨name, expression, outcome, default, -, -, -, -, hcomplete⟩ := Definition.property_eq_ok_iff.1 hentry
  unfold Definition.complete at hcomplete
  split at hcomplete
  · split at hcomplete
    · cases hrelation.symm.trans (Property.relation?_of_build hcomplete)
    · cases hcomplete
  · split at hcomplete
    · cases hcomplete
    · obtain ⟨described, hdescribed, hbuild⟩ := bind_eq_ok_iff.1 hcomplete
      cases hrelation.symm.trans (Property.relation?_of_build hbuild)
      exact .defined hdescribed

theorem Record.hasEnteredRelations_of_gives {i : Session.Interview} {config : Config} {reader : TypeReader}
    (h : i.Gives config reader r) : r.HasEnteredRelations := by
  intro p hp relation hrelation
  rw [h.properties] at hp
  exact .answered hp hrelation

end EntityScaffold
