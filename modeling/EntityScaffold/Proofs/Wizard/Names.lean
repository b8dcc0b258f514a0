import Mathlib.Data.List.Nodup
import EntityScaffold.Proofs.Wizard.Coherence
/-!
# The names that a wizard collects

A name is looked at when it is given, long before there is a property of it.  In between a coherent wizard holds
a name that is free, so that its properties have names that are usable and differ by more than case
(`areSeparate_heard`), which is what is asked of the properties of a record.
-/

namespace EntityScaffold

open Text

/-- Properties that can stand beside each other: their names are usable, and no two differ by case only. -/
def Property.AreSeparate (properties : List Property) : Prop :=
  (∀ p ∈ properties, checkName p.name = .ok ()) ∧ (properties.map fun p => lower p.name).Nodup

variable {properties : List Property} {p : Property}

/-- A property whose name is free can be added. -/
lemma Property.areSeparate_concat (h : AreSeparate properties) (hname : IsFree properties p.name) :
    AreSeparate (properties ++ [p]) := by
  obtain ⟨hchecked, hnodup⟩ := h
  obtain ⟨hcheck, hfree⟩ := hname
  constructor
  · intro q hq
    rcases List.mem_append.1 hq with hq | hq
    · exact hchecked q hq
    · rw [List.mem_singleton.1 hq]
      exact hcheck
  · rw [List.map_append, List.map_singleton]
    refine hnodup.append (List.nodup_singleton _) ?_
    rw [List.disjoint_singleton, List.mem_map]
    rintro ⟨q, hq, heq⟩
    exact hfree q hq heq

namespace Wizard

variable {w : Wizard}

/-- An answer adds a property under a free name, or none; a relation that is added is built from the answers. -/
lemma properties_respond (h : w.Coherent) (answer : Option String) :
    (w.respond answer).2.properties = w.properties ∨
      ∃ p, Property.IsFree w.properties p.name ∧
        (∀ relation, p.relation? = some relation → ∃ target kind options, relationOf target kind options = relation) ∧
          (w.respond answer).2.properties = w.properties ++ [p] := by
  obtain ⟨reader, properties, stage⟩ := w
  have hnone {outcome : Except Failure Unit} {next : Stage}
      (hrespond : respond ⟨reader, properties, stage⟩ answer = (outcome, ⟨reader, properties, next⟩)) :
      (respond ⟨reader, properties, stage⟩ answer).2.properties = properties := by
    rw [hrespond]
  have hone {p : Property}
      (hrespond : respond ⟨reader, properties, stage⟩ answer = (.ok (), ⟨reader, properties ++ [p], {}⟩)) :
      (respond ⟨reader, properties, stage⟩ answer).2.properties = properties ++ [p] := by
    rw [hrespond]
  cases h with
  | name =>
    have hrespond := respond_at_name reader properties answer
    left
    split at hrespond
    · exact hnone hrespond
    · split at hrespond
      · exact hnone hrespond
      · split at hrespond
        · exact hnone hrespond
        · exact hnone hrespond
  | @type name hname =>
    have hrespond := respond_at_type reader properties name answer
    left
    split at hrespond
    · exact hnone hrespond
    · exact hnone hrespond
  | default hname hread hsense =>
    refine .inr ⟨_, ?_, ?_, hone (respond_at_default _ _ _ hname.1 hsense answer)⟩
    · exact hname
    · intro relation hrelation
      cases hrelation
  | @kind name expression entity target outcome hname hread hsense =>
    have hrespond := respond_at_kind reader properties name expression outcome answer
    left
    split at hrespond
    · exact hnone hrespond
    · exact hnone hrespond
  | @option name expression entity target outcome kind given pending hname hread hsense hkeys hpending =>
    rcases pending with _ | ⟨option, _ | ⟨next, rest⟩⟩
    · exact absurd rfl hpending
    · refine .inr ⟨_, ?_, ?_, hone (respond_at_last_option hname.1 hsense hkeys answer)⟩
      · exact hname
      · intro relation hrelation
        cases hrelation
        exact ⟨target, kind, _, rfl⟩
    · exact .inl (hnone (respond_at_option hkeys answer))
  | done => exact .inl (hnone (respond_done rfl answer))

/-- Whatever a wizard hears, its properties can stand beside each other. -/
theorem areSeparate_heard (h : w.Coherent) (hseparate : Property.AreSeparate w.properties)
    (answers : List (Option String)) : Property.AreSeparate (w.heard answers).properties := by
  induction answers generalizing w with
  | nil => exact hseparate
  | cons answer rest ih =>
    have hnext : (w.respond answer).2.Coherent := (coherent_heard h [answer]).1
    refine ih hnext ?_
    rcases properties_respond h answer with hsame | ⟨p, hname, -, hmore⟩
    · rw [hsame]
      exact hseparate
    · rw [hmore]
      exact Property.areSeparate_concat hseparate hname

end Wizard

end EntityScaffold
