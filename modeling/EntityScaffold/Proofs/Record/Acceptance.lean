import EntityScaffold.Proofs.Naming.ClassName
import EntityScaffold.Proofs.Property
import EntityScaffold.Proofs.Record.Lists
import EntityScaffold.Proofs.Record.Traits
/-!
# What is accepted as a record

An entity is proposed with lists that can be given in several ways (`Proposal`).  A proposal is accepted exactly
if it is consistent: no part of it is turned down that `Proposal.IsConsistent` allows, whatever the order of the
checks, and nothing else gets through.

What comes out is in normal form.  A record that was made of a proposal passes the check that is made before
anything is rendered, which treats events in another way, and proposing the record once more makes the same
record.  Only blanks can keep it from that: they are taken from the ends of the namespace before its backslashes
are, and those that stood inside of the backslashes are still there the second time.
-/

namespace EntityScaffold

open Document Text

/-- An entity as it is proposed. -/
structure Proposal where
  space : String
  entityName : String
  properties : List Property
  features : Features := {}
  getBy : Listing := .absent
  getAllBy : Listing := .absent
  events : Listing := .absent
  /-- The names of the traits; without them, every trait that is offered is meant. -/
  traits : Option (List String) := none
  deriving DecidableEq, Repr, Inhabited

/-- A proposal in the values of a document. -/
def Proposal.toDraft (p : Proposal) : Draft where
  space := p.space
  entityName := p.entityName
  properties := p.properties
  features := p.features
  getBy := p.getBy.toValue
  getAllBy := p.getAllBy.toValue
  events := p.events.toValue
  traits := traitsValue p.traits

/-- A record as a proposal of itself. -/
def Record.toProposal (r : Record) : Proposal where
  space := r.space
  entityName := r.entityName
  properties := r.properties
  features := r.features
  getBy := .list r.getBy
  getAllBy := .list r.getAllBy
  events := .list r.events
  traits := some (r.traits.map (·.1))

/-- A proposal whose parts fit together and fit the configuration. -/
structure Proposal.IsConsistent (p : Proposal) (config : Config) : Prop where
  identifiers : ∀ q ∈ p.properties, isIdentifier q.name = true
  notReserved : ∀ q ∈ p.properties, lower q.name ∉ Property.reservedNames.map (·.1)
  distinct : (p.properties.map fun q => lower q.name).Nodup
  getBy : ∀ name ∈ p.getBy.names, name ∈ p.properties.map (·.name)
  getAllBy : ∀ name ∈ p.getAllBy.names, name ∈ p.properties.map (·.name)
  /-- The word that stands for the whole lifecycle need not be a class name itself. -/
  events : p.events.meansAll = false → ∀ event ∈ p.events.names, isIdentifier (Naming.pascal event) = true
  traits : ∀ names ∈ p.traits, ∀ name ∈ names, ∃ traitClass, (name, some traitClass) ∈ config.traits

variable {config : Config} {r : Record}

/-! ## Acceptance -/

namespace Proposal

variable {p : Proposal}

/-- A proposal is assembled with the names that its lists come down to. -/
theorem assemble_eq_ok_iff : p.toDraft.assemble config = .ok r ↔
    checkProperties p.properties p.getBy.names p.getAllBy.names = .ok () ∧
      eventNames p.events.toValue = .ok r.events ∧
        (∀ names ∈ p.traits, ∀ name ∈ names, ∃ traitClass, (name, some traitClass) ∈ config.traits) ∧
          r.traits = selectedTraits config p.traits ∧ r.getBy = p.getBy.names ∧
            r.getAllBy = p.getAllBy.names ∧ r.space = ClassName.bare (trim p.space) ∧
              r.entityName = trim p.entityName ∧ r.properties = p.properties ∧ r.features = p.features := by
  rw [Draft.assemble_eq_ok_iff]
  show fieldNames p.getBy.toValue = _ ∧ fieldNames p.getAllBy.toValue = _ ∧ _ ∧ _ ∧
    selectTraits config (traitsValue p.traits) = _ ∧ _ ↔ _
  rw [p.getBy.fieldNames_toValue, p.getAllBy.fieldNames_toValue, selectTraits_eq_ok_iff]
  constructor
  · rintro ⟨hgetBy, hgetAllBy, hproperties, hevents, ⟨hoffered, htraits⟩, hrest⟩
    have hsingle : p.getBy.names = r.getBy := Except.ok.inj hgetBy
    have hmulti : p.getAllBy.names = r.getAllBy := Except.ok.inj hgetAllBy
    rw [hsingle, hmulti]
    exact ⟨hproperties, hevents, hoffered, htraits, rfl, rfl, hrest⟩
  · rintro ⟨hproperties, hevents, hoffered, htraits, hgetBy, hgetAllBy, hrest⟩
    rw [← hgetBy, ← hgetAllBy] at hproperties
    exact ⟨by rw [hgetBy], by rw [hgetAllBy], hproperties, hevents, ⟨hoffered, htraits⟩, hrest⟩

/-- What a consistent proposal has to offer is what the checks ask for. -/
lemma isConsistent_iff : p.IsConsistent config ↔
    checkProperties p.properties p.getBy.names p.getAllBy.names = .ok () ∧
      (∃ events, eventNames p.events.toValue = .ok events) ∧
        ∀ names ∈ p.traits, ∀ name ∈ names, ∃ traitClass, (name, some traitClass) ∈ config.traits := by
  rw [checkProperties_eq_ok_iff, p.events.exists_eventNames_iff]
  simp only [Property.checkName_eq_ok_iff]
  constructor
  · rintro ⟨hidentifiers, hreserved, hdistinct, hgetBy, hgetAllBy, hevents, htraits⟩
    exact ⟨⟨fun q hq => ⟨hidentifiers q hq, hreserved q hq⟩, hdistinct, hgetBy, hgetAllBy⟩, hevents, htraits⟩
  · rintro ⟨⟨hnames, hdistinct, hgetBy, hgetAllBy⟩, hevents, htraits⟩
    exact ⟨fun q hq => (hnames q hq).1, fun q hq => (hnames q hq).2, hdistinct, hgetBy, hgetAllBy, hevents,
      htraits⟩

/-- Consistent proposals are accepted, and no others. -/
lemma exists_assemble_iff : (∃ r, p.toDraft.assemble config = .ok r) ↔ p.IsConsistent config := by
  rw [isConsistent_iff]
  constructor
  · rintro ⟨r, h⟩
    obtain ⟨hproperties, hevents, hoffered, -⟩ := assemble_eq_ok_iff.1 h
    exact ⟨hproperties, ⟨r.events, hevents⟩, hoffered⟩
  · rintro ⟨hproperties, ⟨events, hevents⟩, hoffered⟩
    refine ⟨⟨ClassName.bare (trim p.space), trim p.entityName, p.properties, p.features, p.getBy.names,
      p.getAllBy.names, events, selectedTraits config p.traits⟩, ?_⟩
    exact assemble_eq_ok_iff.2 ⟨hproperties, hevents, hoffered, rfl, rfl, rfl, rfl, rfl, rfl, rfl⟩

end Proposal

/-! ## Proposing a record once more -/

/-- A text without blanks is freed of its backslashes and of blanks, in whatever order, only once. -/
lemma bare_trim_bare_trim {space : String} (h : ∀ c ∈ space.toList, isBlank c = false) :
    ClassName.bare (trim (ClassName.bare (trim space))) = ClassName.bare (trim space) := by
  have hbare : ∀ c ∈ (ClassName.bare space).toList, isBlank c = false := by
    intro c hc
    rw [ClassName.bare, toList_through] at hc
    exact h c (stripWhile_subset _ _ hc)
  rw [trim_of_noBlank h, trim_of_noBlank hbare, ClassName.bare_bare]

/-- A blank behind a backslash comes to light when the backslash is gone. -/
example : ClassName.bare (trim (ClassName.bare (trim "\\ App"))) ≠ ClassName.bare (trim "\\ App") := by
  decide

/-- A record of a proposal whose namespace has no blanks is the record of itself. -/
lemma Proposal.assemble_again {p : Proposal} (hspace : ∀ c ∈ p.space.toList, isBlank c = false)
    (h : p.toDraft.assemble config = .ok r) : r.toProposal.toDraft.assemble config = .ok r := by
  obtain ⟨hgetBy, hgetAllBy, hproperties, hevents, -, hbare, hname, hprops, -⟩ := Draft.assemble_eq_ok_iff.1 h
  obtain ⟨-, -, -, htraits, -⟩ := assemble_eq_ok_iff.1 h
  refine Draft.assemble_eq_ok_iff.2 ⟨fieldNames_again hgetBy, fieldNames_again hgetAllBy, ?_,
    eventNames_again hevents, ?_, ?_, ?_, rfl, rfl⟩
  · show checkProperties r.properties r.getBy r.getAllBy = .ok ()
    rw [hprops]
    exact hproperties
  · show selectTraits config (.ofTexts (r.traits.map (·.1))) = .ok r.traits
    rw [htraits]
    exact selectTraits_again config p.traits
  · show r.space = ClassName.bare (trim r.space)
    rw [hbare]
    exact (bare_trim_bare_trim hspace).symm
  · show r.entityName = trim r.entityName
    rw [hname]
    exact (trim_trim p.entityName).symm

/-- Exactly the consistent proposals are accepted.  The records of them pass the check that is made before
anything is rendered, and they are the records of themselves if there are no blanks in the namespace. -/
theorem Proposal.accepted_records_are_stable (p : Proposal) (config : Config) :
    ((∃ r, p.toDraft.assemble config = .ok r) ↔ p.IsConsistent config) ∧
      ∀ r, p.toDraft.assemble config = .ok r →
        r.validate = .ok () ∧
          ((∀ c ∈ p.space.toList, isBlank c = false) → r.toProposal.toDraft.assemble config = .ok r) := by
  refine ⟨exists_assemble_iff, ?_⟩
  intro r h
  refine ⟨Draft.validate_of_assemble h, ?_⟩
  intro hspace
  exact assemble_again hspace h

/-- A proposal with lists of each form, in which there is something to put in order. -/
def Proposal.ofAccount : Proposal where
  space := "\\App\\Model\\"
  entityName := " Account"
  properties :=
    [⟨"email", "string", .scalar "string" none, some "string", false, {}⟩,
      ⟨"slug", "string", .scalar "string" none, some "string", true, {}⟩]
  getBy := .text " e mail, ,slug"
  getAllBy := .list ["", " slug", "slug"]
  events := .list ["created", "Created", "password reset"]
  traits := some ["Timestampable", "Timestampable"]

theorem Proposal.account_is_stable :
    ∃ r, ofAccount.toDraft.assemble {} = .ok r ∧ r.validate = .ok () ∧
      r.toProposal.toDraft.assemble {} = .ok r := by
  have hconsistent : ofAccount.IsConsistent {} :=
    ⟨by decide, by decide, by decide, by decide, by decide, fun _ => by decide, by
      rintro names ⟨⟩ name hname
      exact ⟨"Gedmo\\Timestampable\\Traits\\TimestampableEntity", by revert name; decide⟩⟩
  obtain ⟨hiff, hstable⟩ := accepted_records_are_stable ofAccount {}
  obtain ⟨r, hr⟩ := hiff.2 hconsistent
  obtain ⟨hvalid, hagain⟩ := hstable r hr
  exact ⟨r, hr, hvalid, hagain (by decide)⟩

end EntityScaffold
