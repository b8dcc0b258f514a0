import EntityScaffold.Proofs.Property
import EntityScaffold.Proofs.Record.Validation
/-!
# What the check of a record turns down

The check of a record fails in four ways: for the name of a property, for two properties of one name, for a
lookup of a property that is not there, and for an event.  There is no other way in which it can fail
(`Record.isInconsistency_of_validate`), and whatever is wrong is told to the person who wrote the record.
-/

namespace EntityScaffold

open Text

/-- The rejections of a record that is not consistent. -/
inductive Failure.IsInconsistency : Failure → Prop
  | propertyName (name : String) (fault : NameFault) :
      IsInconsistency (.rejected (.propertyName name fault))
  | duplicateProperty (name : String) : IsInconsistency (.rejected (.duplicateProperty name))
  | unknownProperty (name : String) (lookup : Lookup) :
      IsInconsistency (.rejected (.unknownProperty name lookup))
  | event (name : String) (fault : EventFault) : IsInconsistency (.rejected (.event name fault))

variable {names seen events : List String} {r : Record} {f : Failure}

lemma isInconsistency_of_checkPropertyNames (h : checkPropertyNames seen names = .error f) :
    f.IsInconsistency := by
  induction names generalizing seen with
  | nil => cases h
  | cons name names ih =>
    rcases bind_eq_error_iff.1 h with hname | ⟨⟨⟩, -, hrest⟩
    · obtain ⟨fault, rfl⟩ := Property.checkName_error hname
      exact .propertyName name fault
    · split at hrest
      · cases hrest
        exact .duplicateProperty name
      · exact ih hrest

lemma isInconsistency_of_checkLookup {lookup : Lookup} {declared : List String}
    (h : checkLookup lookup declared names = .error f) : f.IsInconsistency := by
  induction names with
  | nil => cases h
  | cons name names ih =>
    rw [checkLookup] at h
    by_cases hname : declared.contains name = true
    · rw [if_pos hname] at h
      exact ih h
    · rw [if_neg hname] at h
      cases h
      exact .unknownProperty name lookup

lemma eventKey_error {event : String} (h : eventKey event = .error f) :
    f = .rejected (.event event .unusable) := by
  simp only [eventKey] at h
  split at h
  · cases h
  · cases h
    rfl

lemma isInconsistency_of_checkEvents (h : checkEvents seen events = .error f) : f.IsInconsistency := by
  induction events generalizing seen with
  | nil => cases h
  | cons event events ih =>
    rcases bind_eq_error_iff.1 h with hkey | ⟨key, -, hrest⟩
    · rw [eventKey_error hkey]
      exact .event event .unusable
    · split at hrest
      · cases hrest
        exact .event event .repeated
      · exact ih hrest

/-- The check of a record fails for an inconsistency and for nothing else. -/
theorem Record.isInconsistency_of_validate (h : r.validate = .error f) : f.IsInconsistency := by
  rcases bind_eq_error_iff.1 h with hproperties | ⟨⟨⟩, -, hevents⟩
  · rcases bind_eq_error_iff.1 hproperties with hnames | ⟨⟨⟩, -, hlookups⟩
    · exact isInconsistency_of_checkPropertyNames hnames
    · rcases bind_eq_error_iff.1 hlookups with hsingle | ⟨⟨⟩, -, hmulti⟩
      · exact isInconsistency_of_checkLookup hsingle
      · exact isInconsistency_of_checkLookup hmulti
  · exact isInconsistency_of_checkEvents hevents

end EntityScaffold
