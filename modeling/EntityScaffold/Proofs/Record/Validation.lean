import Mathlib.Data.List.Nodup
import EntityScaffold.Proofs.Outcome
import EntityScaffold.Record.Assembly
/-!
# What validation establishes

The checks of a record go along its lists and keep what they have seen.  Here each of them is put as a
property of the whole list: names of properties are usable and distinct without regard to case, stems of
events are identifiers and distinct in the same way, and lookups name declared properties.  A record that passes
them all therefore has one property for each name, and every lookup finds its properties.
-/

namespace EntityScaffold

open Text

variable {names seen events : List String} {r : Record}

/-! ## Names of properties -/

lemma checkPropertyNames_cons {name : String} :
    checkPropertyNames seen (name :: names) = .ok () ↔
      Property.checkName name = .ok () ∧ lower name ∉ seen ∧
        checkPropertyNames (lower name :: seen) names = .ok () := by
  rw [checkPropertyNames, bind_eq_ok_iff]
  constructor
  · rintro ⟨⟨⟩, hname, h⟩
    split at h
    · cases h
    · next hseen => exact ⟨hname, by simpa using hseen, h⟩
  · rintro ⟨hname, hseen, h⟩
    refine ⟨(), hname, ?_⟩
    rw [if_neg (by simpa using hseen)]
    exact h

/-- Names are usable, distinct without regard to case, and not seen before. -/
lemma checkPropertyNames_eq_ok_iff :
    checkPropertyNames seen names = .ok () ↔
      (∀ name ∈ names, Property.checkName name = .ok ()) ∧ (names.map lower).Nodup ∧
        ∀ name ∈ names, lower name ∉ seen := by
  induction names generalizing seen with
  | nil => simp [checkPropertyNames]
  | cons name names ih =>
    rw [checkPropertyNames_cons, ih, List.forall_mem_cons, List.forall_mem_cons, List.map_cons,
      List.nodup_cons]
    simp only [List.mem_cons, not_or, List.mem_map, not_exists, not_and]
    constructor
    · rintro ⟨hname, hnew, hnames, hnodup, hseen⟩
      exact ⟨⟨hname, hnames⟩, ⟨fun other hother => (hseen other hother).1, hnodup⟩, hnew,
        fun other hother => (hseen other hother).2⟩
    · rintro ⟨⟨hname, hnames⟩, ⟨hdistinct, hnodup⟩, hnew, hseen⟩
      exact ⟨hname, hnew, hnames, hnodup,
        fun other hother => ⟨hdistinct other hother, hseen other hother⟩⟩

/-! ## Lookups -/

lemma checkLookup_eq_ok_iff {lookup : Lookup} {declared : List String} :
    checkLookup lookup declared names = .ok () ↔ ∀ name ∈ names, name ∈ declared := by
  induction names with
  | nil => simp [checkLookup]
  | cons name names ih =>
    rw [checkLookup, List.forall_mem_cons]
    split
    · next h => simpa [ih] using fun _ => List.contains_iff_mem.1 h
    · next h =>
      constructor
      · intro hreject
        cases hreject
      · rintro ⟨hname, -⟩
        exact absurd (List.contains_iff_mem.2 hname) h

/-! ## Events -/

lemma eventKey_eq_ok_iff {event key : String} : eventKey event = .ok key ↔
    isIdentifier (Naming.pascal event) = true ∧ lower (Naming.pascal event) = key := by
  simp only [eventKey]
  split
  · next h => simp [h]
  · next h => simp [h, reject]

/-- An event is accepted for its stem, which is not seen before. -/
lemma checkEvents_cons {event : String} : checkEvents seen (event :: events) = .ok () ↔
    isIdentifier (Naming.pascal event) = true ∧ lower (Naming.pascal event) ∉ seen ∧
      checkEvents (lower (Naming.pascal event) :: seen) events = .ok () := by
  rw [checkEvents, bind_eq_ok_iff]
  constructor
  · rintro ⟨key, hkey, h⟩
    obtain ⟨hstem, rfl⟩ := eventKey_eq_ok_iff.1 hkey
    split at h
    · cases h
    · next hseen => exact ⟨hstem, by simpa using hseen, h⟩
  · rintro ⟨hstem, hseen, h⟩
    refine ⟨_, eventKey_eq_ok_iff.2 ⟨hstem, rfl⟩, ?_⟩
    rw [if_neg (by simpa using hseen)]
    exact h

/-- Stems of events are identifiers, distinct without regard to case, and not seen before. -/
theorem checkEvents_eq_ok_iff : checkEvents seen events = .ok () ↔
    (∀ event ∈ events, isIdentifier (Naming.pascal event) = true) ∧
      (events.map fun event => lower (Naming.pascal event)).Nodup ∧
        ∀ event ∈ events, lower (Naming.pascal event) ∉ seen := by
  induction events generalizing seen with
  | nil => simp [checkEvents]
  | cons event events ih =>
    rw [checkEvents_cons, ih, List.forall_mem_cons, List.forall_mem_cons, List.map_cons,
      List.nodup_cons]
    simp only [List.mem_cons, not_or, List.mem_map, not_exists, not_and]
    constructor
    · rintro ⟨hstem, hnew, hstems, hnodup, hseen⟩
      exact ⟨⟨hstem, hstems⟩, ⟨fun other hother => (hseen other hother).1, hnodup⟩, hnew,
        fun other hother => (hseen other hother).2⟩
    · rintro ⟨⟨hstem, hstems⟩, ⟨hdistinct, hnodup⟩, hnew, hseen⟩
      exact ⟨hstem, hnew, hstems, hnodup,
        fun other hother => ⟨hdistinct other hother, hseen other hother⟩⟩

/-! ## Records -/

/-- Properties and lookups pass the check together. -/
theorem checkProperties_eq_ok_iff {properties : List Property} {getBy getAllBy : List String} :
    checkProperties properties getBy getAllBy = .ok () ↔
      (∀ q ∈ properties, Property.checkName q.name = .ok ()) ∧
        (properties.map fun q => lower q.name).Nodup ∧
          (∀ name ∈ getBy, name ∈ properties.map (·.name)) ∧
            ∀ name ∈ getAllBy, name ∈ properties.map (·.name) := by
  have hnames : checkPropertyNames [] (properties.map (·.name)) = .ok () ↔
      (∀ q ∈ properties, Property.checkName q.name = .ok ()) ∧
        (properties.map fun q => lower q.name).Nodup := by
    rw [checkPropertyNames_eq_ok_iff, List.forall_mem_map, List.map_map]
    simp [Function.comp_def]
  have hgetBy : checkLookup .single (properties.map (·.name)) getBy = .ok () ↔
      ∀ name ∈ getBy, name ∈ properties.map (·.name) := checkLookup_eq_ok_iff
  have hgetAllBy : checkLookup .multi (properties.map (·.name)) getAllBy = .ok () ↔
      ∀ name ∈ getAllBy, name ∈ properties.map (·.name) := checkLookup_eq_ok_iff
  rw [← and_assoc, ← hnames, ← hgetBy, ← hgetAllBy, checkProperties, bind_eq_ok_iff]
  simp only [bind_eq_ok_iff]
  constructor
  · rintro ⟨⟨⟩, hchecked, ⟨⟩, hsingle, hmulti⟩
    exact ⟨hchecked, hsingle, hmulti⟩
  · rintro ⟨hchecked, hsingle, hmulti⟩
    exact ⟨(), hchecked, (), hsingle, hmulti⟩

namespace Record

/-- A record whose parts fit together. -/
structure IsConsistent (r : Record) : Prop where
  names : ∀ p ∈ r.properties, Property.checkName p.name = .ok ()
  distinct : (r.properties.map fun p => lower p.name).Nodup
  getBy : ∀ name ∈ r.getBy, name ∈ r.propertyNames
  getAllBy : ∀ name ∈ r.getAllBy, name ∈ r.propertyNames
  events : (r.events.map Naming.pascal).Nodup

lemma isConsistent_of_validate (h : r.validate = .ok ()) : r.IsConsistent := by
  obtain ⟨⟨⟩, hproperties, hevents⟩ := bind_eq_ok_iff.1 h
  obtain ⟨hnames, hdistinct, hgetBy, hgetAllBy⟩ := checkProperties_eq_ok_iff.1 hproperties
  obtain ⟨-, hstems, -⟩ := checkEvents_eq_ok_iff.1 hevents
  refine ⟨hnames, hdistinct, hgetBy, hgetAllBy, .of_map lower ?_⟩
  rw [List.map_map]
  exact hstems

/-- The stems of the events of a record that passes the check. -/
theorem stems_of_validate (h : r.validate = .ok ()) :
    (∀ event ∈ r.events, isIdentifier (Naming.pascal event) = true) ∧
      (r.events.map fun event => lower (Naming.pascal event)).Nodup := by
  obtain ⟨⟨⟩, -, hevents⟩ := bind_eq_ok_iff.1 h
  obtain ⟨hstems, hnodup, -⟩ := checkEvents_eq_ok_iff.1 hevents
  exact ⟨hstems, hnodup⟩

/-- The property of a name that is declared, which is a property of the record. -/
theorem exists_property {name : String} (h : name ∈ r.propertyNames) :
    ∃ p ∈ r.properties, r.property name = .ok p := by
  obtain ⟨q, hq, rfl⟩ : ∃ q ∈ r.properties, q.name = name := List.mem_map.1 h
  cases hfound : r.property? q.name with
  | none =>
    rw [property?, List.find?_eq_none] at hfound
    exact absurd (beq_self_eq_true q.name) (hfound q hq)
  | some p =>
    refine ⟨p, List.mem_of_find?_eq_some hfound, ?_⟩
    rw [property, hfound]

/-- A lookup of declared names finds properties of the record. -/
theorem exists_propertiesOf (h : ∀ name ∈ names, name ∈ r.propertyNames) :
    ∃ ps, r.propertiesOf names = .ok ps ∧ ∀ p ∈ ps, p ∈ r.properties := by
  induction names with
  | nil => exact ⟨[], List.mapM_nil, List.forall_mem_nil _⟩
  | cons name names ih =>
    obtain ⟨hname, hnames⟩ := List.forall_mem_cons.1 h
    obtain ⟨p, hp, hproperty⟩ := exists_property hname
    obtain ⟨ps, hps, hmem⟩ := ih hnames
    refine ⟨p :: ps, ?_, List.forall_mem_cons.2 ⟨hp, hmem⟩⟩
    have hps' : names.mapM r.property = .ok ps := hps
    rw [propertiesOf, List.mapM_cons, hproperty, hps']
    rfl

end Record

end EntityScaffold
