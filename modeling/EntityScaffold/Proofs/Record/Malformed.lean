import EntityScaffold.Proofs.Keyed
import EntityScaffold.Proofs.Record.Inconsistency
import EntityScaffold.Proofs.Report
import EntityScaffold.Record.Assembly
/-!
# Lists that cannot be gone through

Lookups, events and traits are taken from a document as they stand, and they are gone through as if they were lists of
texts.  What is a list of texts with wrong texts in it is turned down; what is no such list makes the program break,
at the value itself or at one of its items (`FieldsFault`, `TraitsFault`).  Fields and events break at any item that
is neither void nor a text, whatever else is in the list; traits are looked at one after another, so they break at the
first item that is wrong, if it is wrong in that way.
-/

namespace EntityScaffold

open Document

variable {config : Config} {value item : Value} {items : List Value} {names seen events : List String} {f : Failure}

/-! ## Fields and events -/

/-- What keeps a value from being gone through as a list of fields. -/
inductive FieldsFault : Value → Failure → Prop
  /-- A value that has no items. -/
  | scalar {s : Scalar} (hnull : s ≠ .null) (htext : ∀ t, s ≠ .text t) : FieldsFault (.scalar s) .wrongKind
  /-- An item that is something else than a text. -/
  | item {value item : Value} {items : List Value} (hitems : listedItems value = .ok items) (hitem : item ∈ items)
      (hvoid : item.isVoid = false) (htext : ∀ t, item ≠ .text t) : FieldsFault value .notText

/-- Going through a value fails where it has no items. -/
lemma breaks_listedItems_iff : Breaks (listedItems value) f ↔
    f = .wrongKind ∧ ∃ s, value = .scalar s ∧ s ≠ .null := by
  cases value with
  | list items => simp [listedItems]
  | mapping entries => simp [listedItems]
  | scalar s =>
    cases s with
    | null => simp [listedItems]
    | _ =>
      simp only [listedItems, Breaks, Except.error.injEq]
      constructor
      · rintro ⟨rfl, -⟩
        exact ⟨rfl, _, rfl, by simp⟩
      · rintro ⟨rfl, -⟩
        exact ⟨rfl, by simp⟩

lemma breaks_listedTexts_iff : Breaks (listedTexts items) f ↔
    f = .notText ∧ ∃ item ∈ items, item.isVoid = false ∧ ∀ t, item ≠ .text t := by
  induction items with
  | nil => simp [listedTexts]
  | cons item items ih =>
    unfold listedTexts
    split
    · next hvoid => simp [ih, hvoid]
    · next hvoid =>
      split
      · next s =>
        rw [breaks_bind_iff, ih]
        simp
      · next htext =>
        have hitem : item.isVoid = false := by simpa using hvoid
        simp only [Breaks, Except.error.injEq]
        constructor
        · rintro ⟨rfl, -⟩
          exact ⟨rfl, item, List.mem_cons_self, hitem, htext⟩
        · rintro ⟨rfl, -⟩
          exact ⟨rfl, by simp⟩

lemma breaks_fieldNames_iff : Breaks (fieldNames value) f ↔ FieldsFault value f := by
  have hlisted (value : Value) : Breaks (do pure (normalItems (← listedTexts (← listedItems value)))) f ↔
      Breaks (listedItems value) f ∨ ∃ items, listedItems value = .ok items ∧ Breaks (listedTexts items) f := by
    simp only [breaks_bind_iff, not_breaks_pure, and_false, exists_false, or_false]
  unfold fieldNames
  split
  · next s =>
    refine ⟨fun h => absurd h (not_breaks_ok _), ?_⟩
    rintro (⟨-, htext⟩ | ⟨hitems, -, -, -⟩)
    · exact absurd rfl (htext s)
    · cases hitems
  · next htext =>
    rw [hlisted, breaks_listedItems_iff]
    simp only [breaks_listedTexts_iff]
    constructor
    · rintro (⟨rfl, s, rfl, hnull⟩ | ⟨items, hitems, rfl, item, hitem, hvoid, hitemText⟩)
      · exact .scalar hnull fun t ht => htext t (by rw [ht])
      · exact .item hitems hitem hvoid hitemText
    · rintro (⟨hnull, -⟩ | ⟨hitems, hitem, hvoid, hitemText⟩)
      · exact .inl ⟨rfl, _, rfl, hnull⟩
      · exact .inr ⟨_, hitems, rfl, _, hitem, hvoid, hitemText⟩

/-- An event is kept, dropped or turned down. -/
lemma not_breaks_newEvents : ¬ Breaks (newEvents seen events) f := by
  induction events generalizing seen with
  | nil => simp [newEvents]
  | cons event events ih =>
    have hkey : ¬ Breaks (eventKey event) f := not_breaks_of_rejected fun f hf => ⟨_, eventKey_error hf⟩
    rw [newEvents, breaks_bind_iff]
    rintro (h | ⟨key, -, h⟩)
    · exact hkey h
    · split at h
      · exact ih h
      · rcases breaks_bind_iff.1 h with h | ⟨more, -, h⟩
        · exact ih h
        · exact not_breaks_pure _ h

/-- Events break where fields do: the word for all events is a text. -/
lemma breaks_eventNames_iff : Breaks (eventNames value) f ↔ FieldsFault value f := by
  have hfields (value : Value) : Breaks (fieldNames value >>= newEvents []) f ↔ FieldsFault value f := by
    simp [breaks_bind_iff, breaks_fieldNames_iff, not_breaks_newEvents]
  unfold eventNames
  split
  · next s =>
    split
    · rw [← breaks_fieldNames_iff]
      simp [fieldNames]
    · exact hfields _
  · exact hfields _

/-! ## Traits -/

/-- What keeps an item from being looked for among the traits. -/
inductive TraitFault : Value → Failure → Prop
  | list (items : List Value) : TraitFault (.list items) .wrongKind
  | mapping (entries : List (Scalar × Value)) : TraitFault (.mapping entries) .wrongKind
  /-- A number that is too large for the message that no trait is called like it. -/
  | scalar {s : Scalar} (h : s.isShowable = false) : TraitFault (.scalar s) (.ofSize .shown)

/-- What keeps a value from being gone through as a list of traits. -/
inductive TraitsFault (config : Config) : Value → Failure → Prop
  /-- A value that has no items. -/
  | scalar {s : Scalar} (hnull : s ≠ .null) (htext : ∀ t, s ≠ .text t) : TraitsFault config (.scalar s) .wrongKind
  /-- An item that cannot be looked for, after others that were found. -/
  | item {value item : Value} {before after : List Value} {f : Failure}
      (hitems : listedItems value = .ok (before ++ item :: after))
      (hbefore : ∀ earlier ∈ before, ∃ name ∈ config.offeredTraits.map (·.1), earlier = .text name)
      (hitem : TraitFault item f) : TraitsFault config value f

lemma breaks_selectFrom_iff {offered selected : List (String × String)} :
    Breaks (selectFrom offered selected items) f ↔
      ∃ before item after, items = before ++ item :: after ∧
        (∀ earlier ∈ before, ∃ name ∈ offered.map (·.1), earlier = .text name) ∧ TraitFault item f := by
  induction items generalizing selected with
  | nil => simp [selectFrom]
  | cons item items ih =>
    rw [exists_split_cons_iff]
    unfold selectFrom
    split
    · next name =>
      have hitem : ¬ TraitFault (.text name) f := by
        rintro ⟨⟩
        next h => cases h
      split
      · next traitClass hfound =>
        have hoffered : name ∈ offered.map (·.1) := Keyed.exists_lookup_iff.1 ⟨traitClass, hfound⟩
        rw [ih]
        simp only [hitem, false_or]
        constructor
        · intro hrest
          exact ⟨⟨name, hoffered, rfl⟩, hrest⟩
        · rintro ⟨-, hrest⟩
          exact hrest
      · next hfound =>
        refine ⟨fun h => absurd h (not_breaks_reject _), ?_⟩
        rintro (h | ⟨⟨other, hoffered, heq⟩, -⟩)
        · exact absurd h hitem
        · obtain ⟨traitClass, hclass⟩ := Keyed.exists_lookup_iff.2 hoffered
          cases heq
          rw [hfound] at hclass
          cases hclass
    · next s htext =>
      have hearlier : ¬ ∃ name ∈ offered.map (·.1), Value.scalar s = .text name := by
        rintro ⟨name, -, heq⟩
        exact htext name (Value.scalar.inj heq)
      simp only [hearlier, false_and, or_false]
      split
      · next hshowable =>
        refine ⟨fun h => absurd h (not_breaks_reject _), ?_⟩
        rintro ⟨⟩
        next h => rw [hshowable] at h; cases h
      · next hshowable =>
        constructor
        · rintro ⟨h, -⟩
          cases h
          exact .scalar (by simpa using hshowable)
        · rintro ⟨⟩
          exact ⟨rfl, fun rejection h => by cases h⟩
    · next htext hscalar =>
      have hearlier : ¬ ∃ name ∈ offered.map (·.1), item = .text name := by
        rintro ⟨name, -, rfl⟩
        exact htext name rfl
      simp only [hearlier, false_and, or_false]
      constructor
      · rintro ⟨h, -⟩
        cases h
        cases item with
        | scalar s => exact absurd rfl (hscalar s)
        | list items => exact .list items
        | mapping entries => exact .mapping entries
      · rintro (items | entries | h)
        · exact ⟨rfl, fun rejection h => by cases h⟩
        · exact ⟨rfl, fun rejection h => by cases h⟩
        · exact absurd rfl (hscalar _)

lemma breaks_selectTraits_iff : Breaks (selectTraits config value) f ↔ TraitsFault config value f := by
  unfold selectTraits
  split
  · refine ⟨fun h => absurd h (not_breaks_ok _), ?_⟩
    rintro (⟨hnull, -⟩ | ⟨hitems, -, -⟩)
    · exact absurd rfl hnull
    · simp [listedItems] at hitems
  · next s =>
    constructor
    · rw [breaks_selectFrom_iff]
      rintro ⟨before, item, after, hitems, -, hitem⟩
      have hmem : item ∈ s.toList.map fun c => Value.text (String.singleton c) := by simp [hitems]
      obtain ⟨c, -, rfl⟩ := List.mem_map.1 hmem
      cases hitem
      next h => cases h
    · rintro (⟨-, htext⟩ | ⟨hitems, -, -⟩)
      · exact absurd rfl (htext s)
      · cases hitems
  · next hnull htext =>
    rw [breaks_bind_iff, breaks_listedItems_iff]
    simp only [breaks_selectFrom_iff]
    constructor
    · rintro (⟨rfl, s, rfl, hs⟩ | ⟨items, hitems, before, item, after, rfl, hbefore, hitem⟩)
      · exact .scalar hs fun t ht => htext t (by rw [ht])
      · exact .item hitems hbefore hitem
    · rintro (⟨hs, -⟩ | ⟨hitems, hbefore, hitem⟩)
      · exact .inl ⟨rfl, _, rfl, hs⟩
      · exact .inr ⟨_, hitems, _, _, _, rfl, hbefore, hitem⟩

/-! ## Drafts -/

/-- What keeps a draft from being assembled or turned down, in the order of the checks. -/
inductive Draft.Fault (config : Config) (draft : Draft) : Failure → Prop
  | getBy {f : Failure} (h : FieldsFault draft.getBy f) : Fault config draft f
  | getAllBy {f : Failure} {getBy : List String} (hgetBy : fieldNames draft.getBy = .ok getBy)
      (h : FieldsFault draft.getAllBy f) : Fault config draft f
  | events {f : Failure} {getBy getAllBy : List String} (hgetBy : fieldNames draft.getBy = .ok getBy)
      (hgetAllBy : fieldNames draft.getAllBy = .ok getAllBy)
      (hproperties : checkProperties draft.properties getBy getAllBy = .ok ())
      (h : FieldsFault draft.events f) : Fault config draft f
  | traits {f : Failure} {getBy getAllBy events : List String} (hgetBy : fieldNames draft.getBy = .ok getBy)
      (hgetAllBy : fieldNames draft.getAllBy = .ok getAllBy)
      (hproperties : checkProperties draft.properties getBy getAllBy = .ok ())
      (hevents : eventNames draft.events = .ok events) (h : TraitsFault config draft.traits f) : Fault config draft f

/-- Properties and lookups are accepted or turned down. -/
lemma not_breaks_checkProperties {properties : List Property} {getBy getAllBy : List String} :
    ¬ Breaks (checkProperties properties getBy getAllBy) f := by
  have hreported {f : Failure} (h : f.IsInconsistency) : ∃ rejection, f = .rejected rejection := by
    cases h <;> exact ⟨_, rfl⟩
  refine not_breaks_of_rejected fun f h => hreported ?_
  rcases bind_eq_error_iff.1 h with hnames | ⟨⟨⟩, -, hlookups⟩
  · exact isInconsistency_of_checkPropertyNames hnames
  · rcases bind_eq_error_iff.1 hlookups with hsingle | ⟨⟨⟩, -, hmulti⟩
    · exact isInconsistency_of_checkLookup hsingle
    · exact isInconsistency_of_checkLookup hmulti

/-- Assembly breaks at one of the four lists, where all before it went well. -/
lemma Draft.breaks_assemble_iff {draft : Draft} : Breaks (draft.assemble config) f ↔ draft.Fault config f := by
  rw [Draft.assemble, breaks_bind_iff, breaks_fieldNames_iff]
  simp only [breaks_bind_iff, breaks_fieldNames_iff, breaks_eventNames_iff, breaks_selectTraits_iff,
    not_breaks_checkProperties, not_breaks_pure, and_false, exists_false, or_false, false_or]
  constructor
  · rintro (h | ⟨getBy, hgetBy, h | ⟨getAllBy, hgetAllBy, ⟨⟩, hproperties, h | ⟨events, hevents, h⟩⟩⟩)
    · exact .getBy h
    · exact .getAllBy hgetBy h
    · exact .events hgetBy hgetAllBy hproperties h
    · exact .traits hgetBy hgetAllBy hproperties hevents h
  · rintro (h | ⟨hgetBy, h⟩ | ⟨hgetBy, hgetAllBy, hproperties, h⟩ | ⟨hgetBy, hgetAllBy, hproperties, hevents, h⟩)
    · exact .inl h
    · exact .inr ⟨_, hgetBy, .inl h⟩
    · exact .inr ⟨_, hgetBy, .inr ⟨_, hgetAllBy, (), hproperties, .inl h⟩⟩
    · exact .inr ⟨_, hgetBy, .inr ⟨_, hgetAllBy, (), hproperties, .inr ⟨_, hevents, h⟩⟩⟩

end EntityScaffold
