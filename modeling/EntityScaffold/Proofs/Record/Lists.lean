import EntityScaffold.Proofs.Record.Assembly
import EntityScaffold.Proofs.Text.Strip
/-!
# Lists that are given and lists that are kept

Fields and events are given as a text with commas, as texts, or not at all (`Listing`), and what is kept of them
is a list of normal items: more than blanks, and without spaces.  A list of normal items is kept as it is
(`normalItems_eq_self`), and so is a list of events with stems of their own (`newEvents_eq_self`).  What was
read once can therefore be given again as a list, and nothing is lost or added.
-/

namespace EntityScaffold

open Document Text

section

variable {items names seen events kept : List String} {item : String} {value : Value}

/-! ## Normal items -/

/-- A text that is more than blanks, and has no spaces in it. -/
def IsNormalItem (item : String) : Prop := isBlankText item = false ∧ ' ' ∉ item.toList

lemma withoutSpaces_eq_self (h : ' ' ∉ item.toList) : withoutSpaces item = item := by
  have hkeep : ∀ c ∈ item.toList, (c != ' ') = true := by
    intro c hc
    exact bne_iff_ne.2 fun heq => h (heq ▸ hc)
  rw [withoutSpaces, through, List.filter_eq_self.2 hkeep, String.ofList_toList]

/-- Taking the spaces out leaves more than blanks of a text that is more than blanks. -/
lemma isNormalItem_withoutSpaces (h : isBlankText item = false) : IsNormalItem (withoutSpaces item) := by
  have hspace : isBlank ' ' = true := by decide
  constructor
  · rw [isBlankText, List.all_eq_false] at h ⊢
    obtain ⟨c, hc, hblank⟩ := h
    refine ⟨c, ?_, hblank⟩
    rw [withoutSpaces, toList_through, List.mem_filter]
    refine ⟨hc, bne_iff_ne.2 ?_⟩
    rintro rfl
    exact hblank hspace
  · rw [withoutSpaces, toList_through, List.mem_filter]
    rintro ⟨-, hne⟩
    exact absurd rfl (bne_iff_ne.1 hne)

lemma isNormalItem_of_mem (h : item ∈ normalItems items) : IsNormalItem item := by
  obtain ⟨source, hsource, rfl⟩ := List.mem_map.1 h
  obtain ⟨-, hblank⟩ := List.mem_filter.1 hsource
  exact isNormalItem_withoutSpaces (by simpa using hblank)

/-- Normal items are kept as they are. -/
theorem normalItems_eq_self (h : ∀ item ∈ items, IsNormalItem item) : normalItems items = items := by
  have hfilter : items.filter (fun item => !isBlankText item) = items :=
    List.filter_eq_self.2 fun item hitem => by rw [(h item hitem).1, Bool.not_false]
  have hmap : items.map withoutSpaces = items :=
    (List.map_congr_left fun item hitem => withoutSpaces_eq_self (h item hitem).2).trans (List.map_id items)
  rw [normalItems, hfilter, hmap]

/-! ## Fields -/

lemma listedTexts_texts (items : List String) :
    listedTexts (items.map .text) = .ok (items.filter fun item => !item.isEmpty) := by
  induction items with
  | nil => rfl
  | cons item items ih =>
    rw [List.map_cons, listedTexts, ih, List.filter_cons]
    by_cases hitem : item.isEmpty = true
    · simp [Value.isVoid, hitem]
    · simp [Value.isVoid, hitem]

/-- Empty texts are no items in any case. -/
lemma normalItems_filter (items : List String) :
    normalItems (items.filter fun item => !item.isEmpty) = normalItems items := by
  have hempty (item : String) : (!item.isEmpty && !isBlankText item) = !isBlankText item := by
    by_cases hitem : item = ""
    · subst hitem
      rfl
    · simp [hitem]
  rw [normalItems, List.filter_filter, normalItems]
  simp only [Bool.and_comm, hempty]

lemma fieldNames_ofTexts (items : List String) : fieldNames (.ofTexts items) = .ok (normalItems items) := by
  show (do pure (normalItems (← listedTexts (items.map .text)))) = _
  rw [listedTexts_texts, ok_bind, normalItems_filter]
  rfl

/-- Whatever names are read from are normal items. -/
lemma isNormalItem_of_fieldNames (h : fieldNames value = .ok names) : ∀ name ∈ names, IsNormalItem name := by
  intro name hname
  unfold fieldNames at h
  split at h
  · cases h
    exact isNormalItem_of_mem hname
  · obtain ⟨listed, -, h⟩ := bind_eq_ok_iff.1 h
    obtain ⟨texts, -, h⟩ := bind_eq_ok_iff.1 h
    cases pure_eq_ok_iff.1 h
    exact isNormalItem_of_mem hname

/-- Names that were read are read again as they are. -/
theorem fieldNames_again (h : fieldNames value = .ok names) : fieldNames (.ofTexts names) = .ok names := by
  rw [fieldNames_ofTexts, normalItems_eq_self (isNormalItem_of_fieldNames h)]

/-! ## Events -/

/-- Events are taken where each of them has a stem. -/
lemma exists_newEvents_iff :
    (∃ kept, newEvents seen events = .ok kept) ↔
      ∀ event ∈ events, isIdentifier (Naming.pascal event) = true := by
  induction events generalizing seen with
  | nil => exact ⟨nofun, fun _ => ⟨[], rfl⟩⟩
  | cons event events ih =>
    rw [List.forall_mem_cons]
    constructor
    · rintro ⟨kept, h⟩
      obtain ⟨hstem, h | ⟨-, more, hmore, -⟩⟩ := newEvents_cons h
      · exact ⟨hstem, ih.1 ⟨kept, h⟩⟩
      · exact ⟨hstem, ih.1 ⟨more, hmore⟩⟩
    · rintro ⟨hstem, hevents⟩
      have hkey : eventKey event = .ok (lower (Naming.pascal event)) := eventKey_eq_ok_iff.2 ⟨hstem, rfl⟩
      rw [newEvents, hkey, ok_bind]
      by_cases hseen : seen.contains (lower (Naming.pascal event)) = true
      · rw [if_pos hseen]
        exact ih.2 hevents
      · rw [if_neg hseen]
        obtain ⟨more, hmore⟩ : ∃ more, newEvents (seen ++ [lower (Naming.pascal event)]) events = .ok more :=
          ih.2 hevents
        rw [hmore]
        exact ⟨_, rfl⟩

/-- Events are kept in their order, and none is added. -/
lemma sublist_of_newEvents (h : newEvents seen events = .ok kept) : kept.Sublist events := by
  induction events generalizing seen kept with
  | nil =>
    cases h
    exact List.nil_sublist []
  | cons event events ih =>
    obtain ⟨-, h | ⟨-, more, hmore, rfl⟩⟩ := newEvents_cons h
    · exact (ih h).cons event
    · exact (ih hmore).cons_cons event

/-- Events with stems of their own, not seen before, are all kept. -/
theorem newEvents_eq_self (hstems : ∀ event ∈ events, isIdentifier (Naming.pascal event) = true)
    (hnodup : (events.map fun event => lower (Naming.pascal event)).Nodup)
    (hseen : ∀ event ∈ events, lower (Naming.pascal event) ∉ seen) :
    newEvents seen events = .ok events := by
  induction events generalizing seen with
  | nil => rfl
  | cons event events ih =>
    obtain ⟨hstem, hstems⟩ := List.forall_mem_cons.1 hstems
    obtain ⟨hnew, hseen⟩ := List.forall_mem_cons.1 hseen
    obtain ⟨hother, hnodup⟩ := List.nodup_cons.1 hnodup
    have hkey : eventKey event = .ok (lower (Naming.pascal event)) := eventKey_eq_ok_iff.2 ⟨hstem, rfl⟩
    have hlater : ∀ other ∈ events,
        lower (Naming.pascal other) ∉ seen ++ [lower (Naming.pascal event)] := by
      intro other hmem
      rw [List.mem_append, List.mem_singleton, not_or]
      refine ⟨hseen other hmem, fun heq => hother ?_⟩
      exact List.mem_map.2 ⟨other, hmem, heq⟩
    rw [newEvents, hkey, ok_bind, if_neg (by simpa using hnew), ih hstems hnodup hlater]
    rfl

/-- Events are those of the whole lifecycle, or are read from a list of names. -/
lemma eventNames_cases (h : eventNames value = .ok events) :
    events = lifecycle ∨ ∃ names, fieldNames value = .ok names ∧ newEvents [] names = .ok events := by
  unfold eventNames at h
  split at h
  · split at h
    · cases h
      exact .inl rfl
    · exact .inr (bind_eq_ok_iff.1 h)
  · exact .inr (bind_eq_ok_iff.1 h)

lemma isNormalItem_of_eventNames (h : eventNames value = .ok events) :
    ∀ event ∈ events, IsNormalItem event := by
  rcases eventNames_cases h with rfl | ⟨names, hnames, hevents⟩
  · unfold IsNormalItem
    decide
  · intro event hevent
    exact isNormalItem_of_fieldNames hnames event ((sublist_of_newEvents hevents).subset hevent)

/-- Events that were read are read again as they are. -/
theorem eventNames_again (h : eventNames value = .ok events) :
    eventNames (.ofTexts events) = .ok events := by
  obtain ⟨hstems, hnodup, hseen⟩ := checkEvents_eq_ok_iff.1 (checkEvents_of_eventNames h)
  show (do newEvents [] (← fieldNames (.ofTexts events))) = _
  rw [fieldNames_ofTexts, normalItems_eq_self (isNormalItem_of_eventNames h), ok_bind]
  exact newEvents_eq_self hstems hnodup hseen

end

/-! ## What is given -/

/-- A list as it can be given: not at all, as a text with commas, or item by item. -/
inductive Listing where
  | absent
  | text (s : String)
  | list (items : List String)
  deriving DecidableEq, Repr, Inhabited

namespace Listing

/-- A list as a value of a document. -/
def toValue : Listing → Value
  | .absent => .null
  | .text s => .text s
  | .list items => .ofTexts items

/-- The names in a list, in normal form. -/
def names : Listing → List String
  | .absent => []
  | .text s => normalItems (pieces ',' s)
  | .list items => normalItems items

/-- Whether a list of events stands for the whole lifecycle, as the word `all` does. -/
def meansAll : Listing → Bool
  | .text s => lower (trim s) = "all"
  | _ => false

lemma fieldNames_toValue (l : Listing) : fieldNames l.toValue = .ok l.names := by
  cases l with
  | absent => rfl
  | text s => rfl
  | list items => exact fieldNames_ofTexts items

lemma eventNames_toValue (l : Listing) :
    eventNames l.toValue = if l.meansAll then .ok lifecycle else newEvents [] l.names := by
  cases l with
  | absent => rfl
  | text s =>
    unfold eventNames toValue meansAll
    by_cases hall : lower (trim s) = "all"
    · simp only [hall, if_true, decide_true]
      rfl
    · simp only [hall, decide_false]
      rfl
  | list items =>
    show (do newEvents [] (← fieldNames (.ofTexts items))) = _
    rw [fieldNames_ofTexts, ok_bind]
    rfl

/-- A list of events is taken where it stands for the whole lifecycle, or every name in it has a stem. -/
lemma exists_eventNames_iff (l : Listing) :
    (∃ events, eventNames l.toValue = .ok events) ↔
      (l.meansAll = false → ∀ event ∈ l.names, isIdentifier (Naming.pascal event) = true) := by
  rw [eventNames_toValue]
  by_cases hall : l.meansAll = true
  · simp [hall]
  · rw [if_neg hall, exists_newEvents_iff]
    simp [hall]

end Listing

end EntityScaffold
