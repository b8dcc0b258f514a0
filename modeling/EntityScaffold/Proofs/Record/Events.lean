import EntityScaffold.Proofs.Record.Lists
/-!
# One spelling for each event

Of the events of a list that stand for one class, the first is kept, as it is spelled, and the others are dropped.
The program goes through the list once, with the keys that it has seen; here the outcome is described by the list
alone (`OneOfEach`): nothing is added or moved, no key occurs twice, and no key is lost, since each item leaves the
first item of its key (`exists_first_of_newEvents`, which is the induction over the loop).

What is kept has normal items with keys of their own, so it passes the check of a record, and as a list it is read
as it stands (`Listing.events_are_one_of_each`).  The text `all` is no list: it stands for the whole lifecycle, in
any case and with blanks around it.
-/

namespace EntityScaffold

open Document Text

variable {seen items kept events : List String} {item first : String}

/-- A text is the first of a list with the key of an item. -/
def IsFirstOfKey (items : List String) (item first : String) : Prop :=
  ∃ earlier later, items = earlier ++ first :: later ∧ eventKey first = eventKey item ∧
    ∀ other ∈ earlier, eventKey other ≠ eventKey item

/-- Of the items of a list, the first of each key are kept, in their order. -/
structure OneOfEach (items kept : List String) : Prop where
  keyed : ∀ item ∈ items, ∃ key, eventKey item = .ok key
  sublist : kept.Sublist items
  distinct : kept.Pairwise fun e f => eventKey e ≠ eventKey f
  represented : ∀ item ∈ items, ∃ first ∈ kept, IsFirstOfKey items item first

/-! ## Keys -/

lemma eventKey_of_isIdentifier (h : isIdentifier (Naming.pascal item) = true) :
    eventKey item = .ok (lower (Naming.pascal item)) := eventKey_eq_ok_iff.2 ⟨h, rfl⟩

lemma eventKey_eq_iff (hitem : isIdentifier (Naming.pascal item) = true)
    (hfirst : isIdentifier (Naming.pascal first) = true) :
    eventKey first = eventKey item ↔ lower (Naming.pascal first) = lower (Naming.pascal item) := by
  rw [eventKey_of_isIdentifier hitem, eventKey_of_isIdentifier hfirst, Except.ok.injEq]

/-- The first item of a list is the first of its key. -/
lemma isFirstOfKey_head (items : List String) (h : eventKey first = eventKey item) :
    IsFirstOfKey (first :: items) item first :=
  ⟨[], items, rfl, h, nofun⟩

/-- An item of another key in front makes no difference. -/
theorem IsFirstOfKey.cons {other : String} (h : IsFirstOfKey items item first)
    (hother : eventKey other ≠ eventKey item) : IsFirstOfKey (other :: items) item first := by
  obtain ⟨earlier, later, rfl, hkey, hearlier⟩ := h
  exact ⟨other :: earlier, later, rfl, hkey, List.forall_mem_cons.2 ⟨hother, hearlier⟩⟩

/-! ## The loop -/

/-- Each item whose key was not seen before leaves the first item of its key. -/
theorem exists_first_of_newEvents (h : newEvents seen items = .ok kept) (hitem : item ∈ items)
    (hnew : lower (Naming.pascal item) ∉ seen) : ∃ first ∈ kept, IsFirstOfKey items item first := by
  have hstems : ∀ event ∈ items, isIdentifier (Naming.pascal event) = true := exists_newEvents_iff.1 ⟨kept, h⟩
  induction items generalizing seen kept with
  | nil => cases hitem
  | cons head items ih =>
    obtain ⟨hhead, hrest⟩ := List.forall_mem_cons.1 hstems
    have hsame : eventKey head = eventKey item ↔ lower (Naming.pascal head) = lower (Naming.pascal item) :=
      eventKey_eq_iff (hstems item hitem) hhead
    rw [newEvents, eventKey_of_isIdentifier hhead, ok_bind] at h
    by_cases hkey : eventKey head = eventKey item
    · -- the key of the head is new as well, so the head is kept
      rw [hsame.1 hkey, if_neg (by simpa using hnew)] at h
      obtain ⟨more, -, h⟩ := bind_eq_ok_iff.1 h
      obtain rfl := pure_eq_ok_iff.1 h
      exact ⟨head, List.mem_cons_self, isFirstOfKey_head items hkey⟩
    · have hmem : item ∈ items := by
        rcases List.mem_cons.1 hitem with rfl | hmem
        · exact absurd rfl hkey
        · exact hmem
      split at h
      · obtain ⟨first, hfirst, hat⟩ := ih h hmem hnew hrest
        exact ⟨first, hfirst, hat.cons hkey⟩
      · obtain ⟨more, hmore, h⟩ := bind_eq_ok_iff.1 h
        obtain rfl := pure_eq_ok_iff.1 h
        have hnew' : lower (Naming.pascal item) ∉ seen ++ [lower (Naming.pascal head)] := by
          rw [List.mem_append, List.mem_singleton, not_or]
          exact ⟨hnew, fun heq => hkey (hsame.2 heq.symm)⟩
        obtain ⟨first, hfirst, hat⟩ := ih hmore hmem hnew' hrest
        exact ⟨first, List.mem_cons_of_mem head hfirst, hat.cons hkey⟩

/-- What the loop keeps, starting with no keys seen. -/
lemma oneOfEach_of_newEvents (h : newEvents [] items = .ok kept) : OneOfEach items kept := by
  have hstems : ∀ event ∈ items, isIdentifier (Naming.pascal event) = true := exists_newEvents_iff.1 ⟨kept, h⟩
  obtain ⟨hkept, hnodup, -⟩ := stems_of_newEvents h
  refine ⟨fun item hitem => ⟨_, eventKey_of_isIdentifier (hstems item hitem)⟩, sublist_of_newEvents h, ?_,
    fun item hitem => exists_first_of_newEvents h hitem List.not_mem_nil⟩
  refine (List.pairwise_map.1 hnodup).imp_of_mem fun he hf hne heq => hne ?_
  exact (eventKey_eq_iff (hkept _ hf) (hkept _ he)).1 heq

/-! ## Lists of events -/

/-- A list of events that is taken is reduced to the first item of each key.  What is left passes the check of a
record, and is taken again as it is. -/
theorem Listing.events_are_one_of_each (l : Listing) (events : List String) (hlist : l.meansAll = false)
    (h : eventNames l.toValue = .ok events) :
    ∃ items, fieldNames l.toValue = .ok items ∧ OneOfEach items events ∧ checkEvents [] events = .ok () ∧
      eventNames (Listing.list events).toValue = .ok events := by
  have hevents : newEvents [] l.names = .ok events := by
    rw [eventNames_toValue, hlist] at h
    exact h
  exact ⟨l.names, fieldNames_toValue l, oneOfEach_of_newEvents hevents, checkEvents_of_newEvents hevents,
    eventNames_again h⟩

/-- Two classes in five spellings. -/
theorem Listing.resets_and_archived_are_kept_once :
    let l := Listing.text " Password reset, , archived,password_reset,ARCHIVED,Archi ved"
    l.meansAll = false ∧ eventNames l.toValue = .ok ["Passwordreset", "archived"] ∧
      ∃ items, fieldNames l.toValue = .ok items ∧ OneOfEach items ["Passwordreset", "archived"] ∧
        checkEvents [] ["Passwordreset", "archived"] = .ok () ∧
          eventNames (Listing.list ["Passwordreset", "archived"]).toValue =
            .ok ["Passwordreset", "archived"] := by
  intro l
  have hlist : l.meansAll = false := by decide +kernel
  have hevents : eventNames l.toValue = .ok ["Passwordreset", "archived"] := by decide +kernel
  exact ⟨hlist, hevents, events_are_one_of_each l _ hlist hevents⟩

end EntityScaffold
