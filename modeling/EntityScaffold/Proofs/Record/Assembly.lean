import EntityScaffold.Proofs.Record.Validation
/-!
# Assembled records are consistent

Assembly checks properties and lookups as `Record.validate` does, but it drops events that are there already
where the check would turn the record down.  What is left passes the check (`checkEvents_of_newEvents`), so a
record that was assembled is one that can be rendered.
-/

namespace EntityScaffold

open Text Document

variable {seen events kept : List String}

/-- An event is dropped when its stem was seen, and kept otherwise. -/
lemma newEvents_cons {event : String} (h : newEvents seen (event :: events) = .ok kept) :
    isIdentifier (Naming.pascal event) = true ∧
      (newEvents seen events = .ok kept ∨
        lower (Naming.pascal event) ∉ seen ∧
          ∃ more, newEvents (seen ++ [lower (Naming.pascal event)]) events = .ok more ∧
            kept = event :: more) := by
  obtain ⟨key, hkey, h⟩ := bind_eq_ok_iff.1 h
  obtain ⟨hstem, rfl⟩ := eventKey_eq_ok_iff.1 hkey
  refine ⟨hstem, ?_⟩
  split at h
  · exact .inl h
  · next hseen =>
    obtain ⟨more, hmore, h⟩ := bind_eq_ok_iff.1 h
    exact .inr ⟨by simpa using hseen, more, hmore, (pure_eq_ok_iff.1 h).symm⟩

/-- The events that are kept have stems that are identifiers, distinct, and not seen before. -/
lemma stems_of_newEvents (h : newEvents seen events = .ok kept) :
    (∀ event ∈ kept, isIdentifier (Naming.pascal event) = true) ∧
      (kept.map fun event => lower (Naming.pascal event)).Nodup ∧
        ∀ event ∈ kept, lower (Naming.pascal event) ∉ seen := by
  induction events generalizing seen kept with
  | nil =>
    cases h
    exact ⟨nofun, List.nodup_nil, nofun⟩
  | cons event events ih =>
    obtain ⟨hstem, h | ⟨hnew, more, hmore, rfl⟩⟩ := newEvents_cons h
    · exact ih h
    · obtain ⟨hstems, hnodup, hseen⟩ := ih hmore
      have hother : ∀ other ∈ more, lower (Naming.pascal other) ∉ seen ∧
          lower (Naming.pascal other) ≠ lower (Naming.pascal event) := by
        simpa [not_or] using hseen
      refine ⟨List.forall_mem_cons.2 ⟨hstem, hstems⟩, List.nodup_cons.2 ⟨?_, hnodup⟩,
        List.forall_mem_cons.2 ⟨hnew, fun other hmem => (hother other hmem).1⟩⟩
      rw [List.mem_map]
      rintro ⟨other, hmem, heq⟩
      exact (hother other hmem).2 heq

theorem checkEvents_of_newEvents (h : newEvents [] events = .ok kept) : checkEvents [] kept = .ok () :=
  checkEvents_eq_ok_iff.2 (stems_of_newEvents h)

lemma checkEvents_of_eventNames {value : Value} (h : eventNames value = .ok events) :
    checkEvents [] events = .ok () := by
  have hlist {names : Except Failure (List String)} (h : (names >>= newEvents []) = .ok events) :
      checkEvents [] events = .ok () := by
    obtain ⟨listed, -, h⟩ := bind_eq_ok_iff.1 h
    exact checkEvents_of_newEvents h
  unfold eventNames at h
  split at h
  · split at h
    · cases h
      exact checkEvents_eq_ok_iff.2 (by decide)
    · exact hlist h
  · exact hlist h

namespace Draft

variable {draft : Draft} {config : Config} {r : Record}

/-- A draft is assembled where its lists can be read and what is in them passes the checks. -/
theorem assemble_eq_ok_iff : draft.assemble config = .ok r ↔
    fieldNames draft.getBy = .ok r.getBy ∧ fieldNames draft.getAllBy = .ok r.getAllBy ∧
      checkProperties draft.properties r.getBy r.getAllBy = .ok () ∧
        eventNames draft.events = .ok r.events ∧ selectTraits config draft.traits = .ok r.traits ∧
          r.space = ClassName.bare (trim draft.space) ∧ r.entityName = trim draft.entityName ∧
            r.properties = draft.properties ∧ r.features = draft.features := by
  constructor
  · intro h
    obtain ⟨getBy, hgetBy, h⟩ := bind_eq_ok_iff.1 h
    obtain ⟨getAllBy, hgetAllBy, h⟩ := bind_eq_ok_iff.1 h
    obtain ⟨⟨⟩, hproperties, h⟩ := bind_eq_ok_iff.1 h
    obtain ⟨events, hevents, h⟩ := bind_eq_ok_iff.1 h
    obtain ⟨traits, htraits, h⟩ := bind_eq_ok_iff.1 h
    obtain rfl := pure_eq_ok_iff.1 h
    exact ⟨hgetBy, hgetAllBy, hproperties, hevents, htraits, rfl, rfl, rfl, rfl⟩
  · rintro ⟨hgetBy, hgetAllBy, hproperties, hevents, htraits, hspace, hname, hprops, hfeatures⟩
    rw [assemble, hgetBy, ok_bind, hgetAllBy, ok_bind, hproperties, ok_bind, hevents, ok_bind, htraits, ok_bind]
    rw [pure_eq_ok_iff, ← hspace, ← hname, ← hprops, ← hfeatures]

/-- A record that was assembled passes the check. -/
theorem validate_of_assemble (h : draft.assemble config = .ok r) : r.validate = .ok () := by
  obtain ⟨-, -, hproperties, hevents, -, -, -, hsame, -⟩ := assemble_eq_ok_iff.1 h
  rw [← hsame] at hproperties
  exact bind_eq_ok_iff.2 ⟨(), hproperties, checkEvents_of_eventNames hevents⟩

end Draft

end EntityScaffold
