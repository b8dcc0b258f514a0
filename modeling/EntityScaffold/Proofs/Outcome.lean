import Mathlib.Data.List.Forall2
/-!
# Outcomes

When a computation that may fail succeeds, and when it fails: a sequence of two does the one thing where
both parts do, and the other where one part does.  `bind_eq_ok_iff` and `bind_eq_error_iff` take such
sequences apart, so that no proof has to unfold the monad.
-/

namespace EntityScaffold

variable {ε α β : Type}

@[simp] lemma ok_bind (a : α) (f : α → Except ε β) : (Except.ok a >>= f) = f a := rfl

@[simp] lemma error_bind (e : ε) (f : α → Except ε β) : (Except.error e >>= f) = .error e := rfl

@[simp] lemma pure_eq_ok_iff {a b : α} : (pure a : Except ε α) = .ok b ↔ a = b :=
  ⟨Except.ok.inj, congrArg Except.ok⟩

@[simp] lemma pure_ne_error {a : α} {e : ε} : (pure a : Except ε α) ≠ .error e := nofun

/-- A sequence succeeds where both of its parts do. -/
theorem bind_eq_ok_iff {x : Except ε α} {f : α → Except ε β} {b : β} :
    (x >>= f) = .ok b ↔ ∃ a, x = .ok a ∧ f a = .ok b := by
  cases x with
  | error e => exact ⟨nofun, fun ⟨_, h, _⟩ => nomatch h⟩
  | ok a =>
    constructor
    · intro h
      exact ⟨a, rfl, h⟩
    · rintro ⟨_, ha, h⟩
      cases ha
      exact h

/-- A sequence fails where its first part does, or else its second. -/
theorem bind_eq_error_iff {x : Except ε α} {f : α → Except ε β} {e : ε} :
    (x >>= f) = .error e ↔ x = .error e ∨ ∃ a, x = .ok a ∧ f a = .error e := by
  cases x with
  | error e' =>
    constructor
    · intro h
      cases h
      exact Or.inl rfl
    · rintro (h | ⟨_, h, _⟩)
      · cases h
        rfl
      · cases h
  | ok a =>
    constructor
    · intro h
      exact Or.inr ⟨a, rfl, h⟩
    · rintro (h | ⟨_, ha, h⟩)
      · cases h
      · cases ha
        exact h

/-- A list is mapped where each of its items is. -/
theorem mapM_eq_ok_iff {f : α → Except ε β} {as : List α} {bs : List β} :
    as.mapM f = .ok bs ↔ List.Forall₂ (fun a b => f a = .ok b) as bs := by
  induction as generalizing bs with
  | nil =>
    rw [List.mapM_nil, pure_eq_ok_iff, List.forall₂_nil_left_iff, eq_comm]
  | cons a rest ih =>
    rw [List.mapM_cons, List.forall₂_cons_left_iff, bind_eq_ok_iff]
    constructor
    · rintro ⟨b, hb, h⟩
      obtain ⟨more, hmore, h⟩ := bind_eq_ok_iff.1 h
      exact ⟨b, more, hb, ih.1 hmore, (pure_eq_ok_iff.1 h).symm⟩
    · rintro ⟨b, more, hb, hmore, rfl⟩
      exact ⟨b, hb, bind_eq_ok_iff.2 ⟨more, ih.2 hmore, rfl⟩⟩

/-- What a list is mapped to comes from its items. -/
theorem exists_of_mapM_eq_ok {f : α → Except ε β} {as : List α} {bs : List β} (h : as.mapM f = .ok bs) :
    ∀ b ∈ bs, ∃ a ∈ as, f a = .ok b := by
  have hforall := mapM_eq_ok_iff.1 h
  clear h
  induction hforall with
  | nil => exact fun b hb => absurd hb List.not_mem_nil
  | @cons a b as bs hfirst _ ih =>
    refine List.forall_mem_cons.2 ⟨⟨a, List.mem_cons_self, hfirst⟩, fun b hb => ?_⟩
    obtain ⟨a', ha', hb⟩ := ih b hb
    exact ⟨a', List.mem_cons_of_mem a ha', hb⟩

/-- A list is mapped to a failure if some of its items fail and all that do fail alike. -/
theorem mapM_eq_error {f : α → Except ε β} {as : List α} {e : ε} (hfails : ∃ a ∈ as, f a = .error e)
    (halike : ∀ a ∈ as, ∀ e', f a = .error e' → e' = e) : as.mapM f = .error e := by
  induction as with
  | nil =>
    obtain ⟨a, ha, -⟩ := hfails
    cases ha
  | cons a rest ih =>
    obtain ⟨hfirst, hrest⟩ := List.forall_mem_cons.1 halike
    rw [List.mapM_cons, bind_eq_error_iff]
    cases ha : f a with
    | error e' =>
      rw [hfirst e' ha]
      exact .inl rfl
    | ok b =>
      refine .inr ⟨b, rfl, bind_eq_error_iff.2 (.inl (ih ?_ hrest))⟩
      obtain ⟨a', ha', hfail⟩ := hfails
      rcases List.mem_cons.1 ha' with rfl | hmem
      · rw [ha] at hfail
        cases hfail
      · exact ⟨a', hmem, hfail⟩

/-- A list whose items all have a result is mapped to these. -/
theorem mapM_eq_ok_map {f : α → Except ε β} {g : α → β} {as : List α}
    (h : ∀ a ∈ as, f a = .ok (g a)) : as.mapM f = .ok (as.map g) := by
  rw [mapM_eq_ok_iff, List.forall₂_map_right_iff, List.forall₂_same]
  exact h

end EntityScaffold
