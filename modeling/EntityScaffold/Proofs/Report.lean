import EntityScaffold.Failure
import EntityScaffold.Proofs.Outcome
/-!
# Failures that are reported and failures that are not

A rejection is told to the person who wrote the input.  Any other failure is a mistake of the program when it was
the input that is wrong.  `Breaks` says of a computation that it ends in such a failure, and is followed through
sequences: they break where their first part does, or their second after a first that went well.
-/

namespace EntityScaffold

variable {α β : Type} {x : Except Failure α} {g : α → Except Failure β} {f : Failure}

/-- A computation ends in a failure that is no rejection. -/
def Breaks (x : Except Failure α) (f : Failure) : Prop := x = .error f ∧ ∀ rejection, f ≠ .rejected rejection

/-- A computation has a result or turns its input down. -/
def IsReported (x : Except Failure α) : Prop := (∃ a, x = .ok a) ∨ ∃ rejection, x = .error (.rejected rejection)

/-- What is reported is what does not break. -/
lemma isReported_iff : IsReported x ↔ ∀ f, ¬ Breaks x f := by
  constructor
  · rintro (⟨a, rfl⟩ | ⟨rejection, rfl⟩) f ⟨hf, hrejected⟩
    · cases hf
    · cases hf
      exact hrejected rejection rfl
  · intro h
    cases x with
    | ok a => exact .inl ⟨a, rfl⟩
    | error f =>
      right
      by_contra hnone
      exact h f ⟨rfl, fun rejection hf => hnone ⟨rejection, by rw [hf]⟩⟩

lemma not_breaks_of_rejected (h : ∀ f, x = .error f → ∃ rejection, f = .rejected rejection) : ¬ Breaks x f := by
  rintro ⟨hx, hrejected⟩
  obtain ⟨rejection, rfl⟩ := h f hx
  exact hrejected rejection rfl

@[simp] lemma not_breaks_ok (a : α) : ¬ Breaks (.ok a) f := by
  rintro ⟨h, -⟩
  cases h

@[simp] lemma not_breaks_pure (a : α) : ¬ Breaks (pure a) f := not_breaks_ok a

@[simp] lemma not_breaks_reject (rejection : Rejection) : ¬ Breaks (reject rejection : Except Failure α) f := by
  refine not_breaks_of_rejected fun f hf => ⟨rejection, ?_⟩
  cases hf
  rfl

/-- A sequence breaks where its first part does, or else its second. -/
theorem breaks_bind_iff : Breaks (x >>= g) f ↔ Breaks x f ∨ ∃ a, x = .ok a ∧ Breaks (g a) f := by
  unfold Breaks
  rw [bind_eq_error_iff]
  constructor
  · rintro ⟨hx | ⟨a, ha, hg⟩, hrejected⟩
    · exact .inl ⟨hx, hrejected⟩
    · exact .inr ⟨a, ha, hg, hrejected⟩
  · rintro (⟨hx, hrejected⟩ | ⟨a, ha, hg, hrejected⟩)
    · exact ⟨.inl hx, hrejected⟩
    · exact ⟨.inr ⟨a, ha, hg⟩, hrejected⟩

/-- The first of some items is as `Q` says after others that are as `P` says: it is the one in front, or this is one
of the others. -/
lemma exists_split_cons_iff {P Q : α → Prop} {a : α} {rest : List α} :
    (∃ before item after, a :: rest = before ++ item :: after ∧ (∀ b ∈ before, P b) ∧ Q item) ↔
      Q a ∨ P a ∧ ∃ before item after, rest = before ++ item :: after ∧ (∀ b ∈ before, P b) ∧ Q item := by
  constructor
  · rintro ⟨before, item, after, hsplit, hbefore, hitem⟩
    cases before with
    | nil =>
      obtain ⟨rfl, -⟩ := List.cons_eq_cons.1 hsplit
      exact .inl hitem
    | cons b before =>
      obtain ⟨rfl, hrest⟩ := List.cons_eq_cons.1 hsplit
      obtain ⟨ha, hbefore⟩ := List.forall_mem_cons.1 hbefore
      exact .inr ⟨ha, before, item, after, hrest, hbefore, hitem⟩
  · rintro (ha | ⟨ha, before, item, after, rfl, hbefore, hitem⟩)
    · exact ⟨[], a, rest, rfl, List.forall_mem_nil _, ha⟩
    · exact ⟨a :: before, item, after, rfl, List.forall_mem_cons.2 ⟨ha, hbefore⟩, hitem⟩

/-- Going through a list breaks at an item before which all went well. -/
lemma breaks_mapM_iff {as : List α} : Breaks (as.mapM g) f ↔
    ∃ before item after, as = before ++ item :: after ∧ (∀ a ∈ before, ∃ b, g a = .ok b) ∧ Breaks (g item) f := by
  induction as with
  | nil => simp
  | cons a rest ih =>
    rw [exists_split_cons_iff, ← ih, List.mapM_cons, breaks_bind_iff]
    simp only [breaks_bind_iff, not_breaks_pure, and_false, exists_false, or_false, exists_and_right]

end EntityScaffold
