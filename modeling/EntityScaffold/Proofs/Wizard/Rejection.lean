import EntityScaffold.Proofs.Wizard.Coherence
import EntityScaffold.Session
/-!
# Rejected answers are invisible

An answer that is turned down leaves a wizard as it was, so a run may as well be one of the accepted answers
alone: it ends in the same wizard, and nothing fails on the way (`run_accepted`).  A conversation asks a
question again after an answer that is turned down, and so the properties that it settles on are those which
`Wizard.collect` makes of the accepted answers.
-/

namespace EntityScaffold

namespace Wizard

/-! ## Runs of accepted answers -/

/-- The answers of a run that are not turned down. -/
def accepted (w : Wizard) : List (Option String) → List (Option String)
  | [] => []
  | answer :: rest =>
    match w.respond answer with
    | (.ok (), next) => answer :: next.accepted rest
    | (.error _, next) => next.accepted rest

variable {w : Wizard}

/-- Every answer is taken, or nothing of it stays. -/
lemma respond_ok_or_unchanged (h : w.Coherent) (answer : Option String) :
    (w.respond answer).1 = .ok () ∨ (w.respond answer).2 = w := by
  rcases respond_cases h answer with ⟨hrespond, -, -⟩ | ⟨hrespond, -⟩
  · rw [hrespond]
    exact Or.inl rfl
  · rw [hrespond]
    exact Or.inr rfl

lemma heard_cons (w : Wizard) (answer : Option String) (rest : List (Option String)) :
    w.heard (answer :: rest) = (w.respond answer).2.heard rest := rfl

/-- The accepted answers alone lead to the same wizard. -/
lemma heard_accepted (h : w.Coherent) (answers : List (Option String)) :
    w.heard (w.accepted answers) = w.heard answers := by
  induction answers generalizing w with
  | nil => rfl
  | cons answer rest ih =>
    rw [accepted, heard_cons]
    rcases respond_cases h answer with ⟨hrespond, -, hnext⟩ | ⟨hrespond, -⟩
    · simp only [hrespond]
      rw [heard_cons, hrespond]
      exact ih hnext
    · simp only [hrespond]
      exact ih h

/-- A wizard that is done accepts nothing. -/
lemma accepted_of_done (h : w.stage.state = .done) (answers : List (Option String)) :
    w.accepted answers = [] := by
  induction answers with
  | nil => rfl
  | cons answer rest ih =>
    rw [accepted, respond_done h]
    exact ih

/-- A run of accepted answers does not fail. -/
theorem run_accepted (h : w.Coherent) (answers : List (Option String)) :
    w.run (w.accepted answers) = .ok (w.heard answers) := by
  induction answers generalizing w with
  | nil => rfl
  | cons answer rest ih =>
    rw [accepted, heard_cons]
    cases respond_cases h answer with
    | @taken next hrespond _ hnext =>
      simp only [hrespond]
      rw [run_cons_of_ok hrespond]
      split
      · next hdone =>
        have hstate : next.stage.state = .done := beq_iff_eq.1 hdone
        rw [← heard_accepted hnext, accepted_of_done hstate]
        rfl
      · exact ih hnext
    | failed hrespond _ =>
      simp only [hrespond]
      exact ih h

end Wizard

/-! ## Conversations -/

namespace Session

open Wizard

/-- The answers that replies give to a wizard, until it is done or something else ends the conversation. -/
def spoken (w : Wizard) : List Reply → List (Option String)
  | [] => []
  | reply :: rest =>
    match wizardAnswer w reply with
    | .error _ => []
    | .ok answer =>
      some answer ::
        match w.respond (some answer) with
        | (.ok (), next) => if next.isDone then [] else spoken next rest
        | (.error (.rejected _), next) => spoken next rest
        | (.error _, _) => []

/-- What a conversation with a wizard comes to, by the wizard that the answers lead to. -/
inductive Concludes (reached : Wizard) : Except Failure (List Property) → Prop
  | settled (h : reached.stage.state = .done) : Concludes reached (.ok reached.properties)
  | failed {f : Failure} (h : reached.stage.state ≠ .done) (hf : ∀ r, f ≠ .rejected r) :
      Concludes reached (.error f)

lemma wizardAnswer_error {w : Wizard} {reply : Reply} {f : Failure}
    (h : wizardAnswer w reply = .error f) : f = .notText := by
  unfold wizardAnswer at h
  split at h
  · cases h
  · unfold Reply.asText at h
    split at h <;> cases h
    rfl

/-- A conversation ends with the properties of the wizard when that is done, and is never ended by an answer
that is turned down. -/
lemma concludes_converse {w : Wizard} (h : w.Coherent) (hopen : w.stage.state ≠ .done)
    (files : FileTree) (replies : List Reply) (log : List Console.Entry) :
    Concludes (w.heard (spoken w replies))
      (converse files wizardQuestion wizardTurn replies log w).1 := by
  induction replies generalizing w log with
  | nil =>
    refine .failed hopen ?_
    rintro _ ⟨⟩
  | cons reply rest ih =>
    simp only [converse, spoken, wizardTurn]
    cases hanswer : wizardAnswer w reply with
    | error f =>
      obtain rfl := wizardAnswer_error hanswer
      refine .failed hopen ?_
      rintro _ ⟨⟩
    | ok answer =>
      simp only [ok_bind, heard_cons]
      cases respond_cases h (some answer) with
      | @taken next hrespond _ hnext =>
        simp only [hrespond]
        by_cases hdone : next.isDone = true
        · simp only [hdone, if_true]
          exact .settled (beq_iff_eq.1 hdone)
        · simp only [hdone]
          exact ih hnext (fun hstate => hdone (beq_iff_eq.2 hstate)) _
      | @failed f hrespond _ =>
        simp only [hrespond]
        cases f with
        | rejected r => exact ih h hopen _
        | _ =>
          refine .failed hopen ?_
          rintro _ ⟨⟩

/-- The properties that a conversation settles on are those of the accepted answers. -/
theorem rejected_answers_are_invisible (reader : TypeReader) (answers : List (Option String))
    (answer : Option String) (session : Session) :
    let fresh : Wizard := { reader }
    let w := fresh.heard answers
    let said := spoken fresh session.replies
    let outcome := ((askProperties reader).run.run session).1
    ((w.respond answer).1 = .ok () ∨ (w.respond answer).2 = w) ∧
      fresh.heard (fresh.accepted answers) = w ∧ fresh.run (fresh.accepted answers) = .ok w ∧
      collect reader (fresh.accepted said) = .ok (fresh.heard said).properties ∧
      (∀ properties, outcome = .ok properties ↔
        (fresh.heard said).stage.state = .done ∧ (fresh.heard said).properties = properties) ∧
      ∀ r, outcome ≠ .error (.rejected r) := by
  intro fresh w said outcome
  have hfresh : fresh.Coherent := coherent_fresh reader
  have hconcludes : Concludes (fresh.heard said) outcome :=
    concludes_converse hfresh nofun session.files session.replies session.log
  clear_value outcome
  refine ⟨respond_ok_or_unchanged (coherent_heard hfresh answers).1 answer,
    heard_accepted hfresh answers, run_accepted hfresh answers, ?_, ?_, ?_⟩
  · show (fresh.run (fresh.accepted said)).map _ = _
    rw [run_accepted hfresh said]
    rfl
  · intro properties
    cases hconcludes with
    | settled hdone => simp [hdone]
    | failed hopen _ => simp [hopen]
  · intro r
    cases hconcludes with
    | settled _ => nofun
    | failed _ hf => exact fun hrejected => hf r (Except.error.inj hrejected)

end Session

end EntityScaffold
