import EntityScaffold.Proofs.Wizard.Rejection
/-!
# What a session hears

A part of a session that comes to a result has taken some replies from the front of those that were to come, and
the result is what these replies say.  `Hears` puts this into one statement for a dialogue, with the relation
between replies and result as a parameter, and there is one such statement for each kind of question.

For a question that is asked until an answer is not turned down the relation is `IsAnswered`; for questions
that hang together, as those of the wizard, it is `Leads`, which follows the turns of the conversation.
-/

namespace EntityScaffold.Session

open Wizard

variable {σ α β : Type}

/-! ## Dialogues -/

section

variable {dialogue : Dialogue α} {next : α → Dialogue β} {before after : Session} {b : β} {f : Failure}

/-- A sequence comes to a result where both of its parts do. -/
lemma run_bind_eq_ok_iff : (dialogue >>= next).run.run before = (.ok b, after) ↔
    ∃ a between, dialogue.run.run before = (.ok a, between) ∧ (next a).run.run between = (.ok b, after) := by
  rw [ExceptT.run_bind, StateT.run_bind]
  rcases dialogue.run.run before with ⟨_ | a, between⟩
  · constructor
    · intro h
      cases h
    · rintro ⟨a, between, h, -⟩
      cases h
  · constructor
    · intro h
      exact ⟨a, between, rfl, h⟩
    · rintro ⟨_, _, ⟨⟩, h⟩
      exact h

/-- A sequence fails where its first part does. -/
lemma run_bind_of_error (h : dialogue.run.run before = (.error f, after)) (next : α → Dialogue β) :
    (dialogue >>= next).run.run before = (.error f, after) := by
  rw [ExceptT.run_bind, StateT.run_bind, h]
  rfl

end

/-- A dialogue takes replies from the front, and its result is what they give.  The files stay as they are. -/
def Hears (dialogue : Dialogue α) (gives : List Reply → α → Prop) : Prop :=
  ∀ ⦃before after : Session⦄ ⦃a : α⦄, dialogue.run.run before = (.ok a, after) →
    ∃ said, before.replies = said ++ after.replies ∧ after.files = before.files ∧ gives said a

lemma hears_pure (a : α) : Hears (pure a : Dialogue α) fun said b => said = [] ∧ b = a := by
  rintro before _ _ ⟨⟩
  exact ⟨[], rfl, rfl, rfl, rfl⟩

/-- Two dialogues one after the other take the replies of both. -/
lemma hears_bind {dialogue : Dialogue α} {next : α → Dialogue β} {gives : List Reply → α → Prop}
    {thenGives : α → List Reply → β → Prop} (hfirst : Hears dialogue gives)
    (hnext : ∀ a, Hears (next a) (thenGives a)) :
    Hears (dialogue >>= next) fun said b =>
      ∃ first rest a, said = first ++ rest ∧ gives first a ∧ thenGives a rest b := by
  intro before after b h
  obtain ⟨a, between, hfirstRun, hnextRun⟩ := run_bind_eq_ok_iff.1 h
  obtain ⟨first, hreplies, hfiles, hgives⟩ := hfirst hfirstRun
  obtain ⟨rest, hreplies', hfiles', hgives'⟩ := hnext a hnextRun
  refine ⟨first ++ rest, ?_, hfiles'.trans hfiles, first, rest, a, rfl, hgives, hgives'⟩
  rw [hreplies, hreplies', List.append_assoc]

/-! ## Conversations -/

/-- Replies lead a conversation from a state to a result, turn by turn. -/
inductive Leads (turn : σ → Reply → Except Failure (Turn σ α)) : σ → List Reply → α → Prop
  | settled {state : σ} {reply : Reply} {a : α} (h : turn state reply = .ok (.settled a)) :
      Leads turn state [reply] a
  | again {state next : σ} {reply : Reply} {rest : List Reply} {remark : Option Console.Entry} {a : α}
      (h : turn state reply = .ok (.again next remark)) (hrest : Leads turn next rest a) :
      Leads turn state (reply :: rest) a

section

variable {question : σ → Question} {turn : σ → Reply → Except Failure (Turn σ α)} {state : σ}
  {replies said : List Reply} {log : List Console.Entry} {files : FileTree} {after : Session} {a : α}

lemma leads_of_converse (h : converse files question turn replies log state = (.ok a, after)) :
    ∃ said, replies = said ++ after.replies ∧ after.files = files ∧ Leads turn state said a := by
  induction replies generalizing log state with
  | nil =>
    rw [converse] at h
    cases h
  | cons reply rest ih =>
    rw [converse] at h
    cases hturn : turn state reply with
    | error f =>
      simp only [hturn] at h
      cases h
    | ok result =>
      cases result with
      | settled b =>
        simp only [hturn] at h
        cases h
        exact ⟨[reply], rfl, rfl, .settled hturn⟩
      | again next remark =>
        simp only [hturn] at h
        obtain ⟨said, hreplies, hfiles, hleads⟩ := ih h
        refine ⟨reply :: said, ?_, hfiles, .again hturn hleads⟩
        rw [hreplies, List.cons_append]

/-- A conversation of replies that lead to a result comes to it. -/
lemma Leads.converse_ok (h : Leads turn state said a) (files : FileTree) (question : σ → Question)
    (log : List Console.Entry) : (converse files question turn said log state).1 = .ok a := by
  induction h generalizing log with
  | settled hturn => simp only [converse, hturn]
  | again hturn _ ih =>
    simp only [converse, hturn]
    exact ih _

lemma hears_askFrom (state : σ) (question : σ → Question)
    (turn : σ → Reply → Except Failure (Turn σ α)) :
    Hears (askFrom state question turn) (Leads turn state) := by
  intro before after a h
  exact leads_of_converse h

end

/-! ## Questions -/

/-- A question is answered: some replies are turned down, and then one is taken. -/
inductive IsAnswered (read : Reply → Except Failure α) : List Reply → α → Prop
  | taken {reply : Reply} {a : α} (h : read reply = .ok a) : IsAnswered read [reply] a
  | refused {reply : Reply} {rest : List Reply} {r : Rejection} {a : α}
      (h : read reply = .error (.rejected r)) (hrest : IsAnswered read rest a) :
      IsAnswered read (reply :: rest) a

/-- The reply that is taken gives the answer. -/
lemma IsAnswered.exists_read {read : Reply → Except Failure α} {said : List Reply} {a : α}
    (h : IsAnswered read said a) : ∃ reply, said.getLast? = some reply ∧ read reply = .ok a := by
  induction h with
  | @taken reply _ hread => exact ⟨reply, rfl, hread⟩
  | @refused first rest _ _ _ _ ih =>
    obtain ⟨reply, hlast, hread⟩ := ih
    exact ⟨reply, by rw [List.getLast?_cons, hlast, Option.getD_some], hread⟩

lemma hears_askUntil (question : Question) (read : Reply → Except Failure α) :
    Hears (askUntil question read) (IsAnswered read) := by
  intro before after a h
  obtain ⟨said, hreplies, hfiles, hleads⟩ := hears_askFrom _ _ _ h
  refine ⟨said, hreplies, hfiles, ?_⟩
  clear h hreplies
  generalize () = state at hleads
  induction hleads with
  | settled hturn =>
    split at hturn
    · next hread =>
      cases hturn
      exact .taken hread
    · cases hturn
    · cases hturn
  | again hturn _ ih =>
    split at hturn
    · cases hturn
    · next hread =>
      cases hturn
      exact .refused hread ih
    · cases hturn

/-- A question for yes or no is answered by any reply. -/
lemma hears_askTruth (prompt : String) (offered : Bool) :
    Hears (askTruth prompt offered) fun said b => ∃ reply, said = [reply] ∧ b = reply.asTruth offered := by
  intro before after b h
  obtain ⟨said, hreplies, hfiles, hanswered⟩ := hears_askUntil _ _ h
  refine ⟨said, hreplies, hfiles, ?_⟩
  cases hanswered with
  | taken hread => exact ⟨_, rfl, (Except.ok.inj hread).symm⟩
  | refused hread _ => cases hread

/-- The properties that a wizard is told are those that it has collected when it is done. -/
lemma hears_askProperties (reader : TypeReader) :
    Hears (askProperties reader) fun said properties =>
      (({ reader } : Wizard).heard (spoken { reader } said)).stage.state = .done ∧
        properties = (({ reader } : Wizard).heard (spoken { reader } said)).properties := by
  intro before after properties h
  obtain ⟨said, hreplies, hfiles, hleads⟩ := hears_askFrom _ _ _ h
  refine ⟨said, hreplies, hfiles, ?_⟩
  have hconcludes := concludes_converse (coherent_fresh reader) nofun before.files said before.log
  rw [hleads.converse_ok] at hconcludes
  cases hconcludes with
  | settled hdone => exact ⟨hdone, rfl⟩

/-! ## Confirmations -/

/-- The items that are confirmed, where there is one reply for each. -/
def confirmed (items : List α) (replies : List Reply) : List α :=
  ((items.zip replies).filter fun entry => entry.2.asTruth true).map (·.1)

lemma confirmed_cons (item : α) (items : List α) (reply : Reply) (replies : List Reply) :
    confirmed (item :: items) (reply :: replies) =
      if reply.asTruth true then item :: confirmed items replies else confirmed items replies := by
  unfold confirmed
  rw [List.zip_cons_cons, List.filter_cons]
  split <;> rfl

lemma confirmed_map (f : α → β) (items : List α) (replies : List Reply) :
    confirmed (items.map f) replies = (confirmed items replies).map f := by
  induction items generalizing replies with
  | nil => rfl
  | cons item items ih =>
    cases replies with
    | nil => rfl
    | cons reply replies =>
      rw [List.map_cons, confirmed_cons, confirmed_cons, ih]
      split <;> rfl

/-- Confirmed items keep their order. -/
lemma confirmed_sublist (items : List α) (replies : List Reply) :
    (confirmed items replies).Sublist items := by
  induction items generalizing replies with
  | nil => exact List.Sublist.slnil
  | cons item items ih =>
    cases replies with
    | nil => exact List.nil_sublist _
    | cons reply replies =>
      rw [confirmed_cons]
      split
      · exact (ih replies).cons_cons item
      · exact (ih replies).cons item

lemma hears_askTraits (names : List String) :
    Hears (askTraits names) fun said chosen =>
      said.length = names.length ∧ chosen = confirmed names said := by
  induction names with
  | nil =>
    intro before after chosen h
    obtain ⟨said, hreplies, hfiles, rfl, rfl⟩ := hears_pure [] h
    exact ⟨[], hreplies, hfiles, rfl, rfl⟩
  | cons name names ih =>
    intro before after chosen h
    obtain ⟨said, hreplies, hfiles, first, rest, yes, rfl, ⟨reply, rfl, rfl⟩, h⟩ :=
      hears_bind (hears_askTruth _ true) (fun yes => hears_bind ih fun others => hears_pure _) h
    obtain ⟨replies, rest, others, rfl, ⟨hlength, rfl⟩, rfl, rfl⟩ := h
    refine ⟨_, hreplies, hfiles, ?_, ?_⟩
    · rw [List.append_nil, List.singleton_append, List.length_cons, List.length_cons, hlength]
    · rw [List.append_nil, List.singleton_append, confirmed_cons]

end EntityScaffold.Session
