import EntityScaffold.Proofs.Record.Acceptance
import EntityScaffold.Proofs.Session.Replies
import EntityScaffold.Proofs.Wizard.Names
/-!
# Sessions do not fail at the end

Every answer is checked when it is given, and what the answers come to is checked once more when the record is
made of it.  The two checks are not the same: the wizard compares names as they come in, fields are looked up
among the names it has collected, and events are read twice, the second time from what the first time left of
them.  They agree on everything that a session can collect (`Interview.Gives.assemble`), and so a session that
has got all its answers makes a record of them.

An `Interview` is the list of the replies, cut up by the questions that they answer, and `Interview.Gives` says
how a record is read off from it.
-/

namespace EntityScaffold.Session

open Text Wizard

/-- The replies of a session, by what they are about. -/
structure Interview where
  entity : List Reply
  space : List Reply
  properties : List Reply
  features : List Reply
  getBy : List Reply
  getAllBy : List Reply
  events : List Reply
  /-- One reply for each trait that is offered. -/
  traits : List Reply

namespace Interview

/-- The replies in the order in which they are given. -/
def replies (i : Interview) : List Reply :=
  i.entity ++ i.space ++ i.properties ++ i.features ++ i.getBy ++ i.getAllBy ++ i.events ++ i.traits

/-- The wizard that has heard what an interview says about properties. -/
def wizard (i : Interview) (reader : TypeReader) : Wizard :=
  ({ reader } : Wizard).heard (spoken { reader } i.properties)

/-- What is in a record is what an interview says. -/
structure Gives (i : Interview) (config : Config) (reader : TypeReader) (r : Record) : Prop where
  done : (i.wizard reader).stage.state = .done
  properties : r.properties = (i.wizard reader).properties
  getBy : IsAnswered (readFields r.propertyNames .single) i.getBy r.getBy
  getAllBy : IsAnswered (readFields r.propertyNames .multi) i.getAllBy r.getAllBy
  events : IsAnswered readEvents i.events r.events
  asked : i.traits.length = config.offeredTraits.length
  traits : r.traits = confirmed config.offeredTraits i.traits

end Interview

/-- A draft states what is in a record, with lists item by item. -/
structure States (draft : Draft) (r : Record) : Prop where
  space : r.space = ClassName.bare (trim draft.space)
  entityName : r.entityName = trim draft.entityName
  properties : r.properties = draft.properties
  features : r.features = draft.features
  getBy : draft.getBy = .ofTexts r.getBy
  getAllBy : draft.getAllBy = .ofTexts r.getAllBy
  events : draft.events = .ofTexts r.events
  traits : draft.traits = .ofTexts (r.traits.map (·.1))

variable {config : Config} {before after : Session} {draft : Draft} {r : Record} {names declared : List String}
  {lookup : Lookup} {said : List Reply}

/-! ## The second check -/

/-- Fields that were answered are declared, and are read again as they are. -/
theorem IsAnswered.fields (h : IsAnswered (readFields declared lookup) said names) :
    fieldNames (.ofTexts names) = .ok names ∧ ∀ name ∈ names, name ∈ declared := by
  obtain ⟨reply, -, hread⟩ := h.exists_read
  obtain ⟨listed, hnames, hread⟩ := bind_eq_ok_iff.1 hread
  obtain ⟨⟨⟩, hdeclared, hread⟩ := bind_eq_ok_iff.1 hread
  obtain rfl := pure_eq_ok_iff.1 hread
  exact ⟨fieldNames_again hnames, checkLookup_eq_ok_iff.1 hdeclared⟩

/-- Events that were answered are read again as they are. -/
theorem IsAnswered.events (h : IsAnswered readEvents said names) :
    eventNames (.ofTexts names) = .ok names := by
  obtain ⟨reply, -, hread⟩ := h.exists_read
  exact eventNames_again hread

/-- Traits that were confirmed are selected by their names. -/
lemma selectTraits_confirmed (config : Config) (replies : List Reply) :
    selectTraits config (.ofTexts ((confirmed config.offeredTraits replies).map (·.1))) =
      .ok (confirmed config.offeredTraits replies) := by
  have hsublist := confirmed_sublist config.offeredTraits replies
  refine selectTraits_names ((nodup_offeredTraits config).sublist (hsublist.map _)) ?_
  intro entry hentry
  exact Keyed.lookup_of_mem (nodup_offeredTraits config) (hsublist.subset hentry)

/-- A draft of what an interview gives passes all checks. -/
theorem Interview.Gives.assemble {i : Interview} {reader : TypeReader} (h : i.Gives config reader r)
    (hdraft : States draft r) : draft.assemble config = .ok r := by
  obtain ⟨hgetBy, hsingle⟩ := h.getBy.fields
  obtain ⟨hgetAllBy, hmulti⟩ := h.getAllBy.fields
  have hseparate : Property.AreSeparate r.properties := by
    have hfresh : Property.AreSeparate ({ reader } : Wizard).properties :=
      ⟨List.forall_mem_nil _, List.nodup_nil⟩
    rw [h.properties, Interview.wizard]
    exact areSeparate_heard (coherent_fresh reader) hfresh _
  have hproperties : checkProperties r.properties r.getBy r.getAllBy = .ok () :=
    checkProperties_eq_ok_iff.2 ⟨hseparate.1, hseparate.2, hsingle, hmulti⟩
  have htraits : selectTraits config (.ofTexts (r.traits.map (·.1))) = .ok r.traits := by
    rw [h.traits]
    exact selectTraits_confirmed config i.traits
  refine Draft.assemble_eq_ok_iff.2 ⟨?_, ?_, ?_, ?_, ?_, hdraft.space, hdraft.entityName, hdraft.properties,
    hdraft.features⟩
  · rw [hdraft.getBy, hgetBy]
  · rw [hdraft.getAllBy, hgetAllBy]
  · rw [← hdraft.properties, hproperties]
  · rw [hdraft.events, h.events.events]
  · rw [hdraft.traits, htraits]

/-! ## The answers of a session -/

/-- The questions for what to generate take some replies. -/
lemma hears_askForFields (questions : List (String × String)) :
    Hears (askForFields questions) fun _ _ => True := by
  induction questions with
  | nil =>
    intro before after fields h
    obtain ⟨said, hreplies, hfiles, -⟩ := hears_pure [] h
    exact ⟨said, hreplies, hfiles, trivial⟩
  | cons question questions ih =>
    intro before after fields h
    obtain ⟨said, hreplies, hfiles, -⟩ :=
      hears_bind (hears_askUntil _ _) (fun value => hears_bind ih fun others => hears_pure _) h
    exact ⟨said, hreplies, hfiles, trivial⟩

lemma hears_result {α : Type} (outcome : Except Failure α) :
    Hears (result outcome) fun said a => said = [] ∧ outcome = .ok a := by
  rintro before _ a ⟨⟩
  exact ⟨[], rfl, rfl, rfl, rfl⟩

/-- A session that has got all its answers has heard an interview, and its draft states what this gives. -/
lemma exists_interview (h : (askDraft config).run.run before = (.ok draft, after)) :
    ∃ (i : Interview) (r : Record), before.replies = i.replies ++ after.replies ∧
      i.Gives config (.ofConfig config [ClassName.qualify draft.space draft.entityName] before.files) r ∧
        States draft r := by
  obtain ⟨entity, s₁, hentity, h⟩ := run_bind_eq_ok_iff.1 h
  obtain ⟨space, s₂, hspace, h⟩ := run_bind_eq_ok_iff.1 h
  obtain ⟨session, s₃, hget, h⟩ := run_bind_eq_ok_iff.1 h
  cases hget
  obtain ⟨properties, s₄, hproperties, h⟩ := run_bind_eq_ok_iff.1 h
  obtain ⟨features, s₅, hfeatures, h⟩ := run_bind_eq_ok_iff.1 h
  obtain ⟨getBy, s₆, hgetBy, h⟩ := run_bind_eq_ok_iff.1 h
  obtain ⟨getAllBy, s₇, hgetAllBy, h⟩ := run_bind_eq_ok_iff.1 h
  obtain ⟨events, s₈, hevents, h⟩ := run_bind_eq_ok_iff.1 h
  obtain ⟨traits, s₉, htraits, h⟩ := run_bind_eq_ok_iff.1 h
  cases h
  obtain ⟨said₁, r₁, f₁, -⟩ := hears_askFrom _ _ _ hentity
  obtain ⟨said₂, r₂, f₂, -⟩ := hears_askFrom _ _ _ hspace
  obtain ⟨said₃, r₃, f₃, hdone, hcollected⟩ := hears_askProperties _ hproperties
  obtain ⟨said₄, r₄, f₄, -⟩ := hears_bind (hears_askForFields _) (fun fields => hears_result _) hfeatures
  obtain ⟨said₅, r₅, f₅, hsingle⟩ := hears_askUntil _ _ hgetBy
  obtain ⟨said₆, r₆, f₆, hmulti⟩ := hears_askUntil _ _ hgetAllBy
  obtain ⟨said₇, r₇, f₇, hnames⟩ := hears_askUntil _ _ hevents
  obtain ⟨said₈, r₈, f₈, hasked, hchosen⟩ := hears_askTraits _ htraits
  refine ⟨⟨said₁, said₂, said₃, said₄, said₅, said₆, said₇, said₈⟩,
    ⟨ClassName.bare (trim (ClassName.bare space)), trim (capitalize entity), properties, features, getBy,
      getAllBy, events, confirmed config.offeredTraits said₈⟩, ?_, ?_, ?_⟩
  · simp only [Interview.replies, r₁, r₂, r₃, r₄, r₅, r₆, r₇, r₈, List.append_assoc]
  · rw [← f₁, ← f₂]
    refine ⟨hdone, hcollected, hsingle, hmulti, hnames, ?_, rfl⟩
    rw [hasked, List.length_map]
  · refine ⟨rfl, rfl, rfl, rfl, rfl, rfl, rfl, ?_⟩
    rw [hchosen, confirmed_map]

/-- A session fails before it has got all its answers, or not at all.  With all its answers it makes a record of
what they give: the properties of the wizard, the fields and events of the last replies about them, and the
traits that are confirmed, in the order in which they are offered. -/
theorem answered_sessions_make_records (config : Config) (before : Session) :
    (∀ f after, (askRecord config).run.run before = (.error f, after) ↔
        (askDraft config).run.run before = (.error f, after)) ∧
      ∀ draft after, (askDraft config).run.run before = (.ok draft, after) →
        ∃ (i : Interview) (r : Record),
          (askRecord config).run.run before = (.ok r, after) ∧
            before.replies = i.replies ++ after.replies ∧ States draft r ∧
              i.Gives config (.ofConfig config [ClassName.qualify draft.space draft.entityName] before.files) r := by
  have hrecord {draft : Draft} {after : Session} (h : (askDraft config).run.run before = (.ok draft, after)) :
      ∃ (i : Interview) (r : Record),
        (askRecord config).run.run before = (.ok r, after) ∧
          before.replies = i.replies ++ after.replies ∧ States draft r ∧
            i.Gives config (.ofConfig config [ClassName.qualify draft.space draft.entityName] before.files) r := by
    obtain ⟨i, r, hreplies, hgives, hstates⟩ := exists_interview h
    refine ⟨i, r, run_bind_eq_ok_iff.2 ⟨draft, after, h, ?_⟩, hreplies, hstates, hgives⟩
    rw [hgives.assemble hstates]
    rfl
  refine ⟨?_, fun draft after => hrecord⟩
  intro f after
  constructor
  · intro herror
    rcases hdraft : (askDraft config).run.run before with ⟨_ | draft, between⟩
    · rw [askRecord, run_bind_of_error hdraft] at herror
      cases herror
      rfl
    · obtain ⟨i, r, hok, -⟩ := hrecord hdraft
      cases hok.symm.trans herror
  · intro hdraft
    exact run_bind_of_error hdraft _

/-- A session in which some answers are turned down, and others have to be put in order. -/
def accountSession : Session where
  replies :=
    [.text " ", .text "account", .default,
      .text "email", .default, .text "", .text "EMAIL", .text "owner", .text "App\\User --unique", .text "m:1",
      .truth true, .text "persist", .truth false, .text "",
      .truth true, .default, .truth false, .default,
      .text "e mail, phone", .text "e mail, owner", .default, .text "created, !", .text "created, Created",
      .default, .text "more"]
  log := []
  files := .empty ["home"]

theorem account_session_makes_a_record :
    ∃ (draft : Draft) (after : Session) (i : Interview) (r : Record),
      (askDraft { knownClasses := ["App\\User"] }).run.run accountSession = (.ok draft, after) ∧
        (askRecord { knownClasses := ["App\\User"] }).run.run accountSession = (.ok r, after) ∧
          accountSession.replies = i.replies ++ after.replies ∧ States draft r ∧
            i.Gives { knownClasses := ["App\\User"] } (.ofConfig { knownClasses := ["App\\User"] }
              [ClassName.qualify draft.space draft.entityName] accountSession.files) r := by
  obtain ⟨-, hrecords⟩ := answered_sessions_make_records { knownClasses := ["App\\User"] } accountSession
  rcases hdraft : (askDraft { knownClasses := ["App\\User"] }).run.run accountSession with ⟨f | draft, after⟩
  · have hok : ((askDraft { knownClasses := ["App\\User"] }).run.run accountSession).1.isOk = true := by
      decide +kernel
    rw [hdraft] at hok
    cases hok
  · obtain ⟨i, r, hok, hreplies, hstates, hgives⟩ := hrecords draft after hdraft
    exact ⟨draft, after, i, r, rfl, hok, hreplies, hstates, hgives⟩

end EntityScaffold.Session
