import EntityScaffold.Proofs.TypeExpression.Reading
import EntityScaffold.Proofs.Wizard.Transitions
/-!
# The invariant of the wizard

A wizard holds what its state needs and nothing else (`Wizard.Coherent`).  The invariant has one case for each
state, and `respond_cases` has one proof for each of these: an answer leads to a coherent wizard, or it fails in
one of the ways of `Wizard.Fails` and changes nothing.  Everything that is known about the wizards that answers
lead to is read off from these cases.

The failures that answers are said to have are those of `Failure.IsAnnounced`.  Only the reader of types has
others: where it cannot read the text of a type at all, it does not turn the text down either.
-/

namespace EntityScaffold

open Text

/-! ## Coherent wizards -/

/-- A name that one more property can get. -/
def Property.IsFree (properties : List Property) (name : String) : Prop :=
  checkName name = .ok () ∧ ∀ p ∈ properties, lower p.name ≠ lower name

/-- A stage that holds what its state needs, where some properties are there already.  The options of a
relation that are answered and those that are not make up the options of its kind. -/
inductive Stage.Fits (reader : TypeReader) (properties : List Property) : Stage → Prop
  | name : Fits reader properties {}
  | type {name : String} (hname : Property.IsFree properties name) :
      Fits reader properties (.awaitingType name)
  | default {name expression : String} {outcome : TypeOutcome} {primitive : Primitive}
      (hname : Property.IsFree properties name) (hread : reader.read expression = .ok outcome)
      (hsense : outcome.sense = .scalar primitive) :
      Fits reader properties (.awaitingDefault name expression outcome)
  | kind {name expression entity target : String} {outcome : TypeOutcome}
      (hname : Property.IsFree properties name) (hread : reader.read expression = .ok outcome)
      (hsense : outcome.sense = .entity entity target) :
      Fits reader properties (.awaitingKind name expression outcome)
  | option {name expression entity target : String} {outcome : TypeOutcome} {kind : RelationKind}
      {given : List (RelationOption × String)} {pending : List RelationOption}
      (hname : Property.IsFree properties name) (hread : reader.read expression = .ok outcome)
      (hsense : outcome.sense = .entity entity target)
      (hkeys : given.map (·.1) ++ pending = RelationOption.ofKind kind) (hpending : pending ≠ []) :
      Fits reader properties (.awaitingOption name expression outcome kind given pending)
  | done : Fits reader properties .finished

/-- The failures that answers are said to have. -/
inductive Failure.IsAnnounced : Failure → Prop
  | propertyName (name : String) (fault : NameFault) :
      IsAnnounced (.rejected (.propertyName name fault))
  | duplicateProperty (name : String) : IsAnnounced (.rejected (.duplicateProperty name))
  | typeExpression (token : Option String) (fault : TypeFault) :
      IsAnnounced (.rejected (.typeExpression token fault))
  | relationKind (token : Option String) : IsAnnounced (.rejected (.relationKind token))
  | finished : IsAnnounced .finished

namespace Wizard

/-- A wizard that holds what its state needs. -/
def Coherent (w : Wizard) : Prop := w.stage.Fits w.reader w.properties

/-- The wizard that answers lead to, whether they are turned down or not. -/
def heard (w : Wizard) (answers : List (Option String)) : Wizard :=
  answers.foldl (fun w answer => (w.respond answer).2) w

/-- The ways in which an answer to a coherent wizard can fail. -/
inductive Fails (w : Wizard) (answer : Option String) : Failure → Prop
  | name {fault : NameFault} (hstate : w.stage.state = .name) :
      Fails w answer (.rejected (.propertyName (said .name answer) fault))
  | duplicate (hstate : w.stage.state = .name) :
      Fails w answer (.rejected (.duplicateProperty (said .name answer)))
  | type {fault : TypeFault} (hstate : w.stage.state = .type)
      (hread : ¬ w.reader.CannotRead (said .type answer)) :
      Fails w answer (.rejected (.typeExpression (some (said .type answer)) fault))
  | unreadable {f : Failure} (hstate : w.stage.state = .type)
      (hread : w.reader.CannotRead (said .type answer))
      (hfail : w.reader.read (said .type answer) = .error f) : Fails w answer f
  | kind (hstate : w.stage.state = .kind) :
      Fails w answer (.rejected (.relationKind (some (said .kind answer))))
  | finished (hstate : w.stage.state = .done) : Fails w answer .finished

/-- An answer is taken, or fails and leaves the wizard as it was. -/
inductive Responds (w : Wizard) (answer : Option String) : Prop
  | taken {next : Wizard} (h : w.respond answer = (.ok (), next)) (hreader : next.reader = w.reader)
      (hnext : next.Coherent)
  | failed {f : Failure} (h : w.respond answer = (.error f, w)) (hfail : w.Fails answer f)

variable {reader : TypeReader} {properties : List Property}

lemma responds_at_name (answer : Option String) :
    Responds ⟨reader, properties, {}⟩ answer := by
  have hrespond := respond_at_name reader properties answer
  split at hrespond
  · exact .taken hrespond rfl .done
  · split at hrespond
    · next f hcheck =>
      obtain ⟨fault, rfl⟩ := Property.checkName_error hcheck
      exact .failed hrespond (.name rfl)
    · next hcheck =>
      split at hrespond
      · exact .failed hrespond (.duplicate rfl)
      · next htaken =>
        rw [Bool.not_eq_true, isTaken_eq_false_iff] at htaken
        exact .taken hrespond rfl (.type ⟨hcheck, htaken⟩)

lemma responds_at_type {name : String} (hname : Property.IsFree properties name)
    (answer : Option String) : Responds ⟨reader, properties, .awaitingType name⟩ answer := by
  have hrespond := respond_at_type reader properties name answer
  split at hrespond
  · next f hread =>
    by_cases hcannot : reader.CannotRead (said .type answer)
    · exact .failed hrespond (.unreadable rfl hcannot hread)
    · obtain ⟨fault, rfl⟩ := TypeReader.read_error hread hcannot
      exact .failed hrespond (.type rfl hcannot)
  · next outcome hread =>
    refine .taken hrespond rfl ?_
    show Stage.Fits reader properties (Stage.afterType _ _ _)
    unfold Stage.afterType
    split
    · next primitive hsense => exact .default hname hread hsense
    · next entity target hsense => exact .kind hname hread hsense

lemma responds_at_kind {name expression entity target : String} {outcome : TypeOutcome}
    (hname : Property.IsFree properties name) (hread : reader.read expression = .ok outcome)
    (hsense : outcome.sense = .entity entity target) (answer : Option String) :
    Responds ⟨reader, properties, .awaitingKind name expression outcome⟩ answer := by
  have hrespond := respond_at_kind reader properties name expression outcome answer
  split at hrespond
  · next f hkind =>
    unfold RelationKind.read at hkind
    split at hkind
    · cases hkind
    · cases hkind
      exact .failed hrespond (.kind rfl)
  · next kind _ =>
    exact .taken hrespond rfl (.option hname hread hsense rfl (RelationOption.ofKind_ne_nil kind))

lemma responds_at_option {name expression entity target : String} {outcome : TypeOutcome}
    {kind : RelationKind} {given : List (RelationOption × String)} {pending : List RelationOption}
    (hname : Property.IsFree properties name) (hread : reader.read expression = .ok outcome)
    (hsense : outcome.sense = .entity entity target)
    (hkeys : given.map (·.1) ++ pending = RelationOption.ofKind kind) (hpending : pending ≠ [])
    (answer : Option String) :
    Responds ⟨reader, properties, .awaitingOption name expression outcome kind given pending⟩
      answer := by
  rcases pending with _ | ⟨option, _ | ⟨next, rest⟩⟩
  · exact absurd rfl hpending
  · exact .taken (respond_at_last_option hname.1 hsense hkeys answer) rfl .name
  · refine .taken (respond_at_option hkeys answer) rfl ?_
    refine .option hname hread hsense ?_ (List.cons_ne_nil next rest)
    rw [List.map_append, List.append_assoc]
    exact hkeys

/-- What an answer to a coherent wizard does, whatever the stage. -/
theorem respond_cases {w : Wizard} (h : w.Coherent) (answer : Option String) : w.Responds answer := by
  obtain ⟨reader, properties, stage⟩ := w
  cases h with
  | name => exact responds_at_name answer
  | type hname => exact responds_at_type hname answer
  | default hname hread hsense =>
    exact .taken (respond_at_default _ _ _ hname.1 hsense answer) rfl .name
  | kind hname hread hsense => exact responds_at_kind hname hread hsense answer
  | option hname hread hsense hkeys hpending =>
    exact responds_at_option hname hread hsense hkeys hpending answer
  | done => exact .failed (respond_done rfl answer) (.finished rfl)

/-! ## Runs -/

/-- A wizard stays coherent, and the reader stays the same, whatever it hears. -/
theorem coherent_heard {w : Wizard} (h : w.Coherent) (answers : List (Option String)) :
    (w.heard answers).Coherent ∧ (w.heard answers).reader = w.reader := by
  induction answers generalizing w with
  | nil => exact ⟨h, rfl⟩
  | cons answer rest ih =>
    show ((w.respond answer).2.heard rest).Coherent ∧ ((w.respond answer).2.heard rest).reader = _
    rcases respond_cases h answer with ⟨hrespond, hreader, hnext⟩ | ⟨hrespond, -⟩
    · rw [hrespond, ← hreader]
      exact ih hnext
    · rw [hrespond]
      exact ih h

/-- A wizard that has not heard anything is coherent. -/
theorem coherent_fresh (reader : TypeReader) : ({ reader } : Wizard).Coherent := Stage.Fits.name

/-- A coherent wizard that is not done asks something. -/
lemma exists_inquiry {w : Wizard} (h : w.Coherent) :
    w.stage.state = .done ∨ ∃ inquiry, w.stage.inquiry? = some inquiry := by
  obtain ⟨reader, properties, stage⟩ := w
  cases h with
  | name => exact Or.inr ⟨.name, rfl⟩
  | type => exact Or.inr ⟨.type, rfl⟩
  | default => exact Or.inr ⟨.default, rfl⟩
  | kind => exact Or.inr ⟨.kind, rfl⟩
  | @option _ _ _ _ _ _ _ pending _ _ _ _ hpending =>
    obtain ⟨option, rest, rfl⟩ := List.exists_cons_of_ne_nil hpending
    exact Or.inr ⟨.option option, rfl⟩
  | done => exact Or.inl rfl

/-- The failures of a coherent wizard are the announced ones, where its reader can read what it is told. -/
lemma Fails.isAnnounced_or {w : Wizard} {answer : Option String} {f : Failure}
    (h : w.Fails answer f) :
    f.IsAnnounced ∨ w.stage.state = .type ∧ w.reader.CannotRead (said .type answer) ∧
      w.reader.read (said .type answer) = .error f := by
  cases h with
  | name => exact Or.inl (.propertyName _ _)
  | duplicate => exact Or.inl (.duplicateProperty _)
  | type => exact Or.inl (.typeExpression _ _)
  | unreadable hstate hread hfail => exact Or.inr ⟨hstate, hread, hfail⟩
  | kind => exact Or.inl (.relationKind _)
  | finished => exact Or.inl .finished

/-- What a reader cannot read is not turned down. -/
lemma not_isAnnounced_of_cannotRead {token : String} {f : Failure} (h : reader.CannotRead token)
    (hfail : reader.read token = .error f) : ¬ f.IsAnnounced := by
  rcases TypeReader.read_of_cannotRead h with ⟨size, hsize⟩ | ⟨fault, -, hpath⟩
  · cases hsize.symm.trans hfail
    rintro ⟨⟩
  · cases hpath.symm.trans hfail
    rintro ⟨⟩

/-- The exact failures that are not announced: those of the reader, on a type that it cannot read. -/
lemma respond_not_announced_iff {w : Wizard} (h : w.Coherent) (answer : Option String)
    (f : Failure) :
    ((w.respond answer).1 = .error f ∧ ¬ f.IsAnnounced) ↔
      w.stage.state = .type ∧ w.reader.CannotRead (said .type answer) ∧
        w.reader.read (said .type answer) = .error f := by
  constructor
  · rintro ⟨hfail, hannounced⟩
    rcases respond_cases h answer with ⟨hrespond, -, -⟩ | ⟨hrespond, hfails⟩
    · rw [hrespond] at hfail
      cases hfail
    · rw [hrespond] at hfail
      cases hfail
      exact hfails.isAnnounced_or.resolve_left hannounced
  · rintro ⟨hstate, hread, hfail⟩
    refine ⟨?_, not_isAnnounced_of_cannotRead hread hfail⟩
    obtain ⟨reader, properties, stage⟩ := w
    cases h with
    | @type name hname =>
      have hrespond := respond_at_type reader properties name answer
      rw [show reader.read (said .type answer) = .error f from hfail] at hrespond
      exact congrArg Prod.fst hrespond
    | _ => cases hstate

/-- An answer is too late exactly when nothing is asked any more. -/
lemma respond_eq_finished_iff {w : Wizard} (h : w.Coherent) (answer : Option String) :
    (w.respond answer).1 = .error .finished ↔ w.stage.state = .done := by
  constructor
  · intro hfail
    rcases respond_cases h answer with ⟨hrespond, -, -⟩ | ⟨hrespond, hfails⟩
    · rw [hrespond] at hfail
      cases hfail
    · rw [hrespond] at hfail
      cases hfail
      cases hfails with
      | unreadable _ hread hfail => exact absurd .finished (not_isAnnounced_of_cannotRead hread hfail)
      | finished hstate => exact hstate
  · intro hstate
    rw [respond_done hstate]

/-- The wizard that answers lead to holds what its state needs and asks something unless it is done.  It
takes every answer or fails as announced, unless it waits for a type and its reader cannot read the answer;
then the failure is that of the reader. -/
theorem heard_holds_what_it_needs (reader : TypeReader) (answers : List (Option String))
    (answer : Option String) :
    let w := ({ reader } : Wizard).heard answers
    w.Coherent ∧
      (w.stage.state = .done ∨ ∃ inquiry, w.stage.inquiry? = some inquiry) ∧
      ((w.respond answer).1 = .error .finished ↔ w.stage.state = .done) ∧
      ∀ f, ((w.respond answer).1 = .error f ∧ ¬ f.IsAnnounced) ↔
        w.stage.state = .type ∧ reader.CannotRead (said .type answer) ∧
          reader.read (said .type answer) = .error f := by
  intro w
  obtain ⟨hw, hreader⟩ : w.Coherent ∧ w.reader = reader :=
    coherent_heard (coherent_fresh reader) answers
  refine ⟨hw, exists_inquiry hw, respond_eq_finished_iff hw answer, fun f => ?_⟩
  rw [respond_not_announced_iff hw answer f, hreader]

/-! ## A type that is neither read nor turned down -/

/-- The type of a text whose greatest length is written with so many ones. -/
def onesLong (n : Nat) : String := "string|" ++ String.ofList (List.replicate n '1')

lemma toList_onesLong (n : Nat) :
    (onesLong n).toList = "string|".toList ++ List.replicate n '1' := by
  simp [onesLong]

lemma noBlank_onesLong (n : Nat) : ∀ c ∈ (onesLong n).toList, isBlank c = false := by
  have hword : "string|".toList.all (!isBlank ·) = true := by decide
  intro c hc
  rw [toList_onesLong, List.mem_append, List.mem_replicate] at hc
  rcases hc with hc | ⟨-, rfl⟩
  · simpa using List.all_eq_true.1 hword c hc
  · decide

lemma said_onesLong (n : Nat) : said .type (some (onesLong n)) = onesLong n := by
  have hne : onesLong n ≠ "" := by
    intro hempty
    simpa [toList_onesLong] using congrArg String.toList hempty
  rw [said, Option.getD_some, trim_of_noBlank (noBlank_onesLong n), if_neg hne]

lemma hasLongNumber_onesLong {n : Nat} (hn : Decimal.mostDigits < n) :
    TypeExpression.HasLongNumber (wordsOf (onesLong n).toList) := by
  have hnumber : TypeExpression.isNumber (List.replicate n '1') = true := by
    have hdigit : isDigit '1' = true := by decide
    have hpos : n ≠ 0 := by omega
    simp [TypeExpression.isNumber, hpos, hdigit]
  rw [wordsOf_of_noBlank (by simp [toList_onesLong]) (noBlank_onesLong n), toList_onesLong]
  refine ⟨_, [], "string".toList, List.replicate n '1', rfl, nofun, rfl, List.replicate n '1', ?_, ?_⟩
  · simp [TypeExpression.modifierNumbers, hnumber]
  · simpa using hn

/-- A length of one digit more than are read fails, and is not turned down. -/
theorem length_of_too_many_ones_is_not_turned_down :
    ∃ f, ((({ reader := ⟨⟨[], [], none, "", .empty []⟩, []⟩ } : Wizard).heard [some "a"]).respond
        (some (onesLong 4301))).1 = .error f ∧ ¬ f.IsAnnounced := by
  set reader : TypeReader := ⟨⟨[], [], none, "", .empty []⟩, []⟩
  obtain ⟨hcoherent, -⟩ := coherent_heard (coherent_fresh reader) [some "a"]
  set w := ({ reader } : Wizard).heard [some "a"]
  have hread : w.reader.CannotRead (said .type (some (onesLong 4301))) := by
    rw [said_onesLong]
    exact Or.inl (hasLongNumber_onesLong (by decide))
  obtain ⟨f, hfail⟩ : ∃ f, w.reader.read (said .type (some (onesLong 4301))) = .error f := by
    rcases TypeReader.read_of_cannotRead hread with ⟨size, h⟩ | ⟨fault, -, h⟩
    · exact ⟨_, h⟩
    · exact ⟨_, h⟩
  exact ⟨f, (respond_not_announced_iff hcoherent _ f).2 ⟨rfl, hread, hfail⟩⟩

end Wizard

end EntityScaffold
