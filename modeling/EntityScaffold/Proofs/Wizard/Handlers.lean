import EntityScaffold.Proofs.Property
import EntityScaffold.Wizard
/-!
# What the handlers of a wizard do

Each handler of an answer is a sequence of readings and writings of the wizard, and each has one equation here
that says what comes of it and which wizard it leaves.  The theorems about runs rest on these equations and on
no handler's definition.
-/

namespace EntityScaffold.Wizard

variable {α β : Type}

/-! ## Actions -/

@[simp] lemma perform_pure (w : Wizard) (a : α) : w.perform (pure a) = (.ok a, w) := rfl

@[simp] lemma perform_throw (w : Wizard) (f : Failure) :
    w.perform (throw f : Action α) = (.error f, w) := rfl

@[simp] lemma perform_get (w : Wizard) : w.perform get = (.ok w, w) := rfl

@[simp] lemma perform_modify (w : Wizard) (f : Wizard → Wizard) :
    w.perform (modify f) = (.ok (), f w) := rfl

@[simp] lemma perform_ofExcept (w : Wizard) (e : Except Failure α) :
    w.perform (ofExcept e) = (e, w) := by
  cases e <;> rfl

lemma perform_bind (w : Wizard) (action : Action α) (next : α → Action β) :
    w.perform (action >>= next) =
      match w.perform action with
      | (.ok a, after) => after.perform (next a)
      | (.error f, after) => (.error f, after) := by
  unfold perform
  rw [ExceptT.run_bind, StateT.run_bind]
  rcases action.run.run w with ⟨_ | a, after⟩ <;> rfl

/-! ## Handlers -/

lemma perform_takeName (w : Wizard) (value : String) :
    w.perform (takeName value) =
      if value = "" then (.ok (), { w with stage.state := .done })
      else
        match Property.checkName value with
        | .error f => (.error f, w)
        | .ok () =>
          if w.isTaken value then (.error (.rejected (.duplicateProperty value)), w)
          else (.ok (), { w with stage.name := some value, stage.state := .type }) := by
  unfold takeName
  split
  · rw [perform_modify]
  · cases Property.checkName value with
    | error f => simp [perform_bind]
    | ok u => by_cases h : w.isTaken value = true <;> simp [perform_bind, h, reject]

lemma perform_takeType (w : Wizard) (value : String) :
    w.perform (takeType value) =
      match w.reader.read value with
      | .error f => (.error f, w)
      | .ok outcome =>
        (.ok (), { w with
          stage.expression := some value
          stage.outcome := some outcome
          stage.state := match outcome.sense with | .scalar _ => .default | .entity .. => .kind }) := by
  unfold takeType
  cases h : w.reader.read value with
  | error f => simp [perform_bind, h]
  | ok outcome => cases hs : outcome.sense <;> simp [perform_bind, h, hs]

lemma perform_takeKind (w : Wizard) (value : String) :
    w.perform (takeKind value) =
      match RelationKind.read (some value) with
      | .error f => (.error f, w)
      | .ok kind =>
        (.ok (), { w with
          stage.kind := some kind
          stage.pending := RelationOption.ofKind kind
          stage.state := .options }) := by
  unfold takeKind
  cases RelationKind.read (some value) with
  | error f => simp [perform_bind]
  | ok kind => simp [perform_bind]

/-- A property that can be built is added, and everything that was said about it is forgotten. -/
lemma perform_finish {w : Wizard} {name expression : String} {outcome : TypeOutcome}
    {relation : Option Relation} {default : Option String} {property : Property}
    (hname : w.stage.name = some name) (hexpression : w.stage.expression = some expression)
    (houtcome : w.stage.outcome = some outcome)
    (hbuild : Property.build name expression outcome relation default = .ok property) :
    w.perform (finish relation default) =
      (.ok (), { w with properties := w.properties ++ [property], stage := {} }) := by
  simp [finish, perform_bind, hname, hexpression, houtcome, hbuild]

/-- The relation that the answers about its options describe. -/
def relationOf (target : String) (kind : RelationKind) (options : List (RelationOption × String)) :
    Relation :=
  Relation.build target kind (isYes ((options.lookup .bidirectional).getD "no"))
    (Cascade.read (options.lookup .cascade)) (isYes ((options.lookup .onDelete).getD "no"))

/-- Where both options of every relation are answered, the relation is built. -/
lemma perform_finishRelation {w : Wizard} {outcome : TypeOutcome} {entity target : String}
    {kind : RelationKind} {bidirectional cascade : String}
    (houtcome : w.stage.outcome = some outcome) (hsense : outcome.sense = .entity entity target)
    (hkind : w.stage.kind = some kind)
    (hbidirectional : w.stage.options.lookup .bidirectional = some bidirectional)
    (hcascade : w.stage.options.lookup .cascade = some cascade) :
    w.perform finishRelation =
      w.perform (finish (some (relationOf target kind w.stage.options)) none) := by
  simp [finishRelation, perform_bind, optionAnswer, relationOf, houtcome, hsense, hkind,
    hbidirectional, hcascade]

/-- An answer about an option is written down, and after the last one the relation is finished. -/
lemma perform_takeOption {w : Wizard} {value : String} {option : RelationOption}
    {rest : List RelationOption} (hpending : w.stage.pending = option :: rest) :
    w.perform (takeOption value) =
      let after := { w with
        stage.options := Keyed.put option value w.stage.options, stage.pending := rest }
      if rest.isEmpty then after.perform finishRelation else (.ok (), after) := by
  cases rest <;> simp [takeOption, perform_bind, hpending]

/-! ## Answers -/

/-- What an answer to a question says: the text without blanks around it, or what an empty one means. -/
def said (inquiry : Inquiry) (answer : Option String) : String :=
  if Text.trim (answer.getD "") = "" then inquiry.defaultAnswer else Text.trim (answer.getD "")

lemma valueOf_eq_said {w : Wizard} {inquiry : Inquiry} (h : w.stage.inquiry? = some inquiry)
    (answer : Option String) : w.valueOf answer = .ok (said inquiry answer) := by
  unfold valueOf said
  rw [h]
  split <;> simp_all

/-- A wizard that is done takes no answer. -/
theorem respond_done {w : Wizard} (h : w.stage.state = .done) (answer : Option String) :
    w.respond answer = (.error .finished, w) := by
  simp [respond, hear, perform_bind, isDone, h]

/-- An answer to an open question is taken by the handler of the state. -/
lemma respond_open {w : Wizard} {inquiry : Inquiry} (h : w.stage.inquiry? = some inquiry)
    (answer : Option String) :
    w.respond answer =
      match w.stage.state with
      | .name => w.perform (takeName (said inquiry answer))
      | .type => w.perform (takeType (said inquiry answer))
      | .kind => w.perform (takeKind (said inquiry answer))
      | .options => w.perform (takeOption (said inquiry answer))
      | .default => w.perform (takeDefault (said inquiry answer))
      | .done => (.ok (), w) := by
  have hvalue := valueOf_eq_said h answer
  have hdone : w.stage.state ≠ .done := by
    intro hstate
    simp [Stage.inquiry?, hstate] at h
  cases hstate : w.stage.state <;> simp_all [respond, hear, perform_bind, isDone]

/-! ## Runs -/

/-- A run goes on with the wizard that an answer leads to, unless that is done. -/
theorem run_cons_of_ok {w next : Wizard} {answer : Option String}
    (h : w.respond answer = (.ok (), next)) (rest : List (Option String)) :
    w.run (answer :: rest) = if next.isDone then .ok next else next.run rest := by
  have hanswer : w.answer answer = .ok next := by
    rw [Wizard.answer, h]
    rfl
  rw [run, hanswer]
  rfl

/-- A run fails with the first answer that does. -/
lemma run_cons_of_error {w after : Wizard} {answer : Option String} {f : Failure}
    (h : w.respond answer = (.error f, after)) (rest : List (Option String)) :
    w.run (answer :: rest) = .error f := by
  have hanswer : w.answer answer = .error f := by
    rw [Wizard.answer, h]
    rfl
  rw [run, hanswer]
  rfl

end EntityScaffold.Wizard
