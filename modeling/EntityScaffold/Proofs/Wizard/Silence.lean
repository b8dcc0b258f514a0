import EntityScaffold.Proofs.TypeExpression.Names
import EntityScaffold.Proofs.Wizard.Coherence
/-!
# A wizard comes to an end when nothing is said

Whatever was said to a wizard, empty answers lead it to its end.  The number of them is known at every stage
(`Stage.remaining`), and so is the property that they complete, if there is one at hand (`Stage.completed`): the type
of a property is a string then, a relation is many-to-one and has none of its options, and there is no default.

One empty answer takes one off the number and leaves the properties together with the one to be completed as they are
(`respond_silently`).  That it cannot be turned down is because the defaults of the questions are answers themselves:
a string is a type for every reader, since a keyword is looked at before any class.
-/

namespace EntityScaffold

open Text

/-! ## What is left to be asked -/

/-- The number of empty answers that lead to the end. -/
def Stage.remaining (s : Stage) : Nat :=
  match s.state with
  | .name => 1
  | .type => 3
  | .default => 2
  | .kind => (RelationOption.ofKind .manyToOne).length + 2
  | .options => s.pending.length + 1
  | .done => 0

/-- What the text `string` is read as. -/
def TypeOutcome.ofString : TypeOutcome := ⟨.scalar ⟨"string", "string"⟩, false, {}⟩

/-- The property at hand, completed by the answers that are meant where nothing is said. -/
def Stage.completed (s : Stage) : Option Property :=
  match s.name, s.expression, s.outcome with
  | some name, some expression, some outcome =>
    match outcome.sense with
    | .scalar primitive => some (.scalar name expression outcome primitive none)
    | .entity _ target =>
      some (.related name expression outcome (Wizard.relationOf target (s.kind.getD .manyToOne) s.options))
  | some name, _, _ => some (.scalar name "string" .ofString ⟨"string", "string"⟩ none)
  | none, _, _ => none

/-- A string is a type for every reader. -/
lemma TypeReader.read_string (reader : TypeReader) : reader.read "string" = .ok .ofString := by
  have hname : ClassName.IsName "string" := by decide
  have hprimitive : primitive? "string" = some ⟨"string", "string"⟩ := by decide
  have hread := read_named hname reader false
  rw [sense, hprimitive] at hread
  exact hread

namespace Wizard

variable {reader : TypeReader} {w : Wizard} {answer : Option String}

/-! ## Empty answers -/

/-- An answer that says nothing. -/
def IsSilent (answer : Option String) : Prop := trim (answer.getD "") = ""

instance : DecidablePred IsSilent := fun _ => inferInstanceAs (Decidable (_ = _))

lemma said_of_isSilent (h : IsSilent answer) (inquiry : Inquiry) : said inquiry answer = inquiry.defaultAnswer := by
  rw [said]
  exact if_pos h

/-- An answer that is written down last changes nothing but what was not answered yet. -/
lemma lookup_concat {given : List (RelationOption × String)} {option : RelationOption}
    (hnew : option ∉ given.map (·.1)) (answer : String) (o : RelationOption) :
    (given ++ [(option, answer)]).lookup o = given.lookup o ∨
      given.lookup o = none ∧ (given ++ [(option, answer)]).lookup o = some answer := by
  rw [List.lookup_append]
  by_cases heq : o = option
  · subst heq
    have hnone : given.lookup o = none := by
      rw [List.lookup_eq_none_iff]
      intro entry hentry
      have hne : o ≠ entry.1 := fun heq => hnew (heq ▸ List.mem_map_of_mem hentry)
      simpa using hne
    right
    simp [hnone]
  · left
    simp [List.lookup_cons, beq_false_of_ne heq]

/-- An option that is answered with no is the same as one that was not asked for. -/
lemma relationOf_concat_no (target : String) (kind : RelationKind) {given : List (RelationOption × String)}
    {option : RelationOption} (hnew : option ∉ given.map (·.1)) :
    relationOf target kind (given ++ [(option, "no")]) = relationOf target kind given := by
  have hyes (o : RelationOption) : ((given ++ [(option, "no")]).lookup o).getD "no" = (given.lookup o).getD "no" := by
    rcases lookup_concat hnew "no" o with hsame | ⟨hnone, hno⟩
    · rw [hsame]
    · rw [hnone, hno]
      rfl
  have hcascade : Cascade.read ((given ++ [(option, "no")]).lookup .cascade) =
      Cascade.read (given.lookup .cascade) := by
    rcases lookup_concat hnew "no" .cascade with hsame | ⟨hnone, hno⟩
    · rw [hsame]
    · rw [hnone, hno]
      decide
  rw [relationOf, hyes, hyes, hcascade]
  rfl

/-- What an empty answer leads to: a wizard that is one answer nearer to its end, and has or will have the same
properties. -/
structure LeadsOn (w next : Wizard) : Prop where
  coherent : next.Coherent
  remaining : next.stage.remaining + 1 = w.stage.remaining
  kept : w.properties <+: next.properties
  completed : next.properties ++ next.stage.completed.toList = w.properties ++ w.stage.completed.toList

lemma isDone_iff : w.isDone = true ↔ w.stage.state = .done := beq_iff_eq

/-- An empty answer is taken as long as something is asked. -/
theorem respond_silently (h : w.Coherent) (hopen : w.stage.state ≠ .done) (hsilent : IsSilent answer) :
    ∃ next, w.respond answer = (.ok (), next) ∧ LeadsOn w next := by
  obtain ⟨reader, properties, stage⟩ := w
  cases h with
  | name =>
    have hrespond := respond_at_name reader properties answer
    rw [said_of_isSilent hsilent, Inquiry.defaultAnswer, if_pos rfl] at hrespond
    exact ⟨_, hrespond, .done, rfl, List.prefix_rfl, rfl⟩
  | @type name hname =>
    have hrespond := respond_at_type reader properties name answer
    rw [said_of_isSilent hsilent, Inquiry.defaultAnswer, reader.read_string] at hrespond
    exact ⟨_, hrespond, .default hname reader.read_string rfl, rfl, List.prefix_rfl, rfl⟩
  | @default name expression outcome primitive hname hread hsense =>
    have hrespond := respond_at_default reader properties expression hname.1 hsense answer
    rw [said_of_isSilent hsilent, Inquiry.defaultAnswer, if_pos rfl] at hrespond
    refine ⟨_, hrespond, .name, rfl, List.prefix_append _ _, ?_⟩
    simp [Stage.completed, hsense]
  | @kind name expression entity target outcome hname hread hsense =>
    have hrespond := respond_at_kind reader properties name expression outcome answer
    have hkind : RelationKind.read (some RelationKind.defaultToken) = .ok .manyToOne := by decide
    rw [said_of_isSilent hsilent, Inquiry.defaultAnswer, hkind] at hrespond
    refine ⟨_, hrespond, .option hname hread hsense rfl (RelationOption.ofKind_ne_nil _), rfl, List.prefix_rfl, ?_⟩
    simp [Stage.completed, Stage.awaitingOption, hsense]
  | @option name expression entity target outcome kind given pending hname hread hsense hkeys hpending =>
    -- the last option completes the relation, and any other one only leaves the list of those to be asked for
    rcases pending with _ | ⟨option, _ | ⟨next, rest⟩⟩
    · exact absurd rfl hpending
    · have hrespond : respond ⟨reader, properties,
          .awaitingOption name expression outcome kind given [option]⟩ answer = _ :=
        respond_at_last_option hname.1 hsense hkeys answer
      rw [said_of_isSilent hsilent, Inquiry.defaultAnswer, relationOf_concat_no _ _ (notMem_given hkeys)] at hrespond
      refine ⟨_, hrespond, .name, rfl, List.prefix_append _ _, ?_⟩
      simp [Stage.completed, hsense]
    · have hrespond : respond ⟨reader, properties,
          .awaitingOption name expression outcome kind given (option :: next :: rest)⟩ answer = _ :=
        respond_at_option hkeys answer
      rw [said_of_isSilent hsilent, Inquiry.defaultAnswer] at hrespond
      refine ⟨_, hrespond, .option hname hread hsense ?_ (List.cons_ne_nil next rest), rfl, List.prefix_rfl, ?_⟩
      · rw [List.map_append, List.append_assoc]
        exact hkeys
      · simp [Stage.completed, Stage.awaitingOption, hsense, relationOf_concat_no _ _ (notMem_given hkeys)]
  | done => exact absurd rfl hopen

/-! ## The way to the end -/

lemma remaining_eq_zero_iff (h : w.Coherent) : w.stage.remaining = 0 ↔ w.stage.state = .done := by
  obtain ⟨reader, properties, stage⟩ := w
  cases h <;> simp [Stage.remaining]

lemma remaining_le (h : w.Coherent) : w.stage.remaining ≤ 5 := by
  obtain ⟨reader, properties, stage⟩ := w
  cases h with
  | @option name expression entity target outcome kind given pending hname hread hsense hkeys hpending =>
    have hlength := congrArg List.length hkeys
    have hmost : (RelationOption.ofKind kind).length ≤ 3 := by cases kind <;> decide
    rw [List.length_append] at hlength
    show pending.length + 1 ≤ 5
    omega
  | _ => exact Nat.le_of_ble_eq_true rfl

lemma completed_of_done (h : w.Coherent) (hdone : w.stage.state = .done) : w.stage.completed = none := by
  obtain ⟨reader, properties, stage⟩ := w
  cases h with
  | done => rfl
  | _ => cases hdone

/-- Empty answers are all taken until the wizard is done, and the properties do not change but for the one that is
completed. -/
lemma run_silently (h : w.Coherent) (hopen : w.stage.state ≠ .done) {silence : List (Option String)}
    (hsilent : ∀ answer ∈ silence, IsSilent answer) :
    ∃ next, w.run silence = .ok next ∧ next.Coherent ∧
      next.stage.remaining = w.stage.remaining - silence.length ∧ w.properties <+: next.properties ∧
      next.properties ++ next.stage.completed.toList = w.properties ++ w.stage.completed.toList := by
  induction silence generalizing w with
  | nil => exact ⟨w, rfl, h, rfl, List.prefix_rfl, rfl⟩
  | cons answer rest ih =>
    obtain ⟨hanswer, hrest⟩ := List.forall_mem_cons.1 hsilent
    obtain ⟨next, hrespond, hnext⟩ := respond_silently h hopen hanswer
    have hremaining := hnext.remaining
    rw [run_cons_of_ok hrespond]
    by_cases hdone : next.stage.state = .done
    · have hzero := (remaining_eq_zero_iff hnext.coherent).2 hdone
      rw [if_pos (isDone_iff.2 hdone)]
      refine ⟨next, rfl, hnext.coherent, ?_, hnext.kept, hnext.completed⟩
      rw [List.length_cons]
      omega
    · rw [if_neg (isDone_iff.not.2 hdone)]
      obtain ⟨last, hrun, hlast, hless, hkept, hcompleted⟩ := ih hnext.coherent hdone hrest
      refine ⟨last, hrun, hlast, ?_, hnext.kept.trans hkept, hcompleted.trans hnext.completed⟩
      rw [List.length_cons]
      omega

/-- A wizard that is asking comes to its end with as many empty answers as remain, and these are at most five.
None of them is turned down, the properties so far are kept, and the only one that is added is the one at hand. -/
theorem silence_leads_to_the_end (reader : TypeReader) (answers : List (Option String)) :
    let w := ({ reader } : Wizard).heard answers
    w.stage.remaining ≤ 5 ∧ (w.stage.remaining = 0 ↔ w.stage.state = .done) ∧
      ∀ silence : List (Option String), w.stage.state ≠ .done → (∀ answer ∈ silence, IsSilent answer) →
        ∃ next, w.run silence = .ok next ∧ w.properties <+: next.properties ∧
          next.properties ++ next.stage.completed.toList = w.properties ++ w.stage.completed.toList ∧
          (next.stage.state = .done ↔ w.stage.remaining ≤ silence.length) ∧
          (next.stage.state = .done → next.properties = w.properties ++ w.stage.completed.toList) := by
  intro w
  have hw : w.Coherent := (coherent_heard (coherent_fresh reader) answers).1
  refine ⟨remaining_le hw, remaining_eq_zero_iff hw, fun silence hopen hsilent => ?_⟩
  obtain ⟨next, hrun, hnext, hremaining, hkept, hcompleted⟩ := run_silently hw hopen hsilent
  refine ⟨next, hrun, hkept, hcompleted, ?_, fun hdone => ?_⟩
  · rw [← remaining_eq_zero_iff hnext, hremaining]
    omega
  · rw [completed_of_done hnext hdone] at hcompleted
    simpa using hcompleted

/-- A wizard that has heard of a relation needs all five, and the relation is there in the end. -/
theorem silence_completes_a_relation :
    let reader : TypeReader := ⟨⟨[], ["App\\Author"], none, "", .empty []⟩, []⟩
    let w := ({ reader } : Wizard).heard [some "author", some "App\\Author"]
    let silence := [none, some "", some " ", some "\n", none]
    w.stage.state = .kind ∧ w.stage.remaining = 5 ∧
      ∃ next, w.run silence = .ok next ∧ next.stage.state = .done ∧
        next.properties.map (fun p => (p.name, p.relation?.map fun r => (r.target, r.kind))) =
          [("author", some ("App\\Author", .manyToOne))] := by
  intro reader w silence
  have hstage : w.stage =
      .awaitingKind "author" "App\\Author" ⟨.entity "Author" "App\\Author", false, {}⟩ := by decide
  have hproperties : w.properties = [] := by decide
  have hopen : w.stage.state ≠ .done := by
    rw [hstage]
    decide
  obtain ⟨-, -, hsilence⟩ := silence_leads_to_the_end reader [some "author", some "App\\Author"]
  obtain ⟨next, hrun, -, -, hdone, hend⟩ := hsilence silence hopen (by decide)
  have hlast : next.stage.state = .done := hdone.2 (by rw [hstage]; decide)
  refine ⟨by rw [hstage]; rfl, by rw [hstage]; rfl, next, hrun, hlast, ?_⟩
  rw [hend hlast, hproperties, hstage]
  rfl

end Wizard

end EntityScaffold
