import EntityScaffold.Proofs.Wizard.Handlers
/-!
# The transitions of a wizard

The stages that a wizard goes through while it asks for one property, each with what was said so far, and
what an answer does at each of them.  The equations hold for the stages as they are written here and for no
others; that a wizard is never at another stage is the invariant of `Wizard.Coherent`.
-/

namespace EntityScaffold

/-! ## Stages -/

namespace Stage

variable (name expression : String) (outcome : TypeOutcome)

/-- A name was given. -/
def awaitingType : Stage := { state := .type, name := some name }

/-- A name was given, and the type of a scalar. -/
def awaitingDefault : Stage :=
  { state := .default, name := some name, expression := some expression, outcome := some outcome }

/-- A name was given, and an entity as the type. -/
def awaitingKind : Stage :=
  { state := .kind, name := some name, expression := some expression, outcome := some outcome }

/-- A name was given, and the type. -/
def afterType : Stage :=
  match outcome.sense with
  | .scalar _ => awaitingDefault name expression outcome
  | .entity .. => awaitingKind name expression outcome

/-- Some options of a relation were given, and others not yet. -/
def awaitingOption (kind : RelationKind) (given : List (RelationOption × String))
    (pending : List RelationOption) : Stage :=
  { state := .options, name := some name, expression := some expression, outcome := some outcome
    kind := some kind, options := given, pending }

/-- Nothing is asked any more. -/
def finished : Stage := { state := .done }

end Stage

namespace RelationOption

/-- No option is asked for twice. -/
lemma nodup_ofKind (kind : RelationKind) : (ofKind kind).Nodup := by
  cases kind <;> decide

lemma ofKind_ne_nil (kind : RelationKind) : ofKind kind ≠ [] := by
  cases kind <;> decide

end RelationOption

namespace Wizard

variable {reader : TypeReader} {properties : List Property} {name expression : String}
  {outcome : TypeOutcome} {kind : RelationKind} {given : List (RelationOption × String)}

/-! ## Answers at each stage -/

lemma isTaken_eq_false_iff {stage : Stage} {name : String} :
    isTaken ⟨reader, properties, stage⟩ name = false ↔
      ∀ p ∈ properties, Text.lower p.name ≠ Text.lower name := by
  simp [isTaken]

variable (reader properties) in
lemma respond_at_name (answer : Option String) :
    respond ⟨reader, properties, {}⟩ answer =
      if said .name answer = "" then (.ok (), ⟨reader, properties, .finished⟩)
      else
        match Property.checkName (said .name answer) with
        | .error f => (.error f, ⟨reader, properties, {}⟩)
        | .ok () =>
          if isTaken ⟨reader, properties, {}⟩ (said .name answer) then
            (.error (.rejected (.duplicateProperty (said .name answer))), ⟨reader, properties, {}⟩)
          else (.ok (), ⟨reader, properties, .awaitingType (said .name answer)⟩) := by
  rw [respond_open rfl]
  generalize said .name answer = value
  exact perform_takeName _ value

variable (reader properties name) in
lemma respond_at_type (answer : Option String) :
    respond ⟨reader, properties, .awaitingType name⟩ answer =
      match reader.read (said .type answer) with
      | .error f => (.error f, ⟨reader, properties, .awaitingType name⟩)
      | .ok outcome =>
        (.ok (), ⟨reader, properties, .afterType name (said .type answer) outcome⟩) := by
  rw [respond_open rfl]
  refine (perform_takeType _ _).trans ?_
  cases reader.read (said .type answer) with
  | error f => rfl
  | ok outcome =>
    cases h : outcome.sense <;>
      simp [Stage.afterType, Stage.awaitingType, Stage.awaitingDefault, Stage.awaitingKind, h]

variable (reader properties name expression outcome) in
lemma respond_at_kind (answer : Option String) :
    respond ⟨reader, properties, .awaitingKind name expression outcome⟩ answer =
      match RelationKind.read (some (said .kind answer)) with
      | .error f => (.error f, ⟨reader, properties, .awaitingKind name expression outcome⟩)
      | .ok kind =>
        (.ok (), ⟨reader, properties,
          .awaitingOption name expression outcome kind [] (RelationOption.ofKind kind)⟩) := by
  rw [respond_open rfl]
  refine (perform_takeKind _ _).trans ?_
  cases RelationKind.read (some (said .kind answer)) <;> rfl

variable (reader properties expression) in
lemma respond_at_default {primitive : Primitive} (hname : Property.checkName name = .ok ())
    (hsense : outcome.sense = .scalar primitive) (answer : Option String) :
    respond ⟨reader, properties, .awaitingDefault name expression outcome⟩ answer =
      (.ok (), ⟨reader, properties ++ [.scalar name expression outcome primitive
        (if said .default answer = "" then none else some (said .default answer))], {}⟩) := by
  have hdefault (s : String) : (if s = "" then none else some s).filter (· != "") =
      if s = "" then none else some s := by
    split <;> simp_all
  have hbuild := Property.build_scalar expression hname hsense
    (if said .default answer = "" then none else some (said .default answer))
  rw [hdefault] at hbuild
  rw [respond_open rfl]
  exact perform_finish rfl rfl rfl hbuild

/-- An option that is still to be asked for is not answered yet. -/
lemma notMem_given {option : RelationOption} {rest : List RelationOption}
    (hkeys : given.map (·.1) ++ option :: rest = RelationOption.ofKind kind) :
    option ∉ given.map (·.1) := by
  have hnodup := RelationOption.nodup_ofKind kind
  rw [← hkeys, List.nodup_append] at hnodup
  intro hmem
  exact hnodup.2.2 option hmem option List.mem_cons_self rfl

/-- An option that is answered leaves the list of those to be asked for. -/
theorem respond_at_option {option next : RelationOption} {rest : List RelationOption}
    (hkeys : given.map (·.1) ++ option :: next :: rest = RelationOption.ofKind kind)
    (answer : Option String) :
    respond ⟨reader, properties,
        .awaitingOption name expression outcome kind given (option :: next :: rest)⟩ answer =
      (.ok (), ⟨reader, properties,
        .awaitingOption name expression outcome kind
          (given ++ [(option, said (.option option) answer)]) (next :: rest)⟩) := by
  have hnew : option ∉ given.map (·.1) := notMem_given hkeys
  rw [respond_open rfl]
  refine (perform_takeOption rfl).trans ?_
  simp [Stage.awaitingOption, Keyed.put_of_notMem hnew]

/-- After the last option the property is complete. -/
theorem respond_at_last_option {entity target : String} {option : RelationOption}
    (hname : Property.checkName name = .ok ()) (hsense : outcome.sense = .entity entity target)
    (hkeys : given.map (·.1) ++ [option] = RelationOption.ofKind kind) (answer : Option String) :
    respond ⟨reader, properties,
        .awaitingOption name expression outcome kind given [option]⟩ answer =
      (.ok (), ⟨reader, properties ++ [.related name expression outcome
        (relationOf target kind (given ++ [(option, said (.option option) answer)]))], {}⟩) := by
  have hnew : option ∉ given.map (·.1) := notMem_given hkeys
  set options := given ++ [(option, said (.option option) answer)] with hoptions
  have hfound {o : RelationOption} (ho : o ∈ RelationOption.ofKind kind) :
      ∃ text, options.lookup o = some text := by
    rw [← Option.isSome_iff_exists, List.lookup_isSome_iff]
    rw [← hkeys] at ho
    obtain ⟨entry, hentry, rfl⟩ : ∃ entry ∈ options, entry.1 = o := by
      rw [← List.mem_map, hoptions, List.map_append]
      exact ho
    exact ⟨entry, hentry, beq_self_eq_true _⟩
  obtain ⟨bidirectional, hbidirectional⟩ :=
    hfound (o := .bidirectional) (by simp [RelationOption.ofKind])
  obtain ⟨cascade, hcascade⟩ := hfound (o := .cascade) (by simp [RelationOption.ofKind])
  rw [respond_open rfl]
  refine (perform_takeOption rfl).trans ?_
  simp only [Stage.awaitingOption, Keyed.put_of_notMem hnew, List.isEmpty_nil, if_true,
    ← hoptions]
  rw [perform_finishRelation rfl hsense rfl hbidirectional hcascade]
  exact perform_finish rfl rfl rfl (Property.build_related hname hsense _)

end Wizard

end EntityScaffold
