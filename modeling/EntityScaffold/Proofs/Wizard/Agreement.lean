import EntityScaffold.Proofs.Description
import EntityScaffold.Proofs.Record.Validation
import EntityScaffold.Proofs.Wizard.Transitions
/-!
# The wizard and the definition agree

Told the same descriptions, the wizard and a definition end with the same properties, or both fail.  They look
at things in different orders: a definition builds every property and then compares all names, while the
wizard compares a name with the earlier ones before it asks for the type.  Both can be said of a list of
properties from the left, as `checkPropertyNames` does, and so the induction in `run_descriptions` goes along
the descriptions, with the lower-case names so far in the place of the wizard's properties.
-/

namespace EntityScaffold.Wizard

open Text Description Detail

variable {reader : TypeReader} {properties : List Property} {name expression : String}
  {outcome : TypeOutcome} {w : Wizard} {rest : List (Option String)}

/-! ## One answer -/

lemma said_of_plain {s : String} (h : trim s = s ∧ s ≠ "") (inquiry : Inquiry) :
    said inquiry (some s) = s := by
  rw [said, Option.getD_some, h.1, if_neg h.2]

lemma run_name (hname : trim name = name ∧ name ≠ "") :
    run ⟨reader, properties, {}⟩ (some name :: rest) = .ok w ↔
      Property.checkName name = .ok () ∧ isTaken ⟨reader, properties, {}⟩ name = false ∧
        run ⟨reader, properties, .awaitingType name⟩ rest = .ok w := by
  have hrespond := respond_at_name reader properties (some name)
  rw [said_of_plain hname, if_neg hname.2] at hrespond
  cases hcheck : Property.checkName name with
  | error f =>
    simp only [hcheck] at hrespond
    simp [run_cons_of_error hrespond]
  | ok u =>
    simp only [hcheck] at hrespond
    cases htaken : isTaken ⟨reader, properties, {}⟩ name with
    | true =>
      simp only [htaken, if_true] at hrespond
      simp [run_cons_of_error hrespond]
    | false =>
      simp only [htaken] at hrespond
      simp [run_cons_of_ok hrespond, isDone, Stage.awaitingType]

lemma run_type (hexpression : trim expression = expression ∧ expression ≠ "") :
    run ⟨reader, properties, .awaitingType name⟩ (some expression :: rest) = .ok w ↔
      ∃ outcome, reader.read expression = .ok outcome ∧
        run ⟨reader, properties, .afterType name expression outcome⟩ rest = .ok w := by
  have hrespond := respond_at_type reader properties name (some expression)
  rw [said_of_plain hexpression] at hrespond
  cases hread : reader.read expression with
  | error f =>
    simp only [hread] at hrespond
    simp [run_cons_of_error hrespond]
  | ok outcome =>
    simp only [hread] at hrespond
    rw [run_cons_of_ok hrespond, if_neg]
    · simp
    · unfold Stage.afterType
      cases outcome.sense <;> simp [isDone, Stage.awaitingDefault, Stage.awaitingKind]

lemma run_kind {token : String} (htoken : trim token = token ∧ token ≠ "") :
    run ⟨reader, properties, .awaitingKind name expression outcome⟩ (some token :: rest) = .ok w ↔
      ∃ kind, RelationKind.read (some token) = .ok kind ∧
        run ⟨reader, properties,
          .awaitingOption name expression outcome kind [] (RelationOption.ofKind kind)⟩ rest =
            .ok w := by
  have hrespond := respond_at_kind reader properties name expression outcome (some token)
  rw [said_of_plain htoken] at hrespond
  cases hkind : RelationKind.read (some token) with
  | error f =>
    simp only [hkind] at hrespond
    simp [run_cons_of_error hrespond]
  | ok kind =>
    simp only [hkind] at hrespond
    simp [run_cons_of_ok hrespond, isDone, Stage.awaitingOption]

lemma run_default {primitive : Primitive} {default : Option String}
    (hname : Property.checkName name = .ok ()) (hsense : outcome.sense = .scalar primitive)
    (hdefault : ∀ text ∈ default, trim text = text) :
    run ⟨reader, properties, .awaitingDefault name expression outcome⟩
        (some (default.getD "") :: rest) =
      run ⟨reader, properties ++ [.scalar name expression outcome primitive
        (default.filter (· != ""))], {}⟩ rest := by
  have hsaid : said .default (some (default.getD "")) = default.getD "" := by
    cases default with
    | none => rfl
    | some text =>
      simp only [said, Option.getD_some, hdefault text rfl]
      split
      · next hempty => exact hempty.symm
      · rfl
  have hfilter : (if default.getD "" = "" then none else some (default.getD "")) =
      default.filter (· != "") := by
    cases default with
    | none => rfl
    | some text => by_cases htext : text = "" <;> simp [htext, Option.filter]
  have hrespond := respond_at_default reader properties expression hname hsense
    (some (default.getD ""))
  rw [hsaid, hfilter] at hrespond
  rw [run_cons_of_ok hrespond, if_neg]
  simp [isDone]

/-! ## The options of a relation -/

lemma isYes_yesNo (inquiry : Inquiry) (b : Bool) : isYes (said inquiry (some (yesNo b))) = b := by
  rw [said_of_plain (by cases b <;> decide)]
  cases b <;> decide

/-- No cascade, or a text of blanks, is answered with no; any other text means what it means in a
definition. -/
lemma read_said_cascade (cascade : Option String) :
    Cascade.read (some (said (.option .cascade) (some (cascade.getD "no")))) =
      Cascade.read cascade := by
  cases cascade with
  | none => decide
  | some text =>
    simp only [said, Option.getD_some]
    split
    · next hblank =>
      have hread : Cascade.read (some text) = none := by
        simp only [Cascade.read, Option.bind_some, hblank]
        decide
      rw [hread]
      decide
    · simp only [Cascade.read, Option.bind_some, trim_trim]

/-- A wizard that waits for an option goes on with the next one. -/
lemma run_option {kind : RelationKind} (given : List (RelationOption × String))
    {option next : RelationOption} {pending : List RelationOption}
    (hkeys : given.map (·.1) ++ option :: next :: pending = RelationOption.ofKind kind)
    (answer : Option String) :
    run ⟨reader, properties,
        .awaitingOption name expression outcome kind given (option :: next :: pending)⟩
        (answer :: rest) =
      run ⟨reader, properties,
        .awaitingOption name expression outcome kind
          (given ++ [(option, said (.option option) answer)]) (next :: pending)⟩ rest := by
  rw [run_cons_of_ok (respond_at_option hkeys answer), if_neg]
  simp [isDone, Stage.awaitingOption]

lemma run_last_option {kind : RelationKind} (given : List (RelationOption × String))
    {option : RelationOption} {entity target : String} (hname : Property.checkName name = .ok ())
    (hsense : outcome.sense = .entity entity target)
    (hkeys : given.map (·.1) ++ [option] = RelationOption.ofKind kind) (answer : Option String) :
    run ⟨reader, properties, .awaitingOption name expression outcome kind given [option]⟩
        (answer :: rest) =
      run ⟨reader, properties ++ [.related name expression outcome
        (relationOf target kind (given ++ [(option, said (.option option) answer)]))], {}⟩ rest := by
  rw [run_cons_of_ok (respond_at_last_option hname hsense hkeys answer), if_neg]
  simp [isDone]

lemma relationOf_all (target : String) (kind : RelationKind) (bidirectional cascade onDelete : String) :
    relationOf target kind
        [(.bidirectional, bidirectional), (.cascade, cascade), (.onDelete, onDelete)] =
      .build target kind (isYes bidirectional) (Cascade.read (some cascade)) (isYes onDelete) := rfl

/-- A delete cascade that was not asked for is not wanted, and one that the kind cannot have is dropped. -/
lemma relationOf_without_onDelete {kind : RelationKind} (hkind : kind.isOwning = false)
    (target bidirectional cascade : String) (onDelete : Bool) :
    relationOf target kind [(.bidirectional, bidirectional), (.cascade, cascade)] =
      .build target kind (isYes bidirectional) (Cascade.read (some cascade)) onDelete := by
  show Relation.build target kind _ _ (isYes "no") = _
  simp only [Relation.build, hkind, Bool.and_false]
  rfl

/-- The answers about the options of a relation add it. -/
lemma run_options {kind : RelationKind} {entity target : String} {bidirectional onDelete : Bool}
    {cascade : Option String} (hname : Property.checkName name = .ok ())
    (hsense : outcome.sense = .entity entity target) :
    run ⟨reader, properties,
        .awaitingOption name expression outcome kind [] (RelationOption.ofKind kind)⟩
        (some (yesNo bidirectional) :: some (cascade.getD "no") ::
          ((if kind.isOwning then [some (yesNo onDelete)] else []) ++ rest)) =
      run ⟨reader, properties ++ [.related name expression outcome
        (.build target kind bidirectional (Cascade.read cascade) onDelete)], {}⟩ rest := by
  cases hkind : kind.isOwning with
  | true =>
    have hpending : RelationOption.ofKind kind = [.bidirectional, .cascade, .onDelete] := by
      simp [RelationOption.ofKind, hkind]
    rw [hpending, run_option [] hpending.symm, List.nil_append,
      run_option [(.bidirectional, _)] hpending.symm, if_pos rfl, List.singleton_append,
      List.singleton_append,
      run_last_option [(.bidirectional, _), (.cascade, _)] hname hsense hpending.symm]
    simp only [List.cons_append, List.nil_append, relationOf_all, isYes_yesNo, read_said_cascade]
  | false =>
    have hpending : RelationOption.ofKind kind = [.bidirectional, .cascade] := by
      simp [RelationOption.ofKind, hkind]
    rw [hpending, run_option [] hpending.symm, List.nil_append,
      if_neg Bool.false_ne_true, List.nil_append,
      run_last_option [(.bidirectional, _)] hname hsense hpending.symm]
    simp only [List.singleton_append, relationOf_without_onDelete hkind _ _ _ onDelete, isYes_yesNo,
      read_said_cascade]

/-- The answers about a relation add it where its kind is one. -/
lemma run_relation {token entity target : String} {bidirectional onDelete : Bool}
    {cascade : Option String} (htoken : trim token = token ∧ token ≠ "")
    (hname : Property.checkName name = .ok ()) (hsense : outcome.sense = .entity entity target) :
    run ⟨reader, properties, .awaitingKind name expression outcome⟩
        ((relation token bidirectional cascade onDelete).answers ++ rest) = .ok w ↔
      ∃ kind, RelationKind.read (some token) = .ok kind ∧
        run ⟨reader, properties ++ [.related name expression outcome
          (.build target kind bidirectional (Cascade.read cascade) onDelete)], {}⟩ rest = .ok w := by
  cases hkind : RelationKind.read (some token) with
  | error f =>
    have hanswers : (relation token bidirectional cascade onDelete).answers ++ rest =
        some token :: some (yesNo bidirectional) :: some (cascade.getD "no") :: rest := by
      simp [Detail.answers, hkind]
    rw [hanswers, run_kind htoken]
    simp [hkind]
  | ok kind =>
    rw [answers_relation hkind, List.cons_append, run_kind htoken]
    simp only [hkind, Except.ok.injEq, exists_eq_left', List.cons_append, run_options hname hsense]

/-! ## Descriptions -/

/-- The answers of a description are taken where it yields a property whose name is not taken. -/
lemma run_description {d : Description} (hd : d.IsPlain reader) :
    run ⟨reader, properties, {}⟩ (d.answers ++ rest) = .ok w ↔
      ∃ p, d.Yields reader p ∧ isTaken ⟨reader, properties, {}⟩ p.name = false ∧
        run ⟨reader, properties ++ [p], {}⟩ rest = .ok w := by
  obtain ⟨name, expression, detail⟩ := d
  have hname : trim name = name ∧ name ≠ "" := hd.name
  have hexpression : trim expression = expression ∧ expression ≠ "" := hd.expression
  have hdetail : detail.IsPlain := hd.detail
  show run ⟨reader, properties, {}⟩ (some name :: some expression :: (detail.answers ++ rest)) = _ ↔ _
  rw [run_name hname, run_type hexpression]
  constructor
  · rintro ⟨hcheck, hfree, outcome, hread, h⟩
    have hsuits : detail.Suits outcome.sense := hd.suits outcome hread
    cases detail with
    | scalar default =>
      cases hsense : outcome.sense with
      | entity => simp [Suits, hsense] at hsuits
      | scalar primitive =>
        simp only [Stage.afterType, hsense] at h
        refine ⟨_, .scalar hcheck hread hsense, hfree, ?_⟩
        exact (run_default hcheck hsense hdetail).symm.trans h
    | relation token bidirectional cascade onDelete =>
      cases hsense : outcome.sense with
      | scalar => simp [Suits, hsense] at hsuits
      | entity entity target =>
        simp only [Stage.afterType, hsense] at h
        obtain ⟨kind, hkind, h⟩ := (run_relation hdetail hcheck hsense).1 h
        exact ⟨_, .relation hcheck hread hsense hkind, hfree, h⟩
  · rintro ⟨p, hyields, hfree, h⟩
    rw [hyields.name_eq] at hfree
    cases hyields with
    | @scalar _ _ outcome _ _ hcheck hread hsense =>
      refine ⟨hcheck, hfree, outcome, hread, ?_⟩
      simp only [Stage.afterType, hsense]
      exact (run_default hcheck hsense hdetail).trans h
    | @relation _ _ _ _ _ outcome kind _ _ _ hcheck hread hsense hkind =>
      refine ⟨hcheck, hfree, outcome, hread, ?_⟩
      simp only [Stage.afterType, hsense]
      exact (run_relation hdetail hcheck hsense).2 ⟨kind, hkind, h⟩

/-- An empty name ends a run. -/
lemma run_end : run ⟨reader, properties, {}⟩ [some ""] = .ok ⟨reader, properties, .finished⟩ := by
  have hrespond := respond_at_name reader properties (some "")
  rw [if_pos (by decide)] at hrespond
  rw [run_cons_of_ok hrespond]
  rfl

/-- A run takes all descriptions where each of them yields a property, and the names of these can stand beside
each other and beside those seen before. -/
theorem run_descriptions {ds : List Description} (hds : ∀ d ∈ ds, d.IsPlain reader)
    {seen : List String} (hseen : ∀ s, s ∈ seen ↔ ∃ p ∈ properties, lower p.name = s) :
    run ⟨reader, properties, {}⟩ (ds.flatMap (·.answers) ++ [some ""]) = .ok w ↔
      ∃ ps, List.Forall₂ (Yields reader) ds ps ∧
        checkPropertyNames seen (ps.map (·.name)) = .ok () ∧
        w = ⟨reader, properties ++ ps, .finished⟩ := by
  induction ds generalizing properties seen with
  | nil => simp [run_end, checkPropertyNames, eq_comm]
  | cons d ds ih =>
    obtain ⟨hd, hds⟩ := List.forall_mem_cons.1 hds
    have htaken (p : Property) : isTaken ⟨reader, properties, {}⟩ p.name = false ↔
        lower p.name ∉ seen := by
      rw [isTaken_eq_false_iff, hseen]
      push Not
      rfl
    have hmore (p : Property) (s : String) : s ∈ lower p.name :: seen ↔
        ∃ q ∈ properties ++ [p], lower q.name = s := by
      rw [List.mem_cons, hseen]
      simp only [List.mem_append, List.mem_singleton]
      constructor
      · rintro (rfl | ⟨q, hq, hs⟩)
        · exact ⟨p, Or.inr rfl, rfl⟩
        · exact ⟨q, Or.inl hq, hs⟩
      · rintro ⟨q, hq | rfl, hs⟩
        · exact Or.inr ⟨q, hq, hs⟩
        · exact Or.inl hs.symm
    rw [List.flatMap_cons, List.append_assoc, run_description hd]
    constructor
    · rintro ⟨p, hyields, hfree, h⟩
      obtain ⟨ps, hps, hnames, rfl⟩ := (ih hds (hmore p)).1 h
      refine ⟨p :: ps, .cons hyields hps, ?_, by simp⟩
      exact checkPropertyNames_cons.2 ⟨hyields.checkName, (htaken p).1 hfree, hnames⟩
    · rintro ⟨ps, hall, hnames, rfl⟩
      obtain ⟨p, ps, hyields, hps, rfl⟩ := List.forall₂_cons_left_iff.1 hall
      obtain ⟨-, hfree, hnames⟩ := checkPropertyNames_cons.1 hnames
      refine ⟨p, hyields, (htaken p).2 hfree, (ih hds (hmore p)).2 ⟨ps, hps, hnames, by simp⟩⟩

/-- The entries of a definition become the properties that the descriptions stand for. -/
lemma mapM_property_eq_ok_iff {ds : List Description} (hds : ∀ d ∈ ds, d.IsPlain reader)
    {ps : List Property} :
    ds.mapM (fun d => Definition.property reader d.fields) = .ok ps ↔
      List.Forall₂ (Yields reader) ds ps := by
  rw [mapM_eq_ok_iff]
  constructor
  · intro h
    refine ((List.forall₂_and_left ds ps).2 ⟨hds, h⟩).imp ?_
    rintro d p ⟨hd, hp⟩
    exact (property_eq_ok_iff hd).1 hp
  · intro h
    refine ((List.forall₂_and_left ds ps).2 ⟨hds, h⟩).imp ?_
    rintro d p ⟨hd, hp⟩
    exact (property_eq_ok_iff hd).2 hp

/-- Without lookups, only the names of properties are checked. -/
theorem checkProperties_eq_ok_iff {ps : List Property} :
    checkProperties ps [] [] = .ok () ↔ checkPropertyNames [] (ps.map (·.name)) = .ok () := by
  rw [checkProperties]
  cases checkPropertyNames [] (ps.map (·.name)) <;> simp [checkLookup]

/-- Told the same descriptions, the wizard and a definition end with the same properties, or both fail. -/
theorem definition_agrees_with_collect (reader : TypeReader) (ds : List Description)
    (hds : ∀ d ∈ ds, d.IsPlain reader) (ps : List Property) :
    (do
      let built ← ds.mapM fun d : Description => Definition.property reader d.fields
      checkProperties built [] []
      pure built) = .ok ps ↔
      collect reader (ds.flatMap (·.answers) ++ [some ""]) = .ok ps := by
  have hrun (w : Wizard) : run { reader } (ds.flatMap (·.answers) ++ [some ""]) = .ok w ↔
      ∃ ps, List.Forall₂ (Yields reader) ds ps ∧ checkPropertyNames [] (ps.map (·.name)) = .ok () ∧
        w = ⟨reader, [] ++ ps, .finished⟩ := run_descriptions hds (by simp)
  constructor
  · intro h
    obtain ⟨qs, hmap, h⟩ := bind_eq_ok_iff.1 h
    obtain ⟨⟨⟩, hcheck, h⟩ := bind_eq_ok_iff.1 h
    cases pure_eq_ok_iff.1 h
    rw [collect, (hrun _).2 ⟨ps, (mapM_property_eq_ok_iff hds).1 hmap,
      checkProperties_eq_ok_iff.1 hcheck, rfl⟩]
    rfl
  · intro h
    cases hreached : run { reader } (ds.flatMap (·.answers) ++ [some ""]) with
    | error f =>
      rw [collect, hreached] at h
      cases h
    | ok w =>
      rw [collect, hreached] at h
      obtain ⟨qs, hyields, hnames, rfl⟩ := (hrun w).1 hreached
      cases h
      rw [(mapM_property_eq_ok_iff hds).2 hyields, ok_bind,
        checkProperties_eq_ok_iff.2 hnames]
      rfl

/-- A text with a default and a relation with options are taken by the wizard as by a definition. -/
theorem collect_title_and_author :
    let reader : TypeReader := ⟨⟨[], ["Author"], none, "", .empty []⟩, []⟩
    let ds : List Description :=
      [⟨"title", "text", .scalar (some "none")⟩, ⟨"author", "?Author", .relation "m:1" true none true⟩]
    collect reader (ds.flatMap (·.answers) ++ [some ""]) =
      .ok [.scalar "title" "text" ⟨.scalar ⟨"string", "text"⟩, false, {}⟩ ⟨"string", "text"⟩ (some "none"),
        .related "author" "?Author" ⟨.entity "Author" "Author", true, {}⟩
          ⟨.manyToOne, "Author", true, none, true⟩] := by
  intro reader ds
  have htext : reader.read "text" = .ok ⟨.scalar ⟨"string", "text"⟩, false, {}⟩ := by decide +kernel
  have hauthor : reader.read "?Author" = .ok ⟨.entity "Author" "Author", true, {}⟩ := by decide +kernel
  have hds : ∀ d ∈ ds, d.IsPlain reader := by
    intro d hd
    rcases List.mem_pair.1 hd with rfl | rfl
    · refine ⟨by decide, by decide, by rintro _ ⟨⟩; decide, fun outcome h => ?_⟩
      cases htext.symm.trans h
      trivial
    · refine ⟨by decide, by decide, ⟨by decide, by decide⟩, fun outcome h => ?_⟩
      cases hauthor.symm.trans h
      trivial
  refine (definition_agrees_with_collect reader ds hds _).1 ?_
  decide +kernel

end EntityScaffold.Wizard
