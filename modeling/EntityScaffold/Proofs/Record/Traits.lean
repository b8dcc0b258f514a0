import EntityScaffold.Proofs.Keyed
import EntityScaffold.Proofs.Outcome
import EntityScaffold.Record.Assembly
/-!
# Selected traits

A trait is offered where the configuration gives it a class (`mem_keys_offeredTraits_iff`).  A selection by names
is taken where every name is offered, and it is the table of these names with their classes; the names of what
was selected select the same again (`selectTraits_again`).
-/

namespace EntityScaffold

open Document

variable {config : Config} {offered selected traits : List (String × String)} {name : String}
  {names : List String}

/-- The traits that may be selected are those with a class. -/
theorem mem_keys_offeredTraits_iff :
    name ∈ config.offeredTraits.map (·.1) ↔ ∃ traitClass, (name, some traitClass) ∈ config.traits := by
  rw [Config.offeredTraits, Keyed.mem_keys_ofWrites_iff, List.mem_map]
  constructor
  · rintro ⟨entry, hentry, rfl⟩
    obtain ⟨⟨name, traitClass?⟩, hmem, hclass⟩ := List.mem_filterMap.1 hentry
    obtain ⟨traitClass, hsome, rfl⟩ := Option.map_eq_some_iff.1 hclass
    refine ⟨traitClass, ?_⟩
    rw [← hsome]
    exact hmem
  · rintro ⟨traitClass, hmem⟩
    exact ⟨(name, traitClass), List.mem_filterMap.2 ⟨_, hmem, rfl⟩, rfl⟩

lemma nodup_offeredTraits (config : Config) : (config.offeredTraits.map (·.1)).Nodup :=
  Keyed.nodup_ofWrites _

/-- Names are selected one after another, where all of them are offered. -/
lemma selectFrom_texts_eq_ok_iff :
    selectFrom offered selected (names.map .text) = .ok traits ↔
      (∀ name ∈ names, name ∈ offered.map (·.1)) ∧
        traits = (Keyed.select offered names).foldl
          (fun entries entry => Keyed.put entry.1 entry.2 entries) selected := by
  induction names generalizing selected with
  | nil =>
    show (Except.ok selected : Except Failure _) = .ok traits ↔ _
    simp [Keyed.select, eq_comm]
  | cons name names ih =>
    rw [List.forall_mem_cons, List.map_cons, selectFrom]
    cases hfound : offered.lookup name with
    | none =>
      have hname : name ∉ offered.map (·.1) := by
        rw [← Keyed.exists_lookup_iff]
        rintro ⟨traitClass, hclass⟩
        rw [hfound] at hclass
        cases hclass
      constructor
      · intro hselected
        cases hselected
      · rintro ⟨⟨hoffered, -⟩, -⟩
        exact absurd hoffered hname
    | some traitClass =>
      have hname : name ∈ offered.map (·.1) := Keyed.exists_lookup_iff.1 ⟨traitClass, hfound⟩
      have hselect : Keyed.select offered (name :: names) =
          (name, traitClass) :: Keyed.select offered names := by
        simp [Keyed.select, hfound]
      show selectFrom offered (Keyed.put name traitClass selected) (names.map .text) = .ok traits ↔ _
      rw [ih, hselect, List.foldl_cons]
      simp [hname]

/-- A selection as it can be given: every trait that is offered, or some names. -/
def traitsValue : Option (List String) → Value
  | none => .null
  | some names => .ofTexts names

/-- The traits that a selection stands for. -/
def selectedTraits (config : Config) : Option (List String) → List (String × String)
  | none => config.offeredTraits
  | some names => Keyed.ofWrites (Keyed.select config.offeredTraits names)

/-- A selection is taken where every name in it is offered with a class. -/
lemma selectTraits_eq_ok_iff {given : Option (List String)} :
    selectTraits config (traitsValue given) = .ok traits ↔
      (∀ names ∈ given, ∀ name ∈ names, ∃ traitClass, (name, some traitClass) ∈ config.traits) ∧
        traits = selectedTraits config given := by
  cases given with
  | none =>
    show (Except.ok config.offeredTraits : Except Failure _) = .ok traits ↔ _
    simp [selectedTraits, eq_comm]
  | some names =>
    show selectFrom config.offeredTraits [] (names.map .text) = .ok traits ↔ _
    rw [selectFrom_texts_eq_ok_iff]
    simp only [mem_keys_offeredTraits_iff, Option.mem_def, Option.some.injEq, forall_eq']
    rfl

/-- What is selected is offered, and no name is selected twice. -/
lemma selectedTraits_isTable (config : Config) (given : Option (List String)) :
    ((selectedTraits config given).map (·.1)).Nodup ∧
      ∀ entry ∈ selectedTraits config given, config.offeredTraits.lookup entry.1 = some entry.2 := by
  cases given with
  | none => exact ⟨nodup_offeredTraits config, fun entry => Keyed.lookup_of_mem (nodup_offeredTraits config)⟩
  | some names =>
    refine ⟨Keyed.nodup_ofWrites _, fun entry hentry => ?_⟩
    exact Keyed.lookup_of_mem_select (Keyed.mem_of_mem_ofWrites hentry)

/-- Traits of a table without repeated names that are all offered are selected by their names. -/
lemma selectTraits_names (hnodup : (traits.map (·.1)).Nodup)
    (hoffered : ∀ entry ∈ traits, config.offeredTraits.lookup entry.1 = some entry.2) :
    selectTraits config (.ofTexts (traits.map (·.1))) = .ok traits := by
  have hnames : ∀ name ∈ traits.map (·.1), name ∈ config.offeredTraits.map (·.1) := by
    rintro _ hname
    obtain ⟨entry, hentry, rfl⟩ := List.mem_map.1 hname
    exact Keyed.exists_lookup_iff.1 ⟨entry.2, hoffered entry hentry⟩
  show selectFrom config.offeredTraits [] ((traits.map (·.1)).map .text) = .ok traits
  refine selectFrom_texts_eq_ok_iff.2 ⟨hnames, ?_⟩
  rw [Keyed.select_map_fst hoffered]
  exact (Keyed.ofWrites_eq_self hnodup).symm

/-- The names of a selection select the same again. -/
theorem selectTraits_again (config : Config) (given : Option (List String)) :
    selectTraits config (.ofTexts ((selectedTraits config given).map (·.1))) =
      .ok (selectedTraits config given) := by
  obtain ⟨hnodup, hoffered⟩ := selectedTraits_isTable config given
  exact selectTraits_names hnodup hoffered

end EntityScaffold
