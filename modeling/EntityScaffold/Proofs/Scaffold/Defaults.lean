import EntityScaffold.Proofs.Property
import EntityScaffold.Proofs.Record.Assembly
import EntityScaffold.Proofs.Scaffold.References
import EntityScaffold.Proofs.Source.Literal.Types
/-!
# Defaults of the data object

Each member of the data object may have a default: the empty list where there is any number of targets, the literal
of the default of the property, or nothing where the property may be nothing and has no default.  The first and the
last are always of the type of the member.  The literal is the one that can be of another type, or of none, since a
default is taken as a text from whoever gives it; which texts are safe is said for each type
(`data_defaults_fit_iff`).
-/

namespace EntityScaffold

open Source Artifact

/-- The default of a member, if it has one, is admitted by its type. -/
def Source.Member.DefaultFits (m : Member) : Prop :=
  ∀ literal ∈ m.default, ∃ type ∈ m.type, Literal.Admits m.nullable type literal

namespace Scaffold

attribute [local irreducible] ClassName.qualify

variable {config : Config} {r : Record}

/-- A member that has no default of its own is empty where it may be. -/
lemma defaultFits_of_none {p : Property} (h : p.default? = none) : (Data.member p).DefaultFits := by
  intro literal hliteral
  unfold Data.member at hliteral ⊢
  split at hliteral
  · next hmany =>
    cases hliteral
    rw [if_pos hmany]
    exact ⟨"array", rfl, .inr ⟨[], rfl⟩⟩
  · next hsingle =>
    rw [if_neg hsingle]
    rw [Data.initialValue, h] at hliteral
    by_cases hnullable : p.nullable = true
    · rw [if_pos hnullable] at hliteral
      cases hliteral
      exact ⟨p.typeHint, rfl, Literal.admits_null_iff.2 hnullable⟩
    · rw [if_neg hnullable] at hliteral
      cases hliteral

/-- The member of a property with a default has the literal of it. -/
lemma dataMember_of_default {p : Property} {value : String} (h : p.default? = some value) :
    ∃ type, p.primitive? = some type ∧ Data.member p =
      { name := p.name, type := some type, nullable := p.nullable, visibility := .isPublic
        default := some (Literal.print value (some type)) } := by
  obtain ⟨type, hkind⟩ := Property.exists_kind_of_default h
  have hsingle : p.isCollection = false := by simp [Property.isCollection, Property.relation?, hkind]
  have hprimitive : p.primitive? = some type := by rw [Property.primitive?, hkind]
  have hhint : p.typeHint = type := by rw [Property.typeHint, hkind]
  refine ⟨type, hprimitive, ?_⟩
  rw [Data.member, if_neg (Bool.eq_false_iff.1 hsingle), Data.initialValue, h, hprimitive, hhint]

/-- The default of a member fits if that of the property suits its type. -/
lemma defaultFits_member_iff (p : Property) : (Data.member p).DefaultFits ↔
    ∀ value ∈ p.default?, ∀ type ∈ p.primitive?, Literal.Suits p.nullable type value := by
  cases hdefault : p.default? with
  | none => exact iff_of_true (defaultFits_of_none hdefault) nofun
  | some value =>
    obtain ⟨type, hprimitive, hmember⟩ := dataMember_of_default hdefault
    have hliteral : (Data.member p).DefaultFits ↔ Literal.Admits p.nullable type (Literal.print value (some type)) := by
      rw [hmember]
      simp [Source.Member.DefaultFits]
    rw [hliteral, Literal.admits_print_iff, hprimitive]
    simp

/-- Each member of the data object of an assembled record has a default that its type admits exactly if the default
of the property suits its type: a word for nothing where the property may be nothing; and else figures, with a minus
or without, for a whole number, which may have a fraction for a number with one; a word for a truth value; a list in
brackets; a text that does not break out of its quotes; and no text at all for a class.  Only where a number in a column
cannot be shown there is no data object. -/
theorem data_defaults_fit_iff (config : Config) (draft : Draft) (r : Record) (hr : draft.assemble config = .ok r) :
    HasUnits config r fun us => ∃ data, (.data, data) ∈ us ∧
      data.declaration.members = r.properties.map Data.member ∧
        ∀ p ∈ r.properties, (Data.member p).DefaultFits ↔
          ∀ value ∈ p.default?, ∀ type ∈ p.primitive?, Literal.Suits p.nullable type value := by
  have hdata : Artifact.data ∈ artifacts r := mem_artifacts_of_isFixed rfl
  exact hasUnits (Draft.validate_of_assemble hr) config
    ⟨_, List.mem_map_of_mem hdata, rfl, fun p _ => defaultFits_member_iff p⟩

/-- A wallet with a balance and a limit. -/
def wallet (balance limit : String) : Draft where
  space := "App\\Model"
  entityName := "Wallet"
  properties :=
    [{ name := "balance", expression := "float", kind := .scalar "float" (some balance), storage := some "float"
       nullable := false, modifiers := {} },
      { name := "limit", expression := "int", kind := .scalar "int" (some limit), storage := some "integer"
        nullable := false, modifiers := {} }]

/-- The record of a wallet. -/
def walletRecord (balance limit : String) : Record where
  space := "App\\Model"
  entityName := "Wallet"
  properties := (wallet balance limit).properties
  traits := [("Timestampable", "Gedmo\\Timestampable\\Traits\\TimestampableEntity")]

theorem wallet_in_debt_fits : (wallet "-12.50" "100").assemble {} = .ok (walletRecord "-12.50" "100") ∧
    ∃ us data, units {} (walletRecord "-12.50" "100") = .ok us ∧ (.data, data) ∈ us ∧
      data.declaration.members.map (·.default) = [some "-12.50", some "100"] ∧
        ∀ m ∈ data.declaration.members, m.DefaultFits := by
  have hr : (wallet "-12.50" "100").assemble {} = .ok (walletRecord "-12.50" "100") := by decide +kernel
  have hbalance : Literal.Suits false "float" "-12.50" := by
    have hamount : Literal.IsAmount "12.50".toList :=
      .inr ⟨"12".toList, "50".toList, rfl, ⟨by decide, by decide⟩, ⟨by decide, by decide⟩⟩
    exact .inr ⟨by decide, .inr ⟨"12.50".toList, by decide, hamount⟩⟩
  have hlimit : Literal.Suits false "int" "100" := .inr ⟨by decide, .inl ⟨by decide, by decide⟩⟩
  obtain ⟨us, hunits, -, data, hdata, hmembers, hall⟩ := (data_defaults_fit_iff {} _ _ hr).exists_units (by decide)
  refine ⟨hr, us, data, hunits, hdata, ?_, ?_⟩
  · rw [hmembers]
    decide
  · rw [hmembers, List.forall_mem_map]
    intro p hp
    rw [hall p hp]
    rcases List.mem_cons.1 hp with rfl | hp
    · rintro _ ⟨⟩ _ ⟨⟩
      exact hbalance
    · obtain rfl := List.mem_singleton.1 hp
      rintro _ ⟨⟩ _ ⟨⟩
      exact hlimit

/-- A balance in powers of ten becomes a text, and no limit is written for a member that has to have one. -/
theorem wallet_does_not_load : (wallet "1e+20" "null").assemble {} = .ok (walletRecord "1e+20" "null") ∧
    ∃ us data balance limit, units {} (walletRecord "1e+20" "null") = .ok us ∧ (.data, data) ∈ us ∧
      data.declaration.members = [balance, limit] ∧
        (balance.type = some "float" ∧ balance.default = some "'1e+20'" ∧ ¬ balance.DefaultFits) ∧
          limit.type = some "int" ∧ limit.nullable = false ∧ limit.default = some "null" ∧ ¬ limit.DefaultFits := by
  have hr : (wallet "1e+20" "null").assemble {} = .ok (walletRecord "1e+20" "null") := by decide +kernel
  have hdata : Artifact.data ∈ artifacts (walletRecord "1e+20" "null") := mem_artifacts_of_isFixed rfl
  have hbalance : ¬ Literal.Suits false "float" "1e+20" := by
    rintro (⟨hnull, -⟩ | ⟨-, hamount⟩)
    · exact absurd hnull (by decide)
    · exact absurd (Literal.isNumber_of_isNegatable hamount) (by decide)
  have hlimit : ¬ Literal.Suits false "int" "null" := by
    rw [Literal.suits_iff_of_null (by decide)]
    decide
  refine ⟨hr, _, _, _, _, units_eq (Draft.validate_of_assemble hr) (by decide) {}, List.mem_map_of_mem hdata, rfl,
    ⟨rfl, by decide, ?_⟩, rfl, rfl, by decide, ?_⟩
  · rw [defaultFits_member_iff]
    exact fun hall => hbalance (hall _ rfl _ rfl)
  · rw [defaultFits_member_iff]
    exact fun hall => hlimit (hall _ rfl _ rfl)

end Scaffold

end EntityScaffold
