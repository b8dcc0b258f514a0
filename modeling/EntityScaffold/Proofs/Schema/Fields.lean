import Mathlib.Tactic.Lemma
import EntityScaffold.Schema.Primitive
/-!
# Accepted records

A record is accepted where each of its fields is, and then every part of what is accepted comes from the value
of its field.  Writing a field changes what is read from it and from no other.
-/

namespace EntityScaffold

open Document

/-! ## Fields -/

namespace Document

variable {fields : List (Scalar × Value)} {key name : String} {value : Value}

lemma sameKey_text_iff {k : Scalar} : k.sameKey (.text key) = true ↔ k = .text key := by
  cases k <;> simp [Scalar.sameKey, Scalar.number?]

lemma find?_cons_self (key : String) (value : Value) (fields : List (Scalar × Value)) :
    find? ((.text key, value) :: fields) key = some value := by
  simp [find?]

lemma find?_cons_of_ne {k : Scalar} (h : k ≠ .text key) (value : Value) (fields : List (Scalar × Value)) :
    find? ((k, value) :: fields) key = find? fields key := by
  cases k <;> simp_all [find?]

lemma find?_put_self (key : String) (value : Value) (fields : List (Scalar × Value)) :
    find? (put (.text key) value fields) key = some value := by
  induction fields with
  | nil => exact find?_cons_self key value []
  | cons entry rest ih =>
    obtain ⟨k, v⟩ := entry
    rw [put]
    split
    · next hsame =>
      rw [sameKey_text_iff.1 hsame]
      exact find?_cons_self key value rest
    · next hother =>
      rw [find?_cons_of_ne (mt sameKey_text_iff.2 hother)]
      exact ih

lemma find?_put_of_ne (h : name ≠ key) (value : Value) (fields : List (Scalar × Value)) :
    find? (put (.text key) value fields) name = find? fields name := by
  have hkey : Scalar.text key ≠ .text name := fun heq => h (Scalar.text.inj heq).symm
  induction fields with
  | nil => exact find?_cons_of_ne hkey value []
  | cons entry rest ih =>
    obtain ⟨k, v⟩ := entry
    rw [put]
    split
    · next hsame =>
      obtain rfl := sameKey_text_iff.1 hsame
      rw [find?_cons_of_ne hkey, find?_cons_of_ne hkey]
    · by_cases hk : k = .text name
      · rw [hk, find?_cons_self, find?_cons_self]
      · rw [find?_cons_of_ne hk, find?_cons_of_ne hk]
        exact ih

end Document

/-! ## Acceptance -/

namespace Schema

variable {α β : Type} {check : Check α} {fields : Fields} {name : String} {a default : α}

namespace Checked

lemma map_eq_accepted_iff {f : α → β} {x : Checked α} {b : β} :
    map f x = .accepted b ↔ ∃ a, x = .accepted a ∧ f a = b := by
  cases x <;> simp [map]

lemma apply_eq_accepted_iff {f : Checked (α → β)} {x : Checked α} {b : β} :
    apply f x = .accepted b ↔ ∃ g a, f = .accepted g ∧ x = .accepted a ∧ g a = b := by
  cases f <;> cases x <;> simp [apply]

lemma under_eq_accepted_iff {key : String} {x : Checked α} : under key x = .accepted a ↔ x = .accepted a := by
  cases x <;> simp [under]

lemma andThen_eq_accepted_iff {x : Checked α} {rule : α → Checked β} {b : β} :
    andThen x rule = .accepted b ↔ ∃ a, x = .accepted a ∧ rule a = .accepted b := by
  cases x <;> simp [andThen]

/-- A list is accepted where each of its items is. -/
lemma exists_of_eachFrom {check : α → Checked β} {position : Nat} {items : List α} {bs : List β}
    (h : eachFrom check position items = .accepted bs) : ∀ b ∈ bs, ∃ item ∈ items, check item = .accepted b := by
  induction items generalizing position bs with
  | nil =>
    cases h
    exact fun b hb => absurd hb List.not_mem_nil
  | cons item rest ih =>
    obtain ⟨g, more, hg, hmore, rfl⟩ := apply_eq_accepted_iff.1 h
    obtain ⟨first, hfirst, rfl⟩ := map_eq_accepted_iff.1 hg
    intro b hb
    rcases List.mem_cons.1 hb with rfl | hb
    · exact ⟨item, List.mem_cons_self, under_eq_accepted_iff.1 hfirst⟩
    · obtain ⟨item', hitem', hcheck⟩ := ih hmore b hb
      exact ⟨item', List.mem_cons_of_mem _ hitem', hcheck⟩

end Checked

open Checked

lemma record_eq_accepted_iff {check : Fields → Checked α} {v : Value} :
    record check v = .accepted a ↔ ∃ fields, v = .mapping fields ∧ check fields = .accepted a := by
  unfold record
  split
  · simp
  · next hother =>
    constructor
    · intro h
      cases h
    · rintro ⟨fields, rfl, -⟩
      exact absurd rfl (hother fields)

lemma required_eq_accepted_iff :
    required name check fields = .accepted a ↔ ∃ v, find? fields name = some v ∧ check v = .accepted a := by
  rw [required, under_eq_accepted_iff]
  cases find? fields name <;> simp [fail]

lemma field_eq_accepted_iff : field name default check fields = .accepted a ↔
    (find? fields name = none ∧ default = a) ∨ ∃ v, find? fields name = some v ∧ check v = .accepted a := by
  unfold field
  cases find? fields name <;> simp [under_eq_accepted_iff]

lemma choice_eq_accepted_iff {words : List (String × α)} {v : Value} :
    choice words v = .accepted a ↔ ∃ word, v = .text word ∧ words.lookup word = some a := by
  unfold choice
  split
  · next s =>
    cases hs : words.lookup s <;> simp [hs, fail]
  · next hother =>
    constructor
    · intro h
      cases h
    · rintro ⟨word, rfl, -⟩
      exact absurd rfl (hother word)

lemma check_of_optional {v : Value} (h : optional check v = .accepted (some a)) : check v = .accepted a := by
  unfold optional at h
  split at h
  · cases h
  · obtain ⟨b, hb, hsome⟩ := map_eq_accepted_iff.1 h
    cases hsome
    exact hb

lemma exists_of_sequence {v : Value} {as : List α} (h : sequence check v = .accepted as) :
    ∀ a ∈ as, ∃ item, check item = .accepted a := by
  unfold sequence at h
  split at h
  · intro a ha
    obtain ⟨item, -, hitem⟩ := exists_of_eachFrom h a ha
    exact ⟨item, hitem⟩
  · cases h

end Schema

end EntityScaffold
