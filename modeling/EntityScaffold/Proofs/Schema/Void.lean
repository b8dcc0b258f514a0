import Mathlib.Tactic.Lemma
import EntityScaffold.Schema.Primitive
/-!
# Void values as truth values

A value counts as absent by one rule and is read as a truth value by another.  The two agree where both apply:
what is void is never read as true (`isVoid_of_truth`).  For floating-point numbers this rests on what equality
with zero says about the bits of a double.
-/

namespace EntityScaffold

/-! ## Zero -/

namespace Decimal

open Float.Model

variable {x : Float}

/-- Of all doubles only the two zeros compare as equal to zero. -/
lemma exists_unpack_of_beq_zero (h : (x == 0) = true) : ∃ sign, x.toModel.unpack = .zero sign := by
  have hcompare : x.toModel.unpack.compare (0 : Float).toModel.unpack = some .eq := eq_of_beq h
  have hzero : (0 : Float).toModel.unpack = .zero .positive := rfl
  rw [hzero] at hcompare
  cases hx : x.toModel.unpack with
  | zero sign => exact ⟨sign, rfl⟩
  | infinity sign =>
    rw [hx] at hcompare
    cases sign <;> cases hcompare
  | notANumber =>
    rw [hx] at hcompare
    cases hcompare
  | finite sign m e hm =>
    rw [hx] at hcompare
    cases sign <;> cases hcompare

/-- What is read as a zero has no bits but that of the sign. -/
lemma parts_of_unpack_eq_zero {spec : Format} {b : BitVec spec.numBits} {sign : UnpackedFloat.Sign}
    (h : UnpackedFloat.unpack spec b = .zero sign) :
    UnpackedFloat.unpackExponent b = 0#_ ∧ UnpackedFloat.unpackMantissa b = 0#_ := by
  unfold UnpackedFloat.unpack at h
  by_cases hones : UnpackedFloat.unpackExponent b = -1#_
  · rw [if_pos hones] at h
    by_cases hmantissa : UnpackedFloat.unpackMantissa b = 0#_
    · rw [if_pos hmantissa] at h
      cases h
    · rw [if_neg hmantissa] at h
      cases h
  · rw [if_neg hones] at h
    by_cases hexponent : UnpackedFloat.unpackExponent b = 0#_
    · rw [if_pos hexponent] at h
      by_cases hmantissa : UnpackedFloat.unpackMantissa b = 0#_
      · exact ⟨hexponent, hmantissa⟩
      · rw [dif_neg hmantissa] at h
        cases h
    · rw [if_neg hexponent] at h
      cases h

lemma magnitude_of_beq_zero (h : (x == 0) = true) : x.toBits.toNat % twoTo 63 = 0 := by
  obtain ⟨sign, hx⟩ := exists_unpack_of_beq_zero h
  obtain ⟨hexponent, hmantissa⟩ := parts_of_unpack_eq_zero hx
  have he := congrArg BitVec.toNat hexponent
  have hm := congrArg BitVec.toNat hmantissa
  simp [UnpackedFloat.unpackExponent, UnpackedFloat.unpackMantissa, Nat.shiftRight_eq_div_pow] at he hm
  show x.toModel.toBits.toNat % 2 ^ 63 = 0
  omega

lemma whole?_of_beq_zero (h : (x == 0) = true) : whole? x = some 0 := by
  have hfinite : ¬ infinityBits ≤ 0 := by decide
  have hparts : (Binary.ofBits 0).whole? = some 0 := by simp [Binary.ofBits, Binary.whole?]
  simp [whole?, magnitude_of_beq_zero h, hfinite, hparts]

end Decimal

/-! ## Truth -/

open Document Schema

lemma Schema.truthOfNumber_eq_true_iff {n : Int} : truthOfNumber n = .accepted true ↔ n = 1 := by
  unfold truthOfNumber
  split
  · next hn => simp [hn]
  · next hn =>
    split
    · simp [hn]
    · simp [hn, Checked.fail]

/-- What is read as true is not void. -/
theorem Document.isVoid_of_truth {v : Value} (h : truth v = .accepted true) : v.isVoid = false := by
  unfold truth at h
  split at h
  · cases h
    rfl
  · split at h
    · rw [truthOfNumber_eq_true_iff.1 h]
      rfl
    · cases h
  · next x =>
    split at h
    · next n hn =>
      obtain ⟨hwhole, -⟩ := Option.filter_eq_some_iff.1 hn
      obtain rfl := truthOfNumber_eq_true_iff.1 h
      refine Bool.eq_false_iff.2 fun hvoid => ?_
      rw [Decimal.whole?_of_beq_zero hvoid] at hwhole
      cases hwhole
    · cases h
  · split at h
    · next s hword =>
      refine Bool.eq_false_iff.2 fun hvoid => ?_
      obtain rfl := String.isEmpty_iff.1 hvoid
      exact absurd hword (by decide)
    · split at h <;> cases h
  · cases h

end EntityScaffold
