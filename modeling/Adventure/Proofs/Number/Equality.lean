import Mathlib
import Adventure.Number.Num

/-! Equality of numbers, where a not-a-number equals nothing; `Num.Same` relates a number to the
one a snapshot gives back for it. -/

namespace Adventure

open Float.Model Adventure.Number

namespace Number

/-- The exponent field of a double, read from its bits. -/
theorem unpackExponent_toNat (f : Float) :
    (@UnpackedFloat.unpackExponent Format.binary64 f.toModel.toBits.toBitVec).toNat =
      f.toBits.toNat / twoPow 52 % twoPow 11 := by
  simp [UnpackedFloat.unpackExponent, Format.binary64, twoPow, Nat.shiftRight_eq_div_pow]
  rfl

/-- The mantissa field of a double, read from its bits. -/
theorem unpackMantissa_toNat (f : Float) :
    (@UnpackedFloat.unpackMantissa Format.binary64 f.toModel.toBits.toBitVec).toNat =
      f.toBits.toNat % twoPow 52 := by
  simp [UnpackedFloat.unpackMantissa, Format.binary64, twoPow]
  rfl

/-- A double is not-a-number for IEEE comparison exactly when its bits say so. -/
theorem unpack_eq_notANumber_iff (f : Float) :
    f.toModel.unpack = .notANumber ↔ Binary.ofFloat f = .nan := by
  unfold Float.Model.unpack UnpackedFloat.unpack Binary.ofFloat
  simp only [BitVec.toNat_eq, unpackExponent_toNat, unpackMantissa_toNat]
  split_ifs <;> simp_all

/-- A double that IEEE comparison takes for a zero has a zero mantissa in its bits. -/
theorem ofFloat_of_unpack_zero {f : Float} {sign : UnpackedFloat.Sign}
    (h : f.toModel.unpack = .zero sign) :
    ∃ negative exponent, Binary.ofFloat f = .finite negative 0 exponent := by
  unfold Float.Model.unpack UnpackedFloat.unpack at h
  unfold Binary.ofFloat
  simp only [BitVec.toNat_eq, unpackExponent_toNat, unpackMantissa_toNat] at h
  -- only the branch whose exponent and mantissa fields are both zero gives a zero
  split_ifs at h
  simp_all

/-- IEEE comparison puts every value but not-a-number level with itself. -/
theorem compare_self {x : UnpackedFloat} (h : x ≠ .notANumber) : x.compare x = some .eq := by
  cases x with
  | notANumber => exact absurd rfl h
  | infinity sign => cases sign <;> rfl
  | zero sign => cases sign <;> rfl
  | finite sign mantissa exponent _ => cases sign <;> simp [UnpackedFloat.compare]

/-- A double equals itself exactly when it is a number. -/
theorem beq_self_iff (f : Float) : (f == f) = true ↔ Binary.ofFloat f ≠ .nan := by
  change (f.toModel.unpack.compare f.toModel.unpack == some .eq) = true ↔ _
  rw [ne_eq, ← unpack_eq_notANumber_iff f]
  constructor
  · intro h hnan
    simp [hnan, UnpackedFloat.compare] at h
  · intro h
    simp [compare_self h]

/-- No double is below itself. -/
theorem not_lt_self (f : Float) : ¬ f < f := by
  show ¬ decide _ = true
  simp only [decide_eq_true_eq]
  change ¬ (f.toModel.unpack.compare f.toModel.unpack == some .lt) = true
  by_cases hnan : f.toModel.unpack = .notANumber
  · simp [hnan, UnpackedFloat.compare]
  · simp [compare_self hnan]

/-- A double equal to zero has a zero mantissa. -/
theorem ofFloat_of_beq_zero {f : Float} (h : (f == 0.0) = true) :
    ∃ negative exponent, Binary.ofFloat f = .finite negative 0 exponent := by
  have hzero : (0.0 : Float).toModel.unpack = .zero .positive := by rfl
  change (f.toModel.unpack.compare (0.0 : Float).toModel.unpack == some .eq) = true at h
  rw [hzero] at h
  cases hf : f.toModel.unpack with
  | zero sign => exact ofFloat_of_unpack_zero hf
  | notANumber => simp [hf, UnpackedFloat.compare] at h
  | infinity sign => cases sign <;> simp [hf, UnpackedFloat.compare] at h
  | finite sign _ _ _ => cases sign <;> simp [hf, UnpackedFloat.compare] at h

end Number

namespace Num

/-- Two numbers are the same number: equal, an integer and a double alike, or both
not-a-number. -/
def Same (a b : Num) : Prop := a.eq b = true ∨ (a.isNaN = true ∧ b.isNaN = true)

/-- A number that is a number equals itself. -/
theorem eq_self {n : Num} (h : n.isNaN = false) : n.eq n = true := by
  cases n with
  | int i => simp [eq, compare?]
  | float f =>
    have hself : (f == f) = true := by simpa [isNaN, bne] using h
    simp [eq, compare?, Number.not_lt_self, hself]

/-- Every number is the same number as itself, not-a-number included. -/
theorem Same.refl (n : Num) : n.Same n := by
  cases h : n.isNaN with
  | false => exact .inl (eq_self h)
  | true => exact .inr ⟨h, h⟩

/-- A double equal to zero is the same number as the integer 0. -/
theorem same_zero_of_beq_zero {f : Float} (h : (f == 0.0) = true) :
    (Num.int 0).Same (.float f) := by
  obtain ⟨negative, exponent, hbits⟩ := Number.ofFloat_of_beq_zero h
  left
  simp [eq, compare?, compareIntFloat, hbits]

/-- A double whose bits say not-a-number is not-a-number. -/
theorem isNaN_of_ofFloat {f : Float} (h : Binary.ofFloat f = .nan) : (Num.float f).isNaN = true := by
  have hne : ¬ (f == f) = true := fun hself => (Number.beq_self_iff f).mp hself h
  simpa [isNaN, bne] using hne

end Num

end Adventure
