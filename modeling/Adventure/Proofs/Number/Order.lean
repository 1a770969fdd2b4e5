import Mathlib
import Adventure.Proofs.Number.Equality
import Adventure.Proofs.Number.Nearest
import Adventure.Value.Basic

/-! Every number but not-a-number has a place among the rationals closed by two infinities, and
comparison of numbers is the order of their places. -/

namespace Adventure

open Float.Model Adventure.Number

namespace Number

section Places

/-- Comparison through a strictly monotone map. -/
theorem compare_of_strictMono {α β : Type} [LinearOrder α] [LinearOrder β] {f : α → β}
    (hf : StrictMono f) (a b : α) : compare (f a) (f b) = compare a b :=
  (compare_iff _ _).2 (hf.compares.2 ((compare_iff _ _).1 rfl))

/-- Comparing the other way round swaps the comparison. -/
theorem swap_compare {α : Type} [LinearOrder α] (a b : α) : (compare a b).swap = compare b a :=
  ((compare_iff _ _).2 (Ordering.compares_swap.2 ((compare_iff _ _).1 rfl))).symm

/-- Negating both numbers swaps their comparison. -/
theorem compare_neg_neg (a b : ℚ) : compare (-a) (-b) = (compare a b).swap := by
  rw [swap_compare]
  rcases lt_trichotomy a b with h | rfl | h
  · rw [compare_gt_iff_gt.2 (neg_lt_neg h), compare_gt_iff_gt.2 h]
  · rw [compare_eq_iff_eq.2 rfl, compare_eq_iff_eq.2 rfl]
  · rw [compare_lt_iff_lt.2 (neg_lt_neg h), compare_lt_iff_lt.2 h]

variable (r : ℚ)

/-- Finite places keep the order of the rationals. -/
theorem compare_finite (r' : ℚ) :
    compare ((r : WithTop ℚ) : WithBot (WithTop ℚ)) (r' : WithTop ℚ) = compare r r' :=
  compare_of_strictMono (f := fun r : ℚ => ((r : WithTop ℚ) : WithBot (WithTop ℚ)))
    (fun _ _ h => WithBot.coe_lt_coe.2 (WithTop.coe_lt_coe.2 h)) r r'

@[simp] theorem compare_bot_top : compare (⊥ : WithBot (WithTop ℚ)) ⊤ = .lt :=
  compare_lt_iff_lt.2 bot_lt_top

@[simp] theorem compare_top_bot : compare (⊤ : WithBot (WithTop ℚ)) ⊥ = .gt :=
  compare_gt_iff_gt.2 bot_lt_top

@[simp] theorem compare_bot_finite :
    compare (⊥ : WithBot (WithTop ℚ)) ((r : WithTop ℚ) : WithBot (WithTop ℚ)) = .lt :=
  compare_lt_iff_lt.2 (WithBot.bot_lt_coe _)

@[simp] theorem compare_finite_bot :
    compare ((r : WithTop ℚ) : WithBot (WithTop ℚ)) ⊥ = .gt :=
  compare_gt_iff_gt.2 (WithBot.bot_lt_coe _)

@[simp] theorem compare_top_finite :
    compare (⊤ : WithBot (WithTop ℚ)) ((r : WithTop ℚ) : WithBot (WithTop ℚ)) = .gt :=
  compare_gt_iff_gt.2 (WithBot.coe_lt_coe.2 (WithTop.coe_lt_top r))

@[simp] theorem compare_finite_top :
    compare ((r : WithTop ℚ) : WithBot (WithTop ℚ)) ⊤ = .lt :=
  compare_lt_iff_lt.2 (WithBot.coe_lt_coe.2 (WithTop.coe_lt_top r))

end Places

/-- The value of a finite double with these parts. -/
def finiteValue (negative : Bool) (mantissa : Nat) (exponent : Int) : ℚ :=
  (if negative then -1 else 1) * mantissa * 2 ^ exponent

/-- The place of the parts of a double; none for not-a-number. -/
def Binary.exact : Binary → Option (WithBot (WithTop ℚ))
  | .nan => none
  | .infinite negative => some (if negative then ⊥ else ⊤)
  | .finite negative mantissa exponent =>
    some ((finiteValue negative mantissa exponent : WithTop ℚ) : WithBot (WithTop ℚ))

/-- A finite number with mantissa zero is zero, whatever its sign and exponent. -/
theorem finiteValue_zero (negative : Bool) (exponent : Int) :
    finiteValue negative 0 exponent = 0 := by
  simp [finiteValue]

@[simp] theorem finiteValue_false (mantissa : Nat) (exponent : Int) :
    finiteValue false mantissa exponent = mantissa * 2 ^ exponent := by
  simp [finiteValue]

@[simp] theorem finiteValue_true (mantissa : Nat) (exponent : Int) :
    finiteValue true mantissa exponent = -(mantissa * 2 ^ exponent) := by
  simp [finiteValue]

/-- A positive mantissa scaled by a power of two is positive. -/
theorem magnitude_pos {mantissa : Nat} (exponent : Int) (h : 0 < mantissa) :
    0 < (mantissa : ℚ) * 2 ^ exponent := by
  positivity

/-- A binary number with an exact value is no not-a-number. -/
theorem ne_nan_of_exact {b : Binary} {p : WithBot (WithTop ℚ)} (h : b.exact = some p) :
    b ≠ .nan := by
  rintro rfl
  simp [Binary.exact] at h

section Canonical

/-- A mantissa and an exponent as a double's bits give them: a mantissa below 2^53, and at
least 2^52 above the least exponent. -/
def Canonical (mantissa : Nat) (exponent : Int) : Prop :=
  mantissa < 2 ^ 53 ∧ -1074 ≤ exponent ∧ (exponent = -1074 ∨ 2 ^ 52 ≤ mantissa)

variable {m₁ m₂ : Nat} {e₁ e₂ : Int}

/-- Of two canonical magnitudes, the one with the smaller exponent is smaller. -/
theorem magnitude_lt_of_exponent_lt (h₁ : Canonical m₁ e₁) (h₂ : Canonical m₂ e₂)
    (he : e₁ < e₂) : (m₁ : ℚ) * 2 ^ e₁ < m₂ * 2 ^ e₂ := by
  obtain ⟨hm₁, hlow₁, -⟩ := h₁
  -- the larger exponent is not the least one, so its mantissa is at least 2^52
  have hm₂ : 2 ^ 52 ≤ m₂ := h₂.2.2.resolve_left (by omega)
  calc (m₁ : ℚ) * 2 ^ e₁
      < 2 ^ 53 * 2 ^ e₁ := by gcongr; exact_mod_cast hm₁
    _ = 2 ^ 52 * 2 ^ (e₁ + 1) := by rw [zpow_add₀ two_ne_zero]; ring
    _ ≤ 2 ^ 52 * 2 ^ e₂ := by gcongr; norm_num; omega
    _ ≤ m₂ * 2 ^ e₂ := by gcongr; exact_mod_cast hm₂

/-- Exponent first and mantissa next is the order of the values of canonical forms. -/
theorem compare_magnitude (h₁ : Canonical m₁ e₁) (h₂ : Canonical m₂ e₂) :
    (compare e₁ e₂).then (compare m₁ m₂) = compare ((m₁ : ℚ) * 2 ^ e₁) (m₂ * 2 ^ e₂) := by
  rcases lt_trichotomy e₁ e₂ with hlt | rfl | hgt
  · rw [compare_lt_iff_lt.2 hlt, compare_lt_iff_lt.2 (magnitude_lt_of_exponent_lt h₁ h₂ hlt)]
    rfl
  · have hmono : StrictMono fun m : Nat => (m : ℚ) * 2 ^ e₁ := fun a b h => by
      dsimp only
      gcongr
    rw [compare_eq_iff_eq.2 rfl, compare_of_strictMono hmono]
    rfl
  · rw [compare_gt_iff_gt.2 hgt, compare_gt_iff_gt.2 (magnitude_lt_of_exponent_lt h₂ h₁ hgt)]
    rfl

end Canonical

/-- Whether a sign is the minus sign. -/
def isMinus : UnpackedFloat.Sign → Bool
  | .negative => true
  | .positive => false

/-- An unpacked double in canonical form beside the parts of the same double. -/
inductive Represents : UnpackedFloat → Binary → Prop
  | infinity (sign : UnpackedFloat.Sign) : Represents (.infinity sign) (.infinite (isMinus sign))
  | zero (sign : UnpackedFloat.Sign) (negative : Bool) (exponent : Int) :
      Represents (.zero sign) (.finite negative 0 exponent)
  | finite (sign : UnpackedFloat.Sign) (mantissa : Nat) (exponent : Int) (h : 0 < mantissa) :
      Canonical mantissa exponent →
      Represents (.finite sign mantissa exponent h) (.finite (isMinus sign) mantissa exponent)

/-- A finite float is represented by the binary number of the same sign, mantissa and exponent, when
these are canonical. -/
theorem Represents.of_parts {sign : UnpackedFloat.Sign} {mantissa : Nat} {exponent : Int}
    {h : 0 < mantissa} {negative : Bool} {mantissa' : Nat} {exponent' : Int}
    (hm : mantissa' = mantissa) (he : exponent' = exponent) (hs : negative = isMinus sign)
    (hc : Canonical mantissa exponent) :
    Represents (.finite sign mantissa exponent h) (.finite negative mantissa' exponent') := by
  subst hm he hs
  exact .finite _ _ _ _ hc

/-- IEEE comparison of canonical forms is the order of the places of the doubles. -/
theorem Represents.compare {x y : UnpackedFloat} {a b : Binary} {p q : WithBot (WithTop ℚ)}
    (hx : Represents x a) (hy : Represents y b) (hp : a.exact = some p) (hq : b.exact = some q) :
    x.compare y = some (compare p q) := by
  cases hx <;> cases hy <;> simp only [Binary.exact, Option.some.injEq] at hp hq <;> subst hp hq
  case infinity.infinity s s' =>
    cases s <;> cases s' <;> simp [UnpackedFloat.compare, isMinus] <;> rfl
  case infinity.zero s _ _ _ => cases s <;> simp [UnpackedFloat.compare, isMinus]
  case infinity.finite s _ _ _ _ _ => cases s <;> simp [UnpackedFloat.compare, isMinus]
  case zero.infinity _ _ _ s => cases s <;> simp [UnpackedFloat.compare, isMinus]
  case finite.infinity _ _ _ _ _ s => cases s <;> simp [UnpackedFloat.compare, isMinus]
  case zero.zero => simp [UnpackedFloat.compare, finiteValue]
  case zero.finite _ _ _ s m e h _ =>
    have hpos := magnitude_pos e h
    rw [compare_finite, finiteValue_zero]
    cases s
    · rw [compare_gt_iff_gt.2 (by simpa [isMinus] using hpos)]; rfl
    · rw [compare_lt_iff_lt.2 (by simpa [isMinus] using hpos)]; rfl
  case finite.zero s m e h _ _ _ _ =>
    have hpos := magnitude_pos e h
    rw [compare_finite, finiteValue_zero]
    cases s
    · rw [compare_lt_iff_lt.2 (by simpa [isMinus] using hpos)]; rfl
    · rw [compare_gt_iff_gt.2 (by simpa [isMinus] using hpos)]; rfl
  case finite.finite s m e h hc s' m' e' h' hc' =>
    have hpos := magnitude_pos e h
    have hpos' := magnitude_pos e' h'
    rw [compare_finite]
    cases s <;> cases s' <;>
      simp only [UnpackedFloat.compare, isMinus, finiteValue_true, finiteValue_false]
    · rw [compare_neg_neg, compare_magnitude hc hc']
    · rw [compare_lt_iff_lt.2 (by linarith)]
    · rw [compare_gt_iff_gt.2 (by linarith)]
    · rw [compare_magnitude hc hc']

section Bits

/-- The sign bit of a float is its top bit. -/
theorem unpackSign_toNat (f : Float) :
    (@UnpackedFloat.unpackSign Format.binary64 f.toModel.toBits.toBitVec).toNat =
      f.toBits.toNat / twoPow 63 % 2 := by
  simp [UnpackedFloat.unpackSign, Format.binary64, twoPow, Nat.shiftRight_eq_div_pow]
  rfl

/-- A float is negative exactly when its top bit is set. -/
theorem isMinus_ofBitVec (f : Float) :
    isMinus (UnpackedFloat.Sign.ofBitVec
      (@UnpackedFloat.unpackSign Format.binary64 f.toModel.toBits.toBitVec)) =
      (f.toBits.toNat / twoPow 63 % 2 == 1) := by
  have h := unpackSign_toNat f
  unfold UnpackedFloat.Sign.ofBitVec
  split_ifs with h0
  · -- the sign bit is clear
    have hbit : f.toBits.toNat / twoPow 63 % 2 = 0 := by
      rw [← h, h0]
      rfl
    rw [hbit]
    rfl
  · -- the sign bit is set
    have hne : f.toBits.toNat / twoPow 63 % 2 ≠ 0 := fun hz =>
      h0 (BitVec.eq_of_toNat_eq (by rw [h, hz]; rfl))
    have hbit : f.toBits.toNat / twoPow 63 % 2 = 1 := by omega
    rw [hbit]
    rfl

/-- The mantissa of a normal float is its low 52 bits with the hidden bit above them. -/
theorem normalMantissa_toNat (f : Float) :
    (1#1 ++ @UnpackedFloat.unpackMantissa Format.binary64 f.toModel.toBits.toBitVec).toNat =
      f.toBits.toNat % twoPow 52 + twoPow 52 := by
  rw [BitVec.toNat_append, ← Nat.shiftLeft_add_eq_or_of_lt (BitVec.isLt _), unpackMantissa_toNat]
  simp [Nat.shiftLeft_eq, twoPow, Nat.add_comm]

/-- A double's unpacked form is canonical and has the parts its bits give. -/
theorem represents_unpack (f : Float) (h : Binary.ofFloat f ≠ .nan) :
    Represents f.toModel.unpack (Binary.ofFloat f) := by
  unfold Float.Model.unpack UnpackedFloat.unpack
  unfold Binary.ofFloat at h ⊢
  have hmax : (-1#11).toNat = 2047 := rfl
  simp only [BitVec.toNat_eq, unpackExponent_toNat, unpackMantissa_toNat, hmax,
    BitVec.toNat_zero] at h ⊢
  rw [← isMinus_ofBitVec f]
  have hfrac : f.toBits.toNat % twoPow 52 < twoPow 52 := Nat.mod_lt _ (by simp [twoPow])
  have hbias : (Format.binary64.exponentBias : Int) = 1023 := rfl
  split_ifs at h ⊢ with hinf hzero hsub
  · exact .infinity _
  · exact absurd rfl h
  · rename_i hzero
    rw [hzero]
    exact .zero _ _ _
  · -- a subnormal double: the least exponent and a mantissa below 2^52
    refine Represents.of_parts rfl ?_ rfl ⟨?_, ?_, .inl ?_⟩
    all_goals simp only [twoPow, Nat.pow_eq, Nat.reducePow, hbias] at *
    all_goals omega
  · -- a normal double: the hidden bit makes the mantissa at least 2^52
    refine Represents.of_parts (normalMantissa_toNat f).symm ?_ rfl ?_
    · simp only [hbias]
      omega
    · rw [normalMantissa_toNat]
      simp only [Canonical, twoPow, Nat.pow_eq, Nat.reducePow] at *
      omega

end Bits

/-- A float is below another exactly when their unpacked forms compare below. -/
theorem lt_iff_compare (f g : Float) :
    f < g ↔ f.toModel.unpack.compare g.toModel.unpack = some .lt := by
  show decide _ = true ↔ _
  simp only [decide_eq_true_eq]
  change (f.toModel.unpack.compare g.toModel.unpack == some .lt) = true ↔ _
  simp

/-- Two floats are equal exactly when their unpacked forms compare equal. -/
theorem beq_iff_compare (f g : Float) :
    (f == g) = true ↔ f.toModel.unpack.compare g.toModel.unpack = some .eq := by
  change (f.toModel.unpack.compare g.toModel.unpack == some .eq) = true ↔ _
  simp

/-- IEEE comparison of two doubles is the order of their places. -/
theorem compare_unpack {f g : Float} {p q : WithBot (WithTop ℚ)}
    (hf : (Binary.ofFloat f).exact = some p) (hg : (Binary.ofFloat g).exact = some q) :
    f.toModel.unpack.compare g.toModel.unpack = some (compare p q) :=
  (represents_unpack f (ne_nan_of_exact hf)).compare (represents_unpack g (ne_nan_of_exact hg))
    hf hg

/-- The exact comparison of an integer with a finite double, made on integers scaled by a
power of two, is the comparison of their values. -/
theorem compare_scaled (i : Int) (negative : Bool) (mantissa : Nat) (exponent : Int) :
    compare (i * (twoPow (-exponent).toNat : Int))
      ((if negative then -(mantissa : Int) else mantissa) * (twoPow exponent.toNat : Int)) =
      compare (i : ℚ) (finiteValue negative mantissa exponent) := by
  have hscale : ((2 : ℚ) ^ exponent) * 2 ^ (-exponent).toNat = 2 ^ exponent.toNat := by
    rw [← zpow_natCast, ← zpow_natCast, ← zpow_add₀ two_ne_zero]
    congr 1
    omega
  have hmono : StrictMono fun r : ℚ => r * 2 ^ (-exponent).toNat := fun a b h => by
    dsimp only
    gcongr
  rw [← compare_of_strictMono hmono, ← compare_of_strictMono Int.cast_strictMono (α := ℤ) (β := ℚ)]
  cases negative <;> simp [finiteValue, mul_assoc, hscale]

end Number

namespace Num

open Adventure.Number

/-- The place of a number on the line of rationals closed by two infinities; none for
not-a-number. -/
def exact : Num → Option (WithBot (WithTop ℚ))
  | .int i => some ((i : ℚ) : WithTop ℚ)
  | .float f => (Binary.ofFloat f).exact

/-- An integer and a float compare as their exact values. -/
theorem compareIntFloat_exact {i : Int} {f : Float} {q : WithBot (WithTop ℚ)}
    (hf : (Binary.ofFloat f).exact = some q) :
    compareIntFloat i f = some (compare (((i : ℚ) : WithTop ℚ) : WithBot (WithTop ℚ)) q) := by
  unfold compareIntFloat
  cases h : Binary.ofFloat f with
  | nan => simp [h, Binary.exact] at hf
  | infinite negative =>
    rw [h] at hf
    cases negative <;> simp only [Binary.exact, Option.some.injEq] at hf <;> subst hf <;> simp
  | finite negative mantissa exponent =>
    rw [h] at hf
    simp only [Binary.exact, Option.some.injEq] at hf
    subst hf
    dsimp only
    rw [compare_finite, compare_scaled]

/-- Comparison of numbers, integers and doubles mixed, is the order of their places. -/
theorem compare?_exact {a b : Num} {x y : WithBot (WithTop ℚ)} (ha : a.exact = some x)
    (hb : b.exact = some y) : a.compare? b = some (compare x y) := by
  cases a with
  | int i =>
    cases b with
    | int j =>
      simp only [exact, Option.some.injEq] at ha hb
      subst ha hb
      rw [compare?, compare_finite, compare_of_strictMono Int.cast_strictMono]
    | float g =>
      simp only [exact, Option.some.injEq] at ha hb
      subst ha
      exact compareIntFloat_exact hb
  | float f =>
    cases b with
    | int j =>
      simp only [exact, Option.some.injEq] at ha hb
      subst hb
      rw [compare?, compareIntFloat_exact ha, Option.map_some, swap_compare]
    | float g =>
      simp only [exact] at ha hb
      have hfg : f < g ↔ compare x y = .lt := by
        rw [lt_iff_compare, compare_unpack ha hb, Option.some_inj]
      have hgf : g < f ↔ compare x y = .gt := by
        rw [lt_iff_compare, compare_unpack hb ha, Option.some_inj, ← swap_compare,
          Ordering.swap_eq_lt]
      have heq : (f == g) = true ↔ compare x y = .eq := by
        rw [beq_iff_compare, compare_unpack ha hb, Option.some_inj]
      rw [compare?]
      cases h : compare x y <;> simp_all

variable {a b : Num} {x y : WithBot (WithTop ℚ)}

/-- Numbers with exact values compare below as those values. -/
theorem lt_exact (ha : a.exact = some x) (hb : b.exact = some y) : a.lt b = decide (x < y) := by
  rw [lt, compare?_exact ha hb, Bool.eq_iff_iff, beq_iff_eq, Option.some_inj, decide_eq_true_iff,
    compare_lt_iff_lt]

/-- Numbers with exact values are equal as those values. -/
theorem eq_exact (ha : a.exact = some x) (hb : b.exact = some y) : a.eq b = decide (x = y) := by
  rw [eq, compare?_exact ha hb, Bool.eq_iff_iff, beq_iff_eq, Option.some_inj, decide_eq_true_iff,
    compare_eq_iff_eq]

end Num

namespace Value

/-- The place of a value that stands for a number other than not-a-number. -/
def exact (v : Value) : Option (WithBot (WithTop ℚ)) := v.num?.bind Num.exact

variable {a b : Value} {x y : WithBot (WithTop ℚ)}

/-- A value with an exact value is a number with that exact value. -/
theorem exists_num_of_exact (h : a.exact = some x) : ∃ n, a.num? = some n ∧ n.exact = some x := by
  cases hn : a.num? with
  | none => simp [exact, hn] at h
  | some n => exact ⟨n, rfl, by simpa [exact, hn] using h⟩

/-- Values that stand for numbers compare by their places. -/
theorem lessThan_exact (ha : a.exact = some x) (hb : b.exact = some y) :
    a.lessThan b = .ok (decide (x < y)) := by
  obtain ⟨n, hn, hnx⟩ := exists_num_of_exact ha
  obtain ⟨m, hm, hmy⟩ := exists_num_of_exact hb
  rw [← Num.lt_exact hnx hmy]
  cases a <;> cases b <;> simp_all [num?, lessThan]

/-- Values that stand for numbers are equal when their places are. -/
theorem equals_exact (ha : a.exact = some x) (hb : b.exact = some y) :
    a.equals b = decide (x = y) := by
  obtain ⟨n, hn, hnx⟩ := exists_num_of_exact ha
  obtain ⟨m, hm, hmy⟩ := exists_num_of_exact hb
  rw [← Num.eq_exact hnx hmy]
  cases a <;> cases b <;> simp_all [num?, equals]

end Value

end Adventure
