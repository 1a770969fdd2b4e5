import Mathlib
import Adventure.Number.Binary

/-! Every rational number in the rounding interval of a double is rounded to that double by
`nearestBits`, so a double's exact value, or any decimal close enough to it, reads back as it. -/

namespace Adventure.Number

@[simp] theorem twoPow_eq (k : Nat) : twoPow k = 2 ^ k := rfl

@[simp] theorem tenPow_eq (k : Nat) : tenPow k = 10 ^ k := rfl

/-- A power of two of either sign, as a quotient of two natural powers. -/
theorem two_zpow_eq (shift : Int) :
    (2 : ℚ) ^ shift = 2 ^ shift.toNat / 2 ^ (-shift).toNat := by
  conv_lhs => rw [← Int.toNat_sub_toNat_neg shift]
  rw [zpow_sub₀ two_ne_zero, zpow_natCast, zpow_natCast]

/-- The ratio of two powers of two. -/
theorem two_zpow_div (a b : ℤ) : (2 : ℚ) ^ a / 2 ^ b = 2 ^ (a - b) :=
  (zpow_sub₀ two_ne_zero a b).symm

/-- `scaledQuotient` divides with a positive divisor, and quotient and remainder together are
the scaled value `num / den / 2^shift`. -/
theorem scaledQuotient_spec {num den q r d : Nat} {shift : Int} (hden : 0 < den)
    (h : scaledQuotient num den shift = (q, r, d)) :
    0 < d ∧ r < d ∧ (q : ℚ) + r / d = num / den / 2 ^ shift := by
  simp only [scaledQuotient, twoPow_eq, Prod.mk.injEq] at h
  obtain ⟨rfl, rfl, rfl⟩ := h
  have hd : 0 < den * 2 ^ shift.toNat := Nat.mul_pos hden (Nat.two_pow_pos _)
  refine ⟨hd, Nat.mod_lt _ hd, ?_⟩
  have hsplit := Nat.div_add_mod (num * 2 ^ (-shift).toNat) (den * 2 ^ shift.toNat)
  generalize num * 2 ^ (-shift).toNat / (den * 2 ^ shift.toNat) = q at hsplit
  generalize num * 2 ^ (-shift).toNat % (den * 2 ^ shift.toNat) = r at hsplit
  have hsplitQ : (den * 2 ^ shift.toNat * q + r : ℚ) = num * 2 ^ (-shift).toNat := by
    exact_mod_cast hsplit
  have hden' : (den : ℚ) ≠ 0 := by exact_mod_cast hden.ne'
  rw [two_zpow_eq]
  push_cast
  field_simp
  linear_combination hsplitQ

/-- Rounding `q + r / d` to the nearest integer, ties to even, gives `m` when the value lies
within half of `m`, strictly within when `m` is odd. -/
theorem roundHalfEven_eq {q r d m : Nat} (hd : 0 < d) (hr : r < d)
    (hlo : (m : ℚ) - 1 / 2 ≤ q + r / d) (hhi : (q : ℚ) + r / d ≤ m + 1 / 2)
    (hodd : m % 2 = 1 → (m : ℚ) - 1 / 2 < q + r / d ∧ (q : ℚ) + r / d < m + 1 / 2) :
    (if (decide (2 * r > d) || (decide (2 * r = d) && decide (q % 2 = 1))) = true
      then q + 1 else q) = m := by
  have hdq : (0 : ℚ) < d := by exact_mod_cast hd
  have hfrac : (r : ℚ) / d < 1 := by
    rw [div_lt_one hdq]
    exact_mod_cast hr
  have hfrac0 : (0 : ℚ) ≤ r / d := by positivity
  -- the value lies in `[q, q + 1)`, so `q` is `m` or `m - 1`
  have hq : q = m ∨ q + 1 = m := by
    have h1 : (q : ℚ) < m + 1 := by linarith
    have h2 : (m : ℚ) < q + 2 := by linarith
    have h1' : q < m + 1 := by exact_mod_cast h1
    have h2' : m < q + 2 := by exact_mod_cast h2
    omega
  rcases hq with rfl | rfl
  · -- rounding down: the remainder is at most half of the divisor
    have hle : 2 * r ≤ d := by
      have : (r : ℚ) / d ≤ 1 / 2 := by linarith
      rw [div_le_iff₀ hdq] at this
      have : (2 * r : ℚ) ≤ d := by linarith
      exact_mod_cast this
    rcases Nat.lt_or_eq_of_le hle with hlt | heq
    · simp [Nat.not_lt.2 hle, hlt.ne]
    · have htie : (q : ℚ) + r / d = q + 1 / 2 := by
        have : (2 * r : ℚ) = d := by exact_mod_cast heq
        field_simp
        linarith
      have heven : q % 2 = 0 := by
        by_contra hne
        have := (hodd (by omega)).2
        linarith
      simp [heven, hle]
  · -- rounding up: the remainder is at least half of the divisor
    have hge : d ≤ 2 * r := by
      have : (1 : ℚ) / 2 ≤ r / d := by push_cast at hlo; linarith
      rw [le_div_iff₀ hdq] at this
      have : (d : ℚ) ≤ 2 * r := by linarith
      exact_mod_cast this
    rcases Nat.lt_or_eq_of_le hge with hlt | heq
    · simp [hlt]
    · have htie : (q : ℚ) + r / d = (q + 1 : Nat) - 1 / 2 := by
        have : (2 * r : ℚ) = d := by exact_mod_cast heq.symm
        push_cast
        field_simp
        linarith
      have hodd' : q % 2 = 1 := by
        by_contra hne
        have := (hodd (by omega)).1
        linarith
      simp [hodd', heq]

-----------------------------------------------------------------------------------------------
-- The exponent of the last mantissa bit
-----------------------------------------------------------------------------------------------

/-- `shift` places `x` in the mantissa range of a double: `x / 2^shift` is below 2^53, and at
least 2^52 unless `shift` is the least exponent. -/
structure ShiftFits (x : ℚ) (shift : Int) : Prop where
  least : -1074 ≤ shift
  below : x / 2 ^ shift < 2 ^ 53
  normal : shift = -1074 ∨ 2 ^ 52 ≤ x / 2 ^ shift

/-- Of two exponents that place `x` in the mantissa range, neither is above the other: the
larger would leave a mantissa of at least 2^53 at the smaller. -/
theorem ShiftFits.le {x : ℚ} {s t : Int} (hs : ShiftFits x s) (ht : ShiftFits x t) : s ≤ t := by
  by_contra hlt
  have hnormal : 2 ^ 52 ≤ x / 2 ^ s := hs.normal.resolve_left (by have := ht.least; omega)
  have hscale : x / 2 ^ t = x / 2 ^ s * 2 ^ (s - t) := by
    rw [zpow_sub₀ two_ne_zero]
    field_simp
  have htwo : (2 : ℚ) ≤ 2 ^ (s - t) := by
    calc (2 : ℚ) = 2 ^ (1 : ℤ) := by norm_num
      _ ≤ 2 ^ (s - t) := zpow_le_zpow_right₀ one_le_two (by omega)
  have hbelow := ht.below
  rw [hscale] at hbelow
  nlinarith

/-- A rational has at most one exponent that places it in the mantissa range of a double. -/
theorem ShiftFits.unique {x : ℚ} {s t : Int} (hs : ShiftFits x s) (ht : ShiftFits x t) :
    s = t :=
  le_antisymm (hs.le ht) (ht.le hs)

/-- `num / den` lies strictly between `2^(log2 num - log2 den - 1)` and
`2^(log2 num - log2 den + 1)`. -/
theorem log2_bounds {num den : Nat} (hnum : 0 < num) (hden : 0 < den) :
    (2 : ℚ) ^ ((num.log2 : ℤ) - den.log2 - 1) < num / den ∧
      (num / den : ℚ) < 2 ^ ((num.log2 : ℤ) - den.log2 + 1) := by
  have hnum_lo : ((2 ^ num.log2 : Nat) : ℚ) ≤ num := by exact_mod_cast Nat.log2_self_le hnum.ne'
  have hnum_hi : (num : ℚ) < (2 ^ (num.log2 + 1) : Nat) := by exact_mod_cast Nat.lt_log2_self
  have hden_lo : ((2 ^ den.log2 : Nat) : ℚ) ≤ den := by exact_mod_cast Nat.log2_self_le hden.ne'
  have hden_hi : (den : ℚ) < (2 ^ (den.log2 + 1) : Nat) := by exact_mod_cast Nat.lt_log2_self
  push_cast at hnum_lo hnum_hi hden_lo hden_hi
  have hdenq : (0 : ℚ) < den := by exact_mod_cast hden
  constructor
  · rw [show ((num.log2 : ℤ) - den.log2 - 1) = (num.log2 : ℤ) - (den.log2 + 1 : ℕ) by
        push_cast; ring,
      zpow_sub₀ two_ne_zero, zpow_natCast, zpow_natCast, div_lt_div_iff₀ (by positivity) hdenq]
    calc (2 : ℚ) ^ num.log2 * den < 2 ^ num.log2 * 2 ^ (den.log2 + 1) := by gcongr
      _ ≤ num * 2 ^ (den.log2 + 1) := by gcongr
  · rw [show ((num.log2 : ℤ) - den.log2 + 1) = (num.log2 + 1 : ℕ) - (den.log2 : ℤ) by
        push_cast; ring,
      zpow_sub₀ two_ne_zero, zpow_natCast, zpow_natCast, div_lt_div_iff₀ hdenq (by positivity)]
    calc (num : ℚ) * 2 ^ den.log2 ≤ num * den := by gcongr
      _ < 2 ^ (num.log2 + 1) * den := by gcongr

/-- `mantissaShift` places `num / den` in the mantissa range. Its estimate from the binary
logarithms leaves a quotient below 2^54, and at least 2^52 unless it is the least exponent;
one more step down by two fixes a quotient of 2^53 or more. -/
theorem mantissaShift_fits {num den : Nat} (hnum : 0 < num) (hden : 0 < den) :
    ShiftFits (num / den) (mantissaShift num den) := by
  obtain ⟨hlo, hhi⟩ := log2_bounds hnum hden
  set x : ℚ := num / den
  set a : ℤ := (num.log2 : ℤ)
  set b : ℤ := (den.log2 : ℤ)
  set est : ℤ := max (a - b - 53) (-1074) with hest
  have hbelow : x / 2 ^ est < 2 ^ 54 := by
    have hx : 0 < x := by positivity
    calc x / 2 ^ est ≤ x / 2 ^ (a - b - 53) := by
          gcongr
          · norm_num
          · exact le_max_left _ _
      _ < 2 ^ (a - b + 1) / 2 ^ (a - b - 53) := by gcongr
      _ = 2 ^ 54 := by rw [two_zpow_div, show a - b + 1 - (a - b - 53) = (54 : ℤ) by ring]; rfl
  have habove : est = -1074 ∨ 2 ^ 52 < x / 2 ^ est := by
    rcases le_total (a - b - 53) (-1074) with hle | hle
    · exact Or.inl (max_eq_right hle)
    · right
      rw [hest, max_eq_left hle]
      calc (2 : ℚ) ^ 52 = 2 ^ (a - b - 1) / 2 ^ (a - b - 53) := by
            rw [two_zpow_div, show a - b - 1 - (a - b - 53) = (52 : ℤ) by ring]; rfl
        _ < x / 2 ^ (a - b - 53) := by gcongr
  obtain ⟨⟨q, r, d⟩, hsq⟩ : ∃ t, scaledQuotient num den est = t := ⟨_, rfl⟩
  obtain ⟨hd, hr, hval⟩ := scaledQuotient_spec hden hsq
  have hfrac : (0 : ℚ) ≤ r / d ∧ (r : ℚ) / d < 1 := by
    have hdq : (0 : ℚ) < d := by exact_mod_cast hd
    exact ⟨by positivity, by rw [div_lt_one hdq]; exact_mod_cast hr⟩
  have hmin : -1074 ≤ est := le_max_right _ _
  show ShiftFits x (if (scaledQuotient num den est).1 < twoPow 53 then est else est + 1)
  rw [hsq, twoPow_eq]
  split_ifs with hq
  · have hqq : (q : ℚ) + 1 ≤ 2 ^ 53 := by exact_mod_cast hq
    exact ⟨hmin, by linarith, habove.imp_right le_of_lt⟩
  · have hqq : (2 : ℚ) ^ 53 ≤ q := by exact_mod_cast Nat.not_lt.1 hq
    have hhalf : x / 2 ^ (est + 1) = x / 2 ^ est / 2 := by
      rw [zpow_add₀ two_ne_zero]
      ring
    refine ⟨by omega, ?_, Or.inr ?_⟩ <;> rw [hhalf] <;> linarith

-----------------------------------------------------------------------------------------------
-- Rounding intervals
-----------------------------------------------------------------------------------------------

/-- The parts `m * 2^e` of a positive finite double, as `Binary.ofFloat` reads them off its
bits: a mantissa below 2^53, at least 2^52 unless the exponent is the least one. -/
structure Parts (m : Nat) (e : Int) : Prop where
  pos : 0 < m
  lt : m < 2 ^ 53
  least : -1074 ≤ e
  most : e ≤ 971
  subnormal : m < 2 ^ 52 → e = -1074

/-- The bits of the positive double with parts `m * 2^e`. -/
def partsBits (m : Nat) (e : Int) : Nat :=
  if m < 2 ^ 52 then m else (e + 1075).toNat * 2 ^ 52 + (m - 2 ^ 52)

/-- The lower end of the rounding interval of `m * 2^e`, half-way to the double below; that
double is nearer when `m * 2^e` is the least normal double of its binade. -/
def lowerEnd (m : Nat) (e : Int) : ℚ :=
  (4 * m - if m = 2 ^ 52 ∧ -1074 < e then 1 else 2) * 2 ^ (e - 2)

/-- The upper end of the rounding interval of `m * 2^e`, half-way to the double above. -/
def upperEnd (m : Nat) (e : Int) : ℚ := (4 * m + 2) * 2 ^ (e - 2)

/-- `x` rounds to the double `m * 2^e`: it lies in the rounding interval, whose ends belong to
it when `m` is even. -/
def RoundsTo (m : Nat) (e : Int) (x : ℚ) : Prop :=
  if m % 2 = 0 then lowerEnd m e ≤ x ∧ x ≤ upperEnd m e
  else lowerEnd m e < x ∧ x < upperEnd m e

/-- A rational that rounds to a double lies within the double's rounding interval. -/
theorem RoundsTo.bounds {m : Nat} {e : Int} {x : ℚ} (h : RoundsTo m e x) :
    lowerEnd m e ≤ x ∧ x ≤ upperEnd m e := by
  unfold RoundsTo at h
  split_ifs at h
  · exact h
  · exact ⟨h.1.le, h.2.le⟩

/-- A rational that rounds to a double of odd mantissa lies strictly inside its rounding
interval. -/
theorem RoundsTo.strict {m : Nat} {e : Int} {x : ℚ} (h : RoundsTo m e x) (hodd : m % 2 = 1) :
    lowerEnd m e < x ∧ x < upperEnd m e := by
  unfold RoundsTo at h
  rwa [if_neg (by omega)] at h

/-- The rounding interval of a positive double starts above zero. -/
theorem lowerEnd_pos {m : Nat} {e : Int} (hm : 0 < m) : 0 < lowerEnd m e := by
  have : (1 : ℚ) ≤ m := by exact_mod_cast hm
  unfold lowerEnd
  split_ifs <;> apply mul_pos <;> first | linarith | positivity

/-- A multiple of `2^(e-2)` scaled down by `2^e`. -/
theorem quarter_scale (k : ℚ) (e : Int) : k * 2 ^ (e - 2) / 2 ^ e = k / 4 := by
  rw [zpow_sub₀ two_ne_zero]
  field_simp
  norm_num

/-- A value that rounds to `m * 2^e` lies within half of `m` once scaled down by `2^e`. -/
theorem scaled_bounds {m : Nat} {e : Int} {x : ℚ} (rounds : RoundsTo m e x) :
    (m : ℚ) - 1 / 2 ≤ x / 2 ^ e ∧ x / 2 ^ e ≤ m + 1 / 2 := by
  obtain ⟨hlo, hhi⟩ := rounds.bounds
  have hpow : (0 : ℚ) < 2 ^ e := by positivity
  constructor
  · have := div_le_div_of_nonneg_right hlo hpow.le
    rw [lowerEnd, quarter_scale] at this
    split_ifs at this <;> linarith
  · have := div_le_div_of_nonneg_right hhi hpow.le
    rw [upperEnd, quarter_scale] at this
    linarith

/-- For an odd mantissa the scaled bounds are strict. -/
theorem scaled_bounds_of_odd {m : Nat} {e : Int} {x : ℚ} (rounds : RoundsTo m e x)
    (hodd : m % 2 = 1) : (m : ℚ) - 1 / 2 < x / 2 ^ e ∧ x / 2 ^ e < m + 1 / 2 := by
  obtain ⟨hlo, hhi⟩ := rounds.strict hodd
  have hpow : (0 : ℚ) < 2 ^ e := by positivity
  have hnotfoot : ¬ (m = 2 ^ 52 ∧ -1074 < e) := fun h => by rw [h.1] at hodd; norm_num at hodd
  constructor
  · have := div_lt_div_of_pos_right hlo hpow
    rw [lowerEnd, if_neg hnotfoot, quarter_scale] at this
    linarith
  · have := div_lt_div_of_pos_right hhi hpow
    rw [upperEnd, quarter_scale] at this
    linarith

/-- Away from the foot of a binade, a value that rounds to `m * 2^e` takes the exponent `e`. -/
theorem fits_of_roundsTo {m : Nat} {e : Int} {x : ℚ} (parts : Parts m e)
    (rounds : RoundsTo m e x) (hfoot : ¬ (m = 2 ^ 52 ∧ -1074 < e ∧ x < m * 2 ^ e)) :
    ShiftFits x e := by
  obtain ⟨hdown, hup⟩ := scaled_bounds rounds
  have hpow : (0 : ℚ) < 2 ^ e := by positivity
  have hm : (m : ℚ) + 1 ≤ 2 ^ 53 := by exact_mod_cast parts.lt
  refine ⟨parts.least, by linarith, ?_⟩
  rcases Nat.lt_trichotomy m (2 ^ 52) with hlt | heq | hgt
  · exact Or.inl (parts.subnormal hlt)
  · by_cases he : e = -1074
    · exact Or.inl he
    · right
      have hx : (m : ℚ) * 2 ^ e ≤ x := by
        by_contra hlt
        exact hfoot ⟨heq, by have := parts.least; omega, not_le.1 hlt⟩
      rw [le_div_iff₀ hpow]
      rw [heq] at hx
      exact_mod_cast hx
  · right
    have : (2 : ℚ) ^ 52 + 1 ≤ m := by exact_mod_cast hgt
    linarith

/-- At the foot of a binade, a value below `2^52 * 2^e` that rounds to it lies within half of
2^53 once scaled down by `2^(e-1)`. -/
theorem foot_scaled_bounds {e : Int} {x : ℚ} (rounds : RoundsTo (2 ^ 52) e x)
    (he : -1074 < e) (hx : x < (2 ^ 52 : Nat) * 2 ^ e) :
    (2 : ℚ) ^ 53 - 1 / 2 ≤ x / 2 ^ (e - 1) ∧ x / 2 ^ (e - 1) < 2 ^ 53 := by
  obtain ⟨hlo, -⟩ := rounds.bounds
  have hpow : (0 : ℚ) < 2 ^ e := by positivity
  have hdouble : x / 2 ^ (e - 1) = 2 * (x / 2 ^ e) := by
    rw [zpow_sub₀ two_ne_zero]
    field_simp
  have := div_le_div_of_nonneg_right hlo hpow.le
  rw [lowerEnd, if_pos ⟨rfl, he⟩, quarter_scale] at this
  rw [hdouble]
  constructor
  · push_cast at this
    linarith
  · have : x / 2 ^ e < 2 ^ 52 := by
      rw [div_lt_iff₀ hpow]
      exact_mod_cast hx
    linarith

/-- Every rational number that rounds to a positive double is rounded to that double's bits by
`nearestBits`. -/
theorem nearestBits_eq_partsBits {m num den : Nat} {e : Int} (parts : Parts m e)
    (hden : 0 < den) (rounds : RoundsTo m e (num / den)) :
    nearestBits num den = some (partsBits m e) := by
  have hnum : 0 < num := by
    have hx := (lowerEnd_pos parts.pos).trans_le rounds.bounds.1
    rcases Nat.eq_zero_or_pos num with h | h
    · simp [h] at hx
    · exact h
  obtain ⟨⟨q, r, d⟩, hsq⟩ : ∃ t, scaledQuotient num den (mantissaShift num den) = t := ⟨_, rfl⟩
  obtain ⟨hd, hr, hval⟩ := scaledQuotient_spec hden hsq
  have hbiased : ¬ (e + 1075 ≥ 2047) := by have := parts.most; omega
  by_cases hfoot : m = 2 ^ 52 ∧ -1074 < e ∧ (num / den : ℚ) < m * 2 ^ e
  · -- just below the least normal double of a binade: one bit more, rounding up to 2^53
    obtain ⟨rfl, he, hx⟩ := hfoot
    obtain ⟨hlo, hhi⟩ := foot_scaled_bounds rounds he hx
    have hshift := (mantissaShift_fits hnum hden).unique ⟨by omega, hhi, Or.inr (by linarith)⟩
    rw [hshift] at hval hsq
    have hround := roundHalfEven_eq (q := q) (m := 2 ^ 53) hd hr (by push_cast; linarith)
      (by push_cast; linarith) (by intro h; norm_num at h)
    unfold nearestBits
    simp only [hshift, hsq, hround, twoPow_eq]
    simp [partsBits, hbiased]
  · have hshift := (mantissaShift_fits hnum hden).unique (fits_of_roundsTo parts rounds hfoot)
    rw [hshift] at hval hsq
    obtain ⟨hdown, hup⟩ := scaled_bounds rounds
    have hround := roundHalfEven_eq (q := q) (m := m) hd hr (hval ▸ hdown) (hval ▸ hup)
      (fun hodd => hval ▸ scaled_bounds_of_odd rounds hodd)
    unfold nearestBits
    simp only [hshift, hsq, hround, twoPow_eq, if_neg parts.lt.ne]
    unfold partsBits
    split_ifs <;> simp_all

-----------------------------------------------------------------------------------------------
-- Doubles and their bits
-----------------------------------------------------------------------------------------------

/-- The bits of a finite double are its sign bit over the bits of its parts. -/
theorem ofFloat_finite_bits {f : Float} {negative : Bool} {m : Nat} {e : Int}
    (h : Binary.ofFloat f = .finite negative m e) :
    f.toBits.toNat = partsBits m e + if negative then 2 ^ 63 else 0 := by
  have hlt : f.toBits.toNat < 2 ^ 64 := f.toBits.toNat_lt
  unfold Binary.ofFloat at h
  generalize f.toBits.toNat = bits at h hlt ⊢
  dsimp only [twoPow_eq] at h
  unfold partsBits
  split at h
  · split at h <;> cases h
  split at h <;> injection h with hneg hm he <;> subst hm he hneg <;>
    simp only [beq_iff_eq] <;> split_ifs <;> norm_num at * <;> omega

/-- The parts of a finite nonzero double. -/
theorem ofFloat_finite_parts {f : Float} {negative : Bool} {m : Nat} {e : Int}
    (h : Binary.ofFloat f = .finite negative m e) (hm : 0 < m) : Parts m e := by
  have hlt : f.toBits.toNat < 2 ^ 64 := f.toBits.toNat_lt
  unfold Binary.ofFloat at h
  generalize f.toBits.toNat = bits at h hlt
  dsimp only [twoPow_eq] at h
  split at h
  · split at h <;> cases h
  split at h <;> injection h with hneg hm' he <;> subst hm' he hneg <;>
    constructor <;> norm_num at * <;> omega

/-- Every rational number that rounds to a nonzero finite double is rounded to that double by
`nearestFloat`, with the sign given apart. -/
theorem nearestFloat_eq_of_roundsTo {f : Float} {negative : Bool} {m num den : Nat} {e : Int}
    (hf : Binary.ofFloat f = .finite negative m e) (hm : 0 < m) (hden : 0 < den)
    (rounds : RoundsTo m e (num / den)) : nearestFloat negative num den = some f := by
  rw [nearestFloat, nearestBits_eq_partsBits (ofFloat_finite_parts hf hm) hden rounds,
    Option.map_some, Option.some.injEq]
  conv_rhs => rw [← Float.ofBits_toBits f]
  congr 1
  apply UInt64.toNat_inj.mp
  have hlt := f.toBits.toNat_lt
  rw [ofFloat_finite_bits hf] at hlt
  rw [UInt64.toNat_ofNat', ofFloat_finite_bits hf]
  cases negative <;> simp only [twoPow_eq, if_true, if_false, Bool.false_eq_true] at hlt ⊢ <;>
    omega

end Adventure.Number
