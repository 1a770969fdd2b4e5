import Adventure.Proofs.Number.Nearest
import Adventure.Number.Shortest

/-! The shortest digits of a positive double name a decimal that rounds back to it: the decimal
exponent is found exactly, and seventeen digits always leave a grid point inside the interval. -/

namespace Adventure.Number

-----------------------------------------------------------------------------------------------
-- The decimal exponent
-----------------------------------------------------------------------------------------------

/-- A power of ten of either sign, as a quotient of two natural powers. -/
theorem ten_zpow_eq (k : Int) :
    (10 : ℚ) ^ k = 10 ^ k.toNat / 10 ^ (-k).toNat := by
  conv_lhs => rw [← Int.toNat_sub_toNat_neg k]
  rw [zpow_sub₀ (by norm_num), zpow_natCast, zpow_natCast]

/-- `atLeastPow10` compares `m * 2^e` with `10^k` exactly. -/
theorem atLeastPow10_iff (m : Nat) (e k : Int) :
    atLeastPow10 m e k = true ↔ (10 : ℚ) ^ k ≤ m * 2 ^ e := by
  rw [atLeastPow10, decide_eq_true_iff, ten_zpow_eq, two_zpow_eq,
    mul_div_assoc', div_le_div_iff₀ (by positivity) (by positivity), ge_iff_le]
  simp only [twoPow_eq, tenPow_eq]
  constructor
  · intro h
    have : ((2 ^ (-e).toNat * 10 ^ k.toNat : Nat) : ℚ) ≤
        (m * 2 ^ e.toNat * 10 ^ (-k).toNat : Nat) := by exact_mod_cast h
    push_cast at this
    linarith
  · intro h
    have : ((2 ^ (-e).toNat * 10 ^ k.toNat : Nat) : ℚ) ≤
        (m * 2 ^ e.toNat * 10 ^ (-k).toNat : Nat) := by
      push_cast
      linarith
    exact_mod_cast this

/-- Each step of `settleLog10` moves its guess one closer to `⌊log10 (m * 2^e)⌋`, so a guess
fewer than `fuel` steps away settles on it. -/
theorem settleLog10_eq {m : Nat} {e : Int} (hm : 0 < m) :
    ∀ (fuel : Nat) (k : Int), (k - Int.log 10 ((m : ℚ) * 2 ^ e)).natAbs < fuel →
      settleLog10 m e fuel k = Int.log 10 ((m : ℚ) * 2 ^ e)
  | 0, _, h => absurd h (Nat.not_lt_zero _)
  | fuel + 1, k, h => by
    have hv : (0 : ℚ) < m * 2 ^ e := by positivity
    have hle : ∀ j, atLeastPow10 m e j = true ↔ j ≤ Int.log 10 ((m : ℚ) * 2 ^ e) := fun j => by
      rw [atLeastPow10_iff, ← Int.zpow_le_iff_le_log (by norm_num) hv]
      norm_num
    unfold settleLog10
    by_cases hk : atLeastPow10 m e k = true
    · have hk' := (hle k).1 hk
      by_cases hk1 : atLeastPow10 m e (k + 1) = true
      · have hk1' := (hle (k + 1)).1 hk1
        rw [if_neg (by simp [hk]), if_pos hk1]
        exact settleLog10_eq hm fuel (k + 1) (by omega)
      · have hk1' := mt (hle (k + 1)).2 hk1
        rw [if_neg (by simp [hk]), if_neg hk1]
        omega
    · have hk' := mt (hle k).2 hk
      rw [if_pos (by simp [hk])]
      exact settleLog10_eq hm fuel (k - 1) (by omega)

/-- A larger base gives a smaller power at an exponent that is not positive. -/
theorem zpow_le_zpow_left_of_nonpos {a b : ℚ} {n : ℤ} (ha : 0 < a) (hab : a ≤ b) (hn : n ≤ 0) :
    b ^ n ≤ a ^ n := by
  obtain ⟨k, rfl⟩ : ∃ k : ℤ, n = -k := ⟨-n, by ring⟩
  rw [zpow_neg, zpow_neg]
  exact inv_anti₀ (zpow_pos ha _) (zpow_le_zpow_left₀ (by omega) ha.le hab)

/-- `log10 2` lies between 0.30102 and 0.30103. -/
theorem log10_two_bounds :
    (10 : ℚ) ^ (30102 : ℤ) ≤ 2 ^ (100000 : ℤ) ∧ (2 : ℚ) ^ (100000 : ℤ) ≤ 10 ^ (30103 : ℤ) := by
  have h1 : ((10 ^ 30102 : ℕ) : ℚ) ≤ ((2 ^ 100000 : ℕ) : ℚ) := Nat.cast_le.2 (by decide +kernel)
  have h2 : ((2 ^ 100000 : ℕ) : ℚ) ≤ ((10 ^ 30103 : ℕ) : ℚ) := Nat.cast_le.2 (by decide +kernel)
  rw [Nat.cast_pow, Nat.cast_pow] at h1 h2
  exact ⟨h1, h2⟩

/-- The estimate `⌊0.30103 * L⌋` of the decimal exponent of `2^L` is at most one above it. -/
theorem ten_zpow_estimate_le {L : ℤ} (hL : -100000 ≤ L ∧ L ≤ 100000) :
    (10 : ℚ) ^ (L * 30103 / 100000 - 1) ≤ 2 ^ L := by
  obtain ⟨hlo, hhi⟩ := log10_two_bounds
  rw [← zpow_le_zpow_iff_left₀ (by positivity) (by positivity) (show (0 : ℤ) < 100000 by norm_num),
    ← zpow_mul, ← zpow_mul,
    show (2 : ℚ) ^ (L * 100000) = ((2 : ℚ) ^ (100000 : ℤ)) ^ L by rw [mul_comm, zpow_mul]]
  rcases le_or_gt 0 L with hpos | hneg
  · calc (10 : ℚ) ^ ((L * 30103 / 100000 - 1) * 100000) ≤ 10 ^ ((30102 : ℤ) * L) :=
          zpow_le_zpow_right₀ (by norm_num) (by omega)
      _ = ((10 : ℚ) ^ (30102 : ℤ)) ^ L := zpow_mul _ _ _
      _ ≤ ((2 : ℚ) ^ (100000 : ℤ)) ^ L := zpow_le_zpow_left₀ hpos (by positivity) hlo
  · calc (10 : ℚ) ^ ((L * 30103 / 100000 - 1) * 100000) ≤ 10 ^ ((30103 : ℤ) * L) :=
          zpow_le_zpow_right₀ (by norm_num) (by omega)
      _ = ((10 : ℚ) ^ (30103 : ℤ)) ^ L := zpow_mul _ _ _
      _ ≤ ((2 : ℚ) ^ (100000 : ℤ)) ^ L := zpow_le_zpow_left_of_nonpos (by positivity) hhi hneg.le

/-- The estimate is at most one below the decimal exponent of `2^L`: `2^(L+1)` is at most the
power of ten two above it. -/
theorem two_zpow_le_estimate {L : ℤ} (hL : -60000 ≤ L ∧ L ≤ 100000) :
    (2 : ℚ) ^ (L + 1) ≤ 10 ^ (L * 30103 / 100000 + 2) := by
  obtain ⟨hlo, hhi⟩ := log10_two_bounds
  rw [← zpow_le_zpow_iff_left₀ (by positivity) (by positivity) (show (0 : ℤ) < 100000 by norm_num),
    ← zpow_mul, ← zpow_mul,
    show (2 : ℚ) ^ ((L + 1) * 100000) = ((2 : ℚ) ^ (100000 : ℤ)) ^ (L + 1) by
      rw [mul_comm, zpow_mul]]
  rcases le_or_gt 0 (L + 1) with hpos | hneg
  · calc ((2 : ℚ) ^ (100000 : ℤ)) ^ (L + 1) ≤ ((10 : ℚ) ^ (30103 : ℤ)) ^ (L + 1) :=
          zpow_le_zpow_left₀ hpos (by positivity) hhi
      _ = 10 ^ ((30103 : ℤ) * (L + 1)) := (zpow_mul _ _ _).symm
      _ ≤ 10 ^ ((L * 30103 / 100000 + 2) * 100000) := zpow_le_zpow_right₀ (by norm_num) (by omega)
  · calc ((2 : ℚ) ^ (100000 : ℤ)) ^ (L + 1) ≤ ((10 : ℚ) ^ (30102 : ℤ)) ^ (L + 1) :=
          zpow_le_zpow_left_of_nonpos (by positivity) hlo hneg.le
      _ = 10 ^ ((30102 : ℤ) * (L + 1)) := (zpow_mul _ _ _).symm
      _ ≤ 10 ^ ((L * 30103 / 100000 + 2) * 100000) := zpow_le_zpow_right₀ (by norm_num) (by omega)

/-- `m * 2^e` lies between `2^L` and `2^(L+1)` for `L = e + log2 m`. -/
theorem binary_log2_bounds {m : Nat} {e : Int} (hm : 0 < m) :
    (2 : ℚ) ^ (e + m.log2) ≤ m * 2 ^ e ∧ (m : ℚ) * 2 ^ e < 2 ^ (e + m.log2 + 1) := by
  have h1 : ((2 ^ m.log2 : ℕ) : ℚ) ≤ m := by exact_mod_cast Nat.log2_self_le hm.ne'
  have h2 : (m : ℚ) < ((2 ^ (m.log2 + 1) : ℕ) : ℚ) := by exact_mod_cast Nat.lt_log2_self
  push_cast at h1 h2
  have hpow : (0 : ℚ) < 2 ^ e := by positivity
  rw [zpow_add₀ two_ne_zero, zpow_add₀ two_ne_zero, zpow_add₀ two_ne_zero, zpow_natCast,
    zpow_one]
  constructor
  · rw [mul_comm (m : ℚ)]
    exact mul_le_mul_of_nonneg_left h1 hpow.le
  · rw [mul_comm (m : ℚ), mul_assoc, ← pow_succ]
    exact mul_lt_mul_of_pos_left h2 hpow

/-- `floorLog10` is the decimal exponent `⌊log10 (m * 2^e)⌋` of a double: its estimate from the
binary exponent is at most one away, well within the steps it may take. -/
theorem floorLog10_eq {m : Nat} {e : Int} (parts : Parts m e) :
    floorLog10 m e = Int.log 10 ((m : ℚ) * 2 ^ e) := by
  have hv : (0 : ℚ) < m * 2 ^ e := by have := parts.pos; positivity
  have hlog2 : m.log2 < 53 := (Nat.log2_lt parts.pos.ne').2 parts.lt
  obtain ⟨hlo, hhi⟩ := binary_log2_bounds (e := e) parts.pos
  have hL : -60000 ≤ e + m.log2 ∧ e + m.log2 ≤ 100000 := by
    have := parts.least; have := parts.most; omega
  have h1 : (e + m.log2) * 30103 / 100000 - 1 ≤ Int.log 10 ((m : ℚ) * 2 ^ e) := by
    rw [← Int.zpow_le_iff_le_log (by norm_num) hv]
    exact_mod_cast (ten_zpow_estimate_le ⟨by omega, hL.2⟩).trans hlo
  have h2 : Int.log 10 ((m : ℚ) * 2 ^ e) < (e + m.log2) * 30103 / 100000 + 2 := by
    rw [← Int.lt_zpow_iff_log_lt (by norm_num) hv]
    exact_mod_cast hhi.trans_le (two_zpow_le_estimate hL)
  unfold floorLog10
  exact settleLog10_eq parts.pos 8 _ (by omega)

-----------------------------------------------------------------------------------------------
-- Grid points
-----------------------------------------------------------------------------------------------

/-- The unit in which `gridHit` counts the value and the interval ends, with `p` digits. -/
def valueUnit (e top : Int) (p : Nat) : Nat := twoPow (e - 2).toNat * tenPow (-(top - p + 1)).toNat

/-- The unit in which `gridHit` counts grid points, with `p` digits. -/
def gridUnit (e top : Int) (p : Nat) : Nat := twoPow (-(e - 2)).toNat * tenPow (top - p + 1).toNat

/-- The common denominator of the two units. -/
def unitDenominator (e top : Int) (p : Nat) : ℚ :=
  2 ^ (-(e - 2)).toNat * 10 ^ (-(top - p + 1)).toNat

/-- The common denominator of the units is positive. -/
theorem unitDenominator_pos (e top : Int) (p : Nat) : 0 < unitDenominator e top p := by
  unfold unitDenominator; positivity

/-- A count of value units is `2^(e-2)` over the common denominator each ... -/
theorem valueUnit_cast (X : Nat) (e top : Int) (p : Nat) :
    ((X * valueUnit e top p : Nat) : ℚ) = X * 2 ^ (e - 2) * unitDenominator e top p := by
  rw [valueUnit, two_zpow_eq, unitDenominator, twoPow_eq, tenPow_eq]
  push_cast
  field_simp

/-- ... and a count of grid units `10^(top - p + 1)` over it. -/
theorem gridUnit_cast (Y : Nat) (e top : Int) (p : Nat) :
    ((Y * gridUnit e top p : Nat) : ℚ) = Y * 10 ^ (top - p + 1) * unitDenominator e top p := by
  rw [gridUnit, ten_zpow_eq, unitDenominator, twoPow_eq, tenPow_eq]
  push_cast
  field_simp

/-- Comparing counts of value units with counts of grid units compares the quantities they
measure. -/
theorem units_le_iff {X Y : Nat} {e top : Int} {p : Nat} :
    X * valueUnit e top p ≤ Y * gridUnit e top p ↔ (X : ℚ) * 2 ^ (e - 2) ≤ Y * 10 ^ (top - p + 1) := by
  rw [← Nat.cast_le (α := ℚ), valueUnit_cast, gridUnit_cast]
  exact mul_le_mul_iff_left₀ (unitDenominator_pos e top p)

/-- Comparing counts of grid units with counts of value units compares the quantities they
measure. -/
theorem grid_le_iff {X Y : Nat} {e top : Int} {p : Nat} :
    Y * gridUnit e top p ≤ X * valueUnit e top p ↔ (Y : ℚ) * 10 ^ (top - p + 1) ≤ X * 2 ^ (e - 2) := by
  rw [← Nat.cast_le (α := ℚ), valueUnit_cast, gridUnit_cast]
  exact mul_le_mul_iff_left₀ (unitDenominator_pos e top p)

/-- Counts of value units are strictly below counts of grid units exactly when the quantities
are. -/
theorem units_lt_iff {X Y : Nat} {e top : Int} {p : Nat} :
    X * valueUnit e top p < Y * gridUnit e top p ↔ (X : ℚ) * 2 ^ (e - 2) < Y * 10 ^ (top - p + 1) := by
  rw [← not_le, grid_le_iff, not_le]

/-- Counts of grid units are strictly below counts of value units exactly when the quantities
are. -/
theorem grid_lt_iff {X Y : Nat} {e top : Int} {p : Nat} :
    Y * gridUnit e top p < X * valueUnit e top p ↔ (Y : ℚ) * 10 ^ (top - p + 1) < X * 2 ^ (e - 2) := by
  rw [← not_le, units_le_iff, not_le]

/-- `lhs` is below `rhs`, or equal to it when `closed`: the test of `gridHit`. -/
def within (closed : Bool) (lhs rhs : Nat) : Bool :=
  if closed then decide (lhs ≤ rhs) else decide (lhs < rhs)

/-- The test of `gridHit` is `within`. -/
theorem within_def (closed : Bool) (lhs rhs : Nat) :
    (if closed = true then decide (lhs ≤ rhs) else decide (lhs < rhs)) = within closed lhs rhs :=
  rfl

/-- `within` holds when the first is below the second, or equal to it when closed. -/
theorem within_eq_true {closed : Bool} {a b : Nat} :
    within closed a b = true ↔ (if closed then a ≤ b else a < b) := by
  unfold within; cases closed <;> simp

/-- The digits that `gridHit` returns for the grid point `n * 10^s`. -/
def gridDigits (n : Nat) (s : Int) : Digits :=
  ⟨dropTrailingZeros (natDigits n), s + (natDigits n).length⟩

/-- What `gridHit` can return: the grid point `t` below the value, when it is the value or inside
the interval, or the grid point above, when it is inside the interval. -/
theorem gridHit_cases {low value high : Nat} {closed : Bool} {e top : Int} {p t : Nat}
    {d : Digits} (ht : value * valueUnit e top p / gridUnit e top p = t)
    (h : gridHit low value high closed e top p = some d) :
    ((value * valueUnit e top p == t * gridUnit e top p ||
        within closed (low * valueUnit e top p) (t * gridUnit e top p)) = true ∧
      d = gridDigits t (top - p + 1)) ∨
    (within closed ((t + 1) * gridUnit e top p) (high * valueUnit e top p) = true ∧
      d = gridDigits (t + 1) (top - p + 1)) := by
  unfold gridHit at h
  dsimp only at h
  simp only [valueUnit, gridUnit] at ht ⊢
  simp only [ht, within_def] at h
  split at h
  · rename_i hboth
    simp only [Bool.and_eq_true] at hboth
    -- of two grid points inside, either may be picked
    split at h
    · exact Or.inl ⟨hboth.1, (Option.some.inj h).symm⟩
    split at h
    · exact Or.inr ⟨hboth.2, (Option.some.inj h).symm⟩
    split at h
    · exact Or.inl ⟨hboth.1, (Option.some.inj h).symm⟩
    · exact Or.inr ⟨hboth.2, (Option.some.inj h).symm⟩
  split at h
  · exact Or.inl ⟨‹_›, (Option.some.inj h).symm⟩
  split at h
  · exact Or.inr ⟨‹_›, (Option.some.inj h).symm⟩
  · cases h

/-- `gridHit` returns a grid point when the one below the value is the value or inside the
interval, or the one above is inside the interval. -/
theorem gridHit_isSome {low value high : Nat} {closed : Bool} {e top : Int} {p t : Nat}
    (ht : value * valueUnit e top p / gridUnit e top p = t)
    (hit : (value * valueUnit e top p == t * gridUnit e top p ||
        within closed (low * valueUnit e top p) (t * gridUnit e top p)) = true ∨
      within closed ((t + 1) * gridUnit e top p) (high * valueUnit e top p) = true) :
    (gridHit low value high closed e top p).isSome := by
  unfold gridHit
  dsimp only
  simp only [valueUnit, gridUnit] at ht hit
  simp only [ht, within_def]
  split
  · split <;> [rfl; split <;> rfl]
  split
  · rfl
  split
  · rfl
  · simp_all

/-- The grid point `t` that `gridHit` starts from is the one at or below the value. -/
theorem grid_point_bounds {value : Nat} {e top : Int} {p t : Nat}
    (ht : value * valueUnit e top p / gridUnit e top p = t) :
    (t : ℚ) * 10 ^ (top - p + 1) ≤ value * 2 ^ (e - 2) ∧
      (value : ℚ) * 2 ^ (e - 2) < ((t + 1 : Nat) : ℚ) * 10 ^ (top - p + 1) := by
  have hpos : 0 < gridUnit e top p := by
    simp only [gridUnit, twoPow_eq, tenPow_eq]; positivity
  constructor
  · rw [← grid_le_iff, ← ht]
    exact Nat.div_mul_le_self _ _
  · rw [← units_lt_iff, Nat.add_one_mul t, ← ht]
    exact Nat.lt_div_mul_add hpos

/-- The rounding interval's lower end in the units of `gridHit`. -/
theorem lowerEnd_eq {m : Nat} {e : Int} (hm : 0 < m) :
    lowerEnd m e = ((if m = twoPow 52 ∧ e > -1074 then 4 * m - 1 else 4 * m - 2 : Nat) : ℚ) *
      2 ^ (e - 2) := by
  unfold lowerEnd
  rw [twoPow_eq]
  split_ifs <;> push_cast [show 1 ≤ 4 * m by omega, show 2 ≤ 4 * m by omega] <;> ring

/-- Four times the mantissa counted in quarter units is the value. -/
theorem value_quarters (m : Nat) (e : Int) : ((4 * m : Nat) : ℚ) * 2 ^ (e - 2) = m * 2 ^ e := by
  rw [zpow_sub₀ two_ne_zero]
  push_cast
  field_simp

/-- Every grid point that `gridHit` picks for `m * 2^e` rounds to it. -/
theorem gridHit_rounds {m : Nat} {e top : Int} {p : Nat} {d : Digits} (hm : 0 < m)
    (h : gridHit (if m = twoPow 52 ∧ e > -1074 then 4 * m - 1 else 4 * m - 2) (4 * m)
      (4 * m + 2) (decide (m % 2 = 0)) e top p = some d) :
    ∃ n, 0 < n ∧ d = gridDigits n (top - p + 1) ∧ RoundsTo m e (n * 10 ^ (top - p + 1)) := by
  set low := if m = twoPow 52 ∧ e > -1074 then 4 * m - 1 else 4 * m - 2
  have hlowq : lowerEnd m e = (low : ℚ) * 2 ^ (e - 2) := lowerEnd_eq hm
  have hhighq : upperEnd m e = ((4 * m + 2 : Nat) : ℚ) * 2 ^ (e - 2) := by
    unfold upperEnd; push_cast; ring
  have hvalue := value_quarters m e
  have hinside : lowerEnd m e < m * 2 ^ e ∧ (m : ℚ) * 2 ^ e < upperEnd m e := by
    rw [hlowq, hhighq, ← hvalue]
    have hu : (0 : ℚ) < 2 ^ (e - 2) := by positivity
    have hlow4 : (low : ℚ) < ((4 * m : Nat) : ℚ) := by
      have : low < 4 * m := by simp only [low]; split_ifs <;> omega
      exact_mod_cast this
    constructor
    · exact mul_lt_mul_of_pos_right hlow4 hu
    · exact mul_lt_mul_of_pos_right (by push_cast; linarith) hu
  obtain ⟨t, ht⟩ : ∃ t, 4 * m * valueUnit e top p / gridUnit e top p = t := ⟨_, rfl⟩
  obtain ⟨hbelow, habove⟩ := grid_point_bounds ht
  rw [hvalue] at hbelow habove
  -- `RoundsTo` read as the two cases of the parity of `m`
  have hRounds : ∀ x : ℚ, (if m % 2 = 0 then lowerEnd m e ≤ x ∧ x ≤ upperEnd m e
      else lowerEnd m e < x ∧ x < upperEnd m e) → RoundsTo m e x := fun x hx => hx
  rcases gridHit_cases ht h with ⟨hlo, rfl⟩ | ⟨hhi, rfl⟩
  · -- the grid point below: the value itself, or not below the lower end
    have hlo' : (t : ℚ) * 10 ^ (top - p + 1) = m * 2 ^ e ∨
        (if m % 2 = 0 then lowerEnd m e ≤ t * 10 ^ (top - p + 1)
          else lowerEnd m e < t * 10 ^ (top - p + 1)) := by
      simp only [Bool.or_eq_true, beq_iff_eq, within_eq_true, decide_eq_true_eq] at hlo
      rcases hlo with heq | hwithin
      · left
        rw [← hvalue]
        exact le_antisymm (grid_le_iff.1 heq.ge) (units_le_iff.1 heq.le)
      · right
        rw [hlowq]
        split_ifs at hwithin ⊢
        · exact units_le_iff.1 hwithin
        · exact units_lt_iff.1 hwithin
    have hlow_t : lowerEnd m e ≤ t * 10 ^ (top - p + 1) := by
      rcases hlo' with heq | hwithin
      · rw [heq]; exact hinside.1.le
      · split_ifs at hwithin
        · exact hwithin
        · exact hwithin.le
    have htpos : 0 < t := by
      have := (lowerEnd_pos hm).trans_le hlow_t
      rcases Nat.eq_zero_or_pos t with h0 | h0
      · simp [h0] at this
      · exact h0
    refine ⟨t, htpos, rfl, hRounds _ ?_⟩
    rcases hlo' with heq | hwithin
    · rw [heq]; split_ifs <;> exact ⟨by linarith [hinside.1], by linarith [hinside.2]⟩
    · split_ifs at hwithin ⊢ <;> exact ⟨hwithin, by linarith [hinside.2]⟩
  · -- the grid point above: not above the upper end
    refine ⟨t + 1, Nat.succ_pos _, rfl, hRounds _ ?_⟩
    simp only [within_eq_true, decide_eq_true_eq] at hhi
    have hlow_t : lowerEnd m e < ((t + 1 : Nat) : ℚ) * 10 ^ (top - p + 1) :=
      hinside.1.trans habove
    rw [hhighq]
    split_ifs at hhi ⊢
    · exact ⟨hlow_t.le, grid_le_iff.1 hhi⟩
    · exact ⟨hlow_t, grid_lt_iff.1 hhi⟩

/-- With seventeen digits the grid is finer than the rounding interval, so one of the two grid
points around the value lies in it. -/
theorem gridHit_seventeen {m : Nat} {e : Int} (parts : Parts m e) :
    (gridHit (if m = twoPow 52 ∧ e > -1074 then 4 * m - 1 else 4 * m - 2) (4 * m) (4 * m + 2)
      (decide (m % 2 = 0)) e (Int.log 10 ((m : ℚ) * 2 ^ e)) 17).isSome := by
  set top := Int.log 10 ((m : ℚ) * 2 ^ e)
  set low := if m = twoPow 52 ∧ e > -1074 then 4 * m - 1 else 4 * m - 2
  obtain ⟨t, ht⟩ : ∃ t, 4 * m * valueUnit e top 17 / gridUnit e top 17 = t := ⟨_, rfl⟩
  -- the grid spacing is at most the value over 10^16
  have hgrid : (10 : ℚ) ^ (top - (17 : Nat) + 1) * 10 ^ 16 ≤
      ((4 * m : Nat) : ℚ) * 2 ^ (e - 2) := by
    have hlog : (10 : ℚ) ^ top ≤ m * 2 ^ e := by
      have := Int.zpow_log_le_self (b := 10) (by norm_num) (show (0 : ℚ) < m * 2 ^ e by
        have := parts.pos; positivity)
      exact_mod_cast this
    calc (10 : ℚ) ^ (top - (17 : Nat) + 1) * 10 ^ 16 = 10 ^ top := by
          rw [show top - ((17 : Nat) : ℤ) + 1 = top - 16 by push_cast; ring,
            zpow_sub₀ (by norm_num)]
          field_simp
      _ ≤ m * 2 ^ e := hlog
      _ = ((4 * m : Nat) : ℚ) * 2 ^ (e - 2) := (value_quarters m e).symm
  -- and below the width of the interval, which is three or four units
  have hwidth : (10 : ℚ) ^ (top - (17 : Nat) + 1) <
      ((4 * m + 2 : Nat) : ℚ) * 2 ^ (e - 2) - (low : ℚ) * 2 ^ (e - 2) := by
    have hm : m < 2 ^ 53 := parts.lt
    have hm1 := parts.pos
    rw [← sub_mul]
    set g : ℚ := 10 ^ (top - (17 : Nat) + 1)
    set u : ℚ := 2 ^ (e - 2)
    have hu : 0 < u := by positivity
    by_cases hfoot : m = twoPow 52 ∧ e > -1074
    · have hlow : (low : ℚ) = 4 * m - 1 := by
        simp only [low, if_pos hfoot]; push_cast [show 1 ≤ 4 * m by omega]; ring
      rw [hlow]
      rw [hfoot.1, twoPow_eq] at hgrid
      push_cast at hgrid ⊢
      linarith
    · have hlow : (low : ℚ) = 4 * m - 2 := by
        simp only [low, if_neg hfoot]; push_cast [show 2 ≤ 4 * m by omega]; ring
      have hmq : (m : ℚ) + 1 ≤ 2 ^ 53 := by exact_mod_cast hm
      rw [hlow]
      push_cast at hgrid ⊢
      nlinarith
  apply gridHit_isSome ht
  by_contra hnone
  simp only [not_or, Bool.not_eq_true, Bool.or_eq_false_iff, beq_eq_false_iff_ne] at hnone
  obtain ⟨⟨-, hlo⟩, hhi⟩ := hnone
  -- neither grid point inside: the one below is at most the lower end and the one above at
  -- least the upper end, so the grid would be as wide as the interval
  have hlo' : (t : ℚ) * 10 ^ (top - (17 : Nat) + 1) ≤ (low : ℚ) * 2 ^ (e - 2) := by
    unfold within at hlo
    split_ifs at hlo <;> simp only [decide_eq_false_iff_not, not_le, not_lt] at hlo
    · exact (grid_lt_iff.1 hlo).le
    · exact grid_le_iff.1 hlo
  have hhi' : ((4 * m + 2 : Nat) : ℚ) * 2 ^ (e - 2) ≤
      ((t + 1 : Nat) : ℚ) * 10 ^ (top - (17 : Nat) + 1) := by
    unfold within at hhi
    split_ifs at hhi <;> simp only [decide_eq_false_iff_not, not_le, not_lt] at hhi
    · exact (units_lt_iff.1 hhi).le
    · exact units_le_iff.1 hhi
  push_cast at hhi' hwidth hlo'
  linarith

/-- The search tries the digit counts from `p` on and returns the first grid point found; when
some count below `p + fuel` finds one, it returns a grid point found at some count. -/
theorem search_found {m value high low : Nat} {e top : Int} :
    ∀ (fuel p : Nat), (∃ q, p ≤ q ∧ q < p + fuel ∧
      (gridHit low value high (decide (m % 2 = 0)) e top q).isSome) →
      ∃ q, gridHit low value high (decide (m % 2 = 0)) e top q =
        some (shortestDigits.search m e value high low top fuel p)
  | 0, _, ⟨_, hp, hq, _⟩ => absurd hq (by omega)
  | fuel + 1, p, ⟨q, hp, hq, hit⟩ => by
    rw [shortestDigits.search]
    cases hg : gridHit low value high (decide (m % 2 = 0)) e top p with
    | some d => exact ⟨p, hg⟩
    | none =>
      have hne : q ≠ p := by rintro rfl; simp [hg] at hit
      exact search_found fuel (p + 1) ⟨q, by omega, by omega, hit⟩

/-- The shortest digits of a positive double are those of a grid point that rounds to it. -/
theorem shortestDigits_rounds {m : Nat} {e : Int} (parts : Parts m e) :
    ∃ n s, 0 < n ∧ shortestDigits m e = gridDigits n s ∧ RoundsTo m e (n * 10 ^ s) := by
  obtain ⟨q, hq⟩ := @search_found m (4 * m) (4 * m + 2)
    (if m = twoPow 52 ∧ e > -1074 then 4 * m - 1 else 4 * m - 2) e (floorLog10 m e)
    17 1 ⟨17, by omega, by omega, by
      rw [floorLog10_eq parts]; exact gridHit_seventeen parts⟩
  obtain ⟨n, hn, hd, hrounds⟩ := gridHit_rounds parts.pos hq
  exact ⟨n, _, hn, hd, hrounds⟩

end Adventure.Number
