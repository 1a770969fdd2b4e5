import Adventure.Proofs.Number.Shortest
import Adventure.Number.Notation
import Adventure.Number.Reading

/-! The text of every finite double in the data format's style reads back as that double. -/

namespace Adventure.Number

open Adventure.Text

-----------------------------------------------------------------------------------------------
-- Written digits
-----------------------------------------------------------------------------------------------

/-- Characters that are all ASCII decimal digits. -/
def IsDigits (cs : List Char) : Prop := ∀ c ∈ cs, '0' ≤ c ∧ c ≤ '9'

/-- The digits of a positive number as written: ASCII digits, at least one, the first not a
zero. -/
structure Written (ds : List Char) : Prop where
  digits : IsDigits ds
  lead : ∃ d rest, ds = d :: rest ∧ d ≠ '0'

/-- Text joined from two parts is digits exactly when both parts are. -/
theorem isDigits_append {xs ys : List Char} : IsDigits (xs ++ ys) ↔ IsDigits xs ∧ IsDigits ys := by
  simp only [IsDigits, List.mem_append]
  exact ⟨fun h => ⟨fun c hc => h c (.inl hc), fun c hc => h c (.inr hc)⟩,
    fun h c hc => hc.elim (h.1 c) (h.2 c)⟩

/-- The decimal digits of a positive number start with a digit other than zero. -/
theorem natDigits_written {n : Nat} (hn : 0 < n) : Written (natDigits n) := by
  refine ⟨fun c hc => ?_, ?_⟩
  · have := Nat.isDigit_of_mem_toDigits (by decide) (by decide) hc
    simp only [Char.isDigit, Bool.and_eq_true, decide_eq_true_eq] at this
    exact this
  · induction n using Nat.strong_induction_on with
    | _ n ih =>
      unfold natDigits
      rw [Nat.toDigits_eq_if (by decide)]
      split_ifs with hlt
      · exact ⟨_, [], rfl, by simp; omega⟩
      · obtain ⟨d, rest, hds, hd⟩ := ih (n / 10) (by omega) (by omega)
        exact ⟨d, rest ++ [Nat.digitChar (n % 10)], by simp [natDigits] at hds; simp [hds], hd⟩

/-- Dropping trailing zeros leaves a prefix followed by zeros only. -/
theorem dropTrailingZeros_append (ds : List Char) :
    ∃ z, ds = dropTrailingZeros ds ++ List.replicate z '0' := by
  refine ⟨(ds.reverse.takeWhile (· == '0')).length, ?_⟩
  have hzeros : ds.reverse.takeWhile (· == '0') =
      List.replicate (ds.reverse.takeWhile (· == '0')).length '0' := by
    apply List.eq_replicate_iff.2
    refine ⟨rfl, fun c hc => ?_⟩
    simpa using List.mem_takeWhile_imp hc
  conv_lhs => rw [← List.reverse_reverse ds, ← List.takeWhile_append_dropWhile (p := (· == '0'))
    (l := ds.reverse)]
  rw [List.reverse_append, hzeros, List.reverse_replicate, List.length_replicate]
  rfl

/-- Dropping the trailing zeros of written digits leaves written digits. -/
theorem Written.dropTrailingZeros {ds : List Char} (h : Written ds) :
    Written (dropTrailingZeros ds) := by
  obtain ⟨z, hz⟩ := dropTrailingZeros_append ds
  obtain ⟨d, rest, rfl, hd⟩ := h.lead
  refine ⟨fun c hc => h.digits c (by rw [hz]; exact List.mem_append_left _ hc), ?_⟩
  cases hdrop : Adventure.Number.dropTrailingZeros (d :: rest) with
  | nil =>
    rw [hdrop, List.nil_append] at hz
    exact absurd (List.eq_of_mem_replicate (hz ▸ List.mem_cons_self)) hd
  | cons d' rest' =>
    rw [hdrop, List.cons_append, List.cons.injEq] at hz
    exact ⟨d', rest', rfl, hz.1 ▸ hd⟩

/-- The integer digits of a number as the data format writes them: a single zero, or digits
not starting with zero. -/
def IsWhole (ds : List Char) : Prop := ds = ['0'] ∨ Written ds

/-- A whole number is written with at least one digit, and digits only. -/
theorem IsWhole.digits {ds : List Char} (h : IsWhole ds) : ds ≠ [] ∧ IsDigits ds := by
  rcases h with rfl | hw
  · exact ⟨by simp, by simp [IsDigits]⟩
  · obtain ⟨d, rest, rfl, -⟩ := hw.lead
    exact ⟨by simp, hw.digits⟩

/-- Integer digits do not start with a minus. -/
theorem IsWhole.lead_ne_minus {ds : List Char} (h : IsWhole ds) (rest : List Char) :
    ∃ c t, ds ++ rest = c :: t ∧ c ≠ '-' := by
  obtain ⟨hw, hwd⟩ := h.digits
  obtain ⟨d, r, rfl⟩ := List.exists_cons_of_ne_nil hw
  refine ⟨d, r ++ rest, rfl, fun hd => ?_⟩
  have := hwd d List.mem_cons_self
  rw [hd] at this
  simp at this

/-- The decimal digits of every natural number are integer digits. -/
theorem isWhole_toDigits (n : Nat) : IsWhole (Nat.toDigits 10 n) := by
  rcases Nat.eq_zero_or_pos n with rfl | hn
  · exact .inl rfl
  · exact .inr (natDigits_written hn)

/-- The digits that `gridHit` returns for `n * 10^s`, read with their decimal point, stand for
`n * 10^s`: only zeros were dropped. -/
theorem gridDigits_value {n : Nat} (s : Int) :
    (Nat.ofDigitChars 10 (gridDigits n s).digits 0 : ℚ) *
      10 ^ ((gridDigits n s).point - (gridDigits n s).digits.length) = n * 10 ^ s := by
  obtain ⟨z, hz⟩ := dropTrailingZeros_append (natDigits n)
  have hvalue : Nat.ofDigitChars 10 (natDigits n) 0 = n := Nat.ofDigitChars_ten_toDigits
  have hlen : (natDigits n).length = (dropTrailingZeros (natDigits n)).length + z := by
    conv_lhs => rw [hz]
    simp
  rw [hz, Nat.ofDigitChars_append, Nat.ofDigitChars_replicate_zero] at hvalue
  simp only [gridDigits]
  rw [hlen]
  conv_rhs => rw [← hvalue]
  push_cast
  rw [show s + ((dropTrailingZeros (natDigits n)).length + (z : Int)) -
      ((dropTrailingZeros (natDigits n)).length : Int) = (z : Int) + s by ring,
    zpow_add₀ (by norm_num), zpow_natCast]
  ring

-----------------------------------------------------------------------------------------------
-- Runs of digits
-----------------------------------------------------------------------------------------------

/-- A decimal digit has the value of its code less that of zero. -/
theorem decimalValue?_of_isDigit {c : Char} (h : '0' ≤ c ∧ c ≤ '9') :
    decimalValue? c = some (c.toNat - 48) := by
  have h1 : 48 ≤ c.toNat := h.1
  have h2 : c.toNat < 58 := Nat.lt_succ_of_le h.2
  unfold decimalValue? decimalZeros
  rw [List.find?_toArray]
  dsimp only
  rw [List.find?_cons_of_pos (by simp [h1, h2])]
  rfl

/-- A text that no run of digits continues into: empty, or starting with a character that is
neither a decimal digit nor an underscore. -/
def EndsRun (rest : List Char) : Prop := ∀ c ∈ rest.head?, decimalValue? c = none ∧ c ≠ '_'

/-- Text that ends a run of digits starts none. -/
theorem digitRun_of_endsRun {rest : List Char} (h : EndsRun rest) : digitRun rest = none := by
  match rest, h with
  | [], _ => rfl
  | c :: more, h =>
    obtain ⟨hc, -⟩ := h c rfl
    cases more with
    | nil => rw [digitRun.eq_3 _ _ (by simp), hc]
    | cons c' more =>
      by_cases hu : c' = '_'
      · subst hu; rw [digitRun.eq_2, hc]; rfl
      · rw [digitRun.eq_3 _ _ (by simp [hu]), hc]

/-- A run of ASCII digits is read whole, up to the first character that does not continue it. -/
theorem digitRun_append {ds rest : List Char} (hne : ds ≠ []) (hds : IsDigits ds)
    (hrest : EndsRun rest) : digitRun (ds ++ rest) = some (ds.map (·.toNat - 48), rest) := by
  induction ds with
  | nil => exact absurd rfl hne
  | cons d ds ih =>
    have hd := decimalValue?_of_isDigit (hds d List.mem_cons_self)
    have hds' : IsDigits ds := fun c hc => hds c (List.mem_cons_of_mem _ hc)
    -- no underscore follows the first digit: another digit or the end of the run does
    have hnot : ∀ more, ds ++ rest = '_' :: more → False := by
      intro more h
      cases ds with
      | nil => exact (hrest '_' (by simp_all)).2 rfl
      | cons d' ds' =>
        simp only [List.cons_append, List.cons.injEq] at h
        have := (hds' d' List.mem_cons_self).2
        rw [h.1] at this
        exact absurd this (by decide)
    rw [List.cons_append, digitRun.eq_3 _ _ hnot, hd]
    cases ds with
    | nil => rw [List.nil_append, digitRun_of_endsRun hrest]; rfl
    | cons d' ds' => rw [ih (by simp) hds']; rfl

/-- The value of digits taken one by one is the value of the digits as text. -/
theorem digitsValue_map (ds : List Char) :
    digitsValue (ds.map (·.toNat - 48)) = Nat.ofDigitChars 10 ds 0 := by
  rw [digitsValue, List.foldl_map]
  rfl

/-- Leading zeros do not change the value of digits. -/
theorem ofDigitChars_zeros_append (k : Nat) (ds : List Char) :
    Nat.ofDigitChars 10 (List.replicate k '0' ++ ds) 0 = Nat.ofDigitChars 10 ds 0 := by
  rw [Nat.ofDigitChars_append, Nat.ofDigitChars_replicate_zero, Nat.mul_zero]

/-- Zeros are digits. -/
theorem isDigits_zeros (k : Nat) : IsDigits (zeros k) := fun c hc => by
  rw [List.eq_of_mem_replicate hc]; decide

/-- The end of the text ends a run of digits. -/
theorem endsRun_nil : EndsRun [] := fun _ h => by cases h

/-- A character that is no digit and no underscore ends a run of digits. -/
theorem endsRun_cons {c : Char} {rest : List Char} (hc : decimalValue? c = none)
    (hu : c ≠ '_') : EndsRun (c :: rest) := fun c' h => by
  cases h; exact ⟨hc, hu⟩

/-- Digits, a point and digits read as the number of all the digits, scaled down by the digits after
the point. -/
theorem decimalPart_point {whole frac tail : List Char} (hw : whole ≠ []) (hf : frac ≠ [])
    (hwd : IsDigits whole) (hfd : IsDigits frac) (htail : EndsRun tail) :
    decimalPart (whole ++ '.' :: (frac ++ tail)) =
      some (Nat.ofDigitChars 10 (whole ++ frac) 0, -(frac.length : Int), tail) := by
  unfold decimalPart
  rw [digitRun_append hw hwd (endsRun_cons (by decide) (by decide))]
  simp only
  rw [digitRun_append hf hfd htail]
  simp only
  rw [← List.map_append, digitsValue_map, List.length_map]

/-- Digits followed by no point read as their whole number. -/
theorem decimalPart_whole {whole tail : List Char} (hw : whole ≠ []) (hwd : IsDigits whole)
    (htail : EndsRun tail) (hpoint : ∀ rest, tail ≠ '.' :: rest) :
    decimalPart (whole ++ tail) = some (Nat.ofDigitChars 10 whole 0, 0, tail) := by
  unfold decimalPart
  rw [digitRun_append hw hwd htail]
  cases tail with
  | nil => simp [digitsValue_map]
  | cons c rest =>
    have : c ≠ '.' := fun h => hpoint rest (by rw [h])
    simp [digitsValue_map]

-----------------------------------------------------------------------------------------------
-- Decimals with a fraction or an exponent
-----------------------------------------------------------------------------------------------

/-- A point and the fraction digits; nothing when there are none. -/
def fractionText (frac : List Char) : List Char := if frac = [] then [] else '.' :: frac

/-- The exponent's mark, sign and digits; nothing when there is no exponent. -/
def exponentText : Option (Bool × List Char) → List Char
  | none => []
  | some (negative, ds) => 'e' :: (if negative then '-' else '+') :: ds

/-- The text of a decimal with a fraction or an exponent: the digits before the point, the
digits after it, and the exponent. -/
def floatText (whole frac : List Char) (exp : Option (Bool × List Char)) : List Char :=
  whole ++ fractionText frac ++ exponentText exp

/-- The exponent a `floatText` reads as. -/
def exponentValue : Option (Bool × List Char) → Int
  | none => 0
  | some (negative, ds) =>
    if negative then -(Nat.ofDigitChars 10 ds 0 : Int) else Nat.ofDigitChars 10 ds 0

/-- The parts of a `floatText` as the data format writes them: a single zero or digits not
starting with zero before the point, digits after it, and digits in the exponent, with a
fraction or an exponent present. -/
structure FloatText (whole frac : List Char) (exp : Option (Bool × List Char)) : Prop where
  lead : IsWhole whole
  fraction : IsDigits frac
  exponent : ∀ e ∈ exp, e.2 ≠ [] ∧ IsDigits e.2
  marked : frac ≠ [] ∨ exp.isSome

variable {whole frac : List Char} {exp : Option (Bool × List Char)}

/-- An exponent mark, a sign and digits read as that exponent. -/
theorem exponentPart_written {negative : Bool} {ds tail : List Char} (hne : ds ≠ [])
    (hds : IsDigits ds) (htail : EndsRun tail) :
    exponentPart ('e' :: (if negative then '-' else '+') :: (ds ++ tail)) =
      some (exponentValue (some (negative, ds)), tail) := by
  cases negative <;>
    simp [exponentPart, signOf, digitRun_append hne hds htail, exponentValue, digitsValue_map]

/-- A `floatText` read as a decimal: its digits as one number, and the power of ten of the
fraction and the exponent together. -/
theorem decimalPart_floatText (h : FloatText whole frac exp) :
    ∃ tail, decimalPart (floatText whole frac exp) =
        some (Nat.ofDigitChars 10 (whole ++ frac) 0, -(frac.length : Int), tail) ∧
      exponentPart tail = some (exponentValue exp, []) := by
  obtain ⟨hw, hwd⟩ := h.lead.digits
  cases exp with
  | none =>
    have hf : frac ≠ [] := by simpa using h.marked
    refine ⟨[], ?_, rfl⟩
    simp only [floatText, fractionText, exponentText, hf, if_false, List.append_nil]
    rw [← List.append_nil frac, decimalPart_point hw hf hwd h.fraction endsRun_nil, List.append_nil]
  | some e =>
    obtain ⟨negative, ds⟩ := e
    obtain ⟨hne, hds⟩ := h.exponent _ rfl
    have hmark : EndsRun ('e' :: (if negative then '-' else '+') :: ds) :=
      endsRun_cons (by decide) (by decide)
    refine ⟨'e' :: (if negative then '-' else '+') :: ds, ?_, ?_⟩
    · by_cases hf : frac = []
      · subst hf
        simp only [floatText, fractionText, exponentText, if_true, List.append_nil]
        exact decimalPart_whole hw hwd hmark (fun _ => by simp)
      · simp only [floatText, fractionText, exponentText, hf, if_false, List.append_assoc,
          List.cons_append]
        exact decimalPart_point hw hf hwd h.fraction hmark
    · rw [← List.append_nil ds, exponentPart_written hne hds endsRun_nil, List.append_nil]
-----------------------------------------------------------------------------------------------
-- The layouts of the data format
-----------------------------------------------------------------------------------------------

/-- Trailing zeros multiply the value of digits by a power of ten. -/
theorem ofDigitChars_append_zeros (ds : List Char) (k : Nat) :
    Nat.ofDigitChars 10 (ds ++ List.replicate k '0') 0 = Nat.ofDigitChars 10 ds 0 * 10 ^ k := by
  rw [Nat.ofDigitChars_append, Nat.ofDigitChars_replicate_zero, Nat.mul_comm]

/-- The exponent of the data format's layout: a sign and at least two digits. -/
theorem exponentValue_layout (z : Int) :
    exponentValue (some (decide (z < 0),
      zeros (2 - (Nat.toDigits 10 z.natAbs).length) ++ Nat.toDigits 10 z.natAbs)) = z := by
  simp only [exponentValue, zeros, ofDigitChars_zeros_append, Nat.ofDigitChars_ten_toDigits,
    decide_eq_true_eq]
  split_ifs <;> omega

/-- The decimal digits of a number are digits. -/
theorem isDigits_toDigits (n : Nat) : IsDigits (Nat.toDigits 10 n) := fun c hc => by
  have := Nat.isDigit_of_mem_toDigits (by decide) (by decide) hc
  simp only [Char.isDigit, Bool.and_eq_true, decide_eq_true_eq] at this
  exact this

/-- Every layout of digits in the data format's style is a decimal with a fraction or an
exponent whose value is that of the digits with the point at `p`. -/
theorem layoutDigits_floatText {ds : List Char} (hds : Written ds) (p : Int) :
    ∃ whole frac exp, FloatText whole frac exp ∧
      layoutDigits FloatStyle.json ds p = floatText whole frac exp ∧
      (Nat.ofDigitChars 10 (whole ++ frac) 0 : ℚ) * 10 ^ (-(frac.length : Int) + exponentValue exp) =
        Nat.ofDigitChars 10 ds 0 * 10 ^ (p - ds.length) := by
  obtain ⟨d, rest, rfl, hd⟩ := hds.lead
  have hdigits := hds.digits
  unfold layoutDigits
  simp only [FloatStyle.json, FloatStyle.plain]
  by_cases hpos : -4 < p ∧ p ≤ 16
  · rw [if_pos hpos]
    by_cases hp : p ≤ 0
    · -- below one: a zero, the point, zeros and the digits
      rw [if_pos hp]
      refine ⟨['0'], zeros (-p).toNat ++ d :: rest, none,
        ⟨.inl rfl, isDigits_append.2 ⟨isDigits_zeros _, hdigits⟩, by simp, by simp⟩, ?_, ?_⟩
      · simp [floatText, fractionText, exponentText]
      · have hk : ((-p).toNat : Int) = -p := Int.toNat_of_nonneg (by omega)
        rw [List.singleton_append, Nat.ofDigitChars_cons, Nat.sub_self, Nat.mul_zero,
          Nat.add_zero, zeros, ofDigitChars_zeros_append]
        congr 2
        simp [exponentValue]
        omega
    · rw [if_neg hp]
      have hq : ((p.toNat : Nat) : Int) = p := Int.toNat_of_nonneg (by omega)
      by_cases hlen : p.toNat < (d :: rest).length
      · -- the point inside the digits
        rw [if_pos hlen]
        simp only [List.length_cons] at hlen
        have hfrac : (d :: rest).drop p.toNat ≠ [] := by simp [List.drop_eq_nil_iff]; omega
        refine ⟨(d :: rest).take p.toNat, (d :: rest).drop p.toNat, none,
          ⟨.inr ⟨fun c hc => hdigits c (List.mem_of_mem_take hc), ?_⟩,
            fun c hc => hdigits c (List.mem_of_mem_drop hc), by simp, .inl hfrac⟩, ?_, ?_⟩
        · obtain ⟨q, hq'⟩ : ∃ q, p.toNat = q + 1 := ⟨p.toNat - 1, by omega⟩
          exact ⟨d, rest.take q, by rw [hq', List.take_succ_cons], hd⟩
        · simp [floatText, fractionText, exponentText, hfrac]
        · rw [List.take_append_drop]
          congr 2
          simp [exponentValue]
          omega
      · -- the point after the digits and zeros, then a zero fraction
        rw [if_neg hlen]
        refine ⟨d :: rest ++ zeros (p.toNat - (d :: rest).length), ['0'], none,
          ⟨.inr ⟨isDigits_append.2 ⟨hdigits, isDigits_zeros _⟩, ⟨d, _, rfl, hd⟩⟩,
            by simp [IsDigits], by simp, by simp⟩, ?_, ?_⟩
        · simp [floatText, fractionText, exponentText]
        · rw [List.append_assoc, zeros, ← List.replicate_succ', ofDigitChars_append_zeros]
          have hk : (((p.toNat - (d :: rest).length : Nat)) : Int) = p - (d :: rest).length := by
            simp only [List.length_cons] at hlen ⊢
            omega
          rw [← hk]
          simp only [exponentValue, List.length_singleton, Nat.cast_one, add_zero, Nat.cast_mul,
            Nat.cast_pow, zpow_natCast, zpow_neg_one, pow_succ]
          push_cast
          field_simp
  · -- outside the positional range: one digit, the point, the others and an exponent
    rw [if_neg hpos]
    have hexp := Nat.toDigits_ne_nil (b := 10) (n := (p - 1).natAbs)
    refine ⟨[d], rest, some (decide (p - 1 < 0),
        zeros (2 - (Nat.toDigits 10 (p - 1).natAbs).length) ++ Nat.toDigits 10 (p - 1).natAbs),
      ⟨.inr ⟨fun c hc => hdigits c (by simp at hc; simp [hc]), ⟨d, [], rfl, hd⟩⟩,
        fun c hc => hdigits c (List.mem_cons_of_mem _ hc),
        fun e he => ⟨?_, ?_⟩, .inr rfl⟩, ?_, ?_⟩
    · simp at he; rw [← he]; simp [hexp]
    · simp at he; rw [← he]; exact isDigits_append.2 ⟨isDigits_zeros _, isDigits_toDigits _⟩
    · cases rest <;> simp [floatText, fractionText, exponentText]
    · rw [exponentValue_layout, List.singleton_append]
      congr 2
      simp
      omega

-----------------------------------------------------------------------------------------------
-- Reading back
-----------------------------------------------------------------------------------------------

/-- The rounding interval of a finite double lies below `10^309`. -/
theorem upperEnd_lt {m : Nat} {e : Int} (parts : Parts m e) : upperEnd m e < 10 ^ (309 : ℤ) := by
  have hm : ((4 * m + 2 : Nat) : ℚ) ≤ 2 ^ 55 := by
    have := parts.lt
    exact_mod_cast (show 4 * m + 2 ≤ 2 ^ 55 by omega)
  have he : (2 : ℚ) ^ (e - 2) ≤ 2 ^ (969 : ℤ) :=
    zpow_le_zpow_right₀ (by norm_num) (by linarith [parts.most])
  have hbig : ((2 ^ 1024 : ℕ) : ℚ) < ((10 ^ 309 : ℕ) : ℚ) := Nat.cast_lt.2 (by decide +kernel)
  rw [Nat.cast_pow, Nat.cast_pow, Nat.cast_ofNat, Nat.cast_ofNat] at hbig
  calc upperEnd m e = ((4 * m + 2 : Nat) : ℚ) * 2 ^ (e - 2) := by simp [upperEnd]
    _ ≤ 2 ^ 55 * 2 ^ (969 : ℤ) := by gcongr
    _ = 2 ^ 1024 := by rw [← zpow_natCast, ← zpow_add₀ two_ne_zero]; norm_num
    _ < 10 ^ (309 : ℤ) := by rw [zpow_ofNat]; exact hbig

/-- The rounding interval of a nonzero finite double lies above `10^-325`. -/
theorem lt_lowerEnd {m : Nat} {e : Int} (parts : Parts m e) :
    (10 : ℚ) ^ (-325 : ℤ) < lowerEnd m e := by
  have hm : (2 : ℚ) ≤ 4 * m - if m = 2 ^ 52 ∧ -1074 < e then 1 else 2 := by
    have : (1 : ℚ) ≤ m := by exact_mod_cast parts.pos
    split_ifs <;> linarith
  have he : (2 : ℚ) ^ (-1076 : ℤ) ≤ 2 ^ (e - 2) :=
    zpow_le_zpow_right₀ (by norm_num) (by linarith [parts.least])
  have hsmall : ((2 ^ 1075 : ℕ) : ℚ) < ((10 ^ 325 : ℕ) : ℚ) := Nat.cast_lt.2 (by decide +kernel)
  rw [Nat.cast_pow, Nat.cast_pow, Nat.cast_ofNat, Nat.cast_ofNat] at hsmall
  calc (10 : ℚ) ^ (-325 : ℤ) < 2 ^ (-1075 : ℤ) := by
        rw [zpow_neg, zpow_neg, zpow_ofNat, zpow_ofNat]
        exact inv_strictAnti₀ (by positivity) hsmall
    _ = 2 * 2 ^ (-1076 : ℤ) := by rw [← zpow_one_add₀ two_ne_zero]; norm_num
    _ ≤ _ * 2 ^ (e - 2) := by gcongr
    _ = lowerEnd m e := rfl

/-- Reading a decimal that rounds to a nonzero finite double gives that double. -/
theorem decimalFloat_eq_of_roundsTo {f : Float} {negative : Bool} {m M : Nat} {e K : Int}
    (hf : Binary.ofFloat f = .finite negative m e) (hm : 0 < m) (hM : 0 < M)
    (rounds : RoundsTo m e (M * 10 ^ K)) : decimalFloat negative M K = f := by
  have parts := ofFloat_finite_parts hf hm
  obtain ⟨hlo, hhi⟩ := rounds.bounds
  have hM1 : (1 : ℚ) ≤ M := by exact_mod_cast hM
  unfold decimalFloat
  rw [if_neg hM.ne']
  -- a value of at least 10^309 would lie above every rounding interval
  have hK : ¬ K ≥ 309 := fun hK => by
    have : (10 : ℚ) ^ (309 : ℤ) ≤ M * 10 ^ K :=
      calc (10 : ℚ) ^ (309 : ℤ) ≤ 10 ^ K := zpow_le_zpow_right₀ (by norm_num) hK
        _ ≤ M * 10 ^ K := le_mul_of_one_le_left (by positivity) hM1
    linarith [upperEnd_lt parts]
  -- and one below 10^-325 below every one
  have hlen : ¬ ((Nat.toDigits 10 M).length : Int) + K ≤ -325 := fun hsmall => by
    have hdig : (M : ℚ) < 10 ^ (Nat.toDigits 10 M).length := by
      exact_mod_cast (Nat.length_toDigits_le_iff (by norm_num) Nat.length_toDigits_pos).1 le_rfl
    have : (M : ℚ) * 10 ^ K < 10 ^ (-325 : ℤ) :=
      calc (M : ℚ) * 10 ^ K < 10 ^ (Nat.toDigits 10 M).length * 10 ^ K := by gcongr
        _ = 10 ^ (((Nat.toDigits 10 M).length : Int) + K) := by
          rw [zpow_add₀ (by norm_num), zpow_natCast]
        _ ≤ 10 ^ (-325 : ℤ) := zpow_le_zpow_right₀ (by norm_num) hsmall
    linarith [lt_lowerEnd parts]
  rw [if_neg hK, if_neg hlen, roundedFloat, nearestFloat_eq_of_roundsTo hf hm (by simp [tenPow_eq])]
  · rfl
  · simpa [tenPow_eq, ten_zpow_eq, mul_div_assoc] using rounds

/-- Reading a zero gives the zero of the given sign. -/
theorem roundedFloat_zero {f : Float} {negative : Bool} {e : Int}
    (hf : Binary.ofFloat f = .finite negative 0 e) : roundedFloat negative 0 1 = f := by
  have hbits : nearestBits 0 1 = some 0 := by decide
  rw [roundedFloat, nearestFloat, hbits, Option.map_some, Option.getD_some]
  conv_rhs => rw [← Float.ofBits_toBits f]
  congr 1
  apply UInt64.toNat_inj.mp
  have hlt := f.toBits.toNat_lt
  rw [ofFloat_finite_bits hf] at hlt
  rw [UInt64.toNat_ofNat', ofFloat_finite_bits hf]
  cases negative <;> simp [partsBits, twoPow_eq] at hlt ⊢

/-- The text of a finite double in the data format is a sign and a decimal with a fraction or
an exponent, and that decimal reads back as the double. -/
theorem render_finite {f : Float} {negative : Bool} {m : Nat} {e : Int}
    (hf : Binary.ofFloat f = .finite negative m e) :
    ∃ whole frac exp, FloatText whole frac exp ∧
      (FloatStyle.json.render f).toList = (if negative then ['-'] else []) ++ floatText whole frac exp ∧
      decimalFloat negative (Nat.ofDigitChars 10 (whole ++ frac) 0)
        (-(frac.length : Int) + exponentValue exp) = f := by
  unfold FloatStyle.render
  rw [hf]
  rcases Nat.eq_zero_or_pos m with rfl | hm
  · -- zero is written `0.0`
    refine ⟨['0'], ['0'], none, ⟨.inl rfl, by simp [IsDigits], by simp, by simp⟩, ?_, ?_⟩
    · cases negative <;> simp [floatText, fractionText, exponentText]
    · simp only [decimalFloat]
      rw [if_pos (by decide)]
      exact roundedFloat_zero hf
  · obtain ⟨n, s, hn, hd, hrounds⟩ := shortestDigits_rounds (ofFloat_finite_parts hf hm)
    have hwritten : Written (shortestDigits m e).digits := by
      rw [hd]; exact (natDigits_written hn).dropTrailingZeros
    obtain ⟨whole, frac, exp, htext, hlayout, hvalue⟩ :=
      layoutDigits_floatText hwritten (shortestDigits m e).point
    refine ⟨whole, frac, exp, htext, ?_, ?_⟩
    · dsimp only
      rw [if_neg hm.ne']
      cases negative <;> simp [hlayout]
    · rw [hd, gridDigits_value] at hvalue
      have hM : 0 < Nat.ofDigitChars 10 (whole ++ frac) 0 := by
        rcases Nat.eq_zero_or_pos (Nat.ofDigitChars 10 (whole ++ frac) 0) with h0 | hpos
        · rw [h0, Nat.cast_zero, zero_mul] at hvalue
          have : (0 : ℚ) < n * 10 ^ s := by positivity
          linarith
        · exact hpos
      exact decimalFloat_eq_of_roundsTo hf hm hM (hvalue ▸ hrounds)

end Adventure.Number
