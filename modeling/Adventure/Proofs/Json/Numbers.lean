import Adventure.Proofs.Number.Reading
import Adventure.Json.Reader
import Adventure.Json.Writer

/-! Every written integer and double is read back as itself, not-a-numbers as the quiet one. -/

namespace Adventure.Json

open Adventure.Number Adventure.Text

variable {whole frac rest : List Char} {exp : Option (Bool × List Char)}

/-- The leading digits of digits and a rest are those digits and the rest's leading digits. -/
theorem asciiDigits_append {ds rest : List Char} (hds : IsDigits ds) :
    asciiDigits (ds ++ rest) = ds ++ asciiDigits rest := by
  unfold asciiDigits
  rw [List.takeWhile_append_of_pos (fun c hc => by simp [isAsciiDigit, hds c hc])]

/-- A text that starts with no digit has no leading digits. -/
theorem asciiDigits_stop {c : Char} {rest : List Char} (hc : isAsciiDigit c = false) :
    asciiDigits (c :: rest) = [] := by
  simp [asciiDigits, hc]

/-- What may follow a number in the data format without joining it. -/
def EndsNumber (rest : List Char) : Prop :=
  ∀ c ∈ rest.head?, isAsciiDigit c = false ∧ c ≠ '.' ∧ c ≠ 'e' ∧ c ≠ 'E'

/-- What ends a number has no leading digits. -/
theorem EndsNumber.asciiDigits (h : EndsNumber rest) : asciiDigits rest = [] := by
  cases rest with
  | nil => rfl
  | cons c rest => exact asciiDigits_stop (h c rfl).1

/-- A text that starts with a point has no leading digits. -/
theorem asciiDigits_point (cs : List Char) : asciiDigits ('.' :: cs) = [] :=
  asciiDigits_stop (by decide)

/-- A text that starts with an exponent mark has no leading digits. -/
theorem asciiDigits_mark (cs : List Char) : asciiDigits ('e' :: cs) = [] :=
  asciiDigits_stop (by decide)

/-- A text of digits is a digit followed by digits. -/
theorem isDigits_cons {c : Char} {cs : List Char} :
    IsDigits (c :: cs) ↔ isAsciiDigit c = true ∧ IsDigits cs := by
  simp [IsDigits, isAsciiDigit]

/-- A digit is one of the leading digits of the text it starts. -/
theorem asciiDigits_cons {c : Char} {cs : List Char} (hc : isAsciiDigit c = true) :
    asciiDigits (c :: cs) = c :: asciiDigits cs := by
  simp [asciiDigits, hc]

/-- What ends a number starts no exponent. -/
theorem EndsNumber.exponentLength (h : EndsNumber rest) : exponentLength rest = 0 := by
  rcases rest with _ | ⟨c, _ | ⟨c', r⟩⟩
  · rfl
  · rfl
  · obtain ⟨-, -, he, hE⟩ := h c rfl
    simp [Adventure.Json.exponentLength, he, hE]

/-- What ends a number starts no fraction. -/
theorem EndsNumber.fractionLength (h : EndsNumber rest) : fractionLength rest = 0 := by
  rcases rest with _ | ⟨c, _ | ⟨c', r⟩⟩
  · rfl
  · simp [Adventure.Json.fractionLength]
  · obtain ⟨-, hp, -, -⟩ := h c rfl
    simp [Adventure.Json.fractionLength, hp]

/-- The integer part of a text starting with a whole number is that number. -/
theorem wholeLength_append (hlead : IsWhole whole) (hrest : asciiDigits rest = []) :
    wholeLength (whole ++ rest) = some whole.length := by
  rcases hlead with rfl | ⟨hwd, d, r, rfl, hd⟩
  · rfl
  · have hd' := hwd d List.mem_cons_self
    have hr : IsDigits r := fun c hc => hwd c (List.mem_cons_of_mem _ hc)
    have h1 : '1' ≤ d := by
      simp only [Char.le_def] at hd' ⊢
      have : d.val ≠ '0'.val := fun h => hd (Char.ext h)
      simp only [ne_eq, UInt32.ext_iff] at this
      rw [UInt32.le_iff_toNat_le] at hd' ⊢
      simp at hd' this ⊢; omega
    rw [List.cons_append, wholeLength]
    · simp [h1, hd'.2, asciiDigits_append hr, hrest, Nat.add_comm]
    · exact hd

/-- A point and digits make a fraction of their own length. -/
theorem fractionLength_point {frac rest : List Char} (hf : frac ≠ []) (hfd : IsDigits frac)
    (hrest : asciiDigits rest = []) :
    fractionLength (fractionText frac ++ rest) = (fractionText frac).length := by
  obtain ⟨f, fs, rfl⟩ := List.exists_cons_of_ne_nil hf
  rw [isDigits_cons] at hfd
  simp [fractionText, Adventure.Json.fractionLength, hfd.1, asciiDigits_append hfd.2, hrest]
  omega

/-- An exponent, or nothing, starts no fraction. -/
theorem fractionLength_exponent (hexp : ∀ e ∈ exp, e.2 ≠ [] ∧ IsDigits e.2)
    (hrest : EndsNumber rest) : fractionLength (exponentText exp ++ rest) = 0 := by
  rcases exp with _ | ⟨negative, _ | ⟨d, ds⟩⟩
  · exact hrest.fractionLength
  · simp at hexp
  · simp [exponentText, Adventure.Json.fractionLength]

/-- An exponent with digits is read to its own length. -/
theorem exponentLength_exponent (hexp : ∀ e ∈ exp, e.2 ≠ [] ∧ IsDigits e.2)
    (hrest : EndsNumber rest) :
    exponentLength (exponentText exp ++ rest) = (exponentText exp).length := by
  rcases exp with _ | ⟨negative, _ | ⟨d, ds⟩⟩
  · exact hrest.exponentLength
  · simp at hexp
  · obtain ⟨-, hds⟩ := hexp _ rfl
    rw [isDigits_cons] at hds
    cases negative <;>
      simp [exponentText, Adventure.Json.exponentLength, asciiDigits_cons hds.1,
        asciiDigits_append hds.2, hrest.asciiDigits] <;> omega

/-- An exponent, or nothing, followed by the end of a number has no leading digits. -/
theorem asciiDigits_exponentText (rest : List Char) (hrest : EndsNumber rest) :
    asciiDigits (exponentText exp ++ rest) = [] := by
  rcases exp with _ | ⟨negative, ds⟩
  · exact hrest.asciiDigits
  · exact asciiDigits_mark _

/-- The fraction and exponent after a whole number start with no digits. -/
theorem asciiDigits_after_whole (hrest : EndsNumber rest) :
    asciiDigits (fractionText frac ++ (exponentText exp ++ rest)) = [] := by
  by_cases hf : frac = []
  · simp only [hf, fractionText]
    exact asciiDigits_exponentText rest hrest
  · simp [hf, fractionText, asciiDigits_point]

/-- The extent of a number read part by part: an optional minus, the integer digits, the
fraction and the exponent, each as long as the part functions find it. -/
theorem numberExtent_parts {w f x rest : List Char} (negative : Bool)
    (hw : wholeLength (w ++ (f ++ (x ++ rest))) = some w.length)
    (hf : fractionLength (f ++ (x ++ rest)) = f.length)
    (hx : exponentLength (x ++ rest) = x.length)
    (hlead : ∃ c t, w ++ (f ++ (x ++ rest)) = c :: t ∧ c ≠ '-') :
    numberExtent ((if negative then ['-'] else []) ++ (w ++ (f ++ (x ++ rest)))) =
      some ((if negative then 1 else 0) + w.length + f.length + x.length,
        decide (0 < f.length) || decide (0 < x.length)) := by
  obtain ⟨c, t, hc, hne⟩ := hlead
  -- the sign is read first; then each part is read from where the one before it ends
  cases negative <;> simp [numberExtent, hc, hne] <;> rw [← hc, hw] <;>
    simp [List.drop_length_add_append, hf, hx]

/-- The extent of a written double: all of its text, marked as a double. -/
theorem numberExtent_floatText (negative : Bool) (h : FloatText whole frac exp)
    (hrest : EndsNumber rest) :
    numberExtent ((if negative then ['-'] else []) ++ floatText whole frac exp ++ rest) =
      some (((if negative then ['-'] else []) ++ floatText whole frac exp).length, true) := by
  -- the fraction is read in full; without one, nothing is read before the exponent
  have hfrac : fractionLength (fractionText frac ++ (exponentText exp ++ rest)) =
      (fractionText frac).length := by
    by_cases hf : frac = []
    · simp only [hf, fractionText]
      exact fractionLength_exponent h.exponent hrest
    · exact fractionLength_point hf h.fraction (asciiDigits_exponentText rest hrest)
  have hmarked : 0 < (fractionText frac).length ∨ 0 < (exponentText exp).length := by
    rcases h.marked with hf | hs
    · simp [fractionText, hf]
    · rcases exp with _ | ⟨negative, ds⟩
      · simp at hs
      · simp [exponentText]
  have := numberExtent_parts negative
    (wholeLength_append h.lead (asciiDigits_after_whole hrest)) hfrac
    (exponentLength_exponent h.exponent hrest) (h.lead.lead_ne_minus _)
  simp only [floatText, List.append_assoc] at this ⊢
  rw [this]
  cases negative <;> simp [hmarked] <;> omega

/-- The value of a written double: its digits as one number, scaled by the fraction and the
exponent. -/
theorem numberValue_floatText (negative : Bool) (h : FloatText whole frac exp) :
    numberValue ((if negative then ['-'] else []) ++ floatText whole frac exp) true =
      .ok (.float (decimalFloat negative (Nat.ofDigitChars 10 (whole ++ frac) 0)
        (-(frac.length : Int) + exponentValue exp))) := by
  obtain ⟨tail, hpart, hexp⟩ := decimalPart_floatText h
  obtain ⟨c, t, hc, hne⟩ := h.lead.lead_ne_minus (fractionText frac ++ exponentText exp)
  simp only [floatText, List.append_assoc] at hpart hc ⊢
  unfold numberValue
  cases negative
  · -- without a minus the whole text is the decimal
    simp only [Bool.false_eq_true, if_false, List.nil_append, hc] at hpart ⊢
    simp [hne, hpart, hexp]
  · simp only [if_true, List.cons_append, List.nil_append, hpart, hexp]

/-- A text where a number starts: a digit, or a minus and a digit. -/
def NumberStart (cs : List Char) : Prop :=
  ∃ c t, cs = c :: t ∧ (isAsciiDigit c = true ∨ (c = '-' ∧ ∃ d u, t = d :: u ∧ isAsciiDigit d = true))

/-- A digit is none of the characters that open the other kinds of value. -/
theorem ne_of_isAsciiDigit {c : Char} (hc : isAsciiDigit c = true) :
    c ≠ '"' ∧ c ≠ '{' ∧ c ≠ '[' ∧ c ≠ 'n' ∧ c ≠ 't' ∧ c ≠ 'f' ∧ c ≠ 'N' ∧ c ≠ 'I' ∧ c ≠ '-' := by
  refine ⟨?_, ?_, ?_, ?_, ?_, ?_, ?_, ?_, ?_⟩ <;> (rintro rfl; revert hc; decide)

/-- A whole number, signed or not, starts a number. -/
theorem numberStart_whole (negative : Bool) (h : IsWhole whole) (rest : List Char) :
    NumberStart ((if negative then ['-'] else []) ++ (whole ++ rest)) := by
  obtain ⟨hw, hwd⟩ := h.digits
  obtain ⟨d, r, rfl⟩ := List.exists_cons_of_ne_nil hw
  have hd : isAsciiDigit d = true := (isDigits_cons.1 hwd).1
  cases negative
  · exact ⟨d, r ++ rest, rfl, .inl hd⟩
  · exact ⟨'-', d :: (r ++ rest), rfl, .inr ⟨rfl, d, r ++ rest, rfl, hd⟩⟩

/-- Where a number starts, the reader reads the number that its extent covers. -/
theorem readValue_numberStart {cs : List Char} (fuel room off : Nat) (hcs : NumberStart cs) :
    readValue (fuel + 1) room ⟨cs, off⟩ =
      match numberExtent cs with
      | some (n, isFloat) =>
        match numberValue (cs.take n) isFloat with
        | .ok v => .ok (v, ⟨cs.drop n, off + n⟩)
        | .error f => .error (.limit f)
      | none => .error (.malformed "Expecting value" off) := by
  obtain ⟨c, t, rfl, hc⟩ := hcs
  rcases hc with hd | ⟨rfl, d, u, rfl, hd⟩
  · obtain ⟨h1, h2, h3, h4, h5, h6, h7, h8, h9⟩ := ne_of_isAsciiDigit hd
    rw [readValue.eq_def]
    simp [startsWithWord, h1, h2, h3, h4.symm, h5.symm, h6.symm, h7.symm, h8.symm, h9.symm]
    rfl
  · obtain ⟨h1, h2, h3, h4, h5, h6, h7, h8, h9⟩ := ne_of_isAsciiDigit hd
    rw [readValue.eq_def]
    simp [startsWithWord, h8.symm]
    rfl

-----------------------------------------------------------------------------------------------
-- Integers
-----------------------------------------------------------------------------------------------

/-- The text of an integer: a minus when it is negative, then the digits of its size. -/
theorem intText_toList (i : Int) :
    (intText i).toList = (if i < 0 then ['-'] else []) ++ Nat.toDigits 10 i.natAbs := by
  rw [intText, Int.toString_eq_repr, Int.repr_eq_if]
  by_cases h : 0 ≤ i
  · rw [if_pos h, if_neg (by omega), List.nil_append, Nat.toList_repr]
    congr
    omega
  · rw [if_neg h, if_pos (by omega), String.toList_append, Nat.toList_repr]
    congr
    omega

/-- The extent of a written integer: all of its text, marked as an integer. -/
theorem numberExtent_intText (i : Int) (hrest : EndsNumber rest) :
    numberExtent ((intText i).toList ++ rest) = some ((intText i).length, false) := by
  have hw : wholeLength (Nat.toDigits 10 i.natAbs ++ ([] ++ ([] ++ rest))) =
      some (Nat.toDigits 10 i.natAbs).length :=
    wholeLength_append (isWhole_toDigits _) hrest.asciiDigits
  have hf : fractionLength ([] ++ ([] ++ rest)) = ([] : List Char).length :=
    hrest.fractionLength
  have hx : exponentLength ([] ++ rest) = ([] : List Char).length := hrest.exponentLength
  have := numberExtent_parts (decide (i < 0)) hw hf hx
    ((isWhole_toDigits i.natAbs).lead_ne_minus _)
  rw [← String.length_toList, intText_toList]
  simp only [List.nil_append, decide_eq_true_eq, List.length_nil, Nat.add_zero,
    Nat.lt_irrefl, decide_false, Bool.or_false] at this
  rw [List.append_assoc, this]
  split_ifs <;> simp [Nat.add_comm]

/-- Reading the text of an integer gives the integer, unless it has more digits than the
reader takes. -/
theorem numberValue_intText (i : Int) :
    numberValue (intText i).toList false =
      if digitLimit < (Nat.toDigits 10 i.natAbs).length then .error .badValue
      else .ok (.int i) := by
  obtain ⟨c, t, hc, hne⟩ := (isWhole_toDigits i.natAbs).lead_ne_minus []
  rw [List.append_nil] at hc
  have hvalue : digitsValue ((Nat.toDigits 10 i.natAbs).map fun c => c.toNat - '0'.toNat) =
      i.natAbs := by
    rw [show '0'.toNat = 48 from rfl, digitsValue_map, Nat.ofDigitChars_ten_toDigits]
  rw [intText_toList]
  unfold numberValue
  by_cases hneg : i < 0
  · simp only [hneg, if_true, List.singleton_append, gt_iff_lt, Bool.false_eq_true, if_false,
      hvalue]
    congr 3
    omega
  · simp only [hneg, if_false, List.nil_append, Bool.false_eq_true]
    have hvalue' : digitsValue ((c.toNat - 48) :: t.map fun c => c.toNat - 48) = i.natAbs := by
      show digitsValue ((c :: t).map fun c => c.toNat - 48) = i.natAbs
      rw [← hc, digitsValue_map, Nat.ofDigitChars_ten_toDigits]
    rw [hc]
    simp [hne, hvalue', Int.natAbs_of_nonneg (not_lt.1 hneg)]

/-- Reading the text of an integer gives the integer and the text after it, unless the
integer has more digits than the reader takes. -/
theorem readValue_intText (fuel room off : Nat) (i : Int) (hrest : EndsNumber rest) :
    readValue (fuel + 1) room ⟨(intText i).toList ++ rest, off⟩ =
      if digitLimit < (Nat.toDigits 10 i.natAbs).length then .error (.limit .badValue)
      else .ok (.int i, ⟨rest, off + (intText i).length⟩) := by
  have hstart : NumberStart ((intText i).toList ++ rest) := by
    have := numberStart_whole (decide (i < 0)) (isWhole_toDigits i.natAbs) rest
    rw [intText_toList, List.append_assoc]
    simpa using this
  have hlen : (intText i).length = (intText i).toList.length := String.length_toList.symm
  rw [readValue_numberStart fuel room off hstart, numberExtent_intText i hrest]
  simp only
  rw [hlen, List.take_left, List.drop_left, ← hlen, numberValue_intText]
  split_ifs <;> rfl

-----------------------------------------------------------------------------------------------
-- Doubles
-----------------------------------------------------------------------------------------------

/-- A double as the data format gives it back: itself, or the quiet not-a-number for every
not-a-number. -/
def canonFloat (f : Float) : Float :=
  match Binary.ofFloat f with
  | .nan => notANumber
  | _ => f

/-- The infinity of a sign is the double whose parts are that infinity. -/
theorem infinity_eq_of_ofFloat {f : Float} {negative : Bool}
    (h : Binary.ofFloat f = .infinite negative) : infinity negative = f := by
  have hbits : f.toBits.toNat = if negative then 0xFFF0000000000000 else 0x7FF0000000000000 := by
    have hlt : f.toBits.toNat < 2 ^ 64 := f.toBits.toNat_lt
    unfold Binary.ofFloat at h
    generalize f.toBits.toNat = bits at h hlt ⊢
    dsimp only [twoPow_eq] at h
    split at h
    · split at h
      · injection h with hneg
        subst hneg
        split_ifs <;> simp_all <;> omega
      · cases h
    · split at h <;> cases h
  conv_rhs => rw [← Float.ofBits_toBits f]
  unfold infinity
  congr 1
  apply UInt64.toNat_inj.mp
  rw [UInt64.toNat_ofNat', hbits]
  split_ifs <;> rfl

/-- Reading the text of a double gives the double back, with every not-a-number read as the
quiet one, and the text after it. -/
theorem readValue_render (fuel room off : Nat) (f : Float) (hrest : EndsNumber rest) :
    readValue (fuel + 1) room ⟨(FloatStyle.json.render f).toList ++ rest, off⟩ =
      .ok (.float (canonFloat f), ⟨rest, off + (FloatStyle.json.render f).length⟩) := by
  have hlen : (FloatStyle.json.render f).length = (FloatStyle.json.render f).toList.length :=
    String.length_toList.symm
  cases hf : Binary.ofFloat f with
  | nan =>
    have htext : FloatStyle.json.render f = "NaN" := by
      simp [FloatStyle.render, hf, FloatStyle.json]
    rw [htext, readValue.eq_def]
    simp [startsWithWord, Cursor.advance, canonFloat, hf]
    rfl
  | infinite negative =>
    rw [hlen]
    cases negative
    · have htext : FloatStyle.json.render f = "Infinity" := by
        simp [FloatStyle.render, hf, FloatStyle.json]
      rw [htext, readValue.eq_def]
      simp [startsWithWord, Cursor.advance, canonFloat, hf, infinity_eq_of_ofFloat hf]
    · have htext : FloatStyle.json.render f = "-Infinity" := by
        simp [FloatStyle.render, hf, FloatStyle.json]
      rw [htext, readValue.eq_def]
      simp [startsWithWord, Cursor.advance, canonFloat, hf, infinity_eq_of_ofFloat hf]
  | finite negative m e =>
    obtain ⟨whole, frac, exp, htext, hrender, hvalue⟩ := render_finite hf
    have hstart := numberStart_whole negative htext.lead (fractionText frac ++ exponentText exp ++ rest)
    have hext := numberExtent_floatText negative htext hrest
    have hcanon : canonFloat f = f := by simp [canonFloat, hf]
    rw [hcanon, hlen, hrender]
    simp only [floatText, List.append_assoc] at hstart hext ⊢
    have hvalue' := numberValue_floatText negative htext
    simp only [floatText, List.append_assoc] at hvalue'
    rw [readValue_numberStart fuel room off hstart, hext]
    -- the extent is the double's text; the rest of the text is left unread
    rw [show ∀ xs : List Char, (if negative then ['-'] else []) ++ (whole ++ (fractionText frac ++
        (exponentText exp ++ xs))) = ((if negative then ['-'] else []) ++ (whole ++
        (fractionText frac ++ exponentText exp))) ++ xs by simp]
    simp only [List.take_left, List.drop_left, hvalue', hvalue]

end Adventure.Json
