import Adventure.Json.Reader
import Adventure.Json.Writer

/-! Every text written in the ASCII form of the data format reads back as itself. -/

namespace Adventure.Json

open Adventure.Text

-----------------------------------------------------------------------------------------------
-- Hexadecimal escapes
-----------------------------------------------------------------------------------------------

/-- Every hexadecimal digit is read back as its value. -/
theorem hexValue?_digitChar_all : ∀ k < 16, hexValue? (Nat.digitChar k) = some k := by decide

/-- A hexadecimal digit is read back as its value. -/
theorem hexValue?_digitChar {k : Nat} (hk : k < 16) : hexValue? (Nat.digitChar k) = some k :=
  hexValue?_digitChar_all k hk

/-- The four hexadecimal digits of a code below `0x10000`, most significant first. -/
theorem hexDigits_four {n : Nat} (hn : n < 0x10000) :
    hexDigits 4 n = [Nat.digitChar (n / 4096), Nat.digitChar (n / 256 % 16),
      Nat.digitChar (n / 16 % 16), Nat.digitChar (n % 16)] := by
  have hzero : Nat.digitChar 0 = '0' := rfl
  unfold hexDigits
  -- one case for each count of significant digits
  rcases (show n < 16 ∨ (16 ≤ n ∧ n < 256) ∨ (256 ≤ n ∧ n < 4096) ∨ 4096 ≤ n by omega)
    with h | h | h | h
  · rw [Nat.toDigits_of_lt_base h]
    simp [hzero, Nat.div_eq_of_lt h, Nat.mod_eq_of_lt h, Nat.div_eq_of_lt (show n < 256 by omega),
      Nat.div_eq_of_lt (show n < 4096 by omega)]
  · rw [Nat.toDigits_of_base_le (b := 16) (by decide) (by omega), Nat.toDigits_of_lt_base (by omega)]
    simp [hzero, Nat.div_eq_of_lt h.2, Nat.div_eq_of_lt (show n < 4096 by omega),
      Nat.mod_eq_of_lt (show n / 16 < 16 by omega)]
  · rw [Nat.toDigits_of_base_le (b := 16) (by decide) (by omega),
      Nat.toDigits_of_base_le (b := 16) (by decide) (by omega), Nat.toDigits_of_lt_base (by omega)]
    simp [hzero, Nat.div_eq_of_lt h.2, Nat.div_div_eq_div_mul,
      Nat.mod_eq_of_lt (show n / 256 < 16 by omega)]
  · rw [Nat.toDigits_of_base_le (b := 16) (by decide) (by omega),
      Nat.toDigits_of_base_le (b := 16) (by decide) (by omega),
      Nat.toDigits_of_base_le (b := 16) (by decide) (by omega), Nat.toDigits_of_lt_base (by omega)]
    simp [Nat.div_div_eq_div_mul]

/-- Four hexadecimal digits read back as the code they write. -/
theorem hex4?_hexDigits {n : Nat} (hn : n < 0x10000) : hex4? (hexDigits 4 n) = some n := by
  rw [hexDigits_four hn]
  simp only [hex4?, hexValue?_digitChar (show n / 4096 < 16 by omega),
    hexValue?_digitChar (show n / 256 % 16 < 16 by omega),
    hexValue?_digitChar (show n / 16 % 16 < 16 by omega),
    hexValue?_digitChar (show n % 16 < 16 by omega), Option.bind_eq_bind, Option.bind_some,
    Option.pure_def, Option.some.injEq]
  omega

/-- A code below `0x10000` is written with four hexadecimal digits. -/
theorem length_hexDigits {n : Nat} (hn : n < 0x10000) : (hexDigits 4 n).length = 4 := by
  rw [hexDigits_four hn]; rfl

/-- The escape of one code unit is six characters long. -/
theorem length_unitEscape {n : Nat} (hn : n < 0x10000) : (unitEscape n).length = 6 := by
  simp [unitEscape, length_hexDigits hn]

/-- The escape of a surrogate pair is twelve characters long. -/
theorem length_pairEscape {n : Nat} (hn : 0x10000 ≤ n ∧ n < 0x110000) :
    (pairEscape n).length = 12 := by
  unfold pairEscape
  simp only [List.length_append, length_unitEscape (show 0xD800 + (n - 0x10000) / 0x400 < 0x10000 by omega),
    length_unitEscape (show 0xDC00 + (n - 0x10000) % 0x400 < 0x10000 by omega)]

/-- What may follow the escape of a high half without being read as its low half: no escape of
a low half, and no broken escape. -/
def FollowsHigh (tail : List Char) : Prop :=
  ∀ more, tail = '\\' :: 'u' :: more →
    ∃ code, hex4? (more.take 4) = some code ∧ (code < 0xDC00 ∨ 0xDFFF < code)

/-- One escape of a code below `0x10000` is read as the character of that code, unless it is a
high half followed by a low half. -/
theorem unicodeEscape_unit {n : Nat} {tail : List Char} (place : Nat) (hn : n < 0x10000)
    (hne : tail ≠ []) (hfollow : 0xD800 ≤ n ∧ n ≤ 0xDBFF → FollowsHigh tail) :
    unicodeEscape place (hexDigits 4 n ++ tail) = .ok (charOfCode n, 4) := by
  have hlen := length_hexDigits hn
  have htail : 0 < tail.length := List.length_pos_iff.2 hne
  unfold unicodeEscape
  rw [if_neg (by simp; omega), List.take_left' hlen, hex4?_hexDigits hn]
  simp only [List.drop_left' hlen]
  by_cases hhigh : 0xD800 ≤ n ∧ n ≤ 0xDBFF
  · -- a high half: what follows is no escape of a low half
    split
    · split
      · rename_i more _
        obtain ⟨code, hcode, hnotlow⟩ := hfollow hhigh more rfl
        rw [hcode]
        simp only
        rw [if_neg (by omega)]
      · rfl
    · rfl
  · rw [if_neg (by omega)]

/-- A character's code is no half of a surrogate pair and lies below `0x110000`. -/
theorem toNat_valid (c : Char) : c.toNat < 0xD800 ∨ (0xDFFF < c.toNat ∧ c.toNat < 0x110000) := by
  have := c.valid
  simp only [UInt32.isValidChar] at this
  exact this

/-- A code that is no half of a surrogate pair is read as its own character. -/
theorem charOfCode_toNat (c : Char) : charOfCode c.toNat = c := by
  have := toNat_valid c
  have hhalf : isHalfCode c.toNat = false := by
    unfold isHalfCode firstHalf
    rcases this with h | h <;> simp <;> omega
  simp [charOfCode, hhalf]

/-- The code of a kept half is read as the character that keeps it. -/
theorem charOfCode_half {c : Char} {n : Nat} (h : halfOf? c = some n) : charOfCode n = c := by
  unfold halfOf? at h
  split at h
  · rename_i hrange
    cases h
    have hhalf : isHalfCode (c.toNat - halfBase + firstHalf) = true := by
      unfold halfBase at hrange
      simp only [isHalfCode, Bool.and_eq_true, decide_eq_true_eq]
      unfold firstHalf halfBase
      omega
    simp only [charOfCode, hhalf, if_true, ofHalf]
    rw [show c.toNat - halfBase + firstHalf - firstHalf + halfBase = c.toNat by omega]
    exact Char.ofNat_toNat c
  · cases h

/-- A character that keeps a half lies in the range of keepers, and the half is its offset there
from `0xD800`. -/
theorem halfOf?_eq {c : Char} {n : Nat} (h : halfOf? c = some n) :
    0x10A800 ≤ c.toNat ∧ c.toNat < 0x10B000 ∧ n = c.toNat - 0x10A800 + 0xD800 := by
  unfold halfOf? at h
  split at h
  · rename_i hrange
    cases h
    unfold halfBase at hrange
    unfold halfBase firstHalf
    omega
  · cases h

/-- A kept half is a code from `0xD800` to `0xDFFF`. -/
theorem halfOf?_range {c : Char} {n : Nat} (h : halfOf? c = some n) : 0xD800 ≤ n ∧ n < 0xE000 := by
  have := halfOf?_eq h
  omega

/-- The escape of a high half followed by the escape of a low half is read as the character
of the pair. -/
theorem unicodeEscape_halves {high low : Nat} {tail : List Char} (place : Nat)
    (hhigh : 0xD800 ≤ high ∧ high ≤ 0xDBFF) (hlow : 0xDC00 ≤ low ∧ low ≤ 0xDFFF)
    (hne : tail ≠ []) :
    unicodeEscape place (hexDigits 4 high ++ (unitEscape low ++ tail)) =
      .ok (Char.ofNat (0x10000 + (high - 0xD800) * 0x400 + (low - 0xDC00)), 10) := by
  have hlen := length_hexDigits (show high < 0x10000 by omega)
  have hlen' := length_hexDigits (show low < 0x10000 by omega)
  have htail : 0 < tail.length := List.length_pos_iff.2 hne
  have hafter : unitEscape low ++ tail = '\\' :: 'u' :: (hexDigits 4 low ++ tail) := rfl
  have hlong : ¬ (hexDigits 4 high ++ (unitEscape low ++ tail)).length < 5 := by
    rw [hafter]
    simp only [List.length_append, List.length_cons, hlen, hlen']
    omega
  unfold unicodeEscape
  rw [if_neg hlong, List.take_left' hlen, hex4?_hexDigits (by omega)]
  simp only [List.drop_left' hlen]
  have hsix : (unitEscape low ++ tail).length > 6 := by
    rw [hafter]
    simp only [List.length_cons, List.length_append, hlen']
    omega
  rw [if_pos ⟨hhigh.1, hhigh.2, hsix⟩, hafter]
  simp only [List.take_left' hlen', hex4?_hexDigits (show low < 0x10000 by omega)]
  rw [if_pos hlow]

/-- The two escapes of a surrogate pair are read as the character beyond `0xFFFF` they
write. -/
theorem unicodeEscape_pair {c : Char} {tail : List Char} (place : Nat) (hc : 0x10000 ≤ c.toNat)
    (hne : tail ≠ []) :
    unicodeEscape place (hexDigits 4 (0xD800 + (c.toNat - 0x10000) / 0x400) ++
      (unitEscape (0xDC00 + (c.toNat - 0x10000) % 0x400) ++ tail)) = .ok (c, 10) := by
  have hmax : c.toNat < 0x110000 := by have := toNat_valid c; omega
  rw [unicodeEscape_halves place (by omega) (by omega) hne]
  -- the pair's two halves give back the code of the character
  rw [show 0x10000 + (0xD800 + (c.toNat - 0x10000) / 0x400 - 0xD800) * 0x400 +
      (0xDC00 + (c.toNat - 0x10000) % 0x400 - 0xDC00) = c.toNat by omega, Char.ofNat_toNat]

/-- The escape of a code unit that is no low half may follow the escape of a high half. -/
theorem followsHigh_unit {k : Nat} (tail : List Char) (hk : k < 0x10000)
    (hnot : k < 0xDC00 ∨ 0xDFFF < k) : FollowsHigh (unitEscape k ++ tail) := by
  intro more hmore
  have hmore' : more = hexDigits 4 k ++ tail := by
    simp only [unitEscape, List.cons_append, List.nil_append, List.cons.injEq] at hmore
    exact hmore.2.2.symm
  exact ⟨k, by rw [hmore', List.take_left' (length_hexDigits hk), hex4?_hexDigits hk], hnot⟩

/-- The escape of a surrogate pair may follow the escape of a high half. -/
theorem followsHigh_pairEscape {n : Nat} (tail : List Char) (hn : 0x10000 ≤ n ∧ n < 0x110000) :
    FollowsHigh (pairEscape n ++ tail) := by
  unfold pairEscape
  rw [List.append_assoc]
  exact followsHigh_unit _ (by omega) (by omega)

/-- What the writer puts after any character is no escape of a low half, except for a kept low
half. -/
theorem followsHigh_escapeChar {c : Char} (tail : List Char) (hlow : keepsLowHalf c = false) :
    FollowsHigh (escapeChar true c ++ tail) := by
  have hvalid := toNat_valid c
  -- a text that starts with a backslash and no `u` is no escape of a code at all
  have hnot : ∀ e, e ≠ 'u' → FollowsHigh ('\\' :: e :: tail) := by
    intro e he more hmore
    simp only [List.cons.injEq] at hmore
    exact absurd hmore.2.1 he
  unfold escapeChar
  split
  · exact hnot '"' (by decide)
  split
  · exact hnot '\\' (by decide)
  split
  · exact hnot 'n' (by decide)
  split
  · exact hnot 'r' (by decide)
  split
  · exact hnot 't' (by decide)
  split
  · exact hnot 'b' (by decide)
  split
  · exact hnot 'f' (by decide)
  split
  · exact followsHigh_unit tail (by omega) (by omega)
  split
  · rename_i hquote hback _ _ _ _ _ _ _
    intro more hmore
    simp only [List.singleton_append, List.cons.injEq] at hmore
    exact absurd hmore.1 hback
  split
  · rename_i n hhalf
    have hrange := halfOf?_range hhalf
    have : n < 0xDC00 := by simpa [keepsLowHalf, hhalf] using hlow
    exact followsHigh_unit tail (by omega) (by omega)
  split
  · exact followsHigh_unit tail (by omega) (by omega)
  · exact followsHigh_pairEscape tail (by omega)

-----------------------------------------------------------------------------------------------
-- Reading a text character by character
-----------------------------------------------------------------------------------------------

section TextBody

variable (start : Nat) (acc : List Char) (offset : Nat) {tail : List Char}

/-- A character that needs no escape is read as itself. -/
theorem textBody_plain {c : Char} (hquote : c ≠ '"') (hback : c ≠ '\\') (hcode : 0x1f < c.toNat) :
    textBody start acc offset (c :: tail) = textBody start (c :: acc) (offset + 1) tail := by
  rw [textBody.eq_def]
  simp [show ¬ c.toNat ≤ 0x1f by omega]

/-- A short escape is read as the character it stands for. -/
theorem textBody_short {e ch : Char} (he : simpleEscape? e = some ch) (hu : e ≠ 'u') :
    textBody start acc offset ('\\' :: e :: tail) = textBody start (ch :: acc) (offset + 2) tail := by
  rw [textBody.eq_def]
  simp [he]

/-- One escape of a code below `0x10000` is read as the character of that code, unless it is a
high half followed by a low half. -/
theorem textBody_unit {n : Nat} (hn : n < 0x10000) (hne : tail ≠ [])
    (hfollow : 0xD800 ≤ n ∧ n ≤ 0xDBFF → FollowsHigh tail) :
    textBody start acc offset (unitEscape n ++ tail) =
      textBody start (charOfCode n :: acc) (offset + 6) tail := by
  have hlen := length_hexDigits hn
  rw [show unitEscape n ++ tail = '\\' :: 'u' :: (hexDigits 4 n ++ tail) from rfl,
    textBody.eq_def]
  simp only [unicodeEscape_unit (offset + 1) hn hne hfollow, List.drop_left' hlen]

/-- The escape of a high half followed by the escape of a low half is read as the character
of the pair. -/
theorem textBody_halves {high low : Nat} (hhigh : 0xD800 ≤ high ∧ high ≤ 0xDBFF)
    (hlow : 0xDC00 ≤ low ∧ low ≤ 0xDFFF) (hne : tail ≠ []) :
    textBody start acc offset (unitEscape high ++ (unitEscape low ++ tail)) =
      textBody start (Char.ofNat (0x10000 + (high - 0xD800) * 0x400 + (low - 0xDC00)) :: acc)
        (offset + 12) tail := by
  have hlen := length_hexDigits (show high < 0x10000 by omega)
  have hlen' := length_hexDigits (show low < 0x10000 by omega)
  have hdrop : (hexDigits 4 high ++ (unitEscape low ++ tail)).drop 10 = tail := by
    rw [show unitEscape low ++ tail = '\\' :: 'u' :: (hexDigits 4 low ++ tail) from rfl]
    simp [List.drop_append, hlen, hlen']
  rw [show unitEscape high ++ (unitEscape low ++ tail) =
      '\\' :: 'u' :: (hexDigits 4 high ++ (unitEscape low ++ tail)) from rfl, textBody.eq_def]
  simp only [unicodeEscape_halves (offset + 1) hhigh hlow hne, hdrop]

/-- The two escapes of a surrogate pair are read as the character beyond `0xFFFF` they
write. -/
theorem textBody_pairEscape {c : Char} (hc : 0x10000 ≤ c.toNat) (hne : tail ≠ []) :
    textBody start acc offset (pairEscape c.toNat ++ tail) =
      textBody start (c :: acc) (offset + 12) tail := by
  have hmax : c.toNat < 0x110000 := by have := toNat_valid c; omega
  unfold pairEscape
  simp only [List.append_assoc]
  rw [textBody_halves start acc offset (by omega) (by omega) hne]
  -- the pair's two halves give back the code of the character
  rw [show 0x10000 + (0xD800 + (c.toNat - 0x10000) / 0x400 - 0xD800) * 0x400 +
      (0xDC00 + (c.toNat - 0x10000) % 0x400 - 0xDC00) = c.toNat by omega, Char.ofNat_toNat]

/-- Every character is read back from how `escapeChar` writes it; a high half kept by it must
not be followed by the escape of a low half. -/
theorem textBody_escapeChar (c : Char) (hne : tail ≠ [])
    (hfollow : keepsHighHalf c = true → FollowsHigh tail) :
    textBody start acc offset (escapeChar true c ++ tail) =
      textBody start (c :: acc) (offset + (escapeChar true c).length) tail := by
  have hvalid := toNat_valid c
  unfold escapeChar
  -- the short escapes
  split
  · rename_i h; subst h; exact textBody_short start acc offset rfl (by decide)
  split
  · rename_i h; subst h; exact textBody_short start acc offset rfl (by decide)
  split
  · rename_i h; subst h; exact textBody_short start acc offset rfl (by decide)
  split
  · rename_i h; subst h; exact textBody_short start acc offset rfl (by decide)
  split
  · rename_i h; subst h; exact textBody_short start acc offset rfl (by decide)
  split
  · rename_i h; subst h; exact textBody_short start acc offset rfl (by decide)
  split
  · rename_i h; subst h; exact textBody_short start acc offset rfl (by decide)
  -- the other control characters
  split
  · rename_i h
    rw [textBody_unit start acc offset (by omega) hne (by omega), charOfCode_toNat,
      length_unitEscape (by omega)]
  -- printable ASCII
  split
  · rename_i hquote hback _ _ _ _ _ hcontrol _
    exact textBody_plain start acc offset hquote hback (by omega)
  -- beyond ASCII: a kept half, a character below `0x10000`, or a surrogate pair
  rename_i hquote hback _ _ _ _ _ hcontrol hascii
  simp only [Bool.not_true, Bool.false_or, decide_eq_true_eq] at hascii
  split
  · rename_i n hhalf
    have hrange := halfOf?_range hhalf
    rw [textBody_unit start acc offset (by omega) hne
        (fun hhigh => hfollow (by simp [keepsHighHalf, hhalf]; omega)),
      charOfCode_half hhalf, length_unitEscape (by omega)]
  · rename_i hnone
    split
    · rename_i hsmall
      rw [textBody_unit start acc offset hsmall hne (by omega), charOfCode_toNat,
        length_unitEscape hsmall]
    · rename_i hbig
      rw [textBody_pairEscape start acc offset (by omega) hne, length_pairEscape (by omega)]

end TextBody

/-- A character kept as the low half of a pair lies above the basic plane. -/
theorem keepsLowHalf_big {c : Char} (h : keepsLowHalf c = true) :
    0x10000 ≤ c.toNat ∧ c.toNat < 0x110000 := by
  have hvalid := toNat_valid c
  cases hhalf : halfOf? c with
  | none => simp [keepsLowHalf, hhalf] at h
  | some n =>
    have := halfOf?_eq hhalf
    omega

/-- After a kept high half, the writer puts no escape of a low half. -/
theorem followsHigh_escapeText (cs rest : List Char) :
    FollowsHigh (escapeText true true cs ++ '"' :: rest) := by
  cases cs with
  | nil =>
    intro more hmore
    simp [escapeText] at hmore
  | cons c cs =>
    simp only [escapeText, Bool.true_and, List.append_assoc]
    split
    · rename_i hlow
      exact followsHigh_pairEscape _ (keepsLowHalf_big hlow)
    · rename_i hlow
      exact followsHigh_escapeChar _ (by simpa using hlow)

/-- A text written by `escapeText` and closed by a quote is read back as itself, and the reader
stops right after the quote. -/
theorem textBody_escapeText (start : Nat) (cs rest : List Char) :
    ∀ (afterHigh : Bool) (acc : List Char) (offset : Nat),
      textBody start acc offset (escapeText true afterHigh cs ++ '"' :: rest) =
        .ok (String.ofList (acc.reverse ++ cs),
          offset + (escapeText true afterHigh cs).length + 1, rest) := by
  induction cs with
  | nil =>
    intro afterHigh acc offset
    rw [textBody.eq_def]
    simp [escapeText]
  | cons c cs ih =>
    intro afterHigh acc offset
    have hne : escapeText true (keepsHighHalf c) cs ++ '"' :: rest ≠ [] := by simp
    simp only [escapeText, Bool.true_and, List.append_assoc]
    split
    · rename_i hpair
      have hbig := keepsLowHalf_big (Bool.and_eq_true_iff.1 hpair).2
      rw [textBody_pairEscape start acc offset hbig.1 hne, ih]
      simp [length_pairEscape hbig]
      omega
    · rw [textBody_escapeChar start acc offset c hne
        (fun hhigh => by rw [hhigh]; exact followsHigh_escapeText cs rest), ih]
      simp
      omega

/-- A text is written as its escaped characters between quotes. -/
theorem writeStringAs_toList (s : String) :
    (writeStringAs true s).toList = '"' :: (escapeText true false s.toList ++ ['"']) := by
  simp [writeStringAs]

/-- Reading a written text gives the text and what follows it. -/
theorem readValue_writeString (fuel room off : Nat) (s : String) (rest : List Char) :
    readValue (fuel + 1) room ⟨(writeStringAs true s).toList ++ rest, off⟩ =
      .ok (.str s, ⟨rest, off + (writeStringAs true s).length⟩) := by
  have hlen : (writeStringAs true s).length = (writeStringAs true s).toList.length :=
    String.length_toList.symm
  rw [hlen, writeStringAs_toList, readValue.eq_def]
  simp only [List.cons_append, List.append_assoc, List.nil_append]
  rw [textBody_escapeText off s.toList rest false [] (off + 1)]
  simp
  omega

end Adventure.Json
