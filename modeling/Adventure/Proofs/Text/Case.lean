import Mathlib
import Adventure.Text.Case
import Adventure.Text.Blank

/-! Lower case moves each character at most once, so it is idempotent (`lower_lower`); it makes
no blank and no space of anything else, and goes word by word across spaces (`lower_intercalate`).
Below the Latin-1 capitals it moves only the ASCII capitals (`lower_eq_self`). -/

namespace Adventure.Text

/-- The first run of the lower-case mapping is that of the ASCII capitals. -/
theorem lowerRuns_toList : lowerRuns.toList = ⟨65, 90, 1, 32⟩ :: lowerRuns.toList.tail := rfl

set_option maxRecDepth 20000 in
/-- Every other run starts at the Latin-1 capitals or above. -/
theorem lowerRuns_tail_first : ∀ r ∈ lowerRuns.toList.tail, 192 ≤ r.first := by
  decide

/-- Below the Latin-1 capitals, lower case moves the ASCII capitals and nothing else. -/
theorem lowerChar_of_lt {c : Char} (h : c.toNat < 192) :
    lowerChar c = if 65 ≤ c.toNat ∧ c.toNat ≤ 90 then Char.ofNat (c.toNat + 32) else c := by
  have hrest : lowerRuns.toList.tail.find? (·.holds c.toNat) = none := by
    refine List.find?_eq_none.mpr fun r hr => ?_
    have hfirst := lowerRuns_tail_first r hr
    simp [CaseRun.holds]
    omega
  have hascii : CaseRun.holds ⟨65, 90, 1, 32⟩ c.toNat = decide (65 ≤ c.toNat ∧ c.toNat ≤ 90) := by
    simp [CaseRun.holds, Nat.mod_one]
  unfold lowerChar
  rw [lowerRuns_toList, List.find?_cons, hrest, hascii]
  by_cases hup : 65 ≤ c.toNat ∧ c.toNat ≤ 90
  · simp only [hup]
    congr 1
  · simp only [hup, decide_false, if_false]

/-- Characters below the Latin-1 capitals are lowered one at a time, whatever stands before them,
by induction on the characters. -/
theorem lowerFrom_of_lt (before : List Char) {cs : List Char} (h : ∀ c ∈ cs, c.toNat < 192) :
    lowerFrom before cs = cs.map lowerChar := by
  induction cs generalizing before with
  | nil => rfl
  | cons c rest ih =>
    have hc := h c List.mem_cons_self
    -- the capital sigma and the capital I with dot, lowered apart, lie higher
    have hsigma : c ≠ 'Σ' := fun heq => by subst heq; simp at hc
    have hdot : c ≠ 'İ' := fun heq => by subst heq; simp at hc
    rw [lowerFrom, if_neg hsigma, if_neg hdot, ih _ fun d hd => h d (List.mem_cons_of_mem c hd)]
    rfl

/-- Whether a text has only characters below the Latin-1 capitals and no ASCII capital. -/
def lowercased (s : String) : Bool :=
  s.toList.all fun c => c.toNat < 192 && !(65 ≤ c.toNat && c.toNat ≤ 90)

/-- A text below the Latin-1 capitals with no ASCII capital is its own lower case. -/
theorem lower_eq_self {s : String} (h : lowercased s = true) : lower s = s := by
  have hchars : ∀ c ∈ s.toList, c.toNat < 192 ∧ ¬(65 ≤ c.toNat ∧ c.toNat ≤ 90) := by
    intro c hc
    have hc' := List.all_eq_true.mp h c hc
    simp only [Bool.and_eq_true, decide_eq_true_eq, Bool.not_eq_true', Bool.and_eq_false_iff,
      decide_eq_false_iff_not, Nat.not_le] at hc'
    omega
  have hmap : s.toList.map lowerChar = s.toList := by
    rw [List.map_congr_left (g := id) fun c hc => by
      rw [lowerChar_of_lt (hchars c hc).1, if_neg (hchars c hc).2]; rfl, List.map_id]
  rw [lower, lowerFrom_of_lt [] fun c hc => (hchars c hc).1, hmap, String.ofList_toList]

example : lower "take matches" = "take matches" := lower_eq_self rfl

/-- The code points `first`, `first + stride`, ... (`count` of them) as the set bits of a number;
the table's facts below are read off such masks. -/
def stepMask (first stride : Nat) : Nat → Nat
  | 0 => 0
  | count + 1 => 1 <<< first ||| stepMask (first + stride) stride count

/-- The code points a mask of steps sets: `count` of them, `stride` apart from `first` on. -/
theorem testBit_stepMask {stride n : Nat} : ∀ {count first : Nat},
    (stepMask first stride count).testBit n = true ↔ ∃ k < count, n = first + stride * k
  | 0, _ => by simp [stepMask]
  | count + 1, first => by
    rw [stepMask, Nat.testBit_or, Nat.one_shiftLeft, Nat.testBit_two_pow, Bool.or_eq_true,
      decide_eq_true_eq, testBit_stepMask]
    constructor
    · rintro (rfl | ⟨k, hk, rfl⟩)
      · exact ⟨0, by omega, by omega⟩
      · exact ⟨k + 1, by omega, by rw [Nat.mul_succ]; omega⟩
    · rintro ⟨k, hk, rfl⟩
      cases k with
      | zero => exact .inl (by omega)
      | succ k => exact .inr ⟨k, by omega, by rw [Nat.mul_succ]; omega⟩

/-- A bit of masks joined over a list is a bit of one of them. -/
theorem testBit_foldr_or {α : Type} (f : α → Nat) (n : Nat) : ∀ {l : List α},
    (l.foldr (fun x acc => f x ||| acc) 0).testBit n = true ↔ ∃ x ∈ l, (f x).testBit n = true
  | [] => by simp
  | x :: rest => by simp [Nat.testBit_or, testBit_foldr_or]

/-- The number of code points a run holds. -/
def CaseRun.count (r : CaseRun) : Nat := (r.last - r.first) / r.stride + 1

/-- The code points a run holds. -/
def CaseRun.heldBits (r : CaseRun) : Nat := stepMask r.first r.stride r.count

/-- The code points a run moves its characters to. -/
def CaseRun.imageBits (r : CaseRun) : Nat :=
  stepMask ((r.first : Int) + r.shift).toNat r.stride r.count

/-- The code points that the table moves. -/
def tableHeld : Nat := lowerRuns.toList.foldr (fun r acc => r.heldBits ||| acc) 0

/-- The code points that the table moves characters to. -/
def tableImages : Nat := lowerRuns.toList.foldr (fun r acc => r.imageBits ||| acc) 0

/-- The code points of some ranges. -/
def CodeRanges.bits (t : CodeRanges) : Nat :=
  t.ranges.toList.foldr (fun b acc => stepMask b.1 1 (b.2 + 1 - b.1) ||| acc) 0

set_option maxRecDepth 20000 in
/-- Every run of the table steps by one or by two. -/
theorem lowerRuns_strides : ∀ r ∈ lowerRuns.toList, r.stride = 1 ∨ r.stride = 2 := by
  decide

set_option maxRecDepth 20000 in
/-- Every run of the table starts above the null character and moves its characters to code
points at `a` or above. -/
theorem lowerRuns_bounds : ∀ r ∈ lowerRuns.toList, 0 < r.first ∧ (97 : Int) ≤ r.first + r.shift := by
  decide

set_option maxRecDepth 20000 in
/-- No code point that the table moves a character to is moved by the table, blank, or the
capital I with dot. -/
theorem tableImages_apart : tableImages &&& (tableHeld ||| blanks.bits ||| 1 <<< 304) = 0 := by
  decide

/-- The null character is not blank. -/
theorem blanks_bits_zero : blanks.bits.testBit 0 = false := by
  decide

/-- The code points a run of the table holds: `stride` apart from `first` on, `count` of them. -/
theorem CaseRun.holds_step {r : CaseRun} (hr : r ∈ lowerRuns.toList) {n : Nat}
    (hn : r.holds n = true) : ∃ k < r.count, n = r.first + r.stride * k := by
  simp only [CaseRun.holds, CaseRun.count, Bool.and_eq_true, decide_eq_true_eq, beq_iff_eq] at hn ⊢
  rcases lowerRuns_strides r hr with h | h <;> rw [h] at hn ⊢
  · exact ⟨n - r.first, by omega, by omega⟩
  · exact ⟨(n - r.first) / 2, by omega, by omega⟩

/-- A code point that a run of the table holds is moved by the table. -/
theorem tableHeld_of_holds {r : CaseRun} (hr : r ∈ lowerRuns.toList) {n : Nat}
    (hn : r.holds n = true) : tableHeld.testBit n = true :=
  (testBit_foldr_or _ n).mpr ⟨r, hr, testBit_stepMask.mpr (CaseRun.holds_step hr hn)⟩

/-- Where a run of the table moves a character it holds, the table moves characters to. -/
theorem tableImages_of_holds {r : CaseRun} (hr : r ∈ lowerRuns.toList) {n : Nat}
    (hn : r.holds n = true) : tableImages.testBit ((n : Int) + r.shift).toNat = true := by
  obtain ⟨k, hk, rfl⟩ := CaseRun.holds_step hr hn
  have hpos := (lowerRuns_bounds r hr).2
  exact (testBit_foldr_or _ _).mpr ⟨r, hr, testBit_stepMask.mpr ⟨k, hk, by push_cast; omega⟩⟩

/-- A blank character's code point is among the blanks' bits. -/
theorem blanks_bits_of_isBlank {c : Char} (hc : isBlank c = true) :
    blanks.bits.testBit c.toNat = true := by
  unfold isBlank CodeRanges.contains at hc
  obtain ⟨b, hb, hin⟩ := List.any_eq_true.mp hc
  simp only [Bool.and_eq_true, decide_eq_true_eq] at hin
  exact (testBit_foldr_or _ _).mpr ⟨b, hb, testBit_stepMask.mpr ⟨c.toNat - b.1, by omega, by omega⟩⟩

/-- Where the table moves characters to, it moves nothing, and there is no blank and no capital
I with dot. -/
theorem apart_of_tableImages {m : Nat} (hm : tableImages.testBit m = true) :
    tableHeld.testBit m = false ∧ blanks.bits.testBit m = false ∧ m ≠ 304 := by
  have h := congrArg (Nat.testBit · m) tableImages_apart
  simp only [Nat.testBit_and, Nat.testBit_or, hm, Nat.zero_testBit, Nat.one_shiftLeft,
    Nat.testBit_two_pow, Bool.true_and, Bool.or_eq_false_iff, decide_eq_false_iff_not] at h
  exact ⟨h.1.1, h.1.2, fun h' => h.2 h'.symm⟩

/-- A character is lowered by the first run that holds it, or kept when no run does. -/
theorem lowerChar_cases (c : Char) :
    (lowerChar c = c ∧ ∀ r ∈ lowerRuns.toList, r.holds c.toNat = false) ∨
      ∃ r ∈ lowerRuns.toList, r.holds c.toNat = true ∧
        lowerChar c = Char.ofNat ((c.toNat : Int) + r.shift).toNat := by
  unfold lowerChar
  cases hfind : lowerRuns.toList.find? (·.holds c.toNat) with
  | none => exact .inl ⟨rfl, fun r hr => by simpa using List.find?_eq_none.mp hfind r hr⟩
  | some r =>
    have hholds := List.find?_some hfind
    exact .inr ⟨r, List.mem_of_find?_eq_some hfind, hholds, rfl⟩

/-- The code of a character made from a number: the number when it is a character's code, and
the null character's otherwise. -/
theorem toNat_ofNat_cases (m : Nat) : (Char.ofNat m).toNat = m ∨ (Char.ofNat m).toNat = 0 := by
  unfold Char.ofNat
  split
  · exact .inl rfl
  · exact .inr rfl

/-- What lower case makes of a character held by a run is held by no run. -/
theorem lowerChar_image_unmoved {c : Char} {r : CaseRun} (hr : r ∈ lowerRuns.toList)
    (hc : r.holds c.toNat = true) :
    ∀ r' ∈ lowerRuns.toList, r'.holds (Char.ofNat ((c.toNat : Int) + r.shift).toNat).toNat = false := by
  intro r' hr'
  rcases toNat_ofNat_cases ((c.toNat : Int) + r.shift).toNat with hcode | hcode <;> rw [hcode]
  · -- the image is where the table moves characters to, which it does not move
    cases hheld : r'.holds ((c.toNat : Int) + r.shift).toNat
    · rfl
    · have hapart := (apart_of_tableImages (tableImages_of_holds hr hc)).1
      rw [tableHeld_of_holds hr' hheld] at hapart
      cases hapart
  · -- no run holds the null character
    have hfirst := (lowerRuns_bounds r' hr').1
    simp only [CaseRun.holds, Bool.and_eq_false_iff, decide_eq_false_iff_not]
    omega

/-- Lower case moves a character at most once: what it gives is its own lower case. -/
theorem lowerChar_lowerChar (c : Char) : lowerChar (lowerChar c) = lowerChar c := by
  rcases lowerChar_cases c with ⟨hkeep, -⟩ | ⟨r, hr, hc, hlow⟩
  · rw [hkeep, hkeep]
  · rw [hlow]
    rcases lowerChar_cases (Char.ofNat ((c.toNat : Int) + r.shift).toNat) with
      ⟨hkeep, -⟩ | ⟨r', hr', hc', -⟩
    · exact hkeep
    · rw [lowerChar_image_unmoved hr hc r' hr'] at hc'
      cases hc'


set_option maxRecDepth 20000 in
/-- The small sigmas, the small i and the combining dot above are held by no run. -/
theorem lowerRuns_skip_small :
    ∀ r ∈ lowerRuns.toList, r.holds 962 = false ∧ r.holds 963 = false ∧ r.holds 105 = false ∧
      r.holds 775 = false := by
  decide

/-- The capital sigma is held by a run. -/
theorem lowerRuns_hold_sigma : lowerRuns.toList.any (·.holds 931) = true := by
  decide

/-- A character that no run holds is its own lower case. -/
theorem lowerChar_of_unheld {c : Char} (h : ∀ r ∈ lowerRuns.toList, r.holds c.toNat = false) :
    lowerChar c = c := by
  rcases lowerChar_cases c with ⟨hkeep, -⟩ | ⟨r, hr, hc, -⟩
  · exact hkeep
  · rw [h r hr] at hc
    cases hc

/-- A character that a run holds is moved by lower case. -/
theorem lowerChar_ne_of_held {c : Char} {r : CaseRun} (hr : r ∈ lowerRuns.toList)
    (hc : r.holds c.toNat = true) : lowerChar c ≠ c := by
  intro hsame
  rcases lowerChar_cases c with ⟨-, hnone⟩ | ⟨r', hr', hc', hlow⟩
  · rw [hnone r hr] at hc
    cases hc
  · -- the image is held by no run, yet it is `c`, which `r` holds
    have hunmoved := lowerChar_image_unmoved hr' hc' r hr
    rw [← hlow, hsame, hc] at hunmoved
    cases hunmoved

/-- A character that lower case leaves as it is, and that is neither the capital sigma nor the
capital I with dot, which lower case reads apart from its table. -/
def Lowered (c : Char) : Prop := c ≠ 'Σ' ∧ c ≠ 'İ' ∧ lowerChar c = c

/-- A character other than the capital I with dot lowers to a lowered character. -/
theorem lowered_lowerChar {c : Char} (hdot : c ≠ 'İ') : Lowered (lowerChar c) := by
  refine ⟨fun hsigma => ?_, fun hdotted => ?_, lowerChar_lowerChar c⟩
  · -- the capital sigma is moved, so it is no one's lower case
    obtain ⟨r, hr, hheld⟩ := List.any_eq_true.mp lowerRuns_hold_sigma
    have hmoved := lowerChar_ne_of_held (c := 'Σ') hr hheld
    rw [← hsigma, lowerChar_lowerChar] at hmoved
    exact hmoved rfl
  · rcases lowerChar_cases c with ⟨hkeep, -⟩ | ⟨r, hr, hc, hlow⟩
    · exact hdot (hkeep ▸ hdotted)
    · have hcode := congrArg Char.toNat hdotted
      rw [hlow, show 'İ'.toNat = 304 from rfl] at hcode
      have hapart := (apart_of_tableImages (tableImages_of_holds hr hc)).2.2
      rcases toNat_ofNat_cases ((c.toNat : Int) + r.shift).toNat with h | h <;> omega

/-- The characters that lower case writes apart from its table are lowered. -/
theorem lowered_sigmas_i_dot : Lowered 'ς' ∧ Lowered 'σ' ∧ Lowered 'i' ∧ Lowered '̇' := by
  have hskip := lowerRuns_skip_small
  refine ⟨⟨by decide, by decide, lowerChar_of_unheld fun r hr => (hskip r hr).1⟩,
    ⟨by decide, by decide, lowerChar_of_unheld fun r hr => (hskip r hr).2.1⟩,
    ⟨by decide, by decide, lowerChar_of_unheld fun r hr => (hskip r hr).2.2.1⟩,
    ⟨by decide, by decide, lowerChar_of_unheld fun r hr => (hskip r hr).2.2.2⟩⟩

/-- Every character of a lower-case text is lowered, by induction on the text. -/
theorem lowered_of_mem_lowerFrom : ∀ {before cs : List Char} {x : Char},
    x ∈ lowerFrom before cs → Lowered x
  | _, [], _, h => absurd h List.not_mem_nil
  | before, c :: rest, x, h => by
    simp only [lowerFrom, List.mem_append] at h
    rcases h with hhere | hrest
    · obtain ⟨hfinal, hsmall, hi, hdot⟩ := lowered_sigmas_i_dot
      by_cases hsigma : c = 'Σ'
      · rw [if_pos hsigma] at hhere
        split at hhere <;> rw [List.mem_singleton.mp hhere] <;> assumption
      · by_cases hdotted : c = 'İ'
        · rw [if_neg hsigma, if_pos hdotted] at hhere
          simp only [List.mem_cons, List.not_mem_nil, or_false] at hhere
          rcases hhere with rfl | rfl <;> assumption
        · rw [if_neg hsigma, if_neg hdotted, List.mem_singleton] at hhere
          exact hhere ▸ lowered_lowerChar hdotted
    · exact lowered_of_mem_lowerFrom hrest

/-- Lowered characters are their own lower case, whatever was read before them. -/
theorem lowerFrom_of_lowered : ∀ {before cs : List Char}, (∀ x ∈ cs, Lowered x) →
    lowerFrom before cs = cs
  | _, [], _ => rfl
  | before, c :: rest, h => by
    obtain ⟨hsigma, hdot, hlow⟩ := h c List.mem_cons_self
    rw [lowerFrom, if_neg hsigma, if_neg hdot, hlow,
      lowerFrom_of_lowered fun x hx => h x (List.mem_cons_of_mem c hx)]
    rfl

/-- Lower case is idempotent. -/
theorem lower_lower (s : String) : lower (lower s) = lower s := by
  unfold lower
  rw [String.toList_ofList, lowerFrom_of_lowered fun _ hx => lowered_of_mem_lowerFrom hx]


/-- Lower case makes no blank of a character that is not one. -/
theorem isBlank_lowerChar {c : Char} (hc : isBlank c = false) : isBlank (lowerChar c) = false := by
  rcases lowerChar_cases c with ⟨hkeep, -⟩ | ⟨r, hr, hheld, hlow⟩
  · exact (congrArg isBlank hkeep).trans hc
  · rw [hlow]
    cases hblank : isBlank (Char.ofNat ((c.toNat : Int) + r.shift).toNat)
    · rfl
    · -- the image is no blank, and neither is the null character
      have hbits := blanks_bits_of_isBlank hblank
      rcases toNat_ofNat_cases ((c.toNat : Int) + r.shift).toNat with h | h <;> rw [h] at hbits
      · rw [(apart_of_tableImages (tableImages_of_holds hr hheld)).2.1] at hbits
        cases hbits
      · rw [blanks_bits_zero] at hbits
        cases hbits

/-- The characters that lower case writes apart from its table are not blank. -/
theorem not_blank_sigmas_i_dot :
    isBlank 'ς' = false ∧ isBlank 'σ' = false ∧ isBlank 'i' = false ∧ isBlank '̇' = false := by
  decide

/-- Lower case of characters none of which is blank has no blank, by induction on the text. -/
theorem not_blank_of_mem_lowerFrom : ∀ {before cs : List Char} {x : Char},
    (∀ c ∈ cs, isBlank c = false) → x ∈ lowerFrom before cs → isBlank x = false
  | _, [], _, _, h => absurd h List.not_mem_nil
  | before, c :: rest, x, hcs, h => by
    simp only [lowerFrom, List.mem_append] at h
    rcases h with hhere | hrest
    · obtain ⟨hfinal, hsmall, hi, hdot⟩ := not_blank_sigmas_i_dot
      by_cases hsigma : c = 'Σ'
      · rw [if_pos hsigma] at hhere
        split at hhere <;> rw [List.mem_singleton.mp hhere] <;> assumption
      · by_cases hdotted : c = 'İ'
        · rw [if_neg hsigma, if_pos hdotted] at hhere
          simp only [List.mem_cons, List.not_mem_nil, or_false] at hhere
          rcases hhere with rfl | rfl <;> assumption
        · rw [if_neg hsigma, if_neg hdotted, List.mem_singleton] at hhere
          exact hhere ▸ isBlank_lowerChar (hcs c List.mem_cons_self)
    · exact not_blank_of_mem_lowerFrom (fun d hd => hcs d (List.mem_cons_of_mem c hd)) hrest

/-- Lower case of some characters has some characters. -/
theorem lowerFrom_ne_nil {before cs : List Char} (h : cs ≠ []) : lowerFrom before cs ≠ [] := by
  cases cs with
  | nil => exact absurd rfl h
  | cons c rest =>
    rw [lowerFrom]
    intro hnil
    have hhere := (List.append_eq_nil_iff.mp hnil).1
    split at hhere
    · cases hhere
    · split at hhere <;> cases hhere

set_option maxRecDepth 20000 in
/-- A space is not case-ignorable, so the skipping around a capital sigma stops at it. -/
theorem space_not_ignorable : caseIgnorables.contains ' ' = false := by
  decide

set_option maxRecDepth 20000 in
/-- A space is not cased. -/
theorem space_not_cased : casedLetters.contains ' ' = false := by
  decide

/-- A capital sigma does not look past a space before it. -/
theorem endsWord_space_before (B C after : List Char) :
    endsWord (B ++ ' ' :: C) after = endsWord B after := by
  unfold endsWord
  rw [List.dropWhile_append]
  cases hB : B.dropWhile caseIgnorables.contains with
  | nil =>
    rw [List.isEmpty_nil, if_pos rfl, List.dropWhile_cons_of_neg (by simp [space_not_ignorable])]
    simp [space_not_cased]
  | cons c rest => rw [if_neg (by simp)]; rfl

/-- A capital sigma does not look past a space after it. -/
theorem endsWord_space_after (before A C : List Char) :
    endsWord before (A ++ ' ' :: C) = endsWord before A := by
  unfold endsWord
  rw [List.dropWhile_append]
  cases hA : A.dropWhile caseIgnorables.contains with
  | nil =>
    rw [List.isEmpty_nil, if_pos rfl, List.dropWhile_cons_of_neg (by simp [space_not_ignorable])]
    simp [space_not_cased]
  | cons c rest => rw [if_neg (by simp)]; rfl

/-- What was read before a space does not change how the characters after it are lowered. -/
theorem lowerFrom_space_before (C : List Char) :
    ∀ (B cs : List Char), lowerFrom (B ++ ' ' :: C) cs = lowerFrom B cs
  | _, [] => rfl
  | B, c :: rest => by
    have ih := lowerFrom_space_before C (c :: B) rest
    simp only [lowerFrom, endsWord_space_before, List.cons_append] at ih ⊢
    rw [ih]

/-- Lower case goes word by word across a space. -/
theorem lowerFrom_append_space (ys : List Char) :
    ∀ (before xs : List Char), lowerFrom before (xs ++ ' ' :: ys) =
      lowerFrom before xs ++ ' ' :: lowerFrom [] ys
  | before, [] => by
    have hspace : lowerChar ' ' = ' ' := by rw [lowerChar_of_lt (by decide)]; rfl
    have hrest := lowerFrom_space_before before [] ys
    simp only [List.nil_append] at hrest
    simp [lowerFrom, hspace, hrest]
  | before, c :: xs => by
    have ih := lowerFrom_append_space ys (c :: before) xs
    simp only [lowerFrom, List.cons_append, endsWord_space_after, ih, List.append_assoc]

/-- Lower case of two texts joined by a space. -/
theorem lower_append_space (x y : String) : lower (x ++ " " ++ y) = lower x ++ " " ++ lower y := by
  apply String.toList_injective
  simp [lower, String.toList_append, lowerFrom_append_space]


/-- Lower case of words joined by single spaces is the lower case of each word, so joined. -/
theorem lower_intercalate : ∀ ws : List String,
    lower (" ".intercalate ws) = " ".intercalate (ws.map lower)
  | [] => rfl
  | [w] => by simp
  | w :: v :: rest => by
    rw [String.intercalate_cons_cons, lower_append_space, lower_intercalate (v :: rest)]
    simp only [List.map_cons, String.intercalate_cons_cons]

end Adventure.Text
