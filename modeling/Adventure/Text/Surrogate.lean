import Adventure.Fault

/-! Halves of surrogate pairs, kept as private-use characters of plane 16 so that texts holding
them are written back and shown as given. -/

namespace Adventure.Text

/-- The character that keeps the first half, `U+D800`. -/
def halfBase : Nat := 0x10A800

/-- The first code of a half of a surrogate pair. -/
def firstHalf : Nat := 0xD800

/-- Whether a code is half of a surrogate pair. -/
def isHalfCode (n : Nat) : Bool := firstHalf ≤ n && n < firstHalf + 0x800

/-- The half of a surrogate pair a character keeps, if it keeps one. -/
def halfOf? (c : Char) : Option Nat :=
  if halfBase ≤ c.toNat ∧ c.toNat < halfBase + 0x800 then some (c.toNat - halfBase + firstHalf)
  else none

/-- The character that keeps a half of a surrogate pair. -/
def ofHalf (n : Nat) : Char := Char.ofNat (n - firstHalf + halfBase)

/-- The code point a character stands for: its own, or the half it keeps. -/
def codeOf (c : Char) : Nat := (halfOf? c).getD c.toNat

/-- Whether one list of characters comes before another, by the code points they stand for. -/
def codesBefore : List Char → List Char → Bool
  | [], [] => false
  | [], _ :: _ => true
  | _ :: _, [] => false
  | a :: as, b :: bs => if a = b then codesBefore as bs else decide (codeOf a < codeOf b)

/-- Whether one text comes before another, by the code points of their characters. -/
def textBefore (a b : String) : Bool := codesBefore a.toList b.toList

/-- Whether a text holds a half of a surrogate pair. -/
def hasHalf (s : String) : Bool := s.toList.any fun c => (halfOf? c).isSome

/-- Whether a text can name a file: every half it holds stands for a byte outside UTF-8. -/
def nameEncodable (s : String) : Bool :=
  s.toList.all fun c =>
    match halfOf? c with
    | some n => 0xDC80 ≤ n && n ≤ 0xDCFF
    | none => true

/-- Refuses a text that cannot name a file: one with a half of a surrogate pair that stands for
no byte, or one with a NUL character. -/
def checkFileName (name : String) : Except Fault Unit :=
  if !nameEncodable name then .error .unencodable
  else if name.toList.contains '\x00' then .error .badValue
  else .ok ()

/-- A valid code point is the code of its character. -/
theorem toNat_ofNat_valid (m : Nat) (valid : m.isValidChar) : (Char.ofNat m).toNat = m := by
  rw [Char.ofNat, dif_pos valid]; rfl

/-- The character that keeps a half gives the half back. -/
theorem halfOf?_ofHalf (n : Nat) (lo : firstHalf ≤ n) (hi : n < firstHalf + 0x800) :
    halfOf? (ofHalf n) = some n := by
  have valid : (n - firstHalf + halfBase).isValidChar := by
    right; unfold firstHalf halfBase at *; omega
  unfold halfOf? ofHalf
  rw [toNat_ofNat_valid _ valid, if_pos (by unfold firstHalf halfBase at *; omega)]
  congr 1
  omega

/-- No list comes before itself. -/
theorem codesBefore_self (cs : List Char) : codesBefore cs cs = false := by
  induction cs with
  | nil => rfl
  | cons c rest ih => simp [codesBefore, ih]

/-- Characters below the keepers of halves stand for themselves. -/
theorem codeOf_of_lt (c : Char) (below : c.toNat < halfBase) : codeOf c = c.toNat := by
  have : ¬ (halfBase ≤ c.toNat ∧ c.toNat < halfBase + 0x800) := by omega
  simp [codeOf, halfOf?, this]

end Adventure.Text
