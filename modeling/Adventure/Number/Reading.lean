import Adventure.Number.Binary
import Adventure.Text.Digit
import Adventure.Text.Blank
import Adventure.Text.Case

/-! Reading number words into the nearest double, and decimal integers of at most `digitLimit`
digits. -/

namespace Adventure.Number

open Adventure.Text

/-- The double nearest to `±m * 10^k`. Values of at least `10^309` are infinite and values
below `10^-325` are zero, which spares the exact arithmetic on huge powers. -/
def decimalFloat (negative : Bool) (m : Nat) (k : Int) : Float :=
  if m = 0 then roundedFloat negative 0 1
  else if k ≥ 309 then infinity negative
  else if ((Nat.toDigits 10 m).length : Int) + k ≤ -325 then roundedFloat negative 0 1
  else roundedFloat negative (m * tenPow k.toNat) (tenPow (-k).toNat)

/-- The number written by digit values, most significant first. -/
def digitsValue (ds : List Nat) : Nat := ds.foldl (fun acc d => 10 * acc + d) 0

/-- Reads a run of digits of any script, with single underscores between two digits. Returns
the digit values and the rest of the text; `none` if the text does not start with a digit. -/
def digitRun : List Char → Option (List Nat × List Char)
  | [] => none
  | c :: '_' :: more =>
    (decimalValue? c).bind fun d => (digitRun more).map fun (ds, tail) => (d :: ds, tail)
  | c :: rest =>
    match decimalValue? c with
    | none => none
    | some d =>
      match digitRun rest with
      | some (ds, tail) => some (d :: ds, tail)
      | none => some ([d], rest)

/-- Reads an optional sign. -/
def signOf : List Char → Bool × List Char
  | '-' :: rest => (true, rest)
  | '+' :: rest => (false, rest)
  | cs => (false, cs)

/-- Reads an optional exponent: a mark `e` or `E`, a sign and a run of digits. Without a mark
the exponent is zero; a mark without digits is no exponent and leaves the text unread. -/
def exponentPart : List Char → Option (Int × List Char)
  | c :: rest =>
    if c = 'e' ∨ c = 'E' then
      let (negative, afterSign) := signOf rest
      match digitRun afterSign with
      | some (ds, tail) =>
        let k : Int := digitsValue ds
        some (if negative then -k else k, tail)
      | none => none
    else some (0, c :: rest)
  | [] => some (0, [])

/-- Reads the digits of a decimal without sign: integer digits, an optional point and
fraction digits, at least one digit in all. Returns the digits as one number, the power of ten
that the fraction contributes, and the rest of the text. -/
def decimalPart (cs : List Char) : Option (Nat × Int × List Char) :=
  match digitRun cs with
  | some (whole, '.' :: rest) =>
    match digitRun rest with
    | some (frac, tail) => some (digitsValue (whole ++ frac), -(frac.length : Int), tail)
    | none => some (digitsValue whole, 0, rest)
  | some (whole, rest) => some (digitsValue whole, 0, rest)
  | none =>
    match cs with
    | '.' :: rest =>
      match digitRun rest with
      | some (frac, tail) => some (digitsValue frac, -(frac.length : Int), tail)
      | none => none
    | _ => none

/-- The blanks allowed around a number word: the six blanks of ASCII, and every blank beyond
ASCII. -/
def numberBlank (c : Char) : Bool :=
  if c.toNat < 128 then c == ' ' || ('\t' ≤ c && c ≤ '\r') else isBlank c

/-- A number word: sign, then either a decimal with an optional exponent or one of the words
for infinity and not-a-number, with blanks around it allowed. -/
def readFloatWord (s : String) : Option Float :=
  let trimmed := ((s.toList.dropWhile numberBlank).reverse.dropWhile numberBlank).reverse
  let (negative, body) := signOf trimmed
  let word := String.ofList body
  let folded := lower word
  if folded = "inf" ∨ folded = "infinity" then some (infinity negative)
  else if folded = "nan" then some notANumber
  else
    match decimalPart body with
    | some (m, shift, rest) =>
      match exponentPart rest with
      | some (k, []) => some (decimalFloat negative m (shift + k))
      | _ => none
    | none => none

/-- The most decimal digits an integer is read from. -/
def digitLimit : Nat := 4300

/-- A natural number written with decimal digits of any script and nothing else, at most
`digitLimit` of them. -/
def readDecimalNat (s : String) : Option Nat :=
  let cs := s.toList
  if cs.isEmpty || cs.length > digitLimit then none
  else (cs.mapM decimalValue?).map digitsValue

end Adventure.Number
