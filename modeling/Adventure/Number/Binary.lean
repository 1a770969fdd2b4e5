/-! Doubles as exact binary numbers `±mantissa * 2^exponent`: their parts, the double nearest to a
rational, and exact comparison of an integer with a double. -/

namespace Adventure.Number

/-- The parts of a double. -/
inductive Binary where
  | nan
  | infinite (negative : Bool)
  | finite (negative : Bool) (mantissa : Nat) (exponent : Int)

/-- Two to the power `k`, as a natural number. -/
def twoPow (k : Nat) : Nat := Nat.pow 2 k

/-- Ten to the power `k`, as a natural number. -/
def tenPow (k : Nat) : Nat := Nat.pow 10 k

namespace Binary

/-- The parts of `f`, read off its bits: sign, 11 exponent bits and 52 fraction bits. -/
def ofFloat (f : Float) : Binary :=
  let bits : Nat := f.toBits.toNat
  let negative : Bool := bits / twoPow 63 % 2 == 1
  let biased : Nat := bits / twoPow 52 % twoPow 11
  let fraction : Nat := bits % twoPow 52
  if biased = 2047 then
    if fraction = 0 then .infinite negative else .nan
  else if biased = 0 then .finite negative fraction (-1074)
  else .finite negative (fraction + twoPow 52) ((biased : Int) - 1075)

end Binary

/-- `num / den * 2^(-shift)` rounded down, with the remainder of that division and the divisor,
for a shift of either sign. -/
def scaledQuotient (num den : Nat) (shift : Int) : Nat × Nat × Nat :=
  let n := num * twoPow (-shift).toNat
  let d := den * twoPow shift.toNat
  (n / d, n % d, d)

/-- The exponent of the last mantissa bit of the double nearest to `num / den`: 53 bits of
mantissa when the value is normal, the fixed exponent -1074 when it is subnormal. -/
def mantissaShift (num den : Nat) : Int :=
  let estimate : Int := max ((num.log2 : Int) - (den.log2 : Int) - 53) (-1074)
  if (scaledQuotient num den estimate).1 < twoPow 53 then estimate else estimate + 1

/-- The bits of the double nearest to `num / den`, for `den > 0`: ties go to the even
mantissa, and `none` stands for a value that rounds to 2^1024 or beyond. -/
def nearestBits (num den : Nat) : Option Nat :=
  let shift := mantissaShift num den
  let (q, r, d) := scaledQuotient num den shift
  let up := 2 * r > d || (2 * r = d && q % 2 = 1)
  let q := if up then q + 1 else q
  let (q, shift) := if q = twoPow 53 then (twoPow 52, shift + 1) else (q, shift)
  if q < twoPow 52 then some q
  else
    let biased := shift + 1075
    if biased ≥ 2047 then none
    else some (biased.toNat * twoPow 52 + (q - twoPow 52))

/-- The double nearest to `±num / den`, or `none` when it is beyond the largest double. -/
def nearestFloat (negative : Bool) (num den : Nat) : Option Float :=
  (nearestBits num den).map fun bits =>
    Float.ofBits (UInt64.ofNat (if negative then bits + twoPow 63 else bits))

/-- The double nearest to an integer, or `none` when the integer is too large for one. -/
def floatOfInt? (i : Int) : Option Float := nearestFloat (i < 0) i.natAbs 1

/-- The infinity of the given sign. -/
def infinity (negative : Bool) : Float :=
  Float.ofBits (UInt64.ofNat (if negative then 0xFFF0000000000000 else 0x7FF0000000000000))

/-- The quiet not-a-number. -/
def notANumber : Float := Float.ofBits 0x7FF8000000000000

/-- The double nearest to `±num / den`, infinite beyond the largest double. -/
def roundedFloat (negative : Bool) (num den : Nat) : Float :=
  (nearestFloat negative num den).getD (infinity negative)

/-- Exact order between an integer and a double; `none` when the double is not a number. -/
def compareIntFloat (i : Int) (f : Float) : Option Ordering :=
  match Binary.ofFloat f with
  | .nan => none
  | .infinite negative => some (if negative then .gt else .lt)
  | .finite negative mantissa exponent =>
    let scaled : Int := i * (twoPow (-exponent).toNat : Int)
    let signed : Int := if negative then -(mantissa : Int) else mantissa
    let value : Int := signed * (twoPow exponent.toNat : Int)
    some (compare scaled value)

end Adventure.Number
