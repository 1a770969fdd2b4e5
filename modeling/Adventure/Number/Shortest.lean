import Adventure.Number.Binary

/-! The shortest decimal digits of a positive double: the first grid of 1 to 17 significant digits
with a point inside the double's rounding interval. -/

namespace Adventure.Number

/-- Decimal digits of a double together with the position of the decimal point. -/
structure Digits where
  digits : List Char
  point : Int

/-- Whether `m * 2^e ≥ 10^k`. -/
def atLeastPow10 (m : Nat) (e k : Int) : Bool :=
  m * twoPow e.toNat * tenPow (-k).toNat ≥ twoPow (-e).toNat * tenPow k.toNat

/-- Moves a guess of `⌊log10 (m * 2^e)⌋` to its exact value; each step moves by one, and the
guess is never more than two away. -/
def settleLog10 (m : Nat) (e : Int) : Nat → Int → Int
  | 0, k => k
  | fuel + 1, k =>
    if !atLeastPow10 m e k then settleLog10 m e fuel (k - 1)
    else if atLeastPow10 m e (k + 1) then settleLog10 m e fuel (k + 1)
    else k

/-- `⌊log10 (m * 2^e)⌋` for `m > 0`. -/
def floorLog10 (m : Nat) (e : Int) : Int :=
  settleLog10 m e 8 (((e + (m.log2 : Int)) * 30103) / 100000)

/-- The decimal digits of a natural number, most significant first. -/
def natDigits (n : Nat) : List Char := (Nat.toDigits 10 n)

/-- Drops the zeros at the end of a digit string. -/
def dropTrailingZeros (ds : List Char) : List Char :=
  (ds.reverse.dropWhile (· == '0')).reverse

/-- The grid point chosen with `p` significant digits, if either neighbour of `v` on that grid
lies in the rounding interval. `low` and `high` are the interval ends and `v` the value, all in
units of `2^(e-2)`; `closed` says whether the ends belong to it. -/
def gridHit (low value high : Nat) (closed : Bool) (e : Int) (top : Int) (p : Nat) :
    Option Digits :=
  let s : Int := top - p + 1
  let k : Int := e - 2
  let a := twoPow k.toNat * tenPow (-s).toNat
  let b := twoPow (-k).toNat * tenPow s.toNat
  let t := value * a / b
  let within (lhs rhs : Nat) : Bool := if closed then lhs ≤ rhs else lhs < rhs
  let loIn := value * a == t * b || within (low * a) (t * b)
  let hiIn := within ((t + 1) * b) (high * a)
  let pick (d : Nat) : Digits :=
    let ds := natDigits d
    ⟨dropTrailingZeros ds, s + ds.length⟩
  if loIn && hiIn then
    let below := value * a - t * b
    let above := (t + 1) * b - value * a
    if below < above then some (pick t)
    else if above < below then some (pick (t + 1))
    else some (pick (if t % 2 = 0 then t else t + 1))
  else if loIn then some (pick t)
  else if hiIn then some (pick (t + 1))
  else none

/-- The shortest digits of the positive double `m * 2^e`, with `m` and `e` as read off its bits
(so `m ≥ 2^52` unless `e = -1074`). -/
def shortestDigits (m : Nat) (e : Int) : Digits :=
  let value := 4 * m
  let high := 4 * m + 2
  let low := if m = twoPow 52 ∧ e > -1074 then 4 * m - 1 else 4 * m - 2
  let closed := m % 2 = 0
  let top := floorLog10 m e
  let rec search : Nat → Nat → Digits
    | 0, _ => ⟨dropTrailingZeros (natDigits m), 0⟩
    | fuel + 1, p =>
      match gridHit low value high closed e top p with
      | some d => d
      | none => search fuel (p + 1)
  search 17 1

end Adventure.Number
