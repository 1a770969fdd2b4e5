import Adventure.Value.Basic
import Adventure.Number.Reading

/-! How conditions and counters read a value as a number or a truth value, and strict equality. -/

namespace Adventure

open Adventure.Number Adventure.Text

/-- Whether `c` is an ASCII digit. -/
def isAsciiDigit (c : Char) : Bool := '0' ≤ c && c ≤ '9'

/-- The rest of a text after an optional exponent of ASCII digits: `none` when a mark is not
followed by digits. -/
def asciiExponentRest : List Char → Option (List Char)
  | m :: rest =>
    if m = 'e' ∨ m = 'E' then
      let unsigned := match rest with
        | '+' :: more => more
        | '-' :: more => more
        | _ => rest
      let digits := unsigned.takeWhile isAsciiDigit
      if digits.isEmpty then none else some (unsigned.drop digits.length)
    else some (m :: rest)
  | [] => some []

/-- Whether a text is a plain decimal: an optional sign, ASCII digits with at most one point
and at least one digit, the point not alone, and an optional exponent. -/
def isPlainDecimal (cs : List Char) : Bool :=
  let body := match cs with
    | '+' :: rest => rest
    | '-' :: rest => rest
    | _ => cs
  let whole := body.takeWhile isAsciiDigit
  let afterWhole := body.drop whole.length
  let afterNumber : Option (List Char) :=
    if whole.isEmpty then
      match afterWhole with
      | '.' :: rest =>
        let frac := rest.takeWhile isAsciiDigit
        if frac.isEmpty then none else some (rest.drop frac.length)
      | _ => none
    else
      match afterWhole with
      | '.' :: rest => some (rest.dropWhile isAsciiDigit)
      | _ => some afterWhole
  match afterNumber with
  | none => false
  | some rest => asciiExponentRest rest == some []

/-- The value of a digit in base 16 or below. -/
def radixDigit? (c : Char) : Option Nat :=
  if '0' ≤ c ∧ c ≤ '9' then some (c.toNat - '0'.toNat)
  else if 'a' ≤ c ∧ c ≤ 'f' then some (c.toNat - 'a'.toNat + 10)
  else if 'A' ≤ c ∧ c ≤ 'F' then some (c.toNat - 'A'.toNat + 10)
  else none

/-- The number written by nonempty digits in base `b`, each below `b`. -/
def radixValue? (b : Nat) (cs : List Char) : Option Nat :=
  if cs.isEmpty then none
  else cs.foldlM (fun acc c => do
    let d ← radixDigit? c
    if d < b then some (acc * b + d) else none) 0

/-- The integer of a `0x`, `0o` or `0b` form, without sign. -/
def radixNumber? : List Char → Option Nat
  | '0' :: m :: digits =>
    if m = 'x' ∨ m = 'X' then radixValue? 16 digits
    else if m = 'o' ∨ m = 'O' then radixValue? 8 digits
    else if m = 'b' ∨ m = 'B' then radixValue? 2 digits
    else none
  | _ => none

/-- The number a text stands for; a plain decimal integer of more than `digitLimit` digits is
refused. -/
def numberOfText (s : String) : Except Fault Num :=
  let cs := trimChars s.toList
  let text := String.ofList cs
  if cs.isEmpty then .ok (.int 0)
  else if isPlainDecimal cs then
    let unsigned := cs.dropWhile (fun c => c = '+' || c = '-')
    if !unsigned.isEmpty && unsigned.all isAsciiDigit then
      if unsigned.length > digitLimit then .error .badValue
      else
        let n : Int := digitsValue (unsigned.map fun c => c.toNat - '0'.toNat)
        .ok (.int (if cs.head? == some '-' then -n else n))
    else .ok (.float ((readFloatWord text).getD notANumber))
  else
    match radixNumber? cs with
    | some n => .ok (.int n)
    | none =>
      if text = "Infinity" ∨ text = "+Infinity" then .ok (.float (infinity false))
      else if text = "-Infinity" then .ok (.float (infinity true))
      else .ok (.float notANumber)

namespace Value

/-- The number a value stands for, loosely. -/
def toNumber : Value → Except Fault Num
  | .null => .ok (.float notANumber)
  | .bool b => .ok (.int (if b then 1 else 0))
  | .int i => .ok (.int i)
  | .float f => .ok (.float f)
  | .str s => numberOfText s
  | _ => .ok (.float notANumber)

/-- Whether a value holds: it counts as true and is not a not-a-number. -/
def holds : Value → Bool
  | .float f => f == f && f != 0.0
  | v => v.truthy

/-- Strict equality: truth values only equal truth values, numbers compare by value, and
other values must be of one kind and equal. -/
def strictEquals : Value → Value → Bool
  | .bool a, .bool b => a == b
  | .bool _, _ => false
  | _, .bool _ => false
  | a, b =>
    match a.num?, b.num? with
    | some x, some y => x.eq y
    | some _, none => false
    | none, some _ => false
    | none, none =>
      match a, b with
      | .null, .null => true
      | .str x, .str y => x == y
      | .arr _, .arr _ => a.equals b
      | .obj _, .obj _ => a.equals b
      | _, _ => false

end Value

end Adventure
