import Adventure.Number.Binary
import Adventure.Fault

/-! Numbers are exact integers or doubles: sums round only when a double takes part, and comparison
is always exact, a not-a-number being unordered. -/

namespace Adventure

open Adventure.Number

/-- An exact integer or a double. -/
inductive Num where
  | int (i : Int)
  | float (f : Float)

namespace Num

/-- The double nearest to a number; `tooLarge` for an integer beyond every double. -/
def toFloat : Num → Except Fault Float
  | .int i => match floatOfInt? i with
    | some f => .ok f
    | none => .error .tooLarge
  | .float f => .ok f

/-- Applies an operation of integers or, when a double takes part, of doubles. -/
def combine (onInts : Int → Int → Int) (onFloats : Float → Float → Float) :
    Num → Num → Except Fault Num
  | .int a, .int b => .ok (.int (onInts a b))
  | a, b => do
    let x ← a.toFloat
    let y ← b.toFloat
    pure (.float (onFloats x y))

/-- The sum of two numbers. -/
def add : Num → Num → Except Fault Num := combine (· + ·) (· + ·)

/-- The difference of two numbers. -/
def sub : Num → Num → Except Fault Num := combine (· - ·) (· - ·)

/-- Exact order of two numbers; `none` when a not-a-number takes part. -/
def compare? : Num → Num → Option Ordering
  | .int a, .int b => some (compare a b)
  | .int a, .float y => compareIntFloat a y
  | .float x, .int b => (compareIntFloat b x).map Ordering.swap
  | .float x, .float y =>
    if x < y then some .lt else if y < x then some .gt
    else if x == y then some .eq else none

/-- Whether two numbers are equal. -/
def eq (a b : Num) : Bool := a.compare? b == some .eq

/-- Whether the first number is below the second. -/
def lt (a b : Num) : Bool := a.compare? b == some .lt

/-- Whether the first number is at most the second. -/
def le (a b : Num) : Bool := a.compare? b == some .lt || a.compare? b == some .eq

/-- Whether the number is a not-a-number. -/
def isNaN : Num → Bool
  | .int _ => false
  | .float f => f != f

end Num

end Adventure
