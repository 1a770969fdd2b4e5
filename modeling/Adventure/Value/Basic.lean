import Adventure.Number.Num
import Adventure.Text.Surrogate

/-! Values with the loose meaning of a scripting language: numbers compare by value across integers
and doubles, and a container compares its members by identity before equality. -/
namespace Adventure

/-- A data value. -/
inductive Value where
  | null
  | bool (b : Bool)
  | int (i : Int)
  | float (f : Float)
  | str (s : String)
  | arr (items : List Value)
  | obj (fields : List (String × Value))
  deriving Inhabited

namespace Value

/-- The number a value stands for: integers, doubles, and truth values as 0 and 1. -/
def num? : Value → Option Num
  | .bool b => some (.int (if b then 1 else 0))
  | .int i => some (.int i)
  | .float f => some (.float f)
  | _ => none

/-- The value of a number. -/
def ofNum : Num → Value
  | .int i => .int i
  | .float f => .float f

/-- Whether a value counts as true: all but null, false, zeros and empty texts, lists and
objects. A not-a-number counts as true here. -/
def truthy : Value → Bool
  | .null => false
  | .bool b => b
  | .int i => i != 0
  | .float f => !(f == 0.0)
  | .str s => !s.isEmpty
  | .arr items => !items.isEmpty
  | .obj fields => !fields.isEmpty

/-- Whether a value is a not-a-number double. -/
def isNaN : Value → Bool
  | .float f => f != f
  | _ => false

mutual
/-- Equality of values: numbers by value, texts by characters, lists item by item and objects
by their fields in any order. Items and fields are compared as members (see `sameItem`), so two
not-a-numbers inside lists are equal while a not-a-number on its own equals nothing. -/
def equals : Value → Value → Bool
  | .null, .null => true
  | .str a, .str b => a == b
  | .arr xs, .arr ys => equalsList xs ys
  | .obj xs, .obj ys => xs.length == ys.length && fieldsWithin xs ys
  | a, b =>
    match a.num?, b.num? with
    | some x, some y => x.eq y
    | _, _ => false

/-- Item-by-item equality of two lists. -/
def equalsList : List Value → List Value → Bool
  | [], [] => true
  | x :: xs, y :: ys => ((x.isNaN && y.isNaN) || equals x y) && equalsList xs ys
  | _, _ => false

/-- Whether every field of the first object has an equal field in the second. -/
def fieldsWithin : List (String × Value) → List (String × Value) → Bool
  | [], _ => true
  | (k, v) :: rest, other =>
    (match other.find? (·.1 == k) with
      | some (_, w) => (v.isNaN && w.isNaN) || equals v w
      | none => false) && fieldsWithin rest other
end

mutual
/-- How deeply lists and objects nest in a value: zero for a value that is neither. -/
def depth : Value → Nat
  | .arr items => depthItems items + 1
  | .obj fields => depthFields fields + 1
  | _ => 0

/-- The greatest depth of the items of a list. -/
def depthItems : List Value → Nat
  | [] => 0
  | v :: rest => max v.depth (depthItems rest)

/-- The greatest depth of the values of fields. -/
def depthFields : List (String × Value) → Nat
  | [] => 0
  | (_, v) :: rest => max v.depth (depthFields rest)
end

/-- Whether a value can be a key of a map or a member of a set: every value but lists and
objects. -/
def hashable : Value → Bool
  | .arr _ => false
  | .obj _ => false
  | _ => true

/-- Whether two values are the same member of a container: the same object, or equal. Members are
compared by identity first; the only values unequal to themselves are not-a-numbers, and the
data reader gives every not-a-number as one shared object, so two of them are the same member. -/
def sameItem (x y : Value) : Bool := (x.isNaN && y.isNaN) || x.equals y

/-- Whether a list holds `x`: a member that is the same object or equal. -/
def memberOf (x : Value) (xs : List Value) : Bool := xs.any (sameItem x)

@[simp] theorem isNaN_str (t : String) : (Value.str t).isNaN = false := rfl

/-- A text is the same member as the values equal to it, on either side. -/
@[simp] theorem sameItem_str_left (t : String) (y : Value) :
    (Value.str t).sameItem y = (Value.str t).equals y := by
  simp [sameItem]

@[simp] theorem sameItem_str_right (x : Value) (t : String) :
    x.sameItem (.str t) = x.equals (.str t) := by
  simp [sameItem]

/-- Whether a value is the text `t`. -/
def isText (v : Value) (t : String) : Bool :=
  match v with
  | .str s => s == t
  | _ => false

/-- The field `key` of an object. -/
def field? (key : String) : Value → Option Value
  | .obj fields => (fields.find? (·.1 == key)).map (·.2)
  | _ => none

/-- The field `key` of an object, or `default` when it has none; asking a value that is not an
object is a fault. -/
def getOr (v : Value) (key : String) (default : Value) : Except Fault Value :=
  match v with
  | .obj fields => .ok ((fields.find? (·.1 == key)).map (·.2) |>.getD default)
  | _ => .error .noSuchOperation

/-- The field `key` of an object, which must be there. -/
def need (v : Value) (key : String) : Except Fault Value :=
  match v with
  | .obj fields =>
    match fields.find? (·.1 == key) with
    | some (_, w) => .ok w
    | none => .error (.missingKey key)
  | _ => .error .wrongKind

/-- The members of a value taken as a sequence: the items of a list, the characters of a text
as one-character texts, the field names of an object. Other values have none. -/
def members : Value → Except Fault (List Value)
  | .arr items => .ok items
  | .str s => .ok (s.toList.map fun c => .str (String.singleton c))
  | .obj fields => .ok (fields.map fun kv => .str kv.1)
  | _ => .error .wrongKind

/-- The number of members of a list, text or object. -/
def size? : Value → Option Nat
  | .arr items => some items.length
  | .str s => some s.length
  | .obj fields => some fields.length
  | _ => none

/-- Sets the field `key` of an object's fields: in place when it is there, else at the end. -/
def setField (fields : List (String × Value)) (key : String) (v : Value) :
    List (String × Value) :=
  if fields.any (·.1 == key) then fields.map fun kv => if kv.1 == key then (key, v) else kv
  else fields ++ [(key, v)]

mutual
/-- The order of values used to find a largest one or to sort: numbers by value, texts by
code points, lists by their first differing item and then by length. Other pairs have no
order, which is a fault. -/
def lessThan : Value → Value → Except Fault Bool
  | .str a, .str b => .ok (Text.textBefore a b)
  | .arr xs, .arr ys => lessThanList xs ys
  | a, b =>
    match a.num?, b.num? with
    | some x, some y => .ok (x.lt y)
    | _, _ => .error .wrongKind

/-- The order of lists: at the first pair of items that differ, the order of those items;
a list that runs out first is the smaller. -/
def lessThanList : List Value → List Value → Except Fault Bool
  | [], [] => .ok false
  | [], _ :: _ => .ok true
  | _ :: _, [] => .ok false
  | x :: xs, y :: ys =>
    if (x.isNaN && y.isNaN) || equals x y then lessThanList xs ys else lessThan x y
end

end Value

end Adventure
