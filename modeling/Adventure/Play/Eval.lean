import Adventure.Play.Path
import Adventure.Play.Lookup

/-! Evaluating conditions without changing the state: the outcome says whether a condition passed
and which one-shot gates it would use, for the caller to use or drop. -/

namespace Adventure.Play

open Adventure.Story

/-- Whether a condition passed, and the gates it would use. -/
structure Outcome where
  passed : Bool
  marks : List Value
  deriving Inhabited

/-- A failed outcome. -/
def Outcome.fail : Outcome := ⟨false, []⟩

/-- A passed outcome without gates. -/
def Outcome.pass : Outcome := ⟨true, []⟩

/-- A leaf outcome: passed or failed, without gates. -/
def Outcome.ofBool (b : Bool) : Outcome := ⟨b, []⟩

/-- The item id a `present` path names: the part after the last point of a text. A path that
is not a text is taken as the id itself, when it can be searched for a point at all. -/
def presentId : Value → Except Fault Value
  | .str p =>
    if p.toList.contains '.' then
      .ok (.str (String.ofList (p.toList.reverse.takeWhile (· != '.')).reverse))
    else .ok (.str p)
  | .arr items =>
    if (Value.str ".").memberOf items then .error .noSuchOperation else .ok (.arr items)
  | .obj fields =>
    if fields.any (·.1 == ".") then .error .noSuchOperation else .ok (.obj fields)
  | _ => .error .wrongKind

/-- Whether the item a path names lies untaken in the current room. -/
def isPresent (g : Game) (s : GameState) (path : Value) : Except Fault Bool := do
  let room ← currentRoom g s
  let id ← presentId path
  match room.items.find? (·.id.equals id) with
  | some item => return !s.isTaken item.id
  | none => return false

/-- Whether the item `id` lies untaken and uncarried in the current room, at `place`. -/
def isAt (g : Game) (s : GameState) (id place : Value) : Except Fault Bool := do
  let room ← currentRoom g s
  match room.items.find? (·.id.equals id) with
  | none => return false
  | some item =>
    if s.isTaken id || s.hasItem id then return false
    let where_ := if item.location.truthy then item.location else room.id
    return where_.equals place

/-- The comparison of a loose number with a given value. -/
def compareWith (test : Test) (n : Num) (v : Value) : Except Fault Bool :=
  match v.num? with
  | none => .error .wrongKind
  | some m =>
    match test with
    | .gt => .ok (m.lt n)
    | .gte => .ok (m.le n)
    | .lt => .ok (n.lt m)
    | _ => .ok (n.le m)

/-- The outcome of a leaf. -/
def evalLeaf (g : Game) (s : GameState) (test : Test) (path value : Value) :
    Except Fault Outcome :=
  match test with
  | .once => .ok (if s.usedGate path then .fail else ⟨true, [path]⟩)
  | .truthy => do return .ofBool (← s.read path).holds
  | .falsy => do return .ofBool !(← s.read path).holds
  | .has => .ok (.ofBool (s.hasItem path))
  | .lacks => .ok (.ofBool !(s.hasItem path))
  | .eq => do return .ofBool ((← s.read path).strictEquals value)
  | .ne => do return .ofBool !((← s.read path).strictEquals value)
  | .gt | .gte | .lt | .lte => do
    return .ofBool (← compareWith test (← (← s.read path).toNumber) value)
  | .present => do return .ofBool (← isPresent g s path)
  | .absent => do return .ofBool !(← isPresent g s path)
  | .isAt => do return .ofBool (← isAt g s path value)

mutual
/-- The outcome of a condition. -/
def evalCondition (g : Game) (s : GameState) : Condition → Except Fault Outcome
  | .leaf test path value => evalLeaf g s test path value
  | .all children => evalAll g s children
  | .any children => evalAny g s children
  | .negate child => do return .ofBool !(← evalCondition g s child).passed

/-- The outcome of all conditions together: all must pass, and then all offer their gates. -/
def evalAll (g : Game) (s : GameState) : List Condition → Except Fault Outcome
  | [] => .ok .pass
  | c :: rest => do
    let first ← evalCondition g s c
    if !first.passed then return .fail
    let others ← evalAll g s rest
    if !others.passed then return .fail
    return ⟨true, first.marks ++ others.marks⟩

/-- The outcome of the first passing condition, or a failure when none passes. -/
def evalAny (g : Game) (s : GameState) : List Condition → Except Fault Outcome
  | [] => .ok .fail
  | c :: rest => do
    let first ← evalCondition g s c
    if first.passed then return first
    evalAny g s rest
end

/-- The outcome of a list of conditions that must all pass; no conditions pass. -/
def checkAll (g : Game) (s : GameState) (cs : List Condition) : Except Fault Outcome :=
  evalAll g s cs

end Adventure.Play
