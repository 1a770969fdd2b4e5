import Adventure.Fault

/-! Sorting under a less-than that may fail or be partial, with the pairs it compares fixed. -/

namespace Adventure

variable {α : Type}

/-- The number of items that continue a strictly falling run after `prev`. -/
def fallingRun (lt : α → α → Except Fault Bool) (prev : α) : List α → Except Fault Nat
  | [] => .ok 0
  | x :: rest => do
    if ← lt x prev then return (← fallingRun lt x rest) + 1 else return 0

/-- The number of items that continue a never falling run after `prev`. -/
def risingRun (lt : α → α → Except Fault Bool) (prev : α) : List α → Except Fault Nat
  | [] => .ok 0
  | x :: rest => do
    if ← lt x prev then return 0 else return (← risingRun lt x rest) + 1

/-- The run at the front of a list, in order, and the items after it. -/
def frontRun (lt : α → α → Except Fault Bool) : List α → Except Fault (List α × List α)
  | x :: y :: rest => do
    if ← lt y x then
      let k ← fallingRun lt y rest
      return ((x :: y :: rest.take k).reverse, rest.drop k)
    else
      let k ← risingRun lt y rest
      return (x :: y :: rest.take k, rest.drop k)
  | xs => .ok (xs, [])

/-- The place of `pivot` among the sorted items between positions `lo` and `hi`: after every
item that it is not below. -/
def insertionPoint (lt : α → α → Except Fault Bool) (sorted : Array α) (pivot : α)
    (lo hi : Nat) : Except Fault Nat :=
  if lo < hi then
    let mid := lo + (hi - lo) / 2
    match sorted[mid]? with
    | none => .ok lo
    | some y => do
      if ← lt pivot y then insertionPoint lt sorted pivot lo mid
      else insertionPoint lt sorted pivot (mid + 1) hi
  else .ok lo
termination_by hi - lo
decreasing_by all_goals omega

/-- Places each item into the sorted items by binary search. -/
def insertAll (lt : α → α → Except Fault Bool) (sorted : Array α) : List α → Except Fault (Array α)
  | [] => .ok sorted
  | x :: rest => do
    let i ← insertionPoint lt sorted x 0 sorted.size
    insertAll lt (sorted.insertIdxIfInBounds i x) rest

/-- Sorts from smallest to largest under a less-than that may fail. -/
def sortWith (lt : α → α → Except Fault Bool) (xs : List α) : Except Fault (List α) := do
  let (run, rest) ← frontRun lt xs
  return (← insertAll lt run.toArray rest).toList

/-- Sorts from largest to smallest, equal items keeping their order. -/
def sortDescendingWith (lt : α → α → Except Fault Bool) (xs : List α) : Except Fault (List α) := do
  return (← sortWith lt xs.reverse).reverse

end Adventure
