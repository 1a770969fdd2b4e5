import Adventure.Play.Eval

/-! Choosing the first use action of an item that fits the target and the number and whose
conditions pass. -/

namespace Adventure.Play

open Adventure.Story

/-- A chosen action: its position among the item's actions, the item and the gates. -/
structure UseChoice where
  index : Nat
  action : UseAction
  source : Item
  marks : List Value

/-- Whether an action answers to the target. -/
def targetFits (a : UseAction) (target : Option Item) : Bool :=
  if a.target.truthy then
    match target with
    | some t => t.id.equals a.target
    | none => false
  else target.isNone

/-- Whether an action answers to the number, null standing for no number. -/
def numberFits (a : UseAction) : Value → Bool
  | .null =>
    match a.number with
    | .null => !a.anyNumber.truthy
    | _ => false
  | n =>
    match a.number with
    | .null => a.anyNumber.truthy
    | m => m.equals n

/-- The first eligible action of `item` for the target and number. -/
def chooseAction (g : Game) (s : GameState) (item : Item) (target : Option Item)
    (number : Value) : Except Fault (Option UseChoice) := do
  for (a, i) in item.useActions.zipIdx do
    if targetFits a target && numberFits a number then
      let outcome ← checkAll g s a.requires
      if outcome.passed then return some ⟨i, a, item, outcome.marks⟩
  return none

end Adventure.Play
