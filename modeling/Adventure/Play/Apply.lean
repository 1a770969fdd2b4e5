import Adventure.Play.Eval
import Adventure.Play.Act

/-! Effects applied in order with no undo, then one pass over the global triggers; room triggers
apply their effects as a list and collect their messages. -/

namespace Adventure.Play

open Adventure.Story

/-- The loose number of a value, with not-a-number counted as 0. -/
def counterValue (v : Value) : Except Fault Num := do
  let n ← v.toNumber
  return if n.isNaN then .int 0 else n

/-- The counter at `path` moved by `amount` through `step`. -/
def moveCounter (step : Num → Num → Except Fault Num) (path amount : Value) : Act Unit := do
  let current ← Act.ofExcept ((← get).read path)
  let base ← Act.ofExcept (counterValue current)
  let n ← match amount.num? with
    | some m => Act.ofExcept (step base m)
    | none => throw .wrongKind
  Act.change (·.write path (Value.ofNum n))

/-- Applies one effect. -/
def applyEffect (e : Effect) : Act Unit :=
  match e.change with
  | .set => Act.change (·.write e.path e.value)
  | .consume => Act.change (·.write e.path (.bool false))
  | .markOnce => modify (·.markOnce e.path)
  | .addItem => modify (·.addItem e.path)
  | .removeItem => modify (·.removeItem e.path)
  | .add => moveCounter Num.add e.path e.value
  | .subtract => moveCounter Num.sub e.path e.value

/-- Tries every global trigger once, in order. -/
def globalPass (g : Game) : Act Unit := do
  for trigger in g.globalTriggers do
    let outcome ← Act.ofExcept (checkAll g (← get) trigger.when)
    if outcome.passed then
      modify (·.commitMarks outcome.marks)
      for e in trigger.effects do
        applyEffect e

/-- Applies a list of effects and then the global pass; an absent list does nothing. -/
def applyEffects (g : Game) : Option (List Effect) → Act Unit
  | none => pure ()
  | some effects => do
    for e in effects do
      applyEffect e
    globalPass g

/-- Fires the passing triggers of a room and returns the messages of those that fired. -/
def roomTriggers (g : Game) (triggers : List Trigger) : Act (List Text) := do
  let mut messages : List Text := []
  for trigger in triggers do
    let outcome ← Act.ofExcept (checkAll g (← get) trigger.when)
    if outcome.passed then
      modify (·.commitMarks outcome.marks)
      applyEffects g (some trigger.effects)
      if trigger.message.isPresent then
        messages := messages ++ [trigger.message]
  return messages

end Adventure.Play
