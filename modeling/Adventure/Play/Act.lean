import Adventure.Play.State

/-! Actions on the play state, which may stop with a fault; changes made before a fault stay
made. -/

namespace Adventure.Play

/-- An action on the play state. -/
abbrev Act := EStateM Fault GameState

/-- Runs a computation that does not touch the state. -/
def Act.ofExcept {α : Type} (x : Except Fault α) : Act α :=
  match x with
  | .ok a => pure a
  | .error e => throw e

/-- Changes the state by a function that may fail. -/
def Act.change (f : GameState → Except Fault GameState) : Act Unit := do
  set (← Act.ofExcept (f (← get)))

end Adventure.Play
