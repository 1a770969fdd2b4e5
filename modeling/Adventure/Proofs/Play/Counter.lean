import Adventure.Proofs.Play.Changes

/-! The turn counter moves only by `tick`, and once the game is over a turn verb only ticks and
shows the win message. -/

namespace Adventure.Play

open Adventure.Story

/-- The turn counter one turn later: a number plus one. A counter that is not a number has no
next turn. -/
def nextTurns (v : Value) : Except Fault Value :=
  match v.num? with
  | some n => Value.ofNum <$> n.add (.int 1)
  | none => .error .wrongKind

/-- One is a double, so a double plus one is a double. -/
theorem floatOfInt_one_isSome : (Number.floatOfInt? 1).isSome = true := by decide

/-- Adding one to a number never fails. -/
theorem Num.add_one_ok (n : Num) : ∃ m, n.add (.int 1) = .ok m := by
  cases n with
  | int i => exact ⟨_, rfl⟩
  | float f =>
    obtain ⟨one, hone⟩ := Option.isSome_iff_exists.mp floatOfInt_one_isSome
    exact ⟨.float (f + one), by simp [Num.add, Num.combine, Num.toFloat, hone, bind, Except.bind,
      pure, Except.pure]⟩

/-- A counter that is a number has a next turn. -/
theorem nextTurns_of_num {v : Value} {n : Num} (h : v.num? = some n) :
    ∃ m, n.add (.int 1) = .ok m ∧ nextTurns v = .ok (Value.ofNum m) := by
  obtain ⟨m, hm⟩ := Num.add_one_ok n
  exact ⟨m, hm, by simp [nextTurns, h, hm, Functor.map, Except.map]⟩

/-- A turn: the counter moves on when it can, and nothing else changes. -/
theorem tick_run (s : GameState) :
    tick.run s =
      match nextTurns s.turns with
      | .ok v => .ok () { s with turns := v }
      | .error e => .error e s := by
  unfold tick nextTurns
  cases h : s.turns.num? with
  | none => simp [h, EStateM.run, bind, EStateM.bind, get, getThe, MonadStateOf.get, EStateM.get,
      throw, throwThe, MonadExceptOf.throw, EStateM.throw]
  | some n =>
    cases hn : n.add (.int 1) <;>
      simp [h, hn, Act.ofExcept, EStateM.run, bind, EStateM.bind, get, getThe, MonadStateOf.get,
        EStateM.get, throw, throwThe, MonadExceptOf.throw, EStateM.throw, set, MonadStateOf.set,
        EStateM.set, pure, EStateM.pure, Functor.map, Except.map]

/-- Counting a turn sets the counter to the next count when there is one, and otherwise leaves the
state as it was. -/
theorem runState_tick (s : GameState) :
    runState tick s =
      match nextTurns s.turns with
      | .ok v => { s with turns := v }
      | .error _ => s := by
  unfold runState
  rw [tick_run]
  cases nextTurns s.turns <;> rfl

/-- A turn changes the counter and nothing else. -/
theorem runState_tick_eq (s : GameState) :
    runState tick s = { s with turns := (runState tick s).turns } := by
  rw [runState_tick]
  cases nextTurns s.turns <;> rfl

/-- A turn from a counter that is the number `n` leaves it at `n + 1`. -/
theorem turns_runState_tick {s : GameState} {n m : Num} (h : s.turns.num? = some n)
    (hm : n.add (.int 1) = .ok m) : (runState tick s).turns = Value.ofNum m := by
  obtain ⟨m', hm', hnext⟩ := nextTurns_of_num h
  rw [hm] at hm'
  cases hm'
  simp [runState_tick, hnext]

/-- Writing a path never writes the turn counter: `turnCount` is written as a flag. -/
theorem GameState.turns_write {s s' : GameState} {path v : Value} (h : s.write path v = .ok s') :
    s'.turns = s.turns := by
  obtain ⟨_, _, _, _, rfl⟩ := GameState.write_frame h
  rfl

/-- No change of play moves the turn counter. -/
theorem Change.turns_eq {s s' : GameState} (h : Change s s') : s'.turns = s.turns := by
  cases h with
  | write path v hw => exact GameState.turns_write hw
  | _ => rfl

/-- Play leaves the turn counter as it found it. -/
theorem Reach.turns_eq {s s' : GameState} (h : Reach s s') : s'.turns = s.turns := by
  induction h with
  | refl => rfl
  | tail _ step ih => exact (Change.turns_eq step).trans ih

end Adventure.Play
