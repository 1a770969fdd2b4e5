import Adventure.Proofs.Number.Equality
import Adventure.Proofs.Play.Reread
import Adventure.Proofs.Session.Ending

/-! The turn counter moves by one for each turn verb and by nothing else; starting afresh sets it
to 0. -/

namespace Adventure

open Std.Do Adventure.Story Adventure.Play Adventure.Command

namespace Play

/-- An action whose every run ends where `s₁` reaches leaves the counter where `s₁` has it. -/
theorem turns_runState_of_triple {α : Type} {x : Act α} {s₀ s₁ : GameState}
    (h : ⦃fun s => ⌜s = s₀⌝⦄ x ⦃reachPost s₁⦄) : (runState x s₀).turns = s₁.turns :=
  Reach.turns_eq (runState_of_triple h)

/-- An action that stays within reach of every state it starts from ends where its start
reaches. -/
theorem reach_runState_of_stays {α : Type} {x : Act α} {s₀ : GameState}
    (h : ⦃fun s => ⌜Reach s₀ s⌝⦄ x ⦃reachPost s₀⦄) : Reach s₀ (runState x s₀) :=
  runState_of_pre h (Reach.refl s₀)

/-- An action that stays within reach of every state it starts from leaves the counter. -/
theorem turns_runState_of_stays {α : Type} {x : Act α} {s₀ : GameState}
    (h : ⦃fun s => ⌜Reach s₀ s⌝⦄ x ⦃reachPost s₀⦄) : (runState x s₀).turns = s₀.turns :=
  Reach.turns_eq (reach_runState_of_stays h)

/-- No effect moves the counter. -/
theorem turns_applyEffect (e : Effect) (s : GameState) :
    (runState (applyEffect e) s).turns = s.turns :=
  turns_runState_of_stays (applyEffect_reach s e)

/-- Writing the path `turnCount` writes the flag of that name. -/
theorem write_turnCount (s : GameState) (v : Value) :
    s.write (.str "turnCount") v = .ok { s with flags := s.flags.set (.str "turnCount") v } := by
  simp [GameState.write, Value.isText, flagOf, flagKey]

/-- Starting afresh sets the counter to 0. -/
theorem turns_startGame (g : Game) (s : GameState) : (runState (startGame g) s).turns = .int 0 :=
  turns_runState_of_triple fun s' _ => startGame_reach g s' trivial

end Play

namespace Command

/-- Whether a verb and its words name a turn verb: `look` and `hint` with any words, `go`,
`take`, `examine` and `use` with some, and `talk` with words that read as a character and a line
number or none. Without words, the last four answer their usage, and other verbs answer the
inventory, the status, help or nothing. -/
def NamesTurnVerb (verb arg : String) : Prop :=
  verb = "look" ∨ verb = "hint" ∨
    (arg ≠ "" ∧ (verb = "go" ∨ verb = "take" ∨ verb = "examine" ∨ verb = "use" ∨
      (verb = "talk" ∧ ∃ r, parseTalk arg = .ok r)))

/-- A typed command ends where the state after its turn, when it takes one, reaches. -/
theorem reach_dispatch (g : Game) (s : GameState) (cmd : String) :
    Reach (if takesTurn cmd then runState tick s else s) (runState (dispatch g cmd) s) := by
  unfold runState takesTurn
  rw [dispatch_run]
  cases read cmd with
  | error e => exact Reach.refl s
  | ok order => exact runState_of_triple (Order.run_reach s g order)

/-- A typed command runs a turn verb exactly when its verb and words name one. -/
theorem takesTurn_iff (cmd : String) :
    takesTurn cmd = true ↔ NamesTurnVerb (verbAndArg cmd).1 (verbAndArg cmd).2 := by
  unfold takesTurn read NamesTurnVerb
  generalize verbAndArg cmd = va
  obtain ⟨verb, arg⟩ := va
  simp only [readOrder]
  -- one verb at a time, in the order the reading tries them
  by_cases hlook : verb = "look"
  · subst hlook; simp [Order.ticks]
  by_cases hgo : verb = "go"
  · subst hgo; by_cases harg : arg = "" <;> simp [harg, Order.ticks]
  by_cases htake : verb = "take"
  · subst htake; by_cases harg : arg = "" <;> simp [harg, Order.ticks, Order.usage]
  by_cases hexamine : verb = "examine"
  · subst hexamine; by_cases harg : arg = "" <;> simp [harg, Order.ticks, Order.usage]
  by_cases huse : verb = "use"
  · subst huse; by_cases harg : arg = "" <;> simp [harg, Order.ticks, Order.usage]
  by_cases htalk : verb = "talk"
  · subst htalk
    by_cases harg : arg = ""
    · simp [harg, Order.ticks, Order.usage]
    · cases hread : parseTalk arg with
      | error e => simp [harg, bind, Except.bind]
      | ok r =>
        obtain ⟨npc, option⟩ := r
        cases option <;> simp [harg, bind, Except.bind, pure, Except.pure, Order.ticks]
  by_cases hhint : verb = "hint"
  · subst hhint; simp [Order.ticks]
  -- what is left answers without a turn: the inventory, the status, help or nothing
  simp only [beq_iff_eq, hlook, hgo, htake, hexamine, huse, htalk, hhint, if_false]
  split_ifs <;> simp_all [Order.ticks]

end Command

namespace Value

/-- A number read back from a snapshot, where a counter that does not hold reads as 0, is the
same number. -/
theorem num?_fieldOr_canon {v : Value} {t : Num} (ht : v.num? = some t) :
    ∃ n, (fieldOr v.canon (.int 0)).num? = some n ∧ n.Same t := by
  cases v with
  | bool b =>
    cases b <;> cases ht <;> exact ⟨_, rfl, .refl _⟩
  | int i =>
    cases ht
    by_cases hi : i = 0
    · subst hi; exact ⟨_, rfl, .refl _⟩
    · exact ⟨.int i, by simp [canon, fieldOr, truthy, hi, num?], .refl _⟩
  | float f =>
    cases ht
    by_cases hnan : Number.Binary.ofFloat f = .nan
    · -- a not-a-number comes back as the quiet one, which holds
      have hcanon : canon (.float f) = .float Number.notANumber := by
        simp [canon, Json.canonFloat, hnan]
      have hholds : (Value.float Number.notANumber).truthy = true := by decide
      refine ⟨.float Number.notANumber, by simp [hcanon, fieldOr, hholds, num?], .inr ⟨by decide, ?_⟩⟩
      exact Num.isNaN_of_ofFloat hnan
    · have hcanon : canon (.float f) = .float f := by
        simp [canon, Json.canonFloat]
      by_cases hzero : (f == 0.0) = true
      · exact ⟨.int 0, by simp [hcanon, fieldOr, truthy, hzero, num?],
          Num.same_zero_of_beq_zero hzero⟩
      · exact ⟨.float f, by simp [hcanon, fieldOr, truthy, hzero, num?], .refl _⟩
  | null | str _ | arr _ | obj _ => cases ht

end Value

namespace Request

/-- Every request but a fresh start ends where the state after its turn reaches, or where the
state itself reaches when the request runs no turn verb. -/
theorem reach_playState (g : Game) (s : GameState) {request : Request}
    (hstart : request ≠ .startGame) :
    Reach (if request.ticks then runState tick s else s) (request.playState g s) := by
  cases request with
  | startGame => exact absurd rfl hstart
  | look target => exact runState_of_triple (look_reach s g target)
  | examine target => exact runState_of_triple (examine_reach s g target)
  | go direction => exact runState_of_triple (go_reach s g direction)
  | take item => exact runState_of_triple (take_reach s g item)
  | talk npc => exact runState_of_triple (talk_reach s g npc)
  | talkOption npc option => exact runState_of_triple (talkOption_reach s g npc option)
  | use item target number => exact runState_of_triple (use_reach s g item target number)
  | hint => exact runState_of_triple (hint_reach s g)
  | inventory => exact reach_runState_of_stays (inventory_reach s g)
  | status => exact reach_runState_of_stays (status_reach s g)
  | statusMessage => exact reach_runState_of_stays (statusMessage_reach s g)
  | describeRoom => exact reach_runState_of_stays (describeRoom_reach s g)
  | command text =>
    cases text with
    | str typed => exact Command.reach_dispatch g s typed
    | _ => exact Reach.refl s
  | isOver | hasWon | snapshotText | reopen => exact Reach.refl s

/-- The counter after a request other than a fresh start: one turn on when the request runs a
turn verb, as it was otherwise. -/
theorem turns_playState (g : Game) (s : GameState) {request : Request}
    (hstart : request ≠ .startGame) :
    (request.playState g s).turns = if request.ticks then (runState tick s).turns else s.turns := by
  rw [Reach.turns_eq (reach_playState g s hstart)]
  exact apply_ite GameState.turns _ _ _

end Request

namespace Session

/-- A request other than a fresh start and reopening moves the counter one turn on when it runs
a turn verb, and leaves it otherwise. -/
theorem turns_answer {request : Request} (hstart : request ≠ .startGame)
    (hreopen : request ≠ .reopen) (session : Session) :
    (runState (answer request) session).state.turns =
      if request.ticks then (runState tick session.state).turns else session.state.turns := by
  rw [runState_answer hreopen]
  exact Request.turns_playState session.game session.state hstart

/-- Starting a game resets the turn counter to zero. -/
theorem turns_answer_startGame (session : Session) :
    (runState (answer .startGame) session).state.turns = .int 0 := by
  rw [runState_answer (fun h => Request.noConfusion h)]
  exact turns_startGame session.game session.state

/-- Reopening a session gives back the same number of turns. -/
theorem turns_answer_reopen (session : Session) {t : Num}
    (ht : session.state.turns.num? = some t) :
    ∃ n, (runState (answer .reopen) session).state.turns.num? = some n ∧ n.Same t := by
  rw [runState_answer_reopen]
  split
  · rename_i session' hreopened
    obtain ⟨-, -, hstate⟩ := reopened_state hreopened
    rw [hstate]
    exact Value.num?_fieldOr_canon ht
  · exact ⟨t, ht, .refl t⟩

/-- The turn counter, request by request: a fresh start sets it to 0; a request that runs a turn
verb (`Request.ticks`: the eight turn verbs, and a typed command exactly when it names one)
leaves it at the number one higher, however the verb ends; every other request leaves the same
number. A typed command names a turn verb as `Command.NamesTurnVerb` says, and content cannot
move the counter: no effect does, and writing the path `turnCount` writes a flag. -/
theorem turn_counter :
    (∀ (session : Session) (request : Request) (t : Num), session.state.turns.num? = some t →
      let turns := (runState (answer request) session).state.turns
      (request = .startGame → turns = .int 0) ∧
      (request.ticks = true → ∃ m, t.add (.int 1) = .ok m ∧ turns = Value.ofNum m) ∧
      (request ≠ .startGame → request.ticks = false →
        ∃ n, turns.num? = some n ∧ n.Same t)) ∧
    (∀ cmd : String,
      Command.takesTurn cmd = true ↔ Command.NamesTurnVerb (verbAndArg cmd).1 (verbAndArg cmd).2) ∧
    (∀ (e : Effect) (s : GameState), (runState (applyEffect e) s).turns = s.turns) ∧
    (∀ (s : GameState) (v : Value),
      s.write (.str "turnCount") v = .ok { s with flags := s.flags.set (.str "turnCount") v }) := by
  refine ⟨?_, Command.takesTurn_iff, turns_applyEffect, write_turnCount⟩
  intro session request t ht
  refine ⟨?_, ?_, ?_⟩
  · rintro rfl
    exact turns_answer_startGame session
  · intro hticks
    -- a request that ticks is neither a fresh start nor reopening
    have hstart : request ≠ .startGame := by rintro rfl; cases hticks
    have hreopen : request ≠ .reopen := by rintro rfl; cases hticks
    obtain ⟨m, hm, -⟩ := nextTurns_of_num ht
    refine ⟨m, hm, ?_⟩
    rw [turns_answer hstart hreopen, if_pos hticks]
    exact turns_runState_tick ht hm
  · intro hstart hquiet
    by_cases hreopen : request = .reopen
    · subst hreopen
      exact turns_answer_reopen session ht
    · rw [turns_answer hstart hreopen, if_neg (by simp [hquiet])]
      exact ⟨t, ht, .refl t⟩

/-- Asking for a hint at turn 4 leaves the counter at 5. -/
theorem hint_at_turn_four :
    let session : Session :=
      ⟨.null, false, default, { GameState.initial (.str "hall") .empty with turns := .int 4 }⟩
    session.state.turns.num? = some (.int 4) ∧ Request.hint.ticks = true ∧
      (runState (answer .hint) session).state.turns = .int 5 := by
  intro session
  obtain ⟨m, hm, hturns⟩ := (turn_counter.1 session .hint (.int 4) rfl).2.1 rfl
  have hfive : m = .int 5 := by
    simp only [Num.add, Num.combine, Except.ok.injEq] at hm
    exact hm.symm
  exact ⟨rfl, rfl, by rw [hturns, hfive]; rfl⟩

end Session

end Adventure
