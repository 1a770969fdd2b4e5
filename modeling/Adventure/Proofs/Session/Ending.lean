import Adventure.Proofs.Play.Counter
import Adventure.Proofs.Play.Gates
import Adventure.Proofs.Session.Answer

/-! After the game is over, play changes the state only by turns and by the gates of the win
message (`AfterEnding`). -/

namespace Adventure

open Adventure.Story Adventure.Play Adventure.Command

namespace Play

/-- What a turn verb does once the game is over: a turn, then the win message. -/
def endTurn (g : Game) : Act String := do
  tick
  ending g

section Gate

variable {α : Type} {s : GameState}

/-- A verb that takes its turn and then asks whether the game is over does, once it is over,
only its turn and the answer for that case. -/
theorem run_tick_gate (A : Act α) (B : GameState → Act α) (h : s.ended = true) :
    (do tick; let t ← get; if t.ended = true then A else B t).run s = (do tick; A).run s := by
  have htick := tick_run s
  simp only [EStateM.run] at htick
  simp only [EStateM.run, bind, EStateM.bind, htick]
  -- a turn keeps the game over, whether it moves the counter or fails
  cases nextTurns s.turns <;> simp [h, get, getThe, MonadStateOf.get, EStateM.get]

/-- A verb that first asks whether the game is over does, once it is over, only the answer for
that case. -/
theorem run_gate (A : Act α) (B : GameState → Act α) (h : s.ended = true) :
    (do let t : GameState ← get; if t.ended = true then A else B t).run s = A.run s := by
  simp [EStateM.run, bind, EStateM.bind, h, get, getThe, MonadStateOf.get, EStateM.get]

end Gate

section Verbs

variable {g : Game} {s : GameState}

/-- Once the game is over, looking takes a turn and shows the win message. -/
theorem look_of_ended (h : s.ended = true) (target : Value) :
    (look g target).run s = (Value.str <$> endTurn g).run s := by
  unfold look
  rw [run_tick_gate _ _ h]
  simp [endTurn, map_eq_bind_pure_comp]

/-- Once the game is over, examining takes a turn and shows the win message. -/
theorem examine_of_ended (h : s.ended = true) (target : Value) :
    (examine g target).run s = (Value.str <$> endTurn g).run s := by
  unfold examine
  rw [run_tick_gate _ _ h]
  simp [endTurn, map_eq_bind_pure_comp]

/-- Once the game is over, going takes a turn and shows the win message. -/
theorem go_of_ended (h : s.ended = true) (direction : Value) :
    (go g direction).run s = (endTurn g).run s := by
  unfold go
  exact run_tick_gate _ _ h

/-- Once the game is over, taking takes a turn and shows the win message. -/
theorem take_of_ended (h : s.ended = true) (words : Value) :
    (take g words).run s = (endTurn g).run s := by
  unfold take
  exact run_tick_gate _ _ h

/-- Once the game is over, talking takes a turn and shows the win message. -/
theorem talk_of_ended (h : s.ended = true) (words : Value) :
    (talk g words).run s = (endTurn g).run s := by
  unfold talk
  exact run_tick_gate _ _ h

/-- Once the game is over, choosing a line takes a turn and shows the win message. -/
theorem talkOption_of_ended (h : s.ended = true) (words option : Value) :
    (talkOption g words option).run s = (endTurn g).run s := by
  unfold talkOption
  exact run_tick_gate _ _ h

/-- Once the game is over, using an item takes a turn and shows the win message. -/
theorem use_of_ended (h : s.ended = true) (words targetWords number : Value) :
    (use g words targetWords number).run s = (endTurn g).run s := by
  unfold use
  exact run_tick_gate _ _ h

/-- Once the game is over, asking for a hint takes a turn and shows the win message. -/
theorem hint_of_ended (h : s.ended = true) : (hint g).run s = (endTurn g).run s := by
  unfold hint
  exact run_tick_gate _ _ h

/-- Once the game is over, listing what is carried shows the win message, with no turn. -/
theorem inventory_of_ended (h : s.ended = true) : (inventory g).run s = (ending g).run s := by
  unfold inventory
  exact run_gate _ _ h

/-- Once the game is over, the status as text shows the win message, with no turn. -/
theorem statusMessage_of_ended (h : s.ended = true) :
    (statusMessage g).run s = (ending g).run s := by
  unfold statusMessage
  exact run_gate _ _ h

end Verbs

/-- Two states that agree everywhere but in the turn counter and in the gates used, which
only grew from the first to the second. -/
structure OnlyTurnsAndGates (s s' : GameState) : Prop where
  room : s'.room = s.room
  inventory : s'.inventory = s.inventory
  taken : s'.taken = s.taken
  flags : s'.flags = s.flags
  visited : s'.visited = s.visited
  ended : s'.ended = s.ended
  won : s'.won = s.won
  once : s.once <+: s'.once

namespace OnlyTurnsAndGates

variable {s s' s'' : GameState}

/-- A state differs from itself in nothing. -/
theorem refl (s : GameState) : OnlyTurnsAndGates s s :=
  ⟨rfl, rfl, rfl, rfl, rfl, rfl, rfl, List.prefix_refl _⟩

/-- Differing only in turns and growing gates composes. -/
theorem trans (h : OnlyTurnsAndGates s s') (h' : OnlyTurnsAndGates s' s'') :
    OnlyTurnsAndGates s s'' :=
  ⟨h'.room.trans h.room, h'.inventory.trans h.inventory, h'.taken.trans h.taken,
    h'.flags.trans h.flags, h'.visited.trans h.visited, h'.ended.trans h.ended,
    h'.won.trans h.won, h.once.trans h'.once⟩

/-- A turn changes only the counter. -/
theorem tick (s : GameState) : OnlyTurnsAndGates s (runState tick s) := by
  rw [runState_tick_eq]
  exact ⟨rfl, rfl, rfl, rfl, rfl, rfl, rfl, List.prefix_refl _⟩

/-- Using gates changes only the gates. -/
theorem of_gated (h : GameState.Gated s s') : OnlyTurnsAndGates s s' := by
  obtain ⟨heq, hprefix⟩ := h.eq_with_once
  rw [heq]
  exact ⟨rfl, rfl, rfl, rfl, rfl, rfl, rfl, hprefix⟩

end OnlyTurnsAndGates

/-- One change of the state once the game is over: a turn, or the win message shown. -/
inductive AfterEnding (g : Game) : GameState → GameState → Prop
  | turn (s : GameState) : AfterEnding g s (runState tick s)
  | ending (s : GameState) : AfterEnding g s (runState (ending g) s)

namespace AfterEnding

variable {g : Game} {s s' : GameState}

/-- A change once the game is over differs only in the turn counter and in gates used. -/
theorem onlyTurnsAndGates (h : AfterEnding g s s') : OnlyTurnsAndGates s s' := by
  cases h with
  | turn => exact .tick s
  | ending => exact .of_gated (gated_renderText g g.winMessage s)

/-- Changes after the ending change only the counter and the gates. -/
theorem onlyTurnsAndGates_of_steps (h : Relation.ReflTransGen (AfterEnding g) s s') :
    OnlyTurnsAndGates s s' := by
  induction h with
  | refl => exact .refl s
  | tail _ step ih => exact ih.trans step.onlyTurnsAndGates

/-- A turn verb's whole run once the game is over is a turn and then the win message. -/
theorem steps_endTurn (s : GameState) :
    Relation.ReflTransGen (AfterEnding g) s (runState (endTurn g) s) := by
  have hturn : Relation.ReflTransGen (AfterEnding g) s (runState tick s) := .single (.turn s)
  unfold endTurn
  rw [runState_bind]
  unfold runState at hturn
  cases h : tick.run s with
  | ok u t => simp only [h] at hturn; exact hturn.tail (.ending t)
  | error e t => simpa only [h] using hturn

end AfterEnding

end Play

namespace Command

/-- Whether an order asks for the inventory or the status. -/
def Order.asksStatus : Order → Bool
  | .inventory | .status => true
  | _ => false

/-- Whether a typed command asks for the inventory or the status. -/
def asksStatus (cmd : String) : Bool :=
  match read cmd with
  | .ok order => order.asksStatus
  | .error _ => false

/-- A typed command is read, failing before anything runs, and its order is carried out. -/
theorem dispatch_run (g : Game) (cmd : String) (s : GameState) :
    (dispatch g cmd).run s =
      match read cmd with
      | .ok order => (order.run g).run s
      | .error e => .error e s := by
  unfold dispatch
  cases read cmd <;> rfl

section Orders

variable {g : Game} {s : GameState}

/-- Once the game is over, an order that runs a turn verb is a turn and the win message. -/
theorem Order.run_of_ended_of_ticks (h : s.ended = true) {order : Order}
    (hticks : order.ticks = true) :
    (order.run g).run s = ((some ∘ Value.str) <$> endTurn g).run s := by
  cases order <;> simp only [Order.ticks, Bool.false_eq_true] at hticks <;> simp only [Order.run]
  -- `look` and `examine` answer a value, the other verbs a text
  case look target => rw [comp_map]; exact run_map_congr (look_of_ended h target) _
  case examine target => rw [comp_map]; exact run_map_congr (examine_of_ended h _) _
  case go direction => exact run_map_congr (go_of_ended h _) _
  case take item => exact run_map_congr (take_of_ended h _) _
  case use item target number => exact run_map_congr (use_of_ended h _ _ _) _
  case talk npc => exact run_map_congr (talk_of_ended h _) _
  case talkOption npc option => exact run_map_congr (talkOption_of_ended h _ _) _
  case hint => exact run_map_congr (hint_of_ended h) _

/-- Once the game is over, asking for the inventory or the status is the win message. -/
theorem Order.run_of_ended_of_asksStatus (h : s.ended = true) {order : Order}
    (hasks : order.asksStatus = true) :
    (order.run g).run s = ((some ∘ Value.str) <$> ending g).run s := by
  cases order <;> simp only [Order.asksStatus, Bool.false_eq_true] at hasks <;>
    simp only [Order.run]
  case inventory => exact run_map_congr (inventory_of_ended h) _
  case status => exact run_map_congr (statusMessage_of_ended h) _

/-- The fixed answers and the unknown verbs leave the state as it is. -/
theorem Order.runState_run_of_quiet {order : Order} (hticks : order.ticks = false)
    (hasks : order.asksStatus = false) : runState (order.run g) s = s := by
  cases order <;> simp_all [Order.ticks, Order.asksStatus, Order.run]

end Orders

end Command

namespace Request

/-- Whether a request asks for the inventory or the status, as a verb or as a typed command. -/
def asksStatus : Request → Bool
  | .inventory | .statusMessage => true
  | .command (.str typed) => Command.asksStatus typed
  | _ => false

/-- Whether a request is a step of play: anything but a fresh start, a description of the room
and reopening the session. -/
def isPlay : Request → Bool
  | .startGame | .describeRoom | .reopen => false
  | _ => true

end Request

namespace Session

/-- An action run on the session's game, its result mapped. -/
theorem map_withGame {α β : Type} (f : α → β) (x : Game → Act α) :
    f <$> withGame x = withGame fun g => f <$> x g := by
  funext session
  simp only [withGame, act, Functor.map, EStateM.map, bind, EStateM.bind, get, getThe,
    MonadStateOf.get, EStateM.get, EStateM.run]
  cases x session.game session.state <;> rfl

/-- Two actions that run alike from the session's state run alike on the session. -/
theorem withGame_run_congr {α : Type} {x y : Game → Act α} {session : Session}
    (h : (x session.game).run session.state = (y session.game).run session.state) :
    (withGame x).run session = (withGame y).run session := by
  simp only [withGame, act, bind, EStateM.bind, get, getThe, MonadStateOf.get, EStateM.get,
    EStateM.run] at h ⊢
  rw [h]

variable {session : Session}

/-- Once the game is over, a request that runs a turn verb is a turn and the win message. -/
theorem answer_of_ended_of_ticks (hover : session.state.ended = true) {request : Request}
    (hticks : request.ticks = true) :
    (answer request).run session = (withGame fun g => Value.str <$> endTurn g).run session := by
  cases request
  case command text =>
    cases text <;> simp only [Request.ticks, Command.takesTurn, Bool.false_eq_true] at hticks
    case str typed =>
      simp only [answer, map_withGame]
      apply withGame_run_congr
      cases hread : read typed <;> simp only [hread, Bool.false_eq_true] at hticks
      have hdispatch : (dispatch session.game typed).run session.state =
          ((some ∘ Value.str) <$> endTurn session.game).run session.state := by
        rw [dispatch_run, hread]
        exact Order.run_of_ended_of_ticks hover hticks
      rw [run_map_congr hdispatch, ← comp_map]
      rfl
  all_goals simp only [Request.ticks, Bool.false_eq_true] at hticks
  all_goals simp only [answer, map_withGame]; apply withGame_run_congr
  case look target => exact look_of_ended hover target
  case examine target => exact examine_of_ended hover target
  case go direction => exact run_map_congr (go_of_ended hover _) _
  case take item => exact run_map_congr (take_of_ended hover _) _
  case use item target number => exact run_map_congr (use_of_ended hover _ _ _) _
  case talk npc => exact run_map_congr (talk_of_ended hover _) _
  case talkOption npc option => exact run_map_congr (talkOption_of_ended hover _ _) _
  case hint => exact run_map_congr (hint_of_ended hover) _

/-- Once the game is over, asking for the inventory or the status is the win message. -/
theorem answer_of_ended_of_asksStatus (hover : session.state.ended = true) {request : Request}
    (hasks : request.asksStatus = true) :
    (answer request).run session = (withGame fun g => Value.str <$> ending g).run session := by
  cases request
  case command text =>
    cases text <;> simp only [Request.asksStatus, Command.asksStatus, Bool.false_eq_true] at hasks
    case str typed =>
      simp only [answer, map_withGame]
      apply withGame_run_congr
      cases hread : read typed <;> simp only [hread, Bool.false_eq_true] at hasks
      have hdispatch : (dispatch session.game typed).run session.state =
          ((some ∘ Value.str) <$> ending session.game).run session.state := by
        rw [dispatch_run, hread]
        exact Order.run_of_ended_of_asksStatus hover hasks
      rw [run_map_congr hdispatch, ← comp_map]
      rfl
  all_goals simp only [Request.asksStatus, Bool.false_eq_true] at hasks
  all_goals simp only [answer, map_withGame]; apply withGame_run_congr
  case inventory => exact run_map_congr (inventory_of_ended hover) _
  case statusMessage => exact run_map_congr (statusMessage_of_ended hover) _

/-- Two actions that run alike from a state end in the same state. -/
theorem runState_congr {α : Type} {x y : EStateM Fault Session α} {session : Session}
    (h : x.run session = y.run session) : runState x session = runState y session := by
  unfold runState
  rw [h]

/-- Asking for the status as data reads the state and changes nothing. -/
theorem runState_status (g : Game) (s : GameState) : runState (status g) s = s := by
  unfold status
  rw [runState_get_bind]
  cases currentRoom g s <;> cases carriedItems g s <;> rfl

/-- The requests of play that neither run a turn verb nor ask for the inventory or the status
leave the session as it is, whether they answer or fail. -/
theorem runState_answer_of_quiet {request : Request} (hplay : request.isPlay = true)
    (hticks : request.ticks = false) (hasks : request.asksStatus = false) :
    runState (answer request) session = session := by
  have hreopen : request ≠ .reopen := by rintro rfl; simp [Request.isPlay] at hplay
  rw [runState_answer hreopen]
  cases request
  case command text =>
    cases text
    case str typed =>
      simp only [Request.ticks, Command.takesTurn] at hticks
      simp only [Request.asksStatus, Command.asksStatus] at hasks
      simp only [Request.playState, runState]
      rw [dispatch_run]
      cases hread : read typed with
      | error e => rfl
      | ok order =>
        simp only [hread] at hticks hasks
        have hquiet := Command.Order.runState_run_of_quiet (g := session.game)
          (s := session.state) hticks hasks
        unfold runState at hquiet
        rw [hquiet]
    all_goals rfl
  all_goals simp_all [Request.isPlay, Request.ticks, Request.asksStatus, Request.playState,
    runState_status]

/-- One request of play once the game is over keeps the game and changes the state only by
turns and by the win message. -/
theorem steps_answer_of_ended (hover : session.state.ended = true) {request : Request}
    (hplay : request.isPlay = true) :
    (runState (answer request) session).game = session.game ∧
      Relation.ReflTransGen (AfterEnding session.game) session.state
        (runState (answer request) session).state := by
  cases hticks : request.ticks
  · cases hasks : request.asksStatus
    · rw [runState_answer_of_quiet hplay hticks hasks]
      exact ⟨rfl, .refl⟩
    · rw [runState_congr (answer_of_ended_of_asksStatus hover hasks), runState_withGame]
      refine ⟨rfl, ?_⟩
      rw [runState_map]
      exact .single (.ending _)
  · rw [runState_congr (answer_of_ended_of_ticks hover hticks), runState_withGame]
    refine ⟨rfl, ?_⟩
    rw [runState_map]
    exact AfterEnding.steps_endTurn _

/-- Once the game is over, it stays over, won or not as it was, through every run of play:
the state changes only by turns and by the gates of the win message's kept fragments, and at
every point a turn verb answers with a turn and the win message, and asking for the inventory
or the status answers with the win message. -/
theorem play_after_ending (session : Session) (hover : session.state.ended = true)
    (requests : List Request) (hplay : ∀ r ∈ requests, r.isPlay = true) :
    let later := session.after requests
    later.game = session.game ∧
      Relation.ReflTransGen (AfterEnding session.game) session.state later.state ∧
      OnlyTurnsAndGates session.state later.state ∧
      (∀ r : Request, r.ticks = true →
        (answer r).run later = (withGame fun g => Value.str <$> endTurn g).run later) ∧
      (∀ r : Request, r.asksStatus = true →
        (answer r).run later = (withGame fun g => Value.str <$> ending g).run later) := by
  -- the run keeps the game and the steps; the frame and the answers follow at its end
  have hrun : (session.after requests).game = session.game ∧
      Relation.ReflTransGen (AfterEnding session.game) session.state
        (session.after requests).state := by
    induction requests generalizing session with
    | nil => exact ⟨rfl, .refl⟩
    | cons request rest ih =>
      obtain ⟨hgame, hsteps⟩ := steps_answer_of_ended hover (hplay request (by simp))
      have hover' : (runState (answer request) session).state.ended = true :=
        (AfterEnding.onlyTurnsAndGates_of_steps hsteps).ended.trans hover
      obtain ⟨hgame', hsteps'⟩ := ih _ hover' fun r hr => hplay r (by simp [hr])
      rw [hgame] at hgame' hsteps'
      exact ⟨hgame', hsteps.trans hsteps'⟩
  obtain ⟨hgame, hsteps⟩ := hrun
  have hframe := AfterEnding.onlyTurnsAndGates_of_steps hsteps
  have hover' : (session.after requests).state.ended = true := hframe.ended.trans hover
  exact ⟨hgame, hsteps, hframe, fun r hr => answer_of_ended_of_ticks hover' hr,
    fun r hr => answer_of_ended_of_asksStatus hover' hr⟩

/-- A won game answers a look, a typed move and the inventory and is still won. -/
theorem won_game_stays_won :
    let finished : GameState := { GameState.initial (.str "hall") .empty with ended := true }
    let session : Session := ⟨.null, false, default, { finished with won := true }⟩
    let requests := [Request.look .null, .command (.str "go north"), .inventory]
    session.state.ended = true ∧ (∀ r ∈ requests, r.isPlay = true) ∧
      (session.after requests).state.won = true :=
  ⟨rfl, by decide, (play_after_ending _ rfl _ (by decide)).2.2.1.won⟩

end Session

end Adventure
