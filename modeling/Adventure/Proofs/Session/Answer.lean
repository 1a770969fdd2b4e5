import Adventure.Proofs.Play.Changes
import Adventure.Session.Request

/-! What a request does to a session: at most one action on the play state, or a reopening; later
proofs go through these lemmas and not through `Session.answer`. -/

namespace Adventure

section Runs

variable {ε σ α β : Type}

/-- A pure step leaves the state. -/
@[simp]
theorem runState_pure (a : α) (s : σ) : runState (pure a : EStateM ε σ α) s = s := rfl

/-- A failure leaves the state where it stopped. -/
@[simp]
theorem runState_throw (e : ε) (s : σ) : runState (throw e : EStateM ε σ α) s = s := rfl

/-- Reading the state and going on ends where the rest ends from it. -/
@[simp]
theorem runState_get_bind (f : σ → EStateM ε σ α) (s : σ) :
    runState (get >>= f) s = runState (f s) s := rfl

/-- Reading the state leaves it. -/
@[simp]
theorem runState_get (s : σ) : runState (get : EStateM ε σ σ) s = s := rfl

/-- Setting the state ends at the state set. -/
@[simp]
theorem runState_set (s' s : σ) : runState (set s' : EStateM ε σ PUnit) s = s' := rfl

/-- Setting the state and going on ends where the rest ends from it. -/
@[simp]
theorem runState_set_bind (s' : σ) (f : PUnit → EStateM ε σ α) (s : σ) :
    runState (set s' >>= f) s = runState (f ⟨⟩) s' := rfl

/-- Two actions that run alike from `s` still do when their results are mapped alike. -/
theorem run_map_congr {x y : EStateM ε σ α} {s : σ} (h : x.run s = y.run s) (f : α → β) :
    (f <$> x).run s = (f <$> y).run s := by
  simp only [EStateM.run, Functor.map, EStateM.map] at h ⊢
  rw [h]

/-- The state after two actions: where the second stopped, or where the first failed. -/
theorem runState_bind (x : EStateM ε σ α) (f : α → EStateM ε σ β) (s : σ) :
    runState (x >>= f) s =
      match x.run s with
      | .ok a t => runState (f a) t
      | .error _ t => t := by
  unfold runState
  simp only [EStateM.run, bind, EStateM.bind]
  cases x s <;> rfl

/-- A result computed from what an action returns leaves the state where the action left it. -/
@[simp]
theorem runState_bind_pure (x : EStateM ε σ α) (f : α → β) (s : σ) :
    runState (x >>= fun a => pure (f a)) s = runState x s := by
  unfold runState
  cases h : x.run s <;> simp_all [EStateM.run, bind, EStateM.bind, pure, EStateM.pure]

/-- A result mapped from what an action returns leaves the state where the action left it. -/
@[simp]
theorem runState_map (x : EStateM ε σ α) (f : α → β) (s : σ) :
    runState (f <$> x) s = runState x s := by
  unfold runState
  cases h : x.run s <;> simp_all [EStateM.run, Functor.map, EStateM.map]

end Runs

open Adventure.Story Adventure.Play

namespace Session

/-- An action run on a session moves its state as the action moves a state, and nothing else. -/
@[simp]
theorem runState_act {α : Type} (x : Act α) (session : Session) :
    runState (act x) session = { session with state := runState x session.state } := by
  unfold runState act
  simp only [EStateM.run]
  cases x session.state <;> rfl

/-- An action run on the session's game moves its state as the action moves a state. -/
@[simp]
theorem runState_withGame {α : Type} (x : Game → Act α) (session : Session) :
    runState (withGame x) session =
      { session with state := runState (x session.game) session.state } := by
  simp [withGame]

end Session

namespace Request

/-- The play state after a request other than reopening, from the state `s` of a session on the
game `g`: where the request's action stopped, or `s` for the questions and for a command that is
not a text. -/
def playState (g : Game) (s : GameState) : Request → GameState
  | .startGame => runState (Play.startGame g) s
  | .look target => runState (Play.look g target) s
  | .examine target => runState (Play.examine g target) s
  | .go direction => runState (Play.go g direction) s
  | .take item => runState (Play.take g item) s
  | .talk npc => runState (Play.talk g npc) s
  | .talkOption npc option => runState (Play.talkOption g npc option) s
  | .use item target number => runState (Play.use g item target number) s
  | .inventory => runState (Play.inventory g) s
  | .hint => runState (Play.hint g) s
  | .status => runState (Play.status g) s
  | .statusMessage => runState (Play.statusMessage g) s
  | .describeRoom => runState (Play.describeRoom g) s
  | .command (.str typed) => runState (Command.dispatch g typed) s
  | .isOver | .hasWon | .snapshotText | .command _ | .reopen => s

/-- Whether a request runs a turn verb: the eight turn verbs, and a typed command that names
one. -/
def ticks : Request → Bool
  | .look _ | .examine _ | .go _ | .take _ | .talk _ | .talkOption _ _ | .use _ _ _ | .hint => true
  | .command (.str typed) => Command.takesTurn typed
  | _ => false

end Request

namespace Session

/-- A request other than reopening changes the play state only, as `Request.playState` says. -/
theorem runState_answer {request : Request} (h : request ≠ .reopen) (session : Session) :
    runState (answer request) session =
      { session with state := request.playState session.game session.state } := by
  cases request with
  | command text => cases text <;> simp [answer, Request.playState]
  | reopen => exact absurd rfl h
  | _ => simp [answer, Request.playState]

/-- Reopening gives the reopened session, or leaves the session as it is when that fails. -/
theorem runState_answer_reopen (session : Session) :
    runState (answer .reopen) session =
      match session.reopened with
      | .ok session' => session'
      | .error _ => session := by
  simp only [answer, runState_get_bind]
  split <;> simp_all

/-- The session after answering the requests one after the other; a request that fails leaves
the session where it stopped, and the next one is answered from there. -/
def after (session : Session) : List Request → Session
  | [] => session
  | request :: rest => (runState (answer request) session).after rest

/-- No requests leave the session. -/
@[simp]
theorem after_nil (session : Session) : session.after [] = session := rfl

/-- Requests are answered from the first. -/
@[simp]
theorem after_cons (session : Session) (request : Request) (rest : List Request) :
    session.after (request :: rest) = (runState (answer request) session).after rest := rfl

/-- Answering requests one list after another is answering them together. -/
theorem after_append (session : Session) (first rest : List Request) :
    session.after (first ++ rest) = (session.after first).after rest := by
  induction first generalizing session with
  | nil => rfl
  | cons request first ih => exact ih _

end Session

end Adventure
