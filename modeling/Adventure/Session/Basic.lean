import Adventure.Play.Session
import Adventure.Play.Act

/-! A session: a game in progress with the content it was opened from, so that it can be saved and
reopened. -/

namespace Adventure

open Adventure.Story Adventure.Play

/-- A game in progress: the content it was opened from, whether that content is read without
checks when the session is reopened, the game read from it and the current state. -/
structure Session where
  content : Value
  unchecked : Bool
  game : Game
  state : GameState

/-- How a session is opened. -/
inductive Opening where
  /-- A fresh start, with the content checked unless the session is unchecked. -/
  | fresh
  /-- A fresh start from content that is always checked. -/
  | checked
  /-- A resumption from a snapshot, given as data or as its text. -/
  | resumed (snapshot : Value)
  deriving Inhabited

namespace Session

/-- Opens a session on content. -/
def start (content : Value) (unchecked : Bool) (how : Opening) : Except Fault Session := do
  let (g, s) ← match how with
    | .fresh => openSession content unchecked
    | .checked => openSession content false
    | .resumed snapshot => resumeSession content snapshot unchecked
  return ⟨content, unchecked, g, s⟩

/-- Runs an action of the engine on the session's state; the state is kept as far as the
action got, also when it fails. -/
def act {α : Type} (x : Act α) : EStateM Fault Session α := fun session =>
  match x.run session.state with
  | .ok a s => .ok a { session with state := s }
  | .error e s => .error e { session with state := s }

end Session

end Adventure
