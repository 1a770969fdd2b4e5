import Adventure.Session.Basic
import Adventure.Command.Dispatch
import Adventure.Play.Snapshot

/-! Requests to a session and their answers, all values. -/

namespace Adventure

open Adventure.Story Adventure.Play

/-- A request to a running session. -/
inductive Request where
  | startGame
  | look (target : Value)
  | examine (target : Value)
  | go (direction : Value)
  | take (item : Value)
  | talk (npc : Value)
  | talkOption (npc option : Value)
  | use (item target number : Value)
  | inventory
  | hint
  | status
  | statusMessage
  | isOver
  | hasWon
  | snapshotText
  | describeRoom
  /-- A typed command, read as the command line reads it. -/
  | command (text : Value)
  /-- Reopens the session from the text of its own snapshot. -/
  | reopen
  deriving Inhabited

namespace Session

/-- The session reopened from the text of its snapshot: the content is read again, and the
state is the one the snapshot describes. -/
def reopened (session : Session) : Except Fault Session :=
  start session.content session.unchecked (.resumed (.str session.state.serialize))

/-- Runs an action of the engine on the session's game and state. -/
def withGame {α : Type} (x : Game → Act α) : EStateM Fault Session α := do
  act (x (← get).game)

/-- Answers a request, changing the session as the request does. -/
def answer : Request → EStateM Fault Session Value
  | .startGame => .str <$> withGame startGame
  | .look target => withGame (look · target)
  | .examine target => withGame (examine · target)
  | .go direction => .str <$> withGame (go · direction)
  | .take item => .str <$> withGame (take · item)
  | .talk npc => .str <$> withGame (talk · npc)
  | .talkOption npc option => .str <$> withGame (talkOption · npc option)
  | .use item target number => .str <$> withGame (use · item target number)
  | .inventory => .str <$> withGame inventory
  | .hint => .str <$> withGame hint
  | .status => withGame status
  | .statusMessage => .str <$> withGame statusMessage
  | .isOver => do return .bool (← get).state.ended
  | .hasWon => do return .bool (← get).state.won
  | .snapshotText => do return .str (← get).state.serialize
  | .describeRoom => .str <$> withGame describeRoom
  | .command (.str typed) => (·.getD .null) <$> withGame (Command.dispatch · typed)
  | .command _ => throw .noSuchOperation
  | .reopen => do
    match reopened (← get) with
    | .ok session => set session; return .null
    | .error e => throw e

end Session

end Adventure
