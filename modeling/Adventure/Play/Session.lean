import Adventure.Play.Snapshot
import Adventure.Play.Lookup
import Adventure.Schema.Check
import Adventure.Schema.Game
import Adventure.Story.Build
import Adventure.Story.References

/-! Opening a session from content, checked or unchecked, or resuming one from a snapshot. -/

namespace Adventure.Play

open Adventure.Story Adventure.Schema

/-- Reads checked content: schema, reading, references. -/
def validateGame (data : Value) : Except Fault Game := do
  let issues ← gameDocument.report data
  if !issues.isEmpty then throw (invalidGame ("; ".intercalate issues))
  let g ← readGame data
  let problems ← referenceIssues g
  if !problems.isEmpty then throw (invalidGame ("; ".intercalate problems))
  return g

/-- Reads content, checked unless `unchecked`. -/
def loadGame (data : Value) (unchecked : Bool) : Except Fault Game :=
  if unchecked then do
    let g ← readGame data
    let _ ← referenceIssues g
    return g
  else validateGame data

/-- Fails when a room or item id cannot be used as a key. -/
def checkIds (g : Game) : Except Fault Unit :=
  g.rooms.forM fun room => do
    if !room.id.hashable then throw .wrongKind
    room.items.forM fun item => if item.id.hashable then pure () else throw .wrongKind

/-- The game and the fresh state of a new session. -/
def openSession (data : Value) (unchecked : Bool) : Except Fault (Game × GameState) := do
  let g ← loadGame data unchecked
  checkIds g
  match ← findRoom g g.startingRoom with
  | some _ => return (g, GameState.initial g.startingRoom g.initialFlags)
  | none => throw (.invalidGame s!"Starting room \"{g.startingRoom.display}\" not found in rooms")

/-- The state a snapshot describes for a game. -/
def resumeState (g : Game) (snapshot : Value) : Except Fault GameState := do
  GameState.ofValue (← snapshotData snapshot) g.startingRoom g.initialFlags

/-- A session resumed from a snapshot. -/
def resumeSession (data snapshot : Value) (unchecked : Bool) : Except Fault (Game × GameState) := do
  let (g, _) ← openSession data unchecked
  return (g, ← resumeState g snapshot)

end Adventure.Play
