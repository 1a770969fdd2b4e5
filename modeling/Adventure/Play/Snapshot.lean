import Adventure.Play.State
import Adventure.Story.Dump
import Adventure.Json.Reader
import Adventure.Json.Writer

/-! Snapshots of the play state as objects of nine fields, and reading them back over the game's
initial flags, a field that does not hold taking its fresh value. -/

namespace Adventure.Play

open Adventure.Story Adventure.Json

namespace GameState

/-- The snapshot of a state, with the given flags object. -/
def withFlags (s : GameState) (flags : Value) : Value :=
  .obj [("currentRoomId", s.room), ("inventoryIds", .arr s.inventory),
    ("takenItemIds", .arr s.taken), ("flags", flags),
    ("visitedRooms", .arr s.visited), ("gameOver", .bool s.ended), ("won", .bool s.won),
    ("turnCount", s.turns), ("once", .arr s.once)]

/-- The snapshot of a state, as shown. -/
def toValue (s : GameState) : Value := s.withFlags s.flags.toValue

/-- The snapshot of a state, as the data that its text writes. -/
def toData (s : GameState) : Value := s.withFlags s.flags.toData

/-- The text of the snapshot of a state. -/
def serialize (s : GameState) : String := Json.write s.toData

end GameState

/-- A list field of a snapshot: nothing when it does not hold, else its members. -/
def listField (v : Value) : Except Fault (List Value) :=
  if v.truthy then v.members else .ok []

/-- A field of a snapshot, or `fallback` when it does not hold. -/
def fieldOr (v fallback : Value) : Value := if v.truthy then v else fallback

/-- The state a snapshot describes, for a game with the given start and initial flags. -/
def GameState.ofValue (data : Value) (start : Value) (initialFlags : Flags) :
    Except Fault GameState := do
  let flags ← initialFlags.update (fieldOr (← data.getOr "flags" .null) (.obj []))
  let room := fieldOr (← data.getOr "currentRoomId" .null) start
  let inventory ← listField (← data.getOr "inventoryIds" .null)
  let taken ← listField (← data.getOr "takenItemIds" .null)
  let visited ← listField (← data.getOr "visitedRooms" .null)
  let ended := (← data.getOr "gameOver" .null).truthy
  let won := (← data.getOr "won" .null).truthy
  let turns := fieldOr (← data.getOr "turnCount" .null) (.int 0)
  let once ← listField (← data.getOr "once" .null)
  return ⟨room, inventory, taken, flags, visited, ended, won, turns, once⟩

/-- A snapshot given as data or as its text. -/
def snapshotData : Value → Except Fault Value
  | .str text => Json.readData text
  | v => .ok v

end Adventure.Play
