import Adventure.Play.State
import Adventure.Value.Loose
import Adventure.Value.Show

/-! Paths into the play state: the room, the ending marks, the turn counter (read only) and flags,
`flags.X` naming the flag `X`. -/

namespace Adventure.Play

open Adventure.Story

/-- The flag a name addresses: the name without a leading `flags.`. -/
def flagKey (path : String) : String :=
  if path.startsWith "flags." then String.ofList (path.toList.drop 6) else path

/-- The flag a path addresses; only a text names one. -/
def flagOf : Value → Except Fault String
  | .str p => .ok (flagKey p)
  | _ => .error .noSuchOperation

namespace GameState

/-- The value at a path; an unset flag reads as null. -/
def read (s : GameState) (path : Value) : Except Fault Value :=
  if path.isText "room" || path.isText "room.id" then .ok s.room
  else if path.isText "won" then .ok (.bool s.won)
  else if path.isText "gameOver" then .ok (.bool s.ended)
  else if path.isText "turnCount" then .ok s.turns
  else do
    let key ← flagOf path
    return (s.flags.get? (.str key)).getD .null

/-- Writes a value at a path. -/
def write (s : GameState) (path : Value) (v : Value) : Except Fault GameState :=
  if path.isText "room" || path.isText "room.id" then .ok { s with room := .str v.display }
  else if path.isText "won" then .ok { s with won := v.holds }
  else if path.isText "gameOver" then .ok { s with ended := v.holds }
  else do
    let key ← flagOf path
    return { s with flags := s.flags.set (.str key) v }

end GameState

end Adventure.Play
