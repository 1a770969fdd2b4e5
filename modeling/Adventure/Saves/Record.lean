import Adventure.Session.Basic
import Adventure.Saves.Folder
import Adventure.Schema.Game

/-! Save records: a snapshot with `_save_metadata`, checked against its schemas before a session
is resumed from it. -/

namespace Adventure.Saves

open Adventure.Play Adventure.Schema

/-- The newest save format, the one records are written in. -/
def formatVersion : Nat := 1

/-- The entry of a record that holds the facts about the save. -/
def infoKey : String := "_save_metadata"

/-- The date and time text of a tick: a fixed day, the tick counting seconds from noon. -/
def dateOf (tick : Nat) : String :=
  let two (n : Nat) : String := if n < 10 then "0" ++ Nat.repr n else Nat.repr n
  let seconds := tick % 43200
  s!"2025-06-15T{two (12 + seconds / 3600)}:{two (seconds / 60 % 60)}:{two (seconds % 60)}"

/-- A snapshot of a session made at a tick, with the facts about the save added. -/
def recordOf (snapshot : Value) (session : Session) (tick : Nat) : Value :=
  let info : Value := .obj [("version", .int formatVersion), ("timestamp", tickTime tick),
    ("date_saved", .str (dateOf tick)), ("game_id", session.game.id),
    ("game_version", session.game.version)]
  match snapshot with
  | .obj fields => .obj (fields ++ [(infoKey, info)])
  | other => other

/-- The record of a session made at a tick, as shown. -/
def record (session : Session) (tick : Nat) : Value :=
  recordOf session.state.toValue session tick

/-- The record of a session made at a tick, as the data a save file holds. -/
def recordData (session : Session) (tick : Nat) : Value :=
  recordOf session.state.toData session tick

/-- The session a record describes, for the content the save was made from; `unchecked` is
kept for reopening the session later. -/
def restore (content : Value) (unchecked : Bool) (data : Value) : Except Fault Session := do
  let fields ← match data with
    | .obj fields => pure fields
    | _ => throw .noSuchOperation
  let info ← data.getOr infoKey (.obj [])
  if let some issue ← saveInfoDocument.worstIssue info then
    throw (.saveFailed s!"Corrupted save metadata: {issue.message}")
  let version ← info.getOr "version" (.int 0)
  match version.num? with
  | some n =>
    if Num.lt (.int formatVersion) n then
      throw (.saveFailed
        s!"Save version {version.display} is newer than supported version {formatVersion}")
  | none => throw .wrongKind
  let snapshot := Value.obj (fields.filter (·.1 != infoKey))
  if let some issue ← stateDocument.worstIssue snapshot then
    throw (.saveFailed s!"Corrupted save data: {issue.message}")
  let session ← Session.start content false (.resumed snapshot)
  return { session with unchecked := unchecked }

end Adventure.Saves
