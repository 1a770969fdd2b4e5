import Adventure.Saves.Record
import Adventure.Value.Sort
import Adventure.Json.Reader
import Adventure.Json.Writer

/-! Saving, loading, listing and deleting saves of a slot or a path. -/

namespace Adventure.Saves

open Adventure.Json

/-- What a listing tells about one save. -/
structure Summary where
  slot : String
  gameId : Value
  date : Value
  version : Value
  time : Value
  room : Value
  turns : Value
  deriving Inhabited

/-- A summary as data: slot, game, format version, room and turns. -/
def Summary.toValue (s : Summary) : Value :=
  .obj [("slot_name", .str s.slot), ("game_id", s.gameId), ("version", s.version),
    ("room", s.room), ("turns", s.turns)]

/-- Writes a text to a new file at a path whose parent is a directory: the save folder keeps it,
any other directory is outside the folder and only the clock ticks. A text with a half of a
surrogate pair cannot be written: the file is made, empty, and the write fails. -/
def putFile (parentPath name body : String) : EStateM Fault Folder Unit := do
  let folder ← get
  let text := if Text.hasHalf body then "" else body
  if pathText parentPath == folderName then set (folder.write name text)
  else set { folder with clock := folder.clock + 1 }
  if Text.hasHalf body then throw .unencodable

/-- Saves a session under a slot, answering with the path of the file written. -/
def save (session : Session) (slot : Value) : EStateM Fault Folder String := do
  let folder ← get
  let tick := folder.clock + 1
  let target := filePath (saveName slot.display tick)
  let names := target.splitOn "/"
  let parentPath := "/".intercalate names.dropLast
  match Text.checkFileName target with
  | .error e => throw e
  | .ok () => pure ()
  match folder.locate parentPath with
  | .directory =>
    putFile parentPath (names.getLastD "") (writePlain (recordData session tick))
    return pathText target
  | place => throw (.saveFailed ("Failed to save game: " ++ placeFailure place (pathText target)))

/-- The newer of two saves: the later write, then the greater name. -/
def newer (a b : SaveFile) : SaveFile :=
  if a.written < b.written || (a.written == b.written && Text.textBefore a.name b.name) then b else a

/-- Restores the save held by a file found at a path. -/
def restoreFile (content : Value) (unchecked : Bool) (file : SaveFile) (path : String) :
    Except Fault Session :=
  match Json.readData file.text with
  | .error (.malformedData message) => .error (.saveFailed ("Failed to load game: " ++ message))
  | .error e => .error e
  | .ok (.obj fields) => restore content unchecked (.obj fields)
  | .ok _ => .error (.saveFailed s!"Failed to load game: {path} does not hold a save")

/-- Loads a save by path or by slot, as a session of the content. -/
def load (content : Value) (unchecked : Bool) (slot file : Value) :
    EStateM Fault Folder Session := do
  let folder ← get
  let found ← if file.truthy then
      match file with
      | .str path =>
        match folder.locate path with
        | .file f => pure (f, pathText path)
        | .directory =>
          throw (.saveFailed ("Failed to load game: " ++ placeFailure .directory (pathText path)))
        | _ => throw (.saveFailed s!"Save file not found: {pathText path}")
      | _ => throw .wrongKind
    else if slot.truthy then
      match folder.slotFiles slot with
      | .error e => throw e
      | .ok [] => throw (.saveFailed s!"No saves found for slot '{slot.display}'")
      | .ok (f :: rest) => let best := rest.foldl newer f; pure (best, filePath best.name)
    else throw (.saveFailed "Either slot_name or filepath is required")
  match restoreFile content unchecked found.1 found.2 with
  | .ok session => return session
  | .error e => throw e

/-- The summary of one file, when it holds an object; a file that is not data is passed over. -/
def summarize (file : SaveFile) : Except Fault (Option Summary) :=
  match Json.readData file.text with
  | .ok (.obj fields) => do
    let data := Value.obj fields
    let info := match data.field? infoKey with
      | some (.obj infoFields) => Value.obj infoFields
      | _ => .obj []
    return some {
      slot := slotOf file.name
      gameId := ← info.getOr "game_id" .null
      date := ← info.getOr "date_saved" (.str "?")
      version := ← info.getOr "version" (.int 0)
      time := ← info.getOr "timestamp" (tickTime file.written)
      room := ← data.getOr "currentRoomId" (.str "?")
      turns := ← data.getOr "turnCount" (.int 0) }
  | .ok _ | .error (.malformedData _) => .ok none
  | .error e => .error e

/-- Summaries of every save file, newest first. -/
def summaries (folder : Folder) : Except Fault (List Summary) := do
  let found ← (folder.matching "*.json").filterMapM summarize
  sortDescendingWith (fun a b => Value.lessThan a.time b.time) found

/-- Deletes a save by path or every save of a slot; answers whether anything was deleted. -/
def delete (slot file : Value) : EStateM Fault Folder Bool := do
  let folder ← get
  if file.truthy then
    match file with
    | .str path =>
      match Text.checkFileName path with
      | .error e => throw e
      | .ok () => pure ()
      match folder.locate path with
      | .file f => set (folder.remove f.name); return true
      | place =>
        throw (.saveFailed ("Failed to delete save: " ++ placeFailure place (pathText path)))
    | _ => throw .wrongKind
  else if slot.truthy then
    match folder.slotFiles slot with
    | .error e => throw e
    | .ok doomed =>
      set (doomed.foldl (fun acc f => acc.remove f.name) folder)
      return !doomed.isEmpty
  else throw (.saveFailed "Either slot_name or filepath is required")

end Adventure.Saves
