import Adventure.Saves.Slots
import Adventure.Session.Request

/-! A session together with its save folder, and the chores done on both. -/

namespace Adventure.Saves

open Adventure.Json

/-- A session with its save folder. -/
structure Desk where
  session : Session
  folder : Folder

/-- One thing done at the desk. -/
inductive Chore where
  | save (slot : Value)
  | load (slot file : Value)
  /-- Writes a file into the save folder: a text as it is, other data as its JSON text. The
  name must name a file in an existing folder; a text with a half of a surrogate pair leaves
  the file empty and fails. -/
  | writeFile (name : String) (content : Value)
  | list
  | delete (slot file : Value)
  | restore (data : Value)
  | record
  | request (r : Request)
  deriving Inhabited

/-- Runs a folder operation at the desk. -/
def Desk.onFolder {α : Type} (x : EStateM Fault Folder α) : EStateM Fault Desk α := fun desk =>
  match x.run desk.folder with
  | .ok a folder => .ok a { desk with folder := folder }
  | .error e folder => .error e { desk with folder := folder }

/-- Runs a session operation at the desk. -/
def Desk.onSession {α : Type} (x : EStateM Fault Session α) : EStateM Fault Desk α := fun desk =>
  match x.run desk.session with
  | .ok a session => .ok a { desk with session := session }
  | .error e session => .error e { desk with session := session }

/-- Does a chore, answering with a value. -/
def Desk.perform (chore : Chore) : EStateM Fault Desk Value := do
  let desk ← get
  match chore with
  | .save slot =>
    let path ← Desk.onFolder (save desk.session slot)
    return .str (slotOf ((path.splitOn "/").getLastD ""))
  | .load slot file =>
    let session ← Desk.onFolder (load desk.session.content desk.session.unchecked slot file)
    set { desk with session := session }
    return .null
  | .writeFile name content =>
    let body := match content with
      | .str text => text
      | other => write other
    let path := filePath name
    match Text.checkFileName path with
    | .error e => throw e
    | .ok () => pure ()
    let names := path.splitOn "/"
    let parentPath := "/".intercalate names.dropLast
    match desk.folder.locate parentPath with
    | .directory => Desk.onFolder (putFile parentPath (names.getLastD "") body)
    | _ => throw .noSuchFile
    return .null
  | .list =>
    match summaries desk.folder with
    | .ok found => return .arr (found.map Summary.toValue)
    | .error e => throw e
  | .delete slot file => return .bool (← Desk.onFolder (delete slot file))
  | .restore data =>
    match Saves.restore desk.session.content desk.session.unchecked data with
    | .ok session => set { desk with session := session }; return .null
    | .error e => throw e
  | .record => return Saves.record desk.session desk.folder.clock
  | .request r => Desk.onSession (Session.answer r)

end Adventure.Saves
