import Adventure.Text.Wildcard
import Adventure.Value.Show

/-! The save folder: files with a text and a write time from a clock that ticks once per write,
paths through it, and the wildcard patterns that find a slot's saves. -/

namespace Adventure.Saves

/-- A file of the save folder: its name, its text, and the tick of the folder's clock at which
it was last written. -/
structure SaveFile where
  name : String
  body : String
  written : Nat
  deriving Repr, Inhabited

/-- The save folder: its files in the order they were made, and the ticks of its clock. -/
structure Folder where
  files : List SaveFile
  clock : Nat
  deriving Repr, Inhabited

/-- The name of the save folder inside the working directory. -/
def folderName : String := "saves"

/-- The clock reading of the first tick, as seconds; a tick is one second. -/
def clockStart : Nat := 1750000000

/-- Line ends made uniform: every `\r\n` and every other `\r` becomes `\n`. -/
def unifyLineEnds : List Char → List Char
  | '\r' :: '\n' :: rest => '\n' :: unifyLineEnds rest
  | '\r' :: rest => '\n' :: unifyLineEnds rest
  | c :: rest => c :: unifyLineEnds rest
  | [] => []

/-- The text of a file as read, its line ends made uniform. -/
def SaveFile.text (file : SaveFile) : String := String.ofList (unifyLineEnds file.body.toList)

namespace Folder

/-- The empty folder whose clock has not ticked. -/
def empty : Folder := ⟨[], 0⟩

/-- The file of a name. -/
def find? (folder : Folder) (name : String) : Option SaveFile :=
  folder.files.find? (·.name == name)

/-- Writes a file: the clock ticks, and the file gets the text and the new tick, keeping its
place if it was there. -/
def write (folder : Folder) (name body : String) : Folder :=
  let tick := folder.clock + 1
  let file : SaveFile := ⟨name, body, tick⟩
  if folder.files.any (·.name == name) then
    ⟨folder.files.map (fun f => if f.name == name then file else f), tick⟩
  else ⟨folder.files ++ [file], tick⟩

/-- Every write ticks the clock once. -/
theorem clock_write (folder : Folder) (name body : String) :
    (folder.write name body).clock = folder.clock + 1 := by
  unfold write
  split <;> rfl

/-- Replacing every file of a name by `file`, of that name, makes `file` the first file of
that name, when there was one. -/
theorem find?_map_replace (files : List SaveFile) (name : String) (file : SaveFile)
    (named : file.name = name) (present : files.any (·.name == name) = true) :
    (files.map fun f => if f.name == name then file else f).find? (·.name == name) =
      some file := by
  induction files with
  | nil => simp at present
  | cons f rest ih =>
    by_cases same : f.name = name
    · simp [same, named]
    · have later : rest.any (·.name == name) = true := by simpa [same] using present
      simpa [same] using ih later

/-- After a write, the file of that name holds the new text, stamped with the new tick. -/
theorem find?_write_self (folder : Folder) (name body : String) :
    (folder.write name body).find? name = some ⟨name, body, folder.clock + 1⟩ := by
  unfold write find?
  split
  · rename_i present
    exact find?_map_replace folder.files name _ rfl present
  · rename_i absent
    have none : folder.files.find? (·.name == name) = none := by
      simpa [List.find?_eq_none] using absent
    simp [List.find?_append, none]

/-- Removes the file of a name. -/
def remove (folder : Folder) (name : String) : Folder :=
  { folder with files := folder.files.filter (·.name != name) }

/-- The files whose names fit a wildcard pattern, in folder order. -/
def matching (folder : Folder) (pattern : String) : List SaveFile :=
  folder.files.filter (Text.wildcardMatch pattern ·.name)

end Folder

/-- The seconds of a tick, as a clock reading. -/
def tickTime (tick : Nat) : Value := .float (Float.ofNat (clockStart + tick))

/-- Where a path leads. -/
inductive Place where
  /-- The working directory or the save folder. -/
  | directory
  /-- A file of the save folder. -/
  | file (f : SaveFile)
  /-- Nothing there. -/
  | missing
  /-- The path goes on through a file. -/
  | notDirectory
  deriving Inhabited

/-- Where one more name of a path leads from a place; `atTop` says the place is the working
directory rather than the save folder. -/
def stepPlace (folder : Folder) : Place × Bool → String → Place × Bool
  | (.directory, atTop), name =>
    if name == "" || name == "." then (.directory, atTop)
    else if name == ".." then (if atTop then (.missing, true) else (.directory, true))
    else if atTop then (if name == folderName then (.directory, false) else (.missing, false))
    else match folder.find? name with
      | some f => (.file f, false)
      | none => (.missing, false)
  | (.file f, atTop), name =>
    if name == "" || name == "." then (.file f, atTop) else (.notDirectory, atTop)
  | other, _ => other

/-- Where a path leads from the working directory; paths from the root lead nowhere known. -/
def Folder.locate (folder : Folder) (path : String) : Place :=
  if path.startsWith "/" then .missing
  else ((path.splitOn "/").foldl (stepPlace folder) (.directory, true)).1

/-- The text of a path. -/
def pathText (path : String) : String :=
  let names := (path.splitOn "/").filter (fun n => n != "" && n != ".")
  let lead :=
    if path.startsWith "//" && !path.startsWith "///" then "//"
    else if path.startsWith "/" then "/" else ""
  if lead.isEmpty && names.isEmpty then "." else lead ++ "/".intercalate names

/-- The path of a file of the save folder. -/
def filePath (name : String) : String := folderName ++ "/" ++ name

/-- A name without its last suffix; a leading dot or a final dot starts no suffix. -/
def nameStem (name : String) : String :=
  let cs := name.toList
  match (List.range cs.length).reverse.find? (fun i => cs[i]? == some '.') with
  | some i => if 0 < i && i + 1 < cs.length then String.ofList (cs.take i) else name
  | none => name

/-- The slot a file name belongs to. -/
def slotOf (name : String) : String :=
  let parts := (nameStem name).splitOn "_"
  if parts.length ≤ 4 then parts.headD ""
  else "_".intercalate (parts.take (parts.length - 3))

/-- The stamp of a tick in a save's file name: a date, a time and a six-digit count, joined by
`_`. -/
def stampOf (tick : Nat) : String :=
  let digits := (Nat.repr tick).toList
  "20250615_120000_" ++ String.ofList (List.replicate (6 - digits.length) '0' ++ digits)

/-- The file name of a save of a slot at a tick. -/
def saveName (slot : String) (tick : Nat) : String := slot ++ "_" ++ stampOf tick ++ ".json"

/-- Refuses a wildcard pattern that starts at the root, or that has a name holding `**`
without being `**`. -/
def checkPattern (pattern : String) : Except Fault Unit :=
  let names := (pattern.splitOn "/").filter fun n => n != "" && n != "."
  if pattern.startsWith "/" then .error .rootedPattern
  else if names.any fun n => n != "**" && (n.splitOn "**").length > 1 then .error .badValue
  else .ok ()

/-- The saves of a slot: the files that the slot's pattern fits and that belong to the slot. -/
def Folder.slotFiles (folder : Folder) (slot : Value) : Except Fault (List SaveFile) := do
  let pattern := slot.display ++ "_*.json"
  checkPattern pattern
  match slot with
  | .str s => return (folder.matching pattern).filter (slotOf ·.name == s)
  | _ => return []

/-- The text of a failed file operation, naming the path. -/
def osFailure (code : Nat) (reason path : String) : String :=
  s!"[Errno {code}] {reason}: " ++ (Value.str path).literal

/-- The text of a failed operation on a place that is not a file. -/
def placeFailure (place : Place) (path : String) : String :=
  match place with
  | .directory => osFailure 21 "Is a directory" path
  | .notDirectory => osFailure 20 "Not a directory" path
  | _ => osFailure 2 "No such file or directory" path

end Adventure.Saves
