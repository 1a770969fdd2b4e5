import Adventure.Saves.Desk
import Adventure.Shelf.Basic
import Adventure.Command.Similar

/-! Playing a game line by line: the console prints its start and answers each typed line, with
`quit`, `exit`, `save`, `load` and `saves` handled here, until the game is over. -/

namespace Adventure.Console

open Adventure.Saves Adventure.Command Adventure.Text

/-- What the console shows and keeps after one typed line. -/
structure Reply where
  lines : List String
  desk : Desk
  goesOn : Bool

/-- The text of a fault that ends the console. -/
def faultText : Fault → String
  | .invalidGame m | .saveFailed m | .missingKey m | .malformedData m => m
  | .wrongKind => "a value of the wrong kind"
  | .badValue => "a value of the wrong shape"
  | .noSuchOperation => "an operation the value does not have"
  | .noSuchFile => "no such file"
  | .tooLarge => "a number too large"
  | .tooDeep => "nesting too deep"
  | .unencodable => "a text that cannot be encoded"
  | .rootedPattern => "a pattern from the root"

/-- The lines printed when a game is opened, and the desk to play at. -/
def opening (name : Value) : Except Fault (List String × Desk) := do
  let session ← Shelf.openGame name
  match (Session.answer .startGame).run session with
  | .ok start next =>
    return ([start.display, "-- Type 'help' for the list of commands. --"], ⟨next, Folder.empty⟩)
  | .error e _ => throw e

/-- The line listing one save. -/
def summaryLine (s : Summary) : String :=
  s!" {s.slot}  {s.date.display}  {s.room.display} (turn {s.turns.display})"

/-- A slot named by the words after `save` or `load`. -/
def slotNamed (arg : String) : Value := .str (if arg.isEmpty then "quicksave" else arg)

/-- Answers one typed line. -/
def respond (desk : Desk) (typed : String) : Reply :=
  let cmd := trim typed
  let stay (lines : List String) (next : Desk) : Reply := ⟨lines, next, true⟩
  if cmd.isEmpty then stay [] desk
  else if cmd == "quit" || cmd == "exit" then ⟨["Goodbye."], desk, false⟩
  else
    let verb := (cmd.splitOn " ").headD ""
    let arg := trim (String.ofList (cmd.toList.drop (verb.length + 1)))
    if verb == "save" then
      match (save desk.session (slotNamed arg)).run desk.folder with
      | .ok path folder => stay [s!"Game saved to {path}"] { desk with folder := folder }
      | .error e folder => stay ["Error: " ++ faultText e] { desk with folder := folder }
    else if verb == "load" then
      match (load desk.session.content false (slotNamed arg) .null).run desk.folder with
      | .ok session _ =>
        match (Session.answer (.look .null)).run session with
        | .ok view next => stay [view.display] { desk with session := next }
        | .error e next => ⟨["Error: " ++ faultText e], { desk with session := next }, false⟩
      | .error e _ => stay ["Error: " ++ faultText e] desk
    else if verb == "saves" then
      match summaries desk.folder with
      | .ok [] => stay ["No saves found."] desk
      | .ok found => stay (found.map summaryLine) desk
      | .error e => stay ["Error: " ++ faultText e] desk
    else
      match (Session.answer (.command (.str cmd))).run desk.session with
      | .error e next => ⟨["Error: " ++ faultText e], { desk with session := next }, false⟩
      | .ok .null next =>
        let close := closeMatches verb (commands.map (·.name)) 3
        let line := if close.isEmpty then "Unknown command. Type 'help'."
          else "Unknown command. Did you mean: " ++ ", ".intercalate close
        stay [line] { desk with session := next }
      | .ok reply next =>
        let desk2 := { desk with session := next }
        if next.state.ended then ⟨[reply.display, "-- The End. --"], desk2, false⟩
        else stay [reply.display] desk2

end Adventure.Console
