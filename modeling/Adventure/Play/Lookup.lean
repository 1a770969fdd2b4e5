import Adventure.Play.State
import Adventure.Story.World
import Adventure.Value.Show
import Adventure.Text.Blank
import Adventure.Text.Case

/-! Finding rooms and items by id, as map keys are found, and the items of a room that are still
in it or in the open. -/

namespace Adventure.Play

open Adventure.Story Adventure.Text

/-- The first room with the given id. -/
def findRoom (g : Game) (id : Value) : Except Fault (Option Room) :=
  if id.hashable then .ok (g.rooms.find? (·.id.sameItem id)) else .error .wrongKind

/-- The first item of any room with the given id. -/
def findItem (g : Game) (id : Value) : Except Fault (Option Item) :=
  if id.hashable then .ok (g.allItems.find? (·.id.sameItem id)) else .error .wrongKind

/-- The room the player is in. -/
def currentRoom (g : Game) (s : GameState) : Except Fault Room := do
  match ← findRoom g s.room with
  | some r => pure r
  | none => throw (.missingKey s!"Room not found: {s.room.display}")

/-- A value that must be a text, as a text. -/
def textOf : Value → Except Fault String
  | .str s => .ok s
  | _ => .error .noSuchOperation

/-- The lower case of a value that must be a text. -/
def lowerOf (v : Value) : Except Fault String := lower <$> textOf v

/-- The first room whose id or name is the given text, ignoring blanks around it and case. -/
def roomNamed (g : Game) (text : String) : Except Fault (Option Room) := do
  let norm := lower (trim text)
  for room in g.rooms do
    if (← lowerOf room.id) == norm then return some room
    if (← lowerOf room.name) == norm then return some room
  return none

/-- The items of a room that have not been taken. -/
def roomItems (room : Room) (s : GameState) : List Item :=
  room.items.filter fun i => !s.isTaken i.id

/-- The items of a room that have not been taken and lie in no container. -/
def openItems (room : Room) (s : GameState) : List Item :=
  room.items.filter fun i => !s.isTaken i.id && !i.location.truthy

/-- The items the player carries, in the order they were taken; ids of no item are skipped. -/
def carriedItems (g : Game) (s : GameState) : Except Fault (List Item) :=
  s.inventory.filterMapM (findItem g)

end Adventure.Play
