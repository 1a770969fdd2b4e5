import Adventure.Story.Condition
import Adventure.Story.Flags

/-! Texts, rooms, items, characters, exits, triggers and hints, as content describes them. -/

namespace Adventure.Story

/-- One fragment of a passage. `group` is null for a fragment in no group. -/
structure Fragment where
  say : Value
  when : List Condition
  priority : Value
  group : Value
  deriving Inhabited

/-- A text made of fragments. -/
structure Passage where
  fragments : List Fragment
  id : Value
  deriving Inhabited

/-- A text: none, a plain text, or a passage. -/
inductive Text where
  | none
  | plain (s : String)
  | passage (p : Passage)
  deriving Inhabited

namespace Text

/-- Whether a text has something to show: a passage always, a plain text when not empty. -/
def isPresent : Text → Bool
  | .none => false
  | .plain s => !s.isEmpty
  | .passage _ => true

end Text

/-- Effects that fire, with an optional message, when their conditions pass. -/
structure Trigger where
  when : List Condition
  effects : List Effect
  id : Value
  message : Text
  deriving Inhabited

/-- One way to use an item: alone or on a target item, with or without a number. `effects` is
`none` when the content declares no effects at all. -/
structure UseAction where
  response : Text
  target : Value
  number : Value
  anyNumber : Value
  requires : List Condition
  effects : Option (List Effect)
  deriving Inhabited

/-- An item. `location` names the room or item it lies in, when it is not in the open. -/
structure Item where
  id : Value
  name : Value
  description : Text
  examineText : Text
  takeable : Value
  aliases : List Value
  location : Value
  takeWhen : List Condition
  takeBlocked : Value
  onTake : Option (List Effect)
  onTakeText : Text
  useActions : List UseAction
  deriving Inhabited

/-- One line the player can say to a character, with what it answers and does. -/
structure DialogueLine where
  playerLine : Value
  response : Text
  when : List Condition
  effects : Option (List Effect)
  setsFlag : Value
  givesItem : Value
  deriving Inhabited

/-- A character. -/
structure Npc where
  id : Value
  name : Value
  description : Value
  dialogue : List DialogueLine
  aliases : List Value
  deriving Inhabited

/-- A way out of a room. -/
structure Exit where
  target : Value
  aliases : List Value
  locked : Value
  requiredItem : Value
  requires : List Condition
  blockedMessage : Text
  description : Value
  deriving Inhabited

/-- A room. -/
structure Room where
  id : Value
  name : Value
  description : Text
  items : List Item
  npcs : List Npc
  exits : List Exit
  triggers : List Trigger
  deriving Inhabited

/-- A hint, given when its conditions pass. -/
structure Hint where
  id : Value
  text : Text
  when : List Condition
  deriving Inhabited

/-- A game. -/
structure Game where
  id : Value
  name : Value
  version : Value
  rooms : List Room
  startingRoom : Value
  intro : Text
  winMessage : Text
  initialFlags : Flags
  hints : List Hint
  globalTriggers : List Trigger
  description : Value
  deriving Inhabited

namespace Game

/-- The items of all rooms, room by room. -/
def allItems (g : Game) : List Item := g.rooms.flatMap (·.items)

end Game

end Adventure.Story
