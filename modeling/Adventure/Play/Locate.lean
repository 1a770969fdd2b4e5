import Adventure.Play.Lookup

/-! Matching the player's words to items, characters and exits, in lower case, exactly first and
then inside names and aliases. -/

namespace Adventure.Play

open Adventure.Story Adventure.Text

/-- Whether `needle` occurs in `hay`. -/
def occursIn (needle hay : List Char) : Bool :=
  needle.isPrefixOf hay ||
    match hay with
    | [] => false
    | _ :: rest => occursIn needle rest

/-- Whether some name, lowered, satisfies `accepts`; names are lowered in order until one does. -/
def anyName (accepts : String → Bool) : List Value → Except Fault Bool
  | [] => .ok false
  | n :: rest => do
    if accepts (← lowerOf n) then return true
    anyName accepts rest

/-- The first candidate whose name or an alias satisfies `accepts`. -/
def firstNamed {α : Type} (nameAndAliases : α → List Value) (accepts : String → Bool) :
    List α → Except Fault (Option α)
  | [] => .ok none
  | x :: rest => do
    if ← anyName accepts (nameAndAliases x) then return some x
    firstNamed nameAndAliases accepts rest

/-- The name and aliases of an item. -/
def itemNames (i : Item) : List Value := i.name :: i.aliases

/-- The name and aliases of a character. -/
def npcNames (n : Npc) : List Value := n.name :: n.aliases

/-- The first item named exactly by the words. -/
def exactItem (items : List Item) (words : Value) : Except Fault (Option Item) := do
  let norm ← lowerOf words
  firstNamed itemNames (· == norm) items

/-- The first item named partially by the words. -/
def partialItem (items : List Item) (words : Value) : Except Fault (Option Item) := do
  let norm ← lowerOf words
  firstNamed itemNames (fun n => occursIn norm.toList n.toList) items

/-- An exact match first, then a partial one. -/
def searchItems (items : List Item) (words : Value) : Except Fault (Option Item) := do
  match ← exactItem items words with
  | some i => return some i
  | none => partialItem items words

/-- The item of the current room, taken or in a container or not, that the words name. -/
def itemInRoom (g : Game) (s : GameState) (words : Value) : Except Fault (Option Item) := do
  searchItems (roomItems (← currentRoom g s) s) words

/-- The item in the open in the current room that the words name. -/
def itemInOpen (g : Game) (s : GameState) (words : Value) : Except Fault (Option Item) := do
  searchItems (openItems (← currentRoom g s) s) words

/-- The carried item that the words name. -/
def itemCarried (g : Game) (s : GameState) (words : Value) : Except Fault (Option Item) := do
  searchItems (← carriedItems g s) words

/-- The character of the current room that the words name, partially. -/
def npcNamed (g : Game) (s : GameState) (words : Value) : Except Fault (Option Npc) := do
  let room ← currentRoom g s
  let norm ← lowerOf words
  firstNamed npcNames (fun n => occursIn norm.toList n.toList) room.npcs

/-- The exit of the current room that the words name, with its position among the exits. -/
def exitNamed (g : Game) (s : GameState) (words : Value) : Except Fault (Option (Nat × Exit)) := do
  let room ← currentRoom g s
  let norm := lower (trim (← textOf words))
  let exits := room.exits.zipIdx
  match ← firstNamed (fun (e : Exit × Nat) => e.1.aliases) (· == norm) exits with
  | some (e, i) => return some (i, e)
  | none =>
    match ← roomNamed g norm with
    | none => return none
    | some target =>
      return (exits.find? fun (e, _) => e.target.equals target.id).map fun (e, i) => (i, e)

end Adventure.Play
