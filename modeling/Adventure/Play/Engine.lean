import Adventure.Play.Apply
import Adventure.Play.Render
import Adventure.Play.Locate
import Adventure.Play.Match
import Adventure.Play.Snapshot

/-! The player's verbs. Turn verbs advance the turn counter first and, once the game is over,
answer only the win message; failures of play are answers, faults come from content. -/

namespace Adventure.Play

open Adventure.Story

/-- Advances the turn counter by one. -/
def tick : Act Unit := do
  let s ← get
  match s.turns.num? with
  | some n => set { s with turns := Value.ofNum (← Act.ofExcept (n.add (.int 1))) }
  | none => throw .wrongKind

/-- The win message. -/
def ending (g : Game) : Act String := renderText g g.winMessage

/-- Texts joined by a separator; every part must be a text. -/
def joinTexts (sep : String) (parts : List Value) : Except Fault String := do
  let texts ← parts.mapM fun
    | .str t => .ok t
    | _ => .error .wrongKind
  return sep.intercalate texts

/-- Whether an exit is blocked: its conditions fail, or it is locked and the player lacks the
item that opens it. -/
def exitBlocked (g : Game) (ex : Exit) : Act Bool := do
  if !ex.requires.isEmpty then
    if !(← Act.ofExcept (checkAll g (← get) ex.requires)).passed then return true
  if ex.locked.truthy then
    if !(ex.requiredItem.truthy && (← get).hasItem ex.requiredItem) then return true
  return false

/-- How an exit is listed: the name of the room it leads to (its id when there is no such
room), marked when blocked. -/
def exitLabel (g : Game) (ex : Exit) : Act Value := do
  let name := match ← Act.ofExcept (findRoom g ex.target) with
    | some room => room.name
    | none => ex.target
  if ← exitBlocked g ex then return .str s!"{name.display} (blocked)"
  return name

/-- The description of the current room: its name, its text, the messages of its triggers that
fire, the items in the open, the characters and the exits. -/
def describeRoom (g : Game) : Act String := do
  let room ← Act.ofExcept (currentRoom g (← get))
  let messages ← roomTriggers g room.triggers
  let items := openItems room (← get)
  let head := s!"** {room.name.display} **"
  let description ← renderText g room.description
  let mut parts := [head, description]
  for m in messages do
    parts := parts ++ [← renderText g m]
  if !items.isEmpty then
    parts := parts ++ ["You see: " ++ (← Act.ofExcept (joinTexts ", " (items.map (·.name))))]
  if !room.npcs.isEmpty then
    parts := parts ++ ["Present: " ++ (← Act.ofExcept (joinTexts ", " (room.npcs.map (·.name))))]
  let mut labels : List Value := []
  for ex in room.exits do
    labels := labels ++ [← exitLabel g ex]
  let exitsText ← if labels.isEmpty then pure "none" else Act.ofExcept (joinTexts ", " labels)
  return "\n\n".intercalate (parts ++ ["Exits: " ++ exitsText])

/-- A close look at an item. -/
def describeItem (g : Game) (item : Item) : Act String := do
  let head := s!"** {item.name.display} **\n\n"
  return head ++ (← renderText g item.examineText)

/-- What the words name, looked at: an item of the room or carried, or a character. A
character whose description is null shows nothing, as if nothing were named. -/
def inspect (g : Game) (words : Value) : Act (Option Value) := do
  let s ← get
  let item ← match ← Act.ofExcept (itemInRoom g s words) with
    | some i => pure (some i)
    | none => Act.ofExcept (itemCarried g s words)
  match item with
  | some i => return some (.str (← describeItem g i))
  | none =>
    match ← Act.ofExcept (npcNamed g (← get) words) with
    | some npc =>
      match npc.description with
      | .null => return none
      | description => return some description
    | none => return none

/-- Starts the game afresh: the initial state, the start room visited, the introduction and
the description of the start room. -/
def startGame (g : Game) : Act String := do
  set (GameState.initial g.startingRoom g.initialFlags)
  modify fun s => s.visit s.room
  let intro ← renderText g g.intro
  return intro ++ "\n\n" ++ (← describeRoom g)

/-- Looks around, or at what the words name. -/
def look (g : Game) (target : Value) : Act Value := do
  tick
  if (← get).ended then return .str (← ending g)
  if !target.truthy then return .str (← describeRoom g)
  match ← inspect g target with
  | some found => return found
  | none => return .str s!"You don't see any \"{target.display}\" here."

/-- Looks at what the words name. -/
def examine (g : Game) (target : Value) : Act Value := do
  tick
  if (← get).ended then return .str (← ending g)
  match ← inspect g target with
  | some found => return found
  | none => return .str s!"You don't see any \"{target.display}\" to examine."

/-- Goes through the exit the words name. -/
def go (g : Game) (direction : Value) : Act String := do
  tick
  if (← get).ended then return ← ending g
  match ← Act.ofExcept (exitNamed g (← get) direction) with
  | none => return s!"You can't go {direction.display} from here."
  | some (_, ex) =>
    if ← exitBlocked g ex then
      if ex.blockedMessage.isPresent then return ← renderText g ex.blockedMessage
      return s!"You can't go {direction.display} right now."
    modify fun s => { s with room := ex.target }
    modify fun s => s.visit ex.target
    describeRoom g

/-- The refusal of an item: its own text when it has one, else `fallback`. -/
def refusal (item : Item) (fallback : String) : Act String := do
  let text ← renderRaw item.takeBlocked
  return if text.isEmpty then fallback else text

/-- Takes the item of the current room that the words name. -/
def take (g : Game) (words : Value) : Act String := do
  tick
  if (← get).ended then return ← ending g
  match ← Act.ofExcept (itemInRoom g (← get) words) with
  | none => return s!"You don't see any \"{words.display}\" here to take."
  | some item =>
    if !item.takeable.truthy then
      return ← refusal item s!"You can't take the {item.name.display}."
    if !item.takeWhen.isEmpty then
      if !(← Act.ofExcept (checkAll g (← get) item.takeWhen)).passed then
        return ← refusal item s!"You can't take the {item.name.display} right now."
    modify (·.addItem item.id)
    match item.onTake with
    | some effects => applyEffects g (some effects)
    | none => globalPass g
    if item.onTakeText.isPresent then return ← renderText g item.onTakeText
    return s!"You pick up the {item.name.display}."

/-- The dialogue lines whose conditions pass in `s`, in order, with the gates they offer; the
conditions are evaluated line by line, and the first that fails to evaluate is the fault. -/
def offeredLines (g : Game) (s : GameState) :
    List DialogueLine → Except Fault (List (DialogueLine × List Value))
  | [] => .ok []
  | line :: rest => do
    let outcome ← checkAll g s line.when
    let others ← offeredLines g s rest
    return if outcome.passed then (line, outcome.marks) :: others else others

/-- The dialogue lines of a character whose conditions pass, with their gates. -/
def availableLines (g : Game) (npc : Npc) : Act (List (DialogueLine × List Value)) := do
  Act.ofExcept (offeredLines g (← get) npc.dialogue)

/-- The lines a character offers, numbered from one, and how to choose one: `asked` is the
character as the player named them, in lower case. -/
def talkMenu (npc : Npc) (lines : List (DialogueLine × List Value)) (asked : String) : String :=
  let numbered := lines.zipIdx.map fun ((line, _), i) =>
    s!"{i + 1}. \"{line.playerLine.display}\""
  let menu := [s!"You approach {npc.name.display}.", "", "What would you like to say?", ""] ++
    numbered ++ ["", s!"(Use: talk {asked} [number] to choose)"]
  "\n".intercalate menu

/-- Talks to the character the words name: lists what the player can say. -/
def talk (g : Game) (words : Value) : Act String := do
  tick
  if (← get).ended then return ← ending g
  match ← Act.ofExcept (npcNamed g (← get) words) with
  | none => return s!"There's no one called \"{words.display}\" here to talk to."
  | some npc =>
    let lines ← availableLines g npc
    if lines.isEmpty then return s!"{npc.name.display} has nothing more to say."
    let asked ← Act.ofExcept (lowerOf words)
    return talkMenu npc lines asked

/-- The position in a list of `count` entries that an option chooses, counted from one; an
option outside the range is `none`, and an option that is no whole number is a fault. -/
def optionIndex (option : Value) (count : Nat) : Except Fault (Option Nat) :=
  match option.num? with
  | none => .error .wrongKind
  | some n =>
    if n.lt (.int 1) || (Num.int count).lt n then .ok none
    else
      match option with
      | .int i => .ok (some (i - 1).toNat)
      | .bool _ => .ok (some 0)
      | _ => .error .wrongKind

/-- Says a chosen line: uses the gates its conditions offered, answers its response after the
player's words, and carries out what the line does. -/
def sayLine (g : Game) (line : DialogueLine) (marks : List Value) : Act String := do
  let wasWon := (← get).won
  modify (·.commitMarks marks)
  let said := s!"You: \"{line.playerLine.display}\"\n\n"
  let mut response := said ++ (← renderText g line.response)
  if line.setsFlag.truthy then
    let s ← get
    set { s with flags := ← Act.ofExcept (s.flags.insert line.setsFlag (.bool true)) }
  if line.givesItem.truthy then modify (·.addItem line.givesItem)
  applyEffects g line.effects
  let s ← get
  if !wasWon && s.won then
    response := response ++
      s!"\n\nYou feel a quiet certainty settle in.\n\nTurns taken: {s.turns.display}"
  return response

/-- Says the line of the character's list that the option chooses. -/
def talkOption (g : Game) (words : Value) (option : Value) : Act String := do
  tick
  if (← get).ended then return ← ending g
  match ← Act.ofExcept (npcNamed g (← get) words) with
  | none => return s!"There's no one called \"{words.display}\" here to talk to."
  | some npc =>
    let lines ← availableLines g npc
    match ← Act.ofExcept (optionIndex option lines.length) with
    | none =>
      return s!"Invalid dialogue option. Please choose a number from 1-{lines.length}."
    | some k =>
      let (line, marks) := lines.getD k default
      sayLine g line marks

/-- The item that the words name for using: an exact match in the open, then an exact match
carried, then a partial match carried, then a partial match in the open. -/
def resolveActor (g : Game) (words : Value) : Act (Option Item) := do
  let s ← get
  let room ← Act.ofExcept (currentRoom g s)
  let visible := openItems room s
  let carried ← Act.ofExcept (carriedItems g s)
  if let some i ← Act.ofExcept (exactItem visible words) then return some i
  if let some i ← Act.ofExcept (exactItem carried words) then return some i
  if let some i ← Act.ofExcept (itemCarried g s words) then return some i
  Act.ofExcept (itemInOpen g s words)

/-- The item that the target words of a use name: one in the open, else a carried one; none
without target words. -/
def useTarget (g : Game) (s : GameState) (targetWords : Value) : Except Fault (Option Item) :=
  if targetWords.truthy then do
    match ← itemInOpen g s targetWords with
    | some t => pure (some t)
    | none => itemCarried g s targetWords
  else pure none

/-- The action for using `item` on `target`: the item's own, else the target's with the roles
swapped. -/
def chooseEither (g : Game) (s : GameState) (item : Item) (target : Option Item) (number : Value) :
    Except Fault (Option UseChoice) := do
  match ← chooseAction g s item target number with
  | some c => pure (some c)
  | none =>
    match target with
    | some t => chooseAction g s t (some item) number
    | none => pure none

/-- How a refused use names its target: ` on` and the target words, or nothing without them. -/
def onTargetText (targetWords : Value) : String :=
  if targetWords.truthy then s!" on {targetWords.display}" else ""

/-- Uses the item the words name, on a target and with a number when given (null when not). -/
def use (g : Game) (words : Value) (targetWords : Value) (number : Value) : Act String := do
  tick
  if (← get).ended then return ← ending g
  match ← resolveActor g words with
  | none => return s!"You don't see any \"{words.display}\" to use."
  | some item =>
    let target ← Act.ofExcept (useTarget g (← get) targetWords)
    let wasWon := (← get).won
    let choice ← Act.ofExcept (chooseEither g (← get) item target number)
    match choice with
    | none => return s!"You're not sure how to use the {item.name.display}{onTargetText targetWords}."
    | some c =>
      modify (·.commitMarks c.marks)
      applyEffects g c.action.effects
      let room ← Act.ofExcept (currentRoom g (← get))
      let _ ← roomTriggers g room.triggers
      let response ← renderText g c.action.response
      if !wasWon && (← get).won then return ← ending g
      return response

/-- What the player carries. -/
def inventory (g : Game) : Act String := do
  if (← get).ended then return ← ending g
  let items ← Act.ofExcept (carriedItems g (← get))
  if items.isEmpty then return "You're not carrying anything."
  let lines ← items.mapM fun i => pure s!"- {i.name.display}"
  return "You are carrying:\n" ++ "\n".intercalate lines

/-- The first hint whose conditions pass; its gates are not used. -/
def hint (g : Game) : Act String := do
  tick
  if (← get).ended then return ← ending g
  for h in g.hints do
    if (← Act.ofExcept (checkAll g (← get) h.when)).passed then
      return ← renderText g h.text
  return "No hint comes to mind right now."

/-- The status as data: room name and id, carried item names, turns, ending marks, flags. -/
def status (g : Game) : Act Value := do
  let s ← get
  let room ← Act.ofExcept (currentRoom g s)
  let items ← Act.ofExcept (carriedItems g s)
  return .obj [("room", room.name), ("roomId", s.room), ("inventory", .arr (items.map (·.name))),
    ("turns", s.turns), ("gameOver", .bool s.ended), ("won", .bool s.won),
    ("flags", s.flags.toValue)]

/-- The status as lines of text. -/
def statusMessage (g : Game) : Act String := do
  if (← get).ended then return ← ending g
  let s ← get
  let items ← Act.ofExcept (carriedItems g s)
  let room ← Act.ofExcept (currentRoom g s)
  let carried ← if items.isEmpty then pure "empty"
    else Act.ofExcept (joinTexts ", " (items.map (·.name)))
  let wonText := if s.won then "yes" else "no"
  return "\n".intercalate [s!"Location: {room.name.display}", s!"Turns: {s.turns.display}",
    s!"Inventory: {carried}", s!"Won: {wonText}"]

end Adventure.Play
