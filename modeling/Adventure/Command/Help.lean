import Adventure.Command.Similar

/-! The commands with their usage and description; help on an unknown topic suggests up to three
commands of similar name. -/

namespace Adventure.Command

/-- A command's name, usage and description. -/
structure CommandInfo where
  name : String
  usage : String
  description : String

/-- The commands, in the order they are listed. -/
def commands : List CommandInfo := [
  ⟨"look", "look [thing]", "Describe the room, or look at something in it."⟩,
  ⟨"go", "go <direction|room>", "Move through an exit (north, up, door, ...)."⟩,
  ⟨"take", "take <item>", "Pick up an item in the room."⟩,
  ⟨"examine", "examine <thing>", "Look closely at an item or person."⟩,
  ⟨"use", "use <item> [on <target>] [number]",
    "Use an item, optionally on another item or with a number."⟩,
  ⟨"talk", "talk <npc> [number]", "List what you can say to someone, or pick a line."⟩,
  ⟨"inventory", "inventory | inv", "Show what you are carrying."⟩,
  ⟨"hint", "hint", "Ask for a nudge in the right direction."⟩,
  ⟨"status", "status", "Show location, turns and inventory."⟩,
  ⟨"save", "save [slot]", "Save the current game. Default: quicksave."⟩,
  ⟨"load", "load [slot]", "Load a saved game. Default: quicksave."⟩,
  ⟨"saves", "saves", "List available saves."⟩,
  ⟨"help", "help [command]", "List all commands, or show usage of one."⟩,
  ⟨"quit", "quit | exit", "Leave the game."⟩]

/-- The usage of the command `name`. -/
def usageOf (name : String) : String :=
  ((commands.find? (·.name == name)).map (·.usage)).getD ""

/-- `s` padded with spaces to `width` characters. -/
def padRight (s : String) (width : Nat) : String :=
  s ++ String.ofList (List.replicate (width - s.length) ' ')

/-- The lines of the command list: a heading, then each usage padded to the longest and its
description. -/
def helpLines : List String :=
  let width := (commands.map (·.usage.length)).foldl max 0
  "Available commands:" :: commands.map fun c => s!" {padRight c.usage width}  - {c.description}"

/-- Help on one topic: the usage and description of a command, or suggestions. -/
def helpTopic (topic : String) : String :=
  match commands.find? (·.name == topic) with
  | some c => s!"Usage: {c.usage}\n{c.description}"
  | none =>
    let close := closeMatches topic (commands.map (·.name)) 3
    if close.isEmpty then s!"Unknown command '{topic}'."
    else
      let listed := ", ".intercalate close
      s!"Unknown command '{topic}'. Did you mean: {listed}"

end Adventure.Command
