import Adventure.Story.World
import Adventure.Json.Writer

/-! A game written back as data, one object per part. -/

namespace Adventure.Story

open Adventure.Json

/-- Flags as an object, each key named by its display text (`None`, `True`, `1.5`). -/
def Flags.toValue (fl : Flags) : Value :=
  .obj (fl.entries.map fun (k, v) => (k.display, v))

/-- Flags as an object of the data format, each key named as a field name of that format
(`null`, `true`, `1.5`). -/
def Flags.toData (fl : Flags) : Value :=
  .obj (fl.entries.map fun (k, v) => ((keyName? k).getD k.display, v))

mutual
/-- A condition as data. -/
def Condition.toValue : Condition → Value
  | .leaf t p v => .obj [("op", .str t.name), ("path", p), ("value", v), ("children", .arr [])]
  | .all cs => .obj [("op", .str "and"), ("path", .null), ("value", .null),
      ("children", .arr (conditionsToValue cs))]
  | .any cs => .obj [("op", .str "or"), ("path", .null), ("value", .null),
      ("children", .arr (conditionsToValue cs))]
  | .negate c => .obj [("op", .str "not"), ("path", .null), ("value", .null),
      ("children", .arr [c.toValue])]

/-- Conditions as data. -/
def conditionsToValue : List Condition → List Value
  | [] => []
  | c :: cs => c.toValue :: conditionsToValue cs
end

/-- An effect as data. -/
def Effect.toValue (e : Effect) : Value :=
  .obj [("op", .str e.change.name), ("path", e.path), ("value", e.value)]

/-- Effects as data. -/
def effectsToValue (es : List Effect) : Value := .arr (es.map Effect.toValue)

/-- Effects that may be absent, as data. -/
def declaredToValue : Option (List Effect) → Value
  | none => .null
  | some es => effectsToValue es

/-- A list of conditions as data. -/
def whenToValue (cs : List Condition) : Value := .arr (conditionsToValue cs)

/-- A text as data. -/
def Text.toValue : Text → Value
  | .none => .null
  | .plain s => .str s
  | .passage p => .obj [
      ("fragments", .arr (p.fragments.map fun f => .obj [("say", f.say),
        ("when", whenToValue f.when), ("priority", f.priority), ("group", f.group)])),
      ("id", p.id)]

/-- A trigger as data. -/
def Trigger.toValue (t : Trigger) : Value :=
  .obj [("when", whenToValue t.when), ("effects", effectsToValue t.effects), ("id", t.id),
    ("message", t.message.toValue)]

/-- A use action as data. -/
def UseAction.toValue (a : UseAction) : Value :=
  .obj [("response", a.response.toValue), ("target_id", a.target), ("number", a.number),
    ("number_any", a.anyNumber), ("requires", whenToValue a.requires),
    ("effects", declaredToValue a.effects)]

/-- An item as data. -/
def Item.toValue (i : Item) : Value :=
  .obj [("id", i.id), ("name", i.name), ("description", i.description.toValue),
    ("examine_text", i.examineText.toValue), ("takeable", i.takeable),
    ("aliases", .arr i.aliases), ("location", i.location), ("take_when", whenToValue i.takeWhen),
    ("take_blocked_text", i.takeBlocked), ("on_take", declaredToValue i.onTake),
    ("on_take_text", i.onTakeText.toValue), ("use_actions", .arr (i.useActions.map (·.toValue)))]

/-- A dialogue line as data. -/
def DialogueLine.toValue (d : DialogueLine) : Value :=
  .obj [("player_line", d.playerLine), ("response", d.response.toValue),
    ("when", whenToValue d.when), ("effects", declaredToValue d.effects),
    ("sets_flag", d.setsFlag), ("gives_item", d.givesItem)]

/-- A character as data. -/
def Npc.toValue (n : Npc) : Value :=
  .obj [("id", n.id), ("name", n.name), ("description", n.description),
    ("dialogue", .arr (n.dialogue.map (·.toValue))), ("aliases", .arr n.aliases)]

/-- An exit as data. -/
def Exit.toValue (e : Exit) : Value :=
  .obj [("target_room_id", e.target), ("aliases", .arr e.aliases), ("locked", e.locked),
    ("required_item", e.requiredItem), ("requires", whenToValue e.requires),
    ("blocked_message", e.blockedMessage.toValue), ("description", e.description)]

/-- A room as data. -/
def Room.toValue (r : Room) : Value :=
  .obj [("id", r.id), ("name", r.name), ("description", r.description.toValue),
    ("items", .arr (r.items.map (·.toValue))), ("npcs", .arr (r.npcs.map (·.toValue))),
    ("exits", .arr (r.exits.map (·.toValue))), ("triggers", .arr (r.triggers.map (·.toValue)))]

/-- A hint as data. -/
def Hint.toValue (h : Hint) : Value :=
  .obj [("id", h.id), ("text", h.text.toValue), ("when", whenToValue h.when)]

/-- A game as data. -/
def Game.toValue (g : Game) : Value :=
  .obj [("id", g.id), ("name", g.name), ("version", g.version),
    ("rooms", .arr (g.rooms.map (·.toValue))), ("starting_room", g.startingRoom),
    ("intro_text", g.intro.toValue), ("win_message", g.winMessage.toValue),
    ("initial_flags", g.initialFlags.toValue), ("hints", .arr (g.hints.map (·.toValue))),
    ("global_triggers", .arr (g.globalTriggers.map (·.toValue))),
    ("description", g.description)]

end Adventure.Story
