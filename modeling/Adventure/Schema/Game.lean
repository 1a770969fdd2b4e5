import Adventure.Schema.Basic

/-! The schemas of a game definition, of a play state snapshot, and of a save's facts. -/

namespace Adventure.Schema

/-- A schema of keywords. -/
def kw (ks : List Keyword) : Shape := .keywords ks

/-- A schema that asks for one kind. -/
def ofKind (k : Kind) : Shape := kw [.type [k]]

/-- A path: a nonempty text. -/
def pathSchema : Shape := kw [.type [.string], .minLength 1]

/-- A scalar: a text, a number or a truth value. -/
def scalarSchema : Shape := kw [.type [.string, .number, .boolean]]

/-- An object with exactly the one field `key`, holding `payload`. -/
def single (key : String) (payload : Shape) : Shape :=
  kw [.type [.object], .required [key], .properties [(key, payload)], .noAdditionalProperties]

/-- A list of exactly two values, of the given schemas. -/
def pair (first second : Shape) : Shape :=
  kw [.type [.array], .itemsEach [first, second], .minItems 2, .maxItems 2]

/-- A list of values of one schema. -/
def listOf (s : Shape) : Shape := kw [.type [.array], .items s]

/-- A list of conditions. -/
def conditionList : Shape := listOf (.ref "condition")

/-- A list of effects. -/
def effectList : Shape := listOf (.ref "effect")

/-- A text. -/
def textSchema : Shape := .ref "text"

/-- The schema of a game definition. -/
def gameDocument : Document where
  definitions := [
    ("condition", kw [.oneOf [
      single "eq" (pair pathSchema scalarSchema),
      single "ne" (pair pathSchema scalarSchema),
      single "gt" (pair pathSchema (ofKind .number)),
      single "gte" (pair pathSchema (ofKind .number)),
      single "lt" (pair pathSchema (ofKind .number)),
      single "lte" (pair pathSchema (ofKind .number)),
      single "truthy" pathSchema,
      single "falsy" pathSchema,
      single "has" pathSchema,
      single "lacks" pathSchema,
      single "present" pathSchema,
      single "absent" pathSchema,
      single "once" pathSchema,
      single "is_at" (pair pathSchema pathSchema),
      single "and" conditionList,
      single "or" conditionList,
      single "not" (.ref "condition")]]),
    ("effect", kw [.oneOf [
      single "set" (pair pathSchema scalarSchema),
      single "add" (pair pathSchema (ofKind .number)),
      single "subtract" (pair pathSchema (ofKind .number)),
      single "consume" pathSchema,
      single "markOnce" pathSchema,
      single "addItem" (ofKind .string),
      single "removeItem" (ofKind .string)]]),
    ("fragment", kw [.type [.object], .required ["say"], .properties [
      ("say", ofKind .string),
      ("when", conditionList),
      ("priority", ofKind .number),
      ("group", ofKind .string)]]),
    ("text", kw [.oneOf [
      ofKind .string,
      kw [.type [.object], .required ["fragments"], .properties [
        ("id", ofKind .string),
        ("fragments", listOf (.ref "fragment"))]]]]),
    ("trigger", kw [.type [.object], .required ["when", "effects"], .properties [
      ("id", ofKind .string),
      ("when", conditionList),
      ("effects", effectList),
      ("message", textSchema)]]),
    ("useAction", kw [.type [.object], .required ["response"], .properties [
      ("targetId", ofKind .string),
      ("number", ofKind .number),
      ("numberAny", ofKind .boolean),
      ("requires", conditionList),
      ("response", textSchema),
      ("effects", effectList)]]),
    ("item", kw [.type [.object],
      .required ["id", "name", "description", "examineText", "takeable"], .properties [
      ("id", kw [.type [.string], .minLength 1]),
      ("name", ofKind .string),
      ("description", textSchema),
      ("examineText", textSchema),
      ("takeable", ofKind .boolean),
      ("aliases", listOf (ofKind .string)),
      ("location", ofKind .string),
      ("takeWhen", conditionList),
      ("takeBlockedText", ofKind .string),
      ("onTake", effectList),
      ("onTakeText", textSchema),
      ("useActions", listOf (.ref "useAction"))]]),
    ("dialogueLine", kw [.type [.object], .required ["playerLine", "response"], .properties [
      ("when", conditionList),
      ("playerLine", ofKind .string),
      ("response", textSchema),
      ("effects", effectList),
      ("setsFlag", ofKind .string),
      ("givesItem", ofKind .string)]]),
    ("npc", kw [.type [.object], .required ["id", "name", "description", "dialogue"],
      .properties [
      ("id", kw [.type [.string], .minLength 1]),
      ("name", ofKind .string),
      ("description", ofKind .string),
      ("dialogue", listOf (.ref "dialogueLine")),
      ("aliases", listOf (ofKind .string))]]),
    ("exit", kw [.type [.object], .required ["targetRoomId"], .properties [
      ("targetRoomId", ofKind .string),
      ("aliases", listOf (ofKind .string)),
      ("direction", ofKind .string),
      ("locked", ofKind .boolean),
      ("requiredItem", ofKind .string),
      ("description", ofKind .string),
      ("requires", conditionList),
      ("blockedMessage", textSchema)]]),
    ("room", kw [.type [.object],
      .required ["id", "name", "description", "items", "npcs", "exits"], .properties [
      ("id", kw [.type [.string], .minLength 1]),
      ("name", ofKind .string),
      ("description", textSchema),
      ("items", listOf (.ref "item")),
      ("npcs", listOf (.ref "npc")),
      ("exits", listOf (.ref "exit")),
      ("triggers", listOf (.ref "trigger"))]]),
    ("hint", kw [.type [.object], .required ["id", "text"], .properties [
      ("id", ofKind .string),
      ("text", textSchema),
      ("when", conditionList)]])]
  root := kw [.type [.object],
    .required ["id", "name", "version", "rooms", "startingRoom", "initialFlags", "introText",
      "winMessage", "hints"],
    .properties [
      ("id", ofKind .string),
      ("name", ofKind .string),
      ("version", ofKind .string),
      ("description", ofKind .string),
      ("rooms", kw [.type [.array], .minItems 1, .items (.ref "room")]),
      ("startingRoom", ofKind .string),
      ("initialFlags", kw [.type [.object], .additionalProperties scalarSchema]),
      ("introText", textSchema),
      ("winMessage", textSchema),
      ("hints", listOf (.ref "hint")),
      ("globalTriggers", listOf (.ref "trigger"))]]

/-- The schema of a play state snapshot. -/
def stateDocument : Document where
  definitions := []
  root := kw [.type [.object], .properties [
    ("currentRoomId", ofKind .string),
    ("inventoryIds", listOf (ofKind .string)),
    ("takenItemIds", listOf (ofKind .string)),
    ("flags", kw [.type [.object], .additionalProperties scalarSchema]),
    ("visitedRooms", listOf (ofKind .string)),
    ("gameOver", ofKind .boolean),
    ("won", ofKind .boolean),
    ("turnCount", ofKind .number),
    ("once", listOf (ofKind .string))]]

/-- The schema of what a save records about itself. -/
def saveInfoDocument : Document where
  definitions := []
  root := kw [.type [.object], .properties [
    ("version", kw [.type [.integer], .minimum 0]),
    ("game_id", ofKind .string)]]

end Adventure.Schema
