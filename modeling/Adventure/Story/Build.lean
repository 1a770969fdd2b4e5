import Adventure.Story.World
import Adventure.Value.Show

/-! Building a game from content field by field, in a fixed order; the first problem met stops
the reading and optional fields take their defaults. -/

namespace Adventure.Story

/-- A fault in the content of a game, with the common start of its message. -/
def invalidGame (message : String) : Fault := .invalidGame ("Invalid game definition: " ++ message)

/-- Inserts `x` after every member of the sorted list `ys` that is not above it. -/
def insertSorted (x : Value) : List Value → Except Fault (List Value)
  | [] => .ok [x]
  | y :: ys => do
    if ← x.lessThan y then pure (x :: y :: ys)
    else pure (y :: (← insertSorted x ys))

/-- Sorts values in increasing order, keeping equal values in their order. Values without a
common order are a fault. -/
def sortValues (xs : List Value) : Except Fault (List Value) :=
  xs.foldlM (fun acc x => insertSorted x acc) []

/-- The name and payload of a one-field object. `what` names the thing for the message when
the object has another number of fields. -/
def soleField (what : String) (v : Value) : Except Fault (String × Value) := do
  match v.size? with
  | none => throw .wrongKind
  | some n =>
    if n != 1 then
      let sorted ← sortValues (← v.members)
      throw (invalidGame s!"{what} must have exactly one key, got {(Value.arr sorted).literal}")
    else
      match v with
      | .obj [(k, payload)] => pure (k, payload)
      | _ => throw .noSuchOperation

/-- The path and value of a leaf: a list payload must be a pair, any other payload is the
path alone. -/
def pathAndValue (payload : Value) : Except Fault (Value × Value) :=
  match payload with
  | .arr [p, v] => pure (p, v)
  | .arr _ => throw .badValue
  | p => pure (p, .null)

/-- What a condition's field name stands for. -/
inductive ConditionKind where
  | test (t : Test)
  | both
  | either
  | negation

/-- The kind of condition a field name stands for. -/
def conditionKind? (key : String) : Option ConditionKind :=
  if key = "and" then some .both
  else if key = "or" then some .either
  else if key = "not" then some .negation
  else (Test.all.find? (·.name == key)).map .test

/-- Reads a condition; `fuel` bounds the nesting. -/
def conditionOf : Nat → Value → Except Fault Condition
  | 0, _ => throw .badValue
  | fuel + 1, v => do
    let (key, payload) ← soleField "condition" v
    match conditionKind? key with
    | none => throw (invalidGame s!"unknown condition '{key}'")
    | some .both => return .all (← (← payload.members).mapM (conditionOf fuel))
    | some .either => return .any (← (← payload.members).mapM (conditionOf fuel))
    | some .negation => return .negate (← conditionOf fuel payload)
    | some (.test t) =>
      let (p, w) ← pathAndValue payload
      return .leaf t p w

/-- Reads one condition of content. -/
def readCondition (v : Value) : Except Fault Condition := conditionOf (v.depth + 1) v

/-- Reads a list of conditions; a missing or empty list is no conditions. -/
def readConditions (raw : Value) : Except Fault (List Condition) := do
  if !raw.truthy then return []
  (← raw.members).mapM readCondition

/-- Reads one effect. -/
def readEffect (v : Value) : Except Fault Effect := do
  let (key, payload) ← soleField "effect" v
  match Change.all.find? (·.name == key) with
  | none => throw (invalidGame s!"unknown effect '{key}'")
  | some c =>
    let (p, w) ← pathAndValue payload
    return ⟨c, p, w⟩

/-- Reads a list of effects; a missing or empty list is no effects. -/
def readEffects (raw : Value) : Except Fault (List Effect) := do
  if !raw.truthy then return []
  (← raw.members).mapM readEffect

/-- Reads effects that may be left out: `none` when the field is absent or null. -/
def readDeclaredEffects (raw : Value) : Except Fault (Option (List Effect)) :=
  match raw with
  | .null => .ok none
  | _ => some <$> readEffects raw

/-- Reads a fragment of a passage. -/
def readFragment (f : Value) : Except Fault Fragment := do
  let say ← f.need "say"
  let when ← readConditions (← f.getOr "when" .null)
  let priority ← f.getOr "priority" (.int 0)
  let group ← f.getOr "group" .null
  return ⟨say, when, priority, if group.truthy then group else .null⟩

/-- Reads a text: null is no text, a text is plain, an object is a passage. -/
def readText (raw : Value) : Except Fault Text :=
  match raw with
  | .null => .ok .none
  | .str s => .ok (.plain s)
  | _ => do
    let fragments ← (← (← raw.getOr "fragments" (.arr [])).members).mapM readFragment
    return .passage ⟨fragments, ← raw.getOr "id" .null⟩

/-- Reads a trigger. -/
def readTrigger (t : Value) : Except Fault Trigger := do
  let when ← readConditions (← t.getOr "when" .null)
  let effects ← readEffects (← t.getOr "effects" .null)
  let id ← t.getOr "id" .null
  let message ← readText (← t.getOr "message" .null)
  return ⟨when, effects, id, message⟩

/-- Reads a use action. -/
def readUseAction (a : Value) : Except Fault UseAction := do
  let response ← readText (← a.need "response")
  let target ← a.getOr "targetId" .null
  let number ← a.getOr "number" .null
  let anyNumber ← a.getOr "numberAny" (.bool false)
  let requires ← readConditions (← a.getOr "requires" .null)
  let effects ← readDeclaredEffects (← a.getOr "effects" .null)
  return ⟨response, target, number, anyNumber, requires, effects⟩

/-- Reads an item; its use actions first. -/
def readItem (i : Value) : Except Fault Item := do
  let useActions ← (← (← i.getOr "useActions" (.arr [])).members).mapM readUseAction
  let onTake ← i.getOr "onTake" .null
  let id ← i.need "id"
  let name ← i.need "name"
  let description ← readText (← i.getOr "description" (.str ""))
  let examineText ← readText (← i.getOr "examineText" (.str ""))
  let takeable ← i.getOr "takeable" (.bool false)
  let aliases ← (← i.getOr "aliases" (.arr [])).members
  let location ← i.getOr "location" .null
  let takeWhen ← readConditions (← i.getOr "takeWhen" .null)
  let takeBlocked ← i.getOr "takeBlockedText" .null
  let onTake ← readDeclaredEffects onTake
  let onTakeText ← readText (← i.getOr "onTakeText" .null)
  return { id, name, description, examineText, takeable, aliases, location, takeWhen,
           takeBlocked, onTake, onTakeText, useActions }

/-- Reads a dialogue line. -/
def readDialogueLine (d : Value) : Except Fault DialogueLine := do
  let playerLine ← d.need "playerLine"
  let response ← readText (← d.need "response")
  let when ← readConditions (← d.getOr "when" .null)
  let effects ← readDeclaredEffects (← d.getOr "effects" .null)
  let setsFlag ← d.getOr "setsFlag" .null
  let givesItem ← d.getOr "givesItem" .null
  return ⟨playerLine, response, when, effects, setsFlag, givesItem⟩

/-- Reads a character; its dialogue first. -/
def readNpc (n : Value) : Except Fault Npc := do
  let dialogue ← (← (← n.getOr "dialogue" (.arr [])).members).mapM readDialogueLine
  let id ← n.need "id"
  let name ← n.need "name"
  let description ← n.getOr "description" (.str "")
  let aliases ← (← n.getOr "aliases" (.arr [])).members
  return ⟨id, name, description, dialogue, aliases⟩

/-- Reads an exit. An older form names the exit by a single `direction`, which joins the
aliases when it is not empty and not one of them already. -/
def readExit (e : Value) : Except Fault Exit := do
  let aliases ← (← e.getOr "aliases" (.arr [])).members
  let direction ← e.getOr "direction" .null
  let aliases := if direction.truthy && !direction.memberOf aliases then aliases ++ [direction]
    else aliases
  let target ← e.need "targetRoomId"
  let locked ← e.getOr "locked" (.bool false)
  let requiredItem ← e.getOr "requiredItem" .null
  let requires ← readConditions (← e.getOr "requires" .null)
  let blockedMessage ← readText (← e.getOr "blockedMessage" .null)
  let description ← e.getOr "description" .null
  return ⟨target, aliases, locked, requiredItem, requires, blockedMessage, description⟩

/-- Reads a room. -/
def readRoom (r : Value) : Except Fault Room := do
  let id ← r.need "id"
  let name ← r.need "name"
  let description ← readText (← r.getOr "description" (.str ""))
  let items ← (← (← r.getOr "items" (.arr [])).members).mapM readItem
  let npcs ← (← (← r.getOr "npcs" (.arr [])).members).mapM readNpc
  let exits ← (← (← r.getOr "exits" (.arr [])).members).mapM readExit
  let triggers ← (← (← r.getOr "triggers" (.arr [])).members).mapM readTrigger
  return ⟨id, name, description, items, npcs, exits, triggers⟩

/-- Reads a hint. -/
def readHint (h : Value) : Except Fault Hint := do
  let id ← h.getOr "id" (.str "")
  let text ← readText (← h.need "text")
  let when ← readConditions (← h.getOr "when" .null)
  return ⟨id, text, when⟩

/-- Reads a game, checking nothing beyond what reading needs. -/
def readGame (data : Value) : Except Fault Game := do
  let rooms ← (← (← data.getOr "rooms" (.arr [])).members).mapM readRoom
  let hints ← (← (← data.getOr "hints" (.arr [])).members).mapM readHint
  let id ← data.getOr "id" (.str "")
  let name ← data.getOr "name" (.str "")
  let version ← data.getOr "version" (.str "")
  let startingRoom ← data.getOr "startingRoom" (.str "")
  let intro ← readText (← data.getOr "introText" (.str ""))
  let winMessage ← readText (← data.getOr "winMessage" (.str ""))
  let initialFlags ← Flags.empty.update (← data.getOr "initialFlags" (.obj []))
  let globalTriggers ← (← (← data.getOr "globalTriggers" (.arr [])).members).mapM readTrigger
  let description ← data.getOr "description" .null
  return { id, name, version, rooms, startingRoom, intro, winMessage, initialFlags, hints,
           globalTriggers, description }

end Adventure.Story
