import Adventure.Story.World
import Adventure.Value.Show

/-! The reference checks the schema cannot express, each problem reported as a line; ids compare
as set members. -/

namespace Adventure.Story

/-- Whether `x` is among the ids `ids`; an id that cannot be a set member is a fault. -/
def idAmong (x : Value) (ids : List Value) : Except Fault Bool :=
  if x.hashable then .ok (x.memberOf ids) else .error .wrongKind

/-- The room ids in order, with a line for each id met before. -/
def roomIdsWithDuplicates (rooms : List Room) : Except Fault (List Value × List String) :=
  rooms.foldlM (fun (ids, issues) room => do
    let seen ← idAmong room.id ids
    let issues := if seen then issues ++ [s!"duplicate room id \"{room.id.display}\""] else issues
    pure (if seen then ids else ids ++ [room.id], issues)) ([], [])

/-- The problems with the exits and items of one room. -/
def roomReferenceIssues (roomIds itemIds : List Value) (room : Room) :
    Except Fault (List String) := do
  let mut issues : List String := []
  for ex in room.exits do
    if !(← idAmong ex.target roomIds) then
      issues := issues ++
        [s!"exit targetRoomId \"{ex.target.display}\" does not exist in room \"{room.id.display}\""]
    if ex.requiredItem.truthy then
      if !(← idAmong ex.requiredItem itemIds) then
        issues := issues ++
          [s!"exit requiredItem \"{ex.requiredItem.display}\" does not exist in room \"{room.id.display}\""]
  for item in room.items do
    if item.location.truthy then
      if !(← idAmong item.location roomIds) then
        if !(← idAmong item.location itemIds) then
          issues := issues ++
            [s!"item location \"{item.location.display}\" does not exist for item \"{item.id.display}\" in room \"{room.id.display}\""]
  return issues

/-- Every reference problem of a game, in order. -/
def referenceIssues (g : Game) : Except Fault (List String) := do
  let (roomIds, duplicates) ← roomIdsWithDuplicates g.rooms
  let itemIds ← g.allItems.foldlM (fun ids item => do
    if ← idAmong item.id ids then pure ids else pure (ids ++ [item.id])) []
  let start ← if ← idAmong g.startingRoom roomIds then pure []
    else pure [s!"startingRoom \"{g.startingRoom.display}\" does not exist"]
  let rest ← g.rooms.mapM (roomReferenceIssues roomIds itemIds)
  return duplicates ++ start ++ rest.flatten

end Adventure.Story
