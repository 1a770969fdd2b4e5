import Adventure.Shelf.Basic
import Adventure.Proofs.Story.Validation

/-! The lighthouse as reading its content gives it: it passes the schema and the reference checks,
and a checked session on it opens at the jetty. -/

namespace Adventure.Lighthouse

open Story Play

/-- The fish crate on the jetty, fixed in place. -/
def crate : Item where
  id := .str "crate"
  name := .str "fish crate"
  description := .plain "A crate that smells of herring."
  examineText := .plain "An old fish crate. Something glints between the slats."
  takeable := .bool false
  aliases := [.str "crate", .str "box"]
  location := .null
  takeWhen := []
  takeBlocked := .null
  onTake := none
  onTakeText := .none
  useActions := []

/-- The box of matches, lying in the crate. -/
def matchbox : Item where
  id := .str "matches"
  name := .str "box of matches"
  description := .plain "A damp box of matches."
  examineText := .plain "A box of matches. A few still look dry."
  takeable := .bool true
  aliases := [.str "matches"]
  location := .str "crate"
  takeWhen := []
  takeBlocked := .null
  onTake := none
  onTakeText := .none
  useActions := []

/-- The keeper on the jetty, who gives the brass key. -/
def keeper : Npc where
  id := .str "keeper"
  name := .str "Old Keeper"
  description := .str "The old keeper huddles under an oilskin, nursing a twisted ankle."
  dialogue := [
    ⟨.str "What happened to the light?",
      .plain "Wind blew the flame out and I fell on the stairs. The lamp wants oil and a flame.",
      [.leaf .once (.str "talk.keeper.lamp") .null], none, .null, .null⟩,
    ⟨.str "Do you have a key to the tower?", .plain "Spare key's on my belt. Take it, and hurry.",
      [.leaf .lacks (.str "brass-key") .null], some [⟨.addItem, .str "brass-key", .null⟩], .null,
      .null⟩,
    ⟨.str "Will the storm last?", .plain "Till dawn, I reckon.",
      [.leaf .once (.str "talk.keeper.storm") .null], none, .null, .null⟩]
  aliases := [.str "keeper", .str "old man"]

/-- The jetty, where the game starts; its door to the tower is locked by the brass key. -/
def jetty : Room where
  id := .str "jetty"
  name := .str "Stone Jetty"
  description := .passage ⟨[
    ⟨.str "Waves slap against the jetty. The lighthouse door stands to the north.", [], .int 0,
      .null⟩,
    ⟨.str "The lighthouse tower is dark against the clouds.",
      [.leaf .falsy (.str "LAMP_LIT") .null], .int 0, .str "tower"⟩,
    ⟨.str "The beam sweeps over your head.", [.leaf .truthy (.str "LAMP_LIT") .null], .int 0,
      .str "tower"⟩,
    ⟨.str "You have been out here a while now; your coat is soaked through.",
      [.leaf .gt (.str "turnCount") (.int 10)], .int 0, .null⟩], .str "jetty-desc"⟩
  items := [crate, matchbox]
  npcs := [keeper]
  exits := [⟨.str "tower", [.str "north", .str "n", .str "door"], .bool true, .str "brass-key",
    [], .plain "The lighthouse door is locked.", .null⟩]
  triggers := []

/-- The brass key, hanging on the keeper's spare belt. -/
def brassKey : Item where
  id := .str "brass-key"
  name := .str "brass key"
  description := .plain "A heavy brass key."
  examineText := .plain "The keeper's spare key, warm from his belt."
  takeable := .bool true
  aliases := [.str "key"]
  location := .str "keeper-belt"
  takeWhen := []
  takeBlocked := .null
  onTake := none
  onTakeText := .none
  useActions := []

/-- The hook of the keeper's spare belt. -/
def keeperBelt : Item where
  id := .str "keeper-belt"
  name := .str "spare belt"
  description := .plain "A hook for the keeper's spare belt."
  examineText := .plain "An empty hook."
  takeable := .bool false
  aliases := [.str "hook"]
  location := .null
  takeWhen := []
  takeBlocked := .null
  onTake := none
  onTakeText := .none
  useActions := []

/-- The oil can. -/
def oilCan : Item where
  id := .str "oil-can"
  name := .str "oil can"
  description := .plain "A dented can for carrying lamp oil."
  examineText := .plain "A dented oil can with a long spout."
  takeable := .bool true
  aliases := [.str "can"]
  location := .null
  takeWhen := []
  takeBlocked := .null
  onTake := none
  onTakeText := .none
  useActions := []

/-- The tower stairs, whose first climb is marked. -/
def tower : Room where
  id := .str "tower"
  name := .str "Tower Stairs"
  description :=
    .plain "An iron staircase spirals up into the gloom. Barrels of lamp oil line the wall."
  items := [brassKey, keeperBelt, oilCan]
  npcs := []
  exits := [
    ⟨.str "jetty", [.str "south", .str "s", .str "out"], .bool false, .null, [], .none, .null⟩,
    ⟨.str "lamp-room", [.str "up", .str "u", .str "stairs"], .bool false, .null, [], .none,
      .null⟩]
  triggers := [⟨[.leaf .once (.str "event.tower_entered") .null],
    [⟨.set, .str "SEEN_TOWER", .bool true⟩], .str "first-climb",
    .plain "Your footsteps ring on the iron stairs."⟩]

/-- The great lamp: oil is poured while there are fewer than two measures, and a match lights
it, winning the game, once it is ready. -/
def lamp : Item where
  id := .str "lamp"
  name := .str "great lamp"
  description := .plain "The lighthouse lamp."
  examineText := .plain "A brass reservoir feeds the wick. It takes two measures of oil."
  takeable := .bool false
  aliases := [.str "lamp", .str "reservoir"]
  location := .null
  takeWhen := []
  takeBlocked := .null
  onTake := none
  onTakeText := .none
  useActions := [
    ⟨.plain "You pour a measure of oil into the reservoir.", .str "oil-can", .null, .bool false,
      [.leaf .lt (.str "oil") (.int 2)], some [⟨.add, .str "oil", .int 1⟩]⟩,
    ⟨.plain "The reservoir is already full.", .str "oil-can", .null, .bool false, [], none⟩,
    ⟨.plain "The wick catches.", .str "matches", .null, .bool false,
      [.leaf .truthy (.str "LAMP_READY") .null],
      some [⟨.set, .str "LAMP_LIT", .bool true⟩, ⟨.set, .str "won", .bool true⟩,
        ⟨.set, .str "gameOver", .bool true⟩]⟩,
    ⟨.plain "There is not enough oil to hold a flame.", .str "matches", .null, .bool false, [],
      none⟩]

/-- The rotation dial. -/
def dial : Item where
  id := .str "dial"
  name := .str "rotation dial"
  description := .plain "A brass dial that sets the beam's rotation."
  examineText := .plain "A dial numbered 1 to 12. The boats know the signal as 7."
  takeable := .bool false
  aliases := [.str "dial"]
  location := .null
  takeWhen := []
  takeBlocked := .null
  onTake := none
  onTakeText := .none
  useActions := [
    ⟨.plain "The dial clicks to 7. The lens begins to turn.", .null, .int 7, .bool false, [],
      some [⟨.set, .str "ROTATION", .int 7⟩]⟩,
    ⟨.plain "The dial clicks, but that is not the signal the boats know.", .null, .null,
      .bool true, [], none⟩]

/-- The lamp room at the top of the tower. -/
def lampRoom : Room where
  id := .str "lamp-room"
  name := .str "Lamp Room"
  description := .passage ⟨[
    ⟨.str "The great lamp sits behind thick lenses, cold and dark.",
      [.leaf .falsy (.str "LAMP_LIT") .null], .int 0, .null⟩,
    ⟨.str "The lamp blazes behind its lenses.", [.leaf .truthy (.str "LAMP_LIT") .null], .int 1,
      .null⟩,
    ⟨.str "Its reservoir is full.", [.leaf .gte (.str "oil") (.int 2)], .int 0,
      .str "reservoir"⟩,
    ⟨.str "Its reservoir is almost dry.", [.leaf .lt (.str "oil") (.int 2)], .int 0,
      .str "reservoir"⟩], .str "lamp-desc"⟩
  items := [lamp, dial]
  npcs := []
  exits := [⟨.str "tower", [.str "down", .str "d", .str "stairs"], .bool false, .null, [], .none,
    .null⟩]
  triggers := []

/-- The trigger that readies the lamp once it holds two measures of oil. -/
def lampReady : Trigger :=
  ⟨[.leaf .gte (.str "oil") (.int 2), .leaf .once (.str "event.lamp_ready") .null],
    [⟨.set, .str "LAMP_READY", .bool true⟩], .str "lamp-ready", .none⟩

/-- The lighthouse, as the engine reads it from its content. -/
def game : Game where
  id := .str "lighthouse"
  name := .str "The Dark Lighthouse"
  version := .str "1.0.0"
  rooms := [jetty, tower, lampRoom]
  startingRoom := .str "jetty"
  intro := .plain ("The storm has blown out the lighthouse lamp. Somewhere out there the boats " ++
    "are waiting for its beam.")
  winMessage := .plain ("The great lamp blazes across the water. One by one the boats turn for " ++
    "home. You relit the light in \x7bturns\x7d turns.")
  initialFlags := ⟨[(.str "LAMP_LIT", .bool false), (.str "oil", .int 0)]⟩
  hints := [
    ⟨.str "hint-keeper", .plain "The keeper on the jetty might know where the spare key is.",
      [.leaf .lacks (.str "brass-key") .null]⟩,
    ⟨.str "hint-oil", .plain "The lamp needs oil. Two measures should do it.",
      [.leaf .lt (.str "oil") (.int 2)]⟩,
    ⟨.str "hint-light", .plain "Strike a match at the lamp.", [.leaf .gte (.str "oil") (.int 2)]⟩]
  globalTriggers := [lampReady]
  description := .str "Relight the lamp before the fishing boats come home."

-- Reading the content and checking its references run to the end on closed terms; their
-- recursion is deeper than the default limit.
set_option maxRecDepth 100000 in
/-- Reading the lighthouse's content gives `game`. -/
theorem readGame_content : readGame Shelf.Lighthouse.content = .ok game := by
  rfl

/-- The lighthouse's content passes the game schema. The check runs in the kernel, on a test that
the result is a success with no problems. -/
theorem issues_content : Schema.gameDocument.issues Shelf.Lighthouse.content = .ok [] := by
  have h : (Schema.gameDocument.issues Shelf.Lighthouse.content).toOption.map List.isEmpty =
      some true := by
    decide +kernel
  revert h
  cases Schema.gameDocument.issues Shelf.Lighthouse.content with
  | ok issues => cases issues <;> intro h <;> first | rfl | cases h
  | error e => intro h; cases h

set_option maxRecDepth 100000 in
/-- The references of the lighthouse hold. -/
theorem referenceIssues_game : referenceIssues game = .ok [] := by
  rfl

/-- Checking the lighthouse's content gives `game`. -/
theorem validateGame_content : validateGame Shelf.Lighthouse.content = .ok game := by
  rw [validateGame_of_passes issues_content readGame_content referenceIssues_game]
  rfl

/-- The objects of the lighthouse's content have fields of distinct names. -/
theorem keysDistinct_content : Shelf.Lighthouse.content.keysDistinct = true := by
  decide +kernel

/-- The lighthouse opens, checked, on a fresh state at the jetty. -/
theorem start_content : Session.start Shelf.Lighthouse.content false .fresh =
    .ok ⟨Shelf.Lighthouse.content, false, game, GameState.initial (.str "jetty") game.initialFlags⟩ := by
  simp only [Session.start, openSession_checked keysDistinct_content, validateGame_content,
    bind, Except.bind, Except.map, pure, Except.pure]
  rfl

end Adventure.Lighthouse
