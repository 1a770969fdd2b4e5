import Adventure.Proofs.Lighthouse.Lamp
import Adventure.Proofs.Command.Dialogue
import Adventure.Proofs.Command.Verbs
import Adventure.Proofs.Play.Successes

/-! What each typed move of a walkthrough does from any state in step that is not won. -/

namespace Adventure.Lighthouse

open Std.Do Story Play Command Adventure.Text

set_option mvcgen.warning false

variable {s : GameState}

-----------------------------------------------------------------------------------------------
-- A turn of play in step
-----------------------------------------------------------------------------------------------

/-- A turn from a whole count adds one to it. -/
theorem tick_run_int {n : Int} (h : s.turns = .int n) :
    tick.run s = .ok () { s with turns := .int (n + 1) } :=
  tick_run_of_num (m := .int (n + 1)) (by rw [h]; rfl) rfl

/-- Counting a turn keeps the lighthouse state consistent. -/
theorem Consistent.ticked (hs : Consistent s) {n : Int} (hn : s.turns = .int n) :
    Consistent { s with turns := .int (n + 1) } :=
  hs.turn (n := .int n) (m := .int (n + 1)) (by rw [hn]; rfl) rfl

/-- The room the player is in, looked up by its id. -/
theorem currentRoom_of_mem (room : Room) (hroom : room ∈ game.rooms) (h : s.room = room.id) :
    currentRoom game s = .ok room := by
  simp only [game, List.mem_cons, List.not_mem_nil, or_false] at hroom
  unfold currentRoom findRoom
  rcases hroom with rfl | rfl | rfl <;> rw [h] <;> rfl

/-- A typed command that reads as an order runs it. -/
theorem runState_dispatch {cmd : String} {order : Order} (h : read cmd = .ok order) :
    runState (dispatch game cmd) s = runState (order.run game) s := by
  unfold runState
  rw [dispatch_run, h]

-----------------------------------------------------------------------------------------------
-- Going through the lighthouse
-----------------------------------------------------------------------------------------------

/-- The exits of the lighthouse have no conditions. -/
theorem exitNamed_requires {words : Value} {i : Nat} {ex : Exit}
    (h : exitNamed game s words = .ok (some (i, ex))) : ex.requires = [] := by
  obtain ⟨room, hroom, hex⟩ := exitNamed_exit h
  simp only [game, List.mem_cons, List.not_mem_nil, or_false] at hroom
  rcases hroom with rfl | rfl | rfl <;>
    simp only [jetty, tower, lampRoom, List.mem_cons, List.not_mem_nil, or_false] at hex <;>
    rcases hex with rfl | rfl <;> rfl

/-- Going through an open exit from a state in step that is not won moves the player to the room
the exit leads to, a turn later, and changes nothing else the lamp's story depends on. -/
theorem go_situation {w : String} {i : Nat} {ex : Exit} {n : Int} (hs : Consistent s)
    (hwon : s.won = false) (hn : s.turns = .int n)
    (hfound : exitNamed game s (.str w) = .ok (some (i, ex)))
    (hopen : exitBlockedIn game s ex = .ok false) :
    situation (runState (go game (.str w)) s) =
      { situation s with room := ex.target, turns := .int (n + 1) } := by
  have hended : s.ended = false := hs.ended.trans hwon
  have hclock : Condition.anyReadsTurnCount ex.requires = false := by
    rw [exitNamed_requires hfound]
    rfl
  have hrun := go_run_enters (tick_run_int hn) hended hfound
    ((exitBlockedIn_turns hclock s _).trans hopen)
  have hu : Consistent ({ ({ s with turns := .int (n + 1) } : GameState) with
      room := ex.target }.visit ex.target) :=
    ((hs.ticked hn).enter (by simp [hended]) (exitNamed_target hfound).1).visit _
  unfold runState
  rw [hrun]
  exact runState_of_triple (describeRoom_calm _ hu)

/-- Typing `go` and a way that names an open exit moves the player through it, a turn later. -/
theorem go_typed {way : String} {target : Value} (hs : Consistent s) (hwon : s.won = false)
    (hway : way.toList ≠ []) (hends : Unpadded way.toList)
    (hexit : ∃ i ex, exitNamed game s (.str way) = .ok (some (i, ex)) ∧
      exitBlockedIn game s ex = .ok false ∧ ex.target = target) :
    ∃ n : Int, situation (runState (dispatch game ("go" ++ " " ++ way)) s) =
      { situation s with room := target, turns := .int n } := by
  obtain ⟨n, hn⟩ := hs.turns
  obtain ⟨i, ex, hfound, hopen, rfl⟩ := hexit
  refine ⟨n + 1, ?_⟩
  rw [runState_dispatch (read_go hway hends)]
  simp only [Order.run, runState_map]
  exact go_situation hs hwon hn hfound hopen

/-- The door north of the jetty leads up to the stairs, and opens with the key. -/
theorem way_north (hroom : s.room = .str "jetty") (hkey : s.hasItem (.str "brass-key") = true) :
    ∃ i ex, exitNamed game s (.str "north") = .ok (some (i, ex)) ∧
      exitBlockedIn game s ex = .ok false ∧ ex.target = .str "tower" := by
  refine ⟨0, _, exitNamed_alias (currentRoom_of_mem jetty (by simp [game]) hroom)
    (show jetty.exits = [] ++ _ :: [] from rfl)
    ⟨by simp, by simp, by simp⟩ (trim_unpadded (unpadded_of_ends (by decide))), ?_, rfl⟩
  simp [exitBlockedIn, hkey, Value.truthy, pure, Except.pure]

/-- The stairs lead south, back to the jetty. -/
theorem way_south (hroom : s.room = .str "tower") :
    ∃ i ex, exitNamed game s (.str "south") = .ok (some (i, ex)) ∧
      exitBlockedIn game s ex = .ok false ∧ ex.target = .str "jetty" := by
  refine ⟨0, _, exitNamed_alias (currentRoom_of_mem tower (by simp [game]) hroom)
    (show tower.exits = [] ++ _ :: _ from rfl)
    ⟨by simp, by simp, by simp⟩ (trim_unpadded (unpadded_of_ends (by decide))), ?_, rfl⟩
  simp [exitBlockedIn, Value.truthy, pure, Except.pure]

/-- The stairs lead up to the lamp room; the way south, listed first, is not called up. -/
theorem way_up (hroom : s.room = .str "tower") :
    ∃ i ex, exitNamed game s (.str "up") = .ok (some (i, ex)) ∧
      exitBlockedIn game s ex = .ok false ∧ ex.target = .str "lamp-room" := by
  refine ⟨1, _, exitNamed_alias (currentRoom_of_mem tower (by simp [game]) hroom)
    (show tower.exits = [tower.exits.getD 0 default] ++ _ :: [] from rfl)
    ⟨by simp, by simp [tower], ?_⟩ (trim_unpadded (unpadded_of_ends (by decide))),
    ?_, rfl⟩
  · intro e he t ht
    simp only [List.mem_singleton] at he
    subst he
    simp only [tower, List.getD_cons_zero, List.mem_cons, List.not_mem_nil, or_false,
      Value.str.injEq] at ht
    rw [show lower "up" = "up" from lower_eq_self rfl]
    rcases ht with rfl | rfl | rfl <;> rw [lower_eq_self rfl] <;> decide
  · simp [exitBlockedIn, Value.truthy, pure, Except.pure]

/-- The lamp room leads down to the stairs. -/
theorem way_down (hroom : s.room = .str "lamp-room") :
    ∃ i ex, exitNamed game s (.str "down") = .ok (some (i, ex)) ∧
      exitBlockedIn game s ex = .ok false ∧ ex.target = .str "tower" := by
  refine ⟨0, _, exitNamed_alias (currentRoom_of_mem lampRoom (by simp [game]) hroom)
    (show lampRoom.exits = [] ++ _ :: _ from rfl)
    ⟨by simp, by simp, by simp⟩ (trim_unpadded (unpadded_of_ends (by decide))), ?_, rfl⟩
  simp [exitBlockedIn, Value.truthy, pure, Except.pure]

-----------------------------------------------------------------------------------------------
-- What the items of the lighthouse are called
-----------------------------------------------------------------------------------------------

/-- The items of the lighthouse by their places in the rooms. -/
theorem mem_allItems {i : Item} :
    i ∈ game.allItems ↔ i = crate ∨ i = matchbox ∨ i = brassKey ∨ i = keeperBelt ∨ i = oilCan ∨
      i = lamp ∨ i = dial := by
  simp [Game.allItems, game, jetty, tower, lampRoom]

/-- The items of the lighthouse are named by texts in lower case. -/
theorem names_lowercased {i : Item} (hi : i ∈ game.allItems) :
    (∀ n ∈ itemNames i, ∃ t, n = .str t) ∧
      ((itemNames i).all fun n => lowercased n.display) = true := by
  rcases mem_allItems.mp hi with rfl | rfl | rfl | rfl | rfl | rfl | rfl <;>
    exact ⟨by simp [itemNames, crate, matchbox, brassKey, keeperBelt, oilCan, lamp, dial], rfl⟩

/-- Every item of the lighthouse is named by texts. -/
theorem textNamed_allItems : TextNamed game.allItems :=
  fun _ hi => (names_lowercased hi).1

/-- `can` names the oil can and nothing else exactly, and `matches` the matches. -/
theorem named_uniquely {i : Item} (hi : i ∈ game.allItems) :
    (namesExactly "can" i = true → i = oilCan) ∧
      (namesExactly "matches" i = true → i = matchbox) := by
  rw [namesExactly_lowercased rfl (names_lowercased hi).2,
    namesExactly_lowercased rfl (names_lowercased hi).2]
  rcases mem_allItems.mp hi with rfl | rfl | rfl | rfl | rfl | rfl | rfl <;>
    exact ⟨fun h => by first | rfl | exact absurd h (by decide),
      fun h => by first | rfl | exact absurd h (by decide)⟩

-----------------------------------------------------------------------------------------------
-- Taking
-----------------------------------------------------------------------------------------------

/-- A player in step has taken exactly what they carry. -/
theorem Consistent.isTaken (hs : Consistent s) (id : Value) : s.isTaken id = s.hasItem id := by
  have htaken : s.taken = s.inventory := hs.taken
  simp only [GameState.isTaken, GameState.hasItem, htaken]

/-- A player in step carries nothing that cannot be carried. -/
theorem Consistent.hasItem_fixed (hs : Consistent s) {x : String} (hx : Value.str x ∉ carriable) :
    s.hasItem (.str x) = false :=
  memberOf_of_not_mem fun hmem => hx (hs.carried _ hmem)

/-- The lighthouse's items have no conditions, effects or text of their own when taken. -/
theorem plain_take {item : Item} (hitem : item ∈ game.allItems) :
    item.takeWhen = [] ∧ item.onTake = Option.none ∧ item.onTakeText = .none := by
  rcases mem_allItems.mp hitem with rfl | rfl | rfl | rfl | rfl | rfl | rfl <;>
    exact ⟨rfl, rfl, rfl⟩

/-- Taking an item of the lighthouse that can be taken, from a state in step that is not won,
carries it a turn later and changes nothing else the lamp's story depends on. -/
theorem take_situation {w : String} {item : Item} {n : Int} (hs : Consistent s)
    (hwon : s.won = false) (hn : s.turns = .int n)
    (hfound : itemInRoom game s (.str w) = .ok (some item))
    (htakeable : item.takeable.truthy = true) :
    situation (runState (take game (.str w)) s) =
      { situation s with inventory := appendNew s.inventory item.id,
                         taken := appendNew s.taken item.id, turns := .int (n + 1) } := by
  obtain ⟨hfree, hquiet, hplain⟩ := plain_take (itemInRoom_mem hfound)
  obtain ⟨k, hk⟩ := hs.fuel
  have hrun := take_run_takes (g := game) (tick_run_int hn) (hs.ended.trans hwon) hfound
    htakeable hfree hquiet hplain (globalPass_run_fuelled _ (hk.of_eq rfl rfl rfl))
  unfold runState
  rw [hrun]
  rfl

/-- Typing `take` and words that name an item of the room that can be taken carries it, a turn
later. -/
theorem take_typed {w : String} {item : Item} (hs : Consistent s) (hwon : s.won = false)
    (hw : w.toList ≠ []) (hends : Unpadded w.toList)
    (hfound : itemInRoom game s (.str w) = .ok (some item))
    (htakeable : item.takeable.truthy = true) :
    ∃ n : Int, situation (runState (dispatch game ("take" ++ " " ++ w)) s) =
      { situation s with inventory := appendNew s.inventory item.id,
                         taken := appendNew s.taken item.id, turns := .int n } := by
  obtain ⟨n, hn⟩ := hs.turns
  refine ⟨n + 1, ?_⟩
  rw [runState_dispatch (read_take hw hends)]
  simp only [Order.run, runState_map]
  exact take_situation hs hwon hn hfound htakeable

/-- The words name an item of the room when it has not been taken and is the only item of the
room they name exactly. -/
theorem itemInRoom_only {room : Room} {w : String} {item : Item}
    (hroom : currentRoom game s = .ok room) (hitem : item ∈ room.items)
    (hfree : s.isTaken item.id = false) (hnamed : namesExactly w item = true)
    (honly : ∀ i ∈ room.items, namesExactly w i = true → i = item) :
    itemInRoom game s (.str w) = .ok (some item) := by
  have hsub : ∀ i ∈ roomItems room s, i ∈ room.items := fun i hi => (List.mem_filter.mp hi).1
  have hall : ∀ i ∈ roomItems room s, i ∈ game.allItems :=
    fun i hi => List.mem_flatMap.mpr ⟨room, currentRoom_mem hroom, hsub i hi⟩
  have hmem : item ∈ roomItems room s := List.mem_filter.mpr ⟨hitem, by simp [hfree]⟩
  rw [itemInRoom_of_room hroom, searchItems_texts (textNamed_allItems.mono hall),
    find?_of_only hmem hnamed fun i hi => honly i (hsub i hi)]
  rfl

/-- The matches lie in the crate on the jetty until they are taken. -/
theorem itemInRoom_matches (hroom : s.room = .str "jetty")
    (hfree : s.isTaken (.str "matches") = false) :
    itemInRoom game s (.str "matches") = .ok (some matchbox) :=
  itemInRoom_only (currentRoom_of_mem jetty (by simp [game]) hroom) (by simp [jetty])
    hfree (by rw [namesExactly_lowercased rfl rfl]; decide)
    fun i hi => (named_uniquely (List.mem_flatMap.mpr ⟨jetty, by simp [game], hi⟩)).2

/-- The oil can stands on the stairs until it is taken. -/
theorem itemInRoom_can (hroom : s.room = .str "tower")
    (hfree : s.isTaken (.str "oil-can") = false) :
    itemInRoom game s (.str "can") = .ok (some oilCan) :=
  itemInRoom_only (currentRoom_of_mem tower (by simp [game]) hroom) (by simp [tower])
    hfree (by rw [namesExactly_lowercased rfl rfl]; decide)
    fun i hi => (named_uniquely (List.mem_flatMap.mpr ⟨tower, by simp [game], hi⟩)).1

-----------------------------------------------------------------------------------------------
-- Asking the keeper for the key
-----------------------------------------------------------------------------------------------

/-- `keeper` is a name the player can type after `talk`, with a line number after it. -/
theorem spaced_keeper : Spaced "keeper" where
  words_ne_nil := by decide
  spaced := by decide

/-- On the jetty, `keeper` names the keeper. -/
theorem npcNamed_keeper_jetty (hroom : s.room = .str "jetty") :
    npcNamed game s (.str "keeper") = .ok (some keeper) := by
  -- the keeper's alias is the word itself
  have hnamed : ((npcNames keeper).any fun n =>
      occursIn (lower "keeper").toList (lower n.display).toList) = true := by
    rw [List.any_eq_true]
    refine ⟨.str "keeper", by simp [npcNames, keeper], ?_⟩
    show occursIn (lower "keeper").toList (lower "keeper").toList = true
    rw [lower_eq_self rfl]
    decide
  rw [npcNamed_texts (currentRoom_of_mem jetty (by simp [game]) hroom)
    (by simp [jetty, npcNames, keeper])]
  exact congrArg Except.ok (List.find?_cons_of_pos (l := []) hnamed)

/-- A lone `lacks` test passes, offering no gate, exactly when the item is not carried. -/
theorem checkAll_lacks (g : Game) (id : Value) :
    checkAll g s [.leaf .lacks id .null] = .ok (if s.hasItem id then .fail else ⟨true, []⟩) := by
  cases h : s.hasItem id <;>
    simp [checkAll, evalAll, evalCondition, evalLeaf, h, Outcome.fail, Outcome.pass,
      Outcome.ofBool, bind, Except.bind, pure, Except.pure]

/-- Until the key is carried the keeper offers the line that hands it over, after the line about
the lamp and before the line about the storm while those are unsaid. -/
theorem offeredLines_keeper (hkey : s.hasItem (.str "brass-key") = false) :
    offeredLines game s keeper.dialogue =
      .ok ((if s.usedGate (.str "talk.keeper.lamp") then []
          else [(keeper.dialogue.getD 0 default, [.str "talk.keeper.lamp"])]) ++
        (keeper.dialogue.getD 1 default, []) ::
          if s.usedGate (.str "talk.keeper.storm") then []
          else [(keeper.dialogue.getD 2 default, [.str "talk.keeper.storm"])]) := by
  have hlamp := checkAll_once s game (.str "talk.keeper.lamp") .null
  have hstorm := checkAll_once s game (.str "talk.keeper.storm") .null
  have hask := checkAll_lacks (s := s) game (.str "brass-key")
  rw [hkey] at hask
  cases hl : s.usedGate (.str "talk.keeper.lamp") <;>
    cases hst : s.usedGate (.str "talk.keeper.storm") <;>
    simp only [hl, hst] at hlamp hstorm <;>
    simp [keeper, offeredLines, hlamp, hstorm, hask, bind, Except.bind, pure, Except.pure,
      Outcome.fail]

/-- The line that hands over the key, by its number among the lines offered: second while the
line about the lamp is unsaid, first after. -/
def keyLine (s : GameState) : Nat := if s.usedGate (.str "talk.keeper.lamp") then 1 else 2

/-- The line numbered `keyLine` is the keeper's line about the key, with no gate of its own. -/
theorem offeredLines_keyLine (hkey : s.hasItem (.str "brass-key") = false) :
    ∃ lines, offeredLines game s keeper.dialogue = .ok lines ∧
      optionIndex (.int (keyLine s)) lines.length = .ok (some (keyLine s - 1)) ∧
      lines.getD (keyLine s - 1) default = (keeper.dialogue.getD 1 default, []) := by
  rw [offeredLines_keeper hkey]
  unfold keyLine
  cases s.usedGate (.str "talk.keeper.lamp") <;>
    exact ⟨_, rfl, optionIndex_int (by decide) (by simp), rfl⟩

/-- Asking the keeper for the key, on the jetty from a state in step that is not won and does
not carry it, by the number of the line that asks: the key is carried, a turn later. -/
theorem talk_typed (hs : Consistent s) (hwon : s.won = false) (hroom : s.room = .str "jetty")
    (hkey : s.hasItem (.str "brass-key") = false) :
    ∃ n : Int, situation (runState (dispatch game
        ("talk " ++ "keeper" ++ " " ++ toString (keyLine s))) s) =
      { situation s with inventory := appendNew s.inventory (.str "brass-key"),
                         taken := appendNew s.taken (.str "brass-key"), turns := .int n } := by
  obtain ⟨n, hn⟩ := hs.turns
  obtain ⟨lines, hoffered, hindex, hline⟩ := offeredLines_keyLine hkey
  have hlength : (toString (keyLine s)).length ≤ Number.digitLimit := by
    unfold keyLine
    split <;> decide
  have hrun := talkOption_run_chosen (g := game) (tick_run_int hn) (hs.ended.trans hwon)
    (npcNamed_keeper_jetty hroom) hoffered hindex
  rw [hline] at hrun
  have hsaid : runState (sayLine game (keeper.dialogue.getD 1 default) []) _ = _ :=
    sayLine_runState rfl rfl rfl (applyEffects_key_run _ (hs.ticked hn))
  have hdispatch : runState (dispatch game ("talk " ++ "keeper" ++ " " ++ toString (keyLine s))) s =
      runState (sayLine game (keeper.dialogue.getD 1 default) [])
        { s with turns := .int (n + 1) } := by
    have htrim : trim "keeper" = "keeper" := by decide
    have htalk := dispatch_talkOption (g := game) spaced_keeper hlength s
    rw [htrim] at htalk
    unfold runState
    rw [htalk, EStateM.run_map, hrun]
    cases EStateM.run (sayLine game (keeper.dialogue.getD 1 default) []) _ <;> rfl
  refine ⟨n + 1, ?_⟩
  rw [hdispatch, hsaid, situation_addItem]
  rfl

-----------------------------------------------------------------------------------------------
-- Using the lamp
-----------------------------------------------------------------------------------------------

/-- What the player carries, in step, is found item by item, in the order it was taken. -/
theorem carriedItems_eq (hs : Consistent s) :
    carriedItems game s =
      .ok (s.inventory.filterMap fun x => game.allItems.find? (·.id.equals x)) := by
  refine filterMapM_ok fun x hx => ?_
  obtain ⟨t, rfl⟩ := Situation.text_of_carriable (hs.carried x hx)
  rfl

/-- The words name a carried item when it is the only item of the lighthouse they name exactly. -/
theorem itemCarried_only (hs : Consistent s) {w : String} {id : Value} {item : Item}
    (hcarried : id ∈ s.inventory) (hfind : game.allItems.find? (·.id.equals id) = some item)
    (hnamed : namesExactly w item = true)
    (honly : ∀ i ∈ game.allItems, namesExactly w i = true → i = item) :
    itemCarried game s (.str w) = .ok (some item) := by
  have hall : ∀ i ∈ s.inventory.filterMap (fun x => game.allItems.find? (·.id.equals x)),
      i ∈ game.allItems := by
    intro i hi
    obtain ⟨x, -, hx⟩ := List.mem_filterMap.mp hi
    exact List.mem_of_find?_eq_some hx
  have hmem : item ∈ s.inventory.filterMap (fun x => game.allItems.find? (·.id.equals x)) :=
    List.mem_filterMap.mpr ⟨id, hcarried, hfind⟩
  unfold itemCarried
  rw [carriedItems_eq hs]
  simp only [bind, Except.bind]
  rw [searchItems_texts (textNamed_allItems.mono hall),
    find?_of_only hmem hnamed fun i hi => honly i (hall i hi)]
  rfl

/-- The lamp and the dial stand in the open in the lamp room. -/
theorem openItems_lampRoom (hs : Consistent s) : openItems lampRoom s = [lamp, dial] := by
  simp [openItems, lampRoom, hs.isTaken, hs.hasItem_fixed (x := "lamp") (by simp [carriable]),
    hs.hasItem_fixed (x := "dial") (by simp [carriable]), lamp, dial, Value.truthy]

/-- In the lamp room, in step, `lamp` names the lamp. -/
theorem resolveActor_lamp (hs : Consistent s) (hroom : s.room = .str "lamp-room") :
    (resolveActor game (.str "lamp")).run' s = some (some lamp) := by
  have hexact : exactItem [lamp, dial] (.str "lamp") = .ok (some lamp) := by
    rw [exactItem_texts (textNamed_allItems.mono (by simp [Game.allItems, game, lampRoom]))]
    have hnamed : namesExactly "lamp" lamp = true := by
      rw [namesExactly_lowercased rfl rfl]
      decide
    rw [List.find?_cons_of_pos hnamed]
  have hrun : (resolveActor game (.str "lamp")).run s = .ok (some lamp) s := by
    unfold resolveActor
    rw [run_get_bind]
    simp only [currentRoom_of_mem lampRoom (by simp [game]) hroom, Act.ofExcept]
    rw [run_pure_bind]
    simp only [carriedItems_eq hs]
    rw [run_pure_bind]
    simp only [openItems_lampRoom hs, hexact]
    rw [run_pure_bind]
    rfl
  simp [EStateM.run', hrun]

/-- In the lamp room, in step, words that name nothing in the open there and name a carried item
aim a use at it. -/
theorem useTarget_carried (hs : Consistent s) (hroom : s.room = .str "lamp-room") {w : String}
    {item : Item} (htruthy : (Value.str w).truthy = true)
    (hlamp : namesExactly w lamp = false ∧ namesPartly w lamp = false)
    (hdial : namesExactly w dial = false ∧ namesPartly w dial = false)
    (hcarried : itemCarried game s (.str w) = .ok (some item)) :
    useTarget game s (.str w) = .ok (some item) := by
  have hopen : itemInOpen game s (.str w) = .ok none := by
    rw [itemInOpen_of_room (currentRoom_of_mem lampRoom (by simp [game]) hroom),
      openItems_lampRoom hs,
      searchItems_texts (textNamed_allItems.mono (by simp [Game.allItems, game, lampRoom]))]
    rw [List.find?_cons_of_neg (by simp [hlamp.1]), List.find?_cons_of_neg (by simp [hdial.1]),
      List.find?_cons_of_neg (by simp [hlamp.2]), List.find?_cons_of_neg (by simp [hdial.2])]
    rfl
  simp only [useTarget, htruthy, if_true, hopen, hcarried, bind, Except.bind]

/-- In the lamp room, in step, `can` aims a use at the oil can once it is carried. -/
theorem useTarget_can (hs : Consistent s) (hroom : s.room = .str "lamp-room")
    (hcan : .str "oil-can" ∈ s.inventory) : useTarget game s (.str "can") = .ok (some oilCan) :=
  useTarget_carried hs hroom rfl
    (by rw [namesExactly_lowercased rfl rfl, namesPartly_lowercased rfl rfl]; decide +kernel)
    (by rw [namesExactly_lowercased rfl rfl, namesPartly_lowercased rfl rfl]; decide +kernel)
    (itemCarried_only hs hcan rfl (by rw [namesExactly_lowercased rfl rfl]; decide)
      fun _ hi => (named_uniquely hi).1)

/-- In the lamp room, in step, `matches` aims a use at the matches once they are carried. -/
theorem useTarget_matches (hs : Consistent s) (hroom : s.room = .str "lamp-room")
    (hmatches : .str "matches" ∈ s.inventory) :
    useTarget game s (.str "matches") = .ok (some matchbox) :=
  useTarget_carried hs hroom rfl
    (by rw [namesExactly_lowercased rfl rfl, namesPartly_lowercased rfl rfl]; decide +kernel)
    (by rw [namesExactly_lowercased rfl rfl, namesPartly_lowercased rfl rfl]; decide +kernel)
    (itemCarried_only hs hmatches rfl (by rw [namesExactly_lowercased rfl rfl]; decide)
      fun _ hi => (named_uniquely hi).2)

/-- The lamp's actions, numbered. -/
theorem zipIdx_lamp : lamp.useActions.zipIdx =
    [(lamp.useActions.getD 0 default, 0), (lamp.useActions.getD 1 default, 1),
      (lamp.useActions.getD 2 default, 2), (lamp.useActions.getD 3 default, 3)] := rfl

/-- With the oil below two measures, using the lamp on the oil can pours. -/
theorem chooseEither_pour {k : Nat} (hk : (situation s).Fuelled k) (hlow : k < 2) :
    chooseEither game s lamp (some oilCan) .null =
      .ok (some ⟨0, lamp.useActions.getD 0 default, lamp, []⟩) := by
  have hcheck : checkAll game s (lamp.useActions.getD 0 default).requires = .ok ⟨true, []⟩ := by
    rw [show (lamp.useActions.getD 0 default).requires = [.leaf .lt (.str "oil") (.int 2)] from rfl,
      checkAll_lowOil hk.oil, if_pos (by exact_mod_cast hlow)]
  have hfits : (targetFits (lamp.useActions.getD 0 default) (some oilCan) &&
      numberFits (lamp.useActions.getD 0 default) .null) = true := rfl
  unfold chooseEither chooseAction
  rw [zipIdx_lamp]
  simp only [List.forIn_cons, hfits, if_true, hcheck]
  rfl

/-- With the lamp ready, using the lamp on the matches lights it. -/
theorem chooseEither_light (hk : (situation s).Fuelled 2) :
    chooseEither game s lamp (some matchbox) .null =
      .ok (some ⟨2, lamp.useActions.getD 2 default, lamp, []⟩) := by
  have hready : (Slot.flag "LAMP_READY").value s = .bool true := hk.ready
  have hcheck : checkAll game s (lamp.useActions.getD 2 default).requires = .ok ⟨true, []⟩ := by
    rw [show (lamp.useActions.getD 2 default).requires =
      [.leaf .truthy (.str "LAMP_READY") .null] from rfl]
    have hslot : Slot.read "LAMP_READY" = .flag "LAMP_READY" := by simp [Slot.read, flagKey]
    simp [checkAll, evalAll, evalCondition, evalLeaf, read_text, hslot, hready, Value.holds,
      Value.truthy, bind, Except.bind, pure, Except.pure, Outcome.ofBool, Outcome.pass]
  -- the two actions listed first are for the oil can
  have hpour : (targetFits (lamp.useActions.getD 0 default) (some matchbox) &&
      numberFits (lamp.useActions.getD 0 default) .null) = false := rfl
  have hfull : (targetFits (lamp.useActions.getD 1 default) (some matchbox) &&
      numberFits (lamp.useActions.getD 1 default) .null) = false := rfl
  have hfits : (targetFits (lamp.useActions.getD 2 default) (some matchbox) &&
      numberFits (lamp.useActions.getD 2 default) .null) = true := rfl
  unfold chooseEither chooseAction
  rw [zipIdx_lamp]
  simp only [List.forIn_cons, hpour, hfull, hfits, Bool.false_eq_true, if_true, if_false, hcheck]
  rfl

/-- In the lamp room, the answer to a use after its effects changes nothing: the room has no
triggers and the texts shown are plain. -/
theorem use_tail_lampRoom {response : Text} {text : String} {wasWon : Bool} {u : GameState}
    (hroom : u.room = .str "lamp-room") (hplain : response = .plain text) :
    runState (do
        let room ← Act.ofExcept (currentRoom game (← get))
        let _ ← roomTriggers game room.triggers
        let response ← renderText game response
        if !wasWon && (← get).won then ending game else pure response) u = u := by
  rw [runState_get_bind]
  simp only [currentRoom_of_mem lampRoom (by simp [game]) hroom, Act.ofExcept, pure_bind]
  simp only [show lampRoom.triggers = [] from rfl, hplain]
  rw [runState_bind, show (roomTriggers game []).run u = .ok [] u from rfl]
  dsimp only
  rw [runState_bind,
    show (renderText game (.plain text)).run u = .ok (interpolate u text) u from rfl]
  dsimp only
  rw [runState_get_bind]
  split
  · exact (readsOnly_renderText rfl) u
  · rfl

/-- Using the lamp in the lamp room, from a state in step that is not won, by one of its actions
chosen with no gates for a target the words aim at: the state is where the action's effects leave
it a turn later, since the room has no triggers and the texts shown are plain. -/
theorem use_lamp_runState {w : String} {item : Item} {i : Nat} {n : Int} {u : GameState}
    (hs : Consistent s) (hwon : s.won = false) (hn : s.turns = .int n)
    (hroom : s.room = .str "lamp-room")
    (haim : useTarget game { s with turns := .int (n + 1) } (.str w) = .ok (some item))
    (hchoice : chooseEither game { s with turns := .int (n + 1) } lamp (some item) .null =
      .ok (some ⟨i, lamp.useActions.getD i default, lamp, []⟩))
    (hplain : ∃ text, (lamp.useActions.getD i default).response = .plain text)
    (heffects : (applyEffects game (lamp.useActions.getD i default).effects).run
      { s with turns := .int (n + 1) } = .ok () u)
    (hroom_u : u.room = .str "lamp-room") :
    runState (Play.use game (.str "lamp") (.str w) .null) s = u := by
  have hrun := use_run_chosen (g := game) (tick_run_int hn) (hs.ended.trans hwon)
    (resolveActor_lamp (hs.ticked hn) hroom) haim hchoice
  obtain ⟨text, htext⟩ := hplain
  unfold runState
  rw [hrun, GameState.commitMarks_nil]
  dsimp only
  rw [run_bind_of_ok heffects]
  show runState _ u = u
  exact use_tail_lampRoom hroom_u htext

/-- Using the lamp on the carried oil can in the lamp room, from a state in step that is not won
and with fewer than two measures in: a measure is poured a turn later, the lamp readied when that
fills it, and nothing else the lamp's story depends on changes. -/
theorem pour_situation {n : Int} {k : Nat} (hs : Consistent s) (hwon : s.won = false)
    (hn : s.turns = .int n) (hroom : s.room = .str "lamp-room")
    (hcan : .str "oil-can" ∈ s.inventory) (hk : (situation s).Fuelled k) (hlow : k < 2) :
    situation (runState (Play.use game (.str "lamp") (.str "can") .null) s) =
      { situation s with turns := .int (n + 1), oil := .int ((k : Int) + 1),
                         ready := if k + 1 = 2 then .bool true else .null,
                         primed := decide (k + 1 = 2) } := by
  have hkt : (situation { s with turns := .int (n + 1) }).Fuelled k := hk.of_eq rfl rfl rfl
  have haim := useTarget_can (hs.ticked hn) hroom hcan
  obtain ⟨u, heffects, hu⟩ := applyEffects_pour_run _ hkt hlow
  have hroom_u : u.room = .str "lamp-room" := (congrArg Situation.room hu).trans hroom
  rw [use_lamp_runState hs hwon hn hroom haim (chooseEither_pour hkt hlow) ⟨_, rfl⟩ heffects
    hroom_u, hu]
  rfl

/-- Using the lamp on the carried matches in the lamp room, from a state in step that is not won
and with the lamp ready: the game is won. -/
theorem light_won {n : Int} (hs : Consistent s) (hwon : s.won = false)
    (hn : s.turns = .int n) (hroom : s.room = .str "lamp-room")
    (hmatches : .str "matches" ∈ s.inventory) (hk : (situation s).Fuelled 2) :
    (runState (Play.use game (.str "lamp") (.str "matches") .null) s).won = true := by
  have hkt : (situation { s with turns := .int (n + 1) }).Fuelled 2 := hk.of_eq rfl rfl rfl
  have haim := useTarget_matches (hs.ticked hn) hroom hmatches
  obtain ⟨u, heffects, hu⟩ := applyEffects_light_run _ (hs.ticked hn)
  have hroom_u : u.room = .str "lamp-room" := (congrArg Situation.room hu).trans hroom
  rw [use_lamp_runState hs hwon hn hroom haim (chooseEither_light hkt) ⟨_, rfl⟩ heffects hroom_u]
  exact congrArg Situation.won hu

/-- `lamp on can` is the lamp used on the can, with no number. -/
theorem parseUse_lamp_can : parseUse "lamp on can" = ("lamp", some "can", none) := by
  rw [show "lamp on can" = " ".intercalate ["lamp", "on", "can"] from rfl]
  exact parseUse_on (solid_of_all (by simp) (by decide))
    (solid_of_all (by simp) (by decide)) rfl rfl
    (readFloatWord_word rfl (by decide) rfl (by decide) (by decide) (by decide))

/-- `lamp on matches` is the lamp used on the matches, with no number. -/
theorem parseUse_lamp_matches : parseUse "lamp on matches" = ("lamp", some "matches", none) := by
  rw [show "lamp on matches" = " ".intercalate ["lamp", "on", "matches"] from rfl]
  exact parseUse_on (solid_of_all (by simp) (by decide))
    (solid_of_all (by simp) (by decide)) rfl rfl
    (readFloatWord_word rfl (by decide) rfl (by decide) (by decide) (by decide))

/-- Typing `use lamp on can` pours as using the lamp on the can does. -/
theorem pour_typed {k : Nat} (hs : Consistent s) (hwon : s.won = false)
    (hroom : s.room = .str "lamp-room") (hcan : .str "oil-can" ∈ s.inventory)
    (hk : (situation s).Fuelled k) (hlow : k < 2) :
    ∃ n : Int, situation (runState (dispatch game ("use" ++ " " ++ "lamp on can")) s) =
      { situation s with turns := .int n, oil := .int ((k : Int) + 1),
                         ready := if k + 1 = 2 then .bool true else .null,
                         primed := decide (k + 1 = 2) } := by
  obtain ⟨n, hn⟩ := hs.turns
  refine ⟨n + 1, ?_⟩
  rw [runState_dispatch (read_use (by simp) (unpadded_of_ends (by decide))),
    parseUse_lamp_can]
  simp only [Order.run, runState_map]
  exact pour_situation hs hwon hn hroom hcan hk hlow

/-- Typing `use lamp on matches` with the lamp ready wins, as using the lamp on the matches does. -/
theorem light_typed (hs : Consistent s) (hwon : s.won = false)
    (hroom : s.room = .str "lamp-room") (hmatches : .str "matches" ∈ s.inventory)
    (hk : (situation s).Fuelled 2) :
    (runState (dispatch game ("use" ++ " " ++ "lamp on matches")) s).won = true := by
  obtain ⟨n, hn⟩ := hs.turns
  rw [runState_dispatch (read_use (by simp) (unpadded_of_ends (by decide))),
    parseUse_lamp_matches]
  simp only [Order.run, runState_map]
  exact light_won hs hwon hn hroom hmatches hk

end Adventure.Lighthouse
