import Mathlib
import Adventure.Proofs.Lighthouse.Game
import Adventure.Proofs.Play.Provenance
import Adventure.Proofs.Play.Exits

/-! The lighthouse's oil, lamp and ending stay in step through every request but reopening:
`Consistent` holds of the `Situation` the ending depends on. -/

namespace Adventure.Lighthouse

open Std.Do Story Play

set_option mvcgen.warning false

/-- The parts of the play state that the lamp's story depends on. -/
structure Situation where
  room : Value
  inventory : List Value
  taken : List Value
  ended : Bool
  won : Bool
  turns : Value
  oil : Value
  ready : Value
  lit : Value
  /-- Whether the gate of the trigger that readies the lamp is used. -/
  primed : Bool

/-- The gate of the trigger that readies the lamp. -/
def primedGate : Value := .str "event.lamp_ready"

/-- The situation of a play state. -/
def situation (s : GameState) : Situation where
  room := s.room
  inventory := s.inventory
  taken := s.taken
  ended := s.ended
  won := s.won
  turns := s.turns
  oil := (Slot.flag "oil").value s
  ready := (Slot.flag "LAMP_READY").value s
  lit := (Slot.flag "LAMP_LIT").value s
  primed := s.usedGate primedGate

/-- The ids of the rooms. -/
def roomIds : List Value := [.str "jetty", .str "tower", .str "lamp-room"]

/-- The ids of the items that can be carried. -/
def carriable : List Value := [.str "matches", .str "brass-key", .str "oil-can"]

/-- The flags the situation reads. -/
def lampFlags : List String := ["oil", "LAMP_READY", "LAMP_LIT"]

namespace Situation

/-- The reservoir holds `k` measures, and the lamp is ready, with its gate used, exactly when
it is full. -/
structure Fuelled (v : Situation) (k : Nat) : Prop where
  le : k ≤ 2
  oil : v.oil = .int k
  ready : v.ready = if k = 2 then .bool true else .null
  primed : v.primed = decide (k = 2)

/-- The reservoir holds `k` measures and the lamp has not been readied: where pouring leaves
the lamp until the global pass runs. -/
structure Unprimed (v : Situation) (k : Nat) : Prop where
  le : k ≤ 2
  oil : v.oil = .int k
  ready : v.ready = .null
  primed : v.primed = false

/-- A situation in step: the player in one of the rooms, carrying only what can be carried and
having taken just that, the game over exactly when won and the lamp lit exactly then, a win
only in the lamp room with the matches carried, a counted turn, and the lamp fuelled. -/
structure Sound (v : Situation) : Prop where
  room : v.room ∈ roomIds
  carried : ∀ x ∈ v.inventory, x ∈ carriable
  taken : v.taken = v.inventory
  ended : v.ended = v.won
  lit : v.lit = .bool v.won
  won : v.won = true → v.room = .str "lamp-room" ∧ .str "matches" ∈ v.inventory
  turns : ∃ n : Int, v.turns = .int n
  fuel : ∃ k, v.Fuelled k

end Situation

/-- A play state whose situation is in step. -/
def Consistent (s : GameState) : Prop := (situation s).Sound

/-- A fresh game of the lighthouse is in step. -/
theorem consistent_initial : Consistent (GameState.initial (.str "jetty") game.initialFlags) where
  room := by simp [situation, GameState.initial, roomIds]
  carried := by simp [situation, GameState.initial]
  taken := rfl
  ended := rfl
  lit := rfl
  won h := by cases h
  turns := ⟨0, rfl⟩
  fuel := ⟨0, by norm_num, rfl, rfl, rfl⟩

/-- Being in step depends on the situation alone. -/
theorem Consistent.of_situation {s t : GameState} (h : situation t = situation s)
    (hs : Consistent s) : Consistent t := by
  unfold Consistent
  rw [h]
  exact hs

namespace Situation

variable {v : Situation} {k : Nat}

/-- A situation with the oil, the readiness and the primed mark of a fuelled one is fuelled
alike. -/
theorem Fuelled.of_eq {w : Situation} (h : v.Fuelled k) (hoil : w.oil = v.oil)
    (hready : w.ready = v.ready) (hprimed : w.primed = v.primed) : w.Fuelled k :=
  ⟨h.le, hoil.trans h.oil, hready.trans h.ready, hprimed.trans h.primed⟩

/-- Below two measures a fuelled lamp has not been readied. -/
theorem Fuelled.unprimed (h : v.Fuelled k) (hlt : k < 2) : v.Unprimed k where
  le := h.le
  oil := h.oil
  ready := by rw [h.ready, if_neg (by omega)]
  primed := by rw [h.primed, decide_eq_false (by omega)]

/-- A situation with the oil, the readiness and the primed mark of a sound one holds some number of
measures. -/
theorem Sound.fuel_of_eq {w : Situation} (h : v.Sound) (hoil : w.oil = v.oil)
    (hready : w.ready = v.ready) (hprimed : w.primed = v.primed) : ∃ k, w.Fuelled k :=
  let ⟨k, hk⟩ := h.fuel
  ⟨k, hk.of_eq hoil hready hprimed⟩

/-- A turn keeps a situation in step. -/
theorem Sound.turn (h : v.Sound) (n : Int) : { v with turns := .int n }.Sound where
  room := h.room
  carried := h.carried
  taken := h.taken
  ended := h.ended
  lit := h.lit
  won := h.won
  turns := ⟨n, rfl⟩
  fuel := h.fuel_of_eq rfl rfl rfl

/-- Every id that can be carried is a text. -/
theorem text_of_carriable {id : Value} (hid : id ∈ carriable) : ∃ t, id = .str t := by
  simp only [carriable, List.mem_cons, List.not_mem_nil, or_false] at hid
  rcases hid with rfl | rfl | rfl <;> exact ⟨_, rfl⟩

/-- Taking what can be carried keeps a situation in step. -/
theorem Sound.take (h : v.Sound) {id : Value} (hid : id ∈ carriable) :
    { v with inventory := appendNew v.inventory id, taken := appendNew v.taken id }.Sound where
  room := h.room
  carried x hx := by
    rcases (Story.mem_appendNew_text (text_of_carriable hid)).mp hx with hx | rfl
    exacts [h.carried x hx, hid]
  taken := by simp only [h.taken]
  ended := h.ended
  lit := h.lit
  won hw :=
    let ⟨hroom, hmatches⟩ := h.won hw
    ⟨hroom, (Story.mem_appendNew_text (text_of_carriable hid)).mpr (.inl hmatches)⟩
  turns := h.turns
  fuel := h.fuel_of_eq rfl rfl rfl

/-- Pouring a measure into a reservoir that holds fewer than two, and readying the lamp when
that fills it, keeps a situation in step. -/
theorem Sound.pour (h : v.Sound) (hlt : k < 2) :
    ({ v with
      oil := .int ((k : Int) + 1)
      ready := if k + 1 = 2 then .bool true else .null
      primed := decide (k + 1 = 2) } : Situation).Sound where
  room := h.room
  carried := h.carried
  taken := h.taken
  ended := h.ended
  lit := h.lit
  won := h.won
  turns := h.turns
  fuel := ⟨k + 1, by omega, by push_cast; rfl, rfl, rfl⟩

/-- Lighting the lamp in its room with the matches carried, and with it winning and ending
the game, keeps a situation in step. -/
theorem Sound.light (h : v.Sound) (hroom : v.room = .str "lamp-room")
    (hmatches : .str "matches" ∈ v.inventory) :
    { v with lit := .bool true, won := true, ended := true }.Sound where
  room := h.room
  carried := h.carried
  taken := h.taken
  ended := rfl
  lit := rfl
  won _ := ⟨hroom, hmatches⟩
  turns := h.turns
  fuel := h.fuel_of_eq rfl rfl rfl

/-- Entering one of the rooms before the game is won keeps a situation in step. -/
theorem Sound.enter (h : v.Sound) {room : Value} (hroom : room ∈ roomIds) (hwon : v.won = false) :
    { v with room := room }.Sound where
  room := hroom
  carried := h.carried
  taken := h.taken
  ended := h.ended
  lit := h.lit
  won hw := absurd (hw.symm.trans hwon) Bool.noConfusion
  turns := h.turns
  fuel := h.fuel_of_eq rfl rfl rfl

end Situation

-----------------------------------------------------------------------------------------------
-- Changes that leave the situation alone
-----------------------------------------------------------------------------------------------

section Quiet

variable (s : GameState)

/-- Using a gate other than the lamp's leaves the lamp's gate as it was. -/
theorem usedGate_markOnce {gate : Value} (hgate : gate ≠ primedGate) :
    (s.markOnce gate).usedGate primedGate = s.usedGate primedGate := by
  simp only [GameState.usedGate, GameState.markOnce, appendNew]
  split
  · rfl
  · have hne : (primedGate.sameItem gate) = false :=
      Bool.eq_false_iff.mpr fun h => hgate (Value.sameItem_text.mp h)
    simp [Value.memberOf, hne]

/-- Using gates other than the lamp's changes nothing the situation reads. -/
theorem situation_commitMarks {gates : List Value} (hgates : primedGate ∉ gates) :
    situation (s.commitMarks gates) = situation s := by
  induction gates generalizing s with
  | nil => rfl
  | cons gate rest ih =>
    rw [GameState.commitMarks_cons, ih _ fun h => hgates (List.mem_cons_of_mem gate h)]
    have hgate : gate ≠ primedGate := fun h => hgates (h ▸ List.mem_cons_self)
    simp only [situation, usedGate_markOnce s hgate]
    rfl

/-- Visiting a room leaves the situation. -/
@[simp]
theorem situation_visit (room : Value) : situation (s.visit room) = situation s := rfl

/-- Setting a flag changes only what the situation reads of that flag. -/
theorem situation_setFlag (key : String) (v : Value) :
    situation { s with flags := s.flags.set (.str key) v } =
      { situation s with
        oil := if key = "oil" then v else (situation s).oil
        ready := if key = "LAMP_READY" then v else (situation s).ready
        lit := if key = "LAMP_LIT" then v else (situation s).lit } := by
  simp only [situation, Slot.value, Flags.get?_set_text]
  split_ifs <;> rfl

/-- Setting a flag the situation does not read changes nothing it reads. -/
theorem situation_setFlag_quiet {key : String} (hkey : key ∉ lampFlags) (v : Value) :
    situation { s with flags := s.flags.set (.str key) v } = situation s := by
  simp only [lampFlags, List.mem_cons, List.not_mem_nil, or_false, not_or] at hkey
  rw [situation_setFlag]
  simp only [hkey, if_false]

/-- Taking an item changes the situation only in the items carried and taken. -/
theorem situation_addItem (id : Value) :
    situation (s.addItem id) =
      { situation s with inventory := appendNew s.inventory id, taken := appendNew s.taken id } :=
  rfl

/-- Using the lamp's gate marks the lamp primed and changes nothing else of the situation. -/
theorem situation_markPrimed :
    situation (s.markOnce primedGate) = { situation s with primed := true } := by
  have hused : (s.markOnce primedGate).usedGate primedGate = true := by
    simp only [GameState.usedGate, GameState.markOnce, appendNew]
    split
    · assumption
    · exact Value.memberOf_text.mpr (List.mem_append_right _ (List.mem_singleton_self _))
  simp only [situation, hused]
  rfl

end Quiet

-----------------------------------------------------------------------------------------------
-- The global pass
-----------------------------------------------------------------------------------------------

section GlobalPass

variable (s : GameState)

/-- Whole numbers compare as integers. -/
theorem Num.le_int (a b : Int) : (Num.int a).le (.int b) = decide (a ≤ b) := by
  simp only [Num.le, Num.compare?]
  rcases lt_trichotomy a b with h | rfl | h
  · simp [compare_lt_iff_lt.mpr h, h.le]
  · simp
  · simp [compare_gt_iff_gt.mpr h, not_le.mpr h]

/-- Whole numbers compare strictly as integers. -/
theorem Num.lt_int (a b : Int) : (Num.int a).lt (.int b) = decide (a < b) := by
  simp only [Num.lt, Num.compare?]
  rcases lt_trichotomy a b with h | rfl | h
  · simp [compare_lt_iff_lt.mpr h, h]
  · simp
  · simp [compare_gt_iff_gt.mpr h, not_lt.mpr h.le]

/-- The flags that the lighthouse's effects set are written as flags. -/
theorem written_flag :
    ∀ key ∈ ["oil", "LAMP_READY", "LAMP_LIT", "SEEN_TOWER", "ROTATION"],
      Slot.written key = .flag key := by
  simp [Slot.written, Slot.read, flagKey]

/-- Storing into a flag slot sets that flag. -/
theorem store_flag {key : String} (h : Slot.written key = .flag key) (v : Value) :
    (Slot.written key).store s v = { s with flags := s.flags.set (.str key) v } := by
  rw [h]
  rfl

/-- Setting a text path stores into the slot it writes. -/
theorem applyEffect_set (p : String) (v : Value) :
    applyEffect ⟨.set, .str p, v⟩ = modify fun s => (Slot.written p).store s v := by
  funext s
  simp only [applyEffect, Act.change, Act.ofExcept, write_text]
  rfl

/-- The trigger that readies the lamp passes when the reservoir is full and its gate unused. -/
theorem checkAll_lampReady {k : Int} (hoil : (situation s).oil = .int k) :
    checkAll game s lampReady.when =
      .ok (if 2 ≤ k ∧ s.usedGate primedGate = false then ⟨true, [primedGate]⟩ else .fail) := by
  simp only [lampReady, checkAll, evalAll, evalCondition, evalLeaf, read_text]
  simp only [situation] at hoil
  simp [Slot.read, flagKey, hoil, Value.toNumber, compareWith, Value.num?, Num.le_int, bind,
    Except.bind, pure, Except.pure]
  by_cases h2 : 2 ≤ k <;> cases hg : s.usedGate primedGate <;>
    simp_all [Outcome.ofBool, Outcome.fail, Outcome.pass, primedGate]

/-- The global pass readies the lamp when the reservoir is full and the gate unused, and does
nothing else. -/
theorem globalPass_run {k : Int} (hoil : (situation s).oil = .int k) :
    (globalPass game).run s = .ok ()
      (if 2 ≤ k ∧ s.usedGate primedGate = false then
        { s.markOnce primedGate with flags := s.flags.set (.str "LAMP_READY") (.bool true) }
      else s) := by
  unfold globalPass
  rw [show game.globalTriggers = [lampReady] from rfl]
  simp only [List.forIn_cons, List.forIn_nil]
  rw [show lampReady.effects = [⟨.set, .str "LAMP_READY", .bool true⟩] from rfl]
  simp only [List.forIn_cons, List.forIn_nil, applyEffect_set,
    store_flag _ (written_flag "LAMP_READY" (by simp))]
  simp only [EStateM.run, bind, EStateM.bind, get, getThe, MonadStateOf.get, EStateM.get,
    checkAll_lampReady s hoil, Act.ofExcept, pure, EStateM.pure]
  by_cases h : 2 ≤ k ∧ s.usedGate primedGate = false
  · simp only [h, and_self, if_true]
    rfl
  · simp only [h, if_false]
    rfl

/-- Once the readiness agrees with the oil, the global pass does nothing. -/
theorem globalPass_run_fuelled {k : Nat} (h : (situation s).Fuelled k) :
    (globalPass game).run s = .ok () s := by
  rw [globalPass_run s h.oil, if_neg]
  rintro ⟨hfull, hunused⟩
  have hk : k = 2 := by have := h.le; omega
  have hprimed := h.primed
  simp only [situation, hk, decide_true] at hprimed
  rw [hprimed] at hunused
  cases hunused

/-- After a pour, the global pass readies the lamp exactly when the reservoir is full. -/
theorem globalPass_run_unprimed {k : Nat} (h : (situation s).Unprimed k) :
    ∃ t, (globalPass game).run s = .ok () t ∧
      situation t = { situation s with
        ready := if k = 2 then .bool true else .null, primed := decide (k = 2) } := by
  have hunused : s.usedGate primedGate = false := h.primed
  rw [globalPass_run s h.oil]
  by_cases hk : k = 2
  · subst hk
    refine ⟨_, rfl, ?_⟩
    rw [if_pos ⟨by norm_num, hunused⟩]
    show situation { s.markOnce primedGate with
      flags := (s.markOnce primedGate).flags.set (.str "LAMP_READY") (.bool true) } = _
    rw [situation_setFlag, situation_markPrimed]
    simp
  · refine ⟨_, rfl, ?_⟩
    rw [if_neg fun h2 => hk (by have := h.le; omega)]
    have hready := h.ready
    simp only [hk, if_false, decide_false]
    rw [← hready, ← hunused]
    rfl

end GlobalPass

-----------------------------------------------------------------------------------------------
-- The effects of the lighthouse
-----------------------------------------------------------------------------------------------

section Effects

variable (s : GameState)

/-- Applying effects runs the first effect, then the rest from where it left the state. -/
theorem applyEffects_cons_run (g : Game) {e : Effect} {es : List Effect} {t : GameState}
    (he : (applyEffect e).run s = .ok () t) :
    (applyEffects g (some (e :: es))).run s = (applyEffects g (some es)).run t := by
  simp only [applyEffects, List.forIn_cons]
  simp only [EStateM.run, bind, EStateM.bind, pure, EStateM.pure] at he ⊢
  rw [he]

/-- Applying no effects runs the global pass alone. -/
theorem applyEffects_nil_run (g : Game) :
    (applyEffects g (some [])).run s = (globalPass g).run s := by
  simp only [applyEffects, List.forIn_nil]
  rfl

/-- Pouring a measure adds one to a whole number of measures. -/
theorem applyEffect_pour_run {k : Int} (hoil : (situation s).oil = .int k) :
    (applyEffect ⟨.add, .str "oil", .int 1⟩).run s =
      .ok () { s with flags := s.flags.set (.str "oil") (.int (k + 1)) } := by
  have hread : s.read (.str "oil") = .ok (.int k) := by
    rw [read_text, ← hoil]
    simp [Slot.read, flagKey, situation]
  simp only [applyEffect, moveCounter, Act.change, EStateM.run, bind, EStateM.bind, get, getThe,
    MonadStateOf.get, EStateM.get, hread, Act.ofExcept, pure, EStateM.pure, counterValue]
  simp [Value.toNumber, Num.isNaN, Value.num?, Except.bind, Except.pure, EStateM.pure, write_text,
    Slot.written, Slot.read, flagKey, Slot.store, set, MonadStateOf.set, Value.ofNum, Num.add,
    Num.combine]
  rfl

/-- Setting a flag the situation does not read, and the global pass after it, change nothing
the situation reads. -/
theorem applyEffects_quiet_run {key : String} (hkey : key ∉ lampFlags)
    (hw : Slot.written key = .flag key) (v : Value) (hs : Consistent s) :
    (applyEffects game (some [⟨.set, .str key, v⟩])).run s =
      .ok () { s with flags := s.flags.set (.str key) v } := by
  have hquiet := situation_setFlag_quiet s hkey v
  obtain ⟨k, hk⟩ := hs.fuel
  rw [applyEffects_cons_run s game (t := { s with flags := s.flags.set (.str key) v })
      (by simp only [applyEffect_set, hw]; rfl),
    applyEffects_nil_run, globalPass_run_fuelled _ (k := k) (by rw [hquiet]; exact hk)]

/-- The keeper's gift: the key is carried, and the global pass does nothing. -/
theorem applyEffects_key_run (hs : Consistent s) :
    (applyEffects game (some [⟨.addItem, .str "brass-key", .null⟩])).run s =
      .ok () (s.addItem (.str "brass-key")) := by
  obtain ⟨k, hk⟩ := hs.fuel
  rw [applyEffects_cons_run s game (t := s.addItem (.str "brass-key")) rfl, applyEffects_nil_run,
    globalPass_run_fuelled (s.addItem (.str "brass-key")) (hk.of_eq rfl rfl rfl)]

/-- A measure poured into a reservoir with fewer than two, after which the global pass readies
the lamp exactly when the reservoir is full. -/
theorem applyEffects_pour_run {k : Nat} (hk : (situation s).Fuelled k) (hlt : k < 2) :
    ∃ t, (applyEffects game (some [⟨.add, .str "oil", .int 1⟩])).run s = .ok () t ∧
      situation t = { situation s with
        oil := .int ((k : Int) + 1)
        ready := if k + 1 = 2 then .bool true else .null
        primed := decide (k + 1 = 2) } := by
  have hpoured := situation_setFlag s "oil" (.int ((k : Int) + 1))
  simp only [if_true, show ("oil" = "LAMP_READY") = False by simp,
    show ("oil" = "LAMP_LIT") = False by simp, if_false] at hpoured
  have hunprimed : (situation { s with flags := s.flags.set (.str "oil") (.int ((k : Int) + 1)) }).Unprimed
      (k + 1) := by
    have hu := hk.unprimed hlt
    rw [hpoured]
    exact ⟨by omega, by push_cast; rfl, hu.ready, hu.primed⟩
  obtain ⟨t, hrun, ht⟩ := globalPass_run_unprimed _ hunprimed
  refine ⟨t, ?_, ?_⟩
  · rw [applyEffects_cons_run s game (applyEffect_pour_run s hk.oil), applyEffects_nil_run, hrun]
  · rw [ht, hpoured]

/-- Lighting the lamp sets the lamp's flag and the two ending marks, and the global pass after
it does nothing. -/
theorem applyEffects_light_run (hs : Consistent s) :
    ∃ t, (applyEffects game (some [⟨.set, .str "LAMP_LIT", .bool true⟩,
        ⟨.set, .str "won", .bool true⟩, ⟨.set, .str "gameOver", .bool true⟩])).run s = .ok () t ∧
      situation t = { situation s with lit := .bool true, won := true, ended := true } := by
  have hlit : Slot.written "LAMP_LIT" = .flag "LAMP_LIT" := written_flag "LAMP_LIT" (by simp)
  have hwon : Slot.written "won" = .won := by simp [Slot.written, Slot.read]
  have hended : Slot.written "gameOver" = .ended := by simp [Slot.written, Slot.read]
  have hsituation : situation
      { s with flags := s.flags.set (.str "LAMP_LIT") (.bool true), won := true, ended := true } =
        { situation s with lit := .bool true, won := true, ended := true } := by
    simp [situation, Slot.value, Flags.get?_set_text, GameState.usedGate]
  obtain ⟨k, hk⟩ := hs.fuel
  refine ⟨_, ?_, hsituation⟩
  rw [applyEffects_cons_run s game (t := { s with flags := s.flags.set (.str "LAMP_LIT") (.bool true) })
      (by simp only [applyEffect_set, hlit]; rfl),
    applyEffects_cons_run _ game
      (t := { s with flags := s.flags.set (.str "LAMP_LIT") (.bool true), won := true })
      (by simp only [applyEffect_set, hwon]; rfl),
    applyEffects_cons_run _ game
      (t := { s with flags := s.flags.set (.str "LAMP_LIT") (.bool true), won := true, ended := true })
      (by simp only [applyEffect_set, hended]; rfl),
    applyEffects_nil_run, globalPass_run_fuelled _
      (hk.of_eq (by rw [hsituation]) (by rw [hsituation]) (by rw [hsituation]))]

/-- The effect lists that play on the lighthouse applies, each with what holds when it does. -/
inductive Fit (s : GameState) : Option (List Effect) → Prop
  /-- No effects at all: not even the global pass runs. -/
  | none : Fit s none
  /-- A flag that the situation does not read is set. -/
  | quiet {key : String} (v : Value) : key ∉ lampFlags → Slot.written key = .flag key →
      Fit s (some [⟨.set, .str key, v⟩])
  /-- The keeper hands over the key. -/
  | key : Fit s (some [⟨.addItem, .str "brass-key", .null⟩])
  /-- A measure is poured into a reservoir that holds fewer than two. -/
  | pour {k : Nat} : (situation s).oil = .int k → k < 2 → Fit s (some [⟨.add, .str "oil", .int 1⟩])
  /-- The lamp is lit in its room, with the matches carried. -/
  | light : s.room = .str "lamp-room" → .str "matches" ∈ s.inventory →
      Fit s (some [⟨.set, .str "LAMP_LIT", .bool true⟩, ⟨.set, .str "won", .bool true⟩,
        ⟨.set, .str "gameOver", .bool true⟩])

/-- Every effect list the lighthouse applies, where it applies it, runs through and keeps the
situation in step. -/
theorem applyEffects_consistent {effects : Option (List Effect)} (hs : Consistent s)
    (hfit : Fit s effects) : ∃ t, (applyEffects game effects).run s = .ok () t ∧ Consistent t := by
  cases hfit with
  | none => exact ⟨s, rfl, hs⟩
  | quiet v hkey hw =>
    exact ⟨_, applyEffects_quiet_run s hkey hw v hs, hs.of_situation (situation_setFlag_quiet s hkey v)⟩
  | key =>
    refine ⟨_, applyEffects_key_run s hs, ?_⟩
    unfold Consistent
    rw [situation_addItem]
    exact Situation.Sound.take hs (by simp [carriable])
  | pour hoil hlt =>
    rename_i k
    obtain ⟨j, hj⟩ := hs.fuel
    -- the fuel's count is the oil's
    have hjk : j = k := by
      have h := hj.oil.symm.trans hoil
      simp only [Value.int.injEq, Nat.cast_inj] at h
      exact h
    subst hjk
    obtain ⟨t, hrun, ht⟩ := applyEffects_pour_run s hj hlt
    refine ⟨t, hrun, ?_⟩
    unfold Consistent
    rw [ht]
    exact Situation.Sound.pour hs hlt
  | light hroom hmatches =>
    obtain ⟨t, hrun, ht⟩ := applyEffects_light_run s hs
    refine ⟨t, hrun, ?_⟩
    unfold Consistent
    rw [ht]
    exact Situation.Sound.light hs hroom hmatches

end Effects

-----------------------------------------------------------------------------------------------
-- Room triggers
-----------------------------------------------------------------------------------------------

section Triggers

variable (s : GameState)

/-- A lone `once` condition passes with its gate exactly when the gate is unused. -/
theorem checkAll_once (g : Game) (gate v : Value) :
    checkAll g s [.leaf .once gate v] =
      .ok (if s.usedGate gate then .fail else ⟨true, [gate]⟩) := by
  cases h : s.usedGate gate <;>
    simp [checkAll, evalAll, evalCondition, evalLeaf, h, Outcome.fail, Outcome.pass, bind,
      Except.bind, pure, Except.pure]

/-- The first climb of the stairs: its gate is used and `SEEN_TOWER` set, once. -/
theorem roomTriggers_tower_run (hs : Consistent s) :
    (roomTriggers game tower.triggers).run s =
      if s.usedGate (.str "event.tower_entered") then .ok [] s
      else .ok [.plain "Your footsteps ring on the iron stairs."]
        { s.commitMarks [.str "event.tower_entered"] with
          flags := s.flags.set (.str "SEEN_TOWER") (.bool true) } := by
  have hmarked : Consistent (s.commitMarks [.str "event.tower_entered"]) :=
    hs.of_situation (situation_commitMarks s (by simp [primedGate]))
  have hkey : "SEEN_TOWER" ∉ lampFlags := by simp [lampFlags]
  have hpass := applyEffects_quiet_run _ hkey (written_flag "SEEN_TOWER" (by simp)) (.bool true)
    hmarked
  unfold roomTriggers
  rw [show tower.triggers = [⟨[.leaf .once (.str "event.tower_entered") .null],
    [⟨.set, .str "SEEN_TOWER", .bool true⟩], .str "first-climb",
    .plain "Your footsteps ring on the iron stairs."⟩] from rfl]
  simp only [List.forIn_cons, List.forIn_nil]
  simp only [EStateM.run, bind, EStateM.bind, get, getThe, MonadStateOf.get, EStateM.get,
    checkAll_once, Act.ofExcept, pure, EStateM.pure] at hpass ⊢
  cases h : s.usedGate (.str "event.tower_entered")
  · simp only [Bool.false_eq_true, if_false, if_true, modify, modifyGet,
      MonadStateOf.modifyGet, EStateM.modifyGet, EStateM.bind, hpass]
    rfl
  · rfl

/-- The triggers of every room fire without touching the situation, and their messages use no
gates. -/
theorem roomTriggers_calm (hs : Consistent s) {room : Room} (hroom : room ∈ game.rooms) :
    ∃ messages t, (roomTriggers game room.triggers).run s = .ok messages t ∧
      situation t = situation s ∧ ∀ m ∈ messages, m.gates = [] := by
  simp only [game, List.mem_cons, List.not_mem_nil, or_false] at hroom
  rcases hroom with rfl | rfl | rfl
  · exact ⟨[], s, rfl, rfl, by simp⟩
  · rw [roomTriggers_tower_run s hs]
    split
    · exact ⟨[], s, rfl, rfl, by simp⟩
    · refine ⟨_, _, rfl, ?_, by simp [Text.gates]⟩
      show situation { s.commitMarks [.str "event.tower_entered"] with
        flags := (s.commitMarks [.str "event.tower_entered"]).flags.set (.str "SEEN_TOWER")
          (.bool true) } = _
      rw [situation_setFlag_quiet _ (by simp [lampFlags]), situation_commitMarks s (by simp [primedGate])]
  · exact ⟨[], s, rfl, rfl, by simp⟩

end Triggers


-----------------------------------------------------------------------------------------------
-- Triples for the engine's actions on the lighthouse
-----------------------------------------------------------------------------------------------

/-- The postcondition of an action whose every run keeps the situation of `u`. -/
abbrev calmPost {α : Type} (u : GameState) : PostCond α (.except Fault (.arg GameState .pure)) :=
  post⟨fun _ s => ⌜situation s = situation u⌝, fun _ s => ⌜situation s = situation u⌝⟩

/-- The postcondition of an action whose every run ends in step. -/
abbrev keptPost {α : Type} : PostCond α (.except Fault (.arg GameState .pure)) :=
  post⟨fun _ s => ⌜Consistent s⌝, fun _ s => ⌜Consistent s⌝⟩

/-- An action that only reads the state keeps its situation. -/
theorem calm_of_readsOnly {α : Type} {x : Act α} (h : ReadsOnly x) (u : GameState) :
    ⦃fun s => ⌜s = u⌝⦄ x ⦃calmPost u⦄ :=
  triple_of_runState (by rw [h u])

/-- A state whose situation is that of one in step is in step. -/
theorem Consistent.of_situation_eq {s t : GameState} (hs : Consistent s)
    (h : situation t = situation s) : Consistent t :=
  hs.of_situation h

/-- A turn keeps a state in step. -/
theorem Consistent.turn {s : GameState} {n m : Num} (hs : Consistent s)
    (hn : s.turns.num? = some n) (hm : n.add (.int 1) = .ok m) :
    Consistent { s with turns := Value.ofNum m } := by
  obtain ⟨i, hi⟩ := hs.turns
  simp only [situation] at hi
  rw [hi] at hn
  cases hn
  cases hm
  exact Situation.Sound.turn hs (i + 1)

section Specs

variable (u : GameState)

/-- Showing the win message keeps the situation: it offers no gates. -/
@[spec high]
theorem ending_calm : ⦃fun s => ⌜s = u⌝⦄ ending game ⦃calmPost u⦄ :=
  calm_of_readsOnly (readsOnly_renderText rfl) u

/-- Showing a text that offers no gates keeps the situation. -/
@[spec high]
theorem renderText_calm (text : Text) (htext : text.gates = []) :
    ⦃fun s => ⌜s = u⌝⦄ renderText game text ⦃calmPost u⦄ :=
  calm_of_readsOnly (readsOnly_renderText htext) u

/-- The triggers of a lighthouse room keep the situation of a state in step, and the messages of
those that fire offer no gates. -/
@[spec high]
theorem roomTriggers_value (hu : Consistent u) (room : Room) (hroom : room ∈ game.rooms) :
    ⦃fun s => ⌜s = u⌝⦄ roomTriggers game room.triggers
    ⦃post⟨fun messages s => ⌜situation s = situation u ∧ ∀ m ∈ messages, m.gates = []⌝,
      fun _ s => ⌜situation s = situation u⌝⟩⦄ := by
  intro s hs
  obtain rfl : s = u := hs
  obtain ⟨messages, t, hrun, ht, hgates⟩ := roomTriggers_calm s hu hroom
  simp only [WP.wp, PredTrans.apply, hrun]
  exact ⟨ht, hgates⟩

end Specs

-----------------------------------------------------------------------------------------------
-- The texts of the lighthouse use no gates
-----------------------------------------------------------------------------------------------

/-- No item of the lighthouse has a close-look text that offers gates. -/
theorem examineText_gates {item : Item} (hitem : item ∈ game.allItems) :
    item.examineText.gates = [] := by
  simp only [Game.allItems, game, List.flatMap_cons, List.flatMap_nil, jetty, tower, lampRoom,
    List.append_nil, List.cons_append, List.nil_append, List.mem_cons, List.not_mem_nil,
    or_false] at hitem
  rcases hitem with rfl | rfl | rfl | rfl | rfl | rfl | rfl <;> rfl

/-- No room of the lighthouse has a description that offers gates. -/
theorem description_gates {room : Room} (hroom : room ∈ game.rooms) : room.description.gates = [] := by
  simp only [game, List.mem_cons, List.not_mem_nil, or_false] at hroom
  rcases hroom with rfl | rfl | rfl <;> rfl

/-- The room the player is in is a room of the lighthouse. -/
theorem currentRoom_mem {s : GameState} {room : Room} (h : currentRoom game s = .ok room) :
    room ∈ game.rooms :=
  (currentRoom_ok h).1

/-- An item found in the current room is an item of the lighthouse. -/
theorem itemInRoom_mem {s : GameState} {words : Value} {item : Item}
    (h : itemInRoom game s words = .ok (some item)) : item ∈ game.allItems := by
  obtain ⟨room, hroom, hitem⟩ := itemInRoom_some h
  exact List.mem_flatMap.mpr ⟨room, (currentRoom_ok hroom).1, (List.mem_filter.mp hitem).1⟩

/-- A carried item found by the words is an item of the lighthouse. -/
theorem itemCarried_mem {s : GameState} {words : Value} {item : Item}
    (h : itemCarried game s words = .ok (some item)) : item ∈ game.allItems := by
  obtain ⟨items, hitems, hitem⟩ := itemCarried_some h
  exact (carriedItems_mem hitems hitem).1

section Describing

variable (u : GameState)

/-- A close look at an item of the lighthouse keeps the situation. -/
@[spec high]
theorem describeItem_calm (item : Item) (hitem : item ∈ game.allItems) :
    ⦃fun s => ⌜s = u⌝⦄ describeItem game item ⦃calmPost u⦄ := by
  have hgates := examineText_gates hitem
  unfold describeItem
  mvcgen with grind

/-- Looking at what the words name keeps the situation. -/
@[spec high]
theorem inspect_calm : ⦃fun s => ⌜s = u⌝⦄ inspect game words ⦃calmPost u⦄ := by
  unfold inspect
  mvcgen [Act.ofExcept] with grind [itemInRoom_mem, itemCarried_mem]

/-- Describing the current room keeps the situation of a state in step. -/
@[spec high]
theorem describeRoom_calm (hu : Consistent u) :
    ⦃fun s => ⌜s = u⌝⦄ describeRoom game ⦃calmPost u⦄ := by
  unfold describeRoom
  mvcgen [Act.ofExcept] invariants
    · calmPost u
    · calmPost u
    · calmPost u
    · calmPost u
    · calmPost u
  with grind [→ currentRoom_mem, description_gates, Consistent.of_situation_eq]

end Describing

-----------------------------------------------------------------------------------------------
-- Where play takes the lighthouse's parts from
-----------------------------------------------------------------------------------------------

section Parts

variable {s : GameState}

/-- An exit the words name is an exit of a room of the lighthouse. -/
theorem exitNamed_exit {words : Value} {i : Nat} {ex : Exit}
    (h : exitNamed game s words = .ok (some (i, ex))) : ∃ room ∈ game.rooms, ex ∈ room.exits := by
  obtain ⟨room, hroom, hex⟩ := exitNamed_some h
  exact ⟨room, currentRoom_mem hroom, hex⟩

/-- Every exit leads to one of the rooms, and its message uses no gates. -/
theorem exitNamed_target {words : Value} {i : Nat} {ex : Exit}
    (h : exitNamed game s words = .ok (some (i, ex))) :
    ex.target ∈ roomIds ∧ ex.blockedMessage.gates = [] := by
  obtain ⟨room, hroom, hex⟩ := exitNamed_exit h
  simp only [game, List.mem_cons, List.not_mem_nil, or_false] at hroom
  rcases hroom with rfl | rfl | rfl <;>
    simp only [jetty, tower, lampRoom, List.mem_cons, List.not_mem_nil, or_false] at hex <;>
    rcases hex with rfl | rfl <;> simp [roomIds, Text.gates]

/-- The items that can be taken are those that can be carried; none has effects or a text of
its own when taken. -/
theorem itemInRoom_takeable {words : Value} {item : Item}
    (h : itemInRoom game s words = .ok (some item)) :
    (item.takeable.truthy = true → item.id ∈ carriable) ∧ item.onTake = none ∧
      item.onTakeText.gates = [] := by
  have hitem := itemInRoom_mem h
  simp only [Game.allItems, game, List.flatMap_cons, List.flatMap_nil, jetty, tower, lampRoom,
    List.append_nil, List.cons_append, List.nil_append, List.mem_cons, List.not_mem_nil,
    or_false] at hitem
  rcases hitem with rfl | rfl | rfl | rfl | rfl | rfl | rfl <;>
    simp [carriable, Text.gates, crate, matchbox, brassKey, keeperBelt, oilCan, lamp, dial,
      Value.truthy]

end Parts

/-- Entering a room of the lighthouse keeps a game that has not ended in step. -/
theorem Consistent.enter {s : GameState} (hs : Consistent s) (hended : ¬s.ended = true)
    {room : Value} (hroom : room ∈ roomIds) : Consistent { s with room := room } := by
  have hlive : s.ended = false := by simpa using hended
  exact Situation.Sound.enter hs hroom (hs.ended.symm.trans hlive)

/-- Recording a visit keeps a state in step. -/
theorem Consistent.visit {s : GameState} (hs : Consistent s) (room : Value) :
    Consistent (s.visit room) :=
  hs.of_situation (situation_visit s room)

/-- Taking an item that can be carried keeps a state in step. -/
theorem Consistent.take {s : GameState} (hs : Consistent s) {id : Value} (hid : id ∈ carriable) :
    Consistent (s.addItem id) := by
  unfold Consistent
  rw [situation_addItem]
  exact Situation.Sound.take hs hid

/-- The global pass keeps a state in step. -/
@[spec high]
theorem globalPass_kept : ⦃fun s => ⌜Consistent s⌝⦄ globalPass game ⦃keptPost⦄ := by
  intro s hs
  obtain ⟨k, hk⟩ := hs.fuel
  simp only [WP.wp, PredTrans.apply, globalPass_run_fuelled s hk]
  exact hs

/-- Effects that fit the state keep it in step, together with the global pass that follows them. -/
@[spec high]
theorem applyEffects_kept (effects : Option (List Effect)) :
    ⦃fun s => ⌜Consistent s ∧ Fit s effects⌝⦄ applyEffects game effects ⦃keptPost⦄ := by
  intro s ⟨hs, hfit⟩
  obtain ⟨t, hrun, ht⟩ := applyEffects_consistent s hs hfit
  simp only [WP.wp, PredTrans.apply, hrun]
  exact ht

-----------------------------------------------------------------------------------------------
-- What the player can use, and to what end
-----------------------------------------------------------------------------------------------

section Using

variable {s : GameState}

/-- The lamp cannot be carried, so it is within reach only in the lamp room. -/
theorem lamp_room_of_inReach (hs : Consistent s) (h : InReach game s lamp) :
    s.room = .str "lamp-room" := by
  rcases h with ⟨room, hroom, hitem⟩ | ⟨items, hitems, hitem⟩
  · have hmem := currentRoom_mem hroom
    have hid := (currentRoom_ok hroom).2
    have hlamp := (List.mem_filter.mp hitem).1
    simp only [game, List.mem_cons, List.not_mem_nil, or_false] at hmem
    rcases hmem with rfl | rfl | rfl
    · simp [jetty, lamp, crate, matchbox] at hlamp
    · simp [tower, lamp, brassKey, keeperBelt, oilCan] at hlamp
    · exact Value.sameItem_text.mp hid
  · obtain ⟨-, x, hx, hid⟩ := carriedItems_mem hitems hitem
    have hcarried := hs.carried x hx
    rw [show x = .str "lamp" from Value.sameItem_text.mp hid] at hcarried
    simp [carriable] at hcarried

/-- The matches lie in the crate, so they are within reach only when carried. -/
theorem matches_of_inReach (h : InReach game s matchbox) : .str "matches" ∈ s.inventory := by
  rcases h with ⟨room, hroom, hitem⟩ | ⟨items, hitems, hitem⟩
  · have hopen := (List.mem_filter.mp hitem).2
    simp [matchbox, Value.truthy] at hopen
  · obtain ⟨-, x, hx, hid⟩ := carriedItems_mem hitems hitem
    rwa [← show x = .str "matches" from Value.sameItem_text.mp hid]

/-- Only the lamp and the dial can be used. -/
theorem useActions_mem {item : Item} {a : UseAction} (hitem : item ∈ game.allItems)
    (ha : a ∈ item.useActions) :
    (item = lamp ∧ a ∈ lamp.useActions) ∨ (item = dial ∧ a ∈ dial.useActions) := by
  simp only [Game.allItems, game, List.flatMap_cons, List.flatMap_nil, jetty, tower, lampRoom,
    List.append_nil, List.cons_append, List.nil_append, List.mem_cons, List.not_mem_nil,
    or_false] at hitem
  rcases hitem with rfl | rfl | rfl | rfl | rfl | rfl | rfl <;>
    first
    | exact absurd ha (by simp [crate, matchbox, brassKey, keeperBelt, oilCan])
    | exact .inl ⟨rfl, ha⟩
    | exact .inr ⟨rfl, ha⟩

/-- The only item whose id is `matches` is the box of matches. -/
theorem eq_matchbox {item : Item} (hitem : item ∈ game.allItems) (hid : item.id = .str "matches") :
    item = matchbox := by
  simp only [Game.allItems, game, List.flatMap_cons, List.flatMap_nil, jetty, tower, lampRoom,
    List.append_nil, List.cons_append, List.nil_append, List.mem_cons, List.not_mem_nil,
    or_false] at hitem
  rcases hitem with rfl | rfl | rfl | rfl | rfl | rfl | rfl <;>
    simp_all [crate, matchbox, brassKey, keeperBelt, oilCan, lamp, dial]

/-- Oil is poured only while the reservoir holds fewer than two measures. -/
theorem checkAll_lowOil {k : Int} (hoil : (situation s).oil = .int k) :
    checkAll game s [.leaf .lt (.str "oil") (.int 2)] =
      .ok (if k < 2 then ⟨true, []⟩ else .fail) := by
  simp only [checkAll, evalAll, evalCondition, evalLeaf, read_text]
  simp only [situation] at hoil
  simp [Slot.read, flagKey, hoil, Value.toNumber, compareWith, Value.num?, Num.lt_int, bind,
    Except.bind, pure, Except.pure, Outcome.ofBool, Outcome.pass]
  by_cases hlow : k < 2
  · simp [show ¬1 < k by omega]
  · simp [show 1 < k by omega]

/-- An action chosen for items within reach uses no gates, answers with a text that uses none,
and applies effects that fit: pouring only below two measures, and lighting only in the lamp
room with the matches carried. -/
theorem chosen_fit (hs : Consistent s) {source : Item} {target : Option Item} {c : UseChoice}
    (hsource : InReach game s source) (htarget : ∀ t, target = some t → InReach game s t)
    (hc : Chosen game s source target c) :
    c.marks = [] ∧ c.action.response.gates = [] ∧ Fit s c.action.effects := by
  have hmarks : Condition.gatesOf c.action.requires = [] → c.marks = [] :=
    fun hgates => marks_nil_of_gatesOf hgates hc.passes
  have hpasses := hc.passes
  have hfits := hc.fits
  rcases useActions_mem hsource.mem_allItems hc.mem with ⟨rfl, ha⟩ | ⟨rfl, ha⟩
  · simp only [lamp, List.mem_cons, List.not_mem_nil, or_false] at ha
    rcases ha with ha | ha | ha | ha <;> rw [ha] at hmarks hpasses hfits ⊢ <;>
      refine ⟨hmarks rfl, rfl, ?_⟩
    · -- pouring: the conditions pass only below two measures
      obtain ⟨k, hk⟩ := hs.fuel
      rw [checkAll_lowOil hk.oil] at hpasses
      split_ifs at hpasses with hlow
      · exact .pour hk.oil (by exact_mod_cast hlow)
      · simp [Outcome.fail] at hpasses
    · exact .none
    · -- lighting: the lamp and the matches are both within reach
      obtain ⟨t, rfl, hid⟩ : ∃ t, target = some t ∧ t.id.equals (.str "matches") = true := by
        cases target with
        | none => simp [targetFits, Value.truthy] at hfits
        | some t => exact ⟨t, rfl, by simpa [targetFits, Value.truthy] using hfits⟩
      have hmatch := eq_matchbox (htarget t rfl).mem_allItems (Value.equals_str.mp hid)
      subst hmatch
      exact .light (lamp_room_of_inReach hs hsource) (matches_of_inReach (htarget _ rfl))
    · exact .none
  · simp only [dial, List.mem_cons, List.not_mem_nil, or_false] at ha
    rcases ha with ha | ha <;> rw [ha] at hmarks ⊢ <;> refine ⟨hmarks rfl, rfl, ?_⟩
    · exact .quiet _ (by simp [lampFlags]) (written_flag "ROTATION" (by simp))
    · exact .none

/-- The action a use chooses, between an item within reach and its target, fits. -/
theorem choice_fit (hs : Consistent s) {item : Item} {targetWords number : Value}
    {target : Option Item} {c : UseChoice} (hitem : InReach game s item)
    (htarget : useTarget game s targetWords = .ok target)
    (hc : chooseEither game s item target number = .ok (some c)) :
    c.marks = [] ∧ c.action.response.gates = [] ∧ Fit s c.action.effects := by
  have hreach : ∀ t, target = some t → InReach game s t := by
    rintro t rfl
    exact useTarget_some htarget
  rcases chooseEither_some hc with hown | ⟨t, rfl, hswapped⟩
  · exact chosen_fit hs hitem hreach hown
  · exact chosen_fit hs (hreach t rfl) (fun t' ht' => by cases ht'; exact hitem) hswapped

/-- A chosen action commits no marks, so the state it acts on is the consistent one it was chosen
in. -/
theorem choice_kept (hs : Consistent s) {item : Item} {targetWords number : Value}
    {target : Option Item} {c : UseChoice} (hitem : InReach game s item)
    (htarget : useTarget game s targetWords = .ok target)
    (hc : chooseEither game s item target number = .ok (some c)) :
    Consistent (s.commitMarks c.marks) ∧ Fit (s.commitMarks c.marks) c.action.effects ∧
      c.action.response.gates = [] := by
  obtain ⟨hmarks, hgates, hfit⟩ := choice_fit hs hitem htarget hc
  rw [hmarks, GameState.commitMarks_nil]
  exact ⟨hs, hfit, hgates⟩

end Using

-----------------------------------------------------------------------------------------------
-- What the keeper says
-----------------------------------------------------------------------------------------------

section Talking

variable {s : GameState}

/-- The only character is the keeper. -/
theorem npcNamed_keeper {words : Value} {npc : Npc} (h : npcNamed game s words = .ok (some npc)) :
    npc = keeper := by
  obtain ⟨room, hroom, hnpc⟩ := npcNamed_some h
  have hmem := currentRoom_mem hroom
  simp only [game, List.mem_cons, List.not_mem_nil, or_false] at hmem
  rcases hmem with rfl | rfl | rfl
  · simpa [jetty] using hnpc
  · simp [tower] at hnpc
  · simp [lampRoom] at hnpc

/-- An entry read at a position with a default is an entry of the list or the default. -/
theorem getD_mem_or {α : Type} (l : List α) (k : Nat) (d : α) : l.getD k d ∈ l ∨ l.getD k d = d := by
  rw [List.getD_eq_getElem?_getD]
  cases h : l[k]? with
  | none => exact .inr rfl
  | some x => exact .inl (List.mem_of_getElem? h)

/-- A line the keeper offers, or the default line, is one of the keeper's, and the gates it
offers are not the lamp's. -/
theorem offered_line {lines : List (DialogueLine × List Value)}
    (hlines : offeredLines game s keeper.dialogue = .ok lines) {p : DialogueLine × List Value}
    (hp : p ∈ lines ∨ p = default) : (p.1 ∈ keeper.dialogue ∨ p.1 = default) ∧ primedGate ∉ p.2 := by
  rcases hp with hp | rfl
  · obtain ⟨hmem, hcheck⟩ := offeredLines_mem hlines p hp
    refine ⟨.inl hmem, fun hgate => ?_⟩
    have hoffered := checkAll_marks hcheck primedGate hgate
    simp only [keeper, List.mem_cons, List.not_mem_nil, or_false] at hmem
    rcases hmem with hline | hline | hline <;> rw [hline] at hoffered <;>
      simp [Condition.gatesOf, Condition.gates, primedGate] at hoffered
  · exact ⟨.inr rfl, List.not_mem_nil⟩

/-- The line an option chooses from what the character named offers, the default when out of
range, is one of the keeper's or the default, and uses none of the lamp's gates. -/
theorem offered_getD {words : Value} {npc : Npc} {lines : List (DialogueLine × List Value)}
    (hnpc : npcNamed game s words = .ok (some npc))
    (hlines : offeredLines game s npc.dialogue = .ok lines) (k : Nat) :
    ((lines.getD k default).1 ∈ keeper.dialogue ∨ (lines.getD k default).1 = default) ∧
      primedGate ∉ (lines.getD k default).2 := by
  rw [npcNamed_keeper hnpc] at hlines
  exact offered_line hlines (getD_mem_or lines k default)

end Talking

/-- Using gates other than the lamp's keeps a state in step. -/
theorem Consistent.commitMarks {s : GameState} (hs : Consistent s) {gates : List Value}
    (hgates : primedGate ∉ gates) : Consistent (s.commitMarks gates) :=
  hs.of_situation (situation_commitMarks s hgates)

-----------------------------------------------------------------------------------------------
-- The verbs keep the situation in step
-----------------------------------------------------------------------------------------------

section Verbs

/-- Looking keeps a state in step. -/
@[spec high]
theorem look_kept (target : Value) : ⦃fun s => ⌜Consistent s⌝⦄ look game target ⦃keptPost⦄ := by
  simp only [look, tick]
  mvcgen [Act.ofExcept] with grind [Consistent.turn, Consistent.of_situation_eq]

/-- Examining keeps a state in step. -/
@[spec high]
theorem examine_kept (target : Value) :
    ⦃fun s => ⌜Consistent s⌝⦄ examine game target ⦃keptPost⦄ := by
  simp only [examine, tick]
  mvcgen [Act.ofExcept] with grind [Consistent.turn, Consistent.of_situation_eq]

/-- No hint of the lighthouse has a text that offers gates. -/
theorem hintText_gates {h : Hint} (hh : h ∈ game.hints) : h.text.gates = [] := by
  simp only [game, List.mem_cons, List.not_mem_nil, or_false] at hh
  rcases hh with rfl | rfl | rfl <;> rfl

/-- Talking to a character keeps a state in step. -/
@[spec high]
theorem talk_kept (words : Value) : ⦃fun s => ⌜Consistent s⌝⦄ talk game words ⦃keptPost⦄ := by
  simp only [talk, tick]
  mvcgen [Act.ofExcept] with grind [Consistent.turn, Consistent.of_situation_eq]

/-- Listing what is carried keeps a state in step. -/
@[spec high]
theorem inventory_kept : ⦃fun s => ⌜Consistent s⌝⦄ inventory game ⦃keptPost⦄ := by
  simp only [inventory]
  mvcgen [Act.ofExcept, List.mapM_pure] with grind [Consistent.of_situation_eq]

/-- The status as data keeps a state in step. -/
@[spec high]
theorem status_kept : ⦃fun s => ⌜Consistent s⌝⦄ status game ⦃keptPost⦄ := by
  simp only [status]
  mvcgen [Act.ofExcept]

/-- The status as text keeps a state in step. -/
@[spec high]
theorem statusMessage_kept : ⦃fun s => ⌜Consistent s⌝⦄ statusMessage game ⦃keptPost⦄ := by
  simp only [statusMessage]
  mvcgen [Act.ofExcept] with grind [Consistent.of_situation_eq]

/-- Asking for a hint keeps a state in step. -/
@[spec high]
theorem hint_kept : ⦃fun s => ⌜Consistent s⌝⦄ hint game ⦃keptPost⦄ := by
  simp only [hint, tick]
  mvcgen [Act.ofExcept] invariants
    · keptPost
  with grind [Consistent.turn, Consistent.of_situation_eq, hintText_gates]

/-- Describing the current room keeps a state in step. -/
@[spec high]
theorem describeRoom_kept : ⦃fun s => ⌜Consistent s⌝⦄ describeRoom game ⦃keptPost⦄ := by
  mvcgen with grind [Consistent.of_situation_eq]

/-- Starting afresh gives a state in step. -/
@[spec high]
theorem startGame_kept : ⦃fun _ => ⌜True⌝⦄ startGame game ⦃keptPost⦄ := by
  have hstart : Consistent ((GameState.initial game.startingRoom game.initialFlags).visit
      (GameState.initial game.startingRoom game.initialFlags).room) :=
    consistent_initial.visit _
  simp only [startGame]
  mvcgen with grind [Consistent.of_situation_eq]

/-- Going through an exit keeps a state in step. -/
@[spec high]
theorem go_kept (direction : Value) : ⦃fun s => ⌜Consistent s⌝⦄ go game direction ⦃keptPost⦄ := by
  simp only [go, tick]
  mvcgen [Act.ofExcept] with
    grind [Consistent.turn, Consistent.of_situation_eq, Consistent.enter, Consistent.visit,
      → exitNamed_target]

/-- Taking an item keeps a state in step. -/
@[spec high]
theorem take_kept (words : Value) : ⦃fun s => ⌜Consistent s⌝⦄ take game words ⦃keptPost⦄ := by
  simp only [take, tick, refusal]
  unfold renderRaw
  mvcgen [Act.ofExcept] with
    grind [Consistent.turn, Consistent.of_situation_eq, Consistent.take, → itemInRoom_takeable]

/-- Saying one of the keeper's lines, or the default line, with gates other than the lamp's keeps a
state in step. -/
@[spec high]
theorem sayLine_kept (line : DialogueLine) (marks : List Value)
    (hline : line ∈ keeper.dialogue ∨ line = default) (hmarks : primedGate ∉ marks) :
    ⦃fun s => ⌜Consistent s⌝⦄ sayLine game line marks ⦃keptPost⦄ := by
  -- the keeper's lines set no flag and give nothing themselves; the key comes as an effect
  obtain ⟨hresponse, hsets, hgives, hfit⟩ : line.response.gates = [] ∧
      line.setsFlag.truthy = false ∧ line.givesItem.truthy = false ∧ ∀ s, Fit s line.effects := by
    rcases hline with hline | rfl
    · simp only [keeper, List.mem_cons, List.not_mem_nil, or_false] at hline
      rcases hline with rfl | rfl | rfl
      · exact ⟨rfl, rfl, rfl, fun _ => .none⟩
      · exact ⟨rfl, rfl, rfl, fun _ => .key⟩
      · exact ⟨rfl, rfl, rfl, fun _ => .none⟩
    · exact ⟨rfl, rfl, rfl, fun _ => .none⟩
  simp only [sayLine]
  mvcgen [Act.ofExcept] with grind [Consistent.of_situation_eq, Consistent.commitMarks]

/-- Choosing a line by its number keeps a state in step. -/
@[spec high]
theorem talkOption_kept (words option : Value) :
    ⦃fun s => ⌜Consistent s⌝⦄ talkOption game words option ⦃keptPost⦄ := by
  simp only [talkOption, tick]
  mvcgen [Act.ofExcept] with grind [Consistent.turn, Consistent.of_situation_eq, offered_getD]

/-- Using an item keeps a state in step. -/
@[spec high]
theorem use_kept (words targetWords number : Value) :
    ⦃fun s => ⌜Consistent s⌝⦄ use game words targetWords number ⦃keptPost⦄ := by
  simp only [use, tick]
  mvcgen [Act.ofExcept] with
    grind [Consistent.turn, Consistent.of_situation_eq, → currentRoom_mem, → choice_kept]

end Verbs


-----------------------------------------------------------------------------------------------
-- Typed commands and requests keep the state in step
-----------------------------------------------------------------------------------------------

/-- Every order read from a typed command ends in step. -/
theorem Order.run_kept (order : Command.Order) :
    ⦃fun s => ⌜Consistent s⌝⦄ order.run game ⦃keptPost⦄ := by
  cases order <;> simp only [Command.Order.run] <;> mvcgen

/-- A typed command keeps the state in step, also when it cannot be read. -/
theorem Consistent.dispatch {s : GameState} (hs : Consistent s) (cmd : String) :
    Consistent (runState (Command.dispatch game cmd) s) := by
  unfold runState
  rw [Command.dispatch_run]
  cases Command.read cmd with
  | error e => exact hs
  | ok order => exact runState_of_pre (Order.run_kept order) hs

/-- Every request but reopening keeps the play state in step: the verbs, typed commands and
starting afresh by their triples, the questions because they change nothing. -/
theorem Consistent.playState {s : GameState} (hs : Consistent s) {request : Request}
    (hplay : request ≠ .reopen) : Consistent (request.playState game s) := by
  cases request with
  | startGame => exact runState_of_pre startGame_kept trivial
  | look target => exact runState_of_pre (look_kept target) hs
  | examine target => exact runState_of_pre (examine_kept target) hs
  | go direction => exact runState_of_pre (go_kept direction) hs
  | take item => exact runState_of_pre (take_kept item) hs
  | talk npc => exact runState_of_pre (talk_kept npc) hs
  | talkOption npc option => exact runState_of_pre (talkOption_kept npc option) hs
  | use item target number => exact runState_of_pre (use_kept item target number) hs
  | inventory => exact runState_of_pre inventory_kept hs
  | hint => exact runState_of_pre hint_kept hs
  | status => exact runState_of_pre status_kept hs
  | statusMessage => exact runState_of_pre statusMessage_kept hs
  | describeRoom => exact runState_of_pre describeRoom_kept hs
  | command text =>
    cases text with
    | str typed => exact hs.dispatch typed
    | _ => exact hs
  | isOver | hasWon | snapshotText => exact hs
  | reopen => exact absurd rfl hplay

/-- A session on the lighthouse stays on it and in step through any requests but reopening, by
induction on the requests. -/
theorem consistent_after {session : Session} (hgame : session.game = game)
    (hs : Consistent session.state) {requests : List Request}
    (hplay : ∀ r ∈ requests, r ≠ .reopen) :
    (session.after requests).game = game ∧ Consistent (session.after requests).state := by
  induction requests generalizing session with
  | nil => exact ⟨hgame, hs⟩
  | cons request rest ih =>
    have hrequest := hplay request List.mem_cons_self
    rw [Session.after_cons, Session.runState_answer hrequest]
    refine ih hgame ?_ fun r hr => hplay r (List.mem_cons_of_mem _ hr)
    rw [hgame]
    exact hs.playState hrequest


-----------------------------------------------------------------------------------------------
-- The lamp follows its oil through any play
-----------------------------------------------------------------------------------------------

/-- The lamp follows its oil in a state: the reservoir holds 0, 1 or 2 measures, the lamp is
ready exactly when it holds two and its gate is used exactly when it is ready, and a win comes
only with the game over, the lamp lit, in the lamp room with the matches carried. -/
structure LampFollowsOil (s : GameState) : Prop where
  oil : ∃ k : Nat, k ≤ 2 ∧ s.flags.get? (.str "oil") = some (.int k) ∧
    (((Slot.flag "LAMP_READY").value s).truthy = true ↔ k = 2)
  primed : .str "event.lamp_ready" ∈ s.once ↔ ((Slot.flag "LAMP_READY").value s).truthy = true
  won : s.won = true → s.ended = true ∧ ((Slot.flag "LAMP_LIT").value s).truthy = true ∧
    s.room = .str "lamp-room" ∧ .str "matches" ∈ s.inventory

/-- A state in step has its lamp following its oil. -/
theorem Consistent.lampFollowsOil {s : GameState} (hs : Consistent s) : LampFollowsOil s := by
  obtain ⟨k, hk⟩ := hs.fuel
  have hready : ((Slot.flag "LAMP_READY").value s).truthy = true ↔ k = 2 := by
    change (situation s).ready.truthy = true ↔ k = 2
    rw [hk.ready]
    split_ifs with h2 <;> simp [Value.truthy, h2]
  refine ⟨⟨k, hk.le, ?_, hready⟩, ?_, fun hwon => ?_⟩
  · have hoil : ((s.flags.get? (.str "oil")).getD .null) = .int k := hk.oil
    cases h : s.flags.get? (.str "oil") <;> simp_all
  · have hprimed : s.usedGate primedGate = decide (k = 2) := hk.primed
    have hused : Value.str "event.lamp_ready" ∈ s.once ↔ s.usedGate primedGate = true :=
      Value.memberOf_text.symm
    rw [hready, hused, hprimed, decide_eq_true_iff]
  · obtain ⟨hroom, hmatches⟩ := hs.won hwon
    have hended : s.ended = s.won := hs.ended
    have hlit : (situation s).lit = .bool (situation s).won := hs.lit
    simp only [situation] at hlit
    exact ⟨hended.trans hwon, by simp [hlit, hwon, Value.truthy], hroom, hmatches⟩

/-- The lamp follows its oil through any play of the lighthouse: from the checked opening,
whatever requests of play follow, typed commands or verbs, the state reached has its lamp
following its oil. -/
theorem lamp_follows_oil {session : Session}
    (hstart : Session.start Shelf.Lighthouse.content false .fresh = .ok session)
    {requests : List Request} (hplay : ∀ r ∈ requests, r ≠ .reopen) :
    LampFollowsOil (session.after requests).state := by
  rw [start_content, Except.ok.injEq] at hstart
  subst hstart
  exact (consistent_after rfl consistent_initial hplay).2.lampFollowsOil

/-- Taking the matches and pouring oil from the opening, the lamp follows its oil. -/
theorem lamp_follows_oil_after_pouring :
    Session.start Shelf.Lighthouse.content false .fresh =
        .ok ⟨Shelf.Lighthouse.content, false, game, GameState.initial (.str "jetty") game.initialFlags⟩ ∧
      LampFollowsOil ((⟨Shelf.Lighthouse.content, false, game,
        GameState.initial (.str "jetty") game.initialFlags⟩ : Session).after
          [.command (.str "take matches"), .command (.str "use can on lamp")]).state :=
  ⟨start_content, lamp_follows_oil start_content (by simp)⟩

end Adventure.Lighthouse
