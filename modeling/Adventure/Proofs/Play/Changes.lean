import Mathlib
import Adventure.Command.Dispatch

/-! Every action ends, finished or failed, in a state the start reaches by a few kinds of `Change`;
what every change keeps, every action keeps. -/

namespace Adventure

/-- The state at the end of a run, whether it finished or failed. -/
def runState {ε σ α : Type} (x : EStateM ε σ α) (s : σ) : σ :=
  match x.run s with
  | .ok _ s' => s'
  | .error _ s' => s'

namespace Play

open Std.Do Adventure.Story

/-- One change that play makes to the state, other than a fresh start and the turn counter. -/
inductive Change : GameState → GameState → Prop
  | visit (s : GameState) (room : Value) : Change s (s.visit room)
  | enter (s : GameState) (room : Value) : Change s { s with room := room }
  | addItem (s : GameState) (id : Value) : Change s (s.addItem id)
  | removeItem (s : GameState) (id : Value) : Change s (s.removeItem id)
  | markOnce (s : GameState) (gate : Value) : Change s (s.markOnce gate)
  | write {s s' : GameState} (path v : Value) : s.write path v = .ok s' → Change s s'
  | insertFlag {s : GameState} {flags : Flags} (key v : Value) :
      s.flags.insert key v = .ok flags → Change s { s with flags := flags }

/-- The states that a state reaches by changes. -/
def Reach (s s' : GameState) : Prop := Relation.ReflTransGen Change s s'

/-- Writing a path sets the room (for the paths `room` and `room.id`), the win mark, the ending
mark, or the flag the path names to the value written. -/
theorem GameState.write_cases {s s' : GameState} {path v : Value} (h : s.write path v = .ok s') :
    ((path.isText "room" || path.isText "room.id") = true ∧ ∃ room, s' = { s with room := room }) ∨
      (∃ won, s' = { s with won := won }) ∨ (∃ ended, s' = { s with ended := ended }) ∨
      ∃ key : String, s' = { s with flags := s.flags.set (.str key) v } := by
  unfold GameState.write at h
  by_cases hroom : (path.isText "room" || path.isText "room.id") = true
  · rw [if_pos hroom] at h
    exact .inl ⟨hroom, _, (Except.ok.inj h).symm⟩
  rw [if_neg hroom] at h
  split at h
  · exact .inr (.inl ⟨_, (Except.ok.inj h).symm⟩)
  split at h
  · exact .inr (.inr (.inl ⟨_, (Except.ok.inj h).symm⟩))
  cases hflag : flagOf path with
  | error e => simp [hflag, bind, Except.bind] at h
  | ok key =>
    simp only [hflag, bind, Except.bind, pure, Except.pure, Except.ok.injEq] at h
    exact .inr (.inr (.inr ⟨key, h.symm⟩))

/-- Writing a path changes at most the room, the ending marks and the flags. -/
theorem GameState.write_frame {s s' : GameState} {path v : Value} (h : s.write path v = .ok s') :
    ∃ room ended won flags,
      s' = { s with room := room, ended := ended, won := won, flags := flags } := by
  rcases GameState.write_cases h with ⟨-, _, rfl⟩ | ⟨_, rfl⟩ | ⟨_, rfl⟩ | ⟨_, rfl⟩ <;>
    exact ⟨_, _, _, _, rfl⟩

namespace Reach

variable {s₀ s s' : GameState}

/-- Reaching composes. -/
@[grind →]
theorem trans (h : Reach s₀ s) (h' : Reach s s') : Reach s₀ s' := Relation.ReflTransGen.trans h h'

/-- Every state reaches itself. -/
@[grind .]
theorem refl (s : GameState) : Reach s s := Relation.ReflTransGen.refl

/-- A change after a reach is a reach. -/
theorem tail (h : Reach s₀ s) (step : Change s s') : Reach s₀ s' := Relation.ReflTransGen.tail h step

/-- Recording a visit goes on reaching. -/
@[grind! =>]
theorem visit (h : Reach s₀ s) (room : Value) : Reach s₀ (s.visit room) := h.tail (.visit s room)

/-- Entering a room goes on reaching. -/
@[grind! =>]
theorem enter (h : Reach s₀ s) (room : Value) : Reach s₀ { s with room := room } :=
  h.tail (.enter s room)

/-- Taking an item goes on reaching. -/
@[grind! =>]
theorem addItem (h : Reach s₀ s) (id : Value) : Reach s₀ (s.addItem id) := h.tail (.addItem s id)

/-- Dropping an item goes on reaching. -/
@[grind! =>]
theorem removeItem (h : Reach s₀ s) (id : Value) : Reach s₀ (s.removeItem id) :=
  h.tail (.removeItem s id)

/-- Using a gate goes on reaching. -/
@[grind! =>]
theorem markOnce (h : Reach s₀ s) (gate : Value) : Reach s₀ (s.markOnce gate) :=
  h.tail (.markOnce s gate)

/-- Using gates one after the other goes on reaching. -/
@[grind! =>]
theorem commitMarks (h : Reach s₀ s) (gates : List Value) : Reach s₀ (s.commitMarks gates) := by
  induction gates generalizing s with
  | nil => exact h
  | cons g gs ih => exact ih (h.markOnce g)

/-- Writing a path goes on reaching. -/
@[grind →]
theorem write {path v : Value} (h : Reach s₀ s) (hw : s.write path v = .ok s') : Reach s₀ s' :=
  h.tail (.write path v hw)

/-- Inserting a flag goes on reaching. -/
@[grind →]
theorem insertFlag {key v : Value} {flags : Flags} (h : Reach s₀ s)
    (hf : s.flags.insert key v = .ok flags) : Reach s₀ { s with flags := flags } :=
  h.tail (.insertFlag key v hf)

end Reach

/-- A property that every change keeps. -/
def Stable (P : GameState → Prop) : Prop := ∀ s s', Change s s' → P s → P s'

/-- A stable property holds of every state that a state where it holds reaches. -/
theorem Stable.reach {P : GameState → Prop} (hP : Stable P) {s s' : GameState} (h : Reach s s')
    (hs : P s) : P s' := by
  induction h with
  | refl => exact hs
  | tail _ step ih => exact hP _ _ step ih

/-- A triple of the form given here to every action, read on one run. -/
theorem runState_of_triple {α : Type} {x : Act α} {s₀ : GameState} {Q : GameState → Prop}
    (h : ⦃fun s => ⌜s = s₀⌝⦄ x ⦃post⟨fun _ s => ⌜Q s⌝, fun _ s => ⌜Q s⌝⟩⦄) :
    Q (runState x s₀) := by
  have hrun := h s₀ rfl
  unfold runState
  cases hx : x.run s₀ <;> simp only [WP.wp, PredTrans.apply, hx] at hrun <;> exact hrun

/-- A run from a state where `P` holds ends, finished or failed, where the triple's
postcondition says. -/
theorem runState_of_pre {α : Type} {P Q : GameState → Prop} {x : Act α} {s : GameState}
    (h : ⦃fun s => ⌜P s⌝⦄ x ⦃post⟨fun _ s => ⌜Q s⌝, fun _ s => ⌜Q s⌝⟩⦄) (hs : P s) :
    Q (runState x s) :=
  runState_of_triple fun s' hs' => h s' (hs' ▸ hs)

/-- A fact about where the run from `s₀` ends, read back as a triple of that form. -/
theorem triple_of_runState {α : Type} {x : Act α} {s₀ : GameState} {Q : GameState → Prop}
    (h : Q (runState x s₀)) :
    ⦃fun s => ⌜s = s₀⌝⦄ x ⦃post⟨fun _ s => ⌜Q s⌝, fun _ s => ⌜Q s⌝⟩⦄ := by
  intro s hs
  obtain rfl : s = s₀ := hs
  unfold runState at h
  cases hx : x.run s <;> simp only [WP.wp, PredTrans.apply, hx] at h ⊢ <;> exact h

set_option mvcgen.warning false

/-- The postcondition of an action whose every run ends where `s₀` reaches. -/
abbrev reachPost {α : Type} (s₀ : GameState) : PostCond α (.except Fault (.arg GameState .pure)) :=
  post⟨fun _ s => ⌜Reach s₀ s⌝, fun _ s => ⌜Reach s₀ s⌝⟩

-----------------------------------------------------------------------------------------------
-- Effects, triggers and texts
-----------------------------------------------------------------------------------------------

section Actions

variable (s₀ : GameState) (g : Game)

/-- An effect ends where the state reaches. -/
@[spec]
theorem applyEffect_reach (e : Effect) :
    ⦃fun s => ⌜Reach s₀ s⌝⦄ applyEffect e ⦃reachPost s₀⦄ := by
  mvcgen [applyEffect, moveCounter, Act.change, Act.ofExcept] with grind

/-- The global pass ends where the state reaches. -/
@[spec]
theorem globalPass_reach : ⦃fun s => ⌜Reach s₀ s⌝⦄ globalPass g ⦃reachPost s₀⦄ := by
  mvcgen [globalPass, Act.ofExcept] invariants
    · reachPost s₀
    · reachPost s₀
  with grind

/-- Effects and the global pass after them end where the state reaches. -/
@[spec]
theorem applyEffects_reach (effects : Option (List Effect)) :
    ⦃fun s => ⌜Reach s₀ s⌝⦄ applyEffects g effects ⦃reachPost s₀⦄ := by
  mvcgen [applyEffects] invariants
    · reachPost s₀
  with grind

/-- The triggers of a room end where the state reaches. -/
@[spec]
theorem roomTriggers_reach (triggers : List Trigger) :
    ⦃fun s => ⌜Reach s₀ s⌝⦄ roomTriggers g triggers ⦃reachPost s₀⦄ := by
  mvcgen [roomTriggers, Act.ofExcept] invariants
    · reachPost s₀
  with grind

/-- Showing fragments ends where the state reaches. -/
@[spec]
theorem renderFragments_reach (fragments : List Fragment) :
    ⦃fun s => ⌜Reach s₀ s⌝⦄ renderFragments g fragments ⦃reachPost s₀⦄ := by
  mvcgen [renderFragments, Act.ofExcept] invariants
    · reachPost s₀
    · reachPost s₀
  with grind

/-- Showing a text ends where the state reaches. -/
@[spec]
theorem renderText_reach (text : Text) :
    ⦃fun s => ⌜Reach s₀ s⌝⦄ renderText g text ⦃reachPost s₀⦄ := by
  mvcgen [renderText] with grind

/-- Showing a raw text ends where the state reaches. -/
@[spec]
theorem renderRaw_reach (text : Value) :
    ⦃fun s => ⌜Reach s₀ s⌝⦄ renderRaw text ⦃reachPost s₀⦄ := by
  mvcgen [renderRaw]

/-- Showing the win message ends where the state reaches. -/
@[spec]
theorem ending_reach : ⦃fun s => ⌜Reach s₀ s⌝⦄ ending g ⦃reachPost s₀⦄ := by
  mvcgen [ending]

/-- Asking whether an exit is blocked ends where the state reaches. -/
@[spec]
theorem exitBlocked_reach (ex : Exit) :
    ⦃fun s => ⌜Reach s₀ s⌝⦄ exitBlocked g ex ⦃reachPost s₀⦄ := by
  mvcgen [exitBlocked, Act.ofExcept]

/-- Listing an exit ends where the state reaches. -/
@[spec]
theorem exitLabel_reach (ex : Exit) :
    ⦃fun s => ⌜Reach s₀ s⌝⦄ exitLabel g ex ⦃reachPost s₀⦄ := by
  mvcgen [exitLabel, Act.ofExcept] with grind

/-- Describing the current room ends where the state reaches. -/
@[spec]
theorem describeRoom_reach : ⦃fun s => ⌜Reach s₀ s⌝⦄ describeRoom g ⦃reachPost s₀⦄ := by
  -- the loop over the exits stands in four branches, one per choice of the parts before it
  mvcgen [describeRoom, Act.ofExcept] invariants
    · reachPost s₀
    · reachPost s₀
    · reachPost s₀
    · reachPost s₀
    · reachPost s₀
  with grind

/-- A close look at an item ends where the state reaches. -/
@[spec]
theorem describeItem_reach (item : Item) :
    ⦃fun s => ⌜Reach s₀ s⌝⦄ describeItem g item ⦃reachPost s₀⦄ := by
  mvcgen [describeItem] with grind

/-- Looking at what the words name ends where the state reaches. -/
@[spec]
theorem inspect_reach (words : Value) :
    ⦃fun s => ⌜Reach s₀ s⌝⦄ inspect g words ⦃reachPost s₀⦄ := by
  mvcgen [inspect, Act.ofExcept] with grind

/-- Refusing an item ends where the state reaches. -/
@[spec]
theorem refusal_reach (item : Item) (fallback : String) :
    ⦃fun s => ⌜Reach s₀ s⌝⦄ refusal item fallback ⦃reachPost s₀⦄ := by
  mvcgen [refusal] with grind

/-- Reading the lines a character offers ends where the state reaches. -/
@[spec]
theorem availableLines_reach (npc : Npc) :
    ⦃fun s => ⌜Reach s₀ s⌝⦄ availableLines g npc ⦃reachPost s₀⦄ := by
  mvcgen [availableLines, Act.ofExcept]

/-- Saying a line ends where the state reaches. -/
@[spec]
theorem sayLine_reach (line : DialogueLine) (marks : List Value) :
    ⦃fun s => ⌜Reach s₀ s⌝⦄ sayLine g line marks ⦃reachPost s₀⦄ := by
  mvcgen [sayLine, Act.ofExcept] with grind

/-- Finding the item a use names ends where the state reaches. -/
@[spec]
theorem resolveActor_reach (words : Value) :
    ⦃fun s => ⌜Reach s₀ s⌝⦄ resolveActor g words ⦃reachPost s₀⦄ := by
  mvcgen [resolveActor, Act.ofExcept]

/-- Listing what is carried ends where the state reaches. -/
@[spec]
theorem inventory_reach : ⦃fun s => ⌜Reach s₀ s⌝⦄ inventory g ⦃reachPost s₀⦄ := by
  mvcgen [inventory, Act.ofExcept, List.mapM_pure]

/-- The status as data ends where the state reaches. -/
@[spec]
theorem status_reach : ⦃fun s => ⌜Reach s₀ s⌝⦄ status g ⦃reachPost s₀⦄ := by
  mvcgen [status, Act.ofExcept]

/-- The status as text ends where the state reaches. -/
@[spec]
theorem statusMessage_reach : ⦃fun s => ⌜Reach s₀ s⌝⦄ statusMessage g ⦃reachPost s₀⦄ := by
  mvcgen [statusMessage, Act.ofExcept]

end Actions

/-- Every run of an action ends where its own end state reaches. -/
theorem runState_triple {α : Type} (x : Act α) (s₀ : GameState) :
    ⦃fun s => ⌜s = s₀⌝⦄ x ⦃reachPost (runState x s₀)⦄ :=
  triple_of_runState (Reach.refl _)

/-- A turn from `s₀` ends where its run from `s₀` ends. -/
@[spec]
theorem tick_reach (s₀ : GameState) : ⦃fun s => ⌜s = s₀⌝⦄ tick ⦃reachPost (runState tick s₀)⦄ :=
  runState_triple tick s₀

-----------------------------------------------------------------------------------------------
-- The verbs
-----------------------------------------------------------------------------------------------

section Verbs

variable (s₀ : GameState) (g : Game)

/-- Looking ends where the state after its turn reaches. -/
@[spec]
theorem look_reach (target : Value) :
    ⦃fun s => ⌜s = s₀⌝⦄ look g target ⦃reachPost (runState tick s₀)⦄ := by
  mvcgen [look] with grind

/-- Examining ends where the state after its turn reaches. -/
@[spec]
theorem examine_reach (target : Value) :
    ⦃fun s => ⌜s = s₀⌝⦄ examine g target ⦃reachPost (runState tick s₀)⦄ := by
  mvcgen [examine] with grind

/-- Going ends where the state after its turn reaches. -/
@[spec]
theorem go_reach (direction : Value) :
    ⦃fun s => ⌜s = s₀⌝⦄ go g direction ⦃reachPost (runState tick s₀)⦄ := by
  mvcgen [go, Act.ofExcept] with grind

/-- Taking ends where the state after its turn reaches. -/
@[spec]
theorem take_reach (words : Value) :
    ⦃fun s => ⌜s = s₀⌝⦄ take g words ⦃reachPost (runState tick s₀)⦄ := by
  mvcgen [take, Act.ofExcept] with grind

/-- Talking ends where the state after its turn reaches. -/
@[spec]
theorem talk_reach (words : Value) :
    ⦃fun s => ⌜s = s₀⌝⦄ talk g words ⦃reachPost (runState tick s₀)⦄ := by
  mvcgen [talk, Act.ofExcept] with grind

/-- Choosing a line ends where the state after its turn reaches. -/
@[spec]
theorem talkOption_reach (words option : Value) :
    ⦃fun s => ⌜s = s₀⌝⦄ talkOption g words option ⦃reachPost (runState tick s₀)⦄ := by
  mvcgen [talkOption, Act.ofExcept] with grind

/-- Using an item ends where the state after its turn reaches. -/
@[spec]
theorem use_reach (words targetWords number : Value) :
    ⦃fun s => ⌜s = s₀⌝⦄ use g words targetWords number ⦃reachPost (runState tick s₀)⦄ := by
  mvcgen [use, Act.ofExcept] with grind

/-- Asking for a hint ends where the state after its turn reaches. -/
@[spec]
theorem hint_reach : ⦃fun s => ⌜s = s₀⌝⦄ hint g ⦃reachPost (runState tick s₀)⦄ := by
  mvcgen [hint, Act.ofExcept] invariants
    · reachPost (runState tick s₀)
  with grind

/-- A fresh start: the initial state with the starting room visited, and then changes. -/
@[spec]
theorem startGame_reach :
    ⦃fun _ => ⌜True⌝⦄ startGame g
    ⦃reachPost ((GameState.initial g.startingRoom g.initialFlags).visit g.startingRoom)⦄ := by
  mvcgen [startGame] with grind [GameState.initial]

end Verbs

end Play

namespace Command

open Std.Do Adventure.Play Adventure.Story

set_option mvcgen.warning false

/-- Whether an order runs a turn verb: all but the inventory, the status and the fixed answers. -/
def Order.ticks : Order → Bool
  | .inventory | .status | .reply _ | .unknown => false
  | _ => true

/-- Whether a typed command runs a turn verb: `look` and `hint` always; `go`, `take`, `examine`
and `use` when words follow them; `talk` when words follow that read as a character and an
option or none. -/
def takesTurn (cmd : String) : Bool :=
  match read cmd with
  | .ok order => order.ticks
  | .error _ => false

/-- An order starts from the state after the turn counter moves exactly when it runs a turn
verb. -/
theorem Order.run_reach (s₀ : GameState) (g : Game) (order : Order) :
    ⦃fun s => ⌜s = s₀⌝⦄ order.run g
    ⦃reachPost (if order.ticks then runState tick s₀ else s₀)⦄ := by
  cases order <;> mvcgen [Order.run] with simp_all [Order.ticks, Reach.refl]

/-- A typed command starts from the state after the turn counter moves exactly when it runs a
turn verb. -/
theorem dispatch_reach (s₀ : GameState) (g : Game) (cmd : String) :
    ⦃fun s => ⌜s = s₀⌝⦄ dispatch g cmd
    ⦃reachPost (if takesTurn cmd then runState tick s₀ else s₀)⦄ := by
  unfold dispatch takesTurn
  -- the command is read before anything runs, and only the order read matters
  generalize read cmd = reading
  cases reading with
  | ok order => mvcgen [Act.ofExcept, Order.run_reach]
  | error e => mvcgen [Act.ofExcept] with simp_all [Reach.refl]

end Command

end Adventure
