import Mathlib
import Adventure.Proofs.Play.Provenance
import Adventure.Proofs.Story.Validation
import Adventure.Proofs.Play.Exits
import Adventure.Proofs.Play.Reread
import Adventure.Proofs.Session.Answer
import Adventure.Proofs.Lighthouse.Game

/-! When no effect writes the room, play keeps the player and every visited room among the game's
declared rooms (`Placed`), from request to request. -/

namespace Adventure

namespace Story

/-- Whether an effect leaves the current room alone: an effect whose path is `room` or `room.id`
only marks a gate, takes or drops, and never writes that path. -/
def Effect.keepsRoom (e : Effect) : Bool :=
  !(e.path.isText "room" || e.path.isText "room.id") ||
    match e.change with
    | .markOnce | .addItem | .removeItem => true
    | _ => false

/-- An effect that writes a path, when it keeps the room, writes some other path. -/
theorem Effect.keepsRoom_path {e : Effect} (he : e.keepsRoom = true)
    (hwrites : e.change = .set ∨ e.change = .consume ∨ e.change = .add ∨
      e.change = .subtract) :
    (e.path.isText "room" || e.path.isText "room.id") = false := by
  unfold Effect.keepsRoom at he
  rcases hwrites with h | h | h | h <;> simpa [h] using he

/-- No effect of the game writes the current room: neither those of the global triggers, nor
those of any room's triggers, of taking an item, of an item's use actions or of a character's
dialogue lines. -/
structure Game.KeepsRoom (g : Game) : Prop where
  globalTriggers : ∀ t ∈ g.globalTriggers, ∀ e ∈ t.effects, e.keepsRoom = true
  roomTriggers : ∀ room ∈ g.rooms, ∀ t ∈ room.triggers, ∀ e ∈ t.effects, e.keepsRoom = true
  onTake : ∀ item ∈ g.allItems, ∀ e ∈ item.onTake.getD [], e.keepsRoom = true
  useActions : ∀ item ∈ g.allItems, ∀ a ∈ item.useActions, ∀ e ∈ a.effects.getD [],
    e.keepsRoom = true
  dialogue : ∀ room ∈ g.rooms, ∀ npc ∈ room.npcs, ∀ line ∈ npc.dialogue,
    ∀ e ∈ line.effects.getD [], e.keepsRoom = true

end Story

namespace Play

open Std.Do Story

set_option mvcgen.warning false

/-- The player stands in a room of the game, and every room visited is one. -/
structure Placed (g : Game) (s : GameState) : Prop where
  room : s.room ∈ g.rooms.map (·.id)
  visited : ∀ v ∈ s.visited, v ∈ g.rooms.map (·.id)

abbrev placedPost {α : Type} (g : Game) : PostCond α (.except Fault (.arg GameState .pure)) :=
  post⟨fun _ s => ⌜Placed g s⌝, fun _ s => ⌜Placed g s⌝⟩

variable {g : Game} {s s' : GameState}

/-- A state with the room and the visits of a placed one is placed. -/
theorem Placed.of_eq (h : Placed g s) (hroom : s'.room = s.room)
    (hvisited : s'.visited = s.visited) : Placed g s' :=
  ⟨hroom ▸ h.room, hvisited ▸ h.visited⟩

/-- Using a gate keeps the player placed. -/
@[grind <=]
theorem Placed.markOnce (h : Placed g s) (gate : Value) : Placed g (s.markOnce gate) :=
  h.of_eq rfl rfl

/-- Taking an item keeps the player placed. -/
@[grind <=]
theorem Placed.addItem (h : Placed g s) (id : Value) : Placed g (s.addItem id) := h.of_eq rfl rfl

/-- Dropping an item keeps the player placed. -/
@[grind <=]
theorem Placed.removeItem (h : Placed g s) (id : Value) : Placed g (s.removeItem id) :=
  h.of_eq rfl rfl

/-- Using gates keeps the player placed. -/
@[grind <=]
theorem Placed.commitMarks (h : Placed g s) (gates : List Value) : Placed g (s.commitMarks gates) := by
  induction gates generalizing s with
  | nil => exact h
  | cons gate gates ih => exact ih (h.markOnce gate)

/-- Writing a path other than the room's keeps the player where they are. -/
theorem Placed.write {path v : Value} (h : Placed g s) (hw : s.write path v = .ok s')
    (hpath : (path.isText "room" || path.isText "room.id") = false) : Placed g s' := by
  rcases GameState.write_cases hw with ⟨hroom, -⟩ | ⟨_, rfl⟩ | ⟨_, rfl⟩ | ⟨_, rfl⟩
  case inl => exact absurd (hpath ▸ hroom) Bool.false_ne_true
  all_goals exact h.of_eq rfl rfl

/-- Moving the turn counter keeps the player placed. -/
@[grind <=]
theorem Placed.turns (h : Placed g s) (turns : Value) : Placed g { s with turns := turns } :=
  h.of_eq rfl rfl

/-- Changing the flags keeps the player placed. -/
@[grind <=]
theorem Placed.flags (h : Placed g s) (flags : Flags) : Placed g { s with flags := flags } :=
  h.of_eq rfl rfl

/-- Entering a room of the game, the player is placed. -/
theorem Placed.enter (h : Placed g s) {room : Value} (hroom : room ∈ g.rooms.map (·.id)) :
    Placed g { s with room := room } :=
  ⟨hroom, h.visited⟩

/-- An entry of a list with a value appended unless present is an old entry or that value. -/
theorem mem_of_mem_appendNew {xs : List Value} {k x : Value} (h : x ∈ appendNew xs k) :
    x ∈ xs ∨ x = k := by
  unfold appendNew at h
  split at h
  · exact .inl h
  · simpa using h

/-- A fresh state in the starting room of a well-referenced game is placed. -/
theorem Placed.initial (hwell : WellReferenced g) :
    Placed g (GameState.initial g.startingRoom g.initialFlags) :=
  ⟨hwell.start, fun _ hv => absurd hv List.not_mem_nil⟩

/-- Visiting a room of the game keeps the player placed. -/
theorem Placed.visit (h : Placed g s) {room : Value} (hroom : room ∈ g.rooms.map (·.id)) :
    Placed g (s.visit room) := by
  refine ⟨h.room, fun v hv => ?_⟩
  rcases mem_of_mem_appendNew hv with hv | rfl
  · exact h.visited v hv
  · exact hroom

/-- Visiting the room the player is in keeps them placed. -/
theorem Placed.visit_room (h : Placed g s) : Placed g (s.visit s.room) := h.visit h.room

/-- An effect that keeps the room keeps the player placed. -/
@[spec high]
theorem applyEffect_placed (e : Effect) (he : e.keepsRoom = true) :
    ⦃fun s => ⌜Placed g s⌝⦄ applyEffect e ⦃placedPost g⦄ := by
  simp only [applyEffect, moveCounter, Act.change]
  mvcgen [Act.ofExcept] with grind [Placed.write, Effect.keepsRoom_path]

/-- The global pass of a game whose effects keep the room keeps the player placed. -/
@[spec high]
theorem globalPass_placed (hsafe : g.KeepsRoom) :
    ⦃fun s => ⌜Placed g s⌝⦄ globalPass g ⦃placedPost g⦄ := by
  have hglobal := hsafe.globalTriggers
  simp only [globalPass]
  mvcgen [Act.ofExcept] invariants
    · placedPost g
    · placedPost g
  with grind

/-- Effects that keep the room, and the global pass after them, keep the player placed. -/
@[spec high]
theorem applyEffects_placed (hsafe : g.KeepsRoom)
    (effects : Option (List Effect)) (h : ∀ e ∈ effects.getD [], e.keepsRoom = true) :
    ⦃fun s => ⌜Placed g s⌝⦄ applyEffects g effects ⦃placedPost g⦄ := by
  cases effects with
  | none =>
    simp only [applyEffects]
    mvcgen
  | some effects =>
    simp only [applyEffects]
    mvcgen invariants
      · placedPost g
    with grind

/-- Triggers whose effects keep the room keep the player placed. -/
@[spec high]
theorem roomTriggers_placed (hsafe : g.KeepsRoom)
    (triggers : List Trigger) (h : ∀ t ∈ triggers, ∀ e ∈ t.effects, e.keepsRoom = true) :
    ⦃fun s => ⌜Placed g s⌝⦄ roomTriggers g triggers ⦃placedPost g⦄ := by
  simp only [roomTriggers]
  mvcgen [Act.ofExcept] invariants
    · placedPost g
  with grind

/-- The triggers of the room the player is in keep the room. -/
theorem roomTriggers_keepRoom (hsafe : g.KeepsRoom) {room : Room} (h : currentRoom g s = .ok room) :
    ∀ t ∈ room.triggers, ∀ e ∈ t.effects, e.keepsRoom = true :=
  hsafe.roomTriggers room (currentRoom_ok h).1

section Texts

/-- Showing fragments keeps the player placed. -/
@[spec high]
theorem renderFragments_placed (fragments : List Fragment) :
    ⦃fun s => ⌜Placed g s⌝⦄ renderFragments g fragments ⦃placedPost g⦄ := by
  simp only [renderFragments]
  mvcgen [Act.ofExcept] invariants
    · placedPost g
    · placedPost g
  with grind

/-- Showing a text keeps the player placed. -/
@[spec high]
theorem renderText_placed (text : Text) :
    ⦃fun s => ⌜Placed g s⌝⦄ renderText g text ⦃placedPost g⦄ := by
  simp only [renderText]
  mvcgen

/-- Showing a raw text keeps the player placed. -/
@[spec high]
theorem renderRaw_placed (text : Value) :
    ⦃fun s => ⌜Placed g s⌝⦄ renderRaw text ⦃placedPost g⦄ := by
  simp only [renderRaw]
  mvcgen

/-- Showing the win message keeps the player placed. -/
@[spec high]
theorem ending_placed : ⦃fun s => ⌜Placed g s⌝⦄ ending g ⦃placedPost g⦄ := by
  simp only [ending]
  mvcgen

/-- Asking whether an exit is blocked keeps the player placed. -/
@[spec high]
theorem exitBlocked_placed (ex : Exit) :
    ⦃fun s => ⌜Placed g s⌝⦄ exitBlocked g ex ⦃placedPost g⦄ := by
  simp only [exitBlocked]
  mvcgen [Act.ofExcept]

/-- Listing an exit keeps the player placed. -/
@[spec high]
theorem exitLabel_placed (ex : Exit) :
    ⦃fun s => ⌜Placed g s⌝⦄ exitLabel g ex ⦃placedPost g⦄ := by
  simp only [exitLabel]
  mvcgen [Act.ofExcept] with grind

/-- Describing the current room keeps the player placed, its triggers included. -/
@[spec high]
theorem describeRoom_placed (hsafe : g.KeepsRoom) :
    ⦃fun s => ⌜Placed g s⌝⦄ describeRoom g ⦃placedPost g⦄ := by
  simp only [describeRoom]
  mvcgen [Act.ofExcept] invariants
    · placedPost g
    · placedPost g
    · placedPost g
    · placedPost g
    · placedPost g
  with grind [roomTriggers_keepRoom]

/-- A close look at an item keeps the player placed. -/
@[spec high]
theorem describeItem_placed (item : Item) :
    ⦃fun s => ⌜Placed g s⌝⦄ describeItem g item ⦃placedPost g⦄ := by
  simp only [describeItem]
  mvcgen

/-- Looking at what the words name keeps the player placed. -/
@[spec high]
theorem inspect_placed (words : Value) :
    ⦃fun s => ⌜Placed g s⌝⦄ inspect g words ⦃placedPost g⦄ := by
  simp only [inspect]
  mvcgen [Act.ofExcept]

/-- Refusing an item keeps the player placed. -/
@[spec high]
theorem refusal_placed (item : Item) (fallback : String) :
    ⦃fun s => ⌜Placed g s⌝⦄ refusal item fallback ⦃placedPost g⦄ := by
  simp only [refusal]
  mvcgen

/-- Listing what is carried keeps the player placed. -/
@[spec high]
theorem inventory_placed : ⦃fun s => ⌜Placed g s⌝⦄ inventory g ⦃placedPost g⦄ := by
  simp only [inventory]
  mvcgen [Act.ofExcept, List.mapM_pure]

/-- The status as data keeps the player placed. -/
@[spec high]
theorem status_placed : ⦃fun s => ⌜Placed g s⌝⦄ status g ⦃placedPost g⦄ := by
  simp only [status]
  mvcgen [Act.ofExcept]

/-- The status as text keeps the player placed. -/
@[spec high]
theorem statusMessage_placed : ⦃fun s => ⌜Placed g s⌝⦄ statusMessage g ⦃placedPost g⦄ := by
  simp only [statusMessage]
  mvcgen [Act.ofExcept]

/-- A turn keeps the player placed. -/
@[spec high]
theorem tick_placed : ⦃fun s => ⌜Placed g s⌝⦄ tick ⦃placedPost g⦄ := by
  simp only [tick]
  mvcgen [Act.ofExcept] with grind

end Texts

section Sources

variable (hsafe : g.KeepsRoom)
include hsafe

/-- What taking an item does keeps the room. -/
theorem onTake_keepRoom {words : Value} {item : Item}
    (h : itemInRoom g s words = .ok (some item)) : ∀ e ∈ item.onTake.getD [], e.keepsRoom = true := by
  obtain ⟨room, hroom, hitem⟩ := itemInRoom_some h
  exact hsafe.onTake item
    (List.mem_flatMap.mpr ⟨room, (currentRoom_ok hroom).1, (List.mem_filter.mp hitem).1⟩)

/-- The line an option chooses from those a character of the room offers, or the default line
when the option is out of range, keeps the room. -/
theorem chosenLine_keepRoom {words : Value} {npc : Npc} {lines : List (DialogueLine × List Value)}
    (hnpc : npcNamed g s words = .ok (some npc))
    (hlines : offeredLines g s npc.dialogue = .ok lines) (k : Nat) :
    ∀ e ∈ (lines.getD k default).1.effects.getD [], e.keepsRoom = true := by
  obtain ⟨room, hroom, hmem⟩ := npcNamed_some hnpc
  rw [List.getD_eq_getElem?_getD]
  cases hk : lines[k]? with
  | none => exact fun e he => absurd he List.not_mem_nil
  | some p =>
    have hline := (offeredLines_mem hlines p (List.mem_of_getElem? hk)).1
    exact hsafe.dialogue room (currentRoom_ok hroom).1 npc hmem p.1 hline

/-- The action a use chooses, of the item or of its target, keeps the room. -/
theorem choice_keepRoom {item : Item} {targetWords number : Value} {target : Option Item}
    {c : UseChoice} (hitem : InReach g s item) (htarget : useTarget g s targetWords = .ok target)
    (hc : chooseEither g s item target number = .ok (some c)) :
    ∀ e ∈ c.action.effects.getD [], e.keepsRoom = true := by
  rcases chooseEither_some hc with hchosen | ⟨t, rfl, hchosen⟩
  · exact hsafe.useActions item hitem.mem_allItems c.action hchosen.mem
  · exact hsafe.useActions t (useTarget_some htarget).mem_allItems c.action hchosen.mem

end Sources

/-- Every exit of the room the player is in leads to a room of a well-referenced game. -/
theorem exitTarget_mem (hwell : WellReferenced g) {words : Value} {i : Nat} {ex : Exit}
    (h : exitNamed g s words = .ok (some (i, ex))) : ex.target ∈ g.rooms.map (·.id) := by
  obtain ⟨room, hroom, hex⟩ := exitNamed_some h
  exact ((hwell.rooms room (currentRoom_ok hroom).1).1 ex hex).1

section Verbs

/-- Saying a line whose effects keep the room keeps the player placed. -/
@[spec high]
theorem sayLine_placed (hsafe : g.KeepsRoom) (line : DialogueLine) (marks : List Value)
    (hline : ∀ e ∈ line.effects.getD [], e.keepsRoom = true) :
    ⦃fun s => ⌜Placed g s⌝⦄ sayLine g line marks ⦃placedPost g⦄ := by
  simp only [sayLine]
  mvcgen [Act.ofExcept] with grind

/-- Looking keeps the player placed. -/
@[spec high]
theorem look_placed (hsafe : g.KeepsRoom) (target : Value) :
    ⦃fun s => ⌜Placed g s⌝⦄ look g target ⦃placedPost g⦄ := by
  simp only [look]
  mvcgen

/-- Examining keeps the player placed. -/
@[spec high]
theorem examine_placed (target : Value) :
    ⦃fun s => ⌜Placed g s⌝⦄ examine g target ⦃placedPost g⦄ := by
  simp only [examine]
  mvcgen

/-- Going through an exit of a well-referenced game keeps the player placed: the exit leads to a
room of the game. -/
@[spec high]
theorem go_placed (hsafe : g.KeepsRoom) (hwell : WellReferenced g) (direction : Value) :
    ⦃fun s => ⌜Placed g s⌝⦄ go g direction ⦃placedPost g⦄ := by
  simp only [go]
  mvcgen [Act.ofExcept] with grind [Placed.enter, Placed.visit, exitTarget_mem]

/-- Taking an item keeps the player placed. -/
@[spec high]
theorem take_placed (hsafe : g.KeepsRoom) (words : Value) :
    ⦃fun s => ⌜Placed g s⌝⦄ take g words ⦃placedPost g⦄ := by
  simp only [take]
  mvcgen [Act.ofExcept] with grind [onTake_keepRoom]

/-- Talking to a character keeps the player placed. -/
@[spec high]
theorem talk_placed (words : Value) :
    ⦃fun s => ⌜Placed g s⌝⦄ talk g words ⦃placedPost g⦄ := by
  simp only [talk]
  mvcgen [Act.ofExcept] with grind

/-- Choosing a line by its number keeps the player placed. -/
@[spec high]
theorem talkOption_placed (hsafe : g.KeepsRoom) (words option : Value) :
    ⦃fun s => ⌜Placed g s⌝⦄ talkOption g words option ⦃placedPost g⦄ := by
  simp only [talkOption]
  mvcgen [Act.ofExcept] with grind [chosenLine_keepRoom]

/-- Using an item keeps the player placed. -/
@[spec high]
theorem use_placed (hsafe : g.KeepsRoom) (words targetWords number : Value) :
    ⦃fun s => ⌜Placed g s⌝⦄ use g words targetWords number ⦃placedPost g⦄ := by
  simp only [use]
  mvcgen [Act.ofExcept] with grind [choice_keepRoom, roomTriggers_keepRoom]

/-- Asking for a hint keeps the player placed. -/
@[spec high]
theorem hint_placed : ⦃fun s => ⌜Placed g s⌝⦄ hint g ⦃placedPost g⦄ := by
  simp only [hint]
  mvcgen [Act.ofExcept] invariants
    · placedPost g

/-- Starting a well-referenced game afresh places the player at its starting room. -/
@[spec high]
theorem startGame_placed (hsafe : g.KeepsRoom) (hwell : WellReferenced g) :
    ⦃fun _ => ⌜True⌝⦄ startGame g ⦃placedPost g⦄ := by
  simp only [startGame]
  mvcgen with grind [Placed.initial, Placed.visit_room]

end Verbs

section Requests

variable (hsafe : g.KeepsRoom) (hwell : WellReferenced g)
include hsafe hwell

/-- Every order a typed command reads keeps the player placed. -/
theorem Order.run_placed (order : Command.Order) :
    ⦃fun s => ⌜Placed g s⌝⦄ order.run g ⦃placedPost g⦄ := by
  cases order <;> simp only [Command.Order.run] <;> mvcgen

/-- A typed command keeps the player placed, also when it cannot be read. -/
theorem Placed.dispatch (hs : Placed g s) (cmd : String) :
    Placed g (runState (Command.dispatch g cmd) s) := by
  unfold runState
  rw [Command.dispatch_run]
  cases Command.read cmd with
  | error e => exact hs
  | ok order => exact runState_of_pre (Order.run_placed hsafe hwell order) hs

/-- Every request but reopening keeps the player placed. -/
theorem Placed.playState (hs : Placed g s) (request : Request) :
    Placed g (request.playState g s) := by
  cases request with
  | startGame => exact runState_of_pre (startGame_placed hsafe hwell) (s := s) trivial
  | look target => exact runState_of_pre (look_placed hsafe target) hs
  | examine target => exact runState_of_pre (examine_placed target) hs
  | go direction => exact runState_of_pre (go_placed hsafe hwell direction) hs
  | take item => exact runState_of_pre (take_placed hsafe item) hs
  | talk npc => exact runState_of_pre (talk_placed npc) hs
  | talkOption npc option => exact runState_of_pre (talkOption_placed hsafe npc option) hs
  | use item target number => exact runState_of_pre (use_placed hsafe item target number) hs
  | inventory => exact runState_of_pre inventory_placed hs
  | hint => exact runState_of_pre hint_placed hs
  | status => exact runState_of_pre status_placed hs
  | statusMessage => exact runState_of_pre statusMessage_placed hs
  | describeRoom => exact runState_of_pre (describeRoom_placed hsafe) hs
  | command text =>
    cases text with
    | str typed => exact hs.dispatch hsafe hwell typed
    | _ => exact hs
  | isOver | hasWon | snapshotText | reopen => exact hs

end Requests

section Rereading

/-- A room id of a game read from content is a text. -/
theorem text_of_mem_roomIds (htexts : g.TextRefs) {v : Value} (hv : v ∈ g.rooms.map (·.id)) :
    ∃ t, v = .str t := by
  obtain ⟨room, hroom, rfl⟩ := List.mem_map.mp hv
  exact (htexts.rooms room hroom).id

/-- Texts read back are themselves. -/
theorem canonItems_texts : ∀ {xs : List Value}, (∀ v ∈ xs, ∃ t, v = .str t) →
    Value.canonItems xs = xs
  | [], _ => rfl
  | v :: rest, h => by
    obtain ⟨t, rfl⟩ := h v List.mem_cons_self
    rw [Value.canonItems, canonItems_texts fun w hw => h w (List.mem_cons_of_mem _ hw)]
    rfl

/-- The state read back from a placed state's snapshot is placed: its rooms are texts, read back
as they are, and an empty room falls back to the starting room. -/
theorem Placed.reread (htexts : g.TextRefs) (hwell : WellReferenced g) (h : Placed g s)
    (flags : Flags) : Placed g (s.reread g.startingRoom flags) := by
  obtain ⟨t, ht⟩ := text_of_mem_roomIds htexts h.room
  refine ⟨?_, ?_⟩
  · show fieldOr s.room.canon g.startingRoom ∈ _
    rw [ht]
    show fieldOr (.str t) g.startingRoom ∈ _
    unfold fieldOr
    split
    · exact ht ▸ h.room
    · exact hwell.start
  · show ∀ v ∈ Value.canonItems s.visited, _
    rw [canonItems_texts fun v hv => text_of_mem_roomIds htexts (h.visited v hv)]
    exact h.visited

/-- A placed player is in a room the game finds. -/
theorem Placed.currentRoom (htexts : g.TextRefs) (h : Placed g s) :
    ∃ room, currentRoom g s = .ok room := by
  obtain ⟨t, ht⟩ := text_of_mem_roomIds htexts h.room
  obtain ⟨room, hroom, hid⟩ := List.mem_map.mp h.room
  rw [ht] at hid
  simp only [Play.currentRoom, findRoom, ht, Value.hashable, if_true, bind, Except.bind]
  cases hfind : g.rooms.find? (·.id.sameItem (.str t)) with
  | none =>
    have hne := List.find?_eq_none.mp hfind room hroom
    rw [hid, Value.sameItem_text] at hne
    exact absurd rfl hne
  | some found => exact ⟨found, rfl⟩

end Rereading

end Play

namespace Session

open Play

/-- A session settled on the game `g`: its content opens to `g`, and its player is placed. -/
structure Settled (g : Story.Game) (session : Session) : Prop where
  game : session.game = g
  opens : ∃ s₀, openSession session.content session.unchecked = .ok (g, s₀)
  placed : Placed g session.state

variable {g : Story.Game} {session : Session}

/-- Reopening a session whose snapshot is beyond the reader's limits fails. -/
theorem reopened_error {s₀ : GameState}
    (hopen : openSession session.content session.unchecked = .ok (session.game, s₀))
    (hfits : session.state.toData.fits Json.nestingLimit = false) : ∃ e, session.reopened = .error e := by
  obtain ⟨e, he⟩ := resumeState_serialize_error session.game session.state hfits
  exact ⟨e, by simp [reopened, start, resumeSession, hopen, he, bind, Except.bind]⟩

/-- Answering any request, reopening included, keeps a session settled. -/
theorem Settled.answer (hsafe : g.KeepsRoom) (hwell : Story.WellReferenced g) (htexts : g.TextRefs)
    (h : Settled g session) (request : Request) : Settled g (runState (Session.answer request) session) := by
  obtain ⟨s₀, hopen⟩ := h.opens
  by_cases hreopen : request = .reopen
  · subst hreopen
    rw [runState_answer_reopen]
    have hopen' : openSession session.content session.unchecked = .ok (session.game, s₀) := by
      rw [h.game]
      exact hopen
    cases hfits : session.state.toData.fits Json.nestingLimit with
    | true =>
      rw [reopened_of_fits hopen' hfits]
      refine ⟨h.game, ⟨s₀, hopen⟩, ?_⟩
      show Placed g (session.state.reread session.game.startingRoom session.game.initialFlags)
      rw [h.game]
      exact h.placed.reread htexts hwell _
    | false =>
      obtain ⟨e, he⟩ := reopened_error hopen' hfits
      rw [he]
      exact h
  · rw [runState_answer hreopen]
    refine ⟨h.game, ⟨s₀, hopen⟩, ?_⟩
    show Placed g (request.playState session.game session.state)
    rw [h.game]
    exact h.placed.playState hsafe hwell request

/-- A settled session stays settled through any requests, by induction on the requests. -/
theorem Settled.after (hsafe : g.KeepsRoom) (hwell : Story.WellReferenced g) (htexts : g.TextRefs)
    (h : Settled g session) (requests : List Request) : Settled g (session.after requests) := by
  induction requests generalizing session with
  | nil => exact h
  | cons request rest ih => exact ih (h.answer hsafe hwell htexts request)

/-- Content that checking accepts opens, checked or not, on its game at the starting room. -/
theorem openSession_of_valid {content : Value} {g : Story.Game} (hk : content.keysDistinct)
    (hv : validateGame content = .ok g) (unchecked : Bool) :
    openSession content unchecked = .ok (g, GameState.initial g.startingRoom g.initialFlags) := by
  cases unchecked with
  | false =>
    rw [openSession_checked hk, hv]
    rfl
  | true =>
    -- unchecked, the content is only read and its references looked at, to the same game
    obtain ⟨hissues, hread, hwell⟩ := (validateGame_ok_iff hk g).mp hv
    obtain ⟨g', hg', htexts⟩ := Story.readGame_ok hissues hk
    rw [hread, Except.ok.injEq] at hg'
    subst hg'
    obtain ⟨issues, hissues', -⟩ := Story.referenceIssues_ok htexts
    obtain ⟨room, hroom⟩ := findRoom_start htexts hwell
    simp [openSession, loadGame, hread, hissues', checkIds_ok htexts, hroom, bind, Except.bind,
      pure, Except.pure]

/-- Play on checked content none of whose effects writes the current room keeps the player in
the game's rooms: a session opens on the content, fresh or checked, with or without checks when
reopened, and after any requests, reopening from its own snapshot included, the current room and
every visited room are rooms of the game, and the current room is found. -/
theorem rooms_stay_declared {content : Value} {g : Story.Game} (hk : content.keysDistinct)
    (hv : validateGame content = .ok g) (hsafe : g.KeepsRoom) (unchecked : Bool) {how : Opening}
    (hhow : how = .fresh ∨ how = .checked) :
    ∃ session, start content unchecked how = .ok session ∧
      ∀ requests : List Request, (session.after requests).game = g ∧
        Placed g (session.after requests).state ∧
        ∃ room, currentRoom g (session.after requests).state = .ok room := by
  obtain ⟨hissues, hread, hwell⟩ := (validateGame_ok_iff hk g).mp hv
  obtain ⟨g', hg', htexts⟩ := Story.readGame_ok hissues hk
  rw [hread, Except.ok.injEq] at hg'
  subst hg'
  have hopen : ∀ b, openSession content b =
      .ok (g, GameState.initial g.startingRoom g.initialFlags) :=
    openSession_of_valid hk hv
  refine ⟨⟨content, unchecked, g, GameState.initial g.startingRoom g.initialFlags⟩, ?_,
    fun requests => ?_⟩
  · rcases hhow with rfl | rfl <;> simp [start, hopen, bind, Except.bind, pure, Except.pure]
  · have hsettled :
        Settled g ⟨content, unchecked, g, GameState.initial g.startingRoom g.initialFlags⟩ :=
      ⟨rfl, ⟨_, hopen unchecked⟩, Placed.initial hwell⟩
    have h := hsettled.after hsafe hwell htexts requests
    exact ⟨h.game, h.placed, h.placed.currentRoom htexts⟩

/-- No effect of the lighthouse writes the current room. -/
theorem lighthouse_keepsRoom : Lighthouse.game.KeepsRoom where
  globalTriggers := by decide
  roomTriggers := by decide
  onTake := by decide
  useActions := by decide
  dialogue := by decide

/-- The lighthouse passes its checks and no effect of it writes the current room, so it keeps
its player in its rooms through any play. -/
theorem lighthouse_rooms_stay_declared :
    validateGame Shelf.Lighthouse.content = .ok Lighthouse.game ∧ Lighthouse.game.KeepsRoom ∧
      ∃ session, start Shelf.Lighthouse.content false .fresh = .ok session ∧
        ∀ requests : List Request, (session.after requests).game = Lighthouse.game ∧
          Placed Lighthouse.game (session.after requests).state ∧
          ∃ room, currentRoom Lighthouse.game (session.after requests).state = .ok room :=
  ⟨Lighthouse.validateGame_content, lighthouse_keepsRoom,
    rooms_stay_declared Lighthouse.keysDistinct_content Lighthouse.validateGame_content
      lighthouse_keepsRoom false (.inl rfl)⟩

end Session


end Adventure
