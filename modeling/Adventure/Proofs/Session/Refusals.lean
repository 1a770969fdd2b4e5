import Adventure.Proofs.Session.Turns
import Adventure.Proofs.Session.Ending

/-! A refusal of a turn verb leaves the state its turn left; the two refusals that show a text of
the content also use the gates of the fragments they keep. -/

namespace Adventure

open Std.Do Adventure.Story Adventure.Play

namespace Play

set_option mvcgen.warning false

section Runs

variable {α β : Type} {x : Act α} {s t : GameState}

/-- After a step that finishes, a sequence runs on from where the step left the state. -/
theorem run_bind_of_ok {a : α} (h : x.run s = .ok a t) (f : α → Act β) :
    (x >>= f).run s = (f a).run t := by
  simp only [EStateM.run, bind, EStateM.bind] at h ⊢
  rw [h]

/-- A step that fails fails the sequence, where it stopped. -/
theorem run_bind_of_error {e : Fault} (h : x.run s = .error e t) (f : α → Act β) :
    (x >>= f).run s = .error e t := by
  simp only [EStateM.run, bind, EStateM.bind] at h ⊢
  rw [h]

/-- Reading the state and going on runs on the same state. -/
theorem run_get_bind (f : GameState → Act β) (s : GameState) :
    ((get : Act GameState) >>= f).run s = (f s).run s := rfl

/-- A pure step passes its value on without changing the state. -/
theorem run_pure_bind (a : α) (f : α → Act β) (s : GameState) :
    ((pure a : Act α) >>= f).run s = (f a).run s := rfl

/-- A loop whose every step goes on with its state unchanged ends where it started. -/
theorem run_forIn_yield {xs : List α} {b : β} {f : α → β → Act (ForInStep β)}
    (h : ∀ y ∈ xs, (f y b).run t = .ok (.yield b) t) : (forIn xs b f).run t = .ok b t := by
  induction xs with
  | nil => rfl
  | cons y ys ih =>
    rw [List.forIn_cons, run_bind_of_ok (h y List.mem_cons_self)]
    exact ih fun z hz => h z (List.mem_cons_of_mem y hz)

end Runs

section ReadOnly

/-- An action that reads the state and never changes it, whether it finishes or fails. -/
def ReadsOnly {α : Type} (x : Act α) : Prop := ∀ s, runState x s = s

/-- The postcondition of an action whose every run ends in `s₀`. -/
abbrev keepsPost {α : Type} (s₀ : GameState) : PostCond α (.except Fault (.arg GameState .pure)) :=
  post⟨fun _ s => ⌜s = s₀⌝, fun _ s => ⌜s = s₀⌝⟩

variable {α : Type} {x : Act α}

/-- An action every run of which keeps its start only reads the state. -/
theorem ReadsOnly.of_triple (h : ∀ s₀, ⦃fun s => ⌜s = s₀⌝⦄ x ⦃keepsPost s₀⦄) : ReadsOnly x :=
  fun s₀ => runState_of_triple (h s₀)

/-- A read ends, finished or failed, in the state it read. -/
theorem ReadsOnly.run_state (h : ReadsOnly x) {s s' : GameState} {a : α}
    (hrun : x.run s = .ok a s') : s' = s := by
  have hkeep := h s
  unfold runState at hkeep
  rw [hrun] at hkeep
  exact hkeep

/-- A read that gives a value gives it in the state it read. -/
theorem ReadsOnly.run_eq (h : ReadsOnly x) {s : GameState} {a : α} (hrun : x.run' s = some a) :
    x.run s = .ok a s := by
  cases hx : x.run s with
  | ok a' s' =>
    have hs' : s' = s := h.run_state hx
    have ha : a' = a := by simpa [EStateM.run', hx] using hrun
    rw [hs', ha]
  | error e s' => simp [EStateM.run', hx] at hrun

-- The triples of `Changes` are registered for `mvcgen`, and it prefers them to unfolding; the
-- reads are therefore unfolded here by hand before the conditions are generated.

/-- Asking whether an exit is blocked only reads the state. -/
theorem readsOnly_exitBlocked (g : Game) (ex : Exit) : ReadsOnly (exitBlocked g ex) :=
  .of_triple fun _ => by unfold exitBlocked; mvcgen [Act.ofExcept]

/-- Showing a raw text only reads the state. -/
theorem readsOnly_renderRaw (text : Value) : ReadsOnly (renderRaw text) :=
  .of_triple fun _ => by unfold renderRaw; split <;> mvcgen

/-- Reading the lines a character offers only reads the state. -/
theorem readsOnly_availableLines (g : Game) (npc : Npc) : ReadsOnly (availableLines g npc) :=
  .of_triple fun _ => by unfold availableLines; mvcgen [Act.ofExcept]

/-- Finding the item a use names only reads the state. -/
theorem readsOnly_resolveActor (g : Game) (words : Value) : ReadsOnly (resolveActor g words) :=
  .of_triple fun _ => by unfold resolveActor; mvcgen [Act.ofExcept]

end ReadOnly

/-- Nothing the words name can be looked at: no item in the room or carried answers to them,
and no character present does, or the one that does has a null description. -/
def NothingNamed (g : Game) (s : GameState) (words : Value) : Prop :=
  itemInRoom g s words = .ok none ∧ itemCarried g s words = .ok none ∧
    (npcNamed g s words = .ok none ∨
      ∃ npc, npcNamed g s words = .ok (some npc) ∧ npc.description = .null)

section Refusals

variable {g : Game} {s t : GameState}

/-- Where nothing is named, a close look finds nothing and leaves the state alone. -/
theorem inspect_run_unseen {words : Value} (hnone : NothingNamed g t words) :
    (inspect g words).run t = .ok none t := by
  obtain ⟨hroom, hcarried, hnpc | ⟨npc, hnpc, hdesc⟩⟩ := hnone
  · simp [inspect, hroom, hcarried, hnpc, Act.ofExcept, EStateM.run, bind, EStateM.bind, get,
      getThe, MonadStateOf.get, EStateM.get, pure, EStateM.pure]
  · simp [inspect, hroom, hcarried, hnpc, hdesc, Act.ofExcept, EStateM.run, bind, EStateM.bind,
      get, getThe, MonadStateOf.get, EStateM.get, pure, EStateM.pure]

/-- Looking at words that name nothing answers that nothing is seen, after the turn. -/
theorem look_run_unseen {target : Value} (htick : tick.run s = .ok () t)
    (hlive : t.ended = false) (hgiven : target.truthy = true) (hnone : NothingNamed g t target) :
    (look g target).run s = .ok (.str s!"You don't see any \"{target.display}\" here.") t := by
  unfold look
  rw [run_bind_of_ok htick, run_get_bind]
  simp only [hlive, hgiven, Bool.false_eq_true, Bool.not_true, if_false]
  rw [run_bind_of_ok (inspect_run_unseen hnone)]
  rfl

/-- Examining words that name nothing answers that there is nothing to examine, after the turn. -/
theorem examine_run_unseen {target : Value} (htick : tick.run s = .ok () t)
    (hlive : t.ended = false) (hnone : NothingNamed g t target) :
    (examine g target).run s =
      .ok (.str s!"You don't see any \"{target.display}\" to examine.") t := by
  unfold examine
  rw [run_bind_of_ok htick, run_get_bind]
  simp only [hlive, Bool.false_eq_true, if_false]
  rw [run_bind_of_ok (inspect_run_unseen hnone)]
  rfl

/-- Going where no exit leads answers that the player cannot go there, after the turn. -/
theorem go_run_nowhere {direction : Value} (htick : tick.run s = .ok () t)
    (hlive : t.ended = false) (hnone : exitNamed g t direction = .ok none) :
    (go g direction).run s = .ok s!"You can't go {direction.display} from here." t := by
  unfold go
  rw [run_bind_of_ok htick]
  simp [hlive, hnone, Act.ofExcept, EStateM.run, bind, EStateM.bind, get, getThe,
    MonadStateOf.get, EStateM.get, pure, EStateM.pure]

/-- A blocked exit: its answer is its own message shown, or a fixed text without one. -/
theorem go_run_blocked {direction : Value} {i : Nat} {ex : Exit} (htick : tick.run s = .ok () t)
    (hlive : t.ended = false) (hfound : exitNamed g t direction = .ok (some (i, ex)))
    (hblocked : (exitBlocked g ex).run' t = some true) :
    (go g direction).run s =
      if ex.blockedMessage.isPresent then (renderText g ex.blockedMessage).run t
      else .ok s!"You can't go {direction.display} right now." t := by
  have hexit := (readsOnly_exitBlocked g ex).run_eq hblocked
  unfold go
  rw [run_bind_of_ok htick, run_get_bind]
  simp only [hlive, Bool.false_eq_true, if_false]
  rw [run_get_bind]
  simp only [hfound, Act.ofExcept]
  rw [run_pure_bind]
  dsimp only
  rw [run_bind_of_ok hexit, if_pos rfl]
  split <;> rfl

/-- Taking what the room lacks answers that it is not seen, after the turn. -/
theorem take_run_absent {words : Value} (htick : tick.run s = .ok () t)
    (hlive : t.ended = false) (habsent : itemInRoom g t words = .ok none) :
    (take g words).run s = .ok s!"You don't see any \"{words.display}\" here to take." t := by
  unfold take
  rw [run_bind_of_ok htick]
  simp [hlive, habsent, Act.ofExcept, EStateM.run, bind, EStateM.bind, get, getThe,
    MonadStateOf.get, EStateM.get, pure, EStateM.pure]

/-- An item's refusal answers its own text, once shown, or the fallback when that is empty. -/
theorem refusal_run {item : Item} {fallback text : String}
    (hshown : (renderRaw item.takeBlocked).run' t = some text) :
    (refusal item fallback).run t = .ok (if text.isEmpty then fallback else text) t := by
  unfold refusal
  rw [run_bind_of_ok ((readsOnly_renderRaw _).run_eq hshown)]
  rfl

/-- Taking an item that cannot be taken answers its refusal, after the turn. -/
theorem take_run_fixed {words : Value} {item : Item} {text : String}
    (htick : tick.run s = .ok () t) (hlive : t.ended = false)
    (hfound : itemInRoom g t words = .ok (some item)) (hfixed : item.takeable.truthy = false)
    (hshown : (renderRaw item.takeBlocked).run' t = some text) :
    (take g words).run s =
      .ok (if text.isEmpty then s!"You can't take the {item.name.display}." else text) t := by
  unfold take
  rw [run_bind_of_ok htick, run_get_bind]
  simp only [hlive, Bool.false_eq_true, if_false]
  rw [run_get_bind]
  simp only [hfound, Act.ofExcept]
  rw [run_pure_bind]
  simp only [hfixed, Bool.not_false, if_true]
  exact refusal_run hshown

/-- Taking an item whose conditions fail answers its refusal, after the turn. -/
theorem take_run_withheld {words : Value} {item : Item} {o : Outcome} {text : String}
    (htick : tick.run s = .ok () t) (hlive : t.ended = false)
    (hfound : itemInRoom g t words = .ok (some item)) (htakeable : item.takeable.truthy = true)
    (hguarded : item.takeWhen.isEmpty = false) (hcheck : checkAll g t item.takeWhen = .ok o)
    (hfail : o.passed = false) (hshown : (renderRaw item.takeBlocked).run' t = some text) :
    (take g words).run s =
      .ok (if text.isEmpty then s!"You can't take the {item.name.display} right now." else text)
        t := by
  unfold take
  rw [run_bind_of_ok htick, run_get_bind]
  simp only [hlive, Bool.false_eq_true, if_false]
  rw [run_get_bind]
  simp only [hfound, Act.ofExcept]
  rw [run_pure_bind]
  simp only [htakeable, hguarded, Bool.not_true, Bool.not_false, Bool.false_eq_true, if_false,
    if_true]
  rw [run_get_bind]
  simp only [hcheck]
  rw [run_pure_bind]
  simp only [hfail, Bool.not_false, if_true]
  exact refusal_run hshown

/-- Choosing a line of nobody answers that no one is there, after the turn. -/
theorem talkOption_run_nobody {words option : Value} (htick : tick.run s = .ok () t)
    (hlive : t.ended = false) (hnobody : npcNamed g t words = .ok none) :
    (talkOption g words option).run s =
      .ok s!"There's no one called \"{words.display}\" here to talk to." t := by
  unfold talkOption
  rw [run_bind_of_ok htick]
  simp [hlive, hnobody, Act.ofExcept, EStateM.run, bind, EStateM.bind, get, getThe,
    MonadStateOf.get, EStateM.get, pure, EStateM.pure]

/-- Choosing a line out of range answers the range of the options, after the turn. -/
theorem talkOption_run_invalid {words option : Value} {npc : Npc}
    {lines : List (DialogueLine × List Value)} (htick : tick.run s = .ok () t)
    (hlive : t.ended = false) (hfound : npcNamed g t words = .ok (some npc))
    (hlines : (availableLines g npc).run' t = some lines)
    (hout : optionIndex option lines.length = .ok none) :
    (talkOption g words option).run s =
      .ok s!"Invalid dialogue option. Please choose a number from 1-{lines.length}." t := by
  unfold talkOption
  rw [run_bind_of_ok htick, run_get_bind]
  simp only [hlive, Bool.false_eq_true, if_false]
  rw [run_get_bind]
  simp only [hfound, Act.ofExcept]
  rw [run_pure_bind]
  dsimp only
  rw [run_bind_of_ok ((readsOnly_availableLines g npc).run_eq hlines)]
  simp only [hout]
  rfl

/-- Using what names no item answers that it is not seen, after the turn. -/
theorem use_run_unknown {words targetWords number : Value} (htick : tick.run s = .ok () t)
    (hlive : t.ended = false) (hnone : (resolveActor g words).run' t = some none) :
    (use g words targetWords number).run s =
      .ok s!"You don't see any \"{words.display}\" to use." t := by
  unfold use
  rw [run_bind_of_ok htick, run_get_bind]
  simp only [hlive, Bool.false_eq_true, if_false]
  rw [run_bind_of_ok ((readsOnly_resolveActor g words).run_eq hnone)]
  rfl

/-- Using an item no action of which fits answers that the player is unsure how, after the turn. -/
theorem use_run_unsure {words targetWords number : Value} {item : Item} {target : Option Item}
    (htick : tick.run s = .ok () t) (hlive : t.ended = false)
    (hfound : (resolveActor g words).run' t = some (some item))
    (haim : useTarget g t targetWords = .ok target)
    (hnone : chooseEither g t item target number = .ok none) :
    (use g words targetWords number).run s =
      .ok s!"You're not sure how to use the {item.name.display}{onTargetText targetWords}." t := by
  unfold use
  rw [run_bind_of_ok htick, run_get_bind]
  simp only [hlive, Bool.false_eq_true, if_false]
  rw [run_bind_of_ok ((readsOnly_resolveActor g words).run_eq hfound)]
  dsimp only
  rw [run_get_bind]
  simp only [haim, Act.ofExcept]
  rw [run_pure_bind, run_get_bind, run_get_bind]
  simp only [hnone]
  rfl

/-- Asking for a hint when none passes answers that none comes to mind, after the turn. -/
theorem hint_run_none (htick : tick.run s = .ok () t) (hlive : t.ended = false)
    (hnone : ∀ h ∈ g.hints, ∃ o, checkAll g t h.when = .ok o ∧ o.passed = false) :
    (hint g).run s = .ok "No hint comes to mind right now." t := by
  unfold hint
  rw [run_bind_of_ok htick, run_get_bind]
  simp only [hlive, Bool.false_eq_true, if_false]
  -- every hint's conditions fail, so the loop runs through without answering
  rw [run_bind_of_ok (run_forIn_yield ?_)]
  · rfl
  · intro h hh
    obtain ⟨o, hcheck, hfail⟩ := hnone h hh
    simp [hcheck, hfail, Act.ofExcept, EStateM.run, bind, EStateM.bind, get, getThe,
      MonadStateOf.get, EStateM.get, pure, EStateM.pure]

/-- A turn from a counter that is the number `n` moves it to `n + 1` and changes nothing else. -/
theorem tick_run_of_num {n m : Num} (hn : s.turns.num? = some n) (hm : n.add (.int 1) = .ok m) :
    tick.run s = .ok () { s with turns := Value.ofNum m } := by
  obtain ⟨m', hm', hnext⟩ := nextTurns_of_num hn
  rw [hm] at hm'
  cases hm'
  rw [tick_run, hnext]

/-- A turn that goes through changes the counter and nothing else. -/
theorem tick_run_eq (htick : tick.run s = .ok () t) : t = { s with turns := t.turns } := by
  rw [tick_run] at htick
  split at htick
  · cases htick
    rfl
  · cases htick

/-- A run that answers ends where the action's run ends. -/
theorem runState_of_run_ok {α : Type} {x : Act α} {a : α} {s s' : GameState}
    (h : x.run s = .ok a s') : runState x s = s' := by
  unfold runState
  rw [h]

/-- Talking answers from the state after its turn, whatever it answers, except that once the
game is over it shows the win message. -/
theorem talk_run_state {words : Value} {reply : String} {s' : GameState}
    (htick : tick.run s = .ok () t) (hrun : (talk g words).run s = .ok reply s') :
    s' = t ∨ (t.ended = true ∧ s' = runState (ending g) t) := by
  unfold talk at hrun
  rw [run_bind_of_ok htick, run_get_bind] at hrun
  cases hended : t.ended
  · -- the game goes on: the character, the lines and the words are only read
    left
    simp only [hended, Bool.false_eq_true, if_false] at hrun
    rw [run_get_bind] at hrun
    cases hnpc : npcNamed g t words with
    | error e => simp [hnpc, Act.ofExcept, EStateM.run, bind, EStateM.bind, throw, throwThe,
        MonadExceptOf.throw, EStateM.throw] at hrun
    | ok found =>
      simp only [hnpc, Act.ofExcept] at hrun
      rw [run_pure_bind] at hrun
      cases found with
      | none => simp only [EStateM.run, pure, EStateM.pure, EStateM.Result.ok.injEq] at hrun
                exact hrun.2.symm
      | some npc =>
        dsimp only at hrun
        cases hlines : (availableLines g npc).run t with
        | error e u => rw [run_bind_of_error hlines] at hrun; cases hrun
        | ok lines u =>
          obtain rfl : u = t := (readsOnly_availableLines g npc).run_state hlines
          rw [run_bind_of_ok hlines] at hrun
          split at hrun
          · simp only [EStateM.run, pure, EStateM.pure, EStateM.Result.ok.injEq] at hrun
            exact hrun.2.symm
          · cases hasked : lowerOf words with
            | error e => simp [hasked, EStateM.run, bind, EStateM.bind, throw, throwThe,
                MonadExceptOf.throw, EStateM.throw] at hrun
            | ok asked =>
              simp only [hasked, EStateM.run, bind, EStateM.bind, pure, EStateM.pure,
                EStateM.Result.ok.injEq] at hrun
              exact hrun.2.symm
  · -- the game is over: the win message
    right
    simp only [hended, if_true] at hrun
    exact ⟨rfl, (runState_of_run_ok hrun).symm⟩

end Refusals

end Play

namespace Session

section Runs

variable {session : Session} {α β : Type} {x : Game → Act α} {a : α} {s' : GameState}

/-- An action of the engine that finishes gives its value and its state to the session. -/
theorem run_withGame_of_ok (h : (x session.game).run session.state = .ok a s') :
    (withGame x).run session = .ok a { session with state := s' } := by
  simp only [withGame, act, EStateM.run, bind, EStateM.bind, get, getThe, MonadStateOf.get,
    EStateM.get] at h ⊢
  rw [h]

/-- An action of the engine that finishes gives its value, mapped, and its state to the session. -/
theorem run_map_withGame_of_ok (f : α → β) (h : (x session.game).run session.state = .ok a s') :
    (f <$> withGame x).run session = .ok (f a) { session with state := s' } := by
  rw [map_withGame]
  exact run_withGame_of_ok (by simp only [EStateM.run, Functor.map, EStateM.map] at h ⊢; rw [h])

/-- An answer of an action run on the session's game is an answer of the action run on its
state. -/
theorem exists_run_of_map_withGame {f : α → β} {b : β} {session' : Session}
    (h : (f <$> withGame x).run session = .ok b session') :
    ∃ a s', (x session.game).run session.state = .ok a s' ∧ b = f a ∧
      session' = { session with state := s' } := by
  cases hx : (x session.game).run session.state with
  | ok a s' =>
    rw [run_map_withGame_of_ok f hx] at h
    cases h
    exact ⟨a, s', rfl, rfl, rfl⟩
  | error e s' =>
    rw [map_withGame] at h
    simp only [withGame, act, EStateM.run, bind, EStateM.bind, get, getThe, MonadStateOf.get,
      EStateM.get, Functor.map, EStateM.map] at h hx
    rw [hx] at h
    cases h

end Runs

end Session

/-- The refusals of the turn verbs from the state `t` their turn left, each with its reply:
the words name nothing the verb acts on, the exit is blocked and has no message of its own,
the item cannot be taken, the line number is out of range, nothing can be done with the item,
or no hint applies. -/
inductive Refusal (g : Game) (t : GameState) : Request → String → Prop
  | lookUnseen {target : Value} (hlive : t.ended = false) (hgiven : target.truthy = true)
      (hnone : NothingNamed g t target) :
      Refusal g t (.look target) s!"You don't see any \"{target.display}\" here."
  | examineUnseen {target : Value} (hlive : t.ended = false) (hnone : NothingNamed g t target) :
      Refusal g t (.examine target) s!"You don't see any \"{target.display}\" to examine."
  | goNowhere {direction : Value} (hlive : t.ended = false)
      (hnone : exitNamed g t direction = .ok none) :
      Refusal g t (.go direction) s!"You can't go {direction.display} from here."
  | goBlocked {direction : Value} {i : Nat} {ex : Exit} (hlive : t.ended = false)
      (hfound : exitNamed g t direction = .ok (some (i, ex)))
      (hblocked : (exitBlocked g ex).run' t = some true)
      (hsilent : ex.blockedMessage.isPresent = false) :
      Refusal g t (.go direction) s!"You can't go {direction.display} right now."
  | takeAbsent {words : Value} (hlive : t.ended = false)
      (habsent : itemInRoom g t words = .ok none) :
      Refusal g t (.take words) s!"You don't see any \"{words.display}\" here to take."
  | takeFixed {words : Value} {item : Item} {text : String} (hlive : t.ended = false)
      (hfound : itemInRoom g t words = .ok (some item)) (hfixed : item.takeable.truthy = false)
      (hshown : (renderRaw item.takeBlocked).run' t = some text) :
      Refusal g t (.take words)
        (if text.isEmpty then s!"You can't take the {item.name.display}." else text)
  | takeWithheld {words : Value} {item : Item} {o : Outcome} {text : String}
      (hlive : t.ended = false) (hfound : itemInRoom g t words = .ok (some item))
      (htakeable : item.takeable.truthy = true) (hguarded : item.takeWhen.isEmpty = false)
      (hcheck : checkAll g t item.takeWhen = .ok o) (hfail : o.passed = false)
      (hshown : (renderRaw item.takeBlocked).run' t = some text) :
      Refusal g t (.take words)
        (if text.isEmpty then s!"You can't take the {item.name.display} right now." else text)
  | talkOptionNobody {words option : Value} (hlive : t.ended = false)
      (hnobody : npcNamed g t words = .ok none) :
      Refusal g t (.talkOption words option)
        s!"There's no one called \"{words.display}\" here to talk to."
  | talkOptionInvalid {words option : Value} {npc : Npc}
      {lines : List (DialogueLine × List Value)} (hlive : t.ended = false)
      (hfound : npcNamed g t words = .ok (some npc))
      (hlines : (availableLines g npc).run' t = some lines)
      (hout : optionIndex option lines.length = .ok none) :
      Refusal g t (.talkOption words option)
        s!"Invalid dialogue option. Please choose a number from 1-{lines.length}."
  | useUnknown {words targetWords number : Value} (hlive : t.ended = false)
      (hnone : (resolveActor g words).run' t = some none) :
      Refusal g t (.use words targetWords number) s!"You don't see any \"{words.display}\" to use."
  | useUnsure {words targetWords number : Value} {item : Item} {target : Option Item}
      (hlive : t.ended = false) (hfound : (resolveActor g words).run' t = some (some item))
      (haim : useTarget g t targetWords = .ok target)
      (hnone : chooseEither g t item target number = .ok none) :
      Refusal g t (.use words targetWords number)
        s!"You're not sure how to use the {item.name.display}{onTargetText targetWords}."
  | hintNone (hlive : t.ended = false)
      (hnone : ∀ h ∈ g.hints, ∃ o, checkAll g t h.when = .ok o ∧ o.passed = false) :
      Refusal g t .hint "No hint comes to mind right now."

/-- The refusals that show a text of the content from the state `t` their turn left: a blocked
exit's own message, and the win message that talking answers once the game is over. Each ends
where showing the text leaves the state. -/
inductive ShownRefusal (g : Game) (t : GameState) : Request → String → GameState → Prop
  | goBlocked {direction : Value} {i : Nat} {ex : Exit} {reply : String} {t' : GameState}
      (hlive : t.ended = false) (hfound : exitNamed g t direction = .ok (some (i, ex)))
      (hblocked : (exitBlocked g ex).run' t = some true)
      (hmessage : ex.blockedMessage.isPresent = true)
      (hshown : (renderText g ex.blockedMessage).run t = .ok reply t') :
      ShownRefusal g t (.go direction) reply t'
  | talkOver {words : Value} {reply : String} {t' : GameState} (hover : t.ended = true)
      (hshown : (ending g).run t = .ok reply t') :
      ShownRefusal g t (.talk words) reply t'

namespace Session

open Adventure.Play

section Answers

variable {session : Session} {t : GameState} (htick : tick.run session.state = .ok () t)
include htick

/-- A refusal answers its reply and leaves the session in the state its turn left. -/
theorem run_answer_of_refusal {request : Request} {reply : String}
    (h : Refusal session.game t request reply) :
    (answer request).run session = .ok (.str reply) { session with state := t } := by
  -- each refusal is its verb's run from the turn's state
  cases h with
  | lookUnseen hlive hgiven hnone =>
    exact run_withGame_of_ok (x := (look · _)) (look_run_unseen htick hlive hgiven hnone)
  | examineUnseen hlive hnone =>
    exact run_withGame_of_ok (x := (examine · _)) (examine_run_unseen htick hlive hnone)
  | goNowhere hlive hnone => exact run_map_withGame_of_ok _ (go_run_nowhere htick hlive hnone)
  | goBlocked hlive hfound hblocked hsilent =>
    have hgo := go_run_blocked htick hlive hfound hblocked
    rw [hsilent, if_neg Bool.false_ne_true] at hgo
    exact run_map_withGame_of_ok _ hgo
  | takeAbsent hlive habsent => exact run_map_withGame_of_ok _ (take_run_absent htick hlive habsent)
  | takeFixed hlive hfound hfixed hshown =>
    exact run_map_withGame_of_ok _ (take_run_fixed htick hlive hfound hfixed hshown)
  | takeWithheld hlive hfound htakeable hguarded hcheck hfail hshown =>
    exact run_map_withGame_of_ok _
      (take_run_withheld htick hlive hfound htakeable hguarded hcheck hfail hshown)
  | talkOptionNobody hlive hnobody =>
    exact run_map_withGame_of_ok _ (talkOption_run_nobody htick hlive hnobody)
  | talkOptionInvalid hlive hfound hlines hout =>
    exact run_map_withGame_of_ok _ (talkOption_run_invalid htick hlive hfound hlines hout)
  | useUnknown hlive hnone => exact run_map_withGame_of_ok _ (use_run_unknown htick hlive hnone)
  | useUnsure hlive hfound haim hnone =>
    exact run_map_withGame_of_ok _ (use_run_unsure htick hlive hfound haim hnone)
  | hintNone hlive hnone => exact run_map_withGame_of_ok _ (hint_run_none htick hlive hnone)

/-- While the game goes on, talking leaves the session in the state its turn left, whatever it
answers. -/
theorem talk_answer_state {words reply : Value} {session' : Session} (hlive : t.ended = false)
    (hrun : (answer (.talk words)).run session = .ok reply session') :
    session' = { session with state := t } := by
  obtain ⟨r, s', hrun', -, rfl⟩ := exists_run_of_map_withGame hrun
  rcases talk_run_state htick hrun' with hs | ⟨hover, -⟩
  · rw [hs]
  · rw [hlive] at hover
    cases hover

/-- A refusal that shows a text of the content answers the text and leaves the session where
showing it leaves the turn's state, which only uses gates. -/
theorem run_answer_of_shownRefusal {request : Request} {reply : String} {t' : GameState}
    (h : ShownRefusal session.game t request reply t') :
    (answer request).run session = .ok (.str reply) { session with state := t' } ∧
      GameState.Gated t t' := by
  cases h with
  | goBlocked hlive hfound hblocked hmessage hshown =>
    have hgo := go_run_blocked htick hlive hfound hblocked
    rw [if_pos hmessage, hshown] at hgo
    refine ⟨run_map_withGame_of_ok _ hgo, ?_⟩
    rw [← runState_of_run_ok hshown]
    exact gated_renderText _ _ t
  | @talkOver words reply t' hover hshown =>
    -- the turn keeps the game over, so talking is the turn and the win message
    have hsame : t.ended = session.state.ended := by rw [tick_run_eq htick]
    have hover₀ : session.state.ended = true := hsame ▸ hover
    have htalk : (talk session.game words).run session.state = .ok reply t' := by
      rw [talk_of_ended hover₀, endTurn, run_bind_of_ok htick]
      exact hshown
    refine ⟨run_map_withGame_of_ok _ htalk, ?_⟩
    rw [← runState_of_run_ok hshown]
    exact gated_renderText _ _ t

end Answers

/-- A refusal leaves the session as its turn left it: the turn counter one higher and nothing
else changed. Talking, whatever it answers while the game goes on, does the same. A refusal
that shows a text of the content, a blocked exit's own message or the win message once the
game is over, moreover uses the gates of the fragments it keeps. -/
theorem refusal_leaves_turn (session : Session) {n m : Num}
    (hn : session.state.turns.num? = some n) (hm : n.add (.int 1) = .ok m) :
    let t := { session.state with turns := Value.ofNum m }
    (∀ request reply, Refusal session.game t request reply →
      (answer request).run session = .ok (.str reply) { session with state := t }) ∧
    (∀ words reply session', t.ended = false →
      (answer (.talk words)).run session = .ok reply session' →
        session' = { session with state := t }) ∧
    (∀ request reply t', ShownRefusal session.game t request reply t' →
      (answer request).run session = .ok (.str reply) { session with state := t' } ∧
        GameState.Gated t t') := by
  intro t
  have htick : tick.run session.state = .ok () t := tick_run_of_num hn hm
  exact ⟨fun _ _ h => run_answer_of_refusal htick h,
    fun _ _ _ hlive hrun => talk_answer_state htick hlive hrun,
    fun _ _ _ h => run_answer_of_shownRefusal htick h⟩

/-- A game with no hints answers a hint that none comes to mind, with the counter one turn on. -/
theorem no_hint_on_an_empty_game :
    let session : Session := ⟨.null, false, default, GameState.initial (.str "hall") .empty⟩
    (answer .hint).run session =
      .ok (.str "No hint comes to mind right now.")
        { session with state := { session.state with turns := .int 1 } } :=
  (refusal_leaves_turn _ (n := .int 0) (m := .int 1) rfl rfl).1 .hint _ (.hintNone rfl nofun)

/-- Talking once the game is over shows the win message, and a kept fragment of it guarded by a
gate uses that gate. -/
theorem talk_after_win_uses_gate :
    let finale : Fragment := ⟨.str "You won.", [.leaf .once (.str "finale") .null], .int 0, .null⟩
    let g : Game := { (default : Game) with winMessage := .passage ⟨[finale], .null⟩ }
    let finished : GameState :=
      { GameState.initial (.str "a") .empty with ended := true, won := true, turns := .int 3 }
    (answer (.talk (.str "nell"))).run ⟨.null, false, g, finished⟩ =
      .ok (.str "You won.")
        ⟨.null, false, g, { finished with turns := .int 4, once := [.str "finale"] }⟩ := by
  cbv

end Session

end Adventure
