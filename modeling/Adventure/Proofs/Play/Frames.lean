import Adventure.Proofs.Command.Dialogue

/-! What saying a line or using an item changes when the line or action leaves its effects out. -/

namespace Adventure.Play

open Adventure.Story GameState

variable {g : Game} {s t : GameState}

/-- Running a change of state and then an action runs the action on the changed state. -/
theorem run_modify_bind {β : Type} (f : GameState → GameState) (k : PUnit → Act β)
    (s : GameState) : ((modify f : Act PUnit) >>= k).run s = (k ⟨⟩).run (f s) := rfl

/-- Showing a text leaves the game won or not as it was. -/
theorem won_runState_renderText (text : Text) (s : GameState) :
    (runState (renderText g text) s).won = s.won := by
  rw [(gated_renderText g text s).eq_with_once.1]

/-- A line with no effects, no flag and no item: saying it uses its gates and shows its
response after the player's words, and nothing more. -/
theorem sayLine_run_quiet {line : DialogueLine} {marks : List Value} (t : GameState)
    (hquiet : line.effects = none) (hflag : line.setsFlag.truthy = false)
    (hitem : line.givesItem.truthy = false) :
    (sayLine g line marks).run t =
      ((s!"You: \"{line.playerLine.display}\"\n\n" ++ ·) <$> renderText g line.response).run
        (t.commitMarks marks) := by
  unfold sayLine
  rw [run_get_bind]
  simp only [run_modify_bind]
  cases hr : (renderText g line.response).run (t.commitMarks marks) with
  | error e u =>
    rw [run_bind_of_error hr]
    simp only [EStateM.run, Functor.map, EStateM.map] at hr ⊢
    rw [hr]
  | ok r u =>
    rw [run_bind_of_ok hr]
    -- the response only uses gates, so the line cannot have won the game
    have hwon : u.won = t.won := by
      have h := won_runState_renderText (g := g) line.response (t.commitMarks marks)
      rw [runState_of_run_ok hr] at h
      rw [h, commitMarks_eq]
    simp only [hflag, Bool.false_eq_true, ↓reduceIte, hitem, applyEffects, hquiet,
      Bool.and_eq_true, Bool.not_eq_eq_eq_not, Bool.not_true, pure_bind, EStateM.run_bind,
      EStateM.run_get, hwon, Bool.eq_false_and_eq_true_self, EStateM.run_pure, EStateM.run_map]
    rw [hr]
    rfl

/-- An action without effects, chosen after the turn: its gates are used, the room's triggers
fire, the response is shown, and the win message follows when the game has been won since. -/
theorem use_run_quiet {words targetWords number : Value} {item : Item} {target : Option Item}
    {c : UseChoice} {room : Room}
    (htick : tick.run s = .ok () t) (hlive : t.ended = false)
    (hfound : (resolveActor g words).run' t = some (some item))
    (haim : useTarget g t targetWords = .ok target)
    (hchoice : chooseEither g t item target number = .ok (some c))
    (hquiet : c.action.effects = none) (hroom : currentRoom g t = .ok room) :
    (use g words targetWords number).run s =
      (do
        let _ ← roomTriggers g room.triggers
        let response ← renderText g c.action.response
        if !t.won && (← get).won then ending g else pure response).run
        (t.commitMarks c.marks) := by
  unfold use
  rw [run_bind_of_ok htick, run_get_bind]
  simp only [hlive, Bool.false_eq_true, if_false]
  rw [run_bind_of_ok ((readsOnly_resolveActor g words).run_eq hfound)]
  dsimp only
  rw [run_get_bind]
  simp only [haim, Act.ofExcept]
  rw [run_pure_bind, run_get_bind, run_get_bind]
  simp only [hchoice]
  rw [run_pure_bind]
  dsimp only
  rw [run_modify_bind, hquiet]
  have hroom' : currentRoom g (t.commitMarks c.marks) = .ok room := by
    rw [commitMarks_eq]
    exact hroom
  simp only [applyEffects]
  rw [run_pure_bind, run_get_bind]
  simp only [hroom']
  rfl

/-- When no trigger of a room passes, firing them changes nothing and collects no message. -/
theorem roomTriggers_run_none {triggers : List Trigger} {u : GameState}
    (hnone : ∀ tr ∈ triggers, ∃ o, checkAll g u tr.when = .ok o ∧ o.passed = false) :
    (roomTriggers g triggers).run u = .ok [] u := by
  unfold roomTriggers
  rw [run_bind_of_ok (run_forIn_yield ?_)]
  · rfl
  · intro tr htr
    obtain ⟨o, hcheck, hfail⟩ := hnone tr htr
    simp [hcheck, hfail, Act.ofExcept, EStateM.run, bind, EStateM.bind, get, getThe,
      MonadStateOf.get, EStateM.get, pure, EStateM.pure]

/-- Showing an action's response, and the win message when the game has been won since
`wasWon`, only uses gates. -/
theorem answer_gated (text : Text) (wasWon : Bool) (u : GameState) :
    Gated u (runState (do
      let response ← renderText g text
      if !wasWon && (← get).won then ending g else pure response) u) := by
  have hshown := gated_renderText g text u
  rw [runState_bind]
  unfold runState at hshown
  cases hr : (renderText g text).run u with
  | error e v => rw [hr] at hshown; exact hshown
  | ok r v =>
    rw [hr] at hshown
    simp only [runState_get_bind]
    split
    · exact hshown.trans (gated_renderText g g.winMessage v)
    · exact hshown

/-- Saying a line that declares no effects, sets no flag and gives no item is its turn, the
gates of its conditions and its response shown, and nothing else. Using an item by an action
that declares no effects is its turn, the gates of the action's conditions, the room's triggers
fired and the response shown, with the win message when the triggers won the game; when no room
trigger passes, it is only the turn, the gates and the response. -/
theorem quiet_line_and_action_frame {s : GameState} {n m : Num} (hn : s.turns.num? = some n)
    (hm : n.add (.int 1) = .ok m) (hlive : s.ended = false) :
    let t := { s with turns := Value.ofNum m }
    (∀ (words option : Value) (npc : Npc) (lines : List (DialogueLine × List Value)) (i : Nat),
      npcNamed g t words = .ok (some npc) → offeredLines g t npc.dialogue = .ok lines →
      optionIndex option lines.length = .ok (some i) →
      let line := (lines.getD i default).1
      let marks := (lines.getD i default).2
      line.effects = none → line.setsFlag.truthy = false → line.givesItem.truthy = false →
      (talkOption g words option).run s =
          ((s!"You: \"{line.playerLine.display}\"\n\n" ++ ·) <$> renderText g line.response).run
            (t.commitMarks marks) ∧
        Gated (t.commitMarks marks) (runState (talkOption g words option) s)) ∧
    (∀ (words targetWords number : Value) (item : Item) (target : Option Item) (c : UseChoice)
      (room : Room),
      (resolveActor g words).run' t = some (some item) → useTarget g t targetWords = .ok target →
      chooseEither g t item target number = .ok (some c) → c.action.effects = none →
      currentRoom g t = .ok room →
      let t₁ := runState (roomTriggers g room.triggers) (t.commitMarks c.marks)
      Gated t₁ (runState (use g words targetWords number) s) ∧
      (∀ msgs r t₂, (roomTriggers g room.triggers).run (t.commitMarks c.marks) = .ok msgs t₁ →
        (renderText g c.action.response).run t₁ = .ok r t₂ →
        runState (use g words targetWords number) s =
          if !t.won && t₁.won then runState (ending g) t₂ else t₂) ∧
      ((∀ tr ∈ room.triggers, ∃ o, checkAll g (t.commitMarks c.marks) tr.when = .ok o ∧
          o.passed = false) →
        (use g words targetWords number).run s =
          (renderText g c.action.response).run (t.commitMarks c.marks))) := by
  intro t
  have htick : tick.run s = .ok () t := tick_run_of_num hn hm
  have hlive' : t.ended = false := hlive
  refine ⟨?talk, ?use⟩
  case talk =>
    intro words option npc lines i hfound hoffered hindex line marks hquiet hflag hitem
    have hrun : (talkOption g words option).run s = _ :=
      (talkOption_run_chosen htick hlive' hfound hoffered hindex).trans
        (sayLine_run_quiet t hquiet hflag hitem)
    refine ⟨hrun, ?_⟩
    have hstate : runState (talkOption g words option) s =
        runState (renderText g line.response) (t.commitMarks marks) := by
      rw [← runState_map (renderText g line.response)
        (s!"You: \"{line.playerLine.display}\"\n\n" ++ ·)]
      unfold runState
      rw [hrun]
    rw [hstate]
    exact gated_renderText g line.response _
  case use =>
    intro words targetWords number item target c room hfound haim hchoice hquiet hroom t₁
    have hrun := use_run_quiet htick hlive' hfound haim hchoice hquiet hroom
    have hstate : runState (use g words targetWords number) s = runState (do
        let _ ← roomTriggers g room.triggers
        let response ← renderText g c.action.response
        if !t.won && (← get).won then ending g else pure response) (t.commitMarks c.marks) := by
      unfold runState
      rw [hrun]
    refine ⟨?gated, ?ran, ?none⟩
    case gated =>
      -- the triggers stop in `t₁`, finished or failed; what follows only uses gates
      rw [hstate, runState_bind]
      cases hfire : (roomTriggers g room.triggers).run (t.commitMarks c.marks) with
      | error e u =>
        have ht₁ : t₁ = u := by simp only [t₁, runState, hfire]
        rw [ht₁]
        exact Gated.refl u
      | ok msgs u =>
        have ht₁ : t₁ = u := by simp only [t₁, runState, hfire]
        rw [ht₁]
        exact answer_gated c.action.response t.won u
    case ran =>
      intro msgs r t₂ hfire hshown
      have hwon : t₂.won = t₁.won := by
        rw [← won_runState_renderText (g := g) c.action.response t₁, runState_of_run_ok hshown]
      rw [hstate, runState_bind, hfire]
      dsimp only
      rw [runState_bind, hshown]
      dsimp only
      rw [runState_get_bind, hwon]
      split <;> rfl
    case none =>
      intro hnone
      rw [hrun, run_bind_of_ok (roomTriggers_run_none hnone)]
      cases hshown : (renderText g c.action.response).run (t.commitMarks c.marks) with
      | error e v => exact run_bind_of_error hshown _
      | ok r v =>
        -- showing the response leaves the game won or not as it was, so no win message follows
        have hwon : v.won = t.won := by
          rw [← runState_of_run_ok hshown, won_runState_renderText, commitMarks_eq]
        rw [run_bind_of_ok hshown, run_get_bind, hwon]
        simp

/-- A lever that clicks, with an action that declares no effects. -/
def lever : Item :=
  { (default : Item) with
    id := .str "lever", name := .str "lever", description := .plain "A lever.",
    examineText := .plain "A lever.", takeable := .bool false,
    useActions := [{ (default : UseAction) with response := .plain "Click." }] }

/-- Nell, whose one line declares no effects. -/
def nell : Npc :=
  { (default : Npc) with
    id := .str "n", name := .str "Nell", description := .str "A guide.",
    dialogue := [⟨.str "Hi", .plain "Hello.", [], none, .null, .null⟩] }

/-- One room with Nell, the lever and the given triggers; the win message is a fragment that
uses the gate `finale`. -/
def leverRoom (triggers : List Trigger) : Game :=
  let finale : Fragment := ⟨.str "You won.", [.leaf .once (.str "finale") .null], .int 0, .null⟩
  let room : Room :=
    { (default : Room) with id := .str "a", name := .str "A", description := .plain "Room A.",
                            items := [lever], npcs := [nell], triggers := triggers }
  { (default : Game) with rooms := [room], startingRoom := .str "a",
                          winMessage := .passage ⟨[finale], .null⟩ }

-- the lookups of the concrete line and action lower their names, which unfolds deeply
set_option maxRecDepth 20000 in
/-- Talking to Nell and pulling the lever in a room with no triggers count one turn and show their
texts, changing nothing else. -/
theorem nell_and_lever_quiet :
    let g := leverRoom []
    let fresh := GameState.initial (.str "a") .empty
    let t := { fresh with turns := Value.ofNum (.int 1) }
    fresh.turns.num? = some (.int 0) ∧ (Num.int 0).add (.int 1) = .ok (.int 1) ∧
      fresh.ended = false ∧
      (talkOption g (.str "nell") (.int 1)).run fresh =
        ((s!"You: \"Hi\"\n\n" ++ ·) <$> renderText g (.plain "Hello.")).run (t.commitMarks []) ∧
      (use g (.str "lever") .null .null).run fresh =
        (renderText g (.plain "Click.")).run (t.commitMarks []) := by
  intro g fresh t
  have hframe := quiet_line_and_action_frame (g := g) (s := fresh) (n := .int 0) (m := .int 1)
    rfl rfl rfl
  refine ⟨rfl, rfl, rfl, ?_, ?_⟩
  · exact (hframe.1 (.str "nell") (.int 1) nell [(nell.dialogue.getD 0 default, [])] 0 rfl rfl
      rfl rfl rfl rfl).1
  · exact (hframe.2 (.str "lever") .null .null lever none
      ⟨0, lever.useActions.getD 0 default, lever, []⟩ (g.rooms.getD 0 default) rfl rfl rfl rfl
      rfl).2.2 (by simp [g, leverRoom])

/-- A room trigger that wins the game. -/
def winningTrigger : Trigger := ⟨[], [⟨.set, .str "won", .bool true⟩], .null, .none⟩

/-- Using the lever, whose action declares no effects and has no conditions, in a room whose
trigger wins the game: the trigger only sets the game won, and the response is a plain text, yet
the win message that `use` then answers uses its gate `finale`. -/
theorem room_win_uses_ending_gate :
    let g := leverRoom [winningTrigger]
    let fresh := GameState.initial (.str "a") .empty
    lever.useActions.map (fun a => a.effects.isNone && a.requires.isEmpty) = [true] ∧
      (runState (roomTriggers g [winningTrigger]) { fresh with turns := .int 1 }).once.isEmpty ∧
      (use g (.str "lever") .null .null).run' fresh = some "You won." ∧
      (runState (use g (.str "lever") .null .null) fresh).once.map Value.display = ["finale"] := by
  decide +kernel

end Adventure.Play
