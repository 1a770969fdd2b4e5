import Adventure.Proofs.Command.Dialogue

/-! The shorthand fields `setsFlag` and `givesItem` of a dialogue line agree with their written-out
effects exactly when the flag's name is a plain flag name. -/

namespace Adventure.Play

/-- A name that a `set` effect writes as the flag of that very name: not one of the paths
`room`, `room.id`, `won` and `gameOver`, and without the prefix `flags.`. -/
def plainFlagName (x : String) : Bool :=
  !(x == "room" || x == "room.id" || x == "won" || x == "gameOver" || x.startsWith "flags.")

end Adventure.Play

namespace Adventure.Story.DialogueLine

/-- The effect that a shorthand field stands for, when the field is a text that is not empty. -/
def shorthandEffect (change : Change) (value : Value) : Value → List Effect
  | .str x => if x.isEmpty then [] else [⟨change, .str x, value⟩]
  | _ => []

/-- The effects that the shorthand fields of a line stand for: the flag it names set to true,
then the item it names added. -/
def shorthandEffects (line : DialogueLine) : List Effect :=
  shorthandEffect .set (.bool true) line.setsFlag ++ shorthandEffect .addItem .null line.givesItem

/-- The line with its shorthand fields left out and written as effects before its own. -/
def desugared (line : DialogueLine) : DialogueLine :=
  { line with setsFlag := .null, givesItem := .null,
              effects := line.effects.map (line.shorthandEffects ++ ·) }

/-- The shorthand fields of a line can be written as effects: the flag does not hold or is a
text with a plain flag name, and the item does not hold or is a text. -/
def WritableShorthands (line : DialogueLine) : Prop :=
  (line.setsFlag.truthy = false ∨
      ∃ x, line.setsFlag = .str x ∧ Play.plainFlagName x = true) ∧
    (line.givesItem.truthy = false ∨ ∃ y, line.givesItem = .str y)

end Adventure.Story.DialogueLine

namespace Adventure.Play

open Adventure.Story

/-- What the shorthand fields of a line do when the line is said: the flag is set to true, then
the item is given. -/
def shorthands (line : DialogueLine) : Act Unit := do
  if line.setsFlag.truthy then
    let s ← get
    set { s with flags := ← Act.ofExcept (s.flags.insert line.setsFlag (.bool true)) }
  if line.givesItem.truthy then modify (·.addItem line.givesItem)

/-- Saying a line with `act` for what it does once its response is shown: the gates of its
conditions are used, the response is shown after the player's words, `act` runs, and the win
flourish follows when the game has been won since. -/
def sayWith (g : Game) (line : DialogueLine) (marks : List Value) (act : Act Unit) :
    Act String := do
  let wasWon := (← get).won
  modify (·.commitMarks marks)
  let response := s!"You: \"{line.playerLine.display}\"\n\n" ++ (← renderText g line.response)
  act
  let s ← get
  if !wasWon && s.won then
    return response ++
      s!"\n\nYou feel a quiet certainty settle in.\n\nTurns taken: {s.turns.display}"
  return response

/-- Saying a line is saying it with its shorthands and then its effects. -/
theorem sayLine_eq (g : Game) (line : DialogueLine) (marks : List Value) :
    sayLine g line marks =
      sayWith g line marks (do shorthands line; applyEffects g line.effects) := by
  unfold sayLine sayWith shorthands
  simp only [bind_assoc]
  congr 1; funext s₀
  congr 1; funext u
  congr 1; funext r
  -- the two shorthand branches join before the effects in both forms
  by_cases hflag : line.setsFlag.truthy = true <;> by_cases hitem : line.givesItem.truthy = true <;>
    simp [hflag, hitem, bind_assoc]

/-- Applying a list of effects applies the first, then the rest. -/
theorem applyEffects_cons (g : Game) (e : Effect) (es : List Effect) :
    applyEffects g (some (e :: es)) = (do applyEffect e; applyEffects g (some es)) := by
  simp [applyEffects]

/-- Effects applied one by one before a list of effects are the longer list. -/
theorem applyEffects_forM_append (g : Game) (es es' : List Effect) :
    (do forM es applyEffect; applyEffects g (some es')) = applyEffects g (some (es ++ es')) := by
  induction es with
  | nil => simp
  | cons e es ih => rw [List.cons_append, applyEffects_cons, ← ih]; simp

/-- A `set` of a plain flag name writes the flag of that name. -/
theorem write_plainFlagName {x : String} (hx : plainFlagName x = true) (s : GameState)
    (v : Value) : s.write (.str x) v = .ok { s with flags := s.flags.set (.str x) v } := by
  have hkey : flagKey x = x := by
    have hlead : ¬ x.startsWith "flags." = true := by
      intro h; simp [plainFlagName, h] at hx
    simp [flagKey, hlead]
  have hroom : ¬ (x == "room" || x == "room.id") = true := by
    intro h; simp [plainFlagName] at hx; simp_all
  have hwon : ¬ x = "won" := by intro h; simp [plainFlagName, h] at hx
  have hover : ¬ x = "gameOver" := by intro h; simp [plainFlagName, h] at hx
  simp only [GameState.write, Value.isText, beq_iff_eq] at hroom ⊢
  simp [hroom, hwon, hover, flagOf, hkey, bind, Except.bind, pure, Except.pure]

/-- The flag shorthand of a line is the `set` effect it stands for. -/
theorem flagShorthand_eq {line : DialogueLine}
    (hflag : line.setsFlag.truthy = false ∨
      ∃ x, line.setsFlag = .str x ∧ plainFlagName x = true) :
    (if line.setsFlag.truthy then do
        let s ← get
        set { s with flags := ← Act.ofExcept (s.flags.insert line.setsFlag (.bool true)) }
      else pure () : Act Unit) =
      forM (DialogueLine.shorthandEffect .set (.bool true) line.setsFlag) applyEffect := by
  rcases hflag with hfalse | ⟨x, hx, hplain⟩
  · -- a field that does not hold is no text with characters
    have hnone : DialogueLine.shorthandEffect .set (.bool true) line.setsFlag = [] := by
      cases h : line.setsFlag <;> simp_all [DialogueLine.shorthandEffect, Value.truthy]
    simp [hfalse, hnone]
  · rw [hx]
    by_cases hempty : x.isEmpty = true
    · have htruthy : (Value.str x).truthy = false := by simp [Value.truthy, hempty]
      simp [htruthy, DialogueLine.shorthandEffect, hempty]
    · have htruthy : (Value.str x).truthy = true := by simpa [Value.truthy] using hempty
      simp only [htruthy, if_true, DialogueLine.shorthandEffect, hempty, Bool.false_eq_true,
        if_false, List.forM_cons, List.forM_nil]
      simp [applyEffect, Act.change, write_plainFlagName hplain, Act.ofExcept, Flags.insert,
        Value.hashable]

/-- The item shorthand of a line is the `addItem` effect it stands for. -/
theorem itemShorthand_eq {line : DialogueLine}
    (hitem : line.givesItem.truthy = false ∨ ∃ y, line.givesItem = .str y) :
    (if line.givesItem.truthy then modify (·.addItem line.givesItem) else pure () : Act Unit) =
      forM (DialogueLine.shorthandEffect .addItem .null line.givesItem) applyEffect := by
  rcases hitem with hfalse | ⟨y, hy⟩
  · have hnone : DialogueLine.shorthandEffect .addItem .null line.givesItem = [] := by
      cases h : line.givesItem <;> simp_all [DialogueLine.shorthandEffect, Value.truthy]
    simp [hfalse, hnone]
  · rw [hy]
    by_cases hempty : y.isEmpty = true
    · have htruthy : (Value.str y).truthy = false := by simp [Value.truthy, hempty]
      simp [htruthy, DialogueLine.shorthandEffect, hempty]
    · have htruthy : (Value.str y).truthy = true := by simpa [Value.truthy] using hempty
      simp [htruthy, DialogueLine.shorthandEffect, hempty, applyEffect]

/-- The shorthands of a line are the effects they stand for, applied one by one. -/
theorem shorthands_eq {line : DialogueLine} (hw : line.WritableShorthands) :
    shorthands line = forM line.shorthandEffects applyEffect := by
  unfold shorthands
  rw [DialogueLine.shorthandEffects, List.forM_append, ← flagShorthand_eq hw.1,
    ← itemShorthand_eq hw.2]
  by_cases h : line.setsFlag.truthy = true <;> simp [h]

/-- A line that declares its effects, whose shorthand fields are texts or do not hold, and whose
flag has a plain name, is said exactly as the line with its shorthands written as effects
before its own; so choosing it by number answers and changes the state as saying that line. -/
theorem shorthand_fields_as_effects {line : DialogueLine} {es : List Effect}
    (heffects : line.effects = some es) (hw : line.WritableShorthands) :
    (∀ g marks, sayLine g line marks = sayLine g line.desugared marks) ∧
    ∀ (g : Game) (s t : GameState) (words option : Value) (npc : Npc)
      (lines : List (DialogueLine × List Value)) (i : Nat),
      tick.run s = .ok () t → t.ended = false → npcNamed g t words = .ok (some npc) →
      offeredLines g t npc.dialogue = .ok lines →
      optionIndex option lines.length = .ok (some i) → (lines.getD i default).1 = line →
      (talkOption g words option).run s =
        (sayLine g line.desugared (lines.getD i default).2).run t := by
  have hsame : ∀ g marks, sayLine g line marks = sayLine g line.desugared marks := by
    intro g marks
    -- the written-out line has no shorthands, and its effects start with theirs
    have hplain : shorthands line.desugared = pure () := by
      simp [shorthands, DialogueLine.desugared, Value.truthy]
    have heffects' : line.desugared.effects = some (line.shorthandEffects ++ es) := by
      simp [DialogueLine.desugared, heffects]
    rw [sayLine_eq, sayLine_eq, hplain, heffects', ← applyEffects_forM_append,
      shorthands_eq hw, heffects, pure_bind]
    rfl
  refine ⟨hsame, ?_⟩
  intro g s t words option npc lines i htick hlive hfound hoffered hindex hchosen
  rw [talkOption_run_chosen htick hlive hfound hoffered hindex, hchosen, hsame]

/-- Nell in room `a`, with one line. -/
def nellSays (line : DialogueLine) : Game :=
  let nell : Npc := ⟨.str "n", .str "Nell", .str "A guide.", [line], []⟩
  { (default : Game) with
    rooms := [{ (default : Room) with id := .str "a", name := .str "A", npcs := [nell] }]
    startingRoom := .str "a" }

/-- The line of the flag and item shorthand test: it sets `GIFTED`, gives the gem and adds one
to `gifts`. -/
def giftLine : DialogueLine :=
  ⟨.str "Can I have that?", .plain "Take it.", [], some [⟨.add, .str "gifts", .int 1⟩],
    .str "GIFTED", .str "gem"⟩

/-- The gift line's shorthand fields, a plain flag and an item, say what its written-out effects
say. -/
theorem gift_line_as_effects :
    giftLine.effects = some [⟨.add, .str "gifts", .int 1⟩] ∧ plainFlagName "GIFTED" = true ∧
      sayLine (nellSays giftLine) giftLine [] = sayLine (nellSays giftLine) giftLine.desugared [] :=
  ⟨rfl, by decide +kernel,
    (shorthand_fields_as_effects rfl ⟨.inr ⟨"GIFTED", rfl, by decide +kernel⟩,
      .inr ⟨"gem", rfl⟩⟩).1 (nellSays giftLine) []⟩

/-- A line whose flag shorthand names `won`, with no effects of its own. -/
def wonShorthand : DialogueLine := ⟨.str "Hi", .plain "Hello.", [], some [], .str "won", .null⟩

/-- Choosing a line whose shorthand names `won` only sets a flag of that name, while its
written-out form wins the game and answers the win flourish. -/
theorem won_shorthand_sets_a_flag :
    let fresh := GameState.initial (.str "a") .empty
    let legacy := talkOption (nellSays wonShorthand) (.str "nell") (.int 1)
    let written := talkOption (nellSays wonShorthand.desugared) (.str "nell") (.int 1)
    legacy.run' fresh = some "You: \"Hi\"\n\nHello." ∧ (runState legacy fresh).won = false ∧
      written.run' fresh = some ("You: \"Hi\"\n\nHello.\n\nYou feel a quiet certainty settle in." ++
        "\n\nTurns taken: 1") ∧
      (runState written fresh).won = true := by
  decide +kernel

end Adventure.Play
