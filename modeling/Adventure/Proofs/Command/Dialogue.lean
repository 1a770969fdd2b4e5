import Adventure.Proofs.Command.Talk
import Adventure.Proofs.Session.Refusals

/-! Typing back the number that talking suggests says the line it was listed against, when no
condition of the dialogue reads the turn counter and the name's words are singly spaced. -/

namespace Adventure

open Std.Do Adventure.Story Adventure.Play Adventure.Text Adventure.Number

namespace Story

mutual

/-- Whether a condition reads the turn counter: some leaf of it is at the path `turnCount`. -/
def Condition.readsTurnCount : Condition → Bool
  | .leaf _ path _ => path.isText "turnCount"
  | .all children => Condition.anyReadsTurnCount children
  | .any children => Condition.anyReadsTurnCount children
  | .negate child => child.readsTurnCount

/-- Whether some condition of a list reads the turn counter. -/
def Condition.anyReadsTurnCount : List Condition → Bool
  | [] => false
  | c :: rest => c.readsTurnCount || Condition.anyReadsTurnCount rest

end

end Story

namespace Play

section Turns

variable {g : Game} {s : GameState} {v : Value}

/-- Reading a path other than `turnCount` does not see the turn counter. -/
theorem GameState.read_turns {path : Value} (h : path.isText "turnCount" = false) :
    ({ s with turns := v } : GameState).read path = s.read path := by
  unfold GameState.read
  simp [h]

/-- A leaf that does not read the turn counter does not see it. -/
theorem evalLeaf_turns {test : Test} {path value : Value} (h : path.isText "turnCount" = false) :
    evalLeaf g { s with turns := v } test path value = evalLeaf g s test path value := by
  cases test <;> simp only [evalLeaf, GameState.read_turns h] <;> rfl

-- The evaluation is mutually recursive over a condition and its children; so is its frame.
mutual

/-- A condition that does not read the turn counter does not see it. -/
theorem evalCondition_turns : ∀ (c : Condition), c.readsTurnCount = false →
    evalCondition g { s with turns := v } c = evalCondition g s c
  | .leaf test path value, h => by
    rw [evalCondition, evalCondition]
    exact evalLeaf_turns h
  | .all children, h => by
    rw [evalCondition, evalCondition]
    exact evalAll_turns children h
  | .any children, h => by
    rw [evalCondition, evalCondition]
    exact evalAny_turns children h
  | .negate child, h => by
    rw [evalCondition, evalCondition, evalCondition_turns child h]

/-- A conjunction none of whose conditions reads the turn counter does not see it. -/
theorem evalAll_turns : ∀ (cs : List Condition), Condition.anyReadsTurnCount cs = false →
    evalAll g { s with turns := v } cs = evalAll g s cs
  | [], _ => rfl
  | c :: rest, h => by
    simp only [Condition.anyReadsTurnCount, Bool.or_eq_false_iff] at h
    rw [evalAll, evalAll, evalCondition_turns c h.1, evalAll_turns rest h.2]

/-- A disjunction none of whose conditions reads the turn counter does not see it. -/
theorem evalAny_turns : ∀ (cs : List Condition), Condition.anyReadsTurnCount cs = false →
    evalAny g { s with turns := v } cs = evalAny g s cs
  | [], _ => rfl
  | c :: rest, h => by
    simp only [Condition.anyReadsTurnCount, Bool.or_eq_false_iff] at h
    rw [evalAny, evalAny, evalCondition_turns c h.1, evalAny_turns rest h.2]

end

/-- Conditions that do not read the turn counter pass and offer gates alike at every turn. -/
theorem checkAll_turns {cs : List Condition} (h : Condition.anyReadsTurnCount cs = false) :
    checkAll g { s with turns := v } cs = checkAll g s cs :=
  evalAll_turns cs h

/-- Dialogue whose conditions do not read the turn counter offers the same lines at every
turn. -/
theorem offeredLines_turns : ∀ {lines : List DialogueLine},
    (∀ line ∈ lines, Condition.anyReadsTurnCount line.when = false) →
    offeredLines g { s with turns := v } lines = offeredLines g s lines
  | [], _ => rfl
  | line :: rest, h => by
    rw [offeredLines, offeredLines, checkAll_turns (h line List.mem_cons_self),
      offeredLines_turns fun l hl => h l (List.mem_cons_of_mem line hl)]

/-- Characters are found alike by a text and by its lower case. -/
theorem npcNamed_lower (text : String) : npcNamed g s (.str (lower text)) = npcNamed g s (.str text) := by
  have hlower : lowerOf (.str (lower text)) = lowerOf (.str text) := congrArg Except.ok (lower_lower text)
  unfold npcNamed
  rw [hlower]

end Turns

section Once

variable {s s' : GameState}

/-- Writing a path never writes the gates used. -/
theorem GameState.once_write {path v : Value} (h : s.write path v = .ok s') : s'.once = s.once := by
  obtain ⟨_, _, _, _, rfl⟩ := GameState.write_frame h
  rfl

/-- A change of play only adds gates to those used. -/
theorem Change.prefix_once (h : Change s s') : s.once <+: s'.once := by
  cases h with
  | markOnce gate => exact GameState.once_prefix_markOnce _ gate
  | write path v hw => rw [GameState.once_write hw]
  | _ => exact List.prefix_refl _

/-- Play only adds gates to those used. -/
theorem Reach.prefix_once (h : Reach s s') : s.once <+: s'.once := by
  induction h with
  | refl => exact List.prefix_refl _
  | tail _ step ih => exact ih.trans step.prefix_once

end Once

section Saying

variable {g : Game}

/-- The player's words of a line, with what follows them, start with the words. -/
theorem startsWith_said (line : DialogueLine) (r : String) :
    ∃ rest, s!"You: \"{line.playerLine.display}\"\n\n" ++ r =
      s!"You: \"{line.playerLine.display}\"" ++ rest :=
  ⟨"\n\n" ++ r, by simp only [toString, String.append_assoc]; rfl⟩

/-- The player's words of a line, with what follows them and more, start with the words. -/
theorem startsWith_said_append (line : DialogueLine) (r extra : String) :
    ∃ rest, s!"You: \"{line.playerLine.display}\"\n\n" ++ r ++ extra =
      s!"You: \"{line.playerLine.display}\"" ++ rest := by
  obtain ⟨rest, h⟩ := startsWith_said line r
  exact ⟨rest ++ extra, by rw [h, String.append_assoc]⟩

/-- The postcondition of saying a line from `s₀`: the answer starts with the player's words,
and every run, finished or failed, goes on from the state with the line's gates used. -/
abbrev saysPost (s₀ : GameState) (line : DialogueLine) (marks : List Value) :
    PostCond String (.except Fault (.arg GameState .pure)) :=
  post⟨fun r s => ⌜(∃ rest, r = s!"You: \"{line.playerLine.display}\"" ++ rest) ∧
      Reach (s₀.commitMarks marks) s⌝,
    fun _ s => ⌜Reach (s₀.commitMarks marks) s⌝⟩

/-- Saying a line answers with the player's words first, and goes on from the state with the line's
gates used. -/
theorem sayLine_says (s₀ : GameState) (line : DialogueLine) (marks : List Value) :
    ⦃fun s => ⌜s = s₀⌝⦄ sayLine g line marks ⦃saysPost s₀ line marks⦄ := by
  unfold sayLine
  -- the gates are used first; every later step only reaches on, and the answer is the
  -- player's words followed by the response and, when the line wins the game, the win note
  mvcgen [Act.ofExcept]
  all_goals first
    | grind
    | exact ⟨startsWith_said line _, by grind⟩
    | exact ⟨startsWith_said_append line _ _, by grind⟩

/-- Every answer of a line starts with the player's words. -/
theorem sayLine_reply {line : DialogueLine} {marks : List Value} {s₀ s' : GameState} {reply : String}
    (h : (sayLine g line marks).run s₀ = .ok reply s') :
    ∃ rest, reply = s!"You: \"{line.playerLine.display}\"" ++ rest := by
  have hpost := sayLine_says (g := g) s₀ line marks s₀ rfl
  simp only [WP.wp, PredTrans.apply, h] at hpost
  exact hpost.1

/-- Saying a line uses its gates, finished or failed. -/
theorem once_sayLine (line : DialogueLine) (marks : List Value) (s₀ : GameState) :
    (s₀.commitMarks marks).once <+: (runState (sayLine g line marks) s₀).once := by
  have hpost := sayLine_says (g := g) s₀ line marks s₀ rfl
  unfold runState
  cases h : (sayLine g line marks).run s₀ <;>
    simp only [WP.wp, PredTrans.apply, h] at hpost
  · exact hpost.2.prefix_once
  · exact hpost.prefix_once

end Saying

section Runs

variable {g : Game} {s t : GameState}

/-- Mapping the value of a finished step maps its result. -/
theorem run_map_of_ok {α β : Type} {x : Act α} {a : α} (h : x.run s = .ok a t) (f : α → β) :
    (f <$> x).run s = .ok (f a) t := by
  simp only [EStateM.run, Functor.map, EStateM.map] at h ⊢
  rw [h]

/-- Two actions that run alike from two states run alike there under a map. -/
theorem run_map_of_run_eq {α β : Type} {x y : Act α} (h : x.run s = y.run t) (f : α → β) :
    (f <$> x).run s = (f <$> y).run t := by
  simp only [EStateM.run, Functor.map, EStateM.map] at h ⊢
  rw [h]

/-- A mapped step that finishes is a step that finishes, its value mapped. -/
theorem exists_run_of_map {α β : Type} {x : Act α} {f : α → β} {b : β} {s' : GameState}
    (h : (f <$> x).run s = .ok b s') : ∃ a, x.run s = .ok a s' ∧ b = f a := by
  cases hx : x.run s with
  | ok a u =>
    rw [run_map_of_ok hx] at h
    cases h
    exact ⟨a, rfl, rfl⟩
  | error e u =>
    simp only [EStateM.run, Functor.map, EStateM.map] at h hx
    rw [hx] at h
    cases h

/-- A number written as a value is read back as itself. -/
theorem num?_ofNum (n : Num) : (Value.ofNum n).num? = some n := by
  cases n <;> rfl

/-- Reading the lines a character offers gives those lines and keeps the state. -/
theorem availableLines_run {npc : Npc} {lines : List (DialogueLine × List Value)}
    (h : offeredLines g s npc.dialogue = .ok lines) : (availableLines g npc).run s = .ok lines s := by
  unfold availableLines
  rw [run_get_bind]
  simp only [h, Act.ofExcept]
  rfl

/-- Talking to a character with lines to offer lists them, and suggests how to choose. -/
theorem talk_run_menu {words : Value} {npc : Npc} {lines : List (DialogueLine × List Value)}
    {asked : String} (htick : tick.run s = .ok () t) (hlive : t.ended = false)
    (hfound : npcNamed g t words = .ok (some npc)) (hoffered : offeredLines g t npc.dialogue = .ok lines)
    (hsome : lines ≠ []) (hasked : lowerOf words = .ok asked) :
    (talk g words).run s = .ok (talkMenu npc lines asked) t := by
  unfold talk
  rw [run_bind_of_ok htick, run_get_bind]
  simp only [hlive, Bool.false_eq_true, if_false]
  rw [run_get_bind]
  simp only [hfound, Act.ofExcept]
  rw [run_pure_bind]
  dsimp only
  rw [run_bind_of_ok (availableLines_run hoffered)]
  simp [hsome, hasked, EStateM.run, bind, EStateM.bind, pure, EStateM.pure]

/-- A whole number from one to the count chooses the entry before it. -/
theorem optionIndex_int {k count : Nat} (hpos : 0 < k) (hk : k ≤ count) :
    optionIndex (.int k) count = .ok (some (k - 1)) := by
  have hlow : ¬ (k : Int) < 1 := by omega
  have hhigh : ¬ (count : Int) < k := by omega
  simp [optionIndex, Value.num?, Num.lt, Num.compare?, compare_lt_iff_lt, hlow, hhigh]

/-- A line number within the list says the line it numbers. -/
theorem talkOption_run_chosen {words option : Value} {npc : Npc}
    {lines : List (DialogueLine × List Value)} {i : Nat} (htick : tick.run s = .ok () t)
    (hlive : t.ended = false) (hfound : npcNamed g t words = .ok (some npc))
    (hoffered : offeredLines g t npc.dialogue = .ok lines)
    (hindex : optionIndex option lines.length = .ok (some i)) :
    (talkOption g words option).run s =
      (sayLine g (lines.getD i default).1 (lines.getD i default).2).run t := by
  unfold talkOption
  rw [run_bind_of_ok htick, run_get_bind]
  simp only [hlive, Bool.false_eq_true, if_false]
  rw [run_get_bind]
  simp only [hfound, Act.ofExcept]
  rw [run_pure_bind]
  dsimp only
  rw [run_bind_of_ok (availableLines_run hoffered)]
  simp only [hindex]
  rfl

end Runs

end Play

namespace Command

open Adventure.Play

section Dispatch

variable {g : Game}

/-- `talk` and a name talks to the name trimmed. -/
theorem dispatch_talk {n : String} (h : TalkName n) (s : GameState) :
    (dispatch g ("talk " ++ n)).run s = ((some ∘ Value.str) <$> Play.talk g (.str (trim n))).run s := by
  rw [dispatch_run, read_talk h]
  rfl

/-- `talk`, a singly spaced name and a number says that line to the name. -/
theorem dispatch_talkOption {n : String} (h : Spaced n) {k : Nat}
    (hk : (toString k).length ≤ digitLimit) (s : GameState) :
    (dispatch g ("talk " ++ trim n ++ " " ++ toString k)).run s =
      ((some ∘ Value.str) <$> Play.talkOption g (.str (trim n)) (.int k)).run s := by
  rw [dispatch_run, read_talkOption h hk]
  rfl

end Dispatch

/-- Talking to a character with lines to offer lists them, and suggests the name trimmed and in
lower case; typing that suggestion with the number of a listed line, as the next command, says
that line: the answer starts with the player's words of the line, and the gates of its
conditions are used, whether or not the rest of the line goes through. This holds when no
condition of the dialogue reads the turn counter, since the list is made again one turn later. -/
theorem suggested_number_says_line (g : Game) (s : GameState) {n : String} (hname : TalkName n)
    {cur next : Num} (hcur : s.turns.num? = some cur) (hnext : cur.add (.int 1) = .ok next)
    (hlive : s.ended = false) {npc : Npc} (hfound : npcNamed g s (.str (trim n)) = .ok (some npc))
    (hsteady : ∀ line ∈ npc.dialogue, Condition.anyReadsTurnCount line.when = false)
    {lines : List (DialogueLine × List Value)} (hoffered : offeredLines g s npc.dialogue = .ok lines)
    (hsome : lines ≠ []) :
    let t := { s with turns := Value.ofNum next }
    let asked := lower (trim n)
    (dispatch g ("talk " ++ n)).run s = .ok (some (.str (talkMenu npc lines asked))) t ∧
    ∀ k, 0 < k → k ≤ lines.length → (toString k).length ≤ digitLimit →
      let cmd := "talk " ++ asked ++ " " ++ toString k
      let chosen := lines.getD (k - 1) default
      (dispatch g cmd).run t =
          ((some ∘ Value.str) <$> sayLine g chosen.1 chosen.2).run (runState tick t) ∧
        (∀ reply t', (dispatch g cmd).run t = .ok (some (.str reply)) t' →
          ∃ rest, reply = s!"You: \"{chosen.1.playerLine.display}\"" ++ rest) ∧
        ((runState tick t).commitMarks chosen.2).once <+: (runState (dispatch g cmd) t).once := by
  intro t asked
  have htick : tick.run s = .ok () t := tick_run_of_num hcur hnext
  have hlines : offeredLines g t npc.dialogue = .ok lines := by
    rw [offeredLines_turns hsteady]
    exact hoffered
  refine ⟨?_, fun k hpos hk hdigits => ?_⟩
  · -- the first command lists the lines, under the name trimmed and in lower case
    have hmenu := talk_run_menu htick hlive hfound hlines hsome
      (rfl : lowerOf (.str (trim n)) = .ok asked)
    rw [dispatch_talk hname]
    exact run_map_of_ok hmenu _
  · -- one turn later the suggestion finds the same character, who offers the same lines, and
    -- the number says the one it was shown by
    obtain ⟨next', hnext'⟩ := Num.add_one_ok next
    have htick' : tick.run t = .ok () { t with turns := Value.ofNum next' } :=
      tick_run_of_num (num?_ofNum next) hnext'
    have hstate : runState tick t = { t with turns := Value.ofNum next' } := runState_of_run_ok htick'
    have hlines' : offeredLines g { t with turns := Value.ofNum next' } npc.dialogue = .ok lines := by
      rw [offeredLines_turns hsteady]
      exact hlines
    have hfound' : npcNamed g { t with turns := Value.ofNum next' } (.str asked) = .ok (some npc) :=
      (npcNamed_lower (trim n)).trans hfound
    have hchoice := talkOption_run_chosen htick' hlive hfound' hlines' (optionIndex_int hpos hk)
    have hsuggested := dispatch_talkOption (g := g) hname.lower hdigits t
    rw [hname.trim_lower] at hsuggested
    have hrun : (dispatch g ("talk " ++ asked ++ " " ++ toString k)).run t =
        ((some ∘ Value.str) <$> sayLine g (lines.getD (k - 1) default).1
          (lines.getD (k - 1) default).2).run { t with turns := Value.ofNum next' } := by
      rw [hsuggested]
      exact run_map_of_run_eq hchoice _
    refine ⟨hstate ▸ hrun, fun reply t' hreply => ?_, ?_⟩
    · rw [hrun] at hreply
      obtain ⟨r, hr, heq⟩ := exists_run_of_map hreply
      simp only [Function.comp_apply, Option.some.injEq, Value.str.injEq] at heq
      subst heq
      exact sayLine_reply hr
    · have hend : runState (dispatch g ("talk " ++ asked ++ " " ++ toString k)) t =
          runState (sayLine g (lines.getD (k - 1) default).1 (lines.getD (k - 1) default).2)
            { t with turns := Value.ofNum next' } := by
        rw [← runState_map _ (some ∘ Value.str)]
        unfold runState
        rw [hrun]
      rw [hend, hstate]
      exact once_sayLine _ _ _

/-- A room with Nell, whose two lines pass at every turn. -/
def chatGame : Game :=
  let hello : DialogueLine := ⟨.str "Hello", .plain "Hi.", [], none, .null, .null⟩
  let bye : DialogueLine := ⟨.str "Bye", .plain "See you.", [.leaf .once (.str "bye") .null], none,
    .null, .null⟩
  let nell : Npc := ⟨.str "n", .str "Nell", .str "A guide.", [hello, bye], []⟩
  { (default : Game) with
    rooms := [{ (default : Room) with id := .str "a", name := .str "A", npcs := [nell] }]
    startingRoom := .str "a" }

/-- ` Nell` is a name a player can type after `talk`. -/
theorem talkName_nell : TalkName " Nell" where
  words_ne_nil := by decide
  spaced := by decide
  unnumbered _ _ hlong := absurd hlong (by decide)

set_option maxRecDepth 100000 in
/-- Talking to ` Nell` lists her two lines and suggests `talk nell`, and `talk nell 2` then says
the second. -/
theorem nell_says_chosen_line :
    let fresh := GameState.initial (.str "a") .empty
    let nell := (chatGame.rooms.getD 0 default).npcs.getD 0 default
    let lines := [(nell.dialogue.getD 0 default, []),
      (nell.dialogue.getD 1 default, [.str "bye"])]
    let t := { fresh with turns := Value.ofNum (.int 1) }
    (dispatch chatGame ("talk " ++ " Nell")).run fresh =
        .ok (some (.str (talkMenu nell lines "nell"))) t ∧
      (dispatch chatGame ("talk " ++ "nell" ++ " " ++ toString 2)).run t =
        ((some ∘ Value.str) <$> sayLine chatGame (lines.getD 1 default).1
          (lines.getD 1 default).2).run (runState tick t) := by
  have htrim : trim " Nell" = "Nell" := by decide
  have hasked : lower "Nell" = "nell" := by decide
  have h := suggested_number_says_line chatGame (GameState.initial (.str "a") .empty)
    talkName_nell (rfl : (GameState.initial (.str "a") .empty).turns.num? = some (.int 0)) rfl rfl
    (by rw [htrim]; rfl) (by decide) rfl (by split <;> simp)
  simp only [htrim, hasked] at h
  exact ⟨h.1, (h.2 2 (by decide) (by decide) (by decide)).1⟩

/-- The text a typed command answers, when it answers one. -/
def replyText (g : Game) (cmd : String) (s : GameState) : Option String :=
  match (dispatch g cmd).run s with
  | .ok (some (.str r)) _ => some r
  | _ => none

/-- Nell says "Early" only before the second turn. -/
def retiringGame : Game :=
  let early : DialogueLine :=
    ⟨.str "Early", .plain "Too soon.", [.leaf .lt (.str "turnCount") (.int 2)], none, .null, .null⟩
  let later : DialogueLine := ⟨.str "Later", .plain "Now then.", [], none, .null, .null⟩
  let nell : Npc := ⟨.str "n", .str "Nell", .str "A guide.", [early, later], []⟩
  { (default : Game) with
    rooms := [{ (default : Room) with id := .str "a", name := .str "A", npcs := [nell] }]
    startingRoom := .str "a" }

/-- A line listed at the first turn and retired by the turn counter at the next: the number it
was listed with then says the line after it. -/
theorem retired_line_shifts_choice :
    let fresh := GameState.initial (.str "a") .empty
    replyText retiringGame "talk nell" fresh =
        some ("You approach Nell.\n\nWhat would you like to say?\n\n1. \"Early\"\n" ++
          "2. \"Later\"\n\n(Use: talk nell [number] to choose)") ∧
      replyText retiringGame "talk nell 1" (runState (dispatch retiringGame "talk nell") fresh) =
        some "You: \"Later\"\n\nNow then." := by
  decide +kernel

end Command

end Adventure
