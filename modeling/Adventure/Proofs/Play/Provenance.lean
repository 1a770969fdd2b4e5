import Adventure.Proofs.Session.Refusals
import Adventure.Proofs.Play.Paths

/-! Every room, item, character, exit, use action and dialogue line that a verb acts on is one of
the game's, looked up where the verb looks. -/

namespace Adventure

namespace Story

mutual
/-- The gates a condition can offer: those of its `once` leaves, but none under a `not`. -/
def Condition.gates : Condition → List Value
  | .leaf .once path _ => [path]
  | .leaf _ _ _ => []
  | .all children => Condition.gatesOf children
  | .any children => Condition.gatesOf children
  | .negate _ => []

/-- The gates some conditions can offer. -/
def Condition.gatesOf : List Condition → List Value
  | [] => []
  | c :: rest => c.gates ++ Condition.gatesOf rest
end

/-- The gates a text can use: those of its fragments' conditions. -/
def Text.gates : Text → List Value
  | .passage p => p.fragments.flatMap fun f => Condition.gatesOf f.when
  | _ => []

end Story

namespace Play

open Story Text Std.Do

set_option mvcgen.warning false

variable {g : Game} {s : GameState}

-----------------------------------------------------------------------------------------------
-- Conditions offer only their own gates
-----------------------------------------------------------------------------------------------

/-- The gates a leaf offers when it passes are its own. -/
theorem evalLeaf_marks {test : Test} {path value : Value} {o : Outcome}
    (h : evalLeaf g s test path value = .ok o) : ∀ m ∈ o.marks, m ∈ (Condition.leaf test path value).gates := by
  cases test <;> simp only [evalLeaf] at h
  case once =>
    split at h <;> simp only [Except.ok.injEq] at h <;> subst h <;> simp [Outcome.fail, Condition.gates]
  -- every other leaf answers whether it passed, with no gates
  all_goals
    try simp only [bind, Except.bind, pure, Except.pure] at h
    repeat' split at h
    all_goals first | (cases h; simp [Outcome.ofBool]) | simp at h

mutual
/-- The gates a condition offers are among those it can offer. -/
theorem evalCondition_marks : ∀ (c : Condition) {o : Outcome}, evalCondition g s c = .ok o →
    ∀ m ∈ o.marks, m ∈ c.gates
  | .leaf test path value, o, h => by
    rw [evalCondition] at h
    exact evalLeaf_marks h
  | .all children, o, h => by
    rw [evalCondition] at h
    exact evalAll_marks children h
  | .any children, o, h => by
    rw [evalCondition] at h
    exact evalAny_marks children h
  | .negate child, o, h => by
    rw [evalCondition] at h
    cases hc : evalCondition g s child with
    | error e => simp [hc, bind, Except.bind] at h
    | ok oc =>
      simp only [hc, bind, Except.bind, pure, Except.pure, Except.ok.injEq] at h
      subst h
      simp [Outcome.ofBool]

/-- The gates a conjunction offers are among those of its conditions. -/
theorem evalAll_marks : ∀ (cs : List Condition) {o : Outcome}, evalAll g s cs = .ok o →
    ∀ m ∈ o.marks, m ∈ Condition.gatesOf cs
  | [], o, h => by
    simp only [evalAll, Except.ok.injEq] at h
    subst h
    simp [Outcome.pass]
  | c :: rest, o, h => by
    rw [evalAll] at h
    intro m hm
    simp only [Condition.gatesOf, List.mem_append]
    cases hc : evalCondition g s c with
    | error e => simp [hc, bind, Except.bind] at h
    | ok first =>
      cases hp : first.passed
      · -- a failing first condition fails the whole, with no gates
        simp [hc, hp, bind, Except.bind, pure, Except.pure] at h
        subst h
        simp [Outcome.fail] at hm
      · cases hr : evalAll g s rest with
        | error e => simp [hc, hr, hp, bind, Except.bind] at h
        | ok others =>
          cases hq : others.passed <;>
            simp [hc, hr, hp, hq, bind, Except.bind, pure, Except.pure] at h <;> subst h
          · simp [Outcome.fail] at hm
          · rcases List.mem_append.mp hm with hm | hm
            · exact .inl (evalCondition_marks c hc m hm)
            · exact .inr (evalAll_marks rest hr m hm)

/-- The gates a disjunction offers are among those of its conditions. -/
theorem evalAny_marks : ∀ (cs : List Condition) {o : Outcome}, evalAny g s cs = .ok o →
    ∀ m ∈ o.marks, m ∈ Condition.gatesOf cs
  | [], o, h => by
    simp only [evalAny, Except.ok.injEq] at h
    subst h
    simp [Outcome.fail]
  | c :: rest, o, h => by
    rw [evalAny] at h
    cases hc : evalCondition g s c with
    | error e => simp [hc, bind, Except.bind] at h
    | ok first =>
      intro m hm
      simp only [Condition.gatesOf, List.mem_append]
      cases hp : first.passed
      · simp only [hc, hp, bind, Except.bind, Bool.false_eq_true, if_false] at h
        exact .inr (evalAny_marks rest h m hm)
      · simp only [hc, hp, bind, Except.bind, if_true, pure, Except.pure, Except.ok.injEq] at h
        subst h
        exact .inl (evalCondition_marks c hc m hm)
end

/-- The gates checked conditions offer are among those the conditions can offer. -/
theorem checkAll_marks {s : GameState} {cs : List Condition} {o : Outcome}
    (h : checkAll g s cs = .ok o) : ∀ m ∈ o.marks, m ∈ Condition.gatesOf cs :=
  evalAll_marks cs h

/-- Conditions that can offer no gates offer none. -/
theorem marks_nil_of_gatesOf {s : GameState} {cs : List Condition} {o : Outcome}
    (hcs : Condition.gatesOf cs = []) (h : checkAll g s cs = .ok o) : o.marks = [] :=
  List.eq_nil_iff_forall_not_mem.mpr fun m hm => by
    simpa [hcs] using checkAll_marks h m hm

/-- A text whose conditions offer no gates is shown without changing the state. -/
theorem renderText_keeps (t : Text) (ht : t.gates = []) (u : GameState) :
    ⦃fun s => ⌜s = u⌝⦄ renderText g t ⦃keepsPost u⦄ := by
  cases t with
  | none => simp only [renderText]; mvcgen
  | plain text => simp only [renderText]; mvcgen
  | passage p =>
    simp only [renderText, renderFragments]
    -- the fragments kept offer no gates, so using them changes nothing
    mvcgen [Act.ofExcept] invariants
      · post⟨fun acc s => ⌜s = u ∧ ∀ q ∈ acc.2, q.2 = []⌝, fun _ s => ⌜s = u⌝⟩
      · keepsPost u
    with grind [Text.gates, List.flatMap_eq_nil_iff, marks_nil_of_gatesOf, GameState.commitMarks_nil]

/-- Showing a text that offers no gates only reads the state. -/
theorem readsOnly_renderText {t : Text} (ht : t.gates = []) : ReadsOnly (renderText g t) :=
  .of_triple (renderText_keeps t ht)

-----------------------------------------------------------------------------------------------
-- Rooms, items and characters looked up
-----------------------------------------------------------------------------------------------

/-- A room found by id is a room of the game with that id. -/
theorem findRoom_some {id : Value} {r : Room} (h : findRoom g id = .ok (some r)) :
    r ∈ g.rooms ∧ r.id.sameItem id = true := by
  unfold findRoom at h
  split at h
  · simp only [Except.ok.injEq] at h
    have hid := List.find?_some h
    exact ⟨List.mem_of_find?_eq_some h, hid⟩
  · cases h

/-- The room the player is in is a room of the game whose id is the player's room. -/
theorem currentRoom_ok {r : Room} (h : currentRoom g s = .ok r) :
    r ∈ g.rooms ∧ r.id.sameItem s.room = true := by
  unfold currentRoom at h
  cases hf : findRoom g s.room with
  | error e => simp [hf, bind, Except.bind] at h
  | ok found =>
    cases found with
    | none => simp [hf, bind, Except.bind, throw, throwThe, MonadExceptOf.throw] at h
    | some r' =>
      simp [hf, bind, Except.bind, pure, Except.pure] at h
      subst h
      exact findRoom_some hf

/-- An item found by id is an item of the game with that id. -/
theorem findItem_some {id : Value} {i : Item} (h : findItem g id = .ok (some i)) :
    i ∈ g.allItems ∧ i.id.sameItem id = true := by
  unfold findItem at h
  split at h
  · simp only [Except.ok.injEq] at h
    have hid := List.find?_some h
    exact ⟨List.mem_of_find?_eq_some h, hid⟩
  · cases h

/-- Every result of a filtering map comes from an entry the function kept. -/
theorem mem_filterMapM {α β : Type} {f : α → Except Fault (Option β)} :
    ∀ {xs : List α} {ys : List β} {y : β}, xs.filterMapM f = .ok ys → y ∈ ys →
      ∃ x ∈ xs, f x = .ok (some y)
  | [], ys, y, h, hy => by
    simp [pure, Except.pure] at h
    subst h
    cases hy
  | x :: xs, ys, y, h, hy => by
    rw [List.filterMapM_cons] at h
    cases hx : f x with
    | error e => simp [hx, bind, Except.bind] at h
    | ok found =>
      cases hxs : xs.filterMapM f with
      | error e =>
        cases found <;> simp [hx, hxs, bind, Except.bind] at h
      | ok rest =>
        cases found with
        | none =>
          simp only [hx, hxs, bind, Except.bind] at h
          cases h
          obtain ⟨z, hz, hfz⟩ := mem_filterMapM hxs hy
          exact ⟨z, List.mem_cons_of_mem x hz, hfz⟩
        | some b =>
          simp only [hx, hxs, bind, Except.bind, pure, Except.pure, Except.ok.injEq] at h
          subst h
          rcases List.mem_cons.mp hy with rfl | hy
          · exact ⟨x, List.mem_cons_self, hx⟩
          · obtain ⟨z, hz, hfz⟩ := mem_filterMapM hxs hy
            exact ⟨z, List.mem_cons_of_mem x hz, hfz⟩

/-- A carried item is an item of the game whose id is among those carried. -/
theorem carriedItems_mem {cs : List Item} {i : Item} (h : carriedItems g s = .ok cs) (hi : i ∈ cs) :
    i ∈ g.allItems ∧ ∃ x ∈ s.inventory, i.id.sameItem x = true := by
  obtain ⟨x, hx, hfind⟩ := mem_filterMapM h hi
  obtain ⟨hmem, hid⟩ := findItem_some hfind
  exact ⟨hmem, x, hx, hid⟩

/-- What the first-named search finds is among the entries searched. -/
theorem firstNamed_mem {α : Type} {names : α → List Value} {accepts : String → Bool} :
    ∀ {xs : List α} {x : α}, firstNamed names accepts xs = .ok (some x) → x ∈ xs
  | [], x, h => by simp [firstNamed] at h
  | y :: rest, x, h => by
    simp only [firstNamed, bind, Except.bind] at h
    cases hy : anyName accepts (names y) with
    | error e => simp [hy] at h
    | ok b =>
      cases b with
      | true =>
        simp [hy, pure, Except.pure] at h
        subst h
        exact List.mem_cons_self
      | false =>
        simp only [hy, Bool.false_eq_true, if_false] at h
        exact List.mem_cons_of_mem y (firstNamed_mem h)

/-- An item found by its exact name is among the items searched. -/
theorem exactItem_mem {items : List Item} {words : Value} {i : Item}
    (h : exactItem items words = .ok (some i)) : i ∈ items := by
  unfold exactItem at h
  cases hl : lowerOf words with
  | error e => simp [hl, bind, Except.bind] at h
  | ok norm =>
    simp only [hl, bind, Except.bind] at h
    exact firstNamed_mem h

/-- An item found by the words is among the items searched. -/
theorem searchItems_mem {items : List Item} {words : Value} {i : Item}
    (h : searchItems items words = .ok (some i)) : i ∈ items := by
  unfold searchItems at h
  cases hx : exactItem items words with
  | error e => simp [hx, bind, Except.bind] at h
  | ok found =>
    cases found with
    | some j =>
      simp [hx, bind, Except.bind, pure, Except.pure] at h
      subst h
      exact exactItem_mem hx
    | none =>
      simp only [hx, bind, Except.bind] at h
      unfold partialItem at h
      cases hl : lowerOf words with
      | error e => simp [hl, bind, Except.bind] at h
      | ok norm =>
        simp only [hl, bind, Except.bind] at h
        exact firstNamed_mem h

/-- An item within the player's reach: in the open in the current room, or carried. -/
def InReach (g : Game) (s : GameState) (i : Item) : Prop :=
  (∃ room, currentRoom g s = .ok room ∧ i ∈ openItems room s) ∨
    ∃ items, carriedItems g s = .ok items ∧ i ∈ items

/-- An item within reach is an item of the game. -/
theorem InReach.mem_allItems {item : Item} (h : InReach g s item) : item ∈ g.allItems := by
  rcases h with ⟨room, hroom, hitem⟩ | ⟨items, hitems, hitem⟩
  · exact List.mem_flatMap.mpr ⟨room, (currentRoom_ok hroom).1, (List.mem_filter.mp hitem).1⟩
  · exact (carriedItems_mem hitems hitem).1

/-- An item found in the open is an item in the open of the current room. -/
theorem itemInOpen_some {words : Value} {i : Item} (h : itemInOpen g s words = .ok (some i)) :
    ∃ room, currentRoom g s = .ok room ∧ i ∈ openItems room s := by
  unfold itemInOpen at h
  cases hr : currentRoom g s with
  | error e => simp [hr, bind, Except.bind] at h
  | ok room =>
    simp only [hr, bind, Except.bind] at h
    exact ⟨room, rfl, searchItems_mem h⟩

/-- A carried item found by the words is among the items carried. -/
theorem itemCarried_some {words : Value} {i : Item} (h : itemCarried g s words = .ok (some i)) :
    ∃ items, carriedItems g s = .ok items ∧ i ∈ items := by
  unfold itemCarried at h
  cases hc : carriedItems g s with
  | error e => simp [hc, bind, Except.bind] at h
  | ok items =>
    simp only [hc, bind, Except.bind] at h
    exact ⟨items, rfl, searchItems_mem h⟩

/-- An item found in the current room is one of its items not taken. -/
theorem itemInRoom_some {words : Value} {i : Item} (h : itemInRoom g s words = .ok (some i)) :
    ∃ room, currentRoom g s = .ok room ∧ i ∈ roomItems room s := by
  unfold itemInRoom at h
  cases hr : currentRoom g s with
  | error e => simp [hr, bind, Except.bind] at h
  | ok room =>
    simp only [hr, bind, Except.bind] at h
    exact ⟨room, rfl, searchItems_mem h⟩

/-- The target of a use is within reach. -/
theorem useTarget_some {words : Value} {t : Item} (h : useTarget g s words = .ok (some t)) :
    InReach g s t := by
  unfold useTarget at h
  split at h
  · cases ho : itemInOpen g s words with
    | error e => simp [ho, bind, Except.bind] at h
    | ok found =>
      cases found with
      | some t' =>
        simp only [ho, bind, Except.bind, pure, Except.pure, Except.ok.injEq, Option.some.injEq] at h
        subst h
        exact .inl (itemInOpen_some ho)
      | none =>
        simp only [ho, bind, Except.bind] at h
        exact .inr (itemCarried_some h)
  · simp [pure, Except.pure] at h

/-- The item a use names is within reach, and naming it changes nothing. -/
@[spec high]
theorem resolveActor_value (words : Value) (u : GameState) :
    ⦃fun s => ⌜s = u⌝⦄ resolveActor g words
    ⦃post⟨fun r s => ⌜s = u ∧ ∀ i, r = some i → InReach g u i⌝, fun _ s => ⌜s = u⌝⟩⦄ := by
  unfold resolveActor
  mvcgen [Act.ofExcept] with grind [InReach, exactItem_mem, itemCarried_some, itemInOpen_some]

/-- Every line offered is a line of the list whose conditions pass, with the gates they offer. -/
theorem offeredLines_mem : ∀ {lines : List DialogueLine} {offered : List (DialogueLine × List Value)},
    offeredLines g s lines = .ok offered →
    ∀ p ∈ offered, p.1 ∈ lines ∧ checkAll g s p.1.when = .ok ⟨true, p.2⟩
  | [], offered, h => by
    simp only [offeredLines, Except.ok.injEq] at h
    subst h
    simp
  | line :: rest, offered, h => by
    rw [offeredLines] at h
    cases hc : checkAll g s line.when with
    | error e => simp [hc, bind, Except.bind] at h
    | ok outcome =>
      cases hr : offeredLines g s rest with
      | error e => simp [hc, hr, bind, Except.bind] at h
      | ok others =>
        have hothers := offeredLines_mem hr
        cases hp : outcome.passed <;>
          simp only [hc, hr, hp, bind, Except.bind, pure, Except.pure, Except.ok.injEq,
            if_true, Bool.false_eq_true, if_false] at h <;> subst h
        · intro p hp'
          obtain ⟨hmem, hcheck⟩ := hothers p hp'
          exact ⟨List.mem_cons_of_mem line hmem, hcheck⟩
        · rintro p (_ | ⟨_, hp'⟩)
          · refine ⟨List.mem_cons_self, ?_⟩
            rw [hc]
            cases outcome
            simp_all
          · obtain ⟨hmem, hcheck⟩ := hothers p hp'
            exact ⟨List.mem_cons_of_mem line hmem, hcheck⟩

/-- The lines a character offers are read off the state, which stays as it is. -/
@[spec high]
theorem availableLines_offered (npc : Npc) (u : GameState) :
    ⦃fun s => ⌜s = u⌝⦄ availableLines g npc
    ⦃post⟨fun lines s => ⌜s = u ∧ offeredLines g u npc.dialogue = .ok lines⌝,
      fun _ s => ⌜s = u⌝⟩⦄ := by
  simp only [availableLines]
  mvcgen [Act.ofExcept] with grind

/-- A character the words name is a character of the current room. -/
theorem npcNamed_some {words : Value} {npc : Npc} (h : npcNamed g s words = .ok (some npc)) :
    ∃ room, currentRoom g s = .ok room ∧ npc ∈ room.npcs := by
  unfold npcNamed at h
  cases hr : currentRoom g s with
  | error e => simp [hr, bind, Except.bind] at h
  | ok room =>
    cases hl : lowerOf words with
    | error e => simp [hr, hl, bind, Except.bind] at h
    | ok norm =>
      simp only [hr, hl, bind, Except.bind] at h
      exact ⟨room, rfl, firstNamed_mem h⟩

/-- An exit the words name is an exit of the current room. -/
theorem exitNamed_some {words : Value} {i : Nat} {ex : Exit}
    (h : exitNamed g s words = .ok (some (i, ex))) :
    ∃ room, currentRoom g s = .ok room ∧ ex ∈ room.exits := by
  unfold exitNamed at h
  cases hr : currentRoom g s with
  | error e => simp [hr, bind, Except.bind] at h
  | ok room =>
    cases ht : textOf words with
    | error e => simp [hr, ht, bind, Except.bind] at h
    | ok text =>
      simp only [hr, ht, bind, Except.bind] at h
      refine ⟨room, rfl, ?_⟩
      -- an exit named by an alias, or one leading to the room named
      cases hf : firstNamed (fun (e : Exit × Nat) => e.1.aliases) (· == lower (trim text))
          room.exits.zipIdx with
      | error e => simp [hf] at h
      | ok found =>
        cases found with
        | some ej =>
          simp only [hf, pure, Except.pure, Except.ok.injEq, Option.some.injEq] at h
          obtain ⟨e, j⟩ := ej
          simp only [Prod.mk.injEq] at h
          obtain ⟨rfl, rfl⟩ := h
          exact List.fst_mem_of_mem_zipIdx (firstNamed_mem hf)
        | none =>
          simp only [hf] at h
          cases hn : roomNamed g (lower (trim text)) with
          | error e => simp [hn] at h
          | ok target =>
            cases target with
            | none => simp [hn, pure, Except.pure] at h
            | some target =>
              simp only [hn, pure, Except.pure, Except.ok.injEq, Option.map_eq_some_iff] at h
              obtain ⟨⟨e, j⟩, hfind, hej⟩ := h
              simp only [Prod.mk.injEq] at hej
              obtain ⟨rfl, rfl⟩ := hej
              exact List.fst_mem_of_mem_zipIdx (List.mem_of_find?_eq_some hfind)

/-- A computation that cannot fail whose every result satisfies `P` gives a result that does. -/
theorem Except.of_triple {ε α : Type} {x : Except ε α} {P : α → Prop}
    (h : ⦃⌜True⌝⦄ x ⦃post⟨fun r => ⌜P r⌝, fun _ => ⌜True⌝⟩⦄) {r : α} (hx : x = .ok r) : P r := by
  subst hx
  rw [show (Except.ok r : Except ε α) = pure r from rfl] at h
  simpa [Triple.iff] using h

/-- The outcome of a computation that may fail is what it gives. -/
theorem Except.triple_result {ε α : Type} (x : Except ε α) :
    ⦃⌜True⌝⦄ x ⦃post⟨fun r => ⌜x = .ok r⌝, fun _ => ⌜True⌝⟩⦄ := by
  cases h : x with
  | error e =>
    rw [show (Except.error e : Except ε α) = MonadExceptOf.throw e from rfl]
    simp [Triple.iff]
  | ok r =>
    rw [show (Except.ok r : Except ε α) = pure r from rfl]
    simp only [Triple.iff, WP.pure, SPred.entails_nil, SPred.down_pure, true_implies]
    rfl

/-- Checking conditions gives the outcome they have. -/
theorem checkAll_spec (cs : List Condition) :
    ⦃⌜True⌝⦄ checkAll g s cs ⦃post⟨fun o => ⌜checkAll g s cs = .ok o⌝, fun _ => ⌜True⌝⟩⦄ :=
  Except.triple_result _

/-- What a chosen use action satisfies: it is one of the item's actions, it answers to the
target, and its conditions pass, offering the gates that go with the choice. -/
structure Chosen (g : Game) (s : GameState) (item : Item) (target : Option Item)
    (c : UseChoice) : Prop where
  source : c.source = item
  mem : c.action ∈ item.useActions
  fits : targetFits c.action target = true
  passes : checkAll g s c.action.requires = .ok ⟨true, c.marks⟩

/-- An action of the item that fits the target and the number and whose conditions pass is
chosen. -/
theorem chosen_of_step {item : Item} {target : Option Item} {number : Value} {a : UseAction}
    {i : Nat} {o : Outcome} {pref suff : List (UseAction × Nat)}
    (hzip : item.useActions.zipIdx = pref ++ (a, i) :: suff)
    (hfits : (targetFits a target && numberFits a number) = true) (hpass : o.passed = true)
    (hcheck : checkAll g s a.requires = .ok o) : Chosen g s item target ⟨i, a, item, o.marks⟩ where
  source := rfl
  mem := by
    have hmem : (a, i) ∈ item.useActions.zipIdx := by simp [hzip]
    exact List.fst_mem_of_mem_zipIdx hmem
  fits := (Bool.and_eq_true _ _ ▸ hfits).1
  passes := by
    rw [hcheck]
    cases o
    simp_all

/-- An action the choice finds is chosen. -/
theorem chooseAction_spec (item : Item) (target : Option Item) (number : Value) :
    ⦃⌜True⌝⦄ chooseAction g s item target number
    ⦃post⟨fun r => ⌜∀ c, r = some c → Chosen g s item target c⌝, fun _ => ⌜True⌝⟩⦄ := by
  unfold chooseAction
  mvcgen [checkAll_spec] invariants
    · post⟨fun ⟨_, r⟩ => ⌜∀ c, r.1 = some (some c) → Chosen g s item target c⌝, fun _ => ⌜True⌝⟩
  with grind [chosen_of_step]

/-- The action a choice finds is one of the item's, fitting and passing. -/
theorem chooseAction_some {item : Item} {target : Option Item} {number : Value} {c : UseChoice}
    (h : chooseAction g s item target number = .ok (some c)) : Chosen g s item target c :=
  Except.of_triple (chooseAction_spec item target number) h c rfl

/-- The action chosen for a use is the item's own, or the target's with the roles swapped. -/
theorem chooseEither_some {item : Item} {target : Option Item} {number : Value} {c : UseChoice}
    (h : chooseEither g s item target number = .ok (some c)) :
    Chosen g s item target c ∨ ∃ t, target = some t ∧ Chosen g s t (some item) c := by
  unfold chooseEither at h
  cases hown : chooseAction g s item target number with
  | error e => simp [hown, bind, Except.bind] at h
  | ok own =>
    cases own with
    | some c' =>
      simp only [hown, bind, Except.bind, pure, Except.pure, Except.ok.injEq, Option.some.injEq] at h
      subst h
      exact .inl (chooseAction_some hown)
    | none =>
      simp only [hown, bind, Except.bind] at h
      cases target with
      | none => simp [pure, Except.pure] at h
      | some t => exact .inr ⟨t, rfl, chooseAction_some h⟩
end Play

end Adventure
