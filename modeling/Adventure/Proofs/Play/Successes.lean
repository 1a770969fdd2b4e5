import Adventure.Proofs.Play.ExitNaming
import Adventure.Proofs.Play.Frames
import Adventure.Proofs.Text.Case

/-! What the verbs do when they go through: the item search over text names, taking, saying a line
and using an item by a chosen action. -/

namespace Adventure.Play

open Adventure.Story Adventure.Text

variable {g : Game} {s t u : GameState}

/-- A search finds the only candidate that passes. -/
theorem find?_of_only {α : Type} {p : α → Bool} {xs : List α} {x : α} (hx : x ∈ xs)
    (hp : p x = true) (honly : ∀ y ∈ xs, p y = true → y = x) : xs.find? p = some x := by
  cases h : xs.find? p with
  | none => exact absurd hp (by simpa using List.find?_eq_none.mp h x hx)
  | some y => rw [honly y (List.mem_of_find?_eq_some h) (List.find?_some h)]

/-- A lookup that never fails over a list is a plain filter, by induction on the list. -/
theorem filterMapM_ok {α β : Type} {f : α → Except Fault (Option β)} {p : α → Option β} :
    ∀ {xs : List α}, (∀ x ∈ xs, f x = .ok (p x)) → xs.filterMapM f = .ok (xs.filterMap p)
  | [], _ => rfl
  | x :: xs, h => by
    have ih := filterMapM_ok fun y hy => h y (List.mem_cons_of_mem x hy)
    rw [List.filterMapM_cons, h x List.mem_cons_self, List.filterMap_cons]
    cases p x <;> simp [ih, bind, Except.bind, pure, Except.pure]

-----------------------------------------------------------------------------------------------
-- Items named by words
-----------------------------------------------------------------------------------------------

section Naming

/-- Whether the words name an item exactly: its name or one of its aliases, in lower case, is
the words in lower case. -/
def namesExactly (w : String) (i : Item) : Bool :=
  (itemNames i).any fun n => lower n.display == lower w

/-- Whether the words, in lower case, occur in the name or one of the aliases of an item. -/
def namesPartly (w : String) (i : Item) : Bool :=
  (itemNames i).any fun n => occursIn (lower w).toList (lower n.display).toList

/-- Items whose names and aliases are all texts. -/
def TextNamed (items : List Item) : Prop := ∀ i ∈ items, ∀ n ∈ itemNames i, ∃ t, n = .str t

/-- Items taken from a list whose names are texts have names that are texts. -/
theorem TextNamed.mono {items others : List Item} (h : TextNamed items)
    (hsub : ∀ i ∈ others, i ∈ items) : TextNamed others :=
  fun i hi => h i (hsub i hi)

/-- Among items named by texts, a word finds the first item it names exactly, and never fails. -/
theorem exactItem_texts {items : List Item} (h : TextNamed items) (w : String) :
    exactItem items (.str w) = .ok (items.find? (namesExactly w)) :=
  firstNamed_texts h

/-- Over items named by texts, the item search is an exact search and, failing that, a partial
one, and never fails. -/
theorem searchItems_texts {items : List Item} (h : TextNamed items) (w : String) :
    searchItems items (.str w) =
      .ok ((items.find? (namesExactly w)).or (items.find? (namesPartly w))) := by
  have hpartial : partialItem items (.str w) = .ok (items.find? (namesPartly w)) :=
    firstNamed_texts h
  unfold searchItems
  rw [exactItem_texts h]
  cases items.find? (namesExactly w) with
  | some i => rfl
  | none => simpa [bind, Except.bind] using hpartial

/-- Words and names in lower case name an item exactly when they are one of its names. -/
theorem namesExactly_lowercased {w : String} {i : Item} (hw : lowercased w = true)
    (hi : ((itemNames i).all fun n => lowercased n.display) = true) :
    namesExactly w i = (itemNames i).any (·.display == w) := by
  have hnames := List.all_eq_true.mp hi
  unfold namesExactly
  rw [lower_eq_self hw, Bool.eq_iff_iff]
  simp only [List.any_eq_true, beq_iff_eq]
  constructor <;> rintro ⟨n, hn, h⟩ <;> refine ⟨n, hn, ?_⟩
  · rwa [lower_eq_self (hnames n hn)] at h
  · rwa [lower_eq_self (hnames n hn)]

/-- Words and names in lower case name an item partly when they occur in one of its names. -/
theorem namesPartly_lowercased {w : String} {i : Item} (hw : lowercased w = true)
    (hi : ((itemNames i).all fun n => lowercased n.display) = true) :
    namesPartly w i = (itemNames i).any fun n => occursIn w.toList n.display.toList := by
  have hnames := List.all_eq_true.mp hi
  unfold namesPartly
  rw [lower_eq_self hw, Bool.eq_iff_iff]
  simp only [List.any_eq_true]
  constructor <;> rintro ⟨n, hn, h⟩ <;> refine ⟨n, hn, ?_⟩
  · rwa [lower_eq_self (hnames n hn)] at h
  · rwa [lower_eq_self (hnames n hn)]

/-- In a room whose characters are named by texts, words name the first character one of whose
names, lowered, holds them lowered. -/
theorem npcNamed_texts {room : Room} (hroom : currentRoom g s = .ok room)
    (htexts : ∀ x ∈ room.npcs, ∀ n ∈ npcNames x, ∃ t, n = .str t) (w : String) :
    npcNamed g s (.str w) = .ok (room.npcs.find? fun x =>
      (npcNames x).any fun n => occursIn (lower w).toList (lower n.display).toList) := by
  rw [npcNamed, hroom]
  exact firstNamed_texts htexts

/-- Finding an item in the room searches the items of the room not yet taken. -/
theorem itemInRoom_of_room {room : Room} {words : Value} (hroom : currentRoom g s = .ok room) :
    itemInRoom g s words = searchItems (roomItems room s) words := by
  rw [itemInRoom, hroom]
  rfl

/-- Finding an item in the open searches the items of the room not taken and in no container. -/
theorem itemInOpen_of_room {room : Room} {words : Value} (hroom : currentRoom g s = .ok room) :
    itemInOpen g s words = searchItems (openItems room s) words := by
  rw [itemInOpen, hroom]
  rfl

end Naming

-----------------------------------------------------------------------------------------------
-- Verbs that go through
-----------------------------------------------------------------------------------------------

section Runs

/-- Taking an item that can be taken freely and has no effects or text of its own: it is carried,
the global triggers fire, and the answer says it was picked up. -/
theorem take_run_takes {words : Value} {item : Item} (htick : tick.run s = .ok () t)
    (hlive : t.ended = false) (hfound : itemInRoom g t words = .ok (some item))
    (htakeable : item.takeable.truthy = true) (hfree : item.takeWhen = [])
    (hquiet : item.onTake = Option.none) (hplain : item.onTakeText = .none)
    (hpass : (globalPass g).run (t.addItem item.id) = .ok () u) :
    (take g words).run s = .ok s!"You pick up the {item.name.display}." u := by
  unfold take
  rw [run_bind_of_ok htick, run_get_bind]
  simp only [hlive, Bool.false_eq_true, if_false]
  rw [run_get_bind]
  simp only [hfound, Act.ofExcept]
  rw [run_pure_bind]
  simp only [htakeable, hfree, List.isEmpty_nil, Bool.not_true, Bool.false_eq_true, if_false]
  rw [run_modify_bind]
  simp only [hquiet]
  rw [run_bind_of_ok hpass]
  simp [hplain, Text.isPresent, EStateM.run, pure, EStateM.pure]

/-- Saying a line that sets no flag, gives no item itself and answers with a plain text: the
state is where the line's effects leave it, after its gates are used. -/
theorem sayLine_runState {line : DialogueLine} {marks : List Value} {text : String}
    (hflag : line.setsFlag.truthy = false) (hitem : line.givesItem.truthy = false)
    (htext : line.response = .plain text)
    (heffects : (applyEffects g line.effects).run (t.commitMarks marks) = .ok () u) :
    runState (sayLine g line marks) t = u := by
  have hshown : (renderText g line.response).run (t.commitMarks marks) =
      .ok (interpolate (t.commitMarks marks) text) (t.commitMarks marks) := by
    rw [htext]
    rfl
  unfold runState sayLine
  rw [run_get_bind]
  simp only [run_modify_bind]
  rw [run_bind_of_ok hshown]
  simp only [hflag, hitem, Bool.false_eq_true, if_false]
  rw [run_bind_of_ok heffects, run_get_bind]
  -- the note on winning only lengthens the answer
  cases (!t.won && u.won) <;> rfl

/-- Using an item by a chosen action, after the turn: its gates are used, its effects applied,
the room's triggers fired and its response shown, with the win message when the game has been
won since. -/
theorem use_run_chosen {words targetWords number : Value} {item : Item} {target : Option Item}
    {c : UseChoice} (htick : tick.run s = .ok () t) (hlive : t.ended = false)
    (hfound : (resolveActor g words).run' t = some (some item))
    (haim : useTarget g t targetWords = .ok target)
    (hchoice : chooseEither g t item target number = .ok (some c)) :
    (use g words targetWords number).run s =
      (do
        applyEffects g c.action.effects
        let room ← Act.ofExcept (currentRoom g (← get))
        let _ ← roomTriggers g room.triggers
        let response ← renderText g c.action.response
        if !t.won && (← get).won then ending g else pure response).run
        (t.commitMarks c.marks) := by
  unfold use
  rw [run_bind_of_ok htick, run_get_bind]
  simp only [hlive, Bool.false_eq_true, if_false]
  rw [run_bind_of_ok ((readsOnly_resolveActor g words).run_eq hfound)]
  dsimp only
  rw [run_get_bind]
  simp only [haim, Act.ofExcept]
  rw [run_pure_bind, run_get_bind, run_get_bind]
  simp only [hchoice]
  rw [run_pure_bind]
  dsimp only
  rw [run_modify_bind]

end Runs

end Adventure.Play
