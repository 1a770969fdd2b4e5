import Adventure.Proofs.Command.Dialogue
import Adventure.Proofs.Mapping

/-! An exit listed open by a look is taken by `go` at the next turn, and one listed blocked
refuses, when its conditions do not read the turn counter. -/

namespace Adventure

open Std.Do Adventure.Story Adventure.Play Adventure.Text

namespace Play

set_option mvcgen.warning false

variable {g : Game}

/-- Whether an exit is blocked in a state, as `exitBlocked` decides it without changing the
state. -/
def exitBlockedIn (g : Game) (s : GameState) (ex : Exit) : Except Fault Bool := do
  if !ex.requires.isEmpty then
    if !(← checkAll g s ex.requires).passed then return true
  if ex.locked.truthy then
    if !(ex.requiredItem.truthy && s.hasItem ex.requiredItem) then return true
  return false

/-- The name an exit is listed by: the name of the room it leads to, or the target itself when
there is no such room. -/
def exitName (g : Game) (ex : Exit) : Except Fault Value := do
  match ← findRoom g ex.target with
  | some room => pure room.name
  | none => pure ex.target

/-- The text of an exit in the list of exits. -/
def exitEntry (name : Value) (blocked : Bool) : String :=
  if blocked then s!"{name.display} (blocked)" else name.display

/-- The value `exitLabel` gives an exit in a state: its name, or a text with the mark. -/
def LabelIn (g : Game) (s : GameState) (ex : Exit) (label : Value) : Prop :=
  ∃ name b, exitName g ex = .ok name ∧ exitBlockedIn g s ex = .ok b ∧
    label = if b then .str (exitEntry name true) else name

/-- Asking whether an exit is blocked gives the answer in the state, which stays as it is, or the
fault. -/
theorem exitBlocked_run (g : Game) (ex : Exit) (s : GameState) :
    (exitBlocked g ex).run s =
      match exitBlockedIn g s ex with
      | .ok b => .ok b s
      | .error e => .error e s := by
  unfold exitBlocked exitBlockedIn
  by_cases hreq : ex.requires.isEmpty
  · by_cases hlock : ex.locked.truthy <;>
      simp [hreq, hlock, EStateM.run, bind, EStateM.bind, get, getThe, MonadStateOf.get,
        EStateM.get, pure, EStateM.pure, Except.pure]
    -- left is the locked exit, open only to the carrier of the item it requires
    split <;> rfl
  · cases hc : checkAll g s ex.requires with
    | error e =>
      simp [hreq, hc, Act.ofExcept, EStateM.run, bind, EStateM.bind, get, getThe,
        MonadStateOf.get, EStateM.get, throw, throwThe, MonadExceptOf.throw, EStateM.throw,
        Except.bind]
    | ok o =>
      by_cases hp : o.passed <;> by_cases hlock : ex.locked.truthy <;>
        simp [hreq, hc, hp, hlock, Act.ofExcept, EStateM.run, bind, EStateM.bind, get, getThe,
          MonadStateOf.get, EStateM.get, pure, EStateM.pure, Except.bind, Except.pure]
      split <;> rfl

/-- Asking whether an exit is blocked keeps the state and gives the answer in it. -/
@[spec high]
theorem exitBlocked_value (g : Game) (ex : Exit) (u : GameState) :
    ⦃fun s => ⌜s = u⌝⦄ exitBlocked g ex
    ⦃post⟨fun b s => ⌜s = u ∧ exitBlockedIn g u ex = .ok b⌝, fun _ s => ⌜s = u⌝⟩⦄ := by
  intro s hs
  subst hs
  simp only [WP.wp, PredTrans.apply, exitBlocked_run]
  cases exitBlockedIn g s ex <;> simp

/-- Listing an exit keeps the state and gives its label in it. -/
@[spec high]
theorem exitLabel_value (g : Game) (ex : Exit) (u : GameState) :
    ⦃fun s => ⌜s = u⌝⦄ exitLabel g ex
    ⦃post⟨fun v s => ⌜s = u ∧ LabelIn g u ex v⌝, fun _ s => ⌜s = u⌝⟩⦄ := by
  unfold exitLabel
  mvcgen [Act.ofExcept]
  all_goals simp_all [LabelIn, exitName, exitEntry, pure, Except.pure, bind, Except.bind]
  all_goals split <;> simp_all <;> rfl

/-- Related lists stay related with one related pair appended. -/
theorem forall₂_append_single {α β : Type} {R : α → β → Prop} {xs : List α} {ys : List β}
    {x : α} {y : β} (h : List.Forall₂ R xs ys) (hxy : R x y) :
    List.Forall₂ R (xs ++ [x]) (ys ++ [y]) :=
  List.rel_append h (.cons hxy .nil)

/-- The text an exit has in the list of exits, in a state. -/
def EntryIn (g : Game) (s : GameState) (ex : Exit) (entry : String) : Prop :=
  ∃ name b, exitName g ex = .ok name ∧ exitBlockedIn g s ex = .ok b ∧ entry = exitEntry name b

/-- The last paragraph of a room's description: its exits, or `none`. -/
def exitsLine (entries : List String) : String :=
  "Exits: " ++ if entries.isEmpty then "none" else ", ".intercalate entries

/-- A description whose last paragraph lists the exits of `room` as they stand in `s`. -/
def ListsExits (g : Game) (room : Room) (s : GameState) (reply : String) : Prop :=
  ∃ parts entries, List.Forall₂ (EntryIn g s) room.exits entries ∧
    reply = "\n\n".intercalate parts ∧ parts.getLast? = some (exitsLine entries)

/-- Joining parts succeeds only on texts, and joins them. -/
theorem joinTexts_ok {sep text : String} {parts : List Value} (h : joinTexts sep parts = .ok text) :
    ∃ texts, List.Forall₂ (fun v t => v = .str t) parts texts ∧ text = sep.intercalate texts := by
  simp only [joinTexts, bind, Except.bind] at h
  split at h
  · cases h
  · rename_i texts hm
    simp only [pure, Except.pure, Except.ok.injEq] at h
    refine ⟨texts, (forall₂_of_mapM_ok hm).imp fun v t hv => ?_, h.symm⟩
    cases v <;> simp_all

/-- Labels that are texts give the entries of the exits. -/
theorem entries_of_labels {exits : List Exit} {labels : List Value} {texts : List String}
    (hlabels : List.Forall₂ (LabelIn g s) exits labels)
    (htexts : List.Forall₂ (fun v t => v = .str t) labels texts) :
    List.Forall₂ (EntryIn g s) exits texts := by
  induction hlabels generalizing texts with
  | nil => cases htexts; exact .nil
  | cons hlabel _ ih =>
    cases htexts with
    | cons htext htail =>
      refine .cons ?_ (ih htail)
      obtain ⟨name, b, hname, hblocked, hvalue⟩ := hlabel
      refine ⟨name, b, hname, hblocked, ?_⟩
      cases b <;> simp_all [exitEntry, Value.display]

/-- A room with no labels ends its description with no exits. -/
theorem listsExits_none {room : Room} {s : GameState} (parts : List String)
    (hlabels : List.Forall₂ (LabelIn g s) room.exits []) :
    ListsExits g room s ("\n\n".intercalate (parts ++ ["Exits: " ++ "none"])) := by
  refine ⟨_, [], ?_, rfl, by simp [exitsLine]⟩
  rw [List.forall₂_nil_right_iff.mp hlabels]
  exact .nil

/-- A room with labels ends its description with them joined. -/
theorem listsExits_labels {room : Room} {s : GameState} {labels : List Value} {text : String}
    (parts : List String) (hlabels : List.Forall₂ (LabelIn g s) room.exits labels)
    (hsome : labels.isEmpty = false) (hjoin : joinTexts ", " labels = .ok text) :
    ListsExits g room s ("\n\n".intercalate (parts ++ ["Exits: " ++ text])) := by
  obtain ⟨texts, htexts, rfl⟩ := joinTexts_ok hjoin
  have hne : texts.isEmpty = false := by
    cases htexts with
    | nil => simp at hsome
    | cons => rfl
  exact ⟨_, texts, entries_of_labels hlabels htexts, rfl, by simp [exitsLine, hne]⟩

/-- A description that answers lists the exits of the current room as they stand when it
answers. -/
theorem describeRoom_lists_exits {t : GameState} {room : Room}
    (hroom : currentRoom g t = .ok room) :
    ⦃fun s => ⌜s = t⌝⦄ describeRoom g
    ⦃post⟨fun reply s' => ⌜ListsExits g room s' reply⌝, fun _ _ => ⌜True⌝⟩⦄ := by
  unfold describeRoom
  -- the loop over the exits keeps each label beside the exit it is of; the first loop is over
  -- the room's triggers
  mvcgen [Act.ofExcept] invariants
    · post⟨fun _ _ => ⌜True⌝, fun _ _ => ⌜True⌝⟩
    · post⟨fun acc s => ⌜List.Forall₂ (LabelIn g s) acc.fst.prefix acc.snd⌝, fun _ _ => ⌜True⌝⟩
    · post⟨fun acc s => ⌜List.Forall₂ (LabelIn g s) acc.fst.prefix acc.snd⌝, fun _ _ => ⌜True⌝⟩
    · post⟨fun acc s => ⌜List.Forall₂ (LabelIn g s) acc.fst.prefix acc.snd⌝, fun _ _ => ⌜True⌝⟩
    · post⟨fun acc s => ⌜List.Forall₂ (LabelIn g s) acc.fst.prefix acc.snd⌝, fun _ _ => ⌜True⌝⟩
  with grind -ring -linarith [List.Forall₂.nil, forall₂_append_single, listsExits_none, listsExits_labels]

/-- Whether an exit is blocked does not depend on the turn counter when its conditions do not
read it. -/
theorem exitBlockedIn_turns {ex : Exit} (hclock : Condition.anyReadsTurnCount ex.requires = false)
    (s : GameState) (v : Value) : exitBlockedIn g { s with turns := v } ex = exitBlockedIn g s ex := by
  simp only [exitBlockedIn, checkAll_turns hclock]
  rfl

/-- Among texts, a name is accepted when some name, in lower case, is. -/
theorem anyName_texts {accepts : String → Bool} : ∀ {names : List Value},
    (∀ n ∈ names, ∃ t, n = .str t) →
      anyName accepts names = .ok (names.any fun n => accepts (lower n.display))
  | [], _ => rfl
  | n :: rest, htexts => by
    obtain ⟨t, rfl⟩ := htexts n List.mem_cons_self
    have ih : anyName accepts rest = _ :=
      anyName_texts fun m hm => htexts m (List.mem_cons_of_mem _ hm)
    by_cases ht : accepts (lower t) <;>
      simp [anyName, lowerOf, textOf, ht, ih, Value.display, bind, Except.bind, pure, Except.pure,
        Functor.map, Except.map]

/-- The first-named search passes the entries no name of which is accepted and finds the next whose
is. -/
theorem firstNamed_after {α : Type} {f : α → List Value} {accepts : String → Bool} {x : α}
    (rest : List α) : ∀ {pre : List α}, (∀ y ∈ pre, anyName accepts (f y) = .ok false) →
      anyName accepts (f x) = .ok true → firstNamed f accepts (pre ++ x :: rest) = .ok (some x)
  | [], _, hx => by simp [firstNamed, hx, bind, Except.bind, pure, Except.pure]
  | y :: pre, hpre, hx => by
    have hy := hpre y List.mem_cons_self
    have ih := firstNamed_after rest (fun z hz => hpre z (List.mem_cons_of_mem y hz)) hx
    simp [firstNamed, hy, ih, bind, Except.bind]

/-- The alias `a` names the exit `ex`, which follows the exits `before`, at the first match of an
alias search in lower case: `ex` has it, the aliases of `ex` and of the exits before it are
texts, and none of those before it is `a` in lower case. -/
structure NamesFirst (before : List Exit) (ex : Exit) (a : String) : Prop where
  named : Value.str a ∈ ex.aliases
  texts : ∀ e ∈ ex :: before, ∀ n ∈ e.aliases, ∃ t, n = .str t
  fresh : ∀ e ∈ before, ∀ t, Value.str t ∈ e.aliases → lower t ≠ lower a

/-- The alias search of `go` finds the exit that `a` names first, with its place. -/
theorem exitNamed_alias {s : GameState} {room : Room} {before after : List Exit} {ex : Exit}
    {a : String} (hroom : currentRoom g s = .ok room) (hexits : room.exits = before ++ ex :: after)
    (hfirst : NamesFirst before ex a) (htrim : trim a = a) :
    exitNamed g s (.str a) = .ok (some (before.length, ex)) := by
  have hex : anyName (· == lower a) ex.aliases = .ok true := by
    rw [anyName_texts (hfirst.texts ex List.mem_cons_self)]
    congr 1
    simp only [List.any_eq_true, beq_iff_eq]
    exact ⟨_, hfirst.named, rfl⟩
  have hbefore : ∀ y ∈ before.zipIdx,
      anyName (· == lower a) (y : Exit × Nat).1.aliases = .ok false := by
    intro y hy
    have hmem := List.fst_mem_of_mem_zipIdx hy
    rw [anyName_texts (hfirst.texts y.1 (List.mem_cons_of_mem ex hmem))]
    simp only [List.any_eq_false, beq_iff_eq, Except.ok.injEq]
    intro n hn heq
    obtain ⟨t, rfl⟩ := hfirst.texts y.1 (List.mem_cons_of_mem ex hmem) n hn
    exact hfirst.fresh y.1 hmem t hn heq
  have hsearch := firstNamed_after (f := fun (e : Exit × Nat) => e.1.aliases)
    (x := (ex, before.length)) (after.zipIdx (before.length + 1)) hbefore hex
  simp only [exitNamed, hroom, textOf, htrim, hexits, List.zipIdx_append, List.zipIdx_cons,
    Nat.zero_add, hsearch, bind, Except.bind, pure, Except.pure]

/-- `go` by an exit open after its turn enters the room the exit leads to and describes it. -/
theorem go_run_enters {s t : GameState} {direction : Value} {i : Nat} {ex : Exit}
    (htick : tick.run s = .ok () t) (hlive : t.ended = false)
    (hfound : exitNamed g t direction = .ok (some (i, ex)))
    (hopen : exitBlockedIn g t ex = .ok false) :
    (go g direction).run s = (describeRoom g).run ({ t with room := ex.target }.visit ex.target) := by
  have hexit : (exitBlocked g ex).run t = .ok false t := by rw [exitBlocked_run, hopen]
  unfold go
  rw [run_bind_of_ok htick, run_get_bind]
  simp only [hlive, Bool.false_eq_true, if_false]
  rw [run_get_bind]
  simp only [hfound, Act.ofExcept]
  rw [run_pure_bind]
  dsimp only
  rw [run_bind_of_ok hexit, if_neg (by simp)]
  simp only [modify, modifyGet, MonadStateOf.modifyGet, EStateM.modifyGet, EStateM.run, bind,
    EStateM.bind, hlive]

/-- Looking at nothing, once the game goes on, describes the current room after the turn. -/
theorem look_run_describes {s t : GameState} (htick : tick.run s = .ok () t)
    (hlive : t.ended = false) :
    (look g .null).run s = (describeRoom g >>= fun r => pure (Value.str r)).run t := by
  unfold look
  rw [run_bind_of_ok htick, run_get_bind]
  simp [hlive, Value.truthy]

/-- A triple whose postcondition speaks of answers, read on a run that answers. -/
theorem post_of_run_ok {α : Type} {x : Act α} {s₀ s' : GameState} {a : α}
    {P : α → GameState → Prop}
    (h : ⦃fun s => ⌜s = s₀⌝⦄ x ⦃post⟨fun a s => ⌜P a s⌝, fun _ _ => ⌜True⌝⟩⦄)
    (hrun : x.run s₀ = .ok a s') : P a s' := by
  have hpost := h s₀ rfl
  simp only [WP.wp, PredTrans.apply, hrun] at hpost
  exact hpost

/-- In related lists, an entry after a prefix is related to the entry at the prefix's length. -/
theorem forall₂_at_length {α β : Type} {R : α → β → Prop} {x : α} {ys : List α} :
    ∀ {xs : List α} {zs : List β}, List.Forall₂ R (xs ++ x :: ys) zs →
      ∃ z, zs[xs.length]? = some z ∧ R x z
  | [], _, .cons hxz _ => ⟨_, rfl, hxz⟩
  | _ :: _, _, .cons _ hrest => by
    obtain ⟨z, hz, hxz⟩ := forall₂_at_length hrest
    exact ⟨z, by simpa using hz, hxz⟩

/-- After a turn that went through, the counter is a number. -/
theorem turns_num_of_tick {s t : GameState} (htick : tick.run s = .ok () t) :
    ∃ n, t.turns.num? = some n := by
  rw [tick_run] at htick
  unfold nextTurns at htick
  split at htick
  · rename_i v hv
    cases htick
    split at hv
    · obtain ⟨m, hm⟩ := Num.add_one_ok ‹Num›
      simp only [hm, Functor.map, Except.map, Except.ok.injEq] at hv
      exact ⟨m, by rw [← hv, num?_ofNum]⟩
    · cases hv
  · cases htick

/-- A turn from a counter that is a number goes through. -/
theorem tick_run_of_turns {s : GameState} {n : Num} (hn : s.turns.num? = some n) :
    tick.run s = .ok () (runState tick s) := by
  obtain ⟨m, hm⟩ := Num.add_one_ok n
  rw [runState_of_run_ok (tick_run_of_num hn hm)]
  exact tick_run_of_num hn hm

/-- The exit list of a look agrees with the step after it: an exit named by the alias `a`
whose conditions do not read the turn counter is taken by `go a` when it is listed open, and
refuses without moving the player when it is listed blocked. -/
theorem go_takes_exit_as_listed {s s₁ : GameState} {room : Room} {before after : List Exit}
    {ex : Exit} {a : String} {reply : Value}
    (hroom : currentRoom g s = .ok room) (hlive : s.ended = false)
    (hexits : room.exits = before ++ ex :: after) (hfirst : NamesFirst before ex a)
    (htrim : trim a = a) (hclock : Condition.anyReadsTurnCount ex.requires = false)
    (hlook : (look g .null).run s = .ok reply s₁)
    (hstay : s₁.room = s.room) (hgoing : s₁.ended = false) :
    ∃ parts entries name b, reply = .str ("\n\n".intercalate parts) ∧
      parts.getLast? = some (exitsLine entries) ∧ entries.length = room.exits.length ∧
      entries[before.length]? = some (exitEntry name b) ∧ exitName g ex = .ok name ∧
      exitBlockedIn g s₁ ex = .ok b ∧
      (b = false → (go g (.str a)).run s₁ =
        (describeRoom g).run ({ runState tick s₁ with room := ex.target }.visit ex.target)) ∧
      (b = true → (runState (go g (.str a)) s₁).room = s₁.room ∧
        (go g (.str a)).run s₁ =
          if ex.blockedMessage.isPresent then (renderText g ex.blockedMessage).run (runState tick s₁)
          else .ok s!"You can't go {a} right now." (runState tick s₁)) := by
  -- the look: its turn, then the description of the room, whose last paragraph lists the exits
  cases htick : tick.run s with
  | error e t => rw [look, run_bind_of_error htick] at hlook; cases hlook
  | ok u t =>
  have ht : t = { s with turns := t.turns } := tick_run_eq htick
  have hroom_t : currentRoom g t = .ok room := by rw [ht]; exact hroom
  have hlive_t : t.ended = false := by rw [ht]; exact hlive
  rw [look_run_describes htick hlive_t] at hlook
  cases hdescribe : (describeRoom g).run t with
  | error e s' => rw [run_bind_of_error hdescribe] at hlook; cases hlook
  | ok text s' =>
  rw [run_bind_of_ok hdescribe] at hlook
  simp only [pure, EStateM.pure, EStateM.run, EStateM.Result.ok.injEq] at hlook
  obtain ⟨rfl, hs'⟩ := hlook
  subst s'
  obtain ⟨parts, entries, hentries, rfl, hlast⟩ :=
    post_of_run_ok (describeRoom_lists_exits hroom_t) hdescribe
  rw [hexits] at hentries
  obtain ⟨entry, hentry, name, b, hname, hblocked, rfl⟩ := forall₂_at_length hentries
  refine ⟨parts, entries, name, b, rfl, hlast, ?_, hentry, hname, hblocked, ?_⟩
  · rw [hexits]; exact hentries.length_eq.symm
  -- the go: its turn, then the exit the alias names, blocked as it was listed
  obtain ⟨n, hn⟩ := turns_num_of_tick htick
  have hturns : s₁.turns = t.turns := by
    rw [← runState_of_run_ok hdescribe]
    exact turns_runState_of_stays (describeRoom_reach t g)
  have htick₁ := tick_run_of_turns (hturns ▸ hn)
  set t₁ := runState tick s₁ with ht₁
  have hsame : t₁ = { s₁ with turns := t₁.turns } := tick_run_eq htick₁
  have hroom₁ : currentRoom g t₁ = .ok room := by
    rw [hsame, ← hroom]
    simp only [currentRoom, hstay]
  have hfound := exitNamed_alias hroom₁ hexits hfirst htrim
  have hblocked₁ : exitBlockedIn g t₁ ex = .ok b := by
    rw [hsame, exitBlockedIn_turns hclock]
    exact hblocked
  have hlive₁ : t₁.ended = false := by rw [hsame]; exact hgoing
  refine ⟨fun hb => go_run_enters htick₁ hlive₁ hfound (hb ▸ hblocked₁), fun hb => ?_⟩
  have hrun := go_run_blocked htick₁ hlive₁ hfound
    (by simp [EStateM.run', exitBlocked_run, hblocked₁, hb])
  refine ⟨?_, hrun⟩
  -- a refusal shows at most a text, which only uses gates
  have hroom_t₁ : t₁.room = s₁.room := by rw [hsame]
  by_cases hshown : ex.blockedMessage.isPresent
  · rw [if_pos hshown] at hrun
    have hstate : runState (go g (.str a)) s₁ = runState (renderText g ex.blockedMessage) t₁ := by
      unfold runState
      rw [hrun]
    rw [hstate, (gated_renderText g ex.blockedMessage t₁).eq_with_once.1]
    exact hroom_t₁
  · rw [if_neg hshown] at hrun
    rw [runState_of_run_ok hrun]
    exact hroom_t₁

/-- Two rooms: the first has one way out, `north` to the second, open while `requires` holds. -/
def twoRooms (requires : List Condition) : Game :=
  let north : Exit :=
    { (default : Exit) with target := .str "b", aliases := [.str "north"], requires := requires }
  let first : Room :=
    { (default : Room) with id := .str "a", name := .str "A", description := .plain "Room A.",
                            exits := [north] }
  let second : Room :=
    { (default : Room) with id := .str "b", name := .str "B", description := .plain "Room B." }
  { (default : Game) with rooms := [first, second], startingRoom := .str "a" }

/-- An exit listed open on one turn can be refused on the next, once its condition on the turn
counter fails. -/
theorem listed_open_exit_refused_next_turn :
    let g := twoRooms [.leaf .lt (.str "turnCount") (.int 2)]
    let fresh := GameState.initial (.str "a") .empty
    let looked := runState (look g .null) fresh
    ((look g .null).run' fresh).map Value.display = some "** A **\n\nRoom A.\n\nExits: B" ∧
      (go g (.str "north")).run' looked = some "You can't go north right now." ∧
      (runState (go g (.str "north")) looked).room.display = "a" := by
  decide +kernel

/-- The north exit of the first room is listed by its name and taken as listed. -/
theorem north_exit_listed_and_taken :
    let g := twoRooms []
    let fresh := GameState.initial (.str "a") .empty
    let s₁ := { fresh with turns := .int 1 }
    let north := (g.rooms.getD 0 default).exits.getD 0 default
    ∃ parts entries name b,
      Value.str "** A **\n\nRoom A.\n\nExits: B" = .str ("\n\n".intercalate parts) ∧
      parts.getLast? = some (exitsLine entries) ∧ entries.length = 1 ∧
      entries[0]? = some (exitEntry name b) ∧ exitName g north = .ok name ∧
      exitBlockedIn g s₁ north = .ok b ∧
      (b = false → (go g (.str "north")).run s₁ =
        (describeRoom g).run ({ runState tick s₁ with room := north.target }.visit north.target)) ∧
      (b = true → (runState (go g (.str "north")) s₁).room = s₁.room ∧
        (go g (.str "north")).run s₁ =
          if north.blockedMessage.isPresent then
            (renderText g north.blockedMessage).run (runState tick s₁)
          else .ok s!"You can't go north right now." (runState tick s₁)) :=
  @go_takes_exit_as_listed (twoRooms []) (GameState.initial (.str "a") .empty)
    { GameState.initial (.str "a") .empty with turns := .int 1 }
    ((twoRooms []).rooms.getD 0 default) [] []
    (((twoRooms []).rooms.getD 0 default).exits.getD 0 default) "north"
    (.str "** A **\n\nRoom A.\n\nExits: B") rfl rfl rfl
    ⟨by simp [twoRooms], by simp [twoRooms], by simp⟩ (by decide) rfl (by cbv) rfl rfl

end Play
end Adventure
