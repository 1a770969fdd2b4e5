import Adventure.Proofs.Story.Stores
import Adventure.Proofs.Play.Redecoding
import Adventure.Proofs.Play.Placement

/-! Play keeps the state's lists as sets of canonical values in the order they grew, every carried
item among the taken ones, and the initial flags first among the flags (`Tidy`). -/

namespace Adventure

namespace Story.Flags

/-- Flags grown from some flags have grown from themselves. -/
theorem Extends.self {base fl : Flags} (h : Extends base fl) : Extends fl fl :=
  ⟨List.prefix_refl _, h.2.1, h.2.2⟩

end Story.Flags

namespace Play

open Std.Do Story

set_option mvcgen.warning false

/-- A list as play keeps it: its entries are canonical, and none is the same member as an entry
before it. -/
structure Kept (xs : List Value) : Prop where
  canonical : ∀ v ∈ xs, v.canonical = true
  distinct : xs.Pairwise fun a b => b.sameItem a = false

/-- The empty list is kept. -/
theorem Kept.nil : Kept [] := ⟨fun _ hv => absurd hv List.not_mem_nil, List.Pairwise.nil⟩

/-- Appending a canonical value unless it is already there keeps a list kept. -/
theorem Kept.appendNew {xs : List Value} (h : Kept xs) {x : Value} (hx : x.canonical = true) :
    Kept (appendNew xs x) := by
  unfold Play.appendNew
  split
  · exact h
  · rename_i hnew
    -- `x` is the same member as no entry, so it stands apart from all of them
    have hapart : ∀ a ∈ xs, x.sameItem a = false := by
      simpa [Value.memberOf] using hnew
    refine ⟨fun v hv => ?_, List.pairwise_append.mpr ⟨h.distinct, List.pairwise_singleton _ _, ?_⟩⟩
    · rcases List.mem_append.mp hv with hv | hv
      · exact h.canonical v hv
      · rw [List.mem_singleton.mp hv]
        exact hx
    · intro a ha b hb
      rw [List.mem_singleton.mp hb]
      exact hapart a ha

/-- Dropping entries keeps a list kept. -/
theorem Kept.filter {xs : List Value} (h : Kept xs) (p : Value → Bool) : Kept (xs.filter p) :=
  ⟨fun v hv => h.canonical v (List.mem_of_mem_filter hv), h.distinct.filter p⟩

/-- A kept list is read back from data as itself. -/
theorem Kept.canonItems {xs : List Value} (h : Kept xs) : Value.canonItems xs = xs :=
  Value.canonItems_of_canonical (Value.canonicalItems_iff.mpr h.canonical)

/-- A canonical value is among a list once it is appended to it. -/
theorem memberOf_appendNew_self (xs : List Value) {x : Value} (hx : x.canonical = true) :
    x.memberOf (appendNew xs x) = true := by
  unfold Play.appendNew
  split
  · assumption
  · simp [Value.memberOf, Value.sameItem_self_of_canonical hx]

/-- A value among a list is among every list that list begins. -/
theorem memberOf_of_prefix {x : Value} {xs ys : List Value} (h : x.memberOf xs = true)
    (hp : xs <+: ys) : x.memberOf ys = true := by
  obtain ⟨a, ha, hxa⟩ := List.any_eq_true.mp h
  exact List.any_eq_true.mpr ⟨a, hp.subset ha, hxa⟩

/-- The lists and flags of a state as play keeps them for the game `g`: each list kept, every
carried item among the taken ones, and the flags grown from the initial ones. -/
structure Tidy (g : Game) (s : GameState) : Prop where
  inventory : Kept s.inventory
  taken : Kept s.taken
  visited : Kept s.visited
  once : Kept s.once
  carried : ∀ x ∈ s.inventory, x.memberOf s.taken = true
  flags : g.initialFlags.Extends s.flags

abbrev tidyPost {α : Type} (g : Game) : PostCond α (.except Fault (.arg GameState .pure)) :=
  post⟨fun _ s => ⌜Tidy g s⌝, fun _ s => ⌜Tidy g s⌝⟩

variable {g : Game} {s s' : GameState}

/-- A state with the lists of a tidy one, and flags grown from the initial ones, is tidy. -/
theorem Tidy.of_lists (h : Tidy g s) (hinventory : s'.inventory = s.inventory)
    (htaken : s'.taken = s.taken) (hvisited : s'.visited = s.visited) (honce : s'.once = s.once)
    (hflags : g.initialFlags.Extends s'.flags) : Tidy g s' := by
  obtain ⟨hi, ht, hv, ho, hc, -⟩ := h
  rw [← hinventory, ← htaken] at hc
  exact ⟨hinventory ▸ hi, htaken ▸ ht, hvisited ▸ hv, honce ▸ ho, hc, hflags⟩

/-- Using a canonical gate keeps a state tidy. -/
@[grind <=]
theorem Tidy.markOnce (h : Tidy g s) {gate : Value} (hgate : gate.canonical = true) :
    Tidy g (s.markOnce gate) :=
  { h with once := h.once.appendNew hgate }

/-- Using canonical gates one after the other keeps a state tidy. -/
@[grind <=]
theorem Tidy.commitMarks (h : Tidy g s) {gates : List Value}
    (hgates : ∀ m ∈ gates, m.canonical = true) : Tidy g (s.commitMarks gates) := by
  induction gates generalizing s with
  | nil => exact h
  | cons gate gates ih =>
    exact ih (h.markOnce (hgates gate List.mem_cons_self))
      fun m hm => hgates m (List.mem_cons_of_mem gate hm)

/-- Taking a canonical item puts it among the carried and the taken items. -/
@[grind <=]
theorem Tidy.addItem (h : Tidy g s) {id : Value} (hid : id.canonical = true) :
    Tidy g (s.addItem id) where
  inventory := h.inventory.appendNew hid
  taken := h.taken.appendNew hid
  visited := h.visited
  once := h.once
  carried x hx := by
    change x ∈ appendNew s.inventory id at hx
    show x.memberOf (appendNew s.taken id) = true
    unfold Play.appendNew at hx
    split at hx
    · exact memberOf_of_prefix (h.carried x hx) (prefix_appendNew _ _)
    · rcases List.mem_append.mp hx with hx | hx
      · exact memberOf_of_prefix (h.carried x hx) (prefix_appendNew _ _)
      · rw [List.mem_singleton.mp hx]
        exact memberOf_appendNew_self _ hid
  flags := h.flags

/-- Dropping an item keeps the carried items among the taken ones. -/
@[grind <=]
theorem Tidy.removeItem (h : Tidy g s) (id : Value) : Tidy g (s.removeItem id) where
  inventory := h.inventory.filter _
  taken := h.taken
  visited := h.visited
  once := h.once
  carried x hx := h.carried x (List.mem_of_mem_filter hx)
  flags := h.flags

/-- Recording a visit to a canonical room keeps a state tidy. -/
@[grind <=]
theorem Tidy.visit (h : Tidy g s) {room : Value} (hroom : room.canonical = true) :
    Tidy g (s.visit room) :=
  { h with visited := h.visited.appendNew hroom }

/-- Writing a path changes at most the room, the ending marks or a flag under a text. -/
theorem Tidy.write {path v : Value} (h : Tidy g s) (hw : s.write path v = .ok s') : Tidy g s' := by
  rcases GameState.write_cases hw with ⟨-, _, rfl⟩ | ⟨_, rfl⟩ | ⟨_, rfl⟩ | ⟨_, rfl⟩
  case inr.inr.inr => exact { h with flags := h.flags.set rfl v }
  all_goals exact h.of_lists rfl rfl rfl rfl h.flags

/-- Moving the turn counter keeps a state tidy. -/
@[grind <=]
theorem Tidy.turns (h : Tidy g s) (turns : Value) : Tidy g { s with turns := turns } :=
  h.of_lists rfl rfl rfl rfl h.flags

/-- Entering a room keeps a state tidy: the room is none of the lists. -/
@[grind <=]
theorem Tidy.enter (h : Tidy g s) (room : Value) : Tidy g { s with room := room } :=
  h.of_lists rfl rfl rfl rfl h.flags

/-- Inserting a flag keeps the initial flags first. -/
theorem Tidy.insert {key v : Value} {flags : Flags} (h : Tidy g s)
    (hins : s.flags.insert key v = .ok flags) : Tidy g { s with flags := flags } :=
  { h with flags := h.flags.insert hins }

/-- A fresh state is tidy when the initial flags have grown from themselves. -/
theorem Tidy.initial (hflags : g.initialFlags.Extends g.initialFlags) (start : Value) :
    Tidy g (GameState.initial start g.initialFlags) where
  inventory := Kept.nil
  taken := Kept.nil
  visited := Kept.nil
  once := Kept.nil
  carried _ hx := absurd hx List.not_mem_nil
  flags := hflags

/-- A fresh state that has visited its canonical starting room is tidy. -/
theorem Tidy.start (hflags : g.initialFlags.Extends g.initialFlags) {start : Value}
    (hstart : start.canonical = true) :
    Tidy g ((GameState.initial start g.initialFlags).visit
      (GameState.initial start g.initialFlags).room) :=
  (Tidy.initial hflags start).visit hstart

-----------------------------------------------------------------------------------------------
-- Every action keeps a state tidy
-----------------------------------------------------------------------------------------------

section Actions

variable (hg : g.StoresCanonical)

/-- An effect whose path is canonical keeps a state tidy. -/
@[local spec 20000]
theorem applyEffect_tidy (e : Effect) (he : e.path.canonical = true) :
    ⦃fun s => ⌜Tidy g s⌝⦄ applyEffect e ⦃tidyPost g⦄ := by
  simp only [applyEffect, moveCounter, Act.change]
  mvcgen [Act.ofExcept] with grind [Tidy.write]

include hg in
/-- The global pass of a game that stores canonical values keeps a state tidy. -/
@[local spec 20000]
theorem globalPass_tidy : ⦃fun s => ⌜Tidy g s⌝⦄ globalPass g ⦃tidyPost g⦄ := by
  have hgates : ∀ t ∈ g.globalTriggers, ∀ m ∈ Condition.gatesOf t.when, m.canonical = true :=
    fun t ht => (hg.globalTriggers t ht).when
  have heffects : ∀ t ∈ g.globalTriggers, ∀ e ∈ t.effects, e.path.canonical = true :=
    fun t ht => (hg.globalTriggers t ht).effects
  simp only [globalPass]
  mvcgen [Act.ofExcept] invariants
    · tidyPost g
    · tidyPost g
  with grind [checkAll_marks]

include hg in
/-- Effects whose paths are canonical keep a state tidy, together with the global pass after
them. -/
@[local spec 20000]
theorem applyEffects_tidy (effects : Option (List Effect))
    (h : ∀ e ∈ effects.getD [], e.path.canonical = true) :
    ⦃fun s => ⌜Tidy g s⌝⦄ applyEffects g effects ⦃tidyPost g⦄ := by
  cases effects with
  | none =>
    simp only [applyEffects]
    mvcgen
  | some effects =>
    have hpass := globalPass_tidy hg
    simp only [applyEffects]
    mvcgen [hpass] invariants
      · tidyPost g
    with grind

include hg in
/-- The triggers of a room keep a state tidy, and the messages of those that fire offer only
canonical gates. -/
@[local spec 20000]
theorem roomTriggers_tidy (triggers : List Trigger) (h : ∀ t ∈ triggers, t.StoresCanonical) :
    ⦃fun s => ⌜Tidy g s⌝⦄ roomTriggers g triggers
    ⦃post⟨fun messages s => ⌜Tidy g s ∧ ∀ m ∈ messages, ∀ v ∈ m.gates, v.canonical = true⌝,
      fun _ s => ⌜Tidy g s⌝⟩⦄ := by
  have hgates : ∀ t ∈ triggers, ∀ m ∈ Condition.gatesOf t.when, m.canonical = true :=
    fun t ht => (h t ht).when
  have hpaths : ∀ t ∈ triggers, ∀ e ∈ t.effects, e.path.canonical = true :=
    fun t ht => (h t ht).effects
  have hmessage : ∀ t ∈ triggers, ∀ v ∈ t.message.gates, v.canonical = true :=
    fun t ht => (h t ht).message
  have heffects := applyEffects_tidy hg
  simp only [roomTriggers]
  mvcgen [Act.ofExcept, heffects] invariants
    · post⟨fun acc s => ⌜Tidy g s ∧ ∀ m ∈ acc.2, ∀ v ∈ m.gates, v.canonical = true⌝,
        fun _ s => ⌜Tidy g s⌝⟩
  with grind [checkAll_marks]

/-- Showing fragments whose conditions offer canonical gates keeps a state tidy. -/
@[local spec 20000]
theorem renderFragments_tidy (fragments : List Fragment)
    (h : ∀ f ∈ fragments, ∀ m ∈ Condition.gatesOf f.when, m.canonical = true) :
    ⦃fun s => ⌜Tidy g s⌝⦄ renderFragments g fragments ⦃tidyPost g⦄ := by
  simp only [renderFragments]
  -- the fragments kept carry the gates their conditions offered
  mvcgen [Act.ofExcept] invariants
    · post⟨fun acc s => ⌜Tidy g s ∧ ∀ f marks, (f, marks) ∈ acc.2 → ∀ m ∈ marks, m.canonical = true⌝,
        fun _ s => ⌜Tidy g s⌝⟩
    · tidyPost g
  with grind [checkAll_marks]

/-- Showing a text whose gates are canonical keeps a state tidy. -/
@[local spec 20000]
theorem renderText_tidy (text : Text) (h : ∀ v ∈ text.gates, v.canonical = true) :
    ⦃fun s => ⌜Tidy g s⌝⦄ renderText g text ⦃tidyPost g⦄ := by
  cases text with
  | none => simp only [renderText]; mvcgen
  | plain t => simp only [renderText]; mvcgen
  | passage p =>
    have hfragments : ∀ f ∈ p.fragments, ∀ m ∈ Condition.gatesOf f.when, m.canonical = true :=
      fun f hf m hm => h m (List.mem_flatMap.mpr ⟨f, hf, hm⟩)
    have hrender := renderFragments_tidy (g := g) p.fragments hfragments
    simp only [renderText]
    mvcgen [hrender]

/-- Showing a raw text changes no list. -/
@[local spec 20000]
theorem renderRaw_tidy (text : Value) :
    ⦃fun s => ⌜Tidy g s⌝⦄ renderRaw text ⦃tidyPost g⦄ := by
  simp only [renderRaw]
  mvcgen

include hg in
/-- Showing the win message keeps a state tidy. -/
@[local spec 20000]
theorem ending_tidy : ⦃fun s => ⌜Tidy g s⌝⦄ ending g ⦃tidyPost g⦄ := by
  have hwin := hg.winMessage
  simp only [ending]
  mvcgen with grind

/-- Asking whether an exit is blocked changes no list. -/
@[local spec 20000]
theorem exitBlocked_tidy (ex : Exit) :
    ⦃fun s => ⌜Tidy g s⌝⦄ exitBlocked g ex ⦃tidyPost g⦄ := by
  simp only [exitBlocked]
  mvcgen [Act.ofExcept]

/-- Listing an exit changes no list. -/
@[local spec 20000]
theorem exitLabel_tidy (ex : Exit) :
    ⦃fun s => ⌜Tidy g s⌝⦄ exitLabel g ex ⦃tidyPost g⦄ := by
  simp only [exitLabel]
  mvcgen [Act.ofExcept]


/-- A close look at an item whose text offers canonical gates keeps a state tidy. -/
@[local spec 20000]
theorem describeItem_tidy (item : Item) (h : ∀ v ∈ item.examineText.gates, v.canonical = true) :
    ⦃fun s => ⌜Tidy g s⌝⦄ describeItem g item ⦃tidyPost g⦄ := by
  simp only [describeItem]
  mvcgen

/-- Refusing an item changes no list. -/
@[local spec 20000]
theorem refusal_tidy (item : Item) (fallback : String) :
    ⦃fun s => ⌜Tidy g s⌝⦄ refusal item fallback ⦃tidyPost g⦄ := by
  simp only [refusal]
  mvcgen

/-- The status as data changes no list. -/
@[local spec 20000]
theorem status_tidy : ⦃fun s => ⌜Tidy g s⌝⦄ status g ⦃tidyPost g⦄ := by
  simp only [status]
  mvcgen [Act.ofExcept]

/-- A turn keeps a state tidy. -/
@[local spec 20000]
theorem tick_tidy : ⦃fun s => ⌜Tidy g s⌝⦄ tick ⦃tidyPost g⦄ := by
  simp only [tick]
  mvcgen [Act.ofExcept] with grind

/-- The line chosen when an option is out of range stores nothing. -/
theorem default_line_stores : (default : DialogueLine).StoresCanonical where
  when _ hv := absurd hv List.not_mem_nil
  response _ hv := absurd hv List.not_mem_nil
  effects _ he := absurd he List.not_mem_nil
  givesItem := rfl

section Sources

include hg

/-- The room the player is in stores only canonical values. -/
theorem currentRoom_stores {room : Room} (h : currentRoom g s = .ok room) : room.StoresCanonical :=
  hg.rooms room (currentRoom_ok h).1

/-- The triggers of the room the player is in store only canonical values. -/
theorem roomTriggers_stores {room : Room} (h : currentRoom g s = .ok room) :
    ∀ t ∈ room.triggers, t.StoresCanonical :=
  (currentRoom_stores hg h).triggers

/-- The description of the room the player is in offers canonical gates. -/
theorem description_stores {room : Room} (h : currentRoom g s = .ok room) :
    ∀ v ∈ room.description.gates, v.canonical = true :=
  (currentRoom_stores hg h).description

/-- An item within reach stores only canonical values. -/
theorem InReach.stores {item : Item} (h : InReach g s item) : item.StoresCanonical :=
  hg.item h.mem_allItems

/-- The item the words name in the current room stores only canonical values. -/
theorem itemInRoom_stores {words : Value} {item : Item}
    (h : itemInRoom g s words = .ok (some item)) : item.StoresCanonical := by
  obtain ⟨room, hroom, hitem⟩ := itemInRoom_some h
  exact (currentRoom_stores hg hroom).items item (List.mem_filter.mp hitem).1

/-- The carried item the words name stores only canonical values. -/
theorem itemCarried_stores {words : Value} {item : Item}
    (h : itemCarried g s words = .ok (some item)) : item.StoresCanonical := by
  obtain ⟨items, hitems, hitem⟩ := itemCarried_some h
  exact hg.item (carriedItems_mem hitems hitem).1

/-- The exit the words name stores only canonical values. -/
theorem exitNamed_stores {words : Value} {i : Nat} {ex : Exit}
    (h : exitNamed g s words = .ok (some (i, ex))) : ex.StoresCanonical := by
  obtain ⟨room, hroom, hex⟩ := exitNamed_some h
  exact (currentRoom_stores hg hroom).exits ex hex

/-- The line an option chooses from those a character of the room offers, or the default line
when the option is out of range, stores only canonical values, and so do the gates its
conditions offered. -/
theorem chosenLine_stores {words : Value} {npc : Npc} {lines : List (DialogueLine × List Value)}
    (hnpc : npcNamed g s words = .ok (some npc))
    (hlines : offeredLines g s npc.dialogue = .ok lines) (k : Nat) :
    (lines.getD k default).1.StoresCanonical ∧
      ∀ m ∈ (lines.getD k default).2, m.canonical = true := by
  obtain ⟨room, hroom, hmem⟩ := npcNamed_some hnpc
  rw [List.getD_eq_getElem?_getD]
  cases hk : lines[k]? with
  | none => exact ⟨default_line_stores, fun _ hm => absurd hm List.not_mem_nil⟩
  | some p =>
    obtain ⟨hline, hpass⟩ := offeredLines_mem hlines p (List.mem_of_getElem? hk)
    have hstores := (currentRoom_stores hg hroom).lines npc hmem p.1 hline
    exact ⟨hstores, fun m hm => hstores.when m (checkAll_marks hpass m hm)⟩

/-- The action a use chooses, of the item or of its target, stores only canonical values, and
so do the gates its conditions offered. -/
theorem choice_stores {item : Item} {targetWords number : Value} {target : Option Item}
    {c : UseChoice} (hitem : InReach g s item) (htarget : useTarget g s targetWords = .ok target)
    (hc : chooseEither g s item target number = .ok (some c)) :
    c.action.StoresCanonical ∧ ∀ m ∈ c.marks, m.canonical = true := by
  -- the action is one of its source's, and its conditions passed
  have hsource : ∀ {source : Item} {other : Option Item}, source.StoresCanonical →
      Chosen g s source other c →
      c.action.StoresCanonical ∧ ∀ m ∈ c.marks, m.canonical = true := fun hsource hchosen =>
    have haction := hsource.useActions c.action hchosen.mem
    ⟨haction, fun m hm => haction.requires m (checkAll_marks hchosen.passes m hm)⟩
  rcases chooseEither_some hc with hchosen | ⟨t, rfl, hchosen⟩
  · exact hsource (hitem.stores hg) hchosen
  · exact hsource ((useTarget_some htarget).stores hg) hchosen

end Sources

include hg

/-- Describing the current room keeps a state tidy, its triggers included. -/
@[local spec 20000]
theorem describeRoom_tidy : ⦃fun s => ⌜Tidy g s⌝⦄ describeRoom g ⦃tidyPost g⦄ := by
  have htriggers := roomTriggers_tidy hg
  simp only [describeRoom]
  mvcgen [Act.ofExcept, htriggers] invariants
    · tidyPost g
    · tidyPost g
    · tidyPost g
    · tidyPost g
    · tidyPost g
  with grind [roomTriggers_stores, description_stores]

/-- Looking at what the words name keeps a state tidy. -/
@[local spec 20000]
theorem inspect_tidy (words : Value) : ⦃fun s => ⌜Tidy g s⌝⦄ inspect g words ⦃tidyPost g⦄ := by
  simp only [inspect]
  mvcgen [Act.ofExcept] with grind [→ itemInRoom_stores, → itemCarried_stores,
    Item.StoresCanonical.examineText]

/-- Listing what is carried keeps a state tidy. -/
@[local spec 20000]
theorem inventory_tidy : ⦃fun s => ⌜Tidy g s⌝⦄ inventory g ⦃tidyPost g⦄ := by
  simp only [inventory]
  mvcgen [Act.ofExcept, List.mapM_pure]

/-- The status as text keeps a state tidy. -/
@[local spec 20000]
theorem statusMessage_tidy : ⦃fun s => ⌜Tidy g s⌝⦄ statusMessage g ⦃tidyPost g⦄ := by
  simp only [statusMessage]
  mvcgen [Act.ofExcept]

/-- Saying a line that stores canonical values, with canonical gates, keeps a state tidy. -/
@[local spec 20000]
theorem sayLine_tidy (line : DialogueLine) (marks : List Value) (hline : line.StoresCanonical)
    (hmarks : ∀ m ∈ marks, m.canonical = true) :
    ⦃fun s => ⌜Tidy g s⌝⦄ sayLine g line marks ⦃tidyPost g⦄ := by
  have hresponse := hline.response
  have heffects := hline.effects
  have hgives := hline.givesItem
  simp only [sayLine]
  mvcgen [Act.ofExcept] with grind [Tidy.insert]

/-- Looking keeps a state tidy. -/
@[local spec 20000]
theorem look_tidy (target : Value) : ⦃fun s => ⌜Tidy g s⌝⦄ look g target ⦃tidyPost g⦄ := by
  simp only [look]
  mvcgen

/-- Examining keeps a state tidy. -/
@[local spec 20000]
theorem examine_tidy (target : Value) : ⦃fun s => ⌜Tidy g s⌝⦄ examine g target ⦃tidyPost g⦄ := by
  simp only [examine]
  mvcgen

/-- Going through an exit keeps a state tidy: the room entered is canonical. -/
@[local spec 20000]
theorem go_tidy (direction : Value) : ⦃fun s => ⌜Tidy g s⌝⦄ go g direction ⦃tidyPost g⦄ := by
  simp only [go]
  mvcgen [Act.ofExcept] with grind [→ exitNamed_stores, Exit.StoresCanonical.target,
    Exit.StoresCanonical.blockedMessage]

/-- Taking an item keeps a state tidy: its id is canonical. -/
@[local spec 20000]
theorem take_tidy (words : Value) : ⦃fun s => ⌜Tidy g s⌝⦄ take g words ⦃tidyPost g⦄ := by
  simp only [take]
  mvcgen [Act.ofExcept] with grind [→ itemInRoom_stores, Item.StoresCanonical.id,
    Item.StoresCanonical.onTake, Item.StoresCanonical.onTakeText]

/-- Talking to a character keeps a state tidy. -/
@[local spec 20000]
theorem talk_tidy (words : Value) : ⦃fun s => ⌜Tidy g s⌝⦄ talk g words ⦃tidyPost g⦄ := by
  simp only [talk]
  mvcgen [Act.ofExcept] with grind

/-- Choosing a line by its number keeps a state tidy. -/
@[local spec 20000]
theorem talkOption_tidy (words option : Value) :
    ⦃fun s => ⌜Tidy g s⌝⦄ talkOption g words option ⦃tidyPost g⦄ := by
  simp only [talkOption]
  mvcgen [Act.ofExcept] with grind [chosenLine_stores]

/-- Using an item keeps a state tidy. -/
@[local spec 20000]
theorem use_tidy (words targetWords number : Value) :
    ⦃fun s => ⌜Tidy g s⌝⦄ use g words targetWords number ⦃tidyPost g⦄ := by
  simp only [use]
  mvcgen [Act.ofExcept] with grind [→ choice_stores, roomTriggers_stores,
    UseAction.StoresCanonical.effects, UseAction.StoresCanonical.response]

/-- Asking for a hint keeps a state tidy. -/
@[local spec 20000]
theorem hint_tidy : ⦃fun s => ⌜Tidy g s⌝⦄ hint g ⦃tidyPost g⦄ := by
  have hhints := hg.hints
  simp only [hint]
  mvcgen [Act.ofExcept] invariants
    · tidyPost g
  with grind

/-- Starting afresh gives a tidy state when the initial flags have grown from themselves. -/
@[local spec 20000]
theorem startGame_tidy (hflags : g.initialFlags.Extends g.initialFlags) :
    ⦃fun _ => ⌜True⌝⦄ startGame g ⦃tidyPost g⦄ := by
  have hstart := hg.startingRoom
  have hintro := hg.intro
  simp only [startGame]
  mvcgen with grind [Tidy.start]

/-- Every order a typed command reads keeps a state tidy. -/
theorem Order.run_tidy (order : Command.Order) :
    ⦃fun s => ⌜Tidy g s⌝⦄ order.run g ⦃tidyPost g⦄ := by
  cases order <;> simp only [Command.Order.run] <;> mvcgen

end Actions

section Requests

variable (hg : g.StoresCanonical)
include hg

/-- A typed command keeps a state tidy, also when it cannot be read. -/
theorem Tidy.dispatch (h : Tidy g s) (cmd : String) :
    Tidy g (runState (Command.dispatch g cmd) s) := by
  unfold runState
  rw [Command.dispatch_run]
  cases Command.read cmd with
  | error e => exact h
  | ok order => exact runState_of_pre (Order.run_tidy hg order) h

/-- Every request but reopening keeps a state tidy, and a fresh start makes one when the initial
flags have grown from themselves. -/
theorem Tidy.playState (hflags : g.initialFlags.Extends g.initialFlags) (h : Tidy g s)
    (request : Request) : Tidy g (request.playState g s) := by
  cases request with
  | startGame => exact runState_of_pre (startGame_tidy hg hflags) (s := s) trivial
  | look target => exact runState_of_pre (look_tidy hg target) h
  | examine target => exact runState_of_pre (examine_tidy hg target) h
  | go direction => exact runState_of_pre (go_tidy hg direction) h
  | take item => exact runState_of_pre (take_tidy hg item) h
  | talk npc => exact runState_of_pre (talk_tidy hg npc) h
  | talkOption npc option => exact runState_of_pre (talkOption_tidy hg npc option) h
  | use item target number => exact runState_of_pre (use_tidy hg item target number) h
  | inventory => exact runState_of_pre (inventory_tidy hg) h
  | hint => exact runState_of_pre (hint_tidy hg) h
  | status => exact runState_of_pre status_tidy h
  | statusMessage => exact runState_of_pre (statusMessage_tidy hg) h
  | describeRoom => exact runState_of_pre (describeRoom_tidy hg) h
  | command text =>
    cases text with
    | str typed => exact h.dispatch hg typed
    | _ => exact h
  | isOver | hasWon | snapshotText | reopen => exact h

end Requests

/-- A tidy state read back from its snapshot has the same lists, and its flags are set over the
initial ones. -/
theorem Tidy.reread (hflags : g.initialFlags.Extends g.initialFlags) (h : Tidy g s) :
    Tidy g (s.reread g.startingRoom g.initialFlags) :=
  h.of_lists h.inventory.canonItems h.taken.canonItems h.visited.canonItems h.once.canonItems
    (hflags.setFields _)

-----------------------------------------------------------------------------------------------
-- The lists that only grow
-----------------------------------------------------------------------------------------------

/-- The lists of `s` that only grow begin those of `s'`: the items taken, the rooms visited and
the gates used. -/
structure Grows (s s' : GameState) : Prop where
  taken : s.taken <+: s'.taken
  visited : s.visited <+: s'.visited
  once : s.once <+: s'.once

/-- A state with the same growing lists has grown from the other. -/
theorem Grows.of_eq (htaken : s'.taken = s.taken) (hvisited : s'.visited = s.visited)
    (honce : s'.once = s.once) : Grows s s' :=
  ⟨htaken ▸ List.prefix_refl _, hvisited ▸ List.prefix_refl _, honce ▸ List.prefix_refl _⟩

/-- Growth composes. -/
theorem Grows.trans {s₀ : GameState} (h : Grows s₀ s) (h' : Grows s s') : Grows s₀ s' :=
  ⟨h.taken.trans h'.taken, h.visited.trans h'.visited, h.once.trans h'.once⟩

/-- A change of play only appends to the lists that grow. -/
theorem Change.grows (h : Change s s') : Grows s s' := by
  cases h with
  | visit room => exact ⟨List.prefix_refl _, prefix_appendNew _ _, List.prefix_refl _⟩
  | addItem id => exact ⟨GameState.taken_prefix_addItem _ id, List.prefix_refl _, List.prefix_refl _⟩
  | markOnce gate =>
    exact ⟨List.prefix_refl _, List.prefix_refl _, GameState.once_prefix_markOnce _ gate⟩
  | write path v hw =>
    obtain ⟨_, _, _, _, rfl⟩ := GameState.write_frame hw
    exact Grows.of_eq rfl rfl rfl
  | enter | removeItem | insertFlag => exact Grows.of_eq rfl rfl rfl

/-- Play only appends to the lists that grow, by induction on the changes. -/
theorem Reach.grows (h : Reach s s') : Grows s s' := by
  induction h with
  | refl => exact Grows.of_eq rfl rfl rfl
  | tail _ step ih => exact ih.trans step.grows

/-- A turn leaves the lists as they are. -/
theorem grows_tick (s : GameState) : Grows s (runState tick s) := by
  rw [runState_tick_eq]
  exact Grows.of_eq rfl rfl rfl

/-- A tidy state read back from its snapshot has the same lists. -/
theorem Tidy.grows_reread (h : Tidy g s) (start : Value) (flags : Flags) :
    Grows s (s.reread start flags) :=
  Grows.of_eq h.taken.canonItems h.visited.canonItems h.once.canonItems

-----------------------------------------------------------------------------------------------
-- An item taken is gone
-----------------------------------------------------------------------------------------------

/-- The item id `x` as play finds it in `s` once taken: it counts as taken, and no lookup of the
room finds it: no item found there is the same member as it, no item under its id is present,
and none is at any place. -/
structure Gone (g : Game) (s : GameState) (x : Value) : Prop where
  taken : s.isTaken x = true
  notFound : ∀ words item, itemInRoom g s words = .ok (some item) → item.id.sameItem x = false
  notPresent : ∀ path, presentId path = .ok x → isPresent g s path ≠ .ok true
  notAt : ∀ place, isAt g s x place ≠ .ok true

/-- An item id the same member as one taken counts as taken. -/
theorem isTaken_of_sameItem {id x : Value} (hx : x ∈ s.taken) (h : id.sameItem x = true) :
    s.isTaken id = true :=
  List.any_eq_true.mpr ⟨x, hx, h⟩

/-- In a tidy state every item taken is gone from the rooms: the ids taken are canonical, so
each is the same member as itself. -/
theorem Tidy.gone (h : Tidy g s) {x : Value} (hx : x ∈ s.taken) : Gone g s x where
  taken := isTaken_of_sameItem hx (Value.sameItem_self_of_canonical (h.taken.canonical x hx))
  notFound words item hfound := by
    obtain ⟨room, -, hitem⟩ := itemInRoom_some hfound
    -- the items searched are those of the room not taken
    have huntaken : s.isTaken item.id = false := by
      simpa [roomItems] using (List.mem_filter.mp hitem).2
    simpa using List.any_eq_false.mp huntaken x hx
  notPresent path hid hpresent := by
    unfold isPresent at hpresent
    cases hroom : currentRoom g s with
    | error e => simp [hroom, bind, Except.bind] at hpresent
    | ok room =>
      simp only [hroom, hid, bind, Except.bind] at hpresent
      split at hpresent
      · rename_i item hfind
        -- the item found under the id is the same member as it, so it counts as taken
        have hequal := List.find?_some hfind
        have htaken : s.isTaken item.id = true :=
          isTaken_of_sameItem hx (Value.sameItem_of_equals hequal)
        simp [htaken, pure, Except.pure] at hpresent
      · simp [pure, Except.pure] at hpresent
  notAt place hat := by
    unfold isAt at hat
    cases hroom : currentRoom g s with
    | error e => simp [hroom, bind, Except.bind] at hat
    | ok room =>
      simp only [hroom, bind, Except.bind] at hat
      split at hat
      · simp [pure, Except.pure] at hat
      · have htaken : s.isTaken x = true :=
          isTaken_of_sameItem hx (Value.sameItem_self_of_canonical (h.taken.canonical x hx))
        simp [htaken, pure, Except.pure] at hat

end Play

namespace Request

open Play

/-- Every request but a fresh start only appends to the lists that grow: it goes on from its
turn, which leaves them, or from the state itself. -/
theorem grows_playState (g : Story.Game) (s : GameState) {request : Request}
    (hstart : request ≠ .startGame) : Grows s (request.playState g s) := by
  have hgrow := (reach_playState g s hstart).grows
  split at hgrow
  · exact (grows_tick s).trans hgrow
  · exact hgrow

end Request

namespace Session

open Play Story

/-- Content loaded, checked or not, is read to the game loaded. -/
theorem loadGame_read {data : Value} {unchecked : Bool} {g : Game}
    (h : loadGame data unchecked = .ok g) : readGame data = .ok g := by
  unfold loadGame validateGame at h
  split at h
  · cases hread : readGame data with
    | error e => simp [hread, bind, Except.bind] at h
    | ok g' =>
      cases hissues : referenceIssues g' with
      | error e => simp [hread, hissues, bind, Except.bind] at h
      | ok problems =>
        simp [hread, hissues, bind, Except.bind, pure, Except.pure] at h
        rw [h]
  · cases hreport : Schema.gameDocument.report data with
    | error e => simp [hreport, bind, Except.bind] at h
    | ok issues =>
      -- a report with issues refuses the content before the game is read
      by_cases hempty : issues = []
      · subst hempty
        cases hread : readGame data with
        | error e => simp [hreport, hread, bind, Except.bind] at h
        | ok g' =>
          cases hissues : referenceIssues g' with
          | error e => simp [hreport, hread, hissues, bind, Except.bind] at h
          | ok problems =>
            by_cases hnone : problems = []
            · subst hnone
              simp [hreport, hread, hissues, bind, Except.bind, pure, Except.pure] at h
              rw [h]
            · simp [hreport, hread, hissues, hnone, bind, Except.bind, throw, throwThe,
                MonadExceptOf.throw] at h
      · simp [hreport, hempty, bind, Except.bind, throw, throwThe, MonadExceptOf.throw] at h

/-- Content opened to a session is read to the session's game, and play starts afresh. -/
theorem openSession_read {data : Value} {unchecked : Bool} {g : Game} {s : GameState}
    (h : openSession data unchecked = .ok (g, s)) :
    readGame data = .ok g ∧ s = GameState.initial g.startingRoom g.initialFlags := by
  unfold openSession at h
  cases hload : loadGame data unchecked with
  | error e => simp [hload, bind, Except.bind] at h
  | ok g' =>
    cases hids : checkIds g' with
    | error e => simp [hload, hids, bind, Except.bind] at h
    | ok u =>
      cases hfind : findRoom g' g'.startingRoom with
      | error e => simp [hload, hids, hfind, bind, Except.bind] at h
      | ok found =>
        cases found with
        | none => simp [hload, hids, hfind, bind, Except.bind, throw, throwThe, MonadExceptOf.throw] at h
        | some room =>
          simp [hload, hids, hfind, bind, Except.bind, pure, Except.pure] at h
          obtain ⟨rfl, rfl⟩ := h
          exact ⟨loadGame_read hload, rfl⟩

/-- A session reopened from its own snapshot opens its content again to its game. -/
theorem reopened_opens {session session' : Session} (h : session.reopened = .ok session') :
    ∃ s₀, openSession session.content session.unchecked = .ok (session'.game, s₀) := by
  unfold reopened start resumeSession at h
  cases hopen : openSession session.content session.unchecked with
  | error e => simp [hopen, bind, Except.bind] at h
  | ok opened =>
    cases hresume : resumeState opened.1 (.str session.state.serialize) with
    | error e => simp [hopen, hresume, bind, Except.bind] at h
    | ok s' =>
      simp [hopen, hresume, bind, Except.bind, pure, Except.pure] at h
      subst h
      exact ⟨opened.2, rfl⟩

/-- The initial flags of a game read from content have grown from themselves: they are read
over no flags. -/
theorem initialFlags_extends {data : Value} {g : Game} (hdata : data.canonical = true)
    (h : readGame data = .ok g) : g.initialFlags.Extends g.initialFlags := by
  obtain ⟨source, hsource⟩ := readGame_initialFlags hdata h
  exact (Flags.update_extends (by decide) hsource).self

/-- A session on the game `g`, read from content as the data reader gives values, whose state is
tidy. -/
structure Tidy (g : Game) (session : Session) : Prop where
  content : session.content.canonical = true
  read : readGame session.content = .ok g
  game : session.game = g
  state : Play.Tidy g session.state

variable {g : Game} {session : Session}

/-- The game of a tidy session stores only canonical values. -/
theorem Tidy.stores (h : Tidy g session) : g.StoresCanonical := readGame_canonical h.content h.read

/-- The initial flags of a tidy session's game have grown from themselves. -/
theorem Tidy.initialFlags (h : Tidy g session) : g.initialFlags.Extends g.initialFlags :=
  initialFlags_extends h.content h.read

/-- Answering a request keeps a tidy session tidy, and every request but a fresh start only
appends to the lists that grow, reopening included. -/
theorem Tidy.answer (h : Tidy g session) (request : Request) :
    Tidy g (runState (answer request) session) ∧
      (request ≠ .startGame → Grows session.state (runState (answer request) session).state) := by
  by_cases hreopen : request = .reopen
  · subst hreopen
    rw [runState_answer_reopen]
    split
    · rename_i session' hreopened
      obtain ⟨hcontent, -, hstate⟩ := reopened_state hreopened
      obtain ⟨s₀, hopen⟩ := reopened_opens hreopened
      -- the content is read again to the same game, and the state is read back over it
      have hgame : session'.game = g := by
        have hread := (openSession_read hopen).1
        rw [h.read, Except.ok.injEq] at hread
        exact hread.symm
      rw [hgame] at hstate
      refine ⟨⟨hcontent ▸ h.content, hcontent ▸ h.read, hgame, ?_⟩, fun _ => ?_⟩
      · rw [hstate]
        exact h.state.reread h.initialFlags
      · rw [hstate]
        exact h.state.grows_reread _ _
    · exact ⟨h, fun _ => Grows.of_eq rfl rfl rfl⟩
  · rw [runState_answer hreopen]
    refine ⟨⟨h.content, h.read, h.game, ?_⟩, fun hstart => Request.grows_playState _ _ hstart⟩
    show Play.Tidy g (request.playState session.game session.state)
    rw [h.game]
    exact h.state.playState h.stores h.initialFlags request

/-- A tidy session stays tidy through any requests, by induction on the requests. -/
theorem Tidy.after (h : Tidy g session) (requests : List Request) :
    Tidy g (session.after requests) := by
  induction requests generalizing session with
  | nil => exact h
  | cons request rest ih => exact ih (h.answer request).1

/-- Through requests without a fresh start, the lists that grow only grow. -/
theorem Tidy.grows_after (h : Tidy g session) {requests : List Request}
    (hfresh : Request.startGame ∉ requests) :
    Grows session.state (session.after requests).state := by
  induction requests generalizing session with
  | nil => exact Grows.of_eq rfl rfl rfl
  | cons request rest ih =>
    have hstart : request ≠ .startGame := fun hr => hfresh (hr ▸ List.mem_cons_self)
    obtain ⟨hnext, hgrow⟩ := h.answer request
    exact (hgrow hstart).trans (ih hnext fun hr => hfresh (List.mem_cons_of_mem _ hr))

/-- A session started afresh or checked on content as the data reader gives values is tidy. -/
theorem tidy_start {content : Value} (hc : content.canonical = true) {unchecked : Bool}
    {how : Opening} (hhow : how = .fresh ∨ how = .checked) {session : Session}
    (hstart : start content unchecked how = .ok session) : Tidy session.game session := by
  -- either way the content is opened, checked or not, to a game and a fresh state
  obtain ⟨checking, g, s, hopen, rfl⟩ : ∃ checking g s,
      openSession content checking = .ok (g, s) ∧ session = ⟨content, unchecked, g, s⟩ := by
    rcases hhow with rfl | rfl
    · cases hopen : openSession content unchecked with
      | error e => simp [start, hopen, bind, Except.bind] at hstart
      | ok opened =>
        simp [start, hopen, bind, Except.bind, pure, Except.pure] at hstart
        exact ⟨unchecked, opened.1, opened.2, hopen, hstart.symm⟩
    · cases hopen : openSession content false with
      | error e => simp [start, hopen, bind, Except.bind] at hstart
      | ok opened =>
        simp [start, hopen, bind, Except.bind, pure, Except.pure] at hstart
        exact ⟨false, opened.1, opened.2, hopen, hstart.symm⟩
  obtain ⟨hread, rfl⟩ := openSession_read hopen
  exact ⟨hc, hread, rfl, Play.Tidy.initial (initialFlags_extends hc hread) _⟩

/-- Play on content as the data reader gives values keeps the lists of the state as sets. A
session opens on the content, fresh or checked, with or without checks when reopened; after any
requests, reopening from its own snapshot included, the items carried, the items taken, the rooms
visited and the gates used are canonical values none of which is the same member as another,
every item carried is among those taken, and the initial flags come first among the flags, in
their order. Through further requests without a fresh start the items taken, the rooms visited
and the gates used only grow, and an item once taken is found by no lookup of the room again. -/
theorem lists_stay_tidy {content : Value} (hc : content.canonical = true) (unchecked : Bool)
    {how : Opening} (hhow : how = .fresh ∨ how = .checked) {session : Session}
    (hstart : start content unchecked how = .ok session) (requests more : List Request)
    (hfresh : Request.startGame ∉ more) :
    Play.Tidy session.game (session.after requests).state ∧
      Grows (session.after requests).state (session.after (requests ++ more)).state ∧
      ∀ x ∈ (session.after requests).state.taken,
        Gone session.game (session.after (requests ++ more)).state x := by
  have h := (tidy_start hc hhow hstart).after requests
  have hgrow := h.grows_after hfresh
  have hlater := h.after more
  rw [after_append]
  exact ⟨h.state, hgrow, fun x hx => hlater.state.gone (hgrow.taken.subset hx)⟩

/-- The lighthouse's content is as the data reader gives values. -/
theorem lighthouse_content_canonical : Shelf.Lighthouse.content.canonical = true := by
  decide +kernel

/-- At the lighthouse, the matches taken on the jetty stay taken through a reopening, and taking
them again finds nothing. -/
theorem lighthouse_matches_stay_taken :
    let session : Session := ⟨Shelf.Lighthouse.content, false, Lighthouse.game,
      GameState.initial (.str "jetty") Lighthouse.game.initialFlags⟩
    let requests := [Request.take (.str "matches")]
    let more := [Request.reopen, .take (.str "matches")]
    Shelf.Lighthouse.content.canonical = true ∧ Request.startGame ∉ more ∧
      Play.Tidy session.game (session.after requests).state ∧
      Grows (session.after requests).state (session.after (requests ++ more)).state ∧
      ∀ x ∈ (session.after requests).state.taken,
        Gone session.game (session.after (requests ++ more)).state x :=
  ⟨lighthouse_content_canonical, by simp,
    lists_stay_tidy lighthouse_content_canonical false (.inl rfl) Lighthouse.start_content _ _
      (by simp)⟩

end Session


end Adventure
