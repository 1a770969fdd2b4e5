import Adventure.Proofs.Play.Provenance
import Adventure.Proofs.Value.Members
import Adventure.Proofs.Mapping

/-! The values play can store from a game: item ids, the items lines give, the paths of effects,
the gates of conditions and texts, exit targets and the starting room. Reading content as the data
reader gives values gives a game all of whose such values are as the data reader gives values. -/

namespace Adventure

namespace Story

open Std.Do

set_option mvcgen.warning false

/-- The gates conditions offer are the gates of each in turn. -/
theorem Condition.gatesOf_eq_flatMap : ∀ cs : List Condition,
    Condition.gatesOf cs = cs.flatMap Condition.gates
  | [] => rfl
  | c :: rest => by rw [Condition.gatesOf, Condition.gatesOf_eq_flatMap rest, List.flatMap_cons]

/-- Every value a trigger lets play store is canonical: the gates its conditions offer, the
paths of its effects and the gates of its message. -/
structure Trigger.StoresCanonical (t : Trigger) : Prop where
  when : ∀ v ∈ Condition.gatesOf t.when, v.canonical = true
  effects : ∀ e ∈ t.effects, e.path.canonical = true
  message : ∀ v ∈ t.message.gates, v.canonical = true

/-- Every value a use action lets play store is canonical. -/
structure UseAction.StoresCanonical (a : UseAction) : Prop where
  requires : ∀ v ∈ Condition.gatesOf a.requires, v.canonical = true
  effects : ∀ e ∈ a.effects.getD [], e.path.canonical = true
  response : ∀ v ∈ a.response.gates, v.canonical = true

/-- Every value an item lets play store is canonical: its id, the gates of the texts shown for
it, the paths of what taking it does, and what its use actions store. -/
structure Item.StoresCanonical (item : Item) : Prop where
  id : item.id.canonical = true
  examineText : ∀ v ∈ item.examineText.gates, v.canonical = true
  onTake : ∀ e ∈ item.onTake.getD [], e.path.canonical = true
  onTakeText : ∀ v ∈ item.onTakeText.gates, v.canonical = true
  useActions : ∀ a ∈ item.useActions, a.StoresCanonical

/-- Every value a dialogue line lets play store is canonical, the item it gives included. -/
structure DialogueLine.StoresCanonical (line : DialogueLine) : Prop where
  when : ∀ v ∈ Condition.gatesOf line.when, v.canonical = true
  response : ∀ v ∈ line.response.gates, v.canonical = true
  effects : ∀ e ∈ line.effects.getD [], e.path.canonical = true
  givesItem : line.givesItem.canonical = true

/-- Every value an exit lets play store is canonical: the room it leads to and the gates of its
refusal. -/
structure Exit.StoresCanonical (ex : Exit) : Prop where
  target : ex.target.canonical = true
  blockedMessage : ∀ v ∈ ex.blockedMessage.gates, v.canonical = true

/-- Every value a room lets play store is canonical. -/
structure Room.StoresCanonical (room : Room) : Prop where
  description : ∀ v ∈ room.description.gates, v.canonical = true
  items : ∀ item ∈ room.items, item.StoresCanonical
  lines : ∀ npc ∈ room.npcs, ∀ line ∈ npc.dialogue, line.StoresCanonical
  exits : ∀ ex ∈ room.exits, ex.StoresCanonical
  triggers : ∀ t ∈ room.triggers, t.StoresCanonical

/-- Every value the game lets play store in the state's lists is canonical. -/
structure Game.StoresCanonical (g : Game) : Prop where
  startingRoom : g.startingRoom.canonical = true
  intro : ∀ v ∈ g.intro.gates, v.canonical = true
  winMessage : ∀ v ∈ g.winMessage.gates, v.canonical = true
  hints : ∀ h ∈ g.hints, ∀ v ∈ h.text.gates, v.canonical = true
  globalTriggers : ∀ t ∈ g.globalTriggers, t.StoresCanonical
  rooms : ∀ room ∈ g.rooms, room.StoresCanonical

/-- Every item of a game that stores canonical values stores canonical values. -/
theorem Game.StoresCanonical.item {g : Game} (hg : g.StoresCanonical) {item : Item}
    (h : item ∈ g.allItems) : item.StoresCanonical := by
  obtain ⟨room, hroom, hitem⟩ := List.mem_flatMap.mp h
  exact (hg.rooms room hroom).items item hitem

-----------------------------------------------------------------------------------------------
-- Reading values that are as the data reader gives them
-----------------------------------------------------------------------------------------------

section Reading

variable {v d w : Value}

/-- A reading whose every result satisfies `Q` when `P` holds meets the triple. -/
theorem Except.triple_of_ok {ε α : Type} {x : Except ε α} {P : Prop} {Q : α → Prop}
    (h : P → ∀ a, x = .ok a → Q a) : ⦃⌜P⌝⦄ x ⦃post⟨fun a => ⌜Q a⌝, fun _ => ⌜True⌝⟩⦄ := by
  intro hp
  cases hx : x with
  | error e => trivial
  | ok a => exact h hp a hx

/-- What a reading that meets the triple gives, when it gives something. -/
theorem Except.ok_of_triple {ε α : Type} {x : Except ε α} {P : Prop} {Q : α → Prop}
    (h : ⦃⌜P⌝⦄ x ⦃post⟨fun a => ⌜Q a⌝, fun _ => ⌜True⌝⟩⦄) (hp : P) {a : α} (hx : x = .ok a) :
    Q a := by
  subst hx
  exact h hp

/-- A reading that gives a value is the pure reading of it. -/
theorem Except.ok_eq_pure {ε α : Type} (a : α) : (Except.ok a : Except ε α) = pure a := rfl

/-- A map of a reading over canonical values gives what the reading gives for each. -/
theorem mapM_canonical {β : Type} {f : Value → Except Fault β} {Q : β → Prop}
    (hf : ∀ {v a}, v.canonical = true → f v = .ok a → Q a) (xs : List Value) :
    ⦃⌜∀ x ∈ xs, x.canonical = true⌝⦄ xs.mapM f
    ⦃post⟨fun ys => ⌜∀ y ∈ ys, Q y⌝, fun _ => ⌜True⌝⟩⦄ := by
  refine Except.triple_of_ok fun hxs ys h y hy => ?_
  obtain ⟨x, hx, hfx⟩ := exists_of_mem_mapM h hy
  exact hf (hxs x hx) hfx

/-- The field found in a canonical object has a canonical value. -/
theorem canonical_of_find? {fields : List (String × Value)} {key : String} {kv : String × Value}
    (hv : (Value.obj fields).canonical = true) (h : fields.find? (·.1 == key) = some kv) :
    kv.2.canonical = true :=
  (Value.canonical_obj_iff.mp hv).2 kv (List.mem_of_find?_eq_some h)

/-- A field of a canonical object, or a canonical default, is canonical. -/
@[local spec]
theorem getOr_canonical (v d : Value) (key : String) :
    ⦃⌜v.canonical = true ∧ d.canonical = true⌝⦄ v.getOr key d
    ⦃post⟨fun w => ⌜w.canonical = true⌝, fun _ => ⌜True⌝⟩⦄ := by
  refine Except.triple_of_ok fun ⟨hv, hd⟩ w h => ?_
  cases v with
  | obj fields =>
    -- the field when the object has it, else the default
    cases hfind : fields.find? (·.1 == key) with
    | none =>
      simp only [Value.getOr, hfind, Option.map_none, Option.getD_none, Except.ok.injEq] at h
      exact h ▸ hd
    | some kv =>
      simp only [Value.getOr, hfind, Option.map_some, Option.getD_some, Except.ok.injEq] at h
      exact h ▸ canonical_of_find? hv hfind
  | _ => simp [Value.getOr] at h

/-- A field that must be present in a canonical object is canonical. -/
@[local spec]
theorem need_canonical (v : Value) (key : String) :
    ⦃⌜v.canonical = true⌝⦄ v.need key ⦃post⟨fun w => ⌜w.canonical = true⌝, fun _ => ⌜True⌝⟩⦄ := by
  refine Except.triple_of_ok fun hv w h => ?_
  cases v with
  | obj fields =>
    cases hfind : fields.find? (·.1 == key) with
    | none => simp [Value.need, hfind] at h
    | some kv =>
      simp only [Value.need, hfind, Except.ok.injEq] at h
      exact h ▸ canonical_of_find? hv hfind
  | _ => simp [Value.need] at h

/-- The members of a canonical value are canonical: its items, or texts. -/
@[local spec]
theorem members_canonical (v : Value) :
    ⦃⌜v.canonical = true⌝⦄ v.members
    ⦃post⟨fun ms => ⌜∀ w ∈ ms, w.canonical = true⌝, fun _ => ⌜True⌝⟩⦄ := by
  refine Except.triple_of_ok fun hv ms h => ?_
  cases v with
  | arr items =>
    simp only [Value.members, Except.ok.injEq] at h
    simpa [← h, Value.canonical] using hv
  | str s =>
    simp only [Value.members, Except.ok.injEq] at h
    subst h
    intro w hw
    obtain ⟨c, -, rfl⟩ := List.mem_map.mp hw
    rfl
  | obj fields =>
    simp only [Value.members, Except.ok.injEq] at h
    subst h
    intro w hw
    obtain ⟨kv, -, rfl⟩ := List.mem_map.mp hw
    rfl
  | _ => simp [Value.members] at h

/-- Only an object of one field has a sole field, whose payload is a field of it. -/
@[local spec]
theorem soleField_canonical (what : String) (v : Value) :
    ⦃⌜v.canonical = true⌝⦄ soleField what v
    ⦃post⟨fun kp => ⌜kp.2.canonical = true⌝, fun _ => ⌜True⌝⟩⦄ := by
  refine Except.triple_of_ok fun hv kp h => ?_
  have hone : v = .obj [kp] := by
    unfold soleField at h
    split at h
    · cases h
    · split at h
      · -- more or fewer fields than one: a fault, whatever sorting the names gives
        simp only [bind, Except.bind] at h
        repeat' split at h
        all_goals cases h
      · split at h
        · cases h
          rfl
        · cases h
  subst hone
  exact (Value.canonical_obj_iff.mp hv).2 kp List.mem_cons_self

/-- The path an effect's payload gives is canonical. -/
@[local spec]
theorem pathAndValue_canonical (payload : Value) :
    ⦃⌜payload.canonical = true⌝⦄ pathAndValue payload
    ⦃post⟨fun pv => ⌜pv.1.canonical = true⌝, fun _ => ⌜True⌝⟩⦄ := by
  refine Except.triple_of_ok fun hp pv h => ?_
  unfold pathAndValue at h
  split at h
  · cases h
    simp only [Value.canonical, Value.canonicalItems, Bool.and_eq_true] at hp
    exact hp.1
  · cases h
  · cases h
    exact hp

-----------------------------------------------------------------------------------------------
-- Reading a game
-----------------------------------------------------------------------------------------------

/-- The gate a leaf offers is its path. -/
theorem mem_gates_leaf {t : Test} {p w m : Value} (h : m ∈ (Condition.leaf t p w).gates) :
    m = p := by
  cases t <;> simp_all [Condition.gates]

/-- The gates of a conjunction are those of its conditions. -/
theorem mem_gates_all {cs : List Condition} {m : Value} :
    m ∈ (Condition.all cs).gates ↔ ∃ c ∈ cs, m ∈ c.gates := by
  rw [Condition.gates, Condition.gatesOf_eq_flatMap, List.mem_flatMap]

/-- The gates of a disjunction are those of its conditions. -/
theorem mem_gates_any {cs : List Condition} {m : Value} :
    m ∈ (Condition.any cs).gates ↔ ∃ c ∈ cs, m ∈ c.gates := by
  rw [Condition.gates, Condition.gatesOf_eq_flatMap, List.mem_flatMap]

/-- A condition read from a canonical value offers canonical gates, at any fuel. -/
theorem conditionOf_canonical : ∀ (fuel : Nat) (v : Value),
    ⦃⌜v.canonical = true⌝⦄ conditionOf fuel v
    ⦃post⟨fun c => ⌜∀ m ∈ c.gates, m.canonical = true⌝, fun _ => ⌜True⌝⟩⦄
  | 0, v => Except.triple_of_ok fun _ c h => by cases h
  | fuel + 1, v => by
    have hchild := conditionOf_canonical fuel
    have hchildren := mapM_canonical fun hv h => Except.ok_of_triple (hchild _) hv h
    simp only [conditionOf, throw, throwThe, MonadExceptOf.throw]
    mvcgen [hchild, hchildren]
      with grind [mem_gates_all, mem_gates_any, mem_gates_leaf, Condition.gates]

/-- Conditions read from a canonical value offer canonical gates. -/
@[local spec]
theorem readConditions_canonical (raw : Value) :
    ⦃⌜raw.canonical = true⌝⦄ readConditions raw
    ⦃post⟨fun cs => ⌜∀ m ∈ Condition.gatesOf cs, m.canonical = true⌝, fun _ => ⌜True⌝⟩⦄ := by
  have hconditions := mapM_canonical (f := readCondition)
    fun hv h => Except.ok_of_triple (conditionOf_canonical _ _) hv h
  mvcgen [readConditions, hconditions]
    with grind [Condition.gatesOf_eq_flatMap, Condition.gatesOf]

/-- Effects read from a canonical value have canonical paths. -/
@[local spec]
theorem readEffects_canonical (raw : Value) :
    ⦃⌜raw.canonical = true⌝⦄ readEffects raw
    ⦃post⟨fun es => ⌜∀ e ∈ es, e.path.canonical = true⌝, fun _ => ⌜True⌝⟩⦄ := by
  have heffect (v : Value) : ⦃⌜v.canonical = true⌝⦄ readEffect v
      ⦃post⟨fun e => ⌜e.path.canonical = true⌝, fun _ => ⌜True⌝⟩⦄ := by
    simp only [readEffect, throw, throwThe, MonadExceptOf.throw]
    mvcgen
  have heffects := mapM_canonical fun hv h => Except.ok_of_triple (heffect _) hv h
  mvcgen [readEffects, heffects]

/-- Effects declared by a canonical value, when present, have canonical paths. -/
@[local spec]
theorem readDeclaredEffects_canonical (raw : Value) :
    ⦃⌜raw.canonical = true⌝⦄ readDeclaredEffects raw
    ⦃post⟨fun es => ⌜∀ e ∈ es.getD [], e.path.canonical = true⌝, fun _ => ⌜True⌝⟩⦄ := by
  simp only [readDeclaredEffects, Except.ok_eq_pure]
  mvcgen

/-- A text read from a canonical value has canonical gates. -/
@[local spec]
theorem readText_canonical (raw : Value) :
    ⦃⌜raw.canonical = true⌝⦄ readText raw
    ⦃post⟨fun t => ⌜∀ m ∈ t.gates, m.canonical = true⌝, fun _ => ⌜True⌝⟩⦄ := by
  have hfragment (f : Value) : ⦃⌜f.canonical = true⌝⦄ readFragment f
      ⦃post⟨fun fr => ⌜∀ m ∈ Condition.gatesOf fr.when, m.canonical = true⌝,
        fun _ => ⌜True⌝⟩⦄ := by
    mvcgen [readFragment]
  have hfragments := mapM_canonical fun hv h => Except.ok_of_triple (hfragment _) hv h
  simp only [readText, Except.ok_eq_pure]
  mvcgen [hfragments] with grind [Text.gates]

/-- A trigger read from a canonical value stores only canonical values. -/
@[local spec]
theorem readTrigger_canonical (v : Value) :
    ⦃⌜v.canonical = true⌝⦄ readTrigger v
    ⦃post⟨fun t => ⌜t.StoresCanonical⌝, fun _ => ⌜True⌝⟩⦄ := by
  mvcgen [readTrigger] with constructor <;> assumption

/-- A use action read from a canonical value stores only canonical values. -/
@[local spec]
theorem readUseAction_canonical (v : Value) :
    ⦃⌜v.canonical = true⌝⦄ readUseAction v
    ⦃post⟨fun a => ⌜a.StoresCanonical⌝, fun _ => ⌜True⌝⟩⦄ := by
  mvcgen [readUseAction] with constructor <;> assumption

/-- An item read from a canonical value stores only canonical values. -/
@[local spec]
theorem readItem_canonical (v : Value) :
    ⦃⌜v.canonical = true⌝⦄ readItem v
    ⦃post⟨fun item => ⌜item.StoresCanonical⌝, fun _ => ⌜True⌝⟩⦄ := by
  have huses := mapM_canonical fun hv h => Except.ok_of_triple (readUseAction_canonical _) hv h
  mvcgen [readItem, huses] with constructor <;> assumption

/-- A dialogue line read from a canonical value stores only canonical values. -/
@[local spec]
theorem readDialogueLine_canonical (v : Value) :
    ⦃⌜v.canonical = true⌝⦄ readDialogueLine v
    ⦃post⟨fun line => ⌜line.StoresCanonical⌝, fun _ => ⌜True⌝⟩⦄ := by
  mvcgen [readDialogueLine] with constructor <;> assumption

/-- The lines of a character read from a canonical value store only canonical values. -/
@[local spec]
theorem readNpc_canonical (v : Value) :
    ⦃⌜v.canonical = true⌝⦄ readNpc v
    ⦃post⟨fun npc => ⌜∀ line ∈ npc.dialogue, line.StoresCanonical⌝, fun _ => ⌜True⌝⟩⦄ := by
  have hlines := mapM_canonical fun hv h =>
    Except.ok_of_triple (readDialogueLine_canonical _) hv h
  mvcgen [readNpc, hlines]

/-- An exit read from a canonical value stores only canonical values. -/
@[local spec]
theorem readExit_canonical (v : Value) :
    ⦃⌜v.canonical = true⌝⦄ readExit v
    ⦃post⟨fun ex => ⌜ex.StoresCanonical⌝, fun _ => ⌜True⌝⟩⦄ := by
  mvcgen [readExit] with constructor <;> assumption

/-- A room read from a canonical value stores only canonical values. -/
@[local spec]
theorem readRoom_canonical (v : Value) :
    ⦃⌜v.canonical = true⌝⦄ readRoom v
    ⦃post⟨fun room => ⌜room.StoresCanonical⌝, fun _ => ⌜True⌝⟩⦄ := by
  have hitems := mapM_canonical fun hv h => Except.ok_of_triple (readItem_canonical _) hv h
  have hnpcs := mapM_canonical fun hv h => Except.ok_of_triple (readNpc_canonical _) hv h
  have hexits := mapM_canonical fun hv h => Except.ok_of_triple (readExit_canonical _) hv h
  have htriggers := mapM_canonical fun hv h => Except.ok_of_triple (readTrigger_canonical _) hv h
  mvcgen [readRoom, hitems, hnpcs, hexits, htriggers] with constructor <;> assumption

/-- A game read from content as the data reader gives values stores only canonical values, and
its initial flags are read over no flags. -/
theorem readGame_reads (data : Value) :
    ⦃⌜data.canonical = true⌝⦄ readGame data
    ⦃post⟨fun g => ⌜g.StoresCanonical ∧ ∃ source, Flags.empty.update source = .ok g.initialFlags⌝,
      fun _ => ⌜True⌝⟩⦄ := by
  have hrooms := mapM_canonical fun hv h => Except.ok_of_triple (readRoom_canonical _) hv h
  have hhint (v : Value) : ⦃⌜v.canonical = true⌝⦄ readHint v
      ⦃post⟨fun hint => ⌜∀ m ∈ hint.text.gates, m.canonical = true⌝, fun _ => ⌜True⌝⟩⦄ := by
    mvcgen [readHint]
  have hhints := mapM_canonical fun hv h => Except.ok_of_triple (hhint _) hv h
  have htriggers := mapM_canonical fun hv h => Except.ok_of_triple (readTrigger_canonical _) hv h
  have hflags (source : Value) : ⦃⌜True⌝⦄ Flags.empty.update source
      ⦃post⟨fun fl => ⌜∃ source, Flags.empty.update source = .ok fl⌝, fun _ => ⌜True⌝⟩⦄ :=
    Except.triple_of_ok fun _ fl h => ⟨source, h⟩
  mvcgen [readGame, hrooms, hhints, htriggers, hflags]
    with exact ⟨by constructor <;> assumption, by assumption⟩

/-- A game read from canonical content stores only canonical values. -/
theorem readGame_canonical {data : Value} {g : Game} (hdata : data.canonical = true)
    (h : readGame data = .ok g) : g.StoresCanonical :=
  (Except.ok_of_triple (readGame_reads data) hdata h).1

/-- The initial flags of a game read from canonical content are read over no flags. -/
theorem readGame_initialFlags {data : Value} {g : Game} (hdata : data.canonical = true)
    (h : readGame data = .ok g) : ∃ source, Flags.empty.update source = .ok g.initialFlags :=
  (Except.ok_of_triple (readGame_reads data) hdata h).2

end Reading

end Story

end Adventure
