import Adventure.Proofs.Play.Reread
import Adventure.Proofs.Value.Members

/-! A state read from a snapshot, written back as the mapping of its fields and read again, comes
back unchanged when the initial flags are a map. -/

namespace Adventure

open Adventure.Story

namespace Story.Flags

/-- Sets every entry of a list over the flags, one after the other. -/
def setAll (fl : Flags) (entries : List (Value × Value)) : Flags :=
  entries.foldl (fun acc e => acc.set e.1 e.2) fl

/-- Flags that are a map: every key can be a key and equals itself, and no key equals another,
either way round. -/
def IsMap (fl : Flags) : Prop :=
  (∀ k ∈ fl.keys, k.hashable = true ∧ k.equals k = true) ∧
    fl.keys.Pairwise fun a b => a.equals b = false ∧ b.equals a = false

instance (fl : Flags) : Decidable fl.IsMap := inferInstanceAs (Decidable (_ ∧ _))

/-- `fl` grew from `base` by setting keys: the keys of `base` come first and in their order, no
key is the same member as a key before it, and every key can be a key. -/
def Extends (base fl : Flags) : Prop :=
  base.keys <+: fl.keys ∧ fl.keys.Pairwise (fun a b => a.sameItem b = false) ∧
    ∀ k ∈ fl.keys, k.hashable = true

@[simp] theorem setAll_nil (fl : Flags) : fl.setAll [] = fl := rfl

@[simp] theorem setAll_cons (fl : Flags) (e : Value × Value) (es : List (Value × Value)) :
    fl.setAll (e :: es) = (fl.set e.1 e.2).setAll es := rfl

/-- Setting two lists of entries is setting the first, then the second. -/
theorem setAll_append (fl : Flags) (es es' : List (Value × Value)) :
    fl.setAll (es ++ es') = (fl.setAll es).setAll es' := by
  simp [setAll, List.foldl_append]

/-- Setting a key keeps the keys when one of them is the same member, and otherwise adds it
last. -/
theorem keys_set (fl : Flags) (k v : Value) :
    (fl.set k v).keys =
      if fl.entries.any (fun e => e.1.sameItem k) then fl.keys else fl.keys ++ [k] := by
  unfold set keys
  split
  · simp only [List.map_map]
    congr 1
    funext e
    by_cases h : e.1.sameItem k <;> simp [h]
  · simp

/-- Between the keys of a map, being the same member is being equal: no key is a
not-a-number. -/
theorem IsMap.sameItem_eq {fl : Flags} (hmap : fl.IsMap) {a : Value} (ha : a ∈ fl.keys)
    (b : Value) : a.sameItem b = a.equals b :=
  Value.sameItem_eq_equals (Value.isNaN_eq_false_of_equals_self (hmap.1 a ha).2)

/-- A map has grown from itself. -/
theorem Extends.refl {base : Flags} (hmap : base.IsMap) : Extends base base := by
  refine ⟨List.prefix_refl _, ?_, fun k hk => (hmap.1 k hk).1⟩
  refine List.Pairwise.imp_of_mem (fun {a b} ha _ hab => ?_) hmap.2
  rw [hmap.sameItem_eq ha]
  exact hab.1

/-- Setting a key that can be one keeps flags grown from `base`. -/
theorem Extends.set {base fl : Flags} (h : Extends base fl) {k : Value} (hk : k.hashable = true)
    (v : Value) : Extends base (fl.set k v) := by
  obtain ⟨hlead, hfresh, hkeys⟩ := h
  rw [Extends, keys_set]
  split
  · exact ⟨hlead, hfresh, hkeys⟩
  · rename_i hnone
    -- the key is new: no key before it is the same member
    have hall : fl.entries.any (fun e => e.1.sameItem k) = false := by simpa using hnone
    have hnew : ∀ a ∈ fl.keys, a.sameItem k = false := by
      intro a ha
      obtain ⟨e, he, rfl⟩ := List.mem_map.mp ha
      simpa using List.any_eq_false.mp hall e he
    refine ⟨hlead.trans (List.prefix_append _ _), ?_, ?_⟩
    · exact List.pairwise_append.mpr ⟨hfresh, List.pairwise_singleton _ _,
        fun a ha b hb => by rw [List.mem_singleton.mp hb]; exact hnew a ha⟩
    · intro a ha
      rcases List.mem_append.mp ha with ha | ha
      · exact hkeys a ha
      · rw [List.mem_singleton.mp ha]; exact hk

/-- Inserting an entry keeps the flags extending their base. -/
theorem Extends.insert {base fl fl' : Flags} (h : Extends base fl) {k v : Value}
    (hins : fl.insert k v = .ok fl') : Extends base fl' := by
  unfold Flags.insert at hins
  split at hins
  · cases hins
    exact h.set ‹_› v
  · cases hins

/-- Setting the fields of an object keeps flags grown from `base`. -/
theorem Extends.setFields {base fl : Flags} (h : Extends base fl)
    (fields : List (String × Value)) : Extends base (fl.setFields fields) := by
  induction fields generalizing fl with
  | nil => exact h
  | cons kv rest ih => exact ih (h.set rfl kv.2)

/-- Setting the pairs of a sequence keeps flags grown from `base`. -/
theorem Extends.foldlM_pairs {base : Flags} {items : List Value} {fl fl' : Flags}
    (h : Extends base fl)
    (hrun : items.foldlM (fun acc item => do
      let (k, w) ← pairOf item
      acc.insert k w) fl = .ok fl') : Extends base fl' := by
  induction items generalizing fl with
  | nil => cases hrun; exact h
  | cons item rest ih =>
    simp only [List.foldlM_cons, bind, Except.bind] at hrun
    cases hpair : pairOf item with
    | error e => simp [hpair] at hrun
    | ok kw =>
      cases hins : fl.insert kw.1 kw.2 with
      | error e => simp [hpair, hins] at hrun
      | ok acc =>
        simp only [hpair, hins] at hrun
        exact ih (h.insert hins) hrun

/-- Reading flags over a map gives flags grown from it. -/
theorem update_extends {base fl : Flags} {source : Value} (hmap : base.IsMap)
    (h : base.update source = .ok fl) : Extends base fl := by
  unfold update at h
  split at h
  · cases h
    exact (Extends.refl hmap).setFields _
  · simp only [bind, Except.bind] at h
    cases hitems : source.members with
    | error e => simp [hitems] at h
    | ok items =>
      simp only [hitems] at h
      exact (Extends.refl hmap).foldlM_pairs h

/-- Setting a key that the first entry's key is not the same member as leaves the first entry
first. -/
theorem set_cons_of_sameItem_false {e : Value × Value} {es : List (Value × Value)} {k : Value}
    (hne : e.1.sameItem k = false) (v : Value) :
    Flags.set ⟨e :: es⟩ k v = ⟨e :: (Flags.set ⟨es⟩ k v).entries⟩ := by
  unfold Flags.set
  by_cases hany : es.any (fun x => x.1.sameItem k) = true
  · simp [hne, hany]
  · simp [hne, hany]

/-- Setting entries none of which has the first entry's key leaves that entry first and
untouched. -/
theorem setAll_cons_of_sameItem_false {e : Value × Value} {es xs : List (Value × Value)}
    (hne : ∀ x ∈ xs, e.1.sameItem x.1 = false) :
    Flags.setAll ⟨e :: es⟩ xs = ⟨e :: (Flags.setAll ⟨es⟩ xs).entries⟩ := by
  induction xs generalizing es with
  | nil => rfl
  | cons x rest ih =>
    rw [setAll_cons, set_cons_of_sameItem_false (hne x List.mem_cons_self),
      ih fun y hy => hne y (List.mem_cons_of_mem x hy)]
    rfl

/-- Setting entries whose keys are the keys of a map, in the same order, replaces every value in
place. -/
theorem setAll_same_keys : ∀ {ps qs : List (Value × Value)}, ps.map (·.1) = qs.map (·.1) →
    IsMap ⟨qs⟩ → Flags.setAll ⟨ps⟩ qs = ⟨qs⟩
  | [], [], _, _ => rfl
  | p :: ps, q :: qs, hkeys, hmap => by
    obtain ⟨hhead, htail⟩ : p.1 = q.1 ∧ ps.map (·.1) = qs.map (·.1) := by simpa using hkeys
    have hq : q.1 ∈ keys ⟨q :: qs⟩ := by simp [keys]
    have hself : q.1.sameItem q.1 = true := Value.sameItem_of_equals (hmap.1 q.1 hq).2
    obtain ⟨hafter, hrest⟩ :
        (∀ b ∈ qs.map (·.1), q.1.equals b = false ∧ b.equals q.1 = false) ∧
        (qs.map (·.1)).Pairwise fun a b => a.equals b = false ∧ b.equals a = false := by
      simpa [keys] using hmap.2
    have hrest_map : IsMap ⟨qs⟩ :=
      ⟨fun k hk => hmap.1 k (List.mem_cons_of_mem _ hk), hrest⟩
    -- the head's key is the same member as itself and as no later key, so only the head changes
    have hfirst : Flags.set ⟨p :: ps⟩ q.1 q.2 = ⟨q :: ps⟩ := by
      have hps : ∀ x ∈ ps, x.1.sameItem q.1 = false := by
        intro x hx
        have hx' : x.1 ∈ qs.map (·.1) := htail ▸ List.mem_map_of_mem hx
        rw [hrest_map.sameItem_eq hx']
        exact (hafter x.1 hx').2
      unfold Flags.set
      have hmapped :
          ps.map (fun e => if e.1.sameItem q.1 = true then (e.1, q.2) else e) = ps := by
        conv => rhs; rw [← List.map_id ps]
        exact List.map_congr_left fun x hx => by simp [hps x hx]
      simp [hhead, hself, hmapped]
    have hlater : ∀ x ∈ qs, q.1.sameItem x.1 = false := fun x hx => by
      rw [hmap.sameItem_eq hq]
      exact (hafter x.1 (List.mem_map_of_mem hx)).1
    rw [setAll_cons, hfirst, setAll_cons_of_sameItem_false hlater,
      setAll_same_keys htail hrest_map]

/-- Setting entries none of whose keys is the same member as a key before it appends them
all. -/
theorem setAll_fresh : ∀ {ps qs : List (Value × Value)},
    ((ps ++ qs).map (·.1)).Pairwise (fun a b => a.sameItem b = false) →
    Flags.setAll ⟨ps⟩ qs = ⟨ps ++ qs⟩
  | ps, [], _ => by simp
  | ps, q :: qs, hfresh => by
    have hnew : ps.any (fun e => e.1.sameItem q.1) = false := by
      have h := (List.pairwise_append.mp (by simpa using hfresh)).2.2
      exact List.any_eq_false.mpr fun e he => by
        simpa using h e.1 (List.mem_map_of_mem he) q.1 List.mem_cons_self
    have happend : Flags.set ⟨ps⟩ q.1 q.2 = ⟨ps ++ [q]⟩ := by
      simp [Flags.set, hnew]
    rw [setAll_cons, happend, setAll_fresh (by simpa using hfresh)]
    simp

/-- Setting the entries of flags grown from a map over that map again gives those flags. -/
theorem setAll_entries {base fl : Flags} (hmap : base.IsMap) (h : Extends base fl) :
    base.setAll fl.entries = fl := by
  obtain ⟨hlead, hfresh, -⟩ := h
  obtain ⟨ps⟩ := base
  obtain ⟨qs⟩ := fl
  -- the first entries carry the map's keys, the others were added after them
  have hlen : ps.length ≤ qs.length := by
    simpa [keys] using hlead.length_le
  have hkeys : ps.map (·.1) = (qs.take ps.length).map (·.1) := by
    have := List.prefix_iff_eq_take.mp hlead
    simpa [keys, List.map_take] using this
  have hfirst : IsMap ⟨qs.take ps.length⟩ := by
    refine ⟨fun k hk => hmap.1 k (by simpa [keys, hkeys] using hk), ?_⟩
    simpa [keys, ← hkeys] using hmap.2
  have hsplit : qs = qs.take ps.length ++ qs.drop ps.length := (List.take_append_drop _ _).symm
  change Flags.setAll ⟨ps⟩ qs = ⟨qs⟩
  rw [hsplit, setAll_append, setAll_same_keys hkeys hfirst, setAll_fresh]
  simpa [keys, ← hsplit] using hfresh

/-- The entries of flags as a list of pairs, each a list of key and value. -/
def entryPairs (fl : Flags) : Value := .arr (fl.entries.map fun e => .arr [e.1, e.2])

/-- Reading a list of pairs into flags inserts the first pair, then reads the rest. -/
theorem update_arr_cons (acc : Flags) (x : Value) (xs : List Value) :
    acc.update (.arr (x :: xs)) =
      (do let (k, w) ← pairOf x; acc.insert k w) >>= fun acc' => acc'.update (.arr xs) := rfl

/-- Reading a list of pairs whose keys can be keys sets those pairs. -/
theorem update_pairs (es : List (Value × Value)) (hkeys : ∀ e ∈ es, e.1.hashable = true)
    (acc : Flags) : acc.update (.arr (es.map fun e => .arr [e.1, e.2])) = .ok (acc.setAll es) := by
  induction es generalizing acc with
  | nil => rfl
  | cons e rest ih =>
    have he : e.1.hashable = true := hkeys e List.mem_cons_self
    have hins : acc.insert e.1 e.2 = .ok (acc.set e.1 e.2) := by simp [insert, he]
    rw [List.map_cons, update_arr_cons]
    simp only [pairOf, Value.members, bind, Except.bind, pure, Except.pure, hins]
    exact ih (fun x hx => hkeys x (List.mem_cons_of_mem e hx)) _

/-- Reading the list of pairs of entries whose keys can be keys sets those entries. -/
theorem update_entryPairs {fl : Flags} (hkeys : ∀ k ∈ fl.keys, k.hashable = true)
    (acc : Flags) : acc.update fl.entryPairs = .ok (acc.setAll fl.entries) :=
  update_pairs fl.entries (fun e he => hkeys e.1 (List.mem_map_of_mem he)) acc

/-- An object and the list of its fields as pairs of name and value set flags alike. -/
theorem update_obj_eq_entries (acc : Flags) (fields : List (String × Value)) :
    acc.update (.obj fields) =
      acc.update (.arr (fields.map fun kv => .arr [.str kv.1, kv.2])) := by
  induction fields generalizing acc with
  | nil => rfl
  | cons kv rest ih =>
    simp only [update, List.foldl_cons, List.map_cons, Value.members, List.foldlM_cons, pairOf,
      insert, Value.hashable, if_true, bind, Except.bind, pure, Except.pure] at ih ⊢
    exact ih _

/-- Reading the entries of flags grown from a map over that map gives those flags, whether the
entries hold or not. -/
theorem update_fieldOr_entryPairs {base fl : Flags} (hmap : base.IsMap) (h : Extends base fl) :
    base.update (Play.fieldOr fl.entryPairs (.obj [])) = .ok fl := by
  unfold Play.fieldOr
  split
  · rw [update_entryPairs h.2.2, setAll_entries hmap h]
  · rename_i hempty
    -- no entries: the map was empty too, and reading nothing leaves it
    have hnil : fl.entries = [] := by
      simpa [entryPairs, Value.truthy] using hempty
    have hbase : base.keys = [] := by
      simpa [keys, hnil] using h.1.length_le
    obtain ⟨ps⟩ := base
    obtain ⟨qs⟩ := fl
    simp only [keys, List.map_eq_nil_iff] at hbase hnil
    simp [hbase, hnil, update]

end Story.Flags

namespace Play

/-- "The field when it holds, else the fallback" gives the same again on its own result. -/
@[simp] theorem fieldOr_fieldOr (v fallback : Value) :
    fieldOr (fieldOr v fallback) fallback = fieldOr v fallback := by
  unfold fieldOr
  split <;> simp_all

namespace GameState

/-- The snapshot of a state as a mapping that reading takes back as it is: the state's own
values, with the flags as the list of their entries. -/
def toMapping (s : GameState) : Value := s.withFlags s.flags.entryPairs

/-- The state a snapshot of given fields and flags describes: the flags read over the initial
ones, the room and the turn counter when they hold, and the other fields as they are. -/
theorem ofValue_withFlags_eq (t : GameState) (flags start : Value) (initialFlags : Flags) :
    GameState.ofValue (t.withFlags flags) start initialFlags =
      (initialFlags.update (fieldOr flags (.obj []))).map fun fl =>
        ⟨fieldOr t.room start, t.inventory, t.taken, fl, t.visited, t.ended, t.won,
          fieldOr t.turns (.int 0), t.once⟩ := by
  cases hflags : initialFlags.update (fieldOr flags (.obj [])) <;>
    simp [GameState.ofValue, withFlags, Value.getOr, listField_arr, Value.truthy, hflags,
      bind, Except.bind, pure, Except.pure, Except.map]

/-- What reading a snapshot tells about the state it gives: its flags are read over the initial
ones, and its room and turn counter are a field of the snapshot or the fallback. -/
theorem ofValue_fields {data start : Value} {initialFlags : Flags} {s : GameState}
    (h : GameState.ofValue data start initialFlags = .ok s) :
    ∃ flags room turns, initialFlags.update (fieldOr flags (.obj [])) = .ok s.flags ∧
      s.room = fieldOr room start ∧ s.turns = fieldOr turns (.int 0) := by
  cases data with
  | obj fields =>
    simp only [GameState.ofValue, Value.getOr, bind, Except.bind, pure, Except.pure] at h
    -- the flags are read first, then the four lists, each of which may fail
    split at h
    · cases h
    rename_i fl hfl
    split at h; · cases h
    split at h; · cases h
    split at h; · cases h
    split at h; · cases h
    cases h
    exact ⟨_, _, _, hfl, rfl, rfl⟩
  | _ => simp [GameState.ofValue, Value.getOr, bind, Except.bind] at h

/-- A state read from a snapshot, with initial flags that are a map, is read again unchanged
from its own mapping. -/
theorem ofValue_toMapping {data start : Value} {initialFlags : Flags} {s : GameState}
    (hmap : initialFlags.IsMap) (h : GameState.ofValue data start initialFlags = .ok s) :
    GameState.ofValue s.toMapping start initialFlags = .ok s := by
  obtain ⟨flags, room, turns, hflags, hroom, hturns⟩ := ofValue_fields h
  have hgrown : initialFlags.Extends s.flags := Flags.update_extends hmap hflags
  have hroom' : fieldOr s.room start = s.room := by rw [hroom, fieldOr_fieldOr]
  have hturns' : fieldOr s.turns (.int 0) = s.turns := by rw [hturns, fieldOr_fieldOr]
  rw [toMapping, ofValue_withFlags_eq, Flags.update_fieldOr_entryPairs hmap hgrown]
  simp only [Except.map, hroom', hturns']

/-- Flags given as pairs, one keyed by a number and one replacing an initial flag, with the
initial flag `lamp`: the state read keeps the number key and the initial flag's place, and
reading its mapping gives it back. -/
theorem numbered_flag_rereads :
    let lamp : Flags := ⟨[(.str "lamp", .bool false)]⟩
    let data : Value := .obj [("currentRoomId", .str "hall"), ("flags",
      .arr [.arr [.int 1, .str "one"], .arr [.str "lamp", .bool true]]), ("turnCount", .int 7)]
    let s : GameState := ⟨.str "hall", [], [],
      ⟨[(.str "lamp", .bool true), (.int 1, .str "one")]⟩, [], false, false, .int 7, []⟩
    lamp.IsMap ∧ GameState.ofValue data (.str "a") lamp = .ok s ∧
      GameState.ofValue s.toMapping (.str "a") lamp = .ok s := by
  intro lamp data s
  have hread : GameState.ofValue data (.str "a") lamp = .ok s := rfl
  exact ⟨by decide, hread, ofValue_toMapping (by decide) hread⟩

end GameState

end Play

end Adventure
