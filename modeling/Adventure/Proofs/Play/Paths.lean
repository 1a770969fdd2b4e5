import Mathlib.Tactic.SplitIfs
import Adventure.Play.Path

/-! A write through a path is seen by exactly the paths that read its slot. -/

namespace Adventure

/-- A value equals a text only when it is that text. -/
theorem Value.equals_str {x : Value} {t : String} : x.equals (.str t) = true ↔ x = .str t := by
  cases x with
  | str s => simp [Value.equals]
  | _ => simp [Value.equals, Value.num?]

namespace Story

namespace Flags

/-- The value of a flag under a text key, after setting a text key. -/
theorem get?_set_text (fl : Flags) (a b : String) (v : Value) :
    (fl.set (.str a) v).get? (.str b) = if a = b then some v else fl.get? (.str b) := by
  unfold set get?
  -- a text key is the same member as exactly the values equal to it
  simp only [Value.sameItem_str_right]
  by_cases hany : fl.entries.any (fun e => e.1.equals (.str a)) = true
  · rw [if_pos hany]
    simp only [List.find?_map, Option.map_map]
    split
    · rename_i hab
      subst hab
      -- the first entry under the key is found again, now holding `v`
      obtain ⟨e, he⟩ : ∃ e, fl.entries.find? (fun e => e.1.equals (.str a)) = some e := by
        cases h : fl.entries.find? (fun e => e.1.equals (.str a)) with
        | none =>
          obtain ⟨e, hmem, hkey⟩ := List.any_eq_true.mp hany
          exact absurd hkey (by simpa using List.find?_eq_none.mp h e hmem)
        | some e => exact ⟨e, rfl⟩
      have hkey := List.find?_some he
      have hfind : fl.entries.find? ((fun e => e.1.equals (.str a)) ∘
          fun e => if e.1.equals (.str a) = true then (e.1, v) else e) =
          fl.entries.find? (fun e => e.1.equals (.str a)) := by
        congr 1
        funext e
        by_cases h : e.1.equals (.str a) = true <;> simp [h]
      rw [hfind, he]
      simp [hkey]
    · rename_i hab
      have hfind : fl.entries.find? ((fun e => e.1.equals (.str b)) ∘
          fun e => if e.1.equals (.str a) = true then (e.1, v) else e) =
          fl.entries.find? (fun e => e.1.equals (.str b)) := by
        congr 1
        funext e
        by_cases h : e.1.equals (.str a) = true <;> simp [h]
      rw [hfind]
      cases h : fl.entries.find? (fun e => e.1.equals (.str b)) with
      | none => rfl
      | some e =>
        have hfound := List.find?_some h
        have hb := Value.equals_str.mp hfound
        have ha : e.1.equals (.str a) = false := by
          rw [hb]
          simpa [Value.equals] using Ne.symm hab
        simp [ha]
  · rw [if_neg hany]
    simp only [List.find?_append]
    split
    · rename_i hab
      subst hab
      have hnone : fl.entries.find? (fun e => e.1.equals (.str a)) = none :=
        List.find?_eq_none.mpr fun e he hkey => hany (List.any_eq_true.mpr ⟨e, he, hkey⟩)
      simp [hnone, Value.equals]
    · rename_i hab
      cases h : fl.entries.find? (fun e => e.1.equals (.str b)) with
      | some e => rfl
      | none => simp [Value.equals, hab]

end Flags

end Story

namespace Play

open Story

/-- A part of the play state that a path addresses. -/
inductive Slot where
  | room
  | won
  | ended
  | turns
  | flag (key : String)
  deriving DecidableEq

/-- The names that address something other than a flag. -/
def builtinNames : List String := ["room", "room.id", "won", "gameOver", "turnCount"]

namespace Slot

/-- The slot a path reads. -/
def read (p : String) : Slot :=
  if p = "room" ∨ p = "room.id" then .room
  else if p = "won" then .won
  else if p = "gameOver" then .ended
  else if p = "turnCount" then .turns
  else .flag (flagKey p)

/-- The slot a path writes: the one it reads, except that the counter is written as the flag
`turnCount`. -/
def written (p : String) : Slot :=
  match read p with
  | .turns => .flag p
  | slot => slot

/-- The value a slot holds; an unset flag holds null. -/
def value (s : GameState) : Slot → Value
  | .room => s.room
  | .won => .bool s.won
  | .ended => .bool s.ended
  | .turns => s.turns
  | .flag key => (s.flags.get? (.str key)).getD .null

/-- How a slot keeps a written value: the room as the text of the value, an ending mark as
whether the value holds, a flag as it is. -/
def keep : Slot → Value → Value
  | .room, v => .str v.display
  | .won, v | .ended, v => .bool v.holds
  | _, v => v

/-- The state with a written slot set to the value as it keeps it. The counter is never
written, so it has no store of its own. -/
def store (s : GameState) (v : Value) : Slot → GameState
  | .room => { s with room := .str v.display }
  | .won => { s with won := v.holds }
  | .ended => { s with ended := v.holds }
  | .turns => s
  | .flag key => { s with flags := s.flags.set (.str key) v }

/-- No path writes the turn counter: the counter is written as a flag. -/
theorem written_ne_turns (p : String) : written p ≠ .turns := by
  unfold written
  split <;> simp_all

/-- Storing into a slot changes that slot alone. -/
theorem value_store (s : GameState) (v : Value) {slot : Slot} (h : slot ≠ .turns) (other : Slot) :
    other.value (slot.store s v) = if other = slot then slot.keep v else other.value s := by
  cases slot <;> cases other <;> simp_all [value, store, keep, Flags.get?_set_text, eq_comm]
  -- a flag after setting a flag: the key decides
  split_ifs <;> rfl

end Slot

section Access

variable (s : GameState) (p : String) (v : Value)

/-- Reading a text path reads its slot. -/
theorem read_text : s.read (.str p) = .ok ((Slot.read p).value s) := by
  unfold GameState.read Slot.read
  simp only [Value.isText, Bool.or_eq_true, beq_iff_eq]
  split_ifs <;> simp [flagOf, bind, Except.bind, pure, Except.pure, Slot.value]

/-- Writing a text path stores into the slot it writes; it never fails. -/
theorem write_text : s.write (.str p) v = .ok ((Slot.written p).store s v) := by
  unfold GameState.write Slot.written Slot.read
  simp only [Value.isText, Bool.or_eq_true, beq_iff_eq]
  split_ifs <;> simp_all [flagOf, flagKey, bind, Except.bind, pure, Except.pure, Slot.store]

end Access

/-- The flag that `flags.X` addresses is `X`. -/
theorem flagKey_flags (x : String) : flagKey ("flags." ++ x) = x := by
  have hprefix : ("flags." ++ x).startsWith "flags." = true :=
    String.startsWith_string_iff.mpr (by simp)
  simp [flagKey, hprefix]

/-- A name is its own flag exactly when it does not start with `flags.`. -/
theorem flagKey_eq_self_iff (x : String) : flagKey x = x ↔ x.startsWith "flags." = false := by
  unfold flagKey
  cases hx : x.startsWith "flags."
  · simp
  · -- the prefix is dropped, so the flag is six characters shorter than the name
    obtain ⟨rest, hrest⟩ := String.startsWith_string_iff.mp hx
    have hlen : (String.ofList (x.toList.drop 6)).toList.length + 6 = x.toList.length := by
      simp only [String.toList_ofList, List.length_drop]
      have : "flags.".toList.length ≤ x.toList.length := by rw [← hrest]; simp
      simp at this
      omega
    simp only [if_true, Bool.true_eq_false, iff_false]
    intro heq
    rw [heq] at hlen
    omega

/-- `flags.X` reads the flag `X`. -/
theorem Slot.read_flags (x : String) : Slot.read ("flags." ++ x) = .flag x := by
  have hbuiltin : ∀ n ∈ builtinNames, "flags." ++ x ≠ n := by
    intro n hn heq
    have hstart : n.startsWith "flags." = true := by
      rw [← heq]
      exact String.startsWith_string_iff.mpr (by simp)
    simp only [builtinNames, List.mem_cons, List.not_mem_nil, or_false] at hn
    rcases hn with rfl | rfl | rfl | rfl | rfl <;> simp at hstart
  simp only [builtinNames, List.mem_cons, List.not_mem_nil, or_false, forall_eq_or_imp,
    forall_eq] at hbuiltin
  obtain ⟨h1, h2, h3, h4, h5⟩ := hbuiltin
  simp [Slot.read, h1, h2, h3, h4, h5, flagKey_flags]

/-- A name reads a flag of its own spelling exactly when it is no built-in name and does not
start with `flags.`. -/
theorem Slot.read_eq_flag_self_iff (x : String) :
    Slot.read x = .flag x ↔ x ∉ builtinNames ∧ x.startsWith "flags." = false := by
  unfold Slot.read
  by_cases hroom : x = "room" ∨ x = "room.id"
  · rcases hroom with rfl | rfl <;> simp [builtinNames]
  by_cases hwon : x = "won"
  · subst hwon; simp [builtinNames]
  by_cases hended : x = "gameOver"
  · subst hended; simp [builtinNames]
  by_cases hturns : x = "turnCount"
  · subst hturns; simp [builtinNames]
  have hnot : x ∉ builtinNames := by simp_all [builtinNames]
  simp [hroom, hwon, hended, hturns, hnot, flagKey_eq_self_iff]

/-- A write is seen by exactly the paths that read its slot. After writing `v` at `p`, reading
`p` gives the text of `v` for the room, whether `v` holds for an ending mark, the unchanged
counter for `turnCount` (whose write went to the flag of that name) and `v` itself for a flag;
a path reading the slot written reads the value as that slot keeps it, and every other path
reads what it read before. `X` and `flags.X` read one slot exactly when `X` is no built-in name
and does not start with `flags.`. -/
theorem read_after_write (s : GameState) (p : String) (v : Value) :
    (∃ s', s.write (.str p) v = .ok s' ∧
      s'.read (.str p) = .ok
        (if p = "room" ∨ p = "room.id" then .str v.display
        else if p = "won" ∨ p = "gameOver" then .bool v.holds
        else if p = "turnCount" then s.turns
        else v) ∧
      (∀ q, Slot.read q = Slot.written p → s'.read (.str q) = .ok ((Slot.written p).keep v)) ∧
      (∀ q, Slot.read q ≠ Slot.written p → s'.read (.str q) = s.read (.str q))) ∧
    ∀ x : String,
      Slot.read x = Slot.read ("flags." ++ x) ↔ x ∉ builtinNames ∧ x.startsWith "flags." = false := by
  have hstored := Slot.value_store s v (Slot.written_ne_turns p)
  refine ⟨⟨_, write_text s p v, ?_, ?_, ?_⟩, ?_⟩
  · -- the written path reads its own slot back, except the counter, which was not written
    rw [read_text, hstored]
    by_cases hroom : p = "room" ∨ p = "room.id"
    · rcases hroom with rfl | rfl <;> rfl
    by_cases hwon : p = "won"
    · subst hwon; rfl
    by_cases hended : p = "gameOver"
    · subst hended; rfl
    by_cases hturns : p = "turnCount"
    · subst hturns; rfl
    simp [Slot.written, Slot.read, hroom, hwon, hended, hturns, Slot.keep]
  · intro q hq
    rw [read_text, hstored, if_pos hq]
  · intro q hq
    rw [read_text, read_text, hstored, if_neg hq]
  · intro x
    rw [Slot.read_flags, Slot.read_eq_flag_self_iff]

/-- Writing `turnCount` leaves the counter as it was and sets the flag of that name, which
`flags.turnCount` reads. -/
theorem turnCount_write_lands_in_flag :
    ∃ s', (GameState.initial (.str "a") Flags.empty).write (.str "turnCount") (.int 5) = .ok s' ∧
      s'.read (.str "turnCount") = .ok (.int 0) ∧ s'.read (.str "flags.turnCount") = .ok (.int 5) := by
  obtain ⟨⟨s', hwrite, hback, hslot, -⟩, -⟩ :=
    read_after_write (GameState.initial (.str "a") Flags.empty) "turnCount" (.int 5)
  have hsame : Slot.read "flags.turnCount" = Slot.written "turnCount" := by
    simp [Slot.read, Slot.written, flagKey]
  refine ⟨s', hwrite, by simpa [GameState.initial] using hback, ?_⟩
  rw [hslot "flags.turnCount" hsame]
  simp [Slot.written, Slot.read, Slot.keep]

end Play

end Adventure
