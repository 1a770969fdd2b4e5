import Adventure.Story.Flags

/-! The play state. The lists that act as sets grow only by appending what is not yet in them, so
they keep the order in which things happened and hold nothing twice. -/

namespace Adventure.Play

open Adventure.Story

/-- The state of a play session. -/
structure GameState where
  room : Value
  inventory : List Value
  taken : List Value
  flags : Flags
  visited : List Value
  ended : Bool
  won : Bool
  turns : Value
  once : List Value
  deriving Inhabited

/-- Appends `x` to `xs` unless it is already there. -/
def appendNew (xs : List Value) (x : Value) : List Value :=
  if x.memberOf xs then xs else xs ++ [x]

/-- A list only grows by `appendNew`: the old list is a prefix of the new one. -/
theorem prefix_appendNew (xs : List Value) (x : Value) : xs <+: appendNew xs x := by
  unfold appendNew
  split
  · exact List.prefix_refl xs
  · exact List.prefix_append xs [x]

/-- Appending what is already there changes nothing. -/
theorem appendNew_of_memberOf {xs : List Value} {x : Value} (present : x.memberOf xs = true) :
    appendNew xs x = xs := by
  simp [appendNew, present]

namespace GameState

/-- The state at the start of a game. -/
def initial (start : Value) (flags : Flags) : GameState :=
  ⟨start, [], [], flags, [], false, false, .int 0, []⟩

/-- Whether the player carries `id`. -/
def hasItem (s : GameState) (id : Value) : Bool := id.memberOf s.inventory

/-- Whether `id` has been taken from its room. -/
def isTaken (s : GameState) (id : Value) : Bool := id.memberOf s.taken

/-- Whether the gate `gate` has been used. -/
def usedGate (s : GameState) (gate : Value) : Bool := gate.memberOf s.once

/-- The player takes `id`: it is carried and counts as taken. -/
def addItem (s : GameState) (id : Value) : GameState :=
  { s with inventory := appendNew s.inventory id, taken := appendNew s.taken id }

/-- The player no longer carries `id`; it stays taken. -/
def removeItem (s : GameState) (id : Value) : GameState :=
  { s with inventory := s.inventory.filter fun x => !x.equals id }

/-- Uses the gate `gate`. -/
def markOnce (s : GameState) (gate : Value) : GameState :=
  { s with once := appendNew s.once gate }

/-- Uses every gate of `gates`, in order. -/
def commitMarks (s : GameState) (gates : List Value) : GameState := gates.foldl markOnce s

/-- Records a visit to `room`. -/
def visit (s : GameState) (room : Value) : GameState :=
  { s with visited := appendNew s.visited room }

@[simp] theorem commitMarks_nil (s : GameState) : s.commitMarks [] = s := rfl

@[simp] theorem commitMarks_cons (s : GameState) (g : Value) (gs : List Value) :
    s.commitMarks (g :: gs) = (s.markOnce g).commitMarks gs := rfl

/-- Taking an item only appends to the taken items. -/
theorem taken_prefix_addItem (s : GameState) (id : Value) : s.taken <+: (s.addItem id).taken :=
  prefix_appendNew s.taken id

/-- Using a gate only appends to the used gates. -/
theorem once_prefix_markOnce (s : GameState) (gate : Value) : s.once <+: (s.markOnce gate).once :=
  prefix_appendNew s.once gate

/-- Using gates only appends to the used gates. -/
theorem once_prefix_commitMarks (s : GameState) (gates : List Value) :
    s.once <+: (s.commitMarks gates).once := by
  induction gates generalizing s with
  | nil => exact List.prefix_refl _
  | cons g gs ih => exact (once_prefix_markOnce s g).trans (ih (s.markOnce g))

end GameState

end Adventure.Play
