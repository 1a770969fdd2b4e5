import Adventure.Proofs.Json.RoundTrip
import Adventure.Session.Request

/-! Reading the text of a state's snapshot gives the state back as the data format gives values
back, or fails exactly when the snapshot exceeds the reader's limits. -/

namespace Adventure

open Adventure.Story Adventure.Json

namespace Story.Flags

/-- Sets the fields of an object over the flags, one after the other, each under its name as
a text. -/
def setFields (fl : Flags) (fields : List (String × Value)) : Flags :=
  fields.foldl (fun acc kv => acc.set (.str kv.1) kv.2) fl

/-- The fields of the flags in a snapshot: each key under its field name. -/
def snapshotFields (fl : Flags) : List (String × Value) :=
  fl.entries.map fun (k, v) => ((keyName? k).getD k.display, v)

/-- Flags are saved as an object of their snapshot fields. -/
theorem toData_eq (fl : Flags) : fl.toData = .obj fl.snapshotFields := rfl

end Story.Flags

namespace Play

/-- A list field that is a list is read as its items, empty or not. -/
theorem listField_arr (xs : List Value) : listField (.arr xs) = .ok xs := by
  cases xs <;> rfl

/-- Flags given as an object set its fields, whether or not it holds. -/
theorem update_fieldOr_obj (fl : Flags) (fields : List (String × Value)) :
    fl.update (fieldOr (.obj fields) (.obj [])) = .ok (fl.setFields fields) := by
  cases fields <;> rfl

namespace GameState

/-- The state that the text of a state's snapshot describes for a game that starts in `start`
with the flags `initialFlags`: every value as the data format gives it back, the snapshot's
flags set over the initial ones under their field names, and a room or a turn counter that does
not hold replaced by the start and by 0. -/
def reread (s : GameState) (start : Value) (initialFlags : Flags) : GameState :=
  ⟨fieldOr s.room.canon start, Value.canonItems s.inventory, Value.canonItems s.taken,
    initialFlags.setFields (Value.canonFields [] s.flags.snapshotFields),
    Value.canonItems s.visited, s.ended, s.won, fieldOr s.turns.canon (.int 0),
    Value.canonItems s.once⟩

/-- The snapshot read back is the snapshot of the state with every value read back. -/
theorem withFlags_canon (s : GameState) (flags : Value) :
    (s.withFlags flags).canon =
      GameState.withFlags ⟨s.room.canon, Value.canonItems s.inventory,
        Value.canonItems s.taken, s.flags, Value.canonItems s.visited, s.ended, s.won,
        s.turns.canon, Value.canonItems s.once⟩ flags.canon := by
  -- the nine field names differ, so reading sets each once in its place
  simp [withFlags, Value.canon, Value.canonFields, Value.setField]

/-- The state a snapshot object describes, field by field. -/
theorem ofValue_withFlags (t : GameState) (fields : List (String × Value)) (start : Value)
    (initialFlags : Flags) :
    GameState.ofValue (t.withFlags (.obj fields)) start initialFlags =
      .ok ⟨fieldOr t.room start, t.inventory, t.taken, initialFlags.setFields fields, t.visited,
        t.ended, t.won, fieldOr t.turns (.int 0), t.once⟩ := by
  simp [GameState.ofValue, withFlags, Value.getOr, listField_arr, update_fieldOr_obj,
    Value.truthy, bind, Except.bind, pure, Except.pure]

end GameState

/-- Resuming from the text of a state's snapshot that fits the reader's limits gives the state
read back. -/
theorem resumeState_serialize (g : Game) (s : GameState)
    (hfits : s.toData.fits nestingLimit = true) :
    resumeState g (.str s.serialize) = .ok (s.reread g.startingRoom g.initialFlags) := by
  have hread : readData s.serialize = .ok s.toData.canon := readDataWithin_write _ _ hfits
  simp only [resumeState, snapshotData, hread, GameState.toData, Flags.toData_eq,
    GameState.withFlags_canon, Value.canon, bind, Except.bind, GameState.ofValue_withFlags]
  rfl

/-- Resuming from the text of a snapshot that does not fit the reader's limits fails. -/
theorem resumeState_serialize_error (g : Game) (s : GameState)
    (hfits : s.toData.fits nestingLimit = false) :
    ∃ e, resumeState g (.str s.serialize) = .error e := by
  obtain ⟨e, hread⟩ : ∃ e, readData s.serialize = .error e := readDataWithin_write_error _ _ hfits
  exact ⟨e, by simp [resumeState, snapshotData, hread, bind, Except.bind]⟩

end Play

namespace Session

open Adventure.Play

/-- A session reopened from its own snapshot keeps its content and its checking, and its state is
the old one read back for the game read again. -/
theorem reopened_state {session session' : Session} (h : session.reopened = .ok session') :
    session'.content = session.content ∧ session'.unchecked = session.unchecked ∧
      session'.state = session.state.reread session'.game.startingRoom
        session'.game.initialFlags := by
  unfold reopened start resumeSession at h
  cases hopen : openSession session.content session.unchecked with
  | error e => simp [hopen, bind, Except.bind] at h
  | ok opened =>
    by_cases hfits : session.state.toData.fits nestingLimit = true
    · simp [hopen, resumeState_serialize _ _ hfits, bind, Except.bind, pure, Except.pure] at h
      subst h
      exact ⟨rfl, rfl, rfl⟩
    · obtain ⟨e, he⟩ := resumeState_serialize_error opened.1 session.state (by simpa using hfits)
      simp [hopen, he, bind, Except.bind] at h

/-- A session whose content still opens to its game reopens, when its snapshot fits the reader's
limits, to its state read back. -/
theorem reopened_of_fits {session : Session} {s₀ : GameState}
    (hopen : openSession session.content session.unchecked = .ok (session.game, s₀))
    (hfits : session.state.toData.fits nestingLimit = true) :
    session.reopened = .ok { session with
      state := session.state.reread session.game.startingRoom session.game.initialFlags } := by
  simp [reopened, start, resumeSession, hopen, resumeState_serialize _ _ hfits, bind,
    Except.bind, pure, Except.pure]

end Session

end Adventure
