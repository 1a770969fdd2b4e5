import Adventure.Proofs.Play.Exits

/-! Which exit `go` takes: the first whose alias the words match, else the first leading to the
first room the words name. -/

namespace Adventure.Play

open Adventure.Story Adventure.Text

/-- Whether some alias of an exit is `norm` once lowered. -/
def exitCalled (norm : String) (ex : Exit) : Bool :=
  ex.aliases.any fun a => lower a.display == norm

/-- Whether the id or the name of a room is `norm` once lowered. -/
def roomCalled (norm : String) (r : Room) : Bool :=
  lower r.id.display == norm || lower r.name.display == norm

/-- The first exit that satisfies `p`, with its place among the exits. -/
def firstExit (p : Exit → Bool) (exits : List Exit) : Option (Nat × Exit) :=
  (exits.zipIdx.find? (p ·.1)).map fun (e, i) => (i, e)

/-- Over candidates whose names are all texts, the name search is a plain search that never
fails, by induction on the candidates. -/
theorem firstNamed_texts {α : Type} {f : α → List Value} {accepts : String → Bool} :
    ∀ {xs : List α}, (∀ x ∈ xs, ∀ n ∈ f x, ∃ t, n = .str t) →
      firstNamed f accepts xs =
        .ok (xs.find? fun x => (f x).any fun n => accepts (lower n.display))
  | [], _ => rfl
  | x :: rest, htexts => by
    have ih : firstNamed f accepts rest = _ :=
      firstNamed_texts fun y hy => htexts y (List.mem_cons_of_mem x hy)
    rw [firstNamed, anyName_texts (htexts x List.mem_cons_self)]
    by_cases hx : (f x).any (fun n => accepts (lower n.display)) = true
    · simp [hx, bind, Except.bind, pure, Except.pure]
    · simp [hx, ih, bind, Except.bind]

/-- In a game whose room ids and names are texts, a room is found by words as the first room
whose id or name matches them, by induction on the rooms. -/
theorem roomNamed_texts (g : Game) (text : String)
    (htexts : ∀ r ∈ g.rooms, (∃ x, r.id = .str x) ∧ ∃ y, r.name = .str y) :
    roomNamed g text = .ok (g.rooms.find? (roomCalled (lower (trim text)))) := by
  unfold roomNamed
  simp only []
  generalize lower (trim text) = norm
  revert htexts
  -- the loop returns at the first room whose id, or else whose name, matches
  induction g.rooms with
  | nil => intro; rfl
  | cons r rest ih =>
    intro htexts
    obtain ⟨⟨x, hx⟩, ⟨y, hy⟩⟩ := htexts r List.mem_cons_self
    have hrest := ih fun r' hr' => htexts r' (List.mem_cons_of_mem r hr')
    simp only [List.forIn_cons]
    by_cases hid : lower x = norm
    · simp [hx, hid, lowerOf, textOf, roomCalled, Value.display, bind, Except.bind, pure,
        Except.pure, Functor.map, Except.map]
    · by_cases hname : lower y = norm
      · simp [hx, hy, hid, hname, lowerOf, textOf, roomCalled, Value.display, bind, Except.bind,
          pure, Except.pure, Functor.map, Except.map]
      · have hskip : (r :: rest).find? (roomCalled norm) = rest.find? (roomCalled norm) := by
          simp [roomCalled, hx, hy, Value.display, hid, hname]
        rw [hskip, ← hrest]
        simp [hx, hy, hid, hname, lowerOf, textOf, bind, Except.bind, pure, Except.pure,
          Functor.map, Except.map]

/-- What the exit lookup finds: the first exit named by an alias, else the first exit to the
first room named by the words. The room lookup trims and lowers the words once more. -/
theorem exitNamed_eq {g : Game} {s : GameState} {room : Room} (hroom : currentRoom g s = .ok room)
    (haliases : ∀ ex ∈ room.exits, ∀ a ∈ ex.aliases, ∃ x, a = .str x)
    (hrooms : ∀ r ∈ g.rooms, (∃ x, r.id = .str x) ∧ ∃ y, r.name = .str y) (t : String) :
    exitNamed g s (.str t) =
      .ok ((firstExit (exitCalled (lower (trim t))) room.exits).orElse fun _ =>
        (g.rooms.find? (roomCalled (lower (trim (lower (trim t)))))).bind fun target =>
          firstExit (·.target.equals target.id) room.exits) := by
  have hfirst := @firstNamed_texts _ (fun (e : Exit × Nat) => e.1.aliases) (· == lower (trim t))
    room.exits.zipIdx fun e he => haliases e.1 (List.fst_mem_of_mem_zipIdx he)
  simp only [exitNamed, hroom, textOf, hfirst, roomNamed_texts g _ hrooms, bind, Except.bind,
    pure, Except.pure]
  unfold firstExit exitCalled
  cases List.find? (fun x => x.1.aliases.any fun n => lower n.display == lower (trim t))
      room.exits.zipIdx with
  | some p => rfl
  | none => cases List.find? (roomCalled (lower (trim (lower (trim t))))) g.rooms <;> rfl

/-- The words name the first exit with a matching alias when there is one; otherwise the first
exit to the first room of the game whose id or name matches them; and nothing exactly when
neither gives an exit. -/
theorem exit_by_alias_else_first_room {g : Game} {s : GameState} {room : Room}
    (hroom : currentRoom g s = .ok room)
    (haliases : ∀ ex ∈ room.exits, ∀ a ∈ ex.aliases, ∃ x, a = .str x)
    (hrooms : ∀ r ∈ g.rooms, (∃ x, r.id = .str x) ∧ ∃ y, r.name = .str y) (t : String) :
    let u := lower (trim t)
    let toFirstRoom := (g.rooms.find? (roomCalled (lower (trim u)))).bind fun target =>
      firstExit (·.target.equals target.id) room.exits
    (∀ found, firstExit (exitCalled u) room.exits = some found →
      exitNamed g s (.str t) = .ok (some found)) ∧
    (firstExit (exitCalled u) room.exits = none → exitNamed g s (.str t) = .ok toFirstRoom) ∧
    (exitNamed g s (.str t) = .ok none ↔
      firstExit (exitCalled u) room.exits = none ∧ toFirstRoom = none) := by
  intro u toFirstRoom
  rw [exitNamed_eq hroom haliases hrooms t]
  cases firstExit (exitCalled u) room.exits with
  | some found => simp
  | none => simp [toFirstRoom, u]

/-- Three rooms: `a`, whose one exit leads east to `c`, and two rooms named Hall, `b` declared
before `c`. -/
def twinHalls : Game :=
  let east : Exit := { (default : Exit) with target := .str "c", aliases := [.str "east"] }
  let start : Room :=
    { (default : Room) with id := .str "a", name := .str "A", description := .plain "Room A.",
                            exits := [east] }
  let hall (id : String) : Room :=
    { (default : Room) with id := .str id, name := .str "Hall", description := .plain "A hall." }
  { (default : Game) with rooms := [start, hall "b", hall "c"], startingRoom := .str "a" }

/-- From `a`, whose exit leads to a room named Hall, the words `hall` name no exit: they resolve
to the other Hall. -/
theorem exit_to_second_hall_unnamed :
    exitNamed twinHalls (GameState.initial (.str "a") .empty) (.str "hall") = .ok none ∧
      ∃ ex ∈ (twinHalls.rooms.getD 0 default).exits, ∃ r ∈ twinHalls.rooms,
        ex.target.equals r.id = true ∧ roomCalled "hall" r = true := by
  have hroom : currentRoom twinHalls (GameState.initial (.str "a") .empty) =
      .ok (twinHalls.rooms.getD 0 default) := rfl
  rw [exitNamed_eq hroom (by simp [twinHalls]) (by simp [twinHalls])]
  refine ⟨congrArg Except.ok (Option.isNone_iff_eq_none.mp (by decide)), _,
    List.mem_singleton_self _, _,
    List.mem_cons_of_mem _ (List.mem_cons_of_mem _ List.mem_cons_self),
    by decide, by decide⟩

/-- In the twin halls, the words ` Hall ` name the first exit with that alias, else the first exit
to the first room called Hall, and name none when neither exists. -/
theorem hall_words_find_first_hall :
    currentRoom twinHalls (GameState.initial (.str "a") .empty) =
        .ok (twinHalls.rooms.getD 0 default) ∧
      (∀ ex ∈ (twinHalls.rooms.getD 0 default).exits, ∀ a ∈ ex.aliases, ∃ x, a = .str x) ∧
      (∀ r ∈ twinHalls.rooms, (∃ x, r.id = .str x) ∧ ∃ y, r.name = .str y) ∧
      let u := lower (trim " Hall ")
      let toFirstRoom := (twinHalls.rooms.find? (roomCalled (lower (trim u)))).bind fun target =>
        firstExit (·.target.equals target.id) (twinHalls.rooms.getD 0 default).exits
      (∀ found, firstExit (exitCalled u) (twinHalls.rooms.getD 0 default).exits = some found →
        exitNamed twinHalls (GameState.initial (.str "a") .empty) (.str " Hall ") =
          .ok (some found)) ∧
      (firstExit (exitCalled u) (twinHalls.rooms.getD 0 default).exits = none →
        exitNamed twinHalls (GameState.initial (.str "a") .empty) (.str " Hall ") =
          .ok toFirstRoom) ∧
      (exitNamed twinHalls (GameState.initial (.str "a") .empty) (.str " Hall ") = .ok none ↔
        firstExit (exitCalled u) (twinHalls.rooms.getD 0 default).exits = none ∧
          toFirstRoom = none) :=
  ⟨rfl, by simp [twinHalls], by simp [twinHalls],
    exit_by_alias_else_first_room rfl (by simp [twinHalls]) (by simp [twinHalls]) " Hall "⟩

end Adventure.Play
