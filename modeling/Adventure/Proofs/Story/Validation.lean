import Adventure.Proofs.Story.Reading
import Adventure.Play.Session
import Adventure.Session.Basic

/-! Checking content gives a game exactly when the schema passes and the references between its
parts hold (`WellReferenced`). -/

namespace Adventure

namespace Value

/-- A text equals exactly itself. -/
theorem equals_text {t : String} {y : Value} : (Value.str t).equals y = true ↔ y = .str t := by
  cases y with
  | str s =>
    simp only [equals, beq_iff_eq, Value.str.injEq]
    exact eq_comm
  | _ => simp [equals, num?]

/-- A text is the same member as exactly itself. -/
theorem sameItem_text {t : String} {y : Value} : (Value.str t).sameItem y = true ↔ y = .str t := by
  rw [sameItem_str_left, equals_text]

/-- A text is among values exactly when it is one of them. -/
theorem memberOf_text {t : String} {ids : List Value} :
    (Value.str t).memberOf ids = true ↔ Value.str t ∈ ids := by
  simp [memberOf, equals_text]

end Value

namespace Story

variable {g : Game} {rooms : List Room} {roomIds itemIds : List Value}

/-- A text that is one of the values is among them. -/
theorem memberOf_of_mem {t : String} {ids : List Value} (h : Value.str t ∈ ids) :
    (Value.str t).memberOf ids = true :=
  Value.memberOf_text.mpr h

/-- A text that is none of the values is not among them. -/
theorem memberOf_of_not_mem {t : String} {ids : List Value} (h : Value.str t ∉ ids) :
    (Value.str t).memberOf ids = false :=
  Bool.eq_false_iff.mpr fun hm => h (Value.memberOf_text.mp hm)

/-- Looking a text up among ids asks whether it is among them. -/
theorem idAmong_text {t : String} {ids : List Value} :
    idAmong (.str t) ids = .ok ((Value.str t).memberOf ids) := rfl

/-- Appending a text unless it is there adds just that text. -/
theorem mem_appendNew_text {xs : List Value} {k x : Value} (hk : ∃ t, k = .str t) :
    x ∈ Play.appendNew xs k ↔ x ∈ xs ∨ x = k := by
  obtain ⟨t, rfl⟩ := hk
  unfold Play.appendNew
  split
  · rename_i hseen
    have hin := Value.memberOf_text.mp hseen
    constructor
    · exact .inl
    · rintro (h | rfl)
      exacts [h, hin]
  · simp

/-- A fold over items that collects their ids once each ends with the ids it started with and
those of the items. -/
theorem foldlM_itemIds {items : List Item} {step : List Value → Item → Except Fault (List Value)}
    (htexts : ∀ item ∈ items, ∃ t, item.id = .str t)
    (hstep : ∀ ids, ∀ item ∈ items, step ids item = .ok (Play.appendNew ids item.id)) :
    ∀ init, ∃ ids, items.foldlM step init = .ok ids ∧
      ∀ x, x ∈ ids ↔ x ∈ init ∨ x ∈ items.map (·.id) := by
  induction items with
  | nil => exact fun init => ⟨init, rfl, by simp⟩
  | cons item rest ih =>
    intro init
    obtain ⟨ids, hfold, hids⟩ := ih (fun i hi => htexts i (List.mem_cons_of_mem item hi))
      (fun ids i hi => hstep ids i (List.mem_cons_of_mem item hi)) _
    refine ⟨ids, by simp only [List.foldlM_cons, hstep init item List.mem_cons_self, bind,
      Except.bind]; exact hfold, fun x => ?_⟩
    rw [hids x, mem_appendNew_text (htexts item List.mem_cons_self), List.map_cons,
      List.mem_cons]
    tauto

/-- A fold over rooms that collects their ids once each, adding lines where an id was met
before: it ends with the ids it started with and those of the rooms, and adds no line exactly
when the rooms' ids are distinct and new. -/
theorem foldlM_roomIds {step : List Value × List String → Room → Except Fault (List Value × List String)}
    (htexts : ∀ room ∈ rooms, ∃ t, room.id = .str t)
    (hstep : ∀ acc, ∀ room ∈ rooms, ∃ extra,
      step acc room = .ok (Play.appendNew acc.1 room.id, acc.2 ++ extra) ∧
      (extra = [] ↔ room.id ∉ acc.1)) :
    ∀ init, ∃ ids issues, rooms.foldlM step init = .ok (ids, issues) ∧
      (∀ x, x ∈ ids ↔ x ∈ init.1 ∨ x ∈ rooms.map (·.id)) ∧
      (issues = [] ↔ init.2 = [] ∧ (rooms.map (·.id)).Nodup ∧ ∀ room ∈ rooms, room.id ∉ init.1) := by
  induction rooms with
  | nil => exact fun init => ⟨init.1, init.2, rfl, by simp, by simp⟩
  | cons room rest ih =>
    intro init
    have hroom := htexts room List.mem_cons_self
    obtain ⟨extra, hstepped, hextra⟩ := hstep init room List.mem_cons_self
    obtain ⟨ids, issues, hfold, hids, hissues⟩ :=
      ih (fun r hr => htexts r (List.mem_cons_of_mem room hr))
        (fun acc r hr => hstep acc r (List.mem_cons_of_mem room hr)) _
    refine ⟨ids, issues, by simp only [List.foldlM_cons, hstepped, bind, Except.bind]; exact hfold,
      fun x => ?_, ?_⟩
    · rw [hids x, mem_appendNew_text hroom, List.map_cons, List.mem_cons]
      tauto
    · -- the rest sees this room's id among the ids met, and the lines so far
      have hmem : ∀ x, x ∈ Play.appendNew init.1 room.id ↔ x ∈ init.1 ∨ x = room.id :=
        fun x => mem_appendNew_text hroom
      rw [hissues, List.append_eq_nil_iff, hextra, List.map_cons, List.nodup_cons,
        List.forall_mem_cons]
      simp only [hmem, not_or, List.mem_map, not_exists, not_and]
      constructor
      · rintro ⟨⟨h₁, h₂⟩, h₃, h₄⟩
        exact ⟨h₁, ⟨fun r hr hid => (h₄ r hr).2 hid, h₃⟩, h₂, fun r hr => (h₄ r hr).1⟩
      · rintro ⟨h₁, ⟨h₂, h₃⟩, h₄, h₅⟩
        exact ⟨⟨h₁, h₄⟩, h₃, fun r hr => ⟨h₅ r hr, fun hid => h₂ r hr hid⟩⟩

/-- The references of one room hold against the ids of rooms and items: every exit's target is a
room, and its required item an item when it names one; every item's location, when it has one,
is a room or an item. A required item or a location that is not truthy names nothing. -/
def RoomRefsHold (roomIds itemIds : List Value) (room : Room) : Prop :=
  (∀ ex ∈ room.exits, ex.target ∈ roomIds ∧
    (ex.requiredItem.truthy → ex.requiredItem ∈ itemIds)) ∧
  ∀ item ∈ room.items, item.location.truthy → item.location ∈ roomIds ∨ item.location ∈ itemIds

/-- The reference checks of a room whose references are texts finish, and find nothing exactly when
its references hold. -/
theorem roomReferenceIssues_ok {room : Room} (hrefs : room.TextRefs) :
    ∃ issues, roomReferenceIssues roomIds itemIds room = .ok issues ∧
      (issues = [] ↔ RoomRefsHold roomIds itemIds room) := by
  unfold roomReferenceIssues RoomRefsHold
  dsimp only
  refine forIn_forIn_appending (fun ex hex acc => ?_) (fun item hitem acc => ?_)
  · -- an exit adds a line for a target that is no room, and one for a required item that is
    -- no item
    obtain ⟨⟨t, ht⟩, hreq⟩ := hrefs.exits ex hex
    simp only [ht, idAmong_text, bind, Except.bind, pure, Except.pure]
    by_cases htarget : Value.str t ∈ roomIds
    · rcases hreq with hnull | ⟨u, hu⟩
      · simp [hnull, htarget, memberOf_of_mem htarget, Value.truthy]
      · by_cases hitem : Value.str u ∈ itemIds
        · simp [hu, htarget, hitem, memberOf_of_mem, idAmong_text]
        · by_cases hempty : u.isEmpty <;>
            simp [hu, htarget, hitem, hempty, memberOf_of_mem htarget, memberOf_of_not_mem hitem,
              idAmong_text, Value.truthy]
    · -- a target that is no room is a line, whatever follows
      rcases hreq with hnull | ⟨u, hu⟩
      · simp [hnull, htarget, memberOf_of_not_mem htarget, Value.truthy]
      · by_cases hitem : Value.str u ∈ itemIds
        · simp [hu, htarget, memberOf_of_not_mem htarget, memberOf_of_mem hitem, idAmong_text]
        · by_cases hempty : u.isEmpty <;>
            simp [hu, htarget, hempty, memberOf_of_not_mem htarget, memberOf_of_not_mem hitem,
              idAmong_text, Value.truthy]
  · -- an item adds a line for a location that is neither a room nor an item
    obtain ⟨-, hloc⟩ := hrefs.items item hitem
    rcases hloc with hnull | ⟨u, hu⟩
    · simp [hnull, Value.truthy, pure, Except.pure]
    · simp only [hu, idAmong_text, bind, Except.bind, pure, Except.pure]
      by_cases hempty : u.isEmpty
      · simp [hempty, Value.truthy]
      · by_cases hroom : Value.str u ∈ roomIds
        · simp [hempty, hroom, memberOf_of_mem hroom, Value.truthy]
        · by_cases hitm : Value.str u ∈ itemIds
          · simp [hempty, hroom, hitm, memberOf_of_not_mem hroom, memberOf_of_mem hitm,
              Value.truthy]
          · simp [hempty, hroom, hitm, memberOf_of_not_mem hroom, memberOf_of_not_mem hitm,
              Value.truthy]

/-- Collecting text room ids finishes with the ids and the duplicates, and there are none exactly
when the ids are distinct. -/
theorem roomIdsWithDuplicates_ok (htexts : ∀ room ∈ rooms, ∃ t, room.id = .str t) :
    ∃ ids dups, roomIdsWithDuplicates rooms = .ok (ids, dups) ∧
      (∀ x, x ∈ ids ↔ x ∈ rooms.map (·.id)) ∧ (dups = [] ↔ (rooms.map (·.id)).Nodup) := by
  unfold roomIdsWithDuplicates
  refine (foldlM_roomIds htexts ?_ ([], [])).imp fun ids h => h.imp fun dups h =>
    ⟨h.1, fun x => by simpa using h.2.1 x, by simpa using h.2.2⟩
  -- a room whose id was met adds a line, and its id is kept once
  rintro ⟨ids, issues⟩ room hroom
  obtain ⟨t, ht⟩ := htexts room hroom
  by_cases hseen : Value.str t ∈ ids
  · simp [ht, hseen, idAmong_text, memberOf_of_mem hseen, Play.appendNew, bind, Except.bind,
      pure, Except.pure]
  · simp [ht, hseen, idAmong_text, memberOf_of_not_mem hseen, Play.appendNew, bind, Except.bind,
      pure, Except.pure]

/-- The references between the parts of a game hold: room ids are distinct, the starting room is
a room, and the references of every room hold against the ids of the game's rooms and items. -/
structure WellReferenced (g : Game) : Prop where
  distinct : (g.rooms.map (·.id)).Nodup
  start : g.startingRoom ∈ g.rooms.map (·.id)
  rooms : ∀ room ∈ g.rooms, RoomRefsHold (g.rooms.map (·.id)) (g.allItems.map (·.id)) room

/-- The references of a room hold alike against two lists with the same members. -/
theorem roomRefsHold_congr {roomIds' itemIds' : List Value} {room : Room}
    (hrooms : ∀ x, x ∈ roomIds ↔ x ∈ roomIds') (hitems : ∀ x, x ∈ itemIds ↔ x ∈ itemIds') :
    RoomRefsHold roomIds itemIds room ↔ RoomRefsHold roomIds' itemIds' room := by
  simp only [RoomRefsHold, hrooms, hitems]

/-- The reference checks of a game whose references are texts go through, and find nothing
exactly when its references hold. -/
theorem referenceIssues_ok (hrefs : g.TextRefs) :
    ∃ issues, referenceIssues g = .ok issues ∧ (issues = [] ↔ WellReferenced g) := by
  have hroomTexts : ∀ room ∈ g.rooms, ∃ t, room.id = .str t := fun room h => (hrefs.rooms room h).id
  have hitemTexts : ∀ item ∈ g.allItems, ∃ t, item.id = .str t := by
    intro item h
    obtain ⟨room, hroom, hitem⟩ := List.mem_flatMap.mp h
    exact ((hrefs.rooms room hroom).items item hitem).id
  obtain ⟨roomIds, dups, hroomIds, hmemRooms, hdups⟩ := roomIdsWithDuplicates_ok hroomTexts
  obtain ⟨itemIds, hitemIds, hmemItems⟩ : ∃ ids, g.allItems.foldlM (fun ids item => do
      if ← idAmong item.id ids then pure ids else pure (ids ++ [item.id])) [] = .ok ids ∧
      ∀ x, x ∈ ids ↔ x ∈ g.allItems.map (·.id) := by
    refine (foldlM_itemIds hitemTexts ?_ []).imp fun ids h => ⟨h.1, fun x => by simpa using h.2 x⟩
    intro ids item hitem
    obtain ⟨t, ht⟩ := hitemTexts item hitem
    by_cases hseen : Value.str t ∈ ids
    · simp [ht, idAmong_text, memberOf_of_mem hseen, Play.appendNew, bind, Except.bind,
        pure, Except.pure]
    · simp [ht, idAmong_text, memberOf_of_not_mem hseen, Play.appendNew, bind, Except.bind,
        pure, Except.pure]
  obtain ⟨start, hstart⟩ := hrefs.startingRoom
  obtain ⟨rest, hrest, hrestEmpty⟩ := mapM_ok_all (f := roomReferenceIssues roomIds itemIds)
    fun room hroom => roomReferenceIssues_ok (hrefs.rooms room hroom)
  have hroomsHold : (∀ room ∈ g.rooms, RoomRefsHold roomIds itemIds room) ↔
      ∀ room ∈ g.rooms, RoomRefsHold (g.rooms.map (·.id)) (g.allItems.map (·.id)) room :=
    forall₂_congr fun room _ => roomRefsHold_congr hmemRooms hmemItems
  by_cases hstarts : Value.str start ∈ roomIds
  · refine ⟨dups ++ [] ++ rest.flatten, ?_, ?_⟩
    · simp only [referenceIssues, hroomIds, hitemIds]
      simp [hstart, idAmong_text, memberOf_of_mem hstarts, hrest, bind, Except.bind, pure,
        Except.pure]
    · rw [List.append_nil, List.append_eq_nil_iff, hdups, hrestEmpty, hroomsHold]
      constructor
      · rintro ⟨hnodup, hrooms⟩
        exact ⟨hnodup, hstart ▸ (hmemRooms _).mp hstarts, hrooms⟩
      · rintro ⟨hnodup, -, hrooms⟩
        exact ⟨hnodup, hrooms⟩
  · -- a starting room that is no room is a line
    refine ⟨dups ++ [s!"startingRoom \"{(Value.str start).display}\" does not exist"] ++
      rest.flatten, ?_, ?_⟩
    · simp only [referenceIssues, hroomIds, hitemIds]
      simp [hstart, idAmong_text, memberOf_of_not_mem hstarts, hrest, bind, Except.bind, pure,
        Except.pure]
    · simp only [List.append_eq_nil_iff, List.cons_ne_nil, and_false, false_and, false_iff]
      rintro ⟨-, hin, -⟩
      exact hstarts ((hmemRooms _).mpr (hstart ▸ hin))

end Story

namespace Play

open Story Schema

variable {d : Value}

/-- A schema check that fails stops the checking with its fault. -/
theorem validateGame_of_issues_error {e : Fault} (h : gameDocument.issues d = .error e) :
    validateGame d = .error e := by
  have hr : gameDocument.report d = .error e := by
    simp [Document.report, h, bind, Except.bind]
  simp [validateGame, hr, bind, Except.bind]

/-- A schema check that finds problems rejects the content as invalid. -/
theorem validateGame_of_issues {issues : List Issue} (h : gameDocument.issues d = .ok issues)
    (hne : issues ≠ []) : ∃ m, validateGame d = .error (.invalidGame m) := by
  cases hr : gameDocument.report d with
  | error e => rw [Document.report_fault hr] at h; cases h
  | ok lines =>
    obtain ⟨issues', h', hlen⟩ := Document.report_ok hr
    rw [h, Except.ok.injEq] at h'
    subst h'
    -- one line for each problem, so some line
    have hlines : lines.isEmpty = false := by
      cases lines with
      | nil => exact absurd (List.length_eq_zero_iff.mp hlen.symm) hne
      | cons => rfl
    exact ⟨"Invalid game definition: " ++ "; ".intercalate lines, by
      simp [validateGame, hr, hlines, bind, Except.bind, throw, throwThe, MonadExceptOf.throw,
        invalidGame]⟩

/-- Content that passes the schema is read, and checked for its references. -/
theorem validateGame_of_passes {g : Game} {problems : List String}
    (h : gameDocument.issues d = .ok []) (hg : readGame d = .ok g)
    (hp : referenceIssues g = .ok problems) :
    validateGame d =
      if problems.isEmpty then .ok g else .error (invalidGame ("; ".intercalate problems)) := by
  have hr : gameDocument.report d = .ok [] := by
    simp [Document.report, h, Document.sortByPath, bind, Except.bind, pure, Except.pure]
  by_cases hempty : problems.isEmpty <;>
    simp [validateGame, hr, hg, hp, hempty, bind, Except.bind, pure, Except.pure, throw, throwThe,
      MonadExceptOf.throw]

/-- Checked content gives a game exactly when it passes the schema and the game read from it is
well referenced. -/
theorem validateGame_ok_iff (hk : d.keysDistinct) (g : Game) :
    validateGame d = .ok g ↔
      gameDocument.issues d = .ok [] ∧ readGame d = .ok g ∧ WellReferenced g := by
  constructor
  · intro h
    cases hissues : gameDocument.issues d with
    | error e => rw [validateGame_of_issues_error hissues] at h; cases h
    | ok issues =>
      by_cases hnil : issues = []
      · subst hnil
        obtain ⟨g', hg', hrefs⟩ := readGame_ok hissues hk
        obtain ⟨problems, hp, hwell⟩ := referenceIssues_ok hrefs
        rw [validateGame_of_passes hissues hg' hp] at h
        split at h
        · rename_i hempty
          cases h
          exact ⟨rfl, hg', hwell.mp (List.isEmpty_iff.mp hempty)⟩
        · cases h
      · obtain ⟨m, hm⟩ := validateGame_of_issues hissues hnil
        rw [hm] at h
        cases h
  · rintro ⟨hissues, hg, hwell⟩
    obtain ⟨g', hg', hrefs⟩ := readGame_ok hissues hk
    rw [hg, Except.ok.injEq] at hg'
    subst hg'
    obtain ⟨problems, hp, hiff⟩ := referenceIssues_ok hrefs
    rw [validateGame_of_passes hissues hg hp, if_pos (List.isEmpty_iff.mpr (hiff.mpr hwell))]

/-- The faults checking content may end with: the content is invalid, or it nests deeper than
the schema check follows, which then fails with that fault. -/
def ContentFault (d : Value) (e : Fault) : Prop :=
  (∃ m, e = .invalidGame m) ∨ (e = .tooDeep ∧ gameDocument.issues d = .error .tooDeep)

/-- Checking content fails only with a fault of the content. -/
theorem validateGame_fault (hk : d.keysDistinct) {e : Fault} (h : validateGame d = .error e) :
    ContentFault d e := by
  cases hissues : gameDocument.issues d with
  | error e' =>
    rw [validateGame_of_issues_error hissues, Except.error.injEq] at h
    subst h
    obtain rfl := Document.issues_fault hissues
    exact .inr ⟨rfl, hissues⟩
  | ok issues =>
    by_cases hnil : issues = []
    · subst hnil
      obtain ⟨g, hg, hrefs⟩ := readGame_ok hissues hk
      obtain ⟨problems, hp, -⟩ := referenceIssues_ok hrefs
      rw [validateGame_of_passes hissues hg hp] at h
      split at h
      · cases h
      · cases h
        exact .inl ⟨_, rfl⟩
    · obtain ⟨m, hm⟩ := validateGame_of_issues hissues hnil
      rw [hm, Except.error.injEq] at h
      exact .inl ⟨m, h.symm⟩

/-- The ids a game read from content is opened by are all usable as keys. -/
theorem checkIds_ok {g : Game} (hrefs : g.TextRefs) : checkIds g = .ok () := by
  unfold checkIds
  refine forM_ok fun room hroom => ?_
  obtain ⟨⟨t, ht⟩, -, hitems⟩ := hrefs.rooms room hroom
  simp only [ht, Value.hashable, Bool.not_true, Bool.false_eq_true, if_false, bind, Except.bind,
    pure, Except.pure]
  exact forM_ok fun item hitem => by
    obtain ⟨⟨u, hu⟩, -⟩ := hitems item hitem
    simp [hu]

/-- A well-referenced game whose references are texts has its starting room. -/
theorem findRoom_start {g : Game} (hrefs : g.TextRefs) (hwell : WellReferenced g) :
    ∃ room, findRoom g g.startingRoom = .ok (some room) := by
  obtain ⟨t, ht⟩ := hrefs.startingRoom
  obtain ⟨room, hroom, hid⟩ := List.mem_map.mp hwell.start
  cases hfind : g.rooms.find? (·.id.equals g.startingRoom) with
  | none =>
    have := List.find?_eq_none.mp hfind room hroom
    rw [hid, ht, Value.equals_text] at this
    exact absurd rfl this
  | some found => exact ⟨found, by simp [findRoom, ht, Value.hashable, ← hfind]⟩

/-- Opening a session on checked content fails where checking does, and otherwise starts at the
starting room. -/
theorem openSession_checked (hk : d.keysDistinct) :
    openSession d false = (validateGame d).map fun g =>
      (g, GameState.initial g.startingRoom g.initialFlags) := by
  cases hv : validateGame d with
  | error e => simp [openSession, loadGame, hv, bind, Except.bind, Except.map]
  | ok g =>
    obtain ⟨hissues, hg, hwell⟩ := (validateGame_ok_iff hk g).mp hv
    obtain ⟨g', hg', hrefs⟩ := readGame_ok hissues hk
    rw [hg, Except.ok.injEq] at hg'
    subst hg'
    obtain ⟨room, hroom⟩ := findRoom_start hrefs hwell
    simp [openSession, loadGame, hv, checkIds_ok hrefs, hroom, bind, Except.bind, Except.map,
      pure, Except.pure]

/-- Opening a session on checked content fails only with a fault of the content. -/
theorem openSession_fault (hk : d.keysDistinct) {e : Fault} (h : openSession d false = .error e) :
    ContentFault d e := by
  rw [openSession_checked hk] at h
  cases hv : validateGame d with
  | error e' =>
    rw [hv] at h
    cases h
    exact validateGame_fault hk hv
  | ok g =>
    rw [hv] at h
    cases h

end Play

namespace Session

/-- A session opened checked, or fresh on content that is checked, fails as opening the game
checked does. -/
theorem start_error_checked {d : Value} {unchecked : Bool} {how : Opening} {e : Fault}
    (hhow : how = .checked ∨ how = .fresh ∧ unchecked = false)
    (h : start d unchecked how = .error e) : Play.openSession d false = .error e := by
  rcases hhow with rfl | ⟨rfl, rfl⟩ <;>
  · cases ho : Play.openSession d false <;>
      simp_all [start, bind, Except.bind, pure, Except.pure]

end Session

namespace Play

open Schema Story

/-- Checked content, for every value whose objects have fields of distinct names: it is read
without fault when it passes the game schema; it is accepted exactly when it passes the schema
and the game read from it is well referenced; and checking it, or opening a session on it
checked, fails only with a fault of the content. -/
theorem checked_content_contract (d : Value) (hk : d.keysDistinct) :
    (gameDocument.issues d = .ok [] → ∃ g, readGame d = .ok g) ∧
    (∀ g, validateGame d = .ok g ↔
      gameDocument.issues d = .ok [] ∧ readGame d = .ok g ∧ WellReferenced g) ∧
    (∀ e, validateGame d = .error e → ContentFault d e) ∧
    (∀ unchecked e, Session.start d unchecked .checked = .error e → ContentFault d e) ∧
    (∀ e, Session.start d false .fresh = .error e → ContentFault d e) :=
  ⟨fun hissues => (readGame_ok hissues hk).imp fun _ h => h.1,
    validateGame_ok_iff hk,
    fun _ h => validateGame_fault hk h,
    fun _ _ h => openSession_fault hk (Session.start_error_checked (.inl rfl) h),
    fun _ h => openSession_fault hk (Session.start_error_checked (.inr ⟨rfl, rfl⟩) h)⟩

/-- Content of a game of one room `a` with the given exits, and the given hints. -/
def oneRoomContent (hints exits : List Value) : Value := .obj [
  ("id", .str "g"), ("name", .str "G"), ("version", .str "1"),
  ("rooms", .arr [.obj [("id", .str "a"), ("name", .str "A"), ("description", .str "Room A."),
    ("items", .arr []), ("npcs", .arr []), ("exits", .arr exits)]]),
  ("startingRoom", .str "a"), ("initialFlags", .obj []), ("introText", .str "Hi."),
  ("winMessage", .str "Won."), ("hints", .arr hints)]

/-- Checked opening of a one-room game, read, validated and started, agrees with the contract. -/
theorem one_room_content_checked :
    (oneRoomContent [] []).keysDistinct ∧
    (gameDocument.issues (oneRoomContent [] []) = .ok [] →
      ∃ g, readGame (oneRoomContent [] []) = .ok g) ∧
    (∀ g, validateGame (oneRoomContent [] []) = .ok g ↔
      gameDocument.issues (oneRoomContent [] []) = .ok [] ∧
        readGame (oneRoomContent [] []) = .ok g ∧ WellReferenced g) ∧
    (∀ e, validateGame (oneRoomContent [] []) = .error e → ContentFault (oneRoomContent [] []) e) ∧
    (∀ unchecked e, Session.start (oneRoomContent [] []) unchecked .checked = .error e →
      ContentFault (oneRoomContent [] []) e) ∧
    (∀ e, Session.start (oneRoomContent [] []) false .fresh = .error e →
      ContentFault (oneRoomContent [] []) e) :=
  ⟨by decide, checked_content_contract (oneRoomContent [] []) (by decide)⟩

/-- A condition of `n` negations around a once gate. -/
def negations : Nat → Value
  | 0 => .obj [("once", .str "x")]
  | n + 1 => .obj [("not", negations n)]

/-- A hint given under one condition. -/
def gatedHint (gate : Value) : Value :=
  .obj [("id", .str "h"), ("text", .str "Hint."), ("when", .arr [gate])]

/-- A locked exit from `a` back to itself, opened by the item `key`. -/
def lockedLoop (key : String) : Value :=
  .obj [("targetRoomId", .str "a"), ("aliases", .arr [.str "loop"]), ("locked", .bool true),
    ("requiredItem", .str key)]

/-- Content the schema admits can still fail the check for its depth: four hundred negations
are deeper than the schema check follows. And an exit whose required item is the empty text is
accepted in a game with no items at all. -/
theorem negations_too_deep_and_empty_key_accepted :
    validateGame (oneRoomContent [gatedHint (negations 400)] []) = .error .tooDeep ∧
    ∃ g, validateGame (oneRoomContent [] [lockedLoop ""]) = .ok g ∧ g.allItems = [] ∧
      ∃ room ∈ g.rooms, ∃ ex ∈ room.exits, ex.requiredItem = .str "" := by
  -- both are decided by running the check, in the kernel
  have hdeep : (match validateGame (oneRoomContent [gatedHint (negations 400)] []) with
      | .error .tooDeep => true
      | _ => false) = true := by
    decide +kernel
  have hloop : (match validateGame (oneRoomContent [] [lockedLoop ""]) with
      | .ok g => g.allItems.isEmpty && g.rooms.any (·.exits.any ((Value.str "").equals ·.requiredItem))
      | .error _ => false) = true := by
    decide +kernel
  constructor
  · revert hdeep
    cases validateGame (oneRoomContent [gatedHint (negations 400)] []) with
    | ok g => intro h; cases h
    | error e => cases e <;> intro h <;> first | rfl | cases h
  · cases hv : validateGame (oneRoomContent [] [lockedLoop ""]) with
    | error e => rw [hv] at hloop; cases hloop
    | ok g =>
      rw [hv] at hloop
      simp only [Bool.and_eq_true, List.isEmpty_iff, List.any_eq_true, Value.equals_text] at hloop
      exact ⟨g, rfl, hloop.1, hloop.2⟩

end Play

end Adventure
