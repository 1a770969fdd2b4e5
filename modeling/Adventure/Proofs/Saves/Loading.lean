import Mathlib
import Adventure.Saves.Slots
import Adventure.Proofs.Schema.Passing
import Adventure.Proofs.Play.Reread
import Adventure.Proofs.Lighthouse.Game

/-! Loading a save of checked content fails only as a failed save, except for a path that is not a
text, a refused slot pattern, or a file beyond the reader's limits. -/

namespace Adventure.Saves

open Adventure.Schema Adventure.Play Adventure.Story

/-- A text that the reader reads, or refuses only as malformed: it stays within the reader's
limits on nesting and on the digits of an integer. -/
def ReadsWithinLimits (text : String) : Prop :=
  ∀ e, Json.readData text = .error e → ∃ message, e = .malformedData message

/-- Text that reads as data reads within the reader's limits. -/
theorem readsWithinLimits_of_isOk {text : String} (h : (Json.readData text).isOk = true) :
    ReadsWithinLimits text := by
  intro e he
  rw [he] at h
  cases h

/-- An answer that is a result or a failed save. -/
def OkOrSaveFailed {α : Type} (r : Except Fault α) : Prop :=
  (∃ a, r = .ok a) ∨ ∃ message, r = .error (.saveFailed message)

section Schemas

variable {doc : Document} {inner : Nat}

/-- Keywords that check no part of a value complete with room for their own check. -/
theorem completes_flat {ks : List Keyword} (hreach : keywordReach ≤ inner)
    (hflat : ∀ k ∈ ks, k.subs = []) : Completes doc (inner + 2) (.keywords ks) :=
  Completes.keywords hreach fun k hk s hs => by simp [hflat k hk] at hs

/-- Keywords whose parts are checked by keywords that check no part of a value complete with
room for both levels. -/
theorem completes_shallow {ks : List Keyword} (hreach : keywordReach + 2 ≤ inner)
    (hshallow : ∀ k ∈ ks, ∀ s ∈ k.subs, ∃ ks', s = .keywords ks' ∧ ∀ k' ∈ ks', k'.subs = []) :
    Completes doc (inner + 2) (.keywords ks) := by
  obtain ⟨inner, rfl⟩ : ∃ inner', inner = inner' + 2 := ⟨inner - 2, by omega⟩
  refine Completes.keywords (by omega) fun k hk s hs => ?_
  obtain ⟨ks', rfl, hflat⟩ := hshallow k hk s hs
  exact completes_flat (by omega) hflat

/-- An object schema completes when the schemas of its declared fields complete with two steps
less of room. -/
theorem completes_object {props : List (String × Shape)} (hreach : keywordReach ≤ inner)
    (hprops : ∀ p ∈ props, Completes doc inner p.2) :
    Completes doc (inner + 2) (kw [.type [.object], .properties props]) := by
  refine Completes.keywords hreach fun k hk s hs => ?_
  simp only [List.mem_cons, List.not_mem_nil, or_false] at hk
  rcases hk with rfl | rfl
  · simp [Keyword.subs] at hs
  · obtain ⟨p, hp, rfl⟩ := List.mem_map.mp hs
    exact hprops p hp

/-- The facts of a save are checked without running out of room. -/
theorem saveInfoDocument_completes (v : Value) :
    ∃ issues, saveInfoDocument.issues v = .ok issues := by
  have hroot : Completes saveInfoDocument (989 + 2) saveInfoDocument.root := by
    refine completes_object (by decide) fun p hp => ?_
    simp only [List.mem_cons, List.not_mem_nil, or_false] at hp
    rcases hp with rfl | rfl <;> exact completes_flat (by decide) (by simp [Keyword.subs])
  exact hroot v []

/-- A snapshot is checked without running out of room. -/
theorem stateDocument_completes (v : Value) :
    ∃ issues, stateDocument.issues v = .ok issues := by
  have hroot : Completes stateDocument (989 + 2) stateDocument.root := by
    refine completes_object (by decide) fun p hp => ?_
    simp only [List.mem_cons, List.not_mem_nil, or_false] at hp
    -- each field holds a scalar, a list of scalars or the flags, an object of scalars
    rcases hp with rfl | rfl | rfl | rfl | rfl | rfl | rfl | rfl | rfl <;>
      exact completes_shallow (by decide) (by simp [Keyword.subs, ofKind, scalarSchema, kw])
  exact hroot v []

/-- A check that completes picks a worst problem, and picks none only when it finds none. -/
theorem worstIssue_of_completes {v : Value} (h : ∃ issues, doc.issues v = .ok issues) :
    (∃ issue, doc.worstIssue v = .ok (some issue)) ∨
      (doc.worstIssue v = .ok none ∧ doc.issues v = .ok []) := by
  obtain ⟨issues, h⟩ := h
  cases issues with
  | nil => exact .inr ⟨by simp [Document.worstIssue, h, bind, Except.bind, pure, Except.pure], h⟩
  | cons first rest =>
    refine .inl
      ⟨rest.foldl (fun best i => if Document.explainsBetter i best then i else best) first, ?_⟩
    simp [Document.worstIssue, h, bind, Except.bind, pure, Except.pure]

/-- A value that passes an object schema without required fields is an object whose declared
fields pass their schemas. -/
theorem Passes.object {props : List (String × Shape)} {v : Value}
    (h : Passes doc (.keywords [.type [.object], .properties props]) v) :
    ∃ fields, v = .obj fields ∧ Record doc [] props fields := by
  obtain ⟨fields, rfl⟩ :=
    Kind.admits_object.mp (by simpa using (h.keyword List.mem_cons_self).admits)
  exact ⟨fields, rfl, fun n hn => absurd hn List.not_mem_nil,
    fun n s hp w hw => (h.keyword (by simp)).field hp hw⟩

end Schemas

section Records

variable {doc : Document} {w : Value}

/-- A value of a kind that holds integers is a number. -/
theorem num?_of_admits_integer (h : Kind.integer.admits w = true) : ∃ n, w.num? = some n := by
  cases w <;> simp_all [Kind.admits, Value.num?]

/-- The facts of a save that pass their schema tell a format version that is a number. -/
theorem version_of_passes {info : Value}
    (h : Passes saveInfoDocument saveInfoDocument.root info) :
    ∃ version n, info.getOr "version" (.int 0) = .ok version ∧ version.num? = some n := by
  obtain ⟨fields, rfl, hr⟩ := Passes.object h
  obtain ⟨version, hversion, hdefault | hpasses⟩ :=
    hr.getOr (n := "version") (s := kw [.type [.integer], .minimum 0]) (by simp) (.int 0)
  · exact ⟨version, _, hversion, by rw [hdefault]; rfl⟩
  · have hadmits := (hpasses.keyword List.mem_cons_self).admits
    simp only [List.any_cons, List.any_nil, Bool.or_false] at hadmits
    obtain ⟨n, hn⟩ := num?_of_admits_integer hadmits
    exact ⟨version, n, hversion, hn⟩

/-- A list field that is missing or a list is read as items. -/
theorem listField_of_passes {s : Shape} (h : w = .null ∨ Passes doc (listOf s) w) :
    ∃ items, listField w = .ok items := by
  rcases h with rfl | h
  · exact ⟨[], rfl⟩
  · obtain ⟨items, rfl, -⟩ := h.listOf
    exact ⟨items, listField_arr items⟩

/-- A list field of a record, missing or passing its schema, is read as items. -/
theorem listItems_of_record {names : List String} {props : List (String × Shape)}
    {fields : List (String × Value)} (hr : Record doc names props fields) {n : String}
    {s : Shape} (hp : (n, listOf s) ∈ props) :
    ∃ w items, (Value.obj fields).getOr n .null = .ok w ∧ listField w = .ok items := by
  obtain ⟨w, hw, hpasses⟩ := hr.getOr hp .null
  obtain ⟨items, hitems⟩ := listField_of_passes hpasses
  exact ⟨w, items, hw, hitems⟩

/-- Flags that are missing or an object are set over any flags. -/
theorem update_of_passes
    (h : w = .null ∨ Passes doc (kw [.type [.object], .additionalProperties scalarSchema]) w)
    (fl : Flags) : ∃ fl', fl.update (fieldOr w (.obj [])) = .ok fl' := by
  rcases h with rfl | h
  · exact ⟨fl, rfl⟩
  · obtain ⟨fields, rfl⟩ :=
      Kind.admits_object.mp (by simpa using (h.keyword List.mem_cons_self).admits)
    exact ⟨_, update_fieldOr_obj fl fields⟩

/-- A field of an object is read, or its default. -/
theorem getOr_obj (fields : List (String × Value)) (key : String) (d : Value) :
    ∃ w, (Value.obj fields).getOr key d = .ok w :=
  ⟨_, rfl⟩

/-- A snapshot that passes its schema describes a state. -/
theorem ofValue_of_passes {snapshot : Value}
    (h : Passes stateDocument stateDocument.root snapshot) (start : Value) (initialFlags : Flags) :
    ∃ s, GameState.ofValue snapshot start initialFlags = .ok s := by
  obtain ⟨fields, rfl, hr⟩ := Passes.object h
  obtain ⟨flags, hflags, hflags'⟩ :=
    hr.getOr (n := "flags") (s := kw [.type [.object], .additionalProperties scalarSchema])
      (by simp) .null
  obtain ⟨inventory, inventoryItems, hinventory, hinventoryItems⟩ :=
    listItems_of_record hr (n := "inventoryIds") (s := ofKind .string) (by simp)
  obtain ⟨taken, takenItems, htaken, htakenItems⟩ :=
    listItems_of_record hr (n := "takenItemIds") (s := ofKind .string) (by simp)
  obtain ⟨visited, visitedItems, hvisited, hvisitedItems⟩ :=
    listItems_of_record hr (n := "visitedRooms") (s := ofKind .string) (by simp)
  obtain ⟨once, onceItems, honce, honceItems⟩ :=
    listItems_of_record hr (n := "once") (s := ofKind .string) (by simp)
  obtain ⟨room, hroom⟩ := getOr_obj fields "currentRoomId" .null
  obtain ⟨ended, hended⟩ := getOr_obj fields "gameOver" .null
  obtain ⟨won, hwon⟩ := getOr_obj fields "won" .null
  obtain ⟨turns, hturns⟩ := getOr_obj fields "turnCount" .null
  obtain ⟨fl, hfl⟩ := update_of_passes hflags' initialFlags
  simp only [GameState.ofValue, hflags, hfl, hroom, hinventory, hinventoryItems, htaken,
    htakenItems, hvisited, hvisitedItems, hended, hwon, hturns, honce, honceItems, bind,
    Except.bind, pure, Except.pure, Except.ok.injEq, exists_eq']

end Records

section Restoring

variable {content : Value} {g : Game} {s₀ : GameState}

/-- A snapshot that passes its schema resumes a session of content that opens. -/
theorem start_resumed (hopen : openSession content false = .ok (g, s₀)) {snapshot : Value}
    (h : Passes stateDocument stateDocument.root snapshot) :
    ∃ session, Session.start content false (.resumed snapshot) = .ok session := by
  obtain ⟨fields, rfl, -⟩ := Passes.object h
  obtain ⟨state, hstate⟩ := ofValue_of_passes h g.startingRoom g.initialFlags
  simp [Session.start, resumeSession, hopen, resumeState, snapshotData, hstate, bind, Except.bind,
    pure, Except.pure]

/-- Restoring a record answers with a session or a failed save, for content that opens. -/
theorem restore_okOrSaveFailed (hopen : openSession content false = .ok (g, s₀))
    (unchecked : Bool) (fields : List (String × Value)) :
    OkOrSaveFailed (restore content unchecked (.obj fields)) := by
  obtain ⟨info, hinfo⟩ := getOr_obj fields infoKey (.obj [])
  rcases worstIssue_of_completes (saveInfoDocument_completes info) with
    ⟨issue, hissue⟩ | ⟨hnone, hclean⟩
  -- the facts of the save fail their schema
  · right
    simp [restore, hinfo, hissue, bind, Except.bind, pure, Except.pure, throw, throwThe,
      MonadExceptOf.throw]
  · obtain ⟨version, n, hversion, hn⟩ := version_of_passes (Document.passes_root hclean)
    simp only [restore, hinfo, hnone, hversion, hn, bind, Except.bind, pure, Except.pure]
    by_cases hnewer : (Num.int formatVersion).lt n = true
    -- a newer format is refused
    · right
      simp [hnewer, throw, throwThe, MonadExceptOf.throw]
    · rcases worstIssue_of_completes
          (stateDocument_completes (.obj (fields.filter (·.1 != infoKey)))) with
        ⟨issue, hissue⟩ | ⟨hnone', hclean'⟩
      -- the snapshot fails its schema
      · right
        simp [hnewer, hissue, throw, throwThe, MonadExceptOf.throw]
      -- it passes, and describes a state of the content
      · obtain ⟨session, hsession⟩ := start_resumed hopen (Document.passes_root hclean')
        left
        simp [hnewer, hnone', hsession]

/-- Restoring a file within the reader's limits answers with a session or a failed save, for
content that opens. -/
theorem restoreFile_okOrSaveFailed (hopen : openSession content false = .ok (g, s₀))
    (unchecked : Bool) {file : SaveFile} (hread : ReadsWithinLimits file.text) (path : String) :
    OkOrSaveFailed (restoreFile content unchecked file path) := by
  cases hdata : Json.readData file.text with
  | error e =>
    -- a text that is not data is a failed save; the reader refuses no other text
    obtain ⟨message, rfl⟩ := hread e hdata
    right
    simp [restoreFile, hdata]
  | ok v =>
    cases v with
    | obj fields =>
      simp only [restoreFile, hdata]
      exact restore_okOrSaveFailed hopen unchecked fields
    | _ =>
      right
      simp [restoreFile, hdata]

end Restoring

section Finding

variable {folder : Folder}

/-- One more name of a path leads to a file only from that file or to a file the folder finds. -/
theorem stepPlace_file {p : Place × Bool} {name : String} {f : SaveFile}
    (h : (stepPlace folder p name).1 = .file f) : p.1 = .file f ∨ folder.find? name = some f := by
  obtain ⟨place, atTop⟩ := p
  cases place with
  | directory =>
    simp only [stepPlace] at h
    split at h
    · cases h
    split at h
    · split at h <;> cases h
    split at h
    · split at h <;> cases h
    split at h
    · rename_i hfind
      cases h
      exact .inr hfind
    · cases h
  | file g =>
    simp only [stepPlace] at h
    split at h
    · exact .inl h
    · cases h
  | missing => exact .inl h
  | notDirectory => exact .inl h

/-- Walking the names of a path from a place that is no file of the folder, or is one, ends at
such a place. -/
theorem foldl_stepPlace_file (names : List String) {p : Place × Bool}
    (hp : ∀ f, p.1 = .file f → f ∈ folder.files) :
    ∀ f, (names.foldl (stepPlace folder) p).1 = .file f → f ∈ folder.files := by
  induction names generalizing p with
  | nil => exact hp
  | cons name rest ih =>
    apply ih
    intro f hf
    rcases stepPlace_file hf with hf | hf
    · exact hp f hf
    · exact List.mem_of_find?_eq_some hf

/-- A path leads only to files of the folder. -/
theorem mem_of_locate {path : String} {f : SaveFile} (h : folder.locate path = .file f) :
    f ∈ folder.files := by
  unfold Folder.locate at h
  split at h
  · cases h
  · exact foldl_stepPlace_file _ (fun _ hf => by cases hf) f h

/-- A slot whose pattern is accepted has saves, all of them files of the folder. -/
theorem slotFiles_ok {slot : Value} (h : checkPattern (slot.display ++ "_*.json") = .ok ()) :
    ∃ files, folder.slotFiles slot = .ok files ∧ files ⊆ folder.files := by
  simp only [Folder.slotFiles, h, bind, Except.bind]
  split
  · refine ⟨_, rfl, fun f hf => ?_⟩
    exact (List.mem_filter.mp (List.mem_filter.mp hf).1).1
  · exact ⟨[], rfl, List.nil_subset _⟩

/-- The newest of some files is one of them. -/
theorem foldl_newer_mem (f : SaveFile) (rest : List SaveFile) : rest.foldl newer f ∈ f :: rest := by
  induction rest generalizing f with
  | nil => exact List.mem_singleton_self f
  | cons g rest ih =>
    rcases List.mem_cons.mp (ih (newer f g)) with hbest | hbest
    · rw [List.foldl_cons, hbest]
      unfold newer
      split <;> simp
    · exact List.mem_cons_of_mem _ (List.mem_cons_of_mem _ hbest)

end Finding

section Runs

variable {content : Value} {unchecked : Bool} {slot : Value} {folder : Folder}

/-- The run on a folder of restoring a file: the session or the fault, the folder as it was. -/
def restoredIn (r : Except Fault Session) (folder : Folder) : EStateM.Result Fault Folder Session :=
  match r with
  | .ok session => .ok session folder
  | .error e => .error e folder

/-- A restore that gives a session or a save failure answers in the folder with the same. -/
theorem restoredIn_okOrSaveFailed {r : Except Fault Session} (h : OkOrSaveFailed r) :
    (∃ session, restoredIn r folder = .ok session folder) ∨
      ∃ message, restoredIn r folder = .error (.saveFailed message) folder := by
  rcases h with ⟨session, rfl⟩ | ⟨message, rfl⟩
  · exact .inl ⟨session, rfl⟩
  · exact .inr ⟨message, rfl⟩

/-- Loading by a path that leads to a file restores that file. -/
theorem load_run_path {path : String} {f : SaveFile} (hf : (Value.str path).truthy = true)
    (hplace : folder.locate path = .file f) :
    (load content unchecked slot (.str path)).run folder =
      restoredIn (restoreFile content unchecked f (pathText path)) folder := by
  cases hr : restoreFile content unchecked f (pathText path) <;>
    simp [load, hf, hplace, hr, restoredIn, EStateM.run, bind, EStateM.bind, get, getThe,
      MonadStateOf.get, EStateM.get, pure, EStateM.pure, throw, throwThe, MonadExceptOf.throw,
      EStateM.throw]

/-- Loading by a path that leads to no file, the folder itself or nothing, fails as a failed
save. -/
theorem load_run_unlocated {path : String} (hf : (Value.str path).truthy = true)
    (hplace : ∀ f, folder.locate path ≠ .file f) :
    ∃ message, (load content unchecked slot (.str path)).run folder =
      .error (.saveFailed message) folder := by
  cases hp : folder.locate path with
  | file f => exact absurd hp (hplace f)
  | _ =>
    simp [load, hf, hp, EStateM.run, bind, EStateM.bind, get, getThe, MonadStateOf.get,
      EStateM.get, throw, throwThe, MonadExceptOf.throw, EStateM.throw]

/-- Loading by a slot, with no path given, restores the newest save of the slot. -/
theorem load_run_slot {file : Value} {f : SaveFile} {rest : List SaveFile}
    (hf : file.truthy = false) (hs : slot.truthy = true)
    (hfound : folder.slotFiles slot = .ok (f :: rest)) :
    (load content unchecked slot file).run folder =
      restoredIn (restoreFile content unchecked (rest.foldl newer f)
        (filePath (rest.foldl newer f).name)) folder := by
  cases hr : restoreFile content unchecked (rest.foldl newer f) (filePath (rest.foldl newer f).name) <;>
    simp [load, hf, hs, hfound, hr, restoredIn, EStateM.run, bind, EStateM.bind, get, getThe,
      MonadStateOf.get, EStateM.get, pure, EStateM.pure, throw, throwThe, MonadExceptOf.throw,
      EStateM.throw]

/-- Loading by a slot that has no saves fails as a failed save. -/
theorem load_run_emptySlot {file : Value} (hf : file.truthy = false) (hs : slot.truthy = true)
    (hfound : folder.slotFiles slot = .ok []) :
    (load content unchecked slot file).run folder =
      .error (.saveFailed s!"No saves found for slot '{slot.display}'") folder := by
  simp [load, hf, hs, hfound, EStateM.run, bind, EStateM.bind, get, getThe, MonadStateOf.get,
    EStateM.get, throw, throwThe, MonadExceptOf.throw, EStateM.throw]

/-- Loading with neither a path nor a slot fails as a failed save. -/
theorem load_run_unnamed {file : Value} (hf : file.truthy = false) (hs : slot.truthy = false) :
    (load content unchecked slot file).run folder =
      .error (.saveFailed "Either slot_name or filepath is required") folder := by
  simp [load, hf, hs, EStateM.run, bind, EStateM.bind, get, getThe, MonadStateOf.get,
    EStateM.get, throw, throwThe, MonadExceptOf.throw, EStateM.throw]

end Runs

/-- Loading a save, by path or by slot, leaves the folder as it was and either resumes a
session or fails as a failed save, when the content opens as a checked session, a path given is
a text, the file pattern of a slot that is used is accepted, and the folder's files stay within
the reader's limits. -/
theorem load_fails_only_as_failed_save {content : Value} {g : Game} {s₀ : GameState}
    (hopen : openSession content false = .ok (g, s₀)) (unchecked : Bool) {slot file : Value}
    (hfile : file.truthy = true → ∃ path, file = .str path)
    (hslot : file.truthy = false → slot.truthy = true →
      checkPattern (slot.display ++ "_*.json") = .ok ())
    {folder : Folder} (hfiles : ∀ f ∈ folder.files, ReadsWithinLimits f.text) :
    (∃ session, (load content unchecked slot file).run folder = .ok session folder) ∨
      ∃ message,
        (load content unchecked slot file).run folder = .error (.saveFailed message) folder := by
  by_cases hf : file.truthy = true
  · obtain ⟨path, rfl⟩ := hfile hf
    cases hplace : folder.locate path with
    | file f =>
      rw [load_run_path hf hplace]
      exact restoredIn_okOrSaveFailed
        (restoreFile_okOrSaveFailed hopen unchecked (hfiles f (mem_of_locate hplace)) _)
    | _ => exact .inr (load_run_unlocated hf fun f h => by rw [hplace] at h; cases h)
  · have hf' : file.truthy = false := by simpa using hf
    by_cases hs : slot.truthy = true
    · obtain ⟨files, hfound, hsub⟩ :
          ∃ files, folder.slotFiles slot = .ok files ∧ files ⊆ folder.files :=
        slotFiles_ok (hslot hf' hs)
      cases files with
      | nil => exact .inr ⟨_, load_run_emptySlot hf' hs hfound⟩
      | cons f rest =>
        -- the newest save of the slot is the one restored
        rw [load_run_slot hf' hs hfound]
        exact restoredIn_okOrSaveFailed
          (restoreFile_okOrSaveFailed hopen unchecked (hfiles _ (hsub (foldl_newer_mem f rest))) _)
    · exact .inr ⟨_, load_run_unnamed hf' (by simpa using hs)⟩

/-- A save of the lighthouse, asked for by its path, resumes or fails as a failed save. -/
theorem lighthouse_load_by_path :
    (∃ session, (load Shelf.Lighthouse.content false .null (.str "saves/keep_1.json")).run
        ⟨[⟨"keep_1.json", "\x7b\x7d", 1⟩], 1⟩ = .ok session ⟨[⟨"keep_1.json", "\x7b\x7d", 1⟩], 1⟩) ∨
      ∃ message, (load Shelf.Lighthouse.content false .null (.str "saves/keep_1.json")).run
        ⟨[⟨"keep_1.json", "\x7b\x7d", 1⟩], 1⟩ =
          .error (.saveFailed message) ⟨[⟨"keep_1.json", "\x7b\x7d", 1⟩], 1⟩ :=
  load_fails_only_as_failed_save
    (by
      rw [openSession_checked Lighthouse.keysDistinct_content, Lighthouse.validateGame_content]
      rfl)
    false (fun _ => ⟨_, rfl⟩) (fun h => by cases h)
    (fun f hf => by
      rw [List.mem_singleton.mp hf]
      exact readsWithinLimits_of_isOk (by decide +kernel))

end Adventure.Saves
