import Mathlib
import Adventure.Proofs.Saves.Loading
import Adventure.Proofs.Value.Sorting
import Adventure.Proofs.Number.Order
import Adventure.Proofs.Play.Provenance

/-! The listing of saves has one summary for each file holding an object, newest first, when the
files fit the reader's limits and every timestamp is a number. -/

namespace Adventure.Saves

/-- Whether a file's text reads as a JSON object. -/
def holdsObject (file : SaveFile) : Bool :=
  match Json.readData file.text with
  | .ok (.obj _) => true
  | _ => false

section Traversal

variable {α β : Type} {f : α → Except Fault (Option β)}

/-- A traversal that finds a result in each element a test picks and passes over the others,
failing on none, finds one result per picked element, in order; by induction on the list. -/
theorem filterMapM_forall₂ (keep : α → Bool) :
    ∀ {xs : List α}, (∀ x ∈ xs, keep x = true → ∃ y, f x = .ok (some y)) →
      (∀ x ∈ xs, keep x = false → f x = .ok none) →
      ∃ ys, xs.filterMapM f = .ok ys ∧
        List.Forall₂ (fun y x => f x = .ok (some y)) ys (xs.filter keep)
  | [], _, _ => ⟨[], rfl, .nil⟩
  | x :: xs, hfound, hpassed => by
    obtain ⟨ys, hys, hpairs⟩ := filterMapM_forall₂ keep
      (fun y hy => hfound y (List.mem_cons_of_mem x hy))
      (fun y hy => hpassed y (List.mem_cons_of_mem x hy))
    rw [List.filterMapM_cons, List.filter_cons]
    cases hkeep : keep x with
    | true =>
      obtain ⟨y, hy⟩ := hfound x List.mem_cons_self hkeep
      exact ⟨y :: ys, by simp [hy, hys, bind, Except.bind, pure, Except.pure], .cons hy hpairs⟩
    | false =>
      have hnone := hpassed x List.mem_cons_self hkeep
      exact ⟨ys, by simp [hnone, hys, bind, Except.bind], hpairs⟩

end Traversal

section Summaries

variable {file : SaveFile}

/-- A file holding an object has a summary, naming the file's slot; its facts are read from
the object's metadata, or from an empty object when the metadata is none. -/
theorem summarize_obj {fields : List (String × Value)}
    (hdata : Json.readData file.text = .ok (.obj fields)) :
    ∃ s, summarize file = .ok (some s) ∧ s.slot = slotOf file.name := by
  cases hinfo : Value.field? infoKey (Value.obj fields) with
  | none => simp [summarize, hdata, hinfo, bind, Except.bind, pure, Except.pure, Value.getOr]
  | some info =>
    cases info <;> simp [summarize, hdata, hinfo, bind, Except.bind, pure, Except.pure, Value.getOr]

/-- A file holding an object has a summary. -/
theorem summarize_of_holdsObject (h : holdsObject file = true) :
    ∃ s, summarize file = .ok (some s) := by
  unfold holdsObject at h
  split at h
  · rename_i fields hdata
    obtain ⟨s, hs, -⟩ := summarize_obj hdata
    exact ⟨s, hs⟩
  · cases h

/-- A file within the reader's limits that holds no object is passed over. -/
theorem summarize_of_not_holdsObject (hread : ReadsWithinLimits file.text)
    (h : holdsObject file = false) : summarize file = .ok none := by
  cases hdata : Json.readData file.text with
  | error e =>
    obtain ⟨message, rfl⟩ := hread e hdata
    simp [summarize, hdata]
  | ok v =>
    cases v with
    | obj fields => simp [holdsObject, hdata] at h
    | _ => simp [summarize, hdata]

/-- A summary names the slot of its file. -/
theorem slot_of_summarize {s : Summary} (h : summarize file = .ok (some s)) :
    s.slot = slotOf file.name := by
  cases hdata : Json.readData file.text with
  | error e =>
    cases e <;> simp [summarize, hdata] at h
  | ok v =>
    cases v with
    | obj fields =>
      obtain ⟨s', hs', hslot⟩ := summarize_obj hdata
      rw [hs'] at h
      cases h
      exact hslot
    | _ => simp [summarize, hdata] at h

end Summaries

/-- Summaries whose timestamps are numbers other than not-a-number compare as their places on
the line of rationals do. -/
theorem comparesBy_time {found : List Summary} (h : ∀ s ∈ found, ∃ x, s.time.exact = some x) :
    ComparesBy (fun a b : Summary => a.time.lessThan b.time) (fun s => s.time.exact.getD ⊥)
      found := by
  intro a ha b hb
  obtain ⟨x, hx⟩ := h a ha
  obtain ⟨y, hy⟩ := h b hb
  simp only [Value.lessThan_exact hx hy, hx, hy, Option.getD_some]

/-- Listing the saves answers, when every file of the folder fitting `*.json` stays within the
reader's limits and every summary's timestamp is a number other than not-a-number: with one
summary for each file holding an object, naming the file's slot, newest first. -/
theorem summaries_newest_first {folder : Folder}
    (hread : ∀ f ∈ folder.matching "*.json", ReadsWithinLimits f.text)
    (htime : ∀ f ∈ folder.matching "*.json", ∀ s, summarize f = .ok (some s) →
      ∃ x, s.time.exact = some x) :
    ∃ list, summaries folder = .ok list ∧
      (∃ files, files.Perm ((folder.matching "*.json").filter holdsObject) ∧
        List.Forall₂ (fun s f => summarize f = .ok (some s) ∧ s.slot = slotOf f.name)
          list files) ∧
      list.Pairwise fun a b => ∀ x y, a.time.exact = some x → b.time.exact = some y → y ≤ x := by
  obtain ⟨found, hfound, hpairs⟩ :
      ∃ found, (folder.matching "*.json").filterMapM summarize = .ok found ∧
        List.Forall₂ (fun s f => summarize f = .ok (some s)) found
          ((folder.matching "*.json").filter holdsObject) :=
    filterMapM_forall₂ holdsObject (fun _ _ hobj => summarize_of_holdsObject hobj)
      (fun f hf hobj => summarize_of_not_holdsObject (hread f hf) hobj)
  have hexact : ∀ s ∈ found, ∃ x, s.time.exact = some x := by
    intro s hs
    obtain ⟨f, hf, hsum⟩ := Play.mem_filterMapM hfound hs
    exact htime f hf s hsum
  obtain ⟨list, hsort, hperm, hsorted⟩ := sortDescendingWith_spec (comparesBy_time hexact)
  -- the sort permutes the summaries, so it permutes the files they summarize alongside
  obtain ⟨files, hlist, hfiles⟩ := List.perm_comp_forall₂ hperm hpairs
  refine ⟨list, ?_, ⟨files, hfiles, hlist.imp fun _ _ hs => ⟨hs, slot_of_summarize hs⟩⟩, ?_⟩
  · simp only [summaries, hfound, hsort, bind, Except.bind]
  · refine hsorted.imp fun hba x y hx hy => ?_
    simpa only [hx, hy, Option.getD_some] using hba

/-- A file whose summary, when it has one, carries a timestamp that is a number other than
not-a-number; the test is computed. -/
theorem time_exact_of_all {file : SaveFile}
    (h : (summarize file).toOption.join.all (fun s => s.time.exact.isSome) = true) :
    ∀ s, summarize file = .ok (some s) → ∃ x, s.time.exact = some x := by
  intro s hs
  rw [hs] at h
  exact Option.isSome_iff_exists.mp (by simpa [Except.toOption] using h)

/-- A folder with two saves of the slot `s`, stamped one second apart, and a file holding a
list. -/
def twoSavesAndList : Folder :=
  ⟨[⟨"s_1.json", "\x7b\"_save_metadata\": \x7b\"timestamp\": 1\x7d, \"turnCount\": 3\x7d", 1⟩,
    ⟨"s_2.json", "\x7b\"_save_metadata\": \x7b\"timestamp\": 2\x7d\x7d", 2⟩,
    ⟨"list.json", "[1]", 3⟩], 3⟩

/-- Two saves stamped a second apart are listed, the later first, and the file holding a list is
left out. -/
theorem two_saves_listed_newest_first :
    ∃ list, summaries twoSavesAndList = .ok list ∧
      (∃ files, files.Perm ((twoSavesAndList.matching "*.json").filter holdsObject) ∧
        List.Forall₂ (fun s f => summarize f = .ok (some s) ∧ s.slot = slotOf f.name)
          list files) ∧
      list.Pairwise fun a b => ∀ x y, a.time.exact = some x → b.time.exact = some y → y ≤ x := by
  refine summaries_newest_first (fun f hf => ?_) (fun f hf => ?_)
  all_goals
    have hmem := (List.mem_filter.mp hf).1
    simp only [twoSavesAndList, List.mem_cons, List.not_mem_nil, or_false] at hmem
  · rcases hmem with rfl | rfl | rfl <;> exact readsWithinLimits_of_isOk (by decide +kernel)
  · rcases hmem with rfl | rfl | rfl <;> exact time_exact_of_all (by decide +kernel)

end Adventure.Saves
