import Adventure.Proofs.Command.Verbs
import Adventure.Proofs.Session.Ending

/-! A typed command fails to read only at a line number of `talk` whose digits are not all decimal
or are too many; every other command fails only where its verb fails. -/

namespace Adventure.Command

open Adventure.Text Adventure.Number Adventure.Play Adventure.Story

/-- A word offered as a line number that the number reader refuses: every character of it is a
digit, and one of them is no decimal digit, or there are more than `digitLimit` of them. -/
def UnreadableNumber (w : String) : Prop :=
  w.toList.all isDigit = true ∧
    ((∃ c ∈ w.toList, decimalValue? c = none) ∨ digitLimit < w.length)

/-- The words of a `talk` command whose line number cannot be read: the last word comes after
at least one other and is an unreadable number. -/
def UnreadableLine (arg : String) : Prop :=
  ∃ last, (words arg).getLast? = some last ∧ 1 < (words arg).length ∧ UnreadableNumber last

/-- A typed command that talks to someone with a line number that cannot be read. -/
def UnreadableTalk (cmd : String) : Prop :=
  (verbAndArg cmd).1 = "talk" ∧ UnreadableLine (verbAndArg cmd).2

/-- A traversal that may give nothing gives nothing exactly when one of its steps does. -/
theorem mapM_eq_none_iff {α β : Type} {f : α → Option β} :
    ∀ {xs : List α}, xs.mapM f = none ↔ ∃ x ∈ xs, f x = none
  | [] => by simp
  | x :: xs => by
    cases hx : f x with
    | none => simp [List.mapM_cons, hx]
    | some y =>
      have ih := @mapM_eq_none_iff α β f xs
      cases hrest : xs.mapM f <;> simp_all [List.mapM_cons]

/-- The number reader refuses a word exactly when the word is empty, holds a character that is
no decimal digit, or is longer than `digitLimit`. -/
theorem readDecimalNat_eq_none_iff (w : String) :
    readDecimalNat w = none ↔
      w.toList = [] ∨ (∃ c ∈ w.toList, decimalValue? c = none) ∨ digitLimit < w.length := by
  unfold readDecimalNat
  dsimp only
  rw [← String.length_toList]
  by_cases hempty : w.toList = []
  · simp [hempty]
  by_cases hlong : digitLimit < w.toList.length
  · simp [hlong]
  have hcond : (w.toList.isEmpty || decide (w.toList.length > digitLimit)) = false := by
    simp [hempty, hlong]
  rw [hcond, if_neg Bool.false_ne_true, Option.map_eq_none_iff, mapM_eq_none_iff]
  simp [hempty, hlong]

/-- Words are never empty, so a word that is a line number is a number the reader refuses
exactly when it is unreadable. -/
theorem readDecimalNat_word_eq_none_iff {arg w : String} (hw : w ∈ words arg)
    (hdigits : w.toList.all isDigit = true) : readDecimalNat w = none ↔ UnreadableNumber w := by
  rw [readDecimalNat_eq_none_iff, UnreadableNumber]
  have hne : w.toList ≠ [] := (solid_of_mem_words hw).1
  simp [hne, hdigits]

/-- Reading the words of `talk` fails only with a bad value, at a line number that cannot be
read, and there always. -/
theorem parseTalk_error_iff (arg : String) (e : Fault) :
    parseTalk arg = .error e ↔ e = .badValue ∧ UnreadableLine arg := by
  unfold parseTalk UnreadableLine
  dsimp only
  cases hlast : (words arg).getLast? with
  | none => simp
  | some last =>
    have hmem : last ∈ words arg := List.mem_of_getLast? hlast
    have hne : last.isEmpty = false := isEmpty_of_toList_ne_nil (solid_of_mem_words hmem).1
    simp only [hne, Bool.not_false, Bool.and_true, Option.some.injEq, exists_eq_left']
    -- a line number is tried only after other words, when every character is a digit
    by_cases hnumbered : (decide ((words arg).length > 1) && last.toList.all isDigit) = true
    · simp only [Bool.and_eq_true, decide_eq_true_eq] at hnumbered
      rw [if_pos (by simp [hnumbered.1, hnumbered.2])]
      have hiff := readDecimalNat_word_eq_none_iff hmem hnumbered.2
      cases hread : readDecimalNat last with
      | none =>
        simp only [Except.error.injEq]
        exact ⟨fun h => ⟨h.symm, hnumbered.1, hiff.mp hread⟩, fun h => h.1.symm⟩
      | some n =>
        simp only [reduceCtorEq, false_iff, not_and]
        exact fun _ _ hnum => absurd (hiff.mpr hnum) (by simp [hread])
    · rw [if_neg (by simpa using hnumbered)]
      simp only [reduceCtorEq, false_iff, not_and]
      intro _ hlen hnum
      exact hnumbered (by simp [hlen, hnum.1])

/-- Words that cannot be read as a line are some words. -/
theorem UnreadableLine.ne_empty {arg : String} (h : UnreadableLine arg) : arg ≠ "" := by
  rintro rfl
  obtain ⟨last, hlast, -⟩ := h
  simp [words, wordsFrom] at hlast

/-- `talk` answers its usage without words, and otherwise an order read from its words. -/
theorem readOrder_talk (arg : String) :
    readOrder "talk" arg = if arg.isEmpty then .ok (.usage "talk") else do
      let (npc, option) ← parseTalk arg
      match option with
      | none => return .talk npc
      | some n => return .talkOption npc n := rfl

/-- Of all the verbs, only `talk` reads its words in a way that can fail, and it fails as
reading its words does. -/
theorem readOrder_error_iff (verb arg : String) (e : Fault) :
    readOrder verb arg = .error e ↔ verb = "talk" ∧ arg ≠ "" ∧ parseTalk arg = .error e := by
  constructor
  · intro h
    unfold readOrder at h
    -- every verb but `talk` answers an order, whatever its words
    by_cases hlook : (verb == "look") = true
    · rw [if_pos hlook] at h; cases h
    rw [if_neg hlook] at h
    by_cases hgo : (verb == "go") = true
    · rw [if_pos hgo] at h; cases h
    rw [if_neg hgo] at h
    by_cases husage : ((verb == "take" || verb == "examine") && arg.isEmpty) = true
    · rw [if_pos husage] at h; cases h
    rw [if_neg husage] at h
    by_cases htake : (verb == "take") = true
    · rw [if_pos htake] at h; cases h
    rw [if_neg htake] at h
    by_cases hexamine : (verb == "examine") = true
    · rw [if_pos hexamine] at h; cases h
    rw [if_neg hexamine] at h
    by_cases huse : (verb == "use") = true
    · rw [if_pos huse] at h
      by_cases hempty : arg.isEmpty = true
      · rw [if_pos hempty] at h; cases h
      · rw [if_neg hempty] at h
        -- the words of `use` are read without fault
        generalize parseUse arg = parts at h
        obtain ⟨item, target, number⟩ := parts
        cases h
    rw [if_neg huse] at h
    by_cases htalk : (verb == "talk") = true
    · rw [if_pos htalk] at h
      -- `talk` with words fails exactly as reading its words does
      have hwords : arg.isEmpty = false := by
        cases hb : arg.isEmpty with
        | false => rfl
        | true => rw [if_pos hb] at h; cases h
      rw [if_neg (by simp [hwords])] at h
      refine ⟨beq_iff_eq.mp htalk, fun h0 => by simp [h0] at hwords, ?_⟩
      cases hparse : parseTalk arg with
      | error e' =>
        rw [hparse] at h
        simpa [bind, Except.bind] using h
      | ok r =>
        obtain ⟨npc, option⟩ := r
        rw [hparse] at h
        cases option <;> cases h
    rw [if_neg htalk] at h
    by_cases hinv : (verb == "inventory" || verb == "inv") = true
    · rw [if_pos hinv] at h; cases h
    rw [if_neg hinv] at h
    by_cases hhint : (verb == "hint") = true
    · rw [if_pos hhint] at h; cases h
    rw [if_neg hhint] at h
    by_cases hstatus : (verb == "status") = true
    · rw [if_pos hstatus] at h; cases h
    rw [if_neg hstatus] at h
    by_cases hhelp : (verb == "help") = true
    · rw [if_pos hhelp] at h; cases h
    rw [if_neg hhelp] at h
    cases h
  · rintro ⟨rfl, harg, hparse⟩
    rw [readOrder_talk]
    simp [String.isEmpty_iff, harg, hparse, bind, Except.bind]
/-- Reading a typed command fails only with a bad value, at a `talk` command whose line number
cannot be read, and there always. -/
theorem read_error_iff (cmd : String) (e : Fault) :
    read cmd = .error e ↔ e = .badValue ∧ UnreadableTalk cmd := by
  unfold read UnreadableTalk
  rw [readOrder_error_iff, parseTalk_error_iff]
  constructor
  · rintro ⟨hverb, -, he, hline⟩
    exact ⟨he, hverb, hline⟩
  · rintro ⟨he, hverb, hline⟩
    exact ⟨hverb, hline.ne_empty, he, hline⟩

/-- A typed command fails before any verb runs exactly when it talks to someone with a line
number that cannot be read, and then it leaves the state as it was; every other command runs
the order read from it, so it fails only where the verb that order calls fails. -/
theorem dispatch_fails_early_iff (g : Game) (cmd : String) :
    (UnreadableTalk cmd → ∀ s, (dispatch g cmd).run s = .error .badValue s) ∧
      (¬ UnreadableTalk cmd →
        ∃ order, read cmd = .ok order ∧ ∀ s, (dispatch g cmd).run s = (order.run g).run s) := by
  constructor
  · intro hbad s
    have hread : read cmd = .error .badValue := (read_error_iff cmd .badValue).mpr ⟨rfl, hbad⟩
    rw [dispatch_run, hread]
  · intro hgood
    cases hread : read cmd with
    | error e => exact absurd ((read_error_iff cmd e).mp hread).2 hgood
    | ok order =>
      refine ⟨order, rfl, fun s => ?_⟩
      rw [dispatch_run, hread]

/-- `talk nell ²` cannot be read, since `²` is a digit and no decimal digit, so it fails before
any verb and leaves the state as it was. -/
theorem superscript_line_fails_early :
    UnreadableTalk "talk nell ²" ∧
      (dispatch default "talk nell ²").run default = .error .badValue default := by
  have hbad : UnreadableTalk "talk nell ²" :=
    ⟨by decide, "²", by decide, by decide, by decide,
      .inl ⟨'²', by simp, by decide⟩⟩
  exact ⟨hbad, (dispatch_fails_early_iff default "talk nell ²").1 hbad default⟩

end Adventure.Command
