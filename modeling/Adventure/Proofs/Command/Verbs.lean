import Adventure.Proofs.Command.Talk
import Adventure.Proofs.Text.Case

/-! Reading a verb in lower case followed by words with no blank at either end, and the words of
`use` with `on`. -/

namespace Adventure.Command

open Adventure.Text Adventure.Number

/-- A verb with no space in it, a space and the rest are split into the verb and the rest. -/
theorem splitAtSpace_word {v : List Char} (hv : ' ' ∉ v) (r : List Char) :
    splitAtSpace (v ++ ' ' :: r) = (v, r) := by
  unfold splitAtSpace
  rw [List.splitOn_append_cons_self_of_not_mem hv]
  simp

/-- A word in lower case, a space and words with no blank at either end are read as the verb
and its words. -/
theorem verbAndArg_word {v r : String} (hv : Solid v.toList) (hlow : lowercased v = true)
    (hr : r.toList ≠ []) (hends : Unpadded r.toList) : verbAndArg (v ++ " " ++ r) = (v, r) := by
  have hcmd : (v ++ " " ++ r).toList = v.toList ++ ' ' :: r.toList := by
    simp [String.toList_append]
  have hspace : ' ' ∉ v.toList := fun h => absurd (hv.2 ' ' h) (by decide)
  have hhead : (v ++ " ").toList.head? = v.toList.head? := by
    rw [String.toList_append]
    exact List.head?_append_of_ne_nil _ hv.1
  have hunpadded : Unpadded (v ++ " " ++ r).toList := by
    rw [String.toList_append]
    exact Unpadded.append (by simp [hv.1]) hr
      (fun c hc => hv.2 c (List.mem_of_mem_head? (hhead ▸ hc))) hends.2
  unfold verbAndArg
  rw [trimChars_unpadded hunpadded, hcmd, splitAtSpace_word hspace]
  simp only [String.ofList_toList, lower_eq_self hlow, trim, trimChars_unpadded hends]

/-- A word none of whose characters is blank, checked character by character. -/
theorem solid_of_all {w : List Char} (hne : w ≠ []) (h : (w.all fun c => !isBlank c) = true) :
    Solid w :=
  ⟨hne, fun c hc => by simpa using List.all_eq_true.mp h c hc⟩

/-- Words whose first and last characters are not blank. -/
theorem unpadded_of_ends {cs : List Char}
    (h : ((cs.head?.all fun c => !isBlank c) && cs.getLast?.all fun c => !isBlank c) = true) :
    Unpadded cs := by
  simp only [Bool.and_eq_true, Option.all_eq_true, Bool.not_eq_true'] at h
  exact ⟨fun c hc => h.1 c hc, fun c hc => h.2 c hc⟩

/-- A text with characters is not empty. -/
theorem isEmpty_of_toList_ne_nil {r : String} (hr : r.toList ≠ []) : r.isEmpty = false :=
  Bool.eq_false_iff.mpr fun h => hr (by rw [String.isEmpty_iff.mp h]; rfl)

section Orders

variable {r : String} (hr : r.toList ≠ []) (hends : Unpadded r.toList)
include hr hends

/-- `go` and a way is the order to go that way. -/
theorem read_go : read ("go" ++ " " ++ r) = .ok (.go r) := by
  have hne := isEmpty_of_toList_ne_nil hr
  unfold read
  rw [verbAndArg_word (solid_of_all (by simp) (by decide)) rfl hr hends]
  simp [readOrder, hne]

/-- `take` and words is the order to take what they name. -/
theorem read_take : read ("take" ++ " " ++ r) = .ok (.take r) := by
  have hne := isEmpty_of_toList_ne_nil hr
  unfold read
  rw [verbAndArg_word (solid_of_all (by simp) (by decide)) rfl hr hends]
  simp [readOrder, hne]

/-- `use` and words is the order to use what `parseUse` reads from them. -/
theorem read_use : read ("use" ++ " " ++ r) = .ok (.use (parseUse r).1 (parseUse r).2.1
    (parseUse r).2.2) := by
  have hne := isEmpty_of_toList_ne_nil hr
  unfold read
  rw [verbAndArg_word (solid_of_all (by simp) (by decide)) rfl hr hends]
  simp [readOrder, hne]

end Orders

-----------------------------------------------------------------------------------------------
-- The words of `use`
-----------------------------------------------------------------------------------------------

/-- A pattern is found first where it stands after characters none of which is its first, by
induction on those characters. -/
theorem findFrom_after {p : Char} {pat rest : List Char} :
    ∀ {xs : List Char}, p ∉ xs → ∀ n,
      findFrom (p :: pat) (xs ++ p :: (pat ++ rest)) n = some (n + xs.length)
  | [], _, n => by simp [findFrom]
  | x :: xs, hp, n => by
    have hx : p ≠ x := fun h => hp (h ▸ List.mem_cons_self)
    have ih : findFrom (p :: pat) (xs ++ p :: (pat ++ rest)) (n + 1) = some (n + 1 + xs.length) :=
      findFrom_after (fun h => hp (List.mem_cons_of_mem x h)) (n + 1)
    have hmiss : (p :: pat).isPrefixOf (x :: (xs ++ p :: (pat ++ rest))) = false := by
      simp [List.isPrefixOf_cons_cons, hx]
    rw [List.cons_append, findFrom, hmiss, ih, List.length_cons]
    simp only [Bool.false_eq_true, if_false, Option.some.injEq]
    omega

/-- A word in lower case with no blank at either end, no sign, no number in it and none of the
names of infinity and not-a-number is no number. -/
theorem readFloatWord_word {w : String} (hw : lowercased w = true)
    (htrim : ((w.toList.dropWhile numberBlank).reverse.dropWhile numberBlank).reverse = w.toList)
    (hsign : signOf w.toList = (false, w.toList)) (hinf : w ≠ "inf" ∧ w ≠ "infinity")
    (hnan : w ≠ "nan") (hdec : decimalPart w.toList = none) : readFloatWord w = none := by
  unfold readFloatWord
  simp only [htrim, hsign, String.ofList_toList, lower_eq_self hw, hdec]
  simp [hinf, hnan]

/-- An item, `on` and a target, each one word in lower case with the target no number, are read
as the item used on the target. -/
theorem parseUse_on {a b : String} (ha : Solid a.toList) (hb : Solid b.toList)
    (hla : lowercased a = true) (hlb : lowercased b = true) (hnum : readFloatWord b = none) :
    parseUse (" ".intercalate [a, "on", b]) = (a, some b, none) := by
  have hchars : (" ".intercalate [a, "on", b]).toList =
      a.toList ++ ' ' :: ('o' :: 'n' :: ' ' :: b.toList) := by
    simp [String.intercalate_cons_cons, String.toList_append]
  have hwords : words (" ".intercalate [a, "on", b]) = [a, "on", b] := by
    refine words_intercalate _ fun w hw => ?_
    simp only [List.mem_cons, List.not_mem_nil, or_false] at hw
    rcases hw with rfl | rfl | rfl
    · exact ha
    · exact solid_of_all (by simp) (by decide)
    · exact hb
  have hsplit : splitNumber [a, "on", b] = ([a, "on", b], none) := by
    simp [splitNumber, hnum]
  have hlow : lowercased (" ".intercalate [a, "on", b]) = true := by
    unfold lowercased at hla hlb ⊢
    rw [hchars]
    simp only [List.all_append, List.all_cons, hla, hlb]
    decide
  -- `on` stands right after the item, which holds no space
  have hspace : ' ' ∉ a.toList := fun h => absurd (ha.2 ' ' h) (by decide)
  have hfound : findFrom " on ".toList (" ".intercalate [a, "on", b]).toList 0 = some a.length := by
    rw [hchars]
    exact (findFrom_after hspace 0).trans (by simp [String.length_toList])
  have htake : (" ".intercalate [a, "on", b]).toList.take a.length = a.toList := by
    rw [hchars]
    exact List.take_left' String.length_toList
  have hdrop :
      (" ".intercalate [a, "on", b]).toList.drop (a.length + " on ".length) = b.toList := by
    have hsep : " on ".length = 4 := rfl
    rw [hchars, hsep, ← String.length_toList, List.drop_append,
      List.drop_eq_nil_of_le (by omega)]
    simp
  simp only [parseUse, hwords, hsplit, lower_eq_self hlow, List.findSome?_cons, hfound,
    Option.map_some, htake, hdrop, String.ofList_toList, trim_unpadded (Solid.unpadded ha),
    trim_unpadded (Solid.unpadded hb), isEmpty_of_toList_ne_nil hb.1]
  rfl

end Adventure.Command
