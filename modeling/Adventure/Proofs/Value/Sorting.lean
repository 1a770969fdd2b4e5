import Mathlib
import Adventure.Value.Sort

/-! Under a less-than that compares by a key in a linear order, the sort succeeds, keeps every item
and orders the items by their keys. -/

namespace Adventure

variable {α β : Type} [LinearOrder β] {key : α → β} {lt : α → α → Except Fault Bool}

/-- `lt` compares the items of `xs` by `key`, and so never fails on them. -/
def ComparesBy (lt : α → α → Except Fault Bool) (key : α → β) (xs : List α) : Prop :=
  ∀ a ∈ xs, ∀ b ∈ xs, lt a b = .ok (decide (key a < key b))

/-- A comparison that orders a list by a key orders every part of it. -/
theorem ComparesBy.mono {xs ys : List α} (h : ComparesBy lt key xs) (hsub : ys ⊆ xs) :
    ComparesBy lt key ys :=
  fun a ha b hb => h a (hsub ha) b (hsub hb)

section Runs

-- orders by key, for the lemmas of `Mathlib` on lists in a transitive order
local instance isTrans_keyLe : IsTrans α fun a b => key a ≤ key b := ⟨fun _ _ _ => le_trans⟩
local instance isTrans_keyGt : IsTrans α fun a b => key b < key a :=
  ⟨fun _ _ _ hab hbc => lt_trans hbc hab⟩

/-- A falling run goes on from `prev` with items each strictly below the one before. -/
theorem fallingRun_spec {rest : List α} :
    ∀ {prev : α}, ComparesBy lt key (prev :: rest) →
      ∃ k, fallingRun lt prev rest = .ok k ∧
        (prev :: rest.take k).Pairwise fun a b => key b < key a := by
  induction rest with
  | nil => exact fun _ => ⟨0, rfl, by simp⟩
  | cons x rest ih =>
    intro prev h
    have hx : lt x prev = .ok (decide (key x < key prev)) :=
      h x (by simp) prev List.mem_cons_self
    by_cases hlt : key x < key prev
    · obtain ⟨k, hk, hrun⟩ := ih (h.mono (List.subset_cons_self prev (x :: rest)))
      refine ⟨k + 1, ?_, ?_⟩
      · simp [fallingRun, hx, hlt, hk, bind, Except.bind, pure, Except.pure]
      · rw [List.take_succ_cons]
        exact hrun.cons_cons_of_trans hlt
    · exact ⟨0, by simp [fallingRun, hx, hlt, bind, Except.bind, pure, Except.pure], by simp⟩

/-- A run that never falls goes on from `prev` with items each not below the one before. -/
theorem risingRun_spec {rest : List α} :
    ∀ {prev : α}, ComparesBy lt key (prev :: rest) →
      ∃ k, risingRun lt prev rest = .ok k ∧
        (prev :: rest.take k).Pairwise fun a b => key a ≤ key b := by
  induction rest with
  | nil => exact fun _ => ⟨0, rfl, by simp⟩
  | cons x rest ih =>
    intro prev h
    have hx : lt x prev = .ok (decide (key x < key prev)) :=
      h x (by simp) prev List.mem_cons_self
    by_cases hlt : key x < key prev
    · exact ⟨0, by simp [risingRun, hx, hlt, bind, Except.bind, pure, Except.pure], by simp⟩
    · have hle : key prev ≤ key x := not_lt.mp hlt
      obtain ⟨k, hk, hrun⟩ := ih (h.mono (List.subset_cons_self prev (x :: rest)))
      refine ⟨k + 1, ?_, ?_⟩
      · simp [risingRun, hx, hlt, hk, bind, Except.bind, pure, Except.pure]
      · rw [List.take_succ_cons]
        exact hrun.cons_cons_of_trans hle

/-- The run at the front is in order, and with the items after it holds every item. -/
theorem frontRun_spec {xs : List α} (h : ComparesBy lt key xs) :
    ∃ run rest, frontRun lt xs = .ok (run, rest) ∧ (run ++ rest).Perm xs ∧
      run.Pairwise fun a b => key a ≤ key b := by
  rcases xs with _ | ⟨x, _ | ⟨y, rest⟩⟩
  · exact ⟨[], [], rfl, .refl _, .nil⟩
  · exact ⟨[x], [], rfl, .refl _, List.pairwise_singleton _ x⟩
  · have hyx : lt y x = .ok (decide (key y < key x)) := h y (by simp) x List.mem_cons_self
    have htail : ComparesBy lt key (y :: rest) := h.mono (List.subset_cons_self x (y :: rest))
    by_cases hfall : key y < key x
    -- a falling run is taken reversed
    · obtain ⟨k, hk, hrun⟩ := fallingRun_spec htail
      refine ⟨(x :: y :: rest.take k).reverse, rest.drop k, ?_, ?_, ?_⟩
      · simp [frontRun, hyx, hfall, hk, bind, Except.bind, pure, Except.pure]
      · have hsplit : (x :: y :: rest.take k) ++ rest.drop k = x :: y :: rest := by simp
        exact ((List.reverse_perm _).append_right _).trans (hsplit ▸ .refl _)
      · have hdown := hrun.cons_cons_of_trans (R := fun a b => key b < key a) hfall
        exact List.pairwise_reverse.mpr (hdown.imp le_of_lt)
    · have hle : key x ≤ key y := not_lt.mp hfall
      obtain ⟨k, hk, hrun⟩ := risingRun_spec htail
      refine ⟨x :: y :: rest.take k, rest.drop k, ?_, by simp, ?_⟩
      · simp [frontRun, hyx, hfall, hk, bind, Except.bind, pure, Except.pure]
      · exact hrun.cons_cons_of_trans hle

end Runs

section Insertion

variable {l : List α} {pivot : α}

/-- Between `lo` and `hi` the search has still to decide: every item before `lo` is not above
`pivot`, and every item from `hi` on is above it. -/
def Bracketed (key : α → β) (l : List α) (pivot : α) (lo hi : Nat) : Prop :=
  (∀ a ∈ l.take lo, key a ≤ key pivot) ∧ ∀ b ∈ l.drop hi, key pivot < key b

/-- The search for an insertion point on a nonempty range compares the pivot with the middle item
and goes on in the half it belongs to. -/
theorem insertionPoint_of_lt {sorted : Array α} {lo hi : Nat} {y : α} (h : lo < hi)
    (hy : sorted[lo + (hi - lo) / 2]? = some y) :
    insertionPoint lt sorted pivot lo hi =
      (do
        if ← lt pivot y then insertionPoint lt sorted pivot lo (lo + (hi - lo) / 2)
        else insertionPoint lt sorted pivot (lo + (hi - lo) / 2 + 1) hi) := by
  rw [insertionPoint, if_pos h]
  simp only [hy]

/-- The search for an insertion point on an empty range ends at its start. -/
theorem insertionPoint_of_le {sorted : Array α} {lo hi : Nat} (h : ¬ lo < hi) :
    insertionPoint lt sorted pivot lo hi = .ok lo := by
  rw [insertionPoint, if_neg h]

/-- Items in order from one above `pivot` on are all above it. -/
theorem above_of_drop (hsorted : l.Pairwise fun a b => key a ≤ key b) {i : Nat}
    (hi : i < l.length) (h : key pivot < key l[i]) : ∀ b ∈ l.drop i, key pivot < key b := by
  have hdrop := hsorted.sublist (List.drop_sublist i l)
  rw [List.drop_eq_getElem_cons hi] at hdrop ⊢
  intro b hb
  rcases List.mem_cons.mp hb with rfl | hb
  · exact h
  · exact lt_of_lt_of_le h ((List.pairwise_cons.mp hdrop).1 b hb)

/-- Items in order up to one not above `pivot` are all not above it. -/
theorem below_of_take (hsorted : l.Pairwise fun a b => key a ≤ key b) {i : Nat}
    (hi : i < l.length) (h : key l[i] ≤ key pivot) : ∀ a ∈ l.take (i + 1), key a ≤ key pivot := by
  have htake := hsorted.sublist (List.take_sublist (i + 1) l)
  rw [← List.take_concat_get hi, List.concat_eq_append] at htake ⊢
  intro a ha
  rcases List.mem_append.mp ha with ha | ha
  · exact le_trans ((List.pairwise_append.mp htake).2.2 a ha l[i] (List.mem_singleton_self _)) h
  · rw [List.mem_singleton.mp ha]
    exact h

/-- The binary search ends at a place where every item before is not above `pivot` and every
item after is above it. -/
theorem insertionPoint_spec (hsorted : l.Pairwise fun a b => key a ≤ key b)
    (hc : ComparesBy lt key (pivot :: l)) (lo hi : Nat) (hle : lo ≤ hi) (hhi : hi ≤ l.length)
    (hb : Bracketed key l pivot lo hi) :
    ∃ i, insertionPoint lt l.toArray pivot lo hi = .ok i ∧ i ≤ l.length ∧
      Bracketed key l pivot i i := by
  induction lo, hi using insertionPoint.induct l.toArray with
  | case1 lo hi hlt mid hnone =>
    -- the middle of the range is an item
    simp only [mid, List.getElem?_toArray, List.getElem?_eq_none_iff] at hnone
    omega
  | case2 lo hi hlt mid y hy ihlo ihhi =>
    have hmid : mid < l.length := by omega
    have hy' : l[mid] = y := by
      simpa [List.getElem?_toArray, List.getElem?_eq_getElem hmid] using hy
    have hcmp : lt pivot y = .ok (decide (key pivot < key y)) :=
      hc pivot List.mem_cons_self y (List.mem_cons_of_mem _ (hy' ▸ List.getElem_mem hmid))
    rw [insertionPoint_of_lt hlt hy]
    by_cases hup : key pivot < key y
    -- the middle item is above `pivot`: the upper end comes down to it
    · simp only [hcmp, hup, decide_true, bind, Except.bind, if_true]
      exact ihlo (by omega) (by omega)
        ⟨hb.1, above_of_drop hsorted hmid (hy' ▸ hup)⟩
    -- it is not: the lower end goes up past it
    · simp only [hcmp, hup, decide_false, bind, Except.bind, Bool.false_eq_true, if_false]
      exact ihhi (by omega) hhi
        ⟨below_of_take hsorted hmid (hy' ▸ not_lt.mp hup), hb.2⟩
  | case3 lo hi hge =>
    obtain rfl : lo = hi := by omega
    exact ⟨lo, insertionPoint_of_le hge, hhi, hb⟩

/-- Inserting an item after every item not above it and before every item above it keeps a
list in order. -/
theorem pairwise_insertIdx {R : α → α → Prop} {x : α} :
    ∀ {l : List α} {i : Nat}, i ≤ l.length → l.Pairwise R → (∀ a ∈ l.take i, R a x) →
      (∀ b ∈ l.drop i, R x b) → (l.insertIdx i x).Pairwise R := by
  intro l
  induction l with
  | nil =>
    intro i hi _ _ _
    obtain rfl : i = 0 := by simpa using hi
    exact List.pairwise_singleton R x
  | cons a l ih =>
    intro i hi hl hbefore hafter
    cases i with
    | zero =>
      rw [List.insertIdx_zero]
      exact List.pairwise_cons.mpr ⟨hafter, hl⟩
    | succ i =>
      rw [List.insertIdx_succ_cons]
      obtain ⟨ha, hl'⟩ := List.pairwise_cons.mp hl
      have hi' : i ≤ l.length := by simpa using hi
      refine List.pairwise_cons.mpr ⟨fun b hb => ?_,
        ih hi' hl' (fun c hc => hbefore c (by simp [hc])) (fun c hc => hafter c (by simpa using hc))⟩
      rcases (List.mem_insertIdx hi').mp hb with rfl | hb
      · exact hbefore a (by simp)
      · exact ha b hb

/-- Placing the items of `rest` one by one into items in order gives all of them, in order. -/
theorem insertAll_spec {rest : List α} :
    ∀ {l : List α}, ComparesBy lt key (l ++ rest) → (l.Pairwise fun a b => key a ≤ key b) →
      ∃ out, insertAll lt l.toArray rest = .ok out ∧ out.toList.Perm (l ++ rest) ∧
        out.toList.Pairwise fun a b => key a ≤ key b := by
  induction rest with
  | nil => exact fun {l} _ hl => ⟨l.toArray, rfl, by simp, hl⟩
  | cons x rest ih =>
    intro l hc hl
    have hpivot : ComparesBy lt key (x :: l) :=
      hc.mono fun a ha => by rcases List.mem_cons.mp ha with rfl | ha <;> simp [*]
    obtain ⟨i, hi, hlen, hbr⟩ := insertionPoint_spec hl hpivot 0 l.length (Nat.zero_le _) le_rfl
      ⟨by simp, by simp⟩
    have hperm : (l.insertIdx i x ++ rest).Perm (l ++ x :: rest) :=
      ((List.perm_insertIdx x l hlen).append_right rest).trans List.perm_middle.symm
    obtain ⟨out, hout, hop, hos⟩ := ih (hc.mono fun a ha => hperm.subset ha)
      (pairwise_insertIdx hlen hl hbr.1 fun b hb => (hbr.2 b hb).le)
    refine ⟨out, ?_, hop.trans hperm, hos⟩
    simp only [insertAll, hi, bind, Except.bind, List.size_toArray,
      List.insertIdxIfInBounds_toArray]
    exact hout

/-- Sorting by a key succeeds with the items in order of their keys. -/
theorem sortWith_spec {xs : List α} (h : ComparesBy lt key xs) :
    ∃ ys, sortWith lt xs = .ok ys ∧ ys.Perm xs ∧ ys.Pairwise fun a b => key a ≤ key b := by
  obtain ⟨run, rest, hfront, hperm, hrun⟩ := frontRun_spec h
  obtain ⟨out, hout, hop, hos⟩ := insertAll_spec (h.mono fun a ha => hperm.subset ha) hrun
  refine ⟨out.toList, ?_, hop.trans hperm, hos⟩
  simp [sortWith, hfront, hout, bind, Except.bind, pure, Except.pure]

/-- Sorting from largest to smallest by a key succeeds with the items in the reverse order of
their keys. -/
theorem sortDescendingWith_spec {xs : List α} (h : ComparesBy lt key xs) :
    ∃ ys, sortDescendingWith lt xs = .ok ys ∧ ys.Perm xs ∧
      ys.Pairwise fun a b => key b ≤ key a := by
  obtain ⟨ys, hys, hperm, hsorted⟩ := sortWith_spec (h.mono fun a ha => List.mem_reverse.mp ha)
  refine ⟨ys.reverse, ?_, (List.reverse_perm ys).trans (hperm.trans (List.reverse_perm xs)),
    List.pairwise_reverse.mpr hsorted⟩
  simp [sortDescendingWith, hys, bind, Except.bind, pure, Except.pure]

end Insertion

end Adventure
