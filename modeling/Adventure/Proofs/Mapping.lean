import Mathlib.Data.List.Forall2

/-! Maps of a computation that may fail over a list: what a successful map relates, and which
fault a failed one gives. -/

namespace Adventure

section Mapping

variable {α β ε : Type} {f : α → Except ε β}

/-- A map that succeeds relates each item to its result. -/
theorem forall₂_of_mapM_ok :
    ∀ {xs : List α} {ys : List β}, xs.mapM f = .ok ys → List.Forall₂ (fun x y => f x = .ok y) xs ys
  | [], ys, h => by
    simp only [List.mapM_nil, pure, Except.pure, Except.ok.injEq] at h
    subst h
    exact .nil
  | x :: xs, ys, h => by
    rw [List.mapM_cons] at h
    cases hx : f x with
    | error e => simp [hx, bind, Except.bind] at h
    | ok y =>
      cases hxs : xs.mapM f with
      | error e => simp [hx, hxs, bind, Except.bind] at h
      | ok rest =>
        simp only [hx, hxs, bind, Except.bind, pure, Except.pure, Except.ok.injEq] at h
        subst h
        exact .cons hx (forall₂_of_mapM_ok hxs)

/-- Each member on the right of a relation of lists is related to a member on the left. -/
theorem exists_mem_of_forall₂ {R : α → β → Prop} {xs : List α} {ys : List β} {y : β}
    (h : List.Forall₂ R xs ys) (hy : y ∈ ys) : ∃ x ∈ xs, R x y := by
  induction h with
  | nil => cases hy
  | @cons x y' xs ys hxy _ ih =>
    rcases List.mem_cons.mp hy with rfl | hy
    · exact ⟨x, List.mem_cons_self, hxy⟩
    · obtain ⟨z, hz, hzy⟩ := ih hy
      exact ⟨z, List.mem_cons_of_mem x hz, hzy⟩

/-- Each result of a map that succeeds is the result of some item. -/
theorem exists_of_mem_mapM {xs : List α} {ys : List β} {y : β} (h : xs.mapM f = .ok ys)
    (hy : y ∈ ys) : ∃ x ∈ xs, f x = .ok y :=
  exists_mem_of_forall₂ (R := fun x y => f x = .ok y) (forall₂_of_mapM_ok h) hy

/-- A map succeeds when every item does, and its results keep what each item's result has. -/
theorem mapM_ok_keeping {P : β → Prop} :
    ∀ {xs : List α}, (∀ x ∈ xs, ∃ y, f x = .ok y ∧ P y) → ∃ ys, xs.mapM f = .ok ys ∧ ∀ y ∈ ys, P y
  | [], _ => ⟨[], rfl, by simp⟩
  | x :: xs, h => by
    obtain ⟨y, hy, hp⟩ := h x List.mem_cons_self
    obtain ⟨ys, hys, hps⟩ := mapM_ok_keeping fun z hz => h z (List.mem_cons_of_mem x hz)
    refine ⟨y :: ys, ?_, ?_⟩
    · simp [List.mapM_cons, hy, hys, bind, Except.bind, pure, Except.pure]
    · rintro z (_ | ⟨_, hz⟩)
      exacts [hp, hps z hz]

/-- A map succeeds when every item does. -/
theorem mapM_ok_of_forall {xs : List α} (h : ∀ x ∈ xs, ∃ y, f x = .ok y) : ∃ ys, xs.mapM f = .ok ys :=
  (mapM_ok_keeping (P := fun _ => True) fun x hx => (h x hx).imp fun _ hy => ⟨hy, trivial⟩).imp
    fun _ hys => hys.1

/-- A map that fails fails at some item, with its fault. -/
theorem exists_error_of_mapM : ∀ {xs : List α} {e : ε}, xs.mapM f = .error e → ∃ x ∈ xs, f x = .error e
  | [], e, h => by simp [pure, Except.pure] at h
  | x :: xs, e, h => by
    rw [List.mapM_cons] at h
    cases hx : f x with
    | error e' =>
      simp only [hx, bind, Except.bind, Except.error.injEq] at h
      exact ⟨x, List.mem_cons_self, h ▸ hx⟩
    | ok y =>
      cases hxs : xs.mapM f with
      | error e' =>
        simp only [hx, hxs, bind, Except.bind, Except.error.injEq] at h
        obtain ⟨z, hz, hze⟩ := exists_error_of_mapM hxs
        exact ⟨z, List.mem_cons_of_mem x hz, h ▸ hze⟩
      | ok rest => simp [hx, hxs, bind, Except.bind, pure, Except.pure] at h

/-- A map of lists succeeds when every item does, and joins to nothing exactly when every item
gives nothing. -/
theorem mapM_ok_all {γ : Type} {f : α → Except ε (List γ)} {Q : α → Prop} :
    ∀ {xs : List α}, (∀ x ∈ xs, ∃ out, f x = .ok out ∧ (out = [] ↔ Q x)) →
    ∃ outs, xs.mapM f = .ok outs ∧ (outs.flatten = [] ↔ ∀ x ∈ xs, Q x)
  | [], _ => ⟨[], rfl, by simp⟩
  | x :: xs, hf => by
    obtain ⟨out, hx, hout⟩ := hf x List.mem_cons_self
    obtain ⟨outs, hxs, houts⟩ := mapM_ok_all fun y hy => hf y (List.mem_cons_of_mem x hy)
    refine ⟨out :: outs, by simp [List.mapM_cons, hx, hxs, bind, Except.bind, pure, Except.pure], ?_⟩
    rw [List.flatten_cons, List.append_eq_nil_iff, hout, houts, List.forall_mem_cons]

/-- A map of lists whose results join to nothing gave nothing for every item. -/
theorem forall_nil_of_flatten_mapM {f : α → Except ε (List β)} {xs : List α}
    (h : List.flatten <$> xs.mapM f = .ok []) : ∀ x ∈ xs, f x = .ok [] := by
  cases hm : xs.mapM f with
  | error e => simp [hm, Functor.map, Except.map] at h
  | ok ys =>
    simp only [hm, Functor.map, Except.map, Except.ok.injEq, List.flatten_eq_nil_iff] at h
    intro x hx
    -- the result of `x` is among the results, all of which are empty
    obtain ⟨y, hy, hxy⟩ := exists_mem_of_forall₂ (forall₂_of_mapM_ok hm).flip hx
    rw [hxy, h y hy]

/-- A map of lists fails with the fault of some item. -/
theorem exists_error_of_flatten_mapM {f : α → Except ε (List β)} {xs : List α} {e : ε}
    (h : List.flatten <$> xs.mapM f = .error e) : ∃ x ∈ xs, f x = .error e := by
  cases hm : xs.mapM f with
  | error e' =>
    simp only [hm, Functor.map, Except.map, Except.error.injEq] at h
    exact h ▸ exists_error_of_mapM hm
  | ok ys => simp [hm, Functor.map, Except.map] at h

/-- A run of checks succeeds when every check does. -/
theorem forM_ok {f : α → Except ε Unit} :
    ∀ {xs : List α}, (∀ x ∈ xs, f x = .ok ()) → xs.forM f = .ok ()
  | [], _ => rfl
  | x :: xs, hf => by
    simp only [List.forM, hf x List.mem_cons_self, bind, Except.bind]
    exact forM_ok fun y hy => hf y (List.mem_cons_of_mem x hy)

/-- A loop whose every step appends to a list, appending nothing exactly when `P` holds of the
item, succeeds, with a list that is empty exactly when it started empty and `P` holds of every
item. -/
theorem forIn_appending {γ : Type} {P : α → Prop} {f : α → List γ → Except ε (ForInStep (List γ))} :
    ∀ {xs : List α}, (∀ x ∈ xs, ∀ acc, ∃ extra, f x acc = .ok (.yield (acc ++ extra)) ∧
      (extra = [] ↔ P x)) →
    ∀ init, ∃ out, forIn xs init f = .ok out ∧ (out = [] ↔ init = [] ∧ ∀ x ∈ xs, P x)
  | [], _, init => ⟨init, rfl, by simp⟩
  | x :: xs, hf, init => by
    obtain ⟨extra, hx, hextra⟩ := hf x List.mem_cons_self init
    obtain ⟨out, hout, hempty⟩ :=
      forIn_appending (fun y hy => hf y (List.mem_cons_of_mem x hy)) (init ++ extra)
    refine ⟨out, ?_, ?_⟩
    · simp only [List.forIn_cons, hx, bind, Except.bind]
      exact hout
    · rw [hempty, List.append_eq_nil_iff, hextra, List.forall_mem_cons]
      exact and_assoc

/-- Two appending loops, the second going on from the list of the first, from an empty list. -/
theorem forIn_forIn_appending {α' γ : Type} {P : α → Prop} {Q : α' → Prop}
    {f : α → List γ → Except ε (ForInStep (List γ))} {g : α' → List γ → Except ε (ForInStep (List γ))}
    {xs : List α} {ys : List α'}
    (hf : ∀ x ∈ xs, ∀ acc, ∃ extra, f x acc = .ok (.yield (acc ++ extra)) ∧ (extra = [] ↔ P x))
    (hg : ∀ y ∈ ys, ∀ acc, ∃ extra, g y acc = .ok (.yield (acc ++ extra)) ∧ (extra = [] ↔ Q y)) :
    ∃ out, (forIn xs [] f >>= fun s => forIn ys s g >>= fun s => pure s) = .ok out ∧
      (out = [] ↔ (∀ x ∈ xs, P x) ∧ ∀ y ∈ ys, Q y) := by
  obtain ⟨mid, hmid, hmidEmpty⟩ := forIn_appending hf []
  obtain ⟨out, hout, houtEmpty⟩ := forIn_appending hg mid
  refine ⟨out, by simp only [hmid, hout, bind, Except.bind, pure, Except.pure], ?_⟩
  rw [houtEmpty, hmidEmpty]
  simp

end Mapping

end Adventure
