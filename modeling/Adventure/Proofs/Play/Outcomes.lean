import Adventure.Proofs.Play.Provenance

/-! A passing condition offers exactly the gates of the unused `once` leaves on its witness, and a
failing one offers none. -/

namespace Adventure.Play

open Story

mutual
/-- `Passes g s c gates`: the condition `c` passes in `s`, and `gates` are the gates of the
`once` leaves on its witness. -/
inductive Passes (g : Game) (s : GameState) : Condition → List Value → Prop
  /-- A `once` leaf passes while its gate is unused, and offers the gate. -/
  | once {path value : Value} : s.usedGate path = false → Passes g s (.leaf .once path value) [path]
  /-- Any other leaf passes by its test, and offers nothing. -/
  | test {test : Test} {path value : Value} : test ≠ .once →
      evalLeaf g s test path value = .ok (.ofBool true) → Passes g s (.leaf test path value) []
  /-- An `and` passes when every child passes, and offers all their gates. -/
  | all {children : List Condition} {gates : List Value} :
      PassesEach g s children gates → Passes g s (.all children) gates
  /-- An `or` passes by its first passing child, and offers that child's gates. -/
  | any {earlier later : List Condition} {child : Condition} {gates : List Value} :
      (∀ c ∈ earlier, Fails g s c) → Passes g s child gates →
      Passes g s (.any (earlier ++ child :: later)) gates
  /-- A `not` passes when its child fails, and offers nothing. -/
  | negate {child : Condition} : Fails g s child → Passes g s (.negate child) []

/-- Every condition of a list passes; the gates are theirs, in order. -/
inductive PassesEach (g : Game) (s : GameState) : List Condition → List Value → Prop
  | nil : PassesEach g s [] []
  | cons {c : Condition} {cs : List Condition} {gates rest : List Value} :
      Passes g s c gates → PassesEach g s cs rest → PassesEach g s (c :: cs) (gates ++ rest)

/-- `Fails g s c`: the condition `c` fails in `s`. -/
inductive Fails (g : Game) (s : GameState) : Condition → Prop
  /-- A `once` leaf fails once its gate is used. -/
  | once {path value : Value} : s.usedGate path = true → Fails g s (.leaf .once path value)
  /-- Any other leaf fails by its test. -/
  | test {test : Test} {path value : Value} : test ≠ .once →
      evalLeaf g s test path value = .ok (.ofBool false) → Fails g s (.leaf test path value)
  /-- An `and` fails by a failing child. -/
  | all {children : List Condition} {child : Condition} :
      child ∈ children → Fails g s child → Fails g s (.all children)
  /-- An `or` fails when every child fails. -/
  | any {children : List Condition} : (∀ c ∈ children, Fails g s c) → Fails g s (.any children)
  /-- A `not` fails when its child passes. -/
  | negate {child : Condition} {gates : List Value} :
      Passes g s child gates → Fails g s (.negate child)
end

/-- An outcome that the relations bear out: a pass offering the gates of a witness, or a failure
offering none. -/
def Fits (g : Game) (s : GameState) (c : Condition) (o : Outcome) : Prop :=
  (o.passed = true ∧ Passes g s c o.marks) ∨ (o.passed = false ∧ o.marks = [] ∧ Fails g s c)

variable {g : Game} {s : GameState}

-----------------------------------------------------------------------------------------------
-- Evaluation is borne out by the relations
-----------------------------------------------------------------------------------------------

/-- A leaf other than `once` answers whether it passed, with no gates. -/
theorem evalLeaf_ofBool {test : Test} {path value : Value} {o : Outcome} (hne : test ≠ .once)
    (h : evalLeaf g s test path value = .ok o) : o = .ofBool o.passed := by
  have hnil : o.marks = [] := List.eq_nil_iff_forall_not_mem.mpr fun m hm => by
    have hgate := evalLeaf_marks h m hm
    cases test <;> simp_all [Condition.gates]
  cases o
  simp_all [Outcome.ofBool]

/-- A test that evaluates has an outcome the relations bear out. -/
theorem evalLeaf_fits {test : Test} {path value : Value} {o : Outcome}
    (h : evalLeaf g s test path value = .ok o) : Fits g s (.leaf test path value) o := by
  by_cases hne : test = .once
  · subst hne
    simp only [evalLeaf] at h
    cases hused : s.usedGate path <;>
      simp only [hused, Bool.false_eq_true, if_false, if_true, Except.ok.injEq] at h <;> subst h
    · exact .inl ⟨rfl, .once hused⟩
    · exact .inr ⟨rfl, rfl, .once hused⟩
  · have ho := evalLeaf_ofBool hne h
    cases hp : o.passed <;> rw [hp] at ho <;> subst ho
    · exact .inr ⟨rfl, rfl, .test hne h⟩
    · exact .inl ⟨rfl, .test hne h⟩

mutual
/-- Every outcome the evaluator gives a condition is borne out by `Passes` or `Fails`, by induction
on the condition. -/
theorem evalCondition_fits : ∀ (c : Condition) {o : Outcome}, evalCondition g s c = .ok o →
    Fits g s c o
  | .leaf test path value, o, h => by
    rw [evalCondition] at h
    exact evalLeaf_fits h
  | .all children, o, h => by
    rw [evalCondition] at h
    rcases evalAll_fits children h with ⟨hp, hpass⟩ | ⟨hp, hnil, child, hmem, hfail⟩
    · exact .inl ⟨hp, .all hpass⟩
    · exact .inr ⟨hp, hnil, .all hmem hfail⟩
  | .any children, o, h => by
    rw [evalCondition] at h
    rcases evalAny_fits children h with
      ⟨hp, earlier, child, later, rfl, hearlier, hchild⟩ | ⟨hp, hnil, hfail⟩
    · exact .inl ⟨hp, .any hearlier hchild⟩
    · exact .inr ⟨hp, hnil, .any hfail⟩
  | .negate child, o, h => by
    rw [evalCondition] at h
    cases hc : evalCondition g s child with
    | error e => simp [hc, bind, Except.bind] at h
    | ok oc =>
      simp only [hc, bind, Except.bind, pure, Except.pure, Except.ok.injEq] at h
      subst h
      -- a `not` inverts its child and offers none of the child's gates
      rcases evalCondition_fits child hc with ⟨hp, hpass⟩ | ⟨hp, -, hfail⟩
      · exact .inr ⟨by simp [Outcome.ofBool, hp], rfl, .negate hpass⟩
      · exact .inl ⟨by simp [Outcome.ofBool, hp], .negate hfail⟩

/-- An outcome of a conjunction: every condition passes, with their gates in order, or some
condition fails and no gate is offered. -/
theorem evalAll_fits : ∀ (cs : List Condition) {o : Outcome}, evalAll g s cs = .ok o →
    (o.passed = true ∧ PassesEach g s cs o.marks) ∨
      (o.passed = false ∧ o.marks = [] ∧ ∃ c ∈ cs, Fails g s c)
  | [], o, h => by
    simp only [evalAll, Except.ok.injEq] at h
    subst h
    exact .inl ⟨rfl, .nil⟩
  | c :: rest, o, h => by
    rw [evalAll] at h
    cases hc : evalCondition g s c with
    | error e => simp [hc, bind, Except.bind] at h
    | ok first =>
      rcases evalCondition_fits c hc with ⟨hp, hpass⟩ | ⟨hp, -, hfail⟩
      · cases hr : evalAll g s rest with
        | error e => simp [hc, hr, hp, bind, Except.bind] at h
        | ok others =>
          rcases evalAll_fits rest hr with ⟨hq, hrest⟩ | ⟨hq, -, d, hd, hdfail⟩ <;>
            simp [hc, hr, hp, hq, bind, Except.bind, pure, Except.pure] at h <;> subst h
          · exact .inl ⟨rfl, .cons hpass hrest⟩
          · exact .inr ⟨rfl, rfl, d, List.mem_cons_of_mem c hd, hdfail⟩
      · -- the first failing child fails the whole, and the rest is not evaluated
        simp [hc, hp, bind, Except.bind, pure, Except.pure] at h
        subst h
        exact .inr ⟨rfl, rfl, c, List.mem_cons_self, hfail⟩

/-- An outcome of a disjunction: the first condition that passes after a run of failures gives its
gates, or every condition fails and no gate is offered. -/
theorem evalAny_fits : ∀ (cs : List Condition) {o : Outcome}, evalAny g s cs = .ok o →
    (o.passed = true ∧ ∃ earlier c later, cs = earlier ++ c :: later ∧
      (∀ e ∈ earlier, Fails g s e) ∧ Passes g s c o.marks) ∨
      (o.passed = false ∧ o.marks = [] ∧ ∀ c ∈ cs, Fails g s c)
  | [], o, h => by
    simp only [evalAny, Except.ok.injEq] at h
    subst h
    exact .inr ⟨rfl, rfl, by simp⟩
  | c :: rest, o, h => by
    rw [evalAny] at h
    cases hc : evalCondition g s c with
    | error e => simp [hc, bind, Except.bind] at h
    | ok first =>
      rcases evalCondition_fits c hc with ⟨hp, hpass⟩ | ⟨hp, -, hfail⟩
      · -- the first passing child is the witness
        simp only [hc, hp, bind, Except.bind, if_true, pure, Except.pure, Except.ok.injEq] at h
        subst h
        exact .inl ⟨hp, [], c, rest, rfl, by simp, hpass⟩
      · simp only [hc, hp, bind, Except.bind, Bool.false_eq_true, if_false] at h
        rcases evalAny_fits rest h with
          ⟨hq, earlier, d, later, rfl, hearlier, hd⟩ | ⟨hq, hnil, hrest⟩
        · refine .inl ⟨hq, c :: earlier, d, later, rfl, ?_, hd⟩
          simpa [hfail] using hearlier
        · exact .inr ⟨hq, hnil, by simpa [hfail] using hrest⟩
end

-----------------------------------------------------------------------------------------------
-- The gates a witness offers
-----------------------------------------------------------------------------------------------

/-- A gate of one condition of a list is a gate of the list. -/
theorem mem_gatesOf {cs : List Condition} {c : Condition} {m : Value} (hc : c ∈ cs)
    (hm : m ∈ c.gates) : m ∈ Condition.gatesOf cs := by
  induction cs with
  | nil => simp at hc
  | cons d rest ih =>
    rw [Condition.gatesOf, List.mem_append]
    rcases List.mem_cons.mp hc with rfl | hrest
    · exact .inl hm
    · exact .inr (ih hrest)

mutual
/-- The gates of a witness are gates of `once` leaves of the tree outside every `not`, and
unused. -/
theorem Passes.offers {c : Condition} {gates : List Value} :
    Passes g s c gates → ∀ m ∈ gates, m ∈ c.gates ∧ s.usedGate m = false
  | .once hused, m, hm => by
    rw [List.mem_singleton.mp hm]
    exact ⟨by simp [Condition.gates], hused⟩
  | .test _ _, m, hm => by simp at hm
  | .all hall, m, hm => by
    rw [Condition.gates]
    exact PassesEach.offers hall m hm
  | .any _ hchild, m, hm => by
    obtain ⟨hgate, hunused⟩ := Passes.offers hchild m hm
    exact ⟨by rw [Condition.gates]; exact mem_gatesOf (by simp) hgate, hunused⟩
  | .negate _, m, hm => by simp at hm

/-- The gates a passing list of conditions offers are gates of the list, not yet used. -/
theorem PassesEach.offers {cs : List Condition} {gates : List Value} :
    PassesEach g s cs gates → ∀ m ∈ gates, m ∈ Condition.gatesOf cs ∧ s.usedGate m = false
  | .nil, m, hm => by simp at hm
  | .cons hfirst hrest, m, hm => by
    rw [Condition.gatesOf, List.mem_append]
    rcases List.mem_append.mp hm with hm | hm
    · obtain ⟨hgate, hunused⟩ := Passes.offers hfirst m hm
      exact ⟨.inl hgate, hunused⟩
    · obtain ⟨hgate, hunused⟩ := PassesEach.offers hrest m hm
      exact ⟨.inr hgate, hunused⟩
end

/-- Checking a list of conditions is evaluating their `and`. -/
theorem checkAll_eq_all (cs : List Condition) : checkAll g s cs = evalCondition g s (.all cs) := by
  rw [checkAll, evalCondition]

/-- A condition tree offers the gates of its witness. A failing outcome offers no gates and a
passing one offers exactly the gates of the `once` leaves on its witness (`Passes`), so each is
the gate of a `once` leaf of the tree not below a `not`, and not yet used. Checking a list of
conditions is evaluating their `and`, and checks nothing when the list is empty, as an absent
list is read. -/
theorem condition_offers_witness_gates (g : Game) (s : GameState) :
    (∀ (c : Condition) (o : Outcome), evalCondition g s c = .ok o →
      (o.passed = false → o.marks = [] ∧ Fails g s c) ∧
      (o.passed = true → Passes g s c o.marks) ∧
      ∀ m ∈ o.marks, m ∈ c.gates ∧ s.usedGate m = false) ∧
    (∀ cs : List Condition, checkAll g s cs = evalCondition g s (.all cs)) ∧
    checkAll g s [] = .ok ⟨true, []⟩ := by
  refine ⟨fun c o h => ?_, checkAll_eq_all, rfl⟩
  rcases evalCondition_fits c h with ⟨hp, hpass⟩ | ⟨hp, hnil, hfail⟩
  · exact ⟨by simp [hp], fun _ => hpass, Passes.offers hpass⟩
  · refine ⟨fun _ => ⟨hnil, hfail⟩, by simp [hp], ?_⟩
    simp [hnil]

/-- An `or` whose first child's gate is used passes by its second child, an `and` that offers
its own `once` gate and nothing from below its `not`. -/
theorem second_branch_offers_its_gate :
    evalCondition default { GameState.initial (.str "a") Flags.empty with once := [.str "used"] }
        (.any [.leaf .once (.str "used") .null,
          .all [.leaf .once (.str "tip") .null, .negate (.leaf .once (.str "used") .null)]]) =
        .ok ⟨true, [.str "tip"]⟩ ∧
      Passes default { GameState.initial (.str "a") Flags.empty with once := [.str "used"] }
        (.any [.leaf .once (.str "used") .null,
          .all [.leaf .once (.str "tip") .null, .negate (.leaf .once (.str "used") .null)]])
        [.str "tip"] ∧
      ∀ m ∈ [Value.str "tip"],
        m ∈ (Condition.any [.leaf .once (.str "used") .null,
          .all [.leaf .once (.str "tip") .null, .negate (.leaf .once (.str "used") .null)]]).gates ∧
        GameState.usedGate { GameState.initial (.str "a") Flags.empty with once := [.str "used"] } m =
          false := by
  have heval : evalCondition default
      { GameState.initial (.str "a") Flags.empty with once := [.str "used"] }
      (.any [.leaf .once (.str "used") .null,
        .all [.leaf .once (.str "tip") .null, .negate (.leaf .once (.str "used") .null)]]) =
      .ok ⟨true, [.str "tip"]⟩ := by rfl
  have hwitness := (condition_offers_witness_gates default _).1 _ _ heval
  exact ⟨heval, hwitness.2.1 rfl, hwitness.2.2⟩

end Adventure.Play
