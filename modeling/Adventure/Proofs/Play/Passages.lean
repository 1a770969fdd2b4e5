import Adventure.Proofs.Number.Order
import Adventure.Proofs.Play.Gates
import Adventure.Proofs.Session.Refusals
import Adventure.Proofs.Story.Validation

/-! A passage shows, of its passing fragments, those of the top priority that are first in their
group, and uses only their gates. -/

namespace Adventure

/-- A value equals a text exactly when it is that text. -/
theorem Value.equals_text_right {t : String} {y : Value} :
    y.equals (.str t) = true ↔ y = .str t := by
  cases y with
  | str s => simp [Value.equals]
  | _ => simp [Value.equals, Value.num?]

/-- A value is among a list with one more entry when it is among the list or the same member as that
entry. -/
theorem Value.memberOf_append_single (v g : Value) (seen : List Value) :
    v.memberOf (seen ++ [g]) = (v.memberOf seen || v.sameItem g) := by
  simp [Value.memberOf]

namespace Story

/-- A fragment with the kinds of fields content gives it: its text is a text, its group null or
a text, and its priority a number other than not-a-number. -/
structure Fragment.WellTyped (f : Fragment) : Prop where
  say : ∃ t, f.say = .str t
  group : f.group = .null ∨ ∃ t, f.group = .str t
  priority : ∃ x, f.priority.exact = some x

end Story

namespace Play

open Adventure.Story

/-- The fragments whose conditions pass on `s`, in order, each with the gates its conditions
used; the first fault of a condition is the fault of the whole. -/
def passingFragments (g : Game) (s : GameState) :
    List Fragment → Except Fault (List (Fragment × List Value))
  | [] => .ok []
  | f :: rest => do
    let outcome ← checkAll g s f.when
    let others ← passingFragments g s rest
    return if outcome.passed then (f, outcome.marks) :: others else others

/-- Whether the first fragment is in a group and the second is in the same one. -/
def sameGroup (f f' : Fragment) : Bool := f.group.truthy && f'.group.equals f.group

/-- Of fragments in order, every one in no group and the first of each group. -/
def firstOfEachGroup : List (Fragment × List Value) → List (Fragment × List Value)
  | [] => []
  | p :: rest => p :: (firstOfEachGroup rest).filter fun q => !sameGroup p.1 q.1

/-- The fragments at the place `x` that are kept once the groups `seen` are taken. -/
def keptAfter (x : WithBot (WithTop ℚ)) (seen : List Value)
    (fragments : List (Fragment × List Value)) : List (Fragment × List Value) :=
  firstOfEachGroup ((fragments.filter fun p => decide (p.1.priority.exact = some x)).filter
    fun p => !(p.1.group.truthy && p.1.group.memberOf seen))

/-- A sequence runs its first step, then goes on from where it left the state, or fails there. -/
theorem run_bind_eq {α β : Type} (x : Act α) (f : α → Act β) (s : GameState) :
    (x >>= f).run s = match x.run s with
      | .ok a t => (f a).run t
      | .error e t => .error e t := by
  cases h : x.run s with
  | ok a t => exact run_bind_of_ok h f
  | error e t => exact run_bind_of_error h f

section Passing

variable {g : Game} {s : GameState} {f : Fragment} {rest : List Fragment}

/-- The passing fragments of a passage are its first, when it passes, with its gates, and the
passing ones of the rest. -/
theorem passingFragments_cons_ok {o : Outcome} {others : List (Fragment × List Value)}
    (hcheck : checkAll g s f.when = .ok o) (hrest : passingFragments g s rest = .ok others) :
    passingFragments g s (f :: rest) =
      .ok (if o.passed then (f, o.marks) :: others else others) := by
  rw [passingFragments, hcheck, hrest]
  rfl

/-- Every passing fragment is a fragment of the passage. -/
theorem mem_of_passingFragments {fragments : List Fragment} {P : List (Fragment × List Value)}
    (h : passingFragments g s fragments = .ok P) : ∀ p ∈ P, p.1 ∈ fragments := by
  induction fragments generalizing P with
  | nil =>
    cases h
    simp
  | cons f rest ih =>
    cases hcheck : checkAll g s f.when with
    | error e =>
      rw [passingFragments, hcheck] at h
      cases h
    | ok o =>
      cases hrest : passingFragments g s rest with
      | error e =>
        rw [passingFragments, hcheck, hrest] at h
        cases h
      | ok others =>
        rw [passingFragments_cons_ok hcheck hrest, Except.ok.injEq] at h
        subst h
        intro p hp
        have hmem := fun hp' => List.mem_cons_of_mem f (ih hrest p hp')
        split at hp
        · rcases List.mem_cons.1 hp with rfl | hp'
          · exact List.mem_cons_self
          · exact hmem hp'
        · exact hmem hp

variable {body : Fragment → List (Fragment × List Value) →
  Act (ForInStep (List (Fragment × List Value)))}

/-- The first pass checks each fragment on the state it started from and collects those that
pass, by induction on the fragments with the state fixed. -/
theorem run_forIn_collect
    (hbody : ∀ f acc, (body f acc).run s = match checkAll g s f.when with
      | .ok o => .ok (.yield (if o.passed then acc ++ [(f, o.marks)] else acc)) s
      | .error e => .error e s)
    (fragments : List Fragment) (acc : List (Fragment × List Value)) :
    (forIn fragments acc body).run s = match passingFragments g s fragments with
      | .ok P => .ok (acc ++ P) s
      | .error e => .error e s := by
  induction fragments generalizing acc with
  | nil => simp [passingFragments]
  | cons f rest ih =>
    rw [List.forIn_cons]
    cases hcheck : checkAll g s f.when with
    | error e =>
      rw [run_bind_of_error (by rw [hbody, hcheck]), passingFragments, hcheck]
      rfl
    | ok o =>
      rw [run_bind_of_ok (by rw [hbody, hcheck]), ih, passingFragments, hcheck]
      cases passingFragments g s rest with
      | error e => rfl
      | ok P =>
        obtain ⟨passed, marks⟩ := o
        cases passed <;> simp <;> rfl

end Passing

section Top

variable {acc : Value} {a : WithBot (WithTop ℚ)}

/-- Running through priorities and keeping the later one whenever it is above ends on the
largest place, which one of them stands at; by induction on the priorities left. -/
theorem foldlM_top (hacc : acc.exact = some a) {rest : List Value}
    (h : ∀ q ∈ rest, ∃ y, q.exact = some y) :
    ∃ top x, rest.foldlM (fun top q => do if ← top.lessThan q then pure q else pure top) acc =
        .ok top ∧ top.exact = some x ∧ (top = acc ∨ top ∈ rest) ∧ a ≤ x ∧
        ∀ q ∈ rest, ∃ y, q.exact = some y ∧ y ≤ x := by
  induction rest generalizing acc a with
  | nil => exact ⟨acc, a, rfl, hacc, .inl rfl, le_rfl, by simp⟩
  | cons q rest ih =>
    obtain ⟨y, hy⟩ := h q List.mem_cons_self
    have hrest : ∀ q ∈ rest, ∃ y, q.exact = some y :=
      fun q' hq' => h q' (List.mem_cons_of_mem q hq')
    by_cases hlt : a < y
    · -- the later priority is above: it goes on
      obtain ⟨top, x, hrun, htop, hmem, hyx, hall⟩ := ih hy hrest
      refine ⟨top, x, ?_, htop, ?_, hlt.le.trans hyx, ?_⟩
      · rw [List.foldlM_cons, Value.lessThan_exact hacc hy, decide_eq_true hlt]
        exact hrun
      · rcases hmem with rfl | hmem <;> simp_all
      · simp_all
    · -- the later priority is not above: the earlier one goes on
      obtain ⟨top, x, hrun, htop, hmem, hax, hall⟩ := ih hacc hrest
      refine ⟨top, x, ?_, htop, ?_, hax, ?_⟩
      · rw [List.foldlM_cons, Value.lessThan_exact hacc hy, decide_eq_false hlt]
        exact hrun
      · rcases hmem with rfl | hmem <;> simp_all
      · simp only [List.mem_cons, forall_eq_or_imp]
        exact ⟨⟨y, hy, (not_lt.1 hlt).trans hax⟩, hall⟩

/-- The largest of some priorities, each a number other than not-a-number, is one of them and
at least every other. -/
theorem topPriority_exact (ps : List Value) (hne : ps ≠ []) (h : ∀ p ∈ ps, ∃ x, p.exact = some x) :
    ∃ top x, topPriority ps = .ok top ∧ top ∈ ps ∧ top.exact = some x ∧
      ∀ p ∈ ps, ∃ y, p.exact = some y ∧ y ≤ x := by
  cases ps with
  | nil => exact absurd rfl hne
  | cons p rest =>
    obtain ⟨a, ha⟩ := h p List.mem_cons_self
    obtain ⟨top, x, hrun, htop, hmem, hax, hall⟩ :=
      foldlM_top ha fun q hq => h q (List.mem_cons_of_mem p hq)
    refine ⟨top, x, hrun, ?_, htop, ?_⟩
    · rcases hmem with rfl | hmem
      · exact List.mem_cons_self
      · exact List.mem_cons_of_mem p hmem
    · simp only [List.mem_cons, forall_eq_or_imp]
      exact ⟨⟨a, ha, hax⟩, hall⟩

end Top

section Groups

variable {f : Fragment}

/-- A fragment of a text group or none shares a group with another exactly when it has one and the
other's is the same. -/
theorem sameGroup_iff {f' : Fragment} (hf : f.group = .null ∨ ∃ t, f.group = .str t) :
    sameGroup f f' = true ↔ f.group.truthy = true ∧ f'.group = f.group := by
  rcases hf with h | ⟨t, h⟩
  · simp [sameGroup, h, Value.truthy]
  · simp [sameGroup, h, Value.equals_text_right]

/-- Dropping a group before or after keeping the first of each group comes to the same, by
induction on the fragments. -/
theorem firstOfEachGroup_filter (hf : f.group = .null ∨ ∃ t, f.group = .str t)
    (fragments : List (Fragment × List Value)) :
    firstOfEachGroup (fragments.filter fun q => !sameGroup f q.1) =
      (firstOfEachGroup fragments).filter fun q => !sameGroup f q.1 := by
  induction fragments with
  | nil => rfl
  | cons q rest ih =>
    by_cases hq : sameGroup f q.1 = true
    · -- `q` is in `f`'s group, so dropping `q`'s group is dropping `f`'s
      have hsame : sameGroup q.1 = sameGroup f := by
        funext r
        rw [sameGroup, sameGroup, ((sameGroup_iff hf).1 hq).2]
      simp [hq, firstOfEachGroup, ih, hsame, List.filter_filter]
    · simp [hq, firstOfEachGroup, ih, List.filter_filter, Bool.and_comm]

/-- The first fragments of the groups are among the fragments, in their order. -/
theorem firstOfEachGroup_sublist :
    ∀ fragments : List (Fragment × List Value), (firstOfEachGroup fragments).Sublist fragments
  | [] => .slnil
  | p :: rest => (List.filter_sublist.trans (firstOfEachGroup_sublist rest)).cons_cons p

/-- No two of the first fragments of each group share a group. -/
theorem firstOfEachGroup_pairwise {fragments : List (Fragment × List Value)}
    (h : ∀ p ∈ fragments, p.1.group = .null ∨ ∃ t, p.1.group = .str t) :
    (firstOfEachGroup fragments).Pairwise
      fun a b => a.1.group.truthy = true → b.1.group ≠ a.1.group := by
  induction fragments with
  | nil => exact .nil
  | cons p rest ih =>
    refine List.Pairwise.cons (fun b hb hp heq => ?_)
      ((ih fun q hq => h q (List.mem_cons_of_mem p hq)).sublist List.filter_sublist)
    have hdiff : sameGroup p.1 b.1 = false := by simpa using (List.mem_filter.1 hb).2
    rw [(sameGroup_iff (h p List.mem_cons_self)).2 ⟨hp, heq⟩] at hdiff
    exact Bool.noConfusion hdiff

end Groups

section Keep

variable {x : WithBot (WithTop ℚ)} {p : Fragment × List Value} {seen : List Value}
  {rest : List (Fragment × List Value)}

/-- With no groups seen, the fragments kept are the first of each group among those of the top
priority. -/
theorem keptAfter_nil_seen (fragments : List (Fragment × List Value)) :
    keptAfter x [] fragments =
      firstOfEachGroup (fragments.filter fun p => p.1.priority.exact = some x) := by
  simp [keptAfter, Value.memberOf]

/-- A fragment below the top priority is not kept. -/
theorem keptAfter_cons_of_below (htop : ¬ p.1.priority.exact = some x) :
    keptAfter x seen (p :: rest) = keptAfter x seen rest := by
  simp [keptAfter, htop]

/-- A fragment of a group already seen is not kept. -/
theorem keptAfter_cons_of_seen (htop : p.1.priority.exact = some x)
    (hgroup : p.1.group.truthy = true) (hseen : p.1.group.memberOf seen = true) :
    keptAfter x seen (p :: rest) = keptAfter x seen rest := by
  simp [keptAfter, htop, hgroup, hseen]

/-- A fragment of the top priority with no group is kept. -/
theorem keptAfter_cons_of_ungrouped (htop : p.1.priority.exact = some x)
    (hgroup : p.1.group.truthy = false) :
    keptAfter x seen (p :: rest) = p :: keptAfter x seen rest := by
  simp [keptAfter, htop, hgroup, firstOfEachGroup, sameGroup]

/-- The first fragment of its group in the tier is kept, and its group counts as seen after
it. -/
theorem keptAfter_cons_of_first (hwell : p.1.WellTyped) (htop : p.1.priority.exact = some x)
    (hgroup : p.1.group.truthy = true) (hnew : p.1.group.memberOf seen = false) :
    keptAfter x seen (p :: rest) = p :: keptAfter x (seen ++ [p.1.group]) rest := by
  obtain ⟨t, ht⟩ : ∃ t, p.1.group = .str t := by
    rcases hwell.group with h | h
    · simp [h, Value.truthy] at hgroup
    · exact h
  have hfilter : ∀ q : Fragment × List Value,
      (!(q.1.group.truthy && q.1.group.memberOf (seen ++ [p.1.group]))) =
        ((!(q.1.group.truthy && q.1.group.memberOf seen)) && !sameGroup p.1 q.1) := by
    intro q
    rw [Value.memberOf_append_single, sameGroup, hgroup, ht, Value.sameItem_str_right]
    -- a fragment in no group is not in the text group of `p` either
    cases hq : q.1.group.truthy
    · have : q.1.group.equals (.str t) = false := by
        rw [Bool.eq_false_iff]
        intro h
        rw [Value.equals_text_right.1 h, ← ht, hgroup] at hq
        exact Bool.noConfusion hq
      simp [this]
    · simp
  simp only [keptAfter, List.filter_cons, htop, decide_true, hgroup, hnew, Bool.and_false,
    Bool.not_false, if_true, firstOfEachGroup]
  rw [← firstOfEachGroup_filter hwell.group, List.filter_filter]
  congr 2
  apply List.filter_congr
  intro q _
  rw [hfilter, Bool.and_comm]

variable {body : Fragment × List Value → List Value × List Value →
  Act (ForInStep (List Value × List Value))}

/-- The second pass keeps the fragments of the top tier that are in no group or first in
theirs, collecting their texts and groups and using their gates; by induction on the passing
fragments, with the groups seen, the texts and the state generalized. -/
theorem run_forIn_keep (fragments : List (Fragment × List Value))
    (hwell : ∀ p ∈ fragments, p.1.WellTyped)
    (hbody : ∀ p ∈ fragments, ∀ seen spoken t, (body p (seen, spoken)).run t =
      if p.1.priority.exact = some x then
        if p.1.group.truthy && p.1.group.memberOf seen then .ok (.yield (seen, spoken)) t
        else .ok (.yield (if p.1.group.truthy then seen ++ [p.1.group] else seen,
          spoken ++ [p.1.say])) (t.commitMarks p.2)
      else .ok (.yield (seen, spoken)) t)
    (seen spoken : List Value) (t : GameState) :
    (forIn fragments (seen, spoken) body).run t =
      .ok (seen ++ ((keptAfter x seen fragments).filter (·.1.group.truthy)).map (·.1.group),
        spoken ++ (keptAfter x seen fragments).map (·.1.say))
        (t.commitMarks ((keptAfter x seen fragments).flatMap (·.2))) := by
  induction fragments generalizing seen spoken t with
  | nil => simp [keptAfter, firstOfEachGroup]
  | cons p rest ih =>
    have hp := hbody p List.mem_cons_self
    have ih' := ih (fun q hq => hwell q (List.mem_cons_of_mem p hq))
      (fun q hq => hbody q (List.mem_cons_of_mem p hq))
    rw [List.forIn_cons]
    by_cases htop : p.1.priority.exact = some x
    · cases hgroup : p.1.group.truthy with
      | false =>
        -- a fragment in no group is kept
        rw [run_bind_of_ok (by rw [hp, if_pos htop, hgroup]; rfl),
          keptAfter_cons_of_ungrouped htop hgroup]
        simp [ih', hgroup, GameState.commitMarks_append]
      | true =>
        cases hseen : p.1.group.memberOf seen with
        | true =>
          -- an earlier fragment of the tier had its group
          rw [run_bind_of_ok (by rw [hp, if_pos htop, hgroup, hseen]; rfl),
            keptAfter_cons_of_seen htop hgroup hseen]
          exact ih' seen spoken t
        | false =>
          -- the first fragment of its group
          rw [run_bind_of_ok (by rw [hp, if_pos htop, hgroup, hseen]; rfl),
            keptAfter_cons_of_first (hwell p List.mem_cons_self) htop hgroup hseen]
          simp [ih', hgroup, GameState.commitMarks_append]
    · rw [run_bind_of_ok (by rw [hp, if_neg htop]), keptAfter_cons_of_below htop]
      exact ih' seen spoken t

end Keep

/-- Fragments that say texts say a list of texts. -/
theorem exists_texts {kept : List (Fragment × List Value)}
    (h : ∀ p ∈ kept, ∃ t, p.1.say = .str t) :
    ∃ texts : List String, kept.map (·.1.say) = texts.map .str := by
  induction kept with
  | nil => exact ⟨[], rfl⟩
  | cons p rest ih =>
    obtain ⟨t, ht⟩ := h p List.mem_cons_self
    obtain ⟨texts, htexts⟩ := ih fun q hq => h q (List.mem_cons_of_mem p hq)
    exact ⟨t :: texts, by simp [ht, htexts]⟩

/-- A reading that gives every text back reads a list of texts as itself. -/
theorem mapM_texts {F : Value → Except Fault String} (hF : ∀ t, F (.str t) = .ok t)
    (texts : List String) : (texts.map Value.str).mapM F = .ok texts := by
  induction texts with
  | nil => rfl
  | cons t rest ih =>
    rw [List.map_cons, List.mapM_cons, hF, ih]
    rfl

/-- Texts are joined with blank lines between them. -/
theorem joinSays_texts (texts : List String) :
    joinSays (texts.map .str) = .ok ("\n\n".intercalate texts) := by
  rw [joinSays, mapM_texts fun _ => rfl]
  rfl

/-- Using gates appends each, unless present, to the gates used, and changes nothing else. -/
theorem commitMarks_once (s : GameState) (gates : List Value) :
    s.commitMarks gates = { s with once := gates.foldl appendNew s.once } := by
  induction gates generalizing s with
  | nil => rfl
  | cons g gs ih => rw [GameState.commitMarks_cons, ih]; rfl

/-- How a passage is shown, from the fragments whose conditions pass: a fault of a condition is
the fault of the whole, with the state unchanged; with none passing nothing is shown; otherwise
the kept texts are joined and their gates used. -/
theorem renderFragments_run (g : Game) (s : GameState) (fragments : List Fragment)
    (hwell : ∀ f ∈ fragments, f.WellTyped) :
    (∀ e, passingFragments g s fragments = .error e →
      (renderFragments g fragments).run s = .error e s) ∧
    ∀ P, passingFragments g s fragments = .ok P →
      (P = [] → (renderFragments g fragments).run s = .ok "" s) ∧
      ∀ x, (∃ p ∈ P, p.1.priority.exact = some x) →
        (∀ p ∈ P, ∃ y, p.1.priority.exact = some y ∧ y ≤ x) →
        ∃ texts : List String, (keptAfter x [] P).map (·.1.say) = texts.map .str ∧
          (renderFragments g fragments).run s =
            .ok ("\n\n".intercalate texts) (s.commitMarks ((keptAfter x [] P).flatMap (·.2))) := by
  unfold renderFragments
  simp only []
  rw [run_bind_eq, run_forIn_collect (g := g)]
  swap
  · -- one step of the first pass reads the state and changes nothing
    intro f acc
    rw [run_get_bind]
    cases h : checkAll g s f.when with
    | error e => rfl
    | ok o => cases hp : o.passed <;> simp [Act.ofExcept, hp]
  refine ⟨fun e he => by rw [he], fun P hP => ?_⟩
  rw [hP]
  simp only [List.nil_append]
  refine ⟨fun hnil => by subst hnil; rfl, fun x hxmem hxmax => ?_⟩
  have hwellP : ∀ p ∈ P, p.1.WellTyped := fun p hp => hwell p.1 (mem_of_passingFragments hP p hp)
  obtain ⟨top, x', htop, hmem, hx', hmax⟩ := topPriority_exact (P.map (·.1.priority))
    (by obtain ⟨p, hp, _⟩ := hxmem; exact List.ne_nil_of_mem (List.mem_map_of_mem hp))
    (by
      simp only [List.mem_map]
      rintro _ ⟨p, hp, rfl⟩
      exact (hwellP p hp).priority)
  -- the priority the second pass compares with stands at the largest place
  have hxx : x' = x := by
    obtain ⟨p, hp, hpx⟩ := hxmem
    obtain ⟨q, hq, rfl⟩ := List.mem_map.1 hmem
    obtain ⟨y, hy, hyx⟩ := hxmax q hq
    obtain ⟨y', hy', hyx'⟩ := hmax p.1.priority (List.mem_map_of_mem hp)
    rw [hx', Option.some_inj] at hy
    rw [hpx, Option.some_inj] at hy'
    subst hy hy'
    exact le_antisymm hyx hyx'
  subst hxx
  have hkept : ∀ p ∈ keptAfter x' [] P, p.1.WellTyped := fun p hp =>
    hwellP p (((firstOfEachGroup_sublist _).trans
      (List.filter_sublist.trans List.filter_sublist)).subset hp)
  obtain ⟨texts, htexts⟩ := exists_texts fun p hp => (hkept p hp).say
  refine ⟨texts, htexts, ?_⟩
  have hne : P.isEmpty = false := by
    obtain ⟨p, hp, -⟩ := hxmem
    exact List.isEmpty_eq_false_iff_exists_mem.2 ⟨p, hp⟩
  have hrunTop : (Act.ofExcept (topPriority (P.map (·.1.priority)))).run s = .ok top s := by
    rw [htop]
    rfl
  rw [hne, if_neg Bool.false_ne_true, run_bind_of_ok hrunTop, run_bind_eq,
    run_forIn_keep (x := x') P hwellP]
  · dsimp only
    rw [List.nil_append, htexts, joinSays_texts]
    rfl
  · -- one step of the second pass, by the kind of the fragment's group
    intro p hp seen spoken t
    have hwp := hwellP p hp
    obtain ⟨y, hy⟩ := hwp.priority
    rw [Value.equals_exact hy hx']
    by_cases hyx : y = x'
    · subst hyx
      rcases hwp.group with hnull | ⟨name, hname⟩
      · simp [hy, hnull, Value.truthy]
      · cases hmemb : (Value.str name).memberOf seen <;>
          simp [hy, hname, Value.truthy, Value.hashable, hmemb] <;> split_ifs <;> rfl
    · simp [hy, hyx]

/-- Showing a passage whose fragments have texts, groups that are null or texts, and priorities
that are numbers other than not-a-number. Let `P` be the fragments whose conditions pass on the
state, all checked before any gate is used. If `P` is empty nothing is shown and the state is
unchanged. Otherwise, with `top` the largest priority of `P` by value, the fragments kept are
those of `P` at `top` that are in no group or first in theirs; their texts are shown joined by a
blank line, and the only change is that their gates, and no others, are appended to the gates
used, in order and each once. So at most one fragment of a group is kept, and none below a
passing one. -/
theorem passage_keeps_first_of_top_tier (g : Game) (s : GameState) (fragments : List Fragment)
    (hwell : ∀ f ∈ fragments, f.WellTyped) :
    (∀ e, passingFragments g s fragments = .error e →
      (renderFragments g fragments).run s = .error e s) ∧
    ∀ P, passingFragments g s fragments = .ok P →
      (P = [] → (renderFragments g fragments).run s = .ok "" s) ∧
      (P ≠ [] → ∃ top : WithBot (WithTop ℚ),
        (∃ p ∈ P, p.1.priority.exact = some top) ∧
        (∀ p ∈ P, ∃ y, p.1.priority.exact = some y ∧ y ≤ top) ∧
        let kept := firstOfEachGroup (P.filter fun p => p.1.priority.exact = some top)
        (∃ texts : List String, kept.map (·.1.say) = texts.map .str ∧
          (renderFragments g fragments).run s = .ok ("\n\n".intercalate texts)
            { s with once := (kept.flatMap (·.2)).foldl appendNew s.once }) ∧
        kept.Sublist P ∧
        kept.Pairwise fun a b => a.1.group.truthy = true → b.1.group ≠ a.1.group) := by
  obtain ⟨hfault, hpass⟩ := renderFragments_run g s fragments hwell
  refine ⟨hfault, fun P hP => ⟨(hpass P hP).1, fun hne => ?_⟩⟩
  have hwellP : ∀ p ∈ P, p.1.WellTyped := fun p hp => hwell p.1 (mem_of_passingFragments hP p hp)
  obtain ⟨top, x, -, hmem, htop, hmax⟩ := topPriority_exact (P.map (·.1.priority))
    (by simpa using hne)
    (by
      simp only [List.mem_map]
      rintro _ ⟨p, hp, rfl⟩
      exact (hwellP p hp).priority)
  have hattained : ∃ p ∈ P, p.1.priority.exact = some x := by
    obtain ⟨p, hp, rfl⟩ := List.mem_map.1 hmem
    exact ⟨p, hp, htop⟩
  have hbound : ∀ p ∈ P, ∃ y, p.1.priority.exact = some y ∧ y ≤ x :=
    fun p hp => hmax p.1.priority (List.mem_map_of_mem hp)
  obtain ⟨texts, htexts, hrun⟩ := (hpass P hP).2 x hattained hbound
  rw [keptAfter_nil_seen] at htexts hrun
  refine ⟨x, hattained, hbound, ⟨texts, htexts, by rw [hrun, commitMarks_once]⟩,
    (firstOfEachGroup_sublist _).trans List.filter_sublist, ?_⟩
  exact firstOfEachGroup_pairwise fun p hp => (hwellP p (List.mem_filter.1 hp).1).group

/-- Two fragments of one group at the top priority and one below it. -/
theorem grouped_tier_shown :
    (∀ f ∈ [Fragment.mk (.str "a") [] (.int 1) (.str "g"), Fragment.mk (.str "b") [] (.int 1) (.str "g"),
        Fragment.mk (.str "c") [] (.int 0) .null], f.WellTyped) ∧
    let fragments := [Fragment.mk (.str "a") [] (.int 1) (.str "g"),
      Fragment.mk (.str "b") [] (.int 1) (.str "g"), Fragment.mk (.str "c") [] (.int 0) .null]
    let s := GameState.initial (.str "a") Flags.empty
    (∀ e, passingFragments default s fragments = .error e →
      (renderFragments default fragments).run s = .error e s) ∧
    ∀ P, passingFragments default s fragments = .ok P →
      (P = [] → (renderFragments default fragments).run s = .ok "" s) ∧
      (P ≠ [] → ∃ top : WithBot (WithTop ℚ),
        (∃ p ∈ P, p.1.priority.exact = some top) ∧
        (∀ p ∈ P, ∃ y, p.1.priority.exact = some y ∧ y ≤ top) ∧
        let kept := firstOfEachGroup (P.filter fun p => p.1.priority.exact = some top)
        (∃ texts : List String, kept.map (·.1.say) = texts.map .str ∧
          (renderFragments default fragments).run s = .ok ("\n\n".intercalate texts)
            { s with once := (kept.flatMap (·.2)).foldl appendNew s.once }) ∧
        kept.Sublist P ∧
        kept.Pairwise fun a b => a.1.group.truthy = true → b.1.group ≠ a.1.group) := by
  have hwell : ∀ f ∈ [Fragment.mk (.str "a") [] (.int 1) (.str "g"),
      Fragment.mk (.str "b") [] (.int 1) (.str "g"), Fragment.mk (.str "c") [] (.int 0) .null],
      f.WellTyped := by
    intro f hf
    simp only [List.mem_cons, List.not_mem_nil, or_false] at hf
    rcases hf with rfl | rfl | rfl <;>
      exact ⟨⟨_, rfl⟩, by simp, ⟨_, rfl⟩⟩
  exact ⟨hwell, passage_keeps_first_of_top_tier default _ _ hwell⟩

end Play

end Adventure
