import Adventure.Proofs.Command.Dialogue
import Adventure.Proofs.Story.Validation

/-! A one-shot gate, once used, stays used until the next fresh start, and no `once` leaf on it
passes again. -/

namespace Adventure

open Std.Do Adventure.Story Adventure.Play

namespace Play

/-- A turn leaves the used gates as they are. -/
theorem once_runState_tick (s : GameState) : (runState tick s).once = s.once := by
  rw [runState_tick_eq]

/-- While its gate is used, a `once` leaf fails and offers nothing. -/
theorem evalLeaf_once_of_used {g : Game} {s : GameState} {t : String}
    (hused : Value.str t ∈ s.once) (value : Value) :
    evalLeaf g s .once (.str t) value = .ok .fail := by
  have hgate : s.usedGate (.str t) = true := Value.memberOf_text.mpr hused
  simp [evalLeaf, hgate]

end Play

namespace Value

/-- A text among values is still among them once they are read back. -/
theorem mem_canonItems_of_text {t : String} : ∀ {xs : List Value}, Value.str t ∈ xs →
    Value.str t ∈ canonItems xs
  | v :: rest, h => by
    rw [canonItems]
    rcases List.mem_cons.mp h with rfl | hrest
    · exact List.mem_cons_self
    · exact List.mem_cons_of_mem _ (mem_canonItems_of_text hrest)

end Value

namespace Request

/-- Every request but a fresh start only adds gates to those used: it goes on from its turn,
which leaves the gates, or from the state itself. -/
theorem once_playState (g : Game) (s : GameState) {request : Request}
    (hstart : request ≠ .startGame) : s.once <+: (request.playState g s).once := by
  have hgrow := (reach_playState g s hstart).prefix_once
  split at hgrow
  · rwa [once_runState_tick] at hgrow
  · exact hgrow

end Request

namespace Session

/-- A gate named by a text stays used through every request but a fresh start, reopening
included. -/
theorem used_answer {session : Session} {t : String} (hused : Value.str t ∈ session.state.once)
    {request : Request} (hstart : request ≠ .startGame) :
    Value.str t ∈ (runState (answer request) session).state.once := by
  by_cases hreopen : request = .reopen
  · subst hreopen
    rw [runState_answer_reopen]
    split
    · -- the snapshot's gates are read back, each text as itself
      rename_i session' hreopened
      rw [(reopened_state hreopened).2.2]
      exact Value.mem_canonItems_of_text hused
    · exact hused
  · rw [runState_answer hreopen]
    exact (Request.once_playState session.game session.state hstart).subset hused

/-- A gate once used, under a text, stays used through any requests until the session starts
afresh, reopening from its own snapshot included, and while it is used every `once` leaf on it
fails: no condition passes on its strength again. -/
theorem used_gate_stays_closed {session : Session} {t : String}
    (hused : Value.str t ∈ session.state.once) {requests : List Request}
    (hfresh : Request.startGame ∉ requests) :
    Value.str t ∈ (session.after requests).state.once ∧
      ∀ value, evalLeaf (session.after requests).game (session.after requests).state .once
        (.str t) value = .ok .fail := by
  -- by induction on the requests, one answer at a time
  have hkept : Value.str t ∈ (session.after requests).state.once := by
    induction requests generalizing session with
    | nil => exact hused
    | cons request rest ih =>
      have hstart : request ≠ .startGame := fun h => hfresh (h ▸ List.mem_cons_self)
      exact ih (used_answer hused hstart) fun h => hfresh (List.mem_cons_of_mem _ h)
  exact ⟨hkept, evalLeaf_once_of_used hkept⟩

/-- The gate `tip`, once used, stays closed through a hint, a reopening and a look. -/
theorem tip_stays_closed :
    let session : Session :=
      ⟨.null, false, default, { (default : GameState) with once := [.str "tip"] }⟩
    let requests := [Request.hint, .reopen, .look .null]
    Value.str "tip" ∈ session.state.once ∧ Request.startGame ∉ requests ∧
      Value.str "tip" ∈ (session.after requests).state.once ∧
      ∀ value, evalLeaf (session.after requests).game (session.after requests).state .once
        (.str "tip") value = .ok .fail :=
  ⟨List.mem_cons_self, by simp, used_gate_stays_closed List.mem_cons_self (by simp)⟩

end Session

end Adventure
