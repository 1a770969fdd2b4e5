import Adventure.Proofs.Play.Changes

/-! Showing a text changes the play state only by using the gates of the fragments it keeps. -/

namespace Adventure.Play

open Std.Do Adventure.Story

set_option mvcgen.warning false

namespace GameState

/-- Using two lists of gates is using the first, then the second. -/
theorem commitMarks_append (s : GameState) (gs hs : List Value) :
    s.commitMarks (gs ++ hs) = (s.commitMarks gs).commitMarks hs :=
  List.foldl_append

/-- Using gates changes the gates used and nothing else. -/
theorem commitMarks_eq (s : GameState) (gates : List Value) :
    s.commitMarks gates = { s with once := (s.commitMarks gates).once } := by
  induction gates generalizing s with
  | nil => rfl
  | cons g gs ih => rw [commitMarks_cons, ih]; rfl

/-- The states reached from `s` by using gates. -/
def Gated (s s' : GameState) : Prop := ∃ gates, s' = s.commitMarks gates

namespace Gated

variable {s s' s'' : GameState}

/-- A state is reached from itself by using no gate. -/
@[grind .]
theorem refl (s : GameState) : Gated s s := ⟨[], rfl⟩

/-- Using more gates after gated ones stays gated. -/
@[grind! =>]
theorem commitMarks (h : Gated s s') (gates : List Value) : Gated s (s'.commitMarks gates) := by
  obtain ⟨gs, rfl⟩ := h
  exact ⟨gs ++ gates, (commitMarks_append s gs gates).symm⟩

/-- States reached by using gates, from states so reached, are reached by using gates. -/
theorem trans (h : Gated s s') (h' : Gated s' s'') : Gated s s'' := by
  obtain ⟨gs, rfl⟩ := h'
  exact h.commitMarks gs

/-- A state with gates used since `s` agrees with `s` everywhere but in the gates, which only
grew. -/
theorem eq_with_once (h : Gated s s') : s' = { s with once := s'.once } ∧ s.once <+: s'.once := by
  obtain ⟨gates, rfl⟩ := h
  exact ⟨commitMarks_eq s gates, once_prefix_commitMarks s gates⟩

end Gated

end GameState

open GameState

/-- The postcondition of an action whose every run ends with gates used since `s₀`. -/
abbrev gatedPost {α : Type} (s₀ : GameState) :
    PostCond α (.except Fault (.arg GameState .pure)) :=
  post⟨fun _ s => ⌜Gated s₀ s⌝, fun _ s => ⌜Gated s₀ s⌝⟩

section Texts

variable (s₀ : GameState) (g : Game)

-- The triples of `Changes` are registered for `mvcgen`, and it prefers them to unfolding; the
-- texts are therefore unfolded here by hand before the conditions are generated.

/-- Showing a text leaves a state reached from the first by using gates. -/
theorem renderText_gated (text : Text) :
    ⦃fun s => ⌜Gated s₀ s⌝⦄ renderText g text ⦃gatedPost s₀⦄ := by
  cases text with
  | none => simp only [renderText]; mvcgen
  | plain t => simp only [renderText]; mvcgen
  | passage p =>
    simp only [renderText, renderFragments]
    mvcgen [Act.ofExcept] invariants
      · gatedPost s₀
      · gatedPost s₀
    with grind

end Texts

/-- Showing a text ends, finished or failed, with gates used and nothing else changed. -/
theorem gated_renderText (g : Game) (text : Text) (s : GameState) :
    Gated s (runState (renderText g text) s) :=
  runState_of_triple fun s' hs => renderText_gated s g text s' (by subst hs; exact Gated.refl _)

end Adventure.Play
