import Mathlib.Data.Nat.Dist
import Adventure.Proofs.Lighthouse.Moves

/-! The lighthouse has no dead end: from any state reached by play, some typed commands win, by
strong induction on the moves left. -/

namespace Adventure.Lighthouse

open Story Play Command Adventure.Text

/-- How high a room of the lighthouse stands: the jetty, the stairs, the lamp room. -/
def height : Value → Nat
  | .str "tower" => 1
  | .str "lamp-room" => 2
  | _ => 0

/-- No room stands higher than the lamp room. -/
theorem height_le (room : Value) : height room ≤ 2 := by
  unfold height
  split <;> omega

namespace Situation

/-- Whether the player carries the item `id`. -/
def carries (v : Situation) (id : String) : Bool := (Value.str id).memberOf v.inventory

/-- The measures of oil in the reservoir. -/
def measures (v : Situation) : Nat :=
  match v.oil with
  | .int k => k.toNat
  | _ => 0

/-- Whether the can is still wanted: oil is wanting and the can is not carried. -/
def wantsCan (v : Situation) : Bool := decide (v.measures < 2) && !v.carries "oil-can"

/-- The errands left before the lamp can be lit: the key and the matches until they are carried,
the can while it is wanted, and each measure the reservoir lacks. -/
def errands (v : Situation) : Nat :=
  (bif v.carries "brass-key" then 0 else 1) + (bif v.carries "matches" then 0 else 1) +
    (bif v.wantsCan then 1 else 0) + (2 - v.measures)

/-- How high the next errand is: on the jetty while the key or the matches are missing, on the
stairs while the can is wanted, in the lamp room after. -/
def errandHeight (v : Situation) : Nat :=
  bif v.carries "brass-key" && v.carries "matches" then (bif v.wantsCan then 1 else 2) else 0

/-- The moves left to win: three for each errand, and the flights of stairs to the next one. -/
def movesLeft (v : Situation) : Nat := 3 * v.errands + Nat.dist (height v.room) v.errandHeight

variable {v w : Situation}

/-- No errand is higher than the lamp room. -/
theorem errandHeight_le (v : Situation) : v.errandHeight ≤ 2 := by
  unfold errandHeight
  cases v.carries "brass-key" && v.carries "matches" <;> cases v.wantsCan <;> decide

/-- One errand fewer is worth any climb to the next one. -/
theorem movesLeft_lt_of_errands (h : w.errands < v.errands) : w.movesLeft < v.movesLeft := by
  have hw := height_le w.room
  have hg := w.errandHeight_le
  unfold movesLeft Nat.dist
  omega

/-- A move that keeps the errands and comes nearer the next one. -/
theorem movesLeft_lt_of_nearer (he : w.errands = v.errands) (hg : w.errandHeight = v.errandHeight)
    (hnear : Nat.dist (height w.room) v.errandHeight < Nat.dist (height v.room) v.errandHeight) :
    w.movesLeft < v.movesLeft := by
  unfold movesLeft
  rw [he, hg]
  omega

/-- A text is among the values after adding a text exactly when it was among them before or is
the one added. -/
theorem memberOf_appendNew (xs : List Value) (x y : String) :
    (Value.str y).memberOf (appendNew xs (.str x)) = ((Value.str y).memberOf xs || y == x) := by
  rw [Bool.eq_iff_iff, Bool.or_eq_true, Value.memberOf_text, Value.memberOf_text,
    mem_appendNew_text ⟨x, rfl⟩]
  simp

/-- Carrying `x` adds it to what is carried. -/
theorem carries_appendNew (v : Situation) (x y : String) (taken : List Value) (n : Int) :
    { v with inventory := appendNew v.inventory (.str x), taken := taken,
             turns := .int n }.carries y = (v.carries y || y == x) :=
  memberOf_appendNew _ _ _

/-- Carrying what an errand wants leaves one errand fewer. -/
theorem errands_carry {x : String} (hnew : v.carries x = false)
    (hwanted : x = "brass-key" ∨ x = "matches" ∨ x = "oil-can" ∧ v.measures < 2)
    (taken : List Value) (n : Int) :
    { v with inventory := appendNew v.inventory (.str x), taken := taken,
             turns := .int n }.errands < v.errands := by
  unfold errands wantsCan
  rw [carries_appendNew, carries_appendNew, carries_appendNew]
  change _ + _ + (bif decide (v.measures < 2) && _ then 1 else 0) + (2 - v.measures) < _
  rcases hwanted with rfl | rfl | ⟨rfl, hlow⟩
  · simp [hnew]
  · simp [hnew]
  · have hone : v.measures ≤ 1 := by omega
    simp [hnew, hone]

/-- A reservoir with `k` measures of oil counts `k` measures. -/
theorem measures_of_fuelled {k : Nat} (h : v.Fuelled k) : v.measures = k := by
  rw [measures, h.oil]
  simp

/-- Pouring a measure into a reservoir of `k` leaves `k + 1`, whatever else the pour sets. -/
theorem measures_pour (v : Situation) (k : Nat) (n : Int) (ready : Value) (primed : Bool) :
    { v with turns := .int n, oil := .int ((k : Int) + 1), ready := ready,
             primed := primed }.measures = k + 1 := by
  simp [measures]

/-- Pouring a measure with the can carried leaves one errand fewer. -/
theorem errands_pour {k : Nat} (hk : v.Fuelled k) (hlow : k < 2) (hcan : v.carries "oil-can" = true)
    (n : Int) (ready : Value) (primed : Bool) :
    { v with turns := .int n, oil := .int ((k : Int) + 1), ready := ready,
             primed := primed }.errands < v.errands := by
  unfold errands wantsCan
  rw [measures_pour, measures_of_fuelled hk]
  change (bif v.carries "brass-key" then 0 else 1) + (bif v.carries "matches" then 0 else 1) +
    (bif decide (k + 1 < 2) && !v.carries "oil-can" then 1 else 0) + (2 - (k + 1)) < _
  rw [hcan]
  cases v.carries "brass-key" <;> cases v.carries "matches" <;> simp <;> omega

/-- Until the key and the matches are carried, the next errand is on the jetty. -/
theorem errandHeight_of_missing (h : v.carries "brass-key" = false ∨ v.carries "matches" = false) :
    v.errandHeight = 0 := by
  unfold errandHeight
  rcases h with h | h <;> simp [h]

/-- With the key and the matches carried, the next errand is the can's on the stairs, or the
lamp's. -/
theorem errandHeight_of_carried (hkey : v.carries "brass-key" = true)
    (hmatches : v.carries "matches" = true) : v.errandHeight = bif v.wantsCan then 1 else 2 := by
  simp [errandHeight, hkey, hmatches]

/-- The next errand is the lamp's once the key and the matches are carried and the can is not
wanted. -/
theorem errandHeight_eq_two (h : v.errandHeight = 2) :
    v.carries "brass-key" = true ∧ v.carries "matches" = true ∧ v.wantsCan = false := by
  unfold errandHeight at h
  cases hkey : v.carries "brass-key" <;> cases hmatches : v.carries "matches" <;>
    cases hwants : v.wantsCan <;> simp_all

/-- A can no longer wanted while oil is wanting is carried. -/
theorem carries_can (h : v.wantsCan = false) (hlow : v.measures < 2) :
    v.carries "oil-can" = true := by
  simpa [wantsCan, hlow] using h

end Situation

-----------------------------------------------------------------------------------------------
-- Each state has a command nearer the win
-----------------------------------------------------------------------------------------------

variable {s : GameState}

/-- A command brings a state nearer a win: it wins, or leaves fewer moves to win. -/
def Nearer (s : GameState) (cmd : String) : Prop :=
  (runState (dispatch game cmd) s).won = true ∨
    (situation (runState (dispatch game cmd) s)).movesLeft < (situation s).movesLeft

/-- Going the way of the next errand. -/
theorem nearer_go {way : String} {target : Value} (hs : Consistent s) (hwon : s.won = false)
    (hexit : ∃ i ex, exitNamed game s (.str way) = .ok (some (i, ex)) ∧
      exitBlockedIn game s ex = .ok false ∧ ex.target = target)
    (hway : way.toList ≠ []) (hends : Unpadded way.toList)
    (hnear : Nat.dist (height target) (situation s).errandHeight <
      Nat.dist (height s.room) (situation s).errandHeight) :
    Nearer s ("go" ++ " " ++ way) := by
  obtain ⟨n, hn⟩ := go_typed hs hwon hway hends hexit
  right
  rw [hn]
  exact Situation.movesLeft_lt_of_nearer rfl rfl hnear

/-- Carrying what an errand wants. -/
theorem nearer_carry {cmd x : String} (hnew : (situation s).carries x = false)
    (hwanted : x = "brass-key" ∨ x = "matches" ∨ x = "oil-can" ∧ (situation s).measures < 2)
    (hmove : ∃ n : Int, situation (runState (dispatch game cmd) s) =
      { situation s with inventory := appendNew s.inventory (.str x),
                         taken := appendNew s.taken (.str x), turns := .int n }) :
    Nearer s cmd := by
  obtain ⟨n, hn⟩ := hmove
  right
  rw [hn]
  exact Situation.movesLeft_lt_of_errands (Situation.errands_carry hnew hwanted _ n)

/-- On the jetty: asking for the key, taking the matches, or going north with both. -/
theorem nearer_on_jetty (hs : Consistent s) (hwon : s.won = false)
    (hroom : s.room = .str "jetty") : ∃ cmd, Nearer s cmd := by
  cases hkey : s.hasItem (.str "brass-key")
  case false => exact ⟨_, nearer_carry hkey (.inl rfl) (talk_typed hs hwon hroom hkey)⟩
  case true =>
    cases hmatches : s.hasItem (.str "matches")
    case false =>
      have hfree : s.isTaken (.str "matches") = false := (hs.isTaken _).trans hmatches
      exact ⟨_, nearer_carry hmatches (.inr (.inl rfl)) (take_typed hs hwon (by simp)
        (unpadded_of_ends (by decide)) (itemInRoom_matches hroom hfree) rfl)⟩
    case true =>
      -- both errands of the jetty are done: the next one is up the stairs
      have hnext := Situation.errandHeight_of_carried (v := situation s) hkey hmatches
      refine ⟨_, nearer_go hs hwon (way_north hroom hkey) (by simp)
        (unpadded_of_ends (by decide)) ?_⟩
      rw [hroom, hnext]
      cases (situation s).wantsCan <;> decide

/-- On the stairs: down while the jetty's errands are left, the can while it is wanted, else up. -/
theorem nearer_on_stairs (hs : Consistent s) (hwon : s.won = false)
    (hroom : s.room = .str "tower") : ∃ cmd, Nearer s cmd := by
  by_cases hmissing : (situation s).carries "brass-key" = false ∨
      (situation s).carries "matches" = false
  · refine ⟨_, nearer_go hs hwon (way_south hroom) (by simp)
        (unpadded_of_ends (by decide)) ?_⟩
    rw [hroom, Situation.errandHeight_of_missing hmissing]
    decide
  · simp only [not_or, Bool.not_eq_false] at hmissing
    have hnext := Situation.errandHeight_of_carried hmissing.1 hmissing.2
    cases hwants : (situation s).wantsCan
    case true =>
      have hcan : (situation s).carries "oil-can" = false := by
        simp [Situation.wantsCan] at hwants
        exact hwants.2
      have hlow : (situation s).measures < 2 := by
        simp [Situation.wantsCan] at hwants
        omega
      have hfree : s.isTaken (.str "oil-can") = false := (hs.isTaken _).trans hcan
      exact ⟨_, nearer_carry hcan (.inr (.inr ⟨rfl, hlow⟩)) (take_typed hs hwon (by simp)
        (unpadded_of_ends (by decide)) (itemInRoom_can hroom hfree) rfl)⟩
    case false =>
      refine ⟨_, nearer_go hs hwon (way_up hroom) (by simp)
        (unpadded_of_ends (by decide)) ?_⟩
      rw [hroom, hnext, hwants]
      decide

/-- In the lamp room: pouring while oil is wanting, lighting once the lamp is full, and down the
stairs while an errand below is left. -/
theorem nearer_in_lampRoom (hs : Consistent s) (hwon : s.won = false)
    (hroom : s.room = .str "lamp-room") : ∃ cmd, Nearer s cmd := by
  by_cases hbelow : (situation s).errandHeight < 2
  · refine ⟨_, nearer_go hs hwon (way_down hroom) (by simp)
        (unpadded_of_ends (by decide)) ?_⟩
    rw [hroom]
    simp only [height, Nat.dist]
    omega
  · -- every errand below is done: the key and the matches are carried, the can is not wanted
    have hcarried := Situation.errandHeight_eq_two (v := situation s)
      (by have := (situation s).errandHeight_le; omega)
    obtain ⟨k, hk⟩ := hs.fuel
    have hmatches : .str "matches" ∈ s.inventory := Value.memberOf_text.mp hcarried.2.1
    by_cases hlow : k < 2
    · have hmeasures := Situation.measures_of_fuelled hk
      have hcan := Situation.carries_can hcarried.2.2 (hmeasures ▸ hlow)
      obtain ⟨n, hn⟩ := pour_typed hs hwon hroom (Value.memberOf_text.mp hcan) hk hlow
      refine ⟨"use" ++ " " ++ "lamp on can", .inr ?_⟩
      rw [hn]
      exact Situation.movesLeft_lt_of_errands (Situation.errands_pour hk hlow hcan n _ _)
    · have hfull : k = 2 := by have := hk.le; omega
      subst hfull
      exact ⟨_, .inl (light_typed hs hwon hroom hmatches hk)⟩

/-- Every state in step that is not won has a command that brings it nearer a win. -/
theorem exists_nearer (hs : Consistent s) (hwon : s.won = false) : ∃ cmd, Nearer s cmd := by
  have hroom := hs.room
  simp only [situation, roomIds, List.mem_cons, List.not_mem_nil, or_false] at hroom
  rcases hroom with hroom | hroom | hroom
  · exact nearer_on_jetty hs hwon hroom
  · exact nearer_on_stairs hs hwon hroom
  · exact nearer_in_lampRoom hs hwon hroom

-----------------------------------------------------------------------------------------------
-- A win is always within reach
-----------------------------------------------------------------------------------------------

/-- A typed command keeps the session on the lighthouse and leaves its state where the command
leaves it. -/
theorem after_command {session : Session} (hgame : session.game = game) (cmd : String) :
    (session.after [.command (.str cmd)]).game = game ∧
      (session.after [.command (.str cmd)]).state = runState (dispatch game cmd) session.state := by
  have hplay : Request.command (.str cmd) ≠ .reopen := nofun
  rw [Session.after_cons, Session.runState_answer hplay, Session.after_nil]
  exact ⟨hgame, by simp only [Request.playState, hgame]⟩

/-- From a session of the lighthouse in step, some typed commands win the game, by strong
induction on the moves left: a state not won has a command that wins or leaves fewer. -/
theorem won_after_typing {session : Session} (hgame : session.game = game)
    (hs : Consistent session.state) :
    ∃ cmds : List String,
      (session.after (cmds.map fun c => .command (.str c))).state.won = true := by
  induction hmoves : (situation session.state).movesLeft using Nat.strong_induction_on
    generalizing session with
  | _ m ih =>
    cases hwon : session.state.won
    case true => exact ⟨[], hwon⟩
    case false =>
      obtain ⟨cmd, hnearer⟩ := exists_nearer hs hwon
      obtain ⟨hgame', hstate⟩ := after_command hgame cmd
      rcases hnearer with hwin | hfewer
      · exact ⟨[cmd], by rw [List.map_singleton, hstate]; exact hwin⟩
      · have hlt : (situation (session.after [.command (.str cmd)]).state).movesLeft < m := by
          rw [hstate, ← hmoves]
          exact hfewer
        have hs' : Consistent (session.after [.command (.str cmd)]).state := by
          rw [hstate]
          exact hs.dispatch cmd
        obtain ⟨cmds, hcmds⟩ := ih _ hlt hgame' hs' rfl
        refine ⟨cmd :: cmds, ?_⟩
        rw [List.map_cons, ← List.singleton_append, Session.after_append]
        exact hcmds

/-- The lighthouse has no dead end: from the checked opening, whatever requests of play follow,
typed commands or verbs, some typed commands after them win the game. -/
theorem win_reachable_after_any_play {session : Session}
    (hstart : Session.start Shelf.Lighthouse.content false .fresh = .ok session)
    {requests : List Request} (hplay : ∀ r ∈ requests, r ≠ .reopen) :
    ∃ cmds : List String,
      ((session.after requests).after (cmds.map fun c => .command (.str c))).state.won = true := by
  rw [start_content, Except.ok.injEq] at hstart
  have hgame : session.game = game := by rw [← hstart]
  have hs : Consistent session.state := by
    rw [← hstart]
    exact consistent_initial
  obtain ⟨hgame', hs'⟩ := consistent_after hgame hs hplay
  exact won_after_typing hgame' hs'

/-- After trying the locked door and taking the matches, the game can still be won. -/
theorem win_reachable_after_locked_door :
    Session.start Shelf.Lighthouse.content false .fresh =
        .ok ⟨Shelf.Lighthouse.content, false, game,
          GameState.initial (.str "jetty") game.initialFlags⟩ ∧
      (∀ r ∈ [Request.command (.str "go north"), .take (.str "matches")], r ≠ .reopen) ∧
      ∃ cmds : List String,
        (((⟨Shelf.Lighthouse.content, false, game,
          GameState.initial (.str "jetty") game.initialFlags⟩ : Session).after
            [.command (.str "go north"), .take (.str "matches")]).after
              (cmds.map fun c => .command (.str c))).state.won = true :=
  ⟨start_content, by simp, win_reachable_after_any_play start_content (by simp)⟩

end Adventure.Lighthouse
