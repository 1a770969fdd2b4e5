/-! Shell-style wildcard patterns over file names. -/

namespace Adventure.Text

/-- One piece of a wildcard pattern. -/
inductive Wild where
  /-- Any run of characters, the empty one included. -/
  | anyRun
  /-- Any one character. -/
  | anyChar
  /-- One character of the ranges, or one outside them when `negated`. -/
  | oneOf (negated : Bool) (ranges : List (Char × Char))
  /-- Exactly this character. -/
  | literal (c : Char)
  deriving Repr, BEq, Inhabited

/-- The ranges a set's inner text stands for; a single character is a range of one. -/
def setRanges : List Char → List (Char × Char)
  | lo :: '-' :: hi :: rest => if lo ≤ hi then (lo, hi) :: setRanges rest else setRanges rest
  | c :: rest => (c, c) :: setRanges rest
  | [] => []

/-- A set's members up to its closing bracket, and what follows that bracket; `none` when no
bracket closes the set. -/
def scanSet : List Char → Option (List Char × List Char)
  | [] => none
  | ']' :: after => some ([], after)
  | c :: rest => (scanSet rest).map fun found => (c :: found.1, found.2)

/-- What follows a set's closing bracket is shorter than the text scanned. -/
theorem scanSet_shorter (cs : List Char) : ∀ {inner after : List Char},
    scanSet cs = some (inner, after) → after.length < cs.length := by
  induction cs with
  | nil => intro inner after h; simp [scanSet] at h
  | cons c rest ih =>
    intro inner after h
    by_cases hc : c = ']'
    · subst hc
      rw [scanSet.eq_2] at h
      cases h
      simp
    · rw [scanSet.eq_3 c rest hc, Option.map_eq_some_iff] at h
      obtain ⟨⟨i, a⟩, hs, heq⟩ := h
      cases heq
      have := ih hs
      simp only [List.length_cons]
      omega

/-- The text right after a set's opening bracket, read as whether the set is negated, its
members and what follows its closing bracket; `none` when no bracket closes it. -/
def bracketSet : List Char → Option (Bool × List Char × List Char)
  | '!' :: ']' :: rest => (scanSet rest).map fun found => (true, ']' :: found.1, found.2)
  | '!' :: rest => (scanSet rest).map fun found => (true, found.1, found.2)
  | ']' :: rest => (scanSet rest).map fun found => (false, ']' :: found.1, found.2)
  | rest => (scanSet rest).map fun found => (false, found.1, found.2)

/-- What follows a set is shorter than the text after its opening bracket, so matching a pattern
that holds sets terminates. -/
theorem bracketSet_shorter {cs : List Char} {negated : Bool} {inner after : List Char}
    (h : bracketSet cs = some (negated, inner, after)) : after.length < cs.length := by
  unfold bracketSet at h
  split at h <;> simp only [Option.map_eq_some_iff] at h <;> obtain ⟨⟨i, a⟩, hs, heq⟩ := h <;>
    cases heq <;> have := scanSet_shorter _ hs <;> simp only [List.length_cons] at * <;> omega

/-- Reads a wildcard pattern. -/
def Wild.parse (cs : List Char) : List Wild :=
  match cs with
  | [] => []
  | '*' :: rest => .anyRun :: Wild.parse rest
  | '?' :: rest => .anyChar :: Wild.parse rest
  | '[' :: rest =>
    match h : bracketSet rest with
    | some (negated, inner, after) =>
      have : after.length < rest.length := bracketSet_shorter h
      .oneOf negated (setRanges inner) :: Wild.parse after
    | none => .literal '[' :: Wild.parse rest
  | c :: rest => .literal c :: Wild.parse rest
termination_by cs.length
decreasing_by all_goals simp_all <;> omega

/-- Whether one character fits one piece that stands for a single character. -/
def Wild.admits (w : Wild) (c : Char) : Bool :=
  match w with
  | .anyRun | .anyChar => true
  | .oneOf negated ranges => ranges.any (fun r => r.1 ≤ c && c ≤ r.2) != negated
  | .literal d => c == d

/-- Whether the pieces match the whole text. -/
def Wild.matchAll : List Wild → List Char → Bool
  | [], cs => cs.isEmpty
  | .anyRun :: ps, cs =>
    Wild.matchAll ps cs ||
      match cs with
      | [] => false
      | _ :: rest => Wild.matchAll (.anyRun :: ps) rest
  | w :: ps, c :: rest => w.admits c && Wild.matchAll ps rest
  | _ :: _, [] => false
termination_by ps cs => ps.length + cs.length

/-- Whether a name fits a wildcard pattern. -/
def wildcardMatch (pattern name : String) : Bool :=
  Wild.matchAll (Wild.parse pattern.toList) name.toList

end Adventure.Text
