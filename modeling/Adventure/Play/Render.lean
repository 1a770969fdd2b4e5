import Adventure.Play.Eval
import Adventure.Play.Act

/-! Rendering texts: `{turns}` in plain texts, and for a passage the passing fragments of the top
priority, the first of each group, joined by blank lines. -/

namespace Adventure.Play

open Adventure.Story

/-- Replaces every occurrence of `pattern` in `cs`, left to right without overlaps. -/
def replaceAll (pattern replacement : List Char) : List Char → List Char
  | [] => []
  | c :: rest =>
    if pattern ≠ [] ∧ pattern.isPrefixOf (c :: rest) then
      replacement ++ replaceAll pattern replacement ((c :: rest).drop pattern.length)
    else c :: replaceAll pattern replacement rest
termination_by cs => cs.length
decreasing_by
  · -- the pattern is not empty, so dropping it shortens the text
    rename_i h
    have hpos : 0 < pattern.length := List.length_pos_iff.mpr h.1
    simp only [List.length_drop, List.length_cons]
    omega
  · simp only [List.length_cons]
    omega

/-- A text with every `{turns}` replaced by the turn counter. -/
def interpolate (s : GameState) (text : String) : String :=
  String.ofList (replaceAll "\x7bturns\x7d".toList s.turns.display.toList text.toList)

/-- The largest of some priorities, the first of equal ones; priorities without a common
order are a fault. -/
def topPriority : List Value → Except Fault Value
  | [] => .ok .null
  | p :: rest => rest.foldlM (fun top q => do
      if ← top.lessThan q then pure q else pure top) p

/-- The texts of fragments joined by a blank line; every one must be a text. -/
def joinSays (spoken : List Value) : Except Fault String := do
  let texts ← spoken.mapM fun
    | .str s => .ok s
    | _ => .error .wrongKind
  return "\n\n".intercalate texts

/-- Shows the fragments of a passage and uses the gates of those kept. -/
def renderFragments (g : Game) (fragments : List Fragment) : Act String := do
  let mut passing : List (Fragment × List Value) := []
  for f in fragments do
    let outcome ← Act.ofExcept (checkAll g (← get) f.when)
    if outcome.passed then passing := passing ++ [(f, outcome.marks)]
  if passing.isEmpty then return ""
  let top ← Act.ofExcept (topPriority (passing.map (·.1.priority)))
  let mut groups : List Value := []
  let mut spoken : List Value := []
  for (f, marks) in passing do
    if f.priority.equals top then
      let fresh ← if f.group.truthy then do
          if !f.group.hashable then throw .wrongKind
          if f.group.memberOf groups then pure false
          else
            groups := groups ++ [f.group]
            pure true
        else pure true
      if fresh then
        spoken := spoken ++ [f.say]
        modify (·.commitMarks marks)
  Act.ofExcept (joinSays spoken)

/-- Shows a text. -/
def renderText (g : Game) : Text → Act String
  | .none => pure ""
  | .plain t => do return interpolate (← get) t
  | .passage p => do
    let body ← renderFragments g p.fragments
    return interpolate (← get) body

/-- Shows a value given as text where content may put any value: null shows nothing, a text is
interpolated, and any other value is a fault. -/
def renderRaw : Value → Act String
  | .null => pure ""
  | .str t => do return interpolate (← get) t
  | _ => throw .noSuchOperation

end Adventure.Play
