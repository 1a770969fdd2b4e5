/-! Similarity of words as `2 * M / T` over matching blocks, and the words closest to a given one:
similarity at least 3/5, best first. -/

namespace Adventure.Command

/-- The longest common block of `a[alo:ahi]` and `b[blo:bhi]` as `(i, j, k)`: it starts at `i`
in `a` and `j` in `b` and has length `k`. Of several longest blocks, the one ending first in
`a`, then first in `b`, wins. -/
def longestBlock (a b : Array Char) (alo ahi blo bhi : Nat) : Nat × Nat × Nat := Id.run do
  let mut best := (alo, blo, 0)
  let mut prev : Array Nat := Array.replicate (b.size + 1) 0
  for i in [alo:ahi] do
    let mut row : Array Nat := Array.replicate (b.size + 1) 0
    for j in [blo:bhi] do
      if a[i]! == b[j]! then
        let k := (if j > blo then prev[j - 1]! else 0) + 1
        row := row.set! j k
        if k > best.2.2 then best := (i + 1 - k, j + 1 - k, k)
    prev := row
  return best

/-- The number of characters in matching blocks of `a[alo:ahi]` and `b[blo:bhi]`. -/
def matchedCount (a b : Array Char) : Nat → Nat → Nat → Nat → Nat → Nat
  | 0, _, _, _, _ => 0
  | fuel + 1, alo, ahi, blo, bhi =>
    let (i, j, k) := longestBlock a b alo ahi blo bhi
    if k = 0 then 0
    else k + matchedCount a b fuel alo i blo j + matchedCount a b fuel (i + k) ahi (j + k) bhi

/-- The characters two words have in matching blocks, and their total length. -/
def similarity (candidate word : String) : Nat × Nat :=
  let a := candidate.toList.toArray
  let b := word.toList.toArray
  (matchedCount a b (a.size + 1) 0 a.size 0 b.size, a.size + b.size)

/-- Whether a similarity `(m, t)` is at least 3/5; two empty words are fully similar. -/
def closeEnough (s : Nat × Nat) : Bool := s.2 = 0 || 10 * s.1 ≥ 3 * s.2

/-- A similarity `(m, t)` as the fraction `2m / t`, with two empty words fully similar. -/
def ratioParts (s : Nat × Nat) : Nat × Nat := if s.2 = 0 then (1, 1) else (2 * s.1, s.2)

/-- Whether a scored candidate ranks before another: higher similarity, then the later word. -/
def ranksBefore (x y : (Nat × Nat) × String) : Bool :=
  let (nx, dx) := ratioParts x.1
  let (ny, dy) := ratioParts y.1
  nx * dy > ny * dx || (nx * dy == ny * dx && decide (y.2 < x.2))

/-- The candidates close to `word`, best first, at most `n`. -/
def closeMatches (word : String) (candidates : List String) (n : Nat) : List String :=
  let scored := (candidates.map fun c => (similarity c word, c)).filter (closeEnough ·.1)
  ((scored.mergeSort fun x y => !ranksBefore y x).take n).map (·.2)

end Adventure.Command
