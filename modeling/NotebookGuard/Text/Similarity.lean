/-!
# How alike two names are

Suggestions for a mistyped name come from the Jaro similarity: of two texts
of lengths `la` and `lb`, the characters that match are the equal ones no more
than `max la lb / 2 - 1` places apart, each character matched at most once and
to the first free partner; `t` is half the number of matched pairs that stand
in a different order. With `m` matches the similarity is
`(m / la + m / lb + (m - t) / m) / 3`, and `0` when nothing matches.

The similarity is kept as an exact fraction, and a name is suggested when it
is more than `0.7` alike.
-/

namespace NotebookGuard

/-- The first free place of `b` in `[lo, hi)` holding `c`. -/
def freePartner (b : Array Char) (taken : Array Bool) (c : Char) (lo hi : Nat) : Option Nat :=
  (List.range' lo (hi - lo)).find? fun j => b.getD j ' ' == c && !taken.getD j true

/-- The matches between two texts: which characters of each are matched. -/
def jaroFlags (a b : Array Char) : Array Bool × Array Bool :=
  let range := max a.size b.size / 2 - 1
  (List.range a.size).foldl (fun (fa, fb) i =>
    match freePartner b fb (a.getD i ' ') (i - range) (min b.size (i + range + 1)) with
    | some j => (fa.set! i true, fb.set! j true)
    | none => (fa, fb)) (Array.replicate a.size false, Array.replicate b.size false)

/-- The Jaro similarity of two texts, as a fraction `(numerator, denominator)`. -/
def jaro (x y : String) : Nat × Nat :=
  let a := x.toList.toArray
  let b := y.toList.toArray
  if a.size == 0 && b.size == 0 then (1, 1)
  else if a.size == 0 || b.size == 0 then (0, 1)
  else
    let (fa, fb) := jaroFlags a b
    let ma := (a.toList.zip fa.toList).filterMap fun (c, f) => if f then some c else none
    let mb := (b.toList.zip fb.toList).filterMap fun (c, f) => if f then some c else none
    let m := ma.length
    if m == 0 then (0, 1)
    else
      let t := ((ma.zip mb).filter fun (p, q) => p != q).length / 2
      (m * m * b.size + m * m * a.size + (m - t) * a.size * b.size, 3 * a.size * b.size * m)

/-- The candidates more than `0.7` alike to a text, least alike first; equally
alike ones keep their order. -/
def similarNames (v : String) (candidates : List String) : List String :=
  let scored := candidates.filterMap fun c =>
    let s := jaro v c
    if 7 * s.2 < 10 * s.1 then some (s, c) else none
  (scored.mergeSort fun p q => decide (p.1.1 * q.1.2 ≤ q.1.1 * p.1.2)).map (·.2)

end NotebookGuard
