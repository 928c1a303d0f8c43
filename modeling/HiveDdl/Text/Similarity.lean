/-!
# Similarity of texts

Two texts are compared by their matching blocks: the longest common block (the first one found
scanning the first text by end position, then the second), then recursively the blocks to its
left and to its right. The similarity of two texts is twice the characters in matching blocks
over the total length of both.

Close matches of a word among candidates are those with similarity at least 0.6; the best three
are kept, a tie going to the candidate later in text order.

* `matchedCount a b`: characters in matching blocks.
* `closeMatches word candidates`: the close matches, best first.
-/

namespace HiveDdl.Text

/-- The longest common block of `a[alo, ahi)` and `b[blo, bhi)`: start in `a`, start in `b`,
size. Of equally long blocks the one whose end in `a` comes first, then whose end in `b` comes
first. -/
def longestMatch (a b : Array Char) (alo ahi blo bhi : Nat) : Nat × Nat × Nat :=
  -- runs.getD j 0: length of the common block ending at a[i - 1] and b[j]
  let step (state : Array Nat × (Nat × Nat × Nat)) (i : Nat) : Array Nat × (Nat × Nat × Nat) :=
    let (runs, best) := state
    (List.range (bhi - blo)).foldl (fun (acc : Array Nat × (Nat × Nat × Nat)) d =>
      let (next, (bi, bj, bk)) := acc
      let j := blo + d
      if a.getD i ' ' == b.getD j ' ' then
        let k := (if j > blo then runs.getD (j - 1) 0 else 0) + 1
        let next := next.set! j k
        if k > bk then (next, (i + 1 - k, j + 1 - k, k)) else (next, (bi, bj, bk))
      else acc) (Array.replicate b.size 0, best)
  let (_, best) := (List.range (ahi - alo)).foldl (fun st d => step st (alo + d))
    (Array.replicate b.size 0, (alo, blo, 0))
  best

def matchedIn (a b : Array Char) : Nat → Nat → Nat → Nat → Nat → Nat
  | 0, _, _, _, _ => 0
  | fuel + 1, alo, ahi, blo, bhi =>
    let (i, j, k) := longestMatch a b alo ahi blo bhi
    if k = 0 then 0
    else
      let left := if alo < i ∧ blo < j then matchedIn a b fuel alo i blo j else 0
      let right := if i + k < ahi ∧ j + k < bhi then matchedIn a b fuel (i + k) ahi (j + k) bhi else 0
      k + left + right

def matchedCount (a b : String) : Nat :=
  let xs := a.toList.toArray
  let ys := b.toList.toArray
  matchedIn xs ys (xs.size + 1) 0 xs.size 0 ys.size

/-- Close matches of a word: candidates whose similarity is at least 0.6, the best three, best
first; of equal similarity the later candidate in text order first. -/
def closeMatches (word : String) (candidates : List String) : List String :=
  let scored := candidates.filterMap fun c =>
    let m := matchedCount c word
    let total := c.length + word.length
    -- similarity 2m / total compared exactly with 3 / 5
    if total > 0 ∧ 10 * m ≥ 3 * total then some (c, m, total) else none
  let better (x y : String × Nat × Nat) : Bool :=
    let (cx, mx, tx) := x
    let (cy, my, ty) := y
    mx * ty > my * tx || (mx * ty == my * tx && decide (cy < cx))
  ((scored.mergeSort better).take 3).map (·.1)

end HiveDdl.Text
