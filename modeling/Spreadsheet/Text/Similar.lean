/-!
How alike two texts are, by their matching blocks.

The longest block two texts have in common splits each into a left and a right part; the blocks
of the left parts and of the right parts are found the same way. Among blocks of equal length the
one ending first in the first text, then first in the second, is taken. With `M` characters in all
the blocks and `T` characters in the two texts, the likeness of the texts is `2M / T`. The close
matches of a word are the candidates at least 0.6 alike to it, the three most alike first (ties
going to the larger candidate).
-/

namespace Spreadsheet.Text

def matchRow (a b : Array Char) (i blo bhi : Nat) (prev : Array Nat) (best : Nat × Nat × Nat) :
    (Nat × Nat × Nat) × Array Nat :=
  (List.range' blo (bhi - blo)).foldl (fun (acc : (Nat × Nat × Nat) × Array Nat) j =>
    if b.getD j ' ' == a.getD i ' ' then
      let k := (if blo < j then prev.getD (j - 1) 0 else 0) + 1
      let best := if k > acc.1.2.2 then (i + 1 - k, j + 1 - k, k) else acc.1
      (best, acc.2.set! j k)
    else acc) (best, Array.replicate b.size 0)

def longestBlock (a b : Array Char) (alo ahi blo bhi : Nat) : Nat × Nat × Nat :=
  ((List.range' alo (ahi - alo)).foldl (fun (acc : (Nat × Nat × Nat) × Array Nat) i =>
    matchRow a b i blo bhi acc.2 acc.1) ((alo, blo, 0), Array.replicate b.size 0)).1

def matchedCount (a b : Array Char) : Nat → Nat → Nat → Nat → Nat → Nat
  | 0, _, _, _, _ => 0
  | fuel + 1, alo, ahi, blo, bhi =>
    let (i, j, k) := longestBlock a b alo ahi blo bhi
    if k == 0 then 0
    else
      k + (if alo < i && blo < j then matchedCount a b fuel alo i blo j else 0) +
        (if i + k < ahi && j + k < bhi then matchedCount a b fuel (i + k) ahi (j + k) bhi else 0)

/-- The likeness of two texts as the pair `(2M, T)`. -/
def likeness (a b : String) : Nat × Nat :=
  let xs := a.toList.toArray
  let ys := b.toList.toArray
  (2 * matchedCount xs ys (xs.size + 1) 0 xs.size 0 ys.size, xs.size + ys.size)

def ranksAbove (x y : (Nat × Nat) × String) : Bool :=
  let l := x.1.1 * y.1.2
  let r := y.1.1 * x.1.2
  l > r || (l == r && decide (y.2 < x.2))

/-- The candidates at least 0.6 alike to a word, the three most alike first. -/
def closeMatches (word : String) (candidates : List String) : List String :=
  let scored := candidates.filterMap fun c =>
    let (m, t) := likeness c word
    if 10 * m ≥ 6 * t then some ((m, t), c) else none
  ((scored.mergeSort ranksAbove).take 3).map (·.2)

theorem closeMatches_length_le (word : String) (candidates : List String) :
    (closeMatches word candidates).length ≤ 3 := by
  simp only [closeMatches, List.length_map, List.length_take]
  exact Nat.min_le_left _ _

end Spreadsheet.Text
