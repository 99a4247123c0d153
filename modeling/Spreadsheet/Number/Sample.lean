import Spreadsheet.Data.Order

/-!
Dispersion and quantiles of a sample of doubles.

The variance is computed in blocks of 128 values: each block by two passes (its mean, then the sum
of squared deviations from it), the blocks merged by the parallel-axis rule; a negative result of
rounding is clamped to zero. Quantiles interpolate linearly between the two order statistics
around the fractional rank `(n - 1) · q`, where the order puts NaN above every number and does not
tell `-0.0` from `0.0`.
-/

namespace Spreadsheet.Number

structure Moments where
  weight : Float
  mean : Float
  deviation : Float
  deriving Inhabited

namespace Moments

def empty : Moments := ⟨0, 0, 0⟩

def ofBlock (xs : List Float) : Moments :=
  let weight := Float.ofNat xs.length
  let mean := xs.foldl (· + ·) 0 / weight
  ⟨weight, mean, (xs.map fun x => (x - mean) * (x - mean)).foldl (· + ·) 0⟩

def merge (a b : Moments) : Moments :=
  if b.weight == 0 then a
  else
    let weight := a.weight + b.weight
    let delta := b.mean - a.mean
    let mean := a.mean + delta * (b.weight / weight)
    ⟨weight, mean, a.deviation + (b.deviation + b.weight * (b.mean - mean) * delta)⟩

end Moments

def blocks (size : Nat) (xs : List Float) : List (List Float) :=
  if size = 0 then [xs]
  else if xs.isEmpty then []
  else xs.take size :: blocks size (xs.drop size)
termination_by xs.length
decreasing_by
  simp only [List.length_drop]
  have : xs.length ≠ 0 := by simpa [List.isEmpty_iff, List.length_eq_zero_iff] using ‹¬xs.isEmpty = true›
  omega

def variance (ddof : Nat) (xs : List Float) : Option Float :=
  let m := (blocks 128 xs).foldl (fun acc b => acc.merge (Moments.ofBlock b)) Moments.empty
  if m.weight ≤ Float.ofNat ddof then none
  else
    let v := m.deviation / (m.weight - Float.ofNat ddof)
    some (if v < 0 then 0 else v)

def totalLt (a b : Float) : Bool := (!a.isNaN && b.isNaN) || a < b

/-- The order statistic of rank `idx` as selection finds it: the first least element for rank 0,
the first greatest for the last rank, and otherwise the element at `idx` after a stable sort. -/
def orderStatistic (xs : List Float) (idx : Nat) : Float :=
  if idx = 0 then (Data.minBy totalLt xs).getD 0
  else if idx + 1 = xs.length then (Data.maxBy (fun a b => totalLt b a) xs).getD 0
  else (Data.sortBy totalLt xs).getD idx 0

/-- The quantile `q` of a sample, interpolating linearly; `none` when `q` is not in `[0, 1]` (NaN
included), and for an empty sample. -/
def quantile (xs : List Float) (q : Float) : Option Float :=
  if !(0 ≤ q && q ≤ 1) then none
  else match xs with
    | [] => none
    | [x] => some x
    | _ =>
      let rank := (Float.ofNat xs.length - 1) * q
      let idx := min rank.toUInt64.toNat (xs.length - 1)
      let top := rank.ceil.toUInt64.toNat
      let lower := orderStatistic xs idx
      if idx = top then some lower
      else
        let upper := (Data.sortBy totalLt xs).getD (idx + 1) 0
        if lower == upper then some lower
        else some ((rank - Float.ofNat idx) * (upper - lower) + lower)

end Spreadsheet.Number
