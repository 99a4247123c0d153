/-!
Orders on lists under a comparison that may be inconsistent.

Numbers with NaN among them are not totally ordered, so what a sort or a maximum returns depends on
the algorithm, and these are fixed here. `sortBy` takes the leading run of the list (a strictly
descending run is reversed) and inserts every later element by binary search, after the elements
it is not below; for a strict weak order it is a stable sort. `maxBy` and `minBy` keep the first
element that no later one beats. `tally` counts equal elements in order of first occurrence, and
`mostCommon` picks the first of the most frequent.
-/

namespace Spreadsheet.Data

variable {α : Type}

def descendingRun (lt : α → α → Bool) : α → List α → List α → List α × List α
  | _, [], acc => (acc, [])
  | prev, x :: rest, acc =>
    if lt x prev then descendingRun lt x rest (x :: acc) else (acc, x :: rest)

def ascendingRun (lt : α → α → Bool) : α → List α → List α → List α × List α
  | _, [], acc => (acc, [])
  | prev, x :: rest, acc =>
    if lt x prev then (acc, x :: rest) else ascendingRun lt x rest (x :: acc)

/-- The leading run of a list in ascending order, and the rest of the list. A run starting with
a descent is the longest strictly descending prefix, reversed; otherwise it is the longest prefix
without a descent. -/
def leadingRun (lt : α → α → Bool) : List α → List α × List α
  | [] => ([], [])
  | [x] => ([x], [])
  | x :: y :: rest =>
    if lt y x then descendingRun lt y rest [y, x]
    else
      let (run, after) := ascendingRun lt y rest [y, x]
      (run.reverse, after)

/-- Where binary insertion puts `x` into the window `[lo, hi)` of `sorted`: to the left of a probe
that `x` is below, to the right of any other. -/
def insertionPoint (lt : α → α → Bool) (sorted : List α) (x : α) (lo hi : Nat) : Nat :=
  if lo < hi then
    if lt x (sorted.getD (lo + (hi - lo) / 2) x) then
      insertionPoint lt sorted x lo (lo + (hi - lo) / 2)
    else insertionPoint lt sorted x (lo + (hi - lo) / 2 + 1) hi
  else lo
termination_by hi - lo
decreasing_by all_goals omega

def insertSorted (lt : α → α → Bool) (sorted : List α) (x : α) : List α :=
  sorted.insertIdx (insertionPoint lt sorted x 0 sorted.length) x

def sortBy (lt : α → α → Bool) (xs : List α) : List α :=
  let (run, rest) := leadingRun lt xs
  rest.foldl (insertSorted lt) run

/-- Sorts into descending order: the list is reversed, sorted, and reversed again, so that equal
elements keep their order. -/
def sortDescendingBy (lt : α → α → Bool) (xs : List α) : List α :=
  (sortBy lt xs.reverse).reverse

def maxBy (gt : α → α → Bool) : List α → Option α
  | [] => none
  | x :: rest => some (rest.foldl (fun m y => if gt y m then y else m) x)

def minBy (lt : α → α → Bool) : List α → Option α
  | [] => none
  | x :: rest => some (rest.foldl (fun m y => if lt y m then y else m) x)

/-- Adds one occurrence of `x` to counts kept in order of first occurrence; `x` counts for the
first element already present that is equal to it. -/
def tallyOne (eq : α → α → Bool) : List (α × Nat) → α → List (α × Nat)
  | [], x => [(x, 1)]
  | (k, n) :: rest, x => if eq k x then (k, n + 1) :: rest else (k, n) :: tallyOne eq rest x

def tally (eq : α → α → Bool) (xs : List α) : List (α × Nat) :=
  xs.foldl (tallyOne eq) []

def mostCommon : List (α × Nat) → Option (α × Nat)
  | [] => none
  | p :: rest => some (rest.foldl (fun best q => if q.2 > best.2 then q else best) p)

end Spreadsheet.Data
