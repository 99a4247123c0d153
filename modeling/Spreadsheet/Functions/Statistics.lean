import Spreadsheet.Functions.Math
import Spreadsheet.Functions.Criteria
import Spreadsheet.Number.Sample

/-!
Statistical functions of formulas.

Aggregates work on the numbers among the arguments (numbers, truth values, numeric text) and give
the integer 0 for none. Dispersion and quantiles are computed on doubles (`Number.Sample`);
`MODE` is the first of the most frequent numbers, `#N/A` when none repeats. Order statistics sort
with `Data.sortBy`. The conditional aggregates pair a tested range with a summed range (the tested
one by default) and keep the pairs whose tested cell satisfies the criterion.
-/

namespace Spreadsheet.Functions

open Number

def nums (args : List Value) : List Num := Value.flatNums args

def numsOf (v : Value) : List Num := Value.flatNums [v]

def floatsOf (ns : List Num) : Except Failure (List Float) := liftArith (ns.mapM Num.toFloat)

def total (ns : List Num) : Except Failure Num := liftArith (ns.foldlM Num.add (.int 0))

def mean (ns : List Num) : Outcome := do
  return .ofNum (← liftArith ((← total ns).div (.int ns.length)))

def average (args : List Value) : Outcome :=
  match nums args with
  | [] => pure (.int 0)
  | ns => mean ns

def count (args : List Value) : Outcome := pure (.int (nums args).length)

def countNonBlank (args : List Value) : Outcome :=
  pure (.int ((Value.flatAll args).filter fun v => !v.isBlank).length)

def countBlank (args : List Value) : Outcome :=
  pure (.int ((Value.flatAll args).filter Value.isBlank).length)

def max (args : List Value) : Outcome :=
  pure ((Data.maxBy Num.gt (nums args)).elim (.int 0) Value.ofNum)

def min (args : List Value) : Outcome :=
  pure ((Data.minBy Num.lt (nums args)).elim (.int 0) Value.ofNum)

def quantileOf (ns : List Num) (q : Float) : Outcome := do
  match quantile (← floatsOf ns) q with
  | some x => pure (.float x)
  | none => throw (.internal "quantile should be between 0.0 and 1.0")

def median (args : List Value) : Outcome :=
  match nums args with
  | [] => pure (.int 0)
  | ns => quantileOf ns 0.5

/-- `MODE`: the first of the most frequent numbers; `#N/A` when no number repeats. -/
def mode (args : List Value) : Outcome :=
  match Data.mostCommon (Data.tally Num.eq (nums args)) with
  | some (n, k) => if k < 2 then failWith .notAvailable else pure (.ofNum n)
  | none => failWith .notAvailable

/-- `STDEV`, `STDEVP`, `VAR` and `VARP`: the sample (`sample = true`) or population variance, or
its square root; 0 for no numbers, `#DIV/0!` for a single number of a sample. -/
def dispersion (root sample : Bool) (args : List Value) : Outcome := do
  let ns := nums args
  if ns.isEmpty then return .int 0
  let ddof := if sample then 1 else 0
  if ns.length ≤ ddof then return ErrorCode.divZero.toValue
  match variance ddof (← floatsOf ns) with
  | some v => pure (.float (if root then v.sqrt else v))
  | none => pure .null

def nthSorted (sorted : List Num) (args : List Value) : Outcome := do
  let k ← intArg args 1
  if k < 1 || k > sorted.length then return ErrorCode.badNumber.toValue
  pure ((sorted[(k - 1).toNat]?).elim .null Value.ofNum)

def large (args : List Value) : Outcome :=
  nthSorted (Data.sortDescendingBy Num.lt (numsOf (argAt args 0))) args

def small (args : List Value) : Outcome :=
  nthSorted (Data.sortBy Num.lt (numsOf (argAt args 0))) args

/-- `RANK`: the position (from 1) of the value among the numbers of the range, largest first
unless the third argument is a non-zero number; `#N/A` when it is not among them. -/
def rank (args : List Value) : Outcome :=
  let v := numArg args 0
  let ascending := !(numArg args 2).isZero
  let ns := numsOf (argAt args 1)
  let sorted := if ascending then Data.sortBy Num.lt ns else Data.sortDescendingBy Num.lt ns
  match sorted.findIdx? (fun n => n.eq v) with
  | some i => pure (.int (i + 1))
  | none => failWith .notAvailable

/-- `PERCENTILE`: the inclusive quantile with linear interpolation; 0 for no numbers, `#NUM!`
below 0 or above 1. -/
def percentile (args : List Value) : Outcome := do
  let ns := numsOf (argAt args 0)
  let p := numArg args 1
  if ns.isEmpty then return .int 0
  if p.lt (.int 0) || p.gt (.int 1) then return ErrorCode.badNumber.toValue
  quantileOf ns (← liftArith p.toFloat)

def productColumn : Value → List Num
  | .list items => (Value.flatAll [.list items]).map Value.toNum
  | v => [v.toNum]

/-- `SUMPRODUCT`: multiplies the arguments entry by entry (a shorter one counts as zeros beyond
its end) and adds the products, in doubles; the integer 0 with no arguments. -/
def sumProduct (args : List Value) : Outcome := do
  match args.map productColumn with
  | [] => pure (.int 0)
  | columns@(first :: _) =>
    let mut acc : Float := 0
    for i in List.range first.length do
      let mut prod : Num := .float 1
      for col in columns do
        prod ← liftArith (prod.mul (col.getD i (.int 0)))
      acc := acc + (← liftArith prod.toFloat)
    pure (.float acc)

/-- The cells of a conditional aggregate: each tested cell with the summed cell at its position
(blank beyond the end of the summed range). -/
def conditionalPairs (args : List Value) : List (Value × Value) :=
  let tested := Value.flatAll [argAt args 0]
  let summed := if args.length > 2 then Value.flatAll [argAt args 2] else tested
  tested.zipIdx.map fun (t, i) => (t, summed.getD i .null)

def selected (args : List Value) : List Value :=
  let c := Criterion.compile (argAt args 1)
  ((conditionalPairs args).filter fun p => c.accepts p.1).map Prod.snd

def sumIf (args : List Value) : Outcome := do
  return .ofNum (← total (nums (selected args)))

def countIf (args : List Value) : Outcome :=
  let c := Criterion.compile (argAt args 1)
  pure (.int ((Value.flatAll [argAt args 0]).filter c.accepts).length)

def averageIf (args : List Value) : Outcome :=
  match nums (selected args) with
  | [] => failWith .divZero
  | ns => mean ns

end Spreadsheet.Functions
