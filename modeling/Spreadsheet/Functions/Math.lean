import Spreadsheet.Eval.Fault
import Spreadsheet.Number.Elementary
import Spreadsheet.Number.Quantize

/-!
Arithmetic functions of formulas.

Sums and products fold the numbers of their arguments from the integers 0 and 1, so they stay
exact integers while every term is one. `ROUND` rounds half away from zero on the shortest decimal
of its argument; `ROUNDUP` and `ROUNDDOWN` scale by `10^digits`, first trim the scaled magnitude to
9 decimal places (so `ROUNDUP(1.1, 1)` stays 1.1), then take the ceiling or floor. `CEILING` and
`FLOOR` round to a multiple of their significance, 1 when it is zero or missing. A division by zero
is `#DIV/0!`; every arithmetic failure becomes `#NUM!` at the call.
-/

namespace Spreadsheet.Functions

open Number

def numArg (args : List Value) (i : Nat) : Num := (argAt args i).toNum

def floatArg (args : List Value) (i : Nat) : Except Failure Float := liftArith (numArg args i).toFloat

def sum (args : List Value) : Outcome := do
  let total ← liftArith ((Value.flatNums args).foldlM Num.add (.int 0))
  pure (.ofNum total)

def product (args : List Value) : Outcome := do
  let total ← liftArith ((Value.flatNums args).foldlM Num.mul (.int 1))
  pure (.ofNum total)

def abs (args : List Value) : Outcome := pure (.ofNum (numArg args 0).abs)

def sqrt (args : List Value) : Outcome :=
  let n := numArg args 0
  if n.lt (.int 0) then failWith .badNumber
  else return .float (← liftArith (n.applyChecked Float.sqrt false))

def power (args : List Value) : Outcome := do
  let x ← floatArg args 0
  let y ← floatArg args 1
  return .float (← liftArith (Float.powChecked x y))

/-- `MOD`: the remainder takes the sign of the divisor; `#DIV/0!` for a zero divisor. -/
def mod (args : List Value) : Outcome :=
  let divisor := numArg args 1
  if divisor.isZero then failWith .divZero
  else return .ofNum (← liftArith ((numArg args 0).mod divisor))

def int (args : List Value) : Outcome := do
  let i ← liftArith (numArg args 0).floor
  match Int.toFloat? i with
  | some f => pure (.float f)
  | none => throw (.arith .overflow)

def scaleArg (args : List Value) (i : Nat) : Except Failure Num := do
  return Num.powerOfTen (← intArg args i)

def trunc (args : List Value) : Outcome := do
  let factor ← scaleArg args 1
  let scaled ← liftArith ((numArg args 0).mul factor)
  let t ← liftArith scaled.trunc
  return .ofNum (← liftArith ((Num.int t).div factor))

/-- The number a rounding to places starts from and leaves alone: a non-finite value, and for
places not below zero a magnitude of at least `10^15`. -/
def keepsValue (v : Num) (x : Float) (digits : Int) : Bool :=
  !x.isFinite || (digits ≥ 0 && v.abs.ge (.float 1e15))

/-- `ROUND`: half away from zero, on the shortest decimal of the number. -/
def round (args : List Value) : Outcome := do
  let v := numArg args 0
  let digits ← intArg args 1
  let x ← liftArith v.toFloat
  if keepsValue v x digits then pure (.ofNum v)
  else return .float (← liftArith (x.roundHalfAway digits))

/-- The scaled magnitude trimmed to 9 decimal places; an integer stays exact. -/
def trimScaled (v factor : Num) : Except Failure Num := do
  match ← liftArith (v.abs.mul factor) with
  | .int i => pure (.int i)
  | .float f => pure (.float (f.roundPlaces 9))

def roundAway (up : Bool) (args : List Value) : Outcome := do
  let v := numArg args 0
  let factor ← scaleArg args 1
  let scaled ← trimScaled v factor
  let whole ← liftArith (if up then scaled.ceil else scaled.floor)
  let q ← liftArith ((Num.int whole).div factor)
  let m ← liftArith q.toFloat
  let s ← liftArith v.toFloat
  pure (.float (Float.copySign m s))

def toMultiple (up : Bool) (args : List Value) : Outcome := do
  let sig0 := numArg args 1
  let sig := if sig0.isZero then Num.int 1 else sig0
  let q ← liftArith ((numArg args 0).div sig)
  let whole ← liftArith (if up then q.ceil else q.floor)
  return .ofNum (← liftArith ((Num.int whole).mul sig))

def pi (_ : List Value) : Outcome := pure (.float 3.141592653589793)

def unary (f : Float → Float) (canOverflow : Bool) (args : List Value) : Outcome := do
  return .float (← liftArith ((numArg args 0).applyChecked f canOverflow))

def ln (args : List Value) : Outcome := do
  return .float (← liftArith ((numArg args 0).logWith Float.log))

def log (args : List Value) : Outcome := do
  let base : Num := match args[1]? with
    | some Value.null | none => .int 10
    | some b => b.toNum
  return .float (← liftArith ((numArg args 0).logBase base))

def log10 (args : List Value) : Outcome := do
  return .float (← liftArith ((numArg args 0).logWith Float.log10))

def sign (args : List Value) : Outcome :=
  let n := numArg args 0
  pure (.int ((if n.gt (.int 0) then 1 else 0) - (if n.lt (.int 0) then 1 else 0)))

def divide (args : List Value) : Outcome :=
  let divisor := numArg args 1
  if divisor.isZero then failWith .divZero
  else return .ofNum (← liftArith ((numArg args 0).div divisor))

def difference (args : List Value) : Outcome := do
  return .ofNum (← liftArith ((numArg args 0).sub (numArg args 1)))

end Spreadsheet.Functions
