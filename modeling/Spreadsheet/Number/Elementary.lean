import Spreadsheet.Number.Num

/-!
Elementary functions of doubles, with domain and range checks.

A library function of one double fails with `domain` when it turns a number into NaN, and when it
turns a finite number into an infinity it fails with `overflow` if the function can overflow and
with `domain` at a pole. A power of two finite doubles fails the same way; powers involving an
infinity or NaN follow the IEEE special cases and never fail. Logarithms of integers are taken from
the integer itself, so an integer beyond every double still has one. Rounding to decimal places
rounds the exact binary value, ties to even, and reads the result back as the nearest double.
-/

namespace Spreadsheet.Number

-- Powers of naturals and integers are the core library's, whatever other instances are in scope.
attribute [local instance (high)] instPowNat

def nanValue : Float := 0.0 / 0.0

def Float.signBit (x : Float) : Bool := x.toBits.toNat / 2 ^ (63 : Nat) == 1

def Float.copySign (mag sign : Float) : Float :=
  if Float.signBit sign then -mag.abs else mag.abs

/-- Checks the value `r` that a function gave at `x`: NaN from a number is a `domain` error; an
infinity from a finite number is an `overflow` when the function can overflow and a pole
(`domain`) otherwise. -/
def checkResult (canOverflow : Bool) (x r : Float) : Except ArithError Float :=
  if r.isNaN && !x.isNaN then .error .domain
  else if r.isInf && x.isFinite then .error (if canOverflow then .overflow else .domain)
  else .ok r

/-- `x ^ y`. With an infinity or NaN among the operands the IEEE special cases decide, and no
error arises; for finite operands a NaN result is a `domain` error, and an infinite one a pole
(`domain`) when `x` is zero and an `overflow` otherwise. -/
def Float.powChecked (x y : Float) : Except ArithError Float :=
  if x.isFinite && y.isFinite then
    let r := Float.pow x y
    if r.isNaN then .error .domain
    else if r.isInf then .error (if x == 0 then .domain else .overflow)
    else .ok r
  else
    .ok <|
      if x.isNaN then (if y == 0 then 1 else x)
      else if y.isNaN then (if x == 1 then 1 else y)
      else if x.isInf then
        let oddY := y.isFinite && Num.floatRem y.abs 2 == 1
        if y > 0 then (if oddY then x else x.abs)
        else if y == 0 then 1
        else if oddY then Float.copySign 0 x else 0
      else if x.abs == 1 then 1
      else if y > 0 && x.abs > 1 then y
      else if y < 0 && x.abs < 1 then -y
      else 0

/-- A logarithm extended to the whole line: the pole at zero is minus infinity, negative numbers
and minus infinity give NaN, NaN and plus infinity give themselves. -/
def logExtended (f : Float → Float) (x : Float) : Float :=
  if x.isFinite then
    if x > 0 then f x else if x == 0 then Binary.infinity true else nanValue
  else if x.isNaN then x
  else if x > 0 then x
  else nanValue

/-- A positive natural as `m · 2^e` with `m` in `[1/2, 1)` rounded to 53 bits, ties to even. -/
def splitBinary (n : Nat) : Float × Nat :=
  let bits := n.log2 + 1
  let shift := bits - 53
  let q := n / 2 ^ shift
  let r := n % 2 ^ shift
  let half := 2 ^ shift / 2
  let q := if r > half || (r == half && shift > 0 && q % 2 == 1) then q + 1 else q
  let (q, bits) := if q == 2 ^ (53 : Nat) then (2 ^ (52 : Nat), bits + 1) else (q, bits)
  (Binary.round false q (2 ^ (53 : Nat)), bits)

/-- `x` rounded to `places` decimal places, ties to even on its exact value, read back as the
nearest double. NaN and infinities are themselves, and so is every double for more than 323
places, which no double needs. -/
def Float.roundPlaces (x : Float) (places : Nat) : Float :=
  if places > 323 then x
  else
    match Binary.ofFloat x with
    | .finite neg man exp =>
      if exp ≥ 0 then x
      else
        let (num, den) := Decimal.ratio man exp places
        Binary.round neg (Binary.roundHalfEven num den) (10 ^ places)
    | _ => x

/-- `10 ^ k` for a negative `k`, as a double: the library power of ten, which reaches zero far
enough below one. -/
def negPowerOfTen (k : Int) : Float :=
  Float.pow 10 (-(Binary.round false k.natAbs 1))

end Spreadsheet.Number

namespace Spreadsheet.Num

-- Powers of naturals and integers are the core library's, whatever other instances are in scope.
attribute [local instance (high)] instPowNat

open Number

def applyChecked (f : Float → Float) (canOverflow : Bool) (n : Num) : Except ArithError Float := do
  let x ← n.toFloat
  checkResult canOverflow x (f x)

/-- A logarithm of a number, with `f` the logarithm of positive doubles. Integers must be positive
(`domain` otherwise); one beyond every double is split as `m · 2^e` and its logarithm is
`f m + f 2 · e`. Doubles follow `logExtended`, with NaN from a number and the pole as `domain`
errors. -/
def logWith (f : Float → Float) : Num → Except ArithError Float
  | .int i =>
    if i ≤ 0 then .error .domain
    else match Int.toFloat? i with
      | some x => .ok (f x)
      | none =>
        let (m, e) := splitBinary i.toNat
        .ok (f m + f 2.0 * Binary.round false e 1)
  | .float x => checkResult false x (logExtended f x)

def logBase (x b : Num) : Except ArithError Float := do
  let num ← x.logWith Float.log
  let den ← b.logWith Float.log
  if den == 0 then .error .zeroDivision else pure (num / den)

def powerOfTen (k : Int) : Num :=
  if k ≥ 0 then .int (10 ^ k.toNat) else .float (negPowerOfTen k)

end Spreadsheet.Num
