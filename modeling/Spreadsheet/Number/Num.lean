import Spreadsheet.Number.Text

/-!
Numbers of formulas: exact integers and doubles, kept apart.

Integers stay exact under `+`, `-`, `*` and `%`; a double on either side turns the other operand
into the nearest double first, which fails with `overflow` when the integer is beyond every double.
Division always yields a double: the quotient of two integers is rounded once, from its exact value.
Comparison between an integer and a double is exact. The integer part of a double (`floor`,
`ceil`, `trunc`) fails on NaN (`domain`) and on an infinity (`overflow`).
-/

namespace Spreadsheet

-- Powers of naturals and integers are the core library's, whatever other instances are in scope.
attribute [local instance (high)] instPowNat

inductive ArithError where
  | domain
  | overflow
  | zeroDivision
  deriving Repr, BEq, DecidableEq, Inhabited

inductive Num where
  | int (i : Int)
  | float (f : Float)
  deriving Inhabited

open Number

namespace Num

def toFloat : Num → Except ArithError Float
  | .int i => match Int.toFloat? i with
    | some f => .ok f
    | none => .error .overflow
  | .float f => .ok f

def isZero : Num → Bool
  | .int i => i == 0
  | .float f => f == 0

def liftFloat (op : Float → Float → Float) (a b : Num) : Except ArithError Num := do
  let x ← a.toFloat
  let y ← b.toFloat
  pure (.float (op x y))

def add : Num → Num → Except ArithError Num
  | .int a, .int b => .ok (.int (a + b))
  | a, b => liftFloat (· + ·) a b

def sub : Num → Num → Except ArithError Num
  | .int a, .int b => .ok (.int (a - b))
  | a, b => liftFloat (· - ·) a b

def mul : Num → Num → Except ArithError Num
  | .int a, .int b => .ok (.int (a * b))
  | a, b => liftFloat (· * ·) a b

def neg : Num → Num
  | .int a => .int (-a)
  | .float x => .float (-x)

def abs : Num → Num
  | .int a => .int a.natAbs
  | .float x => .float x.abs

/-- The quotient of two integers, rounded once from its exact value. -/
def intQuotient (a b : Int) : Except ArithError Float :=
  if b == 0 then .error .zeroDivision
  else if Binary.fits a.natAbs b.natAbs then
    .ok (Binary.round ((a < 0) != (b < 0)) a.natAbs b.natAbs)
  else .error .overflow

def div : Num → Num → Except ArithError Num
  | .int a, .int b => return .float (← intQuotient a b)
  | a, b => do
    let x ← a.toFloat
    let y ← b.toFloat
    if y == 0 then .error .zeroDivision else pure (.float (x / y))

def floatRem (x y : Float) : Float :=
  match Binary.ofFloat x, Binary.ofFloat y with
  | .finite xn xm xe, .finite _ ym ye =>
    if ym == 0 || xm == 0 then (if ym == 0 then 0.0 / 0.0 else x)
    else
      let e := min xe ye
      let xs := xm * 2 ^ (xe - e).toNat
      let ys := ym * 2 ^ (ye - e).toNat
      Binary.round xn (xs % ys) 1 e
  | .finite _ _ _, .inf _ => x
  | _, _ => 0.0 / 0.0

/-- The remainder of a floor division of doubles: it takes the sign of the divisor, and a zero
remainder is the zero of the divisor's sign. -/
def floatMod (x y : Float) : Float :=
  let r := floatRem x y
  let negY := y < 0 || (y == 0 && (Binary.ofFloat y == .finite true 0 Binary.minExp))
  if r != 0 then
    if (y < 0) != (r < 0) then r + y else r
  else if negY then -0.0 else 0.0

def mod : Num → Num → Except ArithError Num
  | .int a, .int b => if b == 0 then .error .zeroDivision else .ok (.int (Int.fmod a b))
  | a, b => do
    let x ← a.toFloat
    let y ← b.toFloat
    if y == 0 then .error .zeroDivision else pure (.float (floatMod x y))

def cmpIntBinary (a : Int) (neg : Bool) (m : Nat) (e : Int) : Ordering :=
  let b : Int := if neg then -(m : Int) else m
  if e ≥ 0 then compare a (b * 2 ^ e.toNat)
  else compare (a * 2 ^ (-e).toNat) b

def compare? : Num → Num → Option Ordering
  | .int a, .int b => some (compare a b)
  | .float x, .float y =>
    if x.isNaN || y.isNaN then none
    else some (if x < y then .lt else if x == y then .eq else .gt)
  | .int a, .float y =>
    match Binary.ofFloat y with
    | .nan => none
    | .inf neg => some (if neg then .gt else .lt)
    | .finite neg m e => some (cmpIntBinary a neg m e)
  | .float x, .int b =>
    match Binary.ofFloat x with
    | .nan => none
    | .inf neg => some (if neg then .lt else .gt)
    | .finite neg m e => some (cmpIntBinary b neg m e).swap

def eq (a b : Num) : Bool := a.compare? b == some .eq
def lt (a b : Num) : Bool := a.compare? b == some .lt
def le (a b : Num) : Bool := a.compare? b == some .lt || a.compare? b == some .eq
def gt (a b : Num) : Bool := a.compare? b == some .gt
def ge (a b : Num) : Bool := a.compare? b == some .gt || a.compare? b == some .eq

def floatToInt (mode : Int → Int → Int) (x : Float) : Except ArithError Int :=
  match Binary.ofFloat x with
  | .nan => .error .domain
  | .inf _ => .error .overflow
  | .finite neg m e =>
    let b : Int := if neg then -(m : Int) else m
    if e ≥ 0 then .ok (b * 2 ^ e.toNat) else .ok (mode b (2 ^ (-e).toNat))

def floor : Num → Except ArithError Int
  | .int a => .ok a
  | .float x => floatToInt Int.fdiv x

def ceil : Num → Except ArithError Int
  | .int a => .ok a
  | .float x => floatToInt (fun a b => -Int.fdiv (-a) b) x

def trunc : Num → Except ArithError Int
  | .int a => .ok a
  | .float x => floatToInt Int.tdiv x

def sameValue (a b : Num) : Bool :=
  match a, b with
  | .int x, .int y => x == y
  | .float x, .float y => x == y || (x.isNaN && y.isNaN)
  | _, _ => false

end Num

end Spreadsheet
