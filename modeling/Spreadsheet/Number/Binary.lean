/-!
Binary doubles as exact numbers.

A double is read from its bits as `nan`, an infinity, or `(-1)^neg · man · 2^exp` with a natural
significand. The way back is `Binary.round`: the double nearest to a positive ratio
`num / den · 2^shift`, ties going to the even significand, subnormals and overflow included.
Every other conversion of the library (integers, decimals, quotients) goes through it, so one
rounding rule holds everywhere.
-/

namespace Spreadsheet.Number

-- Powers of naturals and integers are the core library's, whatever other instances are in scope.
attribute [local instance (high)] instPowNat

inductive Binary where
  | nan
  | inf (neg : Bool)
  | finite (neg : Bool) (man : Nat) (exp : Int)
  deriving Repr, BEq, Inhabited

namespace Binary

def manBits : Nat := 52

def minExp : Int := -1074

/-- Reads the bits of a double. Subnormals have the exponent `minExp`, normal numbers a
significand in `[2^52, 2^53)`. -/
def ofFloat (x : Float) : Binary :=
  let b : Nat := x.toBits.toNat
  let neg : Bool := b / 2 ^ (63 : Nat) % 2 == 1
  let e : Nat := b / 2 ^ (52 : Nat) % 2048
  let f : Nat := b % 2 ^ (52 : Nat)
  if e == 2047 then
    if f == 0 then .inf neg else .nan
  else if e == 0 then .finite neg f minExp
  else .finite neg (f + 2 ^ (52 : Nat)) ((e : Int) - 1075)

/-- The double with the given sign, significand and exponent, which must be representable:
either `man < 2^52` with `exp = minExp`, or `2^52 ≤ man < 2^53` with an exponent in range. -/
def pack (neg : Bool) (man : Nat) (exp : Int) : Float :=
  let sign := if neg then 2 ^ (63 : Nat) else 0
  let bits :=
    if man < 2 ^ (52 : Nat) then sign + man
    else sign + (exp + 1075).toNat * 2 ^ (52 : Nat) + (man - 2 ^ (52 : Nat))
  Float.ofBits bits.toUInt64

def infinity (neg : Bool) : Float :=
  Float.ofBits ((if neg then 2 ^ (63 : Nat) else 0) + 2047 * 2 ^ (52 : Nat) : Nat).toUInt64

def floorLog2Ratio (num den : Nat) : Int :=
  let t : Int := (num.log2 : Int) - (den.log2 : Int)
  if t ≥ 0 then
    if num ≥ den * 2 ^ t.toNat then t else t - 1
  else
    if num * 2 ^ (-t).toNat ≥ den then t else t - 1

def scaleRatio (num den : Nat) (k : Int) : Nat × Nat :=
  if k ≥ 0 then (num * 2 ^ k.toNat, den) else (num, den * 2 ^ (-k).toNat)

def roundHalfEven (num den : Nat) : Nat :=
  let q := num / den
  let r := num % den
  if 2 * r > den || (2 * r == den && q % 2 == 1) then q + 1 else q

/-- The nearest double to `num / den · 2^shift` (with `den > 0`), as significand and exponent;
`none` when it rounds to a value of at least `2^1024`. -/
def roundParts (num den : Nat) (shift : Int) : Option (Nat × Int) :=
  if num == 0 then some (0, minExp)
  else
    let top := floorLog2Ratio num den + shift
    let e := max (top - 52) minExp
    let (n, d) := scaleRatio num den (shift - e)
    let m := roundHalfEven n d
    let (m, e) := if m == 2 ^ (53 : Nat) then (2 ^ (52 : Nat), e + 1) else (m, e)
    if e + 52 ≥ 1024 then none else some (m, e)

/-- The nearest double to `±num / den · 2^shift`, ties to even, or the infinity of that sign when
the magnitude rounds beyond the largest double. -/
def round (neg : Bool) (num den : Nat) (shift : Int := 0) : Float :=
  match roundParts num den shift with
  | some (m, e) => pack neg m e
  | none => infinity neg

def fits (num den : Nat) (shift : Int := 0) : Bool :=
  (roundParts num den shift).isSome

end Binary

def Int.toFloat? (i : Int) : Option Float :=
  if Binary.fits i.natAbs 1 then some (Binary.round (i < 0) i.natAbs 1) else none

end Spreadsheet.Number
