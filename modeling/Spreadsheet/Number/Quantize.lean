import Spreadsheet.Number.Text
import Spreadsheet.Number.Num

/-!
Rounding half away from zero on the shortest decimal of a double.

`Float.roundHalfAway x places` takes the shortest decimal that reads back as `x` (so `1.005` is the
decimal 1.005, not the binary value just below it), rounds it half away from zero to a multiple of
`10^-places`, and reads the result back as the nearest double. The rounding works in a decimal
arithmetic with limits (`DecimalLimits`): the unit `10^-places` must lie within its exponent range,
and the rounded coefficient must fit its precision; otherwise the rounding fails.
-/

namespace Spreadsheet.Number

-- Powers of naturals and integers are the core library's, whatever other instances are in scope.
attribute [local instance (high)] instPowNat

structure DecimalLimits where
  precision : Nat
  maxExp : Int
  minExp : Int
  deriving Repr, Inhabited

namespace DecimalLimits

/-- Rounding works with 28 significant digits and adjusted exponents within `±999999`. -/
def standard : DecimalLimits := ⟨28, 999999, -999999⟩

def tinyExp (l : DecimalLimits) : Int := l.minExp - l.precision + 1

def maxShift (l : DecimalLimits) : Nat := 2 * (l.maxExp + l.precision).toNat

end DecimalLimits

/-- The exponent of the unit `10^-places`: fails (`domain`) when the shift is beyond the limits,
(`overflow`) when the unit is too large; a unit too small becomes the least subnormal exponent. -/
def unitExp (l : DecimalLimits) (places : Int) : Except ArithError Int :=
  if places.natAbs > l.maxShift then .error .domain
  else if -places > l.maxExp then .error .overflow
  else .ok (max (-places) l.tinyExp)

/-- Rounds `digits · 10^exp` half away from zero to a multiple of `10^q`: the new coefficient, or
`none` when it needs more digits than `precision`. -/
def quantizeCoefficient (precision : Nat) (digits : Nat) (exp q : Int) : Option Nat :=
  let shift := exp - q
  if (Decimal.digitCount digits : Int) + shift > precision then none
  else if shift ≥ 0 then some (digits * 10 ^ shift.toNat)
  else
    let s := (-shift).toNat
    if s > Decimal.digitCount digits then some 0
    else
      let k := digits / 10 ^ s
      let k := if 2 * (digits % 10 ^ s) ≥ 10 ^ s then k + 1 else k
      if Decimal.digitCount k > precision then none else some k

/-- The finite double `x` rounded half away from zero to `places` decimal places, on its shortest
decimal, within the limits `l`. -/
def Float.roundHalfAway (x : Float) (places : Int) (l : DecimalLimits := .standard) :
    Except ArithError Float := do
  let q ← unitExp l places
  match Binary.ofFloat x with
  | .finite neg man exp =>
    if man == 0 then pure (Float.ofDecimal neg 0 0)
    else
      let d := Binary.shortest man exp
      match quantizeCoefficient l.precision d.digits d.exp q with
      | none => throw .domain
      | some k =>
        let adjusted := q + (if k == 0 then 0 else (Decimal.digitCount k : Int) - 1)
        if adjusted > l.maxExp || adjusted < l.tinyExp then throw .domain
        else pure (Float.ofDecimal neg k q)
  | _ => pure x

end Spreadsheet.Number
