import Spreadsheet.Number.Binary

/-!
The shortest decimal that reads back as a given double.

For a finite positive double `v = man · 2^exp`, the reals that round to `v` form an interval
around it, with its ends included when `man` is even. `Binary.shortest` tries decimal grids of
1, 2, … 17 significant digits; on each grid only the two grid points next to `v` can lie in the
interval, and the first grid with a point inside wins. Of two points inside, the nearer one is
taken. All comparisons are exact, in natural numbers.
-/

namespace Spreadsheet.Number

-- Powers of naturals and integers are the core library's, whatever other instances are in scope.
attribute [local instance (high)] instPowNat

structure Decimal where
  digits : Nat
  exp : Int
  deriving Repr, BEq, Inhabited

namespace Decimal

def ratio (m : Nat) (e2 e10 : Int) : Nat × Nat :=
  (m * 2 ^ e2.toNat * 10 ^ e10.toNat, 2 ^ (-e2).toNat * 10 ^ (-e10).toNat)

def cmp (a b : Nat × Nat) : Ordering :=
  compare (a.1 * b.2) (b.1 * a.2)

def floorLog10 (num den : Nat) : Int :=
  let guess : Int := ((num.log2 : Int) - (den.log2 : Int)) * 1233 / 4096
  let above (d : Int) : Bool := cmp (ratio 1 0 d) (num, den) == .gt
  -- the guess is within two of the answer; step down, then up
  let d1 := if above guess then guess - 1 else guess
  let d2 := if above d1 then d1 - 1 else d1
  let d3 := if above d2 then d2 - 1 else d2
  let d4 := if above (d3 + 1) then d3 else d3 + 1
  let d5 := if above (d4 + 1) then d4 else d4 + 1
  if above (d5 + 1) then d5 else d5 + 1

def normalize (d : Decimal) : Decimal :=
  go d.digits.log2 d
where
  go : Nat → Decimal → Decimal
    | 0, d => d
    | k + 1, d =>
      if d.digits != 0 && d.digits % 10 == 0 then go k ⟨d.digits / 10, d.exp + 1⟩ else d

def digitCount (n : Nat) : Nat := (Nat.toDigits 10 n).length

end Decimal

namespace Binary

/-- The interval of reals that round to the positive double `man · 2^exp`: its ends as ratios,
and whether the ends belong to it. -/
def roundingInterval (man : Nat) (exp : Int) : (Nat × Nat) × (Nat × Nat) × Bool :=
  let low :=
    if man == 2 ^ (52 : Nat) && exp > minExp then Decimal.ratio (4 * man - 1) (exp - 2) 0
    else Decimal.ratio (2 * man - 1) (exp - 1) 0
  let high := Decimal.ratio (2 * man + 1) (exp - 1) 0
  (low, high, man % 2 == 0)

def within (low high : Nat × Nat) (closed : Bool) (c : Nat) (s : Int) : Bool :=
  let x := Decimal.ratio c 0 s
  let lo := Decimal.cmp x low
  let hi := Decimal.cmp x high
  if closed then lo != .lt && hi != .gt else lo == .gt && hi == .lt

/-- The shortest decimal in the rounding interval of the positive double `man · 2^exp`, the
nearer of two on the same grid; trailing zeros are dropped. -/
def shortest (man : Nat) (exp : Int) : Decimal :=
  let v := Decimal.ratio man exp 0
  let (low, high, closed) := roundingInterval man exp
  let top := Decimal.floorLog10 v.1 v.2
  let rec search : Nat → Nat → Decimal
    | 0, _ => ⟨man, exp⟩
    | fuel + 1, p =>
      let s : Int := top - p + 1
      let q := v.1 * 10 ^ (-s).toNat / (v.2 * 10 ^ s.toNat)
      let downIn := within low high closed q s
      let upIn := within low high closed (q + 1) s
      if downIn && upIn then
        -- the nearer point: compare 2v with (2q + 1) · 10^s
        match Decimal.cmp (2 * v.1, v.2) (Decimal.ratio (2 * q + 1) 0 s) with
        | .lt => ⟨q, s⟩
        | .gt => ⟨q + 1, s⟩
        | .eq => if q % 2 == 0 then ⟨q, s⟩ else ⟨q + 1, s⟩
      else if downIn then ⟨q, s⟩
      else if upIn then ⟨q + 1, s⟩
      else if fuel == 0 then ⟨Binary.roundHalfEven (v.1 * 10 ^ (-s).toNat) (v.2 * 10 ^ s.toNat), s⟩
      else search fuel (p + 1)
  Decimal.normalize (search 17 1)

end Binary

end Spreadsheet.Number
