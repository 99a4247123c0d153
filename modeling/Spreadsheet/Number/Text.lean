import Spreadsheet.Number.Shortest

/-!
Text of doubles, both ways.

* `Float.shortText`: the shortest digits that read back, written positionally when the decimal
  point falls between 4 places left of the first digit and 16 places right of it, and with an
  exponent otherwise (`1e-05`, `1e+16`); an integral value keeps a `.0`.
* `Float.fixedText`: a fixed number of places, rounded half to even on the exact binary value,
  with an optional thousands separator.
* `Float.ofDecimal`: the double nearest to `±digits · 10^exp`.
-/

namespace Spreadsheet.Number

-- Powers of naturals and integers are the core library's, whatever other instances are in scope.
attribute [local instance (high)] instPowNat

def natText (n : Nat) : String := String.ofList (Nat.toDigits 10 n)

def zeroPad (width : Nat) (s : String) : String :=
  String.ofList (List.replicate (width - s.length) '0') ++ s

def groupThousands (sep : String) (digits : String) : String :=
  let rec go : List Char → List Char → Nat → List Char
    | [], acc, _ => acc
    | c :: rest, acc, k =>
      if k > 0 && k % 3 == 0 then go rest (c :: sep.toList ++ acc) (k + 1)
      else go rest (c :: acc) (k + 1)
  String.ofList (go digits.toList.reverse [] 0)

/-- The layout of a decimal `0.d₁d₂…dₙ · 10^point`: positional for `-4 < point ≤ 16`, otherwise one
digit before the point and an exponent of at least two digits with its sign. -/
def layoutShort (digits : String) (point : Int) : String :=
  let n : Int := digits.length
  let cs := digits.toList
  if point ≤ -4 || point > 16 then
    let e := point - 1
    let mant :=
      match cs with
      | [] => "0"
      | [d] => String.singleton d
      | d :: rest => String.singleton d ++ "." ++ String.ofList rest
    mant ++ "e" ++ (if e < 0 then "-" else "+") ++ zeroPad 2 (natText e.natAbs)
  else if point ≤ 0 then
    "0." ++ String.ofList (List.replicate (-point).toNat '0') ++ digits
  else if point ≥ n then
    digits ++ String.ofList (List.replicate (point - n).toNat '0') ++ ".0"
  else
    String.ofList (cs.take point.toNat) ++ "." ++ String.ofList (cs.drop point.toNat)

/-- The shortest text that reads back as `x`: `nan`, `inf`, `-inf`, `-0.0`, `0.1`, `1e-05`,
`1e+16`, `123.0`. -/
def Float.shortText (x : Float) : String :=
  match Binary.ofFloat x with
  | .nan => "nan"
  | .inf neg => if neg then "-inf" else "inf"
  | .finite neg man exp =>
    let sign := if neg then "-" else ""
    if man == 0 then sign ++ "0.0"
    else
      let d := Binary.shortest man exp
      let ds := natText d.digits
      sign ++ layoutShort ds (ds.length + d.exp)

/-- `x` with exactly `places` decimals, rounded half to even on its exact value; the integer part
grouped by `sep` when one is given. A negative `x` keeps its sign even when it rounds to zero. -/
def Float.fixedText (x : Float) (places : Nat) (sep : Option String := none) : String :=
  match Binary.ofFloat x with
  | .nan => "nan"
  | .inf neg => if neg then "-inf" else "inf"
  | .finite neg man exp =>
    let v := Decimal.ratio man exp places
    let n := Binary.roundHalfEven v.1 v.2
    let s := zeroPad (places + 1) (natText n)
    let intPart := String.ofList (s.toList.take (s.length - places))
    let frac := String.ofList (s.toList.drop (s.length - places))
    let intPart := match sep with
      | some g => groupThousands g intPart
      | none => intPart
    (if neg then "-" else "") ++ intPart ++ (if places == 0 then "" else "." ++ frac)

/-- The double nearest to `±digits · 10^exp`. Magnitudes far outside the range of doubles become
an infinity or zero without computing the power. -/
def Float.ofDecimal (neg : Bool) (digits : Nat) (exp : Int) : Float :=
  if digits == 0 then Binary.round neg 0 1
  else
    let size : Int := (natText digits).length + exp
    if size > 400 then Binary.infinity neg
    else if size < -400 then Binary.round neg 0 1
    else if exp ≥ 0 then Binary.round neg (digits * 10 ^ exp.toNat) 1
    else Binary.round neg digits (10 ^ (-exp).toNat)

end Spreadsheet.Number
