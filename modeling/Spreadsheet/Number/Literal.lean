import Spreadsheet.Number.Text
import Spreadsheet.Text.Digit
import Spreadsheet.Text.Blank

/-!
Decimal literals: `digits[.digits]` or `.digits`, then optionally `e` or `E`, a sign and digits.
Digits may come from any script. An exponent mark without digits after it is not part of the
literal. `Literal.scan` reads the longest literal at the start of a character list; its value is
the double nearest to the exact decimal.
-/

namespace Spreadsheet.Number

structure Literal where
  mantissa : Nat
  scale : Int
  length : Nat
  deriving Repr, BEq

namespace Literal

def digitsValue (ds : List Char) : Nat :=
  ds.foldl (fun n c => n * 10 + (Text.digitValue? c).getD 0) 0

def scanExponent (cs : List Char) : Int × Nat :=
  match cs with
  | e :: rest =>
    if e == 'e' || e == 'E' then
      let (neg, signLen, rest) := match rest with
        | '+' :: r => (false, 1, r)
        | '-' :: r => (true, 1, r)
        | r => (false, 0, r)
      let ds := rest.takeWhile Text.isDigit
      if ds.isEmpty then (0, 0)
      else
        let v : Int := digitsValue ds
        (if neg then -v else v, 1 + signLen + ds.length)
    else (0, 0)
  | [] => (0, 0)

def scan? (cs : List Char) : Option Literal :=
  let intDs := cs.takeWhile Text.isDigit
  let rest := cs.dropWhile Text.isDigit
  let frac : Option (List Char) :=
    match rest with
    | '.' :: r =>
      let fs := r.takeWhile Text.isDigit
      if intDs.isEmpty && fs.isEmpty then none else some fs
    | _ => none
  if intDs.isEmpty && frac.isNone then none
  else
    let fs := frac.getD []
    let used := intDs.length + (if frac.isSome then 1 + fs.length else 0)
    let (e, eLen) := scanExponent (cs.drop used)
    some ⟨digitsValue (intDs ++ fs), e - fs.length, used + eLen⟩

def toFloat (l : Literal) (neg : Bool := false) : Float :=
  Float.ofDecimal neg l.mantissa l.scale

end Literal

def scanSigned? (cs : List Char) : Option (Float × List Char) :=
  let cs := cs.dropWhile Text.isBlank
  let (neg, cs) := match cs with
    | '+' :: r => (false, r)
    | '-' :: r => (true, r)
    | r => (false, r)
  (Literal.scan? cs).map fun l => (l.toFloat neg, cs.drop l.length)

/-- The number at the start of a text, after blanks: `12px` gives 12. -/
def numberPrefix? (s : String) : Option Float :=
  (scanSigned? s.toList).map (·.1)

/-- Whether the whole text is a number literal, blanks around it allowed. -/
def looksNumeric (s : String) : Bool :=
  match scanSigned? s.toList with
  | some (_, rest) => rest.all Text.isBlank
  | none => false
end Spreadsheet.Number

namespace Spreadsheet.Number

/-- Reads the text of a double: blanks around an optional sign and either a decimal literal or
`inf`, `infinity` or `nan` in any case. -/
def readFloat? (s : String) : Option Float :=
  let cs := ((s.toList.dropWhile Text.isBlank).reverse.dropWhile Text.isBlank).reverse
  let (neg, cs) := match cs with
    | '+' :: r => (false, r)
    | '-' :: r => (true, r)
    | r => (false, r)
  let word := String.ofList (cs.map Char.toLower)
  if word == "inf" || word == "infinity" then some (if neg then -1.0 / 0.0 else 1.0 / 0.0)
  else if word == "nan" then some (0.0 / 0.0)
  else match Literal.scan? cs with
    | some l => if l.length == cs.length then some (l.toFloat neg) else none
    | none => none

def readInt? (s : String) : Option Int :=
  let cs := ((s.toList.dropWhile Text.isBlank).reverse.dropWhile Text.isBlank).reverse
  let (neg, cs) := match cs with
    | '+' :: r => (false, r)
    | '-' :: r => (true, r)
    | r => (false, r)
  if cs.isEmpty || !cs.all Text.isDigit then none
  else
    let v : Int := Literal.digitsValue cs
    some (if neg then -v else v)

def digitIn? (base : Nat) (c : Char) : Option Nat :=
  let v := match Text.digitValue? c with
    | some d => some d
    | none =>
      if 'a' ≤ c && c ≤ 'z' then some (c.toNat - 87)
      else if 'A' ≤ c && c ≤ 'Z' then some (c.toNat - 55)
      else none
  v.filter (· < base)

def groupedDigits? (base : Nat) (cs : List Char) : Option Nat :=
  go cs 0 false
where
  go : List Char → Nat → Bool → Option Nat
    | [], acc, sawDigit => if sawDigit then some acc else none
    | '_' :: c :: rest, acc, true => do
      let d ← digitIn? base c
      go rest (acc * base + d) true
    | c :: rest, acc, _ => do
      let d ← digitIn? base c
      go rest (acc * base + d) true

/-- Reads an integer the way integer conversion of text in `base` does: blanks around an optional
sign and digits (of any script, or letters for bases above ten) with single underscores between
them; in bases 2, 8 and 16 the prefix `0b`, `0o` or `0x` may come first. -/
def readIntIn? (base : Nat) (s : String) : Option Int :=
  let cs := ((s.toList.dropWhile Text.isBlank).reverse.dropWhile Text.isBlank).reverse
  let (neg, cs) := match cs with
    | '+' :: r => (false, r)
    | '-' :: r => (true, r)
    | r => (false, r)
  let marker := if base == 2 then some 'b' else if base == 8 then some 'o' else if base == 16 then some 'x' else none
  let digits := match cs, marker with
    | '0' :: m :: rest, some k => if m.toLower == k then (match rest with | '_' :: r => r | r => r) else cs
    | _, _ => cs
  (groupedDigits? base digits).map fun v => if neg then -(v : Int) else v

example : readIntIn? 10 " 1_000 " = some 1000 ∧ readIntIn? 10 "1__0" = none ∧ readIntIn? 2 "-0b101" = some (-5) := by
  decide

end Spreadsheet.Number
