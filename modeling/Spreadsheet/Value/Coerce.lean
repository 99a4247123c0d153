import Spreadsheet.Value.Basic
import Spreadsheet.Number.Literal
import Spreadsheet.Text.Case

/-!
Lenient coercions between values.

A value read as a number: a truth value is 1 or 0, a blank 0, a number itself, and anything else
the number its text starts with (0 when there is none). A value read as text: a blank is empty,
truth values are `TRUE` and `FALSE`, integral doubles below `10^21` lose their `.0`, and a list is
the text of its entries joined by commas. Only the first entry of a list counts where one value
is needed. Nothing here fails.
-/

namespace Spreadsheet

-- Powers of naturals and integers are the core library's, whatever other instances are in scope.
attribute [local instance (high)] instPowNat

open Number

/-- The text of a number shown in a cell: `NaN`, `Infinity`, `-Infinity`; an integral double below
`10^21` in magnitude as an integer; otherwise the shortest text. -/
def Num.display : Num → String
  | .int i => toString i
  | .float f =>
    match Binary.ofFloat f with
    | .nan => "NaN"
    | .inf neg => if neg then "-Infinity" else "Infinity"
    | .finite neg m e =>
      let integral := e ≥ 0 || m % 2 ^ (-e).toNat == 0
      if integral && f.abs < 1e21 then
        let v : Int := if e ≥ 0 then (m * 2 ^ e.toNat : Nat) else (m / 2 ^ (-e).toNat : Nat)
        toString (if neg then -v else v)
      else Float.shortText f

namespace Value

def first : Value → Value
  | .list [] => .null
  | .list (v :: _) => first v
  | v => v

def flatAll : List Value → List Value
  | [] => []
  | .list items :: rest => flatAll items ++ flatAll rest
  | v :: rest => v :: flatAll rest

def toNum (v : Value) : Num :=
  match v.first with
  | .bool b => .float (if b then 1.0 else 0.0)
  | .int i => .int i
  | .float f => .float f
  | .null => .float 0.0
  | w => .float ((numberPrefix? w.toPlain).getD 0.0)

def toText : Value → String
  | .null => ""
  | .bool b => if b then "TRUE" else "FALSE"
  | .int i => toString i
  | .float f => (Num.float f).display
  | .list items => ",".intercalate ((flatAll items).map scalarText)
  | v => v.toPlain
where
  scalarText : Value → String
    | .null => ""
    | .bool b => if b then "TRUE" else "FALSE"
    | .int i => toString i
    | .float f => (Num.float f).display
    | v => v.toPlain

def isBlank : Value → Bool
  | .null => true
  | .str s => s.isEmpty
  | _ => false

/-- Truth of a condition: blank, zero, `FALSE` and text reading `FALSE` around blanks, in any
case, are false. -/
def isTruthy (v : Value) : Bool :=
  match v.first with
  | .null => false
  | .str s => !s.isEmpty && Text.upper (Text.trimBlanks s) != "FALSE"
  | .bool b => b
  | .int i => i != 0
  | .float f => f != 0
  | .list items => !items.isEmpty
  | .dict entries => !entries.isEmpty
  | _ => true

/-- The numbers among the scalars of the arguments: numbers, truth values and text that is a
number literal; blanks and other text are left out. -/
def flatNums (args : List Value) : List Num :=
  (flatAll args).filterMap fun v =>
    match v with
    | .str s => if looksNumeric s then some (.float ((readFloat? s).getD 0.0)) else Option.none
    | .null => Option.none
    | w => some w.toNum

end Value

inductive Operands where
  | nums (a b : Num)
  | texts (a b : String)
  deriving Inhabited

namespace Operands

/-- Numbers when either side is a number or a truth value, lower-cased text otherwise. -/
def of (left right : Value) : Operands :=
  let l := left.first
  let r := right.first
  let numeric : Value → Bool := fun v => match v with
    | .int _ | .float _ | .bool _ => true
    | _ => false
  if numeric l || numeric r then .nums l.toNum r.toNum
  else .texts (Text.lower l.toText) (Text.lower r.toText)

def eq : Operands → Bool
  | .nums a b => a.eq b
  | .texts a b => a == b

def lt : Operands → Bool
  | .nums a b => a.lt b
  | .texts a b => decide (a < b)

def le : Operands → Bool
  | .nums a b => a.le b
  | .texts a b => decide (a ≤ b)

def gt : Operands → Bool
  | .nums a b => a.gt b
  | .texts a b => decide (b < a)

def ge : Operands → Bool
  | .nums a b => a.ge b
  | .texts a b => decide (b ≤ a)

def equal (left right : Value) : Bool := (of left right).eq

end Operands

end Spreadsheet
