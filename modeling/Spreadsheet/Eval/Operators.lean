import Spreadsheet.Eval.Fault
import Spreadsheet.Formula.Expr
import Spreadsheet.Number.Elementary

/-!
The operators of formulas on values.

Arithmetic reads both operands as numbers; a zero divisor gives `#DIV/0!` and a failed power gives
`#NUM!`, while other arithmetic failures (an integer too large for a double) stop the step.
`&` joins the operands' texts. Comparisons compare numbers when either operand is a number or a
truth value and lower-cased texts otherwise; a NaN is unequal to everything.
-/

namespace Spreadsheet.Formula

open Number

/-- The power operator: any failure is `#NUM!`. -/
def powerValue (a b : Value) : Value :=
  let r : Except ArithError Float := do
    let x ← a.toNum.toFloat
    let y ← b.toNum.toFloat
    Float.powChecked x y
  match r with
  | .ok f => .float f
  | .error _ => ErrorCode.badNumber.toValue

def BinOp.apply (op : BinOp) (a b : Value) : Except Failure Value :=
  let num (r : Except ArithError Num) : Except Failure Value := (liftArith r).map Value.ofNum
  match op with
  | .add => num (a.toNum.add b.toNum)
  | .sub => num (a.toNum.sub b.toNum)
  | .mul => num (a.toNum.mul b.toNum)
  | .div =>
    let d := b.toNum
    if d.isZero then .ok ErrorCode.divZero.toValue else num (a.toNum.div d)
  | .pow => .ok (powerValue a b)
  | .concat => .ok (.str (a.toText ++ b.toText))
  | .eq => .ok (.bool (Operands.of a b).eq)
  | .neq => .ok (.bool !(Operands.of a b).eq)
  | .lt => .ok (.bool (Operands.of a b).lt)
  | .gt => .ok (.bool (Operands.of a b).gt)
  | .lte => .ok (.bool (Operands.of a b).le)
  | .gte => .ok (.bool (Operands.of a b).ge)

def UnOp.apply (op : UnOp) (a : Value) : Except Failure Value :=
  match op with
  | .neg => .ok (.ofNum a.toNum.neg)
  | .pos => .ok (.ofNum a.toNum)
  | .percent => (liftArith (a.toNum.div (.int 100))).map Value.ofNum

end Spreadsheet.Formula
