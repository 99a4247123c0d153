import Spreadsheet.Ref

/-!
Expression trees of formulas.

Leaves are literals, cell references (canonical keys), ranges between two corner keys (the end may
be empty), bare names and blanks; inner nodes are function calls, the twelve binary operators and
the three prefix and postfix operators. Each node has the rule name under which it is shown.
-/

namespace Spreadsheet.Formula

/-- Binary operators, lowest precedence first. -/
inductive BinOp where
  | eq | neq | lt | gt | lte | gte | concat | add | sub | mul | div | pow
  deriving Repr, BEq, DecidableEq, Inhabited

inductive UnOp where
  | neg | pos | percent
  deriving Repr, BEq, DecidableEq, Inhabited

inductive Expr where
  | number (f : Float)
  | string (s : String)
  | boolean (b : Bool)
  | cell (key : String)
  | range (start stop : String)
  | name (text : String)
  | blank
  | call (fn : String) (args : List Expr)
  | binary (op : BinOp) (left right : Expr)
  | unary (op : UnOp) (arg : Expr)
  deriving Inhabited

def BinOp.rule : BinOp → String
  | .eq => "eq" | .neq => "neq" | .lt => "lt" | .gt => "gt" | .lte => "lte" | .gte => "gte"
  | .concat => "concat" | .add => "add" | .sub => "sub" | .mul => "mul" | .div => "div" | .pow => "pow"

def UnOp.rule : UnOp → String
  | .neg => "neg" | .pos => "pos" | .percent => "percent"

end Spreadsheet.Formula
