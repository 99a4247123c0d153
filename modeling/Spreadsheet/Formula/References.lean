import Spreadsheet.Formula.Parse

/-!
The cells an expression reads.

Bare references and ranges are collected in pre-order, left to right, each kept at its first
occurrence. The cells an expression reads are its bare references followed by the cells of its
ranges that are not listed yet. A text that is not a formula (no leading `=`) reads nothing.
-/

namespace Spreadsheet.Formula

def dedup {α : Type} [BEq α] (xs : List α) : List α :=
  xs.foldl (fun acc x => if acc.contains x then acc else acc ++ [x]) []

mutual
def Expr.cellsInOrder : Expr → List String
  | .cell k => [k]
  | .call _ args => Expr.cellsInArgs args
  | .binary _ l r => l.cellsInOrder ++ r.cellsInOrder
  | .unary _ e => e.cellsInOrder
  | _ => []

def Expr.cellsInArgs : List Expr → List String
  | [] => []
  | e :: rest => e.cellsInOrder ++ Expr.cellsInArgs rest
end

mutual
def Expr.rangesInOrder : Expr → List (String × String)
  | .range a b => [(a, b)]
  | .call _ args => Expr.rangesInArgs args
  | .binary _ l r => l.rangesInOrder ++ r.rangesInOrder
  | .unary _ e => e.rangesInOrder
  | _ => []

def Expr.rangesInArgs : List Expr → List (String × String)
  | [] => []
  | e :: rest => e.rangesInOrder ++ Expr.rangesInArgs rest
end

def Expr.cellRefs (e : Expr) : List String := dedup e.cellsInOrder

def Expr.ranges (e : Expr) : List (String × String) := dedup e.rangesInOrder

/-- Every cell an expression reads: bare references, then range cells not yet listed. -/
def Expr.references (e : Expr) : List String :=
  dedup (e.cellRefs ++ e.ranges.flatMap fun r => (Span.mk r.1 r.2).keys)

def formulaExpr? (text : String) : Option Expr :=
  if text.startsWith "=" then some (parseBody (Text.trimBlanks (String.ofList (text.toList.drop 1))))
  else none

def formulaCells (text : String) : List String := ((formulaExpr? text).map Expr.cellRefs).getD []

def formulaRanges (text : String) : List (String × String) := ((formulaExpr? text).map Expr.ranges).getD []

def formulaReferences (text : String) : List String := ((formulaExpr? text).map Expr.references).getD []

end Spreadsheet.Formula
