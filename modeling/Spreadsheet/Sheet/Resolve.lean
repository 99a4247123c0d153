import Spreadsheet.Sheet.Store
import Spreadsheet.Eval.Operators
import Spreadsheet.Functions.Catalog
import Spreadsheet.Log.Event

/-!
Evaluation of formulas against a cell store.

A reference to a plain cell reads its value; a reference to a formula cell evaluates that formula
once and remembers the result. The cells being evaluated form a stack, and a reference to a cell
on the stack is a cycle: the path from the cell's first visit to the repeated visit. In
recalculation mode a formula cell is instead read from the values computed so far (blank before its
first computation), and nothing is remembered.

An expression reads cells only through a `Context`: the value of a cell and the values of a
range. An expression's evaluation (`evalTree`) reduces a range to its first cell; it turns a formula error
into its code, an arithmetic or internal failure into `#ERROR!` (with a `formula_exception`
event), and lets a cycle through. A function call turns formula errors into their codes and
arithmetic failures into `#NUM!`. The outermost evaluation (`evaluateBody`) first evaluates the
formula cells the expression depends on, deepest first, so that a long chain of references is
resolved one link at a time; a cycle there is skipped, and a cycle met by the expression itself
becomes `#CIRC!` with a `formula_cycle` event.

Recursion into cells is bounded by a fuel of one more than the number of cells of the store: every
nested evaluation pushes a different formula cell of the store.
-/

namespace Spreadsheet

open Formula Functions Log Calendar

/-- What evaluation reads: the store, the clock, and in recalculation mode the values computed so
far. -/
structure Env where
  store : Store
  now : DateTime
  computed : Option (List (String × Value)) := none
  deriving Inhabited

/-- What evaluation changes: remembered values, the stack of cells being evaluated, and the events
emitted so far. -/
structure Resolver where
  memo : List (String × Value) := []
  stack : List String := []
  events : Array Event := #[]
  deriving Inhabited

abbrev EvalM := ExceptT Fault (StateM Resolver)

/-- Emits an event (redacted). -/
def emit (e : Event) : EvalM Unit :=
  modify fun st => { st with events := st.events.push e.emitted }

/-- The cycle closed by meeting `key` again: the stack from the first visit of `key`, then `key`. -/
def cyclePath (stack : List String) (key : String) : List String :=
  stack.dropWhile (· != key) ++ [key]

def reduceResult : Value → Value
  | .list items => ((Value.flatAll [.list items]).head?).getD .null
  | v => v

def rowsOfWidth (width : Nat) : Nat → List Value → List Value
  | 0, _ => []
  | n + 1, xs => .list (xs.take width) :: rowsOfWidth width n (xs.drop width)

def exceptionEvent (reason : String) : Event :=
  { level := .warning, kind := .formulaException, message := "Formula evaluation failed",
    context := Event.contextOf [("traceback", .str reason)], errorCode := some ErrorCode.failure.text }

def ArithError.describe : ArithError → String
  | .domain => "ValueError: math domain error"
  | .overflow => "OverflowError: math range error"
  | .zeroDivision => "ZeroDivisionError: division by zero"

/-- The boundary of a function call: formula errors become their codes, arithmetic failures
`#NUM!`; cycles and internal failures go on. -/
def callBoundary (body : EvalM Value) : EvalM Value :=
  tryCatch body fun f => match f with
    | .code c => pure c.toValue
    | .arith _ => pure ErrorCode.badNumber.toValue
    | f => throw f

def liftOutcome (r : Outcome) : EvalM Value :=
  match r with
  | .ok v => pure v
  | .error f => throw f.toFault

/-- How an expression reads cells: the value of one cell, and the values of the cells of a range
row by row. -/
structure Context where
  cellValue : String → EvalM Value
  rangeValues : Span → EvalM (List Value)

mutual

def evalExpr (ctx : Context) (now : DateTime) : Expr → EvalM Value
  | .number f => pure (.float f)
  | .string s => pure (.str s)
  | .boolean b => pure (.bool b)
  | .blank => pure .null
  | .name _ => pure .null
  | .cell k => ctx.cellValue k
  | .range a b =>
    let span : Span := ⟨a, b⟩
    let (rows, cols) := span.shape
    if rows == 0 then pure (.list [])
    else do
      let flat ← ctx.rangeValues span
      pure (.list (rowsOfWidth cols rows flat))
  | .binary op l r => do
    let a ← evalExpr ctx now l
    let b ← evalExpr ctx now r
    liftOutcome (op.apply a b)
  | .unary op x => do
    let a ← evalExpr ctx now x
    liftOutcome (op.apply a)
  | .call f args =>
    match builtin? now f with
    | none => pure (ErrorCode.unknownName f).toValue
    | some (.lazy form) => callBoundary (form.run args.length fun i => evalNth ctx now args i)
    | some (.eager run) => callBoundary do
      let vs ← evalArgs ctx now args
      liftOutcome (run vs)

def evalArgs (ctx : Context) (now : DateTime) : List Expr → EvalM (List Value)
  | [] => pure []
  | a :: rest => do
    let v ← evalExpr ctx now a
    let vs ← evalArgs ctx now rest
    pure (v :: vs)

def evalNth (ctx : Context) (now : DateTime) : List Expr → Nat → EvalM Value
  | [], _ => pure .null
  | a :: _, 0 => evalExpr ctx now a
  | _ :: rest, i + 1 => evalNth ctx now rest i

end

/-- Evaluates an expression and reduces it to one value: formula errors become their codes,
arithmetic and internal failures `#ERROR!` with an event; a cycle goes on. -/
def evalTree (ctx : Context) (now : DateTime) (e : Expr) : EvalM Value :=
  tryCatch (return reduceResult (← evalExpr ctx now e)) fun f => match f with
    | .cycle p => throw (.cycle p)
    | .code c => pure c.toValue
    | .arith a => do
      emit (exceptionEvent a.describe)
      pure ErrorCode.failure.toValue
    | .internal r => do
      emit (exceptionEvent r)
      pure ErrorCode.failure.toValue

/-- The value of a cell of the store; a formula cell is evaluated with `fuel` levels of nested
cell evaluations left. -/
def cellValue (env : Env) (fuel : Nat) (cellId : String) : EvalM Value := do
  let key := canonicalKey cellId
  let raw := env.store.content key
  match Store.formulaBody? raw with
  | none => pure (plainValue raw)
  | some body =>
    match env.computed with
    | some values => pure ((values.lookup key).getD .null)
    | none =>
      let st ← get
      match st.memo.lookup key with
      | some v => pure v
      | none =>
        if st.stack.contains key then throw (.cycle (cyclePath st.stack key))
        match fuel with
        | 0 => throw (.internal "reference depth exhausted")
        | fuel + 1 =>
          modify fun st => { st with stack := st.stack ++ [key] }
          let ctx : Context := ⟨cellValue env fuel, fun span => span.keys.mapM (cellValue env fuel)⟩
          let v ← tryCatch
            (if body.isEmpty then pure .null else evalTree ctx env.now (parseBody body))
            (fun f => do
              modify fun st => { st with stack := st.stack.dropLast }
              throw f)
          modify fun st => { st with stack := st.stack.dropLast, memo := (key, v) :: st.memo }
          pure v

def sheetContext (env : Env) (fuel : Nat) : Context :=
  ⟨cellValue env fuel, fun span => span.keys.mapM (cellValue env fuel)⟩

end Spreadsheet
