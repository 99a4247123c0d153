import Spreadsheet.Sheet.Resolve

/-!
Evaluating one formula against a store.

Before the formula itself, the formula cells it depends on are evaluated deepest first: a
depth-first walk from its references lists each formula cell after the cells it reads (each cell
once), and the cells are evaluated in that order, skipping those caught in a cycle. Then the
formula is evaluated; a cycle it meets becomes `#CIRC!` and a `formula_cycle` event. Text that is
not a formula is its own value, and a formula with an empty body is blank.
-/

namespace Spreadsheet

open Formula Log

/-- The formula cells reachable from `keys`, each listed after the formula cells it reads.
`seen` holds the cells already visited and `order` the list so far. -/
def dependencyOrder (store : Store) : Nat → List String → List String × List String →
    List String × List String
  | 0, _, acc => acc
  | _ + 1, [], acc => acc
  | fuel + 1, k :: rest, (seen, order) =>
    let acc :=
      if seen.contains k then (seen, order)
      else match store.formulaExpr? k with
        | none => (seen ++ [k], order)
        | some e =>
          let (seen', order') := dependencyOrder store fuel e.references (seen ++ [k], order)
          (seen', order' ++ [k])
    dependencyOrder store (fuel + 1) rest acc
termination_by fuel rest => (fuel, rest.length)

def Store.fuel (s : Store) : Nat := s.cells.length + 1

/-- Evaluates the formula cells an expression depends on, deepest first; cycles are skipped. -/
def resolveAhead (env : Env) (e : Expr) : EvalM Unit := do
  if env.computed.isSome then return
  let (_, order) := dependencyOrder env.store env.store.fuel e.references ([], [])
  for key in order do
    tryCatch (discard (cellValue env env.store.fuel key)) fun f => match f with
      | .cycle _ => pure ()
      | f => throw f

def cycleEvent (path : List String) : Event :=
  { level := .warning, kind := .formulaCycle,
    message := "Circular cell reference: " ++ " -> ".intercalate path,
    context := Event.contextOf [("cycle", .list (path.map .str))],
    errorCode := some ErrorCode.circular.text }

/-- Evaluates a formula body: its dependencies first, then the body; a cycle becomes `#CIRC!`. -/
def evaluateBody (env : Env) (body : String) : EvalM Value := do
  let e := parseBody body
  tryCatch (do resolveAhead env e; evalTree (sheetContext env env.store.fuel) env.now e) fun f => match f with
    | .cycle path => do
      emit (cycleEvent path)
      pure ErrorCode.circular.toValue
    | .code c => pure c.toValue
    | .arith a => do
      emit { level := .warning, kind := .formulaException,
             message := "Formula evaluation failed: " ++ a.describe,
             context := Event.contextOf [("formula", .str body)],
             errorCode := some ErrorCode.failure.text }
      pure ErrorCode.failure.toValue
    | .internal r => do
      emit { level := .warning, kind := .formulaException,
             message := "Formula evaluation failed: " ++ r,
             context := Event.contextOf [("formula", .str body)],
             errorCode := some ErrorCode.failure.text }
      pure ErrorCode.failure.toValue

def EvalM.runFresh (m : EvalM Value) : Value × List Event :=
  match (m.run).run {} with
  | (.ok v, st) => (v, st.events.toList)
  | (.error _, st) => (ErrorCode.failure.toValue, st.events.toList)

/-- The value of content evaluated against a store: content that is not formula text is its own
value; a formula with an empty body is blank. -/
def evaluateFormula (store : Store) (now : Calendar.DateTime) (content : Value) : Value × List Event :=
  match content with
  | .str s =>
    match Store.formulaBody? s with
    | some body =>
      if body.isEmpty then (.null, [])
      else (evaluateBody { store := store, now := now } body).runFresh
    | none => (content, [])
  | v => (v, [])

end Spreadsheet
