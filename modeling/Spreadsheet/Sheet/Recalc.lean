import Spreadsheet.Sheet.Evaluate

/-!
Whole-sheet recalculation to a fixed point.

Each pass evaluates the formula cells in store order; a reference to a formula cell reads the
latest value computed so far (blank before its first computation), so a pass sees the updates made
earlier in the same pass. Passes repeat while their count is below the cap, until a pass changes
nothing. Two values are the same when they are of the same kind and equal, a NaN being the same as
a NaN; so `0` and `0.0` differ. The result lists every cell of the store: computed values for
formula cells, raw text for the others.
-/

namespace Spreadsheet

-- Powers of naturals and integers are the core library's, whatever other instances are in scope.
attribute [local instance (high)] instPowNat

open Log

structure RecalcResult where
  values : List (String × Value)
  iterations : Nat
  converged : Bool
  deriving Inhabited

inductive RecalcError where
  | notPositive (capText : String)
  | notANumber
  deriving Inhabited

def defaultMaxIterations : Nat := 100

/-- Whether two computed values are the same for convergence. -/
def sameValue : Value → Value → Bool
  | .null, .null => true
  | .bool a, .bool b => a == b
  | .int a, .int b => a == b
  | .float a, .float b => a == b || (a.isNaN && b.isNaN)
  | .str a, .str b => a == b
  | _, _ => false

/-- The number of passes a cap allows: those whose count is below it. -/
def passesAllowed : Num → Nat
  | .int i => i.toNat
  | .float f =>
    if f.isNaN then 0
    else if f.isInf then (if f > 0 then 2 ^ (64 : Nat) else 0)
    else match Num.ceil (.float f) with
      | .ok n => n.toNat
      | .error _ => 0

def setComputed (computed : List (String × Value)) (key : String) (v : Value) : List (String × Value) :=
  if computed.any (·.1 == key) then computed.map fun e => if e.1 == key then (key, v) else e
  else computed ++ [(key, v)]

def recalcPass (store : Store) (now : Calendar.DateTime) :
    List (String × String) → List (String × Value) × Bool × Array Event →
    List (String × Value) × Bool × Array Event
  | [], acc => acc
  | (key, body) :: rest, (computed, changed, events) =>
    let (v, evs) :=
      if body.isEmpty then (Value.null, [])
      else (evaluateBody { store := store, now := now, computed := some computed } body).runFresh
    let old := (computed.lookup key).getD .null
    recalcPass store now rest (setComputed computed key v, changed || !sameValue old v, events ++ evs.toArray)

def recalcLoop (store : Store) (now : Calendar.DateTime) (formulas : List (String × String)) :
    Nat → List (String × Value) → Nat → Array Event → List (String × Value) × Nat × Bool × Array Event
  | 0, computed, n, events => (computed, n, false, events)
  | fuel + 1, computed, n, events =>
    let (computed, changed, events) := recalcPass store now formulas (computed, false, events)
    if changed then recalcLoop store now formulas fuel computed (n + 1) events
    else (computed, n + 1, true, events)

def capText (cap : Value) : String :=
  match cap with
  | .float f => Number.Float.shortText f
  | .bool b => if b then "True" else "False"
  | v => v.toPlain

/-- Recalculates every formula cell with at most `cap` passes (the default when blank). -/
def recalculate (store : Store) (now : Calendar.DateTime) (cap : Value) :
    Except RecalcError (RecalcResult × List Event) := do
  let cap : Value := match cap with
    | .null => .int defaultMaxIterations
    | v => v
  let capNum ← match cap with
    | .int i => pure (Num.int i)
    | .float f => pure (Num.float f)
    | .bool b => pure (Num.int (if b then 1 else 0))
    | _ => throw RecalcError.notANumber
  if capNum.lt (.int 1) then throw (.notPositive (capText cap))
  let raws := store.cells.map fun e => (e.1, store.content e.1)
  let formulas := raws.filterMap fun e => (Store.formulaBody? e.2).map (e.1, ·)
  let started : Event :=
    { level := .info, kind := .recalcStarted, message := "Recalculation started",
      context := Event.contextOf [("cells", .int raws.length), ("formula_cells", .int formulas.length),
        ("max_iterations", cap)] }
  let (computed, iterations, converged, events) :=
    recalcLoop store now formulas (passesAllowed capNum) [] 0 #[]
  let values := raws.map fun e =>
    if formulas.any (·.1 == e.1) then (e.1, (computed.lookup e.1).getD .null) else (e.1, .str e.2)
  let context := Event.contextOf [("iterations", .int iterations), ("formula_cells", .int formulas.length)]
  let finished : Event :=
    if converged then
      { level := .info, kind := .recalcCompleted, message := "Recalculation completed", context := context }
    else
      { level := .warning, kind := .recalcCapped, context := context,
        message := "Recalculation stopped at the " ++ capText cap ++ "-pass cap without settling" }
  pure (⟨values, iterations, converged⟩, [started.emitted] ++ events.toList ++ [finished.emitted])

end Spreadsheet
