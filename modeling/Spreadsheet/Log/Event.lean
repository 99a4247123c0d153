import Spreadsheet.Log.Redact

/-!
Calculation events: what the engine did that a reader of its log would care about.

An event has a level, a kind, a context mapping, a message and possibly the error code a formula
produced. Contexts are redacted when an event is emitted (`Event.emitted`). As a record an event
is a mapping with the fields `schema_version` (1), `level`, `event_type`, `context`, `message` and
`error_code`, plus a timestamp `ts` when one is given.
-/

namespace Spreadsheet.Log

inductive Level where
  | info | warning | error
  deriving Repr, BEq, DecidableEq, Inhabited

def Level.name : Level → String
  | .info => "info"
  | .warning => "warning"
  | .error => "error"

def Level.ofName? : String → Option Level
  | "info" => some .info
  | "warning" => some .warning
  | "error" => some .error
  | _ => none

inductive EventKind where
  | formulaException
  | formulaCycle
  | recalcStarted
  | recalcCompleted
  | recalcCapped
  | sheetLoaded
  | sheetLoadFailed
  deriving Repr, BEq, DecidableEq, Inhabited

def EventKind.name : EventKind → String
  | .formulaException => "formula_exception"
  | .formulaCycle => "formula_cycle"
  | .recalcStarted => "recalc_started"
  | .recalcCompleted => "recalc_completed"
  | .recalcCapped => "recalc_capped"
  | .sheetLoaded => "sheet_loaded"
  | .sheetLoadFailed => "sheet_load_failed"

def EventKind.ofName? (s : String) : Option EventKind :=
  [EventKind.formulaException, .formulaCycle, .recalcStarted, .recalcCompleted, .recalcCapped,
    .sheetLoaded, .sheetLoadFailed].find? (·.name == s)

structure Event where
  level : Level
  kind : EventKind
  context : List (Value × Value) := []
  message : String := ""
  errorCode : Option String := none
  deriving Inhabited

namespace Event

def contextOf (entries : List (String × Value)) : List (Value × Value) :=
  entries.map fun e => (.str e.1, e.2)

def emitted (e : Event) : Event := { e with context := redactEntries e.context }

def toValue (e : Event) (ts : Option String := none) : Value :=
  .dict <|
    [(.str "schema_version", .int 1)] ++
    (match ts with | some t => [(.str "ts", .str t)] | none => []) ++
    [(.str "level", .str e.level.name), (.str "event_type", .str e.kind.name),
     (.str "context", .dict e.context), (.str "message", .str e.message),
     (.str "error_code", match e.errorCode with | some c => .str c | none => .null)]

end Event

end Spreadsheet.Log
