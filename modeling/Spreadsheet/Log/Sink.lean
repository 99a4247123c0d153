import Spreadsheet.Log.Event
import Spreadsheet.Data.Json
import Spreadsheet.Text.Blank
import Spreadsheet.Text.Lines

/-!
The event log file: one event per line, read back newest first.

Writing appends a record's line: the record as JSON with keys sorted, `", "` and `": "` between
items, characters above ASCII escaped, NaN and the infinities written as `null`, then a line feed.
Reading looks only at the last `tailBytes` bytes of the file; when that cuts into the file, the text
up to and including the first line feed of that part is dropped, so that no cut line is read. Of the
remaining lines, blank lines and lines that are not JSON are skipped; the others are filtered by
level and kind, newest first, and cut to the limit (at most 2000; a negative limit drops that many
from the end).
-/

namespace Spreadsheet.Log

def defaultTailBytes : Nat := 2 * 1024 * 1024

def maxReadLimit : Int := 2000

def defaultReadLimit : Int := 200

structure Record where
  event : Event
  schemaVersion : Int := 1
  ts : String
  deriving Inhabited

def versionOf? : Value → Option Int
  | .int i => some i
  | .bool b => some (if b then 1 else 0)
  | .float f =>
    match Num.trunc (.float f) with
    | .ok i => if Float.ofInt i == f then some i else none
    | .error _ => none
  | .str s =>
    let t := Text.trimBlanks s
    match t.toList with
    | '-' :: ds => if !ds.isEmpty && ds.all Char.isDigit then some (-(String.ofList ds).toNat!) else none
    | '+' :: ds => if !ds.isEmpty && ds.all Char.isDigit then some (String.ofList ds).toNat! else none
    | ds => if !ds.isEmpty && ds.all Char.isDigit then some (String.ofList ds).toNat! else none
  | _ => none

def textField? (fields : Value) (k : String) (default : String) : Option String :=
  match fields.get? k with
  | none => some default
  | some (.str s) => some s
  | some _ => none

/-- A record from the fields of a mapping; `none` when a field is missing or of the wrong kind.
The time stamp defaults to `now`; fields the record does not know are ignored. -/
def Record.ofFields? (fields : Value) (now : String) : Option Record := do
  let level ← match fields.get? "level" with
    | some (.str s) => Level.ofName? s
    | _ => none
  let kind ← match fields.get? "event_type" with
    | some (.str s) => EventKind.ofName? s
    | _ => none
  let context ← match fields.get? "context" with
    | none => some []
    | some (.dict es) => some es
    | some _ => none
  let message ← textField? fields "message" ""
  let errorCode ← match fields.get? "error_code" with
    | none | some .null => some none
    | some (.str s) => some (some s)
    | some _ => none
  let schemaVersion ← match fields.get? "schema_version" with
    | none => some 1
    | some v => versionOf? v
  let ts ← textField? fields "ts" now
  pure { event := { level, kind, context, message, errorCode }, schemaVersion, ts }

def Record.toValue (r : Record) : Value :=
  match r.event.toValue (some r.ts) with
  | .dict es => .dict (es.map fun e => if e.1.toPlain == "schema_version" then (e.1, .int r.schemaVersion) else e)
  | v => v

def lineStyle : Json.Style := { asciiOnly := true, sortKeys := true, finiteOnly := true }

def Record.text (r : Record) : String :=
  Json.render lineStyle r.toValue ++ "\n"

inductive ReadError where
  | notAMapping
  | negativeTail
  deriving Repr, BEq, Inhabited

structure Sink where
  text : Option String := none
  tailBytes : Int := defaultTailBytes
  deriving Inhabited

namespace Sink

def append (s : Sink) (t : String) : Sink := { s with text := some (s.text.getD "" ++ t) }

def write (s : Sink) (r : Record) : Sink := s.append r.text

/-- Emitting an event redacts its context, then writes it. -/
def emit (s : Sink) (r : Record) : Sink := s.write { r with event := r.event.emitted }

def afterCut (offset : Nat) : List Char → Nat → List Char
  | [], _ => []
  | c :: rest, pos => if c == '\n' && offset ≤ pos then rest else afterCut offset rest (pos + c.utf8Size)

/-- The part of a text a read looks at: its last `tail` bytes, less the cut line. -/
def tailOf (text : String) (tail : Nat) : String :=
  let offset := text.utf8ByteSize - tail
  if offset == 0 then text else String.ofList (afterCut offset text.toList 0)

/-- Whether a line passes the filters; a filter on a line that is not a mapping fails. -/
def passes (level kind : Option Value) (v : Value) : Except ReadError Bool :=
  match level, kind with
  | none, none => pure true
  | _, _ =>
    match v with
    | .dict _ =>
      let fits (f : Option Value) (k : String) : Bool :=
        match f with
        | none => true
        | some want => ((v.get? k).getD .null).equals want
      pure (fits level "level" && fits kind "event_type")
    | _ => throw .notAMapping

/-- The first `limit` items, or all but the last `-limit` when it is negative. -/
def cutTo (limit : Int) (xs : List Value) : List Value :=
  if 0 ≤ limit then xs.take limit.toNat else xs.take (xs.length - limit.natAbs)

/-- The events of the file that pass the filters, newest first, at most `min limit 2000` of
them. -/
def read (s : Sink) (level kind : Option Value) (limit : Int) : Except ReadError (List Value) :=
  match s.text with
  | none => pure []
  | some text => do
    if s.tailBytes < 0 then throw .negativeTail
    let lines := (Text.splitLines (tailOf text s.tailBytes.toNat)).filter
      fun l => !(Text.trimBlanks l).isEmpty
    let events := lines.filterMap fun l => (Json.parse l).toOption
    let kept ← events.filterM (passes level kind)
    pure (cutTo (min limit maxReadLimit) kept.reverse)

end Sink

end Spreadsheet.Log
