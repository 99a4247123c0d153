import Spreadsheet.Calendar.Date
import Spreadsheet.Text.Digit
import Spreadsheet.Text.Blank

/-!
Reading dates by fixed patterns such as `%d/%m/%Y`.

A pattern is a list of pieces: numeric fields, literal characters, and a run of blanks. Each field
accepts a few shapes, tried in order at the current position, and takes the first that fits (a
shape may pass over a digit that a later piece needed; the text then does not match). After the
last piece the text must end. Fields take ASCII or, where any digit is allowed, any Unicode
decimal digit. The fields must form a valid date and time.
-/

namespace Spreadsheet.Calendar

inductive Piece where
  | day | month | year | hour | minute | second
  | literal (c : Char)
  | blanks
  deriving Repr, BEq, Inhabited

inductive Slot where
  | oneOf (cs : List Char)
  | digit
  deriving Repr, Inhabited

namespace Slot

def range (a b : Nat) : Slot := .oneOf ((List.range (b + 1 - a)).map fun k => Char.ofNat (48 + a + k))

def accepts : Slot → Char → Bool
  | .oneOf cs, c => cs.contains c
  | .digit, c => Text.isDigit c

end Slot

def Piece.shapes : Piece → List (List Slot)
  | .day => [[.range 3 3, .range 0 1], [.range 1 2, .digit], [.range 0 0, .range 1 9], [.range 1 9],
      [.oneOf [' '], .range 1 9]]
  | .month => [[.range 1 1, .range 0 2], [.range 0 0, .range 1 9], [.range 1 9]]
  | .year => [[.digit, .digit, .digit, .digit]]
  | .hour => [[.range 2 2, .range 0 3], [.range 0 1, .digit], [.digit]]
  | .minute => [[.range 0 5, .digit], [.digit]]
  | .second => [[.range 6 6, .range 0 1], [.range 0 5, .digit], [.digit]]
  | _ => []

def fits (shape : List Slot) (cs : List Char) : Bool :=
  shape.length ≤ cs.length && (shape.zip cs).all fun p => p.1.accepts p.2

def fieldValue (cs : List Char) : Nat :=
  cs.foldl (fun acc c => match Text.digitValue? c with
    | some d => acc * 10 + d
    | none => acc) 0

structure Fields where
  year : Nat := 1900
  month : Nat := 1
  day : Nat := 1
  hour : Nat := 0
  minute : Nat := 0
  second : Nat := 0
  deriving Repr, Inhabited

def Fields.set (f : Fields) (p : Piece) (v : Nat) : Fields :=
  match p with
  | .day => { f with day := v }
  | .month => { f with month := v }
  | .year => { f with year := v }
  | .hour => { f with hour := v }
  | .minute => { f with minute := v }
  | .second => { f with second := v }
  | _ => f

def readPieces : List Piece → List Char → Fields → Option Fields
  | [], [], f => some f
  | [], _ :: _, _ => none
  | .literal c :: ps, d :: cs, f => if c == d then readPieces ps cs f else none
  | .literal _ :: _, [], _ => none
  | .blanks :: ps, cs, f =>
    let run := cs.takeWhile Text.isBlank
    if run.isEmpty then none else readPieces ps (cs.drop run.length) f
  | p :: ps, cs, f =>
    match p.shapes.find? (fun s => fits s cs) with
    | some s => readPieces ps (cs.drop s.length) (f.set p (fieldValue (cs.take s.length)))
    | none => none

def readByPattern? (pattern : List Piece) (s : String) : Option Date := do
  let f ← readPieces pattern s.toList {}
  if f.hour > 23 || f.minute > 59 || f.second > 59 then none
  Date.make? f.year f.month f.day

def dayFirstPatterns : List (List Piece) :=
  [[.day, .literal '/', .month, .literal '/', .year],
   [.day, .literal '/', .month, .literal '/', .year, .literal ',', .blanks, .hour, .literal ':',
    .minute, .literal ':', .second],
   [.year, .literal '/', .month, .literal '/', .day],
   [.day, .literal '-', .month, .literal '-', .year]]

end Spreadsheet.Calendar
