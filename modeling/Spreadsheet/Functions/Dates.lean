import Spreadsheet.Eval.Fault
import Spreadsheet.Calendar.Iso
import Spreadsheet.Calendar.Pattern

/-!
Date functions of formulas.

Dates travel between cells as day-first text, `DD/MM/YYYY` with the year not padded. A date
argument may be a date value, a serial number (days since 1899-12-30, at least 1; numeric text
counts), an ISO 8601 text, or a text in one of the day-first patterns; anything else is `#VALUE!`,
and a serial number beyond the calendar is `#NUM!`.
-/

namespace Spreadsheet.Functions

open Calendar

/-- The day-first text of a date: `DD/MM/YYYY`, the year not padded. -/
def dayFirstText (d : Date) : String :=
  padNat 2 d.day ++ "/" ++ padNat 2 d.month ++ "/" ++ toString d.year

def dayFirstTimeText (t : DateTime) : String :=
  dayFirstText t.date ++ ", " ++ padNat 2 t.hour ++ ":" ++ padNat 2 t.minute ++ ":" ++ padNat 2 t.second

def dateOfSerial (n : Num) : Except Failure Date := do
  let serial ← liftArith n.trunc
  if serial < 1 then throw (.code .badValue)
  match Date.ofSerial? serial with
  | some d => pure d
  | none => throw (.arith .overflow)

/-- The date a text names: ISO 8601 first, then the day-first patterns. -/
def dateOfText? (s : String) : Option Date :=
  match Iso.readDateTime? s with
  | some t => some t.date
  | none => dayFirstPatterns.findSome? fun p => readByPattern? p s

def toDate (v : Value) : Except Failure Date :=
  match v.first with
  | .date d => pure d
  | .datetime t => pure t.date
  | .int i => dateOfSerial (.int i)
  | .float f => dateOfSerial (.float f)
  | .str s =>
    if Number.looksNumeric s then dateOfSerial (.float ((Number.readFloat? s).getD 0))
    else match dateOfText? (Text.trimBlanks s) with
      | some d => pure d
      | none => throw (.code .badValue)
  | w => match dateOfText? (Text.trimBlanks w.toText) with
    | some d => pure d
    | none => throw (.code .badValue)

def dateArg (args : List Value) (i : Nat) : Except Failure Date := toDate (argAt args i)

def today (now : DateTime) (_ : List Value) : Outcome := pure (.str (dayFirstText now.date))

def nowText (now : DateTime) (_ : List Value) : Outcome := pure (.str (dayFirstTimeText now))

/-- `DATE`: months beyond 12 or below 1 roll into other years, days into other months;
`#NUM!` outside years 1 to 9999. -/
def date (args : List Value) : Outcome := do
  let y ← intArg args 0
  let m ← intArg args 1
  let d ← intArg args 2
  let months := y * 12 + m - 1
  let year := Int.fdiv months 12
  let month := Int.fmod months 12 + 1
  if year < 1 || year > 9999 then return ErrorCode.badNumber.toValue
  let first : Date := ⟨year.toNat, month.toNat, 1⟩
  match first.addDays (d - 1) with
  | some r => pure (.str (dayFirstText r))
  | none => throw (.arith .overflow)

def year (args : List Value) : Outcome := do return .int (← dateArg args 0).year

def month (args : List Value) : Outcome := do return .int (← dateArg args 0).month

def day (args : List Value) : Outcome := do return .int (← dateArg args 0).day

/-- `WEEKDAY`: 1 for Sunday to 7 for Saturday. -/
def weekday (args : List Value) : Outcome := do
  return .int ((← dateArg args 0).isoWeekday % 7 + 1)

def monthsBetween (a b : Date) : Int :=
  let months : Int := ((b.year : Int) - a.year) * 12 + ((b.month : Int) - a.month)
  if b.day < a.day then months - 1 else months

def dateDif (args : List Value) : Outcome := do
  let a ← dateArg args 0
  let b ← dateArg args 1
  let unit := Text.upper (argAt args 2).toText
  if b.lt a then return ErrorCode.badNumber.toValue
  match unit with
  | "D" => pure (.int (b.diff a))
  | "M" => pure (.int (monthsBetween a b))
  | "Y" => pure (.int (Int.fdiv (monthsBetween a b) 12))
  | _ => failWith .badValue

def days (args : List Value) : Outcome := do
  let b ← dateArg args 0
  let a ← dateArg args 1
  pure (.int (b.diff a))

def endOfMonth (args : List Value) : Outcome := do
  let start ← dateArg args 0
  let offset ← intArg args 1
  let total := (start.year * 12 + start.month - 1 : Nat) + offset
  let y := Int.fdiv total 12
  let m := (Int.fmod total 12 + 1).toNat
  if y < 1 || y > 9999 then throw (.arith .domain)
  pure (.str (dayFirstText ⟨y.toNat, m, monthLength y.toNat m⟩))

end Spreadsheet.Functions
