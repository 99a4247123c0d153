/-!
Dates of the proleptic Gregorian calendar, years 1 to 9999.

A date is counted by its ordinal, the number of days since 0001-01-01 plus one; the conversion
both ways is exact arithmetic on 400-year cycles. Spreadsheet serial numbers count days from
1899-12-30. Date times add a time of day and an optional offset from UTC in minutes.
-/

namespace Spreadsheet.Calendar

def isLeap (y : Nat) : Bool := y % 4 == 0 && (y % 100 != 0 || y % 400 == 0)

def monthLength (y m : Nat) : Nat :=
  match m with
  | 2 => if isLeap y then 29 else 28
  | 4 | 6 | 9 | 11 => 30
  | _ => 31

def daysBeforeMonth (y m : Nat) : Nat :=
  ((List.range (m - 1)).map fun i => monthLength y (i + 1)).foldl (· + ·) 0

def daysBeforeYear (y : Nat) : Nat :=
  let p := y - 1
  p * 365 + p / 4 - p / 100 + p / 400

structure Date where
  year : Nat
  month : Nat
  day : Nat
  deriving Repr, BEq, DecidableEq, Inhabited

structure DateTime where
  date : Date
  hour : Nat
  minute : Nat
  second : Nat
  micro : Nat
  offset : Option Int
  deriving Repr, BEq, Inhabited

namespace Date

def minYear : Nat := 1
def maxYear : Nat := 9999

def valid (d : Date) : Bool :=
  minYear ≤ d.year && d.year ≤ maxYear && 1 ≤ d.month && d.month ≤ 12 &&
    1 ≤ d.day && d.day ≤ monthLength d.year d.month

def make? (y m d : Nat) : Option Date :=
  let date : Date := ⟨y, m, d⟩
  if date.valid then some date else none

def ordinal (d : Date) : Nat :=
  daysBeforeYear d.year + daysBeforeMonth d.year d.month + d.day

def maxOrdinal : Nat := 3652059

def ofOrdinal (n : Nat) : Date :=
  let n0 := n - 1
  let c400 := n0 / 146097
  let r400 := n0 % 146097
  let c100 := min (r400 / 36524) 3
  let r100 := r400 - c100 * 36524
  let c4 := r100 / 1461
  let r4 := r100 % 1461
  let c1 := min (r4 / 365) 3
  let dayOfYear := r4 - c1 * 365
  let year := c400 * 400 + c100 * 100 + c4 * 4 + c1 + 1
  let rec findMonth (m : Nat) (left : Nat) (fuel : Nat) : Date :=
    match fuel with
    | 0 => ⟨year, m, left + 1⟩
    | fuel + 1 =>
      if left < monthLength year m then ⟨year, m, left + 1⟩
      else findMonth (m + 1) (left - monthLength year m) fuel
  findMonth 1 dayOfYear 12

def addDays (d : Date) (k : Int) : Option Date :=
  let n : Int := d.ordinal + k
  if 1 ≤ n && n ≤ maxOrdinal then some (ofOrdinal n.toNat) else none

def diff (a b : Date) : Int := (a.ordinal : Int) - b.ordinal

def isoWeekday (d : Date) : Nat := (d.ordinal + 6) % 7 + 1

def serialEpoch : Date := ⟨1899, 12, 30⟩

def ofSerial? (k : Int) : Option Date := serialEpoch.addDays k

def unixEpochOrdinal : Nat := 719163

def lt (a b : Date) : Bool := a.ordinal < b.ordinal

/-- The first day of the ISO week year `y`'s week 1: the Monday of the week holding 4 January. -/
def isoWeekOneMonday (y : Nat) : Int :=
  let jan4 : Date := ⟨y, 1, 4⟩
  (jan4.ordinal : Int) - (jan4.isoWeekday - 1 : Nat)

end Date

end Spreadsheet.Calendar

namespace Spreadsheet.Calendar

def padNat (width : Nat) (n : Nat) : String :=
  let s := String.ofList (Nat.toDigits 10 n)
  String.ofList (List.replicate (width - s.length) '0') ++ s

def Date.isoText (d : Date) : String :=
  padNat 4 d.year ++ "-" ++ padNat 2 d.month ++ "-" ++ padNat 2 d.day

def offsetText (minutes : Int) : String :=
  (if minutes < 0 then "-" else "+") ++ padNat 2 (minutes.natAbs / 60) ++ ":" ++ padNat 2 (minutes.natAbs % 60)

def DateTime.isoText (t : DateTime) (sep : String := "T") : String :=
  t.date.isoText ++ sep ++ padNat 2 t.hour ++ ":" ++ padNat 2 t.minute ++ ":" ++ padNat 2 t.second ++
    (if t.micro == 0 then "" else "." ++ padNat 6 t.micro) ++
    (match t.offset with
     | some m => offsetText m
     | none => "")

def DateTime.stampText (t : DateTime) : String :=
  t.date.isoText ++ "T" ++ padNat 2 t.hour ++ ":" ++ padNat 2 t.minute ++ ":" ++ padNat 2 t.second ++
    "." ++ padNat 6 t.micro ++ "Z"

def DateTime.ofUnixSeconds (s : Int) : DateTime :=
  let days := Int.fdiv s 86400
  let secs := (Int.fmod s 86400).toNat
  let n := days + Date.unixEpochOrdinal
  ⟨Date.ofOrdinal (max n 1).toNat, secs / 3600, secs / 60 % 60, secs % 60, 0, none⟩

end Spreadsheet.Calendar
