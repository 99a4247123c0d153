import Spreadsheet.Calendar.Date

/-!
Reading ISO 8601 date-time texts.

The reader works on the UTF-8 bytes of the text, as if a zero byte followed the last one. A date
is `YYYY-MM-DD`, `YYYYMMDD`, an ISO week date `YYYY-Www[-D]` or `YYYYWww[D]`; where the date ends
is decided from bytes 4, 5, 8 and 10 (and the run of digits after a `W`). Any one byte may separate
it from a time `HH[:MM[:SS[.f…]]]` (colons throughout or nowhere; a comma may stand for the point;
digits beyond six are ignored), and a time may end in `Z` or a `±HH[:MM[:SS[.f…]]]` offset of less
than a day. The fields must form a valid date and time of years 1 to 9999.
-/

namespace Spreadsheet.Calendar.Iso

-- Powers of naturals and integers are the core library's, whatever other instances are in scope.
attribute [local instance (high)] instPowNat

def byteAt (bs : Array UInt8) (i : Nat) : Nat := (bs.getD i 0).toNat

def isDigitByte (b : Nat) : Bool := 48 ≤ b && b ≤ 57

def digitsAt (bs : Array UInt8) (i n : Nat) : Option Nat :=
  (List.range n).foldlM (fun acc k =>
    let b := byteAt bs (i + k)
    if isDigitByte b then some (acc * 10 + (b - 48)) else none) 0

def dateEnd (bs : Array UInt8) : Option Nat :=
  let len := bs.size
  if len == 7 then some 7
  else if byteAt bs 4 == 45 then
    if byteAt bs 5 == 87 then
      if len < 8 then none
      else if len > 8 && byteAt bs 8 == 45 then
        if len == 9 then none
        else if len > 10 && isDigitByte (byteAt bs 10) then some 8
        else some 10
      else some 8
    else some 10
  else if byteAt bs 4 == 87 then
    let run := ((List.range (len - 7)).takeWhile fun k => isDigitByte (byteAt bs (7 + k))).length
    let idx := 7 + run
    if idx < 9 then some idx
    else if idx % 2 == 0 then some 7 else some 8
  else some 8

def weekDate? (year week day : Nat) : Option Date :=
  if year = 0 then none
  else
    let jan1 : Date := ⟨year, 1, 1⟩
    let firstWeekday := (jan1.ordinal + 6) % 7
    let longYear := firstWeekday == 3 || (firstWeekday == 2 && isLeap year)
    if week == 0 || week > 53 || (week == 53 && !longYear) then none
    else if day == 0 || day > 7 then none
    else
      let n : Int := Date.isoWeekOneMonday year + ((week - 1) * 7 + day - 1 : Nat)
      if n < 1 then none
      else
        let d := Date.ofOrdinal n.toNat
        if d.valid then some d else none

def readDate (bs : Array UInt8) (stop : Nat) : Option (Nat × Nat × Nat) := do
  let year ← digitsAt bs 0 4
  let sep := byteAt bs 4 == 45
  let p := if sep then 5 else 4
  if byteAt bs p == 87 then
    let week ← digitsAt bs (p + 1) 2
    let q := p + 3
    let day ← if q < stop then do
        if sep && byteAt bs q != 45 then none
        let q := if sep then q + 1 else q
        digitsAt bs q 1
      else pure 1
    let d ← weekDate? year week day
    pure (d.year, d.month, d.day)
  else
    let month ← digitsAt bs p 2
    let q := p + 2
    if sep && byteAt bs q != 45 then none
    let q := if sep then q + 1 else q
    let day ← digitsAt bs q 2
    pure (year, month, day)

structure Clock where
  hour : Nat := 0
  minute : Nat := 0
  second : Nat := 0
  micro : Nat := 0
  deriving Repr, Inhabited

def microOf (value n : Nat) : Nat := if n < 6 then value * 10 ^ (6 - n) else value

def readFraction (bs : Array UInt8) (p stop : Nat) (c : Clock) : Option (Clock × Bool) := do
  let n := min (stop - p) 6
  let value ← digitsAt bs p n
  let rest := ((List.range (bs.size - (p + n))).takeWhile fun k => isDigitByte (byteAt bs (p + n + k))).length
  pure ({ c with micro := microOf value n }, byteAt bs (p + n + rest) != 0)

/-- Reads `HH[:MM[:SS[.f]]]` between `start` and `stop`: the time, and whether more text follows
(which is only allowed before an offset). `none` for malformed fields or separators. -/
def readClock (bs : Array UInt8) (start stop : Nat) : Option (Clock × Bool) :=
  go 0 start false {}
where
  go (i p : Nat) (colons : Bool) (c : Clock) : Option (Clock × Bool) :=
    if i ≥ 3 then readFraction bs p stop c
    else
      match digitsAt bs p 2 with
      | none => none
      | some v =>
        let c := match i with
          | 0 => { c with hour := v }
          | 1 => { c with minute := v }
          | _ => { c with second := v }
        let sepByte := byteAt bs (p + 2)
        let colons := if i == 0 then sepByte == 58 else colons
        let next := p + 3
        if next ≥ stop then some (c, sepByte != 0)
        else if colons && sepByte == 58 then go (i + 1) next colons c
        else if sepByte == 46 || sepByte == 44 then readFraction bs next stop c
        else if !colons then go (i + 1) (p + 2) colons c
        else none
  termination_by 3 - i

/-- The first byte at or after `start` (but at least one byte is looked at) that starts an
offset: `Z`, `+` or `-`; `stop` if none before it. -/
def offsetStart (bs : Array UInt8) (start stop : Nat) : Nat :=
  let isMark (b : Nat) : Bool := b == 90 || b == 43 || b == 45
  if isMark (byteAt bs start) then start
  else match (List.range (stop - (start + 1))).find? (fun k => isMark (byteAt bs (start + 1 + k))) with
    | some k => start + 1 + k
    | none => max stop (start + 1)

def readTime (bs : Array UInt8) (start stop : Nat) : Option (Clock × Option Int) := do
  let mark := offsetStart bs start stop
  let (clock, more) ← readClock bs start mark
  if mark == stop then
    if more then none else pure (clock, none)
  else if byteAt bs mark == 90 then
    if byteAt bs (mark + 1) != 0 then none else pure (clock, some 0)
  else
    let sign : Int := if byteAt bs mark == 45 then -1 else 1
    let (tz, tzMore) ← readClock bs (mark + 1) stop
    if tzMore then none
    else
      let micros : Int := ((tz.hour * 3600 + tz.minute * 60 + tz.second) * 1000000 + tz.micro : Nat)
      pure (clock, some (sign * micros))

/-- The length of a day in microseconds; an offset must be shorter. -/
def dayMicros : Nat := 86400 * 1000000

def readDateTime? (s : String) : Option DateTime := do
  let bs := s.toUTF8.data
  let stop ← dateEnd bs
  let (y, m, d) ← readDate bs stop
  let (clock, offset) ← if bs.size > stop then readTime bs (stop + 1) bs.size else pure ({}, none)
  let date ← Date.make? y m d
  if clock.hour > 23 || clock.minute > 59 || clock.second > 59 then none
  match offset with
  | some o => if o.natAbs ≥ dayMicros then none
  | none => pure ()
  pure ⟨date, clock.hour, clock.minute, clock.second, clock.micro, offset.map (· / 60000000)⟩

end Spreadsheet.Calendar.Iso
