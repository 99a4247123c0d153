import Spreadsheet.Yaml.Mark
import Spreadsheet.Value.Basic
import Spreadsheet.Number.Literal

/-!
The types of plain scalars, and the values of scalars of each type.

A plain scalar's type follows from its text by the YAML 1.1 rules, tried in this order for its
first character: truth words (`yes`/`no`/`true`/`false`/`on`/`off` in three capitalisations),
floats (with a point, `.inf` or `.nan`, or base-60 parts), integers (binary `0b`, octal `0`,
decimal, hexadecimal `0x`, or base-60 parts `1:30`; underscores allowed), the merge key `<<`,
nulls (`~`, `null` in three capitalisations, or nothing), timestamps (`2024-01-31`, with an
optional time, fraction and zone), and the value key `=`. Anything else is text.
-/

namespace Spreadsheet.Yaml

def strTag : String := "tag:yaml.org,2002:str"
def nullTag : String := "tag:yaml.org,2002:null"
def boolTag : String := "tag:yaml.org,2002:bool"
def intTag : String := "tag:yaml.org,2002:int"
def floatTag : String := "tag:yaml.org,2002:float"
def timestampTag : String := "tag:yaml.org,2002:timestamp"
def mergeTag : String := "tag:yaml.org,2002:merge"
def valueTag : String := "tag:yaml.org,2002:value"
def seqTag : String := "tag:yaml.org,2002:seq"
def mapTag : String := "tag:yaml.org,2002:map"

def isAsciiDigit (c : Char) : Bool := '0' ≤ c && c ≤ '9'

def unsigned (cs : List Char) : List Char :=
  match cs with
  | '+' :: r | '-' :: r => r
  | r => r

def isSexagesimalPart : List Char → Bool
  | [d] => isAsciiDigit d
  | [a, b] => '0' ≤ a && a ≤ '5' && isAsciiDigit b
  | _ => false

/-- `[0-9][0-9_]*` followed by at least one `:` and base-60 part. -/
def isSexagesimal (firstDigits : Char → Bool) (cs : List Char) : Bool :=
  match cs.splitOn ':' with
  | head :: parts@(_ :: _) =>
    (match head with
     | d :: rest => firstDigits d && rest.all (fun c => isAsciiDigit c || c == '_')
     | [] => false) && parts.all isSexagesimalPart
  | _ => false

def isExponentTail : List Char → Bool
  | [] => true
  | e :: s :: ds => (e == 'e' || e == 'E') && (s == '-' || s == '+') && !ds.isEmpty && ds.all isAsciiDigit
  | _ => false

def isFractionTail (cs : List Char) : Bool :=
  isExponentTail (cs.dropWhile fun c => isAsciiDigit c || c == '_')

def isIntText (s : String) : Bool :=
  match unsigned s.toList with
  | '0' :: 'b' :: r => !r.isEmpty && r.all fun c => c == '0' || c == '1' || c == '_'
  | '0' :: 'x' :: r => !r.isEmpty && r.all fun c => isHexDigitChar c || c == '_'
  | ['0'] => true
  | '0' :: r => r.all fun c => ('0' ≤ c && c ≤ '7') || c == '_'
  | d :: r =>
    ('1' ≤ d && d ≤ '9') &&
      (r.all (fun c => isAsciiDigit c || c == '_') || isSexagesimal (fun c => '1' ≤ c && c ≤ '9') (d :: r))
  | [] => false
where
  isHexDigitChar (c : Char) : Bool :=
    isAsciiDigit c || ('a' ≤ c && c ≤ 'f') || ('A' ≤ c && c ≤ 'F')

def isFloatText (s : String) : Bool :=
  let cs := s.toList
  let body := unsigned cs
  let pointed :=
    match body.splitOn '.' with
    | (d :: intRest) :: _ :: _ =>
      let frac := body.drop (intRest.length + 2)
      isAsciiDigit d && intRest.all (fun c => isAsciiDigit c || c == '_') && isFractionTail frac
    | _ => false
  let leadingPoint := match cs with
    | '.' :: d :: rest => isAsciiDigit d && isFractionTail rest
    | _ => false
  let sexagesimal := match body.splitOn '.' with
    | whole :: _ :: _ =>
      let frac := body.drop (whole.length + 1)
      isSexagesimal isAsciiDigit whole && frac.all (fun c => isAsciiDigit c || c == '_')
    | _ => false
  let special := [".inf", ".Inf", ".INF"].contains (String.ofList body) ||
    [".nan", ".NaN", ".NAN"].contains s
  pointed || leadingPoint || sexagesimal || special

def takeUpTo (n : Nat) (p : Char → Bool) (cs : List Char) : List Char × List Char :=
  let k := min n (cs.takeWhile p).length
  (cs.take k, cs.drop k)

structure Stamp where
  year : Nat
  month : Nat
  day : Nat
  time : Option (Nat × Nat × Nat × List Char × Option (Option (Bool × Nat × Nat)))
  deriving Repr, Inhabited

def digitsNat (ds : List Char) : Nat := ds.foldl (fun n c => n * 10 + (c.toNat - 48)) 0

def readZone (cs : List Char) : Option (Option (Option (Bool × Nat × Nat))) :=
  if cs.isEmpty then some none
  else
    match cs.dropWhile (fun c => c == ' ' || c == '\t') with
    | ['Z'] => some (some none)
    | s :: rest =>
      if s == '+' || s == '-' then
        let (h, rest) := takeUpTo 2 isAsciiDigit rest
        if h.isEmpty then none
        else match rest with
          | [] => some (some (some (s == '-', digitsNat h, 0)))
          | [':', a, b] =>
            if isAsciiDigit a && isAsciiDigit b then some (some (some (s == '-', digitsNat h, digitsNat [a, b])))
            else none
          | _ => none
      else none
    | [] => none

def readStamp (dateOnlyWide : Bool) (s : String) : Option Stamp := do
  let cs := s.toList
  let (y, rest) := takeUpTo 4 isAsciiDigit cs
  guard (y.length == 4)
  let rest ← match rest with | '-' :: r => some r | _ => none
  let (m, rest) := takeUpTo 2 isAsciiDigit rest
  guard (!m.isEmpty)
  let rest ← match rest with | '-' :: r => some r | _ => none
  let (d, rest) := takeUpTo 2 isAsciiDigit rest
  guard (!d.isEmpty)
  let date := (digitsNat y, digitsNat m, digitsNat d)
  if rest.isEmpty then
    guard (dateOnlyWide || (m.length == 2 && d.length == 2))
    return ⟨date.1, date.2.1, date.2.2, none⟩
  let rest ← match rest with
    | c :: r =>
      if c == 'T' || c == 't' then some r
      else if c == ' ' || c == '\t' then some (r.dropWhile fun c => c == ' ' || c == '\t')
      else none
    | [] => none
  let (h, rest) := takeUpTo 2 isAsciiDigit rest
  guard (!h.isEmpty)
  let (mi, rest) ← match rest with
    | ':' :: a :: b :: r => if isAsciiDigit a && isAsciiDigit b then some ([a, b], r) else none
    | _ => none
  let (se, rest) ← match rest with
    | ':' :: a :: b :: r => if isAsciiDigit a && isAsciiDigit b then some ([a, b], r) else none
    | _ => none
  let (frac, rest) := match rest with
    | '.' :: r => (r.takeWhile isAsciiDigit, r.dropWhile isAsciiDigit)
    | r => ([], r)
  let zone ← readZone rest
  return ⟨date.1, date.2.1, date.2.2, some (digitsNat h, digitsNat mi, digitsNat se, frac, zone)⟩

def isTimestampText (s : String) : Bool := (readStamp false s).isSome

def resolvePlain (s : String) : String :=
  let words := ["yes", "Yes", "YES", "no", "No", "NO", "true", "True", "TRUE", "false", "False", "FALSE",
    "on", "On", "ON", "off", "Off", "OFF"]
  match s.toList with
  | [] => nullTag
  | c :: _ =>
    if "yYnNtTfFoO".contains c && words.contains s then boolTag
    else if "-+0123456789.".contains c && isFloatText s then floatTag
    else if "-+0123456789".contains c && isIntText s then intTag
    else if c == '<' && s == "<<" then mergeTag
    else if "~nN".contains c && ["~", "null", "Null", "NULL"].contains s then nullTag
    else if isAsciiDigit c && isTimestampText s then timestampTag
    else if c == '=' && s == "=" then valueTag
    else strTag

def badIntText (base : Nat) (s : String) : LoadError :=
  .badValue ("invalid literal for int() with base " ++ toString base ++ ": " ++ Text.quote s)

def intIn (base : Nat) (s : String) : Except LoadError Int :=
  match Number.readIntIn? base s with
  | some i => .ok i
  | none => .error (badIntText base s)

/-- The integer of a scalar tagged as one: underscores dropped, a sign, then `0`, `0b…`, `0x…`,
an octal `0…`, base-60 parts, or decimal. -/
def intValue (text : String) : Except LoadError Int := do
  let v := String.ofList (text.toList.filter (· != '_'))
  let (sign, body) : Int × String := match v.toList with
    | '-' :: r => (-1, String.ofList r)
    | '+' :: r => (1, String.ofList r)
    | _ => (1, v)
  if body.isEmpty then throw (.badValue "string index out of range")
  if body == "0" then return 0
  match body.toList with
  | '0' :: 'b' :: r => return sign * (← intIn 2 (String.ofList r))
  | '0' :: 'x' :: r => return sign * (← intIn 16 (String.ofList r))
  | '0' :: _ => return sign * (← intIn 8 body)
  | _ =>
    if body.contains ':' then
      let parts ← (body.splitOn ":").mapM (intIn 10)
      return sign * parts.foldl (fun acc d => acc * 60 + d) 0
    else return sign * (← intIn 10 body)

def floatIn (s : String) : Except LoadError Float :=
  match Number.readFloat? s with
  | some f => .ok f
  | none => .error (.badValue ("could not convert string to float: " ++ Text.quote s))

/-- The double of a scalar tagged as one: underscores dropped, case ignored, a sign, then `.inf`,
`.nan`, base-60 parts, or a decimal. -/
def floatValue (text : String) : Except LoadError Float := do
  let v := String.ofList ((text.toList.filter (· != '_')).map Char.toLower)
  let (neg, body) : Bool × String := match v.toList with
    | '-' :: r => (true, String.ofList r)
    | '+' :: r => (false, String.ofList r)
    | _ => (false, v)
  if body.isEmpty && v.isEmpty then throw (.badValue "string index out of range")
  let signed (f : Float) : Float := if neg then -f else f
  if body == ".inf" then return signed (1.0 / 0.0)
  else if body == ".nan" then return 0.0 / 0.0
  else if body.contains ':' then
    let parts ← (body.splitOn ":").mapM floatIn
    -- the last part counts once, each earlier one sixty times the next
    let (total, _) := parts.reverse.foldl (fun (acc : Float × Float) d => (acc.1 + d * acc.2, acc.2 * 60)) (0, 1)
    return signed total
  else return signed (← floatIn body)

def monthDays (year month : Nat) : Nat := Calendar.monthLength year month

/-- The offset of a time zone in minutes; an offset of a day or more is refused. -/
def zoneOffset : Option (Option (Bool × Nat × Nat)) → Except LoadError (Option Int)
  | none => pure none
  | some none => pure (some 0)
  | some (some (negative, zh, zm)) => do
    let minutes : Int := zh * 60 + zm
    if minutes ≥ 1440 then
      let total : Int := (if negative then -1 else 1) * minutes * 60
      let days := Int.fdiv total 86400
      let secs := Int.fmod total 86400
      let parts := (if days != 0 then ["days=" ++ toString days] else []) ++
        (if secs != 0 then ["seconds=" ++ toString secs] else [])
      throw (.badValue ("offset must be a timedelta strictly between -timedelta(hours=24) and " ++
        "timedelta(hours=24), not datetime.timedelta(" ++ ", ".intercalate parts ++ ")."))
    pure (some (if negative then -minutes else minutes))

def stampDate (st : Stamp) : Except LoadError Calendar.Date := do
  if st.year < 1 || st.year > 9999 then throw (.badValue ("year " ++ toString st.year ++ " is out of range"))
  if st.month < 1 || st.month > 12 then throw (.badValue "month must be in 1..12")
  if st.day < 1 || st.day > monthDays st.year st.month then throw (.badValue "day is out of range for month")
  return ⟨st.year, st.month, st.day⟩

/-- The date or date and time of a timestamp: the zone is checked first, then the date, then the
time. -/
def stampValue (st : Stamp) : Except LoadError Value := do
  match st.time with
  | none => return .date (← stampDate st)
  | some (h, mi, se, frac, zone) =>
    let offset ← zoneOffset zone
    let date ← stampDate st
    if h > 23 then throw (.badValue "hour must be in 0..23")
    if mi > 59 then throw (.badValue "minute must be in 0..59")
    if se > 59 then throw (.badValue "second must be in 0..59")
    let digits := (frac.take 6) ++ List.replicate (6 - min 6 frac.length) '0'
    let micro := if frac.isEmpty then 0 else digitsNat digits
    return .datetime ⟨date, h, mi, se, micro, offset⟩

def boolValue (text : String) : Except LoadError Bool :=
  let w := String.ofList (text.toList.map Char.toLower)
  if ["yes", "true", "on"].contains w then .ok true
  else if ["no", "false", "off"].contains w then .ok false
  else .error (.unknownWord w)

def constructFailure (context : Option String) (contextMark : Option Mark) (problem : String)
    (problemMark : Mark) : LoadError :=
  .located { stage := .constructor, context, contextMark, problem, problemMark := some problemMark }

def scalarValue (tag text : String) (mark : Mark) : Except LoadError Value :=
  if tag == strTag then .ok (.str text)
  else if tag == nullTag then .ok .null
  else if tag == boolTag then (boolValue text).map .bool
  else if tag == intTag then (intValue text).map .int
  else if tag == floatTag then (floatValue text).map .float
  else if tag == timestampTag then
    match readStamp true text with
    | some st => stampValue st
    | none => .error .notAStamp
  else .error (constructFailure none none ("could not determine a constructor for the tag " ++ Text.quote tag) mark)

end Spreadsheet.Yaml
