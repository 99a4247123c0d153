import Spreadsheet.Number.Num
import Spreadsheet.Calendar.Date
import Spreadsheet.Text.Quote

/-!
Values: what cells hold and formulas compute, and what data files and event logs carry.

Formulas compute blanks, truth values, integers, doubles and texts, and lists of them while a
range is in flight. Data files add mappings (in key order) and dates. A value has two texts:
`toLiteral` writes it as a literal (quoted text, `None`, `True`, `[1, 2]`), `toPlain` is the
literal except that a text is itself and a date is `YYYY-MM-DD`.
-/

namespace Spreadsheet

open Calendar

inductive Value where
  | null
  | bool (b : Bool)
  | int (i : Int)
  | float (f : Float)
  | str (s : String)
  | list (items : List Value)
  | dict (entries : List (Value × Value))
  | date (d : Date)
  | datetime (t : DateTime)
  deriving Inhabited

namespace Value

def ofNum : Num → Value
  | .int i => .int i
  | .float f => .float f

def isNumber : Value → Bool
  | .int _ | .float _ => true
  | _ => false

def num? : Value → Option Num
  | .int i => some (.int i)
  | .float f => some (.float f)
  | _ => Option.none

/-- The `datetime` literal of a time: its fields, seconds and microseconds only when needed. -/
def dateTimeLiteral (t : DateTime) : String :=
  let d := t.date
  let fields := [d.year, d.month, d.day, t.hour, t.minute] ++
    (if t.second != 0 || t.micro != 0 then [t.second] else []) ++
    (if t.micro != 0 then [t.micro] else [])
  let body := ", ".intercalate (fields.map toString)
  let tz := match t.offset with
    | some 0 => ", tzinfo=datetime.timezone.utc"
    | some m => ", tzinfo=datetime.timezone(datetime.timedelta(" ++
        (if m < 0 then "days=-1, seconds=" ++ toString (86400 + m * 60) else "seconds=" ++ toString (m * 60)) ++ "))"
    | Option.none => ""
  "datetime.datetime(" ++ body ++ tz ++ ")"

mutual
def toLiteral : Value → String
  | .null => "None"
  | .bool b => if b then "True" else "False"
  | .int i => toString i
  | .float f => Number.Float.shortText f
  | .str s => Text.quote s
  | .list items => "[" ++ literals items ++ "]"
  | .dict entries => "\x7b" ++ entryLiterals entries ++ "\x7d"
  | .date d => "datetime.date(" ++ toString d.year ++ ", " ++ toString d.month ++ ", " ++ toString d.day ++ ")"
  | .datetime t => dateTimeLiteral t

def literals : List Value → String
  | [] => ""
  | [v] => toLiteral v
  | v :: rest => toLiteral v ++ ", " ++ literals rest

def entryLiterals : List (Value × Value) → String
  | [] => ""
  | [(k, v)] => toLiteral k ++ ": " ++ toLiteral v
  | (k, v) :: rest => toLiteral k ++ ": " ++ toLiteral v ++ ", " ++ entryLiterals rest
end

/-- The plain text of a value: a text is itself, a date `YYYY-MM-DD`, a date time
`YYYY-MM-DD HH:MM:SS`; anything else its literal. -/
def toPlain : Value → String
  | .str s => s
  | .date d => d.isoText
  | .datetime t => t.isoText " "
  | v => v.toLiteral

def kindName : Value → String
  | .null => "NoneType"
  | .bool _ => "bool"
  | .int _ => "int"
  | .float _ => "float"
  | .str _ => "str"
  | .list _ => "list"
  | .dict _ => "dict"
  | .date _ => "date"
  | .datetime _ => "datetime"

def setEntry (entries : List (Value × Value)) (k : String) (v : Value) : List (Value × Value) :=
  let isKey : Value → Bool := fun x => match x with
    | .str s => s == k
    | _ => false
  if entries.any (fun e => isKey e.1) then entries.map fun e => if isKey e.1 then (e.1, v) else e
  else entries ++ [(.str k, v)]

def get? (v : Value) (k : String) : Option Value :=
  match v with
  | .dict entries => entries.findSome? fun e => match e.1 with
    | .str s => if s == k then some e.2 else none
    | _ => none
  | _ => none

def numeric? : Value → Option Num
  | .bool b => some (.int (if b then 1 else 0))
  | .int i => some (.int i)
  | .float f => some (.float f)
  | _ => none

mutual
/-- Equality of data: numbers and truth values by their value (a NaN equals nothing), texts and
dates exactly, lists item by item, mappings as sets of entries. -/
def equals : Value → Value → Bool
  | .null, .null => true
  | .str a, .str b => a == b
  | .date a, .date b => a == b
  | .datetime a, .datetime b => a == b
  | .list xs, .list ys => equalsAll xs ys
  | .dict xs, .dict ys => xs.length == ys.length && entriesWithin xs ys
  | a, b => match a.numeric?, b.numeric? with
    | some x, some y => x.eq y
    | _, _ => false

def equalsAll : List Value → List Value → Bool
  | [], [] => true
  | x :: xs, y :: ys => equals x y && equalsAll xs ys
  | _, _ => false

def entriesWithin : List (Value × Value) → List (Value × Value) → Bool
  | [], _ => true
  | (k, v) :: rest, ys => ys.any (fun e => equals k e.1 && equals v e.2) && entriesWithin rest ys
end

/-- Whether a value is false as a condition: blank, false, zero, or an empty text, list or
mapping. -/
def isFalsy : Value → Bool
  | .null => true
  | .bool b => !b
  | .int i => i == 0
  | .float f => f == 0
  | .str s => s.isEmpty
  | .list xs => xs.isEmpty
  | .dict es => es.isEmpty
  | _ => false

end Value

end Spreadsheet
