import Spreadsheet.Functions.Statistics
import Spreadsheet.Functions.Text
import Spreadsheet.Functions.Logic
import Spreadsheet.Functions.Info
import Spreadsheet.Functions.Dates
import Spreadsheet.Functions.Lookup

/-!
The catalog of built-in functions.

A name is either a lazy function (`LazyForm`), which evaluates its own arguments, or an eager one,
which receives the values of all its arguments. Names are matched exactly, in upper case. Only
`TODAY` and `NOW` read the clock, given as `now`.
-/

namespace Spreadsheet.Functions

open Calendar

inductive Builtin where
  | lazy (form : LazyForm)
  | eager (run : List Value → Outcome)

def eager? (now : DateTime) : String → Option (List Value → Outcome)
  | "SUM" => some sum
  | "PRODUCT" | "MULTIPLY" => some product
  | "ABS" => some abs
  | "SQRT" => some sqrt
  | "POWER" => some power
  | "MOD" => some mod
  | "INT" => some int
  | "TRUNC" => some trunc
  | "ROUND" => some round
  | "ROUNDUP" => some (roundAway true)
  | "ROUNDDOWN" => some (roundAway false)
  | "CEILING" => some (toMultiple true)
  | "FLOOR" => some (toMultiple false)
  | "PI" => some pi
  | "EXP" => some (unary Float.exp true)
  | "LN" => some ln
  | "LOG" => some log
  | "LOG10" => some log10
  | "SIN" => some (unary Float.sin false)
  | "COS" => some (unary Float.cos false)
  | "TAN" => some (unary Float.tan false)
  | "SIGN" => some sign
  | "DIVIDE" => some divide
  | "DIFFERENCE" => some difference
  | "AVERAGE" | "AVG" => some average
  | "COUNT" => some count
  | "COUNTA" => some countNonBlank
  | "COUNTBLANK" => some countBlank
  | "MAX" => some max
  | "MIN" => some min
  | "MEDIAN" => some median
  | "MODE" => some mode
  | "STDEV" => some (dispersion true true)
  | "STDEVP" => some (dispersion true false)
  | "VAR" => some (dispersion false true)
  | "VARP" => some (dispersion false false)
  | "LARGE" => some large
  | "SMALL" => some small
  | "RANK" => some rank
  | "PERCENTILE" => some percentile
  | "SUMPRODUCT" => some sumProduct
  | "SUMIF" => some sumIf
  | "COUNTIF" => some countIf
  | "AVERAGEIF" => some averageIf
  | "CONCAT" | "CONCATENATE" => some concat
  | "LEN" => some len
  | "UPPER" => some upper
  | "LOWER" => some lower
  | "PROPER" => some proper
  | "TRIM" => some trim
  | "LEFT" => some left
  | "RIGHT" => some right
  | "MID" => some mid
  | "SUBSTITUTE" => some substitute
  | "REPLACE" => some replace
  | "REPT" => some rept
  | "EXACT" => some exact
  | "FIND" => some (search false)
  | "SEARCH" => some (search true)
  | "TEXT" => some text
  | "VALUE" => some value
  | "CHAR" => some char
  | "CODE" => some code
  | "AND" => some allTrue
  | "OR" => some anyTrue
  | "NOT" => some not
  | "XOR" => some xor
  | "ISNUMBER" => some isNumber
  | "ISTEXT" => some isText
  | "ISBLANK" => some isBlank
  | "ISERROR" => some isError
  | "ISNA" => some isNA
  | "ISLOGICAL" => some isLogical
  | "ISEVEN" => some (hasParity false)
  | "ISODD" => some (hasParity true)
  | "TODAY" => some (today now)
  | "NOW" => some (nowText now)
  | "DATE" => some date
  | "YEAR" => some year
  | "MONTH" => some month
  | "DAY" => some day
  | "WEEKDAY" => some weekday
  | "DATEDIF" => some dateDif
  | "DAYS" => some days
  | "EOMONTH" => some endOfMonth
  | "VLOOKUP" => some vlookup
  | "HLOOKUP" => some hlookup
  | "MATCH" => some matchPosition
  | "INDEX" => some index
  | _ => none

def builtin? (now : DateTime) (name : String) : Option Builtin :=
  match LazyForm.ofName? name with
  | some form => some (.lazy form)
  | none => (eager? now name).map .eager

def names : List String :=
  ["ABS", "AND", "AVERAGE", "AVERAGEIF", "AVG", "CEILING", "CHAR", "CODE", "CONCAT", "CONCATENATE",
   "COS", "COUNT", "COUNTA", "COUNTBLANK", "COUNTIF", "DATE", "DATEDIF", "DAY", "DAYS", "DIFFERENCE",
   "DIVIDE", "EOMONTH", "EXACT", "EXP", "FIND", "FLOOR", "HLOOKUP", "IF", "IFERROR", "IFNA", "IFS",
   "INDEX", "INT", "ISBLANK", "ISERROR", "ISEVEN", "ISLOGICAL", "ISNA", "ISNUMBER", "ISODD", "ISTEXT",
   "LARGE", "LEFT", "LEN", "LN", "LOG", "LOG10", "LOWER", "MATCH", "MAX", "MEDIAN", "MID", "MIN",
   "MOD", "MODE", "MONTH", "MULTIPLY", "NOT", "NOW", "OR", "PERCENTILE", "PI", "POWER", "PRODUCT",
   "PROPER", "RANK", "REPLACE", "REPT", "RIGHT", "ROUND", "ROUNDDOWN", "ROUNDUP", "SEARCH", "SIGN",
   "SIN", "SMALL", "SQRT", "STDEV", "STDEVP", "SUBSTITUTE", "SUM", "SUMIF", "SUMPRODUCT", "SWITCH",
   "TAN", "TEXT", "TODAY", "TRIM", "TRUNC", "UPPER", "VALUE", "VAR", "VARP", "VLOOKUP", "WEEKDAY",
   "XOR", "YEAR"]

end Spreadsheet.Functions
