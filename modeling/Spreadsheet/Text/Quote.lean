import Spreadsheet.Text.PrintableTable
import Spreadsheet.Number.Text

/-!
Quoted text, the way values are shown inside messages: single quotes unless the text holds a
single quote and no double quote; a backslash, the chosen quote, tab, line feed and carriage
return are escaped; any other character that is not printable is written as `\xNN`, `\uNNNN` or
`\UNNNNNNNN`.
-/

namespace Spreadsheet.Text

def hexPad (width : Nat) (n : Nat) : String :=
  Number.zeroPad width (String.ofList (Nat.toDigits 16 n))

def escapeChar (q : Char) (c : Char) : String :=
  if c == '\\' then "\\\\"
  else if c == q then "\\" ++ String.singleton q
  else if c == '\t' then "\\t"
  else if c == '\n' then "\\n"
  else if c == '\r' then "\\r"
  else if c.toNat < 0x20 || c.toNat == 0x7f then "\\x" ++ hexPad 2 c.toNat
  else if c.toNat < 0x80 || isPrintable c then String.singleton c
  else if c.toNat < 0x100 then "\\x" ++ hexPad 2 c.toNat
  else if c.toNat < 0x10000 then "\\u" ++ hexPad 4 c.toNat
  else "\\U" ++ hexPad 8 c.toNat

def quote (s : String) : String :=
  let q := if s.contains '\'' && !s.contains '"' then '"' else '\''
  String.singleton q ++ String.join (s.toList.map (escapeChar q)) ++ String.singleton q

end Spreadsheet.Text
