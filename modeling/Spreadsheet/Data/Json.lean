import Spreadsheet.Value.Basic
import Spreadsheet.Number.Literal

/-!
JSON text and values.

Reading: objects become mappings with text keys in order of first appearance (a repeated key keeps
its first place and its last value), numbers with a fraction or an exponent become doubles and
the others exact integers, and the words `NaN`, `Infinity` and `-Infinity` are doubles too.
Writing: doubles in their shortest text (`NaN`, `Infinity`, `-Infinity` for the others); a
`JsonStyle` chooses separators, indentation, key order, and whether non-ASCII characters are
escaped as `\uXXXX` (surrogate pairs above `U+FFFF`). Dates are written as their plain text.
-/

namespace Spreadsheet

namespace Json

def isSpace (c : Char) : Bool := c == ' ' || c == '\t' || c == '\n' || c == '\r'

def hexValue? (c : Char) : Option Nat :=
  if c.isDigit then some (c.toNat - 48)
  else if 'a' ≤ c && c ≤ 'f' then some (c.toNat - 87)
  else if 'A' ≤ c && c ≤ 'F' then some (c.toNat - 55)
  else none

def hex4? (cs : List Char) : Option (Nat × List Char) :=
  match cs with
  | a :: b :: c :: d :: rest => do
    let va ← hexValue? a
    let vb ← hexValue? b
    let vc ← hexValue? c
    let vd ← hexValue? d
    pure (((va * 16 + vb) * 16 + vc) * 16 + vd, rest)
  | _ => none

structure Failure where
  message : String
  left : Nat
  deriving Repr, Inhabited

abbrev Reading (α : Type) := Except Failure (α × List Char)

def failAt {α : Type} (message : String) (cs : List Char) : Reading α :=
  .error ⟨message, cs.length⟩

/-- A `\u` escape after its `u`: four hexadecimal digits, joined with a following low-surrogate
escape when they encode a high surrogate; a surrogate that is not part of a pair reads as U+FFFD.
`atU` is the text from the `u` on, where a bad escape is reported. -/
def readUnicodeEscape (atU : List Char) (cs : List Char) : Reading Char :=
  -- four digits and at least one more character must follow
  if cs.length ≤ 4 then failAt "Invalid \\uXXXX escape" atU
  else match hex4? cs with
    | none => failAt "Invalid \\uXXXX escape" atU
    | some (hi, rest) =>
      if 0xD800 ≤ hi && hi < 0xDC00 && rest.length > 6 then
        match rest with
        | '\\' :: 'u' :: r2 =>
          match hex4? r2 with
          | some (lo, r3) =>
            if 0xDC00 ≤ lo && lo < 0xE000 then
              .ok (Char.ofNat (0x10000 + (hi - 0xD800) * 0x400 + (lo - 0xDC00)), r3)
            else .ok ('\uFFFD', rest)
          | none => failAt "Invalid \\uXXXX escape" (rest.drop 1)
        | _ => .ok ('\uFFFD', rest)
      else if 0xD800 ≤ hi && hi < 0xE000 then .ok ('\uFFFD', rest)
      else .ok (Char.ofNat hi, rest)

/-- The body of a string after its opening quote: the text and what follows the closing quote.
`start` is the text from the opening quote on, where an unterminated string is reported. Control
characters are refused. -/
def readString (start : List Char) (cs : List Char) : Reading String :=
  let rec go (cs : List Char) (acc : List Char) (fuel : Nat) : Reading (List Char) :=
    match fuel with
    | 0 => failAt "Unterminated string starting at" start
    | fuel + 1 =>
      match cs with
      | [] => failAt "Unterminated string starting at" start
      | '"' :: rest => .ok (acc.reverse, rest)
      | '\\' :: rest =>
        match rest with
        | [] => failAt "Unterminated string starting at" start
        | e :: rest' =>
          let simple (c : Char) := go rest' (c :: acc) fuel
          match e with
          | '"' => simple '"'
          | '\\' => simple '\\'
          | '/' => simple '/'
          | 'b' => simple '\x08'
          | 'f' => simple '\x0c'
          | 'n' => simple '\n'
          | 'r' => simple '\r'
          | 't' => simple '\t'
          | 'u' =>
            match readUnicodeEscape rest rest' with
            | .ok (c, r) => go r (c :: acc) fuel
            | .error f => .error f
          | _ => failAt "Invalid \\escape" cs
      | c :: rest =>
        if c.toNat < 0x20 then failAt "Invalid control character at" cs
        else go rest (c :: acc) fuel
  match go cs [] (cs.length + 1) with
  | .ok (s, rest) => .ok (String.ofList s, rest)
  | .error e => .error e

/-- Reads a number: `-?(0|[1-9][0-9]*)(.[0-9]+)?([eE][-+]?[0-9]+)?` with ASCII digits. -/
def readNumber (cs : List Char) : Option (Value × List Char) :=
  let (neg, cs1) := match cs with
    | '-' :: r => (true, r)
    | r => (false, r)
  let intDs := match cs1 with
    | '0' :: _ => ['0']
    | _ => cs1.takeWhile Char.isDigit
  if intDs.isEmpty then none
  else
    let rest := cs1.drop intDs.length
    let (fracDs, rest) := match rest with
      | '.' :: r =>
        let ds := r.takeWhile Char.isDigit
        if ds.isEmpty then ([], rest) else (ds, r.drop ds.length)
      | _ => ([], rest)
    let hasFrac := !fracDs.isEmpty
    let (expV, hasExp, rest) : Int × Bool × List Char := match rest with
      | e :: r =>
        if e == 'e' || e == 'E' then
          let (eneg, r2) := match r with
            | '-' :: r' => (true, r')
            | '+' :: r' => (false, r')
            | r' => (false, r')
          let ds := r2.takeWhile Char.isDigit
          if ds.isEmpty then (0, false, rest)
          else
            let v : Int := Number.Literal.digitsValue ds
            (if eneg then -v else v, true, r2.drop ds.length)
        else (0, false, rest)
      | [] => (0, false, rest)
    let mant := Number.Literal.digitsValue (intDs ++ fracDs)
    if hasFrac || hasExp then
      some (.float (Number.Float.ofDecimal neg mant (expV - fracDs.length)), rest)
    else
      some (.int (if neg then -(mant : Int) else mant), rest)

def skip (cs : List Char) : List Char := cs.dropWhile isSpace

mutual
/-- Reads one value starting exactly at `cs`; `fuel` bounds the nesting and the number of
items. -/
def readValue (fuel : Nat) (cs : List Char) : Reading Value :=
  match fuel with
  | 0 => failAt "Expecting value" cs
  | fuel + 1 =>
    match cs with
    | '\x7b' :: rest => readObject fuel (skip rest) []
    | '[' :: rest => readArray fuel (skip rest) []
    | '"' :: rest =>
      match readString cs rest with
      | .ok (s, rest) => .ok (.str s, rest)
      | .error f => .error f
    | 'n' :: 'u' :: 'l' :: 'l' :: rest => .ok (.null, rest)
    | 't' :: 'r' :: 'u' :: 'e' :: rest => .ok (.bool true, rest)
    | 'f' :: 'a' :: 'l' :: 's' :: 'e' :: rest => .ok (.bool false, rest)
    | 'N' :: 'a' :: 'N' :: rest => .ok (.float (0.0 / 0.0), rest)
    | 'I' :: 'n' :: 'f' :: 'i' :: 'n' :: 'i' :: 't' :: 'y' :: rest => .ok (.float (1.0 / 0.0), rest)
    | '-' :: 'I' :: 'n' :: 'f' :: 'i' :: 'n' :: 'i' :: 't' :: 'y' :: rest => .ok (.float (-1.0 / 0.0), rest)
    | _ => match readNumber cs with
      | some r => .ok r
      | none => failAt "Expecting value" cs

def readArray (fuel : Nat) (cs : List Char) (acc : List Value) : Reading Value :=
  match fuel with
  | 0 => failAt "Expecting value" cs
  | fuel + 1 =>
    match cs with
    | ']' :: rest => if acc.isEmpty then .ok (.list [], rest) else failAt "Expecting value" cs
    | _ =>
      match readValue fuel cs with
      | .error f => .error f
      | .ok (v, rest) =>
        match skip rest with
        | ']' :: rest => .ok (.list (acc ++ [v]), rest)
        | ',' :: rest => readArray fuel (skip rest) (acc ++ [v])
        | r => failAt "Expecting ',' delimiter" r

def readObject (fuel : Nat) (cs : List Char) (acc : List (Value × Value)) : Reading Value :=
  match fuel with
  | 0 => failAt "Expecting value" cs
  | fuel + 1 =>
    match cs with
    | '\x7d' :: rest =>
      if acc.isEmpty then .ok (.dict [], rest)
      else failAt "Expecting property name enclosed in double quotes" cs
    | '"' :: rest =>
      match readString cs rest with
      | .error f => .error f
      | .ok (k, rest) =>
        match skip rest with
        | ':' :: rest =>
          match readValue fuel (skip rest) with
          | .error f => .error f
          | .ok (v, rest) =>
            let acc := Value.setEntry acc k v
            match skip rest with
            | '\x7d' :: rest => .ok (.dict acc, rest)
            | ',' :: rest =>
              match skip rest with
              | '"' :: _ => readObject fuel (skip rest) acc
              | r => failAt "Expecting property name enclosed in double quotes" r
            | r => failAt "Expecting ',' delimiter" r
        | r => failAt "Expecting ':' delimiter" r
    | _ => failAt "Expecting property name enclosed in double quotes" cs
end

/-- A failure located in a text: its message, then the line, the column and the character
position of the failure, lines and columns counted from 1 and positions from 0. -/
def Failure.describe (f : Failure) (text : String) : String :=
  let cs := text.toList
  let pos := cs.length - f.left
  let before := cs.take pos
  let line := (before.filter (· == '\n')).length + 1
  let column := (before.reverse.takeWhile (· != '\n')).length + 1
  f.message ++ ": line " ++ toString line ++ " column " ++ toString column ++ " (char " ++
    toString pos ++ ")"

def parse? (s : String) : Except Failure Value := do
  let cs := s.toList
  match readValue (cs.length + 1) (skip cs) with
  | .error f => .error f
  | .ok (v, rest) =>
    let rest := skip rest
    if rest.isEmpty then pure v else .error ⟨"Extra data", rest.length⟩

def parse (s : String) : Except String Value :=
  (parse? s).mapError (·.describe s)

structure Style where
  asciiOnly : Bool := true
  sortKeys : Bool := false
  indent : Option Nat := none
  itemSep : String := ", "
  keySep : String := ": "
  finiteOnly : Bool := false

def uEscape (n : Nat) : String :=
  "\\u" ++ Text.hexPad 4 n

def quote (asciiOnly : Bool) (s : String) : String :=
  let esc (c : Char) : String :=
    if c == '"' then "\\\""
    else if c == '\\' then "\\\\"
    else if c == '\n' then "\\n"
    else if c == '\r' then "\\r"
    else if c == '\t' then "\\t"
    else if c == '\x08' then "\\b"
    else if c == '\x0c' then "\\f"
    else if c.toNat < 0x20 then uEscape c.toNat
    else if asciiOnly && c.toNat > 0x7e then
      if c.toNat < 0x10000 then uEscape c.toNat
      else
        let n := c.toNat - 0x10000
        uEscape (0xD800 + n / 0x400) ++ uEscape (0xDC00 + n % 0x400)
    else String.singleton c
  "\"" ++ String.join (s.toList.map esc) ++ "\""

def floatText (f : Float) : String :=
  if f.isNaN then "NaN"
  else if f.isInf then (if f > 0 then "Infinity" else "-Infinity")
  else Number.Float.shortText f

def keyText : Value → String
  | .str s => s
  | .int i => toString i
  | .float f => floatText f
  | .bool b => if b then "true" else "false"
  | .null => "null"
  | v => v.toPlain

/-- A JSON document ready to print: scalars already written, entries already ordered. -/
inductive Tree where
  | atom (text : String)
  | arr (items : List Tree)
  | obj (entries : List (String × Tree))
  deriving Inhabited

mutual
def toTree (st : Style) : Value → Tree
  | .null => .atom "null"
  | .bool b => .atom (if b then "true" else "false")
  | .int i => .atom (toString i)
  | .float f => .atom (if st.finiteOnly && (f.isNaN || f.isInf) then "null" else floatText f)
  | .str s => .atom (quote st.asciiOnly s)
  | .list items => .arr (toTrees st items)
  | .dict entries =>
    let es := toEntries st entries
    .obj (if st.sortKeys then es.mergeSort (fun a b => decide (a.1 ≤ b.1)) else es)
  | v => .atom (quote st.asciiOnly v.toPlain)

def toTrees (st : Style) : List Value → List Tree
  | [] => []
  | v :: rest => toTree st v :: toTrees st rest

def toEntries (st : Style) : List (Value × Value) → List (String × Tree)
  | [] => []
  | (k, v) :: rest => (keyText k, toTree st v) :: toEntries st rest
end

def openText (st : Style) (depth : Nat) : String :=
  match st.indent with
  | some n => "\n" ++ String.ofList (List.replicate (n * (depth + 1)) ' ')
  | none => ""

def closeText (st : Style) (depth : Nat) : String :=
  match st.indent with
  | some n => "\n" ++ String.ofList (List.replicate (n * depth) ' ')
  | none => ""

def sepText (st : Style) (depth : Nat) : String :=
  match st.indent with
  | some n => ",\n" ++ String.ofList (List.replicate (n * (depth + 1)) ' ')
  | none => st.itemSep

mutual
def Tree.write (st : Style) (depth : Nat) : Tree → String
  | .atom t => t
  | .arr [] => "[]"
  | .arr items => "[" ++ openText st depth ++ Tree.writeItems st depth items ++ closeText st depth ++ "]"
  | .obj [] => "\x7b\x7d"
  | .obj entries =>
    "\x7b" ++ openText st depth ++ Tree.writeEntries st depth entries ++ closeText st depth ++ "\x7d"

def Tree.writeItems (st : Style) (depth : Nat) : List Tree → String
  | [] => ""
  | [v] => Tree.write st (depth + 1) v
  | v :: rest => Tree.write st (depth + 1) v ++ sepText st depth ++ Tree.writeItems st depth rest

def Tree.writeEntries (st : Style) (depth : Nat) : List (String × Tree) → String
  | [] => ""
  | [(k, v)] => quote st.asciiOnly k ++ st.keySep ++ Tree.write st (depth + 1) v
  | (k, v) :: rest =>
    quote st.asciiOnly k ++ st.keySep ++ Tree.write st (depth + 1) v ++ sepText st depth ++
      Tree.writeEntries st depth rest
end

def render (st : Style) (v : Value) : String := (toTree st v).write st 0

end Json

end Spreadsheet
