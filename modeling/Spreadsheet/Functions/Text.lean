import Spreadsheet.Functions.Math

/-!
Text functions of formulas.

Positions and lengths count characters (code points), positions from 1. Case mapping is the
full Unicode mapping, which may change the length (`ß` becomes `SS`). Searching finds the first
occurrence at or after a start position; an empty needle is found at the start itself unless the
start lies beyond the text. `TEXT` understands the patterns `0`, `0.00…`, `#,##0`, `#,##0.00…`,
each optionally followed by `%`, and otherwise shows up to three decimals with thousands
separators.
-/

namespace Spreadsheet.Functions

-- Powers of naturals and integers are the core library's, whatever other instances are in scope.
attribute [local instance (high)] instPowNat

open Number

def textArg (args : List Value) (i : Nat) : String := (argAt args i).toText

def concat (args : List Value) : Outcome :=
  pure (.str (String.join ((Value.flatAll args).map Value.toText)))

def len (args : List Value) : Outcome := pure (.int (textArg args 0).length)

def upper (args : List Value) : Outcome := pure (.str (Text.upper (textArg args 0)))

def lower (args : List Value) : Outcome := pure (.str (Text.lower (textArg args 0)))

def proper (args : List Value) : Outcome := pure (.str (Text.title (textArg args 0)))

def collapseSpaces : List Char → List Char
  | ' ' :: ' ' :: rest => collapseSpaces (' ' :: rest)
  | c :: rest => c :: collapseSpaces rest
  | [] => []

def trim (args : List Value) : Outcome :=
  pure (.str (String.ofList (collapseSpaces (Text.trimBlanks (textArg args 0)).toList)))

/-- The character count argument of `LEFT` and `RIGHT` (1 when missing): `#VALUE!` when negative
or NaN. -/
def countArg (args : List Value) (i : Nat) : Except Failure (Option Nat) :=
  match (argAt args i (.float 1)).toNum.trunc with
  | .ok n => .ok (if n < 0 then none else some n.toNat)
  | .error .domain => .ok none
  | .error e => .error (.arith e)

def left (args : List Value) : Outcome := do
  match ← countArg args 1 with
  | none => failWith .badValue
  | some n => pure (.str (String.ofList ((textArg args 0).toList.take n)))

def right (args : List Value) : Outcome := do
  match ← countArg args 1 with
  | none => failWith .badValue
  | some n =>
    let cs := (textArg args 0).toList
    pure (.str (if n == 0 then "" else String.ofList (cs.drop (cs.length - n))))

def mid (args : List Value) : Outcome := do
  let start ← intArg args 1
  let count ← intArg args 2
  if start < 1 || count < 0 then return ErrorCode.badValue.toValue
  let cs := (textArg args 0).toList
  pure (.str (String.ofList ((cs.drop (start - 1).toNat).take count.toNat)))

def startsWithChars (hay needle : List Char) : Bool := hay.take needle.length == needle

def findFrom (hay needle : List Char) (start : Nat) : Option Nat :=
  if start > hay.length then none
  else go (hay.drop start) start
where
  go : List Char → Nat → Option Nat
    | [], i => if needle.isEmpty then some i else none
    | c :: rest, i => if startsWithChars (c :: rest) needle then some i else go rest (i + 1)

/-- Replaces every occurrence of a non-empty `old`, scanning left to right without overlaps. -/
def replaceAll (text old new : List Char) : List Char :=
  go text text.length
where
  go : List Char → Nat → List Char
    | [], _ => []
    | _, 0 => []
    | c :: rest, fuel + 1 =>
      if !old.isEmpty && startsWithChars (c :: rest) old then
        new ++ go ((c :: rest).drop old.length) fuel
      else c :: go rest fuel

def nthOccurrence (text old : List Char) : Nat → Int → Option Int
  | 0, pos => some pos
  | k + 1, pos =>
    match findFrom text old (pos + 1).toNat with
    | some p => nthOccurrence text old k p
    | none => none

/-- `SUBSTITUTE`: every occurrence of `old`, or only the `instance`-th one (counting occurrences
that may overlap). -/
def substitute (args : List Value) : Outcome := do
  let text := textArg args 0
  let old := textArg args 1
  let new := textArg args 2
  if old.isEmpty then return .str text
  match args[3]? with
  | none | some Value.null => pure (.str (String.ofList (replaceAll text.toList old.toList new.toList)))
  | some v =>
    let k ← liftArith v.toNum.trunc
    match nthOccurrence text.toList old.toList k.toNat (-1) with
    | some pos =>
      if pos < 0 then pure (.str text)
      else
        let cs := text.toList
        pure (.str (String.ofList (cs.take pos.toNat ++ new.toList ++ cs.drop (pos.toNat + old.length))))
    | none => pure (.str text)

def replace (args : List Value) : Outcome := do
  let cs := (textArg args 0).toList
  let start := (← intArg args 1) - 1
  let count ← intArg args 2
  if start < 0 || count < 0 then return ErrorCode.badValue.toValue
  pure (.str (String.ofList (cs.take start.toNat ++ (textArg args 3).toList ++ cs.drop (start + count).toNat)))

def maxRepeat : Nat := 2 ^ (63 : Nat) - 1

def rept (args : List Value) : Outcome := do
  let text := textArg args 0
  let n := (← intArg args 1).toNat
  if n > maxRepeat || (text.length > 0 && text.length * n > maxRepeat) then throw (.arith .overflow)
  pure (.str (String.join (List.replicate n text)))

def exact (args : List Value) : Outcome := pure (.bool (textArg args 0 == textArg args 1))

def search (foldCase : Bool) (args : List Value) : Outcome := do
  let needle := textArg args 0
  let hay := textArg args 1
  let start : Int ← match args[2]? with
    | none | some Value.null => pure 0
    | some v => do
      let k ← liftArith v.toNum.trunc
      pure (k - 1)
  if start < 0 then return ErrorCode.badValue.toValue
  let (needle, hay) := if foldCase then (Text.lower needle, Text.lower hay) else (needle, hay)
  match findFrom hay.toList needle.toList start.toNat with
  | some i => pure (.int (i + 1))
  | none => failWith .badValue

structure TextPattern where
  grouped : Bool
  decimals : Nat
  percent : Bool
  deriving Repr, Inhabited

def TextPattern.parse? (s : String) : Option TextPattern :=
  let cs := s.toList
  let (grouped, cs) := if cs.take 4 == ['#', ',', '#', '#'] then (true, cs.drop 4) else (false, cs)
  match cs with
  | '0' :: rest =>
    let (decimals, rest) := match rest with
      | '.' :: more =>
        let zeros := more.takeWhile (· == '0')
        if zeros.isEmpty then (none, rest) else (some zeros.length, more.drop zeros.length)
      | _ => (some 0, rest)
    match decimals with
    | none => none
    | some d =>
      match rest with
      | [] => some ⟨grouped, d, false⟩
      | ['%'] => some ⟨grouped, d, true⟩
      | _ => none
  | _ => none

def dropTrailing (c : Char) (s : String) : String :=
  String.ofList (s.toList.reverse.dropWhile (· == c)).reverse

def text (args : List Value) : Outcome := do
  let v : Value := match argAt args 0 with
    | .str s => if looksNumeric s then .float ((readFloat? s).getD 0) else .str s
    | w => w
  match v.num? with
  | none => pure (.str v.toText)
  | some n =>
    match TextPattern.parse? (Text.trimBlanks (textArg args 1)) with
    | none =>
      let x ← liftArith n.toFloat
      let s := dropTrailing '.' (dropTrailing '0' (x.fixedText 3 (some ",")))
      pure (.str (if s == "-0" then "0" else s))
    | some p =>
      let sep := if p.grouped then some "," else none
      if p.percent then
        let x ← liftArith (← liftArith (n.mul (.int 100))).toFloat
        pure (.str (x.fixedText p.decimals sep ++ "%"))
      else
        let x ← liftArith n.toFloat
        pure (.str (x.fixedText p.decimals sep))

/-- `VALUE`: a number itself, the leading number of a text, `#VALUE!` otherwise. -/
def value (args : List Value) : Outcome :=
  match argAt args 0 with
  | .int i => pure (.int i)
  | .float f => pure (.float f)
  | .str s =>
    match numberPrefix? s with
    | some f => pure (.float f)
    | none => failWith .badValue
  | _ => failWith .badValue

def char (args : List Value) : Outcome := do
  let code ← intArg args 0
  if code < 1 || code > 255 then return ErrorCode.badValue.toValue
  pure (.str (String.singleton (Char.ofNat code.toNat)))

def code (args : List Value) : Outcome :=
  match (textArg args 0).toList with
  | c :: _ => pure (.int c.toNat)
  | [] => failWith .badValue

end Spreadsheet.Functions
