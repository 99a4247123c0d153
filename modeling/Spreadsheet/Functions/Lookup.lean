import Spreadsheet.Eval.Fault

/-!
Lookup functions of formulas: `VLOOKUP`, `HLOOKUP`, `MATCH` and `INDEX`.

Tables are ranges, seen as lists of rows; a single value is a one-cell table. Approximate matching
assumes ascending keys, skips blank keys, and takes the last key not above the one sought before
the first key above it, comparing as the `<=` operator does. Exact matching is stricter than `=`:
blanks never match, and a number only matches text that reads as a number.
-/

namespace Spreadsheet.Functions

/-- A table argument as rows; a value that is not a list is a one-cell table. -/
def rowsOf : Value → List (List Value)
  | .list rows => rows.map fun r => match r with
    | .list cells => cells
    | v => [v]
  | v => [[v]]

/-- The columns of a table, as rows; short rows are padded with blanks. -/
def transpose (rows : List (List Value)) : List (List Value) :=
  let width := rows.foldl (fun w r => Nat.max w r.length) 0
  (List.range width).map fun c => rows.map fun r => r.getD c .null

def isTextValue : Value → Bool
  | .str _ => true
  | _ => false

def exactMatch (left right : Value) : Bool :=
  if left.isBlank || right.isBlank then false
  else if isTextValue left != isTextValue right then
    let text := if isTextValue left then left else right
    match text with
    | .str s => Number.looksNumeric s && Operands.equal left right
    | _ => false
  else Operands.equal left right

/-- The position of the matching key: the first equal key (exact), or the last key not above the
sought one before the first above it, blanks skipped (approximate). -/
def findKey (keys : List Value) (key : Value) (approximate : Bool) : Option Nat :=
  if !approximate then keys.findIdx? fun k => exactMatch k key
  else go keys 0 none
where
  go : List Value → Nat → Option Nat → Option Nat
    | [], _, found => found
    | k :: rest, i, found =>
      if k.isBlank then go rest (i + 1) found
      else if (Operands.of k key).le then go rest (i + 1) (some i)
      else found

def tableLookup (rows : List (List Value)) (args : List Value) : Outcome := do
  let key := (argAt args 0).first
  let index ← intArg args 2
  let approximate := if args.length > 3 then (argAt args 3).isTruthy else true
  if rows.isEmpty then return ErrorCode.notAvailable.toValue
  match findKey (rows.map fun r => r.headD .null) key approximate with
  | none => failWith .notAvailable
  | some i =>
    let row := rows.getD i []
    if index < 1 || index > row.length then return ErrorCode.badRef.toValue
    pure (row.getD (index - 1).toNat .null)

def vlookup (args : List Value) : Outcome := tableLookup (rowsOf (argAt args 1)) args

def hlookup (args : List Value) : Outcome := tableLookup (transpose (rowsOf (argAt args 1))) args

/-- The position of the last value not below the key, for keys sorted descending. -/
def findDescending (values : List Value) (key : Value) : Option Nat :=
  go values 0 none
where
  go : List Value → Nat → Option Nat → Option Nat
    | [], _, found => found
    | v :: rest, i, found =>
      if v.isBlank then go rest (i + 1) found
      else if (Operands.of v key).lt then found
      else go rest (i + 1) (some i)

/-- `MATCH`: the position (from 1) of the key in the range: type 1 (default) approximate
ascending, 0 exact, -1 approximate descending. -/
def matchPosition (args : List Value) : Outcome := do
  let key := (argAt args 0).first
  let values := Value.flatAll [argAt args 1]
  let kind ← intArg args 2 (.float 1)
  let found :=
    if kind == 0 then findKey values key false
    else if kind > 0 then findKey values key true
    else findDescending values key
  match found with
  | some i => pure (.int (i + 1))
  | none => failWith .notAvailable

/-- `INDEX`: the cell at a row and column (from 1); a single-row table indexed by one number is
walked along its row; `#REF!` outside the table. -/
def index (args : List Value) : Outcome := do
  let rows := rowsOf (argAt args 0)
  let r ← intArg args 1
  let c ← intArg args 2 (.float 1)
  let (r, c) := if args.length < 3 && rows.length == 1 then (1, r) else (r, c)
  if r < 1 || r > rows.length then return ErrorCode.badRef.toValue
  let row := rows.getD (r - 1).toNat []
  if c < 1 || c > row.length then return ErrorCode.badRef.toValue
  pure (row.getD (c - 1).toNat .null)

end Spreadsheet.Functions
