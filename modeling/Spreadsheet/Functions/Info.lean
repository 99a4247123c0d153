import Spreadsheet.Eval.Fault

/-!
Information functions of formulas: tests of the kind of the first value of their argument.

Numeric text counts as a number for `ISNUMBER` and `ISEVEN`/`ISODD`, and as no text for `ISTEXT`;
an error value is no text either. Parity takes the integer part of the number.
-/

namespace Spreadsheet.Functions

def single (args : List Value) : Value := (argAt args 0).first

def isPlainText : Value → Bool
  | .str s => !Number.looksNumeric s
  | _ => false

def isNumber (args : List Value) : Outcome :=
  let v := single args
  pure (.bool (v.isNumber || (match v with | .str s => Number.looksNumeric s | _ => false)))

def isText (args : List Value) : Outcome :=
  let v := single args
  pure (.bool (isPlainText v && !v.isError))

def isBlank (args : List Value) : Outcome := pure (.bool (single args).isBlank)

def isError (args : List Value) : Outcome := pure (.bool (single args).isError)

def isNA (args : List Value) : Outcome := pure (.bool (single args).isNotAvailable)

def isLogical (args : List Value) : Outcome :=
  pure (.bool (match single args with | .bool _ => true | _ => false))

def parity (args : List Value) : Except Failure (Option Int) :=
  let v := single args
  if isPlainText v && !v.isBlank then .ok none
  else do
    let n ← liftArith v.toNum.trunc
    pure (some (n % 2))

def hasParity (odd : Bool) (args : List Value) : Outcome := do
  match ← parity args with
  | some p => pure (.bool (p == (if odd then 1 else 0)))
  | none => failWith .badValue

end Spreadsheet.Functions
