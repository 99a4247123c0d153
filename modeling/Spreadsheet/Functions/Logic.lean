import Spreadsheet.Eval.Fault

/-!
Logical functions of formulas.

`AND`, `OR`, `NOT` and `XOR` read the truth of every cell of their arguments. `IF`, `IFS`,
`IFERROR`, `IFNA` and `SWITCH` are lazy: they receive a way to evaluate their `i`-th argument and
evaluate only the arguments that decide the result and the branch they return, so a branch not
taken never runs (and never meets a reference cycle). A missing branch is blank; `IFERROR` and
`IFNA` without a fallback give the empty text.
-/

namespace Spreadsheet.Functions

def allTrue (args : List Value) : Outcome := pure (.bool ((Value.flatAll args).all Value.isTruthy))

def anyTrue (args : List Value) : Outcome := pure (.bool ((Value.flatAll args).any Value.isTruthy))

def not (args : List Value) : Outcome := pure (.bool !(argAt args 0).isTruthy)

def xor (args : List Value) : Outcome :=
  pure (.bool (((Value.flatAll args).filter Value.isTruthy).length % 2 == 1))

inductive LazyForm where
  | ifThen | ifs | ifError | ifNA | switch
  deriving Repr, BEq, DecidableEq, Inhabited

namespace LazyForm

def ofName? : String → Option LazyForm
  | "IF" => some .ifThen
  | "IFS" => some .ifs
  | "IFERROR" => some .ifError
  | "IFNA" => some .ifNA
  | "SWITCH" => some .switch
  | _ => none

variable {m : Type → Type} [Monad m]

def argOr (count : Nat) (arg : Nat → m Value) (i : Nat) (default : Value) : m Value :=
  if i < count then arg i else pure default

def firstTrue (count : Nat) (arg : Nat → m Value) (i : Nat) : m Value :=
  if i + 1 < count then do
    if (← arg i).isTruthy then arg (i + 1) else firstTrue count arg (i + 2)
  else pure ErrorCode.notAvailable.toValue
termination_by count - i

/-- `SWITCH`: compares the subject with the cases from `i` on; a lone last argument is the
default, and without one the result is `#N/A`. -/
def firstCase (count : Nat) (arg : Nat → m Value) (subject : Value) (i : Nat) : m Value :=
  if i + 1 < count then do
    if Operands.equal subject (← arg i) then arg (i + 1) else firstCase count arg subject (i + 2)
  else if i < count then arg i
  else pure ErrorCode.notAvailable.toValue
termination_by count - i

def run (form : LazyForm) (count : Nat) (arg : Nat → m Value) : m Value :=
  match form with
  | .ifThen =>
    if count = 0 then pure .null
    else do
      if (← arg 0).isTruthy then argOr count arg 1 .null else argOr count arg 2 .null
  | .ifs => firstTrue count arg 0
  | .ifError =>
    if count = 0 then pure .null
    else do
      let v ← arg 0
      if v.isError then argOr count arg 1 (.str "") else pure v
  | .ifNA =>
    if count = 0 then pure .null
    else do
      let v ← arg 0
      if v.isNotAvailable then argOr count arg 1 (.str "") else pure v
  | .switch =>
    if count = 0 then pure ErrorCode.notAvailable.toValue
    else do
      let subject ← arg 0
      firstCase count arg subject 1

end LazyForm

end Spreadsheet.Functions
