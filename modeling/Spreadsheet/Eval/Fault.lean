import Spreadsheet.Value.Error
import Spreadsheet.Value.Coerce

/-!
Why an evaluation step stops, and the conventions of function arguments.

A step stops on a reference cycle, on a formula error raised where it is detected (shown as its
code), on an arithmetic failure (shown as `#NUM!` by the function call around it), or on an
internal failure of another kind, which only the whole formula turns into `#ERROR!`. Functions
take their arguments by position; a missing argument is a default, never an error.
-/

namespace Spreadsheet

/-- Why an operator or a function failed. Only reading a cell meets a cycle, so none of these is one. -/
inductive Failure where
  | code (e : ErrorCode)
  | arith (e : ArithError)
  | internal (reason : String)
  deriving Inhabited

inductive Fault where
  /-- A reference led back into a cell being evaluated: the cells from the first visit of the
  repeated cell to its second visit. -/
  | cycle (path : List String)
  | code (e : ErrorCode)
  | arith (e : ArithError)
  | internal (reason : String)
  deriving Inhabited

def Failure.toFault : Failure → Fault
  | .code e => .code e
  | .arith e => .arith e
  | .internal reason => .internal reason

abbrev Outcome := Except Failure Value

def liftArith {α : Type} : Except ArithError α → Except Failure α
  | .ok a => .ok a
  | .error e => .error (.arith e)

namespace Functions

def argAt (args : List Value) (i : Nat) (default : Value := .null) : Value :=
  args.getD i default

/-- The integer part (towards zero) of an argument read as a number: NaN is a `domain` failure,
an infinity an `overflow`. -/
def intArg (args : List Value) (i : Nat) (default : Value := .null) : Except Failure Int :=
  liftArith (argAt args i default).toNum.trunc

def failWith (e : ErrorCode) : Outcome := .ok e.toValue

end Functions

end Spreadsheet
