import Spreadsheet.Value.Basic

/-!
Formula errors are values: texts that start with `#`. Each kind has one sentinel text, and an
unknown function shows its upper-cased name: `#NAME?(FOO)`.
-/

namespace Spreadsheet

inductive ErrorCode where
  | failure
  | divZero
  | notAvailable
  | badValue
  | badNumber
  | badRef
  | circular
  | unknownName (name : String)
  deriving Repr, BEq, DecidableEq, Inhabited

namespace ErrorCode

def text : ErrorCode → String
  | .failure => "#ERROR!"
  | .divZero => "#DIV/0!"
  | .notAvailable => "#N/A"
  | .badValue => "#VALUE!"
  | .badNumber => "#NUM!"
  | .badRef => "#REF!"
  | .circular => "#CIRC!"
  | .unknownName n => "#NAME?(" ++ n ++ ")"

def toValue (e : ErrorCode) : Value := .str e.text

end ErrorCode

/-- Whether a value is an error: a text starting with `#`. -/
def Value.isError : Value → Bool
  | .str s => s.startsWith "#"
  | _ => false

def Value.isNotAvailable : Value → Bool
  | .str s => s == ErrorCode.notAvailable.text
  | _ => false

end Spreadsheet
