import Spreadsheet.Formula.References
import Spreadsheet.Value.Coerce

/-!
Cell stores: cell keys mapped to raw content, in key order.

The content of a cell is read as text: a missing cell or a blank is empty, a mapping is read
through its `value` entry, and numbers and truth values are written as they display. Content
starting with `=` is a formula; its body is the rest with blanks trimmed, and a formula with an
empty body is blank. Other non-empty content is a number when it reads as one, and text otherwise.
-/

namespace Spreadsheet

structure Store where
  cells : List (String × Value)
  deriving Inhabited

namespace Store

def ofValue : Value → Store
  | .dict entries => ⟨entries.map fun e => (e.1.toPlain, e.2)⟩
  | _ => ⟨[]⟩

def content (s : Store) (key : String) : String :=
  let v := match s.cells.lookup key with
    | some (.dict entries) => ((Value.dict entries).get? "value").getD .null
    | some v => v
    | none => .null
  match v with
  | .null => ""
  | .str t => t
  | w => w.toText

def formulaBody? (raw : String) : Option String :=
  if raw.startsWith "=" then some (Text.trimBlanks (String.ofList (raw.toList.drop 1))) else none

def formulaExpr? (s : Store) (key : String) : Option Formula.Expr :=
  match formulaBody? (s.content key) with
  | some body => if body.isEmpty then none else some (Formula.parseBody body)
  | none => none

end Store

/-- The value of plain content: blank when empty, a number when it reads as one, else the text. -/
def plainValue (raw : String) : Value :=
  if raw.isEmpty then .null
  else if Number.looksNumeric raw then .float ((Number.readFloat? raw).getD 0)
  else .str raw

end Spreadsheet
