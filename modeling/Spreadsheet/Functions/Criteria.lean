import Spreadsheet.Eval.Fault

/-!
Criteria of conditional aggregates (`SUMIF`, `COUNTIF`, `AVERAGEIF`).

A criterion that is not text matches the non-blank values equal to it under the comparison rules
of formulas. A text criterion may start with one of `>=`, `<=`, `<>`, `>`, `<`, `=` (tried in this
order); the rest is its operand. A numeric operand compares with numbers and numeric text only
(any other value matches only `<>`); an empty operand after `=` or `<>` tests for blanks; any
other operand compares case-insensitively with the value's text.
-/

namespace Spreadsheet.Functions

inductive Comparison where
  | ge | le | ne | gt | lt | eq
  deriving Repr, BEq, DecidableEq, Inhabited

namespace Comparison

def prefixes : List (String × Comparison) :=
  [(">=", .ge), ("<=", .le), ("<>", .ne), (">", .gt), ("<", .lt), ("=", .eq)]

/-- Applies the comparison to an ordering; `none` stands for an unordered pair (NaN), which
only `ne` holds for. -/
def holds : Comparison → Option Ordering → Bool
  | .ne, o => o != some .eq
  | .ge, o => o == some .gt || o == some .eq
  | .le, o => o == some .lt || o == some .eq
  | .gt, o => o == some .gt
  | .lt, o => o == some .lt
  | .eq, o => o == some .eq

end Comparison

inductive Criterion where
  | equals (target : Value)
  | number (op : Comparison) (target : Float)
  | blank (wanted : Bool)
  | text (op : Comparison) (target : String)
  deriving Inhabited

namespace Criterion

def splitPrefix (s : String) : Comparison × String :=
  match Comparison.prefixes.find? (fun p => s.startsWith p.1) with
  | some (pre, op) => (op, String.ofList (s.toList.drop pre.length))
  | none => (.eq, s)

def compile : Value → Criterion
  | .str s =>
    let (op, operand) := splitPrefix s
    if Number.looksNumeric operand then .number op ((Number.readFloat? operand).getD 0)
    else if operand.isEmpty && (op == .eq || op == .ne) then .blank (op == .eq)
    else .text op (Text.lower operand)
  | v => .equals v

def accepts : Criterion → Value → Bool
  | .equals target, v => !v.isBlank && Operands.equal v target
  | .number op target, v =>
    let n : Option Num := match v with
      | .str s => if Number.looksNumeric s then some (.float ((Number.readFloat? s).getD 0)) else none
      | w => w.num?
    match n with
    | some n => op.holds (n.compare? (.float target))
    | none => op == .ne
  | .blank wanted, v => v.isBlank == wanted
  | .text op target, v =>
    let t := Text.lower v.toText
    op.holds (some (compare t target))

end Criterion

end Spreadsheet.Functions
