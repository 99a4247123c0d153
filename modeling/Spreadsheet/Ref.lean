import Spreadsheet.Text.Case
import Spreadsheet.Text.Digit
import Spreadsheet.Number.Text

/-!
A1 references.

Column letters are a bijective base-26 numeral: `A` is 0, `Z` is 25, `AA` is 26. A reference is
an optional `$`, ASCII letters, an optional `$` and decimal digits of any script (a final line
feed is tolerated); it denotes a zero-based row and column. The canonical key of a reference has
upper-case letters and the digits as written; a rectangle of cells lists its keys row by row,
whichever corners it is given.
-/

namespace Spreadsheet

/-- The zero-based index of upper-case column letters; other characters count by their distance
from `A`. -/
def Column.ofUpper (cs : List Char) : Int :=
  cs.foldl (fun idx c => idx * 26 + ((c.toNat : Int) - 65 + 1)) 0 - 1

def Column.index (letters : String) : Int :=
  Column.ofUpper (Text.upper (String.ofList (letters.toList.filter (· != '$')))).toList

def Column.letters (idx : Int) : String :=
  let rec go (n : Nat) (fuel : Nat) (acc : List Char) : List Char :=
    match fuel with
    | 0 => acc
    | fuel + 1 =>
      if n == 0 then acc
      else go ((n - 1) / 26) fuel (Char.ofNat (65 + (n - 1) % 26) :: acc)
  if idx < 0 then "" else String.ofList (go (idx + 1).toNat (idx + 1).toNat [])

def digitsValue (ds : List Char) : Nat :=
  ds.foldl (fun n c => n * 10 + (Text.digitValue? c).getD 0) 0

structure RefText where
  letters : String
  digits : String
  deriving Repr, BEq, DecidableEq

def RefText.parse? (s : String) : Option RefText :=
  let cs := s.toList
  let cs := match cs with
    | '$' :: rest => rest
    | _ => cs
  let letters := cs.takeWhile (fun c => c.isAlpha)
  let cs := cs.dropWhile (fun c => c.isAlpha)
  let cs := match cs with
    | '$' :: rest => rest
    | _ => cs
  let digits := cs.takeWhile Text.isDigit
  let rest := cs.dropWhile Text.isDigit
  if letters.isEmpty || digits.isEmpty then none
  else if rest.isEmpty || rest == ['\n'] then some ⟨String.ofList letters, String.ofList digits⟩
  else none

structure Ref where
  row : Int
  col : Int
  deriving Repr, BEq, DecidableEq, Inhabited

namespace Ref

/-- The position a reference denotes (`A0` has row -1). The letters of a reference are ASCII, so
they are upper-cased as ASCII. -/
def parse? (s : String) : Option Ref :=
  (RefText.parse? s).map fun t => ⟨(digitsValue t.digits.toList : Int) - 1, Column.ofUpper t.letters.toUpper.toList⟩

def key (r : Ref) : String :=
  Column.letters r.col ++ toString (r.row + 1)

end Ref

/-- The store key a text names: a reference with its letters upper-cased and digits as written,
any other text upper-cased. -/
def canonicalKey (s : String) : String :=
  match RefText.parse? s with
  | some t => t.letters.toUpper ++ t.digits
  | none => Text.upper s

structure Span where
  start : String
  stop : String
  deriving Repr, BEq

namespace Span

def shape (s : Span) : Nat × Nat :=
  match Ref.parse? s.start, Ref.parse? s.stop with
  | some a, some b => ((a.row - b.row).natAbs + 1, (a.col - b.col).natAbs + 1)
  | _, _ => (0, 0)

def refs (s : Span) : List Ref :=
  match Ref.parse? s.start, Ref.parse? s.stop with
  | some a, some b =>
    let r0 := min a.row b.row
    let c0 := min a.col b.col
    let rows := (List.range ((a.row - b.row).natAbs + 1)).map fun (i : Nat) => r0 + (i : Int)
    let cols := (List.range ((a.col - b.col).natAbs + 1)).map fun (j : Nat) => c0 + (j : Int)
    rows.flatMap fun r => cols.map fun c => ⟨r, c⟩
  | _, _ => []

def keys (s : Span) : List String := s.refs.map Ref.key

end Span

end Spreadsheet
