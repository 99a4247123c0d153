/-!
Reading character tables written as hexadecimal text, and looking code points up in them.

A range list is `a-b a-b …`; a run list is `start,count,delta,stride …` (a negative delta carries a
`-`); a list of several-character mappings is `c:x,y,z …`. Look-ups are binary searches over the
ascending starts.
-/

namespace Spreadsheet.Text

def readHex (s : String) : Nat :=
  s.toList.foldl (fun n c =>
    let d := if c.isDigit then c.toNat - '0'.toNat
      else if 'a' ≤ c && c ≤ 'f' then c.toNat - 'a'.toNat + 10
      else 0
    n * 16 + d) 0

def readSignedHex (s : String) : Int :=
  match s.toList with
  | '-' :: rest => -(readHex (String.ofList rest) : Int)
  | _ => readHex s

def words (s : String) : List String :=
  (s.splitOn " ").filter (· ≠ "")

structure CaseRun where
  start : Nat
  count : Nat
  delta : Int
  stride : Nat
  deriving Repr, Inhabited

namespace CaseRun

def read (w : String) : CaseRun :=
  match w.splitOn "," with
  | [a, b, c, d] => ⟨readHex a, readHex b, readSignedHex c, readHex d⟩
  | _ => ⟨0, 0, 0, 1⟩

def readAll (s : String) : Array CaseRun := ((words s).map read).toArray

def image? (r : CaseRun) (c : Nat) : Option Nat :=
  if r.start ≤ c && c < r.start + r.count * r.stride && (c - r.start) % r.stride == 0 then
    some (c + r.delta).toNat
  else none

end CaseRun

def readRanges (s : String) : Array (Nat × Nat) :=
  ((words s).map fun w =>
    match w.splitOn "-" with
    | [a, b] => (readHex a, readHex b)
    | _ => (0, 0)).toArray

def readMulti (s : String) : Array (Nat × List Nat) :=
  ((words s).map fun w =>
    match w.splitOn ":" with
    | [a, b] => (readHex a, (b.splitOn ",").map readHex)
    | _ => (0, [])).toArray

def lastAtMost {α : Type} [Inhabited α] (a : Array α) (key : α → Nat) (c : Nat) : Option α :=
  let rec go (lo hi : Nat) (fuel : Nat) : Option α :=
    match fuel with
    | 0 => none
    | fuel + 1 =>
      if lo + 1 ≥ hi then
        if lo < hi && key a[lo]! ≤ c then some a[lo]! else none
      else
        let mid := (lo + hi) / 2
        if key a[mid]! ≤ c then go mid hi fuel else go lo mid fuel
  go 0 a.size 64

def inRanges (rs : Array (Nat × Nat)) (c : Nat) : Bool :=
  match lastAtMost rs Prod.fst c with
  | some (_, b) => c ≤ b
  | none => false

def applyRuns (rs : Array CaseRun) (c : Nat) : Option Nat :=
  (lastAtMost rs CaseRun.start c).bind (·.image? c)

def applyMulti (ms : Array (Nat × List Nat)) (c : Nat) : Option (List Nat) :=
  match lastAtMost ms Prod.fst c with
  | some (k, v) => if k == c then some v else none
  | none => none

end Spreadsheet.Text
