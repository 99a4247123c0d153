import Spreadsheet.Text.CaseTable

/-!
Full Unicode case conversion of text.

Upper and lower case map each character through the full mappings of `CaseTable`; a capital sigma
becomes the final form `ς` when a cased character precedes it and no cased character follows it,
case-ignorable characters skipped on both sides. Title case puts a character in title case when
the character before it is not cased, and in lower case otherwise.
-/

namespace Spreadsheet.Text

def ofCodes (cs : List Nat) : List Char := cs.map Char.ofNat

def isCased (c : Char) : Bool := inRanges casedRanges c.toNat

def isCaseIgnorable (c : Char) : Bool := inRanges caseIgnorableRanges c.toNat

/-- Maps a character through a full case mapping: several characters, one, or itself. An ASCII
character maps by `ascii`, the rule of the table's first run. -/
def mapCase (ascii : Char → Char) (runs : Array CaseRun) (multi : Array (Nat × List Nat)) (c : Char) :
    List Char :=
  if c.toNat < 0x80 then [ascii c]
  else
    match applyMulti multi c.toNat with
    | some cs => ofCodes cs
    | none => match applyRuns runs c.toNat with
      | some d => [Char.ofNat d]
      | none => [c]

def lowerChar (c : Char) : List Char := mapCase Char.toLower lowerRuns lowerMulti c
def upperChar (c : Char) : List Char := mapCase Char.toUpper upperRuns upperMulti c
def titleChar (c : Char) : List Char := mapCase Char.toUpper titleRuns titleMulti c

/-- The lower case of a capital sigma between `before` (nearest first) and `after`. -/
def sigmaLower (before after : List Char) : Char :=
  let prevCased := match before.dropWhile isCaseIgnorable with
    | c :: _ => isCased c
    | [] => false
  let nextCased := match after.dropWhile isCaseIgnorable with
    | c :: _ => isCased c
    | [] => false
  if prevCased && !nextCased then 'ς' else 'σ'

def lowerAt (before : List Char) (c : Char) (after : List Char) : List Char :=
  if c == 'Σ' then [sigmaLower before after] else lowerChar c

def lower (s : String) : String :=
  let rec go : List Char → List Char → List Char
    | _, [] => []
    | before, c :: rest => lowerAt before c rest ++ go (c :: before) rest
  String.ofList (go [] s.toList)

def upper (s : String) : String :=
  String.ofList (s.toList.flatMap upperChar)

/-- Title case: a character after a cased one goes to lower case, any other to title case. -/
def title (s : String) : String :=
  let rec go : List Char → List Char → List Char
    | _, [] => []
    | before, c :: rest =>
      let prevCased := match before with
        | p :: _ => isCased p
        | [] => false
      (if prevCased then lowerAt before c rest else titleChar c) ++ go (c :: before) rest
  String.ofList (go [] s.toList)

end Spreadsheet.Text
