import Spreadsheet.Yaml.Token

/-!
The state of scanning YAML text into tokens.

The scanner walks the characters of the text, keeping the line and column of its position (a
line feed, carriage return not followed by a line feed, next-line, line or paragraph separator
starts a line; a byte order mark takes no column). Past the end it reads `'\x00'`, which cannot
occur in accepted text. Besides the position it holds the pending tokens, the indentation of the
open block collections, the depth of flow collections, and for each flow depth the place where a
mapping key without `?` may have started.
-/

namespace Spreadsheet.Yaml

def isBreak (c : Char) : Bool :=
  c == '\r' || c == '\n' || c == '\x85' || c == '\u2028' || c == '\u2029'

def isBlankOrEnd (c : Char) : Bool := c == ' ' || c == '\t' || isBreakOrEnd c

def isSpaceOrEnd (c : Char) : Bool := c == ' ' || isBreakOrEnd c

def isWordChar (c : Char) : Bool :=
  ('0' ≤ c && c ≤ '9') || ('A' ≤ c && c ≤ 'Z') || ('a' ≤ c && c ≤ 'z') || c == '-' || c == '_'

def isHexChar (c : Char) : Bool :=
  ('0' ≤ c && c ≤ '9') || ('A' ≤ c && c ≤ 'F') || ('a' ≤ c && c ≤ 'f')

def quoteChar (c : Char) : String := Text.quote (String.singleton c)

/-- A place where a mapping key may have started without a `?` indicator: the number of the
token it would become, and whether a key must start there. -/
structure SimpleKey where
  tokenNumber : Nat
  required : Bool
  mark : Mark
  deriving Repr, Inhabited

structure Scanner where
  text : Array Char
  index : Nat := 0
  line : Nat := 0
  column : Nat := 0
  /-- Depth of flow collections; a stray closing bracket makes it negative. -/
  flowLevel : Int := 0
  queue : List Token := []
  taken : Nat := 0
  done : Bool := false
  indent : Int := -1
  indents : List Int := []
  allowSimpleKey : Bool := true
  simpleKeys : List (Int × SimpleKey) := []
  deriving Inhabited

namespace Scanner

def peek (s : Scanner) (k : Nat := 0) : Char := charAt s.text (s.index + k)

def mark (s : Scanner) : Mark := ⟨s.index, s.line, s.column⟩

def ahead (s : Scanner) (n : Nat) : String :=
  String.ofList ((List.range n).map fun k => s.peek k)

def advance (s : Scanner) : Scanner :=
  if s.index < s.text.size then
    let c := s.peek
    if c == '\n' || c == '\x85' || c == '\u2028' || c == '\u2029' || (c == '\r' && s.peek 1 != '\n') then
      { s with index := s.index + 1, line := s.line + 1, column := 0 }
    else if c != '\uFEFF' then { s with index := s.index + 1, column := s.column + 1 }
    else { s with index := s.index + 1 }
  else s

def forward (s : Scanner) : Nat → Scanner
  | 0 => s
  | n + 1 => s.advance.forward n

def spanWhile (s : Scanner) (p : Char → Bool) : Nat :=
  go 0 (s.text.size + 1 - s.index)
where
  go (n : Nat) : Nat → Nat
    | 0 => n
    | fuel + 1 => if p (s.peek n) then go (n + 1) fuel else n

def atDocumentMarker (s : Scanner) : Bool :=
  (s.ahead 3 == "---" || s.ahead 3 == "...") && isBlankOrEnd (s.peek 3)

/-- The characters left to scan, plus two: a bound on the number of scanning steps. -/
def budget (s : Scanner) : Nat := s.text.size - s.index + 2

end Scanner

abbrev ScanM := StateT Scanner (Except LoadError)

def scanFailure (context : Option String) (contextMark : Option Mark) (problem : String)
    (problemMark : Mark) : LoadError :=
  .located { stage := .scanner, context, contextMark, problem, problemMark := some problemMark }

def peekChar (k : Nat := 0) : ScanM Char := return (← get).peek k

def currentMark : ScanM Mark := return (← get).mark

def skipChars (n : Nat := 1) : ScanM Unit := modify (·.forward n)

def takeWhileChars (p : Char → Bool) : ScanM String := do
  let s ← get
  let n := s.spanWhile p
  set (s.forward n)
  return s.ahead n

def pushToken (t : Token) : ScanM Unit := modify fun s => { s with queue := s.queue ++ [t] }

def setAllowSimpleKey (b : Bool) : ScanM Unit := modify fun s => { s with allowSimpleKey := b }

/-- Moves past a line end, which reads as a line feed unless it is a line or paragraph
separator; the empty text when there is none. -/
def scanLineBreak : ScanM String := do
  let s ← get
  let c := s.peek
  if c == '\r' || c == '\n' || c == '\x85' then
    if c == '\r' && s.peek 1 == '\n' then skipChars 2 else skipChars 1
    return "\n"
  else if c == '\u2028' || c == '\u2029' then
    skipChars 1
    return String.singleton c
  else return ""

end Spreadsheet.Yaml
