import Spreadsheet.Text.Quote

/-!
Places in a YAML text and the failures of reading one.

A mark is a character position with its line and column, counted from 0. A failure names the
stage that found it (reading characters, scanning tokens, parsing events, composing nodes or
constructing values), optionally what was being read and where that started, and the problem
and where it was found. Its text lists those parts, each mark as `in "<unicode string>", line L,
column C:` (counted from 1) followed by the line around the mark with a caret under it; a line
longer than about 75 characters is cut around the mark with ` ... `.
-/

namespace Spreadsheet.Yaml

structure Mark where
  index : Nat
  line : Nat
  column : Nat
  deriving Repr, BEq, Inhabited

def isBreakOrEnd (c : Char) : Bool :=
  c == '\x00' || c == '\r' || c == '\n' || c == '\x85' || c == '\u2028' || c == '\u2029'

def charAt (text : Array Char) (i : Nat) : Char := text.getD i '\x00'

def backSpan (text : Array Char) (i : Nat) (limit : Nat) : Nat × Bool :=
  go 0 limit
where
  go (n : Nat) : Nat → Nat × Bool
    | 0 => (n, true)
    | fuel + 1 =>
      if n < i && !isBreakOrEnd (charAt text (i - n - 1)) then go (n + 1) fuel else (n, false)

def forwardSpan (text : Array Char) (i : Nat) (limit : Nat) : Nat × Bool :=
  go 0 limit
where
  go (n : Nat) : Nat → Nat × Bool
    | 0 => (n, true)
    | fuel + 1 =>
      if i + n < text.size + 1 && !isBreakOrEnd (charAt text (i + n)) then go (n + 1) fuel else (n, false)

def Mark.snippet (text : Array Char) (m : Mark) : String :=
  let (back, cutBack) := backSpan text m.index 37
  let (fwd, cutFwd) := forwardSpan text m.index 37
  let back := if cutBack then back - 5 else back
  let fwd := if cutFwd then fwd - 5 else fwd
  let head := if cutBack then " ... " else ""
  let tail := if cutFwd then " ... " else ""
  let shown := String.ofList ((List.range (back + fwd)).map fun k => charAt text (m.index - back + k))
  "    " ++ head ++ shown ++ tail ++ "\n" ++ String.ofList (List.replicate (4 + back + head.length) ' ') ++ "^"

def Mark.describe (text : Array Char) (m : Mark) : String :=
  "  in \"<unicode string>\", line " ++ toString (m.line + 1) ++ ", column " ++ toString (m.column + 1) ++
    ":\n" ++ m.snippet text

inductive Stage where
  | scanner | parser | composer | constructor
  deriving Repr, BEq, Inhabited

def Stage.errorName : Stage → String
  | .scanner => "ScannerError"
  | .parser => "ParserError"
  | .composer => "ComposerError"
  | .constructor => "ConstructorError"

structure Located where
  stage : Stage
  context : Option String := none
  contextMark : Option Mark := none
  problem : String
  problemMark : Option Mark := none
  deriving Repr, Inhabited

inductive LoadError where
  | unacceptable (code : Nat) (position : Nat)
  | located (e : Located)
  | badValue (message : String)
  | unknownWord (word : String)
  | notAStamp
  deriving Repr, Inhabited

def Located.message (text : Array Char) (e : Located) : String :=
  let contextMark := match e.contextMark with
    | some cm =>
      let same := match e.problemMark with
        | some pm => pm.line == cm.line && pm.column == cm.column
        | none => false
      if same then [] else [cm.describe text]
    | none => []
  let lines := e.context.toList ++ contextMark ++ [e.problem] ++ (e.problemMark.map (·.describe text)).toList
  "\n".intercalate lines

def LoadError.kindName : LoadError → String
  | .unacceptable _ _ => "ReaderError"
  | .located e => e.stage.errorName
  | .badValue _ => "ValueError"
  | .unknownWord _ => "KeyError"
  | .notAStamp => "AttributeError"

def LoadError.isSyntax : LoadError → Bool
  | .unacceptable _ _ | .located _ => true
  | _ => false

def LoadError.message (text : Array Char) : LoadError → String
  | .unacceptable code pos =>
    "unacceptable character #x" ++ Text.hexPad 4 code ++ ": special characters are not allowed\n" ++
      "  in \"<unicode string>\", position " ++ toString pos
  | .located e => e.message text
  | .badValue m => m
  | .unknownWord w => Text.quote w
  | .notAStamp => "'NoneType' object has no attribute 'groupdict'"

end Spreadsheet.Yaml
