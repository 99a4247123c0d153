import Spreadsheet.Yaml.Cursor

/-!
Scanning the three forms of scalar.

*Plain* scalars run until a blank, a `:` followed by a blank (or, inside brackets, by a bracket or
comma), a comment, or, inside brackets, one of `,?[]{}`; they continue on a following line that is
indented more than the enclosing block collection. A line end between two parts reads as a space,
and `n + 1` line ends as `n` line feeds.

*Quoted* scalars are in single quotes (where `''` stands for a quote) or double quotes (with
backslash escapes); line ends fold the same way, and an escaped line end joins the lines.

*Block* scalars start with `|` (lines kept) or `>` (lines folded), optionally followed by an
indentation digit and a chomping indicator: `-` drops the final line ends, `+` keeps them all, and
by default one is kept.
-/

namespace Spreadsheet.Yaml

def plainSpan (s : Scanner) : Nat :=
  go 0 s.budget
where
  go (n : Nat) : Nat → Nat
    | 0 => n
    | fuel + 1 =>
      let c := s.peek n
      let inFlow := s.flowLevel != 0
      let stop := isBlankOrEnd c ||
        (c == ':' && (isBlankOrEnd (s.peek (n + 1)) || (inFlow && ",[]\x7b\x7d".contains (s.peek (n + 1))))) ||
        (inFlow && ",?[]\x7b\x7d".contains c)
      if stop then n else go (n + 1) fuel

def plainBreaks : Nat → List String → ScanM (Option (List String))
  | 0, breaks => pure (some breaks)
  | fuel + 1, breaks => do
    let c ← peekChar
    if c == ' ' then
      skipChars
      plainBreaks fuel breaks
    else if isBreak c then
      let b ← scanLineBreak
      if (← get).atDocumentMarker then pure none else plainBreaks fuel (breaks ++ [b])
    else pure (some breaks)

def plainSpaces : ScanM (Option (List String)) := do
  let spaces ← takeWhileChars (· == ' ')
  let c ← peekChar
  if isBreak c then
    let lineBreak ← scanLineBreak
    setAllowSimpleKey true
    if (← get).atDocumentMarker then return none
    match ← plainBreaks (← get).budget [] with
    | none => return none
    | some breaks =>
      let first := if lineBreak != "\n" then [lineBreak] else if breaks.isEmpty then [" "] else []
      return some (first ++ breaks)
  else if spaces.isEmpty then return some []
  else return some [spaces]

def plainParts (indent : Int) : Nat → List String → List String → Mark → ScanM (List String × Mark)
  | 0, chunks, _, stop => pure (chunks, stop)
  | fuel + 1, chunks, spaces, stop => do
    let s ← get
    if s.peek == '#' then return (chunks, stop)
    let n := plainSpan s
    if n == 0 then return (chunks, stop)
    setAllowSimpleKey false
    let part := s.ahead n
    skipChars n
    let stop ← currentMark
    let chunks := chunks ++ spaces ++ [part]
    match ← plainSpaces with
    | none => return (chunks, stop)
    | some sp =>
      let s ← get
      if sp.isEmpty || s.peek == '#' || (s.flowLevel == 0 && (s.column : Int) < indent) then
        return (chunks, stop)
      else plainParts indent fuel chunks sp stop

def scanPlain : ScanM Token := do
  let start ← currentMark
  let s ← get
  let (chunks, stop) ← plainParts (s.indent + 1) s.budget [] [] start
  return ⟨.scalar (String.join chunks) true none, start, stop⟩

def escapeReplacement : Char → Option Char
  | '0' => some '\x00'
  | 'a' => some '\x07'
  | 'b' => some '\x08'
  | 't' => some '\t'
  | '\t' => some '\t'
  | 'n' => some '\n'
  | 'v' => some '\x0b'
  | 'f' => some '\x0c'
  | 'r' => some '\r'
  | 'e' => some '\x1b'
  | ' ' => some ' '
  | '"' => some '"'
  | '/' => some '/'
  | '\\' => some '\\'
  | 'N' => some '\x85'
  | '_' => some '\xa0'
  | 'L' => some '\u2028'
  | 'P' => some '\u2029'
  | _ => none

def escapeDigits : Char → Option Nat
  | 'x' => some 2
  | 'u' => some 4
  | 'U' => some 8
  | _ => none

def hexDigitsValue (s : String) : Nat :=
  s.toList.foldl (fun acc c =>
    acc * 16 + (if c ≤ '9' then c.toNat - 48 else if c ≤ 'F' then c.toNat - 55 else c.toNat - 87)) 0

def firstNonHex (s : Scanner) (n : Nat) : Option Char :=
  ((List.range n).map fun k => s.peek k).find? (!isHexChar ·)

def quotedBreaks (start : Mark) : Nat → List String → ScanM (List String)
  | 0, acc => pure acc
  | fuel + 1, acc => do
    let s ← get
    if s.atDocumentMarker then
      throw (scanFailure (some "while scanning a quoted scalar") (some start)
        "found unexpected document separator" s.mark)
    discard (takeWhileChars (fun c => c == ' ' || c == '\t'))
    if isBreak (← peekChar) then
      let b ← scanLineBreak
      quotedBreaks start fuel (acc ++ [b])
    else pure acc

def quotedText (double : Bool) (start : Mark) : Nat → List String → ScanM (List String)
  | 0, acc => pure acc
  | fuel + 1, acc => do
    let part ← takeWhileChars fun c => !("'\"\\".contains c || isBlankOrEnd c)
    let acc := if part.isEmpty then acc else acc ++ [part]
    let s ← get
    let c := s.peek
    if !double && c == '\'' && s.peek 1 == '\'' then
      skipChars 2
      quotedText double start fuel (acc ++ ["'"])
    else if (double && c == '\'') || (!double && (c == '"' || c == '\\')) then
      skipChars
      quotedText double start fuel (acc ++ [String.singleton c])
    else if double && c == '\\' then
      skipChars
      let e ← peekChar
      match escapeReplacement e, escapeDigits e with
      | some r, _ =>
        skipChars
        quotedText double start fuel (acc ++ [String.singleton r])
      | none, some n =>
        skipChars
        let s ← get
        match firstNonHex s n with
        | some bad =>
          throw (scanFailure (some "while scanning a double-quoted scalar") (some start)
            ("expected escape sequence of " ++ toString n ++ " hexdecimal numbers, but found " ++
              quoteChar bad) s.mark)
        | none =>
          let code := hexDigitsValue (s.ahead n)
          if code ≥ 0x110000 then throw (.badValue "chr() arg not in range(0x110000)")
          skipChars n
          -- a lone surrogate has no character of its own
          let c := if 0xD800 ≤ code && code < 0xE000 then '\uFFFD' else Char.ofNat code
          quotedText double start fuel (acc ++ [String.singleton c])
      | none, none =>
        if isBreak e then
          discard scanLineBreak
          let breaks ← quotedBreaks start (← get).budget []
          quotedText double start fuel (acc ++ breaks)
        else
          throw (scanFailure (some "while scanning a double-quoted scalar") (some start)
            ("found unknown escape character " ++ quoteChar e) (← currentMark))
    else pure acc

def quotedSpaces (start : Mark) : ScanM (List String) := do
  let spaces ← takeWhileChars fun c => c == ' ' || c == '\t'
  let s ← get
  let c := s.peek
  if c == '\x00' then
    throw (scanFailure (some "while scanning a quoted scalar") (some start)
      "found unexpected end of stream" s.mark)
  else if isBreak c then
    let lineBreak ← scanLineBreak
    let breaks ← quotedBreaks start (← get).budget []
    let first := if lineBreak != "\n" then [lineBreak] else if breaks.isEmpty then [" "] else []
    return first ++ breaks
  else return [spaces]

def quotedParts (double : Bool) (quote : Char) (start : Mark) : Nat → List String → ScanM (List String)
  | 0, acc => pure acc
  | fuel + 1, acc => do
    if (← peekChar) == quote then return acc
    let sp ← quotedSpaces start
    let more ← quotedText double start (← get).budget []
    quotedParts double quote start fuel (acc ++ sp ++ more)

def scanQuoted (double : Bool) : ScanM Token := do
  let start ← currentMark
  let quote ← peekChar
  skipChars
  let first ← quotedText double start (← get).budget []
  let parts ← quotedParts double quote start (← get).budget first
  skipChars
  let stop ← currentMark
  return ⟨.scalar (String.join parts) false (some (if double then '"' else '\'')), start, stop⟩

/-- The indicators after `|` or `>`: chomping (`some true` keeps, `some false` strips) and the
indentation digit. -/
def blockIndicators (start : Mark) : ScanM (Option Bool × Option Nat) := do
  let context := some "while scanning a block scalar"
  let zero := "expected indentation indicator in the range 1-9, but found 0"
  let c ← peekChar
  let (chomping, increment) ←
    if c == '+' || c == '-' then do
      skipChars
      let d ← peekChar
      if d.isDigit then
        if d == '0' then throw (scanFailure context (some start) zero (← currentMark))
        skipChars
        pure (some (c == '+'), some (d.toNat - 48))
      else pure (some (c == '+'), none)
    else if c.isDigit then do
      if c == '0' then throw (scanFailure context (some start) zero (← currentMark))
      skipChars
      let d ← peekChar
      if d == '+' || d == '-' then
        skipChars
        pure (some (d == '+'), some (c.toNat - 48))
      else pure (none, some (c.toNat - 48))
    else pure (none, none)
  let c ← peekChar
  if !isSpaceOrEnd c then
    throw (scanFailure context (some start)
      ("expected chomping or indentation indicators, but found " ++ quoteChar c) (← currentMark))
  return (chomping, increment)

def blockHeaderEnd (start : Mark) : ScanM Unit := do
  discard (takeWhileChars (· == ' '))
  if (← peekChar) == '#' then discard (takeWhileChars (!isBreakOrEnd ·))
  let c ← peekChar
  if !isBreakOrEnd c then
    throw (scanFailure (some "while scanning a block scalar") (some start)
      ("expected a comment or a line break, but found " ++ quoteChar c) (← currentMark))
  discard scanLineBreak

def blockIndentation : Nat → List String → Nat → Mark → ScanM (List String × Nat × Mark)
  | 0, breaks, maxIndent, stop => pure (breaks, maxIndent, stop)
  | fuel + 1, breaks, maxIndent, stop => do
    let c ← peekChar
    if c == ' ' then
      skipChars
      let col := (← get).column
      blockIndentation fuel breaks (max maxIndent col) stop
    else if isBreak c then
      let b ← scanLineBreak
      blockIndentation fuel (breaks ++ [b]) maxIndent (← currentMark)
    else pure (breaks, maxIndent, stop)

def skipIndent (indent : Nat) : ScanM Unit :=
  modify fun s => s.forward (min (s.spanWhile (· == ' ')) (indent - s.column))

def blockBreaks (indent : Nat) : Nat → List String → Mark → ScanM (List String × Mark)
  | 0, breaks, stop => pure (breaks, stop)
  | fuel + 1, breaks, stop => do
    if isBreak (← peekChar) then
      let b ← scanLineBreak
      let stop ← currentMark
      skipIndent indent
      blockBreaks indent fuel (breaks ++ [b]) stop
    else pure (breaks, stop)

def blockBreaksFrom (indent : Nat) : ScanM (List String × Mark) := do
  let stop ← currentMark
  skipIndent indent
  blockBreaks indent (← get).budget [] stop

def blockLines (folded : Bool) (indent : Nat) :
    Nat → List String → List String → String → Mark → ScanM (List String × List String × String × Mark)
  | 0, chunks, breaks, lineBreak, stop => pure (chunks, breaks, lineBreak, stop)
  | fuel + 1, chunks, breaks, lineBreak, stop => do
    let s ← get
    if !(s.column == indent && s.peek != '\x00') then return (chunks, breaks, lineBreak, stop)
    let chunks := chunks ++ breaks
    let leadingNonSpace := !(s.peek == ' ' || s.peek == '\t')
    let line ← takeWhileChars (!isBreakOrEnd ·)
    let chunks := chunks ++ [line]
    let lineBreak ← scanLineBreak
    let (breaks, stop) ← blockBreaksFrom indent
    let s ← get
    if s.column == indent && s.peek != '\x00' then
      let join :=
        if folded && lineBreak == "\n" && leadingNonSpace && !(s.peek == ' ' || s.peek == '\t') then
          (if breaks.isEmpty then [" "] else [])
        else [lineBreak]
      blockLines folded indent fuel (chunks ++ join) breaks lineBreak stop
    else return (chunks, breaks, lineBreak, stop)

def scanBlockScalar (folded : Bool) : ScanM Token := do
  let start ← currentMark
  skipChars
  let (chomping, increment) ← blockIndicators start
  blockHeaderEnd start
  let s ← get
  let minIndent : Nat := max (s.indent + 1).toNat 1
  let (breaks, indent, stop) ← match increment with
    | none => do
      let (breaks, maxIndent, stop) ← blockIndentation s.budget [] 0 (← currentMark)
      pure (breaks, max minIndent maxIndent, stop)
    | some k => do
      let indent := minIndent + k - 1
      let (breaks, stop) ← blockBreaksFrom indent
      pure (breaks, indent, stop)
  let (chunks, breaks, lineBreak, stop) ← blockLines folded indent (← get).budget [] breaks "" stop
  let chunks := match chomping with
    | some false => chunks
    | some true => chunks ++ [lineBreak] ++ breaks
    | none => chunks ++ [lineBreak]
  return ⟨.scalar (String.join chunks) false (some (if folded then '>' else '|')), start, stop⟩

end Spreadsheet.Yaml
