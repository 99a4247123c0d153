import Spreadsheet.Yaml.Scalar
import Spreadsheet.Yaml.Property

/-!
Turning YAML text into tokens, on demand.

Tokens are produced as the parser asks for them. Indentation opens block collections (a sequence
start at a `-`, a mapping start at a key) and closes them with block ends when a line starts left
of their column. A mapping key needs no `?` when it is a single-line node followed by `:` on the
same line within 1024 characters: such a *simple key* is remembered where it may start, and its
key token (with a mapping start, when it opens a block mapping) is inserted there once the `:`
is found. At the start of a block line a simple key is required, so failing to find its `:` is an
error. Tabs are not blanks between tokens.
-/

namespace Spreadsheet.Yaml

def removeSimpleKey : ScanM Unit := do
  let s ← get
  match s.simpleKeys.lookup s.flowLevel with
  | some key =>
    if key.required then
      throw (scanFailure (some "while scanning a simple key") (some key.mark) "could not find expected ':'"
        s.mark)
    set { s with simpleKeys := s.simpleKeys.filter (·.1 != s.flowLevel) }
  | none => pure ()

def saveSimpleKey : ScanM Unit := do
  let s ← get
  if s.allowSimpleKey then
    let required := s.flowLevel == 0 && s.indent == (s.column : Int)
    removeSimpleKey
    let s ← get
    let key : SimpleKey := { tokenNumber := s.taken + s.queue.length, required, mark := s.mark }
    set { s with simpleKeys := s.simpleKeys ++ [(s.flowLevel, key)] }

/-- Forgets possible simple keys that can no longer be keys: on an earlier line or more than 1024
characters back. -/
def staleSimpleKeys : ScanM Unit := do
  let s ← get
  for (level, key) in s.simpleKeys do
    if key.mark.line != s.line || s.index - key.mark.index > 1024 then
      if key.required then
        throw (scanFailure (some "while scanning a simple key") (some key.mark)
          "could not find expected ':'" s.mark)
      modify fun s => { s with simpleKeys := s.simpleKeys.filter (·.1 != level) }

def nextSimpleKey (s : Scanner) : Option Nat :=
  s.simpleKeys.foldl (fun acc e => match acc with
    | some n => some (min n e.2.tokenNumber)
    | none => some e.2.tokenNumber) none

def unwindIndent (column : Int) : ScanM Unit := do
  let rec go : Nat → ScanM Unit
    | 0 => pure ()
    | fuel + 1 => do
      let s ← get
      if s.indent > column then
        match s.indents with
        | i :: rest =>
          set { s with indent := i, indents := rest, queue := s.queue ++ [(⟨.blockEnd, s.mark, s.mark⟩ : Token)] }
          go fuel
        | [] => pure ()
  if (← get).flowLevel == 0 then go ((← get).indents.length + 1)

def addIndent (column : Int) : ScanM Bool := do
  let s ← get
  if s.indent < column then
    set { s with indents := s.indent :: s.indents, indent := column }
    return true
  else return false

def insertToken (k : Nat) (t : Token) : ScanM Unit :=
  modify fun s => { s with queue := s.queue.take k ++ [t] ++ s.queue.drop k }

def indicatorToken (kind : TokenKind) (width : Nat := 1) : ScanM Unit := do
  let start ← currentMark
  skipChars width
  pushToken ⟨kind, start, ← currentMark⟩

/-- Skips blanks, comments and line ends up to the next token; a line end in block context
allows a simple key. -/
def skipToToken : ScanM Unit := do
  let s ← get
  if s.index == 0 && s.peek == '\uFEFF' then skipChars
  let rec go : Nat → ScanM Unit
    | 0 => pure ()
    | fuel + 1 => do
      discard (takeWhileChars (· == ' '))
      if (← peekChar) == '#' then discard (takeWhileChars (!isBreakOrEnd ·))
      let b ← scanLineBreak
      if !b.isEmpty then
        if (← get).flowLevel == 0 then setAllowSimpleKey true
        go fuel
  go (← get).budget

def fetchStreamEnd : ScanM Unit := do
  unwindIndent (-1)
  removeSimpleKey
  modify fun s => { s with allowSimpleKey := false, simpleKeys := [] }
  let m ← currentMark
  pushToken ⟨.streamEnd, m, m⟩
  modify fun s => { s with done := true }

def fetchDocumentLevel (scan : ScanM Unit) : ScanM Unit := do
  unwindIndent (-1)
  removeSimpleKey
  setAllowSimpleKey false
  scan

def fetchFlowStart (kind : TokenKind) : ScanM Unit := do
  saveSimpleKey
  modify fun s => { s with flowLevel := s.flowLevel + 1 }
  setAllowSimpleKey true
  indicatorToken kind

def fetchFlowEnd (kind : TokenKind) : ScanM Unit := do
  removeSimpleKey
  modify fun s => { s with flowLevel := s.flowLevel - 1 }
  setAllowSimpleKey false
  indicatorToken kind

def fetchFlowEntry : ScanM Unit := do
  setAllowSimpleKey true
  removeSimpleKey
  indicatorToken .flowEntry

def fetchBlockEntry : ScanM Unit := do
  let s ← get
  if s.flowLevel == 0 then
    if !s.allowSimpleKey then
      throw (scanFailure none none "sequence entries are not allowed here" s.mark)
    if ← addIndent s.column then pushToken ⟨.blockSequenceStart, s.mark, s.mark⟩
  setAllowSimpleKey true
  removeSimpleKey
  indicatorToken .blockEntry

def fetchKey : ScanM Unit := do
  let s ← get
  if s.flowLevel == 0 then
    if !s.allowSimpleKey then
      throw (scanFailure none none "mapping keys are not allowed here" s.mark)
    if ← addIndent s.column then pushToken ⟨.blockMappingStart, s.mark, s.mark⟩
  setAllowSimpleKey (s.flowLevel == 0)
  removeSimpleKey
  indicatorToken .key

def fetchValue : ScanM Unit := do
  let s ← get
  match s.simpleKeys.lookup s.flowLevel with
  | some key =>
    set { s with simpleKeys := s.simpleKeys.filter (·.1 != s.flowLevel) }
    let k := key.tokenNumber - s.taken
    insertToken k ⟨.key, key.mark, key.mark⟩
    if s.flowLevel == 0 then
      if ← addIndent key.mark.column then insertToken k ⟨.blockMappingStart, key.mark, key.mark⟩
    setAllowSimpleKey false
  | none =>
    if s.flowLevel == 0 then
      if !s.allowSimpleKey then
        throw (scanFailure none none "mapping values are not allowed here" s.mark)
      if ← addIndent s.column then pushToken ⟨.blockMappingStart, s.mark, s.mark⟩
    setAllowSimpleKey (s.flowLevel == 0)
    removeSimpleKey
  indicatorToken .value

def fetchKeyCandidate (scan : ScanM Token) : ScanM Unit := do
  saveSimpleKey
  setAllowSimpleKey false
  pushToken (← scan)

def fetchBlockScalar (folded : Bool) : ScanM Unit := do
  setAllowSimpleKey true
  removeSimpleKey
  pushToken (← scanBlockScalar folded)

def startsPlain (s : Scanner) : Bool :=
  let c := s.peek
  !(isBlankOrEnd c || "-?:,[]\x7b\x7d#&*!|>'\"%@`".contains c) ||
    (!isBlankOrEnd (s.peek 1) && (c == '-' || (s.flowLevel == 0 && (c == '?' || c == ':'))))

def fetchMoreTokens : ScanM Unit := do
  skipToToken
  staleSimpleKeys
  unwindIndent (← get).column
  let s ← get
  let c := s.peek
  let atLineStart := s.column == 0
  let blankNext := isBlankOrEnd (s.peek 1)
  let inFlow := s.flowLevel != 0
  if s.index ≥ s.text.size then fetchStreamEnd
  else if c == '%' && atLineStart then
    fetchDocumentLevel do pushToken (← scanDirective)
  else if c == '-' && atLineStart && s.ahead 3 == "---" && isBlankOrEnd (s.peek 3) then
    fetchDocumentLevel (indicatorToken .documentStart 3)
  else if c == '.' && atLineStart && s.ahead 3 == "..." && isBlankOrEnd (s.peek 3) then
    fetchDocumentLevel (indicatorToken .documentEnd 3)
  else if c == '[' then fetchFlowStart .flowSequenceStart
  else if c == '\x7b' then fetchFlowStart .flowMappingStart
  else if c == ']' then fetchFlowEnd .flowSequenceEnd
  else if c == '\x7d' then fetchFlowEnd .flowMappingEnd
  else if c == ',' then fetchFlowEntry
  else if c == '-' && blankNext then fetchBlockEntry
  else if c == '?' && (inFlow || blankNext) then fetchKey
  else if c == ':' && (inFlow || blankNext) then fetchValue
  else if c == '*' then fetchKeyCandidate (scanAnchor true)
  else if c == '&' then fetchKeyCandidate (scanAnchor false)
  else if c == '!' then fetchKeyCandidate scanTag
  else if c == '|' && !inFlow then fetchBlockScalar false
  else if c == '>' && !inFlow then fetchBlockScalar true
  else if c == '\'' then fetchKeyCandidate (scanQuoted false)
  else if c == '"' then fetchKeyCandidate (scanQuoted true)
  else if startsPlain s then fetchKeyCandidate scanPlain
  else
    throw (scanFailure (some "while scanning for the next token") none
      ("found character " ++ quoteChar c ++ " that cannot start any token") s.mark)

/-- Whether more tokens must be scanned before the next one can be handed out: none is pending,
or the first pending one may still turn out to follow an inserted key. -/
def needMoreTokens : ScanM Bool := do
  let s ← get
  if s.done then return false
  if s.queue.isEmpty then return true
  staleSimpleKeys
  let s ← get
  return nextSimpleKey s == some s.taken

def fillTokens : ScanM Unit := do
  let rec go : Nat → ScanM Unit
    | 0 => pure ()
    | fuel + 1 => do
      if ← needMoreTokens then
        fetchMoreTokens
        go fuel
  go (← get).budget

def peekToken : ScanM (Option Token) := do
  fillTokens
  return (← get).queue.head?

def nextToken : ScanM (Option Token) := do
  fillTokens
  let s ← get
  match s.queue with
  | t :: rest =>
    set { s with queue := rest, taken := s.taken + 1 }
    return some t
  | [] => return none

def Scanner.start (text : Array Char) : Scanner :=
  { text, queue := [⟨.streamStart, ⟨0, 0, 0⟩, ⟨0, 0, 0⟩⟩] }

end Spreadsheet.Yaml
