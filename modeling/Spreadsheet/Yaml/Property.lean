import Spreadsheet.Yaml.Cursor

/-!
Scanning node properties and directives.

An anchor `&name` or alias `*name` is a run of ASCII letters, digits, `-` and `_`, followed by a
blank or one of `?:,]}%@` and a backquote. A tag is `!` alone, a verbatim `!<uri>`, or a handle
(`!`, `!!` or `!word!`) followed by a suffix of URI characters, where `%XX` escapes spell UTF-8
bytes. A directive is `%YAML major.minor`, `%TAG handle prefix`, or any other name followed by
text that is ignored.
-/

namespace Spreadsheet.Yaml

def isUriChar (c : Char) : Bool :=
  ('0' ≤ c && c ≤ '9') || ('A' ≤ c && c ≤ 'Z') || ('a' ≤ c && c ≤ 'z') ||
    "-;/?:@&=+$,_.!~*'()[]%".contains c

def utf8Tail (b : Nat) : Option (Nat × Nat × Nat) :=
  if 0xC2 ≤ b && b ≤ 0xDF then some (1, 0x80, 0xBF)
  else if b == 0xE0 then some (2, 0xA0, 0xBF)
  else if (0xE1 ≤ b && b ≤ 0xEC) || b == 0xEE || b == 0xEF then some (2, 0x80, 0xBF)
  else if b == 0xED then some (2, 0x80, 0x9F)
  else if b == 0xF0 then some (3, 0x90, 0xBF)
  else if 0xF1 ≤ b && b ≤ 0xF3 then some (3, 0x80, 0xBF)
  else if b == 0xF4 then some (3, 0x80, 0x8F)
  else none

def utf8Failure (bytes : List Nat) : Option (Nat × Nat × String) :=
  go 0 bytes
where
  go (i : Nat) : List Nat → Option (Nat × Nat × String)
    | [] => none
    | b :: rest =>
      if b < 0x80 then go (i + 1) rest
      else match utf8Tail b with
        | none => some (i, b, "invalid start byte")
        | some (need, lo, hi) =>
          let tail := rest.take need
          let fits := (List.range tail.length).all fun k =>
            let c := tail.getD k 0
            if k == 0 then lo ≤ c && c ≤ hi else 0x80 ≤ c && c ≤ 0xBF
          if !fits then some (i, b, "invalid continuation byte")
          else if tail.length < need then some (i, b, "unexpected end of data")
          else go (i + 1 + need) (rest.drop need)
  termination_by bs => bs.length
  decreasing_by all_goals simp only [List.length_drop, List.length_cons]; omega

def decodeUtf8 (bytes : List Nat) : Except String String :=
  match utf8Failure bytes with
  | some (i, b, reason) =>
    .error ("'utf-8' codec can't decode byte 0x" ++ Text.hexPad 2 b ++ " in position " ++ toString i ++
      ": " ++ reason)
  | none => .ok ((String.fromUTF8? (ByteArray.mk (bytes.map Nat.toUInt8).toArray)).getD "")

def scanUriEscapes (name : String) (start : Mark) : ScanM String := do
  let first ← currentMark
  let rec collect : Nat → List Nat → ScanM (List Nat)
    | 0, acc => pure acc
    | fuel + 1, acc => do
      if (← peekChar) != '%' then return acc
      skipChars
      let s ← get
      match [s.peek 0, s.peek 1].find? (!isHexChar ·) with
      | some bad =>
        throw (scanFailure (some ("while scanning an " ++ name)) (some start)
          ("expected URI escape sequence of 2 hexdecimal numbers, but found " ++ quoteChar bad) s.mark)
      | none =>
        let code := (String.ofList [s.peek 0, s.peek 1]).toList.foldl (fun acc c =>
          acc * 16 + (if c ≤ '9' then c.toNat - 48 else if c ≤ 'F' then c.toNat - 55 else c.toNat - 87)) 0
        skipChars 2
        collect fuel (acc ++ [code])
  let codes ← collect (← get).budget []
  match decodeUtf8 codes with
  | .ok s => return s
  | .error msg => throw (scanFailure (some ("while scanning a " ++ name)) (some start) msg first)

def scanTagUri (name : String) (start : Mark) : ScanM String := do
  let rec go : Nat → List String → ScanM (List String)
    | 0, acc => pure acc
    | fuel + 1, acc => do
      let s ← get
      let n := s.spanWhile fun c => isUriChar c && c != '%'
      let acc := if n == 0 then acc else acc ++ [s.ahead n]
      skipChars n
      if (← peekChar) == '%' then
        let decoded ← scanUriEscapes name start
        go fuel (acc ++ [decoded])
      else pure acc
  let chunks ← go (← get).budget []
  if chunks.isEmpty then
    let s ← get
    throw (scanFailure (some ("while parsing a " ++ name)) (some start)
      ("expected URI, but found " ++ quoteChar s.peek) s.mark)
  return String.join chunks

def scanTagHandle (name : String) (start : Mark) : ScanM String := do
  let s ← get
  let context := some ("while scanning a " ++ name)
  if s.peek != '!' then
    throw (scanFailure context (some start) ("expected '!', but found " ++ quoteChar s.peek) s.mark)
  let length ←
    if s.peek 1 != ' ' then do
      let n := 1 + (s.forward 1).spanWhile isWordChar
      if s.peek n != '!' then
        skipChars n
        throw (scanFailure context (some start) ("expected '!', but found " ++ quoteChar (s.peek n))
          (← currentMark))
      pure (n + 1)
    else pure 1
  skipChars length
  return s.ahead length

def hasTagHandle (s : Scanner) : Bool :=
  go 1 s.budget
where
  go (k : Nat) : Nat → Bool
    | 0 => false
    | fuel + 1 =>
      let c := s.peek k
      if isSpaceOrEnd c then false else if c == '!' then true else go (k + 1) fuel

def scanTag : ScanM Token := do
  let start ← currentMark
  let s ← get
  let c := s.peek 1
  let (handle, suffix) ←
    if c == '<' then do
      skipChars 2
      let suffix ← scanTagUri "tag" start
      let d ← peekChar
      if d != '>' then
        throw (scanFailure (some "while parsing a tag") (some start)
          ("expected '>', but found " ++ quoteChar d) (← currentMark))
      skipChars
      pure (none, suffix)
    else if isBlankOrEnd c then do
      skipChars
      pure (none, "!")
    else do
      let handle ← if hasTagHandle s then scanTagHandle "tag" start else do skipChars; pure "!"
      let suffix ← scanTagUri "tag" start
      pure (some handle, suffix)
  let d ← peekChar
  if !isSpaceOrEnd d then
    throw (scanFailure (some "while scanning a tag") (some start)
      ("expected ' ', but found " ++ quoteChar d) (← currentMark))
  return ⟨.tag handle suffix, start, ← currentMark⟩

def scanAnchor (isAlias : Bool) : ScanM Token := do
  let start ← currentMark
  let name := if isAlias then "alias" else "anchor"
  skipChars
  let s ← get
  let n := s.spanWhile isWordChar
  let fail (c : Char) (m : Mark) : LoadError :=
    scanFailure (some ("while scanning an " ++ name)) (some start)
      ("expected alphabetic or numeric character, but found " ++ quoteChar c) m
  if n == 0 then throw (fail s.peek s.mark)
  let value := s.ahead n
  skipChars n
  let s ← get
  if !(isBlankOrEnd s.peek || "?:,]\x7d%@`".contains s.peek) then throw (fail s.peek s.mark)
  return ⟨if isAlias then .alias value else .anchor value, start, s.mark⟩

def scanVersionNumber (start : Mark) : ScanM Nat := do
  let s ← get
  if !s.peek.isDigit then
    throw (scanFailure (some "while scanning a directive") (some start)
      ("expected a digit, but found " ++ quoteChar s.peek) s.mark)
  let ds ← takeWhileChars Char.isDigit
  return ds.toNat!

def scanVersionValue (start : Mark) : ScanM DirectiveValue := do
  discard (takeWhileChars (· == ' '))
  let major ← scanVersionNumber start
  let c ← peekChar
  if c != '.' then
    throw (scanFailure (some "while scanning a directive") (some start)
      ("expected a digit or '.', but found " ++ quoteChar c) (← currentMark))
  skipChars
  let minor ← scanVersionNumber start
  let c ← peekChar
  if !isSpaceOrEnd c then
    throw (scanFailure (some "while scanning a directive") (some start)
      ("expected a digit or ' ', but found " ++ quoteChar c) (← currentMark))
  return .version major minor

def scanTagDirectiveValue (start : Mark) : ScanM DirectiveValue := do
  discard (takeWhileChars (· == ' '))
  let handle ← scanTagHandle "directive" start
  let c ← peekChar
  if c != ' ' then
    throw (scanFailure (some "while scanning a directive") (some start)
      ("expected ' ', but found " ++ quoteChar c) (← currentMark))
  discard (takeWhileChars (· == ' '))
  let pfx ← scanTagUri "directive" start
  let c ← peekChar
  if !isSpaceOrEnd c then
    throw (scanFailure (some "while scanning a directive") (some start)
      ("expected ' ', but found " ++ quoteChar c) (← currentMark))
  return .tagPrefix handle pfx

def scanDirective : ScanM Token := do
  let start ← currentMark
  skipChars
  let context := some "while scanning a directive"
  let s ← get
  let n := s.spanWhile isWordChar
  if n == 0 then
    throw (scanFailure context (some start)
      ("expected alphabetic or numeric character, but found " ++ quoteChar s.peek) s.mark)
  let name := s.ahead n
  skipChars n
  let c ← peekChar
  if !isSpaceOrEnd c then
    throw (scanFailure context (some start)
      ("expected alphabetic or numeric character, but found " ++ quoteChar c) (← currentMark))
  let value ←
    if name == "YAML" then scanVersionValue start
    else if name == "TAG" then scanTagDirectiveValue start
    else pure .other
  let stop ← currentMark
  if value == .other then discard (takeWhileChars (!isBreakOrEnd ·))
  discard (takeWhileChars (· == ' '))
  if (← peekChar) == '#' then discard (takeWhileChars (!isBreakOrEnd ·))
  let c ← peekChar
  if !isBreakOrEnd c then
    throw (scanFailure context (some start)
      ("expected a comment or a line break, but found " ++ quoteChar c) (← currentMark))
  discard scanLineBreak
  return ⟨.directive name value, start, stop⟩

end Spreadsheet.Yaml
