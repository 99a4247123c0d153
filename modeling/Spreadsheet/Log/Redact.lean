import Spreadsheet.Value.Basic

/-!
Redaction of event contexts.

A key whose text contains one of the sensitive words (`password`, `passwd`, `secret`, `token`,
`apikey` or `api_key`, `authorization`, `cookie`, `session`), in any case, has its value replaced by
`[REDACTED]`. Other values are walked: mappings are redacted in turn, lists entry by entry, and a
text longer than 256 characters keeps its first 256 followed by `...[truncated]`.

Case is ignored as a case-insensitive regular expression ignores it: a character matches a letter
when its simple lower case is that letter, and also `ı` matches `i` and `ſ` matches `s`.
-/

namespace Spreadsheet.Log

def redactedText : String := "[REDACTED]"

def truncatedSuffix : String := "...[truncated]"

def maxContextText : Nat := 256

def sensitiveWords : List String :=
  ["password", "passwd", "secret", "token", "apikey", "api_key", "authorization", "cookie", "session"]

/-- Folds a character for matching the sensitive words: ASCII capitals and the characters whose
lower case (or equivalent) is an ASCII letter map to that letter. -/
def foldKeyChar (c : Char) : Char :=
  if 'A' ≤ c && c ≤ 'Z' then Char.ofNat (c.toNat + 32)
  else if c.toNat == 0x130 || c.toNat == 0x131 then 'i'
  else if c.toNat == 0x17F then 's'
  else if c.toNat == 0x212A then 'k'
  else c

def occursIn (w : List Char) : List Char → Bool
  | [] => w.isEmpty
  | c :: rest => (c :: rest).take w.length == w || occursIn w rest

def isSensitiveKey (key : String) : Bool :=
  let folded := key.toList.map foldKeyChar
  sensitiveWords.any fun w => occursIn w.toList folded

def cutText (s : String) : String :=
  if s.length > maxContextText then String.ofList (s.toList.take maxContextText) ++ truncatedSuffix
  else s

mutual
def redactEntries : List (Value × Value) → List (Value × Value)
  | [] => []
  | (k, v) :: rest =>
    (k, if isSensitiveKey k.toPlain then .str redactedText else scrub v) :: redactEntries rest

def scrub : Value → Value
  | .dict entries => .dict (redactEntries entries)
  | .list items => .list (scrubAll items)
  | .str s => .str (cutText s)
  | v => v

def scrubAll : List Value → List Value
  | [] => []
  | v :: rest => scrub v :: scrubAll rest
end

end Spreadsheet.Log
