/-!
Lines of text.

A line ends at a line feed, a carriage return, a carriage return followed by a line feed (one
break), a vertical tab, a form feed, one of the information separators `0x1c`-`0x1e`, a next-line
character `U+0085`, or a line or paragraph separator `U+2028`, `U+2029`. The breaks are not part
of the lines, and a break at the very end does not start another line.
-/

namespace Spreadsheet.Text

def lineBreakCodes : List Nat :=
  [0x0A, 0x0B, 0x0C, 0x0D, 0x1C, 0x1D, 0x1E, 0x85, 0x2028, 0x2029]

def isLineBreak (c : Char) : Bool := lineBreakCodes.contains c.toNat

def splitLines (s : String) : List String :=
  go s.toList [] []
where
  go : List Char → List Char → List String → List String
    | [], line, done =>
      if line.isEmpty then done.reverse else (String.ofList line.reverse :: done).reverse
    | '\r' :: '\n' :: rest, line, done => go rest [] (String.ofList line.reverse :: done)
    | c :: rest, line, done =>
      if isLineBreak c then go rest [] (String.ofList line.reverse :: done)
      else go rest (c :: line) done

example : splitLines "a\r\nb\n\nc\n" = ["a", "b", "", "c"] := by decide
example : splitLines "" = [] ∧ splitLines "\n" = [""] ∧ splitLines "a\x0bb" = ["a", "b"] := by decide

end Spreadsheet.Text
