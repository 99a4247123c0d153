/-!
Blank characters: the characters that text trimming removes and that separate tokens. They are
the ASCII tab, line feed, vertical tab, form feed and carriage return, the four ASCII information
separators `0x1c`-`0x1f`, the space, and the Unicode characters of category Zs or of bidirectional
class B or S (Unicode 14.0).
-/

namespace Spreadsheet.Text

def blankCodes : List Nat :=
  [0x9, 0xA, 0xB, 0xC, 0xD, 0x1C, 0x1D, 0x1E, 0x1F, 0x20, 0x85, 0xA0, 0x1680, 0x2000, 0x2001, 0x2002, 0x2003, 0x2004, 0x2005, 0x2006, 0x2007, 0x2008, 0x2009, 0x200A, 0x2028, 0x2029, 0x202F, 0x205F, 0x3000]

def isBlank (c : Char) : Bool := blankCodes.contains c.toNat

def trimBlanks (s : String) : String :=
  String.ofList ((s.toList.dropWhile isBlank).reverse.dropWhile isBlank).reverse

example : isBlank ' ' = true ∧ isBlank '\t' = true ∧ isBlank '\n' = true ∧ isBlank '\r' = true := by
  decide
example : isBlank '\x1f' = true ∧ isBlank '\u3000' = true ∧ isBlank 'a' = false := by decide

end Spreadsheet.Text
