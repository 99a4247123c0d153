import Spreadsheet.Number.Literal

/-!
Tokens of formula bodies.

Scanning reads, at each position, the one terminal that can start with the character there:
a number literal (digits of any script), a string literal `"…"` whose backslash escapes the next
character (the closing quote may be missing), an identifier `[A-Za-z$][A-Za-z0-9_$]*`, an operator
(`<=`, `<>`, `>=` before the one-character ones), one of `& ( ) , ; :`, or a run of blanks, which is
skipped. Any other character is a lexeme of its own that tokens leave out. The end token stands at
the end of the last lexeme, blanks not counted.
-/

namespace Spreadsheet.Formula

inductive TokenKind where
  | number | string | bool | ident | lparen | rparen | comma | colon | semicolon | op | ampersand | eof
  deriving Repr, BEq, DecidableEq, Inhabited

def TokenKind.name : TokenKind → String
  | .number => "NUMBER"
  | .string => "STRING"
  | .bool => "BOOL"
  | .ident => "IDENT"
  | .lparen => "LPAREN"
  | .rparen => "RPAREN"
  | .comma => "COMMA"
  | .colon => "COLON"
  | .semicolon => "SEMICOLON"
  | .op => "OP"
  | .ampersand => "AMPERSAND"
  | .eof => "EOF"

structure Token where
  kind : TokenKind
  text : String
  start : Nat
  deriving Repr, BEq, Inhabited

inductive LexemeKind where
  | number | string | ident | op | ampersand | lparen | rparen | comma | semicolon | colon
  | stray
  deriving Repr, BEq, DecidableEq, Inhabited

structure Lexeme where
  kind : LexemeKind
  chars : List Char
  start : Nat
  deriving Repr, BEq, Inhabited

def Lexeme.stop (l : Lexeme) : Nat := l.start + l.chars.length

def isIdentStart (c : Char) : Bool := c.isAlpha || c == '$'

def isIdentChar (c : Char) : Bool := c.isAlpha || c.isDigit || c == '_' || c == '$'

def isOpChar (c : Char) : Bool := "-+*/^%=<>".contains c

/-- The length of a string literal's body after the opening quote: escapes pairs, other
characters but a quote, then the closing quote if there is one. A backslash at the very end is
not part of it. -/
def stringBodyLength : List Char → Nat
  | [] => 0
  | '"' :: _ => 1
  | '\\' :: [] => 0
  | '\\' :: _ :: rest => 2 + stringBodyLength rest
  | _ :: rest => 1 + stringBodyLength rest

/-- The lexeme at the start of `c :: rest`: its kind (`none` for a run of blanks) and its length
less one. -/
def lexemeAt (c : Char) (rest : List Char) : Option LexemeKind × Nat :=
  if Text.isBlank c then (none, (rest.takeWhile Text.isBlank).length)
  else if c == '"' then (some .string, stringBodyLength rest)
  else if isIdentStart c then (some .ident, (rest.takeWhile isIdentChar).length)
  else if c == '&' then (some .ampersand, 0)
  else if c == '(' then (some .lparen, 0)
  else if c == ')' then (some .rparen, 0)
  else if c == ',' then (some .comma, 0)
  else if c == ';' then (some .semicolon, 0)
  else if c == ':' then (some .colon, 0)
  else if isOpChar c then
    match c, rest with
    | '<', '=' :: _ | '<', '>' :: _ | '>', '=' :: _ => (some .op, 1)
    | _, _ => (some .op, 0)
  else
    match Number.Literal.scan? (c :: rest) with
    | some l => (some .number, l.length - 1)
    | none => (some .stray, 0)

def lexemesFrom (cs : List Char) (pos : Nat) : List Lexeme :=
  match cs with
  | [] => []
  | c :: rest =>
    let (kind, n) := lexemeAt c rest
    let here := (c :: rest).take (n + 1)
    let later := lexemesFrom ((c :: rest).drop (n + 1)) (pos + n + 1)
    match kind with
    | some k => ⟨k, here, pos⟩ :: later
    | none => later
termination_by cs.length
decreasing_by simp only [List.length_drop, List.length_cons]; omega

def lexemes (body : String) : List Lexeme := lexemesFrom body.toList 0

/-- The text of a string literal: the characters after the opening quote up to the closing one,
each backslash pair standing for its second character. -/
def unquote (cs : List Char) : List Char :=
  let rec go : List Char → List Char
    | [] => []
    | '\\' :: c :: rest => c :: go rest
    | '"' :: _ => []
    | c :: rest => c :: go rest
  go (cs.drop 1)

def Lexeme.toToken? (l : Lexeme) : Option Token :=
  let text := String.ofList l.chars
  let tok (k : TokenKind) (t : String) : Option Token := some ⟨k, t, l.start⟩
  match l.kind with
  | .number => tok .number text
  | .string => tok .string (String.ofList (unquote l.chars))
  | .ident =>
    let word := (String.ofList (l.chars.filter (· != '$'))).toUpper
    if word == "TRUE" || word == "FALSE" then tok .bool word else tok .ident text
  | .op => tok .op text
  | .ampersand => tok .ampersand text
  | .lparen => tok .lparen text
  | .rparen => tok .rparen text
  | .comma => tok .comma text
  | .semicolon => tok .semicolon text
  | .colon => tok .colon text
  | .stray => none

def tokenize (body : String) : List Token :=
  let ls := lexemes body
  let stop := match ls.getLast? with
    | some l => l.stop
    | none => 0
  ls.filterMap Lexeme.toToken? ++ [⟨.eof, "", stop⟩]

end Spreadsheet.Formula
