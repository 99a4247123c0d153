import Spreadsheet.Proofs.Descent
import Spreadsheet.Proofs.StringLiterals
import Spreadsheet.Proofs.NumberText

/-!
Formula text written from expression trees.

The printer writes a tree as tokens (`Expr.pieces`): literals, references, names and calls as
themselves, an operator between its operands, and parentheses around a child exactly where the
precedence ladder and left associativity need them. A string is quoted with its backslashes and
quotes escaped, a number written in its shortest form. The trees it writes faithfully
(`Expr.printable`) hold numbers with no sign, canonical keys, names that are neither references nor
truth values, upper-case function names, and no call argument that starts with a range without
being one.

The text of such a tree scans back to its tokens, kind and text, whatever closing text follows it
(`operandText_pieces`): a word ends before a character that cannot continue it, a literal before
one that is no digit, point or exponent mark, and `<` or `>` before a character that would make a
longer operator of it, which the text of no operand starts with.
-/

set_option autoImplicit false

namespace Spreadsheet.Formula

open Number

/-- How tightly an operator binds, loosest first: comparisons, `&`, `+ -`, `* /`, `^`. -/
def BinOp.level : BinOp → Nat
  | .eq | .neq | .lt | .gt | .lte | .gte => 0
  | .concat => 1
  | .add | .sub => 2
  | .mul | .div => 3
  | .pow => 4

def BinOp.symbol : BinOp → String
  | .eq => "=" | .neq => "<>" | .lt => "<" | .gt => ">" | .lte => "<=" | .gte => ">="
  | .concat => "&" | .add => "+" | .sub => "-" | .mul => "*" | .div => "/" | .pow => "^"

def BinOp.kind : BinOp → TokenKind
  | .concat => .ampersand
  | _ => .op

def Expr.level : Expr → Nat
  | .binary op _ _ => op.level
  | .unary .percent _ => 6
  | .unary _ _ => 5
  | _ => 7

def parenthesize (wrap : Bool) (ps : List (TokenKind × String)) : List (TokenKind × String) :=
  if wrap then (.lparen, "(") :: ps ++ [(.rparen, ")")] else ps

mutual

/-- The tokens a tree is written as, kind and text. A left operand is put in parentheses when it
binds more loosely than its operator, a right operand also when it binds as tightly. -/
def Expr.pieces : Expr → List (TokenKind × String)
  | .number f => [(.number, Float.shortText f)]
  | .string s => [(.string, s)]
  | .boolean b => [(.bool, if b then "TRUE" else "FALSE")]
  | .cell key => [(.ident, key)]
  | .range start stop => [(.ident, start), (.colon, ":"), (.ident, stop)]
  | .name text => [(.ident, text)]
  | .blank => []
  | .call fn args => (.ident, fn) :: (.lparen, "(") :: Expr.argumentPieces args ++ [(.rparen, ")")]
  | .binary op l r =>
    parenthesize (l.level < op.level) l.pieces ++
      (op.kind, op.symbol) :: parenthesize (r.level ≤ op.level) r.pieces
  | .unary .percent x => parenthesize (x.level < 6) x.pieces ++ [(.op, "%")]
  | .unary .neg x => (.op, "-") :: parenthesize (x.level < 5) x.pieces
  | .unary .pos x => (.op, "+") :: parenthesize (x.level < 5) x.pieces

def Expr.argumentPieces : List Expr → List (TokenKind × String)
  | [] => []
  | [a] => a.pieces
  | a :: b :: rest => a.pieces ++ (.comma, ",") :: Expr.argumentPieces (b :: rest)

end

def writePiece : TokenKind × String → List Char
  | (.string, s) => '"' :: escapeLiteral s.toList ++ ['"']
  | (_, s) => s.toList

def Expr.render (e : Expr) : String := String.ofList (e.pieces.flatMap writePiece)

/-- Whether a text is the key of the position it names: upper-case column letters, then the row
number without leading zeros. -/
def isCanonicalKey (k : String) : Bool :=
  match Ref.parse? k with
  | some r => r.key == k
  | none => false

def isIdentifier (s : String) : Bool :=
  match s.toList with
  | c :: cs => isIdentStart c && cs.all isIdentChar
  | [] => false

def spellsTruth (s : String) : Bool :=
  let word := (String.ofList (s.toList.filter (· != '$'))).toUpper
  word == "TRUE" || word == "FALSE"

/-- Whether the text of a tree starts with a range: the tree is one, or its leftmost operand is
written without parentheses and starts with one. -/
def Expr.leadsWithRange : Expr → Bool
  | .range .. => true
  | .binary op l _ => op.level ≤ l.level && l.leadsWithRange
  | .unary .percent x => 6 ≤ x.level && x.leadsWithRange
  | _ => false

mutual

/-- Whether the printer writes the tree faithfully. -/
def Expr.printable : Expr → Bool
  | .number f =>
    match Binary.ofFloat f with
    | .finite neg _ _ => !neg
    | _ => false
  | .string _ | .boolean _ => true
  | .cell key => isCanonicalKey key
  | .range start stop => isCanonicalKey start && isCanonicalKey stop
  | .name text => isIdentifier text && (Ref.parse? text).isNone && !spellsTruth text
  | .blank => false
  | .call fn args =>
    isIdentifier fn && fn.toList.all (fun c => !c.isLower) && !spellsTruth fn &&
      Expr.printableArguments args
  | .binary _ l r => l.printable && r.printable
  | .unary _ x => x.printable

def Expr.printableArguments : List Expr → Bool
  | [] => true
  | a :: rest =>
    a.printable && ((a matches .range ..) || !a.leadsWithRange) && Expr.printableArguments rest

end

def Token.shape (t : Token) : TokenKind × String := (t.kind, t.text)

def shapesOf (cs : List Char) : List (TokenKind × String) :=
  (lexemesFrom cs 0).filterMap fun l => l.toToken?.map Token.shape

theorem shapesOf_nil : shapesOf [] = [] := by
  simp [shapesOf, lexemesFrom]

theorem shapes_shift (k : Nat) (ls : List Lexeme) :
    (ls.map (Lexeme.shift k)).filterMap (fun l => l.toToken?.map Token.shape) =
      ls.filterMap fun l => l.toToken?.map Token.shape := by
  simp only [List.filterMap_map, Function.comp_def, toToken?_shift, Option.map_map]
  rfl

theorem shapesOf_lexeme {x : Char} {xs rest : List Char} {k : LexemeKind}
    (scanned : lexemeAt x (xs ++ rest) = (some k, xs.length)) :
    shapesOf (x :: xs ++ rest) =
      ((Lexeme.toToken? ⟨k, x :: xs, 0⟩).map Token.shape).toList ++ shapesOf rest := by
  have later : lexemesFrom rest (0 + xs.length + 1) = (lexemesFrom rest 0).map (Lexeme.shift (xs.length + 1)) := by
    rw [Nat.add_assoc]
    exact lexemesFrom_shift rest 0 _
  unfold shapesOf
  rw [List.cons_append, lexemesFrom.eq_2, scanned]
  simp only [List.take_succ_cons, List.take_left, List.drop_succ_cons, List.drop_left, later,
    List.filterMap_cons, shapes_shift]
  cases Lexeme.toToken? ⟨k, x :: xs, 0⟩ <;> rfl

theorem shapesOf_token {x : Char} {xs rest : List Char} {k : LexemeKind} {t : TokenKind} {s : String}
    (chars : writePiece (t, s) = x :: xs) (scanned : lexemeAt x (xs ++ rest) = (some k, xs.length))
    (token : Lexeme.toToken? ⟨k, x :: xs, 0⟩ = some ⟨t, s, 0⟩) :
    shapesOf (writePiece (t, s) ++ rest) = (t, s) :: shapesOf rest := by
  rw [chars, shapesOf_lexeme scanned, token]
  rfl

theorem isBlank_of_isIdentStart {c : Char} (start : isIdentStart c) : Text.isBlank c = false := by
  by_contra blank
  obtain ⟨n, listed, rfl⟩ := blank_code (Bool.not_eq_false _ ▸ blank)
  have : ∀ n ∈ Text.blankCodes, isIdentStart (Char.ofNat n) = false := by decide
  simp [this n listed] at start

theorem isIdentifier_iff {w : String} :
    isIdentifier w ↔ ∃ x xs, w.toList = x :: xs ∧ isIdentStart x ∧ ∀ c ∈ xs, isIdentChar c := by
  unfold isIdentifier
  split
  next x xs chars => simp [chars, List.all_eq_true]
  next empty => simp [empty]

theorem lexemeAt_word {x : Char} {xs rest : List Char} (start : isIdentStart x)
    (chars : ∀ c ∈ xs, isIdentChar c) (stop : ∀ c, rest.head? = some c → isIdentChar c = false) :
    lexemeAt x (xs ++ rest) = (some .ident, xs.length) := by
  have quote : x ≠ '"' := by
    rintro rfl
    exact absurd start (by decide)
  have taken : (xs ++ rest).takeWhile isIdentChar = xs := by
    rw [List.takeWhile_append_of_pos chars, takeWhile_of_head stop, List.append_nil]
  simp [lexemeAt, isBlank_of_isIdentStart start, quote, start, taken]

theorem toToken?_word (w : String) (start : Nat) :
    Lexeme.toToken? ⟨.ident, w.toList, start⟩ =
      some (if spellsTruth w then ⟨.bool, (String.ofList (w.toList.filter (· != '$'))).toUpper, start⟩
        else ⟨.ident, w, start⟩) := by
  by_cases truth : spellsTruth w
  · simp only [spellsTruth] at truth
    simp [Lexeme.toToken?, spellsTruth, truth]
  · simp only [spellsTruth] at truth
    simp [Lexeme.toToken?, spellsTruth, truth]

theorem shapesOf_word {w : String} {rest : List Char} (word : isIdentifier w)
    (stop : ∀ c, rest.head? = some c → isIdentChar c = false) :
    shapesOf (w.toList ++ rest) =
      (if spellsTruth w then (.bool, (String.ofList (w.toList.filter (· != '$'))).toUpper) else (.ident, w)) ::
        shapesOf rest := by
  obtain ⟨x, xs, chars, start, inner⟩ := isIdentifier_iff.1 word
  rw [chars, shapesOf_lexeme (lexemeAt_word start inner stop), ← chars, toToken?_word]
  split <;> rfl

theorem isOpChar_iff (c : Char) :
    isOpChar c = true ↔
      c = '-' ∨ c = '+' ∨ c = '*' ∨ c = '/' ∨ c = '^' ∨ c = '%' ∨ c = '=' ∨ c = '<' ∨ c = '>' := by
  simp [isOpChar, String.contains]

def markChars : List Char := ['"', '$', '&', '(', ')', ',', ';', ':', '-', '+', '*', '/', '^', '%', '=', '<', '>']

theorem lexemeAt_of_scan {x : Char} {rest : List Char} {l : Number.Literal}
    (scan : Literal.scan? (x :: rest) = some l) : lexemeAt x rest = (some .number, l.length - 1) := by
  obtain ⟨y, ys, same, head⟩ := Literal.scan?_head scan
  obtain ⟨rfl, -⟩ := List.cons.inj same
  have unmarked : x ∉ markChars := by
    rcases head with digit | rfl
    · intro marked
      have : ∀ c ∈ markChars, Text.isDigit c = false := by
        simp only [markChars, List.forall_mem_cons, List.not_mem_nil, false_implies, implies_true, and_true]
        decide
      simp [this x marked] at digit
    · decide
  have blank : Text.isBlank x = false := by
    rcases head with digit | rfl
    · exact not_isBlank_of_isDigit digit
    · decide
  have alpha : x.isAlpha = false := by
    rcases head with digit | rfl
    · simpa using Spreadsheet.text_isDigit_not_isAlpha digit
    · decide
  simp only [markChars, List.mem_cons, List.not_mem_nil, or_false, not_or] at unmarked
  obtain ⟨quote, dollar, amp, lp, rp, comma, semi, colon, minus, plus, star, slash, caret, pct, eq, lt, gt⟩ :=
    unmarked
  simp [lexemeAt, isOpChar_iff, isIdentStart, blank, alpha, quote, dollar, amp, lp, rp, comma, semi, colon,
    minus, plus, star, slash, caret, pct, eq, lt, gt, scan]

theorem lexemeAt_literal {x : Char} {xs rest : List Char} {l : Number.Literal}
    (scan : Literal.scan? (x :: xs) = some l) (whole : l.length = xs.length + 1)
    (stop : ∀ c, rest.head? = some c → Text.isDigit c = false ∧ c ≠ '.' ∧ c ≠ 'e' ∧ c ≠ 'E') :
    lexemeAt x (xs ++ rest) = (some .number, xs.length) := by
  have extended : Literal.scan? (x :: (xs ++ rest)) = some l := by
    rw [← List.cons_append, Literal.scan?_append_of_whole scan (by simpa using whole) stop, scan]
  rw [lexemeAt_of_scan extended, whole, Nat.add_sub_cancel]

theorem shapesOf_shortText {f : Float} {m : Nat} {e : Int} (parts : Binary.ofFloat f = .finite false m e)
    {rest : List Char} (stop : ∀ c, rest.head? = some c → Text.isDigit c = false ∧ c ≠ '.' ∧ c ≠ 'e' ∧ c ≠ 'E') :
    shapesOf (writePiece (.number, Float.shortText f) ++ rest) = (.number, Float.shortText f) :: shapesOf rest := by
  obtain ⟨lit, l, chars, scan, whole, -⟩ := shortText_literal parts
  rw [if_neg Bool.false_ne_true, List.nil_append] at chars
  obtain ⟨x, xs, rfl, -⟩ := Literal.scan?_head scan
  refine shapesOf_token chars (lexemeAt_literal scan (by simpa using whole) stop) ?_
  simp [Lexeme.toToken?, ← chars]

theorem shapesOf_string (s : String) (rest : List Char) :
    shapesOf (writePiece (.string, s) ++ rest) = (.string, s) :: shapesOf rest := by
  have scanned : lexemeAt '"' ((escapeLiteral s.toList ++ ['"']) ++ rest) =
      (some .string, (escapeLiteral s.toList ++ ['"']).length) := by
    rw [lexemeAt_quote, List.append_assoc, List.singleton_append, stringBodyLength_escapeLiteral,
      List.length_append, List.length_singleton]
  rw [writePiece, List.cons_append, shapesOf_lexeme scanned]
  simp [Lexeme.toToken?, unquote, unquote_escapeLiteral, Token.shape]

def marks : List (TokenKind × String) :=
  [(.ampersand, "&"), (.lparen, "("), (.rparen, ")"), (.comma, ","), (.colon, ":"), (.op, "="), (.op, "<>"),
    (.op, "<="), (.op, ">="), (.op, "+"), (.op, "-"), (.op, "*"), (.op, "/"), (.op, "^"), (.op, "%")]

theorem shapesOf_mark {p : TokenKind × String} (mark : p ∈ marks) (rest : List Char) :
    shapesOf (writePiece p ++ rest) = p :: shapesOf rest := by
  simp only [marks, List.mem_cons, List.not_mem_nil, or_false] at mark
  rcases mark with rfl | rfl | rfl | rfl | rfl | rfl | rfl | rfl | rfl | rfl | rfl | rfl | rfl | rfl | rfl <;>
    exact shapesOf_token (by simp [writePiece]; exact ⟨rfl, rfl⟩) (by simp +decide [lexemeAt, isOpChar_iff]; rfl)
      (by rfl)

theorem shapesOf_angle {p : TokenKind × String} (angle : p = (.op, "<") ∨ p = (.op, ">")) {rest : List Char}
    (opens : ∀ c, rest.head? = some c → c ≠ '=' ∧ c ≠ '>') :
    shapesOf (writePiece p ++ rest) = p :: shapesOf rest := by
  rcases angle with rfl | rfl <;> refine shapesOf_token (k := .op) (by simp [writePiece]; exact ⟨rfl, rfl⟩) ?_ (by rfl) <;>
    cases rest with
    | nil => simp +decide [lexemeAt, isOpChar_iff]
    | cons c r =>
      obtain ⟨eq, gt⟩ := opens c rfl
      simp +decide only [lexemeAt, isOpChar_iff, if_false]
      split <;> simp_all

theorem shapesOf_operator (op : BinOp) {rest : List Char} (opens : ∀ c, rest.head? = some c → c ≠ '=' ∧ c ≠ '>') :
    shapesOf (writePiece (op.kind, op.symbol) ++ rest) = (op.kind, op.symbol) :: shapesOf rest := by
  cases op
  case lt => exact shapesOf_angle (.inl rfl) opens
  case gt => exact shapesOf_angle (.inr rfl) opens
  all_goals exact shapesOf_mark (by simp [marks, BinOp.kind, BinOp.symbol]) rest

theorem char_toUpper_of_isDigit {c : Char} (digit : c.isDigit) : c.toUpper = c := by
  have bounds := Char.isDigit_iff_toNat.1 digit
  have zero : '0'.toNat = 48 := rfl
  have nine : '9'.toNat = 57 := rfl
  unfold Char.toUpper
  rw [dif_neg (by rw [char_lower_test_iff]; omega)]

theorem spellsTruth_of_digit {w : String} {d : Char} (mem : d ∈ w.toList) (digit : d.isDigit) :
    spellsTruth w = false := by
  have kept : d ∈ w.toList.filter (· != '$') :=
    List.mem_filter.2 ⟨mem, bne_iff_ne.2 (by rintro rfl; exact absurd digit (by decide))⟩
  have upper : d ∈ (String.ofList (w.toList.filter (· != '$'))).toUpper.toList := by
    rw [string_toUpper_ofList, String.toList_ofList]
    exact List.mem_map.2 ⟨d, kept, char_toUpper_of_isDigit digit⟩
  have letters : ∀ c ∈ "TRUE".toList ++ "FALSE".toList, c.isDigit = false := by simp
  cases truth : spellsTruth w
  · rfl
  · simp only [spellsTruth, Bool.or_eq_true, beq_iff_eq] at truth
    rcases truth with word | word <;> rw [word] at upper
    · simp [letters d (List.mem_append_left _ upper)] at digit
    · simp [letters d (List.mem_append_right _ upper)] at digit

theorem isCanonicalKey_chars {k : String} (canonical : isCanonicalKey k) :
    ∃ L D, k.toList = L ++ D ∧ L ≠ [] ∧ D ≠ [] ∧ (∀ c ∈ L, c.isAlpha) ∧ ∀ c ∈ D, c.isDigit := by
  unfold isCanonicalKey at canonical
  split at canonical
  next r parsed =>
    have key : r.key = k := by simpa using canonical
    obtain ⟨row, col⟩ := ref_parse_bounds parsed
    refine ⟨(Column.letters r.col).toList, (toString (r.row + 1)).toList, ?_, column_letters_ne_nil col,
      int_toString_ne_nil (by omega), column_letters_alpha r.col, fun c mem => ?_⟩
    · rw [← key, Ref.key_eq_ofList, String.toList_ofList]
    · rw [int_toString_toList (by omega)] at mem
      exact Nat.isDigit_of_mem_toDigits (by decide) (by decide) mem
  next => cases canonical

theorem isIdentifier_of_isCanonicalKey {k : String} (canonical : isCanonicalKey k) : isIdentifier k := by
  obtain ⟨L, D, chars, letters, -, alpha, digits⟩ := isCanonicalKey_chars canonical
  obtain ⟨x, xs, rfl⟩ := List.exists_cons_of_ne_nil letters
  refine isIdentifier_iff.2 ⟨x, xs ++ D, chars, by simp [isIdentStart, alpha x (by simp)], fun c mem => ?_⟩
  rcases List.mem_append.1 mem with letter | digit
  · simp [isIdentChar, alpha c (List.mem_cons_of_mem _ letter)]
  · simp [isIdentChar, digits c digit]

theorem spellsTruth_of_isCanonicalKey {k : String} (canonical : isCanonicalKey k) : spellsTruth k = false := by
  obtain ⟨L, D, chars, -, digits, -, numeric⟩ := isCanonicalKey_chars canonical
  obtain ⟨d, D', rfl⟩ := List.exists_cons_of_ne_nil digits
  exact spellsTruth_of_digit (by simp [chars]) (numeric d (by simp))

def closingChars : List Char := [')', ',', '%', '&', '=', '<', '>', '+', '-', '*', '/', '^']

def Closing (rest : List Char) : Prop := ∀ c ∈ rest.head?, c ∈ closingChars

/-- Tokens whose text scans back to them whatever closing text follows. -/
def ScansAs (ps : List (TokenKind × String)) : Prop :=
  ∀ rest, Closing rest → shapesOf (ps.flatMap writePiece ++ rest) = ps ++ shapesOf rest

/-- The tokens of an operand: their text scans back to them whatever closing text follows, and
starts with a character that is neither `=` nor `>`, so it never lengthens a `<` or `>` before it. -/
structure OperandText (ps : List (TokenKind × String)) : Prop where
  scans : ScansAs ps
  opens : ∃ c cs, ps.flatMap writePiece = c :: cs ∧ c ≠ '=' ∧ c ≠ '>'

theorem head_append {P : Char → Prop} {xs ys : List Char} (first : ∀ c ∈ xs.head?, P c)
    (second : ∀ c ∈ ys.head?, P c) : ∀ c ∈ (xs ++ ys).head?, P c := by
  cases xs with
  | nil => simpa using second
  | cons x xs => simpa using first

theorem scansAs_nil : ScansAs [] := fun rest _ => by simp

theorem ScansAs.append {ps qs : List (TokenKind × String)} (first : ScansAs ps) (second : ScansAs qs)
    (between : Closing (qs.flatMap writePiece)) : ScansAs (ps ++ qs) := by
  intro rest closing
  rw [List.flatMap_append, List.append_assoc, first _ (head_append between closing), second rest closing,
    List.append_assoc]

theorem ScansAs.mark_cons {p : TokenKind × String} {ps : List (TokenKind × String)} (mark : p ∈ marks)
    (scans : ScansAs ps) : ScansAs (p :: ps) := by
  intro rest closing
  rw [List.flatMap_cons, List.append_assoc, shapesOf_mark mark, scans rest closing, List.cons_append]

theorem ScansAs.word_cons {w : String} {ps : List (TokenKind × String)} (word : isIdentifier w)
    (plain : spellsTruth w = false) (scans : ScansAs ps)
    (next : ∀ c ∈ (ps.flatMap writePiece).head?, isIdentChar c = false) : ScansAs ((.ident, w) :: ps) := by
  intro rest closing
  have closers : ∀ c ∈ closingChars, isIdentChar c = false := by
    simp only [closingChars, List.forall_mem_cons, List.not_mem_nil, false_implies, implies_true, and_true]
    decide
  have ends := head_append next fun c mem => closers c (closing c mem)
  have chars : writePiece (.ident, w) = w.toList := rfl
  rw [List.flatMap_cons, List.append_assoc, chars, shapesOf_word word ends, if_neg (by simp [plain]),
    scans rest closing, List.cons_append]

theorem OperandText.operator_cons (op : BinOp) {ps : List (TokenKind × String)} (operand : OperandText ps) :
    ScansAs ((op.kind, op.symbol) :: ps) := by
  intro rest closing
  obtain ⟨c, cs, chars, eq, gt⟩ := operand.opens
  have opens : ∀ d, (ps.flatMap writePiece ++ rest).head? = some d → d ≠ '=' ∧ d ≠ '>' := by
    rw [chars]
    rintro d ⟨⟩
    exact ⟨eq, gt⟩
  rw [List.flatMap_cons, List.append_assoc, shapesOf_operator op opens, operand.scans rest closing,
    List.cons_append]

theorem closing_operator (op : BinOp) (ps : List (TokenKind × String)) :
    Closing (((op.kind, op.symbol) :: ps).flatMap writePiece) := by
  cases op <;> simp [Closing, writePiece, BinOp.kind, BinOp.symbol, closingChars]

theorem operandText_number {f : Float} {m : Nat} {e : Int} (parts : Binary.ofFloat f = .finite false m e) :
    OperandText [(.number, Float.shortText f)] := by
  obtain ⟨lit, l, chars, scan, -, -⟩ := shortText_literal parts
  rw [if_neg Bool.false_ne_true, List.nil_append] at chars
  obtain ⟨x, xs, rfl, head⟩ := Literal.scan?_head scan
  have closers : ∀ c ∈ closingChars, Text.isDigit c = false ∧ c ≠ '.' ∧ c ≠ 'e' ∧ c ≠ 'E' := by
    have digits : ∀ c ∈ closingChars, Text.isDigit c = false := by
      simp only [closingChars, List.forall_mem_cons, List.not_mem_nil, false_implies, implies_true, and_true]
      decide
    have marks : ∀ c ∈ closingChars, c ≠ '.' ∧ c ≠ 'e' ∧ c ≠ 'E' := by simp [closingChars]
    exact fun c mem => ⟨digits c mem, marks c mem⟩
  refine ⟨fun rest closing => ?_, x, xs, by simpa [writePiece] using chars, ?_⟩
  · rw [List.flatMap_singleton, shapesOf_shortText parts fun c mem => closers c (closing c mem),
      List.singleton_append]
  · rcases head with digit | rfl
    · constructor <;> rintro rfl <;> exact absurd digit (by decide)
    · decide

theorem operandText_string (s : String) : OperandText [(.string, s)] := by
  refine ⟨fun rest _ => ?_, '"', escapeLiteral s.toList ++ ['"'], by simp [writePiece], by decide, by decide⟩
  rw [List.flatMap_singleton, shapesOf_string, List.singleton_append]

theorem isIdentifier_opens {w : String} (word : isIdentifier w) :
    ∃ c cs, w.toList = c :: cs ∧ c ≠ '=' ∧ c ≠ '>' := by
  obtain ⟨x, xs, chars, start, -⟩ := isIdentifier_iff.1 word
  refine ⟨x, xs, chars, ?_, ?_⟩ <;> rintro rfl <;> exact absurd start (by decide)

theorem operandText_truth (b : Bool) : OperandText [(.bool, if b then "TRUE" else "FALSE")] := by
  have closers : ∀ c ∈ closingChars, isIdentChar c = false := by
    simp only [closingChars, List.forall_mem_cons, List.not_mem_nil, false_implies, implies_true, and_true]
    decide
  have spelled : ∀ w ∈ ["TRUE", "FALSE"], isIdentifier w ∧ spellsTruth w ∧
      (String.ofList (w.toList.filter (· != '$'))).toUpper = w := by decide +kernel
  obtain ⟨word, truth, upper⟩ := spelled (if b then "TRUE" else "FALSE") (by cases b <;> simp)
  obtain ⟨x, xs, chars, eq, gt⟩ := isIdentifier_opens word
  refine ⟨fun rest closing => ?_, x, xs, by simpa [writePiece] using chars, eq, gt⟩
  rw [List.flatMap_singleton, List.singleton_append]
  exact (shapesOf_word word fun c mem => closers c (closing c mem)).trans (by rw [if_pos truth, upper])

theorem operandText_word {w : String} (word : isIdentifier w) (plain : spellsTruth w = false) :
    OperandText [(.ident, w)] := by
  obtain ⟨x, xs, chars, eq, gt⟩ := isIdentifier_opens word
  exact ⟨scansAs_nil.word_cons word plain (by simp), x, xs, by simpa [writePiece] using chars, eq, gt⟩

theorem operandText_range {a b : String} (start : isCanonicalKey a) (stop : isCanonicalKey b) :
    OperandText [(.ident, a), (.colon, ":"), (.ident, b)] := by
  have last : ScansAs [(.ident, b)] := (operandText_word (isIdentifier_of_isCanonicalKey stop)
    (spellsTruth_of_isCanonicalKey stop)).scans
  have colon : ScansAs [(.colon, ":"), (.ident, b)] := last.mark_cons (by simp [marks])
  refine ⟨colon.word_cons (isIdentifier_of_isCanonicalKey start) (spellsTruth_of_isCanonicalKey start)
    (by simp +decide [writePiece]), ?_⟩
  obtain ⟨x, xs, chars, eq, gt⟩ := (operandText_word (isIdentifier_of_isCanonicalKey start)
    (spellsTruth_of_isCanonicalKey start)).opens
  exact ⟨x, xs ++ (":" ++ b).toList, by simp_all [writePiece], eq, gt⟩

theorem OperandText.append {ps qs : List (TokenKind × String)} (first : OperandText ps) (second : ScansAs qs)
    (between : Closing (qs.flatMap writePiece)) : OperandText (ps ++ qs) := by
  obtain ⟨c, cs, chars, eq, gt⟩ := first.opens
  exact ⟨first.scans.append second between, c, cs ++ qs.flatMap writePiece,
    by rw [List.flatMap_append, chars, List.cons_append], eq, gt⟩

theorem OperandText.parenthesize {ps : List (TokenKind × String)} (operand : OperandText ps) (wrap : Bool) :
    OperandText (parenthesize wrap ps) := by
  cases wrap
  · exact operand
  · have close : ScansAs [(.rparen, ")")] := scansAs_nil.mark_cons (by simp [marks])
    rw [Formula.parenthesize, if_pos rfl]
    exact ⟨(operand.scans.append close (by simp [Closing, writePiece, closingChars])).mark_cons (by simp [marks]),
      '(', ps.flatMap writePiece ++ [')'], by simp [writePiece], by decide, by decide⟩

theorem OperandText.binary {lps rps : List (TokenKind × String)} (left : OperandText lps) (op : BinOp)
    (right : OperandText rps) : OperandText (lps ++ (op.kind, op.symbol) :: rps) :=
  left.append (right.operator_cons op) (closing_operator op rps)

theorem OperandText.percent {ps : List (TokenKind × String)} (operand : OperandText ps) :
    OperandText (ps ++ [(.op, "%")]) :=
  operand.append (scansAs_nil.mark_cons (by simp [marks])) (by simp [Closing, writePiece, closingChars])

theorem OperandText.sign_cons {s : String} (sign : s = "-" ∨ s = "+") {ps : List (TokenKind × String)}
    (operand : OperandText ps) : OperandText ((.op, s) :: ps) := by
  have mark : ((TokenKind.op, s) ∈ marks) := by rcases sign with rfl | rfl <;> simp [marks]
  refine ⟨operand.scans.mark_cons mark, ?_⟩
  rcases sign with rfl | rfl
  · exact ⟨'-', ps.flatMap writePiece, by simp [writePiece], by decide, by decide⟩
  · exact ⟨'+', ps.flatMap writePiece, by simp [writePiece], by decide, by decide⟩

theorem ScansAs.comma {ps qs : List (TokenKind × String)} (first : ScansAs ps) (second : ScansAs qs) :
    ScansAs (ps ++ (.comma, ",") :: qs) :=
  first.append (second.mark_cons (by simp [marks])) (by simp [Closing, writePiece, closingChars])

theorem operandText_call {fn : String} {aps : List (TokenKind × String)} (word : isIdentifier fn)
    (plain : spellsTruth fn = false) (args : ScansAs aps) :
    OperandText ((.ident, fn) :: (.lparen, "(") :: aps ++ [(.rparen, ")")]) := by
  have close : ScansAs [(.rparen, ")")] := scansAs_nil.mark_cons (by simp [marks])
  have inner : ScansAs ((.lparen, "(") :: aps ++ [(.rparen, ")")]) :=
    (args.append close (by simp [Closing, writePiece, closingChars])).mark_cons (by simp [marks])
  obtain ⟨x, xs, chars, eq, gt⟩ := isIdentifier_opens word
  exact ⟨inner.word_cons word plain (by simp +decide [writePiece]), x,
    xs ++ ((TokenKind.lparen, "(") :: aps ++ [(TokenKind.rparen, ")")]).flatMap writePiece,
    by simp [writePiece, chars], eq, gt⟩

theorem printableArguments_cons {a : Expr} {rest : List Expr} (printable : Expr.printableArguments (a :: rest)) :
    a.printable ∧ Expr.printableArguments rest ∧ (a.leadsWithRange → ∃ s t, a = .range s t) := by
  -- the range test of the definition is a match on the argument, so split on it first
  cases a
  case range s t =>
    simp only [Expr.printableArguments, Bool.and_eq_true] at printable
    exact ⟨printable.1.1, printable.2, fun _ => ⟨s, t, rfl⟩⟩
  all_goals
    simp only [Expr.printableArguments, Bool.and_eq_true, Bool.false_or, Bool.not_eq_true'] at printable
    exact ⟨printable.1.1, printable.2, fun leads => absurd leads (by simp [printable.1.2])⟩

mutual

theorem operandText_pieces : ∀ e : Expr, e.printable → OperandText e.pieces
  | .number f, printable => by
    rw [Expr.pieces]
    rw [Expr.printable] at printable
    split at printable
    next neg m ex parts =>
      cases neg
      · exact operandText_number parts
      · cases printable
    next => cases printable
  | .string s, _ => by
    rw [Expr.pieces]
    exact operandText_string s
  | .boolean b, _ => by
    rw [Expr.pieces]
    exact operandText_truth b
  | .cell key, printable => by
    rw [Expr.printable] at printable
    rw [Expr.pieces]
    exact operandText_word (isIdentifier_of_isCanonicalKey printable) (spellsTruth_of_isCanonicalKey printable)
  | .range a b, printable => by
    simp only [Expr.printable, Bool.and_eq_true] at printable
    rw [Expr.pieces]
    exact operandText_range printable.1 printable.2
  | .name text, printable => by
    simp only [Expr.printable, Bool.and_eq_true, Bool.not_eq_true'] at printable
    rw [Expr.pieces]
    exact operandText_word printable.1.1 printable.2
  | .blank, printable => by
    rw [Expr.printable] at printable
    cases printable
  | .call fn args, printable => by
    simp only [Expr.printable, Bool.and_eq_true, Bool.not_eq_true'] at printable
    obtain ⟨⟨⟨word, -⟩, plain⟩, valid⟩ := printable
    rw [Expr.pieces]
    exact operandText_call word plain (scansAs_argumentPieces args valid)
  | .binary op l r, printable => by
    simp only [Expr.printable, Bool.and_eq_true] at printable
    rw [Expr.pieces]
    exact ((operandText_pieces l printable.1).parenthesize _).binary op
      ((operandText_pieces r printable.2).parenthesize _)
  | .unary .percent x, printable => by
    rw [Expr.printable] at printable
    rw [Expr.pieces]
    exact ((operandText_pieces x printable).parenthesize _).percent
  | .unary .neg x, printable => by
    rw [Expr.printable] at printable
    rw [Expr.pieces]
    exact ((operandText_pieces x printable).parenthesize _).sign_cons (.inl rfl)
  | .unary .pos x, printable => by
    rw [Expr.printable] at printable
    rw [Expr.pieces]
    exact ((operandText_pieces x printable).parenthesize _).sign_cons (.inr rfl)

theorem scansAs_argumentPieces : ∀ args : List Expr, Expr.printableArguments args →
    ScansAs (Expr.argumentPieces args)
  | [], _ => by
    rw [Expr.argumentPieces]
    exact scansAs_nil
  | [a], printable => by
    rw [Expr.argumentPieces]
    exact (operandText_pieces a (printableArguments_cons printable).1).scans
  | a :: b :: rest, printable => by
    obtain ⟨first, later, -⟩ := printableArguments_cons printable
    rw [Expr.argumentPieces]
    exact (operandText_pieces a first).scans.comma (scansAs_argumentPieces (b :: rest) later)

end

theorem toToken?_ne_eof {l : Lexeme} {t : Token} (token : l.toToken? = some t) : t.kind ≠ .eof := by
  obtain ⟨k, chars, start⟩ := l
  cases k <;> grind [Lexeme.toToken?]

theorem shapes_tokenize_of_scansAs {e : Expr} (scans : ScansAs e.pieces) :
    ((tokenize e.render).filter (·.kind != .eof)).map Token.shape = e.pieces := by
  have kept : ((lexemes e.render).filterMap Lexeme.toToken?).filter (·.kind != .eof) =
      (lexemes e.render).filterMap Lexeme.toToken? := by
    refine List.filter_eq_self.2 fun t mem => ?_
    obtain ⟨l, -, token⟩ := List.mem_filterMap.1 mem
    exact bne_iff_ne.2 (toToken?_ne_eof token)
  have scanned := scans [] (by simp [Closing])
  rw [List.append_nil, shapesOf_nil, List.append_nil] at scanned
  unfold tokenize
  rw [List.filter_append, kept, ← scanned]
  simp [shapesOf, lexemes, Expr.render, List.map_filterMap]

theorem shapes_tokenize_render {e : Expr} (printable : e.printable) :
    ((tokenize e.render).filter (·.kind != .eof)).map Token.shape = e.pieces :=
  shapes_tokenize_of_scansAs (operandText_pieces e printable).scans

end Spreadsheet.Formula
