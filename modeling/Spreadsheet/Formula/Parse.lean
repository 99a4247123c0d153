import Spreadsheet.Formula.Token
import Spreadsheet.Formula.Expr

/-!
Reading expressions from tokens.

A lenient recursive descent over the precedence ladder, lowest first: comparison, `&`, `+ -`,
`* /`, `^` (left associative), prefix `-` `+`, postfix `%`, primary. A missing `)` closes the
call or group, a token that cannot start a primary becomes a blank and is consumed, and tokens
after the expression are ignored, so every token list reads as some expression.

Each production takes the remaining tokens and returns its tree with the tokens after it, which
are never more; the loops consume an operator before each step, so the descent terminates by the
number of tokens left.
-/

namespace Spreadsheet.Formula

structure Parsed (ts : List Token) where
  expr : Expr
  rest : List Token
  le : rest.length ≤ ts.length

structure ParsedArgs (ts : List Token) where
  args : List Expr
  rest : List Token
  le : rest.length ≤ ts.length

def opText? (t : Token) : Option String := if t.kind == .op then some t.text else none

def comparisonOp? (t : Token) : Option BinOp :=
  match opText? t with
  | some "=" => some .eq
  | some "<>" => some .neq
  | some "<" => some .lt
  | some ">" => some .gt
  | some "<=" => some .lte
  | some ">=" => some .gte
  | _ => none

def concatOp? (t : Token) : Option BinOp := if t.kind == .ampersand then some .concat else none

def additiveOp? (t : Token) : Option BinOp :=
  match opText? t with
  | some "+" => some .add
  | some "-" => some .sub
  | _ => none

def multiplicativeOp? (t : Token) : Option BinOp :=
  match opText? t with
  | some "*" => some .mul
  | some "/" => some .div
  | _ => none

def powerOp? (t : Token) : Option BinOp := if opText? t == some "^" then some .pow else none

def isOp (s : String) (t : Token) : Bool := opText? t == some s

def skipSeparator : List Token → List Token
  | t :: rest => if t.kind == .comma || t.kind == .semicolon then rest else t :: rest
  | [] => []

theorem skipSeparator_length (ts : List Token) : (skipSeparator ts).length ≤ ts.length := by
  cases ts with
  | nil => simp [skipSeparator]
  | cons t rest => simp only [skipSeparator]; split <;> simp

def leaf? (t : Token) : Option Expr :=
  match t.kind with
  | .number => some (.number ((Number.Literal.scan? t.text.toList).map (·.toFloat) |>.getD 0.0))
  | .string => some (.string t.text)
  | .bool => some (.boolean (t.text == "TRUE"))
  | _ => none

def identifier (text : String) : Expr :=
  if (Ref.parse? text).isSome then .cell (canonicalKey text) else .name text

/-- An argument `IDENT : IDENT` at the head, with an optional separator after it. -/
def rangeArgument? (t : Token) (tail : List Token) :
    Option (Expr × { r : List Token // r.length < (t :: tail).length }) :=
  if t.kind == .ident then
    match tail with
    | u :: v :: r =>
      if u.kind == .colon && v.kind == .ident then
        some (.range (canonicalKey t.text) (canonicalKey v.text),
          ⟨skipSeparator r, by have := skipSeparator_length r; simp only [List.length_cons]; omega⟩)
      else none
    | _ => none
  else none

mutual

/-- comparison := concat (cmp-op concat)* -/
def comparison (ts : List Token) : Parsed ts :=
  match concat ts with
  | ⟨e, r, h⟩ =>
    match comparisonLoop e r with
    | ⟨e', r', h'⟩ => ⟨e', r', Nat.le_trans h' h⟩
termination_by ts.length * 20 + 16

def comparisonLoop (left : Expr) (ts : List Token) : Parsed ts :=
  match ts with
  | t :: tail =>
    match comparisonOp? t with
    | some op =>
      match concat tail with
      | ⟨e, r, h⟩ =>
        match comparisonLoop (.binary op left e) r with
        | ⟨e', r', h'⟩ => ⟨e', r', by simp only [List.length_cons]; omega⟩
    | none => ⟨left, t :: tail, Nat.le_refl _⟩
  | [] => ⟨left, [], Nat.le_refl _⟩
termination_by ts.length * 20 + 15

/-- concat := additive (& additive)* -/
def concat (ts : List Token) : Parsed ts :=
  match additive ts with
  | ⟨e, r, h⟩ =>
    match concatLoop e r with
    | ⟨e', r', h'⟩ => ⟨e', r', Nat.le_trans h' h⟩
termination_by ts.length * 20 + 14

def concatLoop (left : Expr) (ts : List Token) : Parsed ts :=
  match ts with
  | t :: tail =>
    match concatOp? t with
    | some op =>
      match additive tail with
      | ⟨e, r, h⟩ =>
        match concatLoop (.binary op left e) r with
        | ⟨e', r', h'⟩ => ⟨e', r', by simp only [List.length_cons]; omega⟩
    | none => ⟨left, t :: tail, Nat.le_refl _⟩
  | [] => ⟨left, [], Nat.le_refl _⟩
termination_by ts.length * 20 + 13

/-- additive := multiplicative ((+|-) multiplicative)* -/
def additive (ts : List Token) : Parsed ts :=
  match multiplicative ts with
  | ⟨e, r, h⟩ =>
    match additiveLoop e r with
    | ⟨e', r', h'⟩ => ⟨e', r', Nat.le_trans h' h⟩
termination_by ts.length * 20 + 12

def additiveLoop (left : Expr) (ts : List Token) : Parsed ts :=
  match ts with
  | t :: tail =>
    match additiveOp? t with
    | some op =>
      match multiplicative tail with
      | ⟨e, r, h⟩ =>
        match additiveLoop (.binary op left e) r with
        | ⟨e', r', h'⟩ => ⟨e', r', by simp only [List.length_cons]; omega⟩
    | none => ⟨left, t :: tail, Nat.le_refl _⟩
  | [] => ⟨left, [], Nat.le_refl _⟩
termination_by ts.length * 20 + 11

/-- multiplicative := power ((*|/) power)* -/
def multiplicative (ts : List Token) : Parsed ts :=
  match power ts with
  | ⟨e, r, h⟩ =>
    match multiplicativeLoop e r with
    | ⟨e', r', h'⟩ => ⟨e', r', Nat.le_trans h' h⟩
termination_by ts.length * 20 + 10

def multiplicativeLoop (left : Expr) (ts : List Token) : Parsed ts :=
  match ts with
  | t :: tail =>
    match multiplicativeOp? t with
    | some op =>
      match power tail with
      | ⟨e, r, h⟩ =>
        match multiplicativeLoop (.binary op left e) r with
        | ⟨e', r', h'⟩ => ⟨e', r', by simp only [List.length_cons]; omega⟩
    | none => ⟨left, t :: tail, Nat.le_refl _⟩
  | [] => ⟨left, [], Nat.le_refl _⟩
termination_by ts.length * 20 + 9

/-- power := unary (^ unary)* -/
def power (ts : List Token) : Parsed ts :=
  match unary ts with
  | ⟨e, r, h⟩ =>
    match powerLoop e r with
    | ⟨e', r', h'⟩ => ⟨e', r', Nat.le_trans h' h⟩
termination_by ts.length * 20 + 8

def powerLoop (left : Expr) (ts : List Token) : Parsed ts :=
  match ts with
  | t :: tail =>
    match powerOp? t with
    | some op =>
      match unary tail with
      | ⟨e, r, h⟩ =>
        match powerLoop (.binary op left e) r with
        | ⟨e', r', h'⟩ => ⟨e', r', by simp only [List.length_cons]; omega⟩
    | none => ⟨left, t :: tail, Nat.le_refl _⟩
  | [] => ⟨left, [], Nat.le_refl _⟩
termination_by ts.length * 20 + 7

/-- unary := - unary | + unary | percent -/
def unary (ts : List Token) : Parsed ts :=
  match ts with
  | t :: tail =>
    if isOp "-" t then
      match unary tail with
      | ⟨e, r, h⟩ => ⟨.unary .neg e, r, by simp only [List.length_cons]; omega⟩
    else if isOp "+" t then
      match unary tail with
      | ⟨e, r, h⟩ => ⟨.unary .pos e, r, by simp only [List.length_cons]; omega⟩
    else percent (t :: tail)
  | [] => percent []
termination_by ts.length * 20 + 6

/-- percent := primary %* -/
def percent (ts : List Token) : Parsed ts :=
  match primary ts with
  | ⟨e, r, h⟩ =>
    match percentLoop e r with
    | ⟨e', r', h'⟩ => ⟨e', r', Nat.le_trans h' h⟩
termination_by ts.length * 20 + 5

def percentLoop (node : Expr) (ts : List Token) : Parsed ts :=
  match ts with
  | t :: tail =>
    if isOp "%" t then
      match percentLoop (.unary .percent node) tail with
      | ⟨e', r', h'⟩ => ⟨e', r', by simp only [List.length_cons]; omega⟩
    else ⟨node, t :: tail, Nat.le_refl _⟩
  | [] => ⟨node, [], Nat.le_refl _⟩
termination_by ts.length * 20 + 4

/-- primary := literal | ( comparison )? | IDENT : IDENT? | IDENT ( arguments | IDENT | other -/
def primary (ts : List Token) : Parsed ts :=
  match ts with
  | [] => ⟨.blank, [], Nat.le_refl _⟩
  | t :: tail =>
    match leaf? t with
    | some e => ⟨e, tail, by simp⟩
    | none =>
      if t.kind == .lparen then
        match comparison tail with
        | ⟨e, r, h⟩ =>
          match r with
          | u :: r2 =>
            if u.kind == .rparen then ⟨e, r2, by simp only [List.length_cons] at *; omega⟩
            else ⟨e, u :: r2, by simp only [List.length_cons] at *; omega⟩
          | [] => ⟨e, [], by simp⟩
      else if t.kind == .ident then
        match tail with
        | u :: r =>
          if u.kind == .colon then
            match r with
            | v :: r2 =>
              if v.kind == .ident then
                ⟨.range (canonicalKey t.text) (canonicalKey v.text), r2, by simp; omega⟩
              else ⟨.range (canonicalKey t.text) "", v :: r2, by simp⟩
            | [] => ⟨.range (canonicalKey t.text) "", [], by simp⟩
          else if u.kind == .lparen then
            match arguments r [] with
            | ⟨args, r', h⟩ => ⟨.call t.text.toUpper args, r', by simp only [List.length_cons]; omega⟩
          else ⟨identifier t.text, u :: r, by simp⟩
        | [] => ⟨identifier t.text, [], by simp⟩
      else ⟨.blank, tail, by simp⟩
termination_by ts.length * 20 + 3

/-- arguments := (IDENT : IDENT [,;]? | comparison [,;]?)* )? — `acc` holds the arguments read so
far. A step that consumed nothing would end the list; none does. -/
def arguments (ts : List Token) (acc : List Expr) : ParsedArgs ts :=
  match ts with
  | [] => ⟨acc, [], Nat.le_refl _⟩
  | t :: tail =>
    if t.kind == .rparen then ⟨acc, tail, by simp⟩
    else
      match rangeArgument? t tail with
      | some (e, ⟨r, h⟩) =>
        match arguments r (acc ++ [e]) with
        | ⟨args, r', h'⟩ => ⟨args, r', by omega⟩
      | none =>
        match comparison (t :: tail) with
        | ⟨e, r, h⟩ =>
          have h2 : (skipSeparator r).length ≤ r.length := skipSeparator_length r
          if hlt : (skipSeparator r).length < (t :: tail).length then
            match arguments (skipSeparator r) (acc ++ [e]) with
            | ⟨args, r', h'⟩ => ⟨args, r', by omega⟩
          else ⟨acc ++ [e], skipSeparator r, by omega⟩
termination_by ts.length * 20 + 17
decreasing_by
  all_goals (simp only [List.length_cons] at *; omega)

end

def parseBody (body : String) : Expr :=
  (comparison ((tokenize body).filter (·.kind != .eof))).expr

end Spreadsheet.Formula
