import Spreadsheet.Formula.Parse

/-!
How the descent over a formula's tokens moves.

Each production returns the tokens after what it read. A primary always consumes the token it
starts at, so every production does when a token is left, and the argument loop reads one more
argument from a shorter list at every turn that does not stand at a `)`: the loop's guard against a
turn without progress never fires, and the descent is the plain recursive descent.

Arguments of the form `IDENT : IDENT` are read by a shortcut that ends the argument at the range.
The general production reads the range as a primary and goes on with what follows it, so the two
agree exactly when the token after the range does not continue an operand: it is neither a postfix
`%` nor a binary operator.
-/

set_option autoImplicit false

namespace Spreadsheet.Formula

instance : LawfulBEq TokenKind where
  eq_of_beq := by intro a b; cases a <;> cases b <;> decide
  rfl := by intro a; cases a <;> decide

def Parsed.widen {ts us : List Token} (p : Parsed us) (h : us.length ≤ ts.length) : Parsed ts :=
  ⟨p.expr, p.rest, Nat.le_trans p.le h⟩

@[simp] theorem Parsed.widen_expr {ts us : List Token} (p : Parsed us) (h : us.length ≤ ts.length) :
    (p.widen h).expr = p.expr := rfl

@[simp] theorem Parsed.widen_rest {ts us : List Token} (p : Parsed us) (h : us.length ≤ ts.length) :
    (p.widen h).rest = p.rest := rfl

/-! The five binary loops are one loop over the operators of their level. -/

/-- A left-associative level: while the next token is an operator of the level, read an operand and
combine it with what was read so far. -/
def binaryLoop (opOf : Token → Option BinOp) (operand : (ts : List Token) → Parsed ts)
    (left : Expr) : (ts : List Token) → Parsed ts
  | [] => ⟨left, [], Nat.le_refl _⟩
  | t :: tail =>
    match opOf t with
    | some op =>
      have shorter := (operand tail).le
      (binaryLoop opOf operand (.binary op left (operand tail).expr) (operand tail).rest).widen
        (Nat.le_succ_of_le shorter)
    | none => ⟨left, t :: tail, Nat.le_refl _⟩
termination_by ts => ts.length
decreasing_by simp only [List.length_cons]; omega

theorem comparisonLoop_eq (left : Expr) (ts : List Token) :
    comparisonLoop left ts = binaryLoop comparisonOp? concat left ts := by
  induction left, ts using binaryLoop.induct comparisonOp? concat with
  | case1 left => rw [comparisonLoop, binaryLoop]
  | case2 left t tail op found _ ih =>
    rw [comparisonLoop, binaryLoop, found]; simp only [← ih]; rfl
  | case3 left t tail missing => rw [comparisonLoop, binaryLoop, missing]

theorem concatLoop_eq (left : Expr) (ts : List Token) :
    concatLoop left ts = binaryLoop concatOp? additive left ts := by
  induction left, ts using binaryLoop.induct concatOp? additive with
  | case1 left => rw [concatLoop, binaryLoop]
  | case2 left t tail op found _ ih => rw [concatLoop, binaryLoop, found]; simp only [← ih]; rfl
  | case3 left t tail missing => rw [concatLoop, binaryLoop, missing]

theorem additiveLoop_eq (left : Expr) (ts : List Token) :
    additiveLoop left ts = binaryLoop additiveOp? multiplicative left ts := by
  induction left, ts using binaryLoop.induct additiveOp? multiplicative with
  | case1 left => rw [additiveLoop, binaryLoop]
  | case2 left t tail op found _ ih =>
    rw [additiveLoop, binaryLoop, found]; simp only [← ih]; rfl
  | case3 left t tail missing => rw [additiveLoop, binaryLoop, missing]

theorem multiplicativeLoop_eq (left : Expr) (ts : List Token) :
    multiplicativeLoop left ts = binaryLoop multiplicativeOp? power left ts := by
  induction left, ts using binaryLoop.induct multiplicativeOp? power with
  | case1 left => rw [multiplicativeLoop, binaryLoop]
  | case2 left t tail op found _ ih =>
    rw [multiplicativeLoop, binaryLoop, found]; simp only [← ih]; rfl
  | case3 left t tail missing => rw [multiplicativeLoop, binaryLoop, missing]

theorem powerLoop_eq (left : Expr) (ts : List Token) :
    powerLoop left ts = binaryLoop powerOp? unary left ts := by
  induction left, ts using binaryLoop.induct powerOp? unary with
  | case1 left => rw [powerLoop, binaryLoop]
  | case2 left t tail op found _ ih => rw [powerLoop, binaryLoop, found]; simp only [← ih]; rfl
  | case3 left t tail missing => rw [powerLoop, binaryLoop, missing]

theorem comparison_eq (ts : List Token) :
    comparison ts =
      (binaryLoop comparisonOp? concat (concat ts).expr (concat ts).rest).widen (concat ts).le := by
  rw [comparison, ← comparisonLoop_eq]; rfl

theorem concat_eq (ts : List Token) :
    concat ts =
      (binaryLoop concatOp? additive (additive ts).expr (additive ts).rest).widen (additive ts).le := by
  rw [concat, ← concatLoop_eq]; rfl

theorem additive_eq (ts : List Token) :
    additive ts = (binaryLoop additiveOp? multiplicative (multiplicative ts).expr
      (multiplicative ts).rest).widen (multiplicative ts).le := by
  rw [additive, ← additiveLoop_eq]; rfl

theorem multiplicative_eq (ts : List Token) :
    multiplicative ts =
      (binaryLoop multiplicativeOp? power (power ts).expr (power ts).rest).widen (power ts).le := by
  rw [multiplicative, ← multiplicativeLoop_eq]; rfl

theorem power_eq (ts : List Token) :
    power ts = (binaryLoop powerOp? unary (unary ts).expr (unary ts).rest).widen (unary ts).le := by
  rw [power, ← powerLoop_eq]; rfl

theorem percent_eq (ts : List Token) :
    percent ts = (percentLoop (primary ts).expr (primary ts).rest).widen (primary ts).le := by
  rw [percent]; rfl

def Expr.isOperator : Expr → Bool
  | .binary .. | .unary .. => true
  | _ => false

section Loops

variable (opOf : Token → Option BinOp) (operand : (ts : List Token) → Parsed ts)

theorem binaryLoop_stop {left : Expr} {ts : List Token} (stop : ∀ w ∈ ts.head?, opOf w = none) :
    (binaryLoop opOf operand left ts).expr = left ∧ (binaryLoop opOf operand left ts).rest = ts := by
  cases ts with
  | nil => simp [binaryLoop]
  | cons t tail => simp [binaryLoop, stop t rfl]

theorem binaryLoop_cases (left : Expr) (ts : List Token) :
    (binaryLoop opOf operand left ts).expr.isOperator ∨
      ((binaryLoop opOf operand left ts).expr = left ∧ (binaryLoop opOf operand left ts).rest = ts ∧
        ∀ w ∈ ts.head?, opOf w = none) := by
  induction left, ts using binaryLoop.induct opOf operand with
  | case1 left => simp [binaryLoop]
  | case2 left t tail op found _ ih =>
    rw [binaryLoop, found]
    simp only [Parsed.widen_expr]
    rcases ih with built | ⟨same, -⟩
    · exact .inl built
    · exact .inl (by rw [same]; rfl)
  | case3 left t tail missing => simp [binaryLoop, missing]

theorem binaryLoop_reads_nothing {left : Expr} {ts : List Token}
    (h : (binaryLoop opOf operand left ts).expr.isOperator = false) :
    (binaryLoop opOf operand left ts).expr = left ∧ (binaryLoop opOf operand left ts).rest = ts ∧
      ∀ w ∈ ts.head?, opOf w = none := by
  rcases binaryLoop_cases opOf operand left ts with built | stopped
  · simp [h] at built
  · exact stopped

end Loops

section Levels

variable {opOf : Token → Option BinOp} {operand : (ts : List Token) → Parsed ts} {ts : List Token}
  {level sub : Parsed ts}

theorem level_stop (eq : level = (binaryLoop opOf operand sub.expr sub.rest).widen sub.le)
    (stop : ∀ w ∈ sub.rest.head?, opOf w = none) : level.expr = sub.expr ∧ level.rest = sub.rest := by
  subst eq
  exact binaryLoop_stop opOf operand stop

theorem level_reads_nothing (eq : level = (binaryLoop opOf operand sub.expr sub.rest).widen sub.le)
    (h : level.expr.isOperator = false) :
    level.expr = sub.expr ∧ level.rest = sub.rest ∧ ∀ w ∈ sub.rest.head?, opOf w = none := by
  subst eq
  rw [Parsed.widen_expr] at h
  exact binaryLoop_reads_nothing opOf operand h

end Levels

theorem percentLoop_stop {node : Expr} {ts : List Token}
    (stop : ∀ w ∈ ts.head?, isOp "%" w = false) :
    (percentLoop node ts).expr = node ∧ (percentLoop node ts).rest = ts := by
  cases ts with
  | nil => simp [percentLoop]
  | cons t tail => simp [percentLoop, stop t rfl]

theorem percentLoop_reads_nothing {node : Expr} {ts : List Token}
    (h : (percentLoop node ts).expr.isOperator = false) :
    (percentLoop node ts).expr = node ∧ (percentLoop node ts).rest = ts ∧
      ∀ w ∈ ts.head?, isOp "%" w = false := by
  induction node, ts using percentLoop.induct with
  | case1 node t tail found _ _ _ _ ih =>
    -- a `%` at the head wraps the node, so the result is an operator node
    have inner :
        (percentLoop node (t :: tail)).expr = (percentLoop (.unary .percent node) tail).expr := by
      rw [percentLoop, if_pos found]
    rw [inner] at h
    rw [(ih h).1] at h
    simp [Expr.isOperator] at h
  | case2 node t tail missing => simp [percentLoop, missing]
  | case3 node => simp [percentLoop]

theorem primary_consumes (t : Token) (tail : List Token) :
    (primary (t :: tail)).rest.length ≤ tail.length := by
  unfold primary
  split
  · simp
  · split
    · -- a group: the inner expression, then a `)` if there is one
      split
      split
      next u r within _ =>
        have within : r.length + 1 ≤ tail.length := within
        split <;> simp only [List.length_cons] <;> omega
      · simp
    · split
      · -- a range, a call or an identifier, each read after the identifier
        cases tail with
        | nil => simp
        | cons u r =>
          simp only
          split
          · cases r with
            | nil => simp
            | cons v r => simp only; split <;> simp only [List.length_cons] <;> omega
          · split
            · generalize arguments r [] = args
              obtain ⟨_, rest, shorter⟩ := args
              simp only [List.length_cons]
              omega
            · simp
      · simp

theorem unary_consumes (t : Token) (tail : List Token) :
    (unary (t :: tail)).rest.length ≤ tail.length := by
  rw [unary]
  split
  · exact (unary tail).le
  split
  · exact (unary tail).le
  · rw [percent_eq, Parsed.widen_rest]
    exact Nat.le_trans (percentLoop _ _).le (primary_consumes t tail)

theorem comparison_consumes (t : Token) (tail : List Token) :
    (comparison (t :: tail)).rest.length ≤ tail.length := by
  -- each level ends no later than its operand level, down to the prefix operators
  calc (comparison (t :: tail)).rest.length
      ≤ (concat (t :: tail)).rest.length := by
        rw [comparison_eq, Parsed.widen_rest]; exact (binaryLoop _ _ _ _).le
    _ ≤ (additive (t :: tail)).rest.length := by
        rw [concat_eq, Parsed.widen_rest]; exact (binaryLoop _ _ _ _).le
    _ ≤ (multiplicative (t :: tail)).rest.length := by
        rw [additive_eq, Parsed.widen_rest]; exact (binaryLoop _ _ _ _).le
    _ ≤ (power (t :: tail)).rest.length := by
        rw [multiplicative_eq, Parsed.widen_rest]; exact (binaryLoop _ _ _ _).le
    _ ≤ (unary (t :: tail)).rest.length := by
        rw [power_eq, Parsed.widen_rest]; exact (binaryLoop _ _ _ _).le
    _ ≤ tail.length := unary_consumes t tail

theorem arguments_continue (t : Token) (tail : List Token) (acc : List Expr)
    (unclosed : (t.kind == .rparen) = false) :
    ∃ (e : Expr) (r : List Token), r.length ≤ tail.length ∧
      (arguments (t :: tail) acc).args = (arguments r (acc ++ [e])).args ∧
      (arguments (t :: tail) acc).rest = (arguments r (acc ++ [e])).rest := by
  rw [arguments, if_neg (by simp [unclosed])]
  split
  next e r shorter _ =>
    simp only [List.length_cons] at shorter
    exact ⟨e, r, by omega, rfl, rfl⟩
  next =>
    split
    next e r _ read =>
      have consumed : r.length ≤ tail.length := by simpa [read] using comparison_consumes t tail
      have skipped := skipSeparator_length r
      rw [dif_pos (by simp only [List.length_cons]; omega)]
      exact ⟨e, skipSeparator r, by omega, rfl, rfl⟩

/-- The descent consumes a token at every step that has one to read: a primary, and so every
expression, consumes the token it starts at, and a turn of the argument loop that does not stand
at `)` reads an argument and goes on from fewer tokens. -/
theorem descent_consumes_tokens (t : Token) (tail : List Token) :
    (primary (t :: tail)).rest.length ≤ tail.length ∧
    (comparison (t :: tail)).rest.length ≤ tail.length ∧
    ((t.kind == .rparen) = false → ∀ acc, ∃ (e : Expr) (r : List Token), r.length ≤ tail.length ∧
      (arguments (t :: tail) acc).args = (arguments r (acc ++ [e])).args ∧
      (arguments (t :: tail) acc).rest = (arguments r (acc ++ [e])).rest) :=
  ⟨primary_consumes t tail, comparison_consumes t tail,
    fun unclosed acc => arguments_continue t tail acc unclosed⟩

/-- Whether the token continues the operand before it: a postfix `%` or a binary operator of some
level. -/
def extendsOperand (t : Token) : Bool :=
  isOp "%" t || (powerOp? t).isSome || (multiplicativeOp? t).isSome || (additiveOp? t).isSome ||
    (concatOp? t).isSome || (comparisonOp? t).isSome

theorem rangeArgument?_eq_some {t : Token} {tail : List Token} {e : Expr}
    {r : { r : List Token // r.length < (t :: tail).length }}
    (h : rangeArgument? t tail = some (e, r)) :
    ∃ u v rest, tail = u :: v :: rest ∧ t.kind = .ident ∧ u.kind = .colon ∧ v.kind = .ident ∧
      e = .range (canonicalKey t.text) (canonicalKey v.text) ∧ r.1 = skipSeparator rest := by
  unfold rangeArgument? at h
  split at h
  next start =>
    split at h
    next u v rest =>
      split at h
      next marks =>
        simp only [Bool.and_eq_true, beq_iff_eq] at start marks
        simp only [Option.some.injEq, Prod.mk.injEq] at h
        obtain ⟨rfl, rfl⟩ := h
        exact ⟨u, v, rest, rfl, start, marks.1, marks.2, rfl, rfl⟩
      · cases h
    · cases h
  · cases h

theorem primary_range {t u v : Token} {rest : List Token} (start : t.kind = .ident)
    (colon : u.kind = .colon) (stop : v.kind = .ident) :
    (primary (t :: u :: v :: rest)).expr = .range (canonicalKey t.text) (canonicalKey v.text) ∧
      (primary (t :: u :: v :: rest)).rest = rest := by
  simp [primary, leaf?, start, colon, stop]

theorem unary_of_ident {t : Token} {tail : List Token} (ident : t.kind = .ident) :
    unary (t :: tail) = percent (t :: tail) := by
  simp [unary, isOp, opText?, ident]

theorem comparison_at_range {t u v : Token} {rest : List Token} (start : t.kind = .ident)
    (colon : u.kind = .colon) (stop : v.kind = .ident)
    (quiet : ∀ w ∈ rest.head?, extendsOperand w = false) :
    (comparison (t :: u :: v :: rest)).expr = .range (canonicalKey t.text) (canonicalKey v.text) ∧
      (comparison (t :: u :: v :: rest)).rest = rest := by
  have no : ∀ w ∈ rest.head?, isOp "%" w = false ∧ powerOp? w = none ∧ multiplicativeOp? w = none ∧
      additiveOp? w = none ∧ concatOp? w = none ∧ comparisonOp? w = none := fun w head => by
    simpa [extendsOperand, and_assoc] using quiet w head
  obtain ⟨e0, r0⟩ := @primary_range t u v rest start colon stop
  have s1 : (percent (t :: u :: v :: rest)).expr = (primary (t :: u :: v :: rest)).expr ∧
      (percent (t :: u :: v :: rest)).rest = (primary (t :: u :: v :: rest)).rest := by
    rw [percent_eq, Parsed.widen_expr, Parsed.widen_rest]
    exact percentLoop_stop (by rw [r0]; exact fun w h => (no w h).1)
  rw [← unary_of_ident start, e0, r0] at s1
  obtain ⟨e2, r2⟩ := s1
  obtain ⟨e3, r3⟩ := level_stop (power_eq _) (by rw [r2]; exact fun w h => (no w h).2.1)
  obtain ⟨e4, r4⟩ := level_stop (multiplicative_eq _)
    (by rw [r3, r2]; exact fun w h => (no w h).2.2.1)
  obtain ⟨e5, r5⟩ := level_stop (additive_eq _)
    (by rw [r4, r3, r2]; exact fun w h => (no w h).2.2.2.1)
  obtain ⟨e6, r6⟩ := level_stop (concat_eq _)
    (by rw [r5, r4, r3, r2]; exact fun w h => (no w h).2.2.2.2.1)
  obtain ⟨e7, r7⟩ := level_stop (comparison_eq _)
    (by rw [r6, r5, r4, r3, r2]; exact fun w h => (no w h).2.2.2.2.2)
  exact ⟨by rw [e7, e6, e5, e4, e3, e2], by rw [r7, r6, r5, r4, r3, r2]⟩

theorem quiet_of_comparison_at_range {t u v : Token} {rest : List Token} (start : t.kind = .ident)
    (colon : u.kind = .colon) (stop : v.kind = .ident)
    (plain : (comparison (t :: u :: v :: rest)).expr.isOperator = false) :
    ∀ w ∈ rest.head?, extendsOperand w = false := by
  -- peel the levels from the outside in: each returned its operand level's result untouched
  obtain ⟨e7, r7, cmp⟩ := level_reads_nothing (comparison_eq _) plain
  obtain ⟨e6, r6, amp⟩ := level_reads_nothing (concat_eq _) (e7 ▸ plain)
  obtain ⟨e5, r5, add⟩ := level_reads_nothing (additive_eq _) (e6 ▸ e7 ▸ plain)
  obtain ⟨e4, r4, mul⟩ := level_reads_nothing (multiplicative_eq _) (e5 ▸ e6 ▸ e7 ▸ plain)
  obtain ⟨e3, r3, pow⟩ := level_reads_nothing (power_eq _) (e4 ▸ e5 ▸ e6 ▸ e7 ▸ plain)
  have percentPlain : (percentLoop (primary (t :: u :: v :: rest)).expr
      (primary (t :: u :: v :: rest)).rest).expr.isOperator = false := by
    have := e3 ▸ e4 ▸ e5 ▸ e6 ▸ e7 ▸ plain
    rwa [unary_of_ident start, percent_eq, Parsed.widen_expr] at this
  obtain ⟨-, r1, pct⟩ := percentLoop_reads_nothing percentPlain
  have r2 : (unary (t :: u :: v :: rest)).rest = rest := by
    rw [unary_of_ident start, percent_eq, Parsed.widen_rest, r1, (primary_range start colon stop).2]
  intro w head
  rw [r2] at pow
  rw [r3, r2] at mul
  rw [r4, r3, r2] at add
  rw [r5, r4, r3, r2] at amp
  rw [r6, r5, r4, r3, r2] at cmp
  rw [(primary_range start colon stop).2] at pct
  simp [extendsOperand, pct w head, pow w head, mul w head, add w head, amp w head, cmp w head]

/-- Wherever the shortcut reads an argument `IDENT : IDENT`, it reads the same tree and stops at
the same token as the general production exactly when the token after the range continues no
operand. -/
theorem range_shortcut_agrees_iff {t : Token} {tail : List Token} {e : Expr}
    {r : { r : List Token // r.length < (t :: tail).length }}
    (fast : rangeArgument? t tail = some (e, r)) :
    (e = (comparison (t :: tail)).expr ∧ r.1 = skipSeparator (comparison (t :: tail)).rest) ↔
      ∀ w ∈ (tail.drop 2).head?, extendsOperand w = false := by
  obtain ⟨u, v, rest, rfl, start, colon, stop, rfl, skipped⟩ := rangeArgument?_eq_some fast
  have after : (u :: v :: rest).drop 2 = rest := rfl
  rw [skipped, after]
  constructor
  · rintro ⟨same, -⟩
    exact quiet_of_comparison_at_range start colon stop (by rw [← same]; rfl)
  · intro quiet
    obtain ⟨general, after⟩ := comparison_at_range start colon stop quiet
    exact ⟨general.symm, by rw [after]⟩

theorem range_shortcut_cuts_sum :
    rangeArgument? ⟨.ident, "A1", 4⟩
        [⟨.colon, ":", 6⟩, ⟨.ident, "B2", 7⟩, ⟨.op, "+", 9⟩, ⟨.number, "1", 10⟩] =
      some (.range (canonicalKey "A1") (canonicalKey "B2"),
        ⟨[⟨.op, "+", 9⟩, ⟨.number, "1", 10⟩], by decide⟩) ∧
    ¬ (Expr.range (canonicalKey "A1") (canonicalKey "B2") =
        (comparison [⟨.ident, "A1", 4⟩, ⟨.colon, ":", 6⟩, ⟨.ident, "B2", 7⟩, ⟨.op, "+", 9⟩,
          ⟨.number, "1", 10⟩]).expr ∧
      [⟨.op, "+", 9⟩, ⟨.number, "1", 10⟩] = skipSeparator (comparison [⟨.ident, "A1", 4⟩,
        ⟨.colon, ":", 6⟩, ⟨.ident, "B2", 7⟩, ⟨.op, "+", 9⟩, ⟨.number, "1", 10⟩]).rest) :=
  have fast : rangeArgument? ⟨.ident, "A1", 4⟩
      [⟨.colon, ":", 6⟩, ⟨.ident, "B2", 7⟩, ⟨.op, "+", 9⟩, ⟨.number, "1", 10⟩] =
      some (.range (canonicalKey "A1") (canonicalKey "B2"),
        ⟨[⟨.op, "+", 9⟩, ⟨.number, "1", 10⟩], by decide⟩) :=
    rfl
  ⟨fast, fun agree => absurd ((range_shortcut_agrees_iff fast).1 agree _ rfl) (by decide)⟩

end Spreadsheet.Formula
