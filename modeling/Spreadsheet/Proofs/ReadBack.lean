import Spreadsheet.Proofs.PrintedText

/-!
Printed trees read back.

Parsing the text of a tree that the printer writes faithfully gives the tree back
(`parseBody_render`). The text scans to the tree's tokens (`shapes_tokenize_render`); here the descent
reads those tokens back.

Each precedence level is read by one production (`production`): the binary levels 0 to 4, the prefix
signs at 5, the postfix `%` at 6 and the primaries at 7. Tokens that spell a tree as an operand of
level `L` are read back by every production up to `L`, which stops right after them when the next
token ends the level (`Stops`, `ReadsAt`). At its own binary level a production goes on after the
tree as its loop would (`LoopsAt`), which is how a left operand of the same level grows into a left
associated chain, and the postfix production likewise for `%` (`LoopsPercent`). Parentheses make any
tree a primary. Call arguments are read one at a time up to the `)`: the range shortcut of argument
lists reads a range argument whole, and is taken for no other argument of a printable call, since none
starts with a range. Outside the printable trees the text need not read back: a negative zero and an
argument that starts with a range are two such cases (`render_misreads_outside_printable`).
-/

set_option autoImplicit false

namespace Spreadsheet.Formula

open Number

def production : Nat → (ts : List Token) → Parsed ts
  | 0 => comparison
  | 1 => concat
  | 2 => additive
  | 3 => multiplicative
  | 4 => power
  | 5 => unary
  | 6 => percent
  | _ => primary

def levelOp? : Nat → Token → Option BinOp
  | 0 => comparisonOp?
  | 1 => concatOp?
  | 2 => additiveOp?
  | 3 => multiplicativeOp?
  | _ => powerOp?

theorem production_loop {k : Nat} (binary : k < 5) (ts : List Token) :
    production k ts = (binaryLoop (levelOp? k) (production (k + 1)) (production (k + 1) ts).expr
      (production (k + 1) ts).rest).widen (production (k + 1) ts).le := by
  rcases k with _ | _ | _ | _ | _ | k
  · exact comparison_eq ts
  · exact concat_eq ts
  · exact additive_eq ts
  · exact multiplicative_eq ts
  · exact power_eq ts
  · omega

theorem BinOp.level_lt (op : BinOp) : op.level < 5 := by
  cases op <;> decide

theorem Token.shape_eq {w : Token} {k : TokenKind} {s : String} : w.shape = (k, s) ↔ w.kind = k ∧ w.text = s := by
  simp [Token.shape]

theorem isOp_eq (s : String) (w : Token) : isOp s w = (w.kind == .op && w.text == s) := by
  by_cases op : w.kind = .op <;> simp [isOp, opText?, op]

theorem levelOp?_of_kind {w : Token} (k : Nat) (notOp : w.kind ≠ .op) (notAmp : w.kind ≠ .ampersand) :
    levelOp? k w = none := by
  rcases k with _ | _ | _ | _ | k <;>
    simp [levelOp?, comparisonOp?, concatOp?, additiveOp?, multiplicativeOp?, powerOp?, opText?, notOp, notAmp]

theorem levelOp?_shape (k : Nat) (w : Token) : levelOp? k w = levelOp? k ⟨w.kind, w.text, 0⟩ := by
  rcases k with _ | _ | _ | _ | k <;> rfl

theorem levelOp?_operator (op : BinOp) {w : Token} (spelled : w.shape = (op.kind, op.symbol)) :
    ∀ k < 5, levelOp? k w = if k = op.level then some op else none := by
  obtain ⟨kind, text⟩ := Token.shape_eq.1 spelled
  intro k
  rw [levelOp?_shape, kind, text]
  revert k
  cases op <;> decide

/-- The tokens after an operand read at level `k` end it: the first, if any, is no operator that a
loop at level `k` or above takes, no `%` below the primaries, and neither `:` nor `(`, which would
make a range or a call of a word before it. -/
def Stops (k : Nat) (rest : List Token) : Prop :=
  ∀ w ∈ rest.head?, (∀ j, k ≤ j → j < 5 → levelOp? j w = none) ∧ (k < 7 → isOp "%" w = false) ∧
    w.kind ≠ .colon ∧ w.kind ≠ .lparen

theorem Stops.mono {k k' : Nat} {rest : List Token} (stops : Stops k rest) (le : k ≤ k') : Stops k' rest := by
  intro w head
  obtain ⟨loops, percentEnds, colon, lparen⟩ := stops w head
  exact ⟨fun j above => loops j (by omega), fun below => percentEnds (by omega), colon, lparen⟩

theorem stops_nil (k : Nat) : Stops k [] := by
  simp [Stops]

theorem stops_closer {w : Token} (closer : w.kind = .rparen ∨ w.kind = .comma) (k : Nat) (rest : List Token) :
    Stops k (w :: rest) := by
  have notOp : w.kind ≠ .op := by rcases closer with h | h <;> rw [h] <;> decide
  have notAmp : w.kind ≠ .ampersand := by rcases closer with h | h <;> rw [h] <;> decide
  rintro _ ⟨⟩
  refine ⟨fun j _ _ => levelOp?_of_kind j notOp notAmp, fun _ => by simp [isOp_eq, notOp], ?_, ?_⟩ <;>
    rcases closer with h | h <;> rw [h] <;> decide

theorem stops_operator (op : BinOp) {w : Token} (spelled : w.shape = (op.kind, op.symbol)) {k : Nat}
    (above : op.level < k) (rest : List Token) : Stops k (w :: rest) := by
  obtain ⟨kind, text⟩ := Token.shape_eq.1 spelled
  rintro _ ⟨⟩
  refine ⟨fun j low high => ?_, fun _ => ?_, ?_, ?_⟩
  · rw [levelOp?_operator op spelled j high, if_neg (by omega)]
  · rw [isOp_eq, kind, text]
    cases op <;> decide
  all_goals rw [kind]; cases op <;> decide

theorem stops_primary {w : Token} (kind : w.kind = .op) (rest : List Token) : Stops 7 (w :: rest) := by
  rintro _ ⟨⟩
  exact ⟨fun j low high => by omega, fun below => by omega, by rw [kind]; decide, by rw [kind]; decide⟩

/-- Production `k` reads tokens that spell `ps` as `e`, and stops right after them when what follows
ends level `k`. -/
def ReadsAt (k : Nat) (ps : List (TokenKind × String)) (e : Expr) : Prop :=
  ∀ ts rest, ts.map Token.shape = ps → Stops k rest →
    (production k (ts ++ rest)).expr = e ∧ (production k (ts ++ rest)).rest = rest

/-- Production `k` of a binary level reads tokens that spell `ps`, then goes on as its loop does after
`e`, when what follows ends the levels above. -/
def LoopsAt (k : Nat) (ps : List (TokenKind × String)) (e : Expr) : Prop :=
  ∀ ts rest, ts.map Token.shape = ps → Stops (k + 1) rest →
    (production k (ts ++ rest)).expr = (binaryLoop (levelOp? k) (production (k + 1)) e rest).expr ∧
      (production k (ts ++ rest)).rest = (binaryLoop (levelOp? k) (production (k + 1)) e rest).rest

def LoopsPercent (ps : List (TokenKind × String)) (e : Expr) : Prop :=
  ∀ ts rest, ts.map Token.shape = ps → Stops 7 rest →
    (percent (ts ++ rest)).expr = (percentLoop e rest).expr ∧
      (percent (ts ++ rest)).rest = (percentLoop e rest).rest

def Opens (ps : List (TokenKind × String)) : Prop := ∃ p qs, ps = p :: qs ∧ p.1 ≠ .op

theorem Opens.append {ps : List (TokenKind × String)} (opens : Opens ps) (qs : List (TokenKind × String)) :
    Opens (ps ++ qs) := by
  obtain ⟨p, rest, rfl, notOp⟩ := opens
  exact ⟨p, rest ++ qs, rfl, notOp⟩

variable {ps : List (TokenKind × String)} {e : Expr}

theorem loopsAt_of_readsAt {k : Nat} (binary : k < 5) (reads : ReadsAt (k + 1) ps e) : LoopsAt k ps e := by
  intro ts rest spelled stops
  obtain ⟨expr, after⟩ := reads ts rest spelled stops
  rw [production_loop binary, Parsed.widen_expr, Parsed.widen_rest, expr, after]
  exact ⟨rfl, rfl⟩

theorem readsAt_of_loopsAt {k : Nat} (binary : k < 5) (loops : LoopsAt k ps e) : ReadsAt k ps e := by
  intro ts rest spelled stops
  obtain ⟨expr, after⟩ := loops ts rest spelled (stops.mono (Nat.le_succ k))
  have quiet : ∀ w ∈ rest.head?, levelOp? k w = none := fun w head => (stops w head).1 k le_rfl binary
  obtain ⟨same, stay⟩ := @binaryLoop_stop (levelOp? k) (production (k + 1)) e rest quiet
  exact ⟨expr.trans same, after.trans stay⟩

theorem readsAt_below {k : Nat} (reads : ReadsAt k ps e) (sign : k ≤ 5) : ∀ j ≤ k, ReadsAt j ps e := by
  induction k with
  | zero =>
    intro j low
    rwa [Nat.le_zero.1 low]
  | succ k ih =>
    intro j low
    rcases Nat.lt_or_eq_of_le low with below | rfl
    · exact ih (readsAt_of_loopsAt (by omega) (loopsAt_of_readsAt (by omega) reads)) (by omega) j (by omega)
    · exact reads

theorem loopsPercent_of_readsAt (reads : ReadsAt 7 ps e) : LoopsPercent ps e := by
  intro ts rest spelled stops
  obtain ⟨expr, after⟩ := reads ts rest spelled stops
  change (primary (ts ++ rest)).expr = e at expr
  change (primary (ts ++ rest)).rest = rest at after
  rw [percent_eq, Parsed.widen_expr, Parsed.widen_rest, expr, after]
  exact ⟨rfl, rfl⟩

theorem readsAt_of_loopsPercent (loops : LoopsPercent ps e) : ReadsAt 6 ps e := by
  intro ts rest spelled stops
  obtain ⟨expr, after⟩ := loops ts rest spelled (stops.mono (by omega))
  have quiet : ∀ w ∈ rest.head?, isOp "%" w = false := fun w head => (stops w head).2.1 (by omega)
  obtain ⟨same, stay⟩ := @percentLoop_stop e rest quiet
  exact ⟨expr.trans same, after.trans stay⟩

theorem unary_of_not_op {t : Token} (tail : List Token) (notOp : t.kind ≠ .op) :
    unary (t :: tail) = percent (t :: tail) := by
  simp [unary, isOp, opText?, notOp]

theorem readsAt_unary (opens : Opens ps) (reads : ReadsAt 6 ps e) : ReadsAt 5 ps e := by
  intro ts rest spelled stops
  obtain ⟨p, qs, rfl, notOp⟩ := opens
  obtain ⟨w, ws, rfl, first, -⟩ := List.map_eq_cons_iff.1 spelled
  have kind : w.kind ≠ .op := by
    rw [← first] at notOp
    exact notOp
  show (unary (w :: (ws ++ rest))).expr = e ∧ (unary (w :: (ws ++ rest))).rest = rest
  rw [unary_of_not_op _ kind]
  exact reads (w :: ws) rest spelled (stops.mono (by omega))

/-- Tokens spelling `e` as an operand of level `L`: every production up to `L` reads `e` from them;
at a binary level `L` its production goes on as its loop does; from the postfix level up they open
with no operator and the postfix production goes on as its `%` loop does. -/
structure ReadsOperand (ps : List (TokenKind × String)) (e : Expr) (L : Nat) : Prop where
  reads : ∀ k ≤ L, ReadsAt k ps e
  loops : L < 5 → LoopsAt L ps e
  trailing : 6 ≤ L → LoopsPercent ps e ∧ Opens ps

theorem ReadsOperand.mono {L : Nat} (operand : ReadsOperand ps e L) {L' : Nat} (le : L' ≤ L) :
    ReadsOperand ps e L' where
  reads k low := operand.reads k (by omega)
  loops binary := by
    rcases Nat.lt_or_eq_of_le le with below | rfl
    · exact loopsAt_of_readsAt binary (operand.reads (L' + 1) (by omega))
    · exact operand.loops binary
  trailing high := operand.trailing (by omega)

theorem ReadsOperand.of_loopsAt {k : Nat} (binary : k < 5) (loops : LoopsAt k ps e) : ReadsOperand ps e k where
  reads := readsAt_below (readsAt_of_loopsAt binary loops) (by omega)
  loops _ := loops
  trailing high := absurd high (by omega)

theorem ReadsOperand.of_sign (reads : ReadsAt 5 ps e) : ReadsOperand ps e 5 where
  reads := readsAt_below reads le_rfl
  loops binary := absurd binary (by omega)
  trailing high := absurd high (by omega)

theorem ReadsOperand.of_percent (loops : LoopsPercent ps e) (opens : Opens ps) : ReadsOperand ps e 6 where
  reads k low := by
    rcases Nat.lt_or_eq_of_le low with below | rfl
    · exact readsAt_below (readsAt_unary opens (readsAt_of_loopsPercent loops)) le_rfl k (by omega)
    · exact readsAt_of_loopsPercent loops
  loops binary := absurd binary (by omega)
  trailing _ := ⟨loops, opens⟩

theorem ReadsOperand.of_primary (reads : ReadsAt 7 ps e) (opens : Opens ps) : ReadsOperand ps e 7 where
  reads k low := by
    rcases Nat.lt_or_eq_of_le low with below | rfl
    · exact (ReadsOperand.of_percent (loopsPercent_of_readsAt reads) opens).reads k (by omega)
    · exact reads
  loops binary := absurd binary (by omega)
  trailing _ := ⟨loopsPercent_of_readsAt reads, opens⟩

theorem unary_minus {t : Token} (tail : List Token) (minus : isOp "-" t) :
    (unary (t :: tail)).expr = .unary .neg (unary tail).expr ∧ (unary (t :: tail)).rest = (unary tail).rest := by
  rw [unary, if_pos minus]
  exact ⟨rfl, rfl⟩

theorem unary_plus {t : Token} (tail : List Token) (plus : isOp "+" t) :
    (unary (t :: tail)).expr = .unary .pos (unary tail).expr ∧ (unary (t :: tail)).rest = (unary tail).rest := by
  have minus : isOp "-" t = false := by
    simp only [isOp_eq, Bool.and_eq_true, beq_iff_eq] at plus ⊢
    simp [plus.2]
  rw [unary, if_neg (by simp [minus]), if_pos plus]
  exact ⟨rfl, rfl⟩

theorem percentLoop_percent {t : Token} (node : Expr) (tail : List Token) (pct : isOp "%" t) :
    (percentLoop node (t :: tail)).expr = (percentLoop (.unary .percent node) tail).expr ∧
      (percentLoop node (t :: tail)).rest = (percentLoop (.unary .percent node) tail).rest := by
  rw [percentLoop, if_pos pct]
  exact ⟨rfl, rfl⟩

theorem binaryLoop_operator (opOf : Token → Option BinOp) (operand : (ts : List Token) → Parsed ts)
    (left : Expr) {t : Token} {op : BinOp} (tail : List Token) (found : opOf t = some op) :
    (binaryLoop opOf operand left (t :: tail)).expr =
        (binaryLoop opOf operand (.binary op left (operand tail).expr) (operand tail).rest).expr ∧
      (binaryLoop opOf operand left (t :: tail)).rest =
        (binaryLoop opOf operand (.binary op left (operand tail).expr) (operand tail).rest).rest := by
  rw [binaryLoop, found]
  exact ⟨rfl, rfl⟩

theorem primary_leaf {t : Token} {e : Expr} (tail : List Token) (leaf : leaf? t = some e) :
    (primary (t :: tail)).expr = e ∧ (primary (t :: tail)).rest = tail := by
  rw [primary.eq_def]
  simp [leaf]

theorem primary_group {t u : Token} {tail rest : List Token} {e : Expr} (opening : t.kind = .lparen)
    (closing : u.kind = .rparen) (inner : (comparison tail).expr = e ∧ (comparison tail).rest = u :: rest) :
    (primary (t :: tail)).expr = e ∧ (primary (t :: tail)).rest = rest := by
  obtain ⟨expr, after⟩ := inner
  have notLeaf : leaf? t = none := by simp [leaf?, opening]
  rw [primary.eq_def]
  simp only [notLeaf, opening, beq_self_eq_true, if_true]
  rcases read : comparison tail with ⟨inner, after', le⟩
  rw [read] at expr after
  subst expr after
  simp [closing]

theorem primary_call {t u : Token} (r : List Token) (word : t.kind = .ident) (opening : u.kind = .lparen) :
    (primary (t :: u :: r)).expr = .call t.text.toUpper (arguments r []).args ∧
      (primary (t :: u :: r)).rest = (arguments r []).rest := by
  have notLeaf : leaf? t = none := by simp [leaf?, word]
  rw [primary.eq_def]
  simp only [notLeaf, word, opening]
  exact ⟨rfl, rfl⟩

theorem primary_word {t : Token} {tail : List Token} (word : t.kind = .ident)
    (next : ∀ u ∈ tail.head?, u.kind ≠ .colon ∧ u.kind ≠ .lparen) :
    (primary (t :: tail)).expr = identifier t.text ∧ (primary (t :: tail)).rest = tail := by
  have notLeaf : leaf? t = none := by simp [leaf?, word]
  rw [primary.eq_def]
  cases tail with
  | nil => simp [notLeaf, word]
  | cons u r =>
    obtain ⟨colon, lparen⟩ := next u rfl
    simp [notLeaf, word, colon, lparen]

theorem arguments_close {t : Token} (tail : List Token) (acc : List Expr) (closing : t.kind = .rparen) :
    (arguments (t :: tail) acc).args = acc ∧ (arguments (t :: tail) acc).rest = tail := by
  rw [arguments, if_pos (by simp [closing])]
  exact ⟨rfl, rfl⟩

theorem arguments_shortcut {t : Token} {tail : List Token} {acc : List Expr} {e : Expr}
    {r : { r : List Token // r.length < (t :: tail).length }} (fast : rangeArgument? t tail = some (e, r)) :
    (arguments (t :: tail) acc).args = (arguments r.1 (acc ++ [e])).args ∧
      (arguments (t :: tail) acc).rest = (arguments r.1 (acc ++ [e])).rest := by
  obtain ⟨u, v, rest, -, word, -⟩ := rangeArgument?_eq_some fast
  rw [arguments, if_neg (by simp [word]), fast]
  exact ⟨rfl, rfl⟩

theorem arguments_operand {t : Token} {tail : List Token} (acc : List Expr) (opening : t.kind ≠ .rparen)
    (plain : rangeArgument? t tail = none) :
    (arguments (t :: tail) acc).args =
        (arguments (skipSeparator (comparison (t :: tail)).rest) (acc ++ [(comparison (t :: tail)).expr])).args ∧
      (arguments (t :: tail) acc).rest =
        (arguments (skipSeparator (comparison (t :: tail)).rest) (acc ++ [(comparison (t :: tail)).expr])).rest := by
  have consumed := comparison_consumes t tail
  have skipped := skipSeparator_length (comparison (t :: tail)).rest
  rw [arguments, if_neg (by simp [opening]), plain]
  dsimp only
  rw [dif_pos (by simp only [List.length_cons]; omega)]
  exact ⟨rfl, rfl⟩

theorem loopsAt_binary (op : BinOp) {lps rps : List (TokenKind × String)} {l r : Expr}
    (left : LoopsAt op.level lps l) (right : ReadsAt (op.level + 1) rps r) :
    LoopsAt op.level (lps ++ (op.kind, op.symbol) :: rps) (.binary op l r) := by
  intro ts rest spelled stops
  obtain ⟨tl, tw, rfl, spelledL, spelledW⟩ := List.map_eq_append_iff.1 spelled
  obtain ⟨w, tr, rfl, first, spelledR⟩ := List.map_eq_cons_iff.1 spelledW
  obtain ⟨expr, after⟩ := left tl (w :: (tr ++ rest)) spelledL (stops_operator op first (Nat.lt_succ_self _) _)
  obtain ⟨exprR, afterR⟩ := right tr rest spelledR stops
  have found : levelOp? op.level w = some op := by
    rw [levelOp?_operator op first _ op.level_lt, if_pos rfl]
  obtain ⟨step, stepRest⟩ :=
    binaryLoop_operator _ (production (op.level + 1)) l (tr ++ rest) found
  rw [exprR, afterR] at step stepRest
  rw [List.append_assoc, List.cons_append]
  exact ⟨expr.trans step, after.trans stepRest⟩

theorem readsAt_sign {s : String} {u : UnOp} (sign : s = "-" ∧ u = .neg ∨ s = "+" ∧ u = .pos) {x : Expr}
    (inner : ReadsAt 5 ps x) : ReadsAt 5 ((.op, s) :: ps) (.unary u x) := by
  intro ts rest spelled stops
  obtain ⟨w, ws, rfl, first, spelledTail⟩ := List.map_eq_cons_iff.1 spelled
  obtain ⟨kind, text⟩ := Token.shape_eq.1 first
  obtain ⟨expr, after⟩ := inner ws rest spelledTail stops
  change (unary (ws ++ rest)).expr = x at expr
  change (unary (ws ++ rest)).rest = rest at after
  show (unary (w :: (ws ++ rest))).expr = _ ∧ (unary (w :: (ws ++ rest))).rest = rest
  rcases sign with ⟨rfl, rfl⟩ | ⟨rfl, rfl⟩
  · have minus : isOp "-" w := by simp [isOp_eq, kind, text]
    obtain ⟨step, stepRest⟩ := unary_minus (ws ++ rest) minus
    exact ⟨by rw [step, expr], stepRest.trans after⟩
  · have plus : isOp "+" w := by simp [isOp_eq, kind, text]
    obtain ⟨step, stepRest⟩ := unary_plus (ws ++ rest) plus
    exact ⟨by rw [step, expr], stepRest.trans after⟩

theorem loopsPercent_percent {x : Expr} (inner : LoopsPercent ps x) :
    LoopsPercent (ps ++ [(.op, "%")]) (.unary .percent x) := by
  intro ts rest spelled stops
  obtain ⟨tx, tw, rfl, spelledX, spelledW⟩ := List.map_eq_append_iff.1 spelled
  obtain ⟨w, rfl, first⟩ := List.map_eq_singleton_iff.1 spelledW
  obtain ⟨kind, text⟩ := Token.shape_eq.1 first
  obtain ⟨expr, after⟩ := inner tx (w :: rest) spelledX (stops_primary kind rest)
  have pct : isOp "%" w := by simp [isOp_eq, kind, text]
  obtain ⟨step, stepRest⟩ := percentLoop_percent x rest pct
  rw [List.append_assoc, List.singleton_append]
  exact ⟨expr.trans step, after.trans stepRest⟩

theorem readsAt_group (inner : ReadsAt 0 ps e) : ReadsAt 7 ((.lparen, "(") :: ps ++ [(.rparen, ")")]) e := by
  intro ts rest spelled _
  obtain ⟨tx, tc, rfl, spelledX, spelledC⟩ := List.map_eq_append_iff.1 spelled
  obtain ⟨w, ws, rfl, first, spelledIn⟩ := List.map_eq_cons_iff.1 spelledX
  obtain ⟨c, rfl, last⟩ := List.map_eq_singleton_iff.1 spelledC
  have closing : c.kind = .rparen := (Token.shape_eq.1 last).1
  have read := inner ws (c :: rest) spelledIn (stops_closer (.inl closing) 0 rest)
  show (primary (w :: (ws ++ [c] ++ rest))).expr = e ∧ (primary (w :: (ws ++ [c] ++ rest))).rest = rest
  rw [List.append_assoc, List.singleton_append]
  exact primary_group (Token.shape_eq.1 first).1 closing read

theorem readsAt_leaf {p : TokenKind × String} (leaf : ∀ w : Token, w.shape = p → leaf? w = some e) :
    ReadsAt 7 [p] e := by
  intro ts rest spelled _
  obtain ⟨w, rfl, first⟩ := List.map_eq_singleton_iff.1 spelled
  exact primary_leaf rest (leaf w first)

theorem readsAt_number {f : Float} {m : Nat} {x : Int} (parts : Binary.ofFloat f = .finite false m x) :
    ReadsAt 7 [(.number, Float.shortText f)] (.number f) := by
  obtain ⟨lit, l, chars, scan, -, value⟩ := shortText_literal parts
  rw [if_neg Bool.false_ne_true, List.nil_append] at chars
  refine readsAt_leaf fun w spelled => ?_
  obtain ⟨kind, text⟩ := Token.shape_eq.1 spelled
  simp [leaf?, kind, text, chars, scan, value]

theorem readsAt_string (s : String) : ReadsAt 7 [(.string, s)] (.string s) :=
  readsAt_leaf fun w spelled => by
    obtain ⟨kind, text⟩ := Token.shape_eq.1 spelled
    simp [leaf?, kind, text]

theorem readsAt_truth (b : Bool) : ReadsAt 7 [(.bool, if b then "TRUE" else "FALSE")] (.boolean b) :=
  readsAt_leaf fun w spelled => by
    obtain ⟨kind, text⟩ := Token.shape_eq.1 spelled
    cases b <;> simp [leaf?, kind, text]

theorem readsAt_word (word : String) : ReadsAt 7 [(.ident, word)] (identifier word) := by
  intro ts rest spelled stops
  obtain ⟨t, rfl, first⟩ := List.map_eq_singleton_iff.1 spelled
  obtain ⟨kind, text⟩ := Token.shape_eq.1 first
  rw [← text]
  exact primary_word kind fun u head => ⟨(stops u head).2.2.1, (stops u head).2.2.2⟩

theorem canonicalKey_of_isCanonicalKey {k : String} (canonical : isCanonicalKey k) : canonicalKey k = k := by
  unfold isCanonicalKey at canonical
  split at canonical
  next r parsed =>
    have key : r.key = k := by simpa using canonical
    obtain ⟨row, col⟩ := ref_parse_bounds parsed
    rw [← key]
    exact canonicalKey_key row col
  next => cases canonical

theorem identifier_key {k : String} (canonical : isCanonicalKey k) : identifier k = .cell k := by
  have parsed : (Ref.parse? k).isSome := by
    unfold isCanonicalKey at canonical
    split at canonical
    next r parsed => simp [parsed]
    next => cases canonical
  rw [identifier, if_pos parsed, canonicalKey_of_isCanonicalKey canonical]

theorem identifier_name {text : String} (plain : (Ref.parse? text).isNone) : identifier text = .name text := by
  rw [identifier, if_neg (by simpa [Option.isNone_iff_eq_none] using plain)]

theorem spelled_range {ts : List Token} {a c b : String}
    (spelled : ts.map Token.shape = [(.ident, a), (.colon, c), (.ident, b)]) :
    ∃ t u v, ts = [t, u, v] ∧ t.kind = .ident ∧ t.text = a ∧ u.kind = .colon ∧ v.kind = .ident ∧ v.text = b := by
  obtain ⟨t, tail, rfl, first, spelledTail⟩ := List.map_eq_cons_iff.1 spelled
  obtain ⟨u, tail, rfl, second, spelledTail⟩ := List.map_eq_cons_iff.1 spelledTail
  obtain ⟨v, rfl, third⟩ := List.map_eq_singleton_iff.1 spelledTail
  obtain ⟨word, textA⟩ := Token.shape_eq.1 first
  obtain ⟨word', textB⟩ := Token.shape_eq.1 third
  exact ⟨t, u, v, rfl, word, textA, (Token.shape_eq.1 second).1, word', textB⟩

theorem readsAt_range {a b : String} (start : isCanonicalKey a) (stop : isCanonicalKey b) :
    ReadsAt 7 [(.ident, a), (.colon, ":"), (.ident, b)] (.range a b) := by
  intro ts rest spelled _
  obtain ⟨t, u, v, rfl, word, textA, colon, word', textB⟩ := spelled_range spelled
  obtain ⟨expr, after⟩ := @primary_range t u v rest word colon word'
  rw [textA, textB, canonicalKey_of_isCanonicalKey start, canonicalKey_of_isCanonicalKey stop] at expr
  exact ⟨expr, after⟩

/-- The argument loop reads tokens that spell `ps`, up to and including the closing `)`, as the
arguments `args` after those read so far, and stops right after the `)`. -/
def ArgsRead (ps : List (TokenKind × String)) (args : List Expr) : Prop :=
  ∀ ts rest acc, ts.map Token.shape = ps →
    (arguments (ts ++ rest) acc).args = acc ++ args ∧ (arguments (ts ++ rest) acc).rest = rest

/-- The argument loop reads tokens that spell `ps`, before a `,` or the `)`, as the argument `a`, and
goes on after the separator. -/
def ArgStep (ps : List (TokenKind × String)) (a : Expr) : Prop :=
  ∀ ts w rest acc, ts.map Token.shape = ps → w.kind = .comma ∨ w.kind = .rparen →
    (arguments (ts ++ w :: rest) acc).args = (arguments (skipSeparator (w :: rest)) (acc ++ [a])).args ∧
      (arguments (ts ++ w :: rest) acc).rest = (arguments (skipSeparator (w :: rest)) (acc ++ [a])).rest

theorem skipSeparator_comma {w : Token} (rest : List Token) (comma : w.kind = .comma) :
    skipSeparator (w :: rest) = rest := by
  simp [skipSeparator, comma]

theorem skipSeparator_rparen {w : Token} (rest : List Token) (closing : w.kind = .rparen) :
    skipSeparator (w :: rest) = w :: rest := by
  simp [skipSeparator, closing]

theorem argsRead_nil : ArgsRead [(.rparen, ")")] [] := by
  intro ts rest acc spelled
  obtain ⟨w, rfl, last⟩ := List.map_eq_singleton_iff.1 spelled
  rw [List.append_nil]
  exact arguments_close rest acc (Token.shape_eq.1 last).1

theorem argsRead_last {a : Expr} (step : ArgStep ps a) : ArgsRead (ps ++ [(.rparen, ")")]) [a] := by
  intro ts rest acc spelled
  obtain ⟨ta, tw, rfl, spelledA, spelledW⟩ := List.map_eq_append_iff.1 spelled
  obtain ⟨w, rfl, last⟩ := List.map_eq_singleton_iff.1 spelledW
  have closing : w.kind = .rparen := (Token.shape_eq.1 last).1
  rw [List.append_assoc, List.singleton_append]
  obtain ⟨read, after⟩ := step ta w rest acc spelledA (.inr closing)
  rw [skipSeparator_rparen rest closing] at read after
  obtain ⟨closed, stop⟩ := arguments_close rest (acc ++ [a]) closing
  exact ⟨read.trans closed, after.trans stop⟩

theorem argsRead_comma {a : Expr} {qs : List (TokenKind × String)} {args : List Expr} (step : ArgStep ps a)
    (more : ArgsRead qs args) : ArgsRead (ps ++ (.comma, ",") :: qs) (a :: args) := by
  intro ts rest acc spelled
  obtain ⟨ta, tw, rfl, spelledA, spelledW⟩ := List.map_eq_append_iff.1 spelled
  obtain ⟨w, tq, rfl, first, spelledQ⟩ := List.map_eq_cons_iff.1 spelledW
  have comma : w.kind = .comma := (Token.shape_eq.1 first).1
  rw [List.append_assoc, List.cons_append]
  obtain ⟨read, after⟩ := step ta w (tq ++ rest) acc spelledA (.inl comma)
  rw [skipSeparator_comma _ comma] at read after
  obtain ⟨readMore, afterMore⟩ := more tq rest (acc ++ [a]) spelledQ
  rw [List.append_assoc, List.singleton_append] at readMore
  exact ⟨read.trans readMore, after.trans afterMore⟩

theorem readsAt_call {fn : String} {aps : List (TokenKind × String)} {args : List Expr} (upper : fn.toUpper = fn)
    (inner : ArgsRead (aps ++ [(.rparen, ")")]) args) :
    ReadsAt 7 ((.ident, fn) :: (.lparen, "(") :: aps ++ [(.rparen, ")")]) (.call fn args) := by
  intro ts rest spelled _
  rw [List.cons_append, List.cons_append] at spelled
  obtain ⟨t, tail, rfl, first, spelledTail⟩ := List.map_eq_cons_iff.1 spelled
  obtain ⟨u, ta, rfl, second, spelledArgs⟩ := List.map_eq_cons_iff.1 spelledTail
  obtain ⟨word, text⟩ := Token.shape_eq.1 first
  obtain ⟨read, after⟩ := inner ta rest [] spelledArgs
  obtain ⟨expr, stop⟩ := primary_call (ta ++ rest) word (Token.shape_eq.1 second).1
  rw [text, upper, read, List.nil_append] at expr
  rw [after] at stop
  exact ⟨expr, stop⟩

/-- Tokens that open with `IDENT :`, where the range shortcut of argument lists is taken. -/
def OpensRange (ps : List (TokenKind × String)) : Prop := ∃ a c more, ps = (.ident, a) :: (.colon, c) :: more

theorem opensRange_of_shortcut {t : Token} {tail : List Token} {e : Expr}
    {r : { r : List Token // r.length < (t :: tail).length }} (fast : rangeArgument? t tail = some (e, r)) :
    OpensRange ((t :: tail).map Token.shape) := by
  obtain ⟨u, v, rest, rfl, word, colon, -, -, -⟩ := rangeArgument?_eq_some fast
  exact ⟨t.text, u.text, (v :: rest).map Token.shape, by simp [Token.shape, word, colon]⟩

theorem OpensRange.of_append {xs more : List (TokenKind × String)} {q : TokenKind × String}
    (opens : OpensRange (xs ++ q :: more)) (notColon : q.1 ≠ .colon) (notIdent : q.1 ≠ .ident) :
    OpensRange xs := by
  obtain ⟨a, c, rest, split⟩ := opens
  rcases xs with _ | ⟨x, _ | ⟨y, ys⟩⟩
  · simp only [List.nil_append, List.cons.injEq] at split
    exact absurd (by rw [split.1]) notIdent
  · simp only [List.singleton_append, List.cons.injEq] at split
    exact absurd (by rw [split.2.1]) notColon
  · simp only [List.cons_append, List.cons.injEq] at split
    exact ⟨a, c, ys, by rw [split.1, split.2.1]⟩

theorem arguments_range {a b : String} (start : isCanonicalKey a) (stop : isCanonicalKey b) {ts : List Token}
    (spelled : ts.map Token.shape = [(.ident, a), (.colon, ":"), (.ident, b)]) (r : List Token) (acc : List Expr) :
    (arguments (ts ++ r) acc).args = (arguments (skipSeparator r) (acc ++ [.range a b])).args ∧
      (arguments (ts ++ r) acc).rest = (arguments (skipSeparator r) (acc ++ [.range a b])).rest := by
  obtain ⟨t, u, v, rfl, word, textA, colon, word', textB⟩ := spelled_range spelled
  have skipped := skipSeparator_length r
  have fast : rangeArgument? t (u :: v :: r) =
      some (.range a b, ⟨skipSeparator r, by simp only [List.length_cons] at *; omega⟩) := by
    simp [rangeArgument?, word, colon, word', textA, textB, canonicalKey_of_isCanonicalKey start,
      canonicalKey_of_isCanonicalKey stop]
  exact arguments_shortcut fast

theorem argStep_range {a b : String} (start : isCanonicalKey a) (stop : isCanonicalKey b) :
    ArgStep [(.ident, a), (.colon, ":"), (.ident, b)] (.range a b) :=
  fun _ w rest acc spelled _ => arguments_range start stop spelled (w :: rest) acc

theorem argsRead_shortcut {a b : String} {q : TokenKind × String} {qs : List (TokenKind × String)}
    {args : List Expr} (start : isCanonicalKey a) (stop : isCanonicalKey b) (joined : q.1 ≠ .comma ∧ q.1 ≠ .semicolon)
    (more : ArgsRead (q :: qs) args) :
    ArgsRead ((.ident, a) :: (.colon, ":") :: (.ident, b) :: q :: qs) (.range a b :: args) := by
  intro ts rest acc spelled
  rw [show ((.ident, a) :: (.colon, ":") :: (.ident, b) :: q :: qs : List (TokenKind × String)) =
    [(.ident, a), (.colon, ":"), (.ident, b)] ++ q :: qs from rfl] at spelled
  obtain ⟨tr, tw, rfl, spelledR, spelledW⟩ := List.map_eq_append_iff.1 spelled
  obtain ⟨w, tq, rfl, next, -⟩ := List.map_eq_cons_iff.1 spelledW
  -- the token after the range is no separator, so the shortcut leaves it in place
  have plain : w.kind ≠ .comma ∧ w.kind ≠ .semicolon := by
    rw [← next] at joined
    exact joined
  have kept : skipSeparator (w :: (tq ++ rest)) = w :: (tq ++ rest) := by
    simp [skipSeparator, plain.1, plain.2]
  obtain ⟨read, after⟩ := arguments_range start stop spelledR (w :: (tq ++ rest)) acc
  obtain ⟨readMore, afterMore⟩ := more (w :: tq) rest (acc ++ [.range a b]) spelledW
  rw [kept] at read after
  rw [List.append_assoc, List.singleton_append] at readMore
  rw [List.append_assoc, List.cons_append]
  exact ⟨read.trans readMore, after.trans afterMore⟩

theorem argStep_operand {a : Expr} (first : ReadsAt 0 ps a) (opening : ∃ p qs, ps = p :: qs ∧ p.1 ≠ .rparen)
    (plain : ¬OpensRange ps) : ArgStep ps a := by
  intro ts w rest acc spelled closer
  obtain ⟨p, qs, rfl, notClose⟩ := opening
  obtain ⟨t, tail, rfl, head, spelledTail⟩ := List.map_eq_cons_iff.1 spelled
  have notRparen : t.kind ≠ .rparen := by
    rw [← head] at notClose
    exact notClose
  have noShortcut : rangeArgument? t (tail ++ w :: rest) = none := by
    rcases fast : rangeArgument? t (tail ++ w :: rest) with _ | ⟨e', r⟩
    · rfl
    · have opens := opensRange_of_shortcut fast
      simp only [List.map_cons, List.map_append, head, spelledTail] at opens
      have kinds : w.shape.1 ≠ .colon ∧ w.shape.1 ≠ .ident := by
        rcases closer with kind | kind <;> simp [Token.shape, kind]
      exact absurd (@OpensRange.of_append (p :: qs) _ _ opens kinds.1 kinds.2) plain
  obtain ⟨read, after⟩ := first (t :: tail) (w :: rest) spelled (stops_closer closer.symm 0 rest)
  change (comparison (t :: (tail ++ w :: rest))).expr = a at read
  change (comparison (t :: (tail ++ w :: rest))).rest = w :: rest at after
  obtain ⟨args, argsRest⟩ := arguments_operand acc notRparen noShortcut
  rw [read, after] at args argsRest
  exact ⟨args, argsRest⟩

theorem ReadsOperand.wrap {L : Nat} (operand : ReadsOperand ps e L) (wrap : Bool) {k : Nat}
    (fits : wrap = false → k ≤ L) (low : k ≤ 7) : ReadsOperand (parenthesize wrap ps) e k := by
  cases wrap
  · exact operand.mono (fits rfl)
  · rw [parenthesize, if_pos rfl]
    exact (ReadsOperand.of_primary (readsAt_group (operand.reads 0 (Nat.zero_le _))) ⟨_, _, rfl, by decide⟩).mono low

theorem opening_parenthesize {ps : List (TokenKind × String)} (opening : ∃ p qs, ps = p :: qs ∧ p.1 ≠ .rparen)
    (wrap : Bool) (more : List (TokenKind × String)) :
    ∃ p qs, parenthesize wrap ps ++ more = p :: qs ∧ p.1 ≠ .rparen := by
  cases wrap
  · obtain ⟨p, qs, rfl, notClose⟩ := opening
    exact ⟨p, qs ++ more, rfl, notClose⟩
  · exact ⟨(.lparen, "("), _, by rw [parenthesize, if_pos rfl]; rfl, by decide⟩

theorem pieces_opening : ∀ e : Expr, e.printable → ∃ p qs, e.pieces = p :: qs ∧ p.1 ≠ .rparen
  | .number _, _ | .string _, _ | .boolean _, _ | .cell _, _ | .name _, _ =>
    ⟨_, [], by rw [Expr.pieces], by simp⟩
  | .range _ _, _ => ⟨_, _, by rw [Expr.pieces], by simp⟩
  | .call _ _, _ => ⟨_, _, by rw [Expr.pieces, List.cons_append], by simp⟩
  | .blank, printable => by
    rw [Expr.printable] at printable
    cases printable
  | .binary op l r, printable => by
    simp only [Expr.printable, Bool.and_eq_true] at printable
    rw [Expr.pieces]
    exact opening_parenthesize (pieces_opening l printable.1) _ _
  | .unary .percent x, printable => by
    rw [Expr.printable] at printable
    rw [Expr.pieces]
    exact opening_parenthesize (pieces_opening x printable) _ _
  | .unary .neg _, _ | .unary .pos _, _ => ⟨_, _, by rw [Expr.pieces], by simp⟩

theorem leadsWithRange_of_opensRange : ∀ e : Expr, e.printable → OpensRange e.pieces → e.leadsWithRange
  | .range _ _, _, _ => rfl
  | .binary op l r, printable, opens => by
    simp only [Expr.printable, Bool.and_eq_true] at printable
    rw [Expr.pieces] at opens
    cases wrap : decide (l.level < op.level)
    · -- the left operand is written bare, so its text opens the node's
      rw [wrap, parenthesize, if_neg Bool.false_ne_true] at opens
      have inner := leadsWithRange_of_opensRange l printable.1
        (opens.of_append (by cases op <;> decide) (by cases op <;> decide))
      simp only [decide_eq_false_iff_not, Nat.not_lt] at wrap
      simp [Expr.leadsWithRange, inner, wrap]
    · rw [wrap, parenthesize, if_pos rfl] at opens
      obtain ⟨a, c, more, split⟩ := opens
      simp at split
  | .unary .percent x, printable, opens => by
    rw [Expr.printable] at printable
    rw [Expr.pieces] at opens
    cases wrap : decide (x.level < 6)
    · rw [wrap, parenthesize, if_neg Bool.false_ne_true] at opens
      have inner := leadsWithRange_of_opensRange x printable (opens.of_append (by decide) (by decide))
      simp only [decide_eq_false_iff_not, Nat.not_lt] at wrap
      simp [Expr.leadsWithRange, inner, wrap]
    · rw [wrap, parenthesize, if_pos rfl] at opens
      obtain ⟨a, c, more, split⟩ := opens
      simp at split
  | .unary .neg _, _, opens | .unary .pos _, _, opens | .number _, _, opens | .string _, _, opens
  | .boolean _, _, opens | .call _ _, _, opens | .cell _, _, opens | .name _, _, opens | .blank, _, opens => by
    obtain ⟨a, c, more, split⟩ := opens
    simp [Expr.pieces] at split

theorem char_toUpper_of_not_isLower {c : Char} (notLower : c.isLower = false) : c.toUpper = c := by
  have bounds : ¬(97 ≤ c.toNat ∧ c.toNat ≤ 122) := fun h => by simp [char_isLower_iff.2 h] at notLower
  unfold Char.toUpper
  rw [dif_neg (by rw [char_lower_test_iff]; exact bounds)]

theorem string_toUpper_of_no_lower {s : String} (upper : s.toList.all (fun c => !c.isLower) = true) :
    s.toUpper = s := by
  have chars : s.toList.map Char.toUpper = s.toList := by
    rw [List.all_eq_true] at upper
    conv_rhs => rw [← List.map_id s.toList]
    exact List.map_congr_left fun c mem => char_toUpper_of_not_isLower (by simpa using upper c mem)
  rw [← String.toList_inj, String.toUpper, String.toList_map, chars]

theorem argStep_pieces {a : Expr} (printable : a.printable) (whole : a.leadsWithRange → ∃ s t, a = .range s t)
    (operand : ReadsOperand a.pieces a a.level) : ArgStep a.pieces a := by
  by_cases leads : a.leadsWithRange
  · obtain ⟨s, t, rfl⟩ := whole leads
    simp only [Expr.printable, Bool.and_eq_true] at printable
    exact argStep_range printable.1 printable.2
  · exact argStep_operand (operand.reads 0 (Nat.zero_le _)) (pieces_opening a printable)
      fun opens => leads (leadsWithRange_of_opensRange a printable opens)

mutual

theorem readsOperand_pieces : ∀ e : Expr, e.printable → ReadsOperand e.pieces e e.level
  | .number f, printable => by
    rw [Expr.printable] at printable
    split at printable
    next neg m x parts =>
      cases neg
      · rw [Expr.pieces]
        exact ReadsOperand.of_primary (readsAt_number parts) ⟨_, [], rfl, by simp⟩
      · cases printable
    next => cases printable
  | .string s, _ => by
    rw [Expr.pieces]
    exact ReadsOperand.of_primary (readsAt_string s) ⟨_, [], rfl, by simp⟩
  | .boolean b, _ => by
    rw [Expr.pieces]
    exact ReadsOperand.of_primary (readsAt_truth b) ⟨_, [], rfl, by simp⟩
  | .cell key, printable => by
    rw [Expr.printable] at printable
    have read := readsAt_word key
    rw [identifier_key printable] at read
    rw [Expr.pieces]
    exact ReadsOperand.of_primary read ⟨_, [], rfl, by simp⟩
  | .range a b, printable => by
    simp only [Expr.printable, Bool.and_eq_true] at printable
    rw [Expr.pieces]
    exact ReadsOperand.of_primary (readsAt_range printable.1 printable.2) ⟨_, _, rfl, by simp⟩
  | .name text, printable => by
    simp only [Expr.printable, Bool.and_eq_true, Bool.not_eq_true'] at printable
    have read := readsAt_word text
    rw [identifier_name (by simpa using printable.1.2)] at read
    rw [Expr.pieces]
    exact ReadsOperand.of_primary read ⟨_, [], rfl, by simp⟩
  | .blank, printable => by
    rw [Expr.printable] at printable
    cases printable
  | .call fn args, printable => by
    simp only [Expr.printable, Bool.and_eq_true, Bool.not_eq_true'] at printable
    obtain ⟨⟨⟨-, upper⟩, -⟩, valid⟩ := printable
    rw [Expr.pieces]
    exact ReadsOperand.of_primary
      (readsAt_call (string_toUpper_of_no_lower upper) (argsRead_argumentPieces args valid)) ⟨_, _, rfl, by simp⟩
  | .binary op l r, printable => by
    simp only [Expr.printable, Bool.and_eq_true] at printable
    have binary := op.level_lt
    -- the left operand of the node's own level, the right one a level tighter
    have left := (readsOperand_pieces l printable.1).wrap (decide (l.level < op.level)) (k := op.level)
      (fun bare => by simp only [decide_eq_false_iff_not, Nat.not_lt] at bare; exact bare) (by omega)
    have right := (readsOperand_pieces r printable.2).wrap (decide (r.level ≤ op.level)) (k := op.level + 1)
      (fun bare => by simp only [decide_eq_false_iff_not, Nat.not_le] at bare; exact bare) (by omega)
    rw [Expr.pieces]
    exact ReadsOperand.of_loopsAt binary (loopsAt_binary op (left.loops binary) (right.reads _ le_rfl))
  | .unary .percent x, printable => by
    rw [Expr.printable] at printable
    have operand := (readsOperand_pieces x printable).wrap (decide (x.level < 6)) (k := 6)
      (fun bare => by simp only [decide_eq_false_iff_not, Nat.not_lt] at bare; exact bare) (by omega)
    obtain ⟨loops, opens⟩ := operand.trailing le_rfl
    rw [Expr.pieces]
    exact ReadsOperand.of_percent (loopsPercent_percent loops) (opens.append _)
  | .unary .neg x, printable => by
    rw [Expr.printable] at printable
    have operand := (readsOperand_pieces x printable).wrap (decide (x.level < 5)) (k := 5)
      (fun bare => by simp only [decide_eq_false_iff_not, Nat.not_lt] at bare; exact bare) (by omega)
    rw [Expr.pieces]
    exact ReadsOperand.of_sign (readsAt_sign (.inl ⟨rfl, rfl⟩) (operand.reads 5 le_rfl))
  | .unary .pos x, printable => by
    rw [Expr.printable] at printable
    have operand := (readsOperand_pieces x printable).wrap (decide (x.level < 5)) (k := 5)
      (fun bare => by simp only [decide_eq_false_iff_not, Nat.not_lt] at bare; exact bare) (by omega)
    rw [Expr.pieces]
    exact ReadsOperand.of_sign (readsAt_sign (.inr ⟨rfl, rfl⟩) (operand.reads 5 le_rfl))

theorem argsRead_argumentPieces : ∀ args : List Expr, Expr.printableArguments args →
    ArgsRead (Expr.argumentPieces args ++ [(.rparen, ")")]) args
  | [], _ => by
    rw [Expr.argumentPieces, List.nil_append]
    exact argsRead_nil
  | [a], printable => by
    obtain ⟨first, -, whole⟩ := printableArguments_cons printable
    rw [Expr.argumentPieces]
    exact argsRead_last (argStep_pieces first whole (readsOperand_pieces a first))
  | a :: b :: rest, printable => by
    obtain ⟨first, later, whole⟩ := printableArguments_cons printable
    rw [Expr.argumentPieces, List.append_assoc, List.cons_append]
    exact argsRead_comma (argStep_pieces first whole (readsOperand_pieces a first))
      (argsRead_argumentPieces (b :: rest) later)

end

theorem parseBody_of_readsAt {body : String} {ps : List (TokenKind × String)} {e : Expr}
    (spelled : ((tokenize body).filter (·.kind != .eof)).map Token.shape = ps) (read : ReadsAt 0 ps e) :
    parseBody body = e := by
  have parsed := (read _ [] spelled (stops_nil 0)).1
  rw [List.append_nil] at parsed
  exact parsed

/-- Parsing the text of a tree the printer writes faithfully gives the tree back. -/
theorem parseBody_render {e : Expr} (printable : e.printable) : parseBody e.render = e :=
  parseBody_of_readsAt (shapes_tokenize_render printable) ((readsOperand_pieces e printable).reads 0 (Nat.zero_le _))

theorem parseBody_render_comparison :
    (Expr.binary .lte (.unary .neg (.binary .pow (.cell "A1") (.unary .percent (.number 2.5))))
        (.call "SUM" [.range "A1" "B2", .binary .concat (.string "say \"hi\"") (.boolean true), .name "rate"])).printable ∧
      parseBody (Expr.binary .lte (.unary .neg (.binary .pow (.cell "A1") (.unary .percent (.number 2.5))))
        (.call "SUM" [.range "A1" "B2", .binary .concat (.string "say \"hi\"") (.boolean true), .name "rate"])).render =
      .binary .lte (.unary .neg (.binary .pow (.cell "A1") (.unary .percent (.number 2.5))))
        (.call "SUM" [.range "A1" "B2", .binary .concat (.string "say \"hi\"") (.boolean true), .name "rate"]) :=
  ⟨by decide +kernel, parseBody_render (by decide +kernel)⟩

/-- Two trees that are printable but for one condition each, and do not read back. A zero with its sign bit set is
written `-0.0`, a minus and a literal, which reads back as the negation of the zero without it. A call
argument that starts with a range without being one, as in `F(A1:B2+1.0)`, is cut at the range by the
shortcut of argument lists, and what follows the range is read as a further argument. -/
theorem render_misreads_outside_printable :
    parseBody (Expr.number (-0.0)).render = .unary .neg (.number 0.0) ∧
      parseBody (Expr.call "F" [.binary .add (.range "A1" "B2") (.number 1.0)]).render =
        .call "F" [.range "A1" "B2", .unary .pos (.number 1.0)] := by
  constructor
  case left =>
    have same : (Expr.number (-0.0)).render = (Expr.unary .neg (.number 0.0)).render := by decide
    have printable : (Expr.unary .neg (.number 0.0)).printable := by decide +kernel
    rw [same]
    exact parseBody_of_readsAt (shapes_tokenize_render printable)
      ((readsOperand_pieces _ printable).reads 0 (Nat.zero_le _))
  case right =>
    have keys : isCanonicalKey "A1" ∧ isCanonicalKey "B2" := by decide +kernel
    have sum : (Expr.binary .add (.range "A1" "B2") (.number 1.0)).printable := by decide +kernel
    have sign : (Expr.unary .pos (.number 1.0)).printable := by decide +kernel
    -- the call's text scans to its tokens, the sum's `+` among them, though the call is not printable
    have argument : ScansAs (Expr.argumentPieces [.binary .add (.range "A1" "B2") (.number 1.0)]) := by
      rw [Expr.argumentPieces]
      exact (operandText_pieces _ sum).scans
    have call : ScansAs (Expr.call "F" [.binary .add (.range "A1" "B2") (.number 1.0)]).pieces := by
      rw [Expr.pieces]
      exact (operandText_call (by decide +kernel) (by decide +kernel) argument).scans
    -- the shortcut reads the range, then the loop reads `+1.0` up to the `)`
    have last : ArgsRead ((Expr.unary .pos (.number 1.0)).pieces ++ [(.rparen, ")")]) [.unary .pos (.number 1.0)] :=
      argsRead_last (argStep_pieces sign (fun leads => by simp [Expr.leadsWithRange] at leads)
        (readsOperand_pieces _ sign))
    have args : ArgsRead ([(.ident, "A1"), (.colon, ":"), (.ident, "B2")] ++
        (Expr.unary .pos (.number 1.0)).pieces ++ [(.rparen, ")")]) [.range "A1" "B2", .unary .pos (.number 1.0)] :=
      argsRead_shortcut keys.1 keys.2 (by decide) last
    have read := ReadsOperand.of_primary (readsAt_call (by decide +kernel : "F".toUpper = "F") args) ⟨_, _, rfl, by simp⟩
    exact parseBody_of_readsAt (by rw [shapes_tokenize_of_scansAs call]; rfl) (read.reads 0 (by omega))

end Spreadsheet.Formula
