import Spreadsheet.Formula.References
import Spreadsheet.Proofs.Keys

/-!
The cells an expression reads.

The parser builds a cell reference only from text that is a reference, and keys it by its
canonical key, so every bare reference of a parsed formula is canonical; so is every key of a
rectangle whose corners are references. Both kinds of cells are among the references of the
expression, which list each of them once.
-/

set_option autoImplicit false

namespace Spreadsheet

namespace Formula

def Expr.CellsCanonical (e : Expr) : Prop := ∀ k ∈ e.cellsInOrder, canonicalKey k = k

namespace Expr.CellsCanonical

theorem of_nil {e : Expr} (h : e.cellsInOrder = []) : e.CellsCanonical := by
  intro k mem
  simp [h] at mem

theorem binary {op : BinOp} {l r : Expr} (left : l.CellsCanonical) (right : r.CellsCanonical) :
    (Expr.binary op l r).CellsCanonical := by
  intro k mem
  rcases List.mem_append.1 mem with mem | mem
  · exact left k mem
  · exact right k mem

theorem unary {op : UnOp} {x : Expr} (canon : x.CellsCanonical) : (Expr.unary op x).CellsCanonical :=
  canon

theorem call {f : String} : ∀ {args : List Expr}, (∀ a ∈ args, a.CellsCanonical) →
    (Expr.call f args).CellsCanonical
  | [], _ => of_nil rfl
  | a :: rest, each => by
    intro k mem
    rcases List.mem_append.1 mem with mem | mem
    · exact each a (List.mem_cons_self ..) k mem
    · exact @call f rest (fun b mem => each b (List.mem_cons_of_mem _ mem)) k mem

end Expr.CellsCanonical

theorem leaf_cells {t : Token} {e : Expr} (h : leaf? t = some e) : e.CellsCanonical := by
  unfold leaf? at h
  split at h <;> cases h <;> exact Expr.CellsCanonical.of_nil rfl

theorem identifier_cells (text : String) : (identifier text).CellsCanonical := by
  unfold identifier
  split
  next parsed =>
    intro k mem
    simp only [Expr.cellsInOrder, List.mem_singleton] at mem
    subst mem
    apply canonicalKey_canonicalKey
    simpa [Ref.parse?] using parsed
  next => exact Expr.CellsCanonical.of_nil rfl

theorem rangeArgument_cells {t : Token} {tail : List Token} {e : Expr}
    {r : { r : List Token // r.length < (t :: tail).length }} (h : rangeArgument? t tail = some (e, r)) :
    e.CellsCanonical := by
  unfold rangeArgument? at h
  split at h
  · split at h
    · split at h
      · cases h
        exact Expr.CellsCanonical.of_nil rfl
      · cases h
    · cases h
  · cases h

mutual

theorem comparisonLoop_cells (left : Expr) (ts : List Token) (canon : left.CellsCanonical) :
    (comparisonLoop left ts).expr.CellsCanonical := by
  cases ts with
  | nil => rw [comparisonLoop]; exact canon
  | cons t tail =>
    rw [comparisonLoop]
    split
    next op _ =>
      have shorter := (concat tail).le
      exact comparisonLoop_cells _ _ (canon.binary (concat_cells tail))
    next => exact canon
termination_by ts.length * 20 + 15
decreasing_by
  all_goals
    try simp only [List.length_cons] at *
    omega

theorem comparison_cells (ts : List Token) : (comparison ts).expr.CellsCanonical := by
  rw [comparison]
  have shorter := (concat ts).le
  exact comparisonLoop_cells _ _ (concat_cells ts)
termination_by ts.length * 20 + 16
decreasing_by all_goals omega

theorem concatLoop_cells (left : Expr) (ts : List Token) (canon : left.CellsCanonical) :
    (concatLoop left ts).expr.CellsCanonical := by
  cases ts with
  | nil => rw [concatLoop]; exact canon
  | cons t tail =>
    rw [concatLoop]
    split
    next op _ =>
      have shorter := (additive tail).le
      exact concatLoop_cells _ _ (canon.binary (additive_cells tail))
    next => exact canon
termination_by ts.length * 20 + 13
decreasing_by
  all_goals
    try simp only [List.length_cons] at *
    omega

theorem concat_cells (ts : List Token) : (concat ts).expr.CellsCanonical := by
  rw [concat]
  have shorter := (additive ts).le
  exact concatLoop_cells _ _ (additive_cells ts)
termination_by ts.length * 20 + 14
decreasing_by all_goals omega

theorem additiveLoop_cells (left : Expr) (ts : List Token) (canon : left.CellsCanonical) :
    (additiveLoop left ts).expr.CellsCanonical := by
  cases ts with
  | nil => rw [additiveLoop]; exact canon
  | cons t tail =>
    rw [additiveLoop]
    split
    next op _ =>
      have shorter := (multiplicative tail).le
      exact additiveLoop_cells _ _ (canon.binary (multiplicative_cells tail))
    next => exact canon
termination_by ts.length * 20 + 11
decreasing_by
  all_goals
    try simp only [List.length_cons] at *
    omega

theorem additive_cells (ts : List Token) : (additive ts).expr.CellsCanonical := by
  rw [additive]
  have shorter := (multiplicative ts).le
  exact additiveLoop_cells _ _ (multiplicative_cells ts)
termination_by ts.length * 20 + 12
decreasing_by all_goals omega

theorem multiplicativeLoop_cells (left : Expr) (ts : List Token) (canon : left.CellsCanonical) :
    (multiplicativeLoop left ts).expr.CellsCanonical := by
  cases ts with
  | nil => rw [multiplicativeLoop]; exact canon
  | cons t tail =>
    rw [multiplicativeLoop]
    split
    next op _ =>
      have shorter := (power tail).le
      exact multiplicativeLoop_cells _ _ (canon.binary (power_cells tail))
    next => exact canon
termination_by ts.length * 20 + 9
decreasing_by
  all_goals
    try simp only [List.length_cons] at *
    omega

theorem multiplicative_cells (ts : List Token) : (multiplicative ts).expr.CellsCanonical := by
  rw [multiplicative]
  have shorter := (power ts).le
  exact multiplicativeLoop_cells _ _ (power_cells ts)
termination_by ts.length * 20 + 10
decreasing_by all_goals omega

theorem powerLoop_cells (left : Expr) (ts : List Token) (canon : left.CellsCanonical) :
    (powerLoop left ts).expr.CellsCanonical := by
  cases ts with
  | nil => rw [powerLoop]; exact canon
  | cons t tail =>
    rw [powerLoop]
    split
    next op _ =>
      have shorter := (unary tail).le
      exact powerLoop_cells _ _ (canon.binary (unary_cells tail))
    next => exact canon
termination_by ts.length * 20 + 7
decreasing_by
  all_goals
    try simp only [List.length_cons] at *
    omega

theorem power_cells (ts : List Token) : (power ts).expr.CellsCanonical := by
  rw [power]
  have shorter := (unary ts).le
  exact powerLoop_cells _ _ (unary_cells ts)
termination_by ts.length * 20 + 8
decreasing_by all_goals omega

theorem unary_cells (ts : List Token) : (unary ts).expr.CellsCanonical := by
  cases ts with
  | nil => rw [unary]; exact percent_cells _
  | cons t tail =>
    rw [unary]
    split
    next => exact (unary_cells tail).unary
    next =>
      split
      next => exact (unary_cells tail).unary
      next => exact percent_cells _
termination_by ts.length * 20 + 6
decreasing_by
  all_goals
    try simp only [List.length_cons] at *
    omega

theorem percent_cells (ts : List Token) : (percent ts).expr.CellsCanonical := by
  rw [percent]
  have shorter := (primary ts).le
  exact percentLoop_cells _ _ (primary_cells ts)
termination_by ts.length * 20 + 5
decreasing_by all_goals omega

theorem percentLoop_cells (node : Expr) (ts : List Token) (canon : node.CellsCanonical) :
    (percentLoop node ts).expr.CellsCanonical := by
  cases ts with
  | nil => rw [percentLoop]; exact canon
  | cons t tail =>
    rw [percentLoop]
    split
    next => exact percentLoop_cells _ tail canon.unary
    next => exact canon
termination_by ts.length * 20 + 4
decreasing_by
  all_goals
    try simp only [List.length_cons] at *
    omega

theorem primary_cells (ts : List Token) : (primary ts).expr.CellsCanonical := by
  cases ts with
  | nil => rw [primary.eq_def]; exact Expr.CellsCanonical.of_nil rfl
  | cons t tail =>
    rw [primary.eq_def]
    dsimp only
    split
    next e found => exact leaf_cells found
    next =>
      split
      next =>
        -- a group: the tree inside the parentheses, whether or not they are closed
        have inner := comparison_cells tail
        split
        next => split <;> exact inner
        next => exact inner
      next =>
        split
        next =>
          cases tail with
          | nil => exact identifier_cells _
          | cons u r =>
            dsimp only
            split
            next =>
              -- a range, whose corners are not cell references
              split
              next => split <;> exact Expr.CellsCanonical.of_nil rfl
              next => exact Expr.CellsCanonical.of_nil rfl
            next =>
              split
              next => exact Expr.CellsCanonical.call (arguments_cells r [] (by simp))
              next => exact identifier_cells _
        next => exact Expr.CellsCanonical.of_nil rfl
termination_by ts.length * 20 + 3
decreasing_by
  all_goals
    try simp only [List.length_cons] at *
    omega

theorem arguments_cells (ts : List Token) (acc : List Expr) (canon : ∀ a ∈ acc, a.CellsCanonical) :
    ∀ a ∈ (arguments ts acc).args, a.CellsCanonical := by
  cases ts with
  | nil => rw [arguments]; exact canon
  | cons t tail =>
    rw [arguments]
    dsimp only
    split
    next => exact canon
    next =>
      split
      next e r shorter found =>
        have fewer : r.length < tail.length + 1 := shorter
        exact arguments_cells r (acc ++ [e]) (by
          simpa [List.mem_append, or_imp, forall_and] using ⟨canon, rangeArgument_cells found⟩)
      next =>
        have extended : ∀ a ∈ acc ++ [(comparison (t :: tail)).expr], a.CellsCanonical := by
          simpa [List.mem_append, or_imp, forall_and] using ⟨canon, comparison_cells (t :: tail)⟩
        split
        next shorter => exact arguments_cells _ _ extended
        next => exact extended
termination_by ts.length * 20 + 17
decreasing_by
  all_goals
    try simp only [List.length_cons] at *
    omega

end

theorem parseBody_cells (body : String) : (parseBody body).CellsCanonical :=
  comparison_cells _

theorem mem_dedup_foldl {α : Type} [BEq α] [LawfulBEq α] (x : α) : ∀ xs acc : List α,
    x ∈ xs.foldl (fun acc y => if acc.contains y then acc else acc ++ [y]) acc ↔ x ∈ acc ∨ x ∈ xs
  | [], acc => by simp
  | y :: xs, acc => by
    rw [List.foldl_cons, mem_dedup_foldl x xs]
    by_cases seen : acc.contains y
    · have : y ∈ acc := by simpa using seen
      simp only [seen, if_true, List.mem_cons]
      constructor
      · rintro (mem | mem)
        · exact Or.inl mem
        · exact Or.inr (Or.inr mem)
      · rintro (mem | rfl | mem)
        · exact Or.inl mem
        · exact Or.inl this
        · exact Or.inr mem
    · simp only [seen, Bool.false_eq_true, if_false, List.mem_append, List.mem_cons, List.not_mem_nil,
        false_or, or_assoc]

@[simp] theorem mem_dedup {α : Type} [BEq α] [LawfulBEq α] {x : α} {xs : List α} :
    x ∈ dedup xs ↔ x ∈ xs := by
  unfold dedup
  rw [mem_dedup_foldl]
  simp

theorem mem_references_of_cell {e : Expr} {k : String} (mem : k ∈ e.cellsInOrder) :
    k ∈ e.references := by
  simp [Expr.references, Expr.cellRefs, mem]

theorem mem_references_of_range {e : Expr} {corners : String × String} {k : String}
    (range : corners ∈ e.rangesInOrder) (mem : k ∈ (Span.mk corners.1 corners.2).keys) :
    k ∈ e.references := by
  simp only [Expr.references, Expr.ranges, mem_dedup, List.mem_append, List.mem_flatMap]
  exact Or.inr ⟨corners, range, mem⟩

end Formula

end Spreadsheet
