import Spreadsheet.Proofs.Lawful
import Spreadsheet.Proofs.References

/-!
What an evaluation reads.

An expression reads cells only through its context, and only at its references: two contexts that
give the same value at every reference, and the same values for every range of referenced cells,
give the same evaluation. The references list the bare references in pre-order, each at its first
occurrence, then the cells of the ranges that are not listed yet, each once; both parts are the
library's first-occurrence `List.eraseDups`, so no cell is listed twice.
-/

set_option autoImplicit false

namespace Spreadsheet

open Calendar

namespace Formula

section Dedup

variable {α : Type} [BEq α] [LawfulBEq α]

theorem eraseDups_nodup : ∀ xs : List α, xs.eraseDups.Nodup
  | [] => List.nodup_nil
  | x :: rest => by
    rw [List.eraseDups_cons]
    refine List.nodup_cons.2 ⟨fun mem => ?_, eraseDups_nodup _⟩
    simpa using (List.mem_filter.1 (List.mem_eraseDups.1 mem)).2
termination_by xs => xs.length
decreasing_by exact Nat.lt_succ_of_le (List.length_filter_le _ _)

theorem eraseDups_of_nodup : ∀ {xs : List α}, xs.Nodup → xs.eraseDups = xs
  | [], _ => rfl
  | x :: rest, nodup => by
    rw [List.nodup_cons] at nodup
    have kept : rest.filter (fun y => !y == x) = rest := by
      refine List.filter_eq_self.2 fun y mem => ?_
      have other : y ≠ x := fun same => nodup.1 (same ▸ mem)
      simpa using other
    rw [List.eraseDups_cons, kept, eraseDups_of_nodup nodup.2]

theorem eraseDups_append_listed {xs ys zs : List α} (listed : ∀ y ∈ ys, y ∈ xs) :
    (xs ++ (ys ++ zs)).eraseDups = (xs ++ zs).eraseDups := by
  have gone : ys.removeAll xs = [] :=
    List.filter_eq_nil_iff.2 fun y mem => by simpa using listed y mem
  rw [List.eraseDups_append, List.eraseDups_append]
  simp only [List.removeAll, List.filter_append] at gone ⊢
  rw [gone, List.nil_append]

theorem dedup_foldl : ∀ (xs acc : List α),
    xs.foldl (fun acc x => if acc.contains x then acc else acc ++ [x]) acc =
      acc ++ (xs.removeAll acc).eraseDups
  | [], acc => by simp
  | x :: rest, acc => by
    rw [List.foldl_cons, List.cons_removeAll]
    by_cases listed : acc.contains x
    · rw [if_pos listed, if_neg (by rw [listed]; decide), dedup_foldl rest acc]
    · rw [if_neg listed, if_pos (by simpa using listed), dedup_foldl rest (acc ++ [x]),
        List.eraseDups_cons, List.append_assoc, List.singleton_append]
      -- what is new after `x` is what was new before, less `x`
      have fresh : rest.removeAll (acc ++ [x]) = (rest.removeAll acc).filter fun y => !y == x := by
        simp only [List.removeAll, List.filter_filter]
        congr 1
        funext y
        by_cases same : y = x <;> simp [same]
      rw [fresh]

theorem dedup_eq_eraseDups (xs : List α) : dedup xs = xs.eraseDups := by
  rw [dedup, dedup_foldl, List.removeAll_nil, List.nil_append]

variable {β : Type} [BEq β] [LawfulBEq β] (f : β → List α)

theorem eraseDups_flatMap_filter (r : β) : ∀ (rest : List β) (listed : List α), (∀ y ∈ f r, y ∈ listed) →
    (listed ++ (rest.filter fun s => !s == r).flatMap f).eraseDups = (listed ++ rest.flatMap f).eraseDups
  | [], _, _ => rfl
  | s :: rest, listed, covered => by
    by_cases same : s = r
    · subst same
      rw [List.filter_cons_of_neg (by simp), List.flatMap_cons, eraseDups_append_listed covered]
      exact eraseDups_flatMap_filter s rest listed covered
    · rw [List.filter_cons_of_pos (by simpa using same), List.flatMap_cons, List.flatMap_cons,
        ← List.append_assoc, ← List.append_assoc]
      exact eraseDups_flatMap_filter r rest (listed ++ f s) fun y mem => List.mem_append_left _ (covered y mem)

theorem eraseDups_flatMap_eraseDups : ∀ (rs : List β) (listed : List α),
    (listed ++ rs.eraseDups.flatMap f).eraseDups = (listed ++ rs.flatMap f).eraseDups
  | [], _ => rfl
  | r :: rest, listed => by
    rw [List.eraseDups_cons, List.flatMap_cons, List.flatMap_cons, ← List.append_assoc, ← List.append_assoc,
      eraseDups_flatMap_eraseDups (rest.filter fun s => !s == r) (listed ++ f r)]
    exact eraseDups_flatMap_filter f r rest _ fun y mem => List.mem_append_right _ mem
termination_by rs => rs.length
decreasing_by exact Nat.lt_succ_of_le (List.length_filter_le _ _)

end Dedup

theorem references_eq (e : Expr) :
    e.references = e.cellsInOrder.eraseDups ++
      ((e.rangesInOrder.flatMap fun r => (Span.mk r.1 r.2).keys).removeAll e.cellsInOrder).eraseDups := by
  rw [Expr.references, Expr.cellRefs, Expr.ranges, dedup_eq_eraseDups, dedup_eq_eraseDups, dedup_eq_eraseDups,
    eraseDups_flatMap_eraseDups, List.eraseDups_append, eraseDups_of_nodup (eraseDups_nodup _)]
  -- removing the first occurrences removes the same cells as removing every occurrence
  simp [List.removeAll, List.mem_eraseDups]

theorem references_nodup (e : Expr) : e.references.Nodup := by
  rw [Expr.references, dedup_eq_eraseDups]
  exact eraseDups_nodup _

end Formula

open Formula

theorem equal_lawful : Lawful (fun _ m spec => m = spec []) where
  pure _ := rfl
  throw _ _ := rfl
  emit _ _ := rfl
  bind first next := by
    rw [first]
    congr 1
    funext a
    exact next a
  tryCatch first passes passes' handled := by
    rw [first]
    congr 1
    funext f
    by_cases cycle : ∃ path, f = .cycle path
    · obtain ⟨path, rfl⟩ := cycle
      rw [passes, passes']
    · exact handled f (by simpa using cycle)

/-- An evaluation reads its context only at its references: contexts that agree there, and on every
range of referenced cells, evaluate it alike. The references list the bare references at their first
occurrence in pre-order, then the range cells not listed yet, each once. -/
theorem evalTree_reads_references {ctx ctx' : Context} (now : DateTime) (e : Expr)
    (cells : ∀ k ∈ e.references, ctx.cellValue k = ctx'.cellValue k)
    (ranges : ∀ span : Span, (∀ k ∈ span.keys, k ∈ e.references) →
      ctx.rangeValues span = ctx'.rangeValues span) :
    evalTree ctx now e = evalTree ctx' now e ∧
      e.references = e.cellsInOrder.eraseDups ++
        ((e.rangesInOrder.flatMap fun r => (Span.mk r.1 r.2).keys).removeAll e.cellsInOrder).eraseDups ∧
      e.references.Nodup :=
  ⟨@Lawful.evalTree_keeps _ equal_lawful now ctx (fun _ => ctx') e
      (fun k mem => cells k (mem_references_of_cell mem))
      (fun _ mem => ranges _ fun _ key => mem_references_of_range mem key),
    references_eq e, references_nodup e⟩

def sumOverRange : Expr := .binary .add (.cell "A1") (.call "SUM" [.range "B1" "B2", .cell "A1"])

def onesBesideC1 (c1 : Value) : Context :=
  ⟨fun k => if k = "C1" then pure c1 else pure (.int 1), fun span => span.keys.mapM fun _ => pure (.int 1)⟩

theorem evalTree_ignores_unread_cell :
    (∀ k ∈ sumOverRange.references, (onesBesideC1 (.int 1)).cellValue k = (onesBesideC1 (.int 2)).cellValue k) ∧
      (∀ span : Span, (∀ k ∈ span.keys, k ∈ sumOverRange.references) →
        (onesBesideC1 (.int 1)).rangeValues span = (onesBesideC1 (.int 2)).rangeValues span) ∧
      (evalTree (onesBesideC1 (.int 1)) default sumOverRange = evalTree (onesBesideC1 (.int 2)) default sumOverRange ∧
        sumOverRange.references = sumOverRange.cellsInOrder.eraseDups ++
          ((sumOverRange.rangesInOrder.flatMap fun r => (Span.mk r.1 r.2).keys).removeAll
            sumOverRange.cellsInOrder).eraseDups ∧
        sumOverRange.references.Nodup) := by
  have listed : sumOverRange.references = ["A1", "B1", "B2"] := by decide +kernel
  have cells : ∀ k ∈ sumOverRange.references,
      (onesBesideC1 (.int 1)).cellValue k = (onesBesideC1 (.int 2)).cellValue k := by
    intro k mem
    have other : k ≠ "C1" := by
      rw [listed] at mem
      rintro rfl
      simp at mem
    simp [onesBesideC1, other]
  have ranges : ∀ span : Span, (∀ k ∈ span.keys, k ∈ sumOverRange.references) →
      (onesBesideC1 (.int 1)).rangeValues span = (onesBesideC1 (.int 2)).rangeValues span :=
    fun _ _ => rfl
  exact ⟨cells, ranges, evalTree_reads_references default sumOverRange cells ranges⟩

end Spreadsheet
