import Spreadsheet.Proofs.Passes
import Spreadsheet.Proofs.Scalars
import Mathlib

/-!
Recalculation of a store whose dependency paths are bounded.

When no dependency path has more than `L` formula cells, the passes settle one more level each,
and the pass after the last level judges nothing changed: a recalculation allowed `L + 1` passes
converges within them. Its values are those `evaluateFormula` gives exactly when one more pass
would leave the table as it is. The comparison that stops the passes is weaker than that: it takes
`0.0` and `-0.0` for the same, so a pass can stop with a value that a later pass would still
change.
-/

set_option autoImplicit false

namespace Spreadsheet

open Calendar

variable {store : Store} {now : DateTime}

theorem recalcPass_lookup_isSome {j : String} : ∀ (fs : List (String × String)) (C : List (String × Value))
    (changed : Bool) (events : Array Log.Event), (C.lookup j).isSome ∨ j ∈ fs.map Prod.fst →
    ((recalcPass store now fs (C, changed, events)).1.lookup j).isSome
  | [], _, _, _, present => by simpa [recalcPass] using present
  | (key, body) :: rest, C, changed, events, present => by
    obtain ⟨added, step⟩ := recalcPass_cons store now key body rest C changed events
    rw [step]
    refine recalcPass_lookup_isSome rest _ _ _ ?_
    -- the head cell is written now, and every other cell is left as it was
    rw [lookup_setComputed]
    by_cases same : j = key
    · simp [same]
    · simpa [same] using present

theorem recalcValues_nodup : ∀ n, ((recalcValues store now n).map Prod.fst).Nodup
  | 0 => List.nodup_nil
  | n + 1 => recalcPass_nodup _ _ _ _ (recalcValues_nodup n)

theorem recalcValues_isSome {k : String} (formula : store.IsFormula k) :
    ∀ n, 0 < n → ((recalcValues store now n).lookup k).isSome
  | n + 1, _ => by
    obtain ⟨body, found⟩ := Store.isFormula_iff.1 formula
    exact recalcPass_lookup_isSome _ _ _ _ (.inr (List.mem_map.2 ⟨(k, body), mem_formulaCells found, rfl⟩))

theorem lookup_results {C : List (String × Value)} {k : String} (formula : store.IsFormula k) :
    ∀ {cells : List (String × Value)}, k ∈ cells.map Prod.fst →
      ((cells.map fun e => (e.1, store.content e.1)).map fun e =>
        if store.formulaCells.any (·.1 == e.1) then (e.1, (C.lookup e.1).getD .null) else (e.1, .str e.2)).lookup k =
      some ((C.lookup k).getD .null)
  | [], present => by simp at present
  | e :: rest, present => by
    by_cases same : e.1 = k
    · obtain ⟨body, found⟩ := Store.isFormula_iff.1 formula
      have listed : store.formulaCells.any (·.1 == k) = true :=
        List.any_eq_true.2 ⟨(k, body), mem_formulaCells found, by simp⟩
      simp [same, listed]
    · have later : k ∈ rest.map Prod.fst := by
        simpa [Ne.symm same] using present
      have other : (k == e.1) = false := beq_false_of_ne (Ne.symm same)
      have found := @lookup_results C k formula rest later
      simp only [List.map_cons]
      split <;> simpa [List.lookup, other] using found

theorem mem_cells_of_isFormula {k : String} (formula : store.IsFormula k) : k ∈ store.cells.map Prod.fst := by
  obtain ⟨body, found⟩ := Store.isFormula_iff.1 formula
  obtain ⟨e, mem, same⟩ := List.lookup_isSome_iff.1
    (Option.isSome_iff_ne_none.2 (Store.lookup_of_formulaBody found))
  exact List.mem_map.2 ⟨e, mem, (beq_iff_eq.1 same).symm⟩

/-- A recalculation of a store whose dependency paths have at most `L` formula cells, allowed at
least `L + 1` passes, converges within `L + 1` passes; its values are those `evaluateFormula`
gives every formula cell exactly when one more pass would leave them as they are. -/
theorem recalculate_correct_iff_fixed {L : Nat} {cap : Int} (nodup : (store.cells.map Prod.fst).Nodup)
    (bounded : ∀ path, store.DependencyPath path → path.length ≤ L) (enough : (L : Int) + 1 ≤ cap) :
    ∃ result events, recalculate store now (.int cap) = .ok (result, events) ∧
      result.converged = true ∧ result.iterations ≤ L + 1 ∧
      ((∀ k, store.IsFormula k →
          result.values.lookup k = some (evaluateFormula store now (.str (store.content k))).1) ↔
        recalcValues store now (result.iterations + 1) = recalcValues store now result.iterations) := by
  have all := Store.settled_of_bounded bounded
  obtain ⟨m, events, loop, started, upto⟩ := recalcLoop_settles all nodup
    (fun k _ => evaluateFormula_same store now (store.content k)) cap.toNat 0 #[] (Nat.zero_le L) (by omega)
  obtain ⟨emitted, ran⟩ := recalculate_int (by omega) loop
  refine ⟨_, emitted, ran, rfl, upto, ?_⟩
  dsimp only
  constructor
  · -- every value is right, so the final table holds them all and a pass keeps it
    intro right
    have solves : Solves store now L (recalcValues store now m) := by
      intro j formula _
      have value := right j formula
      rw [lookup_results formula (mem_cells_of_isFormula formula), Option.some.injEq] at value
      obtain ⟨v, held⟩ := Option.isSome_iff_exists.1 (recalcValues_isSome formula m started)
      rw [held, Option.getD_some] at value
      rw [held, value]
    show (recalcPass store now store.formulaCells (recalcValues store now m, false, #[])).1 = _
    exact recalcPass_table_of_solves all _ formulaCells_body _ _ _ (recalcValues_nodup m) solves
  · -- a table that a pass keeps holds the value of every formula cell
    intro fixed k formula
    have held := solves_of_fixed nodup fixed L k formula (all k)
    rw [lookup_results formula (mem_cells_of_isFormula formula), held, Option.getD_some]

def joinedTexts : Store := ⟨[("A1", .str "=\"a\"&\"b\""), ("B1", .str "7")]⟩

theorem recalculate_joined_texts :
    (joinedTexts.cells.map Prod.fst).Nodup ∧
      (∀ path, joinedTexts.DependencyPath path → path.length ≤ 1) ∧ ((1 : Nat) : Int) + 1 ≤ 2 ∧
      ∃ result events, recalculate joinedTexts default (.int 2) = .ok (result, events) ∧
        result.converged = true ∧ result.iterations ≤ 1 + 1 ∧
        ((∀ k, joinedTexts.IsFormula k →
            result.values.lookup k = some (evaluateFormula joinedTexts default (.str (joinedTexts.content k))).1) ↔
          recalcValues joinedTexts default (result.iterations + 1) =
            recalcValues joinedTexts default result.iterations) := by
  have nodup : (joinedTexts.cells.map Prod.fst).Nodup := by decide
  have quiet : ∀ k, Formula.formulaReferences (joinedTexts.content k) = [] := by
    intro k
    by_cases first : k = "A1"
    · subst first
      decide +kernel
    · by_cases second : k = "B1"
      · subst second
        decide +kernel
      · -- any other cell is empty
        have empty : joinedTexts.content k = "" := by
          simp [joinedTexts, Store.content, List.lookup, beq_false_of_ne first, beq_false_of_ne second]
        rw [empty]
        decide +kernel
  have bounded : ∀ path, joinedTexts.DependencyPath path → path.length ≤ 1 :=
    Store.path_length_le_one fun k j reads => by simpa [quiet k] using reads.2.2
  exact ⟨nodup, bounded, by decide, recalculate_correct_iff_fixed nodup bounded (by decide)⟩

end Spreadsheet
