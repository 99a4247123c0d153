import Spreadsheet.Sheet.Evaluate
import Spreadsheet.Proofs.Runs

/-!
Plain resolution of cell references.

Plain resolution keeps no memo and evaluates nothing ahead: a reference to a formula cell
evaluates the cell's body afresh with the cell pushed on a stack, and a reference to a cell on
the stack is a cycle. It terminates because every push takes a cell of the store that is not
on the stack yet. `plainFormula` is a formula body resolved this way from an empty stack: its
value, and the path of the cycle when it met one.
-/

set_option autoImplicit false

namespace Spreadsheet

open Formula Calendar EvalM

def Store.unstacked (s : Store) (stack : List String) : Nat :=
  (s.cells.filter fun c => c.1 ∉ stack).length

theorem Store.content_of_lookup_none {s : Store} {key : String} (h : s.cells.lookup key = none) :
    s.content key = "" := by
  simp [Store.content, h]

theorem Store.lookup_of_formulaBody {s : Store} {key body : String}
    (h : Store.formulaBody? (s.content key) = some body) : s.cells.lookup key ≠ none := by
  intro missing
  rw [Store.content_of_lookup_none missing] at h
  simp [Store.formulaBody?] at h

theorem Store.unstacked_push_lt {s : Store} {stack : List String} {key : String}
    (present : s.cells.lookup key ≠ none) (fresh : key ∉ stack) :
    s.unstacked (stack ++ [key]) < s.unstacked stack := by
  obtain ⟨entry, mem, same⟩ : ∃ c ∈ s.cells, key == c.1 := by
    simpa [← Option.isSome_iff_ne_none] using present
  have narrower : s.cells.filter (fun c => c.1 ∉ stack ++ [key]) =
      (s.cells.filter fun c => c.1 ∉ stack).filter (fun c => c.1 ∉ stack ++ [key]) := by
    rw [List.filter_filter]
    congr 1
    funext c
    by_cases h : c.1 ∈ stack <;> simp [h]
  unfold Store.unstacked
  rw [narrower]
  apply Nat.lt_of_le_of_ne (List.length_filter_le _ _)
  intro kept
  rw [List.length_filter_eq_length_iff] at kept
  have gone := kept entry (List.mem_filter.2 ⟨mem, by simpa [← beq_iff_eq.1 same] using fresh⟩)
  simp [← beq_iff_eq.1 same] at gone

-- `present` and `fresh` are read only by the termination proof
set_option linter.unusedVariables false in
def plainCell (store : Store) (now : DateTime) (stack : List String) (cellId : String) :
    EvalM Value :=
  let key := canonicalKey cellId
  match present : Store.formulaBody? (store.content key) with
  | none => pure (plainValue (store.content key))
  | some body =>
    if fresh : key ∈ stack then throw (.cycle (cyclePath stack key))
    else if body.isEmpty then pure .null
    else evalTree ⟨fun k => plainCell store now (stack ++ [key]) k,
      fun span => span.keys.mapM fun k => plainCell store now (stack ++ [key]) k⟩ now (parseBody body)
termination_by store.unstacked stack
decreasing_by
  all_goals exact Store.unstacked_push_lt (Store.lookup_of_formulaBody present) fresh

def plainContext (store : Store) (now : DateTime) (stack : List String) : Context :=
  ⟨plainCell store now stack, fun span => span.keys.mapM (plainCell store now stack)⟩

/-- A formula body resolved plainly from an empty stack: its value, with the path of the cycle
that made it `#CIRC!`. -/
def plainFormula (store : Store) (now : DateTime) (body : String) : Value × Option (List String) :=
  match ((evalTree (plainContext store now []) now (parseBody body)).exec {}).1 with
  | .ok v => (v, none)
  | .error (.cycle path) => (ErrorCode.circular.toValue, some path)
  | .error _ => (ErrorCode.failure.toValue, none)

section

variable {store : Store} {now : DateTime} {stack : List String} {cellId : String}

theorem plainCell_of_plain (h : Store.formulaBody? (store.content (canonicalKey cellId)) = none) :
    plainCell store now stack cellId = pure (plainValue (store.content (canonicalKey cellId))) := by
  rw [plainCell]
  split <;> simp_all

theorem plainCell_of_stacked {body : String}
    (h : Store.formulaBody? (store.content (canonicalKey cellId)) = some body)
    (stacked : canonicalKey cellId ∈ stack) :
    plainCell store now stack cellId = throw (.cycle (cyclePath stack (canonicalKey cellId))) := by
  rw [plainCell]
  split <;> simp_all

theorem plainCell_of_formula {body : String}
    (h : Store.formulaBody? (store.content (canonicalKey cellId)) = some body)
    (fresh : canonicalKey cellId ∉ stack) :
    plainCell store now stack cellId =
      if body.isEmpty then pure .null
      else evalTree (plainContext store now (stack ++ [canonicalKey cellId])) now (parseBody body) := by
  rw [plainCell]
  split
  · simp_all
  · rename_i body' present
    have same : body' = body := by simp_all
    subst same
    simp only [fresh, dite_false]
    rfl

end

end Spreadsheet
