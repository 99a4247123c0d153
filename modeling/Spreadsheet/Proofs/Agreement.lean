import Spreadsheet.Proofs.Dependencies
import Spreadsheet.Proofs.Resolution

/-!
Values that do not depend on the stack.

Plain resolution of a cell settled within `n` ends in the same outcome from every stack that holds
no cell settled within `n`, and that outcome is never a cycle: a cell's value is the value of its
content evaluated as a formula of its own, as `evaluateFormula` evaluates it. The proof is by
induction on `n`, each level through the evaluator's lemma for lawful relations (`Agrees`). The
same lemma gives the value a formula takes in recalculation mode, where formula cells are read
from a table of values: when the table holds the right value of every cell the formula reads, the
formula takes its own right value.
-/

set_option autoImplicit false

namespace Spreadsheet

open Formula Calendar EvalM

theorem EvalM.Yields.unique {α : Type} {m : EvalM α} {r r' : Except Fault α} (first : Yields m r)
    (second : Yields m r') : r = r' := by
  rw [← first {}, ← second {}]

section Agreement

variable (good : List String → Prop)

/-- An evaluation and a specification that end, from every stack in `good`, in one outcome, and
not in a cycle. -/
def Agrees (α : Type) (m : EvalM α) (spec : List String → EvalM α) : Prop :=
  ∃ r, ¬ IsCycle r ∧ Yields m r ∧ ∀ stack, good stack → Yields (spec stack) r

theorem agrees_lawful : Lawful (Agrees good) where
  pure a := ⟨.ok a, not_isCycle_ok a, yields_pure a, fun _ _ => yields_pure a⟩
  throw f quiet := ⟨.error f, quiet, yields_throw f, fun _ _ => yields_throw f⟩
  emit e _ := ⟨.ok (), not_isCycle_ok (), yields_emit e, fun _ _ => yields_emit e⟩
  bind first next := by
    obtain ⟨r, quiet, ran, spec⟩ := first
    cases r with
    | ok a =>
      obtain ⟨r', quiet', ran', spec'⟩ := next a
      exact ⟨r', quiet', ran.bind_ok ran', fun stack g => (spec stack g).bind_ok (spec' stack g)⟩
    | error e =>
      exact ⟨.error e, by simpa using quiet, ran.bind_error _, fun stack g => (spec stack g).bind_error _⟩
  tryCatch first _ _ handlers := by
    obtain ⟨r, quiet, ran, spec⟩ := first
    cases r with
    | ok a => exact ⟨.ok a, quiet, ran.tryCatch_ok _, fun stack g => (spec stack g).tryCatch_ok _⟩
    | error e =>
      obtain ⟨r', quiet', ran', spec'⟩ := handlers e quiet
      exact ⟨r', quiet', ran.tryCatch_error ran', fun stack g => (spec stack g).tryCatch_error (spec' stack g)⟩

variable {good} {α : Type} {m : EvalM α} {spec : List String → EvalM α}

theorem Agrees.mono {good' : List String → Prop} (agrees : Agrees good α m spec)
    (stronger : ∀ stack, good' stack → good stack) : Agrees good' α m spec := by
  obtain ⟨r, quiet, ran, others⟩ := agrees
  exact ⟨r, quiet, ran, fun stack g => others stack (stronger stack g)⟩

theorem Agrees.of_yields {m' : EvalM α} {r : Except Fault α} (agrees : Agrees good α m spec)
    (ran : Yields m r) (ran' : Yields m' r) : Agrees good α m' spec := by
  obtain ⟨r₀, quiet, ran₀, others⟩ := agrees
  obtain rfl := ran₀.unique ran
  exact ⟨r₀, quiet, ran', others⟩

theorem Agrees.at {stack : List String} (agrees : Agrees good α m spec) (g : good stack) :
    Agrees good α (spec stack) spec := by
  obtain ⟨r, quiet, _, others⟩ := agrees
  exact ⟨r, quiet, others stack g, others⟩

end Agreement

section Store

variable (store : Store) (now : DateTime)

/-- A cell's content evaluated from an empty stack as a formula of its own; plain content is
worth its plain value, and a formula with an empty body is blank. -/
def contentValue (k : String) : EvalM Value :=
  match Store.formulaBody? (store.content k) with
  | none => pure (plainValue (store.content k))
  | some body => if body.isEmpty then pure .null else evalTree (plainContext store now []) now (parseBody body)

variable {store now} {n : Nat} {k body : String}

theorem body_agrees {ctx : Context} (settled : store.Settled (n + 1) k)
    (found : Store.formulaBody? (store.content k) = some body)
    (cells : ∀ j, canonicalKey j = j → store.Settled n j →
      Agrees (store.Unsettled n) Value (ctx.cellValue j) (fun stack => plainCell store now stack j))
    (ranges : ∀ span, ctx.rangeValues span = span.keys.mapM ctx.cellValue) :
    Agrees (store.Unsettled n) Value (evalTree ctx now (parseBody body))
      (fun stack => evalTree (plainContext store now stack) now (parseBody body)) := by
  have law := agrees_lawful (store.Unsettled n)
  refine law.evalTree_keeps (fun c mem => ?_) (fun corners mem => ?_)
  · exact cells c (parseBody_cells body c mem) (settled.of_read found (mem_references_of_cell mem))
  · rw [ranges]
    exact law.mapM_keeps _ fun j key =>
      cells j (canonicalKey_of_mem_keys key) (settled.of_read found (mem_references_of_range mem key))

theorem contentValue_agrees : ∀ (n : Nat) (k : String), canonicalKey k = k → store.Settled n k →
    Agrees (store.Unsettled n) Value (contentValue store now k) (fun stack => plainCell store now stack k)
  | 0, k, canon, settled => by
    -- only plain cells are settled within zero
    have plain : Store.formulaBody? (store.content k) = none := by
      by_contra formula
      exact absurd (settled.pos (Option.ne_none_iff_isSome.1 formula)) (Nat.lt_irrefl 0)
    have reads : (fun stack => plainCell store now stack k) = fun _ => pure (plainValue (store.content k)) := by
      funext stack
      rw [plainCell_of_plain (by rwa [canon]), canon]
    simp only [contentValue, plain, reads]
    exact (agrees_lawful _).pure _
  | n + 1, k, canon, settled => by
    by_cases earlier : store.Settled n k
    · exact (contentValue_agrees n k canon earlier).mono fun _ unsettled => unsettled.of_succ
    obtain ⟨body, found⟩ := Store.isFormula_iff.1 (by
      by_contra plain
      exact earlier (Store.settled_of_not_isFormula plain n))
    -- from a stack without `k`, resolving `k` pushes it and evaluates its body
    have pushed : ∀ stack, store.Unsettled (n + 1) stack → plainCell store now stack k =
        if body.isEmpty then pure .null
        else evalTree (plainContext store now (stack ++ [k])) now (parseBody body) := by
      intro stack unsettled
      have unfolded := @plainCell_of_formula store now stack k body (by rwa [canon])
        (by rw [canon]; exact unsettled.not_mem settled)
      rwa [canon] at unfolded
    by_cases empty : body.isEmpty
    · simp only [contentValue, found, empty, if_true]
      refine ⟨.ok .null, not_isCycle_ok _, yields_pure _, fun stack unsettled => ?_⟩
      dsimp only
      rw [pushed stack unsettled, if_pos empty]
      exact yields_pure _
    · have inner : Agrees (store.Unsettled n) Value (evalTree (plainContext store now []) now (parseBody body))
          _ := body_agrees settled found
        (fun j canon' settled' => (contentValue_agrees n j canon' settled').at Store.unsettled_nil)
        (fun _ => rfl)
      obtain ⟨r, quiet, ran, others⟩ := inner
      refine ⟨r, quiet, ?_, fun stack unsettled => ?_⟩
      · simpa [contentValue, found, empty] using ran
      · dsimp only
        rw [pushed stack unsettled, if_neg empty]
        exact others _ (unsettled.push earlier)

theorem evalTree_plain_ok {e : Expr} {r : Except Fault Value} (quiet : ¬ IsCycle r)
    (ran : Yields (evalTree (plainContext store now []) now e) r) : ∃ v, r = .ok v := by
  cases r with
  | ok v => exact ⟨v, rfl⟩
  | error f => exact absurd (evalTree_error_isCycle _ _ _ _ (ran {})) quiet

theorem evaluateFormula_of_yields {text : String} {v : Value} (found : Store.formulaBody? text = some body)
    (nonblank : body.isEmpty = false)
    (ran : Yields (evalTree (plainContext store now []) now (parseBody body)) (.ok v)) :
    (evaluateFormula store now (.str text)).1 = v := by
  rw [evaluateFormula_of_body found nonblank, (evaluateBody_runFresh store now body).1]
  simp [plainFormula, ran {}]

theorem contentValue_evaluated (canon : canonicalKey k = k) (settled : store.Settled n k)
    (found : Store.formulaBody? (store.content k) = some body) :
    Yields (contentValue store now k) (.ok (evaluateFormula store now (.str (store.content k))).1) := by
  obtain ⟨r, quiet, ran, -⟩ := contentValue_agrees n k canon settled
  by_cases empty : body.isEmpty
  · simp [contentValue, evaluateFormula, found, empty, yields_pure]
  · simp only [contentValue, found, empty, Bool.false_eq_true, if_false] at ran ⊢
    obtain ⟨v, rfl⟩ := evalTree_plain_ok quiet ran
    rwa [evaluateFormula_of_yields found (by simpa using empty) ran]

theorem cellValue_computed {C : List (String × Value)} {fuel : Nat} {j : String} :
    cellValue ⟨store, now, some C⟩ fuel j =
      match Store.formulaBody? (store.content (canonicalKey j)) with
      | none => pure (plainValue (store.content (canonicalKey j)))
      | some _ => pure ((C.lookup (canonicalKey j)).getD .null) := by
  rcases found : Store.formulaBody? (store.content (canonicalKey j)) with _ | body
  · simp [cellValue, found]
  · simp [cellValue, found]

theorem runFresh_of_yields {m : EvalM Value} {v : Value} (ran : Yields m (.ok v)) : m.runFresh.1 = v := by
  rw [runFresh_eq]
  rcases outcome : m.exec {} with ⟨_ | w, st⟩
  · simpa [outcome] using ran {}
  · have same : w = v := by simpa [outcome] using ran {}
    rw [same]

theorem computed_evaluated {C : List (String × Value)} (settled : store.Settled (n + 1) k)
    (found : Store.formulaBody? (store.content k) = some body) (nonblank : body.isEmpty = false)
    (correct : ∀ j, store.IsFormula j → store.Settled n j →
      C.lookup j = some (evaluateFormula store now (.str (store.content j))).1) :
    (evaluateBody ⟨store, now, some C⟩ body).runFresh.1 = (evaluateFormula store now (.str (store.content k))).1 := by
  have cells : ∀ j, canonicalKey j = j → store.Settled n j → Agrees (store.Unsettled n) Value
      ((sheetContext ⟨store, now, some C⟩ store.fuel).cellValue j) (fun stack => plainCell store now stack j) := by
    intro j canon settled'
    show Agrees _ _ (cellValue ⟨store, now, some C⟩ store.fuel j) _
    rw [cellValue_computed, canon]
    split
    next plain =>
      have reads : (fun stack => plainCell store now stack j) = fun _ => pure (plainValue (store.content j)) := by
        funext stack
        rw [plainCell_of_plain (by rwa [canon]), canon]
      rw [reads]
      exact (agrees_lawful _).pure _
    next body' found' =>
      -- the table holds the value plain resolution gives the cell from every such stack
      rw [correct j (Store.isFormula_iff.2 ⟨body', found'⟩) settled', Option.getD_some]
      exact (contentValue_agrees n j canon settled').of_yields (contentValue_evaluated canon settled' found')
        (yields_pure _)
  obtain ⟨r, quiet, ran, others⟩ := body_agrees settled found cells (fun _ => rfl)
  obtain ⟨v, rfl⟩ := evalTree_plain_ok quiet (others [] Store.unsettled_nil)
  rw [evaluateFormula_of_yields found nonblank (others [] Store.unsettled_nil)]
  -- recalculation mode evaluates nothing ahead
  have ahead : Yields (resolveAhead ⟨store, now, some C⟩ (parseBody body)) (.ok ()) := fun _ => rfl
  exact runFresh_of_yields ((ahead.bind_ok ran).tryCatch_ok _)

end Store

end Spreadsheet
