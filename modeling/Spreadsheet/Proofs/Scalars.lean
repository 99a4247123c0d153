import Spreadsheet.Proofs.Builtins
import Spreadsheet.Proofs.Resolution
import Spreadsheet.Sheet.Recalc
import Mathlib

/-!
Formula values are scalars.

`Returns P m` says that every value an evaluation ends in, from any state, satisfies `P`. It is
kept by the operations of evaluation, so the evaluator ends only in flat values when the cells it
reads hold scalars, and `evalTree` reduces a flat value to a scalar. By induction on the cells not
yet on the stack, plain resolution gives every cell a scalar: the value of every formula is a
scalar, and recalculation finds it the same as itself.
-/

set_option autoImplicit false

namespace Spreadsheet

open Formula Functions Calendar EvalM

def Returns {α : Type} (P : α → Prop) (m : EvalM α) : Prop := ∀ st, Ensures P (m.exec st).1

namespace Returns

variable {α β : Type} {P : α → Prop} {Q : β → Prop}

theorem pure {a : α} (holds : P a) : Returns P (Pure.pure a : EvalM α) := by
  intro st
  simpa using holds

theorem throw (f : Fault) : Returns P (MonadExcept.throw f : EvalM α) := by
  intro st
  simp

theorem trivial (m : EvalM α) : Returns (fun _ => True) m := fun _ _ _ => True.intro

theorem bind {m : EvalM α} {f : α → EvalM β} (first : Returns P m) (rest : ∀ a, P a → Returns Q (f a)) :
    Returns Q (m >>= f) := by
  intro st
  rw [exec_bind]
  rcases ran : m.exec st with ⟨_ | a, st'⟩
  · simp
  · exact rest a (first st a (by rw [ran])) st'

theorem tryCatch {m : EvalM α} {handler : Fault → EvalM α} (body : Returns P m)
    (caught : ∀ f, Returns P (handler f)) : Returns P (MonadExcept.tryCatch m handler) := by
  intro st
  rw [exec_tryCatch]
  rcases ran : m.exec st with ⟨_ | a, st'⟩
  · exact caught _ st'
  · simpa using body st a (by rw [ran])

theorem mono {m : EvalM α} {P' : α → Prop} (returns : Returns P m) (implies : ∀ a, P a → P' a) :
    Returns P' m :=
  fun st => (returns st).mono implies

theorem liftOutcome {P : Value → Prop} {r : Outcome} (ensures : Ensures P r) :
    Returns P (Spreadsheet.liftOutcome r) := by
  cases r with
  | ok v => exact pure (ensures v rfl)
  | error f => exact throw _

theorem callBoundary {m : EvalM Value} (body : Returns Value.Flat m) :
    Returns Value.Flat (Spreadsheet.callBoundary m) := by
  refine tryCatch body fun f => ?_
  cases f with
  | code c => exact pure (ErrorCode.flat_toValue c)
  | arith a => exact pure (ErrorCode.flat_toValue _)
  | cycle path => exact throw _
  | internal r => exact throw _

theorem mapM {γ : Type} {f : γ → EvalM α} (each : ∀ x, Returns P (f x)) :
    ∀ xs : List γ, Returns (fun as => ∀ a ∈ as, P a) (xs.mapM f)
  | [] => pure (by simp)
  | x :: rest => by
    simp only [List.mapM_cons]
    exact bind (each x) fun a holds => bind (mapM each rest) fun as all =>
      pure (by simpa [holds] using all)

section Lazy

variable {count : Nat} {arg : Nat → EvalM Value} {P : Value → Prop}

theorem argOr (args : ∀ i, Returns P (arg i)) (i : Nat) {default : Value} (holds : P default) :
    Returns P (LazyForm.argOr count arg i default) := by
  unfold LazyForm.argOr
  split
  · exact args i
  · exact pure holds

theorem firstTrue (args : ∀ i, Returns P (arg i)) (missing : P ErrorCode.notAvailable.toValue) (i : Nat) :
    Returns P (LazyForm.firstTrue count arg i) := by
  rw [LazyForm.firstTrue]
  split
  · refine bind (args i) fun v _ => ?_
    split
    · exact args (i + 1)
    · exact firstTrue args missing (i + 2)
  · exact pure missing
termination_by count - i

theorem firstCase (args : ∀ i, Returns P (arg i)) (missing : P ErrorCode.notAvailable.toValue)
    (subject : Value) (i : Nat) : Returns P (LazyForm.firstCase count arg subject i) := by
  rw [LazyForm.firstCase]
  split
  · refine bind (args i) fun v _ => ?_
    split
    · exact args (i + 1)
    · exact firstCase args missing subject (i + 2)
  · split
    · exact args i
    · exact pure missing
termination_by count - i

theorem lazyRun (args : ∀ i, Returns P (arg i)) (blank : P .null) (empty : P (.str ""))
    (missing : P ErrorCode.notAvailable.toValue) (form : LazyForm) :
    Returns P (form.run count arg) := by
  cases form <;> simp only [LazyForm.run]
  case ifThen =>
    split
    · exact pure blank
    · refine bind (args 0) fun v _ => ?_
      split
      · exact argOr args 1 blank
      · exact argOr args 2 blank
  case ifs => exact firstTrue args missing 0
  case ifError =>
    split
    · exact pure blank
    · refine bind (args 0) fun v holds => ?_
      split
      · exact argOr args 1 empty
      · exact pure holds
  case ifNA =>
    split
    · exact pure blank
    · refine bind (args 0) fun v holds => ?_
      split
      · exact argOr args 1 empty
      · exact pure holds
  case switch =>
    split
    · exact pure missing
    · exact bind (args 0) fun subject _ => firstCase args missing subject 1

end Lazy

end Returns

theorem isScalar_powerValue (a b : Value) : (powerValue a b).isScalar := by
  unfold powerValue
  dsimp only
  split <;> rfl

theorem Formula.BinOp.apply_scalar (op : BinOp) (a b : Value) : Ensures (·.isScalar) (op.apply a b) := by
  cases op <;> simp [BinOp.apply, isScalar_powerValue]

theorem Formula.UnOp.apply_scalar (op : UnOp) (a : Value) : Ensures (·.isScalar) (op.apply a) := by
  cases op <;> simp [UnOp.apply]

theorem eager_of_builtin {now : DateTime} {name : String} {run : List Value → Outcome}
    (found : builtin? now name = some (.eager run)) : eager? now name = some run := by
  unfold builtin? at found
  split at found
  · cases found
  · simpa using found

section Evaluator

variable {ctx : Context} {now : DateTime}

structure ScalarReads (ctx : Context) : Prop where
  cell : ∀ k, Returns (·.isScalar) (ctx.cellValue k)
  range : ∀ span, Returns (fun vs => ∀ v ∈ vs, v.isScalar) (ctx.rangeValues span)

theorem rowsOfWidth_flat {width : Nat} : ∀ (rows : Nat) (cells : List Value), (∀ v ∈ cells, v.isScalar) →
    ∀ row ∈ rowsOfWidth width rows cells, row.Flat
  | 0, _, _ => by simp [rowsOfWidth]
  | n + 1, cells, scalar => by
    simp only [rowsOfWidth, List.mem_cons]
    rintro row (rfl | later)
    · simp only [Value.flat_list]
      exact fun v mem => Value.flat_of_isScalar (scalar v (List.mem_of_mem_take mem))
    · exact rowsOfWidth_flat n _ (fun v mem => scalar v (List.mem_of_mem_drop mem)) row later

mutual

theorem evalExpr_flat (reads : ScalarReads ctx) : ∀ e : Expr, Returns Value.Flat (evalExpr ctx now e)
  | .number _ | .string _ | .boolean _ | .blank | .name _ => Returns.pure (Value.flat_of_isScalar rfl)
  | .cell k => (reads.cell k).mono fun _ => Value.flat_of_isScalar
  | .range a b => by
    simp only [evalExpr]
    split
    · exact Returns.pure (by simp)
    · exact Returns.bind (reads.range _) fun cells scalar =>
        Returns.pure (Value.flat_list.2 (rowsOfWidth_flat _ cells scalar))
  | .binary op l r =>
    Returns.bind (evalExpr_flat reads l) fun a _ => Returns.bind (evalExpr_flat reads r) fun b _ =>
      Returns.liftOutcome (op.apply_scalar a b).flat
  | .unary op x =>
    Returns.bind (evalExpr_flat reads x) fun a _ => Returns.liftOutcome (op.apply_scalar a).flat
  | .call f args => by
    simp only [evalExpr]
    cases found : builtin? now f with
    | none => exact Returns.pure (ErrorCode.flat_toValue _)
    | some b =>
      cases b with
      | lazy form =>
        exact Returns.callBoundary (Returns.lazyRun (evalNth_flat reads args) Value.flat_null
          (Value.flat_of_isScalar rfl) (ErrorCode.flat_toValue _) form)
      | eager run =>
        exact Returns.callBoundary (Returns.bind (evalArgs_flat reads args) fun _ flat =>
          Returns.liftOutcome (eager_flat _ (eager_of_builtin found) flat))

theorem evalArgs_flat (reads : ScalarReads ctx) :
    ∀ args : List Expr, Returns (fun vs => ∀ v ∈ vs, v.Flat) (evalArgs ctx now args)
  | [] => Returns.pure (by simp)
  | a :: rest =>
    Returns.bind (evalExpr_flat reads a) fun _ flat => Returns.bind (evalArgs_flat reads rest) fun _ all =>
      Returns.pure (List.forall_mem_cons.2 ⟨flat, all⟩)

theorem evalNth_flat (reads : ScalarReads ctx) : ∀ (args : List Expr) (i : Nat), Returns Value.Flat (evalNth ctx now args i)
  | [], _ => Returns.pure Value.flat_null
  | a :: _, 0 => evalExpr_flat reads a
  | _ :: rest, i + 1 => evalNth_flat reads rest i

end

theorem isScalar_reduceResult {v : Value} (flat : v.Flat) : (reduceResult v).isScalar := by
  cases v
  case list items =>
    -- a range is reduced to its first cell, or to a blank when it has none
    simp only [reduceResult]
    cases first : (Value.flatAll [.list items]).head? with
    | none => rfl
    | some x => exact flat x (List.mem_of_mem_head? first)
  all_goals
    simp only [reduceResult]
    exact flat _ (by simp [Value.flatAll])

theorem evalTree_scalar (reads : ScalarReads ctx) (e : Expr) : Returns (·.isScalar) (evalTree ctx now e) := by
  refine Returns.tryCatch (Returns.bind (evalExpr_flat reads e) fun v flat =>
    Returns.pure (isScalar_reduceResult flat)) fun f => ?_
  cases f with
  | cycle path => exact Returns.throw _
  | code c => exact Returns.pure (ErrorCode.isScalar_toValue c)
  | arith a => exact Returns.bind (Returns.trivial _) fun _ _ => Returns.pure (ErrorCode.isScalar_toValue _)
  | internal r => exact Returns.bind (Returns.trivial _) fun _ _ => Returns.pure (ErrorCode.isScalar_toValue _)

end Evaluator

theorem isScalar_plainValue (raw : String) : (plainValue raw).isScalar := by
  unfold plainValue
  split
  · rfl
  · split <;> rfl

theorem plainCell_scalar (store : Store) (now : DateTime) (stack : List String) (cellId : String) :
    Returns (·.isScalar) (plainCell store now stack cellId) := by
  rcases found : Store.formulaBody? (store.content (canonicalKey cellId)) with _ | body
  · rw [plainCell_of_plain found]
    exact Returns.pure (isScalar_plainValue _)
  · by_cases stacked : canonicalKey cellId ∈ stack
    · rw [plainCell_of_stacked found stacked]
      exact Returns.throw _
    · rw [plainCell_of_formula found stacked]
      split
      · exact Returns.pure rfl
      · -- the body reads its cells with one more cell on the stack
        have fewer := Store.unstacked_push_lt (Store.lookup_of_formulaBody found) stacked
        exact evalTree_scalar ⟨plainCell_scalar store now _, fun span => Returns.mapM (plainCell_scalar store now _) _⟩ _
termination_by store.unstacked stack

theorem evaluateFormula_scalar (store : Store) (now : DateTime) (text : String) :
    (evaluateFormula store now (.str text)).1.isScalar := by
  rcases found : Store.formulaBody? text with _ | body
  · simp [evaluateFormula, found]
  · by_cases empty : body.isEmpty
    · simp [evaluateFormula, found, empty]
    · rw [evaluateFormula_of_body found (by simpa using empty), (evaluateBody_runFresh store now body).1]
      have reads : ScalarReads (plainContext store now []) :=
        ⟨plainCell_scalar store now [], fun span => Returns.mapM (plainCell_scalar store now []) _⟩
      have scalar := @evalTree_scalar _ now reads (parseBody body) {}
      unfold plainFormula
      split
      next v ran => exact scalar v ran
      next => rfl
      next => rfl

theorem unpacked_beq_self {u : Float.Model.UnpackedFloat} (h : u.isNaN = false) : u.beq u = true := by
  cases u with
  | infinity s => cases s <;> rfl
  | notANumber => cases h
  | zero s => rfl
  | finite s m e _ =>
    cases s <;> simp [Float.Model.UnpackedFloat.beq, Float.Model.UnpackedFloat.compare]

theorem float_same (f : Float) : (f == f || (f.isNaN && f.isNaN)) = true := by
  show (f.toModel.unpack.beq f.toModel.unpack || (f.toModel.unpack.isNaN && f.toModel.unpack.isNaN)) = true
  cases nan : f.toModel.unpack.isNaN
  · rw [unpacked_beq_self nan]
    rfl
  · simp

theorem sameValue_self {v : Value} (scalar : v.isScalar) : sameValue v v = true := by
  cases v
  case float f => exact float_same f
  all_goals simp_all [sameValue, Value.isScalar]

theorem evaluateFormula_same (store : Store) (now : DateTime) (text : String) :
    sameValue (evaluateFormula store now (.str text)).1 (evaluateFormula store now (.str text)).1 = true :=
  sameValue_self (evaluateFormula_scalar store now text)

end Spreadsheet
