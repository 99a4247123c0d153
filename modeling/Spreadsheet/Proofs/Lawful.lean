import Spreadsheet.Proofs.Runs

/-!
Relations the evaluator keeps.

A relation between an evaluation and a specification indexed by a stack is lawful when `pure`,
`throw`, an event that is not a cycle event, bind, and a handler that lets cycles through keep
it. The evaluator keeps every lawful relation for every context whose reads keep it, and only the
reads of the expression evaluated matter: its bare references (`Expr.cellsInOrder`) and its
ranges (`Expr.rangesInOrder`). The call boundary and the lazy functions follow from the laws, and
each case of an expression is one law.
-/

set_option autoImplicit false

namespace Spreadsheet

open Formula Functions Calendar EvalM

def IsCycle {α : Type} (outcome : Except Fault α) : Prop := ∃ path, outcome = .error (.cycle path)

@[simp] theorem isCycle_error {α : Type} {e : Fault} :
    IsCycle (.error e : Except Fault α) ↔ ∃ path, e = .cycle path := by
  simp [IsCycle]

@[simp] theorem not_isCycle_ok {α : Type} (a : α) : ¬ IsCycle (.ok a : Except Fault α) := by
  simp [IsCycle]

@[simp] theorem not_isCycle_toFault {α : Type} (f : Failure) :
    ¬ IsCycle (.error f.toFault : Except Fault α) := by
  cases f <;> simp [Failure.toFault]

/-- A relation between evaluations and specifications from a stack that the operations of
evaluation keep. -/
structure Lawful (R : (α : Type) → EvalM α → (List String → EvalM α) → Prop) : Prop where
  pure {α : Type} (a : α) : R α (Pure.pure a) (fun _ => Pure.pure a)
  throw {α : Type} (f : Fault) : ¬ IsCycle (.error f : Except Fault α) →
    R α (MonadExcept.throw f) (fun _ => MonadExcept.throw f)
  emit (e : Log.Event) : e.kind ≠ .formulaCycle → R Unit (Spreadsheet.emit e) (fun _ => Spreadsheet.emit e)
  bind {α β : Type} {m : EvalM α} {spec : List String → EvalM α} {f : α → EvalM β}
    {g : List String → α → EvalM β} : R α m spec → (∀ a, R β (f a) (fun stack => g stack a)) →
    R β (m >>= f) (fun stack => spec stack >>= g stack)
  tryCatch {α : Type} {m : EvalM α} {spec : List String → EvalM α} {handler : Fault → EvalM α}
    {handler' : List String → Fault → EvalM α} : R α m spec →
    (∀ path, handler (.cycle path) = MonadExcept.throw (.cycle path)) →
    (∀ stack path, handler' stack (.cycle path) = MonadExcept.throw (.cycle path)) →
    (∀ f, ¬ IsCycle (.error f : Except Fault α) → R α (handler f) (fun stack => handler' stack f)) →
    R α (MonadExcept.tryCatch m handler) (fun stack => MonadExcept.tryCatch (spec stack) (handler' stack))

namespace Lawful

variable {R : (α : Type) → EvalM α → (List String → EvalM α) → Prop} (law : Lawful R)
include law

theorem liftOutcome (r : Outcome) :
    R Value (Spreadsheet.liftOutcome r) (fun _ => Spreadsheet.liftOutcome r) := by
  cases r with
  | ok v => exact law.pure v
  | error f => exact law.throw f.toFault (not_isCycle_toFault f)

theorem callBoundary {m : EvalM Value} {spec : List String → EvalM Value} (body : R Value m spec) :
    R Value (Spreadsheet.callBoundary m) (fun stack => Spreadsheet.callBoundary (spec stack)) := by
  refine law.tryCatch body (fun _ => rfl) (fun _ _ => rfl) fun f other => ?_
  cases f with
  | cycle path => exact (other ⟨path, rfl⟩).elim
  | code c => exact law.pure _
  | arith a => exact law.pure _
  | internal r => exact law.throw _ (by simp)

section Lazy

variable {count : Nat} {arg : Nat → EvalM Value} {arg' : List String → Nat → EvalM Value}

theorem argOr (args : ∀ i, R Value (arg i) (fun stack => arg' stack i)) (i : Nat) (default : Value) :
    R Value (LazyForm.argOr count arg i default) (fun stack => LazyForm.argOr count (arg' stack) i default) := by
  by_cases within : i < count <;> simp only [LazyForm.argOr, within, if_true, if_false]
  · exact args i
  · exact law.pure default

theorem firstTrue (args : ∀ i, R Value (arg i) (fun stack => arg' stack i)) (i : Nat) :
    R Value (LazyForm.firstTrue count arg i) (fun stack => LazyForm.firstTrue count (arg' stack) i) := by
  have unfolded : (fun stack => LazyForm.firstTrue count (arg' stack) i) = fun stack =>
      if i + 1 < count then do
        if (← arg' stack i).isTruthy then arg' stack (i + 1)
        else LazyForm.firstTrue count (arg' stack) (i + 2)
      else Pure.pure ErrorCode.notAvailable.toValue := by
    funext stack
    rw [LazyForm.firstTrue]
  rw [unfolded, LazyForm.firstTrue]
  by_cases within : i + 1 < count <;> simp only [within, if_true, if_false]
  · refine law.bind (args i) fun v => ?_
    by_cases truthy : v.isTruthy <;> simp only [truthy, if_true, Bool.false_eq_true, if_false]
    · exact args (i + 1)
    · exact firstTrue args (i + 2)
  · exact law.pure _
termination_by count - i

theorem firstCase (args : ∀ i, R Value (arg i) (fun stack => arg' stack i)) (subject : Value) (i : Nat) :
    R Value (LazyForm.firstCase count arg subject i)
      (fun stack => LazyForm.firstCase count (arg' stack) subject i) := by
  have unfolded : (fun stack => LazyForm.firstCase count (arg' stack) subject i) = fun stack =>
      if i + 1 < count then do
        if Operands.equal subject (← arg' stack i) then arg' stack (i + 1)
        else LazyForm.firstCase count (arg' stack) subject (i + 2)
      else if i < count then arg' stack i
      else Pure.pure ErrorCode.notAvailable.toValue := by
    funext stack
    rw [LazyForm.firstCase]
  rw [unfolded, LazyForm.firstCase]
  by_cases within : i + 1 < count <;> simp only [within, if_true, if_false]
  · refine law.bind (args i) fun v => ?_
    by_cases same : Operands.equal subject v <;> simp only [same, if_true, Bool.false_eq_true, if_false]
    · exact args (i + 1)
    · exact firstCase args subject (i + 2)
  · by_cases last : i < count <;> simp only [last, if_true, if_false]
    · exact args i
    · exact law.pure _
termination_by count - i

theorem lazyRun (args : ∀ i, R Value (arg i) (fun stack => arg' stack i)) (form : LazyForm) :
    R Value (form.run count arg) (fun stack => form.run count (arg' stack)) := by
  cases form <;> simp only [LazyForm.run]
  case ifThen =>
    by_cases none : count = 0 <;> simp only [none, if_true, if_false]
    · exact law.pure _
    · refine law.bind (args 0) fun v => ?_
      by_cases truthy : v.isTruthy <;> simp only [truthy, if_true, Bool.false_eq_true, if_false]
      · exact law.argOr args 1 _
      · exact law.argOr args 2 _
  case ifs => exact law.firstTrue args 0
  case ifError =>
    by_cases none : count = 0 <;> simp only [none, if_true, if_false]
    · exact law.pure _
    · refine law.bind (args 0) fun v => ?_
      by_cases failed : v.isError <;> simp only [failed, if_true, Bool.false_eq_true, if_false]
      · exact law.argOr args 1 _
      · exact law.pure v
  case ifNA =>
    by_cases none : count = 0 <;> simp only [none, if_true, if_false]
    · exact law.pure _
    · refine law.bind (args 0) fun v => ?_
      by_cases missing : v.isNotAvailable <;> simp only [missing, if_true, Bool.false_eq_true, if_false]
      · exact law.argOr args 1 _
      · exact law.pure v
  case switch =>
    by_cases none : count = 0 <;> simp only [none, if_true, if_false]
    · exact law.pure _
    · exact law.bind (args 0) fun subject => law.firstCase args subject 1

end Lazy

section Evaluator

variable {now : DateTime} {ctx : Context} {plain : List String → Context}

def CellsKept (R : (α : Type) → EvalM α → (List String → EvalM α) → Prop) (ctx : Context)
    (plain : List String → Context) (keys : List String) : Prop :=
  ∀ k ∈ keys, R Value (ctx.cellValue k) (fun stack => (plain stack).cellValue k)

def RangesKept (R : (α : Type) → EvalM α → (List String → EvalM α) → Prop) (ctx : Context)
    (plain : List String → Context) (corners : List (String × String)) : Prop :=
  ∀ r ∈ corners, R (List Value) (ctx.rangeValues ⟨r.1, r.2⟩) (fun stack => (plain stack).rangeValues ⟨r.1, r.2⟩)

omit law in
theorem CellsKept.append {keys keys' : List String} (kept : CellsKept R ctx plain (keys ++ keys')) :
    CellsKept R ctx plain keys ∧ CellsKept R ctx plain keys' :=
  ⟨fun k mem => kept k (List.mem_append_left _ mem), fun k mem => kept k (List.mem_append_right _ mem)⟩

omit law in
theorem RangesKept.append {corners corners' : List (String × String)}
    (kept : RangesKept R ctx plain (corners ++ corners')) :
    RangesKept R ctx plain corners ∧ RangesKept R ctx plain corners' :=
  ⟨fun r mem => kept r (List.mem_append_left _ mem), fun r mem => kept r (List.mem_append_right _ mem)⟩

mutual

theorem evalExpr_keeps : ∀ e : Expr, CellsKept R ctx plain e.cellsInOrder →
    RangesKept R ctx plain e.rangesInOrder →
    R Value (evalExpr ctx now e) (fun stack => evalExpr (plain stack) now e)
  | .number _, _, _ | .string _, _, _ | .boolean _, _, _ | .blank, _, _ | .name _, _, _ => law.pure _
  | .cell k, cells, _ => cells k (by simp [Expr.cellsInOrder])
  | .range a b, _, ranges => by
    simp only [evalExpr]
    split
    · exact law.pure _
    · exact law.bind (ranges (a, b) (by simp [Expr.rangesInOrder])) fun _ => law.pure _
  | .binary op l r, cells, ranges => by
    simp only [Expr.cellsInOrder] at cells
    simp only [Expr.rangesInOrder] at ranges
    exact law.bind (evalExpr_keeps l cells.append.1 ranges.append.1) fun _ =>
      law.bind (evalExpr_keeps r cells.append.2 ranges.append.2) fun _ => law.liftOutcome _
  | .unary op x, cells, ranges => by
    simp only [Expr.cellsInOrder] at cells
    simp only [Expr.rangesInOrder] at ranges
    exact law.bind (evalExpr_keeps x cells ranges) fun _ => law.liftOutcome _
  | .call f args, cells, ranges => by
    simp only [Expr.cellsInOrder] at cells
    simp only [Expr.rangesInOrder] at ranges
    simp only [evalExpr]
    cases builtin? now f with
    | none => exact law.pure _
    | some b =>
      cases b with
      | lazy form => exact law.callBoundary (law.lazyRun (evalNth_keeps args cells ranges) form)
      | eager run =>
        exact law.callBoundary (law.bind (evalArgs_keeps args cells ranges) fun _ => law.liftOutcome _)

theorem evalArgs_keeps : ∀ args : List Expr, CellsKept R ctx plain (Expr.cellsInArgs args) →
    RangesKept R ctx plain (Expr.rangesInArgs args) →
    R (List Value) (evalArgs ctx now args) (fun stack => evalArgs (plain stack) now args)
  | [], _, _ => law.pure _
  | a :: rest, cells, ranges => by
    simp only [Expr.cellsInArgs] at cells
    simp only [Expr.rangesInArgs] at ranges
    exact law.bind (evalExpr_keeps a cells.append.1 ranges.append.1) fun _ =>
      law.bind (evalArgs_keeps rest cells.append.2 ranges.append.2) fun _ => law.pure _

theorem evalNth_keeps : ∀ args : List Expr, CellsKept R ctx plain (Expr.cellsInArgs args) →
    RangesKept R ctx plain (Expr.rangesInArgs args) → ∀ i : Nat,
    R Value (evalNth ctx now args i) (fun stack => evalNth (plain stack) now args i)
  | [], _, _, _ => law.pure _
  | a :: _, cells, ranges, 0 => by
    simp only [Expr.cellsInArgs] at cells
    simp only [Expr.rangesInArgs] at ranges
    exact evalExpr_keeps a cells.append.1 ranges.append.1
  | _ :: rest, cells, ranges, i + 1 => by
    simp only [Expr.cellsInArgs] at cells
    simp only [Expr.rangesInArgs] at ranges
    exact evalNth_keeps rest cells.append.2 ranges.append.2 i

end

theorem evalTree_keeps {e : Expr} (cells : CellsKept R ctx plain e.cellsInOrder)
    (ranges : RangesKept R ctx plain e.rangesInOrder) :
    R Value (evalTree ctx now e) (fun stack => evalTree (plain stack) now e) := by
  refine law.tryCatch (law.bind (law.evalExpr_keeps e cells ranges) fun _ => law.pure _)
    (fun _ => rfl) (fun _ _ => rfl) fun f other => ?_
  cases f with
  | cycle path => exact (other ⟨path, rfl⟩).elim
  | code c => exact law.pure _
  | arith a => exact law.bind (law.emit _ (by simp [exceptionEvent])) fun _ => law.pure _
  | internal r => exact law.bind (law.emit _ (by simp [exceptionEvent])) fun _ => law.pure _

theorem mapM_keeps {f : String → EvalM Value} {g : List String → String → EvalM Value} :
    ∀ keys : List String, (∀ k ∈ keys, R Value (f k) (fun stack => g stack k)) →
      R (List Value) (keys.mapM f) (fun stack => keys.mapM (g stack))
  | [], _ => law.pure _
  | k :: rest, each => by
    simp only [List.mapM_cons]
    exact law.bind (each k (List.mem_cons_self ..)) fun _ =>
      law.bind (mapM_keeps rest fun k mem => each k (List.mem_cons_of_mem _ mem)) fun _ => law.pure _

end Evaluator

end Lawful

end Spreadsheet
