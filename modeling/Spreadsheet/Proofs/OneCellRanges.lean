import Spreadsheet.Proofs.RangeArguments
import Spreadsheet.Proofs.Scalars

/-!
A reference to a cell against the range of that one cell.

Where the reference `X` evaluates to `v`, the range `X:X` evaluates to one row of one cell, `[[v]]`.
The operators, most arguments of the built-in functions, and the reduction of a result to its
first cell read the two alike, so replacing the reference by the range changes nothing there. An
argument read raw (`readsRaw`) can tell them apart, and so can a lazy function's argument that is
returned as the function's result and then read raw: `IFERROR(X:X, "x")` keeps the error of `X`
that `IFERROR(X, "x")` replaces.

`Widened P X Q e e'` says that `e'` is `e` with references to `X` replaced by the range where
nothing reads raw a value the cell can take (one satisfying `P`). Evaluations are compared side
by side (`Alike`): from every state they reach the same state, and fail alike or return related
values. The main theorem, `evalTree_widened`, gives equal evaluations in every context whose range
`X:X` reads the cell `X`.
-/

set_option autoImplicit false

namespace Spreadsheet

open Formula Functions Calendar EvalM Value

/-- `a'` is `a`, or the one-cell range of `a` where `Q` accepts `a`. -/
def Widens (Q : Value → Prop) (a a' : Value) : Prop := a' = a ∨ (Q a ∧ a' = oneCell a)

namespace Widens

variable {Q Q' : Value → Prop} {a a' b b' : Value}

theorem refl (Q : Value → Prop) (a : Value) : Widens Q a a := .inl rfl

theorem mono (implies : ∀ v, Q v → Q' v) : Widens Q a a' → Widens Q' a a'
  | .inl same => .inl same
  | .inr ⟨holds, widened⟩ => .inr ⟨implies a holds, widened⟩

theorem isTruthy (w : Widens Q a a') : a'.isTruthy = a.isTruthy := by
  rcases w with rfl | ⟨-, rfl⟩ <;> simp

theorem equal (w : Widens Q a a') (w' : Widens Q' b b') : Operands.equal a' b' = Operands.equal a b := by
  rcases w with rfl | ⟨-, rfl⟩ <;> rcases w' with rfl | ⟨-, rfl⟩ <;> simp [Operands.equal]

theorem binary (op : BinOp) (w : Widens Q a a') (w' : Widens Q' b b') : op.apply a' b' = op.apply a b := by
  rcases w with rfl | ⟨-, rfl⟩ <;> rcases w' with rfl | ⟨-, rfl⟩ <;> simp

theorem unary (op : UnOp) (w : Widens Q a a') : op.apply a' = op.apply a := by
  rcases w with rfl | ⟨-, rfl⟩ <;> simp

theorem reduce (w : Widens Q a a') : Spreadsheet.reduceResult a' = Spreadsheet.reduceResult a := by
  rcases w with rfl | ⟨-, rfl⟩
  · rfl
  · cases a <;> simp [Spreadsheet.reduceResult, flatAll]

end Widens

def Matches {α β : Type} (R : α → β → Prop) : Except Fault α → Except Fault β → Prop
  | .ok a, .ok b => R a b
  | .error e, .error e' => e' = e
  | _, _ => False

def Alike {α β : Type} (R : α → β → Prop) (m : EvalM α) (m' : EvalM β) : Prop :=
  ∀ st, (m'.exec st).2 = (m.exec st).2 ∧ Matches R (m.exec st).1 (m'.exec st).1

theorem EvalM.ext {α : Type} {m m' : EvalM α} (same : ∀ st, m'.exec st = m.exec st) : m' = m :=
  funext same

namespace Alike

variable {α β γ δ : Type} {R : α → β → Prop} {S : γ → δ → Prop}

theorem pure {a : α} {b : β} (related : R a b) : Alike R (Pure.pure a : EvalM α) (Pure.pure b) :=
  fun _ => ⟨rfl, related⟩

theorem refl {R : α → α → Prop} (reflexive : ∀ a, R a a) (m : EvalM α) : Alike R m m := by
  intro st
  refine ⟨rfl, ?_⟩
  rcases m.exec st with ⟨_ | a, _⟩
  · rfl
  · exact reflexive a

theorem mono {R' : α → β → Prop} {m : EvalM α} {m' : EvalM β} (alike : Alike R m m')
    (implies : ∀ a b, R a b → R' a b) : Alike R' m m' := by
  intro st
  obtain ⟨same, outcome⟩ := alike st
  refine ⟨same, ?_⟩
  revert outcome
  rcases (m.exec st).1 with _ | a <;> rcases (m'.exec st).1 with _ | b
  · exact id
  · exact False.elim
  · exact False.elim
  · exact implies a b

theorem bind {m : EvalM α} {m' : EvalM β} {f : α → EvalM γ} {f' : β → EvalM δ} (first : Alike R m m')
    (rest : ∀ a b, R a b → Alike S (f a) (f' b)) : Alike S (m >>= f) (m' >>= f') := by
  intro st
  obtain ⟨same, outcome⟩ := first st
  rw [exec_bind, exec_bind]
  revert same outcome
  rcases m.exec st with ⟨_ | a, s⟩ <;> rcases m'.exec st with ⟨_ | b, s'⟩
  all_goals simp only [Matches]
  · intro same failed
    exact ⟨same, failed⟩
  · intro _ impossible
    exact impossible.elim
  · intro _ impossible
    exact impossible.elim
  · intro same related
    rw [same]
    exact rest a b related s

theorem tryCatch {m : EvalM α} {m' : EvalM β} {h : Fault → EvalM α} {h' : Fault → EvalM β}
    (body : Alike R m m') (caught : ∀ f, Alike R (h f) (h' f)) :
    Alike R (MonadExcept.tryCatch m h) (MonadExcept.tryCatch m' h') := by
  intro st
  obtain ⟨same, outcome⟩ := body st
  rw [exec_tryCatch, exec_tryCatch]
  revert same outcome
  rcases m.exec st with ⟨_ | a, s⟩ <;> rcases m'.exec st with ⟨_ | b, s'⟩
  all_goals simp only [Matches]
  · intro same failed
    rw [same, failed]
    exact caught _ s
  · intro _ impossible
    exact impossible.elim
  · intro _ impossible
    exact impossible.elim
  · intro same related
    exact ⟨same, related⟩

theorem exec_eq {m m' : EvalM α} (alike : Alike (· = ·) m m') (st : Resolver) : m'.exec st = m.exec st := by
  obtain ⟨same, outcome⟩ := alike st
  revert same outcome
  rcases m.exec st with ⟨_ | a, s⟩ <;> rcases m'.exec st with ⟨_ | b, s'⟩
  all_goals simp only [Matches]
  all_goals intro same outcome
  all_goals simp_all

end Alike

namespace Functions.LazyForm

/-- The argument positions whose value a lazy function may return as its own: the branches of
`IF`, the values of `IFS`, the tested value and the fallback of `IFERROR` and `IFNA`, and the
results and the default of `SWITCH`. -/
def returnsArg : LazyForm → Nat → Nat → Bool
  | .ifThen, _, i => i == 1 || i == 2
  | .ifs, _, i => i % 2 == 1
  | .ifError, _, i | .ifNA, _, i => i == 0 || i == 1
  | .switch, count, i => (2 ≤ i && i % 2 == 0) || (i % 2 == 1 && i + 1 == count)

end Functions.LazyForm

def returnsArg (name : String) (count i : Nat) : Bool :=
  match LazyForm.ofName? name with
  | some form => form.returnsArg count i
  | none => false

/-- What position `i` of a call of `name` on `count` arguments accepts in place of a value: its
one-cell range, where the function does not read the value raw and, if it may return the value
as its result, where `Q` accepts that. -/
def Accepts (name : String) (count : Nat) (Q : Value → Prop) (i : Nat) (a : Value) : Prop :=
  readsRaw name i a = false ∧ (returnsArg name count i → Q a)

namespace Alike

section Lazy

variable {count : Nat} {arg arg' : Nat → EvalM Value} {R : Nat → Value → Prop} {Q : Value → Prop}

theorem argOr {i : Nat} (alike : Alike (Widens (R i)) (arg i) (arg' i)) (returned : ∀ a, R i a → Q a)
    (default : Value) :
    Alike (Widens Q) (LazyForm.argOr count arg i default) (LazyForm.argOr count arg' i default) := by
  unfold LazyForm.argOr
  split
  · exact alike.mono fun _ _ => Widens.mono returned
  · exact pure (Widens.refl _ _)

theorem firstTrue (args : ∀ i, Alike (Widens (R i)) (arg i) (arg' i))
    (values : ∀ j, j % 2 = 1 → ∀ a, R j a → Q a) (i : Nat) (even : i % 2 = 0) :
    Alike (Widens Q) (LazyForm.firstTrue count arg i) (LazyForm.firstTrue count arg' i) := by
  unfold LazyForm.firstTrue
  split
  · refine bind (args i) fun v v' tested => ?_
    -- a condition is read for its truth, which a one-cell range shares with its cell
    rw [tested.isTruthy]
    split
    · exact (args (i + 1)).mono fun _ _ => Widens.mono (values (i + 1) (by omega))
    · exact firstTrue args values (i + 2) (by omega)
  · exact pure (Widens.refl _ _)
termination_by count - i

theorem firstCase (args : ∀ i, Alike (Widens (R i)) (arg i) (arg' i))
    (values : ∀ j, 2 ≤ j → j % 2 = 0 → ∀ a, R j a → Q a)
    (default : ∀ j, j % 2 = 1 → j + 1 = count → ∀ a, R j a → Q a)
    {S : Value → Prop} {subject subject' : Value} (compared : Widens S subject subject') (i : Nat)
    (odd : i % 2 = 1) :
    Alike (Widens Q) (LazyForm.firstCase count arg subject i) (LazyForm.firstCase count arg' subject' i) := by
  unfold LazyForm.firstCase
  split
  · refine bind (args i) fun v v' tested => ?_
    -- the subject and the case are compared through their first cells
    rw [compared.equal tested]
    split
    · exact (args (i + 1)).mono fun _ _ => Widens.mono (values (i + 1) (by omega) (by omega))
    · exact firstCase args values default compared (i + 2) (by omega)
  · split
    · exact (args i).mono fun _ _ => Widens.mono (default i odd (by omega))
    · exact pure (Widens.refl _ _)
termination_by count - i

theorem lazyRun {name : String} {form : LazyForm} (named : LazyForm.ofName? name = some form)
    (args : ∀ i, Alike (Widens (Accepts name count Q i)) (arg i) (arg' i)) :
    Alike (Widens Q) (form.run count arg) (form.run count arg') := by
  unfold LazyForm.ofName? at named
  split at named <;> cases named <;> simp only [LazyForm.run]
  next =>
    split
    · exact pure (Widens.refl _ _)
    · refine bind (args 0) fun v v' tested => ?_
      rw [tested.isTruthy]
      split
      · exact argOr (args 1) (fun _ held => held.2 rfl) _
      · exact argOr (args 2) (fun _ held => held.2 rfl) _
  next =>
    exact firstTrue args (fun j odd _ held => held.2 (by simp [returnsArg, LazyForm.ofName?, LazyForm.returnsArg, odd])) 0 rfl
  next =>
    split
    · exact pure (Widens.refl _ _)
    · refine bind (args 0) fun v v' tested => ?_
      rcases tested with rfl | ⟨⟨raw, returned⟩, rfl⟩
      · split
        · exact argOr (args 1) (fun _ held => held.2 rfl) _
        · exact pure (Widens.refl _ _)
      · -- the range is no error, and neither is its cell, which `IFERROR` would otherwise test
        have valid : v.isError = false := raw
        simp only [Value.isError_oneCell, valid, Bool.false_eq_true, if_false]
        exact pure (.inr ⟨returned rfl, rfl⟩)
  next =>
    split
    · exact pure (Widens.refl _ _)
    · refine bind (args 0) fun v v' tested => ?_
      rcases tested with rfl | ⟨⟨raw, returned⟩, rfl⟩
      · split
        · exact argOr (args 1) (fun _ held => held.2 rfl) _
        · exact pure (Widens.refl _ _)
      · have present : v.isNotAvailable = false := raw
        simp only [isNotAvailable_oneCell, present, Bool.false_eq_true, if_false]
        exact pure (.inr ⟨returned rfl, rfl⟩)
  next =>
    split
    · exact pure (Widens.refl _ _)
    · refine bind (args 0) fun subject subject' compared => ?_
      refine firstCase args (fun j low even _ held => held.2 ?_) (fun j odd last _ held => held.2 ?_)
        compared 1 rfl
      · simp [returnsArg, LazyForm.ofName?, LazyForm.returnsArg, low, even]
      · simp [returnsArg, LazyForm.ofName?, LazyForm.returnsArg, odd, last]

end Lazy

end Alike

def WidensFrom (Q : Nat → Value → Prop) : Nat → List Value → List Value → Prop
  | _, [], [] => True
  | i, a :: rest, a' :: rest' => Widens (Q i) a a' ∧ WidensFrom Q (i + 1) rest rest'
  | _, _, _ => False

theorem modify_append_length {α : Type} (f : α → α) (a : α) (rest : List α) :
    ∀ pre : List α, (pre ++ a :: rest).modify pre.length f = pre ++ f a :: rest
  | [] => rfl
  | b :: pre => by
    rw [List.cons_append, List.length_cons, List.modify_succ_cons, modify_append_length f a rest pre,
      List.cons_append]

namespace Functions

theorem eager_widens {now : DateTime} {name : String} {run : List Value → Outcome}
    (found : eager? now name = some run) {R : Nat → Value → Prop} (raw : ∀ j a, R j a → readsRaw name j a = false) :
    ∀ (pre vs vs' : List Value), WidensFrom R pre.length vs vs' → run (pre ++ vs') = run (pre ++ vs)
  | _, [], [], _ => rfl
  | pre, a :: rest, a' :: rest', ⟨head, tail⟩ => by
    -- the later positions first, with the new argument in front of them
    have shifted : (pre ++ [a']).length = pre.length + 1 := by simp
    have later := eager_widens found raw (pre ++ [a']) rest rest' (shifted ▸ tail)
    simp only [List.append_assoc, List.singleton_append] at later
    rw [later]
    rcases head with same | ⟨safe, widened⟩
    · rw [same]
    · have read : (pre ++ a :: rest).getD pre.length .null = a := by simp
      rw [widened, ← modify_append_length oneCell a rest pre]
      exact eager_oneCell found (by rw [read]; exact raw _ _ safe)
  | _, [], _ :: _, impossible | _, _ :: _, [], impossible => impossible.elim

end Functions

variable {ctx : Context} {now : DateTime}

theorem evalNth_eq_getD : ∀ (args : List Expr) (i : Nat), evalNth ctx now args i = evalExpr ctx now (args.getD i .blank) := by
  intro args
  induction args with
  | nil => simp [evalNth, evalExpr]
  | cons a rest ih =>
    intro i
    cases i with
    | zero => simp [evalNth]
    | succ i => simp [evalNth, ih i]

theorem evalArgs_alike {Q : Nat → Value → Prop} : ∀ (args args' : List Expr) (i : Nat), args'.length = args.length →
    (∀ j, Alike (Widens (Q (i + j))) (evalExpr ctx now (args.getD j .blank)) (evalExpr ctx now (args'.getD j .blank))) →
    Alike (WidensFrom Q i) (evalArgs ctx now args) (evalArgs ctx now args')
  | [], [], i, _, _ => by
    simp only [evalArgs]
    exact Alike.pure (show WidensFrom Q i [] [] from trivial)
  | a :: rest, a' :: rest', i, same, each => by
    simp only [evalArgs]
    refine Alike.bind (each 0) fun v v' head => ?_
    have later : ∀ j, Alike (Widens (Q (i + 1 + j))) (evalExpr ctx now (rest.getD j .blank))
        (evalExpr ctx now (rest'.getD j .blank)) := by
      intro j
      have shifted := each (j + 1)
      rwa [show i + (j + 1) = i + 1 + j by omega] at shifted
    exact Alike.bind (evalArgs_alike rest rest' (i + 1) (by simpa using same) later) fun vs vs' tail =>
      Alike.pure ⟨head, tail⟩
  | [], _ :: _, _, same, _ | _ :: _, [], _, same, _ => by simp at same

theorem Alike.callBoundary {Q : Value → Prop} {m m' : EvalM Value} (body : Alike (Widens Q) m m') :
    Alike (Widens Q) (Spreadsheet.callBoundary m) (Spreadsheet.callBoundary m') :=
  Alike.tryCatch body fun _ => Alike.refl (Widens.refl Q) _

theorem Alike.oneCell {Q : Value → Prop} {m : EvalM Value} (returns : Returns Q m) :
    Alike (Widens Q) m (m >>= fun v => Pure.pure (oneCell v)) := by
  intro st
  rw [exec_bind]
  rcases ran : m.exec st with ⟨_ | a, s⟩
  · exact ⟨rfl, rfl⟩
  · exact ⟨rfl, .inr ⟨returns st a (by rw [ran]), rfl⟩⟩

theorem Span.shape_self {X : String} (key : (Ref.parse? X).isSome) : Span.shape ⟨X, X⟩ = (1, 1) := by
  obtain ⟨p, parsed⟩ := Option.isSome_iff_exists.1 key
  simp [Span.shape, parsed]

theorem evalExpr_range_self {X : String} (key : (Ref.parse? X).isSome)
    (ranges : ctx.rangeValues ⟨X, X⟩ = (fun v => [v]) <$> ctx.cellValue X) :
    evalExpr ctx now (.range X X) = ctx.cellValue X >>= fun v => Pure.pure (oneCell v) := by
  simp only [evalExpr, Span.shape_self key, ranges]
  simp [rowsOfWidth]

/-- `Widened P X Q e e'`: `e'` is `e` with references to the cell `X` replaced by the range `X:X`,
each where its place accepts the range: at the top where `Q` accepts the values of the cell
(which satisfy `P`), and in an argument of a call as `Accepts` says. -/
inductive Widened (P : Value → Prop) (X : String) : (Value → Prop) → Expr → Expr → Prop
  | refl {Q : Value → Prop} (e : Expr) : Widened P X Q e e
  | cell {Q : Value → Prop} (accepted : ∀ a, P a → Q a) : Widened P X Q (.cell X) (.range X X)
  | binary {Q : Value → Prop} (op : BinOp) {l l' r r' : Expr} (left : Widened P X (fun _ => True) l l')
      (right : Widened P X (fun _ => True) r r') : Widened P X Q (.binary op l r) (.binary op l' r')
  | unary {Q : Value → Prop} (op : UnOp) {x x' : Expr} (operand : Widened P X (fun _ => True) x x') :
      Widened P X Q (.unary op x) (.unary op x')
  | call {Q : Value → Prop} (f : String) {args args' : List Expr} (same : args'.length = args.length)
      (each : ∀ i, Widened P X (Accepts f args.length Q i) (args.getD i .blank) (args'.getD i .blank)) :
      Widened P X Q (.call f args) (.call f args')

section Widened

variable {X : String} {P : Value → Prop}

theorem evalExpr_widened (key : (Ref.parse? X).isSome)
    (ranges : ctx.rangeValues ⟨X, X⟩ = (fun v => [v]) <$> ctx.cellValue X) (values : Returns P (ctx.cellValue X))
    {Q : Value → Prop} {e e' : Expr} (wide : Widened P X Q e e') :
    Alike (Widens Q) (evalExpr ctx now e) (evalExpr ctx now e') := by
  induction wide with
  | refl e => exact Alike.refl (Widens.refl _) _
  | cell accepted =>
    rw [evalExpr_range_self key ranges]
    exact Alike.oneCell (values.mono accepted)
  | binary op _ _ left right =>
    simp only [evalExpr]
    refine Alike.bind left fun a a' first => Alike.bind right fun b b' second => ?_
    rw [first.binary op second]
    exact Alike.refl (Widens.refl _) _
  | unary op _ operand =>
    simp only [evalExpr]
    refine Alike.bind operand fun a a' widened => ?_
    rw [widened.unary op]
    exact Alike.refl (Widens.refl _) _
  | call f same _ each =>
    simp only [evalExpr, builtin?]
    cases named : LazyForm.ofName? f with
    | some form =>
      -- a lazy function evaluates the arguments it needs, each alike
      simp only [same]
      refine Alike.callBoundary (Alike.lazyRun named fun i => ?_)
      rw [evalNth_eq_getD, evalNth_eq_getD]
      exact each i
    | none =>
      cases found : eager? now f with
      | none => exact Alike.refl (Widens.refl _) _
      | some run =>
        -- an eager function evaluates every argument, and reads none it reads raw widened
        simp only [Option.map_some]
        have args := evalArgs_alike _ _ 0 same fun j => by rw [Nat.zero_add]; exact each j
        refine Alike.callBoundary (Alike.bind args fun vs vs' related => ?_)
        have returned := eager_widens found (fun _ _ accepts => accepts.1) [] vs vs' related
        rw [List.nil_append, List.nil_append] at returned
        rw [returned]
        exact Alike.refl (Widens.refl _) _

/-- Replacing references to a cell `X` by the range `X:X` where nothing reads the cell's value
raw leaves the value of an expression and its effects as they were, in every context whose
range `X:X` reads the cell `X`. -/
theorem evalTree_widened (key : (Ref.parse? X).isSome)
    (ranges : ctx.rangeValues ⟨X, X⟩ = (fun v => [v]) <$> ctx.cellValue X) (values : Returns P (ctx.cellValue X))
    {e e' : Expr} (wide : Widened P X (fun _ => True) e e') : evalTree ctx now e' = evalTree ctx now e := by
  have evaluated : Alike (Widens fun _ => True) (evalExpr ctx now e) (evalExpr ctx now e') :=
    evalExpr_widened key ranges values wide
  have reduced : Alike (· = ·) (evalExpr ctx now e >>= fun v => Pure.pure (reduceResult v))
      (evalExpr ctx now e' >>= fun v => Pure.pure (reduceResult v)) :=
    Alike.bind evaluated fun a a' widened => Alike.pure (Widens.reduce widened).symm
  exact EvalM.ext (Alike.exec_eq (Alike.tryCatch reduced fun _ => Alike.refl (fun _ => rfl) _))

end Widened

def sevenInA1 : Context := sheetContext { store := ⟨[("A1", .str "7")]⟩, now := default } 2

theorem evalTree_range_in_if_branch :
    (Ref.parse? "A1").isSome ∧
      sevenInA1.rangeValues ⟨"A1", "A1"⟩ = (fun v => [v]) <$> sevenInA1.cellValue "A1" ∧
      Returns (fun _ => True) (sevenInA1.cellValue "A1") ∧
      Widened (fun _ => True) "A1" (fun _ => True)
        (.call "IF" [.binary .gt (.cell "A1") (.number 0), .cell "A1", .number 0])
        (.call "IF" [.binary .gt (.range "A1" "A1") (.number 0), .range "A1" "A1", .number 0]) ∧
      evalTree sevenInA1 default
          (.call "IF" [.binary .gt (.range "A1" "A1") (.number 0), .range "A1" "A1", .number 0]) =
        evalTree sevenInA1 default (.call "IF" [.binary .gt (.cell "A1") (.number 0), .cell "A1", .number 0]) := by
  have key : (Ref.parse? "A1").isSome := by decide +kernel
  have ranges : sevenInA1.rangeValues ⟨"A1", "A1"⟩ = (fun v => [v]) <$> sevenInA1.cellValue "A1" := by
    have one : Span.keys ⟨"A1", "A1"⟩ = ["A1"] := by decide +kernel
    simp [sevenInA1, sheetContext, one]
  have values := Returns.trivial (sevenInA1.cellValue "A1")
  -- the condition compares the range, the first branch returns it, and the rest is kept
  have wide : Widened (fun _ => True) "A1" (fun _ => True)
      (.call "IF" [.binary .gt (.cell "A1") (.number 0), .cell "A1", .number 0])
      (.call "IF" [.binary .gt (.range "A1" "A1") (.number 0), .range "A1" "A1", .number 0]) := by
    refine .call "IF" rfl fun i => ?_
    rcases i with _ | _ | i
    · exact .binary .gt (.cell fun _ _ => trivial) (.refl _)
    · exact .cell fun _ _ => ⟨rfl, fun _ => trivial⟩
    · exact .refl _
  exact ⟨key, ranges, values, wide, evalTree_widened key ranges values wide⟩

end Spreadsheet
