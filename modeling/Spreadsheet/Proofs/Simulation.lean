import Spreadsheet.Proofs.PlainResolution
import Spreadsheet.Proofs.Lawful

/-!
Evaluation with a memo against plain resolution.

`Sim store now fuel m spec` compares every run of `m` from a resolver state with `spec`, plain
resolution from a stack. The states compared are those of `Invariant`: every remembered value is
what plain resolution computes from any stack that avoids the remembered cells, the stack avoids
them, and the fuel covers the cells not on the stack. A run from such a state keeps the
invariant, leaves the stack where it was, forgets nothing and emits no cycle event. A cycle it
meets is the one plain resolution meets from the same stack; any other outcome is plain
resolution's from every stack that avoids the cells remembered at its end.

The relation is lawful (`Sim.lawful`): `pure`, `throw`, events other than cycle events, bind,
and handlers that let cycles through keep it, so the evaluator keeps it for every context whose
reads keep it.
-/

set_option autoImplicit false

namespace Spreadsheet

open Formula Functions Calendar EvalM

def Avoids (memo : List (String × Value)) (stack : List String) : Prop :=
  ∀ key ∈ stack, memo.lookup key = none

def Keeps (memo memo' : List (String × Value)) : Prop :=
  ∀ key v, memo.lookup key = some v → memo'.lookup key = some v

def Quiet (events events' : Array Log.Event) : Prop :=
  ∃ added, events'.toList = events.toList ++ added ∧ ∀ e ∈ added, e.kind ≠ .formulaCycle

theorem Keeps.refl (memo : List (String × Value)) : Keeps memo memo := fun _ _ h => h

theorem Keeps.trans {memo memo' memo'' : List (String × Value)} (first : Keeps memo memo')
    (second : Keeps memo' memo'') : Keeps memo memo'' :=
  fun key v h => second key v (first key v h)

theorem Avoids.of_keeps {memo memo' : List (String × Value)} {stack : List String}
    (keeps : Keeps memo memo') (avoids : Avoids memo' stack) : Avoids memo stack := by
  intro key mem
  cases h : memo.lookup key with
  | none => rfl
  | some v =>
    have kept := keeps key v h
    rw [avoids key mem] at kept
    cases kept

theorem lookup_cons_ne {memo : List (String × Value)} {key c : String} {v : Value} (other : c ≠ key) :
    ((key, v) :: memo).lookup c = memo.lookup c := by
  simp [List.lookup_cons, beq_eq_false_iff_ne.2 other]

theorem avoids_cons {memo : List (String × Value)} {key : String} {v : Value} {stack : List String} :
    Avoids ((key, v) :: memo) stack ↔ key ∉ stack ∧ Avoids memo stack := by
  constructor
  · intro avoids
    have fresh : key ∉ stack := fun mem => by simpa using avoids key mem
    refine ⟨fresh, fun c mem => ?_⟩
    have other : c ≠ key := fun same => fresh (same ▸ mem)
    simpa [lookup_cons_ne other] using avoids c mem
  · rintro ⟨fresh, avoids⟩ c mem
    have other : c ≠ key := fun same => fresh (same ▸ mem)
    rw [lookup_cons_ne other]
    exact avoids c mem

theorem avoids_push {memo : List (String × Value)} {stack : List String} {key : String} :
    Avoids memo (stack ++ [key]) ↔ Avoids memo stack ∧ memo.lookup key = none := by
  simp [Avoids, or_imp, forall_and]

theorem Quiet.refl (events : Array Log.Event) : Quiet events events := ⟨[], by simp, by simp⟩

theorem Quiet.trans {events events' events'' : Array Log.Event} (first : Quiet events events')
    (second : Quiet events' events'') : Quiet events events'' := by
  obtain ⟨added, grown, calm⟩ := first
  obtain ⟨added', grown', calm'⟩ := second
  refine ⟨added ++ added', by simp [grown', grown], ?_⟩
  intro e mem
  rcases List.mem_append.1 mem with early | late
  · exact calm e early
  · exact calm' e late

section

variable (store : Store) (now : DateTime)

/-- Remembered values are plain resolution's from every stack that avoids the remembered cells. -/
def MemoSound (memo : List (String × Value)) : Prop :=
  ∀ cellId v, memo.lookup (canonicalKey cellId) = some v →
    ∀ stack, Avoids memo stack → Yields (plainCell store now stack cellId) (.ok v)

/-- The resolver states from which memoised evaluation with `fuel` follows plain resolution. -/
structure Invariant (fuel : Nat) (st : Resolver) : Prop where
  sound : MemoSound store now st.memo
  avoids : Avoids st.memo st.stack
  room : store.unstacked st.stack ≤ fuel

structure Step {α : Type} (fuel : Nat) (st : Resolver) (run : Except Fault α × Resolver)
    (spec : List String → EvalM α) : Prop where
  invariant : Invariant store now fuel run.2
  stack : run.2.stack = st.stack
  keeps : Keeps st.memo run.2.memo
  quiet : Quiet st.events run.2.events
  cycle : IsCycle run.1 → Yields (spec st.stack) run.1
  other : ¬ IsCycle run.1 → ∀ stack, Avoids run.2.memo stack → Yields (spec stack) run.1

/-- Every run of `m` from an invariant state follows `spec`. -/
def Sim {α : Type} (fuel : Nat) (m : EvalM α) (spec : List String → EvalM α) : Prop :=
  ∀ st, Invariant store now fuel st → Step store now fuel st (m.exec st) spec

end

namespace Sim

variable {store : Store} {now : DateTime} {fuel : Nat} {α β : Type}

theorem pure (a : α) : Sim store now fuel (Pure.pure a) (fun _ => Pure.pure a) := by
  intro st inv
  exact ⟨inv, rfl, Keeps.refl _, Quiet.refl _, fun cycle => absurd cycle (not_isCycle_ok a),
    fun _ _ _ => yields_pure a⟩

theorem throw (f : Fault) : Sim store now fuel (MonadExcept.throw f : EvalM α) (fun _ => MonadExcept.throw f) :=
  fun _ inv => ⟨inv, rfl, Keeps.refl _, Quiet.refl _, fun _ => yields_throw f, fun _ _ _ => yields_throw f⟩

theorem emit (e : Log.Event) (quiet : e.kind ≠ .formulaCycle) :
    Sim store now fuel (Spreadsheet.emit e) (fun _ => Spreadsheet.emit e) := by
  intro st inv
  rw [exec_emit]
  exact ⟨⟨inv.sound, inv.avoids, inv.room⟩, rfl, Keeps.refl _, ⟨[e.emitted], by simp, by simpa [Log.Event.emitted] using quiet⟩,
    fun cycle => absurd cycle (not_isCycle_ok ()), fun _ _ _ => yields_emit e⟩

theorem bind {m : EvalM α} {spec : List String → EvalM α} {f : α → EvalM β}
    {g : List String → α → EvalM β} (first : Sim store now fuel m spec)
    (next : ∀ a, Sim store now fuel (f a) (fun stack => g stack a)) :
    Sim store now fuel (m >>= f) (fun stack => spec stack >>= g stack) := by
  intro st inv
  have early := first st inv
  rcases ran : m.exec st with ⟨outcome, st'⟩
  rw [ran] at early
  cases outcome with
  | ok a =>
    have done : ∀ stack, Avoids st'.memo stack → Yields (spec stack) (.ok a) :=
      early.other (not_isCycle_ok a)
    have late := next a st' early.invariant
    rw [exec_bind_ok ran]
    refine ⟨late.invariant, late.stack.trans early.stack, early.keeps.trans late.keeps,
      early.quiet.trans late.quiet, fun cycle => ?_, fun other stack avoids => ?_⟩
    · have resumed := late.cycle cycle
      rw [early.stack] at resumed
      exact Yields.bind_ok (done st.stack (early.stack ▸ early.invariant.avoids)) resumed
    · exact Yields.bind_ok (done stack (avoids.of_keeps late.keeps)) (late.other other stack avoids)
  | error e =>
    rw [exec_bind_error ran]
    exact ⟨early.invariant, early.stack, early.keeps, early.quiet,
      fun cycle => Yields.bind_error (early.cycle (by simpa using cycle)) _,
      fun other stack avoids => Yields.bind_error (early.other (by simpa using other) stack avoids) _⟩

theorem seq {m : EvalM α} {a : α} {f : α → EvalM β} {spec : List String → EvalM β}
    (first : Sim store now fuel m (fun _ => Pure.pure a)) (next : Sim store now fuel (f a) spec) :
    Sim store now fuel (m >>= f) spec := by
  intro st inv
  have early := first st inv
  rcases ran : m.exec st with ⟨outcome, st'⟩
  rw [ran] at early
  have ended : outcome = .ok a := by
    by_cases cyclic : IsCycle outcome
    · exact absurd (early.cycle cyclic {}) (by obtain ⟨_, rfl⟩ := cyclic; simp)
    · exact (early.other cyclic [] (fun _ mem => nomatch mem) {}).symm
  subst ended
  have late := next st' early.invariant
  rw [exec_bind_ok ran]
  refine ⟨late.invariant, late.stack.trans early.stack, early.keeps.trans late.keeps,
    early.quiet.trans late.quiet, fun cycle => ?_, late.other⟩
  rw [← early.stack]
  exact late.cycle cycle

theorem tryCatch {m : EvalM α} {spec : List String → EvalM α} {handler : Fault → EvalM α}
    {handler' : List String → Fault → EvalM α} (first : Sim store now fuel m spec)
    (passes : ∀ path, handler (.cycle path) = MonadExcept.throw (.cycle path))
    (passes' : ∀ stack path, handler' stack (.cycle path) = MonadExcept.throw (.cycle path))
    (handled : ∀ f, ¬ IsCycle (.error f : Except Fault α) →
      Sim store now fuel (handler f) (fun stack => handler' stack f)) :
    Sim store now fuel (MonadExcept.tryCatch m handler)
      (fun stack => MonadExcept.tryCatch (spec stack) (handler' stack)) := by
  intro st inv
  have early := first st inv
  rcases ran : m.exec st with ⟨outcome, st'⟩
  rw [ran] at early
  cases outcome with
  | ok a =>
    rw [exec_tryCatch_ok ran]
    exact ⟨early.invariant, early.stack, early.keeps, early.quiet,
      fun cycle => absurd cycle (not_isCycle_ok a),
      fun other stack avoids => Yields.tryCatch_ok (early.other other stack avoids) _⟩
  | error e =>
    rw [exec_tryCatch_error ran]
    by_cases cyclic : IsCycle (.error e : Except Fault α)
    · obtain ⟨path, same⟩ := cyclic
      cases same
      rw [passes]
      refine ⟨early.invariant, early.stack, early.keeps, early.quiet, fun _ => ?_,
        fun other => absurd ⟨path, rfl⟩ other⟩
      exact Yields.tryCatch_error (early.cycle ⟨path, rfl⟩) (by rw [passes']; exact yields_throw _)
    · have failed : ∀ stack, Avoids st'.memo stack → Yields (spec stack) (.error e) :=
        early.other cyclic
      have late := handled e cyclic st' early.invariant
      refine ⟨late.invariant, late.stack.trans early.stack, early.keeps.trans late.keeps,
        early.quiet.trans late.quiet, fun cycle => ?_, fun other stack avoids => ?_⟩
      · have resumed := late.cycle cycle
        rw [early.stack] at resumed
        exact Yields.tryCatch_error (failed st.stack (early.stack ▸ early.invariant.avoids)) resumed
      · exact Yields.tryCatch_error (failed stack (avoids.of_keeps late.keeps))
          (late.other other stack avoids)

theorem skipCycles {m : EvalM α} {spec : List String → EvalM α} {handler : Fault → EvalM PUnit}
    (first : Sim store now fuel m spec)
    (cyclic : ∀ stack f, Yields (spec stack) (.error f) → IsCycle (.error f : Except Fault α))
    (skips : ∀ path, handler (.cycle path) = Pure.pure ()) :
    Sim store now fuel (MonadExcept.tryCatch (discard m) handler) (fun _ => Pure.pure ()) := by
  intro st inv
  have early := first st inv
  rw [exec_tryCatch, exec_discard]
  rcases ran : m.exec st with ⟨outcome, st'⟩
  rw [ran] at early
  cases outcome with
  | ok a =>
    exact ⟨early.invariant, early.stack, early.keeps, early.quiet,
      fun cycle => absurd cycle (not_isCycle_ok ()), fun _ _ _ => yields_pure ()⟩
  | error e =>
    by_cases cycled : IsCycle (.error e : Except Fault α)
    · obtain ⟨path, same⟩ := cycled
      cases same
      dsimp only
      rw [skips, exec_pure]
      exact ⟨early.invariant, early.stack, early.keeps, early.quiet,
        fun cycle => absurd cycle (not_isCycle_ok ()), fun _ _ _ => yields_pure ()⟩
    · -- a run that fails otherwise fails plain resolution from the empty stack the same way
      exact absurd (cyclic [] e (early.other cycled [] fun _ mem => nomatch mem)) cycled

theorem forIn {body : String → EvalM PUnit}
    (each : ∀ key, Sim store now fuel (body key) (fun _ => Pure.pure ())) :
    ∀ keys : List String, Sim store now fuel
      (ForIn.forIn keys PUnit.unit fun key _ => do body key; Pure.pure (ForInStep.yield PUnit.unit))
      (fun _ => Pure.pure PUnit.unit)
  | [] => Sim.pure _
  | key :: rest => by
    rw [List.forIn_cons]
    exact Sim.seq (Sim.seq (each key) (Sim.pure _)) (forIn each rest)

theorem lawful : Lawful (fun _ m spec => Sim store now fuel m spec) :=
  ⟨Sim.pure, fun f _ => Sim.throw f, Sim.emit, Sim.bind, Sim.tryCatch⟩

end Sim

end Spreadsheet
