import Spreadsheet.Sheet.Resolve

/-!
Running evaluations.

`EvalM.exec` runs an evaluation from a resolver state to its outcome and final state; one
equation for each way of building an evaluation lets later proofs follow a run step by step.
`Yields m r` says that `m` ends in `r` from every state, as an evaluation that never reads its
state does.
-/

set_option autoImplicit false

namespace Spreadsheet

def EvalM.exec {α : Type} (m : EvalM α) (st : Resolver) : Except Fault α × Resolver :=
  m.run.run st

namespace EvalM

variable {α β : Type}

@[simp] theorem exec_pure (a : α) (st : Resolver) : (pure a : EvalM α).exec st = (.ok a, st) := rfl

@[simp] theorem exec_throw (f : Fault) (st : Resolver) :
    (throw f : EvalM α).exec st = (.error f, st) := rfl

@[simp] theorem exec_get (st : Resolver) : (get : EvalM Resolver).exec st = (.ok st, st) := rfl

@[simp] theorem exec_modify (g : Resolver → Resolver) (st : Resolver) :
    (modify g : EvalM Unit).exec st = (.ok (), g st) := rfl

@[simp] theorem exec_emit (e : Log.Event) (st : Resolver) :
    (emit e).exec st = (.ok (), { st with events := st.events.push e.emitted }) := rfl

theorem exec_bind (m : EvalM α) (f : α → EvalM β) (st : Resolver) :
    (m >>= f).exec st = match m.exec st with
      | (.ok a, st') => (f a).exec st'
      | (.error e, st') => (.error e, st') := by
  simp only [exec, ExceptT.run_bind, StateT.run_bind]
  rcases m.run.run st with ⟨_ | a, st'⟩ <;> rfl

theorem exec_map (g : α → β) (m : EvalM α) (st : Resolver) :
    (g <$> m).exec st = match m.exec st with
      | (.ok a, st') => (.ok (g a), st')
      | (.error e, st') => (.error e, st') := by
  simp only [exec, ExceptT.run_map, StateT.run_map]
  rcases m.run.run st with ⟨_ | a, st'⟩ <;> rfl

theorem exec_discard (m : EvalM α) (st : Resolver) :
    (discard m).exec st = match m.exec st with
      | (.ok _, st') => (.ok (), st')
      | (.error e, st') => (.error e, st') :=
  exec_map _ m st

theorem exec_tryCatch (m : EvalM α) (h : Fault → EvalM α) (st : Resolver) :
    (tryCatch m h).exec st = match m.exec st with
      | (.ok a, st') => (.ok a, st')
      | (.error e, st') => (h e).exec st' := by
  simp only [exec, ExceptT.run_tryCatch, StateT.run_bind]
  rcases m.run.run st with ⟨_ | a, st'⟩ <;> rfl

theorem exec_bind_ok {m : EvalM α} {st st' : Resolver} {a : α} (h : m.exec st = (.ok a, st'))
    (f : α → EvalM β) : (m >>= f).exec st = (f a).exec st' := by
  rw [exec_bind, h]

theorem exec_bind_error {m : EvalM α} {st st' : Resolver} {e : Fault} (h : m.exec st = (.error e, st'))
    (f : α → EvalM β) : (m >>= f).exec st = (.error e, st') := by
  rw [exec_bind, h]

theorem exec_tryCatch_ok {m : EvalM α} {st st' : Resolver} {a : α} (h : m.exec st = (.ok a, st'))
    (handler : Fault → EvalM α) : (tryCatch m handler).exec st = (.ok a, st') := by
  rw [exec_tryCatch, h]

theorem exec_tryCatch_error {m : EvalM α} {st st' : Resolver} {e : Fault}
    (h : m.exec st = (.error e, st')) (handler : Fault → EvalM α) :
    (tryCatch m handler).exec st = (handler e).exec st' := by
  rw [exec_tryCatch, h]

def Yields (m : EvalM α) (r : Except Fault α) : Prop := ∀ st, (m.exec st).1 = r

theorem yields_pure (a : α) : Yields (pure a : EvalM α) (.ok a) := fun _ => rfl

theorem yields_throw (f : Fault) : Yields (throw f : EvalM α) (.error f) := fun _ => rfl

theorem yields_emit (e : Log.Event) : Yields (emit e) (.ok ()) := fun _ => rfl

theorem Yields.bind_ok {m : EvalM α} {a : α} {f : α → EvalM β} {r : Except Fault β}
    (first : Yields m (.ok a)) (next : Yields (f a) r) : Yields (m >>= f) r := by
  intro st
  rcases ran : m.exec st with ⟨outcome, st'⟩
  have ok : outcome = .ok a := by simpa [ran] using first st
  subst ok
  rw [exec_bind_ok ran]
  exact next st'

theorem Yields.bind_error {m : EvalM α} {e : Fault} (first : Yields m (.error e)) (f : α → EvalM β) :
    Yields (m >>= f) (.error e) := by
  intro st
  rcases ran : m.exec st with ⟨outcome, st'⟩
  have failed : outcome = .error e := by simpa [ran] using first st
  subst failed
  rw [exec_bind_error ran]

theorem Yields.tryCatch_ok {m : EvalM α} {a : α} (first : Yields m (.ok a))
    (handler : Fault → EvalM α) : Yields (tryCatch m handler) (.ok a) := by
  intro st
  rcases ran : m.exec st with ⟨outcome, st'⟩
  have ok : outcome = .ok a := by simpa [ran] using first st
  subst ok
  rw [exec_tryCatch_ok ran]

theorem Yields.tryCatch_error {m : EvalM α} {e : Fault} {handler : Fault → EvalM α}
    {r : Except Fault α} (first : Yields m (.error e)) (next : Yields (handler e) r) :
    Yields (tryCatch m handler) r := by
  intro st
  rcases ran : m.exec st with ⟨outcome, st'⟩
  have failed : outcome = .error e := by simpa [ran] using first st
  subst failed
  rw [exec_tryCatch_error ran]
  exact next st'

end EvalM

end Spreadsheet
