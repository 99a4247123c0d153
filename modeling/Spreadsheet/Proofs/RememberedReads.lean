import Spreadsheet.Proofs.Postorder
import Mathlib

/-!
Evaluation ahead answers every read from remembered values.

When no cell a formula reaches lies on a cycle, evaluating the formula is the same run as evaluating
the cells of its order one after another, each with only itself on the stack and every read it makes
answered from the values remembered so far, and then the formula from remembered values. So every
formula cell with a body that the formula reaches is evaluated exactly once, ahead of the formula. A
formula cell with an empty body is not in the order: its first read gives blank and remembers it.

The proof relates the real reads to remembered ones (`Answers`): from a state with the expected
stack, the cells needed remembered and the cells pending not, the two end alike and keep that. The
relation is lawful, so the evaluator keeps it for an expression whose references are needed or have
no body; the order supplies that for each of its cells, since it lists dependencies first.
-/

set_option autoImplicit false

namespace Spreadsheet

open Formula Calendar EvalM Relation

def rememberedCell (env : Env) (cellId : String) : EvalM Value := do
  let key := canonicalKey cellId
  let raw := env.store.content key
  match Store.formulaBody? raw with
  | none => pure (plainValue raw)
  | some body =>
    match (← get).memo.lookup key with
    | some v => pure v
    | none =>
      if body.isEmpty then do
        modify fun st => { st with memo := (key, .null) :: st.memo }
        pure .null
      else throw (.internal "read before it was evaluated")

def rememberedContext (env : Env) : Context :=
  ⟨rememberedCell env, fun span => span.keys.mapM (rememberedCell env)⟩

/-- Evaluates a formula cell with only itself pushed, reading remembered values, and remembers its
value. -/
def evaluateRemembering (env : Env) (key : String) : EvalM Unit := do
  modify fun st => { st with stack := st.stack ++ [key] }
  let v ← match env.store.formulaExpr? key with
    | some e => evalTree (rememberedContext env) env.now e
    | none => pure .null
  modify fun st => { st with stack := st.stack.dropLast, memo := (key, v) :: st.memo }

def evaluateInOrder (env : Env) : List String → EvalM Unit
  | [] => pure ()
  | key :: rest => do
    evaluateRemembering env key
    evaluateInOrder env rest

theorem lookup_isSome_cons {memo : List (String × Value)} {k x : String} {v : Value}
    (remembered : (memo.lookup x).isSome) : (((k, v) :: memo).lookup x).isSome := by
  by_cases same : x = k
  · simp [same]
  · rwa [lookup_cons_ne same]

section Remembered

variable {env : Env} {cellId body : String} {st : Resolver}

theorem rememberedCell_exec_plain (plain : Store.formulaBody? (env.store.content (canonicalKey cellId)) = none) :
    (rememberedCell env cellId).exec st = (.ok (plainValue (env.store.content (canonicalKey cellId))), st) := by
  simp [rememberedCell, plain]

theorem rememberedCell_exec_memo (present : Store.formulaBody? (env.store.content (canonicalKey cellId)) = some body)
    {v : Value} (hit : st.memo.lookup (canonicalKey cellId) = some v) :
    (rememberedCell env cellId).exec st = (.ok v, st) := by
  simp [rememberedCell, present, exec_bind, hit]

theorem rememberedCell_exec_blank (present : Store.formulaBody? (env.store.content (canonicalKey cellId)) = some body)
    (empty : body.isEmpty) (miss : st.memo.lookup (canonicalKey cellId) = none) :
    (rememberedCell env cellId).exec st = (.ok .null, { st with memo := (canonicalKey cellId, .null) :: st.memo }) := by
  simp [rememberedCell, present, exec_bind, exec_map, miss, empty]

theorem rememberedCell_exec_unevaluated
    (present : Store.formulaBody? (env.store.content (canonicalKey cellId)) = some body)
    (nonempty : body.isEmpty = false) (miss : st.memo.lookup (canonicalKey cellId) = none) :
    (rememberedCell env cellId).exec st = (.error (.internal "read before it was evaluated"), st) := by
  simp [rememberedCell, present, exec_bind, miss, nonempty]

end Remembered

section NeverCycles

variable {α β : Type}

def NeverCycles (m : EvalM α) : Prop := ∀ st, ¬ IsCycle (m.exec st).1

namespace NeverCycles

theorem bind {m : EvalM α} {f : α → EvalM β} (first : NeverCycles m) (next : ∀ a, NeverCycles (f a)) :
    NeverCycles (m >>= f) := by
  intro st
  have quiet := first st
  rw [exec_bind]
  rcases ran : m.exec st with ⟨_ | a, st'⟩
  · -- the failure of `m` passes through, and it is no cycle
    rw [ran] at quiet
    simpa using quiet
  · exact next a st'

theorem tryCatch {m : EvalM α} {handler : Fault → EvalM α} (first : NeverCycles m)
    (handled : ∀ f, ¬ IsCycle (.error f : Except Fault α) → NeverCycles (handler f)) :
    NeverCycles (MonadExcept.tryCatch m handler) := by
  intro st
  have quiet := first st
  rw [exec_tryCatch]
  rcases ran : m.exec st with ⟨_ | a, st'⟩
  · rw [ran] at quiet
    exact handled _ quiet st'
  · simp

theorem lawful : Lawful (fun _ m _ => NeverCycles m) where
  pure a st := by simp
  throw f quiet st := by simpa using quiet
  emit e _ st := by simp
  bind first next := NeverCycles.bind first next
  tryCatch first _ _ handled := NeverCycles.tryCatch first handled

end NeverCycles

theorem rememberedCell_neverCycles (env : Env) (cellId : String) : NeverCycles (rememberedCell env cellId) := by
  intro st
  rcases present : Store.formulaBody? (env.store.content (canonicalKey cellId)) with _ | body
  · simp [rememberedCell_exec_plain present]
  rcases hit : st.memo.lookup (canonicalKey cellId) with _ | v
  · cases empty : body.isEmpty
    · simp [rememberedCell_exec_unevaluated present empty hit]
    · simp [rememberedCell_exec_blank present empty hit]
  · simp [rememberedCell_exec_memo present hit]

theorem evalTree_remembered_ok (env : Env) (now : DateTime) (e : Expr) (st : Resolver) :
    ∃ v st', (evalTree (rememberedContext env) now e).exec st = (.ok v, st') := by
  have quiet : NeverCycles (evalTree (rememberedContext env) now e) :=
    @Lawful.evalTree_keeps _ NeverCycles.lawful now (rememberedContext env) (fun _ => rememberedContext env) e
      (fun k _ => rememberedCell_neverCycles env k)
      (fun r _ => @Lawful.mapM_keeps _ NeverCycles.lawful (rememberedCell env) (fun _ => rememberedCell env)
        (Span.mk r.1 r.2).keys fun k _ => rememberedCell_neverCycles env k)
  rcases ran : (evalTree (rememberedContext env) now e).exec st with ⟨_ | v, st'⟩
  · have cycle := evalTree_error_isCycle (rememberedContext env) now e st (by rw [ran])
    have := quiet st
    rw [ran] at this
    exact absurd cycle this
  · exact ⟨v, st', rfl⟩

end NeverCycles

section Answers

variable {α β : Type} {stack needed pending : List String}

structure Answering (stack needed pending : List String) (st : Resolver) : Prop where
  stack_eq : st.stack = stack
  remembered : ∀ j ∈ needed, (st.memo.lookup j).isSome
  unevaluated : ∀ j ∈ pending, st.memo.lookup j = none

def Answers (stack needed pending : List String) (m m' : EvalM α) : Prop :=
  ∀ st, Answering stack needed pending st → m.exec st = m'.exec st ∧ Answering stack needed pending (m.exec st).2

namespace Answers

theorem pure (a : α) : Answers stack needed pending (Pure.pure a) (Pure.pure a) := fun _ good => ⟨rfl, good⟩

theorem throw (f : Fault) : Answers stack needed pending (MonadExcept.throw f : EvalM α) (MonadExcept.throw f) :=
  fun _ good => ⟨rfl, good⟩

theorem emit (e : Log.Event) : Answers stack needed pending (Spreadsheet.emit e) (Spreadsheet.emit e) :=
  fun _ good => ⟨rfl, ⟨good.stack_eq, good.remembered, good.unevaluated⟩⟩

theorem bind {m m' : EvalM α} {f f' : α → EvalM β} (first : Answers stack needed pending m m')
    (next : ∀ a, Answers stack needed pending (f a) (f' a)) :
    Answers stack needed pending (m >>= f) (m' >>= f') := by
  intro st good
  obtain ⟨same, kept⟩ := first st good
  rcases ran : m.exec st with ⟨outcome, st'⟩
  rw [ran] at same kept
  rw [exec_bind, exec_bind, ran, ← same]
  cases outcome with
  | ok a => exact next a st' kept
  | error e => exact ⟨rfl, kept⟩

theorem tryCatch {m m' : EvalM α} {h h' : Fault → EvalM α} (first : Answers stack needed pending m m')
    (handled : ∀ f, Answers stack needed pending (h f) (h' f)) :
    Answers stack needed pending (MonadExcept.tryCatch m h) (MonadExcept.tryCatch m' h') := by
  intro st good
  obtain ⟨same, kept⟩ := first st good
  rcases ran : m.exec st with ⟨outcome, st'⟩
  rw [ran] at same kept
  rw [exec_tryCatch, exec_tryCatch, ran, ← same]
  cases outcome with
  | ok a => exact ⟨rfl, kept⟩
  | error e => exact handled e st' kept

theorem lawful : Lawful (fun _ m spec => Answers stack needed pending m (spec [])) where
  pure a := Answers.pure a
  throw f _ := Answers.throw f
  emit e _ := Answers.emit e
  bind first next := Answers.bind first next
  tryCatch first passes passes' handled := by
    refine Answers.tryCatch first fun f => ?_
    by_cases cycle : ∃ path, f = .cycle path
    · obtain ⟨path, rfl⟩ := cycle
      rw [passes, passes']
      exact Answers.throw _
    · exact handled f (by simpa using cycle)

end Answers

end Answers

theorem Store.formulaExpr?_of_body {s : Store} {k body : String} (present : Store.formulaBody? (s.content k) = some body) :
    s.formulaExpr? k = if body.isEmpty then none else some (parseBody body) := by
  simp [Store.formulaExpr?, present]

section Reads

variable {s : Store} {now : DateTime} {stack needed pending : List String}

theorem cellValue_answers {fuel : Nat} {j : String} (canonical : canonicalKey j = j)
    (room : s.cells.length ≤ fuel) (listed : (s.formulaExpr? j).isSome → j ∈ needed) (off : j ∉ stack)
    (formulas : ∀ x ∈ pending, (s.formulaExpr? x).isSome) :
    Answers stack needed pending (cellValue ⟨s, now, none⟩ fuel j) (rememberedCell ⟨s, now, none⟩ j) := by
  intro st good
  rcases present : Store.formulaBody? (s.content j) with _ | body
  · have plain : Store.formulaBody? ((⟨s, now, none⟩ : Env).store.content (canonicalKey j)) = none := by
      rwa [canonical]
    rw [cellValue_exec_plain plain, rememberedCell_exec_plain plain]
    exact ⟨rfl, good⟩
  have present' : Store.formulaBody? ((⟨s, now, none⟩ : Env).store.content (canonicalKey j)) = some body := by
    rwa [canonical]
  rcases hit : st.memo.lookup j with _ | v
  case some =>
    have hit' : st.memo.lookup (canonicalKey j) = some v := by rwa [canonical]
    rw [cellValue_exec_memo present' rfl hit', rememberedCell_exec_memo present' hit']
    exact ⟨rfl, good⟩
  -- a cell not remembered has an empty body, since every cell with one is needed
  have empty : body.isEmpty = true := by
    by_contra nonempty
    have found : (s.formulaExpr? j).isSome := by simp [Store.formulaExpr?_of_body present, nonempty]
    have := good.remembered j (listed found)
    simp [hit] at this
  have miss : st.memo.lookup (canonicalKey j) = none := by rwa [canonical]
  have fresh : canonicalKey j ∉ st.stack := by rwa [canonical, good.stack_eq]
  -- the cell is in the store, so the fuel has a level left for it
  have stored : 0 < s.cells.length :=
    List.length_pos_iff.2 fun nil => Store.lookup_of_formulaBody present (by simp [nil])
  obtain ⟨f, rfl⟩ : ∃ f, fuel = f + 1 := ⟨fuel - 1, by omega⟩
  rw [cellValue_exec_push present' rfl miss fresh, rememberedCell_exec_blank present' empty miss]
  simp only [empty, if_true, exec_pure, List.dropLast_concat, canonical]
  refine ⟨trivial, good.stack_eq, fun x mem => lookup_isSome_cons (good.remembered x mem), fun x mem => ?_⟩
  have blank : s.formulaExpr? j = none := by simp [Store.formulaExpr?_of_body present, empty]
  have other : x ≠ j := fun same => by simpa [same, blank] using formulas x mem
  rw [lookup_cons_ne other]
  exact good.unevaluated x mem

theorem evalTree_answers {fuel : Nat} {body : String} (room : s.cells.length ≤ fuel)
    (reads : ∀ j ∈ (parseBody body).references, ((s.formulaExpr? j).isSome → j ∈ needed) ∧ j ∉ stack)
    (formulas : ∀ x ∈ pending, (s.formulaExpr? x).isSome) :
    Answers stack needed pending (evalTree (sheetContext ⟨s, now, none⟩ fuel) now (parseBody body))
      (evalTree (rememberedContext ⟨s, now, none⟩) now (parseBody body)) := by
  have law := @Answers.lawful stack needed pending
  have read : ∀ j ∈ (parseBody body).references, canonicalKey j = j →
      Answers stack needed pending (cellValue ⟨s, now, none⟩ fuel j) (rememberedCell ⟨s, now, none⟩ j) :=
    fun j ref canonical => cellValue_answers canonical room (reads j ref).1 (reads j ref).2 formulas
  exact @Lawful.evalTree_keeps _ law now (sheetContext ⟨s, now, none⟩ fuel)
    (fun _ => rememberedContext ⟨s, now, none⟩) (parseBody body)
    (fun k mem => read k (mem_references_of_cell mem) (parseBody_cells body k mem))
    (fun r mem => @Lawful.mapM_keeps _ law (cellValue ⟨s, now, none⟩ fuel) (fun _ => rememberedCell ⟨s, now, none⟩)
      (Span.mk r.1 r.2).keys fun k member =>
        read k (mem_references_of_range mem member) (canonicalKey_of_mem_keys member))

theorem cellValue_ahead_exec {done rest : List String} {key : String} {e : Expr}
    (found : s.formulaExpr? key = some e) (canonical : canonicalKey key = key)
    (reads : ∀ j ∈ e.references, ((s.formulaExpr? j).isSome → j ∈ done) ∧ j ≠ key)
    (formulas : ∀ x ∈ key :: rest, (s.formulaExpr? x).isSome) (distinct : key ∉ rest)
    (handler : Fault → EvalM Unit) {st : Resolver} (good : Answering [] done (key :: rest) st) :
    ∃ st', (tryCatch (discard (cellValue ⟨s, now, none⟩ s.fuel key)) handler).exec st = (.ok (), st') ∧
      (evaluateRemembering ⟨s, now, none⟩ key).exec st = (.ok (), st') ∧ Answering [] (done ++ [key]) rest st' := by
  obtain ⟨body, present, rfl⟩ := Store.formulaExpr?_eq_some found
  have nonempty : body.isEmpty = false := by
    cases empty : body.isEmpty
    · rfl
    · simp [Store.formulaExpr?_of_body present, empty] at found
  have present' : Store.formulaBody? ((⟨s, now, none⟩ : Env).store.content (canonicalKey key)) = some body := by
    rwa [canonical]
  have miss : st.memo.lookup (canonicalKey key) = none := by
    rw [canonical]
    exact good.unevaluated key (by simp)
  have fresh : canonicalKey key ∉ st.stack := by simp [good.stack_eq]
  -- the body is evaluated with only `key` on the stack, every read answered from remembered values
  have pushed : Answering [key] done (key :: rest) { st with stack := st.stack ++ [key] } :=
    ⟨by simp [good.stack_eq], good.remembered, good.unevaluated⟩
  have evaluated : Answers [key] done (key :: rest) (evalTree (sheetContext ⟨s, now, none⟩ s.cells.length) now (parseBody body))
      (evalTree (rememberedContext ⟨s, now, none⟩) now (parseBody body)) :=
    evalTree_answers le_rfl (fun j ref => ⟨(reads j ref).1, by simpa using (reads j ref).2⟩) formulas
  obtain ⟨same, after⟩ := evaluated _ pushed
  obtain ⟨v, st', ran⟩ := evalTree_remembered_ok ⟨s, now, none⟩ now (parseBody body) { st with stack := st.stack ++ [key] }
  rw [ran] at same
  rw [same] at after
  refine ⟨{ st' with stack := st'.stack.dropLast, memo := (key, v) :: st'.memo }, ?_, ?_, ?_⟩
  · show (tryCatch (discard (cellValue ⟨s, now, none⟩ (s.cells.length + 1) key)) handler).exec st = _
    rw [exec_tryCatch, exec_discard, cellValue_exec_push present' rfl miss fresh]
    simp only [nonempty, Bool.false_eq_true, if_false, canonical, same]
  · simp only [evaluateRemembering, exec_bind, exec_modify, found, ran]
  · have popped : st'.stack.dropLast = [] := by rw [after.stack_eq]; rfl
    refine ⟨popped, fun j mem => ?_, fun j mem => ?_⟩
    · rcases List.mem_append.1 mem with early | added
      · exact lookup_isSome_cons (after.remembered j early)
      · obtain rfl := List.mem_singleton.1 added
        simp
    · have other : j ≠ key := fun same => distinct (same ▸ mem)
      simp only
      rw [lookup_cons_ne other]
      exact after.unevaluated j (List.mem_cons_of_mem _ mem)

theorem forIn_ahead_exec {order : List String} {handler : Fault → EvalM Unit}
    (ready : ∀ done key rest, done ++ key :: rest = order → ∃ e, s.formulaExpr? key = some e ∧
      canonicalKey key = key ∧ ∀ j ∈ e.references, ((s.formulaExpr? j).isSome → j ∈ done) ∧ j ≠ key)
    (distinct : order.Nodup) (formulas : ∀ x ∈ order, (s.formulaExpr? x).isSome) :
    ∀ (todo done : List String), done ++ todo = order → ∀ st, Answering [] done todo st →
      ∃ st', (ForIn.forIn todo PUnit.unit fun key _ => do
          tryCatch (discard (cellValue ⟨s, now, none⟩ s.fuel key)) handler
          Pure.pure (ForInStep.yield PUnit.unit)).exec st = (.ok (), st') ∧
        (evaluateInOrder ⟨s, now, none⟩ todo).exec st = (.ok (), st') ∧ Answering [] order [] st'
  | [], done, split, st, good => ⟨st, rfl, rfl, by rw [← split, List.append_nil]; exact good⟩
  | key :: rest, done, split, st, good => by
    obtain ⟨e, found, canonical, reads⟩ := ready done key rest split
    have listed : ∀ x ∈ key :: rest, x ∈ order := fun x mem => split ▸ List.mem_append_right _ mem
    have fresh : key ∉ rest := (List.nodup_cons.1 (List.nodup_append.1 (split ▸ distinct)).2.1).1
    obtain ⟨st₁, real, ideal, good₁⟩ :=
      cellValue_ahead_exec found canonical reads (fun x mem => formulas x (listed x mem)) fresh handler good
    obtain ⟨st₂, real', ideal', good₂⟩ :=
      forIn_ahead_exec ready distinct formulas rest (done ++ [key]) (by rw [← split]; simp) st₁ good₁
    refine ⟨st₂, ?_, ?_, good₂⟩
    · rw [List.forIn_cons, exec_bind, exec_bind, real]
      exact real'
    · rw [evaluateInOrder, exec_bind, ideal]
      exact ideal'

end Reads

theorem mem_of_sublist_pair {a b : String} {rest : List String} (distinct : b ∉ rest) :
    ∀ {pre : List String}, [a, b].Sublist (pre ++ b :: rest) → a ∈ pre
  | [], sub => by
    rcases List.sublist_cons_iff.1 sub with sub | ⟨r, same, sub⟩
    · exact absurd (sub.subset (by simp)) distinct
    · cases same
      exact absurd (sub.subset (by simp)) distinct
  | d :: pre, sub => by
    rcases List.sublist_cons_iff.1 sub with sub | ⟨r, same, -⟩
    · exact List.mem_cons_of_mem _ (mem_of_sublist_pair distinct sub)
    · cases same
      exact List.mem_cons_self ..

section Order

variable {s : Store} {now : DateTime} {body : String}

theorem aheadOrder_ready (acyclic : ∀ k, s.ReachedFrom (parseBody body).references k → ¬ TransGen s.Depends k k)
    {done rest : List String} {key : String} (split : done ++ key :: rest = s.aheadOrder (parseBody body)) :
    ∃ e, s.formulaExpr? key = some e ∧ canonicalKey key = key ∧
      ∀ j ∈ e.references, ((s.formulaExpr? j).isSome → j ∈ done) ∧ j ≠ key := by
  have listed : key ∈ s.aheadOrder (parseBody body) := split ▸ List.mem_append_right _ (List.mem_cons_self ..)
  obtain ⟨formula, reached⟩ := (Store.mem_aheadOrder_iff s _).1 listed
  obtain ⟨e, found⟩ := Option.isSome_iff_exists.1 formula
  have fresh : key ∉ rest :=
    (List.nodup_cons.1 (List.nodup_append.1 (split ▸ Store.aheadOrder_nodup s _)).2.1).1
  refine ⟨e, found, reached.canonical, fun j ref => ⟨fun formula' => ?_, fun same => ?_⟩⟩
  · -- a dependency listed after the cell would reach it back, closing a cycle through it
    have dep : s.Depends key j := ⟨e, found, ref⟩
    rcases Store.aheadOrder_dependenciesFirst s _ key listed j dep formula' with sub | back
    · rw [← split] at sub
      exact mem_of_sublist_pair fresh sub
    · exact absurd (TransGen.head dep back) (acyclic key reached)
  · subst same
    exact acyclic j reached (.single ⟨e, found, ref⟩)

theorem resolveAhead_exec_inOrder (acyclic : ∀ k, s.ReachedFrom (parseBody body).references k → ¬ TransGen s.Depends k k)
    {st : Resolver} (empty : st.stack = []) (fresh : st.memo = []) :
    ∃ st', (resolveAhead ⟨s, now, none⟩ (parseBody body)).exec st = (.ok (), st') ∧
      (evaluateInOrder ⟨s, now, none⟩ (s.aheadOrder (parseBody body))).exec st = (.ok (), st') ∧
      Answering [] (s.aheadOrder (parseBody body)) [] st' := by
  have start : Answering [] [] (s.aheadOrder (parseBody body)) st := ⟨empty, by simp, fun j _ => by simp [fresh]⟩
  -- `resolveAhead` reads the order with some handler of failures; which one does not matter,
  -- since no read of the order fails
  obtain ⟨handler, unfolded⟩ : ∃ handler : Fault → EvalM Unit,
      resolveAhead ⟨s, now, none⟩ (parseBody body) =
        ForIn.forIn (s.aheadOrder (parseBody body)) PUnit.unit (fun key _ => do
          tryCatch (discard (cellValue ⟨s, now, none⟩ s.fuel key)) handler
          Pure.pure (ForInStep.yield PUnit.unit)) >>= fun _ => pure () :=
    ⟨_, rfl⟩
  obtain ⟨st', real, ideal, good⟩ := @forIn_ahead_exec s now _ handler
    (fun _ _ _ split => aheadOrder_ready acyclic split) (Store.aheadOrder_nodup s _)
    (fun x mem => ((Store.mem_aheadOrder_iff s _).1 mem).1) (s.aheadOrder (parseBody body)) [] rfl st start
  refine ⟨st', ?_, ideal, good⟩
  rw [unfolded, exec_bind, real]
  rfl

theorem evaluateBody_exec_inOrder (acyclic : ∀ k, s.ReachedFrom (parseBody body).references k → ¬ TransGen s.Depends k k) :
    (evaluateBody ⟨s, now, none⟩ body).exec {} =
      (do evaluateInOrder ⟨s, now, none⟩ (s.aheadOrder (parseBody body))
          evalTree (rememberedContext ⟨s, now, none⟩) now (parseBody body)).exec {} := by
  obtain ⟨st₁, real, ideal, good⟩ := @resolveAhead_exec_inOrder s now body acyclic {} rfl rfl
  -- every reference of the body with a body is in the order, and the stack is empty
  have reads : ∀ j ∈ (parseBody body).references,
      ((s.formulaExpr? j).isSome → j ∈ s.aheadOrder (parseBody body)) ∧ j ∉ ([] : List String) :=
    fun j ref => ⟨fun formula => (Store.mem_aheadOrder_iff s _).2 ⟨formula, .root ref⟩, List.not_mem_nil⟩
  obtain ⟨same, -⟩ := @evalTree_answers s now [] _ [] s.fuel body (Nat.le_succ _) reads
    (fun _ mem => absurd mem List.not_mem_nil) st₁ good
  obtain ⟨v, st₂, ran⟩ := evalTree_remembered_ok ⟨s, now, none⟩ now (parseBody body) st₁
  simp only [evaluateBody, exec_tryCatch, exec_bind, real, ideal, same, ran]

end Order

/-- The evaluation ahead of a formula. Its order lists each formula cell with a body that the formula
reaches, once, and every dependency with a body before the cell that reads it unless the two are on a
cycle. When no reached cell is on a cycle, evaluating the formula is evaluating each cell of the order
once, with only that cell on the stack and every read answered from remembered values (a cell with an
empty body is blank and remembered on its first read), and then the formula from remembered values. -/
theorem evaluation_ahead_postorder (s : Store) (now : DateTime) (body : String) :
    (∀ k, k ∈ s.aheadOrder (parseBody body) ↔
      (s.formulaExpr? k).isSome ∧ s.ReachedFrom (parseBody body).references k) ∧
    (s.aheadOrder (parseBody body)).Nodup ∧
    (∀ k ∈ s.aheadOrder (parseBody body), ∀ d, s.Depends k d → (s.formulaExpr? d).isSome →
      [d, k].Sublist (s.aheadOrder (parseBody body)) ∨ TransGen s.Depends d k) ∧
    ((∀ k, s.ReachedFrom (parseBody body).references k → ¬ TransGen s.Depends k k) →
      (evaluateBody ⟨s, now, none⟩ body).exec {} =
        (do evaluateInOrder ⟨s, now, none⟩ (s.aheadOrder (parseBody body))
            evalTree (rememberedContext ⟨s, now, none⟩) now (parseBody body)).exec {}) :=
  ⟨fun _ => Store.mem_aheadOrder_iff s _, Store.aheadOrder_nodup s _, Store.aheadOrder_dependenciesFirst s _,
    evaluateBody_exec_inOrder⟩

def aheadChain : Store := ⟨[("A1", .str "=B1"), ("B1", .str "=C1&C1"), ("C1", .str "x")]⟩

theorem evaluation_ahead_on_chain :
    (∀ k, aheadChain.ReachedFrom (parseBody "A1").references k → ¬ TransGen aheadChain.Depends k k) ∧
      (evaluateBody ⟨aheadChain, default, none⟩ "A1").exec {} =
        (do evaluateInOrder ⟨aheadChain, default, none⟩ (aheadChain.aheadOrder (parseBody "A1"))
            evalTree (rememberedContext ⟨aheadChain, default, none⟩) default (parseBody "A1")).exec {} := by
  -- every reference goes one step down the chain, from `A1` to `B1` and from `B1` to `C1`
  have descends : ∀ k j, aheadChain.Depends k j →
      (if j = "A1" then 2 else if j = "B1" then 1 else 0) < (if k = "A1" then 2 else if k = "B1" then 1 else 0) := by
    rintro k j ⟨e, found, ref⟩
    rw [Store.formulaExpr?_references found] at ref
    by_cases isA : k = "A1"
    · subst isA
      have refs : formulaReferences (aheadChain.content "A1") = ["B1"] := by decide +kernel
      rw [refs, List.mem_singleton] at ref
      subst ref
      decide
    by_cases isB : k = "B1"
    · subst isB
      have refs : formulaReferences (aheadChain.content "B1") = ["C1"] := by decide +kernel
      rw [refs, List.mem_singleton] at ref
      subst ref
      decide
    -- no other cell holds a formula
    have plain : aheadChain.formulaExpr? k = none := by
      by_cases isC : k = "C1"
      · subst isC
        decide +kernel
      · have missing : aheadChain.cells.lookup k = none := by
          simp [aheadChain, List.lookup, beq_false_of_ne isA, beq_false_of_ne isB, beq_false_of_ne isC]
        simp [Store.formulaExpr?, Store.content_of_lookup_none missing, Store.formulaBody?]
    simp [plain] at found
  have acyclic : ∀ k, aheadChain.ReachedFrom (parseBody "A1").references k → ¬ TransGen aheadChain.Depends k k :=
    fun _ _ => Store.not_transGen_of_rank _ descends
  exact ⟨acyclic, (evaluation_ahead_postorder aheadChain default "A1").2.2.2 acyclic⟩

end Spreadsheet
