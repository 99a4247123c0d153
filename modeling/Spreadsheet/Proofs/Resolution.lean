import Spreadsheet.Proofs.Simulation

/-!
Memoised resolution agrees with plain resolution.

A formula evaluated against a store remembers every cell it resolves and first evaluates the
formula cells it depends on, skipping the cycles met there. Neither changes its value: it is the
value plain resolution gives, and a formula that meets a cycle meets the same one and reports
the same path. The proof runs the memoised cell read against plain resolution (`cellValue_sim`)
by induction on the fuel, each level through the evaluator's simulation lemma; evaluating ahead
keeps the invariant whatever it evaluates.
-/

set_option autoImplicit false

namespace Spreadsheet

open Formula Calendar EvalM Log

theorem evalTree_error_isCycle (ctx : Context) (now : DateTime) (e : Expr) (st : Resolver)
    {f : Fault} (failed : ((evalTree ctx now e).exec st).1 = .error f) :
    IsCycle (.error f : Except Fault Value) := by
  simp only [evalTree, exec_tryCatch, exec_bind] at failed
  rcases ran : (evalExpr ctx now e).exec st with ⟨_ | v, st'⟩ <;> rw [ran] at failed
  · rename_i g
    cases g with
    | cycle path =>
      simp only [exec_throw, Except.error.injEq] at failed
      exact isCycle_error.2 ⟨path, failed.symm⟩
    | code c => simp at failed
    | arith a => simp [exec_map] at failed
    | internal r => simp [exec_map] at failed
  · simp at failed

theorem plainCell_error_isCycle {store : Store} {now : DateTime} {stack : List String}
    {cellId : String} {f : Fault} (failed : Yields (plainCell store now stack cellId) (.error f)) :
    IsCycle (.error f : Except Fault Value) := by
  have ran := failed {}
  rcases present : Store.formulaBody? (store.content (canonicalKey cellId)) with _ | body
  · simp [plainCell_of_plain present] at ran
  · by_cases stacked : canonicalKey cellId ∈ stack
    · simp only [plainCell_of_stacked present stacked, exec_throw, Except.error.injEq] at ran
      exact isCycle_error.2 ⟨_, ran.symm⟩
    · rw [plainCell_of_formula present stacked] at ran
      split at ran
      · simp at ran
      · exact evalTree_error_isCycle _ _ _ _ ran

section Cell

variable {env : Env} {fuel : Nat} {cellId body : String} {st : Resolver}

theorem cellValue_exec_plain (plain : Store.formulaBody? (env.store.content (canonicalKey cellId)) = none) :
    (cellValue env fuel cellId).exec st = (.ok (plainValue (env.store.content (canonicalKey cellId))), st) := by
  simp [cellValue, plain]

theorem cellValue_exec_memo (present : Store.formulaBody? (env.store.content (canonicalKey cellId)) = some body)
    (plainMode : env.computed = none) {v : Value} (hit : st.memo.lookup (canonicalKey cellId) = some v) :
    (cellValue env fuel cellId).exec st = (.ok v, st) := by
  simp [cellValue, present, plainMode, exec_bind, hit]

theorem cellValue_exec_stacked
    (present : Store.formulaBody? (env.store.content (canonicalKey cellId)) = some body)
    (plainMode : env.computed = none) (miss : st.memo.lookup (canonicalKey cellId) = none)
    (stacked : canonicalKey cellId ∈ st.stack) :
    (cellValue env fuel cellId).exec st =
      (.error (.cycle (cyclePath st.stack (canonicalKey cellId))), st) := by
  simp [cellValue, present, plainMode, exec_bind, miss, stacked]

theorem cellValue_exec_push
    (present : Store.formulaBody? (env.store.content (canonicalKey cellId)) = some body)
    (plainMode : env.computed = none) (miss : st.memo.lookup (canonicalKey cellId) = none)
    (fresh : canonicalKey cellId ∉ st.stack) :
    (cellValue env (fuel + 1) cellId).exec st =
      match (if body.isEmpty then pure .null
          else evalTree (sheetContext env fuel) env.now (parseBody body) : EvalM Value).exec
          { st with stack := st.stack ++ [canonicalKey cellId] } with
      | (.ok v, st') =>
        (.ok v, { st' with stack := st'.stack.dropLast, memo := (canonicalKey cellId, v) :: st'.memo })
      | (.error e, st') => (.error e, { st' with stack := st'.stack.dropLast }) := by
  have absent : st.stack.contains (canonicalKey cellId) = false := by
    simpa [List.contains_iff_mem] using fresh
  simp only [cellValue, present, plainMode, exec_bind, exec_get, miss, absent, exec_modify,
    Bool.false_eq_true, if_false, exec_tryCatch, sheetContext]
  rcases (if body.isEmpty = true then pure Value.null
    else evalTree _ env.now (parseBody body) : EvalM Value).exec _ with ⟨_ | v, st'⟩ <;> rfl

theorem plainCell_congr {store : Store} {now : DateTime} {stack : List String} {a b : String}
    (same : canonicalKey a = canonicalKey b) : plainCell store now stack a = plainCell store now stack b := by
  unfold plainCell
  rw [same]

theorem cellValue_sim_of_body (plainMode : env.computed = none)
    (bodies : ∀ f, fuel = f + 1 → ∀ body : String, Sim env.store env.now f
      (if body.isEmpty then pure .null else evalTree (sheetContext env f) env.now (parseBody body))
      (fun stack => if body.isEmpty then pure .null
        else evalTree (plainContext env.store env.now stack) env.now (parseBody body)))
    (cellId : String) :
    Sim env.store env.now fuel (cellValue env fuel cellId)
      (fun stack => plainCell env.store env.now stack cellId) := by
  intro st inv
  rcases present : Store.formulaBody? (env.store.content (canonicalKey cellId)) with _ | body
  · rw [cellValue_exec_plain present]
    have plain : (fun stack => plainCell env.store env.now stack cellId) =
        fun _ => pure (plainValue (env.store.content (canonicalKey cellId))) :=
      funext fun _ => plainCell_of_plain present
    rw [plain]
    exact Sim.pure _ st inv
  rcases hit : st.memo.lookup (canonicalKey cellId) with _ | v
  case some =>
    rw [cellValue_exec_memo present plainMode hit]
    exact ⟨inv, rfl, Keeps.refl _, Quiet.refl _, fun cycle => absurd cycle (not_isCycle_ok v),
      fun _ stack avoids => inv.sound cellId v hit stack avoids⟩
  by_cases stacked : canonicalKey cellId ∈ st.stack
  · rw [cellValue_exec_stacked present plainMode hit stacked]
    refine ⟨inv, rfl, Keeps.refl _, Quiet.refl _, fun _ => ?_, fun other => (other ⟨_, rfl⟩).elim⟩
    rw [plainCell_of_stacked present stacked]
    exact yields_throw _
  have shrinks := Store.unstacked_push_lt (Store.lookup_of_formulaBody present) stacked
  cases fuel with
  | zero => have room := inv.room; omega
  | succ f =>
    rw [cellValue_exec_push present plainMode hit stacked]
    -- the body runs one level down, with the cell pushed
    have pushed : Invariant env.store env.now f { st with stack := st.stack ++ [canonicalKey cellId] } :=
      ⟨inv.sound, avoids_push.2 ⟨inv.avoids, hit⟩, by have room := inv.room; simp only; omega⟩
    have body_step := bodies f rfl body _ pushed
    rcases ran : (if body.isEmpty then pure .null
        else evalTree (sheetContext env f) env.now (parseBody body) : EvalM Value).exec
          { st with stack := st.stack ++ [canonicalKey cellId] } with ⟨outcome, st'⟩
    rw [ran] at body_step
    have restored : st'.stack.dropLast = st.stack := by rw [body_step.stack]; simp
    have unremembered := avoids_push.1 (body_step.stack ▸ body_step.invariant.avoids)
    cases outcome with
    | ok v =>
      dsimp only
      -- plain resolution from any stack that avoids the new memo evaluates the same body
      have plainValue : ∀ cellId', canonicalKey cellId' = canonicalKey cellId → ∀ stack,
          Avoids ((canonicalKey cellId, v) :: st'.memo) stack →
          Yields (plainCell env.store env.now stack cellId') (.ok v) := by
        intro cellId' same stack avoids
        obtain ⟨fresh, avoids'⟩ := avoids_cons.1 avoids
        rw [plainCell_congr same, plainCell_of_formula present fresh]
        exact body_step.other (not_isCycle_ok v) _ (avoids_push.2 ⟨avoids', unremembered.2⟩)
      have sound : MemoSound env.store env.now ((canonicalKey cellId, v) :: st'.memo) := by
        intro cellId' v' found stack avoids
        by_cases same : canonicalKey cellId' = canonicalKey cellId
        · rw [same] at found
          simp only [List.lookup_cons, beq_self_eq_true, Option.some.injEq] at found
          exact found ▸ plainValue cellId' same stack avoids
        · rw [lookup_cons_ne same] at found
          exact body_step.invariant.sound cellId' v' found stack (avoids_cons.1 avoids).2
      refine ⟨⟨sound, ?_, ?_⟩, restored, ?_, body_step.quiet, fun cycle => absurd cycle (not_isCycle_ok v),
        fun _ stack avoids => plainValue cellId rfl stack avoids⟩
      · dsimp only
        rw [restored]
        exact avoids_cons.2 ⟨stacked, unremembered.1⟩
      · simpa only [restored] using inv.room
      · intro key w found
        have other : key ≠ canonicalKey cellId := by
          rintro rfl
          rw [hit] at found
          cases found
        rw [lookup_cons_ne other]
        exact body_step.keeps key w found
    | error e =>
      dsimp only
      have cyclic : IsCycle (.error e : Except Fault Value) := by
        split at ran
        · simp at ran
        · exact evalTree_error_isCycle _ _ _ _ (by rw [ran])
      refine ⟨⟨body_step.invariant.sound, restored ▸ unremembered.1, ?_⟩, restored, body_step.keeps,
        body_step.quiet, fun _ => ?_, fun other => (other cyclic).elim⟩
      · simpa only [restored] using inv.room
      · rw [plainCell_of_formula present stacked]
        exact body_step.cycle cyclic

theorem cellValue_sim (plainMode : env.computed = none) (fuel : Nat) (cellId : String) :
    Sim env.store env.now fuel (cellValue env fuel cellId)
      (fun stack => plainCell env.store env.now stack cellId) := by
  induction fuel generalizing cellId with
  | zero => exact cellValue_sim_of_body plainMode (fun f none => absurd none.symm (Nat.succ_ne_zero f)) cellId
  | succ f ih =>
    refine cellValue_sim_of_body plainMode (fun f' same body => ?_) cellId
    cases same
    by_cases empty : body.isEmpty <;> simp only [empty, if_true, Bool.false_eq_true, if_false]
    · exact Sim.pure _
    · exact Sim.lawful.evalTree_keeps (fun k _ => ih k)
        fun r _ => Sim.lawful.mapM_keeps (Span.mk r.1 r.2).keys fun k _ => ih k

theorem resolveAhead_sim (plainMode : env.computed = none) (e : Expr) :
    Sim env.store env.now env.store.fuel (resolveAhead env e) (fun _ => pure ()) := by
  simp only [resolveAhead, plainMode, Option.isSome_none, Bool.false_eq_true, if_false]
  exact Sim.seq (Sim.forIn (fun key => Sim.skipCycles (cellValue_sim plainMode _ key)
    (fun _ _ failed => plainCell_error_isCycle failed) fun _ => rfl) _) (Sim.pure ())

theorem formula_sim (plainMode : env.computed = none) (e : Expr) :
    Sim env.store env.now env.store.fuel
      (do resolveAhead env e; evalTree (sheetContext env env.store.fuel) env.now e)
      (fun stack => evalTree (plainContext env.store env.now stack) env.now e) :=
  Sim.seq (resolveAhead_sim plainMode e)
    (Sim.lawful.evalTree_keeps
      (fun k _ => cellValue_sim plainMode _ k)
      fun r _ => Sim.lawful.mapM_keeps (Span.mk r.1 r.2).keys fun k _ => cellValue_sim plainMode _ k)

end Cell

theorem invariant_fresh (store : Store) (now : DateTime) : Invariant store now store.fuel {} :=
  ⟨fun _ _ found => (by simp at found), (fun _ mem => nomatch mem),
    Nat.le_trans (List.length_filter_le _ _) (Nat.le_succ _)⟩

theorem runFresh_eq (m : EvalM Value) : m.runFresh = match m.exec {} with
    | (.ok v, st) => (v, st.events.toList)
    | (.error _, st) => (ErrorCode.failure.toValue, st.events.toList) := rfl

theorem evaluateBody_runFresh (store : Store) (now : DateTime) (body : String) :
    (evaluateBody ⟨store, now, none⟩ body).runFresh.1 = (plainFormula store now body).1 ∧
      (evaluateBody ⟨store, now, none⟩ body).runFresh.2.filter (·.kind = .formulaCycle) =
        ((plainFormula store now body).2.map fun path => (cycleEvent path).emitted).toList := by
  have step := @formula_sim ⟨store, now, none⟩ rfl (parseBody body) {} (invariant_fresh store now)
  dsimp only at step
  simp only [runFresh_eq, evaluateBody, plainFormula, exec_tryCatch]
  rcases ran : EvalM.exec (resolveAhead ⟨store, now, none⟩ (parseBody body) >>= fun _ =>
      evalTree (sheetContext ⟨store, now, none⟩ store.fuel) now (parseBody body)) {} with ⟨outcome, st⟩
  rw [ran] at step
  obtain ⟨added, grown, calm⟩ := step.quiet
  have quiet : st.events.toList.filter (·.kind = .formulaCycle) = [] := by
    rw [show st.events.toList = added by simpa using grown]
    exact List.filter_eq_nil_iff.2 fun e mem => by simpa using calm e mem
  cases outcome with
  | ok v =>
    rw [step.other (not_isCycle_ok v) [] (fun _ mem => nomatch mem) {}]
    exact ⟨rfl, quiet⟩
  | error f =>
    by_cases cycled : IsCycle (.error f : Except Fault Value)
    · obtain ⟨path, same⟩ := cycled
      cases same
      rw [step.cycle ⟨path, rfl⟩ {}]
      dsimp only
      rw [exec_bind, exec_emit]
      simp only [exec_pure, Array.toList_push, List.filter_append, quiet]
      simp [cycleEvent, Log.Event.emitted]
    · -- the body fails plain resolution the same way, and that fails only on cycles
      exact absurd (evalTree_error_isCycle _ _ _ _
        (step.other cycled [] (fun _ mem => nomatch mem) {})) cycled

theorem evaluateFormula_of_body {store : Store} {now : DateTime} {text body : String}
    (formula : Store.formulaBody? text = some body) (nonblank : body.isEmpty = false) :
    evaluateFormula store now (.str text) = (evaluateBody ⟨store, now, none⟩ body).runFresh := by
  simp [evaluateFormula, formula, nonblank]

/-- A formula is worth what plain resolution gives it, and its cycle events are the one event of
the cycle plain resolution meets. -/
theorem evaluateFormula_eq_plainFormula (store : Store) (now : DateTime) {text body : String}
    (formula : Store.formulaBody? text = some body) (nonblank : body.isEmpty = false) :
    (evaluateFormula store now (.str text)).1 = (plainFormula store now body).1 ∧
      (evaluateFormula store now (.str text)).2.filter (·.kind = .formulaCycle) =
        ((plainFormula store now body).2.map fun path => (cycleEvent path).emitted).toList := by
  rw [evaluateFormula_of_body formula nonblank]
  exact evaluateBody_runFresh store now body

theorem evaluateFormula_mutual_cycle :
    Store.formulaBody? "=A1" = some "A1" ∧ "A1".isEmpty = false ∧
      (evaluateFormula ⟨[("A1", .str "=B1+1"), ("B1", .str "=A1")]⟩ default (.str "=A1")).1 =
        (plainFormula ⟨[("A1", .str "=B1+1"), ("B1", .str "=A1")]⟩ default "A1").1 ∧
      (evaluateFormula ⟨[("A1", .str "=B1+1"), ("B1", .str "=A1")]⟩ default (.str "=A1")).2.filter
          (·.kind = .formulaCycle) =
        ((plainFormula ⟨[("A1", .str "=B1+1"), ("B1", .str "=A1")]⟩ default "A1").2.map
          fun path => (cycleEvent path).emitted).toList :=
  ⟨by decide +kernel, rfl, evaluateFormula_eq_plainFormula _ _ (by decide +kernel) rfl⟩

end Spreadsheet
