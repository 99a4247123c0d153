import Spreadsheet.Proofs.Frame

/-!
The resolution stack.

While a formula is evaluated against a store, the cells being evaluated form a stack: a read of a
formula cell pushes it, evaluates its body and pops it. The stack is a path of reads without
repeats: each cell on it is read by the body of the cell below it, and nothing on it is remembered
yet (`ValidStack`). A read from such a stack, of a cell that the top of the stack reads, keeps all
of this (`Disciplined`): it gives the stack back as it found it whether it returns or fails, forgets
no remembered value, remembers its cell exactly when the cell's evaluation returned, emits no cycle
event, and every cycle it raises is a cycle of reads, from a cell back to itself. So the cycle event
of a formula carries such a cycle.
-/

set_option autoImplicit false

namespace Spreadsheet

open Formula Calendar EvalM

namespace Store

variable {s : Store}

/-- A cycle of reads: a path of reads of at least two cells that ends at the cell it starts from. -/
def ReferenceCycle (s : Store) (path : List String) : Prop :=
  2 ≤ path.length ∧ path.head? = path.getLast? ∧ s.DependencyPath path

theorem DependencyPath.tail {k : String} : ∀ {path : List String}, s.DependencyPath (k :: path) → s.DependencyPath path
  | [], _ => trivial
  | _ :: _, walk => walk.2

theorem DependencyPath.of_append : ∀ {pre path : List String}, s.DependencyPath (pre ++ path) → s.DependencyPath path
  | [], _, walk => walk
  | _ :: pre, _, walk => @DependencyPath.of_append pre _ walk.tail

theorem DependencyPath.isFormula_of_mem : ∀ {path : List String}, s.DependencyPath path → ∀ k ∈ path, s.IsFormula k
  | [], _, _, mem => nomatch mem
  | _ :: _, walk, k, mem => by
    rcases List.mem_cons.1 mem with rfl | later
    · exact walk.isFormula
    · exact DependencyPath.isFormula_of_mem walk.tail k later

theorem DependencyPath.push {k top : String} : ∀ {path : List String}, s.DependencyPath path →
    path.getLast? = some top → s.Reads top k → s.DependencyPath (path ++ [k])
  | [], _, last, _ => nomatch last
  | [x], _, last, reads => by
    obtain rfl : x = top := by simpa using last
    exact ⟨reads, reads.2.1⟩
  | x :: y :: rest, walk, last, reads =>
    ⟨walk.1, @DependencyPath.push _ _ (y :: rest) walk.2 (by simpa using last) reads⟩

theorem head?_dropWhile_ne {key : String} : ∀ {stack : List String}, key ∈ stack →
    (stack.dropWhile (· != key)).head? = some key
  | x :: rest, mem => by
    by_cases same : x = key
    · simp [same]
    · have later : key ∈ rest := by simpa [Ne.symm same] using mem
      simp only [List.dropWhile_cons, bne_iff_ne, ne_eq, same, not_false_eq_true, if_true]
      exact head?_dropWhile_ne later

theorem referenceCycle_cyclePath {stack : List String} {key : String} (walk : s.DependencyPath stack)
    (stacked : key ∈ stack) (reads : ∀ top, stack.getLast? = some top → s.Reads top key) :
    s.ReferenceCycle (cyclePath stack key) := by
  have first := head?_dropWhile_ne stacked
  obtain ⟨rest, split⟩ : ∃ rest, stack.dropWhile (· != key) = key :: rest := by
    cases h : stack.dropWhile (· != key) with
    | nil => rw [h] at first; cases first
    | cons x rest => rw [h] at first; cases first; exact ⟨rest, rfl⟩
  have whole : stack = stack.takeWhile (· != key) ++ (key :: rest) := by
    rw [← split, List.takeWhile_append_dropWhile]
  obtain ⟨top, topped⟩ : ∃ top, (key :: rest).getLast? = some top := ⟨_, List.getLast?_cons⟩
  have last : stack.getLast? = some top := by
    rw [whole, List.getLast?_append, topped]
    rfl
  unfold cyclePath
  rw [split]
  refine ⟨by simp, by rw [List.getLast?_concat]; rfl, ?_⟩
  -- the part of the stack from the repeated cell is a path of reads, and the top reads the cell
  have suffix : s.DependencyPath (key :: rest) := DependencyPath.of_append (whole ▸ walk)
  exact suffix.push topped (reads top last)

end Store

section Discipline

variable (s : Store)

/-- A stack of cells being evaluated: a path of reads without repeats, none of its cells remembered. -/
structure ValidStack (st : Resolver) : Prop where
  nodup : st.stack.Nodup
  path : s.DependencyPath st.stack
  avoids : Avoids st.memo st.stack

def ReadFromTop (stack : List String) (key : String) : Prop :=
  ∀ top, stack.getLast? = some top → key ∈ formulaReferences (s.content top)

/-- What a run from `st` keeps: the stack as it found it, every remembered value, nothing remembered
on the stack, no cycle event; and a cycle it raises is a cycle of reads. -/
structure Disciplined {α : Type} (st : Resolver) (run : Except Fault α × Resolver) : Prop where
  stack : run.2.stack = st.stack
  keeps : Keeps st.memo run.2.memo
  avoids : Avoids run.2.memo st.stack
  quiet : Quiet st.events run.2.events
  cycle : ∀ path, run.1 = .error (.cycle path) → s.ReferenceCycle path

structure CellRead (st : Resolver) (key : String) (run : Except Fault Value × Resolver) : Prop
    extends Disciplined s st run where
  remembered : ∀ v, run.1 = .ok v → s.IsFormula key → run.2.memo.lookup key = some v
  forgotten : ∀ f, run.1 = .error f → run.2.memo.lookup key = none

/-- Every run of `m` from a valid state on `stack` is disciplined. -/
def Guarded {α : Type} (stack : List String) (m : EvalM α) : Prop :=
  ∀ st, st.stack = stack → ValidStack s st → Disciplined s st (m.exec st)

variable {s} {α β : Type} {stack : List String}

theorem Disciplined.refl {st : Resolver} (valid : ValidStack s st) (a : Except Fault α)
    (quiet : ∀ path, a = .error (.cycle path) → s.ReferenceCycle path) : Disciplined s st (a, st) :=
  ⟨rfl, Keeps.refl _, valid.avoids, Quiet.refl _, quiet⟩

theorem Disciplined.trans {st st' : Resolver} {a : Except Fault α} {run : Except Fault β × Resolver}
    (first : Disciplined s st (a, st')) (next : Disciplined s st' run) : Disciplined s st run :=
  ⟨next.stack.trans first.stack, first.keeps.trans next.keeps, first.stack ▸ next.avoids,
    first.quiet.trans next.quiet, next.cycle⟩

theorem Disciplined.valid {st : Resolver} {run : Except Fault α × Resolver} (valid : ValidStack s st)
    (kept : Disciplined s st run) : ValidStack s run.2 :=
  ⟨kept.stack ▸ valid.nodup, kept.stack ▸ valid.path, kept.stack ▸ kept.avoids⟩

namespace Guarded

theorem pure (a : α) : Guarded s stack (Pure.pure a) :=
  fun _ _ valid => Disciplined.refl valid _ fun _ failed => nomatch failed

theorem throw {f : Fault} (cyclic : ∀ path, f = .cycle path → s.ReferenceCycle path) :
    Guarded s stack (MonadExcept.throw f : EvalM α) :=
  fun _ _ valid => Disciplined.refl valid _ fun path failed => cyclic path (by cases failed; rfl)

theorem emit (e : Log.Event) (quiet : e.kind ≠ .formulaCycle) : Guarded s stack (Spreadsheet.emit e) := by
  intro st _ valid
  rw [exec_emit]
  exact ⟨rfl, Keeps.refl _, valid.avoids, ⟨[e.emitted], by simp, by simpa [Log.Event.emitted] using quiet⟩,
    fun _ failed => (nomatch failed)⟩

theorem bind {m : EvalM α} {f : α → EvalM β} (first : Guarded s stack m) (next : ∀ a, Guarded s stack (f a)) :
    Guarded s stack (m >>= f) := by
  intro st on valid
  have early := first st on valid
  rcases ran : m.exec st with ⟨outcome, st'⟩
  rw [ran] at early
  cases outcome with
  | ok a =>
    rw [exec_bind_ok ran]
    exact early.trans (next a st' (early.stack.trans on) (early.valid valid))
  | error e =>
    rw [exec_bind_error ran]
    refine ⟨early.stack, early.keeps, early.avoids, early.quiet, fun path failed => early.cycle path ?_⟩
    simpa using failed

theorem tryCatch {m : EvalM α} {handler : Fault → EvalM α} (first : Guarded s stack m)
    (handled : ∀ f, (∀ path, f = .cycle path → s.ReferenceCycle path) → Guarded s stack (handler f)) :
    Guarded s stack (MonadExcept.tryCatch m handler) := by
  intro st on valid
  have early := first st on valid
  rcases ran : m.exec st with ⟨outcome, st'⟩
  rw [ran] at early
  cases outcome with
  | ok a =>
    rw [exec_tryCatch_ok ran]
    exact early
  | error e =>
    -- the handler starts where the failed run left the state, and only on a fault it may raise
    rw [exec_tryCatch_error ran]
    exact early.trans (handled e (fun path same => early.cycle path (by rw [same]))
      st' (early.stack.trans on) (early.valid valid))

theorem discard {m : EvalM α} (first : Guarded s stack m) : Guarded s stack (Functor.discard m) := by
  intro st on valid
  have early := first st on valid
  rw [exec_discard]
  rcases ran : m.exec st with ⟨_ | _, st'⟩ <;> rw [ran] at early
  · refine ⟨early.stack, early.keeps, early.avoids, early.quiet, fun path failed => early.cycle path ?_⟩
    simpa using failed
  · exact ⟨early.stack, early.keeps, early.avoids, early.quiet, fun _ failed => (nomatch failed)⟩

theorem forIn {body : String → EvalM PUnit} (each : ∀ key, Guarded s stack (body key)) :
    ∀ keys : List String, Guarded s stack
      (ForIn.forIn keys PUnit.unit fun key _ => do body key; Pure.pure (ForInStep.yield PUnit.unit))
  | [] => Guarded.pure _
  | key :: rest => by
    rw [List.forIn_cons]
    refine Guarded.bind (Guarded.bind (each key) fun _ => Guarded.pure _) fun step => ?_
    cases step with
    | done => exact Guarded.pure _
    | yield => exact forIn each rest

theorem lawful : Lawful (fun _ m _ => Guarded s stack m) where
  pure a := Guarded.pure a
  throw f other := Guarded.throw fun path same => (other (isCycle_error.2 ⟨path, same⟩)).elim
  emit e quiet := Guarded.emit e quiet
  bind first next := Guarded.bind first next
  tryCatch first passes _ handled := by
    refine Guarded.tryCatch first fun f cyclic => ?_
    -- a cycle passes through the handler unchanged, so it is still a cycle of reads
    by_cases cycle : ∃ path, f = .cycle path
    · obtain ⟨path, rfl⟩ := cycle
      rw [passes]
      exact Guarded.throw cyclic
    · exact handled f (by simpa using cycle)

end Guarded

theorem ValidStack.push {st : Resolver} {key : String} (valid : ValidStack s st) (read : ReadFromTop s st.stack key)
    (formula : s.IsFormula key) (miss : st.memo.lookup key = none) (fresh : key ∉ st.stack) :
    ValidStack s { st with stack := st.stack ++ [key] } := by
  refine ⟨List.nodup_append.2 ⟨valid.nodup, by simp, fun a mem b same => ?_⟩, ?_, avoids_push.2 ⟨valid.avoids, miss⟩⟩
  · rw [List.mem_singleton.1 same]
    rintro rfl
    exact fresh mem
  · -- the cell is read by the top of the stack, or starts the path
    cases topped : st.stack.getLast? with
    | none =>
      rw [List.getLast?_eq_none_iff.1 topped]
      exact formula
    | some top =>
      have below := valid.path.isFormula_of_mem top (List.mem_of_getLast? topped)
      exact valid.path.push topped ⟨below, formula, read top topped⟩

end Discipline

section Cells

variable {s : Store} {now : DateTime}

theorem cellValue_exec_exhausted {env : Env} {cellId body : String} {st : Resolver}
    (present : Store.formulaBody? (env.store.content (canonicalKey cellId)) = some body)
    (plainMode : env.computed = none) (miss : st.memo.lookup (canonicalKey cellId) = none)
    (fresh : canonicalKey cellId ∉ st.stack) :
    (cellValue env 0 cellId).exec st = (.error (.internal "reference depth exhausted"), st) := by
  simp [cellValue, present, plainMode, exec_bind, miss, fresh]

theorem cellValue_cellRead_of_body {fuel : Nat} {cellId : String} {st : Resolver} (valid : ValidStack s st)
    (read : ReadFromTop s st.stack (canonicalKey cellId))
    (bodies : ∀ f, fuel = f + 1 → ∀ body, Store.formulaBody? (s.content (canonicalKey cellId)) = some body →
      Guarded s (st.stack ++ [canonicalKey cellId])
        (if body.isEmpty then pure .null else evalTree (sheetContext ⟨s, now, none⟩ f) now (parseBody body))) :
    CellRead s st (canonicalKey cellId) ((cellValue ⟨s, now, none⟩ fuel cellId).exec st) := by
  -- a plain cell is read without touching the state
  rcases present : Store.formulaBody? (s.content (canonicalKey cellId)) with _ | body
  · rw [@cellValue_exec_plain ⟨s, now, none⟩ fuel cellId st present]
    refine ⟨Disciplined.refl valid _ fun _ failed => (nomatch failed), fun _ _ formula => ?_, fun _ failed => (nomatch failed)⟩
    rw [Store.isFormula_iff] at formula
    obtain ⟨_, found⟩ := formula
    rw [present] at found
    cases found
  have formula : s.IsFormula (canonicalKey cellId) := Store.isFormula_iff.2 ⟨body, present⟩
  rcases hit : st.memo.lookup (canonicalKey cellId) with _ | v
  case some =>
    rw [@cellValue_exec_memo ⟨s, now, none⟩ fuel cellId body st present rfl v hit]
    exact ⟨Disciplined.refl valid _ fun _ failed => (nomatch failed), fun w same _ => by cases same; exact hit,
      fun _ failed => (nomatch failed)⟩
  by_cases stacked : canonicalKey cellId ∈ st.stack
  · -- a cell met again closes a cycle of reads
    rw [@cellValue_exec_stacked ⟨s, now, none⟩ fuel cellId body st present rfl hit stacked]
    have cyclic := Store.referenceCycle_cyclePath valid.path stacked fun top topped =>
      ⟨valid.path.isFormula_of_mem top (List.mem_of_getLast? topped), formula, read top topped⟩
    exact ⟨Disciplined.refl valid _ fun path failed => by cases failed; exact cyclic,
      fun _ failed => (nomatch failed), fun _ _ => hit⟩
  cases fuel with
  | zero =>
    -- out of fuel is an internal failure, not a cycle, and leaves the state as it is
    rw [@cellValue_exec_exhausted ⟨s, now, none⟩ cellId body st present rfl hit stacked]
    exact ⟨Disciplined.refl valid _ fun _ failed => (nomatch failed), fun _ failed => (nomatch failed), fun _ _ => hit⟩
  | succ f =>
    rw [@cellValue_exec_push ⟨s, now, none⟩ f cellId body st present rfl hit stacked]
    have pushed := valid.push read formula hit stacked
    have run := bodies f rfl body present _ rfl pushed
    dsimp only at run ⊢
    split
    next v st' ran =>
      -- the body returned: the cell is popped and remembered
      rw [ran] at run
      have restored : st'.stack.dropLast = st.stack := by rw [run.stack]; simp
      have unremembered := avoids_push.1 run.avoids
      refine ⟨⟨restored, fun k w found => ?_, avoids_cons.2 ⟨stacked, unremembered.1⟩, run.quiet,
        fun _ failed => (nomatch failed)⟩, fun w same _ => by cases same; simp, fun _ failed => (nomatch failed)⟩
      have other : k ≠ canonicalKey cellId := by
        rintro rfl
        rw [hit] at found
        cases found
      rw [lookup_cons_ne other]
      exact run.keeps k w found
    next e st' ran =>
      -- the body failed: the cell is popped and not remembered
      rw [ran] at run
      have restored : st'.stack.dropLast = st.stack := by rw [run.stack]; simp
      have unremembered := avoids_push.1 run.avoids
      exact ⟨⟨restored, run.keeps, unremembered.1, run.quiet, run.cycle⟩, fun _ failed => (nomatch failed),
        fun _ _ => unremembered.2⟩

theorem cellValue_cellRead (fuel : Nat) : ∀ (cellId : String) (st : Resolver), ValidStack s st →
    ReadFromTop s st.stack (canonicalKey cellId) →
    CellRead s st (canonicalKey cellId) ((cellValue ⟨s, now, none⟩ fuel cellId).exec st) := by
  induction fuel with
  | zero =>
    intro cellId st valid read
    exact cellValue_cellRead_of_body valid read fun f none => absurd none.symm (Nat.succ_ne_zero f)
  | succ f ih =>
    intro cellId st valid read
    refine cellValue_cellRead_of_body valid read fun f' same body present => ?_
    cases same
    by_cases empty : body.isEmpty <;> simp only [empty, if_true, Bool.false_eq_true, if_false]
    · exact Guarded.pure _
    -- the body reads its references, each from the stack with the cell on top
    have each : ∀ k ∈ (parseBody body).references,
        Guarded s (st.stack ++ [canonicalKey cellId]) (cellValue ⟨s, now, none⟩ f k) := by
      intro k mem st' on valid'
      have topped : ReadFromTop s st'.stack (canonicalKey k) := by
        intro top last
        rw [on, List.getLast?_concat, Option.some.injEq] at last
        rw [← last, parseBody_references_canonical body mem, Store.formulaReferences_of_body present]
        exact mem
      exact (ih k st' valid' topped).toDisciplined
    have law := @Guarded.lawful s (st.stack ++ [canonicalKey cellId])
    exact @Lawful.evalTree_keeps _ law now (sheetContext ⟨s, now, none⟩ f) (fun _ => sheetContext ⟨s, now, none⟩ f)
      (parseBody body) (fun k mem => each k (mem_references_of_cell mem))
      (fun r mem => @Lawful.mapM_keeps _ law (cellValue ⟨s, now, none⟩ f) (fun _ => cellValue ⟨s, now, none⟩ f)
        (Span.mk r.1 r.2).keys fun k member => each k (mem_references_of_range mem member))

theorem cellValue_guarded_nil (fuel : Nat) (cellId : String) :
    Guarded s [] (cellValue ⟨s, now, none⟩ fuel cellId) :=
  fun st on valid => (cellValue_cellRead fuel cellId st valid fun top last => by
    rw [on] at last
    cases last).toDisciplined

theorem resolveAhead_guarded (e : Expr) : Guarded s [] (resolveAhead ⟨s, now, none⟩ e) := by
  simp only [resolveAhead, Option.isSome_none, Bool.false_eq_true, if_false]
  refine Guarded.bind (Guarded.forIn (fun key => Guarded.tryCatch
    (Guarded.discard (cellValue_guarded_nil _ key)) fun f _ => ?_) _) fun _ => Guarded.pure _
  -- the cycles met ahead are skipped, and every other failure goes on
  cases f with
  | cycle path => exact Guarded.pure _
  | code c => exact Guarded.throw fun _ same => by cases same
  | arith a => exact Guarded.throw fun _ same => by cases same
  | internal r => exact Guarded.throw fun _ same => by cases same

/-- The formula cycle events among `events` each carry a cycle of reads. -/
def CyclesClosed (s : Store) (events : List Log.Event) : Prop :=
  ∀ e ∈ events, e.kind = .formulaCycle → ∃ path, s.ReferenceCycle path ∧ e = (cycleEvent path).emitted

theorem cyclesClosed_of_quiet {events : List Log.Event} (quiet : ∀ e ∈ events, e.kind ≠ .formulaCycle) :
    CyclesClosed s events :=
  fun e mem kind => absurd kind (quiet e mem)

theorem cyclesClosed_of_fresh {events : Array Log.Event} (quiet : Quiet #[] events) :
    CyclesClosed s events.toList := by
  obtain ⟨added, same, quiet⟩ := quiet
  rw [same]
  exact cyclesClosed_of_quiet quiet

theorem CyclesClosed.append {events events' : List Log.Event} (closed : CyclesClosed s events)
    (closed' : CyclesClosed s events') : CyclesClosed s (events ++ events') := by
  intro e mem kind
  rcases List.mem_append.1 mem with old | new
  · exact closed e old kind
  · exact closed' e new kind

theorem evaluateBody_cyclesClosed (body : String) :
    CyclesClosed s ((evaluateBody ⟨s, now, none⟩ body).exec {}).2.events.toList := by
  have tried : Guarded s [] (resolveAhead ⟨s, now, none⟩ (parseBody body) >>= fun _ =>
      evalTree (sheetContext ⟨s, now, none⟩ s.fuel) now (parseBody body)) := by
    have law := @Guarded.lawful s []
    refine Guarded.bind (resolveAhead_guarded _) fun _ => ?_
    exact @Lawful.evalTree_keeps _ law now (sheetContext ⟨s, now, none⟩ s.fuel) (fun _ => sheetContext ⟨s, now, none⟩ s.fuel)
      (parseBody body) (fun k _ => cellValue_guarded_nil _ k)
      (fun r _ => @Lawful.mapM_keeps _ law (cellValue ⟨s, now, none⟩ s.fuel) (fun _ => cellValue ⟨s, now, none⟩ s.fuel)
        (Span.mk r.1 r.2).keys fun k _ => cellValue_guarded_nil _ k)
  have run := tried {} rfl ⟨List.nodup_nil, trivial, fun _ mem => by cases mem⟩
  simp only [evaluateBody, exec_tryCatch]
  split
  next a st' ran =>
    rw [ran] at run
    exact cyclesClosed_of_fresh run.quiet
  next f st' ran =>
    rw [ran] at run
    have before : CyclesClosed s st'.events.toList := cyclesClosed_of_fresh run.quiet
    -- the handler adds at most one event, a cycle event only for the cycle the body met
    cases f with
    | cycle path =>
      simp only [exec_bind, exec_emit, exec_pure, Array.toList_push]
      exact before.append fun e mem _ => ⟨path, run.cycle path rfl, List.mem_singleton.1 mem⟩
    | code c => exact before
    | arith a =>
      simp only [exec_bind, exec_emit, exec_pure, Array.toList_push]
      exact before.append (cyclesClosed_of_quiet fun e mem => by
        rw [List.mem_singleton.1 mem]
        intro cyclic
        cases cyclic)
    | internal r =>
      simp only [exec_bind, exec_emit, exec_pure, Array.toList_push]
      exact before.append (cyclesClosed_of_quiet fun e mem => by
        rw [List.mem_singleton.1 mem]
        intro cyclic
        cases cyclic)

theorem evaluateFormula_cyclesClosed (text : String) :
    CyclesClosed s (evaluateFormula s now (.str text)).2 := by
  simp only [evaluateFormula]
  split
  next body _ =>
    split
    · exact fun _ mem => by cases mem
    · have closed := @evaluateBody_cyclesClosed s now body
      rw [runFresh_eq]
      split
      all_goals
        rename_i ran
        rw [ran] at closed
        exact closed
  next => exact fun _ mem => by cases mem

end Cells

/-- Resolution keeps its stack a path of reads without repeats. A cell goes on the stack only when the
cell on top reads it, it is not remembered and not on the stack already; a read from such a stack
leaves the stack as it found it, only adds to what is remembered, remembers the cell exactly when it
returned, emits no cycle event, and fails on a cycle only with a cycle of reads. So every formula
cycle event of an evaluation carries a cycle of reads. -/
theorem resolution_keeps_stack_a_path (s : Store) (now : DateTime) :
    (∀ (st : Resolver) (key : String), ValidStack s st → ReadFromTop s st.stack key → s.IsFormula key →
      st.memo.lookup key = none → key ∉ st.stack → ValidStack s { st with stack := st.stack ++ [key] }) ∧
    (∀ (fuel : Nat) (cellId : String) (st : Resolver), ValidStack s st →
      ReadFromTop s st.stack (canonicalKey cellId) →
      CellRead s st (canonicalKey cellId) ((cellValue ⟨s, now, none⟩ fuel cellId).exec st)) ∧
    (∀ text : String, CyclesClosed s (evaluateFormula s now (.str text)).2) :=
  ⟨fun _ _ valid read formula miss fresh => valid.push read formula miss fresh,
    cellValue_cellRead,
    evaluateFormula_cyclesClosed⟩

def mutualCycle : Store := ⟨[("A1", .str "=B1"), ("B1", .str "=A1")]⟩

theorem mutual_cycle_reads_disciplined :
    ValidStack mutualCycle { stack := ["A1"] } ∧
      CellRead mutualCycle {} (canonicalKey "A1")
        ((cellValue ⟨mutualCycle, default, none⟩ mutualCycle.fuel "A1").exec {}) ∧
      CellRead mutualCycle { stack := ["A1"] } (canonicalKey "B1")
        ((cellValue ⟨mutualCycle, default, none⟩ mutualCycle.fuel "B1").exec { stack := ["A1"] }) := by
  obtain ⟨push, read, _⟩ := resolution_keeps_stack_a_path mutualCycle default
  have empty : ValidStack mutualCycle {} := ⟨List.nodup_nil, trivial, fun _ mem => nomatch mem⟩
  have pushed : ValidStack mutualCycle { stack := ["A1"] } :=
    push {} "A1" empty (fun _ last => nomatch last) (by unfold Store.IsFormula; decide +kernel) rfl (by simp)
  have underA1 : ReadFromTop mutualCycle ["A1"] (canonicalKey "B1") := by
    intro top last
    cases last
    decide +kernel
  exact ⟨pushed, read _ "A1" {} empty (fun _ last => nomatch last), read _ "B1" _ pushed underA1⟩

end Spreadsheet
