import Spreadsheet.Proofs.Resolution
import Spreadsheet.Proofs.Dependencies

/-!
A formula depends only on the cells it reaches.

The cells a formula reaches are its references, then the references of every cell reached,
repeatedly. Two stores whose cells agree there evaluate the formula alike, events included, whatever
else they hold and in whatever order they list their cells: the evaluation ahead, the memoised reads
and the cycles met follow the same contents on both.

The proof relates the run on one store to the run on the other (`SameRun`): from every state whose
stack leaves room in the fuel of both stores, the two end in the same outcome and state, and give
the stack back as they found it. The relation is lawful, so the evaluator keeps it; a cell read
keeps it by induction on the fuel; and the walk that orders the evaluation ahead lists the same
cells on both stores, whatever their fuel, as long as each fuel exceeds the cells not yet visited.
-/

set_option autoImplicit false

namespace Spreadsheet

open Formula Calendar EvalM

/-- The cells a formula text reaches: its references, then the references of every cell reached. -/
inductive Store.Reaches (s : Store) (text : String) : String → Prop
  | ref {k : String} : k ∈ formulaReferences text → s.Reaches text k
  | read {k j : String} : s.Reaches text k → j ∈ formulaReferences (s.content k) → s.Reaches text j

/-- Cells on which two stores agree, closed under the references of their contents. -/
structure Store.AgreeOn (s s' : Store) (cells : String → Prop) : Prop where
  content : ∀ k, cells k → s.content k = s'.content k
  closed : ∀ k, cells k → ∀ j ∈ formulaReferences (s.content k), cells j

theorem parseBody_references_canonical (body : String) {k : String} (mem : k ∈ (parseBody body).references) :
    canonicalKey k = k := by
  simp only [Expr.references, Expr.cellRefs, Expr.ranges, mem_dedup, List.mem_append, List.mem_flatMap] at mem
  rcases mem with cell | ⟨_, _, key⟩
  · exact parseBody_cells body k cell
  · exact canonicalKey_of_mem_keys key

theorem formulaReferences_canonical {text k : String} (mem : k ∈ formulaReferences text) :
    canonicalKey k = k := by
  unfold formulaReferences formulaExpr? at mem
  split at mem
  · exact parseBody_references_canonical _ mem
  · cases mem

namespace Store

variable {s s' : Store} {cells : String → Prop} {k : String} {e : Expr}

theorem Reaches.canonical {text : String} (reached : s.Reaches text k) : canonicalKey k = k := by
  cases reached with
  | ref mem => exact formulaReferences_canonical mem
  | read _ mem => exact formulaReferences_canonical mem

theorem agreeOn_reaches {text : String} (agree : ∀ k, s.Reaches text k → s.content k = s'.content k) :
    s.AgreeOn s' (s.Reaches text) :=
  ⟨agree, fun _ reached _ mem => .read reached mem⟩

theorem formulaExpr?_eq_some (found : s.formulaExpr? k = some e) :
    ∃ body, formulaBody? (s.content k) = some body ∧ e = Formula.parseBody body := by
  unfold formulaExpr? at found
  split at found
  next body present =>
    split at found
    · cases found
    · exact ⟨body, present, (Option.some.inj found).symm⟩
  next => cases found

theorem formulaExpr?_references (found : s.formulaExpr? k = some e) :
    e.references = formulaReferences (s.content k) := by
  obtain ⟨body, present, rfl⟩ := formulaExpr?_eq_some found
  rw [formulaReferences_of_body present]

theorem AgreeOn.formulaExpr?_eq (agree : s.AgreeOn s' cells) (inside : cells k) :
    s.formulaExpr? k = s'.formulaExpr? k := by
  simp only [Store.formulaExpr?, agree.content k inside]

theorem AgreeOn.formulaBody?_eq (agree : s.AgreeOn s' cells) (inside : cells k) :
    formulaBody? (s.content k) = formulaBody? (s'.content k) := by
  rw [agree.content k inside]

theorem AgreeOn.expr_references (agree : s.AgreeOn s' cells) (inside : cells k)
    (found : s.formulaExpr? k = some e) : ∀ j ∈ e.references, cells j := by
  rw [formulaExpr?_references found]
  exact agree.closed k inside

theorem AgreeOn.body_references (agree : s.AgreeOn s' cells) (inside : cells k) {body : String}
    (found : formulaBody? (s.content k) = some body) : ∀ j ∈ (Formula.parseBody body).references, cells j := by
  rw [← formulaReferences_of_body found]
  exact agree.closed k inside

theorem unstacked_le_of_subset {a b : List String} (sub : ∀ x ∈ a, x ∈ b) : s.unstacked b ≤ s.unstacked a := by
  unfold unstacked
  rw [← List.countP_eq_length_filter, ← List.countP_eq_length_filter]
  refine List.countP_mono_left fun c _ off => ?_
  simp only [decide_eq_true_eq] at off ⊢
  exact fun mem => off (sub _ mem)

end Store

section Order

variable (s : Store)

theorem dependencyOrder_visited : ∀ (fuel : Nat) (keys : List String) (acc : List String × List String),
    ∀ x ∈ acc.1, x ∈ (dependencyOrder s fuel keys acc).1
  | 0, _, _, x, mem => by rwa [dependencyOrder.eq_1]
  | _ + 1, [], _, x, mem => by rwa [dependencyOrder.eq_2]
  | fuel + 1, k :: rest, (seen, order), x, mem => by
    rw [dependencyOrder.eq_3]
    refine dependencyOrder_visited (fuel + 1) rest _ x ?_
    split
    · exact mem
    · split
      · exact List.mem_append_left _ mem
      · exact dependencyOrder_visited fuel _ _ x (List.mem_append_left _ mem)
termination_by fuel keys => (fuel, keys.length)

variable {s} {s' : Store} {cells : String → Prop}

theorem dependencyOrder_listed (agree : s.AgreeOn s' cells) :
    ∀ (fuel : Nat) (keys : List String) (acc : List String × List String), (∀ k ∈ keys, cells k) →
      ∀ x ∈ (dependencyOrder s fuel keys acc).2, x ∈ acc.2 ∨ cells x
  | 0, _, _, _, x, mem => by rw [dependencyOrder.eq_1] at mem; exact .inl mem
  | _ + 1, [], _, _, x, mem => by rw [dependencyOrder.eq_2] at mem; exact .inl mem
  | fuel + 1, k :: rest, (seen, order), given, x, mem => by
    rw [dependencyOrder.eq_3] at mem
    have inside : cells k := given k (List.mem_cons_self ..)
    rcases dependencyOrder_listed agree (fuel + 1) rest _ (fun j mem => given j (List.mem_cons_of_mem _ mem)) x mem
      with early | reached
    · split at early
      · exact .inl early
      · split at early
        · exact .inl early
        next e found =>
          -- the cell itself comes after what the walk from its references listed
          rcases List.mem_append.1 early with early | last
          · exact dependencyOrder_listed agree fuel e.references (seen ++ [k], order)
              (agree.expr_references inside found) x early
          · exact .inr (List.mem_singleton.1 last ▸ inside)
    · exact .inr reached
termination_by fuel keys => (fuel, keys.length)

theorem dependencyOrder_agree (agree : s.AgreeOn s' cells) :
    ∀ (fuel : Nat) (keys : List String) (acc : List String × List String) (fuel' : Nat),
      (∀ k ∈ keys, cells k) → s.unstacked acc.1 < fuel → s'.unstacked acc.1 < fuel' →
      dependencyOrder s fuel keys acc = dependencyOrder s' fuel' keys acc
  | 0, _, _, _, _, room, _ => absurd room (Nat.not_lt_zero _)
  | _ + 1, _, _, 0, _, _, room' => absurd room' (Nat.not_lt_zero _)
  | _ + 1, [], _, _ + 1, _, _, _ => by rw [dependencyOrder.eq_2, dependencyOrder.eq_2]
  | fuel + 1, k :: rest, (seen, order), fuel' + 1, given, room, room' => by
    have inside : cells k := given k (List.mem_cons_self ..)
    have tail : ∀ j ∈ rest, cells j := fun j mem => given j (List.mem_cons_of_mem _ mem)
    rw [dependencyOrder.eq_3, dependencyOrder.eq_3, ← agree.formulaExpr?_eq inside]
    by_cases listed : seen.contains k = true
    · rw [if_pos listed, if_pos listed]
      exact dependencyOrder_agree agree (fuel + 1) rest _ (fuel' + 1) tail room room'
    rw [if_neg listed, if_neg listed]
    have fresh : k ∉ seen := by simpa using listed
    have marked : ∀ x ∈ seen, x ∈ seen ++ [k] := fun x mem => List.mem_append_left _ mem
    cases found : s.formulaExpr? k with
    | none =>
      exact dependencyOrder_agree agree (fuel + 1) rest _ (fuel' + 1) tail
        (Nat.lt_of_le_of_lt (Store.unstacked_le_of_subset marked) room)
        (Nat.lt_of_le_of_lt (Store.unstacked_le_of_subset marked) room')
    | some e =>
      obtain ⟨body, present, -⟩ := Store.formulaExpr?_eq_some found
      have present' : Store.formulaBody? (s'.content k) = some body := by
        rw [← agree.formulaBody?_eq inside, present]
      -- the cell is on both stores and not visited yet, so each fuel keeps room for its walk
      have shrinks := Store.unstacked_push_lt (Store.lookup_of_formulaBody present) fresh
      have shrinks' := Store.unstacked_push_lt (Store.lookup_of_formulaBody present') fresh
      simp only at room room'
      dsimp only
      rw [dependencyOrder_agree agree fuel e.references (seen ++ [k], order) fuel'
        (agree.expr_references inside found) (by show s.unstacked (seen ++ [k]) < fuel; omega)
        (by show s'.unstacked (seen ++ [k]) < fuel'; omega)]
      -- the walk from the references only adds visited cells, so the rest of the keys has room too
      rcases walked : dependencyOrder s' fuel' e.references (seen ++ [k], order) with ⟨seen', order'⟩
      have grows : ∀ x ∈ seen, x ∈ seen' := fun x mem => by
        have kept := dependencyOrder_visited s' fuel' e.references (seen ++ [k], order) x (marked x mem)
        rwa [walked] at kept
      exact dependencyOrder_agree agree (fuel + 1) rest _ (fuel' + 1) tail
        (Nat.lt_of_le_of_lt (Store.unstacked_le_of_subset grows) room)
        (Nat.lt_of_le_of_lt (Store.unstacked_le_of_subset grows) room')
termination_by fuel keys => (fuel, keys.length)

end Order

section SameRun

variable {α β : Type} (room : List String → Prop)

/-- Two evaluations that end alike from every state whose stack has room, and give the stack back
as they found it. -/
def SameRun (m m' : EvalM α) : Prop :=
  ∀ st, room st.stack → m.exec st = m'.exec st ∧ (m.exec st).2.stack = st.stack

variable {room}

namespace SameRun

theorem pure (a : α) : SameRun room (Pure.pure a) (Pure.pure a) := fun _ _ => ⟨rfl, rfl⟩

theorem throw (f : Fault) : SameRun room (MonadExcept.throw f : EvalM α) (MonadExcept.throw f) :=
  fun _ _ => ⟨rfl, rfl⟩

theorem emit (e : Log.Event) : SameRun room (Spreadsheet.emit e) (Spreadsheet.emit e) := fun _ _ => ⟨rfl, rfl⟩

theorem bind {m m' : EvalM α} {f f' : α → EvalM β} (first : SameRun room m m')
    (next : ∀ a, SameRun room (f a) (f' a)) : SameRun room (m >>= f) (m' >>= f') := by
  intro st fits
  obtain ⟨same, kept⟩ := first st fits
  rcases ran : m.exec st with ⟨outcome, st'⟩
  rw [ran] at same kept
  rw [exec_bind, exec_bind, ran, ← same]
  cases outcome with
  | ok a =>
    obtain ⟨same', kept'⟩ := next a st' (by rw [kept]; exact fits)
    exact ⟨same', kept'.trans kept⟩
  | error e => exact ⟨rfl, kept⟩

theorem tryCatch {m m' : EvalM α} {h h' : Fault → EvalM α} (first : SameRun room m m')
    (handled : ∀ f, SameRun room (h f) (h' f)) : SameRun room (MonadExcept.tryCatch m h) (MonadExcept.tryCatch m' h') := by
  intro st fits
  obtain ⟨same, kept⟩ := first st fits
  rcases ran : m.exec st with ⟨outcome, st'⟩
  rw [ran] at same kept
  rw [exec_tryCatch, exec_tryCatch, ran, ← same]
  cases outcome with
  | ok a => exact ⟨rfl, kept⟩
  | error e =>
    obtain ⟨same', kept'⟩ := handled e st' (by rw [kept]; exact fits)
    exact ⟨same', kept'.trans kept⟩

theorem discard {m m' : EvalM α} (first : SameRun room m m') : SameRun room (Functor.discard m) (Functor.discard m') := by
  intro st fits
  obtain ⟨same, kept⟩ := first st fits
  rw [exec_discard, exec_discard, ← same]
  rcases ran : m.exec st with ⟨_ | _, st'⟩ <;> rw [ran] at kept <;> exact ⟨rfl, kept⟩

theorem forIn {body body' : String → EvalM PUnit} :
    ∀ keys : List String, (∀ k ∈ keys, SameRun room (body k) (body' k)) →
    SameRun room (ForIn.forIn keys PUnit.unit fun key _ => do body key; Pure.pure (ForInStep.yield PUnit.unit))
      (ForIn.forIn keys PUnit.unit fun key _ => do body' key; Pure.pure (ForInStep.yield PUnit.unit))
  | [], _ => SameRun.pure _
  | key :: rest, each => by
    rw [List.forIn_cons, List.forIn_cons]
    refine SameRun.bind (SameRun.bind (each key (List.mem_cons_self ..)) fun _ => SameRun.pure _) fun step => ?_
    cases step with
    | done => exact SameRun.pure _
    | yield => exact forIn rest fun k mem => each k (List.mem_cons_of_mem _ mem)

theorem lawful : Lawful (fun _ m spec => SameRun room m (spec [])) where
  pure a := SameRun.pure a
  throw f _ := SameRun.throw f
  emit e _ := SameRun.emit e
  bind first next := SameRun.bind first next
  tryCatch first passes passes' handled := by
    refine SameRun.tryCatch first fun f => ?_
    by_cases cycle : ∃ path, f = .cycle path
    · obtain ⟨path, rfl⟩ := cycle
      rw [passes, passes']
      exact SameRun.throw _
    · exact handled f (by simpa using cycle)

end SameRun

end SameRun

section Cells

variable {s s' : Store} {cells : String → Prop} {now : DateTime}

/-- The stack leaves room in the fuel of both stores: each is at least the cells of its store off
the stack. -/
def Fits (s s' : Store) (fuel fuel' : Nat) (stack : List String) : Prop :=
  s.unstacked stack ≤ fuel ∧ s'.unstacked stack ≤ fuel'

theorem cellValue_same_of_body (agree : s.AgreeOn s' cells) {fuel fuel' : Nat} {cellId : String}
    (inside : cells (canonicalKey cellId))
    (bodies : ∀ f f', fuel = f + 1 → fuel' = f' + 1 → ∀ body : String,
      (∀ j ∈ (parseBody body).references, cells j) →
      SameRun (Fits s s' f f')
        (if body.isEmpty then pure .null else evalTree (sheetContext ⟨s, now, none⟩ f) now (parseBody body))
        (if body.isEmpty then pure .null else evalTree (sheetContext ⟨s', now, none⟩ f') now (parseBody body))) :
    SameRun (Fits s s' fuel fuel') (cellValue ⟨s, now, none⟩ fuel cellId) (cellValue ⟨s', now, none⟩ fuel' cellId) := by
  intro st fits
  have content := agree.content _ inside
  rcases present : Store.formulaBody? (s.content (canonicalKey cellId)) with _ | body
  · have present' : Store.formulaBody? (s'.content (canonicalKey cellId)) = none := by rwa [← content]
    rw [@cellValue_exec_plain ⟨s, now, none⟩ fuel cellId st present,
      @cellValue_exec_plain ⟨s', now, none⟩ fuel' cellId st present', content]
    exact ⟨rfl, rfl⟩
  have present' : Store.formulaBody? (s'.content (canonicalKey cellId)) = some body := by rwa [← content]
  rcases hit : st.memo.lookup (canonicalKey cellId) with _ | v
  case some =>
    rw [@cellValue_exec_memo ⟨s, now, none⟩ fuel cellId body st present rfl v hit,
      @cellValue_exec_memo ⟨s', now, none⟩ fuel' cellId body st present' rfl v hit]
    exact ⟨rfl, rfl⟩
  by_cases stacked : canonicalKey cellId ∈ st.stack
  · rw [@cellValue_exec_stacked ⟨s, now, none⟩ fuel cellId body st present rfl hit stacked,
      @cellValue_exec_stacked ⟨s', now, none⟩ fuel' cellId body st present' rfl hit stacked]
    exact ⟨rfl, rfl⟩
  -- the cell is pushed on both stores, so both fuels have a level left for its body
  have shrinks := Store.unstacked_push_lt (Store.lookup_of_formulaBody present) stacked
  have shrinks' := Store.unstacked_push_lt (Store.lookup_of_formulaBody present') stacked
  obtain ⟨f, rfl⟩ : ∃ f, fuel = f + 1 := ⟨fuel - 1, by have := fits.1; omega⟩
  obtain ⟨f', rfl⟩ : ∃ f', fuel' = f' + 1 := ⟨fuel' - 1, by have := fits.2; omega⟩
  have pushed : Fits s s' f f' (st.stack ++ [canonicalKey cellId]) :=
    ⟨by have := fits.1; omega, by have := fits.2; omega⟩
  rw [@cellValue_exec_push ⟨s, now, none⟩ f cellId body st present rfl hit stacked,
    @cellValue_exec_push ⟨s', now, none⟩ f' cellId body st present' rfl hit stacked]
  obtain ⟨same, kept⟩ := bodies f f' rfl rfl body (agree.body_references inside present)
    { st with stack := st.stack ++ [canonicalKey cellId] } pushed
  dsimp only at same kept ⊢
  rw [same] at kept ⊢
  -- the body gives the pushed stack back, and the cell is popped off it
  refine ⟨rfl, ?_⟩
  split
  all_goals
    rename_i ran
    rw [ran] at kept
    simp only at kept ⊢
    simp [kept]

theorem cellValue_same (agree : s.AgreeOn s' cells) (fuel : Nat) : ∀ (fuel' : Nat) (cellId : String),
    cells (canonicalKey cellId) →
    SameRun (Fits s s' fuel fuel') (cellValue ⟨s, now, none⟩ fuel cellId) (cellValue ⟨s', now, none⟩ fuel' cellId) := by
  -- on the fuel of the first store; the second's follows it, both kept above the cells off the stack
  induction fuel with
  | zero =>
    intro fuel' cellId inside
    exact cellValue_same_of_body agree inside fun f _ none => absurd none.symm (Nat.succ_ne_zero f)
  | succ f ih =>
    intro fuel' cellId inside
    refine cellValue_same_of_body agree inside fun f₁ f' same _ body reads => ?_
    cases same
    by_cases empty : body.isEmpty <;> simp only [empty, if_true, Bool.false_eq_true, if_false]
    · exact SameRun.pure _
    · -- each cell the body reads is one of its references, and canonical
      have key : ∀ k ∈ (parseBody body).cellsInOrder, canonicalKey k = k := parseBody_cells body
      have law := @SameRun.lawful (Fits s s' f f')
      exact @Lawful.evalTree_keeps _ law now (sheetContext ⟨s, now, none⟩ f)
        (fun _ => sheetContext ⟨s', now, none⟩ f') (parseBody body)
        (fun k mem => ih f' k (by rw [key k mem]; exact reads k (mem_references_of_cell mem)))
        (fun r mem => @Lawful.mapM_keeps _ law (cellValue ⟨s, now, none⟩ f) (fun _ => cellValue ⟨s', now, none⟩ f')
          (Span.mk r.1 r.2).keys fun k member =>
            ih f' k (by rw [canonicalKey_of_mem_keys member]; exact reads k (mem_references_of_range mem member)))

theorem unstacked_nil_lt_fuel (s : Store) : s.unstacked [] < s.fuel :=
  Nat.lt_succ_of_le (List.length_filter_le _ _)

theorem resolveAhead_same (agree : s.AgreeOn s' cells) (canonical : ∀ k, cells k → canonicalKey k = k)
    (e : Expr) (reads : ∀ k ∈ e.references, cells k) :
    SameRun (Fits s s' s.fuel s'.fuel) (resolveAhead ⟨s, now, none⟩ e) (resolveAhead ⟨s', now, none⟩ e) := by
  have order : dependencyOrder s s.fuel e.references ([], []) = dependencyOrder s' s'.fuel e.references ([], []) :=
    dependencyOrder_agree agree _ _ _ _ reads (unstacked_nil_lt_fuel s) (unstacked_nil_lt_fuel s')
  have listed : ∀ k ∈ (dependencyOrder s' s'.fuel e.references ([], [])).2, cells k := by
    intro k mem
    rw [← order] at mem
    rcases dependencyOrder_listed agree _ _ _ reads k mem with early | reached
    · cases early
    · exact reached
  -- both stores walk to one order, and every cell in it is one they agree on
  simp only [resolveAhead, Option.isSome_none, Bool.false_eq_true, if_false, order]
  refine SameRun.bind (SameRun.forIn _ fun k mem => SameRun.tryCatch
    (SameRun.discard (cellValue_same agree _ _ k ?_)) fun f => ?_) fun _ => SameRun.pure _
  · rw [canonical k (listed k mem)]
    exact listed k mem
  · cases f with
    | cycle path => exact SameRun.pure _
    | code c => exact SameRun.throw _
    | arith a => exact SameRun.throw _
    | internal r => exact SameRun.throw _

theorem evaluateBody_same (agree : s.AgreeOn s' cells) (canonical : ∀ k, cells k → canonicalKey k = k)
    (body : String) (reads : ∀ k ∈ (parseBody body).references, cells k) :
    SameRun (Fits s s' s.fuel s'.fuel) (evaluateBody ⟨s, now, none⟩ body) (evaluateBody ⟨s', now, none⟩ body) := by
  have law := @SameRun.lawful (Fits s s' s.fuel s'.fuel)
  have evaluated : SameRun (Fits s s' s.fuel s'.fuel) (evalTree (sheetContext ⟨s, now, none⟩ s.fuel) now (parseBody body))
      (evalTree (sheetContext ⟨s', now, none⟩ s'.fuel) now (parseBody body)) :=
    @Lawful.evalTree_keeps _ law now (sheetContext ⟨s, now, none⟩ s.fuel)
      (fun _ => sheetContext ⟨s', now, none⟩ s'.fuel) (parseBody body)
      (fun k mem => cellValue_same agree _ _ k
        (by rw [parseBody_cells body k mem]; exact reads k (mem_references_of_cell mem)))
      (fun r mem => @Lawful.mapM_keeps _ law (cellValue ⟨s, now, none⟩ s.fuel) (fun _ => cellValue ⟨s', now, none⟩ s'.fuel)
        (Span.mk r.1 r.2).keys fun k member => cellValue_same agree _ _ k
          (by rw [canonicalKey_of_mem_keys member]; exact reads k (mem_references_of_range mem member)))
  refine SameRun.tryCatch (SameRun.bind (resolveAhead_same agree canonical _ reads) fun _ => evaluated) fun f => ?_
  cases f with
  | cycle path => exact SameRun.bind (SameRun.emit _) fun _ => SameRun.pure _
  | code c => exact SameRun.pure _
  | arith a => exact SameRun.bind (SameRun.emit _) fun _ => SameRun.pure _
  | internal r => exact SameRun.bind (SameRun.emit _) fun _ => SameRun.pure _

end Cells

/-- A formula depends only on the cells it reaches: two stores whose contents agree on every cell the
formula reaches (its references, then the references of every cell reached) give it the same value
and the same events. So editing a cell outside that closure, or listing the cells in another order,
never changes it. -/
theorem evaluateFormula_eq_of_reached_agree (s s' : Store) (now : DateTime) (text : String)
    (agree : ∀ k, s.Reaches text k → s.content k = s'.content k) :
    evaluateFormula s now (.str text) = evaluateFormula s' now (.str text) := by
  simp only [evaluateFormula]
  rcases found : Store.formulaBody? text with _ | body
  · rfl
  · dsimp only
    split
    · rfl
    · have reads : ∀ k ∈ (parseBody body).references, s.Reaches text k :=
        fun k mem => .ref (by rw [Store.formulaReferences_of_body found]; exact mem)
      have fits : Fits s s' s.fuel s'.fuel [] :=
        ⟨Nat.le_of_lt (unstacked_nil_lt_fuel s), Nat.le_of_lt (unstacked_nil_lt_fuel s')⟩
      obtain ⟨same, -⟩ := evaluateBody_same (Store.agreeOn_reaches agree) (fun _ reached => reached.canonical)
        body reads {} fits
      rw [runFresh_eq, runFresh_eq, same]

def chainStore : Store := ⟨[("A1", .str "=B1"), ("B1", .str "2"), ("C1", .str "5")]⟩

def chainStoreEdited : Store := ⟨[("C1", .str "7"), ("B1", .str "2"), ("A1", .str "=B1")]⟩

theorem evaluateFormula_ignores_unreached_cell :
    (∀ k, chainStore.Reaches "=A1&\"!\"" k → chainStore.content k = chainStoreEdited.content k) ∧
      evaluateFormula chainStore default (.str "=A1&\"!\"") = evaluateFormula chainStoreEdited default (.str "=A1&\"!\"") := by
  have reached : ∀ k, chainStore.Reaches "=A1&\"!\"" k → k = "A1" ∨ k = "B1" := by
    intro k reach
    induction reach with
    | ref mem =>
      have refs : formulaReferences "=A1&\"!\"" = ["A1"] := by decide +kernel
      rw [refs, List.mem_singleton] at mem
      exact .inl mem
    | read _ mem earlier =>
      rcases earlier with rfl | rfl
      · have refs : formulaReferences (chainStore.content "A1") = ["B1"] := by decide +kernel
        rw [refs, List.mem_singleton] at mem
        exact .inr mem
      · have refs : formulaReferences (chainStore.content "B1") = [] := by decide +kernel
        rw [refs] at mem
        cases mem
  have agree : ∀ k, chainStore.Reaches "=A1&\"!\"" k → chainStore.content k = chainStoreEdited.content k := by
    intro k reach
    rcases reached k reach with rfl | rfl <;> decide +kernel
  exact ⟨agree, evaluateFormula_eq_of_reached_agree _ _ _ _ agree⟩

end Spreadsheet
