import Spreadsheet.Proofs.Recalculation

/-!
What a converged recalculation settles.

The passes stop at the first pass that finds every formula cell's new value the same as its old
one. Sameness takes `0.0` and `-0.0` for the same, and any two NaNs, so the passes can stop while
a value still moves. A formula in recalculation mode reads the table only through the values it
gives formula cells, so a pass that writes every value back exactly as it was evaluated each
formula against a table it leaves as it is, and one more pass from that table writes the same
values again. A converged recalculation therefore returns a fixed point of one more pass, unless
its last pass replaced a double by a different double it took for the same.
-/

set_option autoImplicit false

namespace Spreadsheet

open Calendar

variable {store : Store} {now : DateTime}

theorem sameValue_float_of_ne {x y : Value} (same : sameValue x y = true) (differ : x ≠ y) :
    ∃ a b, x = .float a ∧ y = .float b ∧ a ≠ b := by
  cases x <;> cases y <;> simp only [sameValue, Bool.false_eq_true] at same
  case float.float a b => exact ⟨a, b, rfl, rfl, fun equal => differ (equal ▸ rfl)⟩
  all_goals simp_all

section Reading

def Store.ReadAlike (s : Store) (C D : List (String × Value)) : Prop :=
  ∀ k, s.IsFormula k → (C.lookup k).getD .null = (D.lookup k).getD .null

variable {C D E : List (String × Value)}

theorem Store.ReadAlike.trans (first : store.ReadAlike C D) (second : store.ReadAlike D E) :
    store.ReadAlike C E :=
  fun k formula => (first k formula).trans (second k formula)

theorem readAlike_setComputed (C : List (String × Value)) (key : String) :
    store.ReadAlike (setComputed C key ((C.lookup key).getD .null)) C := by
  intro k _
  rw [lookup_setComputed]
  split
  next same => rw [same, Option.getD_some]
  next => rfl

theorem cellValue_computed_congr (alike : store.ReadAlike C D) (fuel : Nat) :
    cellValue ⟨store, now, some C⟩ fuel = cellValue ⟨store, now, some D⟩ fuel := by
  funext j
  rw [cellValue_computed, cellValue_computed]
  split
  · rfl
  next body found => rw [alike _ (Store.isFormula_iff.2 ⟨body, found⟩)]

theorem passValue_congr (alike : store.ReadAlike C D) (body : String) :
    passValue store now C body = passValue store now D body := by
  simp only [passValue, evaluateBody, resolveAhead, Option.isSome_some, if_true, sheetContext,
    cellValue_computed_congr alike]

theorem results_readAlike (C : List (String × Value)) :
    store.ReadAlike ((store.cells.map fun e => (e.1, store.content e.1)).map fun e =>
      if store.formulaCells.any (·.1 == e.1) then (e.1, (C.lookup e.1).getD .null) else (e.1, .str e.2)) C := by
  intro k formula
  rw [lookup_results formula (mem_cells_of_isFormula formula), Option.getD_some]

end Reading

section Pass

variable (fs : List (String × String))

theorem recalcPass_same_of_unchanged : ∀ (C : List (String × Value)) (changed : Bool)
    (events : Array Log.Event), (fs.map Prod.fst).Nodup → (recalcPass store now fs (C, changed, events)).2.1 = false →
    changed = false ∧ ∀ p ∈ fs, sameValue ((C.lookup p.1).getD .null)
      (((recalcPass store now fs (C, changed, events)).1.lookup p.1).getD .null) = true := by
  induction fs with
  | nil => exact fun _ _ _ _ unchanged => ⟨unchanged, fun _ mem => nomatch mem⟩
  | cons head rest ih =>
    intro C changed events nodup unchanged
    obtain ⟨key, body⟩ := head
    rw [List.map_cons, List.nodup_cons] at nodup
    obtain ⟨added, step⟩ := recalcPass_cons store now key body rest C changed events
    rw [step] at unchanged ⊢
    obtain ⟨before, later⟩ := ih _ _ _ nodup.2 unchanged
    rw [Bool.or_eq_false_iff, Bool.not_eq_false'] at before
    refine ⟨before.1, fun p mem => ?_⟩
    rcases List.mem_cons.1 mem with rfl | mem
    · -- the later cells of the pass leave this one as it was written
      rw [recalcPass_lookup_of_not_mem rest _ _ _ nodup.1, lookup_setComputed, if_pos rfl, Option.getD_some]
      exact before.2
    · have other : p.1 ≠ key := fun same => nodup.1 (List.mem_map.2 ⟨p, mem, same⟩)
      have found := later p mem
      rwa [lookup_setComputed, if_neg other] at found

variable {fs}

theorem isFormula_of_listed (formulas : ∀ p ∈ fs, Store.formulaBody? (store.content p.1) = some p.2) :
    ∀ p ∈ fs, store.IsFormula p.1 :=
  fun p mem => Store.isFormula_iff.2 ⟨p.2, formulas p mem⟩

theorem recalcPass_stable_of_kept (formulas : ∀ p ∈ fs, Store.formulaBody? (store.content p.1) = some p.2)
    (nodup : (fs.map Prod.fst).Nodup) (C : List (String × Value)) (changed : Bool) (events : Array Log.Event)
    (kept : ∀ p ∈ fs, ((recalcPass store now fs (C, changed, events)).1.lookup p.1).getD .null =
      (C.lookup p.1).getD .null) :
    ∀ p ∈ fs, passValue store now C p.2 = (C.lookup p.1).getD .null := by
  induction fs generalizing C changed events with
  | nil => exact fun _ mem => nomatch mem
  | cons head rest ih =>
    obtain ⟨key, body⟩ := head
    rw [List.map_cons, List.nodup_cons] at nodup
    have formula : ∀ p ∈ rest, store.IsFormula p.1 :=
      fun p mem => isFormula_of_listed formulas p (List.mem_cons_of_mem _ mem)
    obtain ⟨added, step⟩ := recalcPass_cons store now key body rest C changed events
    rw [step] at kept
    have written : passValue store now C body = (C.lookup key).getD .null := by
      have head := kept (key, body) (List.mem_cons_self ..)
      rwa [recalcPass_lookup_of_not_mem rest _ _ _ nodup.1, lookup_setComputed, if_pos rfl,
        Option.getD_some] at head
    have alike : store.ReadAlike (setComputed C key (passValue store now C body)) C := by
      rw [written]
      exact readAlike_setComputed C key
    -- the rest of the pass starts from a table that reads like `C`
    have later := ih (fun p mem => formulas p (List.mem_cons_of_mem _ mem)) nodup.2 _ _ _
      fun p mem => by rw [kept p (List.mem_cons_of_mem _ mem), alike p.1 (formula p mem)]
    intro p mem
    rcases List.mem_cons.1 mem with rfl | mem
    · exact written
    · rw [← passValue_congr alike, later p mem, alike p.1 (formula p mem)]

theorem recalcPass_of_stable (formulas : ∀ p ∈ fs, Store.formulaBody? (store.content p.1) = some p.2)
    (nodup : (fs.map Prod.fst).Nodup) (D : List (String × Value)) (changed : Bool) (events : Array Log.Event)
    (stable : ∀ p ∈ fs, passValue store now D p.2 = (D.lookup p.1).getD .null) :
    store.ReadAlike (recalcPass store now fs (D, changed, events)).1 D ∧
      ∀ p ∈ fs, (recalcPass store now fs (D, changed, events)).1.lookup p.1 = some ((D.lookup p.1).getD .null) := by
  induction fs generalizing D changed events with
  | nil => exact ⟨fun _ _ => rfl, fun _ mem => nomatch mem⟩
  | cons head rest ih =>
    obtain ⟨key, body⟩ := head
    rw [List.map_cons, List.nodup_cons] at nodup
    have formula : ∀ p ∈ rest, store.IsFormula p.1 :=
      fun p mem => isFormula_of_listed formulas p (List.mem_cons_of_mem _ mem)
    obtain ⟨added, step⟩ := recalcPass_cons store now key body rest D changed events
    -- the head cell writes back what the table gave it, so the rest starts from a table that reads alike
    have written : passValue store now D body = (D.lookup key).getD .null := stable (key, body) (List.mem_cons_self ..)
    rw [step, written]
    have alike := @readAlike_setComputed store D key
    obtain ⟨kept, later⟩ := ih (fun p mem => formulas p (List.mem_cons_of_mem _ mem)) nodup.2 _ _ _
      fun p mem => by rw [passValue_congr alike, stable p (List.mem_cons_of_mem _ mem), alike p.1 (formula p mem)]
    refine ⟨kept.trans alike, fun p mem => ?_⟩
    rcases List.mem_cons.1 mem with rfl | mem
    · rw [recalcPass_lookup_of_not_mem rest _ _ _ nodup.1, lookup_setComputed, if_pos rfl]
    · rw [later p mem, alike p.1 (formula p mem)]

end Pass

theorem recalcLoop_trace (nodup : (store.formulaCells.map Prod.fst).Nodup) :
    ∀ (fuel i : Nat) (events : Array Log.Event), ∃ m converged events',
      recalcLoop store now store.formulaCells fuel (recalcValues store now i) i events =
        (recalcValues store now m, m, converged, events') ∧ i ≤ m ∧ m ≤ i + fuel ∧
      (converged = true → i < m ∧ ∀ p ∈ store.formulaCells,
        sameValue (((recalcValues store now (m - 1)).lookup p.1).getD .null)
          (((recalcValues store now m).lookup p.1).getD .null) = true)
  | 0, i, events => ⟨i, false, events, rfl, Nat.le_refl i, Nat.le_refl i, nofun⟩
  | fuel + 1, i, events => by
    rcases pass : recalcPass store now store.formulaCells (recalcValues store now i, false, events)
      with ⟨C, changed, events'⟩
    have table : C = recalcValues store now (i + 1) := by
      rw [recalcValues, ← recalcPass_table _ _ false events, pass]
    simp only [recalcLoop, pass]
    cases changed with
    | false =>
      have same := (recalcPass_same_of_unchanged _ _ _ _ nodup (by rw [pass])).2
      rw [pass] at same
      refine ⟨i + 1, true, events', by simp [table], by omega, by omega, fun _ => ⟨by omega, ?_⟩⟩
      simpa [table] using same
    | true =>
      obtain ⟨m, converged, events'', run, below, upto, settled⟩ :=
        recalcLoop_trace nodup fuel (i + 1) events'
      refine ⟨m, converged, events'', by simpa [table] using run, by omega, by omega, fun conv => ?_⟩
      exact ⟨by have := (settled conv).1; omega, (settled conv).2⟩

theorem recalculate_ofNum {n : Num} (atLeastOne : n.ge (.int 1) = true) {C : List (String × Value)}
    {m : Nat} {converged : Bool} {events : Array Log.Event}
    (loop : recalcLoop store now store.formulaCells (passesAllowed n) [] 0 #[] = (C, m, converged, events)) :
    ∃ all, recalculate store now (Value.ofNum n) = .ok (⟨(store.cells.map fun e => (e.1, store.content e.1)).map
      fun e => if store.formulaCells.any (·.1 == e.1) then (e.1, (C.lookup e.1).getD .null) else (e.1, .str e.2),
      m, converged⟩, all) := by
  have allowed : ¬ n.lt (.int 1) = true := by
    simp only [Num.ge, Num.lt, Bool.or_eq_true, beq_iff_eq] at atLeastOne ⊢
    rcases atLeastOne with same | same <;> rw [same] <;> decide
  have formulas : (store.cells.map fun e => (e.1, store.content e.1)).filterMap
      (fun e => (Store.formulaBody? e.2).map (e.1, ·)) = store.formulaCells := rfl
  cases n <;> simp only [Value.ofNum, recalculate, pure_bind, allowed, Bool.false_eq_true, if_false,
    formulas, loop] <;> exact ⟨_, rfl⟩

/-- A recalculation with a numeric cap of at least one runs at most the passes the cap allows (its
ceiling). When it converges, one more pass evaluated in store order from the values it returned
gives every formula cell exactly its returned value, unless its last pass replaced a double by a
different double that it took for the same: `0.0` for `-0.0` or the other way, or two NaNs. -/
theorem recalculate_fixed_unless_silent_change (nodup : (store.cells.map Prod.fst).Nodup) (n : Num)
    (atLeastOne : n.ge (.int 1) = true) :
    ∃ result events, recalculate store now (Value.ofNum n) = .ok (result, events) ∧
      result.iterations ≤ passesAllowed n ∧
      (result.converged = true →
        (∀ k, store.IsFormula k →
          (recalcPass store now store.formulaCells (result.values, false, #[])).1.lookup k = result.values.lookup k) ∨
        ∃ k a b, store.IsFormula k ∧
          ((recalcValues store now (result.iterations - 1)).lookup k).getD .null = .float a ∧
          result.values.lookup k = some (.float b) ∧ a ≠ b ∧ sameValue (.float a) (.float b) = true) := by
  have cells := formulaCells_nodup nodup
  obtain ⟨m, converged, events, loop, -, upto, settled⟩ := @recalcLoop_trace store now cells (passesAllowed n) 0 #[]
  obtain ⟨emitted, ran⟩ := recalculate_ofNum atLeastOne loop
  refine ⟨_, emitted, ran, by simpa using upto, fun conv => ?_⟩
  obtain ⟨started, same⟩ := settled conv
  dsimp only at same ⊢
  have values := @results_readAlike store (recalcValues store now m)
  have last : recalcValues store now m =
      (recalcPass store now store.formulaCells (recalcValues store now (m - 1), false, #[])).1 := by
    obtain ⟨j, rfl⟩ : ∃ j, m = j + 1 := ⟨m - 1, by omega⟩
    rfl
  by_cases silent : ∃ p ∈ store.formulaCells, ((recalcValues store now (m - 1)).lookup p.1).getD .null ≠
      ((recalcValues store now m).lookup p.1).getD .null
  · -- a value moved to another value taken for the same: two different doubles
    right
    obtain ⟨p, mem, differ⟩ := silent
    have formula := isFormula_of_listed formulaCells_body p mem
    obtain ⟨a, b, old, new, unequal⟩ := sameValue_float_of_ne (same p mem) differ
    refine ⟨p.1, a, b, formula, old, ?_, unequal, ?_⟩
    · rw [lookup_results formula (mem_cells_of_isFormula formula), new]
    · rw [← old, ← new]
      exact same p mem
  · -- every value was written back exactly, so the last pass started from a stable table
    left
    simp only [not_exists, not_and, not_not] at silent
    have stable := recalcPass_stable_of_kept formulaCells_body cells _ false #[]
      fun p mem => by rw [← last]; exact (silent p mem).symm
    have alike : store.ReadAlike _ (recalcValues store now (m - 1)) := fun k formula => by
      obtain ⟨body, found⟩ := Store.isFormula_iff.1 formula
      rw [values k formula]
      exact (silent (k, body) (mem_formulaCells found)).symm
    obtain ⟨-, written⟩ := recalcPass_of_stable formulaCells_body cells _ false #[] fun p mem => by
      rw [passValue_congr alike, stable p mem, alike p.1 (isFormula_of_listed formulaCells_body p mem)]
    intro k formula
    obtain ⟨body, found⟩ := Store.isFormula_iff.1 formula
    rw [written (k, body) (mem_formulaCells found), lookup_results formula (mem_cells_of_isFormula formula),
      Option.getD_some]

def forwardChain : Store := ⟨[("A1", .str "=B1"), ("B1", .str "=C1"), ("C1", .str "x")]⟩

theorem forwardChain_recalculation_settles :
    (forwardChain.cells.map Prod.fst).Nodup ∧ (Num.int 3).ge (.int 1) = true ∧
      ∃ result events, recalculate forwardChain default (Value.ofNum (.int 3)) = .ok (result, events) ∧
        result.iterations ≤ passesAllowed (.int 3) ∧
        (result.converged = true →
          (∀ k, forwardChain.IsFormula k →
            (recalcPass forwardChain default forwardChain.formulaCells (result.values, false, #[])).1.lookup k =
              result.values.lookup k) ∨
          ∃ k a b, forwardChain.IsFormula k ∧
            ((recalcValues forwardChain default (result.iterations - 1)).lookup k).getD .null = .float a ∧
            result.values.lookup k = some (.float b) ∧ a ≠ b ∧ sameValue (.float a) (.float b) = true) :=
  ⟨by decide, by decide, recalculate_fixed_unless_silent_change (by decide) (.int 3) (by decide)⟩

end Spreadsheet
