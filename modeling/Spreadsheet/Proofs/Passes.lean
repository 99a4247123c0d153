import Spreadsheet.Sheet.Recalc
import Spreadsheet.Proofs.Agreement

/-!
Recalculation passes over an acyclic store.

A pass evaluates the formula cells in store order against a table of the values computed so far
(blank before a cell's first computation) and writes each result into the table at once. The
passes settle the store level by level: after `n` passes the table holds the value
`evaluateFormula` gives every formula cell settled within `n`, so when no dependency path has more
than `L` cells, `L` passes give every formula cell its value and the next pass changes none. A
table that a pass leaves as it is holds those values too, whatever the passes before it: it is the
one table a pass fixes.
-/

set_option autoImplicit false

namespace Spreadsheet

open Calendar

section Table

variable {C : List (String × Value)} {key j : String} {v : Value}

theorem lookup_pair_cons (k : String) (w : Value) (rest : List (String × Value)) :
    ((k, w) :: rest).lookup j = if j = k then some w else rest.lookup j := by
  by_cases hit : j = k
  · subst hit
    simp
  · simp [List.lookup_cons, beq_false_of_ne hit, hit]

theorem lookup_replace (C : List (String × Value)) :
    (C.map fun e => if e.1 == key then (key, v) else e).lookup j =
      if j = key then (if C.any (·.1 == key) then some v else none) else C.lookup j := by
  induction C with
  | nil => split <;> simp
  | cons e rest ih =>
    obtain ⟨k, w⟩ := e
    rw [List.map_cons, List.any_cons]
    by_cases same : k = key
    · subst same
      simp only [beq_self_eq_true, if_true, Bool.true_or, lookup_pair_cons]
      by_cases hit : j = k
      · simp [hit]
      · simp only [hit, if_false]
        rw [ih, if_neg hit]
    · simp only [beq_false_of_ne same, Bool.false_eq_true, if_false, Bool.false_or, lookup_pair_cons, ih]
      by_cases hit : j = k
      · subst hit
        simp [same]
      · simp [hit]

theorem lookup_setComputed : (setComputed C key v).lookup j = if j = key then some v else C.lookup j := by
  unfold setComputed
  split
  next present =>
    rw [lookup_replace]
    split <;> simp_all
  next absent =>
    rw [List.lookup_append]
    by_cases hit : j = key
    · subst hit
      have missing : C.lookup j = none := by
        rw [List.lookup_eq_none_iff]
        intro p mem
        simp only [bne_iff_ne, ne_eq]
        intro same
        exact absent (List.any_eq_true.2 ⟨p, mem, by simp [same]⟩)
      simp [missing]
    · have other : [(key, v)].lookup j = none := by simp [hit]
      rw [other, if_neg hit]
      cases C.lookup j <;> rfl

theorem lookup_of_mem {e : String × Value} (nodup : (C.map Prod.fst).Nodup) (mem : e ∈ C) :
    C.lookup e.1 = some e.2 := by
  induction C with
  | nil => cases mem
  | cons d rest ih =>
    obtain ⟨k, w⟩ := d
    rw [List.map_cons, List.nodup_cons] at nodup
    rw [lookup_pair_cons]
    rcases List.mem_cons.1 mem with rfl | later
    · simp
    · have other : e.1 ≠ k := fun same => nodup.1 (List.mem_map.2 ⟨e, later, same⟩)
      rw [if_neg other]
      exact ih nodup.2 later

theorem setComputed_keys :
    (setComputed C key v).map Prod.fst =
      if C.any (·.1 == key) then C.map Prod.fst else C.map Prod.fst ++ [key] := by
  unfold setComputed
  split
  · rw [List.map_map]
    congr 1
    funext e
    by_cases same : e.1 = key <;> simp [same]
  · simp

theorem setComputed_nodup (nodup : (C.map Prod.fst).Nodup) : ((setComputed C key v).map Prod.fst).Nodup := by
  rw [setComputed_keys]
  split
  · exact nodup
  next absent =>
    refine List.nodup_append.2 ⟨nodup, by simp, fun a mem b same => ?_⟩
    rw [List.mem_singleton.1 same]
    rintro rfl
    obtain ⟨e, inC, rfl⟩ := List.mem_map.1 mem
    exact absent (List.any_eq_true.2 ⟨e, inC, by simp⟩)

theorem setComputed_of_lookup (nodup : (C.map Prod.fst).Nodup) (held : C.lookup key = some v) :
    setComputed C key v = C := by
  have present : C.any (·.1 == key) := by
    obtain ⟨e, mem, same⟩ := List.lookup_isSome_iff.1 (by rw [held]; rfl)
    rw [beq_iff_eq] at same
    exact List.any_eq_true.2 ⟨e, mem, by rw [beq_iff_eq]; exact same.symm⟩
  unfold setComputed
  rw [if_pos present]
  conv => rhs; rw [← List.map_id C]
  refine List.map_congr_left fun e mem => ?_
  by_cases same : e.1 = key
  · have value := lookup_of_mem nodup mem
    rw [same, held, Option.some.injEq] at value
    rw [if_pos (by simp [same]), value, ← same]
    rfl
  · simp [same]

end Table

section Passes

variable (store : Store) (now : DateTime)

def Store.formulaCells (s : Store) : List (String × String) :=
  (s.cells.map fun e => (e.1, s.content e.1)).filterMap fun e => (Store.formulaBody? e.2).map (e.1, ·)

def passValue (C : List (String × Value)) (body : String) : Value :=
  if body.isEmpty then .null else (evaluateBody ⟨store, now, some C⟩ body).runFresh.1

def recalcValues : Nat → List (String × Value)
  | 0 => []
  | n + 1 => (recalcPass store now store.formulaCells (recalcValues n, false, #[])).1

/-- The table holds the value `evaluateFormula` gives every formula cell settled within `n`. -/
def Solves (n : Nat) (C : List (String × Value)) : Prop :=
  ∀ j, store.IsFormula j → store.Settled n j →
    C.lookup j = some (evaluateFormula store now (.str (store.content j))).1

theorem recalcPass_cons (key body : String) (rest : List (String × String)) (C : List (String × Value))
    (changed : Bool) (events : Array Log.Event) :
    ∃ added, recalcPass store now ((key, body) :: rest) (C, changed, events) =
      recalcPass store now rest (setComputed C key (passValue store now C body),
        changed || !sameValue ((C.lookup key).getD .null) (passValue store now C body), events ++ added) := by
  by_cases empty : body.isEmpty
  · exact ⟨#[], by simp [recalcPass, passValue, empty]⟩
  · simp only [recalcPass, passValue, empty, Bool.false_eq_true, if_false]
    exact ⟨_, rfl⟩

variable {store now} {n : Nat} {k body : String} {C : List (String × Value)}

theorem recalcPass_table : ∀ (fs : List (String × String)) (C : List (String × Value)) (changed : Bool)
    (events : Array Log.Event),
    (recalcPass store now fs (C, changed, events)).1 = (recalcPass store now fs (C, false, #[])).1
  | [], _, _, _ => rfl
  | (key, body) :: rest, C, changed, events => by
    obtain ⟨added, step⟩ := recalcPass_cons store now key body rest C changed events
    obtain ⟨added', step'⟩ := recalcPass_cons store now key body rest C false #[]
    rw [step, step', recalcPass_table rest _ _ (events ++ added), recalcPass_table rest _ _ (#[] ++ added')]

theorem recalcPass_lookup_of_not_mem {j : String} : ∀ (fs : List (String × String)) (C : List (String × Value))
    (changed : Bool) (events : Array Log.Event), j ∉ fs.map Prod.fst →
    (recalcPass store now fs (C, changed, events)).1.lookup j = C.lookup j
  | [], _, _, _, _ => rfl
  | (key, body) :: rest, C, changed, events, absent => by
    obtain ⟨added, step⟩ := recalcPass_cons store now key body rest C changed events
    have other : j ≠ key := fun same => absent (by simp [same])
    rw [step, recalcPass_lookup_of_not_mem rest _ _ _ (fun mem => absent (List.mem_cons_of_mem _ mem)),
      lookup_setComputed, if_neg other]

theorem recalcPass_nodup : ∀ (fs : List (String × String)) (C : List (String × Value)) (changed : Bool)
    (events : Array Log.Event), (C.map Prod.fst).Nodup →
    ((recalcPass store now fs (C, changed, events)).1.map Prod.fst).Nodup
  | [], _, _, _, nodup => nodup
  | (key, body) :: rest, C, changed, events, nodup => by
    obtain ⟨added, step⟩ := recalcPass_cons store now key body rest C changed events
    rw [step]
    exact recalcPass_nodup rest _ _ _ (setComputed_nodup nodup)

theorem solves_zero (C : List (String × Value)) : Solves store now 0 C :=
  fun _ formula settled => absurd (settled.pos formula) (Nat.lt_irrefl 0)

theorem Solves.of_succ (solves : Solves store now (n + 1) C) : Solves store now n C :=
  fun j formula settled => solves j formula (settled.mono (Nat.le_succ n))

theorem passValue_evaluated (settled : store.Settled (n + 1) k)
    (found : Store.formulaBody? (store.content k) = some body) (solves : Solves store now n C) :
    passValue store now C body = (evaluateFormula store now (.str (store.content k))).1 := by
  by_cases empty : body.isEmpty
  · simp [passValue, evaluateFormula, found, empty]
  · rw [passValue, if_neg empty]
    exact computed_evaluated settled found (by simpa using empty) solves

theorem recalcPass_solves : ∀ (fs : List (String × String)),
    (∀ p ∈ fs, Store.formulaBody? (store.content p.1) = some p.2) → (fs.map Prod.fst).Nodup →
    ∀ (C : List (String × Value)) (changed : Bool) (events : Array Log.Event), Solves store now n C →
      Solves store now n (recalcPass store now fs (C, changed, events)).1 ∧
      ∀ p ∈ fs, store.Settled (n + 1) p.1 → (recalcPass store now fs (C, changed, events)).1.lookup p.1 =
        some (evaluateFormula store now (.str (store.content p.1))).1
  | [], _, _, _, _, _, solves => ⟨solves, fun _ mem => nomatch mem⟩
  | (key, body) :: rest, formulas, nodup, C, changed, events, solves => by
    rw [List.map_cons, List.nodup_cons] at nodup
    have found := formulas (key, body) (List.mem_cons_self ..)
    obtain ⟨added, step⟩ := recalcPass_cons store now key body rest C changed events
    rw [step]
    have written : store.Settled (n + 1) key →
        passValue store now C body = (evaluateFormula store now (.str (store.content key))).1 :=
      fun settled => passValue_evaluated settled found solves
    have solves' : Solves store now n (setComputed C key (passValue store now C body)) := by
      intro j formula settled
      rw [lookup_setComputed]
      split
      next same =>
        subst same
        rw [written (settled.mono (Nat.le_succ n))]
      next => exact solves j formula settled
    obtain ⟨kept, each⟩ := recalcPass_solves rest (fun p mem => formulas p (List.mem_cons_of_mem _ mem))
      nodup.2 _ _ _ solves'
    refine ⟨kept, fun p mem settled => ?_⟩
    rcases List.mem_cons.1 mem with rfl | mem
    · -- later cells of the pass do not write this one again
      rw [recalcPass_lookup_of_not_mem rest _ _ _ nodup.1, lookup_setComputed, if_pos rfl, written settled]
    · exact each p mem settled

theorem formulaCells_body : ∀ p ∈ store.formulaCells, Store.formulaBody? (store.content p.1) = some p.2 := by
  intro p mem
  simp only [Store.formulaCells, List.mem_filterMap, List.mem_map, Option.map_eq_some_iff] at mem
  obtain ⟨_, ⟨e, -, rfl⟩, body, found, rfl⟩ := mem
  exact found

theorem mem_formulaCells (found : Store.formulaBody? (store.content k) = some body) :
    (k, body) ∈ store.formulaCells := by
  obtain ⟨e, mem, same⟩ := List.lookup_isSome_iff.1 (Option.isSome_iff_ne_none.2 (Store.lookup_of_formulaBody found))
  rw [beq_iff_eq] at same
  simp only [Store.formulaCells, List.mem_filterMap, List.mem_map, Option.map_eq_some_iff]
  exact ⟨(k, store.content k), ⟨e, mem, by rw [same]⟩, body, found, rfl⟩

theorem formulaCells_keys_sublist : (store.formulaCells.map Prod.fst).Sublist (store.cells.map Prod.fst) := by
  unfold Store.formulaCells
  induction store.cells with
  | nil => simp
  | cons e rest ih =>
    simp only [List.map_cons, List.filterMap_cons]
    cases Store.formulaBody? (store.content e.1) with
    | none => exact ih.cons _
    | some body => exact ih.cons_cons _

theorem formulaCells_nodup (nodup : (store.cells.map Prod.fst).Nodup) : (store.formulaCells.map Prod.fst).Nodup :=
  nodup.sublist formulaCells_keys_sublist

theorem recalcValues_solves (nodup : (store.cells.map Prod.fst).Nodup) :
    ∀ n, Solves store now n (recalcValues store now n)
  | 0 => solves_zero _
  | n + 1 => by
    intro j formula settled
    obtain ⟨body, found⟩ := Store.isFormula_iff.1 formula
    exact (recalcPass_solves _ formulaCells_body (formulaCells_nodup nodup) _ _ _
      (recalcValues_solves nodup n)).2 (j, body) (mem_formulaCells found) settled

theorem solves_of_fixed (nodup : (store.cells.map Prod.fst).Nodup)
    (fixed : (recalcPass store now store.formulaCells (C, false, #[])).1 = C) : ∀ n, Solves store now n C
  | 0 => solves_zero C
  | n + 1 => by
    intro j formula settled
    obtain ⟨body, found⟩ := Store.isFormula_iff.1 formula
    have written := (recalcPass_solves _ formulaCells_body (formulaCells_nodup nodup) C false #[]
      (solves_of_fixed nodup fixed n)).2 (j, body) (mem_formulaCells found) settled
    rwa [fixed] at written

theorem Solves.setComputed (solves : Solves store now n C) :
    Solves store now n (setComputed C k (evaluateFormula store now (.str (store.content k))).1) := by
  intro j formula settled
  rw [lookup_setComputed]
  split
  next same => rw [same]
  next => exact solves j formula settled

section Settled

variable {L : Nat} (all : ∀ k, store.Settled L k)
include all

theorem recalcPass_changed_of_solves
    (reflexive : ∀ k, store.IsFormula k → sameValue (evaluateFormula store now (.str (store.content k))).1
      (evaluateFormula store now (.str (store.content k))).1 = true) :
    ∀ (fs : List (String × String)), (∀ p ∈ fs, Store.formulaBody? (store.content p.1) = some p.2) →
    ∀ (C : List (String × Value)) (changed : Bool) (events : Array Log.Event), Solves store now L C →
      (recalcPass store now fs (C, changed, events)).2.1 = changed
  | [], _, _, _, _, _ => rfl
  | (key, body) :: rest, formulas, C, changed, events, solves => by
    have found := formulas (key, body) (List.mem_cons_self ..)
    have formula := Store.isFormula_iff.2 ⟨body, found⟩
    obtain ⟨added, step⟩ := recalcPass_cons store now key body rest C changed events
    rw [step, passValue_evaluated ((all key).mono (Nat.le_succ L)) found solves,
      solves key formula (all key), Option.getD_some, reflexive key formula, Bool.not_true, Bool.or_false]
    exact recalcPass_changed_of_solves reflexive rest (fun p mem => formulas p (List.mem_cons_of_mem _ mem))
      _ _ _ solves.setComputed

theorem recalcPass_table_of_solves : ∀ (fs : List (String × String)),
    (∀ p ∈ fs, Store.formulaBody? (store.content p.1) = some p.2) →
    ∀ (C : List (String × Value)) (changed : Bool) (events : Array Log.Event), (C.map Prod.fst).Nodup →
      Solves store now L C → (recalcPass store now fs (C, changed, events)).1 = C
  | [], _, _, _, _, _, _ => rfl
  | (key, body) :: rest, formulas, C, changed, events, nodup, solves => by
    have found := formulas (key, body) (List.mem_cons_self ..)
    obtain ⟨added, step⟩ := recalcPass_cons store now key body rest C changed events
    rw [step, passValue_evaluated ((all key).mono (Nat.le_succ L)) found solves,
      setComputed_of_lookup nodup (solves key (Store.isFormula_iff.2 ⟨body, found⟩) (all key))]
    exact recalcPass_table_of_solves rest (fun p mem => formulas p (List.mem_cons_of_mem _ mem)) _ _ _ nodup solves

theorem recalcLoop_settles (nodup : (store.cells.map Prod.fst).Nodup)
    (reflexive : ∀ k, store.IsFormula k → sameValue (evaluateFormula store now (.str (store.content k))).1
      (evaluateFormula store now (.str (store.content k))).1 = true) :
    ∀ (fuel i : Nat) (events : Array Log.Event), i ≤ L → L + 1 ≤ i + fuel →
      ∃ m events', recalcLoop store now store.formulaCells fuel (recalcValues store now i) i events =
        (recalcValues store now m, m, true, events') ∧ i < m ∧ m ≤ L + 1
  | 0, i, events, below, enough => absurd enough (by omega)
  | fuel + 1, i, events, below, enough => by
    rcases pass : recalcPass store now store.formulaCells (recalcValues store now i, false, events)
      with ⟨C, changed, events'⟩
    have table : C = recalcValues store now (i + 1) := by
      rw [recalcValues, ← recalcPass_table _ _ false events, pass]
    simp only [recalcLoop, pass]
    cases changed with
    | false =>
      refine ⟨i + 1, events', ?_, by omega, by omega⟩
      simp [table]
    | true =>
      -- a pass from the settled table changes nothing, so this one started below level `L`
      have early : i < L := by
        by_contra late
        obtain rfl : i = L := by omega
        have unchanged := recalcPass_changed_of_solves all reflexive _ formulaCells_body _ false events
          (recalcValues_solves nodup i)
        rw [pass] at unchanged
        cases unchanged
      obtain ⟨m, events'', run, later, upto⟩ :=
        recalcLoop_settles nodup reflexive fuel (i + 1) events' (by omega) (by omega)
      refine ⟨m, events'', ?_, by omega, upto⟩
      simpa [table] using run

end Settled

theorem recalculate_int {cap : Int} (positive : 1 ≤ cap) {C : List (String × Value)} {m : Nat}
    {converged : Bool} {events : Array Log.Event}
    (loop : recalcLoop store now store.formulaCells cap.toNat [] 0 #[] = (C, m, converged, events)) :
    ∃ all, recalculate store now (.int cap) = .ok (⟨(store.cells.map fun e => (e.1, store.content e.1)).map
      fun e => if store.formulaCells.any (·.1 == e.1) then (e.1, (C.lookup e.1).getD .null) else (e.1, .str e.2),
      m, converged⟩, all) := by
  have allowed : ¬ (Num.int cap).lt (.int 1) = true := by
    simp [Num.lt, Num.compare?, Int.compare_eq_lt]
    omega
  simp only [recalculate, pure_bind, allowed, Bool.false_eq_true, if_false]
  have formulas : (store.cells.map fun e => (e.1, store.content e.1)).filterMap
      (fun e => (Store.formulaBody? e.2).map (e.1, ·)) = store.formulaCells := rfl
  simp only [passesAllowed, formulas, loop]
  exact ⟨_, rfl⟩

end Passes

end Spreadsheet
