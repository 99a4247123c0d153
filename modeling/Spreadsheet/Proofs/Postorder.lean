import Spreadsheet.Proofs.Frame
import Mathlib.Logic.Relation

/-!
The order in which a formula's dependencies are evaluated ahead.

The walk from a formula's references lists every formula cell with a body that the formula reaches
through the references of bodies, each once, and lists a cell after every formula cell it depends
on, unless that cell reaches it back: then the two are on a cycle. The walk is depth first; it marks
a cell when it enters it and lists it when it leaves it. A cell entered and not yet left is on the
path being walked, so it reaches every key still to walk, and a dependency met there closes a cycle.
-/

set_option autoImplicit false

namespace Spreadsheet

open Formula Relation

namespace Store

variable (s : Store)

def Depends (k j : String) : Prop := ∃ e, s.formulaExpr? k = some e ∧ j ∈ e.references

def ReachedFrom (roots : List String) (j : String) : Prop := ∃ r ∈ roots, ReflTransGen s.Depends r j

/-- Every formula dependency of a listed cell is listed before it, unless it reaches the cell back. -/
def DependenciesFirst (order : List String) : Prop :=
  ∀ k ∈ order, ∀ d, s.Depends k d → (s.formulaExpr? d).isSome →
    [d, k].Sublist order ∨ TransGen s.Depends d k

def Finished (acc : List String × List String) (x : String) : Prop :=
  ∀ e, s.formulaExpr? x = some e → x ∈ acc.2 ∧ ∀ j ∈ e.references, j ∈ acc.1

structure Walking (keys : List String) (acc : List String × List String) : Prop where
  listed : ∀ x ∈ acc.2, x ∈ acc.1
  first : s.DependenciesFirst acc.2
  underway : ∀ g ∈ acc.1, (s.formulaExpr? g).isSome → g ∉ acc.2 → ∀ k ∈ keys, TransGen s.Depends g k

/-- The formula cells evaluated ahead of an expression, in the order of their evaluation. -/
def aheadOrder (e : Expr) : List String := (dependencyOrder s s.fuel e.references ([], [])).2

variable {s} {roots : List String} {k j : String}

theorem ReachedFrom.root (mem : k ∈ roots) : s.ReachedFrom roots k := ⟨k, mem, .refl⟩

theorem ReachedFrom.of_cons {rest : List String} (reached : s.ReachedFrom rest j) : s.ReachedFrom (k :: rest) j :=
  let ⟨r, mem, path⟩ := reached
  ⟨r, List.mem_cons_of_mem _ mem, path⟩

theorem Finished.mono {acc acc' : List String × List String} (done : s.Finished acc k)
    (visited : ∀ x ∈ acc.1, x ∈ acc'.1) (listed : ∀ x ∈ acc.2, x ∈ acc'.2) : s.Finished acc' k :=
  fun e found =>
    let ⟨mem, refs⟩ := done e found
    ⟨listed k mem, fun j ref => visited j (refs j ref)⟩

theorem DependenciesFirst.snoc {order : List String} (first : s.DependenciesFirst order)
    (last : ∀ d, s.Depends k d → (s.formulaExpr? d).isSome → d ∈ order ∨ TransGen s.Depends d k) :
    s.DependenciesFirst (order ++ [k]) := by
  intro x mem d dep formula
  rcases List.mem_append.1 mem with early | added
  · exact (first x early d dep formula).imp_left fun sub => sub.trans (List.sublist_append_left _ _)
  · obtain rfl := List.mem_singleton.1 added
    exact (last d dep formula).imp_left fun listed => by
      simpa using (List.singleton_sublist.2 listed).append (List.Sublist.refl [x])

theorem walking_nil (keys : List String) : s.Walking keys ([], []) :=
  ⟨by simp, by simp [DependenciesFirst], by simp⟩

theorem Walking.tail {rest : List String} {acc : List String × List String} (walking : s.Walking (k :: rest) acc) :
    s.Walking rest acc :=
  ⟨walking.listed, walking.first, fun g mem formula off j ref =>
    walking.underway g mem formula off j (List.mem_cons_of_mem _ ref)⟩

theorem Walking.skip {rest seen order : List String} (walking : s.Walking (k :: rest) (seen, order))
    (found : s.formulaExpr? k = none) : s.Walking rest (seen ++ [k], order) := by
  refine ⟨fun x mem => List.mem_append_left _ (walking.listed x mem), walking.first, fun g mem formula off j ref => ?_⟩
  rcases List.mem_append.1 mem with early | added
  · exact walking.underway g early formula off j (List.mem_cons_of_mem _ ref)
  · obtain rfl := List.mem_singleton.1 added
    simp [found] at formula

theorem Walking.enter {rest seen order : List String} {e : Expr} (walking : s.Walking (k :: rest) (seen, order))
    (found : s.formulaExpr? k = some e) : s.Walking e.references (seen ++ [k], order) := by
  refine ⟨fun x mem => List.mem_append_left _ (walking.listed x mem), walking.first, fun g mem formula off j ref => ?_⟩
  have dep : s.Depends k j := ⟨e, found, ref⟩
  rcases List.mem_append.1 mem with early | added
  · exact (walking.underway g early formula off k (by simp)).tail dep
  · obtain rfl := List.mem_singleton.1 added
    exact .single dep

theorem Depends.canonical (dep : s.Depends k j) : canonicalKey j = j := by
  obtain ⟨e, found, ref⟩ := dep
  obtain ⟨body, -, rfl⟩ := formulaExpr?_eq_some found
  exact parseBody_references_canonical body ref

theorem ReachedFrom.canonical {body : String} (reached : s.ReachedFrom (parseBody body).references k) :
    canonicalKey k = k := by
  obtain ⟨r, root, path⟩ := reached
  rcases ReflTransGen.cases_tail path with rfl | ⟨c, -, dep⟩
  · exact parseBody_references_canonical body root
  · exact dep.canonical

theorem not_transGen_of_rank (rank : String → Nat) (descends : ∀ k j, s.Depends k j → rank j < rank k) :
    ¬ TransGen s.Depends k k := by
  have lower : ∀ {a b : String}, TransGen s.Depends a b → rank b < rank a := by
    intro a b path
    induction path with
    | single dep => exact descends _ _ dep
    | tail _ dep below => exact lt_trans (descends _ _ dep) below
  exact fun cycle => lt_irrefl _ (lower cycle)

end Store

section Walk

variable (s : Store) {fuel : Nat} {k : String} {rest seen order : List String} {e : Expr}

theorem dependencyOrder_of_mem (listed : k ∈ seen) :
    dependencyOrder s (fuel + 1) (k :: rest) (seen, order) = dependencyOrder s (fuel + 1) rest (seen, order) := by
  rw [dependencyOrder.eq_3, if_pos (by simpa using listed)]

theorem dependencyOrder_of_plain (fresh : k ∉ seen) (found : s.formulaExpr? k = none) :
    dependencyOrder s (fuel + 1) (k :: rest) (seen, order) =
      dependencyOrder s (fuel + 1) rest (seen ++ [k], order) := by
  rw [dependencyOrder.eq_3, if_neg (by simpa using fresh), found]

theorem dependencyOrder_of_formula (fresh : k ∉ seen) (found : s.formulaExpr? k = some e) :
    dependencyOrder s (fuel + 1) (k :: rest) (seen, order) =
      dependencyOrder s (fuel + 1) rest ((dependencyOrder s fuel e.references (seen ++ [k], order)).1,
        (dependencyOrder s fuel e.references (seen ++ [k], order)).2 ++ [k]) := by
  rw [dependencyOrder.eq_3, if_neg (by simpa using fresh), found]

theorem dependencyOrder_extends : ∀ (fuel : Nat) (keys : List String) (acc : List String × List String),
    ∃ new, (dependencyOrder s fuel keys acc).2 = acc.2 ++ new ∧ new.Nodup ∧
      ∀ x ∈ new, x ∉ acc.1 ∧ x ∈ (dependencyOrder s fuel keys acc).1 ∧ (s.formulaExpr? x).isSome
  | 0, _, _ => ⟨[], by simp [dependencyOrder.eq_1]⟩
  | _ + 1, [], _ => ⟨[], by simp [dependencyOrder.eq_2]⟩
  | fuel + 1, k :: rest, (seen, order) => by
    by_cases listed : k ∈ seen
    · rw [dependencyOrder_of_mem s listed]
      exact dependencyOrder_extends (fuel + 1) rest (seen, order)
    cases found : s.formulaExpr? k with
    | none =>
      rw [dependencyOrder_of_plain s listed found]
      obtain ⟨new, grown, distinct, fresh⟩ := dependencyOrder_extends (fuel + 1) rest (seen ++ [k], order)
      refine ⟨new, grown, distinct, fun x mem => ?_⟩
      obtain ⟨off, visited, formula⟩ := fresh x mem
      exact ⟨fun on => off (List.mem_append_left _ on), visited, formula⟩
    | some e =>
      rw [dependencyOrder_of_formula s listed found]
      obtain ⟨inner, grown, distinct, fresh⟩ := dependencyOrder_extends fuel e.references (seen ++ [k], order)
      have entered := dependencyOrder_visited s fuel e.references (seen ++ [k], order)
      generalize dependencyOrder s fuel e.references (seen ++ [k], order) = walked at grown fresh entered
      obtain ⟨seen₁, order₁⟩ := walked
      obtain ⟨after, grown', distinct', fresh'⟩ := dependencyOrder_extends (fuel + 1) rest (seen₁, order₁ ++ [k])
      have kept := dependencyOrder_visited s (fuel + 1) rest (seen₁, order₁ ++ [k])
      simp only at grown fresh entered grown' fresh' kept ⊢
      -- the cells listed under `k`, then `k`, then those listed after it
      refine ⟨inner ++ k :: after, by rw [grown', grown]; simp, ?_, fun x mem => ?_⟩
      · have k_entered : k ∈ seen₁ := entered k (by simp)
        refine List.nodup_append.2 ⟨distinct, List.nodup_cons.2 ⟨fun on => (fresh' k on).1 k_entered, distinct'⟩, ?_⟩
        intro x early y late same
        subst same
        rcases List.mem_cons.1 late with rfl | late
        · exact (fresh x early).1 (by simp)
        · exact (fresh' x late).1 (fresh x early).2.1
      · rcases List.mem_append.1 mem with early | late
        · obtain ⟨off, visited, formula⟩ := fresh x early
          exact ⟨fun on => off (List.mem_append_left _ on), kept x visited, formula⟩
        rcases List.mem_cons.1 late with rfl | late
        · exact ⟨listed, kept x (entered x (by simp)), by simp [found]⟩
        · obtain ⟨off, visited, formula⟩ := fresh' x late
          exact ⟨fun on => off (entered x (List.mem_append_left _ on)), visited, formula⟩
termination_by fuel keys => (fuel, keys.length)

theorem dependencyOrder_reached : ∀ (fuel : Nat) (keys : List String) (acc : List String × List String),
    ∀ x ∈ (dependencyOrder s fuel keys acc).1, x ∈ acc.1 ∨ s.ReachedFrom keys x
  | 0, _, _, x, mem => by rw [dependencyOrder.eq_1] at mem; exact .inl mem
  | _ + 1, [], _, x, mem => by rw [dependencyOrder.eq_2] at mem; exact .inl mem
  | fuel + 1, k :: rest, (seen, order), x, mem => by
    by_cases listed : k ∈ seen
    · rw [dependencyOrder_of_mem s listed] at mem
      exact (dependencyOrder_reached (fuel + 1) rest (seen, order) x mem).imp_right .of_cons
    cases found : s.formulaExpr? k with
    | none =>
      rw [dependencyOrder_of_plain s listed found] at mem
      rcases dependencyOrder_reached (fuel + 1) rest (seen ++ [k], order) x mem with early | reached
      · rcases List.mem_append.1 early with early | last
        · exact .inl early
        · obtain rfl := List.mem_singleton.1 last
          exact .inr (.root (by simp))
      · exact .inr reached.of_cons
    | some e =>
      rw [dependencyOrder_of_formula s listed found] at mem
      rcases dependencyOrder_reached (fuel + 1) rest _ x mem with early | reached
      · -- visited under `k`: `k` itself, or reached from one of its references
        rcases dependencyOrder_reached fuel e.references (seen ++ [k], order) x early with early | ⟨r, ref, path⟩
        · rcases List.mem_append.1 early with early | last
          · exact .inl early
          · obtain rfl := List.mem_singleton.1 last
            exact .inr (.root (by simp))
        · exact .inr ⟨k, by simp, ReflTransGen.head ⟨e, found, ref⟩ path⟩
      · exact .inr reached.of_cons
termination_by fuel keys => (fuel, keys.length)

theorem dependencyOrder_grows (fuel : Nat) (keys : List String) (acc : List String × List String) :
    (∀ x ∈ acc.1, x ∈ (dependencyOrder s fuel keys acc).1) ∧ ∀ x ∈ acc.2, x ∈ (dependencyOrder s fuel keys acc).2 := by
  obtain ⟨new, grown, -, -⟩ := dependencyOrder_extends s fuel keys acc
  refine ⟨dependencyOrder_visited s fuel keys acc, fun x mem => ?_⟩
  rw [grown]
  exact List.mem_append_left _ mem

theorem dependencyOrder_complete : ∀ (fuel : Nat) (keys : List String) (acc : List String × List String),
    s.unstacked acc.1 < fuel →
      (∀ k ∈ keys, k ∈ (dependencyOrder s fuel keys acc).1) ∧
      ∀ x ∈ (dependencyOrder s fuel keys acc).1, x ∉ acc.1 → s.Finished (dependencyOrder s fuel keys acc) x
  | 0, _, _, room => absurd room (Nat.not_lt_zero _)
  | _ + 1, [], _, _ => ⟨by simp, fun x mem off => by rw [dependencyOrder.eq_2] at mem; exact absurd mem off⟩
  | fuel + 1, k :: rest, (seen, order), room => by
    simp only at room
    by_cases listed : k ∈ seen
    · rw [dependencyOrder_of_mem s listed]
      obtain ⟨keys, finished⟩ := dependencyOrder_complete (fuel + 1) rest (seen, order) room
      exact ⟨List.forall_mem_cons.2 ⟨dependencyOrder_visited s _ _ _ k listed, keys⟩, finished⟩
    have marked : ∀ x ∈ seen, x ∈ seen ++ [k] := fun x mem => List.mem_append_left _ mem
    cases found : s.formulaExpr? k with
    | none =>
      rw [dependencyOrder_of_plain s listed found]
      obtain ⟨keys, finished⟩ := dependencyOrder_complete (fuel + 1) rest (seen ++ [k], order)
        (Nat.lt_of_le_of_lt (Store.unstacked_le_of_subset marked) room)
      refine ⟨List.forall_mem_cons.2 ⟨dependencyOrder_visited s _ _ _ k (by simp), keys⟩, fun x mem off => ?_⟩
      by_cases same : x = k
      · subst same
        intro e' found'
        simp [found] at found'
      · exact finished x mem (by simp [off, same])
    | some e =>
      rw [dependencyOrder_of_formula s listed found]
      -- `k` is a cell of the store not visited yet, so the walk under it has room
      obtain ⟨body, present, -⟩ := Store.formulaExpr?_eq_some found
      have shrinks := Store.unstacked_push_lt (Store.lookup_of_formulaBody present) listed
      obtain ⟨refs, finishedUnder⟩ := dependencyOrder_complete fuel e.references (seen ++ [k], order)
        (by simp only; omega)
      have entered := dependencyOrder_visited s fuel e.references (seen ++ [k], order)
      generalize dependencyOrder s fuel e.references (seen ++ [k], order) = walked at refs finishedUnder entered
      obtain ⟨seen₁, order₁⟩ := walked
      simp only at refs finishedUnder entered ⊢
      have room₁ : s.unstacked seen₁ < fuel + 1 :=
        Nat.lt_of_le_of_lt (Store.unstacked_le_of_subset fun x mem => entered x (marked x mem)) room
      obtain ⟨keys, finished⟩ := dependencyOrder_complete (fuel + 1) rest (seen₁, order₁ ++ [k]) room₁
      have grows := dependencyOrder_grows s (fuel + 1) rest (seen₁, order₁ ++ [k])
      refine ⟨List.forall_mem_cons.2 ⟨grows.1 k (entered k (by simp)), keys⟩, fun x mem off => ?_⟩
      by_cases under : x ∈ seen₁
      · -- finished under `k`, or `k` itself, whose references were all visited under it
        have done : s.Finished (seen₁, order₁ ++ [k]) x := by
          by_cases same : x = k
          · subst same
            intro e' found'
            rw [found, Option.some.injEq] at found'
            subst found'
            exact ⟨by simp, refs⟩
          · exact (finishedUnder x under (by simp [off, same])).mono (fun y mem => mem)
              (fun y mem => List.mem_append_left _ mem)
        exact done.mono grows.1 grows.2
      · exact finished x mem under
termination_by fuel keys => (fuel, keys.length)

variable {s}

theorem Store.Walking.leave (walking : s.Walking (k :: rest) (seen, order)) (found : s.formulaExpr? k = some e)
    (room : s.unstacked (seen ++ [k]) < fuel)
    (first : s.DependenciesFirst (dependencyOrder s fuel e.references (seen ++ [k], order)).2) :
    s.Walking rest ((dependencyOrder s fuel e.references (seen ++ [k], order)).1,
      (dependencyOrder s fuel e.references (seen ++ [k], order)).2 ++ [k]) := by
  obtain ⟨new, grown, -, fresh⟩ := dependencyOrder_extends s fuel e.references (seen ++ [k], order)
  obtain ⟨refs, finished⟩ := dependencyOrder_complete s fuel e.references (seen ++ [k], order) room
  have entered := dependencyOrder_visited s fuel e.references (seen ++ [k], order)
  generalize dependencyOrder s fuel e.references (seen ++ [k], order) = walked at grown fresh refs finished entered first
  obtain ⟨seen₁, order₁⟩ := walked
  simp only at grown fresh refs finished entered first
  subst grown
  -- a formula cell visited and not listed after the walk under `k` was visited before it
  have before : ∀ g ∈ seen₁, (s.formulaExpr? g).isSome → g ∉ order ++ new → g ∈ seen ++ [k] := by
    intro g mem formula off
    by_contra outside
    obtain ⟨e', found'⟩ := Option.isSome_iff_exists.1 formula
    exact off (finished g mem outside e' found').1
  refine ⟨fun x mem => ?_, first.snoc fun d dep formula => ?_, fun g mem formula off j ref => ?_⟩
  · rcases List.mem_append.1 mem with mem | added
    · rcases List.mem_append.1 mem with old | new
      · exact entered x (List.mem_append_left _ (walking.listed x old))
      · exact (fresh x new).2.1
    · obtain rfl := List.mem_singleton.1 added
      exact entered x (by simp)
  · obtain ⟨e', found', ref⟩ := dep
    rw [found, Option.some.injEq] at found'
    subst found'
    by_cases listed : d ∈ order ++ new
    · exact .inl listed
    rcases List.mem_append.1 (before d (refs d ref) formula listed) with old | added
    · exact .inr (walking.underway d old formula (fun on => listed (List.mem_append_left _ on)) k (by simp))
    · obtain rfl := List.mem_singleton.1 added
      exact .inr (.single ⟨_, found, ref⟩)
  · have off' : g ∉ order ++ new := fun on => off (List.mem_append_left _ on)
    rcases List.mem_append.1 (before g mem formula off') with old | added
    · exact walking.underway g old formula (fun on => off' (List.mem_append_left _ on)) j (List.mem_cons_of_mem _ ref)
    · obtain rfl := List.mem_singleton.1 added
      exact absurd (by simp) off

variable (s)

theorem dependencyOrder_dependenciesFirst : ∀ (fuel : Nat) (keys : List String) (acc : List String × List String),
    s.unstacked acc.1 < fuel → s.Walking keys acc → s.DependenciesFirst (dependencyOrder s fuel keys acc).2
  | 0, _, _, room, _ => absurd room (Nat.not_lt_zero _)
  | _ + 1, [], _, _, walking => by rw [dependencyOrder.eq_2]; exact walking.first
  | fuel + 1, k :: rest, (seen, order), room, walking => by
    simp only at room
    by_cases listed : k ∈ seen
    · rw [dependencyOrder_of_mem s listed]
      exact dependencyOrder_dependenciesFirst (fuel + 1) rest (seen, order) room walking.tail
    have marked : ∀ x ∈ seen, x ∈ seen ++ [k] := fun x mem => List.mem_append_left _ mem
    cases found : s.formulaExpr? k with
    | none =>
      rw [dependencyOrder_of_plain s listed found]
      exact dependencyOrder_dependenciesFirst (fuel + 1) rest (seen ++ [k], order)
        (Nat.lt_of_le_of_lt (Store.unstacked_le_of_subset marked) room) (walking.skip found)
    | some e =>
      rw [dependencyOrder_of_formula s listed found]
      obtain ⟨body, present, -⟩ := Store.formulaExpr?_eq_some found
      have shrinks := Store.unstacked_push_lt (Store.lookup_of_formulaBody present) listed
      have room' : s.unstacked (seen ++ [k]) < fuel := by omega
      have under := dependencyOrder_dependenciesFirst fuel e.references (seen ++ [k], order) room' (walking.enter found)
      have entered := dependencyOrder_visited s fuel e.references (seen ++ [k], order)
      exact dependencyOrder_dependenciesFirst (fuel + 1) rest _
        (Nat.lt_of_le_of_lt (Store.unstacked_le_of_subset fun x mem => entered x (marked x mem)) room)
        (walking.leave found room' under)
termination_by fuel keys => (fuel, keys.length)

end Walk

namespace Store

variable (s : Store) (e : Expr) {k : String}

theorem aheadOrder_nodup : (s.aheadOrder e).Nodup := by
  obtain ⟨new, grown, distinct, -⟩ := dependencyOrder_extends s s.fuel e.references ([], [])
  rw [aheadOrder, grown]
  simpa using distinct

theorem mem_aheadOrder_iff : k ∈ s.aheadOrder e ↔ (s.formulaExpr? k).isSome ∧ s.ReachedFrom e.references k := by
  obtain ⟨new, grown, -, fresh⟩ := dependencyOrder_extends s s.fuel e.references ([], [])
  obtain ⟨roots, finished⟩ := dependencyOrder_complete s s.fuel e.references ([], []) (unstacked_nil_lt_fuel s)
  constructor
  · intro mem
    rw [aheadOrder, grown, List.nil_append] at mem
    obtain ⟨-, visited, formula⟩ := fresh k mem
    rcases dependencyOrder_reached s s.fuel e.references ([], []) k visited with early | reached
    · cases early
    · exact ⟨formula, reached⟩
  · rintro ⟨formula, r, root, path⟩
    -- the walk visits the references of every formula cell it visits, so everything reached
    have closed : ∀ j, ReflTransGen s.Depends r j → j ∈ (dependencyOrder s s.fuel e.references ([], [])).1 := by
      intro j path
      induction path with
      | refl => exact roots r root
      | tail _ dep visited =>
        obtain ⟨e', found, ref⟩ := dep
        exact (finished _ visited List.not_mem_nil e' found).2 _ ref
    obtain ⟨e', found⟩ := Option.isSome_iff_exists.1 formula
    exact (finished k (closed k path) List.not_mem_nil e' found).1

theorem aheadOrder_dependenciesFirst : s.DependenciesFirst (s.aheadOrder e) :=
  dependencyOrder_dependenciesFirst s s.fuel e.references ([], []) (unstacked_nil_lt_fuel s) (walking_nil _)

end Store

end Spreadsheet
