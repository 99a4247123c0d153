import Spreadsheet.Sheet.Store
import Spreadsheet.Proofs.References

/-!
The static dependency graph of a store.

A formula cell reads the formula cells among the references of its formula, and a dependency path
lists formula cells each reading the next. A cell is settled within `n` when every path from it
has at most `n` cells: a plain cell is settled within any bound, and a formula cell settled within
`n + 1` reads only cells settled within `n`. When no path has more than `L` cells every cell is
settled within `L`, and there is no cycle.
-/

set_option autoImplicit false

namespace Spreadsheet

namespace Store

variable (s : Store)

def IsFormula (k : String) : Prop := (formulaBody? (s.content k)).isSome

def Reads (k j : String) : Prop :=
  s.IsFormula k ∧ s.IsFormula j ∧ j ∈ Formula.formulaReferences (s.content k)

def DependencyPath : List String → Prop
  | [] => True
  | [k] => s.IsFormula k
  | k :: j :: rest => s.Reads k j ∧ DependencyPath (j :: rest)

/-- Every dependency path from `k` has at most `n` cells. -/
def Settled (n : Nat) (k : String) : Prop :=
  ∀ path, s.DependencyPath (k :: path) → path.length < n

def Unsettled (n : Nat) (stack : List String) : Prop := ∀ c ∈ stack, ¬ s.Settled n c

variable {s} {n m : Nat} {k j : String}

theorem isFormula_iff : s.IsFormula k ↔ ∃ body, formulaBody? (s.content k) = some body :=
  Option.isSome_iff_exists

theorem DependencyPath.isFormula : ∀ {path : List String}, s.DependencyPath (k :: path) → s.IsFormula k
  | [], formula => formula
  | _ :: _, ⟨reads, _⟩ => reads.1

theorem settled_of_not_isFormula (plain : ¬ s.IsFormula k) (n : Nat) : s.Settled n k :=
  fun _ path => absurd path.isFormula plain

theorem Settled.mono (settled : s.Settled n k) (le : n ≤ m) : s.Settled m k :=
  fun path walk => Nat.lt_of_lt_of_le (settled path walk) le

theorem Settled.pos (settled : s.Settled n k) (formula : s.IsFormula k) : 0 < n :=
  settled [] formula

theorem Settled.of_reads (settled : s.Settled (n + 1) k) (reads : s.Reads k j) : s.Settled n j :=
  fun path walk => Nat.lt_of_succ_lt_succ (settled (j :: path) ⟨reads, walk⟩)

theorem settled_of_bounded {L : Nat} (bounded : ∀ path, s.DependencyPath path → path.length ≤ L)
    (k : String) : s.Settled L k :=
  fun path walk => bounded (k :: path) walk

theorem path_length_le_one (none : ∀ k j, ¬ s.Reads k j) : ∀ path, s.DependencyPath path → path.length ≤ 1
  | [], _ => Nat.zero_le 1
  | [_], _ => Nat.le_refl 1
  | k :: j :: _, walk => absurd walk.1 (none k j)

theorem unsettled_nil : s.Unsettled n [] :=
  fun _ mem => absurd mem List.not_mem_nil

theorem Unsettled.of_succ {stack : List String} (unsettled : s.Unsettled (n + 1) stack) :
    s.Unsettled n stack :=
  fun c mem settled => unsettled c mem (settled.mono (Nat.le_succ n))

theorem Unsettled.push {stack : List String} (unsettled : s.Unsettled (n + 1) stack)
    (fresh : ¬ s.Settled n k) : s.Unsettled n (stack ++ [k]) := by
  intro c mem
  rcases List.mem_append.1 mem with mem | mem
  · exact unsettled.of_succ c mem
  · rw [List.mem_singleton.1 mem]
    exact fresh

theorem Unsettled.not_mem {stack : List String} (unsettled : s.Unsettled n stack)
    (settled : s.Settled n k) : k ∉ stack :=
  fun mem => unsettled k mem settled

theorem formulaReferences_of_body {text body : String} (found : formulaBody? text = some body) :
    Formula.formulaReferences text = (Formula.parseBody body).references := by
  unfold formulaBody? at found
  unfold Formula.formulaReferences Formula.formulaExpr?
  by_cases formula : text.startsWith "="
  · simp only [formula, if_true, Option.some.injEq] at found ⊢
    subst found
    rfl
  · simp [formula] at found

theorem Settled.of_read {body : String} (settled : s.Settled (n + 1) k)
    (found : formulaBody? (s.content k) = some body) (read : j ∈ (Formula.parseBody body).references) :
    s.Settled n j := by
  by_cases formula : s.IsFormula j
  · refine settled.of_reads ⟨isFormula_iff.2 ⟨body, found⟩, formula, ?_⟩
    rwa [formulaReferences_of_body found]
  · exact settled_of_not_isFormula formula n

end Store

end Spreadsheet
