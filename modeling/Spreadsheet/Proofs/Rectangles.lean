import Spreadsheet.Proofs.Columns
import Spreadsheet.Proofs.Runs
import Mathlib.Data.List.Nodup

/-!
Rectangles of cells.

Two corner references span the rectangle of cells between them, whichever two opposite corners
they are and in whichever order they come. Its keys run row by row from the top, each row from the
leftmost column, so the key at `r * width + c` is that of the cell `r` rows below and `c` columns
right of the top left corner, and no key comes twice. A range evaluates to its rows: the values
read for its keys cut into rows of the rectangle's width, in the same order.

A reference alone is the rectangle of its one cell, whose key is the key of its position. The store
key of a bare reference keeps its row digits as written instead, so the two name the same cell
exactly when the row is written in plain decimal without leading zeros.
-/

set_option autoImplicit false

namespace Spreadsheet

open Formula Calendar EvalM

section Blocks

variable {α β : Type}

theorem getElem?_flatMap_of_width {width : Nat} (g : α → List β) (uniform : ∀ x, (g x).length = width) :
    ∀ (L : List α) (i j : Nat), j < width → (L.flatMap g)[i * width + j]? = L[i]?.bind fun x => (g x)[j]?
  | [], _, _, _ => by simp
  | x :: _, 0, j, inside => by
    rw [List.flatMap_cons, Nat.zero_mul, Nat.zero_add,
      List.getElem?_append_left (by rw [uniform]; exact inside)]
    simp
  | x :: L, i + 1, j, inside => by
    have shifted : (i + 1) * width + j = (g x).length + (i * width + j) := by
      rw [uniform, Nat.succ_mul]
      omega
    rw [List.flatMap_cons, shifted, List.getElem?_append_right (by omega), Nat.add_sub_cancel_left,
      getElem?_flatMap_of_width g uniform L i j inside]
    simp

theorem take_eq_map_getD (l : List α) {n : Nat} (enough : n ≤ l.length) (d : α) :
    l.take n = (List.range n).map fun i => l.getD i d := by
  refine List.ext_getElem (by simp; omega) fun i inside _ => ?_
  simp only [List.length_take] at inside
  simp [List.getD_eq_getElem?_getD, List.getElem?_eq_getElem (show i < l.length by omega)]

end Blocks

theorem rowsOfWidth_eq_table (width : Nat) : ∀ (count : Nat) (flat : List Value),
    flat.length = count * width →
    rowsOfWidth width count flat =
      (List.range count).map fun r => .list ((List.range width).map fun c => flat.getD (r * width + c) .null)
  | 0, _, _ => rfl
  | count + 1, flat, length => by
    have rest : (flat.drop width).length = count * width := by
      rw [List.length_drop, length, Nat.succ_mul]
      omega
    rw [rowsOfWidth, rowsOfWidth_eq_table width count (flat.drop width) rest, List.range_succ_eq_map,
      List.map_cons, List.map_map, take_eq_map_getD flat (by rw [length, Nat.succ_mul]; omega) .null]
    congr 1
    · simp
    · -- row `r` of the rest is row `r + 1` of the whole
      refine List.map_congr_left fun r _ => ?_
      simp only [Function.comp_apply, List.getD_eq_getElem?_getD, List.getElem?_drop]
      congr 3
      funext c
      rw [Nat.succ_mul]
      congr 2
      omega

namespace Span

variable {start stop : String} {a b : Ref}

theorem shape_of_parse (first : Ref.parse? start = some a) (second : Ref.parse? stop = some b) :
    (Span.mk start stop).shape = ((a.row - b.row).natAbs + 1, (a.col - b.col).natAbs + 1) := by
  simp [shape, first, second]

theorem refs_of_parse (first : Ref.parse? start = some a) (second : Ref.parse? stop = some b) :
    (Span.mk start stop).refs =
      ((List.range ((a.row - b.row).natAbs + 1)).map fun i : Nat => min a.row b.row + i).flatMap
        fun r => ((List.range ((a.col - b.col).natAbs + 1)).map fun j : Nat => min a.col b.col + j).map
          fun c => (⟨r, c⟩ : Ref) := by
  simp only [refs, first, second]

theorem refs_eq_of_corners {start' stop' : String} {a' b' : Ref} (first : Ref.parse? start = some a)
    (second : Ref.parse? stop = some b) (first' : Ref.parse? start' = some a')
    (second' : Ref.parse? stop' = some b') (top : min a'.row b'.row = min a.row b.row)
    (left : min a'.col b'.col = min a.col b.col) (height : (a'.row - b'.row).natAbs = (a.row - b.row).natAbs)
    (width : (a'.col - b'.col).natAbs = (a.col - b.col).natAbs) :
    (Span.mk start' stop').refs = (Span.mk start stop).refs := by
  rw [refs_of_parse first' second', refs_of_parse first second, top, left, height, width]

theorem length_keys (first : Ref.parse? start = some a) (second : Ref.parse? stop = some b) :
    (Span.mk start stop).keys.length = ((a.row - b.row).natAbs + 1) * ((a.col - b.col).natAbs + 1) := by
  simp [keys, refs_of_parse first second, List.length_flatMap, Function.comp_def]

theorem getElem?_keys (first : Ref.parse? start = some a) (second : Ref.parse? stop = some b)
    {r c : Nat} (row : r < (a.row - b.row).natAbs + 1) (col : c < (a.col - b.col).natAbs + 1) :
    (Span.mk start stop).keys[r * ((a.col - b.col).natAbs + 1) + c]? =
      some (Ref.key ⟨min a.row b.row + r, min a.col b.col + c⟩) := by
  rw [keys, List.getElem?_map, refs_of_parse first second,
    getElem?_flatMap_of_width _ (fun _ => by simp) _ r c col]
  simp [List.getElem?_range row, List.getElem?_range col]

theorem refs_nodup (s : Span) : s.refs.Nodup := by
  unfold refs
  split
  next a b _ _ =>
    rw [List.nodup_flatMap]
    refine ⟨fun r _ => ?_, ?_⟩
    · -- the cells of one row differ in their columns
      refine (List.nodup_range.map fun i j same => ?_).map fun x y same => ?_
      · simpa using same
      · simpa using same
    · -- cells of different rows differ in their rows
      have rows : ((List.range ((a.row - b.row).natAbs + 1)).map fun i : Nat => min a.row b.row + i).Pairwise
          (· < ·) := List.pairwise_lt_range.map _ fun i j lt => by omega
      refine rows.imp fun {r r'} lt => List.disjoint_left.2 fun {x} mem mem' => ?_
      simp only [List.mem_map] at mem mem'
      obtain ⟨_, _, rfl⟩ := mem
      obtain ⟨_, _, same⟩ := mem'
      cases same
      exact absurd lt (lt_irrefl _)
  next => exact List.nodup_nil

theorem keys_nodup (s : Span) : s.keys.Nodup :=
  s.refs_nodup.map_on fun x listed y listed' same => by
    have bounds := span_refs_bounds listed
    have bounds' := span_refs_bounds listed'
    have parsed := congrArg Ref.parse? same
    rwa [Ref.parse?_key bounds.1 bounds.2, Ref.parse?_key bounds'.1 bounds'.2, Option.some.injEq] at parsed

theorem shape_keys_of_not_ref (missing : Ref.parse? start = none ∨ Ref.parse? stop = none) :
    (Span.mk start stop).shape = (0, 0) ∧ (Span.mk start stop).keys = [] := by
  rcases missing with missing | missing
  · simp [shape, keys, refs, missing]
  · cases first : Ref.parse? start <;> simp [shape, keys, refs, missing, first]

end Span

theorem evalExpr_range_exec {ctx : Context} {now : DateTime} {start stop : String} {R C : Nat}
    (shape : Span.shape ⟨start, stop⟩ = (R, C)) (nonempty : 0 < R) {st st' : Resolver} {flat : List Value}
    (read : (ctx.rangeValues ⟨start, stop⟩).exec st = (.ok flat, st')) :
    (evalExpr ctx now (.range start stop)).exec st = (.ok (.list (rowsOfWidth C R flat)), st') := by
  simp only [evalExpr, shape]
  rw [if_neg (by simp; omega), exec_bind_ok read]
  rfl

theorem exec_mapM_length {f : String → EvalM Value} : ∀ (keys : List String) {st st' : Resolver}
    {vs : List Value}, (keys.mapM f).exec st = (.ok vs, st') → vs.length = keys.length
  | [], _, _, _, ran => by
    simp only [List.mapM_nil, exec_pure, Prod.mk.injEq, Except.ok.injEq] at ran
    rw [← ran.1]
    rfl
  | k :: rest, st, _, _, ran => by
    rw [List.mapM_cons, exec_bind] at ran
    split at ran
    next v st₁ _ =>
      rw [exec_bind] at ran
      split at ran
      next vs st₂ second =>
        simp only [exec_pure, Prod.mk.injEq, Except.ok.injEq] at ran
        rw [← ran.1, List.length_cons, List.length_cons, exec_mapM_length rest second]
      next => simp at ran
    next => simp at ran

/-- Two corner references span a rectangle whose keys run row by row from the top left cell, with
as many keys as cells and none twice, whichever two opposite corners name it and in whichever order;
a range over it evaluates to its rows, each as wide as the rectangle, holding the values read for
its keys in the same order, and a store reads one value for each key. A corner that is not a
reference spans nothing. -/
theorem span_keys_row_major (start stop : String) :
    (∀ (a b : Ref) (R C : Nat), Ref.parse? start = some a → Ref.parse? stop = some b →
      Span.shape ⟨start, stop⟩ = (R, C) →
      (Span.keys ⟨start, stop⟩).length = R * C ∧
      (∀ r < R, ∀ c < C, (Span.keys ⟨start, stop⟩)[r * C + c]? =
        some (Ref.key ⟨min a.row b.row + r, min a.col b.col + c⟩)) ∧
      (Span.keys ⟨start, stop⟩).Nodup ∧
      Span.keys ⟨stop, start⟩ = Span.keys ⟨start, stop⟩ ∧
      Span.keys ⟨Ref.key ⟨a.row, b.col⟩, Ref.key ⟨b.row, a.col⟩⟩ = Span.keys ⟨start, stop⟩ ∧
      (∀ (ctx : Context) (now : DateTime) (st st' : Resolver) (flat : List Value),
        (ctx.rangeValues ⟨start, stop⟩).exec st = (.ok flat, st') → flat.length = R * C →
        (evalExpr ctx now (.range start stop)).exec st =
          (.ok (.list ((List.range R).map fun r =>
            .list ((List.range C).map fun c => flat.getD (r * C + c) .null))), st')) ∧
      (∀ (env : Env) (fuel : Nat) (st st' : Resolver) (flat : List Value),
        ((sheetContext env fuel).rangeValues ⟨start, stop⟩).exec st = (.ok flat, st') →
        flat.length = R * C)) ∧
    (Ref.parse? start = none ∨ Ref.parse? stop = none →
      Span.shape ⟨start, stop⟩ = (0, 0) ∧ Span.keys ⟨start, stop⟩ = []) := by
  refine ⟨fun a b R C first second shape => ?_, Span.shape_keys_of_not_ref⟩
  obtain ⟨rfl, rfl⟩ := Prod.mk.inj (shape.symm.trans (Span.shape_of_parse first second))
  have bounds := ref_parse_bounds first
  have bounds' := ref_parse_bounds second
  -- the other diagonal names the same rectangle: its corners are keys of positions
  have across : Span.keys ⟨Ref.key ⟨a.row, b.col⟩, Ref.key ⟨b.row, a.col⟩⟩ = Span.keys ⟨start, stop⟩ := by
    unfold Span.keys
    rw [Span.refs_eq_of_corners first second (Ref.parse?_key (r := ⟨a.row, b.col⟩) bounds.1 bounds'.2)
      (Ref.parse?_key (r := ⟨b.row, a.col⟩) bounds'.1 bounds.2) rfl (min_comm _ _) rfl (by simp only; omega)]
  refine ⟨Span.length_keys first second, fun r row c col => Span.getElem?_keys first second row col,
    Span.keys_nodup _, ?_, across, ?_, ?_⟩
  · unfold Span.keys
    rw [Span.refs_eq_of_corners first second second first (min_comm _ _) (min_comm _ _)
      (by omega) (by omega)]
  · intro ctx now st st' flat read length
    rw [evalExpr_range_exec shape (by omega) read, rowsOfWidth_eq_table _ _ flat length]
  · intro env fuel st st' flat read
    rw [exec_mapM_length _ read, Span.length_keys first second]

theorem span_keys_at_B2_A1 :
    (Span.keys ⟨"B2", "A1"⟩)[0 * 2 + 0]? = some (Ref.key ⟨0 + 0, 0 + 0⟩) ∧
      (Span.keys ⟨"B2", "A1"⟩)[1 * 2 + 0]? = some (Ref.key ⟨0 + 1, 0 + 0⟩) ∧
      Span.keys ⟨Ref.key ⟨1, 0⟩, Ref.key ⟨0, 1⟩⟩ = Span.keys ⟨"B2", "A1"⟩ := by
  obtain ⟨_, index, -, -, across, -⟩ :=
    (span_keys_row_major "B2" "A1").1 ⟨1, 1⟩ ⟨0, 0⟩ 2 2 (by decide +kernel) (by decide +kernel)
      (by decide +kernel)
  exact ⟨index 0 (by decide) 0 (by decide), index 1 (by decide) 0 (by decide), across⟩

/-- A reference names the same cell alone as in the range of its one cell, whose key is the key of
its position; its store key keeps the row digits as written, and is that key exactly when the row
is written as the decimal numeral of its number. -/
theorem reference_keys_agree_iff {ref : String} {t : RefText} {p : Ref}
    (split : RefText.parse? ref = some t) (parsed : Ref.parse? ref = some p) :
    Span.keys ⟨ref, ref⟩ = [p.key] ∧ (canonicalKey ref = p.key ↔ t.digits = toString (p.row + 1)) := by
  constructor
  · rw [Span.keys, Span.refs_of_parse parsed parsed]
    simp
  · obtain ⟨L, D, letters, -, alpha, -, rfl⟩ := refText_parse_parts split
    have upper : ∀ c ∈ L.map Char.toUpper, c.isUpper := by
      simp only [List.mem_map]
      rintro _ ⟨c, mem, rfl⟩
      exact char_isUpper_toUpper (alpha c mem)
    -- the column of the position is written back as the letters upper-cased
    have column : p.col = Column.ofUpper (L.map Char.toUpper) := by
      simp only [Ref.parse?, split, Option.map_some, Option.some.injEq, string_toUpper_ofList,
        String.toList_ofList] at parsed
      rw [← parsed]
    rw [canonicalKey, split]
    dsimp only
    rw [Ref.key, column, Column.letters_ofUpper (by simpa using letters) upper, string_toUpper_ofList]
    exact String.append_right_inj _

theorem leading_zero_row_keys :
    Span.keys ⟨"a01", "a01"⟩ = ["A1"] ∧ canonicalKey "a01" = "A01" ∧ canonicalKey "a01" ≠ "A1" := by
  have agree := @reference_keys_agree_iff "a01" ⟨"a", "01"⟩ ⟨0, 0⟩ (by decide +kernel) (by decide +kernel)
  have key : Ref.key ⟨0, 0⟩ = "A1" := by decide +kernel
  rw [key] at agree
  exact ⟨agree.1, by decide +kernel, fun same => absurd (agree.2.1 same) (by decide +kernel)⟩

end Spreadsheet
