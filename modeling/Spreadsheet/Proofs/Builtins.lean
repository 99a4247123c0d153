import Spreadsheet.Functions.Catalog

/-!
What the built-in functions return.

A scalar is a single cell value: blank, a truth value, a number or a text. A value is flat when
every cell of it is a scalar, however its ranges nest. Every eager built-in function, given flat
arguments, succeeds only with a flat value: all but the lookups build a scalar, and `VLOOKUP`,
`HLOOKUP` and `INDEX` return a cell of their table argument. No function builds a dictionary or a
date value.
-/

set_option autoImplicit false

namespace Spreadsheet

namespace Value

def isScalar : Value → Bool
  | .null | .bool _ | .int _ | .float _ | .str _ => true
  | _ => false

@[simp] theorem isScalar_null : null.isScalar := rfl
@[simp] theorem isScalar_bool (b : Bool) : (bool b).isScalar := rfl
@[simp] theorem isScalar_int (i : Int) : (int i).isScalar := rfl
@[simp] theorem isScalar_float (f : Float) : (float f).isScalar := rfl
@[simp] theorem isScalar_str (s : String) : (str s).isScalar := rfl
@[simp] theorem isScalar_ofNum (n : Num) : (ofNum n).isScalar := by cases n <;> rfl

@[simp] theorem isScalar_elim_ofNum (o : Option Num) (v : Value) :
    (o.elim v ofNum).isScalar = (o.isSome || v.isScalar) := by
  cases o <;> simp

def Flat (v : Value) : Prop := ∀ x ∈ flatAll [v], x.isScalar

theorem flatAll_cons (v : Value) (rest : List Value) :
    flatAll (v :: rest) = flatAll [v] ++ flatAll rest := by
  cases v <;> simp [flatAll]

theorem mem_flatAll {x : Value} {vs : List Value} : x ∈ flatAll vs ↔ ∃ v ∈ vs, x ∈ flatAll [v] := by
  induction vs with
  | nil => simp [flatAll]
  | cons v rest ih =>
    rw [flatAll_cons, List.mem_append, ih]
    simp

theorem flat_of_isScalar {v : Value} (scalar : v.isScalar) : v.Flat := by
  cases v <;> simp_all [Flat, flatAll, isScalar]

@[simp] theorem flat_null : null.Flat := flat_of_isScalar rfl

@[simp] theorem flat_list {items : List Value} : (list items).Flat ↔ ∀ v ∈ items, v.Flat := by
  simp only [Flat, flatAll, List.append_nil]
  constructor
  · intro all v mem x inner
    exact all x (mem_flatAll.2 ⟨v, mem, inner⟩)
  · intro all x mem
    obtain ⟨v, mem, inner⟩ := mem_flatAll.1 mem
    exact all v mem x inner

end Value

@[simp] theorem ErrorCode.isScalar_toValue (e : ErrorCode) : e.toValue.isScalar := rfl

@[simp] theorem ErrorCode.flat_toValue (e : ErrorCode) : e.toValue.Flat :=
  Value.flat_of_isScalar (isScalar_toValue e)

def Ensures {ε α : Type} (P : α → Prop) (r : Except ε α) : Prop := ∀ a, r = .ok a → P a

section Ensures

variable {ε α β : Type} {P Q : α → Prop} {a : α} {x : Except ε β}

@[simp] theorem ensures_ok : Ensures P (.ok a : Except ε α) ↔ P a := by
  simp [Ensures]

@[simp] theorem ensures_pure : Ensures P (pure a : Except ε α) ↔ P a := ensures_ok

@[simp] theorem ensures_error {e : ε} : Ensures P (.error e : Except ε α) := by
  simp [Ensures]

@[simp] theorem ensures_throw {e : ε} : Ensures P (throw e : Except ε α) := ensures_error

@[simp] theorem ensures_bind {f : β → Except ε α} :
    Ensures P (x >>= f) ↔ ∀ b, x = .ok b → Ensures P (f b) := by
  cases x with
  | error e => simp [bind, Except.bind]
  | ok b => simp [bind, Except.bind]

@[simp] theorem ensures_map {g : β → α} : Ensures P (g <$> x) ↔ ∀ b, x = .ok b → P (g b) := by
  cases x with
  | error e => simp [Functor.map, Except.map]
  | ok b => simp [Functor.map, Except.map]

@[simp] theorem ensures_except_map {g : β → α} :
    Ensures P (x.map g) ↔ ∀ b, x = .ok b → P (g b) := by
  cases x with
  | error e => simp [Except.map]
  | ok b => simp [Except.map]

@[simp] theorem ensures_ite {c : Prop} [Decidable c] {r r' : Except ε α} :
    Ensures P (if c then r else r') ↔ (c → Ensures P r) ∧ (¬ c → Ensures P r') := by
  by_cases h : c <;> simp [h]

theorem Ensures.mono {r : Except ε α} (ensures : Ensures P r) (implies : ∀ a, P a → Q a) :
    Ensures Q r :=
  fun a ok => implies a (ensures a ok)

end Ensures

@[simp] theorem ensures_failWith {P : Value → Prop} {c : ErrorCode} :
    Ensures P (Functions.failWith c) ↔ P c.toValue := ensures_ok

theorem Ensures.flat {r : Outcome} (scalar : Ensures (·.isScalar) r) : Ensures Value.Flat r :=
  scalar.mono fun _ => Value.flat_of_isScalar

namespace Functions

open Calendar

variable (args : List Value)

section Math

@[simp] theorem sum_scalar : Ensures (·.isScalar) (sum args) := by simp [sum]
@[simp] theorem product_scalar : Ensures (·.isScalar) (product args) := by simp [product]
@[simp] theorem abs_scalar : Ensures (·.isScalar) (abs args) := by simp [abs]
@[simp] theorem sqrt_scalar : Ensures (·.isScalar) (sqrt args) := by simp [sqrt]
@[simp] theorem power_scalar : Ensures (·.isScalar) (power args) := by simp [power]
@[simp] theorem mod_scalar : Ensures (·.isScalar) (mod args) := by simp [mod]

@[simp] theorem int_scalar : Ensures (·.isScalar) (int args) := by
  simp only [int, ensures_bind]
  intro i _
  split <;> simp

@[simp] theorem trunc_scalar : Ensures (·.isScalar) (trunc args) := by simp [trunc]
@[simp] theorem round_scalar : Ensures (·.isScalar) (round args) := by simp [round]

@[simp] theorem roundAway_scalar (up : Bool) : Ensures (·.isScalar) (roundAway up args) := by
  simp [roundAway]

@[simp] theorem toMultiple_scalar (up : Bool) : Ensures (·.isScalar) (toMultiple up args) := by
  simp [toMultiple]

@[simp] theorem pi_scalar : Ensures (·.isScalar) (pi args) := by simp [pi]

@[simp] theorem unary_scalar (f : Float → Float) (canOverflow : Bool) :
    Ensures (·.isScalar) (unary f canOverflow args) := by
  simp [unary]

@[simp] theorem ln_scalar : Ensures (·.isScalar) (ln args) := by simp [ln]
@[simp] theorem log_scalar : Ensures (·.isScalar) (log args) := by simp [log]
@[simp] theorem log10_scalar : Ensures (·.isScalar) (log10 args) := by simp [log10]
@[simp] theorem sign_scalar : Ensures (·.isScalar) (sign args) := by simp [sign]
@[simp] theorem divide_scalar : Ensures (·.isScalar) (divide args) := by simp [divide]
@[simp] theorem difference_scalar : Ensures (·.isScalar) (difference args) := by simp [difference]

end Math

section Statistics

theorem mean_scalar (ns : List Num) : Ensures (·.isScalar) (mean ns) := by simp [mean]

theorem quantileOf_scalar (ns : List Num) (q : Float) : Ensures (·.isScalar) (quantileOf ns q) := by
  simp only [quantileOf, ensures_bind]
  intro xs _
  split <;> simp

theorem nthSorted_scalar (sorted : List Num) : Ensures (·.isScalar) (nthSorted sorted args) := by
  simp [nthSorted]

@[simp] theorem average_scalar : Ensures (·.isScalar) (average args) := by
  unfold average
  split
  · simp
  · exact mean_scalar _

@[simp] theorem count_scalar : Ensures (·.isScalar) (count args) := by simp [count]

@[simp] theorem countNonBlank_scalar : Ensures (·.isScalar) (countNonBlank args) := by
  simp [countNonBlank]

@[simp] theorem countBlank_scalar : Ensures (·.isScalar) (countBlank args) := by simp [countBlank]
@[simp] theorem max_scalar : Ensures (·.isScalar) (Functions.max args) := by simp [Functions.max]
@[simp] theorem min_scalar : Ensures (·.isScalar) (Functions.min args) := by simp [Functions.min]

@[simp] theorem median_scalar : Ensures (·.isScalar) (median args) := by
  unfold median
  split
  · simp
  · exact quantileOf_scalar _ _

@[simp] theorem mode_scalar : Ensures (·.isScalar) (mode args) := by
  unfold mode
  split <;> simp

@[simp] theorem dispersion_scalar (root sample : Bool) :
    Ensures (·.isScalar) (dispersion root sample args) := by
  simp only [dispersion, ensures_bind, ensures_ite]
  refine ⟨fun _ => by simp, fun _ => ⟨fun _ => by simp, fun _ xs _ => ?_⟩⟩
  split <;> simp

@[simp] theorem large_scalar : Ensures (·.isScalar) (large args) := nthSorted_scalar _ _
@[simp] theorem small_scalar : Ensures (·.isScalar) (small args) := nthSorted_scalar _ _

@[simp] theorem rank_scalar : Ensures (·.isScalar) (rank args) := by
  simp only [rank]
  split <;> simp

@[simp] theorem percentile_scalar : Ensures (·.isScalar) (percentile args) := by
  simp only [percentile, ensures_bind, ensures_ite]
  exact ⟨fun _ => by simp, fun _ => ⟨fun _ => by simp, fun _ p _ => quantileOf_scalar _ p⟩⟩

@[simp] theorem sumProduct_scalar : Ensures (·.isScalar) (sumProduct args) := by
  unfold sumProduct
  split <;> simp

@[simp] theorem sumIf_scalar : Ensures (·.isScalar) (sumIf args) := by simp [sumIf]
@[simp] theorem countIf_scalar : Ensures (·.isScalar) (countIf args) := by simp [countIf]

@[simp] theorem averageIf_scalar : Ensures (·.isScalar) (averageIf args) := by
  unfold averageIf
  split
  · simp
  · exact mean_scalar _

end Statistics

section Text

@[simp] theorem concat_scalar : Ensures (·.isScalar) (concat args) := by simp [concat]
@[simp] theorem len_scalar : Ensures (·.isScalar) (len args) := by simp [len]
@[simp] theorem upper_scalar : Ensures (·.isScalar) (upper args) := by simp [upper]
@[simp] theorem lower_scalar : Ensures (·.isScalar) (lower args) := by simp [lower]
@[simp] theorem proper_scalar : Ensures (·.isScalar) (proper args) := by simp [proper]
@[simp] theorem trim_scalar : Ensures (·.isScalar) (trim args) := by simp [trim]

@[simp] theorem left_scalar : Ensures (·.isScalar) (left args) := by
  simp only [left, ensures_bind]
  rintro (_ | n) _ <;> simp

@[simp] theorem right_scalar : Ensures (·.isScalar) (right args) := by
  simp only [right, ensures_bind]
  rintro (_ | n) _ <;> simp

@[simp] theorem mid_scalar : Ensures (·.isScalar) (mid args) := by simp [mid]

@[simp] theorem substitute_scalar : Ensures (·.isScalar) (substitute args) := by
  simp only [substitute]
  split
  · simp
  · -- all occurrences, or the one of the given instance
    split
    · simp
    · simp
    · simp only [ensures_bind]
      intro k _
      split <;> simp

@[simp] theorem replace_scalar : Ensures (·.isScalar) (replace args) := by simp [replace]
@[simp] theorem rept_scalar : Ensures (·.isScalar) (rept args) := by simp [rept]
@[simp] theorem exact_scalar : Ensures (·.isScalar) (exact args) := by simp [exact]

@[simp] theorem search_scalar (foldCase : Bool) : Ensures (·.isScalar) (search foldCase args) := by
  unfold search
  -- the case folding, then the start position
  split <;> split <;> simp
  -- the needle is found or not
  all_goals
    intros
    split <;> simp

@[simp] theorem text_scalar : Ensures (·.isScalar) (text args) := by
  simp only [text]
  split
  · simp
  · split <;> simp

@[simp] theorem value_scalar : Ensures (·.isScalar) (value args) := by
  unfold value
  split
  · simp
  · simp
  · split <;> simp
  · simp

@[simp] theorem char_scalar : Ensures (·.isScalar) (char args) := by simp [char]

@[simp] theorem code_scalar : Ensures (·.isScalar) (code args) := by
  unfold code
  split <;> simp

end Text

section Logic

@[simp] theorem allTrue_scalar : Ensures (·.isScalar) (allTrue args) := by simp [allTrue]
@[simp] theorem anyTrue_scalar : Ensures (·.isScalar) (anyTrue args) := by simp [anyTrue]
@[simp] theorem not_scalar : Ensures (·.isScalar) (Functions.not args) := by simp [Functions.not]
@[simp] theorem xor_scalar : Ensures (·.isScalar) (Functions.xor args) := by simp [Functions.xor]
@[simp] theorem isNumber_scalar : Ensures (·.isScalar) (isNumber args) := by simp [isNumber]
@[simp] theorem isText_scalar : Ensures (·.isScalar) (isText args) := by simp [isText]
@[simp] theorem isBlank_scalar : Ensures (·.isScalar) (isBlank args) := by simp [isBlank]
@[simp] theorem isError_scalar : Ensures (·.isScalar) (isError args) := by simp [isError]
@[simp] theorem isNA_scalar : Ensures (·.isScalar) (isNA args) := by simp [isNA]
@[simp] theorem isLogical_scalar : Ensures (·.isScalar) (isLogical args) := by simp [isLogical]

@[simp] theorem hasParity_scalar (odd : Bool) : Ensures (·.isScalar) (hasParity odd args) := by
  simp only [hasParity, ensures_bind]
  rintro (_ | p) _ <;> simp

end Logic

section Dates

@[simp] theorem today_scalar (now : DateTime) : Ensures (·.isScalar) (today now args) := by
  simp [today]

@[simp] theorem nowText_scalar (now : DateTime) : Ensures (·.isScalar) (nowText now args) := by
  simp [nowText]

@[simp] theorem date_scalar : Ensures (·.isScalar) (date args) := by
  simp only [date, ensures_bind]
  intro y _ m _ d _
  split
  · simp
  · split <;> simp

@[simp] theorem year_scalar : Ensures (·.isScalar) (year args) := by simp [year]
@[simp] theorem month_scalar : Ensures (·.isScalar) (month args) := by simp [month]
@[simp] theorem day_scalar : Ensures (·.isScalar) (day args) := by simp [day]
@[simp] theorem weekday_scalar : Ensures (·.isScalar) (weekday args) := by simp [weekday]

@[simp] theorem dateDif_scalar : Ensures (·.isScalar) (dateDif args) := by
  simp only [dateDif, ensures_bind]
  intro a _ b _
  split
  · simp
  · split <;> simp

@[simp] theorem days_scalar : Ensures (·.isScalar) (days args) := by simp [days]
@[simp] theorem endOfMonth_scalar : Ensures (·.isScalar) (endOfMonth args) := by simp [endOfMonth]

end Dates

section Lookup

@[simp] theorem matchPosition_scalar : Ensures (·.isScalar) (matchPosition args) := by
  simp only [matchPosition, ensures_bind]
  intro kind _
  split <;> simp

theorem getD_of_forall {α : Type} {P : α → Prop} {l : List α} {d : α} (all : ∀ x ∈ l, P x)
    (default : P d) (n : Nat) : P (l.getD n d) := by
  rw [List.getD_eq_getElem?_getD]
  cases found : l[n]? with
  | none => exact default
  | some x => exact all x (List.mem_of_getElem? found)

variable {args}

theorem argAt_flat (flat : ∀ v ∈ args, v.Flat) (i : Nat) : (argAt args i).Flat :=
  getD_of_forall flat Value.flat_null i

theorem rowsOf_flat {v : Value} (flat : v.Flat) : ∀ row ∈ rowsOf v, ∀ x ∈ row, x.Flat := by
  cases v with
  | list rows =>
    simp only [rowsOf, List.mem_map]
    rintro _ ⟨r, mem, rfl⟩
    have r_flat := Value.flat_list.1 flat r mem
    -- a row that is not a list is a row of one cell
    cases r
    case list cells => exact Value.flat_list.1 r_flat
    all_goals
      simp only [List.mem_singleton, forall_eq]
      exact r_flat
  | _ =>
    simp only [rowsOf, List.mem_singleton, forall_eq]
    exact flat

theorem transpose_flat {rows : List (List Value)} (flat : ∀ row ∈ rows, ∀ x ∈ row, x.Flat) :
    ∀ col ∈ transpose rows, ∀ x ∈ col, x.Flat := by
  simp only [transpose, List.mem_map, List.mem_range]
  rintro _ ⟨c, -, rfl⟩ x mem
  obtain ⟨r, row, rfl⟩ := List.mem_map.1 mem
  exact getD_of_forall (flat r row) Value.flat_null c

theorem tableLookup_flat {rows : List (List Value)} (flat : ∀ row ∈ rows, ∀ x ∈ row, x.Flat) :
    Ensures Value.Flat (tableLookup rows args) := by
  simp only [tableLookup, ensures_bind]
  intro index _
  split
  · simp
  · split
    · simp
    · simp only [ensures_ite, ensures_pure]
      refine ⟨fun _ => ErrorCode.flat_toValue _, fun _ => ?_⟩
      exact getD_of_forall (getD_of_forall flat (by simp) _) Value.flat_null _

theorem vlookup_flat (flat : ∀ v ∈ args, v.Flat) : Ensures Value.Flat (vlookup args) :=
  tableLookup_flat (rowsOf_flat (argAt_flat flat 1))

theorem hlookup_flat (flat : ∀ v ∈ args, v.Flat) : Ensures Value.Flat (hlookup args) :=
  tableLookup_flat (transpose_flat (rowsOf_flat (argAt_flat flat 1)))

theorem index_flat (flat : ∀ v ∈ args, v.Flat) : Ensures Value.Flat (index args) := by
  simp only [index, ensures_bind]
  intro r _ c _
  simp only [ensures_ite, ensures_pure]
  refine ⟨fun _ => ErrorCode.flat_toValue _, fun _ => ⟨fun _ => ErrorCode.flat_toValue _, fun _ => ?_⟩⟩
  exact getD_of_forall (getD_of_forall (rowsOf_flat (argAt_flat flat 0)) (by simp) _) Value.flat_null _

end Lookup

theorem eager_flat {now : DateTime} {name : String} {run : List Value → Outcome}
    (found : eager? now name = some run) (flat : ∀ v ∈ args, v.Flat) : Ensures Value.Flat (run args) := by
  unfold eager? at found
  split at found <;> cases found
  -- the lookups return a cell of their table, and every other function builds a scalar
  all_goals simp [Ensures.flat, vlookup_flat flat, hlookup_flat flat, index_flat flat]

end Functions

end Spreadsheet
