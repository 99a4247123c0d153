import Spreadsheet.Proofs.Builtins
import Spreadsheet.Eval.Operators

/-!
One-cell ranges as arguments of the built-in functions.

A range of one cell evaluates to one row of one cell, `[[v]]`. The coercions read it as they read
`v`: its first scalar, its number, its text, its truth and its scalars are those of `v`. Every
eager built-in function reads its arguments through them except at a few positions, which
`readsRaw` lists with the values that tell the two apart there. At every other position a function
returns the same outcome for `[[v]]` as for `v`.
-/

set_option autoImplicit false

namespace Spreadsheet

namespace Value

abbrev oneCell (v : Value) : Value := .list [.list [v]]

variable (v : Value)

@[simp] theorem first_oneCell : (oneCell v).first = v.first := by
  simp [first]

@[simp] theorem toNum_oneCell : (oneCell v).toNum = v.toNum := by
  simp only [toNum, first_oneCell]

@[simp] theorem isTruthy_oneCell : (oneCell v).isTruthy = v.isTruthy := by
  simp only [isTruthy, first_oneCell]

@[simp] theorem flatAll_oneCell (rest : List Value) : flatAll (oneCell v :: rest) = flatAll (v :: rest) := by
  rw [flatAll_cons, flatAll_cons v]
  simp [oneCell, flatAll]

@[simp] theorem isError_oneCell : (oneCell v).isError = false := rfl

@[simp] theorem isNotAvailable_oneCell : (oneCell v).isNotAvailable = false := rfl

@[simp] theorem toText_oneCell : (oneCell v).toText = v.toText := by
  cases v
  case list items => simp [toText, flatAll]
  all_goals simp [toText, flatAll, toText.scalarText]

end Value

namespace Functions

open Value

variable (args : List Value) (i : Nat)

theorem argAt_modify (j : Nat) (d : Value) :
    argAt (args.modify i oneCell) j d = argAt args j d ∨
      argAt (args.modify i oneCell) j d = (argAt args j d).oneCell := by
  simp only [argAt, List.getD_eq_getElem?_getD, List.getElem?_modify]
  cases args[j]? with
  | none => simp
  | some a => by_cases same : i = j <;> simp [same]

@[simp] theorem toNum_argAt_modify (j : Nat) (d : Value) :
    (argAt (args.modify i oneCell) j d).toNum = (argAt args j d).toNum := by
  rcases argAt_modify args i j d with h | h <;> simp [h]

@[simp] theorem toText_argAt_modify (j : Nat) (d : Value) :
    (argAt (args.modify i oneCell) j d).toText = (argAt args j d).toText := by
  rcases argAt_modify args i j d with h | h <;> simp [h]

@[simp] theorem first_argAt_modify (j : Nat) (d : Value) :
    (argAt (args.modify i oneCell) j d).first = (argAt args j d).first := by
  rcases argAt_modify args i j d with h | h <;> simp [h]

@[simp] theorem isTruthy_argAt_modify (j : Nat) (d : Value) :
    (argAt (args.modify i oneCell) j d).isTruthy = (argAt args j d).isTruthy := by
  rcases argAt_modify args i j d with h | h <;> simp [h]

@[simp] theorem flatAll_argAt_modify (j : Nat) (d : Value) :
    flatAll [argAt (args.modify i oneCell) j d] = flatAll [argAt args j d] := by
  rcases argAt_modify args i j d with h | h <;> simp [h]

@[simp] theorem flatAll_modify : ∀ (args : List Value) (i : Nat), flatAll (args.modify i oneCell) = flatAll args
  | [], _ => by simp
  | v :: rest, 0 => by simp [List.modify, List.modifyHead]
  | v :: rest, i + 1 => by
    rw [List.modify_succ_cons, flatAll_cons, flatAll_modify rest i, ← flatAll_cons]

@[simp] theorem numArg_modify (j : Nat) : numArg (args.modify i oneCell) j = numArg args j := by
  simp [numArg]

@[simp] theorem textArg_modify (j : Nat) : textArg (args.modify i oneCell) j = textArg args j := by
  simp [textArg]

@[simp] theorem intArg_modify (j : Nat) (d : Value) : intArg (args.modify i oneCell) j d = intArg args j d := by
  simp [intArg]

@[simp] theorem flatNums_modify : flatNums (args.modify i oneCell) = flatNums args := by
  simp [flatNums]

@[simp] theorem flatNums_argAt_modify (j : Nat) (d : Value) :
    flatNums [argAt (args.modify i oneCell) j d] = flatNums [argAt args j d] := by
  simp [flatNums]

@[simp] theorem nums_modify : nums (args.modify i oneCell) = nums args := by
  simp [nums]

@[simp] theorem numsOf_argAt_modify (j : Nat) (d : Value) :
    numsOf (argAt (args.modify i oneCell) j d) = numsOf (argAt args j d) := by
  simp [numsOf]

@[simp] theorem floatArg_modify (j : Nat) : floatArg (args.modify i oneCell) j = floatArg args j := by
  simp [floatArg]

@[simp] theorem scaleArg_modify (j : Nat) : scaleArg (args.modify i oneCell) j = scaleArg args j := by
  simp [scaleArg]

@[simp] theorem countArg_modify (j : Nat) : countArg (args.modify i oneCell) j = countArg args j := by
  simp [countArg]

@[simp] theorem single_modify : single (args.modify i oneCell) = single args := by
  simp [single]

@[simp] theorem dateArg_modify (j : Nat) : dateArg (args.modify i oneCell) j = dateArg args j := by
  simp [dateArg, toDate]

theorem productColumn_oneCell (v : Value) : productColumn (oneCell v) = productColumn v := by
  cases v
  case list items => simp [productColumn, flatAll]
  all_goals simp [productColumn, flatAll]

theorem map_modify_of_eq {β : Type} {g : Value → β} (same : ∀ v, g (oneCell v) = g v) :
    ∀ (args : List Value) (i : Nat), (args.modify i oneCell).map g = args.map g
  | [], _ => by simp
  | v :: rest, 0 => by simp [List.modify, List.modifyHead, same]
  | v :: rest, i + 1 => by rw [List.modify_succ_cons, List.map_cons, map_modify_of_eq same rest i, List.map_cons]

theorem argAt_modify_eq (j : Nat) (d : Value) :
    argAt (args.modify i oneCell) j d = if j = i ∧ j < args.length then (argAt args j d).oneCell else argAt args j d := by
  simp only [argAt, List.getD_eq_getElem?_getD, List.getElem?_modify]
  by_cases within : j < args.length
  · rw [List.getElem?_eq_getElem within]
    by_cases same : j = i
    · subst same
      simp [within]
    · simp [same, Ne.symm same]
  · rw [List.getElem?_eq_none (by omega)]
    simp [within]

variable {args i}

@[simp] theorem sum_oneCell : sum (args.modify i oneCell) = sum args := by simp [sum]
@[simp] theorem product_oneCell : product (args.modify i oneCell) = product args := by simp [product]
@[simp] theorem abs_oneCell : abs (args.modify i oneCell) = abs args := by simp [abs]
@[simp] theorem sqrt_oneCell : sqrt (args.modify i oneCell) = sqrt args := by simp [sqrt]
@[simp] theorem power_oneCell : power (args.modify i oneCell) = power args := by simp [power]
@[simp] theorem mod_oneCell : mod (args.modify i oneCell) = mod args := by simp [mod]
@[simp] theorem int_oneCell : int (args.modify i oneCell) = int args := by simp [int]
@[simp] theorem trunc_oneCell : trunc (args.modify i oneCell) = trunc args := by simp [trunc]
@[simp] theorem round_oneCell : round (args.modify i oneCell) = round args := by simp [round]
@[simp] theorem roundAway_oneCell (up : Bool) : roundAway up (args.modify i oneCell) = roundAway up args := by
  simp [roundAway, numArg, scaleArg, intArg]
@[simp] theorem toMultiple_oneCell (up : Bool) : toMultiple up (args.modify i oneCell) = toMultiple up args := by
  simp only [toMultiple, numArg_modify]
@[simp] theorem pi_oneCell : pi (args.modify i oneCell) = pi args := rfl
@[simp] theorem unary_oneCell (f : Float → Float) (b : Bool) : unary f b (args.modify i oneCell) = unary f b args := by
  simp [unary, numArg]
@[simp] theorem ln_oneCell : ln (args.modify i oneCell) = ln args := by simp [ln]
@[simp] theorem log10_oneCell : log10 (args.modify i oneCell) = log10 args := by simp [log10]
@[simp] theorem sign_oneCell : sign (args.modify i oneCell) = sign args := by rw [sign, sign, numArg_modify]
@[simp] theorem divide_oneCell : divide (args.modify i oneCell) = divide args := by simp [divide]
@[simp] theorem difference_oneCell : difference (args.modify i oneCell) = difference args := by simp [difference]
@[simp] theorem average_oneCell : average (args.modify i oneCell) = average args := by simp [average]
@[simp] theorem count_oneCell : count (args.modify i oneCell) = count args := by simp [count]
@[simp] theorem countNonBlank_oneCell : countNonBlank (args.modify i oneCell) = countNonBlank args := by simp [countNonBlank]
@[simp] theorem countBlank_oneCell : countBlank (args.modify i oneCell) = countBlank args := by simp [countBlank]
@[simp] theorem max_oneCell : Functions.max (args.modify i oneCell) = Functions.max args := by simp [Functions.max]
@[simp] theorem min_oneCell : Functions.min (args.modify i oneCell) = Functions.min args := by simp [Functions.min]
@[simp] theorem median_oneCell : median (args.modify i oneCell) = median args := by simp [median]
@[simp] theorem mode_oneCell : mode (args.modify i oneCell) = mode args := by simp [mode]
@[simp] theorem dispersion_oneCell (r s : Bool) : dispersion r s (args.modify i oneCell) = dispersion r s args := by
  simp only [dispersion, nums_modify]
@[simp] theorem nthSorted_oneCell (sorted : List Num) : nthSorted sorted (args.modify i oneCell) = nthSorted sorted args := by
  simp [nthSorted, intArg]
@[simp] theorem large_oneCell : large (args.modify i oneCell) = large args := by simp [large, nthSorted_oneCell]
@[simp] theorem small_oneCell : small (args.modify i oneCell) = small args := by simp [small, nthSorted_oneCell]
@[simp] theorem rank_oneCell : rank (args.modify i oneCell) = rank args := by simp only [rank, numsOf, numArg_modify, flatNums_argAt_modify]
@[simp] theorem percentile_oneCell : percentile (args.modify i oneCell) = percentile args := by
  unfold percentile numsOf
  rw [flatNums_argAt_modify, numArg_modify]
@[simp] theorem sumProduct_oneCell : sumProduct (args.modify i oneCell) = sumProduct args := by
  unfold sumProduct
  rw [map_modify_of_eq productColumn_oneCell]
@[simp] theorem concat_oneCell : concat (args.modify i oneCell) = concat args := by simp [concat]
@[simp] theorem len_oneCell : len (args.modify i oneCell) = len args := by simp [len]
@[simp] theorem upper_oneCell : upper (args.modify i oneCell) = upper args := by simp [upper]
@[simp] theorem lower_oneCell : lower (args.modify i oneCell) = lower args := by simp [lower]
@[simp] theorem proper_oneCell : proper (args.modify i oneCell) = proper args := by simp [proper]
@[simp] theorem trim_oneCell : trim (args.modify i oneCell) = trim args := by simp [trim]
@[simp] theorem left_oneCell : left (args.modify i oneCell) = left args := by simp [left]
@[simp] theorem right_oneCell : right (args.modify i oneCell) = right args := by simp [right]
@[simp] theorem mid_oneCell : mid (args.modify i oneCell) = mid args := by simp [mid]
@[simp] theorem replace_oneCell : replace (args.modify i oneCell) = replace args := by simp [replace]
@[simp] theorem rept_oneCell : rept (args.modify i oneCell) = rept args := by simp [rept]
@[simp] theorem exact_oneCell : exact (args.modify i oneCell) = exact args := by simp [exact]
@[simp] theorem char_oneCell : char (args.modify i oneCell) = char args := by simp [char]
@[simp] theorem code_oneCell : code (args.modify i oneCell) = code args := by simp [code]
@[simp] theorem allTrue_oneCell : allTrue (args.modify i oneCell) = allTrue args := by simp [allTrue]
@[simp] theorem anyTrue_oneCell : anyTrue (args.modify i oneCell) = anyTrue args := by simp [anyTrue]
@[simp] theorem not_oneCell : Functions.not (args.modify i oneCell) = Functions.not args := by simp [Functions.not]
@[simp] theorem xor_oneCell : Functions.xor (args.modify i oneCell) = Functions.xor args := by simp [Functions.xor]
@[simp] theorem isNumber_oneCell : isNumber (args.modify i oneCell) = isNumber args := by simp [isNumber]
@[simp] theorem isText_oneCell : isText (args.modify i oneCell) = isText args := by simp [isText]
@[simp] theorem isBlank_oneCell : isBlank (args.modify i oneCell) = isBlank args := by simp [isBlank]
@[simp] theorem isError_oneCell : isError (args.modify i oneCell) = isError args := by simp [isError]
@[simp] theorem isNA_oneCell : isNA (args.modify i oneCell) = isNA args := by simp [isNA]
@[simp] theorem isLogical_oneCell : isLogical (args.modify i oneCell) = isLogical args := by simp [isLogical]
@[simp] theorem hasParity_oneCell (odd : Bool) : hasParity odd (args.modify i oneCell) = hasParity odd args := by
  simp [hasParity, parity, single]
@[simp] theorem today_oneCell (now : Calendar.DateTime) : today now (args.modify i oneCell) = today now args := rfl
@[simp] theorem nowText_oneCell (now : Calendar.DateTime) : nowText now (args.modify i oneCell) = nowText now args := rfl
@[simp] theorem date_oneCell : date (args.modify i oneCell) = date args := by simp [date]
@[simp] theorem year_oneCell : year (args.modify i oneCell) = year args := by simp [year]
@[simp] theorem month_oneCell : month (args.modify i oneCell) = month args := by simp [month]
@[simp] theorem day_oneCell : day (args.modify i oneCell) = day args := by simp [day]
@[simp] theorem weekday_oneCell : weekday (args.modify i oneCell) = weekday args := by simp [weekday]
@[simp] theorem dateDif_oneCell : dateDif (args.modify i oneCell) = dateDif args := by simp [dateDif]
@[simp] theorem days_oneCell : days (args.modify i oneCell) = days args := by simp [days]
@[simp] theorem endOfMonth_oneCell : endOfMonth (args.modify i oneCell) = endOfMonth args := by
  simp [endOfMonth, dateArg, toDate, intArg]
@[simp] theorem matchPosition_oneCell : matchPosition (args.modify i oneCell) = matchPosition args := by
  simp [matchPosition, intArg]

/-- Whether the built-in function `name` reads its argument `i` as it is, so that it reads the
value `v` and a one-cell range of `v` differently: a number or numeric text that `TEXT` formats,
a number or text with a leading number that `VALUE` reads, a blank optional argument of `LOG`,
`FIND`, `SEARCH` and `SUBSTITUTE`, a text criterion, a list as a lookup table, and the error that
`IFERROR` or `IFNA` tests for. -/
def readsRaw : String → Nat → Value → Bool
  | "TEXT", 0, v => v.num?.isSome || (match v with | .str s => Number.looksNumeric s | _ => false)
  | "VALUE", 0, v => match v with
    | .int _ | .float _ => true
    | .str s => (Number.numberPrefix? s).isSome
    | _ => false
  | "LOG", 1, v | "FIND", 2, v | "SEARCH", 2, v | "SUBSTITUTE", 3, v => (v matches .null)
  | "SUMIF", 1, v | "COUNTIF", 1, v | "AVERAGEIF", 1, v => (v matches .str _)
  | "VLOOKUP", 1, v | "HLOOKUP", 1, v | "INDEX", 0, v => (v matches .list _)
  | "IFERROR", 0, v => v.isError
  | "IFNA", 0, v => v.isNotAvailable
  | _, _, _ => false

theorem log_oneCell (safe : readsRaw "LOG" i (args.getD i .null) = false) :
    log (args.modify i oneCell) = log args := by
  unfold log
  rw [numArg_modify, List.getElem?_modify]
  by_cases base : i = 1
  · subst base
    -- a one-cell range of the base is read as a number, so the base must not be blank
    cases found : args[1]? with
    | none => rfl
    | some b =>
      have present : args.getD 1 .null = b := by simp [List.getD_eq_getElem?_getD, found]
      rw [present] at safe
      cases b
      case null => cases safe
      all_goals simp
  · simp [base]

theorem substitute_oneCell (safe : readsRaw "SUBSTITUTE" i (args.getD i .null) = false) :
    substitute (args.modify i oneCell) = substitute args := by
  unfold substitute
  rw [textArg_modify, textArg_modify, textArg_modify, List.getElem?_modify]
  by_cases occurrence : i = 3
  · subst occurrence
    -- a one-cell range of the instance is read as a number, so the instance must not be blank
    cases found : args[3]? with
    | none => rfl
    | some b =>
      have present : args.getD 3 .null = b := by simp [List.getD_eq_getElem?_getD, found]
      rw [present] at safe
      cases b
      case null => cases safe
      all_goals simp
  · simp [occurrence]

theorem search_oneCell (foldCase : Bool)
    (safe : readsRaw (if foldCase then "SEARCH" else "FIND") i (args.getD i .null) = false) :
    search foldCase (args.modify i oneCell) = search foldCase args := by
  unfold search
  rw [textArg_modify, textArg_modify, List.getElem?_modify]
  by_cases start : i = 2
  · subst start
    -- a one-cell range of the start is read as a number, so the start must not be blank
    cases found : args[2]? with
    | none => rfl
    | some b =>
      have present : args.getD 2 .null = b := by simp [List.getD_eq_getElem?_getD, found]
      rw [present] at safe
      cases b
      case null => cases foldCase <;> cases safe
      all_goals simp
  · simp [start]

theorem text_oneCell (safe : readsRaw "TEXT" i (args.getD i .null) = false) :
    text (args.modify i oneCell) = text args := by
  unfold text
  rw [textArg_modify, argAt_modify_eq]
  by_cases hit : 0 = i ∧ 0 < args.length
  · -- a one-cell range is formatted as text, and so is the cell, being neither a number nor numeric
    rw [if_pos hit]
    obtain ⟨rfl, -⟩ := hit
    change readsRaw "TEXT" 0 (argAt args 0) = false at safe
    cases cell : argAt args 0
    case int | float => rw [cell] at safe; cases safe
    case str s =>
      rw [cell] at safe
      change Number.looksNumeric s = false at safe
      simp_all [Value.num?]
    all_goals simp [Value.num?]
  · rw [if_neg hit]

theorem value_oneCell (safe : readsRaw "VALUE" i (args.getD i .null) = false) :
    value (args.modify i oneCell) = value args := by
  unfold value
  rw [argAt_modify_eq]
  by_cases hit : 0 = i ∧ 0 < args.length
  · -- a one-cell range is no number, and neither is the cell
    rw [if_pos hit]
    obtain ⟨rfl, -⟩ := hit
    change readsRaw "VALUE" 0 (argAt args 0) = false at safe
    cases cell : argAt args 0
    case int | float => rw [cell] at safe; cases safe
    case str s =>
      rw [cell] at safe
      change (Number.numberPrefix? s).isSome = false at safe
      simp_all
    all_goals rfl
  · rw [if_neg hit]

theorem rowsOf_oneCell {v : Value} (not_list : (v matches .list _) = false) : rowsOf (oneCell v) = rowsOf v := by
  cases v <;> simp_all [rowsOf]

theorem accepts_compile_oneCell {v : Value} (not_text : (v matches .str _) = false) :
    (Criterion.compile (oneCell v)).accepts = (Criterion.compile v).accepts := by
  funext x
  cases v <;> simp_all [Criterion.compile, Criterion.accepts, Operands.equal, Operands.of]

@[simp] theorem conditionalPairs_modify : conditionalPairs (args.modify i oneCell) = conditionalPairs args := by
  simp [conditionalPairs]

theorem criterion_modify (safe : i = 1 → (args.getD 1 .null matches .str _) = false) :
    (Criterion.compile (argAt (args.modify i oneCell) 1)).accepts = (Criterion.compile (argAt args 1)).accepts := by
  rw [argAt_modify_eq]
  by_cases hit : 1 = i ∧ 1 < args.length
  · rw [if_pos hit]
    exact accepts_compile_oneCell (safe hit.1.symm)
  · rw [if_neg hit]

theorem selected_modify (safe : i = 1 → (args.getD 1 .null matches .str _) = false) :
    selected (args.modify i oneCell) = selected args := by
  simp only [selected, conditionalPairs_modify, criterion_modify safe]

theorem sumIf_oneCell (safe : readsRaw "SUMIF" i (args.getD i .null) = false) :
    sumIf (args.modify i oneCell) = sumIf args := by
  rw [sumIf, sumIf, selected_modify fun at_one => by subst at_one; exact safe]

theorem averageIf_oneCell (safe : readsRaw "AVERAGEIF" i (args.getD i .null) = false) :
    averageIf (args.modify i oneCell) = averageIf args := by
  rw [averageIf, averageIf, selected_modify fun at_one => by subst at_one; exact safe]

theorem countIf_oneCell (safe : readsRaw "COUNTIF" i (args.getD i .null) = false) :
    countIf (args.modify i oneCell) = countIf args := by
  have criterion := @criterion_modify args i fun at_one => by subst at_one; exact safe
  simp only [countIf, flatAll_argAt_modify, criterion]

@[simp] theorem tableLookup_modify (rows : List (List Value)) :
    tableLookup rows (args.modify i oneCell) = tableLookup rows args := by
  simp [tableLookup, intArg]

theorem rowsOf_modify (j : Nat) (safe : i = j → (args.getD j .null matches .list _) = false) :
    rowsOf (argAt (args.modify i oneCell) j) = rowsOf (argAt args j) := by
  rw [argAt_modify_eq]
  by_cases hit : j = i ∧ j < args.length
  · rw [if_pos hit]
    exact rowsOf_oneCell (safe hit.1.symm)
  · rw [if_neg hit]

theorem vlookup_oneCell (safe : readsRaw "VLOOKUP" i (args.getD i .null) = false) :
    vlookup (args.modify i oneCell) = vlookup args := by
  rw [vlookup, vlookup, tableLookup_modify,
    rowsOf_modify 1 fun at_one => by subst at_one; exact safe]

theorem hlookup_oneCell (safe : readsRaw "HLOOKUP" i (args.getD i .null) = false) :
    hlookup (args.modify i oneCell) = hlookup args := by
  rw [hlookup, hlookup, tableLookup_modify,
    rowsOf_modify 1 fun at_one => by subst at_one; exact safe]

theorem index_oneCell (safe : readsRaw "INDEX" i (args.getD i .null) = false) :
    index (args.modify i oneCell) = index args := by
  have table := @rowsOf_modify args i 0 fun at_zero => by subst at_zero; exact safe
  simp only [index, intArg_modify, List.length_modify, table]

theorem eager_oneCell {now : Calendar.DateTime} {name : String} {run : List Value → Outcome}
    (found : eager? now name = some run) (safe : readsRaw name i (args.getD i .null) = false) :
    run (args.modify i oneCell) = run args := by
  unfold eager? at found
  split at found <;> cases found
  all_goals simp_all [log_oneCell, substitute_oneCell, search_oneCell, text_oneCell, value_oneCell,
    sumIf_oneCell, countIf_oneCell, averageIf_oneCell, vlookup_oneCell, hlookup_oneCell, index_oneCell]

end Functions


namespace Operands

open Value

variable (a b : Value)

@[simp] theorem of_oneCell_left : of (oneCell a) b = of a b := by
  simp only [of, first_oneCell]

@[simp] theorem of_oneCell_right : of a (oneCell b) = of a b := by
  simp only [of, first_oneCell]

end Operands

namespace Formula

open Value

variable (a b : Value)

@[simp] theorem BinOp.apply_oneCell_left (op : BinOp) : op.apply (oneCell a) b = op.apply a b := by
  cases op <;> simp [BinOp.apply, powerValue]

@[simp] theorem BinOp.apply_oneCell_right (op : BinOp) : op.apply a (oneCell b) = op.apply a b := by
  cases op <;> simp [BinOp.apply, powerValue]

@[simp] theorem UnOp.apply_oneCell (op : UnOp) : op.apply (oneCell a) = op.apply a := by
  cases op <;> simp [UnOp.apply]

end Formula

end Spreadsheet
