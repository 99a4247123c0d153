import Spreadsheet.Proofs.ShortestDecimal
import Spreadsheet.Functions.Math
import Spreadsheet.Eval.Operators
import Mathlib.Data.Rat.Floor

/-!
`ROUND` on finite doubles.

`ROUND(x, d)` with `d ≥ 0` leaves `x` alone when `|x| ≥ 10^15`. Below that it takes the shortest
decimal of `x`, scales it by `10^d`, rounds half up to a natural `K` (`roundHalfUp`) and reads
`±K · 10^-d` back as the nearest double; it fails, and the call shows `#NUM!`, exactly when `K`
has more than 28 digits or the unit `10^-d` is beyond the exponent range of the decimal arithmetic
(`roundHalfAway_eq`). So `ROUND` is odd in `x`, `ROUND(x, 0)` is a whole number below `10^15`, and a
double whose shortest decimal has at most `d` places is kept, as long as `K` fits
(`round_on_shortest_decimal`). Doubles from `10^15` up to `2^52` still have a fraction, `ROUND(1, 28)`
needs 29 digits, and `ROUND(0, 3000000)` asks for a unit past the exponent range
(`round_keeps_fraction_and_fails_past_limits`).
-/

set_option autoImplicit false

namespace Spreadsheet.Number

def roundHalfUp (x : ℚ) : Nat := ⌊x + 1 / 2⌋₊

theorem roundHalfUp_natCast (n : Nat) : roundHalfUp n = n := by
  unfold roundHalfUp
  rw [Nat.floor_eq_iff (by positivity)]
  constructor <;> linarith

theorem roundHalfUp_mono {x y : ℚ} (h : x ≤ y) : roundHalfUp x ≤ roundHalfUp y :=
  Nat.floor_le_floor (by linarith)

theorem le_roundHalfUp {n : Nat} {x : ℚ} (h : (n : ℚ) ≤ x) : n ≤ roundHalfUp x := by
  simpa only [roundHalfUp_natCast] using roundHalfUp_mono h

theorem roundHalfUp_le {x : ℚ} (nonneg : 0 ≤ x) : (roundHalfUp x : ℚ) ≤ x + 1 / 2 :=
  Nat.floor_le (by linarith)

theorem roundHalfUp_eq_zero {x : ℚ} (small : x < 1 / 2) : roundHalfUp x = 0 := by
  unfold roundHalfUp
  rw [Nat.floor_eq_zero]
  linarith

theorem roundHalfUp_div (n : Nat) {m : Nat} (hm : 0 < m) :
    roundHalfUp ((n : ℚ) / m) = if 2 * (n % m) ≥ m then n / m + 1 else n / m := by
  have mPos : (0 : ℚ) < m := by exact_mod_cast hm
  have parts : (n : ℚ) / m = (n / m : Nat) + ((n % m : Nat) : ℚ) / m := by
    have whole : ((m * (n / m) + n % m : Nat) : ℚ) = n := by exact_mod_cast Nat.div_add_mod n m
    push_cast at whole
    field_simp
    linarith
  have below : ((n % m : Nat) : ℚ) / m < 1 := (div_lt_one mPos).2 (by exact_mod_cast Nat.mod_lt n hm)
  have nonneg : (0 : ℚ) ≤ ((n % m : Nat) : ℚ) / m := by positivity
  unfold roundHalfUp
  rw [parts, Nat.floor_eq_iff (by positivity)]
  split
  next up =>
    have half : (1 / 2 : ℚ) ≤ ((n % m : Nat) : ℚ) / m := by
      rw [le_div_iff₀ mPos]
      have : (m : ℚ) ≤ 2 * (n % m : Nat) := by exact_mod_cast up
      linarith
    push_cast
    constructor <;> linarith
  next down =>
    have half : ((n % m : Nat) : ℚ) / m < 1 / 2 := by
      rw [div_lt_iff₀ mPos]
      have : (2 * (n % m : Nat) : ℚ) < m := by exact_mod_cast not_le.1 down
      linarith
    constructor <;> linarith

theorem ten_zpow_natCast (n : Nat) : ((10 ^ n : Nat) : ℚ) = (10 : ℚ) ^ (n : Int) := by
  push_cast; rw [zpow_natCast]

theorem quantizeCoefficient_eq {p digits : Nat} (hp : 0 < p) (pos : 0 < digits) (e q : Int) :
    quantizeCoefficient p digits e q =
      if roundHalfUp (digits * 10 ^ (e - q)) < 10 ^ p then some (roundHalfUp (digits * 10 ^ (e - q)))
      else none := by
  unfold quantizeCoefficient
  simp only
  generalize e - q = shift
  obtain ⟨low, high⟩ := Decimal.decimal_bounds pos shift
  have ten : (1 : ℚ) < 10 := by norm_num
  split
  next wide =>
    -- the integer digits alone are more than `p`
    have big : ((10 ^ p : Nat) : ℚ) ≤ digits * 10 ^ shift := by
      rw [ten_zpow_natCast]
      exact le_trans (zpow_le_zpow_right₀ ten.le (by omega)) low
    rw [if_neg (not_lt.2 (le_roundHalfUp big))]
  next fits =>
    split
    next nonneg =>
      obtain ⟨k, rfl⟩ := Int.eq_ofNat_of_zero_le nonneg
      have exact : (digits : ℚ) * 10 ^ (k : Int) = ((digits * 10 ^ k : Nat) : ℚ) := by
        push_cast; rw [zpow_natCast]
      have small : ((digits * 10 ^ k : Nat) : ℚ) < ((10 ^ p : Nat) : ℚ) := by
        rw [← exact, ten_zpow_natCast]
        exact lt_of_lt_of_le high (zpow_le_zpow_right₀ ten.le (by omega))
      rw [exact, roundHalfUp_natCast, if_pos (by exact_mod_cast small), Int.toNat_natCast]
    next negative =>
      obtain ⟨s, rfl⟩ : ∃ s : Nat, shift = -(s : Int) := ⟨(-shift).toNat, by omega⟩
      have quotient : (digits : ℚ) * 10 ^ (-(s : Int)) = (digits : ℚ) / ((10 ^ s : Nat) : ℚ) := by
        rw [zpow_neg, zpow_natCast, div_eq_mul_inv]; push_cast; rfl
      simp only [neg_neg, Int.toNat_natCast]
      split
      next tiny =>
        -- below a tenth: it rounds to zero
        have below : (digits : ℚ) * 10 ^ (-(s : Int)) < 1 / 2 := by
          calc (digits : ℚ) * 10 ^ (-(s : Int)) < 10 ^ ((Decimal.digitCount digits : Int) + -(s : Int)) := high
            _ ≤ 10 ^ (-1 : Int) := zpow_le_zpow_right₀ ten.le (by omega)
            _ < 1 / 2 := by norm_num
        rw [roundHalfUp_eq_zero below, if_pos (by positivity)]
      next =>
        rw [quotient, roundHalfUp_div digits (by positivity)]
        generalize (if 2 * (digits % 10 ^ s) ≥ 10 ^ s then digits / 10 ^ s + 1 else digits / 10 ^ s) = k
        split
        next beyond => rw [if_neg (fun small => by have := (Decimal.digitCount_le_iff hp).2 small; omega)]
        next within => rw [if_pos ((Decimal.digitCount_le_iff hp).1 (by omega))]

theorem unitExp_standard (d : Nat) :
    unitExp .standard d = if 2000054 < d then .error .domain else .ok (max (-(d : Int)) (-1000026)) := by
  unfold unitExp
  have shift : DecimalLimits.standard.maxShift = 2000054 := rfl
  have tiny : DecimalLimits.standard.tinyExp = -1000026 := rfl
  have top : DecimalLimits.standard.maxExp = 999999 := rfl
  simp only [shift, tiny, top, Int.natAbs_natCast, gt_iff_lt]
  split
  · rfl
  · rw [if_neg (by omega)]

namespace Binary

def shortestValue (man : Nat) (exp : Int) : ℚ :=
  if man = 0 then 0 else (shortest man exp).value

theorem wide_of_large {v : ℚ} (low : 2 ^ (minExp - 1) ≤ v) {D : Nat} (hD : 1103 ≤ D) :
    10 ^ 28 ≤ roundHalfUp (v * 10 ^ D) := by
  have tiny : (10 : ℚ) ^ (-1075 : Int) ≤ 2 ^ (minExp - 1) := by
    rw [show minExp - 1 = -1075 by rfl, zpow_neg, zpow_neg]
    exact inv_anti₀ (by positivity) (zpow_le_zpow_left₀ (by norm_num) (by norm_num) (by norm_num))
  apply le_roundHalfUp
  calc (((10 ^ 28 : Nat)) : ℚ) = 10 ^ (-1075 : Int) * 10 ^ ((1103 : Nat) : Int) := by
        rw [← zpow_add₀ (by norm_num)]; norm_num
    _ ≤ 2 ^ (minExp - 1) * 10 ^ (D : Int) := by
        gcongr
        · norm_num
    _ ≤ v * 10 ^ D := by rw [zpow_natCast]; gcongr

end Binary

open Binary

theorem roundHalfAway_eq {x : Float} {neg : Bool} {man : Nat} {exp : Int}
    (h : ofFloat x = .finite neg man exp) (d : Nat) :
    Float.roundHalfAway x d =
      if roundHalfUp (shortestValue man exp * 10 ^ d) < 10 ^ 28 ∧ d ≤ 2000054 then
        .ok (Float.ofDecimal neg (roundHalfUp (shortestValue man exp * 10 ^ d)) (-d))
      else .error .domain := by
  unfold Float.roundHalfAway
  rw [unitExp_standard]
  split
  next far => rw [if_neg (by omega)]; rfl
  next near =>
    simp only [bind, Except.bind, h]
    split
    next zero =>
      simp only [beq_iff_eq] at zero
      simp only [shortestValue, zero, if_true, zero_mul, roundHalfUp_eq_zero (by norm_num : (0 : ℚ) < 1 / 2)]
      rw [if_pos ⟨by positivity, by omega⟩]
      rfl
    next nonzero =>
      simp only [beq_iff_eq] at nonzero
      obtain ⟨canonical, -⟩ := ofFloat_finite h
      have pos : 0 < man := Nat.pos_of_ne_zero nonzero
      have digitsPos := shortest_digits_pos canonical pos
      have low := ((shortest_rounds canonical pos).range canonical pos).1
      have precision : DecimalLimits.standard.precision = 28 := rfl
      rw [precision, quantizeCoefficient_eq (by norm_num) digitsPos]
      simp only [shortestValue, nonzero, if_false, and_iff_left (not_lt.1 near)]
      have scaled (D : Nat) : ((shortest man exp).digits : ℚ) * 10 ^ ((shortest man exp).exp - -(D : Int)) =
          (shortest man exp).value * 10 ^ D := by
        rw [Decimal.value, sub_neg_eq_add, zpow_add₀ (by norm_num), zpow_natCast, mul_assoc]
      by_cases within : d ≤ 1000026
      · -- the unit is `10^-d` itself
        rw [show max (-(d : Int)) (-1000026) = -(d : Int) by omega, scaled]
        generalize roundHalfUp ((shortest man exp).value * 10 ^ d) = k
        by_cases fits : k < 10 ^ 28
        · -- the adjusted exponent of a coefficient of at most 28 digits is within the limits
          have count := (Decimal.digitCount_le_iff (by norm_num : 0 < 28)).2 fits
          have least := Decimal.digitCount_pos k
          have top : DecimalLimits.standard.maxExp = 999999 := rfl
          have tiny : DecimalLimits.standard.tinyExp = -1000026 := rfl
          rw [if_pos fits, if_pos fits]
          simp only [top, tiny, beq_iff_eq]
          rw [if_neg]
          · rfl
          · split <;> simp <;> omega
        · rw [if_neg fits, if_neg fits]
          rfl
      · -- past the least exponent the unit is clamped, and both coefficients are too wide
        have clamped : max (-(d : Int)) (-1000026) = -((1000026 : Nat) : Int) := by omega
        rw [clamped, scaled, if_neg (not_lt.2 (wide_of_large low (by norm_num))),
          if_neg (not_lt.2 (wide_of_large low (by omega)))]
        rfl

namespace Binary

theorem round_not (neg : Bool) {num den : Nat} (hd : 0 < den) (shift : Int) :
    round (!neg) num den shift = -(round neg num den shift) := by
  unfold round
  split
  next m e parts => exact pack_not (roundParts_rounds hd parts).1
  next => exact infinity_not neg

theorem ofDecimal_not (neg : Bool) (K : Nat) (q : Int) :
    Float.ofDecimal (!neg) K q = -(Float.ofDecimal neg K q) := by
  unfold Float.ofDecimal
  dsimp only
  split
  · exact round_not neg one_pos 0
  split
  · exact infinity_not neg
  split
  · exact round_not neg one_pos 0
  split
  · exact round_not neg one_pos 0
  · exact round_not neg (by positivity) 0

theorem abs_neg_eq {x : Float} {neg : Bool} {man : Nat} {exp : Int} (h : ofFloat x = .finite neg man exp) :
    (-x).abs = x.abs := by
  rw [← pack_ofFloat (ofFloat_abs (ofFloat_neg h)), pack_ofFloat (ofFloat_abs h)]

def IsWhole (f : Float) : Prop :=
  ∃ neg man exp, ofFloat f = .finite neg man exp ∧ ∃ n : Nat, (man : ℚ) * 2 ^ exp = n

theorem roundsTo_whole {K m : Nat} {e : Int} (h : RoundsTo K m e) : ∃ n : Nat, (m : ℚ) * 2 ^ e = n := by
  rcases le_or_gt 0 e with nonneg | negative
  · obtain ⟨k, rfl⟩ := Int.eq_ofNat_of_zero_le nonneg
    exact ⟨m * 2 ^ k, by push_cast; rw [zpow_natCast]⟩
  obtain ⟨k, rfl⟩ : ∃ k : Nat, e = -(k : Int) := ⟨(-e).toNat, by omega⟩
  obtain ⟨low, high⟩ := h.bounds
  have scale : (0 : ℚ) < 2 ^ (-(k : Int)) := by positivity
  -- on the grid of `2^-k` the natural `K` is `K · 2^k` steps, within a half of `m`, so it is `m`
  have steps : (K : ℚ) = ((K * 2 ^ k : Nat) : ℚ) * 2 ^ (-(k : Int)) := by
    push_cast
    rw [mul_assoc, ← zpow_natCast, ← zpow_add₀ two_ne_zero, add_neg_cancel, zpow_zero, mul_one]
  rw [steps, mul_le_mul_iff_of_pos_right scale] at low high
  have below : ((m : ℚ) - if m = 2 ^ 52 ∧ minExp < -(k : Int) then 1 / 4 else 1 / 2) ≥ m - 1 / 2 := by
    split <;> linarith
  have lower : K * 2 ^ k < m + 1 := by exact_mod_cast (by linarith : ((K * 2 ^ k : Nat) : ℚ) < m + 1)
  have upper : m < K * 2 ^ k + 1 := by exact_mod_cast (by linarith : (m : ℚ) < (K * 2 ^ k : Nat) + 1)
  have same : K * 2 ^ k = m := by omega
  refine ⟨K, ?_⟩
  rw [← same, ← steps]

theorem IsNearest.whole {f : Float} {neg : Bool} {K : Nat} (h : IsNearest f ((if neg then -1 else 1) * K)) :
    IsWhole f := by
  obtain ⟨sign, man, exp, parts, -, -, rounds⟩ := h
  have size : |(if neg then -1 else 1) * (K : ℚ)| = K := by cases neg <;> simp
  rw [size] at rounds
  exact ⟨sign, man, exp, parts, roundsTo_whole rounds⟩

theorem value_lt_of_abs_lt {x : Float} {neg : Bool} {man : Nat} {exp : Int} (h : ofFloat x = .finite neg man exp)
    (below : x.abs < 1e15) : (man : ℚ) * 2 ^ exp < 10 ^ 15 := by
  rcases Nat.eq_zero_or_pos man with zero | pos
  · subst zero
    norm_num
  obtain ⟨small, -, -, -⟩ := ofFloat_canonical h
  have bound : ofFloat 1e15 = .finite false 8000000000000000 (-3) := rfl
  rcases (lt_iff_of_positive (ofFloat_abs h) bound pos (by norm_num)).1 below with lower | ⟨rfl, less⟩
  · calc (man : ℚ) * 2 ^ exp ≤ 2 ^ 53 * 2 ^ (-4 : Int) :=
          mul_le_mul (by exact_mod_cast small.le) (zpow_le_zpow_right₀ (by norm_num) (by omega))
            (by positivity) (by positivity)
      _ < 10 ^ 15 := by norm_num
  · calc (man : ℚ) * 2 ^ (-3 : Int) < 8000000000000000 * 2 ^ (-3 : Int) :=
          mul_lt_mul_of_pos_right (by exact_mod_cast less) (by positivity)
      _ = 10 ^ 15 := by norm_num

end Binary

end Spreadsheet.Number

namespace Spreadsheet.Functions

open Number Binary

theorem keepsValue_float {x : Float} (finite : x.isFinite = true) (d : Nat) :
    keepsValue (.float x) x d = !decide (x.abs < 1e15) := by
  have absNum : x.abs.isNaN = false := isNaN_of_isFinite (isFinite_abs finite)
  have bound : (1e15 : Float).isNaN = false := by decide
  unfold keepsValue Num.abs Num.ge Num.compare?
  simp only [finite, absNum, bound, Bool.not_true, Bool.false_or, Bool.or_false]
  by_cases below : x.abs < 1e15
  · simp [below]
  · simp only [below, decide_false, Bool.not_false, if_false]
    split <;> simp_all

theorem round_eq (x : Float) (d : Int) :
    round [.float x, .int d] =
      if keepsValue (.float x) x d then .ok (.float x)
      else match x.roundHalfAway d with
        | .ok f => .ok (.float f)
        | .error e => .error (.arith e) := by
  simp only [round, numArg, intArg, argAt, List.getD_cons_succ, List.getD_cons_zero, Value.toNum, Value.first,
    Num.trunc, Num.toFloat, liftArith, Value.ofNum, bind, Except.bind]
  split
  next => rfl
  next => cases x.roundHalfAway d <;> rfl

section Round

variable {x : Float} {neg : Bool} {man : Nat} {exp : Int}

theorem round_of_not_lt (finite : x.isFinite = true) (d : Nat) (large : ¬x.abs < 1e15) :
    round [.float x, .int d] = .ok (.float x) := by
  rw [round_eq, keepsValue_float finite, if_pos (by simp [large])]

theorem round_of_lt (h : ofFloat x = .finite neg man exp) (d : Nat) (small : x.abs < 1e15) :
    round [.float x, .int d] =
      if roundHalfUp (shortestValue man exp * 10 ^ d) < 10 ^ 28 ∧ d ≤ 2000054 then
        .ok (.float (Float.ofDecimal neg (roundHalfUp (shortestValue man exp * 10 ^ d)) (-d)))
      else .error (.arith .domain) := by
  have finite := (isFinite_iff x).2 ⟨neg, man, exp, h⟩
  rw [round_eq, keepsValue_float finite, if_neg (by simp [small]), roundHalfAway_eq h]
  by_cases inRange : roundHalfUp (shortestValue man exp * 10 ^ d) < 10 ^ 28 ∧ d ≤ 2000054
  · rw [if_pos inRange, if_pos inRange]
  · rw [if_neg inRange, if_neg inRange]

theorem round_isNearest_of_fits (h : ofFloat x = .finite neg man exp) (d : Nat) (small : x.abs < 1e15)
    (fits : roundHalfUp (shortestValue man exp * 10 ^ d) < 10 ^ 28) (near : d ≤ 2000054) :
    ∃ f, round [.float x, .int d] = .ok (.float f) ∧
      IsNearest f ((if neg then -1 else 1) * (roundHalfUp (shortestValue man exp * 10 ^ d) / 10 ^ d)) := by
  rw [round_of_lt h d small, if_pos ⟨fits, near⟩]
  generalize roundHalfUp (shortestValue man exp * 10 ^ d) = K at fits ⊢
  -- a coefficient below `10^28` and a unit of at most one stay far below the largest double
  have bound : (K : ℚ) * 10 ^ (-(d : Int)) < 2 ^ (1023 : Int) :=
    calc (K : ℚ) * 10 ^ (-(d : Int)) ≤ K :=
          mul_le_of_le_one_right (Nat.cast_nonneg K) (zpow_le_one_of_nonpos₀ (by norm_num) (by omega))
      _ < 10 ^ 28 := by exact_mod_cast fits
      _ < 2 ^ (1023 : Int) := by
          rw [zpow_ofNat]; exact_mod_cast (by decide +kernel : (10 : Nat) ^ 28 < 2 ^ 1023)
  have nearest := ofDecimal_isNearest neg K (-d) bound
  rw [zpow_neg, zpow_natCast, ← div_eq_mul_inv] at nearest
  exact ⟨_, rfl, nearest⟩

theorem round_neg_eq (h : ofFloat x = .finite neg man exp) (d : Nat) :
    round [.float (-x), .int d] = round [.float x, .int d] >>= Formula.UnOp.apply .neg := by
  have finite := (isFinite_iff x).2 ⟨neg, man, exp, h⟩
  have finiteNeg := (isFinite_iff (-x)).2 ⟨!neg, man, exp, ofFloat_neg h⟩
  by_cases small : x.abs < 1e15
  · rw [round_of_lt (ofFloat_neg h) d (by rwa [abs_neg_eq h]), round_of_lt h d small]
    split
    · rw [ofDecimal_not]; rfl
    · rfl
  · rw [round_of_not_lt finiteNeg d (by rwa [abs_neg_eq h]), round_of_not_lt finite d small]
    rfl

theorem round_zero_places_whole (h : ofFloat x = .finite neg man exp) (small : x.abs < 1e15) :
    ∃ f, round [.float x, .int 0] = .ok (.float f) ∧ IsWhole f := by
  have value := value_lt_of_abs_lt h small
  -- the shortest decimal is within half a unit of `man · 2^exp`, so below `2 · 10^15`
  have short : shortestValue man exp < 2 * 10 ^ 15 := by
    unfold shortestValue
    split
    next => norm_num
    next nonzero =>
      have canonical := ofFloat_canonical h
      have pos := Nat.pos_of_ne_zero nonzero
      have high := (shortest_rounds canonical pos).bounds.2
      have unit : (2 : ℚ) ^ exp ≤ man * 2 ^ exp :=
        le_mul_of_one_le_left (by positivity) (by exact_mod_cast pos)
      linarith
  have nonneg : 0 ≤ shortestValue man exp := by
    unfold shortestValue
    split
    next => rfl
    next => unfold Decimal.value; positivity
  have fits : roundHalfUp (shortestValue man exp * 10 ^ 0) < 10 ^ 28 := by
    rw [pow_zero, mul_one]
    have rounded := roundHalfUp_le nonneg
    have : (roundHalfUp (shortestValue man exp) : ℚ) < (10 ^ 28 : Nat) := by push_cast; linarith
    exact_mod_cast this
  obtain ⟨f, result, nearest⟩ := round_isNearest_of_fits h 0 small fits (by norm_num)
  rw [pow_zero, div_one] at nearest
  exact ⟨f, result, nearest.whole⟩

theorem round_keeps_short (h : ofFloat x = .finite neg man exp) (d : Nat)
    (exact : ∃ n : Nat, shortestValue man exp * 10 ^ d = n)
    (fits : ¬x.abs < 1e15 ∨ (roundHalfUp (shortestValue man exp * 10 ^ d) < 10 ^ 28 ∧ d ≤ 2000054)) :
    round [.float x, .int d] = .ok (.float x) := by
  have finite := (isFinite_iff x).2 ⟨neg, man, exp, h⟩
  by_cases small : x.abs < 1e15
  · have inRange := fits.resolve_left (not_not.2 small)
    obtain ⟨n, scaled⟩ := exact
    rw [round_of_lt h d small, if_pos inRange, scaled, roundHalfUp_natCast]
    have canonical := ofFloat_canonical h
    -- the decimal `n · 10^-d` is the shortest decimal itself
    have decimal : (n : ℚ) * 10 ^ (-(d : Int)) = shortestValue man exp := by
      rw [← scaled, zpow_neg, zpow_natCast, mul_assoc, mul_inv_cancel₀ (by positivity), mul_one]
    rcases Nat.eq_zero_or_pos man with zero | pos
    · subst zero
      have none : n = 0 := by
        have : (n : ℚ) = 0 := by rw [← scaled]; simp [shortestValue]
        exact_mod_cast this
      have least : exp = minExp := canonical.2.2.2.resolve_left (by norm_num)
      subst none least
      rw [← pack_ofFloat h]
      rfl
    · rw [← pack_ofFloat h, ofDecimal_of_roundsTo neg canonical pos]
      rw [decimal, shortestValue, if_neg pos.ne']
      exact shortest_rounds canonical pos
  · exact round_of_not_lt finite d small

/-- `ROUND(x, d)` for a finite double and `d ≥ 0`. From `10^15` up it is `x`. Below, with `K` the
magnitude of the shortest decimal of `x` scaled by `10^d` and rounded half up, it is the double
nearest to `±K / 10^d` when `K` has at most 28 digits and `d` is within the exponent range, and
`#NUM!` otherwise. It is odd, `ROUND(x, 0)` is whole below `10^15`, and `x` comes back when its
shortest decimal has at most `d` places and the rounding does not fail. -/
theorem round_on_shortest_decimal (h : ofFloat x = .finite neg man exp) (d : Nat) :
    let K := roundHalfUp (shortestValue man exp * 10 ^ d)
    (¬x.abs < 1e15 → round [.float x, .int d] = .ok (.float x)) ∧
    (x.abs < 1e15 → K < 10 ^ 28 → d ≤ 2000054 →
      ∃ f, round [.float x, .int d] = .ok (.float f) ∧ IsNearest f ((if neg then -1 else 1) * (K / 10 ^ d))) ∧
    (x.abs < 1e15 → ¬(K < 10 ^ 28 ∧ d ≤ 2000054) → round [.float x, .int d] = .error (.arith .domain)) ∧
    round [.float (-x), .int d] = round [.float x, .int d] >>= Formula.UnOp.apply .neg ∧
    (x.abs < 1e15 → ∃ f, round [.float x, .int 0] = .ok (.float f) ∧ IsWhole f) ∧
    ((∃ n : Nat, shortestValue man exp * 10 ^ d = n) → (¬x.abs < 1e15 ∨ (K < 10 ^ 28 ∧ d ≤ 2000054)) →
      round [.float x, .int d] = .ok (.float x)) := by
  intro K
  have finite := (isFinite_iff x).2 ⟨neg, man, exp, h⟩
  refine ⟨round_of_not_lt finite d, fun small fits near => round_isNearest_of_fits h d small fits near,
    fun small wide => ?_, round_neg_eq h d, round_zero_places_whole h, round_keeps_short h d⟩
  rw [round_of_lt h d small, if_neg wide]

theorem round_keeps_two_and_a_half :
    ofFloat 2.5 = .finite false 5629499534213120 (-51) ∧ round [.float 2.5, .int 1] = .ok (.float 2.5) := by
  have bits : ofFloat 2.5 = .finite false 5629499534213120 (-51) := rfl
  have digits : (shortest 5629499534213120 (-51)).digits = 25 ∧ (shortest 5629499534213120 (-51)).exp = -1 := by
    decide +kernel
  have short : shortestValue 5629499534213120 (-51) = 5 / 2 := by
    simp [shortestValue, Decimal.value, digits.1, digits.2]
    norm_num
  refine ⟨bits, (round_on_shortest_decimal bits 1).2.2.2.2.2 ⟨25, by rw [short]; norm_num⟩ (.inr ⟨?_, by norm_num⟩)⟩
  rw [short, show (5 / 2 : ℚ) * 10 ^ 1 = (25 : Nat) by norm_num, roundHalfUp_natCast]
  norm_num

/-- From `10^15` on `ROUND` keeps a double with a fraction, `ROUND(1, 28)` needs 29 digits, and a unit
`10^-d` past the exponent range fails even for zero. -/
theorem round_keeps_fraction_and_fails_past_limits :
    round [.float 1000000000000000.5, .int 0] = .ok (.float 1000000000000000.5) ∧
      ¬IsWhole 1000000000000000.5 ∧ round [.float 1.0, .int 28] = .error (.arith .domain) ∧
      round [.float 0.0, .int 3000000] = .error (.arith .domain) := by
  refine ⟨rfl, ?_, ?_, ?_⟩
  · rintro ⟨neg, man, exp, parts, n, value⟩
    have bits : ofFloat 1000000000000000.5 = .finite false 8000000000000004 (-3) := rfl
    obtain ⟨-, rfl, rfl⟩ := Binary.finite.inj (bits.symm.trans parts)
    have scaled : ((8000000000000004 : Nat) : ℚ) = ((8 * n : Nat) : ℚ) := by
      push_cast; rw [← value]; norm_num
    have := Nat.cast_injective scaled
    omega
  · have bits : ofFloat 1.0 = .finite false 4503599627370496 (-52) := rfl
    have digits : (shortest 4503599627370496 (-52)).digits = 1 ∧ (shortest 4503599627370496 (-52)).exp = 0 := by
      decide +kernel
    have short : shortestValue 4503599627370496 (-52) = 1 := by
      simp [shortestValue, Decimal.value, digits.1, digits.2]
    show round [.float 1.0, .int ((28 : Nat) : Int)] = _
    rw [round_of_lt bits 28 (by decide), if_neg]
    rw [short, one_mul, show ((10 : ℚ) ^ 28) = ((10 ^ 28 : Nat) : ℚ) by push_cast; rfl, roundHalfUp_natCast]
    exact fun fits => lt_irrefl _ fits.1
  · have bits : ofFloat 0.0 = .finite false 0 minExp := rfl
    show round [.float 0.0, .int ((3000000 : Nat) : Int)] = _
    rw [round_of_lt bits 3000000 (by decide), if_neg (fun inRange => by omega)]

end Round

end Spreadsheet.Functions
