import Spreadsheet.Proofs.BinaryRounding
import Spreadsheet.Number.Text

/-!
The shortest decimal of a double as an exact rational, and the way back.

`Binary.shortest` searches grids of one to seventeen significant digits for a point of the rounding
interval of a positive double. Each step of the search either finds one or moves to the next grid
(`search_within`, `search_skip`), and the grid of seventeen digits always has one, since its spacing is
below the width of the interval (`finds_seventeen`); so the decimal found rounds to the double
(`shortest_rounds`). `Float.ofDecimal` reads a decimal as the nearest double (`ofDecimal_isNearest`),
and reads the shortest decimal back as the double it came from (`ofDecimal_shortest`).
-/

set_option autoImplicit false

namespace Spreadsheet.Number

def ratioValue (p : Nat × Nat) : ℚ := p.1 / p.2

namespace Decimal

def value (d : Decimal) : ℚ := d.digits * 10 ^ d.exp

theorem natPow_toNat (b : ℚ) (k : Int) : b ^ k.toNat / b ^ (-k).toNat = b ^ k := by
  rcases le_or_gt 0 k with nonneg | neg
  · obtain ⟨j, rfl⟩ := Int.eq_ofNat_of_zero_le nonneg
    have zero : (-(j : Int)).toNat = 0 := by omega
    rw [zero, pow_zero, div_one, Int.toNat_natCast, zpow_natCast]
  · obtain ⟨j, rfl⟩ : ∃ j : Nat, k = -(j : Int) := ⟨(-k).toNat, by omega⟩
    have zero : (-(j : Int)).toNat = 0 := by omega
    rw [zero, neg_neg, Int.toNat_natCast, pow_zero, zpow_neg, zpow_natCast, one_div]

theorem ratio_den_pos (m : Nat) (e2 e10 : Int) : 0 < (ratio m e2 e10).2 := by
  unfold ratio; positivity

theorem ratio_value (m : Nat) (e2 e10 : Int) : ratioValue (ratio m e2 e10) = m * 2 ^ e2 * 10 ^ e10 := by
  unfold ratio ratioValue
  push_cast
  rw [← natPow_toNat 2 e2, ← natPow_toNat 10 e10]
  field_simp

theorem cmp_eq {a b : Nat × Nat} (ha : 0 < a.2) (hb : 0 < b.2) :
    cmp a b = compare (ratioValue a) (ratioValue b) := by
  have aPos : (0 : ℚ) < a.2 := by exact_mod_cast ha
  have bPos : (0 : ℚ) < b.2 := by exact_mod_cast hb
  have order (x y : Nat × Nat) (hx : (0 : ℚ) < x.2) (hy : (0 : ℚ) < y.2) :
      x.1 * y.2 < y.1 * x.2 ↔ ratioValue x < ratioValue y := by
    rw [ratioValue, ratioValue, div_lt_div_iff₀ hx hy]; exact_mod_cast Iff.rfl
  have eq : a.1 * b.2 = b.1 * a.2 ↔ ratioValue a = ratioValue b := by
    rw [ratioValue, ratioValue, div_eq_div_iff aPos.ne' bPos.ne']; exact_mod_cast Iff.rfl
  unfold cmp
  rcases lt_trichotomy (a.1 * b.2) (b.1 * a.2) with less | same | more
  · rw [(compare_lt_iff_lt).2 less, (compare_lt_iff_lt).2 ((order a b aPos bPos).1 less)]
  · rw [(compare_eq_iff_eq).2 same, (compare_eq_iff_eq).2 (eq.1 same)]
  · rw [(compare_gt_iff_gt).2 more, (compare_gt_iff_gt).2 ((order b a bPos aPos).1 more)]

theorem ten_pow_guess_le (L : Int) (hL : -2001 ≤ L) : (10 : ℚ) ^ (L * 1233 / 4096 - 3) ≤ 2 ^ (L - 1) := by
  have hg : L * 1233 / 4096 * 4096 ≤ L * 1233 := Int.ediv_mul_le _ (by norm_num)
  generalize L * 1233 / 4096 = g at hg ⊢
  have fine : (10 : ℚ) ^ 1233 ≤ 2 ^ 4096 := by exact_mod_cast (by decide +kernel : (10 : Nat) ^ 1233 ≤ 2 ^ 4096)
  have coarse : (2 : ℚ) ^ 4096 ≤ 10 ^ 1234 := by exact_mod_cast (by decide +kernel : (2 : Nat) ^ 4096 ≤ 10 ^ 1234)
  -- compare the 4096th powers
  rw [← pow_le_pow_iff_left₀ (by positivity) (by positivity) (by norm_num : (4096 : Nat) ≠ 0),
    ← zpow_natCast, ← zpow_natCast, ← zpow_mul, ← zpow_mul]
  push_cast
  calc (10 : ℚ) ^ ((g - 3) * 4096) ≤ 10 ^ (L * 1233 - 12288) :=
        zpow_le_zpow_right₀ (by norm_num) (by linarith)
    _ ≤ 2 ^ ((L - 1) * 4096) := by
      rcases le_or_gt 0 L with nonneg | neg
      · obtain ⟨n, rfl⟩ := Int.eq_ofNat_of_zero_le nonneg
        rw [show (n : Int) * 1233 - 12288 = ((1233 * n : Nat) : Int) - 12288 by push_cast; ring,
          show ((n : Int) - 1) * 4096 = ((4096 * n : Nat) : Int) - 4096 by push_cast; ring,
          zpow_sub₀ (by norm_num), zpow_sub₀ (by norm_num), zpow_natCast, zpow_natCast, pow_mul, pow_mul]
        have powers : ((10 : ℚ) ^ 1233) ^ n ≤ ((2 : ℚ) ^ 4096) ^ n := pow_le_pow_left₀ (by positivity) fine n
        have tail : (2 : ℚ) ^ (4096 : Int) ≤ 10 ^ (12288 : Int) := by
          rw [zpow_ofNat, zpow_ofNat]
          calc (2 : ℚ) ^ 4096 ≤ 10 ^ 4096 := pow_le_pow_left₀ (by norm_num) (by norm_num) _
            _ ≤ 10 ^ 12288 := pow_le_pow_right₀ (by norm_num) (by norm_num)
        calc ((10 : ℚ) ^ 1233) ^ n / 10 ^ (12288 : Int) ≤ ((2 : ℚ) ^ 4096) ^ n / 10 ^ (12288 : Int) := by gcongr
          _ ≤ ((2 : ℚ) ^ 4096) ^ n / 2 ^ (4096 : Int) := by gcongr
      · obtain ⟨n, rfl⟩ : ∃ n : Nat, L = -(n : Int) := ⟨(-L).toNat, by omega⟩
        have small : n ≤ 2001 := by omega
        rw [show -(n : Int) * 1233 - 12288 = -((1233 * n + 12288 : Nat) : Int) by push_cast; ring,
          show (-(n : Int) - 1) * 4096 = -((4096 * (n + 1) : Nat) : Int) by push_cast; ring,
          zpow_neg, zpow_neg, zpow_natCast, zpow_natCast]
        apply inv_anti₀ (by positivity)
        calc (2 : ℚ) ^ (4096 * (n + 1)) = ((2 : ℚ) ^ 4096) ^ (n + 1) := pow_mul _ _ _
          _ ≤ ((10 : ℚ) ^ 1234) ^ (n + 1) := pow_le_pow_left₀ (by positivity) coarse _
          _ = 10 ^ (1234 * (n + 1)) := (pow_mul _ _ _).symm
          _ ≤ 10 ^ (1233 * n + 12288) := pow_le_pow_right₀ (by norm_num) (by omega)

theorem floorLog10_steps (num den : Nat) :
    floorLog10 num den =
      let above := fun d : Int => cmp (ratio 1 0 d) (num, den) == .gt
      let down := fun d : Int => if above d then d - 1 else d
      let up := fun d : Int => if above (d + 1) then d else d + 1
      up (up (up (down (down (down (((num.log2 : Int) - (den.log2 : Int)) * 1233 / 4096)))))) := rfl

theorem corrected_guess_le {v : ℚ} {g : Int} (start : (10 : ℚ) ^ (g - 3) ≤ v) :
    let down := fun d : Int => if decide (v < 10 ^ d) = true then d - 1 else d
    let up := fun d : Int => if decide (v < 10 ^ (d + 1)) = true then d else d + 1
    (10 : ℚ) ^ up (up (up (down (down (down g))))) ≤ v := by
  intro down up
  -- stepping down keeps a power at most `v` and goes down by one from a power above it
  have stay {d : Int} (h : (10 : ℚ) ^ d ≤ v) : down d = d := by
    simp [down, not_lt.2 h]
  have drop {d : Int} (h : ¬(10 : ℚ) ^ d ≤ v) : down d = d - 1 := by
    simp [down, lt_of_not_ge h]
  have downs : (10 : ℚ) ^ down (down (down g)) ≤ v := by
    by_cases p0 : (10 : ℚ) ^ g ≤ v
    · simp only [stay p0]; exact p0
    simp only [drop p0]
    by_cases p1 : (10 : ℚ) ^ (g - 1) ≤ v
    · simp only [stay p1]; exact p1
    simp only [drop p1]
    by_cases p2 : (10 : ℚ) ^ (g - 1 - 1) ≤ v
    · simp only [stay p2]; exact p2
    simp only [drop p2]
    rw [show g - 1 - 1 - 1 = g - 3 by ring]
    exact start
  -- stepping up only to a power at most `v`
  have rise {d : Int} (h : (10 : ℚ) ^ d ≤ v) : (10 : ℚ) ^ up d ≤ v := by
    by_cases beyond : v < 10 ^ (d + 1)
    · simpa [up, beyond] using h
    · simpa [up, beyond] using not_lt.1 beyond
  exact rise (rise (rise downs))

theorem floorLog10_le {num den : Nat} (hn : 0 < num) (hd : 0 < den)
    (large : (2 : ℚ) ^ (-2000 : Int) ≤ num / den) : (10 : ℚ) ^ floorLog10 num den ≤ num / den := by
  obtain ⟨above, below⟩ := Binary.log2_bracket hn hd
  have range : -2001 ≤ (num.log2 : Int) - den.log2 := by
    have := (zpow_lt_zpow_iff_right₀ (by norm_num : (1 : ℚ) < 2)).1 (lt_of_le_of_lt large below)
    omega
  have start := le_trans (ten_pow_guess_le _ range) above
  have test (d : Int) : (cmp (ratio 1 0 d) (num, den) == .gt) = decide ((num : ℚ) / den < 10 ^ d) := by
    rw [cmp_eq (ratio_den_pos _ _ _) hd, ratio_value]
    simp only [Nat.cast_one, zpow_zero, one_mul, mul_one, ratioValue]
    by_cases h : (num : ℚ) / den < 10 ^ d
    · simp [h, compare_gt_iff_gt]
    · simp [h, compare_gt_iff_gt]
  rw [floorLog10_steps]
  simp only [test]
  exact corrected_guess_le start

theorem grid_bracket (num : Nat) {den : Nat} (hd : 0 < den) (s : Int) :
    ((num * 10 ^ (-s).toNat / (den * 10 ^ s.toNat) : Nat) : ℚ) * 10 ^ s ≤ num / den ∧
      (num : ℚ) / den < ((num * 10 ^ (-s).toNat / (den * 10 ^ s.toNat) + 1 : Nat) : ℚ) * 10 ^ s := by
  have hb : 0 < den * 10 ^ s.toNat := by positivity
  generalize hq : num * 10 ^ (-s).toNat / (den * 10 ^ s.toNat) = q
  have below : ((q * (den * 10 ^ s.toNat) : Nat) : ℚ) ≤ (num * 10 ^ (-s).toNat : Nat) := by
    rw [← hq]; exact_mod_cast Nat.div_mul_le_self _ _
  have above : ((num * 10 ^ (-s).toNat : Nat) : ℚ) < (q * (den * 10 ^ s.toNat) + den * 10 ^ s.toNat : Nat) := by
    rw [← hq]; exact_mod_cast Nat.lt_div_mul_add hb
  push_cast at below above ⊢
  have dPos : (0 : ℚ) < den := by exact_mod_cast hd
  rw [← natPow_toNat 10 s]
  constructor
  · rw [mul_div_assoc', div_le_div_iff₀ (by positivity) dPos]; linarith
  · rw [mul_div_assoc', div_lt_div_iff₀ dPos (by positivity)]; linarith

theorem value_normalize_go (k : Nat) (d : Decimal) : (normalize.go k d).value = d.value := by
  induction k generalizing d with
  | zero => rfl
  | succ k ih =>
    rw [normalize.go]
    split
    next trailing =>
      simp only [Bool.and_eq_true, bne_iff_ne, ne_eq, beq_iff_eq] at trailing
      rw [ih]
      obtain ⟨c, hc⟩ := Nat.dvd_of_mod_eq_zero trailing.2
      simp only [value, hc, Nat.mul_div_cancel_left _ (by norm_num : 0 < 10), zpow_add_one₀ (by norm_num : (10 : ℚ) ≠ 0)]
      push_cast; ring
    next => rfl

theorem value_normalize (d : Decimal) : d.normalize.value = d.value := value_normalize_go _ _

theorem digitCount_pos (n : Nat) : 0 < digitCount n := Nat.length_toDigits_pos

theorem digitCount_le_iff {n k : Nat} (hk : 0 < k) : digitCount n ≤ k ↔ n < 10 ^ k :=
  Nat.length_toDigits_le_iff (by norm_num) hk

theorem lt_ten_pow_digitCount (n : Nat) : n < 10 ^ digitCount n :=
  (digitCount_le_iff (digitCount_pos n)).1 le_rfl

theorem ten_pow_digitCount_le {n : Nat} (pos : 0 < n) : 10 ^ (digitCount n - 1) ≤ n := by
  have least := digitCount_pos n
  by_cases one : digitCount n = 1
  · rw [one]; exact pos
  · exact not_lt.1 fun below => by
      have := (digitCount_le_iff (by omega)).2 below
      omega

theorem natText_length (n : Nat) : (natText n).length = digitCount n := by
  simp [natText, digitCount]

theorem decimal_bounds {K : Nat} (pos : 0 < K) (q : Int) :
    (10 : ℚ) ^ ((digitCount K : Int) - 1 + q) ≤ K * 10 ^ q ∧ (K : ℚ) * 10 ^ q < 10 ^ ((digitCount K : Int) + q) := by
  have tenPos : (0 : ℚ) < 10 ^ q := by positivity
  have low : ((10 ^ (digitCount K - 1) : Nat) : ℚ) ≤ K := by exact_mod_cast ten_pow_digitCount_le pos
  have high : (K : ℚ) < (10 ^ digitCount K : Nat) := by exact_mod_cast lt_ten_pow_digitCount K
  have least := digitCount_pos K
  rw [zpow_add₀ (by norm_num), zpow_add₀ (by norm_num),
    show (digitCount K : Int) - 1 = ((digitCount K - 1 : Nat) : Int) by omega, zpow_natCast, zpow_natCast]
  push_cast at low high
  exact ⟨mul_le_mul_of_nonneg_right low tenPos.le, mul_lt_mul_of_pos_right high tenPos⟩

end Decimal

namespace Binary

theorem roundingInterval_values {man : Nat} (exp : Int) (pos : 0 < man) :
    ratioValue (roundingInterval man exp).1 =
        (man - if man = 2 ^ 52 ∧ minExp < exp then 1 / 4 else 1 / 2) * 2 ^ exp ∧
      ratioValue (roundingInterval man exp).2.1 = (man + 1 / 2) * 2 ^ exp := by
  have two : (2 : ℚ) ^ exp = 2 ^ (exp - 1) * 2 := by rw [← zpow_add_one₀ two_ne_zero, sub_add_cancel]
  have four : (2 : ℚ) ^ exp = 2 ^ (exp - 2) * 4 := by
    rw [show exp = exp - 2 + 1 + 1 by ring, zpow_add_one₀ two_ne_zero, zpow_add_one₀ two_ne_zero]
    ring_nf
  unfold roundingInterval
  simp only [Bool.and_eq_true, beq_iff_eq, decide_eq_true_eq, gt_iff_lt]
  constructor
  · split
    next edge =>
      rw [Decimal.ratio_value, Nat.cast_sub (by omega), four]
      push_cast; ring
    next notEdge =>
      rw [Decimal.ratio_value, Nat.cast_sub (by omega), two]
      push_cast; ring
  · rw [Decimal.ratio_value, two]
    push_cast; ring

theorem within_iff {man : Nat} {exp : Int} (pos : 0 < man) (c : Nat) (s : Int) :
    within (roundingInterval man exp).1 (roundingInterval man exp).2.1 (roundingInterval man exp).2.2 c s = true ↔
      RoundsTo (c * 10 ^ s) man exp := by
  obtain ⟨low, high⟩ := roundingInterval_values exp pos
  have point : ratioValue (Decimal.ratio c 0 s) = c * 10 ^ s := by rw [Decimal.ratio_value]; simp
  have lowPos : 0 < (roundingInterval man exp).1.2 := by
    unfold roundingInterval; split <;> exact Decimal.ratio_den_pos _ _ _
  have highPos : 0 < (roundingInterval man exp).2.1.2 := Decimal.ratio_den_pos _ _ _
  have closed : (roundingInterval man exp).2.2 = (man % 2 == 0) := rfl
  unfold within
  simp only
  rw [Decimal.cmp_eq (Decimal.ratio_den_pos _ _ _) lowPos, Decimal.cmp_eq (Decimal.ratio_den_pos _ _ _) highPos,
    point, low, high, closed]
  unfold RoundsTo
  simp only [beq_iff_eq]
  split
  next even =>
    simp only [Bool.and_eq_true, bne_iff_ne, compare_lt_iff_lt.not, compare_gt_iff_gt.not, not_lt]
  next odd =>
    simp only [Bool.and_eq_true, beq_iff_eq, compare_gt_iff_gt, compare_lt_iff_lt]

theorem roundsTo_of_strict {q : ℚ} {m : Nat} {e : Int}
    (low : ((m : ℚ) - if m = 2 ^ 52 ∧ minExp < e then 1 / 4 else 1 / 2) * 2 ^ e < q)
    (high : q < (m + 1 / 2) * 2 ^ e) : RoundsTo q m e := by
  unfold RoundsTo
  dsimp only
  split
  · exact ⟨low.le, high.le⟩
  · exact ⟨low, high⟩

/-- Step `p` of the search of `shortest` finds a grid neighbour of `v` inside the interval. -/
def Finds (v low high : Nat × Nat) (closed : Bool) (top : Int) (p : Nat) : Prop :=
  let s : Int := top - p + 1
  let q := v.1 * 10 ^ (-s).toNat / (v.2 * 10 ^ s.toNat)
  within low high closed q s = true ∨ within low high closed (q + 1) s = true

section Search

variable {man : Nat} {exp : Int} {v low high : Nat × Nat} {closed : Bool} {top : Int}

theorem search_within (fuel p : Nat) (found : Finds v low high closed top p) :
    within low high closed (shortest.search man exp v low high closed top (fuel + 1) p).digits
      (shortest.search man exp v low high closed top (fuel + 1) p).exp = true := by
  dsimp only [Finds] at found
  rw [shortest.search]
  generalize top - p + 1 = s at found ⊢
  generalize v.1 * 10 ^ (-s).toNat / (v.2 * 10 ^ s.toNat) = q at found ⊢
  split
  next both =>
    rw [Bool.and_eq_true] at both
    split
    next => exact both.1
    next => exact both.2
    next => split <;> simp only [both]
  next =>
    split
    next down => exact down
    next =>
      split
      next up => exact up
      next down up => simp only [down, up, or_self, Bool.false_eq_true] at found

theorem search_skip (fuel p : Nat) (missed : ¬Finds v low high closed top p) :
    shortest.search man exp v low high closed top (fuel + 2) p =
      shortest.search man exp v low high closed top (fuel + 1) (p + 1) := by
  dsimp only [Finds] at missed
  rw [shortest.search]
  generalize top - p + 1 = s at missed ⊢
  generalize v.1 * 10 ^ (-s).toNat / (v.2 * 10 ^ s.toNat) = q at missed ⊢
  rw [not_or] at missed
  simp only [missed.1, missed.2, Bool.and_self, Bool.false_eq_true, if_false,
    Nat.add_one_ne_zero, beq_iff_eq]

theorem search_within_of_last (fuel p : Nat) (found : Finds v low high closed top (p + fuel)) :
    within low high closed (shortest.search man exp v low high closed top (fuel + 1) p).digits
      (shortest.search man exp v low high closed top (fuel + 1) p).exp = true := by
  induction fuel generalizing p with
  | zero => exact search_within 0 p found
  | succ fuel ih =>
    by_cases here : Finds v low high closed top p
    · exact search_within (fuel + 1) p here
    · rw [search_skip fuel p here]
      exact ih (p + 1) (by rwa [Nat.add_right_comm, Nat.add_assoc])

end Search

theorem finds_seventeen {man : Nat} {exp : Int} (canonical : Canonical man exp) (pos : 0 < man) :
    Finds (Decimal.ratio man exp 0) (roundingInterval man exp).1 (roundingInterval man exp).2.1
      (roundingInterval man exp).2.2 (Decimal.floorLog10 (Decimal.ratio man exp 0).1 (Decimal.ratio man exp 0).2) 17 := by
  obtain ⟨small, least, -, -⟩ := canonical
  unfold Finds
  dsimp only
  rw [within_iff pos, within_iff pos]
  set v := Decimal.ratio man exp 0 with hv
  have dPos : 0 < v.2 := Decimal.ratio_den_pos _ _ _
  have value : (v.1 : ℚ) / v.2 = man * 2 ^ exp := by
    have := Decimal.ratio_value man exp 0
    simp only [ratioValue, zpow_zero, mul_one] at this
    rw [hv]; exact this
  have twoPos : (0 : ℚ) < 2 ^ exp := by positivity
  have manPos : (1 : ℚ) ≤ man := by exact_mod_cast pos
  have nPos : 0 < v.1 := by
    have : (0 : ℚ) < v.1 / v.2 := by rw [value]; positivity
    exact_mod_cast (div_pos_iff_of_pos_right (by exact_mod_cast dPos)).1 this
  have large : (2 : ℚ) ^ (-2000 : Int) ≤ v.1 / v.2 := by
    rw [value]
    calc (2 : ℚ) ^ (-2000 : Int) ≤ 2 ^ exp := zpow_le_zpow_right₀ (by norm_num) (le_trans (by decide) least)
      _ ≤ man * 2 ^ exp := le_mul_of_one_le_left twoPos.le manPos
  have top := Decimal.floorLog10_le nPos dPos large
  generalize Decimal.floorLog10 v.1 v.2 = t at top ⊢
  rw [show t - ((17 : Nat) : Int) + 1 = t - 16 by push_cast; ring]
  obtain ⟨qLow, qHigh⟩ := Decimal.grid_bracket v.1 dPos (t - 16)
  generalize v.1 * 10 ^ (-(t - 16)).toNat / (v.2 * 10 ^ (t - 16).toNat) = q at qLow qHigh ⊢
  rw [value] at top qLow qHigh
  -- the grid spacing against the width of the interval
  have spacing : (10 : ℚ) ^ (t - 16) * 10 ^ 16 ≤ man * 2 ^ exp := by
    rw [← zpow_natCast, ← zpow_add₀ (by norm_num)]; simpa using top
  set below : ℚ := if man = 2 ^ 52 ∧ minExp < exp then 1 / 4 else 1 / 2 with hbelow
  have narrow : (10 : ℚ) ^ (t - 16) < (below + 1 / 2) * 2 ^ exp := by
    by_cases edge : man = 2 ^ 52 ∧ minExp < exp
    · rw [hbelow, if_pos edge]
      have : (man : ℚ) = 2 ^ 52 := by exact_mod_cast edge.1
      rw [this] at spacing
      linarith
    · rw [hbelow, if_neg edge]
      have manBound : (man : ℚ) * 2 ^ exp < 2 ^ 53 * 2 ^ exp :=
        mul_lt_mul_of_pos_right (by exact_mod_cast small) twoPos
      linarith
  have belowPos : 0 < below * 2 ^ exp := by
    apply mul_pos _ twoPos
    rw [hbelow]; split <;> norm_num
  by_cases down : (man - below) * 2 ^ exp < q * 10 ^ (t - 16)
  · left
    apply roundsTo_of_strict down
    linarith
  · right
    push_cast at qHigh ⊢
    apply roundsTo_of_strict
    · rw [← hbelow]; linarith
    · linarith

theorem shortest_eq (man : Nat) (exp : Int) :
    shortest man exp =
      (shortest.search man exp (Decimal.ratio man exp 0) (roundingInterval man exp).1 (roundingInterval man exp).2.1
        (roundingInterval man exp).2.2
        (Decimal.floorLog10 (Decimal.ratio man exp 0).1 (Decimal.ratio man exp 0).2) 17 1).normalize := rfl

theorem shortest_rounds {man : Nat} {exp : Int} (canonical : Canonical man exp) (pos : 0 < man) :
    RoundsTo (shortest man exp).value man exp := by
  rw [shortest_eq, Decimal.value_normalize, Decimal.value, ← within_iff pos]
  exact search_within_of_last 16 1 (finds_seventeen canonical pos)

theorem RoundsTo.range {v : ℚ} {m : Nat} {e : Int} (h : RoundsTo v m e) (canonical : Canonical m e) (pos : 0 < m) :
    2 ^ (minExp - 1) ≤ v ∧ v < 2 ^ (1024 : Int) := by
  obtain ⟨small, least, most, -⟩ := canonical
  obtain ⟨low, high⟩ := h.bounds
  have mLow : (1 : ℚ) ≤ m := by exact_mod_cast pos
  have mHigh : (m : ℚ) + 1 ≤ 2 ^ 53 := by exact_mod_cast small
  have scale : (0 : ℚ) < 2 ^ e := by positivity
  have half : (1 / 2 : ℚ) ≤ (m : ℚ) - if m = 2 ^ 52 ∧ minExp < e then 1 / 4 else 1 / 2 := by
    split <;> linarith
  constructor
  · calc (2 : ℚ) ^ (minExp - 1) = 1 / 2 * 2 ^ minExp := by rw [zpow_sub₀ two_ne_zero, zpow_one]; ring
      _ ≤ 1 / 2 * 2 ^ e := by gcongr; norm_num
      _ ≤ _ := mul_le_mul_of_nonneg_right half scale.le
      _ ≤ v := low
  · calc v ≤ (m + 1 / 2) * 2 ^ e := high
      _ < 2 ^ 53 * 2 ^ e := mul_lt_mul_of_pos_right (by linarith) scale
      _ ≤ 2 ^ (53 : Int) * 2 ^ (971 : Int) := by rw [zpow_ofNat]; gcongr; norm_num
      _ = 2 ^ (1024 : Int) := by rw [← zpow_add₀ two_ne_zero]; norm_num

theorem shortest_digits_pos {man : Nat} {exp : Int} (canonical : Canonical man exp) (pos : 0 < man) :
    0 < (shortest man exp).digits := by
  have least := ((shortest_rounds canonical pos).range canonical pos).1
  have positive : (0 : ℚ) < 2 ^ (minExp - 1) := by positivity
  rcases Nat.eq_zero_or_pos (shortest man exp).digits with zero | nonzero
  · rw [Decimal.value, zero, Nat.cast_zero, zero_mul] at least
    linarith
  · exact nonzero

theorem ofDecimal_eq_round (neg : Bool) {K : Nat} {q : Int} (pos : 0 < K)
    (inRange : -400 ≤ (Decimal.digitCount K : Int) + q ∧ (Decimal.digitCount K : Int) + q ≤ 400) :
    ∃ num den : Nat, 0 < den ∧ (num : ℚ) / den = K * 10 ^ q ∧ Float.ofDecimal neg K q = round neg num den := by
  unfold Float.ofDecimal
  rw [if_neg (by simp only [beq_iff_eq]; omega), Decimal.natText_length]
  simp only [gt_iff_lt]
  rw [if_neg (by omega), if_neg (by omega)]
  split
  next nonneg =>
    refine ⟨K * 10 ^ q.toNat, 1, one_pos, ?_, rfl⟩
    push_cast
    rw [div_one, ← zpow_natCast, Int.toNat_of_nonneg nonneg]
  next negative =>
    refine ⟨K, 10 ^ (-q).toNat, by positivity, ?_, rfl⟩
    push_cast
    rw [← zpow_natCast, Int.toNat_of_nonneg (by omega), zpow_neg, div_eq_mul_inv, inv_inv]

theorem round_zero_isNearest (neg : Bool) {w : ℚ} (nonneg : 0 ≤ w) (tiny : w ≤ 2 ^ (minExp - 1)) :
    IsNearest (round neg 0 1) ((if neg then -1 else 1) * w) := by
  have parts : roundParts 0 1 0 = some (0, minExp) := rfl
  have half : (2 : ℚ) ^ (minExp - 1) = 1 / 2 * 2 ^ minExp := by
    rw [zpow_sub₀ two_ne_zero, zpow_one]; ring
  refine ⟨neg, 0, minExp, by rw [round_of_roundParts parts, ofFloat_pack neg (by decide)], ?_, ?_, ?_⟩
  · intro negative; cases neg
    · simp at negative; linarith
    · rfl
  · intro positive; cases neg
    · rfl
    · simp at positive; linarith
  · have size : |(if neg then -1 else 1) * w| = w := by cases neg <;> simp [abs_of_nonneg nonneg]
    rw [size]
    unfold RoundsTo
    simp only [Nat.cast_zero, Nat.zero_mod, if_true]
    constructor
    · have : (0 : ℚ) < 2 ^ minExp := by positivity
      split <;> linarith
    · linarith

theorem size_le_of_lt {K : Nat} (pos : 0 < K) {q : Int} (high : (K : ℚ) * 10 ^ q < 2 ^ (1024 : Int)) :
    (Decimal.digitCount K : Int) + q ≤ 400 := by
  by_contra beyond
  have huge : (2 : ℚ) ^ (1024 : Int) ≤ 10 ^ (400 : Int) := by
    rw [zpow_ofNat, zpow_ofNat]; exact_mod_cast (by decide +kernel : (2 : Nat) ^ 1024 ≤ 10 ^ 400)
  have power : (10 : ℚ) ^ (400 : Int) ≤ 10 ^ ((Decimal.digitCount K : Int) - 1 + q) :=
    zpow_le_zpow_right₀ (by norm_num) (by omega)
  exact absurd (lt_of_lt_of_le high (huge.trans (power.trans (Decimal.decimal_bounds pos q).1))) (lt_irrefl _)

theorem le_size_of_le {K : Nat} (pos : 0 < K) {q : Int} (low : (2 : ℚ) ^ (minExp - 1) ≤ K * 10 ^ q) :
    -400 ≤ (Decimal.digitCount K : Int) + q := by
  by_contra under
  have tiny : (10 : ℚ) ^ (-401 : Int) ≤ 2 ^ (minExp - 1) := by
    rw [show minExp - 1 = -1075 by rfl, zpow_neg, zpow_neg, zpow_ofNat, zpow_ofNat]
    apply inv_anti₀ (by positivity)
    exact_mod_cast (by decide +kernel : (2 : Nat) ^ 1075 ≤ 10 ^ 401)
  have power : (10 : ℚ) ^ ((Decimal.digitCount K : Int) + q) ≤ 10 ^ (-401 : Int) :=
    zpow_le_zpow_right₀ (by norm_num) (by omega)
  exact absurd (lt_of_lt_of_le (Decimal.decimal_bounds pos q).2 (power.trans (tiny.trans low))) (lt_irrefl _)

theorem ofDecimal_isNearest (neg : Bool) (K : Nat) (q : Int) (small : (K : ℚ) * 10 ^ q < 2 ^ (1023 : Int)) :
    IsNearest (Float.ofDecimal neg K q) ((if neg then -1 else 1) * (K * 10 ^ q)) := by
  rcases Nat.eq_zero_or_pos K with zero | pos
  · subst zero
    rw [Nat.cast_zero, zero_mul]
    exact round_zero_isNearest neg le_rfl (by positivity)
  have notOver := size_le_of_lt pos (small.trans (zpow_lt_zpow_right₀ (by norm_num) (by norm_num)))
  by_cases under : (Decimal.digitCount K : Int) + q < -400
  · -- below every half of the least subnormal: the guard gives zero, and zero is nearest
    have guard : Float.ofDecimal neg K q = round neg 0 1 := by
      unfold Float.ofDecimal
      rw [if_neg (by simp only [beq_iff_eq]; omega), Decimal.natText_length]
      simp only [gt_iff_lt]
      rw [if_neg (by omega), if_pos under]
    rw [guard]
    exact round_zero_isNearest neg (by positivity) (not_lt.1 fun above => under.not_ge (le_size_of_le pos above.le))
  · obtain ⟨num, den, hd, value, eq⟩ := ofDecimal_eq_round neg pos ⟨by omega, notOver⟩
    have nearest := round_isNearest neg hd (by rw [zpow_zero, mul_one, value]; exact small)
    rw [zpow_zero, mul_one, value] at nearest
    rw [eq]
    exact nearest

theorem ofDecimal_of_roundsTo (neg : Bool) {K m : Nat} {q e : Int} (canonical : Canonical m e) (pos : 0 < m)
    (h : RoundsTo (K * 10 ^ q) m e) : Float.ofDecimal neg K q = pack neg m e := by
  obtain ⟨least, most⟩ := h.range canonical pos
  have kPos : 0 < K := by
    rcases Nat.eq_zero_or_pos K with zero | positive
    · subst zero
      have : (0 : ℚ) < 2 ^ (minExp - 1) := by positivity
      simp only [Nat.cast_zero, zero_mul] at least
      linarith
    · exact positive
  obtain ⟨num, den, hd, value, eq⟩ := ofDecimal_eq_round neg kPos ⟨le_size_of_le kPos least, size_le_of_lt kPos most⟩
  rw [eq]
  apply round_of_roundParts
  apply roundParts_of_roundsTo hd canonical pos
  rw [zpow_zero, mul_one, value]
  exact h

theorem ofDecimal_shortest {x : Float} {neg : Bool} {man : Nat} {exp : Int}
    (h : ofFloat x = .finite neg man exp) (pos : 0 < man) :
    Float.ofDecimal neg (shortest man exp).digits (shortest man exp).exp = x := by
  obtain ⟨canonical, -⟩ := ofFloat_finite h
  rw [ofDecimal_of_roundsTo neg canonical pos (shortest_rounds canonical pos), pack_ofFloat h]

end Binary

end Spreadsheet.Number
