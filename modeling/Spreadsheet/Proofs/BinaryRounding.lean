import Spreadsheet.Proofs.DoubleBits
import Mathlib.Algebra.Order.Field.Power
import Mathlib.Tactic.Linarith
import Mathlib.Tactic.FieldSimp
import Mathlib.Tactic.Positivity
import Mathlib.Tactic.Ring

/-!
Rounding to the nearest double.

`Binary.roundParts` finds the binade of `num / den · 2^shift` by `floorLog2Ratio`, scales the value
to 53 bits there (fewer at the least exponent) and rounds to the nearest natural, a tie to the even
one, carrying into the next binade at `2^53`. Its result is the double whose rounding interval
(`RoundsTo`) holds the value, and conversely every positive double is what `roundParts` gives for the
values of its interval; so `Binary.round` is the nearest double (`IsNearest`).
-/

set_option autoImplicit false

namespace Spreadsheet.Number.Binary

theorem pow_le_ratio_iff {num den : Nat} (hd : 0 < den) (t : Int) :
    (if t ≥ 0 then num ≥ den * 2 ^ t.toNat else num * 2 ^ (-t).toNat ≥ den) ↔ (2 : ℚ) ^ t ≤ num / den := by
  have denPos : (0 : ℚ) < den := by exact_mod_cast hd
  rw [le_div_iff₀ denPos]
  split
  next nonneg =>
    obtain ⟨k, rfl⟩ := Int.eq_ofNat_of_zero_le nonneg
    have cast : ((den * 2 ^ k : Nat) : ℚ) ≤ num ↔ den * 2 ^ k ≤ num := Nat.cast_le
    push_cast at cast
    rw [zpow_natCast, Int.toNat_natCast, ge_iff_le, ← cast, mul_comm]
  next neg =>
    obtain ⟨k, rfl⟩ : ∃ k : Nat, t = -(k : Int) := ⟨(-t).toNat, by omega⟩
    have posPow : (0 : ℚ) < 2 ^ k := by positivity
    have cast : (den : ℚ) ≤ ((num * 2 ^ k : Nat) : ℚ) ↔ den ≤ num * 2 ^ k := Nat.cast_le
    push_cast at cast
    rw [zpow_neg, zpow_natCast, neg_neg, Int.toNat_natCast, ge_iff_le, ← cast, inv_mul_le_iff₀ posPow, mul_comm]

theorem log2_bracket {num den : Nat} (hn : 0 < num) (hd : 0 < den) :
    (2 : ℚ) ^ ((num.log2 : Int) - den.log2 - 1) ≤ num / den ∧
      (num : ℚ) / den < 2 ^ ((num.log2 : Int) - den.log2 + 1) := by
  have denPos : (0 : ℚ) < den := by exact_mod_cast hd
  have numLow : (2 : ℚ) ^ (num.log2 : Int) ≤ num := by
    rw [zpow_natCast]; exact_mod_cast Nat.log2_self_le hn.ne'
  have numHigh : (num : ℚ) < 2 ^ ((num.log2 : Int) + 1) := by
    rw [← Nat.cast_one, ← Nat.cast_add, zpow_natCast]; exact_mod_cast Nat.lt_log2_self
  have denLow : (2 : ℚ) ^ (den.log2 : Int) ≤ den := by
    rw [zpow_natCast]; exact_mod_cast Nat.log2_self_le hd.ne'
  have denHigh : (den : ℚ) < 2 ^ ((den.log2 : Int) + 1) := by
    rw [← Nat.cast_one, ← Nat.cast_add, zpow_natCast]; exact_mod_cast Nat.lt_log2_self
  constructor
  · rw [le_div_iff₀ denPos]
    calc (2 : ℚ) ^ ((num.log2 : Int) - den.log2 - 1) * den
        ≤ 2 ^ ((num.log2 : Int) - den.log2 - 1) * 2 ^ ((den.log2 : Int) + 1) := by gcongr
      _ = 2 ^ (num.log2 : Int) := by rw [← zpow_add₀ two_ne_zero]; congr 1; omega
      _ ≤ num := numLow
  · rw [div_lt_iff₀ denPos]
    calc (num : ℚ) < 2 ^ ((num.log2 : Int) + 1) := numHigh
      _ = 2 ^ ((num.log2 : Int) - den.log2 + 1) * 2 ^ (den.log2 : Int) := by
        rw [← zpow_add₀ two_ne_zero]; congr 1; omega
      _ ≤ 2 ^ ((num.log2 : Int) - den.log2 + 1) * den := by gcongr

theorem floorLog2Ratio_spec {num den : Nat} (hn : 0 < num) (hd : 0 < den) :
    (2 : ℚ) ^ floorLog2Ratio num den ≤ num / den ∧ (num : ℚ) / den < 2 ^ (floorLog2Ratio num den + 1) := by
  obtain ⟨above, below⟩ := log2_bracket hn hd
  set t : Int := (num.log2 : Int) - den.log2 with ht
  -- one comparison with `2^t` decides between `t` and `t - 1`
  have choice : floorLog2Ratio num den = if (2 : ℚ) ^ t ≤ num / den then t else t - 1 := by
    simp only [floorLog2Ratio, ← ht, ← pow_le_ratio_iff hd t]
    split <;> split <;> simp_all
  rw [choice]
  split
  next reached => exact ⟨reached, below⟩
  next short => exact ⟨above, by simpa using lt_of_not_ge short⟩

def NearestEven (x : ℚ) (m : Nat) : Prop :=
  |x - m| ≤ 1 / 2 ∧ (|x - m| = 1 / 2 → m % 2 = 0)

theorem NearestEven.unique {x : ℚ} {m m' : Nat} (h : NearestEven x m) (h' : NearestEven x m') : m = m' := by
  -- two naturals within a half of `x` are equal, or both at distance exactly a half
  suffices ordered : ∀ {a b : Nat}, NearestEven x a → NearestEven x b → a < b → False by
    rcases Nat.lt_trichotomy m m' with less | same | more
    · exact (ordered h h' less).elim
    · exact same
    · exact (ordered h' h more).elim
  intro a b ha hb less
  have gap : (a : ℚ) + 1 ≤ b := by exact_mod_cast less
  obtain ⟨-, upper⟩ := abs_le.1 ha.1
  obtain ⟨lower, -⟩ := abs_le.1 hb.1
  have meet : x = a + 1 / 2 := by linarith
  have next : (b : ℚ) = a + 1 := by linarith
  have evenA := ha.2 (by rw [meet]; norm_num)
  have evenB := hb.2 (by rw [meet, next]; norm_num)
  have next' : b = a + 1 := by exact_mod_cast next
  omega

theorem roundHalfEven_nearest {n d : Nat} (hd : 0 < d) : NearestEven (n / d) (roundHalfEven n d) := by
  have dPos : (0 : ℚ) < d := by exact_mod_cast hd
  have parts : (n : ℚ) / d = (n / d : Nat) + ((n % d : Nat) : ℚ) / d := by
    field_simp
    exact_mod_cast (Nat.div_add_mod n d).symm
  have fracLow : (0 : ℚ) ≤ ((n % d : Nat) : ℚ) / d := by positivity
  have fracHigh : ((n % d : Nat) : ℚ) / d < 1 := by
    rw [div_lt_one dPos]; exact_mod_cast Nat.mod_lt n hd
  -- a remainder against half the divisor, in naturals and in rationals
  have half (c : ℚ) (hc : c = 1 / 2) : ((n % d : Nat) : ℚ) / d ≤ c ↔ 2 * (n % d) ≤ d := by
    have cast : ((2 * (n % d) : Nat) : ℚ) ≤ d ↔ 2 * (n % d) ≤ d := Nat.cast_le
    push_cast at cast
    rw [hc, div_le_iff₀ dPos, ← cast]
    constructor <;> intro h <;> linarith
  have tie : ((n % d : Nat) : ℚ) / d = 1 / 2 ↔ 2 * (n % d) = d := by
    have cast : ((2 * (n % d) : Nat) : ℚ) = d ↔ 2 * (n % d) = d := Nat.cast_inj
    push_cast at cast
    rw [div_eq_iff dPos.ne', ← cast]
    constructor <;> intro h <;> linarith
  unfold roundHalfEven NearestEven
  simp only [parts]
  split
  next up =>
    have gap : ((n / d : Nat) : ℚ) + ((n % d : Nat) : ℚ) / d - ((n / d + 1 : Nat) : ℚ) =
        -(1 - ((n % d : Nat) : ℚ) / d) := by push_cast; ring
    rw [gap, abs_neg, abs_of_pos (by linarith)]
    simp only [Bool.or_eq_true, decide_eq_true_eq, Bool.and_eq_true, beq_iff_eq] at up
    constructor
    · rcases up with beyond | ⟨exact, -⟩
      · have := (half (1 / 2) rfl).not.2 (by omega)
        linarith
      · linarith [tie.2 exact]
    · intro atHalf
      have exact := tie.1 (by linarith)
      omega
  next down =>
    simp only [Bool.or_eq_true, decide_eq_true_eq, Bool.and_eq_true, beq_iff_eq, not_or, not_and] at down
    rw [add_sub_cancel_left, abs_of_nonneg fracLow]
    exact ⟨(half (1 / 2) rfl).2 (by omega), fun atHalf => by have := down.2 (tie.1 atHalf); omega⟩

theorem scaleRatio_den_pos (num : Nat) {den : Nat} (hd : 0 < den) (k : Int) : 0 < (scaleRatio num den k).2 := by
  unfold scaleRatio; split <;> simp <;> positivity

theorem scaleRatio_value (num den : Nat) (k : Int) :
    ((scaleRatio num den k).1 : ℚ) / (scaleRatio num den k).2 = num / den * 2 ^ k := by
  unfold scaleRatio
  split
  next nonneg =>
    obtain ⟨j, rfl⟩ := Int.eq_ofNat_of_zero_le nonneg
    simp only [Int.toNat_natCast, zpow_natCast]; push_cast; ring
  next neg =>
    obtain ⟨j, rfl⟩ : ∃ j : Nat, k = -(j : Int) := ⟨(-k).toNat, by omega⟩
    simp only [neg_neg, Int.toNat_natCast, zpow_neg, zpow_natCast]; push_cast; ring

theorem roundParts_of_pos {num den : Nat} (hn : 0 < num) {shift e : Int} {m : Nat}
    (he : e = max (floorLog2Ratio num den + shift - 52) minExp)
    (hm : m = roundHalfEven (scaleRatio num den (shift - e)).1 (scaleRatio num den (shift - e)).2) :
    roundParts num den shift =
      if m = 2 ^ 53 then (if e + 1 + 52 ≥ 1024 then none else some (2 ^ 52, e + 1))
      else if e + 52 ≥ 1024 then none else some (m, e) := by
  have nonzero : (num == 0) = false := by simp; omega
  simp only [roundParts, nonzero, ← he, ← hm, Bool.false_eq_true, if_false, beq_iff_eq]
  by_cases carry : m = 2 ^ 53
  · simp only [if_pos carry]
  · simp only [if_neg carry]

/-- The reals that round to the double `man · 2^exp`: within half a unit of the last place of it,
or within a quarter below at a power of two, where the doubles below are twice as dense. The ends
belong to it when `man` is even. -/
def RoundsTo (q : ℚ) (man : Nat) (exp : Int) : Prop :=
  let below : ℚ := if man = 2 ^ 52 ∧ minExp < exp then 1 / 4 else 1 / 2
  if man % 2 = 0 then (man - below) * 2 ^ exp ≤ q ∧ q ≤ (man + 1 / 2) * 2 ^ exp
  else (man - below) * 2 ^ exp < q ∧ q < (man + 1 / 2) * 2 ^ exp

theorem zpow_mul_zpow_neg (q : ℚ) (e : Int) : q * 2 ^ (-e) * 2 ^ e = q := by
  rw [mul_assoc, ← zpow_add₀ two_ne_zero, neg_add_cancel, zpow_zero, mul_one]

theorem mul_zpow_mul_zpow_neg (y : ℚ) (e : Int) : y * 2 ^ e * 2 ^ (-e) = y := by
  rw [mul_assoc, ← zpow_add₀ two_ne_zero, add_neg_cancel, zpow_zero, mul_one]

theorem roundsTo_of_nearest {q : ℚ} {m : Nat} {e : Int} (near : NearestEven (q * 2 ^ (-e)) m)
    (edge : m = 2 ^ 52 ∧ minExp < e → (m : ℚ) ≤ q * 2 ^ (-e)) : RoundsTo q m e := by
  have scale : (0 : ℚ) < 2 ^ e := by positivity
  -- both ends of the interval are multiples of `2^e`: compare significands
  obtain ⟨y, rfl⟩ : ∃ y, q = y * 2 ^ e := ⟨_, (zpow_mul_zpow_neg q e).symm⟩
  rw [mul_zpow_mul_zpow_neg] at near edge
  obtain ⟨low, high⟩ := abs_le.1 near.1
  unfold RoundsTo
  dsimp only
  simp only [mul_le_mul_iff_of_pos_right scale, mul_lt_mul_iff_of_pos_right scale]
  split
  next even =>
    split
    next atEdge =>
      have := edge atEdge
      constructor <;> linarith
    next => constructor <;> linarith
  next odd =>
    have notHalf : |y - m| ≠ 1 / 2 := fun h => odd (near.2 h)
    have strictLow : -(1 / 2 : ℚ) < y - m := by
      rcases lt_or_eq_of_le low with l | l
      · exact l
      · exact absurd (by rw [← l]; norm_num) notHalf
    have strictHigh : y - m < 1 / 2 := by
      rcases lt_or_eq_of_le high with l | l
      · exact l
      · exact absurd (by rw [l]; norm_num) notHalf
    have notEdge : ¬(m = 2 ^ 52 ∧ minExp < e) := fun h => odd (by rw [h.1]; rfl)
    simp only [notEdge, if_false]
    constructor <;> linarith

theorem roundsTo_carry {q : ℚ} {e : Int} (he : minExp ≤ e) (low : 2 ^ 53 - 1 / 2 ≤ q * 2 ^ (-e))
    (high : q * 2 ^ (-e) < 2 ^ 53) : RoundsTo q (2 ^ 52) (e + 1) := by
  have scale : (0 : ℚ) < 2 ^ e := by positivity
  obtain ⟨y, rfl⟩ : ∃ y, q = y * 2 ^ e := ⟨_, (zpow_mul_zpow_neg q e).symm⟩
  rw [mul_zpow_mul_zpow_neg] at low high
  have next : (2 : ℚ) ^ (e + 1) = 2 * 2 ^ e := by rw [zpow_add_one₀ two_ne_zero, mul_comm]
  have edge : (2 ^ 52 = 2 ^ 52 ∧ minExp < e + 1) := ⟨rfl, by omega⟩
  have even : 2 ^ 52 % 2 = 0 := rfl
  unfold RoundsTo
  simp only [edge, and_self, if_true, even, next, ← mul_assoc, mul_le_mul_iff_of_pos_right scale]
  push_cast
  constructor <;> linarith

theorem scaled_bounds {q : ℚ} {top : Int} (low : (2 : ℚ) ^ top ≤ q) (high : q < 2 ^ (top + 1)) :
    q * 2 ^ (-max (top - 52) minExp) < 2 ^ 53 ∧
      (max (top - 52) minExp = minExp ∨ 2 ^ 52 ≤ q * 2 ^ (-max (top - 52) minExp)) := by
  have scale : (0 : ℚ) < 2 ^ (-max (top - 52) minExp) := by positivity
  constructor
  · calc q * 2 ^ (-max (top - 52) minExp) < 2 ^ (top + 1) * 2 ^ (-max (top - 52) minExp) := by gcongr
      _ = 2 ^ (top + 1 - max (top - 52) minExp) := by rw [← zpow_add₀ two_ne_zero]; rfl
      _ ≤ 2 ^ (53 : Int) := zpow_le_zpow_right₀ (by norm_num) (by omega)
      _ = 2 ^ 53 := by norm_num
  · by_cases least : top - 52 ≤ minExp
    · exact .inl (max_eq_right least)
    · right
      calc (2 : ℚ) ^ 52 = 2 ^ top * 2 ^ (-max (top - 52) minExp) := by
            rw [← zpow_add₀ two_ne_zero, max_eq_left (by omega)]; norm_num
        _ ≤ q * 2 ^ (-max (top - 52) minExp) := by gcongr

theorem value_binade {num den : Nat} (hn : 0 < num) (hd : 0 < den) (shift : Int) :
    (2 : ℚ) ^ (floorLog2Ratio num den + shift) ≤ num / den * 2 ^ shift ∧
      (num : ℚ) / den * 2 ^ shift < 2 ^ (floorLog2Ratio num den + shift + 1) := by
  obtain ⟨low, high⟩ := floorLog2Ratio_spec hn hd
  have scale : (0 : ℚ) < 2 ^ shift := by positivity
  constructor
  · rw [zpow_add₀ two_ne_zero]; gcongr
  · rw [add_right_comm, zpow_add₀ two_ne_zero]; gcongr

theorem nearest_scaled (num : Nat) {den : Nat} (hd : 0 < den) (shift e : Int) :
    NearestEven (num / den * 2 ^ shift * 2 ^ (-e))
      (roundHalfEven (scaleRatio num den (shift - e)).1 (scaleRatio num den (shift - e)).2) := by
  have near := @roundHalfEven_nearest (scaleRatio num den (shift - e)).1 _ (scaleRatio_den_pos num hd (shift - e))
  rwa [scaleRatio_value, sub_eq_add_neg, zpow_add₀ two_ne_zero, ← mul_assoc] at near

theorem roundParts_rounds {num den : Nat} (hd : 0 < den) {shift : Int} {m : Nat} {e : Int}
    (h : roundParts num den shift = some (m, e)) :
    Canonical m e ∧ RoundsTo (num / den * 2 ^ shift) m e := by
  rcases Nat.eq_zero_or_pos num with zero | pos
  · subst zero
    simp only [roundParts, BEq.rfl, if_true, Option.some.injEq, Prod.mk.injEq] at h
    obtain ⟨rfl, rfl⟩ := h
    refine ⟨by decide, ?_⟩
    unfold RoundsTo
    norm_num
    positivity
  obtain ⟨low, high⟩ := value_binade pos hd shift
  obtain ⟨below, normal⟩ := scaled_bounds low high
  have near := nearest_scaled num hd shift (max (floorLog2Ratio num den + shift - 52) minExp)
  have least : minExp ≤ max (floorLog2Ratio num den + shift - 52) minExp := le_max_right _ _
  rw [roundParts_of_pos pos rfl rfl] at h
  generalize max (floorLog2Ratio num den + shift - 52) minExp = e₀ at h below normal near least
  generalize roundHalfEven _ _ = m₀ at h near
  set y := (num : ℚ) / den * 2 ^ shift * 2 ^ (-e₀) with hy
  obtain ⟨nearLow, nearHigh⟩ := abs_le.1 near.1
  have atMost : m₀ ≤ 2 ^ 53 := by
    have lt : ((m₀ : Nat) : ℚ) < ((2 ^ 53 + 1 : Nat) : ℚ) := by push_cast; linarith
    have := Nat.cast_lt.1 lt
    omega
  split at h
  next carry =>
    split at h
    · cases h
    · obtain ⟨rfl, rfl⟩ := Prod.mk.inj (Option.some.inj h)
      refine ⟨⟨by norm_num, by omega, by omega, .inl le_rfl⟩, roundsTo_carry least ?_ below⟩
      rw [carry] at nearLow; push_cast at nearLow; linarith
  next noCarry =>
    split at h
    · cases h
    · obtain ⟨rfl, rfl⟩ := Prod.mk.inj (Option.some.inj h)
      have binade : e₀ ≠ minExp → 2 ^ 52 ≤ m₀ := by
        intro notLeast
        have : (2 : ℚ) ^ 52 - 1 / 2 ≤ m₀ := by linarith [normal.resolve_left notLeast]
        have lt : ((2 ^ 52 : Nat) : ℚ) < ((m₀ + 1 : Nat) : ℚ) := by push_cast; linarith
        have := Nat.cast_lt.1 lt
        omega
      refine ⟨⟨by omega, least, by omega, ?_⟩, roundsTo_of_nearest near ?_⟩
      · by_cases atLeast : e₀ = minExp
        · exact .inr atLeast
        · exact .inl (binade atLeast)
      · rintro ⟨rfl, above⟩
        have := normal.resolve_left (ne_of_gt above)
        push_cast; linarith

theorem roundParts_isSome {num den : Nat} (hd : 0 < den) {shift : Int}
    (small : (num : ℚ) / den * 2 ^ shift < 2 ^ (1023 : Int)) : (roundParts num den shift).isSome := by
  rcases Nat.eq_zero_or_pos num with zero | pos
  · subst zero; simp [roundParts]
  obtain ⟨low, -⟩ := value_binade pos hd shift
  have top : floorLog2Ratio num den + shift < 1023 :=
    (zpow_lt_zpow_iff_right₀ (by norm_num : (1 : ℚ) < 2)).1 (lt_of_le_of_lt low small)
  rw [roundParts_of_pos pos rfl rfl]
  have bound : max (floorLog2Ratio num den + shift - 52) minExp ≤ 970 := by
    simp only [minExp]; omega
  split
  · rw [if_neg (by omega)]; rfl
  · rw [if_neg (by omega)]; rfl

theorem exponent_of_binade {q : ℚ} {top e : Int} (low : (2 : ℚ) ^ top ≤ q) (high : q < 2 ^ (top + 1))
    (least : minExp ≤ e) (below : q < 2 ^ (e + 53)) (binade : 2 ^ (e + 52) ≤ q ∨ e = minExp) :
    max (top - 52) minExp = e := by
  have two : (1 : ℚ) < 2 := by norm_num
  have under : top < e + 53 := (zpow_lt_zpow_iff_right₀ two).1 (lt_of_le_of_lt low below)
  rcases binade with inside | atLeast
  · have beyond : e + 52 < top + 1 := (zpow_lt_zpow_iff_right₀ two).1 (lt_of_le_of_lt inside high)
    omega
  · omega

theorem nearest_of_roundsTo {q : ℚ} {m : Nat} {e : Int} (h : RoundsTo q m e)
    (edge : m = 2 ^ 52 ∧ minExp < e → (m : ℚ) * 2 ^ e ≤ q) : NearestEven (q * 2 ^ (-e)) m := by
  have scale : (0 : ℚ) < 2 ^ e := by positivity
  obtain ⟨y, rfl⟩ : ∃ y, q = y * 2 ^ e := ⟨_, (zpow_mul_zpow_neg q e).symm⟩
  rw [mul_zpow_mul_zpow_neg]
  unfold RoundsTo at h
  dsimp only at h
  simp only [mul_le_mul_iff_of_pos_right scale, mul_lt_mul_iff_of_pos_right scale] at h edge
  unfold NearestEven
  split at h
  next even =>
    obtain ⟨atLow, atHigh⟩ := h
    -- the lower end, a quarter or a half below, is at most half a unit below
    have low : (m : ℚ) - 1 / 2 ≤ y := by
      split at atLow
      next atEdge => linarith [edge atEdge]
      next => exact atLow
    exact ⟨abs_le.2 ⟨by linarith, by linarith⟩, fun _ => even⟩
  next odd =>
    have notEdge : ¬(m = 2 ^ 52 ∧ minExp < e) := fun atEdge => odd (by rw [atEdge.1]; rfl)
    simp only [notEdge, if_false] at h
    obtain ⟨atLow, atHigh⟩ := h
    have inside : |y - m| < 1 / 2 := abs_lt.2 ⟨by linarith, by linarith⟩
    exact ⟨inside.le, fun tie => absurd tie (ne_of_lt inside)⟩

theorem RoundsTo.bounds {q : ℚ} {m : Nat} {e : Int} (h : RoundsTo q m e) :
    ((m : ℚ) - if m = 2 ^ 52 ∧ minExp < e then 1 / 4 else 1 / 2) * 2 ^ e ≤ q ∧ q ≤ (m + 1 / 2) * 2 ^ e := by
  unfold RoundsTo at h
  dsimp only at h
  split at h
  · exact h
  · exact ⟨h.1.le, h.2.le⟩

theorem roundParts_of_roundsTo {num den : Nat} (hd : 0 < den) {shift : Int} {m : Nat} {e : Int}
    (canonical : Canonical m e) (pos : 0 < m) (h : RoundsTo (num / den * 2 ^ shift) m e) :
    roundParts num den shift = some (m, e) := by
  obtain ⟨below53, least, atMost, normal⟩ := canonical
  obtain ⟨lowEnd, highEnd⟩ := h.bounds
  set q := (num : ℚ) / den * 2 ^ shift with hq
  have scale : (0 : ℚ) < 2 ^ e := by positivity
  have unit (k : Nat) : (2 : ℚ) ^ (e + OfNat.ofNat k) = 2 ^ (OfNat.ofNat k : Nat) * 2 ^ e := by
    rw [zpow_add₀ two_ne_zero, zpow_ofNat, mul_comm]
  -- the interval in units of `2^e`: the significand `y` of `q` lies around `m`
  obtain ⟨y, hy⟩ : ∃ y, q = y * 2 ^ e := ⟨_, (zpow_mul_zpow_neg q e).symm⟩
  rw [hy, mul_le_mul_iff_of_pos_right scale] at lowEnd highEnd
  have mLow : (1 : ℚ) ≤ m := by exact_mod_cast pos
  have mHigh : (m : ℚ) + 1 ≤ 2 ^ 53 := by exact_mod_cast below53
  have qPos : 0 < q := by
    have : 0 < y := by split at lowEnd <;> linarith
    rw [hy]; positivity
  have numPos : 0 < num := by
    rcases Nat.eq_zero_or_pos num with zero | pos
    · simp [hq, zero] at qPos
    · exact pos
  obtain ⟨low, high⟩ := value_binade numPos hd shift
  have under : q < 2 ^ (e + 53) := by
    rw [unit, hy]; exact mul_lt_mul_of_pos_right (by linarith) scale
  by_cases edgeBelow : m = 2 ^ 52 ∧ minExp < e ∧ q < 2 ^ (e + 52)
  · -- just below the bottom of a binade: one place finer, the significand rounds up to `2^53`
    obtain ⟨rfl, inner, short⟩ := edgeBelow
    have quarter : ((2 ^ 52 : Nat) : ℚ) - (1 / 4) = 2 ^ 52 - 1 / 4 := by push_cast; rfl
    simp only [inner, and_self, if_true, quarter] at lowEnd
    rw [unit, hy, mul_lt_mul_iff_of_pos_right scale] at short
    have exponent : max (floorLog2Ratio num den + shift - 52) minExp = e - 1 := by
      refine exponent_of_binade low high (by omega) ?_ (.inl ?_)
      · rw [show e - 1 + 53 = e + 52 by ring, unit, ← hq, hy]; exact mul_lt_mul_of_pos_right short scale
      · rw [show e - 1 + 52 = e + 51 by ring, unit, ← hq, hy]
        exact mul_le_mul_of_nonneg_right (by linarith) scale.le
    have finer : (2 : ℚ) ^ e = 2 * 2 ^ (e - 1) := by
      rw [← zpow_one_add₀ two_ne_zero]; ring_nf
    have carry : NearestEven (q * 2 ^ (-(e - 1))) (2 ^ 53) := by
      have twice : q * 2 ^ (-(e - 1)) = 2 * y := by
        rw [hy, finer, ← mul_assoc, mul_zpow_mul_zpow_neg, mul_comm]
      rw [twice]
      exact ⟨abs_le.2 ⟨by push_cast; linarith, by push_cast; linarith⟩, fun _ => rfl⟩
    have rounded := NearestEven.unique (nearest_scaled num hd shift (e - 1)) carry
    rw [roundParts_of_pos numPos exponent.symm rfl, if_pos rounded, if_neg (by omega), sub_add_cancel]
  · -- in the binade of `2^e`, or at the least exponent: the significand is the nearest one there
    have atBottom : m = 2 ^ 52 ∧ minExp < e → (m : ℚ) * 2 ^ e ≤ q := by
      rintro ⟨rfl, inner⟩
      have reached : 2 ^ (e + 52) ≤ q := not_lt.1 fun short => edgeBelow ⟨rfl, inner, short⟩
      rw [unit] at reached
      push_cast
      exact reached
    have binade : 2 ^ (e + 52) ≤ q ∨ e = minExp := by
      by_cases atLeast : e = minExp
      · exact .inr atLeast
      · left
        rw [unit]
        rcases Nat.eq_or_lt_of_le (normal.resolve_right atLeast) with bottom | above
        · have := atBottom ⟨bottom.symm, lt_of_le_of_ne least (Ne.symm atLeast)⟩
          rw [← bottom] at this; push_cast at this; exact this
        · have notEdge : ¬(m = 2 ^ 52 ∧ minExp < e) := fun h => by omega
          simp only [notEdge, if_false] at lowEnd
          have : (2 : ℚ) ^ 52 + 1 ≤ m := by exact_mod_cast above
          rw [hy]; exact mul_le_mul_of_nonneg_right (by linarith) scale.le
    have exponent := exponent_of_binade low high least under binade
    have rounded := NearestEven.unique (nearest_scaled num hd shift e) (nearest_of_roundsTo h atBottom)
    rw [roundParts_of_pos numPos exponent.symm rfl, if_neg (by rw [rounded]; omega), if_neg (by omega),
      rounded]

theorem round_of_roundParts {neg : Bool} {num den : Nat} {shift : Int} {m : Nat} {e : Int}
    (h : roundParts num den shift = some (m, e)) : round neg num den shift = pack neg m e := by
  simp only [round, h]

/-- `f` is the double nearest to `q`, a tie going to the even significand; a zero may have either
sign. -/
def IsNearest (f : Float) (q : ℚ) : Prop :=
  ∃ neg man exp, ofFloat f = .finite neg man exp ∧ (q < 0 → neg = true) ∧ (0 < q → neg = false) ∧
    RoundsTo |q| man exp

theorem round_isNearest (neg : Bool) {num den : Nat} (hd : 0 < den) {shift : Int}
    (small : (num : ℚ) / den * 2 ^ shift < 2 ^ (1023 : Int)) :
    IsNearest (round neg num den shift) ((if neg then -1 else 1) * (num / den * 2 ^ shift)) := by
  obtain ⟨⟨m, e⟩, parts⟩ := Option.isSome_iff_exists.1 (roundParts_isSome hd small)
  obtain ⟨canonical, rounds⟩ := roundParts_rounds hd parts
  have nonneg : (0 : ℚ) ≤ num / den * 2 ^ shift :=
    mul_nonneg (div_nonneg (Nat.cast_nonneg _) (Nat.cast_nonneg _)) (zpow_nonneg (by norm_num) _)
  refine ⟨neg, m, e, by rw [round_of_roundParts parts, ofFloat_pack neg canonical], ?_, ?_, ?_⟩
  · intro negative; cases neg
    · simp at negative; linarith
    · rfl
  · intro positive; cases neg
    · rfl
    · simp at positive; linarith
  · cases neg <;> simpa [abs_of_nonneg nonneg] using rounds

end Spreadsheet.Number.Binary
