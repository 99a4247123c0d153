import Spreadsheet.Calendar.Date
import Mathlib.Order.Monotone.Basic

/-!
The day count of the calendar.

`Date.ordinal` counts the days of the proleptic Gregorian calendar from 0001-01-01, and consecutive days
have consecutive ordinals. It is one to one on the dates of years 1 to 9999, which fill the ordinals
from 1 to `maxOrdinal`, and `Date.ofOrdinal` inverts it there: the arithmetic of cycles of 400, 100, 4
and 1 years lands on the right year, and the search over the months on the right day. Adding days
to a date is therefore exact: `addDays` gives the date whose ordinal is shifted, and nothing exactly
when no date of the calendar lies there.
-/

set_option autoImplicit false

namespace Spreadsheet.Calendar

theorem isLeap_iff (y : Nat) : isLeap y = true ↔ 4 ∣ y ∧ (¬100 ∣ y ∨ 400 ∣ y) := by
  simp [isLeap, Nat.dvd_iff_mod_eq_zero]

theorem monthLength_bounds (y m : Nat) : 28 ≤ monthLength y m ∧ monthLength y m ≤ 31 := by
  unfold monthLength
  split
  · split <;> omega
  all_goals omega

theorem daysBeforeMonth_one (y : Nat) : daysBeforeMonth y 1 = 0 := rfl

theorem daysBeforeMonth_succ (y : Nat) {m : Nat} (hm : 1 ≤ m) :
    daysBeforeMonth y (m + 1) = daysBeforeMonth y m + monthLength y m := by
  obtain ⟨k, rfl⟩ : ∃ k, m = k + 1 := ⟨m - 1, by omega⟩
  simp [daysBeforeMonth, List.range_succ, List.foldl_append]

theorem daysBeforeMonth_thirteen (y : Nat) :
    daysBeforeMonth y 13 = if isLeap y then 366 else 365 := by
  cases leap : isLeap y <;> simp [daysBeforeMonth, monthLength, leap, List.range_succ]

theorem daysBeforeMonth_monotone (y : Nat) : Monotone (daysBeforeMonth y) := by
  refine monotone_nat_of_le_succ fun m => ?_
  rcases Nat.eq_zero_or_pos m with rfl | pos
  · simp [daysBeforeMonth]
  · rw [daysBeforeMonth_succ y pos]
    omega

theorem daysBeforeYear_succ {y : Nat} (hy : 1 ≤ y) :
    daysBeforeYear (y + 1) = daysBeforeYear y + daysBeforeMonth y 13 := by
  obtain ⟨p, rfl⟩ : ∃ p, y = p + 1 := ⟨y - 1, by omega⟩
  have fewer : p / 100 ≤ p / 4 := Nat.div_le_div_left (by decide) (by decide)
  -- the multiples of 4, 100 and 400 up to `p + 1` are one more than up to `p` where it is one
  simp only [daysBeforeMonth_thirteen, daysBeforeYear, Nat.add_sub_cancel, Nat.succ_div]
  by_cases c400 : 400 ∣ p + 1
  · have c100 : 100 ∣ p + 1 := Nat.dvd_trans (by decide) c400
    have c4 : 4 ∣ p + 1 := Nat.dvd_trans (by decide) c100
    simp only [c4, c100, c400, (isLeap_iff _).2 ⟨c4, .inr c400⟩, if_true]
    omega
  by_cases c100 : 100 ∣ p + 1
  · have c4 : 4 ∣ p + 1 := Nat.dvd_trans (by decide) c100
    have common : isLeap (p + 1) = false :=
      Bool.eq_false_iff.2 fun leap => c400 (((isLeap_iff _).1 leap).2.resolve_left (not_not.2 c100))
    simp only [c4, c100, c400, common, Bool.false_eq_true, if_true, if_false]
    omega
  by_cases c4 : 4 ∣ p + 1
  · simp only [c4, c100, c400, (isLeap_iff _).2 ⟨c4, .inl c100⟩, if_true, if_false]
    omega
  · have common : isLeap (p + 1) = false := Bool.eq_false_iff.2 fun leap => c4 ((isLeap_iff _).1 leap).1
    simp only [c4, c100, c400, common, Bool.false_eq_true, if_false]
    omega

theorem daysBeforeYear_monotone : Monotone daysBeforeYear := by
  refine monotone_nat_of_le_succ fun y => ?_
  rcases Nat.eq_zero_or_pos y with rfl | pos
  · exact Nat.zero_le _
  · rw [daysBeforeYear_succ pos]
    omega

namespace Date

theorem valid_iff (d : Date) :
    d.valid = true ↔ 1 ≤ d.year ∧ d.year ≤ 9999 ∧ 1 ≤ d.month ∧ d.month ≤ 12 ∧ 1 ≤ d.day ∧
      d.day ≤ monthLength d.year d.month := by
  unfold valid minYear maxYear
  simp only [Bool.and_eq_true, decide_eq_true_eq, and_assoc]

section Valid

variable {a b : Date}

theorem ordinal_mem_year (va : a.valid) :
    daysBeforeYear a.year < a.ordinal ∧ a.ordinal ≤ daysBeforeYear (a.year + 1) := by
  obtain ⟨y1, -, m1, m12, d1, dm⟩ := (valid_iff a).1 va
  have month := daysBeforeMonth_succ a.year m1
  have rest := daysBeforeMonth_monotone a.year (show a.month + 1 ≤ 13 by omega)
  rw [daysBeforeYear_succ y1]
  unfold ordinal
  omega

theorem ordinal_pos (va : a.valid) : 1 ≤ a.ordinal := by
  have := (ordinal_mem_year va).1
  omega

theorem ordinal_le_maxOrdinal (va : a.valid) : a.ordinal ≤ maxOrdinal := by
  have inYear := (ordinal_mem_year va).2
  have last := daysBeforeYear_monotone (show a.year + 1 ≤ 10000 by have := (valid_iff a).1 va; omega)
  have : daysBeforeYear 10000 = maxOrdinal := rfl
  omega

theorem ordinal_lt_of_year_lt (va : a.valid) (vb : b.valid) (lt : a.year < b.year) :
    a.ordinal < b.ordinal :=
  calc a.ordinal ≤ daysBeforeYear (a.year + 1) := (ordinal_mem_year va).2
    _ ≤ daysBeforeYear b.year := daysBeforeYear_monotone lt
    _ < b.ordinal := (ordinal_mem_year vb).1

theorem ordinal_lt_of_month_lt (va : a.valid) (vb : b.valid) (year : a.year = b.year)
    (lt : a.month < b.month) : a.ordinal < b.ordinal := by
  obtain ⟨-, -, m1, -, -, dm⟩ := (valid_iff a).1 va
  obtain ⟨-, -, -, -, d1, -⟩ := (valid_iff b).1 vb
  have month := daysBeforeMonth_succ a.year m1
  have later := daysBeforeMonth_monotone a.year (show a.month + 1 ≤ b.month by omega)
  unfold ordinal
  rw [← year] at *
  omega

theorem ordinal_injective (va : a.valid) (vb : b.valid) (same : a.ordinal = b.ordinal) : a = b := by
  have year : a.year = b.year := by
    rcases Nat.lt_trichotomy a.year b.year with lt | eq | gt
    · exact absurd same (ordinal_lt_of_year_lt va vb lt).ne
    · exact eq
    · exact absurd same (ordinal_lt_of_year_lt vb va gt).ne'
  have month : a.month = b.month := by
    rcases Nat.lt_trichotomy a.month b.month with lt | eq | gt
    · exact absurd same (ordinal_lt_of_month_lt va vb year lt).ne
    · exact eq
    · exact absurd same (ordinal_lt_of_month_lt vb va year.symm gt).ne'
  have day : a.day = b.day := by
    unfold ordinal at same
    rw [year, month] at same
    omega
  cases a
  cases b
  simp only [Date.mk.injEq]
  exact ⟨year, month, day⟩

end Valid

theorem ordinal_next_month (y : Nat) {m : Nat} (hm : 1 ≤ m) :
    (⟨y, m + 1, 1⟩ : Date).ordinal = (⟨y, m, monthLength y m⟩ : Date).ordinal + 1 := by
  simp only [ordinal, daysBeforeMonth_succ y hm]
  omega

theorem ordinal_next_year {y : Nat} (hy : 1 ≤ y) :
    (⟨y + 1, 1, 1⟩ : Date).ordinal = (⟨y, 12, 31⟩ : Date).ordinal + 1 := by
  -- December is the last month, of 31 days
  have december : daysBeforeMonth y 13 = daysBeforeMonth y 12 + 31 := daysBeforeMonth_succ y (by omega)
  simp only [ordinal, daysBeforeYear_succ hy, daysBeforeMonth_one]
  omega

theorem findMonth_spec (year : Nat) {m left fuel : Nat} (hm : 1 ≤ m) (months : m + fuel = 13)
    (inYear : daysBeforeMonth year m + left < daysBeforeMonth year 13) :
    let d := ofOrdinal.findMonth year m left fuel
    d.year = year ∧ 1 ≤ d.month ∧ d.month ≤ 12 ∧ 1 ≤ d.day ∧ d.day ≤ monthLength year d.month ∧
      daysBeforeMonth year d.month + d.day = daysBeforeMonth year m + left + 1 := by
  induction fuel generalizing m left with
  | zero =>
    obtain rfl : m = 13 := by omega
    omega
  | succ fuel ih =>
    rw [ofOrdinal.findMonth]
    by_cases here : left < monthLength year m
    · rw [if_pos here]
      dsimp only
      exact ⟨rfl, hm, by omega, by omega, here, by omega⟩
    · rw [if_neg here]
      have next := daysBeforeMonth_succ year hm
      obtain ⟨hy, m1, m12, d1, dm, found⟩ := @ih (m + 1) (left - monthLength year m) (by omega) (by omega) (by omega)
      exact ⟨hy, m1, m12, d1, dm, by rw [found]; omega⟩

theorem cycles_split (n0 c400 r400 c100 r100 c4 r4 c1 doy : Nat)
    (h400 : c400 = n0 / 146097) (hr400 : r400 = n0 % 146097)
    (h100 : c100 = min (r400 / 36524) 3) (hr100 : r100 = r400 - c100 * 36524)
    (h4 : c4 = r100 / 1461) (hr4 : r4 = r100 % 1461) (h1 : c1 = min (r4 / 365) 3)
    (hdoy : doy = r4 - c1 * 365) :
    let year := c400 * 400 + c100 * 100 + c4 * 4 + c1 + 1
    daysBeforeYear year + doy = n0 ∧ doy < daysBeforeMonth year 13 := by
  intro year
  have small : c1 ≤ 3 ∧ c100 ≤ 3 ∧ c4 ≤ 24 := by omega
  have parts : n0 = c400 * 146097 + c100 * 36524 + c4 * 1461 + c1 * 365 + doy := by omega
  -- the leap days before `year`, one per cycle of 4 years less the centuries not divisible by 400
  have q4 : (year - 1) / 4 = c400 * 100 + c100 * 25 + c4 := by omega
  have q100 : (year - 1) / 100 = c400 * 4 + c100 := by omega
  have q400 : (year - 1) / 400 = c400 := by omega
  refine ⟨?_, ?_⟩
  · simp only [daysBeforeYear]
    rw [q4, q100, q400]
    omega
  · -- only the last day of a 4-year cycle, short of a century not divisible by 400, is day 366
    have lastDay : doy ≤ 364 ∨ doy = 365 ∧ 4 ∣ year ∧ (¬100 ∣ year ∨ 400 ∣ year) := by omega
    rw [daysBeforeMonth_thirteen]
    rcases lastDay with short | ⟨rfl, leap⟩
    · split <;> omega
    · rw [if_pos ((isLeap_iff year).2 leap)]
      omega

theorem ofOrdinal_cycles {n : Nat} (pos : 1 ≤ n) :
    ∃ year doy, ofOrdinal n = ofOrdinal.findMonth year 1 doy 12 ∧ daysBeforeYear year + doy = n - 1 ∧
      doy < daysBeforeMonth year 13 ∧ 1 ≤ year ∧ (n ≤ maxOrdinal → year ≤ 9999) := by
  refine ⟨_, _, rfl, ?_⟩
  have split := cycles_split (n - 1) _ _ _ _ _ _ _ _ rfl rfl rfl rfl rfl rfl rfl rfl
  refine ⟨split.1, split.2, by omega, fun below => ?_⟩
  unfold maxOrdinal at below
  omega

theorem ofOrdinal_spec {n : Nat} (pos : 1 ≤ n) :
    (ofOrdinal n).ordinal = n ∧ (n ≤ maxOrdinal → (ofOrdinal n).valid) := by
  obtain ⟨year, doy, eq, start, inYear, first, last⟩ := ofOrdinal_cycles pos
  obtain ⟨hy, m1, m12, d1, dm, days⟩ :=
    @findMonth_spec year 1 doy 12 le_rfl rfl (by rw [daysBeforeMonth_one]; omega)
  rw [daysBeforeMonth_one] at days
  rw [eq]
  refine ⟨?_, fun below => ?_⟩
  · unfold ordinal
    rw [hy]
    omega
  · have := last below
    rw [valid_iff, hy]
    omega

theorem ordinal_ofOrdinal {n : Nat} (pos : 1 ≤ n) : (ofOrdinal n).ordinal = n := (ofOrdinal_spec pos).1

theorem valid_ofOrdinal {n : Nat} (pos : 1 ≤ n) (le : n ≤ maxOrdinal) : (ofOrdinal n).valid :=
  (ofOrdinal_spec pos).2 le

section AddDays

variable {d r : Date} {k : Int}

theorem addDays_eq : d.addDays k = if 1 ≤ (d.ordinal : Int) + k ∧ (d.ordinal : Int) + k ≤ maxOrdinal
    then some (ofOrdinal ((d.ordinal : Int) + k).toNat) else none := by
  simp only [addDays, Bool.and_eq_true, decide_eq_true_eq]

theorem addDays_eq_some_iff : d.addDays k = some r ↔ r.valid ∧ (r.ordinal : Int) = d.ordinal + k := by
  rw [addDays_eq]
  constructor
  · intro h
    by_cases inRange : 1 ≤ (d.ordinal : Int) + k ∧ (d.ordinal : Int) + k ≤ maxOrdinal
    · rw [if_pos inRange, Option.some_inj] at h
      subst h
      have pos : 1 ≤ ((d.ordinal : Int) + k).toNat := by omega
      refine ⟨valid_ofOrdinal pos (by unfold maxOrdinal at inRange ⊢; omega), ?_⟩
      rw [ordinal_ofOrdinal pos]
      omega
    · rw [if_neg inRange] at h
      cases h
  · rintro ⟨vr, shifted⟩
    have low := ordinal_pos vr
    have high := ordinal_le_maxOrdinal vr
    rw [if_pos (by omega)]
    have pos : 1 ≤ ((d.ordinal : Int) + k).toNat := by omega
    have same : (ofOrdinal ((d.ordinal : Int) + k).toNat).ordinal = r.ordinal := by
      rw [ordinal_ofOrdinal pos]
      omega
    rw [ordinal_injective (valid_ofOrdinal pos (by omega)) vr same]

theorem addDays_eq_none_iff :
    d.addDays k = none ↔ ∀ r : Date, r.valid → (r.ordinal : Int) ≠ d.ordinal + k := by
  constructor
  · intro none r vr shifted
    rw [(addDays_eq_some_iff.2 ⟨vr, shifted⟩)] at none
    cases none
  · intro nowhere
    cases h : d.addDays k with
    | none => rfl
    | some r =>
      obtain ⟨vr, shifted⟩ := addDays_eq_some_iff.1 h
      exact absurd shifted (nowhere r vr)

end AddDays

end Date

end Spreadsheet.Calendar
