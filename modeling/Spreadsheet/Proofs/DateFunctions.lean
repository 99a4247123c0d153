import Spreadsheet.Proofs.DayFirstText

/-!
`DATE`, `EOMONTH` and the functions that read their texts back.

`DATE(y, m, d)` counts months from the start of year 0, splits the count `12y + m - 1` by floor
division into a year and a month, and moves `d - 1` days on from the first of that month; `EOMONTH`
moves a date's month count and takes the last day of the month it lands in. Both write their result
as day-first text, and the other date functions read it back through `toDate`: exactly, when the year
has four digits, and as `#VALUE!` below year 1000. So `YEAR`, `MONTH`, `DAY` and `DAYS` recover what
`DATE` computed, and `EOMONTH` composes, only from year 1000 on.
-/

set_option autoImplicit false

namespace Spreadsheet.Functions

open Calendar

theorem intArg_int (args : List Value) (i : Nat) (n : Int) (at_i : args.getD i .null = .int n) :
    intArg args i = .ok n := by
  simp only [intArg, argAt, at_i]
  rfl

theorem toDate_dayFirstText_bind {D : Date} (valid : D.valid) {α : Type} (k : Date → Except Failure α) :
    (toDate (.str (dayFirstText D)) >>= k) = if 1000 ≤ D.year then k D else .error (.code .badValue) := by
  rw [toDate_dayFirstText valid]
  by_cases four : 1000 ≤ D.year
  · rw [if_pos four, if_pos four]
    rfl
  · rw [if_neg four, if_neg four]
    rfl

section Date

variable (y m d : Int)

/-- The year that `DATE(y, m, _)` lands in: the month count `12y + m - 1` from the start of year 0,
divided by 12 and rounded down. -/
def dateYear : Int := (12 * y + m - 1) / 12

def dateFirst : Date := ⟨(dateYear y m).toNat, ((12 * y + m - 1) % 12 + 1).toNat, 1⟩

theorem date_eq :
    date [.int y, .int m, .int d] =
      if dateYear y m < 1 ∨ 9999 < dateYear y m then .ok ErrorCode.badNumber.toValue
      else match (dateFirst y m).addDays (d - 1) with
        | some r => .ok (.str (dayFirstText r))
        | none => .error (.arith .overflow) := by
  have months : y * 12 + m - 1 = 12 * y + m - 1 := by rw [Int.mul_comm]
  have args := intArg_int [.int y, .int m, .int d]
  delta dateYear dateFirst
  simp only [date, args 0 y rfl, args 1 m rfl, args 2 d rfl, months,
    Int.fdiv_eq_ediv_of_nonneg _ (by decide : (0 : Int) ≤ 12), Int.fmod_eq_emod_of_nonneg _ (by decide : (0 : Int) ≤ 12),
    bind, Except.bind, pure, Except.pure, Bool.or_eq_true, decide_eq_true_eq, gt_iff_lt]
  by_cases outside : (12 * y + m - 1) / 12 < 1 ∨ 9999 < (12 * y + m - 1) / 12
  · rw [if_pos outside, if_pos outside]
  · rw [if_neg outside, if_neg outside]
    rfl

end Date

theorem days_dayFirstText {D D₂ : Date} (valid : D.valid) (valid₂ : D₂.valid) :
    days [.str (dayFirstText D), .str (dayFirstText D₂)] =
      if 1000 ≤ D.year ∧ 1000 ≤ D₂.year then .ok (.int (D.diff D₂)) else .error (.code .badValue) := by
  rw [show days [.str (dayFirstText D), .str (dayFirstText D₂)] = toDate (.str (dayFirstText D)) >>= fun b =>
      toDate (.str (dayFirstText D₂)) >>= fun a => pure (.int (b.diff a)) from rfl,
    toDate_dayFirstText_bind valid]
  by_cases four : 1000 ≤ D.year
  · rw [if_pos four, toDate_dayFirstText_bind valid₂]
    by_cases four₂ : 1000 ≤ D₂.year
    · rw [if_pos four₂, if_pos ⟨four, four₂⟩]
      rfl
    · rw [if_neg four₂, if_neg fun both => four₂ both.2]
  · rw [if_neg four, if_neg fun both => four both.1]

/-- `DATE(y, m, d)`. The month count `12y + m - 1` is split by floor division into a year `y'` and a
month; for `y'` outside 1 to 9999 the result is `#NUM!`. Otherwise it is the day-first text of the date
`D` of the calendar that lies `d - 1` days after the first of that month, and an overflow (`#NUM!` at
the call) when no date lies there. `YEAR`, `MONTH` and `DAY` read that text back as `D`'s fields, and
`DAYS` of two such texts is the difference of their day arguments, exactly when the years have four
digits: below year 1000 the text is `#VALUE!` to them. -/
theorem date_text_reads_back (y m d : Int) :
    ((dateYear y m < 1 ∨ 9999 < dateYear y m) → date [.int y, .int m, .int d] = .ok ErrorCode.badNumber.toValue) ∧
    (1 ≤ dateYear y m → dateYear y m ≤ 9999 →
      (∀ D : Date, D.valid → (D.ordinal : Int) ≠ (dateFirst y m).ordinal + (d - 1)) →
        date [.int y, .int m, .int d] = .error (.arith .overflow)) ∧
    ∀ D : Date, 1 ≤ dateYear y m → dateYear y m ≤ 9999 → D.valid →
      (D.ordinal : Int) = (dateFirst y m).ordinal + (d - 1) →
      date [.int y, .int m, .int d] = .ok (.str (dayFirstText D)) ∧
      year [.str (dayFirstText D)] = (if 1000 ≤ D.year then .ok (.int D.year) else .error (.code .badValue)) ∧
      month [.str (dayFirstText D)] = (if 1000 ≤ D.year then .ok (.int D.month) else .error (.code .badValue)) ∧
      day [.str (dayFirstText D)] = (if 1000 ≤ D.year then .ok (.int D.day) else .error (.code .badValue)) ∧
      ∀ (d₂ : Int) (D₂ : Date), D₂.valid → (D₂.ordinal : Int) = (dateFirst y m).ordinal + (d₂ - 1) →
        days [.str (dayFirstText D), .str (dayFirstText D₂)] =
          if 1000 ≤ D.year ∧ 1000 ≤ D₂.year then .ok (.int (d - d₂)) else .error (.code .badValue) := by
  refine ⟨fun outside => by rw [date_eq, if_pos outside], fun low high nowhere => ?_,
    fun D low high valid shifted => ⟨?_, toDate_dayFirstText_bind valid _, toDate_dayFirstText_bind valid _,
      toDate_dayFirstText_bind valid _, fun d₂ D₂ valid₂ shifted₂ => ?_⟩⟩
  · rw [date_eq, if_neg (by omega), Date.addDays_eq_none_iff.2 nowhere]
  · rw [date_eq, if_neg (by omega), Date.addDays_eq_some_iff.2 ⟨valid, shifted⟩]
  · -- the two dates are `d - 1` and `d₂ - 1` days after the same first day
    have apart : D.diff D₂ = d - d₂ := by
      unfold Date.diff
      omega
    rw [days_dayFirstText valid valid₂, apart]

theorem date_text_unread_below_year_1000 :
    date [.int 999, .int 1, .int 1] = .ok (.str (dayFirstText ⟨999, 1, 1⟩)) ∧
      year [.str (dayFirstText ⟨999, 1, 1⟩)] = .error (.code .badValue) ∧
      days [.str (dayFirstText ⟨2024, 3, 1⟩), .str (dayFirstText ⟨2024, 2, 28⟩)] = .ok (.int 2) := by
  obtain ⟨-, -, early⟩ := date_text_reads_back 999 1 1
  obtain ⟨written, unread, -, -, -⟩ := early ⟨999, 1, 1⟩ (by decide) (by decide) (by decide) (by decide)
  obtain ⟨-, -, leap⟩ := date_text_reads_back 2024 3 1
  have apart := (leap ⟨2024, 3, 1⟩ (by decide) (by decide) (by decide) (by decide)).2.2.2.2 (-1) ⟨2024, 2, 28⟩
    (by decide) (by decide)
  refine ⟨written, ?_, ?_⟩
  · rw [unread, if_neg (by decide)]
  · rw [apart, if_pos (by decide)]
    rfl

/-- What `EOMONTH` gives for the month count `total = 12 · year + month - 1`: the day-first text of the
last day of that month, a domain failure (`#NUM!` at the call) outside years 1 to 9999. -/
def endOfMonthAt (total : Int) : Outcome :=
  if total / 12 < 1 ∨ 9999 < total / 12 then .error (.arith .domain)
  else .ok (.str (dayFirstText ⟨(total / 12).toNat, (total % 12 + 1).toNat,
    monthLength (total / 12).toNat (total % 12 + 1).toNat⟩))

theorem endOfMonth_eq (v : Value) (a : Int) :
    endOfMonth [v, .int a] = toDate v >>= fun S => endOfMonthAt (((S.year * 12 + S.month - 1 : Nat) : Int) + a) := by
  simp only [endOfMonth, dateArg, argAt, List.getD_cons_zero, intArg_int [v, .int a] 1 a rfl, endOfMonthAt,
    Int.fdiv_eq_ediv_of_nonneg _ (by decide : (0 : Int) ≤ 12), Int.fmod_eq_emod_of_nonneg _ (by decide : (0 : Int) ≤ 12),
    bind, Except.bind, Bool.or_eq_true, decide_eq_true_eq, gt_iff_lt]
  cases toDate v with
  | error e => rfl
  | ok S => split <;> rfl

theorem endOfMonthAt_within {total : Int} (low : 12 ≤ total) (high : total < 120000) :
    ∃ E : Date, E.valid ∧ 12 * (E.year : Int) + E.month = total + 1 ∧ E.day = monthLength E.year E.month ∧
      endOfMonthAt total = .ok (.str (dayFirstText E)) := by
  obtain ⟨Y, year⟩ : ∃ Y : Nat, (total / 12).toNat = Y := ⟨_, rfl⟩
  obtain ⟨M, month⟩ : ∃ M : Nat, (total % 12 + 1).toNat = M := ⟨_, rfl⟩
  have bounds := monthLength_bounds Y M
  have valid : (⟨Y, M, monthLength Y M⟩ : Date).valid := by
    rw [Date.valid_iff]
    dsimp only
    exact ⟨by omega, by omega, by omega, by omega, by omega, le_rfl⟩
  refine ⟨⟨Y, M, monthLength Y M⟩, valid, by dsimp only; omega, rfl, ?_⟩
  rw [endOfMonthAt, if_neg (by omega), year, month]

/-- `EOMONTH(s, a)` for a text `s` read as the date `S`, months counted as `12 · year + month`: the last
day of the month `a` months after `S`'s, `#NUM!` when that month is outside years 1 to 9999. Applied
again with `b` it is `EOMONTH(s, a + b)`, exactly when the year it landed in has four digits: below
year 1000 its text is `#VALUE!`. -/
theorem endOfMonth_composes {s : String} {S : Date} (read : toDate (.str s) = .ok S) (a : Int) :
    let target := 12 * (S.year : Int) + S.month + a
    (target < 13 ∨ 120000 < target → endOfMonth [.str s, .int a] = .error (.arith .domain)) ∧
    (13 ≤ target → target ≤ 120000 →
      ∃ E : Date, E.valid ∧ 12 * (E.year : Int) + E.month = target ∧ E.day = monthLength E.year E.month ∧
        endOfMonth [.str s, .int a] = .ok (.str (dayFirstText E)) ∧
        ∀ b : Int, endOfMonth [.str (dayFirstText E), .int b] =
          if 1000 ≤ E.year then endOfMonth [.str s, .int (a + b)] else .error (.code .badValue)) := by
  intro target
  have m1 := ((Date.valid_iff S).1 (valid_of_toDate_str read)).2.2.1
  -- the month count of `EOMONTH(s, a)`, from year 0
  have total : ((S.year * 12 + S.month - 1 : Nat) : Int) + a = target - 1 := by omega
  have once : endOfMonth [.str s, .int a] = endOfMonthAt (target - 1) := by
    rw [endOfMonth_eq, read]
    exact congrArg endOfMonthAt total
  refine ⟨fun outside => by rw [once, endOfMonthAt, if_pos (by omega)], fun low high => ?_⟩
  obtain ⟨E, valid, count, last, landed⟩ := @endOfMonthAt_within (target - 1) (by omega) (by omega)
  refine ⟨E, valid, by omega, last, by rw [once, landed], fun b => ?_⟩
  rw [endOfMonth_eq, toDate_dayFirstText_bind valid]
  by_cases four : 1000 ≤ E.year
  · -- read back, the month count moves on from where the first call landed
    have e1 := ((Date.valid_iff E).1 valid).2.2.1
    have again : ((E.year * 12 + E.month - 1 : Nat) : Int) + b =
        ((S.year * 12 + S.month - 1 : Nat) : Int) + (a + b) := by
      omega
    rw [if_pos four, if_pos four, endOfMonth_eq, read]
    exact congrArg endOfMonthAt again
  · rw [if_neg four, if_neg four]

theorem endOfMonth_through_year_924 :
    endOfMonth [.str (dayFirstText ⟨2024, 1, 15⟩), .int (-13200)] = .ok (.str (dayFirstText ⟨924, 1, 31⟩)) ∧
      endOfMonth [.str (dayFirstText ⟨924, 1, 31⟩), .int 13200] = .error (.code .badValue) := by
  have read : toDate (.str (dayFirstText ⟨2024, 1, 15⟩)) = .ok ⟨2024, 1, 15⟩ := by
    rw [toDate_dayFirstText (by decide), if_pos (by decide)]
  obtain ⟨-, within⟩ := endOfMonth_composes read (-13200)
  obtain ⟨E, valid, target, last, once, compose⟩ := within (by decide) (by decide)
  have fields := (Date.valid_iff E).1 valid
  obtain ⟨year, month, day⟩ := E
  obtain ⟨rfl, rfl⟩ : year = 924 ∧ month = 1 := by
    simp only at target fields
    omega
  obtain rfl : day = 31 := last
  refine ⟨once, ?_⟩
  rw [compose, if_neg (by decide)]

end Spreadsheet.Functions
