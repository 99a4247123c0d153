import Spreadsheet.Proofs.DoubleBits
import Spreadsheet.Number.Num
import Mathlib

/-!
The order of numbers.

Every number but NaN has an exact value among the rationals and the two infinities (`Num.exactValue?`):
an integer is itself, a finite double is `±m · 2^e` for the parts `Binary.ofFloat` reads, and an
infinity is the bottom or the top. The comparison of formulas (`Num.compare?`) compares these values
(`Num.compare?_eq`). Two doubles are compared through the unpacked floats of the core library, which
compare exponents first and significands then; on the canonical parts of doubles that is the order
of their values (`cmp_scaled`). An integer and a double are compared through exact products. So
`le` is transitive on all numbers, and of two numbers that are not NaN one is below the other unless
they are equal.
-/

set_option autoImplicit false

namespace Spreadsheet.Number.Binary

open Float.Model
open Float.Model.UnpackedFloat (Sign)

def sign (isNeg : Bool) : Sign := if isNeg then .negative else .positive

def unpacked : Binary → UnpackedFloat
  | .nan => .notANumber
  | .inf isNeg => .infinity (sign isNeg)
  | .finite isNeg m e =>
    if h : m = 0 then .zero (sign isNeg) else .finite (sign isNeg) m e (Nat.pos_of_ne_zero h)

theorem unpack_eq_unpacked (x : Float) : x.toModel.unpack = (ofFloat x).unpacked := by
  obtain ⟨s, E, F, hs, hE, hF, bits⟩ := exists_word (toBits_lt x)
  have signBit := toNat_sign_toBits bits hs hE hF
  rw [unpack_toModel bits hE hF, ofFloat_of_bits bits hs hE hF]
  generalize Sign.ofBitVec (@UnpackedFloat.unpackSign Format.binary64 x.toBits.toBitVec) = sg at signBit ⊢
  have read : sg = sign (s == 1) := by
    cases sg <;> simp only [Sign.toBitVec] at signBit <;> subst signBit <;> rfl
  subst read
  unfold unpackFields
  by_cases top : E = 2047
  · by_cases empty : F = 0 <;> simp [top, empty, unpacked]
  · by_cases zero : E = 0
    · by_cases empty : F = 0 <;> simp [zero, empty, unpacked, minExp]
    · simp [top, zero, unpacked, Nat.add_comm]

/-- The exact value of a double, `none` for NaN: a rational, or the bottom or the top for an
infinity. -/
def exactValue? : Binary → Option (WithBot (WithTop ℚ))
  | .nan => none
  | .inf isNeg => some (if isNeg then ⊥ else ⊤)
  | .finite isNeg m e => some (((if isNeg then -(m : ℚ) else m) * 2 ^ e : ℚ) : WithTop ℚ)

/-- Parts as `ofFloat` reads them: the significand and exponent of a finite double are canonical. -/
def IsRead : Binary → Prop
  | .finite _ m e => Canonical m e
  | _ => True

theorem isRead_ofFloat (x : Float) : (ofFloat x).IsRead := by
  cases h : ofFloat x with
  | finite _ _ _ => exact ofFloat_canonical h
  | _ => trivial

theorem cmp_coe (x y : ℚ) :
    cmp (((x : WithTop ℚ) : WithBot (WithTop ℚ))) ((y : WithTop ℚ) : WithBot (WithTop ℚ)) = cmp x y :=
  (WithBot.coe_strictMono.comp WithTop.coe_strictMono).cmp_map_eq x y

theorem cmp_bot_coe (x : ℚ) : cmp (⊥ : WithBot (WithTop ℚ)) ((x : WithTop ℚ) : WithBot (WithTop ℚ)) = .lt :=
  (cmp_eq_lt_iff _ _).2 (WithBot.bot_lt_coe _)

theorem cmp_top_coe (x : ℚ) : cmp (⊤ : WithBot (WithTop ℚ)) ((x : WithTop ℚ) : WithBot (WithTop ℚ)) = .gt :=
  (cmp_eq_gt_iff _ _).2 (WithBot.coe_lt_coe.2 (WithTop.coe_lt_top x))

theorem cmp_coe_bot (x : ℚ) : cmp ((x : WithTop ℚ) : WithBot (WithTop ℚ)) ⊥ = .gt := by
  rw [← cmp_swap, cmp_bot_coe]; rfl

theorem cmp_coe_top (x : ℚ) : cmp ((x : WithTop ℚ) : WithBot (WithTop ℚ)) ⊤ = .lt := by
  rw [← cmp_swap, cmp_top_coe]; rfl

theorem cmp_bot_top : cmp (⊥ : WithBot (WithTop ℚ)) ⊤ = .lt := (cmp_eq_lt_iff _ _).2 bot_lt_top

theorem cmp_top_bot : cmp (⊤ : WithBot (WithTop ℚ)) ⊥ = .gt := (cmp_eq_gt_iff _ _).2 bot_lt_top

theorem scaled_lt_of_exp_lt {m1 m2 : Nat} {e1 e2 : Int} (c1 : Canonical m1 e1) (c2 : Canonical m2 e2)
    (less : e1 < e2) : (m1 : ℚ) * 2 ^ e1 < m2 * 2 ^ e2 := by
  obtain ⟨below, least, -, -⟩ := c1
  obtain ⟨-, -, -, normal⟩ := c2
  have normal : 2 ^ 52 ≤ m2 := normal.resolve_right (by omega)
  have castBelow : (m1 : ℚ) < 2 ^ 53 := by exact_mod_cast below
  have castNormal : (2 : ℚ) ^ 52 ≤ m2 := by exact_mod_cast normal
  calc (m1 : ℚ) * 2 ^ e1 < 2 ^ 53 * 2 ^ e1 := mul_lt_mul_of_pos_right castBelow (zpow_pos two_pos e1)
    _ = 2 ^ 52 * 2 ^ (e1 + 1) := by rw [zpow_add₀ two_ne_zero, zpow_one]; ring
    _ ≤ 2 ^ 52 * 2 ^ e2 := mul_le_mul_of_nonneg_left (zpow_le_zpow_right₀ one_le_two (by omega)) (by positivity)
    _ ≤ m2 * 2 ^ e2 := mul_le_mul_of_nonneg_right castNormal (zpow_nonneg zero_le_two e2)

theorem cmp_scaled {m1 m2 : Nat} {e1 e2 : Int} (c1 : Canonical m1 e1) (c2 : Canonical m2 e2) :
    cmp ((m1 : ℚ) * 2 ^ e1) (m2 * 2 ^ e2) = (compare e1 e2).then (compare m1 m2) := by
  rcases Int.lt_trichotomy e1 e2 with less | same | more
  · rw [Int.compare_eq_lt.2 less]
    exact (cmp_eq_lt_iff _ _).2 (scaled_lt_of_exp_lt c1 c2 less)
  · subst same
    rw [Int.compare_eq_eq.2 rfl, cmp_mul_pos_right (zpow_pos two_pos e1), Nat.strictMono_cast.cmp_map_eq,
      cmp_eq_compare]
    rfl
  · rw [Int.compare_eq_gt.2 more]
    exact (cmp_eq_gt_iff _ _).2 (scaled_lt_of_exp_lt c2 c1 more)

theorem scaled_pos {m : Nat} (pos : 0 < m) (e : Int) : 0 < (m : ℚ) * 2 ^ e :=
  mul_pos (by exact_mod_cast pos) (zpow_pos two_pos e)

theorem compare_notANumber (u : UnpackedFloat) : UnpackedFloat.compare u .notANumber = none := by
  cases u <;> rfl

theorem compare_unpacked_finite {na nb : Bool} {ma mb : Nat} {ea eb : Int} (ca : Canonical ma ea)
    (cb : Canonical mb eb) :
    UnpackedFloat.compare (finite na ma ea).unpacked (finite nb mb eb).unpacked =
      some (cmp ((if na then -(ma : ℚ) else ma) * 2 ^ ea) ((if nb then -(mb : ℚ) else mb) * 2 ^ eb)) := by
  by_cases za : ma = 0 <;> by_cases zb : mb = 0
  · simp [unpacked, za, zb, UnpackedFloat.compare]
  · have pb := scaled_pos (Nat.pos_of_ne_zero zb) eb
    cases nb
    · simp [unpacked, za, zb, sign, UnpackedFloat.compare, (cmp_eq_lt_iff _ _).2 pb]
    · simp [unpacked, za, zb, sign, UnpackedFloat.compare, (cmp_eq_gt_iff _ _).2 (neg_neg_of_pos pb)]
  · have pa := scaled_pos (Nat.pos_of_ne_zero za) ea
    cases na
    · simp [unpacked, za, zb, sign, UnpackedFloat.compare, (cmp_eq_gt_iff _ _).2 pa]
    · simp [unpacked, za, zb, sign, UnpackedFloat.compare, (cmp_eq_lt_iff _ _).2 (neg_neg_of_pos pa)]
  · have pa := scaled_pos (Nat.pos_of_ne_zero za) ea
    have pb := scaled_pos (Nat.pos_of_ne_zero zb) eb
    -- within a sign the parts decide, reversed for negative values
    cases na <;> cases nb
    · simp [unpacked, za, zb, sign, UnpackedFloat.compare, cmp_scaled ca cb]
    · simp [unpacked, za, zb, sign, UnpackedFloat.compare,
        (cmp_eq_gt_iff _ _).2 ((neg_neg_of_pos pb).trans pa)]
    · simp [unpacked, za, zb, sign, UnpackedFloat.compare,
        (cmp_eq_lt_iff _ _).2 ((neg_neg_of_pos pa).trans pb)]
    · simp only [unpacked, za, zb, sign, UnpackedFloat.compare, neg_mul, dite_false, if_true]
      have negation : StrictAnti fun q : ℚ => -q := fun _ _ less => neg_lt_neg less
      rw [negation.cmp_map_eq, ← cmp_swap, cmp_scaled ca cb]

theorem compare_unpacked {a b : Binary} (ha : a.IsRead) (hb : b.IsRead) :
    UnpackedFloat.compare a.unpacked b.unpacked = a.exactValue?.bind fun x => b.exactValue?.map fun y => cmp x y := by
  cases b with
  | nan => simp [unpacked, exactValue?, compare_notANumber]
  | inf nb =>
    cases a with
    | nan => rfl
    | inf na =>
      cases na <;> cases nb <;> simp [unpacked, exactValue?, sign, UnpackedFloat.compare, cmp_bot_top, cmp_top_bot] <;> rfl
    | finite na ma ea =>
      -- an infinity is above or below every finite double, whatever its value
      have infinity : UnpackedFloat.compare (finite na ma ea).unpacked (inf nb).unpacked =
          some (if nb then .gt else .lt) := by
        by_cases za : ma = 0 <;> cases nb <;> simp [unpacked, za, sign, UnpackedFloat.compare]
      rw [infinity]
      cases nb <;> simp only [exactValue?, Option.bind_some, Option.map_some, if_true, Bool.false_eq_true,
        if_false, cmp_coe_top, cmp_coe_bot]
  | finite nb mb eb =>
    cases a with
    | nan => rfl
    | inf na =>
      have infinity : UnpackedFloat.compare (inf na).unpacked (finite nb mb eb).unpacked =
          some (if na then .lt else .gt) := by
        by_cases zb : mb = 0 <;> cases na <;> simp [unpacked, zb, sign, UnpackedFloat.compare]
      rw [infinity]
      cases na <;> simp only [exactValue?, Option.bind_some, Option.map_some, if_true, Bool.false_eq_true,
        if_false, cmp_top_coe, cmp_bot_coe]
    | finite na ma ea =>
      rw [compare_unpacked_finite ha hb]
      simp [exactValue?, cmp_coe]

theorem isNaN_eq (x : Float) : x.isNaN = (ofFloat x).exactValue?.isNone := by
  show x.toModel.unpack.isNaN = _
  rw [unpack_eq_unpacked]
  cases ofFloat x with
  | nan => rfl
  | inf _ => rfl
  | finite _ m _ => by_cases zero : m = 0 <;> simp [unpacked, exactValue?, zero, UnpackedFloat.isNaN]

end Spreadsheet.Number.Binary

namespace Spreadsheet

open Number Binary Float.Model

theorem compare_int_eq_cmp (a b : Int) : compare a b = cmp (a : ℚ) (b : ℚ) := by
  rcases Int.lt_trichotomy a b with less | same | more
  · rw [Int.compare_eq_lt.2 less, (cmp_eq_lt_iff _ _).2 (Int.cast_lt.2 less)]
  · rw [same, Int.compare_eq_eq.2 rfl, cmp_self_eq_eq]
  · rw [Int.compare_eq_gt.2 more, (cmp_eq_gt_iff _ _).2 (Int.cast_lt.2 more)]

namespace Num

def exactValue? : Num → Option (WithBot (WithTop ℚ))
  | .int i => some ((i : ℚ) : WithTop ℚ)
  | .float f => (ofFloat f).exactValue?

theorem cmpIntBinary_eq (a : Int) (isNeg : Bool) (m : Nat) (e : Int) :
    cmpIntBinary a isNeg m e = cmp (a : ℚ) ((if isNeg then -(m : ℚ) else m) * 2 ^ e) := by
  unfold cmpIntBinary
  dsimp only
  split
  next nonneg =>
    obtain ⟨k, rfl⟩ := Int.eq_ofNat_of_zero_le nonneg
    rw [compare_int_eq_cmp]
    push_cast
    rw [Int.toNat_natCast, zpow_natCast]
  next negative =>
    obtain ⟨k, rfl⟩ : ∃ k : Nat, e = -(k : Int) := ⟨(-e).toNat, by omega⟩
    have scale : (0 : ℚ) < 2 ^ (-(k : Int)) := zpow_pos two_pos _
    have toNat : (-(-(k : Int))).toNat = k := by omega
    rw [toNat, compare_int_eq_cmp, ← cmp_mul_pos_right scale]
    push_cast
    rw [mul_assoc, ← zpow_natCast, ← zpow_add₀ two_ne_zero, add_neg_cancel, zpow_zero, mul_one]

theorem compare?_eq (a b : Num) : a.compare? b = a.exactValue?.bind fun x => b.exactValue?.map (cmp x) := by
  cases a with
  | int i =>
    cases b with
    | int j => simp [compare?, exactValue?, cmp_coe, compare_int_eq_cmp]
    | float y =>
      simp only [compare?, exactValue?, Option.bind_some]
      cases ofFloat y with
      | nan => rfl
      | inf isNeg => cases isNeg <;> simp [Binary.exactValue?, cmp_coe_top, cmp_coe_bot]
      | finite isNeg m e => simp [Binary.exactValue?, cmp_coe, cmpIntBinary_eq]
  | float x =>
    cases b with
    | int j =>
      simp only [compare?, exactValue?]
      cases ofFloat x with
      | nan => rfl
      | inf isNeg => cases isNeg <;> simp [Binary.exactValue?, cmp_top_coe, cmp_bot_coe]
      | finite isNeg m e => simp [Binary.exactValue?, cmp_coe, cmpIntBinary_eq, cmp_swap]
    | float y =>
      have both := compare_unpacked (isRead_ofFloat x) (isRead_ofFloat y)
      rw [← unpack_eq_unpacked, ← unpack_eq_unpacked] at both
      have lt : (x < y) ↔ UnpackedFloat.compare x.toModel.unpack y.toModel.unpack = some .lt := by
        show (decide (_ == some Ordering.lt) = true) ↔ _
        simp
      have eq : (x == y) = (UnpackedFloat.compare x.toModel.unpack y.toModel.unpack == some .eq) := rfl
      simp only [compare?, exactValue?, isNaN_eq]
      cases ex : (ofFloat x).exactValue? with
      | none => rfl
      | some vx =>
        cases ey : (ofFloat y).exactValue? with
        | none => rfl
        | some vy =>
          rw [ex, ey] at both
          simp only [Option.bind_some, Option.map_some] at both
          simp only [Option.isNone_some, Bool.or_false, Bool.false_eq_true, if_false, lt, eq, both,
            Option.bind_some, Option.map_some]
          cases cmp vx vy <;> rfl

theorem le_iff {a b : Num} : a.le b = true ↔ ∃ x y, a.exactValue? = some x ∧ b.exactValue? = some y ∧ x ≤ y := by
  rw [le, compare?_eq]
  cases a.exactValue? <;> cases b.exactValue? <;> simp [le_iff_lt_or_eq]

theorem lt_iff {a b : Num} : a.lt b = true ↔ ∃ x y, a.exactValue? = some x ∧ b.exactValue? = some y ∧ x < y := by
  rw [lt, compare?_eq]
  cases a.exactValue? <;> cases b.exactValue? <;> simp

theorem ge_iff {a b : Num} : a.ge b = true ↔ ∃ x y, a.exactValue? = some x ∧ b.exactValue? = some y ∧ y ≤ x := by
  rw [ge, compare?_eq]
  cases a.exactValue? with
  | none => simp
  | some x =>
    cases b.exactValue? with
    | none => simp
    | some y => simp [le_iff_lt_or_eq, @eq_comm _ x y]

theorem le_trans {a b c : Num} (ab : a.le b = true) (bc : b.le c = true) : a.le c = true := by
  obtain ⟨x, y, ha, hb, xy⟩ := le_iff.1 ab
  obtain ⟨y', z, hb', hc, yz⟩ := le_iff.1 bc
  obtain rfl : y = y' := Option.some.inj (hb.symm.trans hb')
  exact le_iff.2 ⟨x, z, ha, hc, xy.trans yz⟩

theorem lt_of_ge_of_lt {a b c : Num} (ab : a.ge b = true) (ac : a.lt c = true) : b.lt c = true := by
  obtain ⟨x, y, ha, hb, yx⟩ := ge_iff.1 ab
  obtain ⟨x', z, ha', hc, xz⟩ := lt_iff.1 ac
  obtain rfl : x = x' := Option.some.inj (ha.symm.trans ha')
  exact lt_iff.2 ⟨y, z, hb, hc, yx.trans_lt xz⟩

theorem lt_eq_false_iff_ge {a b : Num} (ha : a.exactValue?.isSome) (hb : b.exactValue?.isSome) :
    a.lt b = false ↔ a.ge b = true := by
  obtain ⟨x, hx⟩ := Option.isSome_iff_exists.1 ha
  obtain ⟨y, hy⟩ := Option.isSome_iff_exists.1 hb
  rw [← Bool.not_eq_true, lt_iff, ge_iff]
  simp [hx, hy]

end Num

end Spreadsheet
