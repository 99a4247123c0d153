import Spreadsheet.Number.Binary
import Mathlib

/-!
Doubles and their words.

`Binary.ofFloat` reads the sign bit, the exponent field and the fraction of a double's word, and
`Binary.pack` writes them. Negation, absolute value and the bit conversions of the core library go
through its unpacked floats; here both readings are brought to the same three fields, so that
`pack` and `ofFloat` are inverse on canonical parts, negation flips only the sign and the absolute
value clears it.
-/

set_option autoImplicit false

open Float.Model Float.Model.UnpackedFloat

namespace Spreadsheet.Number.Binary

def word (s E F : Nat) : Nat := s * 2 ^ 63 + E * 2 ^ 52 + F

theorem exists_word {n : Nat} (h : n < 2 ^ 64) :
    ∃ s E F, s < 2 ∧ E < 2048 ∧ F < 2 ^ 52 ∧ n = word s E F :=
  ⟨n / 2 ^ 63 % 2, n / 2 ^ 52 % 2048, n % 2 ^ 52, by omega, by omega, by omega, by simp only [word]; omega⟩

theorem word_lt {s E F : Nat} (hs : s < 2) (hE : E < 2048) (hF : F < 2 ^ 52) : word s E F < 2 ^ 64 := by
  simp only [word]; omega

theorem word_sign {s E F : Nat} (hs : s < 2) (hE : E < 2048) (hF : F < 2 ^ 52) : word s E F / 2 ^ 63 % 2 = s := by
  simp only [word]; omega

theorem word_exponent {s E F : Nat} (hE : E < 2048) (hF : F < 2 ^ 52) : word s E F / 2 ^ 52 % 2048 = E := by
  simp only [word]; omega

theorem word_fraction {s E F : Nat} (hF : F < 2 ^ 52) : word s E F % 2 ^ 52 = F := by
  simp only [word]; omega

theorem toNat_unpackMantissa (b : BitVec 64) :
    (@unpackMantissa Format.binary64 b).toNat = b.toNat % 2 ^ 52 := by
  simp [unpackMantissa, BitVec.extractLsb_toNat]

theorem toNat_unpackExponent (b : BitVec 64) :
    (@unpackExponent Format.binary64 b).toNat = b.toNat / 2 ^ 52 % 2048 := by
  simp [unpackExponent, BitVec.extractLsb_toNat, Nat.shiftRight_eq_div_pow]

theorem toNat_unpackSign (b : BitVec 64) :
    (@unpackSign Format.binary64 b).toNat = b.toNat / 2 ^ 63 % 2 := by
  simp [unpackSign, BitVec.extractLsb_toNat, Nat.shiftRight_eq_div_pow]

theorem toNat_packComponents (s : Sign) (e : BitVec 11) (m : BitVec 52) :
    (packComponents Format.binary64 s e m).toNat = word s.toBitVec.toNat e.toNat m.toNat := by
  simp only [packComponents, BitVec.toNat_append, word]
  have hm := m.isLt
  have he := e.isLt
  rw [← Nat.shiftLeft_add_eq_or_of_lt hm, ← Nat.shiftLeft_add_eq_or_of_lt (by simp; omega)]
  simp [Nat.shiftLeft_eq]
  omega

theorem toNat_sign_ofBitVec (v : BitVec 1) : (Sign.ofBitVec v).toBitVec.toNat = v.toNat := by
  have small := v.isLt
  by_cases zero : v = 0#1
  · simp [Sign.ofBitVec, Sign.toBitVec, zero]
  · have one : v.toNat = 1 := by
      have : v.toNat ≠ 0 := fun h => zero (BitVec.eq_of_toNat_eq (by simpa using h))
      omega
    simp [Sign.ofBitVec, Sign.toBitVec, zero, one]

theorem toNat_neg_sign (s : Sign) : (-s).toBitVec.toNat = 1 - s.toBitVec.toNat := by
  cases s <;> rfl

def unpackFields (s : Sign) (E F : Nat) : UnpackedFloat :=
  if E = 2047 then (if F = 0 then .infinity s else .notANumber)
  else if E = 0 then (if h : F = 0 then .zero s else .finite s F (-1074) (by omega))
  else .finite s (2 ^ 52 + F) ((E : Int) - 1075) (by omega)

theorem unpack_eq_fields (b : BitVec 64) :
    unpack Format.binary64 b = unpackFields (Sign.ofBitVec (@unpackSign Format.binary64 b))
      (b.toNat / 2 ^ 52 % 2048) (b.toNat % 2 ^ 52) := by
  have exponent := toNat_unpackExponent b
  have mantissa := toNat_unpackMantissa b
  have allOnes : (@unpackExponent Format.binary64 b = -1#_) ↔ b.toNat / 2 ^ 52 % 2048 = 2047 := by
    rw [← BitVec.toNat_inj, exponent]; simp
  have zeroE : (@unpackExponent Format.binary64 b = 0#_) ↔ b.toNat / 2 ^ 52 % 2048 = 0 := by
    rw [← BitVec.toNat_inj, exponent]; simp
  have zeroF : (@unpackMantissa Format.binary64 b = 0#_) ↔ b.toNat % 2 ^ 52 = 0 := by
    rw [← BitVec.toNat_inj, mantissa]; simp
  unfold UnpackedFloat.unpack unpackFields
  simp only [allOnes, zeroE]
  split
  · simp only [zeroF]
  split
  · -- the literal forms keep the hypotheses usable when `2 ^ 52` is folded to a numeral
    by_cases empty : b.toNat % 2 ^ 52 = 0
    · have empty' : b.toNat % 4503599627370496 = 0 := empty
      simp [zeroF, empty']
    · have empty' : ¬b.toNat % 4503599627370496 = 0 := empty
      simp [zeroF, empty', mantissa, exponent, Format.exponentBias]
      omega
  · have top : (1#1 ++ @unpackMantissa Format.binary64 b).toNat = 2 ^ 52 + b.toNat % 2 ^ 52 := by
      rw [BitVec.toNat_append, ← Nat.shiftLeft_add_eq_or_of_lt (@unpackMantissa Format.binary64 b).isLt,
        mantissa]
      simp [Nat.shiftLeft_eq]
    simp only [top, exponent, Format.exponentBias]
    congr 1

theorem toNat_pack_unpackFields (s : Sign) {E F : Nat} (hE : E < 2048) (hF : F < 2 ^ 52)
    (notNaN : E = 2047 → F = 0) :
    (UnpackedFloat.pack Format.binary64 (unpackFields s E F)).toNat = word s.toBitVec.toNat E F := by
  unfold unpackFields
  split
  next top =>
    rw [if_pos (notNaN top)]
    simp [UnpackedFloat.pack, packedInfinity, toNat_packComponents, top, notNaN top]
  split
  next zero =>
    split
    next empty => simp [UnpackedFloat.pack, packedZero, toNat_packComponents, zero, empty]
    next full =>
      have small : F.log2 < 52 := (Nat.log2_lt full).2 hF
      simp only [UnpackedFloat.pack]
      split
      next beyond => simp [Format.exponentBias] at beyond
      split
      next normal => simp [Format.mantissaBits] at normal; omega
      have fraction : F % 4503599627370496 = F := Nat.mod_eq_of_lt hF
      rw [toNat_packComponents]
      simp [zero, fraction]
  next notZero =>
    have width : (2 ^ 52 + F).log2 = 52 := (Nat.log2_eq_iff (by omega)).2 ⟨by omega, by omega⟩
    have width' : (4503599627370496 + F).log2 = 52 := width
    simp only [UnpackedFloat.pack]
    split
    next beyond => simp [Format.exponentBias] at beyond; omega
    split
    next =>
      rw [toNat_packComponents]
      simp [Format.exponentBias, word]
      omega
    next subnormal => simp [Format.mantissaBits, width'] at subnormal

theorem unpackFields_neg (s : Sign) (E F : Nat) : (unpackFields s E F).neg = unpackFields (-s) E F := by
  unfold unpackFields
  by_cases top : E = 2047 <;> by_cases zero : E = 0 <;> by_cases empty : F = 0 <;>
    simp [top, zero, empty, UnpackedFloat.neg]

theorem unpackFields_abs (s : Sign) (E F : Nat) : (unpackFields s E F).abs = unpackFields .positive E F := by
  unfold unpackFields
  by_cases top : E = 2047 <;> by_cases zero : E = 0 <;> by_cases empty : F = 0 <;>
    simp [top, zero, empty, UnpackedFloat.abs]

theorem Float.toBits_inj {x y : Float} (h : x.toBits = y.toBits) : x = y := by
  cases x with | ofModel mx =>
  cases y with | ofModel my =>
  cases mx
  cases my
  simp only [Float.toBits] at h
  subst h
  rfl

theorem toBits_lt (x : Float) : x.toBits.toNat < 2 ^ 64 := x.toBits.toBitVec.isLt

theorem unpack_toModel {x : Float} {s E F : Nat} (bits : x.toBits.toNat = word s E F) (hE : E < 2048) (hF : F < 2 ^ 52) :
    x.toModel.unpack = unpackFields (Sign.ofBitVec (@unpackSign Format.binary64 x.toBits.toBitVec)) E F := by
  have fields := unpack_eq_fields x.toBits.toBitVec
  simp only [UInt64.toNat_toBitVec, bits, word_exponent hE hF, word_fraction hF] at fields
  exact fields

theorem toNat_sign_toBits {x : Float} {s E F : Nat} (bits : x.toBits.toNat = word s E F)
    (hs : s < 2) (hE : E < 2048) (hF : F < 2 ^ 52) :
    (Sign.ofBitVec (@unpackSign Format.binary64 x.toBits.toBitVec)).toBitVec.toNat = s := by
  rw [toNat_sign_ofBitVec, toNat_unpackSign, UInt64.toNat_toBitVec, bits, word_sign hs hE hF]

theorem ofFloat_of_bits {x : Float} {s E F : Nat} (bits : x.toBits.toNat = word s E F)
    (hs : s < 2) (hE : E < 2048) (hF : F < 2 ^ 52) :
    ofFloat x = if E = 2047 then (if F = 0 then .inf (s == 1) else .nan)
      else if E = 0 then .finite (s == 1) F minExp else .finite (s == 1) (F + 2 ^ 52) ((E : Int) - 1075) := by
  simp only [ofFloat, bits, word_sign hs hE hF, word_exponent hE hF, word_fraction hF]
  by_cases top : E = 2047 <;> by_cases zero : E = 0 <;> simp [top, zero]

theorem toBits_neg {x : Float} {s E F : Nat} (bits : x.toBits.toNat = word s E F)
    (hs : s < 2) (hE : E < 2048) (hF : F < 2 ^ 52) (notNaN : E = 2047 → F = 0) :
    (-x).toBits.toNat = word (1 - s) E F := by
  show (Float.ofModel (Float.Model.pack x.toModel.unpack.neg)).toBits.toNat = _
  show (UnpackedFloat.pack Format.binary64 x.toModel.unpack.neg).toNat = _
  rw [unpack_toModel bits hE hF, unpackFields_neg, toNat_pack_unpackFields _ hE hF notNaN, toNat_neg_sign,
    toNat_sign_toBits bits hs hE hF]

theorem toBits_abs {x : Float} {s E F : Nat} (bits : x.toBits.toNat = word s E F) (hE : E < 2048) (hF : F < 2 ^ 52) (notNaN : E = 2047 → F = 0) :
    x.abs.toBits.toNat = word 0 E F := by
  show (UnpackedFloat.pack Format.binary64 x.toModel.unpack.abs).toNat = _
  rw [unpack_toModel bits hE hF, unpackFields_abs, toNat_pack_unpackFields _ hE hF notNaN]
  rfl

theorem toBits_ofBits {s E F : Nat} (hs : s < 2) (hE : E < 2048) (hF : F < 2 ^ 52) (notNaN : E = 2047 → F = 0) :
    (Float.ofBits (word s E F).toUInt64).toBits.toNat = word s E F := by
  have small : word s E F % 2 ^ 64 = word s E F := Nat.mod_eq_of_lt (word_lt hs hE hF)
  show (UnpackedFloat.pack Format.binary64 (UnpackedFloat.unpack Format.binary64 (word s E F).toUInt64.toBitVec)).toNat = _
  have toNat : (word s E F).toUInt64.toBitVec.toNat = word s E F := by
    simp only [Nat.toUInt64, UInt64.toBitVec_ofNat', BitVec.toNat_ofNat, small]
  rw [unpack_eq_fields, toNat, word_exponent hE hF, word_fraction hF, toNat_pack_unpackFields _ hE hF notNaN,
    toNat_sign_ofBitVec, toNat_unpackSign, toNat, word_sign hs hE hF]

/-- A significand and exponent that `pack` writes as they are: a subnormal or zero at the least
exponent, or a normal significand with an exponent in range. -/
def Canonical (man : Nat) (exp : Int) : Prop :=
  man < 2 ^ 53 ∧ minExp ≤ exp ∧ exp ≤ 971 ∧ (2 ^ 52 ≤ man ∨ exp = minExp)

instance (man : Nat) (exp : Int) : Decidable (Canonical man exp) :=
  inferInstanceAs (Decidable (_ ∧ _))

def exponentField (man : Nat) (exp : Int) : Nat := if man < 2 ^ 52 then 0 else (exp + 1075).toNat

theorem exponentField_lt {man : Nat} {exp : Int} (canonical : Canonical man exp) : exponentField man exp < 2047 := by
  obtain ⟨-, -, high, -⟩ := canonical
  unfold exponentField
  split <;> omega

theorem toBits_pack (neg : Bool) {man : Nat} {exp : Int} (canonical : Canonical man exp) :
    (pack neg man exp).toBits.toNat = word (if neg then 1 else 0) (exponentField man exp) (man % 2 ^ 52) := by
  obtain ⟨below, low, high, normal⟩ := canonical
  have field := exponentField_lt ⟨below, low, high, normal⟩
  have written : (if man < 2 ^ 52 then (if neg then 2 ^ 63 else 0) + man
      else (if neg then 2 ^ 63 else 0) + (exp + 1075).toNat * 2 ^ 52 + (man - 2 ^ 52)) =
      word (if neg then 1 else 0) (exponentField man exp) (man % 2 ^ 52) := by
    unfold exponentField word
    cases neg <;> split <;> simp <;> omega
  unfold pack
  simp only [written]
  exact toBits_ofBits (by split <;> omega) (by omega) (Nat.mod_lt _ (by omega)) (by omega)

theorem ofFloat_pack (neg : Bool) {man : Nat} {exp : Int} (canonical : Canonical man exp) :
    ofFloat (pack neg man exp) = .finite neg man exp := by
  have field := exponentField_lt canonical
  obtain ⟨below, low, high, normal⟩ := canonical
  rw [ofFloat_of_bits (toBits_pack neg ⟨below, low, high, normal⟩) (by split <;> omega) (by omega)
    (Nat.mod_lt _ (by omega))]
  have sign : ((if neg then 1 else 0) == 1) = neg := by cases neg <;> rfl
  simp only [sign, Nat.ne_of_lt field, if_false]
  unfold exponentField
  by_cases small : man < 2 ^ 52
  · simp only [small, if_true, Nat.mod_eq_of_lt small]
    have least : exp = minExp := by omega
    rw [least]
  · have positive : (exp + 1075).toNat ≠ 0 := by simp [minExp] at low; omega
    have restore : man % 2 ^ 52 + 2 ^ 52 = man := by omega
    have back : ((exp + 1075).toNat : Int) - 1075 = exp := by simp [minExp] at low; omega
    simp only [small, if_false, positive, restore, back]

theorem ofFloat_finite {x : Float} {neg : Bool} {man : Nat} {exp : Int} (h : ofFloat x = .finite neg man exp) :
    Canonical man exp ∧ x.toBits.toNat = word (if neg then 1 else 0) (exponentField man exp) (man % 2 ^ 52) := by
  obtain ⟨s, E, F, hs, hE, hF, bits⟩ := exists_word (toBits_lt x)
  rw [ofFloat_of_bits bits hs hE hF] at h
  have notTop : E ≠ 2047 := by
    intro top; simp only [top, if_true] at h; split at h <;> simp at h
  have sign : (if (s == 1) = true then 1 else 0) = s := by
    rcases (by omega : s = 0 ∨ s = 1) with rfl | rfl <;> rfl
  simp only [notTop, if_false] at h
  by_cases zero : E = 0
  · simp only [zero, if_true] at h
    obtain ⟨rfl, rfl, rfl⟩ := Binary.finite.inj h
    refine ⟨⟨by omega, by decide, by decide, .inr rfl⟩, ?_⟩
    simp only [exponentField, hF, if_true, Nat.mod_eq_of_lt hF, sign, bits, zero]
  · simp only [zero, if_false] at h
    obtain ⟨rfl, rfl, rfl⟩ := Binary.finite.inj h
    have large : ¬ F + 2 ^ 52 < 2 ^ 52 := by omega
    have back : ((E : Int) - 1075 + 1075).toNat = E := by omega
    have fraction : (F + 2 ^ 52) % 2 ^ 52 = F := by omega
    refine ⟨⟨by omega, by simp [minExp]; omega, by omega, .inl (by omega)⟩, ?_⟩
    simp only [exponentField, large, if_false, back, fraction, sign, bits]

theorem ofFloat_canonical {x : Float} {neg : Bool} {man : Nat} {exp : Int} (h : ofFloat x = .finite neg man exp) :
    Canonical man exp :=
  (ofFloat_finite h).1

theorem pack_ofFloat {x : Float} {neg : Bool} {man : Nat} {exp : Int} (h : ofFloat x = .finite neg man exp) :
    pack neg man exp = x := by
  obtain ⟨canonical, bits⟩ := ofFloat_finite h
  apply Float.toBits_inj
  apply UInt64.toNat_inj.1
  rw [toBits_pack neg canonical, bits]

theorem ofFloat_neg {x : Float} {neg : Bool} {man : Nat} {exp : Int} (h : ofFloat x = .finite neg man exp) :
    ofFloat (-x) = .finite (!neg) man exp := by
  obtain ⟨canonical, bits⟩ := ofFloat_finite h
  have field := exponentField_lt canonical
  have flipped := toBits_neg bits (by split <;> omega) (by omega) (Nat.mod_lt _ (by omega)) (by omega)
  have sign : 1 - (if neg then 1 else 0) = if !neg then 1 else 0 := by cases neg <;> rfl
  rw [sign, ← toBits_pack (!neg) canonical] at flipped
  rw [← ofFloat_pack (!neg) canonical]
  exact congrArg ofFloat (Float.toBits_inj (UInt64.toNat_inj.1 flipped))

theorem pack_not {neg : Bool} {man : Nat} {exp : Int} (canonical : Canonical man exp) :
    pack (!neg) man exp = -(pack neg man exp) :=
  pack_ofFloat (ofFloat_neg (ofFloat_pack neg canonical))

theorem ofFloat_abs {x : Float} {neg : Bool} {man : Nat} {exp : Int} (h : ofFloat x = .finite neg man exp) :
    ofFloat x.abs = .finite false man exp := by
  obtain ⟨canonical, bits⟩ := ofFloat_finite h
  have field := exponentField_lt canonical
  have cleared := toBits_abs bits (by omega) (Nat.mod_lt _ (by omega)) (by omega)
  have packed := toBits_pack false canonical
  simp only [Bool.false_eq_true, if_false] at packed
  rw [← packed] at cleared
  rw [← ofFloat_pack false canonical]
  exact congrArg ofFloat (Float.toBits_inj (UInt64.toNat_inj.1 cleared))

theorem infinity_not (neg : Bool) : infinity (!neg) = -(infinity neg) := by
  have written (n : Bool) : ((if n then 2 ^ 63 else 0) + 2047 * 2 ^ 52 : Nat) = word (if n then 1 else 0) 2047 0 := by
    cases n <;> rfl
  have sign : 1 - (if neg then 1 else 0) = if !neg then 1 else 0 := by cases neg <;> rfl
  apply Float.toBits_inj
  apply UInt64.toNat_inj.1
  unfold infinity
  rw [written, written, toBits_neg (toBits_ofBits (by split <;> omega) (by omega) (by omega) (fun _ => rfl))
    (by split <;> omega) (by omega) (by omega) (fun _ => rfl), sign,
    toBits_ofBits (by split <;> omega) (by omega) (by omega) (fun _ => rfl)]

theorem isFinite_iff (x : Float) : x.isFinite = true ↔ ∃ neg man exp, ofFloat x = .finite neg man exp := by
  obtain ⟨s, E, F, hs, hE, hF, bits⟩ := exists_word (toBits_lt x)
  show x.toModel.unpack.isFinite = true ↔ _
  rw [unpack_toModel bits hE hF, ofFloat_of_bits bits hs hE hF]
  unfold unpackFields
  by_cases top : E = 2047 <;> by_cases zero : E = 0 <;> by_cases empty : F = 0 <;>
    simp [top, zero, empty, UnpackedFloat.isFinite]

theorem isNaN_of_isFinite {x : Float} (h : x.isFinite = true) : x.isNaN = false := by
  show x.toModel.unpack.isNaN = false
  have finite : x.toModel.unpack.isFinite = true := h
  cases unpacked : x.toModel.unpack <;> simp_all [UnpackedFloat.isFinite, UnpackedFloat.isNaN]

theorem isFinite_abs {x : Float} (h : x.isFinite = true) : x.abs.isFinite = true := by
  obtain ⟨neg, man, exp, parts⟩ := (isFinite_iff x).1 h
  exact (isFinite_iff _).2 ⟨false, man, exp, ofFloat_abs parts⟩

theorem unpack_of_positive {x : Float} {man : Nat} {exp : Int} (h : ofFloat x = .finite false man exp)
    (pos : 0 < man) : x.toModel.unpack = .finite .positive man exp pos := by
  obtain ⟨s, E, F, hs, hE, hF, bits⟩ := exists_word (toBits_lt x)
  have sign := toNat_sign_toBits bits hs hE hF
  rw [unpack_toModel bits hE hF]
  rw [ofFloat_of_bits bits hs hE hF] at h
  generalize Sign.ofBitVec (@unpackSign Format.binary64 x.toBits.toBitVec) = sg at sign ⊢
  have notTop : E ≠ 2047 := by
    intro top; simp only [top, if_true] at h; split at h <;> simp at h
  have positive : sg = .positive := by
    simp only [notTop, if_false] at h
    have clear : (s == 1) = false := by split at h <;> exact (Binary.finite.inj h).1
    cases sg with
    | positive => rfl
    | negative => simp [Sign.toBitVec] at sign; subst sign; simp at clear
  subst positive
  simp only [notTop, if_false] at h
  unfold unpackFields
  by_cases zero : E = 0
  · simp only [zero, if_true] at h
    obtain ⟨-, rfl, rfl⟩ := Binary.finite.inj h
    simp [zero, Nat.pos_iff_ne_zero.1 pos, minExp]
  · simp only [zero, if_false] at h
    obtain ⟨-, rfl, rfl⟩ := Binary.finite.inj h
    simp [zero, notTop, Nat.add_comm]

theorem lt_iff_of_positive {a b : Float} {ma mb : Nat} {ea eb : Int} (ha : ofFloat a = .finite false ma ea)
    (hb : ofFloat b = .finite false mb eb) (pa : 0 < ma) (pb : 0 < mb) :
    a < b ↔ ea < eb ∨ (ea = eb ∧ ma < mb) := by
  change Float.lt a b = true ↔ _
  unfold Float.lt
  rw [decide_eq_true_iff]
  change a.toModel.unpack.compare b.toModel.unpack == some .lt ↔ _
  rw [unpack_of_positive ha pa, unpack_of_positive hb pb]
  simp only [UnpackedFloat.compare]
  rcases Int.lt_trichotomy ea eb with less | same | more
  · simp [Int.compare_eq_lt.2 less, Ordering.then, less]
  · subst same
    rcases Nat.lt_trichotomy ma mb with less | equal | greater
    · simp [Ordering.then, Nat.compare_eq_lt.2 less, less]
    · subst equal; simp [Ordering.then]
    · simp [Ordering.then, Nat.compare_eq_gt.2 greater, Nat.not_lt.2 (Nat.le_of_lt greater)]
  · simp [Ordering.then, Int.compare_eq_gt.2 more, Int.not_lt.2 (Int.le_of_lt more), Int.ne_of_gt more]

end Spreadsheet.Number.Binary
