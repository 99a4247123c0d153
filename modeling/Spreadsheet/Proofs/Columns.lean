import Spreadsheet.Proofs.Keys
import Mathlib.Data.List.Basic
import Mathlib.Data.List.Induction
import Mathlib.Tactic.LinearCombination
import Mathlib.Tactic.Ring

/-!
Column letters as a bijective base-26 numeral.

The letters `A` to `Z` are the digits one to twenty-six, and the letters of a column, read as a
numeral in that base, are one more than its index. There is no zero digit: writing `m` takes
`(m - 1) % 26` for the last letter and goes on with `(m - 1) / 26`, so every positive number has
exactly one numeral. Reading the letters of an index gives the index back, and writing the index of
any letters gives the letters back, upper-cased and without their `$` signs. Rows are decimal, so
the key of a position reads back as that position.
-/

set_option autoImplicit false

namespace Spreadsheet

namespace Column

/-- The value of upper-case letters as a bijective base-26 numeral: one more than their index. -/
def numeral (cs : List Char) : Int :=
  cs.foldl (fun idx c => idx * 26 + ((c.toNat : Int) - 65 + 1)) 0

theorem ofUpper_eq_numeral (cs : List Char) : ofUpper cs = numeral cs - 1 := rfl

theorem foldl_eq_numeral (a : Int) (cs : List Char) :
    cs.foldl (fun idx c => idx * 26 + ((c.toNat : Int) - 65 + 1)) a = a * 26 ^ cs.length + numeral cs := by
  induction cs generalizing a with
  | nil => simp [numeral]
  | cons c cs ih =>
    rw [numeral, List.foldl_cons, List.foldl_cons, ih, ih, List.length_cons, pow_succ]
    ring

theorem numeral_cons (c : Char) (cs : List Char) :
    numeral (c :: cs) = ((c.toNat : Int) - 64) * 26 ^ cs.length + numeral cs := by
  rw [numeral, List.foldl_cons, foldl_eq_numeral]
  ring

theorem numeral_append_letter (cs : List Char) (c : Char) :
    numeral (cs ++ [c]) = numeral cs * 26 + ((c.toNat : Int) - 64) := by
  simp only [numeral, List.foldl_append, List.foldl_cons, List.foldl_nil]
  ring

theorem numeral_nonneg {U : List Char} (upper : ∀ c ∈ U, c.isUpper) : 0 ≤ numeral U :=
  column_ofUpper_fold_ge U 0 upper le_rfl

theorem letters_go_zero (fuel : Nat) (acc : List Char) : letters.go 0 fuel acc = acc := by
  cases fuel <;> rfl

theorem numeral_letters_go : ∀ (fuel m : Nat) (acc : List Char), m ≤ fuel →
    numeral (letters.go m fuel acc) = m * 26 ^ acc.length + numeral acc
  | 0, m, acc, covered => by
    obtain rfl : m = 0 := by omega
    simp [letters.go]
  | fuel + 1, m, acc, covered => by
    rw [letters.go]
    split
    next zero =>
      obtain rfl : m = 0 := by simpa using zero
      simp
    next positive =>
      have positive : 0 < m := by simp at positive; omega
      -- the last letter is the digit `(m - 1) % 26 + 1`, the rest the numeral of `(m - 1) / 26`
      generalize quotient : (m - 1) / 26 = q
      generalize remainder : (m - 1) % 26 = r
      have digit : r < 26 := by omega
      have split : 26 * (q : Int) + r + 1 = m := by omega
      rw [numeral_letters_go fuel q _ (by omega), numeral_cons, char_ofNat_letter_toNat digit,
        List.length_cons, pow_succ]
      push_cast
      linear_combination (26 : Int) ^ acc.length * split

theorem letters_go_numeral (U : List Char) (upper : ∀ c ∈ U, c.isUpper) :
    ∀ (fuel : Nat) (acc : List Char), (numeral U).toNat ≤ fuel →
      letters.go (numeral U).toNat fuel acc = U ++ acc := by
  induction U using List.reverseRecOn with
  | nil => intro fuel acc _; exact letters_go_zero fuel acc
  | append_singleton V c ih =>
    intro fuel acc covered
    have letter := char_isUpper_iff.1 (upper c (by simp))
    have rest : ∀ d ∈ V, d.isUpper := fun d mem => upper d (by simp [mem])
    have nonneg := numeral_nonneg rest
    have value := numeral_append_letter V c
    obtain ⟨fuel, rfl⟩ : ∃ f, fuel = f + 1 := ⟨fuel - 1, by omega⟩
    -- the last letter is `c`, and what stands before it is the numeral of `V`
    have quotient : ((numeral (V ++ [c])).toNat - 1) / 26 = (numeral V).toNat := by omega
    have remainder : 65 + ((numeral (V ++ [c])).toNat - 1) % 26 = c.toNat := by omega
    rw [letters.go, if_neg (by simp; omega), quotient, remainder, Char.ofNat_toNat,
      ih rest fuel (c :: acc) (by omega)]
    simp

theorem ofUpper_letters {idx : Int} (h : 0 ≤ idx) : ofUpper (letters idx).toList = idx := by
  unfold letters
  rw [if_neg (by omega), String.toList_ofList, ofUpper_eq_numeral, numeral_letters_go _ _ [] le_rfl]
  simp only [List.length_nil, pow_zero, mul_one, numeral, List.foldl_nil, add_zero]
  omega

theorem letters_ofUpper {U : List Char} (nonempty : U ≠ []) (upper : ∀ c ∈ U, c.isUpper) :
    letters (ofUpper U) = String.ofList U := by
  have positive := column_ofUpper_nonneg nonempty upper
  unfold letters
  rw [if_neg (by omega), ofUpper_eq_numeral, sub_add_cancel,
    letters_go_numeral U upper _ [] le_rfl, List.append_nil]

theorem upperChar_of_ascii {c : Char} (ascii : c.toNat < 0x80) : Text.upperChar c = [c.toUpper] := by
  simp [Text.upperChar, Text.mapCase, ascii]

theorem text_upper_of_ascii {L : List Char} (ascii : ∀ c ∈ L, c.toNat < 0x80) :
    Text.upper (String.ofList L) = String.ofList (L.map Char.toUpper) := by
  rw [Text.upper, String.toList_ofList, List.map_eq_flatMap]
  exact congrArg String.ofList (List.flatMap_congr fun c mem => upperChar_of_ascii (ascii c mem))

theorem index_of_ascii {s : String} (ascii : ∀ c ∈ s.toList, c.toNat < 0x80) :
    index s = ofUpper ((s.toList.filter (· != '$')).map Char.toUpper) := by
  rw [index, text_upper_of_ascii fun c mem => ascii c (List.mem_of_mem_filter mem), String.toList_ofList]

theorem char_isUpper_ascii {c : Char} (upper : c.isUpper) : c.toNat < 0x80 := by
  have := char_isUpper_iff.1 upper
  omega

theorem char_isAlpha_ascii {c : Char} (alpha : c.isAlpha) : c.toNat < 0x80 := by
  rcases Bool.or_eq_true_iff.1 alpha with upper | lower
  · exact char_isUpper_ascii upper
  · have := char_isLower_iff.1 lower
    omega

theorem index_letters {idx : Int} (h : 0 ≤ idx) : index (letters idx) = idx := by
  have upper := column_letters_upper idx
  have unsigned : (letters idx).toList.filter (· != '$') = (letters idx).toList :=
    List.filter_eq_self.2 fun c mem => by
      have := char_isUpper_iff.1 (upper c mem)
      have dollar : '$'.toNat = 36 := rfl
      simpa using fun same : c = '$' => by rw [same, dollar] at this; omega
  rw [index_of_ascii fun c mem => char_isUpper_ascii (upper c mem), unsigned,
    map_toUpper_of_isUpper upper, ofUpper_letters h]

theorem letters_index {s : String} (spelled : ∀ c ∈ s.toList, c.isAlpha ∨ c = '$')
    (lettered : ∃ c ∈ s.toList, c.isAlpha) :
    letters (index s) = String.ofList ((s.toList.filter (· != '$')).map Char.toUpper) := by
  have ascii : ∀ c ∈ s.toList, c.toNat < 0x80 := fun c mem => by
    rcases spelled c mem with alpha | rfl
    · exact char_isAlpha_ascii alpha
    · decide
  have alpha : ∀ c ∈ s.toList.filter (· != '$'), c.isAlpha := fun c mem => by
    have ⟨listed, kept⟩ := List.mem_filter.1 mem
    exact (spelled c listed).resolve_right (by simpa using kept)
  obtain ⟨a, listed, letter⟩ := lettered
  have nonempty : (s.toList.filter (· != '$')).map Char.toUpper ≠ [] := by
    refine List.ne_nil_of_mem (List.mem_map_of_mem (List.mem_filter.2 ⟨listed, ?_⟩))
    have : a ≠ '$' := by
      rintro rfl
      simp [dollar_not_isAlpha] at letter
    simpa using this
  have upper : ∀ c ∈ (s.toList.filter (· != '$')).map Char.toUpper, c.isUpper := by
    simp only [List.mem_map]
    rintro _ ⟨c, mem, rfl⟩
    exact char_isUpper_toUpper (alpha c mem)
  rw [index_of_ascii ascii, letters_ofUpper nonempty upper]

end Column

theorem digitValue_of_ascii {c : Char} (digit : 48 ≤ c.toNat ∧ c.toNat < 58) :
    Text.digitValue? c = some (c.toNat - 48) := by
  rw [Text.digitValue?, Text.digitZeros, List.findSome?_cons]
  simp [digit.1, digit.2]

theorem digitsValue_append (ds : List Char) (c : Char) :
    digitsValue (ds ++ [c]) = digitsValue ds * 10 + (Text.digitValue? c).getD 0 := by
  simp [digitsValue, List.foldl_append]

theorem digitsValue_toDigits (n : Nat) : digitsValue (Nat.toDigits 10 n) = n := by
  induction n using Nat.strong_induction_on with
  | _ n ih =>
    by_cases small : n < 10
    · have code := Nat.toNat_digitChar_of_lt_ten small
      rw [Nat.toDigits_of_lt_base small, ← List.nil_append [_], digitsValue_append,
        digitValue_of_ascii (by omega), code]
      simp [digitsValue]
    · have code := Nat.toNat_digitChar_of_lt_ten (Nat.mod_lt n (by decide : 10 > 0))
      rw [Nat.toDigits_of_base_le (by decide) (by omega), digitsValue_append, ih (n / 10) (by omega),
        digitValue_of_ascii (by omega), code]
      simp only [Option.getD_some]
      omega

theorem Ref.parse?_key {r : Ref} (row : -1 ≤ r.row) (col : 0 ≤ r.col) : Ref.parse? r.key = some r := by
  have upper := column_letters_upper r.col
  rw [Ref.key_eq_ofList, Ref.parse?, refText_parse_ofList (column_letters_ne_nil col)
    (int_toString_ne_nil (by omega)) (column_letters_alpha r.col) (int_toString_isDigit (by omega))]
  simp only [Option.map_some, String.toList_ofList, string_toUpper_ofList, map_toUpper_of_isUpper upper,
    int_toString_toList (show 0 ≤ r.row + 1 by omega), digitsValue_toDigits, Column.ofUpper_letters col]
  congr
  omega

/-- Column letters and indices correspond one to one: every non-negative index is written as
non-empty upper-case letters that read back as the index, letters and `$` signs read as an index
are written back upper-cased without the signs, and the key of a position reads back as it. -/
theorem column_letters_bijective :
    (∀ n : Int, 0 ≤ n → (Column.letters n).toList ≠ [] ∧ (∀ c ∈ (Column.letters n).toList, c.isUpper) ∧
      Column.index (Column.letters n) = n) ∧
    (∀ s : String, (∀ c ∈ s.toList, c.isAlpha ∨ c = '$') → (∃ c ∈ s.toList, c.isAlpha) →
      Column.letters (Column.index s) = String.ofList ((s.toList.filter (· != '$')).map Char.toUpper)) ∧
    (∀ r c : Int, 0 ≤ r → 0 ≤ c → Ref.parse? (Ref.key ⟨r, c⟩) = some ⟨r, c⟩) :=
  ⟨fun _ h => ⟨column_letters_ne_nil h, column_letters_upper _, Column.index_letters h⟩,
    fun _ spelled lettered => Column.letters_index spelled lettered,
    fun r _ row col => Ref.parse?_key (show -1 ≤ r by omega) col⟩

theorem column_letters_at_ZZ :
    Column.index (Column.letters 701) = 701 ∧ Column.letters (Column.index "$z$z") = "ZZ" ∧
      Ref.parse? (Ref.key ⟨11, 26⟩) = some ⟨11, 26⟩ := by
  obtain ⟨written, read, keyed⟩ := column_letters_bijective
  refine ⟨(written 701 (by decide)).2.2, ?_, keyed 11 26 (by decide) (by decide)⟩
  rw [read "$z$z" (by simp [Char.isAlpha, Char.isUpper, Char.isLower])
    (by simp [Char.isAlpha, Char.isUpper, Char.isLower])]
  decide +kernel

end Spreadsheet
