import Spreadsheet.Ref
import Mathlib

/-!
Canonical cell keys.

The store key of a reference is its letters upper-cased followed by its digits as written, so a key
of upper-case ASCII letters and decimal digits is its own canonical key. This holds for the
canonical key of every reference, and for the key of every position from column zero and row minus
one, hence for every key of a rectangle whose corners are references. Reference letters are ASCII
letters, and no digit of any script is one, which is what keeps letters and digits apart.
-/

set_option autoImplicit false

namespace Spreadsheet

theorem char_isUpper_iff {c : Char} : c.isUpper ↔ 65 ≤ c.toNat ∧ c.toNat ≤ 90 := by
  simp [Char.isUpper, UInt32.le_iff_toNat_le, ← Char.toNat_val]

theorem char_isLower_iff {c : Char} : c.isLower ↔ 97 ≤ c.toNat ∧ c.toNat ≤ 122 := by
  simp [Char.isLower, UInt32.le_iff_toNat_le, ← Char.toNat_val]

theorem char_lower_test_iff {c : Char} :
    ('a'.val ≤ c.val ∧ c.val ≤ 'z'.val) ↔ 97 ≤ c.toNat ∧ c.toNat ≤ 122 := by
  rw [UInt32.le_iff_toNat_le, UInt32.le_iff_toNat_le]
  rfl

theorem char_toUpper_of_isUpper {c : Char} (h : c.isUpper) : c.toUpper = c := by
  have bounds := char_isUpper_iff.1 h
  unfold Char.toUpper
  rw [dif_neg (by rw [char_lower_test_iff]; omega)]

theorem map_toUpper_of_isUpper {L : List Char} (upper : ∀ c ∈ L, c.isUpper) : L.map Char.toUpper = L := by
  rw [List.map_congr_left fun c mem => char_toUpper_of_isUpper (upper c mem), List.map_id']

theorem char_isUpper_toUpper {c : Char} (h : c.isAlpha) : c.toUpper.isUpper := by
  rcases Bool.or_eq_true_iff.1 h with upper | lower
  · rwa [char_toUpper_of_isUpper upper]
  · have bounds := char_isLower_iff.1 lower
    unfold Char.toUpper
    rw [dif_pos (char_lower_test_iff.2 bounds), char_isUpper_iff]
    show 65 ≤ (c.val + ('A'.val - 'a'.val)).toNat ∧ (c.val + ('A'.val - 'a'.val)).toNat ≤ 90
    rw [UInt32.toNat_add, UInt32.toNat_sub]
    have code : c.val.toNat = c.toNat := rfl
    have upperA : 'A'.val.toNat = 65 := rfl
    have lowerA : 'a'.val.toNat = 97 := rfl
    rw [code, upperA, lowerA]
    omega

theorem text_isDigit_not_isAlpha {c : Char} (h : Text.isDigit c) : ¬ c.isAlpha := by
  intro alpha
  have letter : 65 ≤ c.toNat ∧ c.toNat ≤ 122 := by
    rcases Bool.or_eq_true_iff.1 alpha with upper | lower
    · have := char_isUpper_iff.1 upper; omega
    · have := char_isLower_iff.1 lower; omega
  rcases Bool.or_eq_true_iff.1 h with ascii | other
  · have := Char.isDigit_iff_toNat.1 ascii
    have : '9'.toNat = 57 := rfl
    omega
  · have := (Bool.and_eq_true_iff.1 other).1
    simp only [ge_iff_le, decide_eq_true_eq] at this
    omega

theorem dollar_not_isAlpha : '$'.isAlpha = false := by decide

theorem refText_parse_ofList {L D : List Char} (letters : L ≠ []) (digits : D ≠ [])
    (alpha : ∀ c ∈ L, c.isAlpha) (numeric : ∀ c ∈ D, Text.isDigit c) :
    RefText.parse? (String.ofList (L ++ D)) = some ⟨String.ofList L, String.ofList D⟩ := by
  obtain ⟨a, L', rfl⟩ := List.exists_cons_of_ne_nil letters
  obtain ⟨d, D', rfl⟩ := List.exists_cons_of_ne_nil digits
  have a_ne : a ≠ '$' := by
    rintro rfl
    simp [dollar_not_isAlpha] at alpha
  have d_not_alpha : d.isAlpha = false := by
    simpa using text_isDigit_not_isAlpha (numeric d (List.mem_cons_self ..))
  have d_ne : d ≠ '$' := by
    rintro rfl
    have := numeric '$' (List.mem_cons_self ..)
    revert this
    decide
  have take_letters : (a :: (L' ++ d :: D')).takeWhile (fun c => c.isAlpha) = a :: L' := by
    rw [← List.cons_append, List.takeWhile_append_of_pos alpha, List.takeWhile_cons,
      if_neg (by simp [d_not_alpha]), List.append_nil]
  have drop_letters : (a :: (L' ++ d :: D')).dropWhile (fun c => c.isAlpha) = d :: D' := by
    rw [← List.cons_append, List.dropWhile_append_of_pos alpha, List.dropWhile_cons,
      if_neg (by simp [d_not_alpha])]
  unfold RefText.parse?
  simp [String.toList_ofList, a_ne, take_letters, drop_letters, d_ne,
    List.takeWhile_eq_self_iff.2 numeric, List.dropWhile_eq_nil_iff.2 numeric]

theorem refText_parse_parts {s : String} {t : RefText} (h : RefText.parse? s = some t) :
    ∃ L D : List Char, L ≠ [] ∧ D ≠ [] ∧ (∀ c ∈ L, c.isAlpha) ∧ (∀ c ∈ D, Text.isDigit c) ∧
      t = ⟨String.ofList L, String.ofList D⟩ := by
  unfold RefText.parse? at h
  simp only [Bool.or_eq_true, List.isEmpty_iff] at h
  split_ifs at h with empty
  cases h
  exact ⟨_, _, fun e => empty (Or.inl e), fun e => empty (Or.inr e),
    fun _ mem => List.mem_takeWhile_imp mem, fun _ mem => List.mem_takeWhile_imp mem, rfl⟩

theorem string_toUpper_ofList (L : List Char) :
    (String.ofList L).toUpper = String.ofList (L.map Char.toUpper) := by
  rw [← String.toList_inj, String.toUpper, String.toList_map, String.toList_ofList, String.toList_ofList]

theorem canonicalKey_ofList {L D : List Char} (letters : L ≠ []) (digits : D ≠ [])
    (alpha : ∀ c ∈ L, c.isAlpha) (numeric : ∀ c ∈ D, Text.isDigit c) :
    canonicalKey (String.ofList (L ++ D)) = String.ofList (L.map Char.toUpper ++ D) := by
  rw [canonicalKey, refText_parse_ofList letters digits alpha numeric]
  simp only [string_toUpper_ofList, String.ofList_append]

theorem canonicalKey_canonicalKey {s : String} (h : (RefText.parse? s).isSome) :
    canonicalKey (canonicalKey s) = canonicalKey s := by
  obtain ⟨t, parsed⟩ := Option.isSome_iff_exists.1 h
  obtain ⟨L, D, letters, digits, alpha, numeric, rfl⟩ := refText_parse_parts parsed
  have key : canonicalKey s = String.ofList (L.map Char.toUpper ++ D) := by
    rw [canonicalKey, parsed]
    simp only [string_toUpper_ofList, String.ofList_append]
  have upper : ∀ c ∈ L.map Char.toUpper, c.isAlpha := by
    simp only [List.mem_map]
    rintro _ ⟨c, mem, rfl⟩
    simp [Char.isAlpha, char_isUpper_toUpper (alpha c mem)]
  rw [key, canonicalKey_ofList (by simpa using letters) digits upper numeric, List.map_map]
  congr 2
  refine List.map_congr_left fun c mem => ?_
  exact char_toUpper_of_isUpper (char_isUpper_toUpper (alpha c mem))

theorem char_ofNat_letter_toNat {k : Nat} (h : k < 26) : (Char.ofNat (65 + k)).toNat = 65 + k := by
  simp only [Char.ofNat, Nat.isValidChar]
  rw [dif_pos (by omega)]
  simp [Char.ofNatAux, ← Char.toNat_val]
  omega

theorem char_ofNat_letter_isUpper {k : Nat} (h : k < 26) : (Char.ofNat (65 + k)).isUpper := by
  rw [char_isUpper_iff, char_ofNat_letter_toNat h]
  omega

theorem column_letters_go_upper : ∀ (n fuel : Nat) (acc : List Char), (∀ c ∈ acc, c.isUpper) →
    ∀ c ∈ Column.letters.go n fuel acc, c.isUpper
  | _, 0, _, upper => upper
  | n, fuel + 1, acc, upper => by
    unfold Column.letters.go
    split
    · exact upper
    · refine column_letters_go_upper _ fuel _ fun c mem => ?_
      rcases List.mem_cons.1 mem with rfl | mem
      · exact char_ofNat_letter_isUpper (Nat.mod_lt _ (by decide))
      · exact upper c mem

theorem column_letters_go_ne_nil : ∀ (n fuel : Nat) (acc : List Char), acc ≠ [] →
    Column.letters.go n fuel acc ≠ []
  | _, 0, _, nonempty => nonempty
  | n, fuel + 1, acc, nonempty => by
    unfold Column.letters.go
    split
    · exact nonempty
    · exact column_letters_go_ne_nil _ fuel _ (List.cons_ne_nil _ _)

theorem column_letters_upper (idx : Int) : ∀ c ∈ (Column.letters idx).toList, c.isUpper := by
  unfold Column.letters
  split
  · simp
  · rw [String.toList_ofList]
    exact column_letters_go_upper _ _ _ (by simp)

theorem column_letters_ne_nil {idx : Int} (h : 0 ≤ idx) : (Column.letters idx).toList ≠ [] := by
  unfold Column.letters
  rw [if_neg (by omega), String.toList_ofList]
  obtain ⟨fuel, eq⟩ : ∃ fuel, (idx + 1).toNat = fuel + 1 := ⟨idx.toNat, by omega⟩
  rw [eq, Column.letters.go, if_neg (by simp)]
  exact column_letters_go_ne_nil _ _ _ (List.cons_ne_nil _ _)

theorem int_toString_toList {n : Int} (h : 0 ≤ n) : (toString n).toList = Nat.toDigits 10 n.toNat := by
  obtain ⟨m, rfl⟩ := Int.eq_ofNat_of_zero_le h
  exact Nat.toList_repr

theorem int_toString_isDigit {n : Int} (h : 0 ≤ n) : ∀ c ∈ (toString n).toList, Text.isDigit c := by
  intro c mem
  rw [int_toString_toList h] at mem
  simp [Text.isDigit, Nat.isDigit_of_mem_toDigits (by decide) (by decide) mem]

theorem int_toString_ne_nil {n : Int} (h : 0 ≤ n) : (toString n).toList ≠ [] := by
  rw [int_toString_toList h]
  exact Nat.toDigits_ne_nil

theorem column_letters_alpha (idx : Int) : ∀ c ∈ (Column.letters idx).toList, c.isAlpha :=
  fun c mem => by simp [Char.isAlpha, column_letters_upper idx c mem]

theorem Ref.key_eq_ofList (r : Ref) :
    r.key = String.ofList ((Column.letters r.col).toList ++ (toString (r.row + 1)).toList) := by
  simp [Ref.key, String.ofList_append]

theorem canonicalKey_key {r : Ref} (row : -1 ≤ r.row) (col : 0 ≤ r.col) :
    canonicalKey r.key = r.key := by
  rw [Ref.key_eq_ofList, canonicalKey_ofList (column_letters_ne_nil col) (int_toString_ne_nil (by omega))
    (column_letters_alpha r.col) (int_toString_isDigit (by omega))]
  congr 2
  exact map_toUpper_of_isUpper (column_letters_upper r.col)

theorem column_ofUpper_fold_ge : ∀ (U : List Char) (acc : Int), (∀ c ∈ U, c.isUpper) → 0 ≤ acc →
    acc ≤ U.foldl (fun idx c => idx * 26 + ((c.toNat : Int) - 65 + 1)) acc
  | [], _, _, _ => Int.le_refl _
  | c :: U, acc, upper, nonneg => by
    have letter := char_isUpper_iff.1 (upper c (List.mem_cons_self ..))
    have rest := column_ofUpper_fold_ge U (acc * 26 + ((c.toNat : Int) - 65 + 1))
      (fun c mem => upper c (List.mem_cons_of_mem _ mem)) (by omega)
    rw [List.foldl_cons]
    omega

theorem column_ofUpper_nonneg {U : List Char} (nonempty : U ≠ []) (upper : ∀ c ∈ U, c.isUpper) :
    0 ≤ Column.ofUpper U := by
  obtain ⟨c, U, rfl⟩ := List.exists_cons_of_ne_nil nonempty
  have letter := char_isUpper_iff.1 (upper c (List.mem_cons_self ..))
  have rest := column_ofUpper_fold_ge U (0 * 26 + ((c.toNat : Int) - 65 + 1))
    (fun c mem => upper c (List.mem_cons_of_mem _ mem)) (by omega)
  unfold Column.ofUpper
  rw [List.foldl_cons]
  omega

theorem ref_parse_bounds {s : String} {p : Ref} (h : Ref.parse? s = some p) : -1 ≤ p.row ∧ 0 ≤ p.col := by
  obtain ⟨t, parsed, rfl⟩ := Option.map_eq_some_iff.1 h
  obtain ⟨L, D, letters, -, alpha, -, rfl⟩ := refText_parse_parts parsed
  refine ⟨by dsimp only; omega, column_ofUpper_nonneg ?_ ?_⟩
  · simpa [string_toUpper_ofList] using letters
  · simp only [string_toUpper_ofList, String.toList_ofList, List.mem_map]
    rintro _ ⟨c, mem, rfl⟩
    exact char_isUpper_toUpper (alpha c mem)

theorem span_refs_bounds {span : Span} {r : Ref} (mem : r ∈ span.refs) : -1 ≤ r.row ∧ 0 ≤ r.col := by
  unfold Span.refs at mem
  split at mem
  · rename_i p q first second
    have := ref_parse_bounds first
    have := ref_parse_bounds second
    simp only [List.mem_flatMap, List.mem_map, List.mem_range] at mem
    obtain ⟨_, ⟨i, -, rfl⟩, _, ⟨j, -, rfl⟩, rfl⟩ := mem
    dsimp only
    omega
  · simp at mem

theorem canonicalKey_of_mem_keys {span : Span} {k : String} (mem : k ∈ span.keys) :
    canonicalKey k = k := by
  obtain ⟨r, position, rfl⟩ := List.mem_map.1 mem
  have bounds := span_refs_bounds position
  exact canonicalKey_key bounds.1 bounds.2

end Spreadsheet
