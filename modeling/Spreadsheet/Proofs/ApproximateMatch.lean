import Spreadsheet.Proofs.NumberOrder
import Spreadsheet.Proofs.NumericCriteria
import Spreadsheet.Functions.Lookup
import Mathlib.Data.String.Basic
import Mathlib.Order.Bounds.Defs

/-!
Approximate matching in lookups.

`VLOOKUP`, `HLOOKUP` and `MATCH` of type 1 scan the keys from the first, skip blanks, stop at the
first key above the sought one and answer the position of the last key they passed; `MATCH` of type
-1 scans the same way but stops at the first key below it. Both loops are one scan (`scanLast`) with
a test for the keys it passes. When a non-blank key passes only if every non-blank key before it
does, the scan answers the greatest position of a non-blank key that passes (`scanLast_cases`).

Sorted keys give that condition. Numbers and truth values compare as exact numbers
(`Num.le_trans`), and texts as their lower-case texts, in the order of strings; so keys sorted
ascending and of one kind with the sought key are passed up to the last one not above it, and keys
sorted descending up to the last one not below it. For values that are not NaN, not below is above
or equal; a NaN is below nothing, so `MATCH` of type -1 passes it whatever the sought key.
-/

set_option autoImplicit false

namespace Spreadsheet

namespace Value

def IsNumeric : Value → Prop
  | .int _ | .float _ | .bool _ => True
  | _ => False

theorem first_of_isNumeric {v : Value} (numeric : v.IsNumeric) : v.first = v := by
  cases v <;> first | rfl | exact numeric.elim

end Value

namespace Operands

theorem of_numeric {a b : Value} (numeric : a.IsNumeric ∨ b.IsNumeric) : of a b = .nums a.toNum b.toNum := by
  unfold of
  dsimp only
  split
  · simp only [Value.toNum, Value.first_first]
  · next notNumeric =>
    -- a numeric side is its own first scalar, and the test of the comparison sees it
    exfalso
    rcases numeric with left | right
    · rw [Value.first_of_isNumeric left] at notNumeric
      cases a <;> first | exact left.elim | simp at notNumeric
    · rw [Value.first_of_isNumeric right] at notNumeric
      cases b <;> first | exact right.elim | simp at notNumeric

theorem of_str (s t : String) : of (.str s) (.str t) = .texts (Text.lower s) (Text.lower t) := rfl

end Operands

namespace Functions

open Number

/-- The scan of the approximate searches: blanks are skipped, the first non-blank key failing
`passes` ends it, and the position of the last key passing it is kept. -/
def scanLast (passes : Value → Bool) : List Value → Nat → Option Nat → Option Nat
  | [], _, found => found
  | k :: rest, i, found =>
    if k.isBlank then scanLast passes rest (i + 1) found
    else if passes k then scanLast passes rest (i + 1) (some i)
    else found

theorem findKey_go_eq (key : Value) (keys : List Value) (i : Nat) (found : Option Nat) :
    findKey.go key keys i found = scanLast (fun k => (Operands.of k key).le) keys i found := by
  induction keys generalizing i found with
  | nil => rfl
  | cons k rest ih => simp only [findKey.go, scanLast, ih]

theorem findDescending_go_eq (key : Value) (keys : List Value) (i : Nat) (found : Option Nat) :
    findDescending.go key keys i found = scanLast (fun v => !(Operands.of v key).lt) keys i found := by
  induction keys generalizing i found with
  | nil => rfl
  | cons k rest ih =>
    simp only [findDescending.go, scanLast, ih, Bool.not_eq_true']
    by_cases below : (Operands.of k key).lt = true <;> simp [below]

def PassesAt (passes : Value → Bool) (keys : List Value) (i : Nat) : Prop :=
  ∃ k, keys[i]? = some k ∧ k.isBlank = false ∧ passes k = true

theorem passesAt_succ {passes : Value → Bool} {k : Value} {rest : List Value} {i : Nat} :
    PassesAt passes (k :: rest) (i + 1) ↔ PassesAt passes rest i := by
  simp [PassesAt]

theorem passesAt_zero {passes : Value → Bool} {k : Value} {rest : List Value} :
    PassesAt passes (k :: rest) 0 ↔ k.isBlank = false ∧ passes k = true := by
  simp [PassesAt]

theorem isGreatest_succ {passes : Value → Bool} {k : Value} {rest : List Value} {j : Nat}
    (greatest : IsGreatest {i | PassesAt passes rest i} j) :
    IsGreatest {i | PassesAt passes (k :: rest) i} (j + 1) := by
  refine ⟨passesAt_succ.2 greatest.1, ?_⟩
  rintro (_ | i) passing
  · exact Nat.zero_le _
  · exact Nat.succ_le_succ (greatest.2 (passesAt_succ.1 passing))

section Scan

variable {passes : Value → Bool} {R : Value → Value → Bool}

theorem scanLast_cases (keys : List Value)
    (sorted : (keys.filter fun k => !k.isBlank).Pairwise fun a b => R a b = true)
    (mono : ∀ a ∈ keys, ∀ b ∈ keys, a.isBlank = false → b.isBlank = false → R a b = true →
      passes b = true → passes a = true)
    (n : Nat) (found : Option Nat) :
    (∃ j, IsGreatest {i | PassesAt passes keys i} j ∧ scanLast passes keys n found = some (n + j)) ∨
      ((∀ i, ¬PassesAt passes keys i) ∧ scanLast passes keys n found = found) := by
  induction keys generalizing n found with
  | nil => exact .inr ⟨fun i ⟨_, at_i, _⟩ => by simp at at_i, rfl⟩
  | cons k rest ih =>
    have monoRest : ∀ a ∈ rest, ∀ b ∈ rest, a.isBlank = false → b.isBlank = false → R a b = true →
        passes b = true → passes a = true :=
      fun a ha b hb => mono a (List.mem_cons_of_mem k ha) b (List.mem_cons_of_mem k hb)
    -- a non-blank first key is below every non-blank key after it
    have sortedCons : ¬k.isBlank = true → (∀ b ∈ rest, b.isBlank = false → R k b = true) ∧
        (rest.filter fun k => !k.isBlank).Pairwise fun a b => R a b = true := by
      intro blank
      simpa [blank] using sorted
    have sortedRest : (rest.filter fun k => !k.isBlank).Pairwise fun a b => R a b = true := by
      by_cases blank : k.isBlank = true
      · simpa [blank] using sorted
      · exact (sortedCons blank).2
    -- what the rest of the scan does, from the next position, with what it will hold
    have next : ∀ held, (∃ j, IsGreatest {i | PassesAt passes rest i} j ∧
          scanLast passes rest (n + 1) held = some (n + 1 + j)) ∨
        ((∀ i, ¬PassesAt passes rest i) ∧ scanLast passes rest (n + 1) held = held) :=
      fun held => ih sortedRest monoRest (n + 1) held
    by_cases blank : k.isBlank = true
    · -- a blank key is skipped
      have skipped : scanLast passes (k :: rest) n found = scanLast passes rest (n + 1) found := by
        simp [scanLast, blank]
      rw [skipped]
      rcases next found with ⟨j, greatest, scan⟩ | ⟨none_pass, scan⟩
      · exact .inl ⟨j + 1, isGreatest_succ greatest, by rw [scan]; congr 1; omega⟩
      · refine .inr ⟨?_, scan⟩
        rintro (_ | i) passing
        · simp [passesAt_zero, blank] at passing
        · exact none_pass i (passesAt_succ.1 passing)
    · by_cases pass : passes k = true
      · -- a key that passes is remembered and the scan goes on
        have kept : scanLast passes (k :: rest) n found = scanLast passes rest (n + 1) (some n) := by
          simp [scanLast, blank, pass]
        rw [kept]
        rcases next (some n) with ⟨j, greatest, scan⟩ | ⟨none_pass, scan⟩
        · exact .inl ⟨j + 1, isGreatest_succ greatest, by rw [scan]; congr 1; omega⟩
        · refine .inl ⟨0, ⟨passesAt_zero.2 ⟨by simpa using blank, pass⟩, ?_⟩, scan⟩
          rintro (_ | i) passing
          · exact le_refl 0
          · exact (none_pass i (passesAt_succ.1 passing)).elim
      · -- the first key that fails ends the scan, and no later key passes
        have stopped : scanLast passes (k :: rest) n found = found := by
          simp [scanLast, blank, pass]
        rw [stopped]
        have first := (sortedCons blank).1
        refine .inr ⟨?_, rfl⟩
        rintro (_ | i) passing
        · exact pass (passesAt_zero.1 passing).2
        · obtain ⟨b, at_i, nonblank, passed⟩ := passesAt_succ.1 passing
          have member : b ∈ rest := List.mem_of_getElem? at_i
          exact pass (mono k List.mem_cons_self b (List.mem_cons_of_mem k member) (by simpa using blank)
            nonblank (first b member nonblank) passed)

theorem scanLast_eq_some_iff (keys : List Value)
    (sorted : (keys.filter fun k => !k.isBlank).Pairwise fun a b => R a b = true)
    (mono : ∀ a ∈ keys, ∀ b ∈ keys, a.isBlank = false → b.isBlank = false → R a b = true →
      passes b = true → passes a = true) :
    (∀ i, scanLast passes keys 0 none = some i ↔ IsGreatest {j | PassesAt passes keys j} i) ∧
      (scanLast passes keys 0 none = none ↔ ∀ j, ¬PassesAt passes keys j) := by
  rcases scanLast_cases keys sorted mono 0 none with ⟨j, greatest, scan⟩ | ⟨none_pass, scan⟩
  · rw [scan, Nat.zero_add]
    refine ⟨fun i => ⟨fun same => Option.some.inj same ▸ greatest, fun other => ?_⟩, ?_⟩
    · rw [greatest.unique other]
    · simp only [reduceCtorEq, false_iff, not_forall, not_not]
      exact ⟨j, greatest.1⟩
  · rw [scan]
    exact ⟨fun i => ⟨nofun, fun greatest => (none_pass i greatest.1).elim⟩, ⟨fun _ => none_pass, fun _ => rfl⟩⟩

end Scan

def OfOneKind (keys : List Value) (key : Value) : Prop :=
  (key.IsNumeric ∧ ∀ k ∈ keys, k.isBlank = false → k.IsNumeric) ∨
    ((∃ t, key = .str t) ∧ ∀ k ∈ keys, k.isBlank = false → ∃ s, k = .str s)

section OneKind

variable {keys : List Value} {key : Value}

theorem le_trans_of_oneKind (kind : OfOneKind keys key) {a b : Value} (ha : a ∈ keys) (hb : b ∈ keys)
    (na : a.isBlank = false) (nb : b.isBlank = false) (ab : (Operands.of a b).le = true)
    (bk : (Operands.of b key).le = true) : (Operands.of a key).le = true := by
  rcases kind with ⟨numericKey, numeric⟩ | ⟨⟨t, rfl⟩, texts⟩
  · have numA := numeric a ha na
    rw [Operands.of_numeric (.inl numA)] at ab ⊢
    rw [Operands.of_numeric (.inr numericKey)] at bk
    exact Num.le_trans ab bk
  · obtain ⟨sa, rfl⟩ := texts a ha na
    obtain ⟨sb, rfl⟩ := texts b hb nb
    simp only [Operands.of_str, Operands.le, decide_eq_true_iff] at ab bk ⊢
    exact ab.trans bk

theorem lt_of_ge_of_oneKind (kind : OfOneKind keys key) {a b : Value} (ha : a ∈ keys) (hb : b ∈ keys)
    (na : a.isBlank = false) (nb : b.isBlank = false) (ab : (Operands.of a b).ge = true)
    (ak : (Operands.of a key).lt = true) : (Operands.of b key).lt = true := by
  rcases kind with ⟨numericKey, numeric⟩ | ⟨⟨t, rfl⟩, texts⟩
  · have numA := numeric a ha na
    have numB := numeric b hb nb
    rw [Operands.of_numeric (.inl numA)] at ab ak
    rw [Operands.of_numeric (.inl numB)]
    exact Num.lt_of_ge_of_lt ab ak
  · obtain ⟨sa, rfl⟩ := texts a ha na
    obtain ⟨sb, rfl⟩ := texts b hb nb
    simp only [Operands.of_str, Operands.ge, Operands.lt, decide_eq_true_iff] at ab ak ⊢
    exact ab.trans_lt ak

end OneKind

def Ascending (keys : List Value) : Prop :=
  (keys.filter fun k => !k.isBlank).Pairwise fun a b => (Operands.of a b).le = true

def Descending (keys : List Value) : Prop :=
  (keys.filter fun k => !k.isBlank).Pairwise fun a b => (Operands.of a b).ge = true

instance (keys : List Value) : Decidable (Ascending keys) := by
  unfold Ascending; infer_instance

instance (keys : List Value) : Decidable (Descending keys) := by
  unfold Descending; infer_instance

theorem findKey_approximate {keys : List Value} {key : Value} (kind : OfOneKind keys key)
    (sorted : Ascending keys) :
    (∀ i, findKey keys key true = some i ↔
        IsGreatest {j | PassesAt (fun k => (Operands.of k key).le) keys j} i) ∧
      (findKey keys key true = none ↔ ∀ j, ¬PassesAt (fun k => (Operands.of k key).le) keys j) := by
  have scan : findKey keys key true = scanLast (fun k => (Operands.of k key).le) keys 0 none := by
    simp [findKey, findKey_go_eq]
  rw [scan]
  exact scanLast_eq_some_iff keys sorted fun a ha b hb na nb => le_trans_of_oneKind kind ha hb na nb

theorem findDescending_greatest {keys : List Value} {key : Value} (kind : OfOneKind keys key)
    (sorted : Descending keys) :
    (∀ i, findDescending keys key = some i ↔
        IsGreatest {j | PassesAt (fun k => !(Operands.of k key).lt) keys j} i) ∧
      (findDescending keys key = none ↔ ∀ j, ¬PassesAt (fun k => !(Operands.of k key).lt) keys j) := by
  rw [findDescending, findDescending_go_eq]
  refine scanLast_eq_some_iff keys sorted fun a ha b hb na nb ab notBelow => ?_
  -- a key below the sought one would make every key after it below it too
  simp only [Bool.not_eq_eq_eq_not, Bool.not_true] at notBelow ⊢
  cases below : (Operands.of a key).lt
  · rfl
  · rw [lt_of_ge_of_oneKind kind ha hb na nb ab below] at notBelow
    cases notBelow

def IsNaN (v : Value) : Prop := ∃ f, v = .float f ∧ f.isNaN = true

theorem exactValue?_isSome {v : Value} (numeric : v.IsNumeric) (notNaN : ¬IsNaN v) : v.toNum.exactValue?.isSome := by
  cases v with
  | int i => rfl
  | float f =>
    have valued : (Number.Binary.ofFloat f).exactValue?.isNone = false := by
      rw [← Number.Binary.isNaN_eq]
      simpa [IsNaN] using notNaN
    simpa [Value.toNum, Value.first, Num.exactValue?] using valued
  | bool b => cases b <;> rfl
  | _ => exact numeric.elim

theorem lt_eq_false_iff_ge_of_oneKind {keys : List Value} {key : Value} (kind : OfOneKind keys key)
    (keyNotNaN : ¬IsNaN key) {k : Value} (member : k ∈ keys) (nonblank : k.isBlank = false)
    (notNaN : ¬IsNaN k) : (Operands.of k key).lt = false ↔ (Operands.of k key).ge = true := by
  rcases kind with ⟨numericKey, numeric⟩ | ⟨⟨t, rfl⟩, texts⟩
  · have numK := numeric k member nonblank
    rw [Operands.of_numeric (.inl numK)]
    exact Num.lt_eq_false_iff_ge (exactValue?_isSome numK notNaN) (exactValue?_isSome numericKey keyNotNaN)
  · obtain ⟨s, rfl⟩ := texts k member nonblank
    simp only [Operands.of_str, Operands.lt, Operands.ge, decide_eq_false_iff_not, decide_eq_true_iff, not_lt]

def soughtKey (args : List Value) : Value := (argAt args 0).first

def firstColumn (rows : List (List Value)) : List Value := rows.map fun r => r.headD .null

/-- A table lookup is approximate unless a fourth argument that is false says otherwise. -/
def ApproximateMode (args : List Value) : Prop := args.length ≤ 3 ∨ (argAt args 3).isTruthy = true

def cellAt (row : List Value) (c : Int) : Value :=
  if c < 1 ∨ c > row.length then ErrorCode.badRef.toValue else row.getD (c - 1).toNat .null

theorem tableLookup_of_findKey {rows : List (List Value)} {args : List Value} {c : Int}
    (approximate : ApproximateMode args) (column : intArg args 2 = .ok c) :
    tableLookup rows args =
      .ok ((findKey (firstColumn rows) (soughtKey args) true).elim ErrorCode.notAvailable.toValue
        fun i => cellAt (rows.getD i []) c) := by
  have mode : (if args.length > 3 then (argAt args 3).isTruthy else true) = true := by
    rcases approximate with short | truthy
    · rw [if_neg (by omega)]
    · split <;> simp [truthy]
  simp only [tableLookup, column, mode, bind, Except.bind, pure, Except.pure]
  split
  next empty =>
    -- an empty table has no keys, and the search finds none
    rw [List.isEmpty_iff.1 empty]
    rfl
  next =>
    cases found : findKey (firstColumn rows) (soughtKey args) true with
    | none => simp [firstColumn, soughtKey] at found; simp [found, failWith]
    | some i =>
      simp only [firstColumn, soughtKey] at found
      simp only [found, Option.elim, cellAt]
      split <;> simp_all

theorem matchPosition_of_kind {args : List Value} {t : Int} (kind : intArg args 2 (.float 1) = .ok t) :
    matchPosition args =
      .ok ((if t = 0 then findKey (Value.flatAll [argAt args 1]) (soughtKey args) false
        else if t > 0 then findKey (Value.flatAll [argAt args 1]) (soughtKey args) true
        else findDescending (Value.flatAll [argAt args 1]) (soughtKey args)).elim
          ErrorCode.notAvailable.toValue fun i => .int (i + 1)) := by
  simp only [matchPosition, kind, bind, Except.bind, soughtKey, beq_iff_eq]
  split <;> simp_all [failWith, pure, Except.pure]

def NotAboveAt (keys : List Value) (key : Value) (j : Nat) : Prop :=
  PassesAt (fun k => (Operands.of k key).le) keys j

def AtLeastAt (keys : List Value) (key : Value) (j : Nat) : Prop :=
  PassesAt (fun k => (Operands.of k key).ge) keys j

theorem tableLookup_approximate {rows : List (List Value)} {args : List Value} {c : Int}
    (approximate : ApproximateMode args) (column : intArg args 2 = .ok c)
    (kind : OfOneKind (firstColumn rows) (soughtKey args)) (sorted : Ascending (firstColumn rows)) :
    (∀ i, IsGreatest {j | NotAboveAt (firstColumn rows) (soughtKey args) j} i →
        tableLookup rows args = .ok (cellAt (rows.getD i []) c)) ∧
      ((∀ j, ¬NotAboveAt (firstColumn rows) (soughtKey args) j) →
        tableLookup rows args = .ok ErrorCode.notAvailable.toValue) := by
  have search := findKey_approximate kind sorted
  rw [tableLookup_of_findKey approximate column]
  exact ⟨fun i greatest => by rw [((search.1 i).2 greatest)]; rfl,
    fun none_pass => by rw [search.2.2 none_pass]; rfl⟩

theorem matchPosition_ascending {args values : List Value} {t : Int}
    (flat : Value.flatAll [argAt args 1] = values) (kindArg : intArg args 2 (.float 1) = .ok t) (positive : 0 < t)
    (kind : OfOneKind values (soughtKey args)) (sorted : Ascending values) :
    (∀ i, IsGreatest {j | NotAboveAt values (soughtKey args) j} i → matchPosition args = .ok (.int (i + 1))) ∧
      ((∀ j, ¬NotAboveAt values (soughtKey args) j) → matchPosition args = .ok ErrorCode.notAvailable.toValue) := by
  have search := findKey_approximate kind sorted
  rw [matchPosition_of_kind kindArg, flat, if_neg (by omega), if_pos positive]
  exact ⟨fun i greatest => by rw [((search.1 i).2 greatest)]; rfl,
    fun none_pass => by rw [search.2.2 none_pass]; rfl⟩

theorem passesAt_not_below_iff {keys : List Value} {key : Value} (kind : OfOneKind keys key)
    (keyNotNaN : ¬IsNaN key) (notNaN : ∀ k ∈ keys, ¬IsNaN k) (j : Nat) :
    PassesAt (fun k => !(Operands.of k key).lt) keys j ↔ AtLeastAt keys key j := by
  unfold AtLeastAt PassesAt
  refine exists_congr fun k => and_congr_right fun at_j => and_congr_right fun nonblank => ?_
  have member : k ∈ keys := List.mem_of_getElem? at_j
  rw [Bool.not_eq_true', lt_eq_false_iff_ge_of_oneKind kind keyNotNaN member nonblank (notNaN k member)]

theorem findDescending_atLeast {keys : List Value} {key : Value} (kind : OfOneKind keys key)
    (sorted : Descending keys) (keyNotNaN : ¬IsNaN key) (notNaN : ∀ k ∈ keys, ¬IsNaN k) :
    (∀ i, findDescending keys key = some i ↔ IsGreatest {j | AtLeastAt keys key j} i) ∧
      (findDescending keys key = none ↔ ∀ j, ¬AtLeastAt keys key j) := by
  have search := findDescending_greatest kind sorted
  simp only [passesAt_not_below_iff kind keyNotNaN notNaN] at search
  exact search

theorem matchPosition_descending {args values : List Value} {t : Int}
    (flat : Value.flatAll [argAt args 1] = values) (kindArg : intArg args 2 (.float 1) = .ok t) (negative : t < 0)
    (kind : OfOneKind values (soughtKey args)) (sorted : Descending values)
    (keyNotNaN : ¬IsNaN (soughtKey args)) (notNaN : ∀ k ∈ values, ¬IsNaN k) :
    (∀ i, IsGreatest {j | AtLeastAt values (soughtKey args) j} i → matchPosition args = .ok (.int (i + 1))) ∧
      ((∀ j, ¬AtLeastAt values (soughtKey args) j) → matchPosition args = .ok ErrorCode.notAvailable.toValue) := by
  have search := findDescending_atLeast kind sorted keyNotNaN notNaN
  rw [matchPosition_of_kind kindArg, flat, if_neg (by omega), if_neg (by omega)]
  exact ⟨fun i greatest => by rw [((search.1 i).2 greatest)]; rfl,
    fun none_pass => by rw [search.2.2 none_pass]; rfl⟩

/-- Approximate lookups over keys of one kind with the sought key. Over ascending keys the search
gives the greatest position of a non-blank key not above the sought one, and nothing when there is
none; so `VLOOKUP` and `HLOOKUP` in approximate mode give the cell of that row of the table (of its
rows, or of its columns) and `MATCH` of a positive type gives that position counted from 1, each
`#N/A` without one. Over descending keys, when neither the sought key nor a key is NaN, the
descending search and `MATCH` of a negative type give the greatest position of a key above or equal
to the sought one. -/
theorem approximate_lookup_finds_last (keys : List Value) (key : Value) (kind : OfOneKind keys key) :
    (Ascending keys →
      (∀ i, findKey keys key true = some i ↔ IsGreatest {j | NotAboveAt keys key j} i) ∧
      (findKey keys key true = none ↔ ∀ j, ¬NotAboveAt keys key j) ∧
      (∀ (args : List Value) (rows : List (List Value)) (c : Int), soughtKey args = key →
        rowsOf (argAt args 1) = rows → firstColumn rows = keys → ApproximateMode args →
        intArg args 2 = .ok c →
        (∀ i, IsGreatest {j | NotAboveAt keys key j} i → vlookup args = .ok (cellAt (rows.getD i []) c)) ∧
          ((∀ j, ¬NotAboveAt keys key j) → vlookup args = .ok ErrorCode.notAvailable.toValue)) ∧
      (∀ (args : List Value) (rows : List (List Value)) (c : Int), soughtKey args = key →
        transpose (rowsOf (argAt args 1)) = rows → firstColumn rows = keys → ApproximateMode args →
        intArg args 2 = .ok c →
        (∀ i, IsGreatest {j | NotAboveAt keys key j} i → hlookup args = .ok (cellAt (rows.getD i []) c)) ∧
          ((∀ j, ¬NotAboveAt keys key j) → hlookup args = .ok ErrorCode.notAvailable.toValue)) ∧
      (∀ (args : List Value) (t : Int), soughtKey args = key → Value.flatAll [argAt args 1] = keys →
        intArg args 2 (.float 1) = .ok t → 0 < t →
        (∀ i, IsGreatest {j | NotAboveAt keys key j} i → matchPosition args = .ok (.int (i + 1))) ∧
          ((∀ j, ¬NotAboveAt keys key j) → matchPosition args = .ok ErrorCode.notAvailable.toValue))) ∧
    (Descending keys → ¬IsNaN key → (∀ k ∈ keys, ¬IsNaN k) →
      (∀ i, findDescending keys key = some i ↔ IsGreatest {j | AtLeastAt keys key j} i) ∧
      (findDescending keys key = none ↔ ∀ j, ¬AtLeastAt keys key j) ∧
      (∀ (args : List Value) (t : Int), soughtKey args = key → Value.flatAll [argAt args 1] = keys →
        intArg args 2 (.float 1) = .ok t → t < 0 →
        (∀ i, IsGreatest {j | AtLeastAt keys key j} i → matchPosition args = .ok (.int (i + 1))) ∧
          ((∀ j, ¬AtLeastAt keys key j) → matchPosition args = .ok ErrorCode.notAvailable.toValue))) := by
  refine ⟨fun sorted => ?ascending, fun sorted keyNotNaN notNaN => ?descending⟩
  case ascending =>
    obtain ⟨found, missing⟩ := findKey_approximate kind sorted
    refine ⟨found, missing, ?vertical, ?horizontal, ?matching⟩
    case vertical =>
      rintro args rows c rfl table rfl approximate column
      rw [vlookup, table]
      exact tableLookup_approximate approximate column kind sorted
    case horizontal =>
      rintro args rows c rfl table rfl approximate column
      rw [hlookup, table]
      exact tableLookup_approximate approximate column kind sorted
    case matching =>
      rintro args t rfl flat kindArg positive
      exact matchPosition_ascending flat kindArg positive kind sorted
  case descending =>
    obtain ⟨found, missing⟩ := findDescending_atLeast kind sorted keyNotNaN notNaN
    refine ⟨found, missing, ?_⟩
    rintro args t rfl flat kindArg negative
    exact matchPosition_descending flat kindArg negative kind sorted keyNotNaN notNaN

theorem approximate_lookup_skips_blanks :
    IsGreatest {j | NotAboveAt [.int 1, .null, .int 3, .str "", .int 5] (.int 4) j} 2 := by
  have kind : OfOneKind [.int 1, .null, .int 3, .str "", .int 5] (.int 4) := by
    refine Or.inl ⟨trivial, fun k member _ => ?_⟩
    simp only [List.mem_cons, List.not_mem_nil, or_false] at member
    rcases member with rfl | rfl | rfl | rfl | rfl <;> simp_all [Value.isBlank, Value.IsNumeric]
  exact (((approximate_lookup_finds_last _ _ kind).1 (by decide)).1 2).1 (by decide)

theorem approximate_lookup_descending_skips_blanks :
    IsGreatest {j | AtLeastAt [.int 7, .null, .int 3, .str "", .int 1] (.int 2) j} 2 := by
  have kind : OfOneKind [.int 7, .null, .int 3, .str "", .int 1] (.int 2) := by
    refine Or.inl ⟨trivial, fun k member _ => ?_⟩
    simp only [List.mem_cons, List.not_mem_nil, or_false] at member
    rcases member with rfl | rfl | rfl | rfl | rfl <;> simp_all [Value.isBlank, Value.IsNumeric]
  have keysExact : ∀ k ∈ [Value.int 7, .null, .int 3, .str "", .int 1], ¬IsNaN k := by
    rintro k member ⟨f, isFloat, -⟩
    simp only [List.mem_cons, List.not_mem_nil, or_false] at member
    rcases member with rfl | rfl | rfl | rfl | rfl <;> cases isFloat
  have keyExact : ¬IsNaN (.int 2) := by
    rintro ⟨f, isFloat, -⟩
    cases isFloat
  exact (((approximate_lookup_finds_last _ _ kind).2 (by decide) keyExact keysExact).1 2).1 (by decide)

/-- The descending search passes a key compared against NaN, since NaN is not above it: over
`3, 2, 1` it lands on the last position though no key is above or equal to NaN. -/
theorem findDescending_passes_nan :
    findDescending [.int 3, .int 2, .int 1] (.float (0.0 / 0.0)) = some 2 ∧
      ∀ j, ¬AtLeastAt [.int 3, .int 2, .int 1] (.float (0.0 / 0.0)) j := by
  refine ⟨by decide, ?_⟩
  rintro j ⟨k, at_j, -, atLeast⟩
  have member := List.mem_of_getElem? at_j
  simp only [List.mem_cons, List.not_mem_nil, or_false] at member
  rcases member with rfl | rfl | rfl <;> revert atLeast <;> decide

end Functions

end Spreadsheet
