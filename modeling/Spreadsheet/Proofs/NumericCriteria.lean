import Spreadsheet.Proofs.Criteria
import Spreadsheet.Proofs.NumberText

/-!
Numeric criteria and their text.

A criterion that is a number takes the non-blank cells equal to it under the comparison rules of
formulas, which read a truth value as 1 or 0 and a text by the number it starts with (zero when it
starts with none). The criterion `=` followed by the number's text takes only numbers and numeric
text equal to it: the text reads back as the number up to the sign of a zero
(`Number.display_reads_back`), and a numeric operand compares only with what a value holds as a
number (`accepts_text_form`). So the two take the same cells but for the truth values and
non-numeric texts that the lenient reading makes equal to the number (`readsLooselyAs`), and the
conditional aggregates over cells without those agree (`numeric_criterion_text_form`).
-/

set_option autoImplicit false

namespace Spreadsheet

theorem Value.first_first (v : Value) : v.first.first = v.first := by
  fun_induction Value.first v <;> simp_all [Value.first]

theorem Value.toNum_first (v : Value) : v.first.toNum = v.toNum := by
  simp only [Value.toNum, Value.first_first]

namespace Functions

namespace Criterion

/-- A value that the lenient reading of formulas makes equal to `c` although a numeric criterion
reads no number from it: a truth value or a non-blank text that is not numeric. -/
def readsLooselyAs (c : Float) (v : Value) : Bool :=
  (numberOf v).isNone && !v.isBlank && v.toNum.eq (.float c)

theorem accepts_float (c : Float) (v : Value) :
    (compile (.float c)).accepts v = (!v.isBlank && v.toNum.eq (.float c)) := by
  have target : (Value.float c).toNum = .float c := rfl
  simp [compile, accepts, Operands.equal, Operands.of, Operands.eq, Value.first, Value.toNum_first, target]

theorem looksNumeric_nonempty {s : String} (numeric : Number.looksNumeric s) : s.isEmpty = false := by
  cases empty : s.isEmpty
  · rfl
  · rw [String.isEmpty_iff.1 empty] at numeric
    exact absurd numeric (by decide)

theorem numberPrefix?_of_looksNumeric {s : String} (numeric : Number.looksNumeric s) :
    ∃ x, Number.numberPrefix? s = some x := by
  unfold Number.looksNumeric at numeric
  unfold Number.numberPrefix?
  cases scan : Number.scanSigned? s.toList with
  | none => simp [scan] at numeric
  | some p => exact ⟨p.1, rfl⟩

theorem toNum_of_numberOf {v : Value} {n : Num} (read : numberOf v = some n) :
    v.isBlank = false ∧ v.toNum = n := by
  cases v with
  | str s =>
    by_cases numeric : Number.looksNumeric s
    · simp only [numberOf, numeric, if_true, Option.some.injEq] at read
      subst read
      obtain ⟨x, start⟩ := numberPrefix?_of_looksNumeric numeric
      refine ⟨looksNumeric_nonempty numeric, ?_⟩
      simp [Value.toNum, Value.first, Value.toPlain, Number.readFloat?_of_looksNumeric numeric, start]
    · simp [numberOf, numeric] at read
  | int i => simp_all [numberOf, Value.num?, Value.isBlank, Value.toNum, Value.first]
  | float f => simp_all [numberOf, Value.num?, Value.isBlank, Value.toNum, Value.first]
  | _ => simp [numberOf, Value.num?] at read

theorem accepts_text_form {c : Float} (finite : c.isFinite) (v : Value) :
    (compile (.str ("=" ++ (Value.float c).toText))).accepts v =
      ((numberOf v).map fun n => n.eq (.float c)).getD false := by
  obtain ⟨c', whole, -, numeric, same⟩ := Number.display_reads_back finite
  have text : (Value.float c).toText = (Num.float c).display := rfl
  rw [text, compile_prefixed (Number.display_head finite)
    (show ("=", Comparison.eq) ∈ Comparison.prefixes by simp [Comparison.prefixes]), if_pos numeric, whole,
    Option.getD_some, accepts_number]
  cases numberOf v with
  | none => rfl
  | some n => simp [Num.eq, Comparison.holds, Number.Binary.compare?_of_same same n]

theorem accepts_float_iff_text_form {c : Float} (finite : c.isFinite) (v : Value) :
    (compile (.float c)).accepts v = (compile (.str ("=" ++ (Value.float c).toText))).accepts v ↔
      readsLooselyAs c v = false := by
  rw [accepts_float, accepts_text_form finite, readsLooselyAs]
  cases read : numberOf v with
  | none => simp
  | some n =>
    obtain ⟨present, lenient⟩ := toNum_of_numberOf read
    simp [present, lenient]

end Criterion

section Congruence

variable {R a b : Value} {rest : List Value}

theorem countIf_congr (agree : ∀ v ∈ Value.flatAll [R], (Criterion.compile a).accepts v = (Criterion.compile b).accepts v) :
    countIf (R :: a :: rest) = countIf (R :: b :: rest) := by
  simp only [countIf, argAt, List.getD_cons_zero, List.getD_cons_succ]
  rw [List.filter_congr agree]

theorem selected_congr (agree : ∀ v ∈ Value.flatAll [R], (Criterion.compile a).accepts v = (Criterion.compile b).accepts v) :
    selected (R :: a :: rest) = selected (R :: b :: rest) := by
  have tested : ∀ p ∈ conditionalPairs (R :: a :: rest), p.1 ∈ Value.flatAll [R] := by
    intro p mem
    simp only [conditionalPairs, argAt, List.getD_cons_zero, List.mem_map] at mem
    obtain ⟨⟨t, i⟩, listed, rfl⟩ := mem
    exact List.fst_mem_of_mem_zipIdx listed
  have pairs : conditionalPairs (R :: b :: rest) = conditionalPairs (R :: a :: rest) := rfl
  simp only [selected, argAt, List.getD_cons_succ, List.getD_cons_zero, pairs]
  rw [List.filter_congr fun p mem => by rw [agree p.1 (tested p mem)]]

theorem sumIf_congr (agree : ∀ v ∈ Value.flatAll [R], (Criterion.compile a).accepts v = (Criterion.compile b).accepts v) :
    sumIf (R :: a :: rest) = sumIf (R :: b :: rest) := by
  rw [sumIf, sumIf, selected_congr agree]

theorem averageIf_congr (agree : ∀ v ∈ Value.flatAll [R], (Criterion.compile a).accepts v = (Criterion.compile b).accepts v) :
    averageIf (R :: a :: rest) = averageIf (R :: b :: rest) := by
  rw [averageIf, averageIf, selected_congr agree]

end Congruence

open Criterion in
/-- A finite number and `=` followed by its text as criteria: the text takes exactly the numbers and
numeric texts equal to the number, the two take the same values but those that read loosely as the
number, and over cells without such values the conditional aggregates agree. -/
theorem numeric_criterion_text_form {c : Float} (finite : c.isFinite) :
    (∀ v, (compile (.str ("=" ++ (Value.float c).toText))).accepts v =
        ((numberOf v).map fun n => n.eq (.float c)).getD false ∧
      ((compile (.float c)).accepts v = (compile (.str ("=" ++ (Value.float c).toText))).accepts v ↔
        readsLooselyAs c v = false)) ∧
    ∀ R rest, (∀ v ∈ Value.flatAll [R], readsLooselyAs c v = false) →
      countIf (R :: .float c :: rest) = countIf (R :: .str ("=" ++ (Value.float c).toText) :: rest) ∧
      sumIf (R :: .float c :: rest) = sumIf (R :: .str ("=" ++ (Value.float c).toText) :: rest) ∧
      averageIf (R :: .float c :: rest) = averageIf (R :: .str ("=" ++ (Value.float c).toText) :: rest) := by
  refine ⟨fun v => ⟨accepts_text_form finite v, accepts_float_iff_text_form finite v⟩, fun R rest clean => ?_⟩
  have agree : ∀ v ∈ Value.flatAll [R],
      (compile (.float c)).accepts v = (compile (.str ("=" ++ (Value.float c).toText))).accepts v :=
    fun v mem => (accepts_float_iff_text_form finite v).2 (clean v mem)
  exact ⟨countIf_congr agree, sumIf_congr agree, averageIf_congr agree⟩

open Criterion in
theorem numeric_criterion_one_against_truth :
    (1.0 : Float).isFinite = true ∧ readsLooselyAs 1.0 (.bool true) = true ∧
      readsLooselyAs 1.0 (.str "1px") = true ∧
      (∀ v ∈ Value.flatAll [.list [.int 1, .str " 1.0 ", .null, .float 2.5]], readsLooselyAs 1.0 v = false) ∧
      countIf [.list [.int 1, .str " 1.0 ", .null, .float 2.5], .float 1.0] =
        countIf [.list [.int 1, .str " 1.0 ", .null, .float 2.5], .str ("=" ++ (Value.float 1.0).toText)] := by
  have finite : (1.0 : Float).isFinite = true := by decide
  have cells : Value.flatAll [.list [.int 1, .str " 1.0 ", .null, .float 2.5]] =
      [.int 1, .str " 1.0 ", .null, .float 2.5] := by
    simp [Value.flatAll]
  have clean : ∀ v ∈ Value.flatAll [.list [.int 1, .str " 1.0 ", .null, .float 2.5]],
      readsLooselyAs 1.0 v = false := by
    rw [cells]
    decide
  exact ⟨finite, by decide, by decide, clean,
    ((numeric_criterion_text_form finite).2 (.list [.int 1, .str " 1.0 ", .null, .float 2.5]) [] clean).1⟩

end Functions

end Spreadsheet
