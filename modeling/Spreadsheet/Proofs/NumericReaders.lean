import Spreadsheet.Proofs.NumericCriteria
import Spreadsheet.Sheet.Store

/-!
The readers of numbers in text, and the numbers of an argument list.

Arithmetic reads a text by the number it starts with, counting functions and plain cell content
read a text only when the whole of it is a number literal, and then read it whole. On numeric text
the three agree (`Number.readFloat?_of_looksNumeric`): the whole text and the number at its start
are the same double, for literals of any script and blanks of any kind around them. So the lenient
reading of a numeric text, its value as cell content and the number counting functions take from
it are one number, and the numbers of an argument list are the lenient readings of exactly its
numbers, truth values and numeric texts.
-/

set_option autoImplicit false

namespace Spreadsheet

namespace Value

/-- The scalars counting functions take: numbers, truth values and numeric text. -/
def countsAsNumber : Value → Bool
  | .int _ | .float _ | .bool _ => true
  | .str s => Number.looksNumeric s
  | _ => false

theorem toNum_str (s : String) : (str s).toNum = .float ((Number.numberPrefix? s).getD 0.0) := rfl

theorem flatNums_eq_counted {args : List Value} (scalars : ∀ x ∈ flatAll args, x.isScalar) :
    flatNums args = ((flatAll args).filter countsAsNumber).map toNum := by
  rw [flatNums, ← List.filterMap_eq_map', List.filterMap_filter]
  refine List.filterMap_congr fun x mem => ?_
  have scalar := scalars x mem
  cases x with
  | str s =>
    by_cases numeric : Number.looksNumeric s
    · -- a numeric text read whole is the number at its start, which `toNum` reads
      simp [countsAsNumber, numeric, toNum_str, Number.readFloat?_of_looksNumeric numeric]
    · simp [countsAsNumber, numeric]
  | null => rfl
  | bool b => rfl
  | int i => rfl
  | float f => rfl
  | list items => simp [isScalar] at scalar
  | dict entries => simp [isScalar] at scalar
  | date d => simp [isScalar] at scalar
  | datetime t => simp [isScalar] at scalar

theorem isScalar_of_flat {args : List Value} (flat : ∀ a ∈ args, a.Flat) : ∀ x ∈ flatAll args, x.isScalar := by
  intro x mem
  obtain ⟨a, listed, inner⟩ := mem_flatAll.1 mem
  exact flat a listed x inner

end Value

open Number in
/-- A numeric text reads whole as a double, which is the number at its start, its lenient reading
and its value as cell content.  The numbers of a list of formula values are the lenient readings
of its numbers, truth values and numeric texts, depth first. -/
theorem numeric_readers_agree (t : String) (args : List Value) :
    (looksNumeric t → ∃ f, readFloat? t = some f ∧ numberPrefix? t = some f ∧
        (Value.str t).toNum = .float f ∧ plainValue t = .float f) ∧
    ((∀ a ∈ args, a.Flat) →
        Value.flatNums args = ((Value.flatAll args).filter Value.countsAsNumber).map Value.toNum) := by
  refine ⟨fun numeric => ?_, fun flat => Value.flatNums_eq_counted (Value.isScalar_of_flat flat)⟩
  obtain ⟨f, start⟩ := Functions.Criterion.numberPrefix?_of_looksNumeric numeric
  have whole : readFloat? t = some f := (readFloat?_of_looksNumeric numeric).trans start
  have nonempty := Functions.Criterion.looksNumeric_nonempty numeric
  refine ⟨f, whole, start, by rw [Value.toNum_str, start]; rfl, ?_⟩
  simp [plainValue, nonempty, numeric, whole]

theorem numeric_readers_agree_on_wide_text :
    Number.looksNumeric "　-٣.5E1 " = true ∧
      (∃ f, Number.readFloat? "　-٣.5E1 " = some f ∧ Number.numberPrefix? "　-٣.5E1 " = some f ∧
        (Value.str "　-٣.5E1 ").toNum = .float f ∧ plainValue "　-٣.5E1 " = .float f) ∧
      (∀ a ∈ [Value.list [.int 2, .str "1px", .bool true, .null], .str " 4 "], a.Flat) ∧
      Value.flatNums [.list [.int 2, .str "1px", .bool true, .null], .str " 4 "] =
        ((Value.flatAll [.list [.int 2, .str "1px", .bool true, .null], .str " 4 "]).filter
          Value.countsAsNumber).map Value.toNum := by
  have agree := numeric_readers_agree "　-٣.5E1 " [.list [.int 2, .str "1px", .bool true, .null], .str " 4 "]
  have numeric : Number.looksNumeric "　-٣.5E1 " = true := by decide
  have flat : ∀ a ∈ [Value.list [.int 2, .str "1px", .bool true, .null], .str " 4 "], a.Flat := by
    simp [Value.Flat, Value.flatAll]
  exact ⟨numeric, agree.1 numeric, flat, agree.2 flat⟩

end Spreadsheet
