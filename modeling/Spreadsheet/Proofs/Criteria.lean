import Spreadsheet.Proofs.Builtins
import Mathlib.Tactic.SplitIfs
import Mathlib.Data.List.Basic

/-!
Criteria of the conditional aggregates.

A criterion text is a comparison prefix and an operand. When the operand does not itself start
with a comparison character, the six comparisons divide the cells as the comparisons of an order
do: `=` and `<>` are complementary, `>=` is `>` or `=`, `<=` is `<` or `=`, and the bare operand
means `=`. This holds for each kind of operand: a numeric operand fails every value that no
number is read from (but for `<>`), an empty operand tests for blanks, and a text operand compares
lower-cased texts, the empty text being the text of exactly the blank cells. Counted by
`COUNTIF`, the laws are sums of counts (`countIf_comparison_laws`).
-/

set_option autoImplicit false

namespace Spreadsheet

namespace Text

theorem splitOnAux_ne_nil (s sep : String) (b i j : String.Pos.Raw) (r : List String) :
    String.splitOnAux s sep b i j r ≠ [] := by
  fun_induction String.splitOnAux s sep b i j r <;> simp_all

theorem splitOn_ne_nil (s sep : String) : s.splitOn sep ≠ [] := by
  unfold String.splitOn
  split
  · simp
  · exact splitOnAux_ne_nil _ _ _ _ _ _

theorem readMulti_entry {s : String} {e : Nat × List Nat} (mem : e ∈ readMulti s) :
    e.1 = 0 ∨ e.2 ≠ [] := by
  simp only [readMulti, List.mem_toArray, List.mem_map] at mem
  obtain ⟨w, -, rfl⟩ := mem
  split
  · exact .inr (by simpa using splitOn_ne_nil _ _)
  · exact .inl rfl

theorem lastAtMost_go_mem {α : Type} [Inhabited α] {a : Array α} {key : α → Nat} {c : Nat} :
    ∀ (fuel lo hi : Nat) {x : α}, hi ≤ a.size → lastAtMost.go a key c lo hi fuel = some x → x ∈ a
  | 0, _, _, _, _, found => by simp [lastAtMost.go] at found
  | fuel + 1, lo, hi, x, within, found => by
    unfold lastAtMost.go at found
    split at found
    · split at found
      next inside =>
        simp only [Option.some.injEq] at found
        subst found
        have : lo < a.size := by simp at inside; omega
        rw [getElem!_pos a lo this]
        exact Array.getElem_mem this
      next => simp at found
    · -- the search keeps within `[lo, hi)`, so the upper end never passes the array's size
      dsimp only at found
      split at found
      · exact lastAtMost_go_mem fuel _ hi within found
      · exact lastAtMost_go_mem fuel lo _ (by omega) found

theorem lastAtMost_mem {α : Type} [Inhabited α] {a : Array α} {key : α → Nat} {c : Nat} {x : α}
    (found : lastAtMost a key c = some x) : x ∈ a :=
  lastAtMost_go_mem 64 0 a.size (Nat.le_refl _) found

theorem applyMulti_ne_nil {s : String} {c : Nat} {cs : List Nat} (positive : 0 < c)
    (found : applyMulti (readMulti s) c = some cs) : cs ≠ [] := by
  unfold applyMulti at found
  split at found
  next k v hit =>
    split at found
    next same =>
      simp only [Option.some.injEq] at found
      subst found
      rcases readMulti_entry (lastAtMost_mem hit) with zero | nonempty
      · simp at same zero; omega
      · exact nonempty
    next => simp at found
  next => simp at found

theorem lowerChar_ne_nil (c : Char) : lowerChar c ≠ [] := by
  unfold lowerChar mapCase
  split
  · simp
  · split
    next cs found =>
      have : cs ≠ [] := applyMulti_ne_nil (by omega) found
      simpa [ofCodes] using this
    next => split <;> simp

theorem lowerAt_ne_nil (before : List Char) (c : Char) (after : List Char) :
    lowerAt before c after ≠ [] := by
  unfold lowerAt
  split
  · simp
  · exact lowerChar_ne_nil c

theorem lower_go_eq_nil_iff (before cs : List Char) : lower.go before cs = [] ↔ cs = [] := by
  cases cs with
  | nil => simp [lower.go]
  | cons c rest => simp [lower.go, lowerAt_ne_nil]

theorem lower_eq_empty_iff (s : String) : lower s = "" ↔ s = "" := by
  rw [lower, String.ofList_eq_empty_iff, lower_go_eq_nil_iff, String.toList_eq_nil_iff]

end Text

theorem intText_ne_empty (i : Int) : toString i ≠ "" := by
  change i.repr ≠ ""
  cases i <;> simp [Int.repr, Nat.repr, String.ofList_eq_empty_iff, Nat.toDigits_ne_nil]

namespace Number

theorem layoutShort_ne_empty (digits : String) (point : Int) : layoutShort digits point ≠ "" := by
  unfold layoutShort
  dsimp only
  split_ifs <;> simp [String.append_eq_empty_iff]

theorem shortText_ne_empty (x : Float) : Float.shortText x ≠ "" := by
  unfold Float.shortText
  split
  · decide
  · split <;> decide
  · dsimp only
    split_ifs <;> simp [String.append_eq_empty_iff, layoutShort_ne_empty]

end Number

theorem Num.display_ne_empty (n : Num) : n.display ≠ "" := by
  cases n with
  | int i => exact intText_ne_empty i
  | float f =>
    simp only [Num.display]
    split
    · simp
    · split <;> simp
    · split
      · exact intText_ne_empty _
      · exact Number.shortText_ne_empty f

theorem Value.toText_eq_empty_iff {v : Value} (scalar : v.isScalar) : v.toText = "" ↔ v.isBlank := by
  cases v with
  | null => simp [toText, isBlank]
  | bool b => cases b <;> decide
  | int i => simpa [toText, isBlank] using intText_ne_empty i
  | float f => simpa [toText, isBlank] using Num.display_ne_empty (.float f)
  | str s => simp [toText, toPlain, isBlank]
  | _ => simp [isScalar] at scalar

theorem String.compare_empty (t : String) : compare t "" = if t = "" then .eq else .gt := by
  have below : ¬t < "" := List.not_lt_nil t.toList
  simp [compare, String.compare, compareOfLessAndEq, below]

namespace Functions

namespace Comparison

instance : LawfulBEq Comparison where
  eq_of_beq := by intro a b; cases a <;> cases b <;> decide
  rfl := by intro a; cases a <;> decide

theorem holds_ne (o : Option Ordering) : ne.holds o = !eq.holds o := by
  rcases o with _ | _ | _ | _ <;> rfl

theorem holds_ge (o : Option Ordering) : ge.holds o = (gt.holds o || eq.holds o) := by
  rcases o with _ | _ | _ | _ <;> rfl

theorem holds_le (o : Option Ordering) : le.holds o = (lt.holds o || eq.holds o) := by
  rcases o with _ | _ | _ | _ <;> rfl

theorem holds_gt_and_eq (o : Option Ordering) : (gt.holds o && eq.holds o) = false := by
  rcases o with _ | _ | _ | _ <;> rfl

theorem holds_lt_and_eq (o : Option Ordering) : (lt.holds o && eq.holds o) = false := by
  rcases o with _ | _ | _ | _ <;> rfl

end Comparison

namespace Criterion

theorem startsWith_eq_isPrefixOf (s pat : String) : s.startsWith pat = pat.toList.isPrefixOf s.toList := by
  rw [Bool.eq_iff_iff, String.startsWith_string_iff, List.isPrefixOf_iff_prefix]

variable {x : String}

theorem splitPrefix_prefixed (bare : ∀ c ∈ ['=', '<', '>'], x.toList.head? ≠ some c)
    {pre : String} {op : Comparison} (listed : (pre, op) ∈ Comparison.prefixes) :
    splitPrefix (pre ++ x) = (op, x) := by
  simp only [Comparison.prefixes, List.mem_cons, Prod.mk.injEq, List.not_mem_nil, or_false] at listed
  obtain ⟨cs, rfl⟩ : ∃ cs, x = String.ofList cs := ⟨x.toList, by simp⟩
  unfold splitPrefix
  simp only [startsWith_eq_isPrefixOf, String.toList_append, String.toList_ofList] at bare ⊢
  have lengths : ">=".length = 2 ∧ "<=".length = 2 ∧ "<>".length = 2 ∧ ">".length = 1 ∧
      "<".length = 1 ∧ "=".length = 1 := ⟨rfl, rfl, rfl, rfl, rfl, rfl⟩
  rcases cs with _ | ⟨c, cs⟩
  · rcases listed with ⟨rfl, rfl⟩ | ⟨rfl, rfl⟩ | ⟨rfl, rfl⟩ | ⟨rfl, rfl⟩ | ⟨rfl, rfl⟩ | ⟨rfl, rfl⟩ <;>
      simp [Comparison.prefixes, List.find?, List.isPrefixOf, lengths]
  · simp only [List.mem_cons, List.not_mem_nil, or_false, forall_eq_or_imp, forall_eq, List.head?_cons,
      ne_eq, Option.some.injEq] at bare
    have first : ('=' == c) = false ∧ ('<' == c) = false ∧ ('>' == c) = false := by
      simp only [beq_eq_false_iff_ne, ne_eq]
      exact ⟨Ne.symm bare.1, Ne.symm bare.2.1, Ne.symm bare.2.2⟩
    rcases listed with ⟨rfl, rfl⟩ | ⟨rfl, rfl⟩ | ⟨rfl, rfl⟩ | ⟨rfl, rfl⟩ | ⟨rfl, rfl⟩ | ⟨rfl, rfl⟩ <;>
      simp [Comparison.prefixes, List.find?, List.isPrefixOf, first, lengths]

theorem splitPrefix_bare (bare : ∀ c ∈ ['=', '<', '>'], x.toList.head? ≠ some c) :
    splitPrefix x = (.eq, x) := by
  unfold splitPrefix
  simp only [startsWith_eq_isPrefixOf]
  rcases hx : x.toList with _ | ⟨c, cs⟩
  · simp [Comparison.prefixes, List.find?]
  · simp only [hx, List.mem_cons, List.not_mem_nil, or_false, forall_eq_or_imp, forall_eq, List.head?_cons,
      ne_eq, Option.some.injEq] at bare
    have first : ('=' == c) = false ∧ ('<' == c) = false ∧ ('>' == c) = false := by
      simp only [beq_eq_false_iff_ne, ne_eq]
      exact ⟨Ne.symm bare.1, Ne.symm bare.2.1, Ne.symm bare.2.2⟩
    simp [Comparison.prefixes, List.find?, List.isPrefixOf, first]

theorem compile_str {s : String} {op : Comparison} (split : splitPrefix s = (op, x)) :
    compile (.str s) =
      if Number.looksNumeric x then .number op ((Number.readFloat? x).getD 0)
      else if x.isEmpty && (op == .eq || op == .ne) then .blank (op == .eq)
      else .text op (Text.lower x) := by
  simp [compile, split]

def numberOf : Value → Option Num
  | .str s => if Number.looksNumeric s then some (.float ((Number.readFloat? s).getD 0)) else none
  | w => w.num?

theorem accepts_number (op : Comparison) (t : Float) (v : Value) :
    (number op t).accepts v = ((numberOf v).map fun n => op.holds (n.compare? (.float t))).getD (op == .ne) := by
  cases v
  case str s => by_cases numeric : Number.looksNumeric s <;> simp [accepts, numberOf, numeric]
  all_goals rfl

theorem accepts_text (op : Comparison) (target : String) (v : Value) :
    (text op target).accepts v = op.holds (some (compare (Text.lower v.toText) target)) := rfl

theorem accepts_blank (wanted : Bool) (v : Value) : (blank wanted).accepts v = (v.isBlank == wanted) := rfl

theorem compile_prefixed (bare : ∀ c ∈ ['=', '<', '>'], x.toList.head? ≠ some c)
    {pre : String} {op : Comparison} (listed : (pre, op) ∈ Comparison.prefixes) :
    compile (.str (pre ++ x)) =
      if Number.looksNumeric x then .number op ((Number.readFloat? x).getD 0)
      else if x.isEmpty && (op == .eq || op == .ne) then .blank (op == .eq)
      else .text op (Text.lower x) :=
  compile_str (splitPrefix_prefixed bare listed)

theorem accepts_text_eq_empty {v : Value} (scalar : v.isScalar) :
    (text .eq (Text.lower "")).accepts v = v.isBlank := by
  have lowered : Text.lower "" = "" := rfl
  rw [accepts_text, lowered, String.compare_empty]
  by_cases blank : v.isBlank
  · simp [Comparison.holds, Text.lower_eq_empty_iff, (Value.toText_eq_empty_iff scalar).2 blank, blank]
  · have text : v.toText ≠ "" := fun empty => blank ((Value.toText_eq_empty_iff scalar).1 empty)
    simp [Comparison.holds, Text.lower_eq_empty_iff, text, blank]

theorem accepts_not_equal (bare : ∀ c ∈ ['=', '<', '>'], x.toList.head? ≠ some c) (v : Value) :
    (compile (.str ("<>" ++ x))).accepts v = !(compile (.str ("=" ++ x))).accepts v := by
  rw [compile_prefixed bare (show ("<>", Comparison.ne) ∈ Comparison.prefixes by simp [Comparison.prefixes]),
    compile_prefixed bare (show ("=", Comparison.eq) ∈ Comparison.prefixes by simp [Comparison.prefixes])]
  by_cases numeric : Number.looksNumeric x
  · simp only [numeric, if_true, accepts_number]
    cases numberOf v <;> simp [Comparison.holds_ne]
  · by_cases empty : x.isEmpty
    · have distinct : (Comparison.ne == Comparison.eq) = false := rfl
      cases blank : v.isBlank <;> simp [numeric, empty, accepts_blank, distinct, blank]
    · simp [numeric, empty, accepts_text, Comparison.holds_ne]

theorem accepts_strict_or_equal (bare : ∀ c ∈ ['=', '<', '>'], x.toList.head? ≠ some c)
    {wide strict : Comparison} {w s : String} (wl : (w, wide) ∈ Comparison.prefixes)
    (sl : (s, strict) ∈ Comparison.prefixes) (wideOrder : wide ≠ .eq ∧ wide ≠ .ne)
    (strictOrder : strict ≠ .eq ∧ strict ≠ .ne)
    (splits : ∀ o, wide.holds o = (strict.holds o || Comparison.eq.holds o))
    (apart : ∀ o, (strict.holds o && Comparison.eq.holds o) = false) {v : Value} (scalar : v.isScalar) :
    (compile (.str (w ++ x))).accepts v =
        ((compile (.str (s ++ x))).accepts v || (compile (.str ("=" ++ x))).accepts v) ∧
      ((compile (.str (s ++ x))).accepts v && (compile (.str ("=" ++ x))).accepts v) = false := by
  rw [compile_prefixed bare wl, compile_prefixed bare sl,
    compile_prefixed bare (show ("=", Comparison.eq) ∈ Comparison.prefixes by simp [Comparison.prefixes])]
  have wideBeq : (wide == .eq) = false ∧ (wide == .ne) = false := by simpa using wideOrder
  have strictBeq : (strict == .eq) = false ∧ (strict == .ne) = false := by simpa using strictOrder
  by_cases numeric : Number.looksNumeric x
  · simp only [numeric, if_true, accepts_number]
    cases numberOf v <;> simp [splits, apart, wideBeq, strictBeq]
  · by_cases empty : x.isEmpty
    · -- an empty operand: the ordered comparisons compare texts with the empty text, `=` tests
      -- for blanks, which is the same as comparing for equality with the empty text
      obtain rfl : x = "" := by simpa using empty
      have blankAsText := accepts_text_eq_empty scalar
      rw [accepts_text] at blankAsText
      have notBoth := apart (some (compare (Text.lower v.toText) (Text.lower "")))
      rw [blankAsText] at notBoth
      simp [numeric, wideBeq, strictBeq, accepts_text, accepts_blank, splits, blankAsText]
      simpa using notBoth
    · simp [numeric, empty, accepts_text, splits, apart, wideBeq, strictBeq]

end Criterion

theorem length_filter_or {l : List Value} {p q : Value → Bool} (apart : ∀ v ∈ l, (p v && q v) = false) :
    (l.filter fun v => p v || q v).length = (l.filter p).length + (l.filter q).length := by
  induction l with
  | nil => rfl
  | cons v rest ih =>
    have notBoth := apart v (by simp)
    have rest := ih fun w mem => apart w (by simp [mem])
    cases hp : p v <;> cases hq : q v <;> simp_all <;> omega

theorem countIf_eq_length (R c : Value) :
    countIf [R, c] = pure (.int ((Value.flatAll [R]).filter (Criterion.compile c).accepts).length) := rfl

/-- Over cells `R`, the criteria `=x`, `<>x`, `>x`, `<x`, `>=x`, `<=x` and `x`, for an operand `x`
that starts with no comparison character, count as the comparisons of an order: `=` and `<>`
together count every cell, `>=` counts the cells of `>` and of `=`, `<=` those of `<` and of `=`,
and the bare operand counts as `=`. -/
theorem countIf_comparison_laws (R : Value) (flat : R.Flat) (x : String)
    (bare : ∀ c ∈ ['=', '<', '>'], x.toList.head? ≠ some c) :
    ∃ eq ne gt lt ge le : Nat,
      countIf [R, .str ("=" ++ x)] = pure (.int eq) ∧ countIf [R, .str ("<>" ++ x)] = pure (.int ne) ∧
      countIf [R, .str (">" ++ x)] = pure (.int gt) ∧ countIf [R, .str ("<" ++ x)] = pure (.int lt) ∧
      countIf [R, .str (">=" ++ x)] = pure (.int ge) ∧ countIf [R, .str ("<=" ++ x)] = pure (.int le) ∧
      countIf [R, .str x] = pure (.int eq) ∧
      eq + ne = (Value.flatAll [R]).length ∧ ge = gt + eq ∧ le = lt + eq := by
  let count (s : String) : Nat := ((Value.flatAll [R]).filter (Criterion.compile (.str s)).accepts).length
  have equal : Criterion.compile (.str x) = Criterion.compile (.str ("=" ++ x)) := by
    rw [Criterion.compile_str (Criterion.splitPrefix_bare bare),
      Criterion.compile_prefixed bare (show ("=", Comparison.eq) ∈ Comparison.prefixes by simp [Comparison.prefixes])]
  refine ⟨count ("=" ++ x), count ("<>" ++ x), count (">" ++ x), count ("<" ++ x), count (">=" ++ x),
    count ("<=" ++ x), rfl, rfl, rfl, rfl, rfl, rfl, by rw [countIf_eq_length, equal], ?_, ?_, ?_⟩
  · -- `<>` keeps exactly what `=` drops
    have complement : (Value.flatAll [R]).filter (Criterion.compile (.str ("<>" ++ x))).accepts =
        (Value.flatAll [R]).filter fun v => !(Criterion.compile (.str ("=" ++ x))).accepts v :=
      List.filter_congr fun v _ => Criterion.accepts_not_equal bare v
    simp only [count, complement]
    exact (List.length_eq_length_filter_add _).symm
  · have split := fun v (mem : v ∈ Value.flatAll [R]) =>
      Criterion.accepts_strict_or_equal bare
        (show (">=", Comparison.ge) ∈ Comparison.prefixes by simp [Comparison.prefixes])
        (show (">", Comparison.gt) ∈ Comparison.prefixes by simp [Comparison.prefixes]) (by decide) (by decide) Comparison.holds_ge Comparison.holds_gt_and_eq
        (flat v mem)
    simp only [count]
    rw [List.filter_congr fun v mem => (split v mem).1]
    exact length_filter_or fun v mem => (split v mem).2
  · have split := fun v (mem : v ∈ Value.flatAll [R]) =>
      Criterion.accepts_strict_or_equal bare
        (show ("<=", Comparison.le) ∈ Comparison.prefixes by simp [Comparison.prefixes])
        (show ("<", Comparison.lt) ∈ Comparison.prefixes by simp [Comparison.prefixes]) (by decide) (by decide) Comparison.holds_le Comparison.holds_lt_and_eq
        (flat v mem)
    simp only [count]
    rw [List.filter_congr fun v mem => (split v mem).1]
    exact length_filter_or fun v mem => (split v mem).2


theorem countIf_comparison_laws_on_mixed_row :
    (Value.list [.list [.int 5, .str "abc", .null, .bool true]]).Flat ∧
      (∀ c ∈ ['=', '<', '>'], "abc".toList.head? ≠ some c) ∧
      ∃ eq ne gt lt ge le : Nat,
        countIf [.list [.list [.int 5, .str "abc", .null, .bool true]], .str "=abc"] = pure (.int eq) ∧
        countIf [.list [.list [.int 5, .str "abc", .null, .bool true]], .str "<>abc"] = pure (.int ne) ∧
        countIf [.list [.list [.int 5, .str "abc", .null, .bool true]], .str ">abc"] = pure (.int gt) ∧
        countIf [.list [.list [.int 5, .str "abc", .null, .bool true]], .str "<abc"] = pure (.int lt) ∧
        countIf [.list [.list [.int 5, .str "abc", .null, .bool true]], .str ">=abc"] = pure (.int ge) ∧
        countIf [.list [.list [.int 5, .str "abc", .null, .bool true]], .str "<=abc"] = pure (.int le) ∧
        countIf [.list [.list [.int 5, .str "abc", .null, .bool true]], .str "abc"] = pure (.int eq) ∧
        eq + ne = (Value.flatAll [.list [.list [.int 5, .str "abc", .null, .bool true]]]).length ∧
        ge = gt + eq ∧ le = lt + eq := by
  have flat : (Value.list [.list [.int 5, .str "abc", .null, .bool true]]).Flat := by
    simp [Value.Flat, Value.flatAll]
  have bare : ∀ c ∈ ['=', '<', '>'], "abc".toList.head? ≠ some c := by simp
  exact ⟨flat, bare, countIf_comparison_laws _ flat "abc" bare⟩

end Functions

end Spreadsheet
