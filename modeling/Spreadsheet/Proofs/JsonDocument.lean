import Spreadsheet.Proofs.JsonText

/-!
Documents written on one line read back.

A style writes on one line when it indents nothing, puts `", "` between items and `": "` after keys,
and escapes every character above ASCII (`Style.OneLine`). Its text is then printable ASCII, so no
line break of any kind stands in it (`write_printable`). A document whose scalars are written as
scalars (`Tree.Readable`, which `toTree` always gives) reads back: a container item by item, each
item ending before `,`, `]` or `}`, with as much fuel as the text is long (`Tree.Readable.reads`).
So the text of a mapping parses, as a mapping (`parse_render_dict`).
-/

set_option autoImplicit false

namespace Spreadsheet.Json

def Printable (c : Char) : Prop := 0x20 ≤ c.toNat ∧ c.toNat ≤ 0x7e

instance : DecidablePred Printable := fun _ => inferInstanceAs (Decidable (_ ∧ _))

theorem printable_of_all {cs : List Char} (all : cs.all (fun c => decide (Printable c)) = true) :
    ∀ c ∈ cs, Printable c := by
  simpa using all

theorem printable_of_isDigit {c : Char} (digit : c.isDigit = true) : Printable c := by
  simp only [Char.isDigit, Bool.and_eq_true, decide_eq_true_eq] at digit
  obtain ⟨low, high⟩ := digit
  have low : 48 ≤ c.toNat := low
  have high : c.toNat ≤ 57 := high
  exact ⟨by omega, by omega⟩

theorem digitChar_of_mem_toDigits {b n : Nat} {c : Char} (base : 1 < b) (mem : c ∈ Nat.toDigits b n) :
    ∃ k < b, c = Nat.digitChar k := by
  induction n using Nat.strongRecOn with
  | ind n ih =>
    rw [Nat.toDigits_eq_if base] at mem
    split at mem
    · exact ⟨n, by omega, List.mem_singleton.1 mem⟩
    · rcases List.mem_append.1 mem with high | last
      · exact ih (n / b) (Nat.div_lt_self (by omega) base) high
      · exact ⟨n % b, Nat.mod_lt n (by omega), List.mem_singleton.1 last⟩

theorem hexPad_printable (n : Nat) : ∀ c ∈ (Text.hexPad 4 n).toList, Printable c := by
  have hexDigits : ∀ k < 16, Printable (Nat.digitChar k) := by decide
  intro c mem
  rw [hexPad_toList] at mem
  rcases List.mem_append.1 mem with zero | digit
  · rw [List.eq_of_mem_replicate zero]
    decide
  · obtain ⟨k, small, rfl⟩ := digitChar_of_mem_toDigits (by decide) digit
    exact hexDigits k small

theorem uEscape_printable (n : Nat) : ∀ c ∈ (uEscape n).toList, Printable c := by
  rw [uEscape_toList]
  intro c mem
  rcases List.mem_cons.1 mem with rfl | mem
  · decide
  rcases List.mem_cons.1 mem with rfl | mem
  · decide
  exact hexPad_printable n c mem

theorem quoteChar_printable (c : Char) : ∀ c' ∈ (quoteChar true c).toList, Printable c' := by
  rcases quoteChar_cases true c with ⟨e, escape, text⟩ | ⟨-, -, text⟩ | ⟨-, -, text⟩ |
    ⟨-, -, control, ascii, text⟩
  · rw [text]
    simp only [shortEscapes, List.mem_cons, Prod.mk.injEq, List.not_mem_nil, or_false] at escape
    rcases escape with ⟨-, rfl⟩ | ⟨-, rfl⟩ | ⟨-, rfl⟩ | ⟨-, rfl⟩ | ⟨-, rfl⟩ | ⟨-, rfl⟩ | ⟨-, rfl⟩ <;>
    exact printable_of_all rfl
  · rw [text]
    exact uEscape_printable _
  · rw [text, String.toList_append]
    exact List.forall_mem_append.2 ⟨uEscape_printable _, uEscape_printable _⟩
  · -- a character written as itself is neither a control character nor above ASCII
    have high := ascii rfl
    rw [text, String.toList_singleton]
    intro c' mem
    rw [List.mem_singleton.1 mem]
    exact ⟨by omega, high⟩

theorem quote_printable (s : String) : ∀ c ∈ (quote true s).toList, Printable c := by
  rw [quote_toList]
  intro c mem
  rcases List.mem_cons.1 mem with rfl | mem
  · decide
  rcases List.mem_append.1 mem with body | last
  · obtain ⟨c', -, written⟩ := List.mem_flatMap.1 body
    exact quoteChar_printable c' c written
  · rw [List.mem_singleton.1 last]
    decide

structure Style.OneLine (st : Style) : Prop where
  asciiOnly : st.asciiOnly = true
  indent : st.indent = none
  itemSep : st.itemSep = ", "
  keySep : st.keySep = ": "

/-- A scalar as written: printable, starting with neither a blank nor a closing bracket, and read
as one value up to anything that ends a number. -/
structure AtomText (cs : List Char) : Prop where
  printable : ∀ c ∈ cs, Printable c
  head : ∃ c tail, cs = c :: tail ∧ isSpace c = false ∧ c ≠ ']'
  reads : ∀ rest fuel, EndsNumber rest → ∃ v, readValue (fuel + 1) (cs ++ rest) = .ok (v, rest)

theorem head_of_isDigit {c : Char} (digit : c.isDigit = true) : isSpace c = false ∧ c ≠ ']' := by
  refine ⟨?_, by rintro rfl; revert digit; decide⟩
  simp only [isSpace, Bool.or_eq_false_iff, beq_eq_false_iff_ne, ne_eq]
  refine ⟨⟨⟨?_, ?_⟩, ?_⟩, ?_⟩ <;> (rintro rfl; revert digit; decide)

theorem numberText_printable {cs : List Char} (number : IsNumberText cs) : ∀ c ∈ cs, Printable c := by
  obtain ⟨neg, _, rfl, ds, fr, ex, rfl, intPart, frac, exp⟩ := number
  have sign : ∀ c ∈ (if neg then ['-'] else []), Printable c := printable_of_all (by cases neg <;> rfl)
  have ints : ∀ c ∈ ds, Printable c := by
    rcases intPart with rfl | ⟨d, rest, rfl, -, digits⟩
    · exact printable_of_all rfl
    · exact fun c mem => printable_of_isDigit (digits c mem)
  have fraction : ∀ c ∈ fr, Printable c := by
    rcases frac with rfl | ⟨fs, rfl, -, digits⟩
    · exact printable_of_all rfl
    · exact List.forall_mem_cons.2 ⟨by decide, fun c mem => printable_of_isDigit (digits c mem)⟩
  have exponent : ∀ c ∈ ex, Printable c := by
    rcases exp with rfl | ⟨e, signs, es, rfl, mark, oneSign, -, digits⟩
    · exact printable_of_all rfl
    · refine List.forall_mem_cons.2 ⟨by rcases mark with rfl | rfl <;> decide, ?_⟩
      refine List.forall_mem_append.2 ⟨?_, fun c mem => printable_of_isDigit (digits c mem)⟩
      rcases oneSign with rfl | rfl | rfl <;> exact printable_of_all rfl
  simp only [List.forall_mem_append]
  exact ⟨sign, ⟨⟨ints, fraction⟩, exponent⟩⟩

theorem atomText_of_numberText {cs : List Char} (number : IsNumberText cs) : AtomText cs := by
  refine ⟨numberText_printable number, ?_, fun rest fuel stop => readValue_numberText number stop fuel⟩
  obtain ⟨neg, _, rfl, ds, fr, ex, rfl, intPart, -, -⟩ := number
  obtain ⟨d, rest, rfl, digit⟩ := intPart.head
  cases neg with
  | true => exact ⟨'-', _, rfl, rfl, by decide⟩
  | false => exact ⟨d, _, rfl, head_of_isDigit digit⟩

theorem atomText_quote (s : String) : AtomText (quote true s).toList :=
  ⟨quote_printable s, ⟨'"', _, quote_toList true s, rfl, by decide⟩,
    fun rest fuel _ => ⟨_, readValue_quote true s rest fuel⟩⟩

theorem atomText_null : AtomText "null".toList :=
  ⟨printable_of_all rfl, ⟨_, _, rfl, rfl, by decide⟩,
    fun rest _ _ => ⟨_, by
      rw [show "null".toList ++ rest = 'n' :: 'u' :: 'l' :: 'l' :: rest from rfl, readValue]⟩⟩

theorem atomText_bool (b : Bool) : AtomText (if b then "true" else "false").toList := by
  cases b with
  | true =>
    exact ⟨printable_of_all rfl, ⟨_, _, rfl, rfl, by decide⟩, fun rest _ _ =>
      ⟨_, by
        rw [if_pos rfl, show "true".toList ++ rest = 't' :: 'r' :: 'u' :: 'e' :: rest from rfl, readValue]⟩⟩
  | false =>
    exact ⟨printable_of_all rfl, ⟨_, _, rfl, rfl, by decide⟩, fun rest _ _ =>
      ⟨_, by rw [if_neg Bool.false_ne_true,
        show "false".toList ++ rest = 'f' :: 'a' :: 'l' :: 's' :: 'e' :: rest from rfl, readValue]⟩⟩

theorem isFinite_of_not_nan_inf {x : Float} (nan : ¬x.isNaN = true) (inf : ¬x.isInf = true) :
    x.isFinite = true := by
  change ¬x.toModel.unpack.isNaN = true at nan
  change ¬x.toModel.unpack.isInf = true at inf
  show x.toModel.unpack.isFinite = true
  cases unpacked : x.toModel.unpack <;>
    simp_all [Float.Model.UnpackedFloat.isFinite, Float.Model.UnpackedFloat.isNaN, Float.Model.UnpackedFloat.isInf]

theorem atomText_floatText (f : Float) : AtomText (floatText f).toList := by
  unfold floatText
  split_ifs with nan inf positive
  · exact ⟨printable_of_all rfl, ⟨_, _, rfl, rfl, by decide⟩, fun rest _ _ =>
      ⟨_, by rw [show "NaN".toList ++ rest = 'N' :: 'a' :: 'N' :: rest from rfl, readValue]⟩⟩
  · exact ⟨printable_of_all rfl, ⟨_, _, rfl, rfl, by decide⟩, fun rest _ _ =>
      ⟨_, by rw [show "Infinity".toList ++ rest = 'I' :: 'n' :: 'f' :: 'i' :: 'n' :: 'i' :: 't' :: 'y' :: rest
        from rfl, readValue]⟩⟩
  · exact ⟨printable_of_all rfl, ⟨_, _, rfl, rfl, by decide⟩, fun rest _ _ =>
      ⟨_, by rw [show "-Infinity".toList ++ rest =
        '-' :: 'I' :: 'n' :: 'f' :: 'i' :: 'n' :: 'i' :: 't' :: 'y' :: rest from rfl, readValue]⟩⟩
  · obtain ⟨neg, m, e, parts⟩ := (Number.Binary.isFinite_iff f).1 (isFinite_of_not_nan_inf nan inf)
    exact atomText_of_numberText (numberText_shortText parts)

inductive Tree.Readable : Tree → Prop
  | atom {text : String} : AtomText text.toList → Tree.Readable (.atom text)
  | arr {items : List Tree} : (∀ t ∈ items, Tree.Readable t) → Tree.Readable (.arr items)
  | obj {entries : List (String × Tree)} : (∀ e ∈ entries, Tree.Readable e.2) → Tree.Readable (.obj entries)

mutual
theorem readable_toTree (st : Style) (ascii : st.asciiOnly = true) : ∀ v : Value, (toTree st v).Readable
  | .null => by rw [toTree]; exact .atom atomText_null
  | .bool b => by rw [toTree]; exact .atom (atomText_bool b)
  | .int i => by rw [toTree]; exact .atom (atomText_of_numberText (numberText_int i))
  | .float f => by
    rw [toTree]
    split
    · exact .atom atomText_null
    · exact .atom (atomText_floatText f)
  | .str s => by rw [toTree, ascii]; exact .atom (atomText_quote s)
  | .list items => by rw [toTree]; exact .arr (readable_toTrees st ascii items)
  | .dict entries => by
    rw [toTree]
    refine .obj fun e mem => ?_
    split at mem
    · exact readable_toEntries st ascii entries e (List.mem_mergeSort.1 mem)
    · exact readable_toEntries st ascii entries e mem
  | .date d => by
    -- the other cases of the writer are other constructors
    rw [toTree, ascii]
    · exact .atom (atomText_quote _)
    all_goals (intros; contradiction)
  | .datetime t => by
    rw [toTree, ascii]
    · exact .atom (atomText_quote _)
    all_goals (intros; contradiction)

theorem readable_toTrees (st : Style) (ascii : st.asciiOnly = true) :
    ∀ vs : List Value, ∀ t ∈ toTrees st vs, t.Readable
  | [] => by simp [toTrees]
  | v :: vs => by
    rw [toTrees]
    intro t mem
    rcases List.mem_cons.1 mem with rfl | mem
    · exact readable_toTree st ascii v
    · exact readable_toTrees st ascii vs t mem

theorem readable_toEntries (st : Style) (ascii : st.asciiOnly = true) :
    ∀ es : List (Value × Value), ∀ e ∈ toEntries st es, e.2.Readable
  | [] => by simp [toEntries]
  | (k, v) :: es => by
    rw [toEntries]
    intro e mem
    rcases List.mem_cons.1 mem with rfl | mem
    · exact readable_toTree st ascii v
    · exact readable_toEntries st ascii es e mem
end

namespace Style.OneLine

variable {st : Style} (line : st.OneLine)
include line

theorem write_arr {items : List Tree} (nonempty : items ≠ []) (depth : Nat) :
    (Tree.write st depth (.arr items)).toList = '[' :: ((Tree.writeItems st depth items).toList ++ [']']) := by
  rw [Tree.write.eq_3 _ _ _ nonempty]
  simp [openText, closeText, line.indent]

theorem write_obj {entries : List (String × Tree)} (nonempty : entries ≠ []) (depth : Nat) :
    (Tree.write st depth (.obj entries)).toList =
      '\x7b' :: ((Tree.writeEntries st depth entries).toList ++ ['\x7d']) := by
  rw [Tree.write.eq_5 _ _ _ nonempty]
  simp [openText, closeText, line.indent]

theorem writeItems_cons_cons (t u : Tree) (us : List Tree) (depth : Nat) :
    (Tree.writeItems st depth (t :: u :: us)).toList =
      (Tree.write st (depth + 1) t).toList ++ ',' :: ' ' :: (Tree.writeItems st depth (u :: us)).toList := by
  rw [Tree.writeItems.eq_3 _ _ _ _ (List.cons_ne_nil _ _)]
  simp [sepText, line.indent, line.itemSep]

theorem writeEntries_cons_cons (k : String) (t : Tree) (e : String × Tree) (es : List (String × Tree))
    (depth : Nat) :
    (Tree.writeEntries st depth ((k, t) :: e :: es)).toList =
      (quote true k).toList ++ ':' :: ' ' :: ((Tree.write st (depth + 1) t).toList ++
        ',' :: ' ' :: (Tree.writeEntries st depth (e :: es)).toList) := by
  rw [Tree.writeEntries.eq_3 _ _ _ _ _ (List.cons_ne_nil _ _)]
  simp [sepText, line.indent, line.itemSep, line.keySep, line.asciiOnly]

theorem writeEntries_single (k : String) (t : Tree) (depth : Nat) :
    (Tree.writeEntries st depth [(k, t)]).toList =
      (quote true k).toList ++ ':' :: ' ' :: (Tree.write st (depth + 1) t).toList := by
  rw [Tree.writeEntries.eq_2]
  simp [line.keySep, line.asciiOnly]

theorem writeEntries_head (e : String × Tree) (es : List (String × Tree)) (depth : Nat) :
    ∃ tail, (Tree.writeEntries st depth (e :: es)).toList = '"' :: tail := by
  obtain ⟨k, t⟩ := e
  cases es with
  | nil => exact ⟨_, by rw [line.writeEntries_single, quote_toList, List.cons_append]⟩
  | cons e es => exact ⟨_, by rw [line.writeEntries_cons_cons, quote_toList, List.cons_append]⟩

end Style.OneLine

@[simp] theorem skip_space (cs : List Char) : skip (' ' :: cs) = skip cs := rfl

@[simp] theorem skip_colon (cs : List Char) : skip (':' :: cs) = ':' :: cs := rfl

@[simp] theorem skip_comma (cs : List Char) : skip (',' :: cs) = ',' :: cs := rfl

@[simp] theorem skip_close (cs : List Char) : skip ('\x7d' :: cs) = '\x7d' :: cs := rfl

@[simp] theorem skip_bracket (cs : List Char) : skip (']' :: cs) = ']' :: cs := rfl

theorem skip_of_head {cs : List Char} (first : ∀ c ∈ cs.head?, isSpace c = false) : skip cs = cs := by
  cases cs with
  | nil => rfl
  | cons c rest =>
    unfold skip
    rw [List.dropWhile_cons_of_neg (by simp [first c rfl])]

theorem Tree.Readable.head {st : Style} (line : st.OneLine) {t : Tree} (readable : t.Readable) (depth : Nat) :
    ∃ c tail, (t.write st depth).toList = c :: tail ∧ isSpace c = false ∧ c ≠ ']' := by
  cases readable with
  | atom text => rw [Tree.write]; exact text.head
  | @arr items _ =>
    cases items with
    | nil => exact ⟨'[', [']'], by rw [Tree.write]; rfl, rfl, by decide⟩
    | cons t ts => exact ⟨'[', _, line.write_arr (List.cons_ne_nil _ _) depth, rfl, by decide⟩
  | @obj entries _ =>
    cases entries with
    | nil => exact ⟨'\x7b', ['\x7d'], by rw [Tree.write]; rfl, rfl, by decide⟩
    | cons e es => exact ⟨'\x7b', _, line.write_obj (List.cons_ne_nil _ _) depth, rfl, by decide⟩

theorem Tree.Readable.itemsHead {st : Style} (line : st.OneLine) {t : Tree} (readable : t.Readable)
    (ts : List Tree) (depth : Nat) :
    ∃ c tail, (Tree.writeItems st depth (t :: ts)).toList = c :: tail ∧ isSpace c = false ∧ c ≠ ']' := by
  obtain ⟨c, tail, written, head⟩ := readable.head line (depth + 1)
  cases ts with
  | nil => exact ⟨c, tail, by rw [Tree.writeItems.eq_2, written], head⟩
  | cons u us => exact ⟨c, _, by rw [line.writeItems_cons_cons, written, List.cons_append], head⟩

/-- The text of a document, at any depth, reads as one value up to a delimiter, given more fuel than
it has characters. -/
def ReadsBack (st : Style) (t : Tree) : Prop :=
  ∀ depth rest fuel, Delimited rest → (t.write st depth).toList.length < fuel →
    ∃ v, readValue fuel ((t.write st depth).toList ++ rest) = .ok (v, rest)

section Reading

variable {st : Style} (line : st.OneLine)
include line

theorem readArray_items : ∀ (items : List Tree), items ≠ [] → (∀ t ∈ items, t.Readable ∧ ReadsBack st t) →
    ∀ depth rest acc fuel, (Tree.writeItems st depth items).toList.length + 1 < fuel →
      ∃ v, readArray fuel ((Tree.writeItems st depth items).toList ++ ']' :: rest) acc = .ok (v, rest)
  | [t], _, items, depth, rest, acc, fuel + 1, enough => by
    obtain ⟨readable, reads⟩ := items t List.mem_cons_self
    rw [Tree.writeItems.eq_2] at enough ⊢
    obtain ⟨c, tail, written, -, notClose⟩ := readable.head line (depth + 1)
    obtain ⟨v, read⟩ := reads (depth + 1) (']' :: rest) fuel (fun c first => by cases first; simp) (by omega)
    refine ⟨.list (acc ++ [v]), ?_⟩
    rw [readArray]
    · rw [read]
      rfl
    · intro r same
      rw [written] at same
      cases same
      exact notClose rfl
  | t :: u :: us, _, items, depth, rest, acc, fuel + 1, enough => by
    obtain ⟨readable, reads⟩ := items t List.mem_cons_self
    rw [line.writeItems_cons_cons] at enough ⊢
    simp only [List.length_append, List.length_cons] at enough
    obtain ⟨c, tail, written, -, notClose⟩ := readable.head line (depth + 1)
    obtain ⟨c', tail', written', notSpace, -⟩ := (items u (by simp)).1.itemsHead line us depth
    obtain ⟨v, read⟩ := reads (depth + 1)
      (',' :: ' ' :: ((Tree.writeItems st depth (u :: us)).toList ++ ']' :: rest)) fuel
      (fun c first => by cases first; simp) (by omega)
    have next : skip ((Tree.writeItems st depth (u :: us)).toList ++ ']' :: rest) =
        (Tree.writeItems st depth (u :: us)).toList ++ ']' :: rest :=
      skip_of_head (by rw [written']; simpa using notSpace)
    obtain ⟨w, readRest⟩ := readArray_items (u :: us) (List.cons_ne_nil _ _)
      (fun x mem => items x (List.mem_cons_of_mem _ mem)) depth rest (acc ++ [v]) fuel (by omega)
    refine ⟨w, ?_⟩
    rw [List.append_assoc, List.cons_append, List.cons_append, readArray]
    · rw [read]
      show readArray fuel (skip (' ' :: ((Tree.writeItems st depth (u :: us)).toList ++ ']' :: rest))) (acc ++ [v]) = _
      rw [show skip (' ' :: ((Tree.writeItems st depth (u :: us)).toList ++ ']' :: rest)) =
        skip ((Tree.writeItems st depth (u :: us)).toList ++ ']' :: rest) from rfl, next, readRest]
    · intro r same
      rw [written] at same
      cases same
      exact notClose rfl

theorem readObject_entries (entries : List (String × Tree)) (nonempty : entries ≠ [])
    (members : ∀ e ∈ entries, e.2.Readable ∧ ReadsBack st e.2) (depth : Nat) (rest : List Char) :
    ∀ acc fuel, (Tree.writeEntries st depth entries).toList.length + 1 < fuel →
      ∃ es, readObject fuel ((Tree.writeEntries st depth entries).toList ++ '\x7d' :: rest) acc =
        .ok (.dict es, rest) := by
  induction entries with
  | nil => exact absurd rfl nonempty
  | cons d more ih =>
    intro acc fuel enough
    obtain ⟨k, t⟩ := d
    obtain ⟨fuel, rfl⟩ : ∃ g, fuel = g + 1 := ⟨fuel - 1, by omega⟩
    obtain ⟨readable, reads⟩ : t.Readable ∧ ReadsBack st t := members (k, t) List.mem_cons_self
    obtain ⟨c, tail, written, notSpace, -⟩ := readable.head line (depth + 1)
    cases more with
    | nil =>
      -- the last entry, closed by the brace
      rw [line.writeEntries_single] at enough ⊢
      simp only [List.length_append, List.length_cons] at enough
      obtain ⟨v, read⟩ := reads (depth + 1) ('\x7d' :: rest) fuel (fun c first => by cases first; simp) (by omega)
      have start : skip ((Tree.write st (depth + 1) t).toList ++ '\x7d' :: rest) =
          (Tree.write st (depth + 1) t).toList ++ '\x7d' :: rest :=
        skip_of_head (by rw [written]; simpa using notSpace)
      refine ⟨Value.setEntry acc k v, ?_⟩
      simp only [quote_toList, List.cons_append, List.append_assoc, List.nil_append]
      rw [readObject]
      simp only [readString_quotedBody, skip_colon, skip_space, start, read, skip_close]
    | cons e es =>
      -- an entry followed by a comma and the next key
      rw [line.writeEntries_cons_cons] at enough ⊢
      simp only [List.length_append, List.length_cons] at enough
      obtain ⟨tail', written'⟩ := line.writeEntries_head e es depth
      obtain ⟨v, read⟩ := reads (depth + 1)
        (',' :: ' ' :: ((Tree.writeEntries st depth (e :: es)).toList ++ '\x7d' :: rest)) fuel
        (fun c first => by cases first; simp) (by omega)
      have start : skip ((Tree.write st (depth + 1) t).toList ++
          ',' :: ' ' :: ((Tree.writeEntries st depth (e :: es)).toList ++ '\x7d' :: rest)) =
          (Tree.write st (depth + 1) t).toList ++
            ',' :: ' ' :: ((Tree.writeEntries st depth (e :: es)).toList ++ '\x7d' :: rest) :=
        skip_of_head (by rw [written]; simpa using notSpace)
      have next : skip ((Tree.writeEntries st depth (e :: es)).toList ++ '\x7d' :: rest) =
          (Tree.writeEntries st depth (e :: es)).toList ++ '\x7d' :: rest :=
        skip_of_head (by rw [written', List.cons_append]; intro c first; cases first; rfl)
      obtain ⟨es', readRest⟩ := ih (List.cons_ne_nil _ _) (fun x mem => members x (List.mem_cons_of_mem _ mem))
        (Value.setEntry acc k v) fuel (by omega)
      refine ⟨es', ?_⟩
      simp only [quote_toList, List.cons_append, List.append_assoc, List.nil_append]
      rw [readObject]
      simp only [readString_quotedBody, skip_colon, skip_space, start, read, skip_comma, next]
      rw [written'] at readRest ⊢
      simpa only [List.cons_append] using readRest

theorem readValue_arr (items : List Tree) (members : ∀ t ∈ items, t.Readable ∧ ReadsBack st t) (depth : Nat)
    (rest : List Char) (fuel : Nat) (enough : (Tree.write st depth (.arr items)).toList.length < fuel) :
    ∃ v, readValue fuel ((Tree.write st depth (.arr items)).toList ++ rest) = .ok (v, rest) := by
  cases items with
  | nil =>
    rw [Tree.write] at enough ⊢
    obtain ⟨fuel, rfl⟩ : ∃ g, fuel = g + 2 := ⟨fuel - 2, by simp at enough; omega⟩
    refine ⟨.list [], ?_⟩
    rw [show "[]".toList ++ rest = '[' :: ']' :: rest from rfl, readValue, skip_bracket, readArray]
    rfl
  | cons t ts =>
    rw [line.write_arr (List.cons_ne_nil _ _)] at enough ⊢
    simp only [List.length_cons, List.length_append] at enough
    obtain ⟨fuel, rfl⟩ : ∃ g, fuel = g + 1 := ⟨fuel - 1, by omega⟩
    obtain ⟨c, tail, written, notSpace, -⟩ := (members t List.mem_cons_self).1.itemsHead line ts depth
    have start : skip ((Tree.writeItems st depth (t :: ts)).toList ++ ']' :: rest) =
        (Tree.writeItems st depth (t :: ts)).toList ++ ']' :: rest :=
      skip_of_head (by rw [written]; simpa using notSpace)
    obtain ⟨v, read⟩ := readArray_items line (t :: ts) (List.cons_ne_nil _ _) members depth rest [] fuel (by omega)
    refine ⟨v, ?_⟩
    rw [List.cons_append, List.append_assoc, List.singleton_append, readValue, start, read]

theorem readValue_obj (entries : List (String × Tree)) (members : ∀ e ∈ entries, e.2.Readable ∧ ReadsBack st e.2)
    (depth : Nat) (rest : List Char) (fuel : Nat)
    (enough : (Tree.write st depth (.obj entries)).toList.length < fuel) :
    ∃ es, readValue fuel ((Tree.write st depth (.obj entries)).toList ++ rest) = .ok (.dict es, rest) := by
  cases entries with
  | nil =>
    rw [Tree.write] at enough ⊢
    obtain ⟨fuel, rfl⟩ : ∃ g, fuel = g + 2 := ⟨fuel - 2, by simp at enough; omega⟩
    refine ⟨[], ?_⟩
    rw [show "\x7b\x7d".toList ++ rest = '\x7b' :: '\x7d' :: rest from rfl, readValue, skip_close, readObject]
    rfl
  | cons e es =>
    rw [line.write_obj (List.cons_ne_nil _ _)] at enough ⊢
    simp only [List.length_cons, List.length_append] at enough
    obtain ⟨fuel, rfl⟩ : ∃ g, fuel = g + 1 := ⟨fuel - 1, by omega⟩
    obtain ⟨tail, written⟩ := line.writeEntries_head e es depth
    have start : skip ((Tree.writeEntries st depth (e :: es)).toList ++ '\x7d' :: rest) =
        (Tree.writeEntries st depth (e :: es)).toList ++ '\x7d' :: rest :=
      skip_of_head (by rw [written, List.cons_append]; intro c first; cases first; rfl)
    obtain ⟨es', read⟩ := readObject_entries line (e :: es) (List.cons_ne_nil _ _) members depth rest [] fuel
      (by omega)
    refine ⟨es', ?_⟩
    rw [List.cons_append, List.append_assoc, List.singleton_append, readValue, start, read]

theorem Tree.Readable.reads {t : Tree} (readable : t.Readable) : ReadsBack st t := by
  induction readable with
  | atom text =>
    intro depth rest fuel delimited enough
    rw [Tree.write] at enough ⊢
    obtain ⟨fuel, rfl⟩ : ∃ g, fuel = g + 1 := ⟨fuel - 1, by omega⟩
    exact text.reads rest fuel delimited.endsNumber
  | @arr items readable ih =>
    intro depth rest fuel _ enough
    exact readValue_arr line items (fun t mem => ⟨readable t mem, ih t mem⟩) depth rest fuel enough
  | @obj entries readable ih =>
    intro depth rest fuel _ enough
    obtain ⟨es, read⟩ :=
      readValue_obj line entries (fun e mem => ⟨readable e mem, ih e mem⟩) depth rest fuel enough
    exact ⟨_, read⟩

theorem parse_write_obj {entries : List (String × Tree)} (readable : (Tree.obj entries).Readable) :
    ∃ es, parse ((Tree.obj entries).write st 0) = .ok (.dict es) := by
  have members : ∀ e ∈ entries, e.2.Readable ∧ ReadsBack st e.2 := by
    cases readable with
    | obj members => exact fun e mem => ⟨members e mem, (members e mem).reads line⟩
  obtain ⟨c, tail, written, notSpace, -⟩ := readable.head line 0
  have start : skip ((Tree.obj entries).write st 0).toList = ((Tree.obj entries).write st 0).toList :=
    skip_of_head (by rw [written]; simpa using notSpace)
  obtain ⟨es, read⟩ := readValue_obj line entries members 0 [] (((Tree.obj entries).write st 0).toList.length + 1)
    (by omega)
  rw [List.append_nil] at read
  refine ⟨es, ?_⟩
  simp only [parse, parse?, start, read]
  rfl

end Reading

theorem render_dict_head {st : Style} (line : st.OneLine) (entries : List (Value × Value)) :
    ∃ tail, (render st (.dict entries)).toList = '\x7b' :: tail := by
  obtain ⟨written, tree⟩ : ∃ written, toTree st (.dict entries) = .obj written := ⟨_, by rw [toTree]⟩
  unfold render
  rw [tree]
  cases written with
  | nil => exact ⟨['\x7d'], by rw [Tree.write]; rfl⟩
  | cons e es => exact ⟨_, line.write_obj (List.cons_ne_nil _ _) 0⟩

theorem parse_render_dict {st : Style} (line : st.OneLine) (entries : List (Value × Value)) :
    ∃ es, parse (render st (.dict entries)) = .ok (.dict es) := by
  have readable := readable_toTree st line.asciiOnly (.dict entries)
  unfold render
  revert readable
  rw [toTree]
  exact parse_write_obj line

section Printing

variable {st : Style} (line : st.OneLine)
include line

theorem writeItems_printable (items : List Tree)
    (members : ∀ t ∈ items, ∀ depth, ∀ c ∈ (t.write st depth).toList, Printable c) (depth : Nat) :
    ∀ c ∈ (Tree.writeItems st depth items).toList, Printable c := by
  induction items with
  | nil => simp [Tree.writeItems]
  | cons t ts ih =>
    have first := members t List.mem_cons_self (depth + 1)
    cases ts with
    | nil => rw [Tree.writeItems.eq_2]; exact first
    | cons u us =>
      rw [line.writeItems_cons_cons]
      refine List.forall_mem_append.2
        ⟨first, List.forall_mem_cons.2 ⟨by decide, List.forall_mem_cons.2 ⟨by decide, ?_⟩⟩⟩
      exact ih fun x mem => members x (List.mem_cons_of_mem _ mem)

theorem writeEntries_printable (entries : List (String × Tree))
    (members : ∀ e ∈ entries, ∀ depth, ∀ c ∈ (e.2.write st depth).toList, Printable c) (depth : Nat) :
    ∀ c ∈ (Tree.writeEntries st depth entries).toList, Printable c := by
  induction entries with
  | nil => simp [Tree.writeEntries]
  | cons e es ih =>
    obtain ⟨k, t⟩ := e
    have value := members (k, t) List.mem_cons_self (depth + 1)
    have entry : ∀ c ∈ (quote true k).toList ++ ':' :: ' ' :: (Tree.write st (depth + 1) t).toList, Printable c :=
      List.forall_mem_append.2 ⟨quote_printable k,
        List.forall_mem_cons.2 ⟨by decide, List.forall_mem_cons.2 ⟨by decide, value⟩⟩⟩
    cases es with
    | nil => rw [line.writeEntries_single]; exact entry
    | cons f fs =>
      rw [line.writeEntries_cons_cons]
      have more := ih fun x mem => members x (List.mem_cons_of_mem _ mem)
      simp only [List.forall_mem_append, List.forall_mem_cons] at entry ⊢
      exact ⟨entry.1, entry.2.1, entry.2.2.1, ⟨entry.2.2.2, by decide, by decide, more⟩⟩

theorem Tree.Readable.printable {t : Tree} (readable : t.Readable) :
    ∀ depth, ∀ c ∈ (t.write st depth).toList, Printable c := by
  induction readable with
  | atom text => intro depth; rw [Tree.write]; exact text.printable
  | @arr items _ ih =>
    intro depth
    cases items with
    | nil => rw [Tree.write]; exact printable_of_all rfl
    | cons t ts =>
      rw [line.write_arr (List.cons_ne_nil _ _)]
      exact List.forall_mem_cons.2 ⟨by decide, List.forall_mem_append.2
        ⟨writeItems_printable line _ ih depth, printable_of_all rfl⟩⟩
  | @obj entries _ ih =>
    intro depth
    cases entries with
    | nil => rw [Tree.write]; exact printable_of_all rfl
    | cons e es =>
      rw [line.write_obj (List.cons_ne_nil _ _)]
      exact List.forall_mem_cons.2 ⟨by decide, List.forall_mem_append.2
        ⟨writeEntries_printable line _ ih depth, printable_of_all rfl⟩⟩

theorem render_printable (v : Value) : ∀ c ∈ (render st v).toList, Printable c :=
  (readable_toTree st line.asciiOnly v).printable line 0

end Printing

end Spreadsheet.Json
