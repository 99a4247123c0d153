import Spreadsheet.Proofs.ShortestDecimal
import Spreadsheet.Proofs.Columns
import Spreadsheet.Value.Coerce
import Mathlib

/-!
Texts of numbers, read back.

`Literal.scan?` reads an integer part, then a point and a fraction, then an exponent. Its whole
behaviour is two equations, one for a literal without a point (`scan?_whole`) and one with
(`scan?_point`), since every text has one of the two shapes (`literal_shape`). From them: a
literal ends before a character that can continue none (`scan?_append_stop`), so trailing blanks
are never read; a literal starts with a digit or a point and ends with no blank.

The three readers of numbers in text agree: on numeric text the number at its start is what the
whole text reads as (`readFloat?_of_looksNumeric`). The text of a finite double, an integer or
its shortest text in one of four layouts, is a sign and a whole literal (`display_literal`), which
reads back as the double up to the sign of a zero (`display_reads_back`); and no comparison tells
zeros of different signs apart (`compare?_of_isZero`).
-/

set_option autoImplicit false

namespace Spreadsheet.Number

def endsLiteral (c : Char) : Bool :=
  !Text.isDigit c && c != '.' && c != 'e' && c != 'E' && c != '+' && c != '-'

theorem blank_code {c : Char} (blank : Text.isBlank c) : ∃ n ∈ Text.blankCodes, c = Char.ofNat n :=
  ⟨c.toNat, by simpa [Text.isBlank] using blank, (Char.ofNat_toNat c).symm⟩

theorem not_isBlank_of_isDigit {c : Char} (digit : Text.isDigit c) : Text.isBlank c = false := by
  by_contra blank
  obtain ⟨n, listed, rfl⟩ := blank_code (Bool.not_eq_false _ ▸ blank)
  have : ∀ n ∈ Text.blankCodes, Text.isDigit (Char.ofNat n) = false := by decide
  simp [this n listed] at digit

theorem endsLiteral_of_isBlank {c : Char} (blank : Text.isBlank c) : endsLiteral c := by
  obtain ⟨n, listed, rfl⟩ := blank_code blank
  have : ∀ n ∈ Text.blankCodes, endsLiteral (Char.ofNat n) = true := by decide
  exact this n listed

theorem toLower_of_isDigit {c : Char} (digit : Text.isDigit c) : c.toLower = c := by
  simp [Text.isDigit, Char.isDigit, UInt32.le_iff_toNat_le] at digit
  rw [Char.toLower, dif_neg]
  simp only [UInt32.le_iff_toNat_le, not_and, not_le]
  have : c.val.toNat = c.toNat := rfl
  simp
  omega

theorem endsLiteral_iff {c : Char} :
    endsLiteral c ↔ Text.isDigit c = false ∧ c ≠ '.' ∧ c ≠ 'e' ∧ c ≠ 'E' ∧ c ≠ '+' ∧ c ≠ '-' := by
  simp [endsLiteral, and_assoc]

theorem head?_append_of {P : Char → Prop} {xs ys : List Char} (left : ∀ c, xs.head? = some c → P c)
    (right : ∀ c, ys.head? = some c → P c) : ∀ c, (xs ++ ys).head? = some c → P c := by
  cases xs with
  | nil => simpa using right
  | cons x xs => simpa using left

namespace Literal

theorem digitsValue_append (xs ys : List Char) :
    digitsValue (xs ++ ys) = digitsValue xs * 10 ^ ys.length + digitsValue ys := by
  induction ys using List.reverseRecOn with
  | nil => simp [digitsValue]
  | append_singleton ys c ih =>
    have snoc (ds : List Char) : digitsValue (ds ++ [c]) = digitsValue ds * 10 + (Text.digitValue? c).getD 0 :=
      Spreadsheet.digitsValue_append ds c
    rw [← List.append_assoc, snoc, ih, snoc, List.length_append, List.length_singleton, pow_succ]
    ring

theorem digitsValue_zeros (k : Nat) : digitsValue (List.replicate k '0') = 0 := by
  induction k with
  | zero => rfl
  | succ k ih =>
    rw [List.replicate_succ', digitsValue_append, ih]
    rfl

theorem digitsValue_toDigits (n : Nat) : digitsValue (Nat.toDigits 10 n) = n :=
  Spreadsheet.digitsValue_toDigits n

end Literal

section Stop

variable {p : Char → Bool} {rest : List Char}

theorem takeWhile_of_head (stop : ∀ c, rest.head? = some c → p c = false) : rest.takeWhile p = [] := by
  cases rest with
  | nil => rfl
  | cons c r => simp [stop c rfl]

theorem dropWhile_of_head (stop : ∀ c, rest.head? = some c → p c = false) : rest.dropWhile p = rest := by
  cases rest with
  | nil => rfl
  | cons c r => simp [stop c rfl]

theorem takeWhile_append_stop (stop : ∀ c, rest.head? = some c → p c = false) (x : List Char) :
    (x ++ rest).takeWhile p = x.takeWhile p := by
  induction x with
  | nil => exact takeWhile_of_head stop
  | cons a x ih => by_cases h : p a <;> simp [h, ih]

end Stop

namespace Literal

def exponentPart (neg : Bool) (signLen : Nat) (rest : List Char) : Int × Nat :=
  let ds := rest.takeWhile Text.isDigit
  if ds.isEmpty then (0, 0)
  else
    let v : Int := digitsValue ds
    (if neg then -v else v, 1 + signLen + ds.length)

theorem scanExponent_nil : scanExponent [] = (0, 0) := rfl

section Mark

variable {e : Char} (mark : (e == 'e' || e == 'E') = true) (r : List Char)
include mark

theorem scanExponent_plus : scanExponent (e :: '+' :: r) = exponentPart false 1 r := by
  simp [scanExponent, mark, exponentPart]

theorem scanExponent_minus : scanExponent (e :: '-' :: r) = exponentPart true 1 r := by
  simp [scanExponent, mark, exponentPart]

theorem scanExponent_unsigned (unsigned : ∀ c, r.head? = some c → c ≠ '+' ∧ c ≠ '-') :
    scanExponent (e :: r) = exponentPart false 0 r := by
  unfold scanExponent
  simp only [mark, if_true]
  split
  next r' => simp at unsigned
  next r' => simp at unsigned
  next => rfl

end Mark

theorem scanExponent_unmarked {e : Char} (unmarked : (e == 'e' || e == 'E') = false) (r : List Char) :
    scanExponent (e :: r) = (0, 0) := by
  simp [scanExponent, unmarked]

theorem exponentPart_append_stop {rest : List Char} (stop : ∀ c, rest.head? = some c → Text.isDigit c = false)
    (neg : Bool) (signLen : Nat) (r : List Char) :
    exponentPart neg signLen (r ++ rest) = exponentPart neg signLen r := by
  simp only [exponentPart, takeWhile_append_stop stop]

theorem scanExponent_append {y rest : List Char}
    (stop : ∀ c, rest.head? = some c → Text.isDigit c = false ∧ (c == 'e' || c == 'E') = false)
    (lone : ∀ e, y = [e] → (e == 'e' || e == 'E') = true → ∀ c, rest.head? = some c → c ≠ '+' ∧ c ≠ '-') :
    scanExponent (y ++ rest) = scanExponent y := by
  have digits := fun c h => (stop c h).1
  match y with
  | [] =>
    cases rest with
    | nil => rfl
    | cons c r => exact scanExponent_unmarked (stop c rfl).2 r
  | e :: ys =>
    cases mark : (e == 'e' || e == 'E')
    case false => simp only [List.cons_append, scanExponent_unmarked mark]
    case true =>
      cases ys with
      | nil =>
        rw [List.cons_append, List.nil_append, scanExponent_unsigned mark rest (lone e rfl mark),
          scanExponent_unsigned mark [] (by simp)]
        exact exponentPart_append_stop digits false 0 []
      | cons s r =>
        simp only [List.cons_append]
        by_cases plus : s = '+'
        · subst plus
          rw [scanExponent_plus mark, scanExponent_plus mark, exponentPart_append_stop digits]
        by_cases minus : s = '-'
        · subst minus
          rw [scanExponent_minus mark, scanExponent_minus mark, exponentPart_append_stop digits]
        rw [scanExponent_unsigned mark _ (by simp [plus, minus]), scanExponent_unsigned mark _ (by simp [plus, minus])]
        exact exponentPart_append_stop digits false 0 (s :: r)

theorem scanExponent_append_stop {rest : List Char} (stop : ∀ c, rest.head? = some c → endsLiteral c)
    (y : List Char) : scanExponent (y ++ rest) = scanExponent y := by
  have ends := fun c h => endsLiteral_iff.1 (stop c h)
  refine scanExponent_append (fun c h => ⟨(ends c h).1, ?_⟩) fun _ _ _ c h => (ends c h).2.2.2.2
  simp [(ends c h).2.2.1, (ends c h).2.2.2.1]

theorem scan?_whole {ds tail : List Char} (digits : ∀ c ∈ ds, Text.isDigit c)
    (stop : ∀ c, tail.head? = some c → Text.isDigit c = false ∧ c ≠ '.') :
    scan? (ds ++ tail) = if ds = [] then none
      else some ⟨digitsValue ds, (scanExponent tail).1, ds.length + (scanExponent tail).2⟩ := by
  unfold scan?
  rw [List.takeWhile_append_of_pos digits, List.dropWhile_append_of_pos digits,
    takeWhile_of_head (fun c h => (stop c h).1), dropWhile_of_head (fun c h => (stop c h).1), List.append_nil]
  cases tail with
  | nil => by_cases empty : ds = [] <;> simp [empty]
  | cons c r =>
    have notPoint := (stop c rfl).2
    by_cases empty : ds = [] <;> simp [empty, notPoint]

theorem scan?_point {ds fs tail : List Char} (digits : ∀ c ∈ ds, Text.isDigit c)
    (fraction : ∀ c ∈ fs, Text.isDigit c) (stop : ∀ c, tail.head? = some c → Text.isDigit c = false) :
    scan? (ds ++ '.' :: fs ++ tail) = if ds = [] ∧ fs = [] then none
      else some ⟨digitsValue (ds ++ fs), (scanExponent tail).1 - fs.length,
        ds.length + 1 + fs.length + (scanExponent tail).2⟩ := by
  have point : Text.isDigit '.' = false := by decide
  unfold scan?
  rw [List.append_assoc, List.takeWhile_append_of_pos digits, List.dropWhile_append_of_pos digits,
    List.cons_append, List.takeWhile_cons_of_neg (by simp [point]), List.dropWhile_cons_of_neg (by simp [point]),
    List.append_nil]
  have fracDigits : (fs ++ tail).takeWhile Text.isDigit = fs := by
    rw [List.takeWhile_append_of_pos fraction, takeWhile_of_head stop, List.append_nil]
  by_cases empty : ds = [] ∧ fs = []
  · have noFraction : tail.takeWhile Text.isDigit = [] := takeWhile_of_head stop
    obtain ⟨rfl, rfl⟩ := empty
    simp [noFraction]
  · have skip : ('.' :: (fs ++ tail)).drop (1 + fs.length) = tail := by
      rw [Nat.add_comm, List.drop_succ_cons, List.drop_left]
    simp [fracDigits, empty, skip, Nat.add_assoc]

theorem literal_shape (cs : List Char) :
    (∃ ds tail, cs = ds ++ tail ∧ (∀ c ∈ ds, Text.isDigit c) ∧
      ∀ c, tail.head? = some c → Text.isDigit c = false ∧ c ≠ '.') ∨
    (∃ ds fs tail, cs = ds ++ '.' :: fs ++ tail ∧ (∀ c ∈ ds, Text.isDigit c) ∧ (∀ c ∈ fs, Text.isDigit c) ∧
      ∀ c, tail.head? = some c → Text.isDigit c = false) := by
  have taken (ys : List Char) : ∀ c ∈ ys.takeWhile Text.isDigit, Text.isDigit c :=
    fun c mem => List.mem_takeWhile_imp mem
  have dropped (ys : List Char) : ∀ c, (ys.dropWhile Text.isDigit).head? = some c → Text.isDigit c = false := by
    intro c head
    have := List.head?_dropWhile_not Text.isDigit ys
    simp only [head] at this
    simpa using this
  cases rest : cs.dropWhile Text.isDigit with
  | nil => exact .inl ⟨_, [], by rw [← rest, List.takeWhile_append_dropWhile], taken cs, by simp⟩
  | cons c r =>
    by_cases point : c = '.'
    · subst point
      refine .inr ⟨_, _, _, ?_, taken cs, taken r, dropped r⟩
      rw [List.append_assoc, List.cons_append, List.takeWhile_append_dropWhile, ← rest,
        List.takeWhile_append_dropWhile]
    · refine .inl ⟨_, c :: r, by rw [← rest, List.takeWhile_append_dropWhile], taken cs, ?_⟩
      intro c' head
      cases head
      exact ⟨dropped cs c (by rw [rest]; rfl), point⟩

theorem exponentPart_length_le (neg : Bool) (signLen : Nat) (r : List Char) :
    (exponentPart neg signLen r).2 ≤ 1 + signLen + r.length := by
  have := (List.takeWhile_sublist (p := Text.isDigit) (l := r)).length_le
  by_cases empty : (r.takeWhile Text.isDigit).isEmpty
  · simp [exponentPart, empty]
  · simp [exponentPart, empty]
    omega

theorem scanExponent_length_le (y : List Char) : (scanExponent y).2 ≤ y.length := by
  match y with
  | [] => simp [scanExponent_nil]
  | e :: ys =>
    cases mark : (e == 'e' || e == 'E')
    case false => simp [scanExponent_unmarked mark]
    case true =>
      cases ys with
      | nil =>
        have := exponentPart_length_le false 0 []
        rw [scanExponent_unsigned mark [] (by simp)]
        simp_all
      | cons s r =>
        by_cases plus : s = '+'
        · have := exponentPart_length_le false 1 r
          rw [plus, scanExponent_plus mark]
          simp only [List.length_cons]
          omega
        by_cases minus : s = '-'
        · have := exponentPart_length_le true 1 r
          rw [minus, scanExponent_minus mark]
          simp only [List.length_cons]
          omega
        have := exponentPart_length_le false 0 (s :: r)
        rw [scanExponent_unsigned mark _ (by simp [plus, minus])]
        simp only [List.length_cons] at this ⊢
        omega

theorem scan?_append_stop {rest : List Char} (stop : ∀ c, rest.head? = some c → endsLiteral c)
    (x : List Char) : scan? (x ++ rest) = scan? x := by
  have ends := fun c h => endsLiteral_iff.1 (stop c h)
  rcases literal_shape x with ⟨ds, tail, rfl, digits, after⟩ | ⟨ds, fs, tail, rfl, digits, fraction, after⟩
  · have after' := head?_append_of after fun c h => ⟨(ends c h).1, (ends c h).2.1⟩
    rw [List.append_assoc, scan?_whole digits after', scan?_whole digits after, scanExponent_append_stop stop]
  · have after' := head?_append_of after fun c h => (ends c h).1
    rw [List.append_assoc, scan?_point digits fraction after', scan?_point digits fraction after,
      scanExponent_append_stop stop]

theorem scan?_append_of_whole {x rest : List Char} {l : Literal} (scan : scan? x = some l)
    (whole : l.length = x.length)
    (stop : ∀ c, rest.head? = some c → Text.isDigit c = false ∧ c ≠ '.' ∧ c ≠ 'e' ∧ c ≠ 'E') :
    scan? (x ++ rest) = scan? x := by
  have marks : ∀ c, rest.head? = some c → Text.isDigit c = false ∧ (c == 'e' || c == 'E') = false := by
    intro c h
    obtain ⟨digit, -, e, E⟩ := stop c h
    simp [digit, e, E]
  -- a lone exponent mark is not read, so a literal read whole does not end with one
  have noLone : ∀ tail : List Char, (scanExponent tail).2 = tail.length →
      ∀ e, tail = [e] → (e == 'e' || e == 'E') = true → ∀ c, rest.head? = some c → c ≠ '+' ∧ c ≠ '-' := by
    rintro tail read e rfl mark
    rw [scanExponent_unsigned mark [] (by simp)] at read
    simp [exponentPart] at read
  rcases literal_shape x with ⟨ds, tail, rfl, digits, after⟩ | ⟨ds, fs, tail, rfl, digits, fraction, after⟩
  · have after' := head?_append_of after fun c h => ⟨(stop c h).1, (stop c h).2.1⟩
    rw [scan?_whole digits after] at scan
    have read : (scanExponent tail).2 = tail.length := by
      split at scan
      · cases scan
      · cases scan
        simp only [List.length_append] at whole
        omega
    rw [List.append_assoc, scan?_whole digits after', scan?_whole digits after,
      scanExponent_append marks (noLone tail read)]
  · have after' := head?_append_of after fun c h => (stop c h).1
    rw [scan?_point digits fraction after] at scan
    have read : (scanExponent tail).2 = tail.length := by
      split at scan
      · cases scan
      · cases scan
        simp only [List.length_append, List.length_cons] at whole
        omega
    rw [List.append_assoc, scan?_point digits fraction after', scan?_point digits fraction after,
      scanExponent_append marks (noLone tail read)]

theorem scan?_length_le {cs : List Char} {l : Literal} (h : scan? cs = some l) : l.length ≤ cs.length := by
  rcases literal_shape cs with ⟨ds, tail, rfl, digits, after⟩ | ⟨ds, fs, tail, rfl, digits, fraction, after⟩
  · have := scanExponent_length_le tail
    rw [scan?_whole digits after] at h
    split at h
    · cases h
    · cases h
      simp only [List.length_append]
      omega
  · have := scanExponent_length_le tail
    rw [scan?_point digits fraction after] at h
    split at h
    · cases h
    · cases h
      simp only [List.length_append, List.length_cons]
      omega

theorem scan?_head {cs : List Char} {l : Literal} (h : scan? cs = some l) :
    ∃ c t, cs = c :: t ∧ (Text.isDigit c ∨ c = '.') := by
  rcases literal_shape cs with ⟨ds, tail, rfl, digits, after⟩ | ⟨ds, fs, tail, rfl, digits, fraction, after⟩
  · rw [scan?_whole digits after] at h
    cases ds with
    | nil => simp at h
    | cons d ds => exact ⟨d, ds ++ tail, rfl, .inl (digits d (by simp))⟩
  · cases ds with
    | nil => exact ⟨'.', fs ++ tail, rfl, .inr rfl⟩
    | cons d ds => exact ⟨d, _, rfl, .inl (digits d (by simp))⟩

theorem scan?_last_not_blank {cs : List Char} {l : Literal} (h : scan? cs = some l)
    (whole : l.length = cs.length) : ∀ c, cs.reverse.head? = some c → Text.isBlank c = false := by
  intro c last
  by_contra blank
  rw [List.head?_reverse, List.getLast?_eq_some_iff] at last
  obtain ⟨init, rfl⟩ := last
  have stop : ∀ c', [c].head? = some c' → endsLiteral c' := by
    simpa using endsLiteral_of_isBlank (by simpa using blank)
  rw [scan?_append_stop stop] at h
  have := scan?_length_le h
  simp only [List.length_append, List.length_singleton] at whole
  omega

end Literal

theorem toLower_of_literal_head {c : Char} (head : Text.isDigit c ∨ c = '.') :
    c ≠ '+' ∧ c ≠ '-' ∧ c.toLower ≠ 'i' ∧ c.toLower ≠ 'n' := by
  rcases head with digit | rfl
  · rw [toLower_of_isDigit digit]
    refine ⟨?_, ?_, ?_, ?_⟩ <;> (rintro rfl; revert digit; decide)
  · decide

/-- The signs that readers of numbers accept, and whether each negates. -/
def Signed (sign : List Char) (neg : Bool) : Prop :=
  sign = [] ∧ neg = false ∨ sign = ['+'] ∧ neg = false ∨ sign = ['-'] ∧ neg = true

section Whole

variable {sign lit : List Char} {neg : Bool} {l : Literal}

theorem readFloat?_of_trim {s : String} (signed : Signed sign neg)
    (trim : ((s.toList.dropWhile Text.isBlank).reverse.dropWhile Text.isBlank).reverse = sign ++ lit)
    (scan : Literal.scan? lit = some l) (whole : l.length = lit.length) :
    readFloat? s = some (l.toFloat neg) := by
  obtain ⟨c, t, rfl, head⟩ := Literal.scan?_head scan
  have lower := toLower_of_literal_head head
  unfold readFloat?
  rw [trim]
  rcases signed with ⟨rfl, rfl⟩ | ⟨rfl, rfl⟩ | ⟨rfl, rfl⟩ <;>
    simp [← String.toList_inj, lower.1, lower.2.1, lower.2.2.1, lower.2.2.2, scan, whole]

theorem sign_split (cs : List Char) : ∃ sign body neg, Signed sign neg ∧ cs = sign ++ body ∧
    (sign = [] → ∀ c, body.head? = some c → c ≠ '+' ∧ c ≠ '-') := by
  match cs with
  | [] => exact ⟨[], [], false, .inl ⟨rfl, rfl⟩, rfl, by simp⟩
  | c :: r =>
    by_cases plus : c = '+'
    · exact ⟨['+'], r, false, .inr (.inl ⟨rfl, rfl⟩), by rw [plus]; rfl, by simp⟩
    by_cases minus : c = '-'
    · exact ⟨['-'], r, true, .inr (.inr ⟨rfl, rfl⟩), by rw [minus]; rfl, by simp⟩
    exact ⟨[], c :: r, false, .inl ⟨rfl, rfl⟩, rfl, by simp [plus, minus]⟩

theorem scanSigned?_eq {cs body : List Char} (signed : Signed sign neg)
    (front : cs.dropWhile Text.isBlank = sign ++ body)
    (unsigned : sign = [] → ∀ c, body.head? = some c → c ≠ '+' ∧ c ≠ '-') :
    scanSigned? cs = (Literal.scan? body).map fun l => (l.toFloat neg, body.drop l.length) := by
  unfold scanSigned?
  rw [front]
  rcases signed with ⟨rfl, rfl⟩ | ⟨rfl, rfl⟩ | ⟨rfl, rfl⟩
  · cases body with
    | nil => rfl
    | cons c t =>
      have bare := unsigned rfl c rfl
      simp [bare.1, bare.2]
  · simp
  · simp

theorem trimEnd_append {p : Char → Bool} {xs rest : List Char}
    (last : ∀ c, xs.reverse.head? = some c → p c = false) (blanks : ∀ c ∈ rest, p c) :
    ((xs ++ rest).reverse.dropWhile p).reverse = xs := by
  rw [List.reverse_append, List.dropWhile_append_of_pos (by simpa using blanks), dropWhile_of_head last,
    List.reverse_reverse]

theorem last_of_append {sign lit : List Char} {P : Char → Prop} (nonempty : lit ≠ [])
    (last : ∀ c, lit.reverse.head? = some c → P c) : ∀ c, (sign ++ lit).reverse.head? = some c → P c := by
  intro c h
  rw [List.reverse_append, List.head?_append_of_ne_nil _ (by simpa using nonempty)] at h
  exact last c h

theorem front_not_blank (signed : Signed sign neg) (scan : Literal.scan? lit = some l) :
    ∀ c, (sign ++ lit).head? = some c → Text.isBlank c = false := by
  obtain ⟨c, t, rfl, head⟩ := Literal.scan?_head scan
  have first : Text.isBlank c = false := by
    rcases head with digit | rfl
    · exact not_isBlank_of_isDigit digit
    · decide
  rcases signed with ⟨rfl, rfl⟩ | ⟨rfl, rfl⟩ | ⟨rfl, rfl⟩ <;> simp [first] <;> decide

theorem signed_literal_reads {s : String} (signed : Signed sign neg) (chars : s.toList = sign ++ lit)
    (scan : Literal.scan? lit = some l) (whole : l.length = lit.length) :
    readFloat? s = some (l.toFloat neg) ∧ numberPrefix? s = some (l.toFloat neg) ∧ looksNumeric s := by
  obtain ⟨c, t, rfl, head⟩ := Literal.scan?_head scan
  have front : s.toList.dropWhile Text.isBlank = sign ++ c :: t := by
    rw [chars, dropWhile_of_head (front_not_blank signed scan)]
  have back := @trimEnd_append Text.isBlank (sign ++ c :: t) []
    (last_of_append (List.cons_ne_nil c t) (Literal.scan?_last_not_blank scan whole)) (by simp)
  rw [List.append_nil, ← front] at back
  have unsigned : sign = [] → ∀ c', (c :: t).head? = some c' → c' ≠ '+' ∧ c' ≠ '-' := by
    rintro - c' ⟨⟩
    exact ⟨(toLower_of_literal_head head).1, (toLower_of_literal_head head).2.1⟩
  have signedScan := scanSigned?_eq signed front unsigned
  refine ⟨readFloat?_of_trim signed (back.trans front) scan whole, ?_, ?_⟩
  · simp [numberPrefix?, signedScan, scan]
  · simp [looksNumeric, signedScan, scan, whole]

end Whole

theorem readFloat?_of_looksNumeric {s : String} (numeric : looksNumeric s) :
    readFloat? s = numberPrefix? s := by
  obtain ⟨sign, body, neg, signed, front, unsigned⟩ := sign_split (s.toList.dropWhile Text.isBlank)
  have signedScan := scanSigned?_eq signed front unsigned
  cases scan : Literal.scan? body with
  | none => simp [looksNumeric, signedScan, scan] at numeric
  | some l =>
    have blanks : ∀ c ∈ body.drop l.length, Text.isBlank c := by
      simpa [looksNumeric, signedScan, scan] using numeric
    have stop : ∀ c, (body.drop l.length).head? = some c → endsLiteral c :=
      fun c h => endsLiteral_of_isBlank (blanks c (List.mem_of_head? h))
    have litScan : Literal.scan? (body.take l.length) = some l := by
      rw [← Literal.scan?_append_stop stop, List.take_append_drop, scan]
    have whole : l.length = (body.take l.length).length := by
      have := Literal.scan?_length_le scan
      simp only [List.length_take]
      omega
    obtain ⟨c, t, lit, -⟩ := Literal.scan?_head litScan
    have last := @last_of_append sign _ _ (by simp [lit]) (Literal.scan?_last_not_blank litScan whole)
    have trim : ((s.toList.dropWhile Text.isBlank).reverse.dropWhile Text.isBlank).reverse =
        sign ++ body.take l.length := by
      have split : sign ++ body = (sign ++ body.take l.length) ++ body.drop l.length := by
        rw [List.append_assoc, List.take_append_drop]
      rw [front, split]
      exact trimEnd_append last blanks
    rw [readFloat?_of_trim signed trim litScan whole, numberPrefix?, signedScan, scan]
    rfl

namespace Literal

theorem exponentPart_digits {ds : List Char} (digits : ∀ c ∈ ds, Text.isDigit c) (ne : ds ≠ [])
    (neg : Bool) (signLen : Nat) :
    exponentPart neg signLen ds =
      (if neg then -(digitsValue ds : Int) else digitsValue ds, 1 + signLen + ds.length) := by
  have taken : ds.takeWhile Text.isDigit = ds := List.takeWhile_eq_self_iff.2 digits
  simp [exponentPart, taken, ne]

theorem scanExponent_signed {ds : List Char} (digits : ∀ c ∈ ds, Text.isDigit c) (ne : ds ≠ [])
    (neg : Bool) :
    scanExponent ('e' :: (if neg then '-' else '+') :: ds) =
      (if neg then -(digitsValue ds : Int) else digitsValue ds, 2 + ds.length) := by
  have mark : ('e' == 'e' || 'e' == 'E') = true := rfl
  cases neg with
  | false => rw [if_neg Bool.false_ne_true, scanExponent_plus mark, exponentPart_digits digits ne]
  | true => rw [if_pos rfl, scanExponent_minus mark, exponentPart_digits digits ne]

theorem digits_isDigit (n : Nat) : ∀ c ∈ Nat.toDigits 10 n, Text.isDigit c := by
  intro c mem
  simp [Text.isDigit, Nat.isDigit_of_mem_toDigits (by decide) (by decide) mem]

theorem zeros_isDigit (k : Nat) : ∀ c ∈ List.replicate k '0', Text.isDigit c := by
  intro c mem
  rw [List.eq_of_mem_replicate mem]
  decide

theorem scan?_toDigits (n : Nat) :
    scan? (Nat.toDigits 10 n) = some ⟨n, 0, (Nat.toDigits 10 n).length⟩ := by
  have whole := @scan?_whole (Nat.toDigits 10 n) [] (digits_isDigit n) (by simp)
  rw [List.append_nil] at whole
  rw [whole, if_neg (Nat.toDigits_ne_nil), digitsValue_toDigits, scanExponent_nil]
  rfl

theorem digitsValue_zeros_append (k : Nat) (ds : List Char) :
    digitsValue (List.replicate k '0' ++ ds) = digitsValue ds := by
  rw [digitsValue_append, digitsValue_zeros, Nat.zero_mul, Nat.zero_add]

theorem scan?_decimal {ds fs : List Char} (digits : ∀ c ∈ ds, Text.isDigit c) (fraction : ∀ c ∈ fs, Text.isDigit c)
    (ne : ds ≠ []) :
    scan? (ds ++ '.' :: fs) = some ⟨digitsValue (ds ++ fs), -(fs.length : Int), ds.length + 1 + fs.length⟩ := by
  have point := @scan?_point ds fs [] digits fraction (by simp)
  rw [List.append_nil] at point
  rw [point, if_neg (fun both => ne both.1), scanExponent_nil]
  simp

end Literal

theorem scanExponent_written (e : Int) :
    Literal.scanExponent ('e' :: (if e < 0 then '-' else '+') :: (zeroPad 2 (natText e.natAbs)).toList) =
      (e, 2 + (zeroPad 2 (natText e.natAbs)).toList.length) := by
  have chars : (zeroPad 2 (natText e.natAbs)).toList =
      List.replicate (2 - (natText e.natAbs).length) '0' ++ Nat.toDigits 10 e.natAbs := by
    simp [zeroPad, natText]
  have digits := List.forall_mem_append.2 ⟨Literal.zeros_isDigit (2 - (natText e.natAbs).length),
    Literal.digits_isDigit e.natAbs⟩
  have ne : List.replicate (2 - (natText e.natAbs).length) '0' ++ Nat.toDigits 10 e.natAbs ≠ [] := by
    simp [Nat.toDigits_ne_nil]
  have signed := Literal.scanExponent_signed digits ne (decide (e < 0))
  simp only [decide_eq_true_eq] at signed
  have value : (if e < 0 then -(e.natAbs : Int) else e.natAbs) = e := by split <;> omega
  rw [chars, signed, Literal.digitsValue_zeros_append, Literal.digitsValue_toDigits, value]

theorem layoutShort_literal {ds : List Char} (digits : ∀ c ∈ ds, Text.isDigit c) (ne : ds ≠ []) (exp : Int) :
    ∃ l, Literal.scan? (layoutShort (String.ofList ds) (ds.length + exp)).toList = some l ∧
      l.length = (layoutShort (String.ofList ds) (ds.length + exp)).toList.length ∧
      (l.mantissa : ℚ) * 10 ^ l.scale = Literal.digitsValue ds * 10 ^ exp := by
  have zero : Text.isDigit '0' := by decide
  unfold layoutShort
  simp only [String.length_ofList, String.toList_ofList]
  by_cases scientific : (decide ((ds.length : Int) + exp ≤ -4) || decide ((ds.length : Int) + exp > 16)) = true
  · -- one digit, a point and the other digits, then the exponent
    rw [if_pos scientific]
    have sign : (if (ds.length : Int) + exp - 1 < 0 then "-" else "+").toList =
        [if (ds.length : Int) + exp - 1 < 0 then '-' else '+'] := by
      split <;> rfl
    obtain ⟨d, rest, rfl⟩ := List.exists_cons_of_ne_nil ne
    have first := digits d (by simp)
    cases rest with
    | nil =>
      simp only [String.toList_append, String.toList_singleton, sign]
      generalize point : ([d].length : Int) + exp - 1 = x
      have chars : [d] ++ "e".toList ++ [if x < 0 then '-' else '+'] ++ (zeroPad 2 (natText x.natAbs)).toList =
          [d] ++ 'e' :: (if x < 0 then '-' else '+') :: (zeroPad 2 (natText x.natAbs)).toList := by
        simp
      rw [chars, Literal.scan?_whole digits (by rintro c ⟨⟩; decide), if_neg ne, scanExponent_written]
      refine ⟨_, rfl, by simp; omega, ?_⟩
      simp only [List.length_singleton, Nat.cast_one] at point
      rw [← point]
      congr 2
      ring
    | cons r rest =>
      simp only [String.toList_append, String.toList_singleton, sign, String.toList_ofList]
      generalize point : ((d :: r :: rest).length : Int) + exp - 1 = x
      have chars : [d] ++ ".".toList ++ r :: rest ++ "e".toList ++ [if x < 0 then '-' else '+'] ++
          (zeroPad 2 (natText x.natAbs)).toList =
          [d] ++ '.' :: (r :: rest) ++ 'e' :: (if x < 0 then '-' else '+') :: (zeroPad 2 (natText x.natAbs)).toList := by
        simp
      rw [chars, Literal.scan?_point (by simpa using first) (fun c mem => digits c (by simp [mem]))
        (by rintro c ⟨⟩; decide), if_neg (by simp), scanExponent_written]
      refine ⟨_, rfl, by simp; omega, ?_⟩
      congr 2
      simp only [List.length_cons] at point ⊢
      omega
  rw [if_neg scientific]
  by_cases nonpositive : (ds.length : Int) + exp ≤ 0
  · -- `0.` and zeros before the digits
    rw [if_pos nonpositive]
    have chars : ("0." ++ String.ofList (List.replicate (-((ds.length : Int) + exp)).toNat '0') ++
        String.ofList ds).toList = ['0'] ++ '.' :: (List.replicate (-((ds.length : Int) + exp)).toNat '0' ++ ds) := by
      simp
    rw [chars, Literal.scan?_decimal (by simpa using zero)
      (List.forall_mem_append.2 ⟨Literal.zeros_isDigit _, digits⟩) (by simp)]
    refine ⟨_, rfl, by simp; omega, ?_⟩
    dsimp only
    rw [List.singleton_append, ← List.cons_append, ← List.replicate_succ, Literal.digitsValue_zeros_append]
    congr 2
    simp only [List.length_append, List.length_replicate]
    omega
  rw [if_neg nonpositive]
  by_cases wide : (ds.length : Int) + exp ≥ ds.length
  · -- the digits, zeros and `.0`
    rw [if_pos wide]
    have chars : (String.ofList ds ++ String.ofList (List.replicate ((ds.length : Int) + exp - ds.length).toNat '0') ++
        ".0").toList = (ds ++ List.replicate exp.toNat '0') ++ '.' :: ['0'] := by
      simp
    rw [chars, Literal.scan?_decimal (List.forall_mem_append.2 ⟨digits, Literal.zeros_isDigit _⟩)
      (by simpa using zero) (by simp [ne])]
    refine ⟨_, rfl, by simp; omega, ?_⟩
    dsimp only
    rw [Literal.digitsValue_append, Literal.digitsValue_append, Literal.digitsValue_zeros]
    obtain ⟨k, rfl⟩ : ∃ k : Nat, exp = k := ⟨exp.toNat, by omega⟩
    have : Literal.digitsValue ['0'] = 0 := rfl
    simp [this, zpow_neg, pow_succ]
  · -- a point inside the digits
    rw [if_neg wide]
    have chars : (String.ofList (ds.take ((ds.length : Int) + exp).toNat) ++ "." ++
        String.ofList (ds.drop ((ds.length : Int) + exp).toNat)).toList =
        ds.take ((ds.length : Int) + exp).toNat ++ '.' :: ds.drop ((ds.length : Int) + exp).toNat := by
      simp
    have front : ds.take ((ds.length : Int) + exp).toNat ≠ [] := by
      simp only [ne_eq, List.take_eq_nil_iff, not_or]
      exact ⟨by omega, ne⟩
    rw [chars, Literal.scan?_decimal (fun c mem => digits c (List.mem_of_mem_take mem))
      (fun c mem => digits c (List.mem_of_mem_drop mem)) front]
    refine ⟨_, rfl, by simp; omega, ?_⟩
    dsimp only
    rw [List.take_append_drop]
    congr 2
    simp only [List.length_drop]
    omega

theorem toString_signed (neg : Bool) (w : Nat) :
    (toString (if neg then -(w : Int) else w)).toList =
      (if neg && w != 0 then ['-'] else []) ++ Nat.toDigits 10 w := by
  cases neg with
  | false => exact Nat.toList_repr
  | true =>
    cases w with
    | zero => exact Nat.toList_repr
    | succ k =>
      show (Int.repr (Int.negSucc k)).toList = _
      simp [Int.repr, Nat.toList_repr]

theorem signed_minus (neg : Bool) : Signed (if neg then ['-'] else []) neg := by
  cases neg
  · exact .inl ⟨rfl, rfl⟩
  · exact .inr (.inr ⟨rfl, rfl⟩)

end Spreadsheet.Number

namespace Spreadsheet.Number.Binary

open Float.Model Float.Model.UnpackedFloat

def IsZero (x : Float) : Prop := ∃ neg, ofFloat x = .finite neg 0 minExp

theorem ofDecimal_zero (neg : Bool) (q : Int) : IsZero (Float.ofDecimal neg 0 q) := by
  have parts : roundParts 0 1 0 = some (0, minExp) := rfl
  exact ⟨neg, by simp [Float.ofDecimal, round_of_roundParts parts, ofFloat_pack neg (by decide : Canonical 0 minExp)]⟩

theorem isZero_of_ofFloat {x : Float} {neg : Bool} {e : Int} (h : ofFloat x = .finite neg 0 e) : IsZero x := by
  obtain ⟨-, -, -, least⟩ := ofFloat_canonical h
  have : e = minExp := least.resolve_left (by decide)
  exact ⟨neg, this ▸ h⟩

theorem roundsTo_exact (m : Nat) (e : Int) : RoundsTo (m * 2 ^ e) m e := by
  have scale : (0 : ℚ) < 2 ^ e := by positivity
  have above : (m : ℚ) * 2 ^ e < (m + 1 / 2) * 2 ^ e := mul_lt_mul_of_pos_right (by linarith) scale
  unfold RoundsTo
  intro half
  have positive : 0 < half := by
    simp only [half]
    split_ifs <;> norm_num
  have below : (m - half) * 2 ^ e < m * 2 ^ e := mul_lt_mul_of_pos_right (by linarith) scale
  split_ifs
  · exact ⟨below.le, above.le⟩
  · exact ⟨below, above⟩

theorem unpack_of_isZero {x : Float} (zero : IsZero x) : ∃ s, x.toModel.unpack = .zero s := by
  obtain ⟨neg, h⟩ := zero
  obtain ⟨s, E, F, hs, hE, hF, bits⟩ := exists_word (toBits_lt x)
  rw [ofFloat_of_bits bits hs hE hF] at h
  have notTop : E ≠ 2047 := by
    intro top; simp only [top, if_true] at h; split at h <;> simp at h
  have bottom : E = 0 := by
    by_contra nonzero
    simp only [notTop, nonzero, if_false] at h
    have := (Binary.finite.inj h).2.1
    omega
  have empty : F = 0 := by
    simp only [bottom, if_neg (by decide : (0 : Nat) ≠ 2047), if_true] at h
    exact (Binary.finite.inj h).2.1
  rw [unpack_toModel bits hE hF, bottom, empty]
  generalize Sign.ofBitVec (@unpackSign Format.binary64 x.toBits.toBitVec) = sg
  exact ⟨sg, by simp [unpackFields]⟩

theorem compare_zero_right (u : UnpackedFloat) (s t : Sign) : u.compare (.zero s) = u.compare (.zero t) := by
  cases u with
  | infinity s' => cases s' <;> rfl
  | notANumber => rfl
  | zero _ => rfl
  | finite s' _ _ _ => cases s' <;> rfl

theorem compare?_of_isZero {a b : Float} (za : IsZero a) (zb : IsZero b) (n : Num) :
    n.compare? (.float a) = n.compare? (.float b) := by
  obtain ⟨s, ua⟩ := unpack_of_isZero za
  obtain ⟨t, ub⟩ := unpack_of_isZero zb
  obtain ⟨na, pa⟩ := za
  obtain ⟨nb, pb⟩ := zb
  cases n with
  | int i => simp [Num.compare?, pa, pb, Num.cmpIntBinary]
  | float x =>
    have nanA : a.isNaN = false := by
      show a.toModel.unpack.isNaN = false
      rw [ua]; rfl
    have nanB : b.isNaN = false := by
      show b.toModel.unpack.isNaN = false
      rw [ub]; rfl
    have lt : (x < a) = (x < b) := by
      show (decide (x.toModel.unpack.compare a.toModel.unpack == some .lt) = true) =
        (decide (x.toModel.unpack.compare b.toModel.unpack == some .lt) = true)
      rw [ua, ub, compare_zero_right _ s t]
    have eq : (x == a) = (x == b) := by
      show (x.toModel.unpack.compare a.toModel.unpack == some .eq) = (x.toModel.unpack.compare b.toModel.unpack == some .eq)
      rw [ua, ub, compare_zero_right _ s t]
    simp only [Num.compare?, nanA, nanB, lt, eq]

/-- Doubles that no comparison tells apart: equal ones, and zeros of either sign. -/
def SameNumber (a b : Float) : Prop := a = b ∨ IsZero a ∧ IsZero b

theorem compare?_of_same {a b : Float} (same : SameNumber a b) (n : Num) :
    n.compare? (.float a) = n.compare? (.float b) := by
  rcases same with rfl | ⟨za, zb⟩
  · rfl
  · exact compare?_of_isZero za zb n

theorem integral_value {m : Nat} {e : Int} (integral : (decide (e ≥ 0) || m % 2 ^ (-e).toNat == 0) = true) :
    ((if e ≥ 0 then m * 2 ^ e.toNat else m / 2 ^ (-e).toNat : Nat) : ℚ) = m * 2 ^ e := by
  by_cases nonneg : e ≥ 0
  · obtain ⟨k, rfl⟩ := Int.eq_ofNat_of_zero_le nonneg
    simp
  · obtain ⟨k, rfl⟩ : ∃ k : Nat, e = -(k : Int) := ⟨(-e).toNat, by omega⟩
    have divides : m % 2 ^ k = 0 := by
      have positive : k ≠ 0 := by omega
      simpa [positive] using integral
    obtain ⟨q, rfl⟩ := Nat.dvd_of_mod_eq_zero divides
    have toNat : (-(-(k : Int))).toNat = k := by omega
    rw [if_neg nonneg, toNat, Nat.mul_div_cancel_left q (Nat.two_pow_pos k)]
    push_cast
    rw [zpow_neg, zpow_natCast]
    field_simp

end Spreadsheet.Number.Binary

namespace Spreadsheet.Number

open Binary

variable {c : Float} {neg : Bool} {m : Nat} {e : Int}

theorem display_cases (parts : ofFloat c = .finite neg m e) :
    (∃ w : Nat, (w : ℚ) = m * 2 ^ e ∧ (Num.float c).display = toString (if neg then -(w : Int) else w)) ∨
      (Num.float c).display = Float.shortText c := by
  simp only [Num.display, parts]
  split
  next integral =>
    refine .inl ⟨_, integral_value (Bool.and_eq_true_iff.1 integral).1, ?_⟩
    rw [Nat.cast_ite]
  next => exact .inr rfl

theorem shortText_chars (parts : ofFloat c = .finite neg m e) :
    (m = 0 ∧ (Float.shortText c).toList = (if neg then ['-'] else []) ++ ['0', '.', '0']) ∨
      (0 < m ∧ (Float.shortText c).toList = (if neg then ['-'] else []) ++
        (layoutShort (natText (shortest m e).digits)
          ((natText (shortest m e).digits).length + (shortest m e).exp)).toList) := by
  have sign : (if neg then "-" else "").toList = if neg then ['-'] else [] := by
    split <;> rfl
  simp only [Float.shortText, parts]
  split
  next zero => exact .inl ⟨by simpa using zero, by simp [sign]⟩
  next positive => exact .inr ⟨Nat.pos_of_ne_zero (by simpa using positive), by simp [sign]⟩

theorem ofDecimal_exact (parts : ofFloat c = .finite neg m e) {w : Nat} (value : (w : ℚ) = m * 2 ^ e)
    (pos : 0 < w) : Float.ofDecimal neg w 0 = c := by
  have mPos : 0 < m := by
    rcases Nat.eq_zero_or_pos m with zero | positive
    · subst zero
      simp only [Nat.cast_zero, zero_mul, Nat.cast_eq_zero] at value
      omega
    · exact positive
  have rounds : RoundsTo ((w : ℚ) * 10 ^ (0 : Int)) m e := by
    rw [zpow_zero, mul_one, value]
    exact roundsTo_exact m e
  rw [ofDecimal_of_roundsTo neg (ofFloat_canonical parts) mPos rounds, pack_ofFloat parts]

theorem shortText_literal (parts : ofFloat c = .finite neg m e) :
    ∃ lit l, (Float.shortText c).toList = (if neg then ['-'] else []) ++ lit ∧ Literal.scan? lit = some l ∧
      l.length = lit.length ∧ l.toFloat neg = c := by
  have canonical := ofFloat_canonical parts
  rcases shortText_chars parts with ⟨rfl, chars⟩ | ⟨pos, chars⟩
  · -- a zero: `0.0` reads as the zero of the sign, whose exponent is the least
    have digit : ∀ c ∈ ['0'], Text.isDigit c := by simpa using (by decide : Text.isDigit '0')
    have zeros : Literal.digitsValue (['0'] ++ ['0']) = 0 := by decide
    obtain ⟨-, -, -, least⟩ := canonical
    have smallest : e = minExp := least.resolve_left (by decide)
    have parts0 : roundParts 0 1 0 = some (0, minExp) := rfl
    refine ⟨['0'] ++ '.' :: ['0'], _, chars, Literal.scan?_decimal digit digit (by simp), rfl, ?_⟩
    rw [Literal.toFloat]
    dsimp only
    rw [zeros, Float.ofDecimal, if_pos (beq_self_eq_true 0), round_of_roundParts parts0, ← smallest, pack_ofFloat parts]
  · -- the layout of the shortest decimal
    obtain ⟨l, scan, whole, value⟩ := layoutShort_literal (Literal.digits_isDigit (shortest m e).digits)
      Nat.toDigits_ne_nil (shortest m e).exp
    have length : (natText (shortest m e).digits).length = (Nat.toDigits 10 (shortest m e).digits).length :=
      String.length_ofList
    refine ⟨_, l, by rw [chars, length]; rfl, scan, whole, ?_⟩
    have rounds : RoundsTo ((l.mantissa : ℚ) * 10 ^ l.scale) m e := by
      rw [value, Literal.digitsValue_toDigits]
      exact shortest_rounds canonical pos
    rw [Literal.toFloat, ofDecimal_of_roundsTo neg canonical pos rounds, pack_ofFloat parts]

theorem display_literal (finite : c.isFinite) :
    ∃ sign lit neg l, Signed sign neg ∧ (Num.float c).display.toList = sign ++ lit ∧
      Literal.scan? lit = some l ∧ l.length = lit.length ∧ SameNumber (l.toFloat neg) c := by
  obtain ⟨neg, m, e, parts⟩ := (isFinite_iff c).1 finite
  rcases display_cases parts with ⟨w, value, text⟩ | text
  · -- an integer: a minus sign unless it is zero, and its digits
    refine ⟨_, _, neg && w != 0, _, signed_minus _, by rw [text, toString_signed], Literal.scan?_toDigits w,
      rfl, ?_⟩
    rcases Nat.eq_zero_or_pos w with zero | pos
    · subst zero
      have : m = 0 := by
        have := value.symm
        simp only [Nat.cast_zero, mul_eq_zero, Nat.cast_eq_zero] at this
        exact this.resolve_right (by positivity)
      exact .inr ⟨ofDecimal_zero _ _, isZero_of_ofFloat (this ▸ parts)⟩
    · have sign : (neg && w != 0) = neg := by simp [Nat.pos_iff_ne_zero.1 pos]
      exact .inl (by rw [sign]; exact ofDecimal_exact parts value pos)
  obtain ⟨lit, l, chars, scan, whole, exact⟩ := shortText_literal parts
  exact ⟨_, lit, neg, l, signed_minus neg, by rw [text, chars], scan, whole, .inl exact⟩

theorem display_reads_back (finite : c.isFinite) :
    ∃ c', readFloat? (Num.float c).display = some c' ∧ numberPrefix? (Num.float c).display = some c' ∧
      looksNumeric (Num.float c).display ∧ SameNumber c' c := by
  obtain ⟨sign, lit, neg, l, signed, chars, scan, whole, same⟩ := display_literal finite
  obtain ⟨whole, start, numeric⟩ := signed_literal_reads signed chars scan whole
  exact ⟨_, whole, start, numeric, same⟩

theorem display_head (finite : c.isFinite) :
    ∀ ch ∈ ['=', '<', '>'], (Num.float c).display.toList.head? ≠ some ch := by
  obtain ⟨sign, lit, neg, l, signed, chars, scan, -, -⟩ := display_literal finite
  obtain ⟨d, t, rfl, head⟩ := Literal.scan?_head scan
  have first : d ≠ '=' ∧ d ≠ '<' ∧ d ≠ '>' := by
    rcases head with digit | rfl
    · refine ⟨?_, ?_, ?_⟩ <;> (rintro rfl; revert digit; decide)
    · decide
  rw [chars]
  rcases signed with ⟨rfl, -⟩ | ⟨rfl, -⟩ | ⟨rfl, -⟩ <;> simp [first.1, first.2.1, first.2.2]

end Spreadsheet.Number
