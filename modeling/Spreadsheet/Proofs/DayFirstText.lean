import Spreadsheet.Functions.Dates
import Spreadsheet.Proofs.NumberText
import Spreadsheet.Proofs.Ordinals
import Mathlib.Data.List.Find

/-!
Day-first texts read back as dates.

`dayFirstText` writes a date as `DD/MM/Y`, the day and month on two digits and the year as it is. Read
as a date argument, such a text is no number (a number stops at the first `/`) and no ISO 8601 text (its
third byte is a `/`), so only the day-first patterns can read it. The first of them, `%d/%m/%Y`, reads
it back exactly when the year has four digits, since its year field takes four; below year 1000 no
pattern matches and the text is `#VALUE!`. Every date read from a text, by any reader, is valid.
-/

set_option autoImplicit false

namespace Spreadsheet.Calendar

theorem padNat_toList (w n : Nat) :
    (padNat w n).toList = List.replicate (w - (Nat.toDigits 10 n).length) '0' ++ Nat.toDigits 10 n := by
  simp [padNat]

theorem toDigits_ascii (n : Nat) : ∀ c ∈ Nat.toDigits 10 n, 48 ≤ c.toNat ∧ c.toNat < 58 := by
  intro c mem
  have digit := Nat.isDigit_of_mem_toDigits (by decide) (by decide) mem
  simp [Char.isDigit, UInt32.le_iff_toNat_le] at digit
  omega

theorem padNat_ascii (w n : Nat) : ∀ c ∈ (padNat w n).toList, 48 ≤ c.toNat ∧ c.toNat < 58 := by
  intro c mem
  rw [padNat_toList, List.mem_append] at mem
  rcases mem with zero | digit
  · rw [List.eq_of_mem_replicate zero]
    decide
  · exact toDigits_ascii n c digit

theorem isDigit_of_ascii {c : Char} (ascii : 48 ≤ c.toNat ∧ c.toNat < 58) : Text.isDigit c := by
  have digit : c.isDigit := by
    simp only [Char.isDigit, Bool.and_eq_true, decide_eq_true_eq, UInt32.le_iff_toNat_le]
    exact ⟨ascii.1, Nat.le_of_lt_succ ascii.2⟩
  simp [Text.isDigit, digit]

theorem utf8Size_of_ascii {c : Char} (ascii : 48 ≤ c.toNat ∧ c.toNat < 58) : c.utf8Size = 1 := by
  rw [Char.utf8Size_eq_one_iff, UInt32.le_iff_toNat_le]
  show c.toNat ≤ 127
  omega

theorem toDigits_length_lt_four {y : Nat} (small : y < 1000) : (Nat.toDigits 10 y).length < 4 :=
  Nat.lt_of_le_of_lt ((Nat.length_toDigits_le_iff (b := 10) (k := 3) (by decide) (by decide)).2 small) (by decide)

theorem padNat_two_length {n : Nat} (small : n < 100) : (padNat 2 n).toList.length = 2 := by
  have digits : (Nat.toDigits 10 n).length ≤ 2 := (Nat.length_toDigits_le_iff (by decide) (by decide)).2 small
  rw [padNat_toList, List.length_append, List.length_replicate]
  omega

theorem fieldValue_of_ascii {cs : List Char} (ascii : ∀ c ∈ cs, 48 ≤ c.toNat ∧ c.toNat < 58) :
    fieldValue cs = Number.Literal.digitsValue cs := by
  unfold fieldValue Number.Literal.digitsValue
  refine List.foldl_ext _ _ 0 fun acc c mem => ?_
  rw [digitValue_of_ascii (ascii c mem)]
  rfl

theorem fieldValue_padNat (w n : Nat) : fieldValue (padNat w n).toList = n := by
  rw [fieldValue_of_ascii (padNat_ascii w n), padNat_toList, Number.Literal.digitsValue_append,
    Number.Literal.digitsValue_zeros, Number.Literal.digitsValue_toDigits, Nat.zero_mul, Nat.zero_add]

section Shapes

variable {shape : List Slot} {cs rest : List Char}

theorem zip_append_of_le (short : shape.length ≤ cs.length) : shape.zip (cs ++ rest) = shape.zip cs := by
  induction shape generalizing cs with
  | nil => rfl
  | cons slot shape ih =>
    cases cs with
    | nil => simp at short
    | cons c cs => simp [ih (by simpa using short)]

theorem fits_append (short : shape.length ≤ cs.length) : fits shape (cs ++ rest) = fits shape cs := by
  have longer : shape.length ≤ (cs ++ rest).length := by simp; omega
  simp only [fits, zip_append_of_le short, decide_eq_true short, decide_eq_true longer]

end Shapes

theorem find?_fits_append {shapes : List (List Slot)} {cs : List Char} (short : ∀ s ∈ shapes, s.length ≤ cs.length)
    (rest : List Char) : shapes.find? (fun s => fits s (cs ++ rest)) = shapes.find? (fun s => fits s cs) :=
  List.find?_congr fun s mem => fits_append (short s mem)

section Pieces

variable {p : Piece} {ps : List Piece} {cs rest : List Char} (f : Fields)

theorem readPieces_field {s : List Slot} (found : p.shapes.find? (fun s => fits s (cs ++ rest)) = some s)
    (len : s.length = cs.length) :
    readPieces (p :: ps) (cs ++ rest) f = readPieces ps rest (f.set p (fieldValue cs)) := by
  have take : (cs ++ rest).take s.length = cs := by rw [len, List.take_left]
  have drop : (cs ++ rest).drop s.length = rest := by rw [len, List.drop_left]
  cases p with
  | literal c => cases found
  | blanks => cases found
  | _ => simp only [readPieces, found, take, drop]

theorem readPieces_no_shape (shaped : p.shapes ≠ []) (missing : p.shapes.find? (fun s => fits s cs) = none) :
    readPieces (p :: ps) cs f = none := by
  cases p with
  | literal c => exact absurd rfl shaped
  | blanks => exact absurd rfl shaped
  | _ => simp only [readPieces, missing]

theorem readPieces_literal (c : Char) : readPieces (.literal c :: ps) (c :: cs) f = readPieces ps cs f := by
  simp [readPieces]

theorem readPieces_literal_ne {c d : Char} (ne : c ≠ d) : readPieces (.literal c :: ps) (d :: cs) f = none := by
  simp [readPieces, ne]

theorem readPieces_two_digits {n : Nat} (small : n < 100) (short : ∀ s ∈ p.shapes, s.length ≤ 2)
    (takesTwo : (p.shapes.find? fun s => fits s (padNat 2 n).toList).map List.length = some 2) :
    readPieces (p :: ps) ((padNat 2 n).toList ++ rest) f = readPieces ps rest (f.set p n) := by
  have two := padNat_two_length small
  obtain ⟨s, found, len⟩ := Option.map_eq_some_iff.1 takesTwo
  rw [← find?_fits_append (by rwa [two]) rest] at found
  rw [readPieces_field f found (by rw [len, two]), fieldValue_padNat]

end Pieces

theorem day_takes_two {n : Nat} (pos : 1 ≤ n) (le : n ≤ 31) :
    (Piece.day.shapes.find? fun s => fits s (padNat 2 n).toList).map List.length = some 2 := by
  have table : ∀ n < 32, 0 < n → (Piece.day.shapes.find? fun s =>
      fits s (List.replicate (2 - (Nat.toDigits 10 n).length) '0' ++ Nat.toDigits 10 n)).map List.length = some 2 := by
    decide
  rw [padNat_toList]
  exact table n (by omega) pos

theorem month_takes_two {n : Nat} (pos : 1 ≤ n) (le : n ≤ 12) :
    (Piece.month.shapes.find? fun s => fits s (padNat 2 n).toList).map List.length = some 2 := by
  have table : ∀ n < 13, 0 < n → (Piece.month.shapes.find? fun s =>
      fits s (List.replicate (2 - (Nat.toDigits 10 n).length) '0' ++ Nat.toDigits 10 n)).map List.length = some 2 := by
    decide
  rw [padNat_toList]
  exact table n (by omega) pos

theorem year_shape_short {cs : List Char} (short : cs.length < 4) :
    Piece.year.shapes.find? (fun s => fits s cs) = none := by
  simp [Piece.shapes, fits, show ¬4 ≤ cs.length by omega]

theorem readPieces_year {y : Nat} (low : 1000 ≤ y) (high : y < 10000) (f : Fields) :
    readPieces [.year] (Nat.toDigits 10 y) f = some (f.set .year y) := by
  have four : (Nat.toDigits 10 y).length = 4 := by
    have atMost := (Nat.length_toDigits_le_iff (b := 10) (n := y) (k := 4) (by decide) (by decide)).2 high
    have more := (Nat.length_toDigits_le_iff (b := 10) (n := y) (k := 3) (by decide) (by decide)).not.2 (by omega)
    omega
  -- each of the four digit slots meets a digit
  have fitsYear : fits [.digit, .digit, .digit, .digit] (Nat.toDigits 10 y) := by
    rw [fits, Bool.and_eq_true, decide_eq_true_eq, List.all_eq_true, four]
    refine ⟨le_rfl, fun p mem => ?_⟩
    obtain ⟨slot, digit⟩ := List.of_mem_zip mem
    simp only [List.mem_cons, List.not_mem_nil, or_self, or_false] at slot
    rw [slot]
    exact Number.Literal.digits_isDigit y p.2 digit
  have found : Piece.year.shapes.find? (fun s => fits s (Nat.toDigits 10 y ++ [])) =
      some [.digit, .digit, .digit, .digit] := by
    rw [List.append_nil]
    exact List.find?_cons_of_pos fitsYear
  rw [← List.append_nil (Nat.toDigits 10 y), readPieces_field f found (by rw [four]; rfl),
    fieldValue_of_ascii (toDigits_ascii y), Number.Literal.digitsValue_toDigits]
  rfl

section Readers

theorem Date.valid_of_make? {y m k : Nat} {d : Date} (made : Date.make? y m k = some d) : d.valid := by
  simp only [Date.make?] at made
  split at made
  next valid =>
    cases made
    exact valid
  next => cases made

theorem valid_of_make?_bind {y m k : Nat} {t : DateTime} {f : Date → Option DateTime}
    (keeps : ∀ date t, f date = some t → t.date = date) (read : (Date.make? y m k).bind f = some t) :
    t.date.valid := by
  obtain ⟨date, made, rest⟩ := Option.bind_eq_some_iff.1 read
  rw [keeps date t rest]
  exact Date.valid_of_make? made

theorem Iso.valid_of_readDateTime? {s : String} {t : DateTime} (read : Iso.readDateTime? s = some t) :
    t.date.valid := by
  simp [Iso.readDateTime?, Option.bind_eq_some_iff] at read
  obtain ⟨stop, -, y, m, k, -, read⟩ := read
  split at read
  next =>
    obtain ⟨⟨clock, offset⟩, -, read⟩ := Option.bind_eq_some_iff.1 read
    refine valid_of_make?_bind (fun date t kept => ?_) read
    split at kept
    next => cases kept
    next =>
      split at kept
      next =>
        split at kept
        next => cases kept
        next =>
          cases kept
          rfl
      next =>
        cases kept
        rfl
  next =>
    refine valid_of_make?_bind (fun date t kept => ?_) read
    cases kept
    rfl

theorem valid_of_readByPattern? {pattern : List Piece} {s : String} {d : Date}
    (read : readByPattern? pattern s = some d) : d.valid := by
  simp only [readByPattern?, Option.bind_eq_bind, Option.bind_eq_some_iff] at read
  obtain ⟨f, -, read⟩ := read
  split at read
  next => cases read
  next => exact Date.valid_of_make? read
end Readers

theorem readByPattern?_of_none {pattern : List Piece} {s : String} (fails : readPieces pattern s.toList {} = none) :
    readByPattern? pattern s = none := by
  simp [readByPattern?, fails]

theorem Iso.readDateTime?_of_slash {s : String} (slash : Iso.byteAt s.toUTF8.data 2 = 47) :
    Iso.readDateTime? s = none := by
  unfold Iso.readDateTime?
  generalize s.toUTF8.data = bs at slash ⊢
  have noYear : Iso.digitsAt bs 0 4 = none := by
    simp [Iso.digitsAt, List.range_succ, slash, Iso.isDigitByte]
  have noDate (stop : Nat) : Iso.readDate bs stop = none := by
    simp only [Iso.readDate, noYear, Option.bind_eq_bind, Option.bind_none]
  simp only [noDate, Option.bind_eq_bind, Option.bind_none, Option.bind_fun_none]

theorem byteAt_two {s : String} {a b : Char} {rest : List Char} (chars : s.toList = a :: b :: '/' :: rest)
    (ascii : a.utf8Size = 1 ∧ b.utf8Size = 1) : Iso.byteAt s.toUTF8.data 2 = 47 := by
  rw [← @String.ofList_toList s, chars]
  simp only [String.toUTF8_eq_toByteArray, String.toByteArray_ofList, List.utf8Encode, List.data_toByteArray,
    List.flatMap_cons, String.utf8EncodeChar_eq_singleton ascii.1, String.utf8EncodeChar_eq_singleton ascii.2]
  rfl

end Spreadsheet.Calendar

namespace Spreadsheet.Functions

open Calendar

theorem dayFirstText_toList (d : Date) :
    (dayFirstText d).toList =
      (padNat 2 d.day).toList ++ '/' :: ((padNat 2 d.month).toList ++ '/' :: Nat.toDigits 10 d.year) := by
  simp [dayFirstText]

section Valid

variable {d : Date} (valid : d.valid)
include valid

theorem day_chars : ∃ a b, (padNat 2 d.day).toList = [a, b] ∧
    (48 ≤ a.toNat ∧ a.toNat < 58) ∧ (48 ≤ b.toNat ∧ b.toNat < 58) := by
  have two := padNat_two_length (show d.day < 100 by
    have := (Date.valid_iff d).1 valid
    have := monthLength_bounds d.year d.month
    omega)
  have ascii := padNat_ascii 2 d.day
  match chars : (padNat 2 d.day).toList, two with
  | [a, b], _ =>
    rw [chars] at ascii
    exact ⟨a, b, rfl, ascii a (by simp), ascii b (by simp)⟩

theorem day_month_bounds : 1 ≤ d.day ∧ d.day ≤ 31 ∧ 1 ≤ d.month ∧ d.month ≤ 12 := by
  have fields := (Date.valid_iff d).1 valid
  have := monthLength_bounds d.year d.month
  omega

theorem readPieces_day (ps : List Piece) (rest : List Char) (f : Fields) :
    readPieces (.day :: ps) ((padNat 2 d.day).toList ++ rest) f = readPieces ps rest (f.set .day d.day) := by
  obtain ⟨d1, d31, -, -⟩ := day_month_bounds valid
  exact readPieces_two_digits f (by omega) (by simp [Piece.shapes, Slot.range]) (day_takes_two d1 d31)

theorem readPieces_month (ps : List Piece) (rest : List Char) (f : Fields) :
    readPieces (.month :: ps) ((padNat 2 d.month).toList ++ rest) f = readPieces ps rest (f.set .month d.month) := by
  obtain ⟨-, -, m1, m12⟩ := day_month_bounds valid
  exact readPieces_two_digits f (by omega) (by simp [Piece.shapes, Slot.range]) (month_takes_two m1 m12)

theorem readPieces_day_month (ps : List Piece) (rest : List Char) (f : Fields) :
    readPieces (.day :: .literal '/' :: .month :: .literal '/' :: ps)
        ((padNat 2 d.day).toList ++ '/' :: ((padNat 2 d.month).toList ++ '/' :: rest)) f =
      readPieces ps rest ((f.set .day d.day).set .month d.month) := by
  rw [readPieces_day valid, readPieces_literal, readPieces_month valid, readPieces_literal]

theorem readByPattern?_dayFirst :
    readByPattern? [.day, .literal '/', .month, .literal '/', .year] (dayFirstText d) =
      if 1000 ≤ d.year then some d else none := by
  have year := ((Date.valid_iff d).1 valid).2.1
  by_cases four : 1000 ≤ d.year
  · rw [if_pos four, readByPattern?, dayFirstText_toList, readPieces_day_month valid,
      readPieces_year four (by omega)]
    simp [Fields.set, Date.make?, valid]
  · rw [if_neg four]
    refine readByPattern?_of_none ?_
    rw [dayFirstText_toList, readPieces_day_month valid]
    exact readPieces_no_shape _ (by simp [Piece.shapes]) (year_shape_short (toDigits_length_lt_four (by omega)))

theorem dayFirstText_chars : ∃ a b rest, (dayFirstText d).toList = a :: b :: '/' :: rest ∧
    (48 ≤ a.toNat ∧ a.toNat < 58) ∧ (48 ≤ b.toNat ∧ b.toNat < 58) := by
  obtain ⟨a, b, chars, da, db⟩ := day_chars valid
  exact ⟨a, b, _, by rw [dayFirstText_toList, chars]; rfl, da, db⟩

theorem dayFirstPatterns_dayFirstText :
    dayFirstPatterns.findSome? (fun p => readByPattern? p (dayFirstText d)) =
      if 1000 ≤ d.year then some d else none := by
  have first := readByPattern?_dayFirst valid
  by_cases four : 1000 ≤ d.year
  · rw [if_pos four] at first ⊢
    rw [dayFirstPatterns, List.findSome?_cons_of_isSome (by rw [first]; rfl), first]
  rw [if_neg four] at first ⊢
  have short := year_shape_short (toDigits_length_lt_four (show d.year < 1000 by omega))
  have withTime : readByPattern? [.day, .literal '/', .month, .literal '/', .year, .literal ',', .blanks, .hour,
      .literal ':', .minute, .literal ':', .second] (dayFirstText d) = none := by
    refine readByPattern?_of_none ?_
    rw [dayFirstText_toList, readPieces_day_month valid]
    exact readPieces_no_shape _ (by simp [Piece.shapes]) short
  have yearFirst : readByPattern? [.year, .literal '/', .month, .literal '/', .day] (dayFirstText d) = none := by
    obtain ⟨a, b, rest, chars, -, -⟩ := dayFirstText_chars valid
    have slash : Text.isDigit '/' = false := by decide
    refine readByPattern?_of_none ?_
    rw [chars]
    exact readPieces_no_shape _ (by simp [Piece.shapes]) (by simp [Piece.shapes, fits, Slot.accepts, slash])
  have dashes : readByPattern? [.day, .literal '-', .month, .literal '-', .year] (dayFirstText d) = none := by
    refine readByPattern?_of_none ?_
    rw [dayFirstText_toList, readPieces_day valid]
    exact readPieces_literal_ne _ (by decide)
  simp only [dayFirstPatterns, List.findSome?_cons, first, withTime, yearFirst, dashes, List.findSome?_nil]

theorem readDateTime?_dayFirstText : Iso.readDateTime? (dayFirstText d) = none := by
  obtain ⟨a, b, rest, chars, da, db⟩ := dayFirstText_chars valid
  exact Iso.readDateTime?_of_slash (byteAt_two chars ⟨utf8Size_of_ascii da, utf8Size_of_ascii db⟩)

theorem dateOfText?_dayFirstText : dateOfText? (dayFirstText d) = if 1000 ≤ d.year then some d else none := by
  rw [dateOfText?, readDateTime?_dayFirstText valid]
  exact dayFirstPatterns_dayFirstText valid

theorem looksNumeric_dayFirstText : Number.looksNumeric (dayFirstText d) = false := by
  obtain ⟨a, b, rest, chars, da, db⟩ := dayFirstText_chars valid
  have digits : ∀ c ∈ [a, b], Text.isDigit c := by
    simp only [List.mem_cons, List.not_mem_nil, or_false]
    rintro c (rfl | rfl)
    · exact isDigit_of_ascii da
    · exact isDigit_of_ascii db
  have front : (dayFirstText d).toList.dropWhile Text.isBlank = [] ++ ([a, b] ++ '/' :: rest) := by
    rw [chars, Number.dropWhile_of_head]
    · rfl
    · rintro c ⟨⟩
      exact Number.not_isBlank_of_isDigit (isDigit_of_ascii da)
  have unsigned : ∀ c, ([a, b] ++ '/' :: rest).head? = some c → c ≠ '+' ∧ c ≠ '-' := by
    rintro c ⟨⟩
    exact ⟨fun plus => by rw [plus] at da; simp at da, fun minus => by rw [minus] at da; simp at da⟩
  have scan := @Number.Literal.scan?_whole [a, b] ('/' :: rest) digits fun c h => by cases h; decide
  have noExponent : Number.Literal.scanExponent ('/' :: rest) = (0, 0) :=
    Number.Literal.scanExponent_unmarked (by decide) rest
  have slash : Text.isBlank '/' = false := by decide
  rw [Number.looksNumeric, Number.scanSigned?_eq (.inl ⟨rfl, rfl⟩) front fun _ => unsigned, scan, if_neg (by simp),
    noExponent]
  simp [slash]

theorem trimBlanks_dayFirstText : Text.trimBlanks (dayFirstText d) = dayFirstText d := by
  obtain ⟨a, b, rest, chars, da, -⟩ := dayFirstText_chars valid
  have front : (dayFirstText d).toList.dropWhile Text.isBlank = (dayFirstText d).toList := by
    rw [chars]
    exact Number.dropWhile_of_head fun c h => by
      cases h
      exact Number.not_isBlank_of_isDigit (isDigit_of_ascii da)
  -- the text ends in the last digit of the year
  have last : ∀ c, (dayFirstText d).toList.reverse.head? = some c → Text.isBlank c = false := by
    have split : (dayFirstText d).toList =
        ((padNat 2 d.day).toList ++ '/' :: ((padNat 2 d.month).toList ++ ['/'])) ++ Nat.toDigits 10 d.year := by
      simp [dayFirstText_toList]
    rw [split]
    refine Number.last_of_append Nat.toDigits_ne_nil fun c h => ?_
    have mem : c ∈ Nat.toDigits 10 d.year := List.mem_reverse.1 (List.mem_of_mem_head? h)
    exact Number.not_isBlank_of_isDigit (isDigit_of_ascii (toDigits_ascii d.year c mem))
  have back := @Number.trimEnd_append Text.isBlank (dayFirstText d).toList [] last (by simp)
  rw [List.append_nil] at back
  rw [Text.trimBlanks, front, back, String.ofList_toList]

theorem toDate_dayFirstText :
    toDate (.str (dayFirstText d)) = if 1000 ≤ d.year then .ok d else .error (.code .badValue) := by
  simp only [toDate, Value.first, looksNumeric_dayFirstText valid, Bool.false_eq_true, if_false,
    trimBlanks_dayFirstText valid, dateOfText?_dayFirstText valid]
  by_cases four : 1000 ≤ d.year
  · rw [if_pos four, if_pos four]
    rfl
  · rw [if_neg four, if_neg four]
    rfl

end Valid

theorem valid_of_dateOfText? {s : String} {d : Date} (read : dateOfText? s = some d) : d.valid := by
  unfold dateOfText? at read
  split at read
  next t iso =>
    cases read
    exact Iso.valid_of_readDateTime? iso
  next =>
    obtain ⟨p, -, pattern⟩ := List.exists_of_findSome?_eq_some read
    exact valid_of_readByPattern? pattern

theorem valid_of_dateOfSerial {n : Num} {d : Date} (read : dateOfSerial n = .ok d) : d.valid := by
  unfold dateOfSerial at read
  cases trunc : n.trunc with
  | error e => simp [trunc, liftArith, bind, Except.bind] at read
  | ok serial =>
    simp only [trunc, liftArith, bind, Except.bind] at read
    split at read
    next => cases read
    next =>
      split at read
      next found =>
        cases read
        exact (Date.addDays_eq_some_iff.1 found).1
      next => cases read

theorem valid_of_toDate_str {s : String} {d : Date} (read : toDate (.str s) = .ok d) : d.valid := by
  simp only [toDate, Value.first] at read
  split at read
  next => exact valid_of_dateOfSerial read
  next =>
    split at read
    next found =>
      cases read
      exact valid_of_dateOfText? found
    next => cases read

end Spreadsheet.Functions
