import Spreadsheet.Data.Json
import Spreadsheet.Proofs.NumberText

/-!
Scalars written as JSON read back.

How the writer quotes one character is one lemma (`quoteChar_cases`): a backslash and a letter, a
`\u` escape, a surrogate pair of escapes, or the character itself. The string reader takes each
back (`go_quoteChar`), so a quoted text reads as the text itself (`readValue_quote`). A number text
is a sign, an integer part, a fraction and an exponent (`IsNumberText`); it reads as a number that
ends where a character that cannot continue it starts (`readValue_numberText`). The texts of
integers and the shortest texts of finite doubles are number texts (`numberText_int`,
`numberText_shortText`).
-/

set_option autoImplicit false

namespace Spreadsheet.Json

def hexDigitsValue (cs : List Char) : Nat :=
  cs.foldl (fun acc c => acc * 16 + (hexValue? c).getD 0) 0

theorem hexValue?_digitChar : ∀ k < 16, hexValue? (Nat.digitChar k) = some k := by
  decide

theorem hexValue?_zero : hexValue? '0' = some 0 := rfl

theorem toDigits_hex (n : Nat) :
    (∀ c ∈ Nat.toDigits 16 n, (hexValue? c).isSome) ∧ hexDigitsValue (Nat.toDigits 16 n) = n := by
  induction n using Nat.strongRecOn with
  | _ n ih =>
    by_cases small : n < 16
    · rw [Nat.toDigits_of_lt_base small]
      refine ⟨fun c mem => ?_, ?_⟩
      · rw [List.mem_singleton.1 mem, hexValue?_digitChar n small]
        rfl
      · simp [hexDigitsValue, hexValue?_digitChar n small]
    · have low : n % 16 < 16 := Nat.mod_lt n (by decide)
      obtain ⟨valid, value⟩ := ih (n / 16) (by omega)
      rw [Nat.toDigits_of_base_le (by decide) (by omega)]
      refine ⟨fun c mem => ?_, ?_⟩
      · rcases List.mem_append.1 mem with high | last
        · exact valid c high
        · rw [List.mem_singleton.1 last, hexValue?_digitChar _ low]
          rfl
      · rw [hexDigitsValue, List.foldl_append, ← hexDigitsValue, value]
        simp only [List.foldl_cons, List.foldl_nil, hexValue?_digitChar _ low, Option.getD_some]
        omega

theorem hexDigitsValue_zeros (k : Nat) (cs : List Char) :
    hexDigitsValue (List.replicate k '0' ++ cs) = hexDigitsValue cs := by
  have zeros : ∀ k, (List.replicate k '0').foldl (fun acc c => acc * 16 + (hexValue? c).getD 0) 0 = 0 := by
    intro k
    induction k with
    | zero => rfl
    | succ k ih => rw [List.replicate_succ', List.foldl_append, ih]; rfl
  rw [hexDigitsValue, List.foldl_append, zeros]
  rfl

theorem hexPad_toList (width n : Nat) :
    (Text.hexPad width n).toList = List.replicate (width - (Nat.toDigits 16 n).length) '0' ++ Nat.toDigits 16 n := by
  simp [Text.hexPad, Number.zeroPad]

theorem hex4?_of_valid {cs : List Char} (four : cs.length = 4) (valid : ∀ c ∈ cs, (hexValue? c).isSome)
    (rest : List Char) : hex4? (cs ++ rest) = some (hexDigitsValue cs, rest) := by
  match cs, four with
  | [a, b, c, d], _ =>
    obtain ⟨va, ha⟩ := Option.isSome_iff_exists.1 (valid a (by simp))
    obtain ⟨vb, hb⟩ := Option.isSome_iff_exists.1 (valid b (by simp))
    obtain ⟨vc, hc⟩ := Option.isSome_iff_exists.1 (valid c (by simp))
    obtain ⟨vd, hd⟩ := Option.isSome_iff_exists.1 (valid d (by simp))
    simp [hex4?, hexDigitsValue, ha, hb, hc, hd]

theorem hex4?_hexPad {n : Nat} (small : n < 0x10000) (rest : List Char) :
    hex4? ((Text.hexPad 4 n).toList ++ rest) = some (n, rest) := by
  obtain ⟨valid, value⟩ := toDigits_hex n
  have fits : (Nat.toDigits 16 n).length ≤ 4 := (Nat.length_toDigits_le_iff (by decide) (by decide)).2 small
  have four : (Text.hexPad 4 n).toList.length = 4 := by
    rw [hexPad_toList, List.length_append, List.length_replicate]
    omega
  have digits : ∀ c ∈ (Text.hexPad 4 n).toList, (hexValue? c).isSome := by
    intro c mem
    rw [hexPad_toList] at mem
    rcases List.mem_append.1 mem with zero | digit
    · rw [List.eq_of_mem_replicate zero, hexValue?_zero]
      rfl
    · exact valid c digit
  rw [hex4?_of_valid four digits, hexPad_toList, hexDigitsValue_zeros, value]

theorem length_hexPad_four {n : Nat} (small : n < 0x10000) : (Text.hexPad 4 n).toList.length = 4 := by
  have fits : (Nat.toDigits 16 n).length ≤ 4 := (Nat.length_toDigits_le_iff (by decide) (by decide)).2 small
  rw [hexPad_toList, List.length_append, List.length_replicate]
  omega

theorem uEscape_toList (n : Nat) : (uEscape n).toList = '\\' :: 'u' :: (Text.hexPad 4 n).toList := by
  simp [uEscape]

theorem readUnicodeEscape_single {n : Nat} (small : n < 0x10000) (notSurrogate : n < 0xD800 ∨ 0xE000 ≤ n)
    {rest : List Char} (more : rest ≠ []) (atU : List Char) :
    readUnicodeEscape atU ((Text.hexPad 4 n).toList ++ rest) = .ok (Char.ofNat n, rest) := by
  have long : ¬((Text.hexPad 4 n).toList ++ rest).length ≤ 4 := by
    have := List.length_pos_iff.2 more
    rw [List.length_append, length_hexPad_four small]
    omega
  rw [readUnicodeEscape, if_neg long, hex4?_hexPad small]
  simp only
  rw [if_neg (by simp; omega), if_neg (by simp; omega)]

theorem readUnicodeEscape_pair {hi lo : Nat} (high : 0xD800 ≤ hi ∧ hi < 0xDC00)
    (low : 0xDC00 ≤ lo ∧ lo < 0xE000)
    {rest : List Char} (more : rest ≠ []) (atU : List Char) :
    readUnicodeEscape atU ((Text.hexPad 4 hi).toList ++ ('\\' :: 'u' :: ((Text.hexPad 4 lo).toList ++ rest))) =
      .ok (Char.ofNat (0x10000 + (hi - 0xD800) * 0x400 + (lo - 0xDC00)), rest) := by
  have after : ('\\' :: 'u' :: ((Text.hexPad 4 lo).toList ++ rest)).length > 6 := by
    have := List.length_pos_iff.2 more
    simp only [List.length_cons, List.length_append, length_hexPad_four (by omega : lo < 0x10000)]
    omega
  have long : ¬((Text.hexPad 4 hi).toList ++ ('\\' :: 'u' :: ((Text.hexPad 4 lo).toList ++ rest))).length ≤ 4 := by
    simp only [List.length_append, List.length_cons, length_hexPad_four (by omega : hi < 0x10000)]
    omega
  rw [readUnicodeEscape, if_neg long, hex4?_hexPad (by omega)]
  simp only
  rw [if_pos (by simp only [after, decide_true, Bool.and_true, Bool.and_eq_true, decide_eq_true_eq]; omega)]
  simp only [hex4?_hexPad (by omega : lo < 0x10000)]
  rw [if_pos (by simp; omega)]

def quoteChar (asciiOnly : Bool) (c : Char) : String :=
  if c == '"' then "\\\""
  else if c == '\\' then "\\\\"
  else if c == '\n' then "\\n"
  else if c == '\r' then "\\r"
  else if c == '\t' then "\\t"
  else if c == '\x08' then "\\b"
  else if c == '\x0c' then "\\f"
  else if c.toNat < 0x20 then uEscape c.toNat
  else if asciiOnly && c.toNat > 0x7e then
    if c.toNat < 0x10000 then uEscape c.toNat
    else
      let n := c.toNat - 0x10000
      uEscape (0xD800 + n / 0x400) ++ uEscape (0xDC00 + n % 0x400)
  else String.singleton c

theorem quote_eq (asciiOnly : Bool) (s : String) :
    quote asciiOnly s = "\"" ++ String.join (s.toList.map (quoteChar asciiOnly)) ++ "\"" := rfl

def quotedBody (asciiOnly : Bool) (s : List Char) : List Char :=
  s.flatMap fun c => (quoteChar asciiOnly c).toList

theorem toNat_valid (c : Char) : c.toNat < 0xD800 ∨ (0xDFFF < c.toNat ∧ c.toNat < 0x110000) := by
  rcases c.valid with low | ⟨above, below⟩
  · exact .inl low
  · exact .inr ⟨above, below⟩

theorem go_quote (start rest acc : List Char) (fuel : Nat) :
    readString.go start ('"' :: rest) acc (fuel + 1) = .ok (acc.reverse, rest) := by
  rw [readString.go]

theorem go_plain (start : List Char) {c : Char} (notQuote : c ≠ '"') (notBackslash : c ≠ '\\')
    (printable : ¬c.toNat < 0x20) (rest acc : List Char) (fuel : Nat) :
    readString.go start (c :: rest) acc (fuel + 1) = readString.go start rest (c :: acc) fuel := by
  rw [readString.go]
  all_goals first
    | (rw [if_neg printable])
    | exact notQuote
    | exact notBackslash

theorem go_uEscape (start : List Char) {c : Char} (small : c.toNat < 0x10000) {rest : List Char} (more : rest ≠ [])
    (acc : List Char) (fuel : Nat) :
    readString.go start ((uEscape c.toNat).toList ++ rest) acc (fuel + 1) =
      readString.go start rest (c :: acc) fuel := by
  have notSurrogate : c.toNat < 0xD800 ∨ 0xE000 ≤ c.toNat := by
    rcases toNat_valid c with low | ⟨high, -⟩
    · exact .inl low
    · exact .inr (by omega)
  rw [uEscape_toList, List.cons_append, List.cons_append, readString.go]
  rw [readUnicodeEscape_single small notSurrogate more, Char.ofNat_toNat]

theorem go_pair (start : List Char) {c : Char} (large : ¬c.toNat < 0x10000) {rest : List Char} (more : rest ≠ [])
    (acc : List Char) (fuel : Nat) :
    readString.go start ((uEscape (0xD800 + (c.toNat - 0x10000) / 0x400) ++
        uEscape (0xDC00 + (c.toNat - 0x10000) % 0x400)).toList ++ rest) acc (fuel + 1) =
      readString.go start rest (c :: acc) fuel := by
  have below : c.toNat < 0x110000 := by
    rcases toNat_valid c with low | ⟨-, high⟩ <;> omega
  have decoded : Char.ofNat (0x10000 + (0xD800 + (c.toNat - 0x10000) / 0x400 - 0xD800) * 0x400 +
      (0xDC00 + (c.toNat - 0x10000) % 0x400 - 0xDC00)) = c := by
    have same : 0x10000 + (0xD800 + (c.toNat - 0x10000) / 0x400 - 0xD800) * 0x400 +
        (0xDC00 + (c.toNat - 0x10000) % 0x400 - 0xDC00) = c.toNat := by
      omega
    rw [same, Char.ofNat_toNat]
  -- rewriting, not `simp`: the kernel would otherwise unfold the padded hexadecimal digits
  rw [String.toList_append, uEscape_toList, uEscape_toList, List.append_assoc, List.cons_append, List.cons_append,
    List.cons_append, List.cons_append, readString.go]
  rw [readUnicodeEscape_pair (by omega) (by omega) more, decoded]

theorem quote_toList (asciiOnly : Bool) (s : String) :
    (quote asciiOnly s).toList = '"' :: (quotedBody asciiOnly s.toList ++ ['"']) := by
  simp [quote_eq, quotedBody, String.toList_join, List.flatMap, Function.comp_def]

def shortEscapes : List (Char × Char) :=
  [('"', '"'), ('\\', '\\'), ('\n', 'n'), ('\r', 'r'), ('\t', 't'), ('\x08', 'b'), ('\x0c', 'f')]

theorem quoteChar_cases (asciiOnly : Bool) (c : Char) :
    (∃ e, (c, e) ∈ shortEscapes ∧ quoteChar asciiOnly c = String.ofList ['\\', e]) ∨
    (c.toNat < 0x10000 ∧ (c.toNat < 0x20 ∨ asciiOnly = true) ∧ quoteChar asciiOnly c = uEscape c.toNat) ∨
    (¬c.toNat < 0x10000 ∧ asciiOnly = true ∧ quoteChar asciiOnly c =
      uEscape (0xD800 + (c.toNat - 0x10000) / 0x400) ++ uEscape (0xDC00 + (c.toNat - 0x10000) % 0x400)) ∨
    (c ≠ '"' ∧ c ≠ '\\' ∧ ¬c.toNat < 0x20 ∧ (asciiOnly = true → c.toNat ≤ 0x7e) ∧
      quoteChar asciiOnly c = String.singleton c) := by
  -- one condition of the writer at a time, in its order; `split_ifs` would be much slower here
  unfold quoteChar
  by_cases quoteMark : (c == '"') = true
  · rw [if_pos quoteMark, beq_iff_eq.1 quoteMark]
    exact .inl ⟨'"', by simp [shortEscapes], rfl⟩
  rw [if_neg quoteMark]
  by_cases backslash : (c == '\\') = true
  · rw [if_pos backslash, beq_iff_eq.1 backslash]
    exact .inl ⟨'\\', by simp [shortEscapes], rfl⟩
  rw [if_neg backslash]
  by_cases lineFeed : (c == '\n') = true
  · rw [if_pos lineFeed, beq_iff_eq.1 lineFeed]
    exact .inl ⟨'n', by simp [shortEscapes], rfl⟩
  rw [if_neg lineFeed]
  by_cases carriage : (c == '\r') = true
  · rw [if_pos carriage, beq_iff_eq.1 carriage]
    exact .inl ⟨'r', by simp [shortEscapes], rfl⟩
  rw [if_neg carriage]
  by_cases tab : (c == '\t') = true
  · rw [if_pos tab, beq_iff_eq.1 tab]
    exact .inl ⟨'t', by simp [shortEscapes], rfl⟩
  rw [if_neg tab]
  by_cases backspace : (c == '\x08') = true
  · rw [if_pos backspace, beq_iff_eq.1 backspace]
    exact .inl ⟨'b', by simp [shortEscapes], rfl⟩
  rw [if_neg backspace]
  by_cases formFeed : (c == '\x0c') = true
  · rw [if_pos formFeed, beq_iff_eq.1 formFeed]
    exact .inl ⟨'f', by simp [shortEscapes], rfl⟩
  rw [if_neg formFeed]
  by_cases control : c.toNat < 0x20
  · rw [if_pos control]
    exact .inr (.inl ⟨by omega, .inl control, rfl⟩)
  rw [if_neg control]
  by_cases wide : (asciiOnly && decide (c.toNat > 0x7e)) = true
  · rw [if_pos wide]
    have ascii : asciiOnly = true := (Bool.and_eq_true_iff.1 wide).1
    by_cases small : c.toNat < 0x10000
    · rw [if_pos small]
      exact .inr (.inl ⟨small, .inr ascii, rfl⟩)
    · rw [if_neg small]
      exact .inr (.inr (.inl ⟨small, ascii, rfl⟩))
  · rw [if_neg wide]
    refine .inr (.inr (.inr ⟨fun same => quoteMark (beq_iff_eq.2 same),
      fun same => backslash (beq_iff_eq.2 same), control, fun ascii => ?_, rfl⟩))
    simp only [ascii, Bool.true_and, decide_eq_true_eq] at wide
    omega

theorem go_quoteChar (start : List Char) (asciiOnly : Bool) (c : Char) {rest : List Char} (more : rest ≠ [])
    (acc : List Char) (fuel : Nat) :
    readString.go start ((quoteChar asciiOnly c).toList ++ rest) acc (fuel + 1) =
      readString.go start rest (c :: acc) fuel := by
  rcases quoteChar_cases asciiOnly c with ⟨e, escape, text⟩ | ⟨small, -, text⟩ | ⟨large, -, text⟩ |
    ⟨notQuote, notBackslash, control, -, text⟩
  · -- each short escape reads back by computation
    rw [text]
    simp only [shortEscapes, List.mem_cons, Prod.mk.injEq, List.not_mem_nil, or_false] at escape
    rcases escape with ⟨rfl, rfl⟩ | ⟨rfl, rfl⟩ | ⟨rfl, rfl⟩ | ⟨rfl, rfl⟩ | ⟨rfl, rfl⟩ | ⟨rfl, rfl⟩ |
      ⟨rfl, rfl⟩ <;> rfl
  · rw [text]
    exact go_uEscape start small more acc fuel
  · rw [text]
    exact go_pair start large more acc fuel
  · rw [text, String.toList_singleton, List.singleton_append]
    exact go_plain start notQuote notBackslash control rest acc fuel

theorem quoteChar_ne_nil (asciiOnly : Bool) (c : Char) : (quoteChar asciiOnly c).toList ≠ [] := by
  rcases quoteChar_cases asciiOnly c with ⟨e, -, text⟩ | ⟨-, -, text⟩ | ⟨-, -, text⟩ |
    ⟨-, -, -, -, text⟩
  · rw [text, String.toList_ofList]
    exact List.cons_ne_nil _ _
  · rw [text, uEscape_toList]
    exact List.cons_ne_nil _ _
  · rw [text, String.toList_append, uEscape_toList, List.cons_append]
    exact List.cons_ne_nil _ _
  · rw [text, String.toList_singleton]
    exact List.cons_ne_nil _ _

@[simp] theorem quotedBody_nil (asciiOnly : Bool) : quotedBody asciiOnly [] = [] := rfl

@[simp] theorem quotedBody_cons (asciiOnly : Bool) (c : Char) (s : List Char) :
    quotedBody asciiOnly (c :: s) = (quoteChar asciiOnly c).toList ++ quotedBody asciiOnly s :=
  List.flatMap_cons

theorem go_quotedBody (start : List Char) (asciiOnly : Bool) :
    ∀ (s acc rest : List Char) (fuel : Nat), (quotedBody asciiOnly s).length < fuel →
      readString.go start (quotedBody asciiOnly s ++ '"' :: rest) acc fuel = .ok (acc.reverse ++ s, rest)
  | [], acc, rest, fuel + 1, _ => by
    rw [quotedBody_nil, List.nil_append, go_quote, List.append_nil]
  | c :: s, acc, rest, fuel + 1, enough => by
    have written := List.length_pos_iff.2 (quoteChar_ne_nil asciiOnly c)
    rw [quotedBody_cons] at enough
    rw [quotedBody_cons, List.append_assoc, go_quoteChar start asciiOnly c (by simp) acc fuel,
      go_quotedBody start asciiOnly s (c :: acc) rest fuel (by rw [List.length_append] at enough; omega)]
    simp

theorem readString_quotedBody (asciiOnly : Bool) (s : String) (start rest : List Char) :
    readString start (quotedBody asciiOnly s.toList ++ '"' :: rest) = .ok (s, rest) := by
  unfold readString
  rw [go_quotedBody start asciiOnly s.toList [] rest _ (by simp only [List.length_append, List.length_cons]; omega)]
  simp

theorem readValue_quote (asciiOnly : Bool) (s : String) (rest : List Char) (fuel : Nat) :
    readValue (fuel + 1) ((quote asciiOnly s).toList ++ rest) = .ok (.str s, rest) := by
  rw [quote_toList, List.cons_append, List.append_assoc, List.singleton_append, readValue]
  simp only [readString_quotedBody]

/-! Numbers. The number reader in four steps: the sign, the integer part, the fraction and the
exponent (`readNumber_eq`). -/

def Delimited (rest : List Char) : Prop := ∀ c ∈ rest.head?, c = ',' ∨ c = ']' ∨ c = '\x7d'

def EndsNumber (rest : List Char) : Prop :=
  ∀ c ∈ rest.head?, c.isDigit = false ∧ c ≠ '.' ∧ c ≠ 'e' ∧ c ≠ 'E'

theorem Delimited.endsNumber {rest : List Char} (delimited : Delimited rest) : EndsNumber rest := by
  intro c first
  rcases delimited c first with rfl | rfl | rfl <;> decide

def splitSign (cs : List Char) : Bool × List Char :=
  match cs with
  | '-' :: r => (true, r)
  | r => (false, r)

def intDigits (cs : List Char) : List Char :=
  match cs with
  | '0' :: _ => ['0']
  | _ => cs.takeWhile Char.isDigit

def splitFraction (rest : List Char) : List Char × List Char :=
  match rest with
  | '.' :: r =>
    let ds := r.takeWhile Char.isDigit
    if ds.isEmpty then ([], rest) else (ds, r.drop ds.length)
  | _ => ([], rest)

def splitExponent (rest : List Char) : Int × Bool × List Char :=
  match rest with
  | e :: r =>
    if e == 'e' || e == 'E' then
      let (eneg, r2) := match r with
        | '-' :: r' => (true, r')
        | '+' :: r' => (false, r')
        | r' => (false, r')
      let ds := r2.takeWhile Char.isDigit
      if ds.isEmpty then (0, false, rest)
      else
        let v : Int := Number.Literal.digitsValue ds
        (if eneg then -v else v, true, r2.drop ds.length)
    else (0, false, rest)
  | [] => (0, false, rest)

theorem readNumber_eq (cs : List Char) : readNumber cs =
    (let (neg, cs1) := splitSign cs
     let intDs := intDigits cs1
     if intDs.isEmpty then none
     else
       let (fracDs, rest) := splitFraction (cs1.drop intDs.length)
       let (expV, hasExp, rest) := splitExponent rest
       let mant := Number.Literal.digitsValue (intDs ++ fracDs)
       if !fracDs.isEmpty || hasExp then
         some (.float (Number.Float.ofDecimal neg mant (expV - fracDs.length)), rest)
       else some (.int (if neg then -(mant : Int) else mant), rest)) := rfl

theorem readNumber_of_parts {cs : List Char} {neg : Bool} {cs1 intDs fracDs rest1 rest : List Char} {e : Int}
    {hasExp : Bool} (sign : splitSign cs = (neg, cs1)) (ints : intDigits cs1 = intDs) (ne : intDs ≠ [])
    (frac : splitFraction (cs1.drop intDs.length) = (fracDs, rest1)) (exp : splitExponent rest1 = (e, hasExp, rest)) :
    ∃ v, readNumber cs = some (v, rest) := by
  rw [readNumber_eq, sign]
  simp only [ints, frac, exp, List.isEmpty_iff, ne, if_false]
  split <;> exact ⟨_, rfl⟩

theorem splitSign_of_ne {c : Char} (other : c ≠ '-') (r : List Char) : splitSign (c :: r) = (false, c :: r) := by
  unfold splitSign
  split
  · next same => cases same; exact absurd rfl other
  · rfl

theorem takeWhile_digits_append {ds after : List Char} (digits : ∀ c ∈ ds, c.isDigit = true)
    (stop : ∀ c ∈ after.head?, c.isDigit = false) : (ds ++ after).takeWhile Char.isDigit = ds := by
  rw [Number.takeWhile_append_stop stop, List.takeWhile_eq_self_iff.2 digits]

theorem intDigits_of_ne {d : Char} {ds after : List Char} (nonzero : d ≠ '0')
    (digits : ∀ c ∈ d :: ds, c.isDigit = true)
    (stop : ∀ c ∈ after.head?, c.isDigit = false) : intDigits (d :: ds ++ after) = d :: ds := by
  unfold intDigits
  split
  · next same => cases same; exact absurd rfl nonzero
  · exact takeWhile_digits_append digits stop

theorem splitFraction_point {fs after : List Char} (ne : fs ≠ []) (digits : ∀ c ∈ fs, c.isDigit = true)
    (stop : ∀ c ∈ after.head?, c.isDigit = false) : splitFraction ('.' :: (fs ++ after)) = (fs, after) := by
  simp only [splitFraction, takeWhile_digits_append digits stop, List.isEmpty_iff, ne, if_false,
    List.drop_left]

theorem splitFraction_none {rest : List Char} (noPoint : ∀ c ∈ rest.head?, c ≠ '.') :
    splitFraction rest = ([], rest) := by
  unfold splitFraction
  split
  · next r => exact absurd rfl (noPoint '.' rfl)
  · rfl

theorem splitExponent_none {rest : List Char} (noMark : ∀ c ∈ rest.head?, c ≠ 'e' ∧ c ≠ 'E') :
    splitExponent rest = (0, false, rest) := by
  unfold splitExponent
  split
  · next e r =>
    have marks := noMark e rfl
    rw [if_neg (by simp [marks.1, marks.2])]
  · rfl

theorem splitExponent_digits {e : Char} {sign ds rest : List Char} (mark : e = 'e' ∨ e = 'E')
    (signs : sign = [] ∨ sign = ['+'] ∨ sign = ['-']) (ne : ds ≠ []) (digits : ∀ c ∈ ds, c.isDigit = true)
    (stop : ∀ c ∈ rest.head?, c.isDigit = false) :
    ∃ v, splitExponent (e :: (sign ++ ds ++ rest)) = (v, true, rest) := by
  have marked : (e == 'e' || e == 'E') = true := by rcases mark with rfl | rfl <;> rfl
  obtain ⟨d, ds', rfl⟩ := List.exists_cons_of_ne_nil ne
  have first : d.isDigit = true := digits d List.mem_cons_self
  have notSign : d ≠ '-' ∧ d ≠ '+' := by
    constructor <;> (rintro rfl; revert first; decide)
  rcases signs with rfl | rfl | rfl
  all_goals
    simp only [splitExponent, marked, if_true, List.nil_append, List.cons_append]
  · -- no sign
    have unsigned : (match d :: (ds' ++ rest) with
        | '-' :: r' => (true, r')
        | '+' :: r' => (false, r')
        | r' => (false, r')) = (false, d :: (ds' ++ rest)) := by
      split
      · next same => cases same; exact absurd rfl notSign.1
      · next same => cases same; exact absurd rfl notSign.2
      · rfl
    rw [unsigned, ← List.cons_append, takeWhile_digits_append digits stop]
    simp
  · rw [← List.cons_append, takeWhile_digits_append digits stop]
    simp
  · rw [← List.cons_append, takeWhile_digits_append digits stop]
    simp

def IntPart (ds : List Char) : Prop :=
  ds = ['0'] ∨ ∃ d rest, ds = d :: rest ∧ d ≠ '0' ∧ ∀ c ∈ ds, c.isDigit = true

def FractionPart (fr : List Char) : Prop :=
  fr = [] ∨ ∃ fs, fr = '.' :: fs ∧ fs ≠ [] ∧ ∀ c ∈ fs, c.isDigit = true

def ExponentPart (ex : List Char) : Prop :=
  ex = [] ∨ ∃ e sign ds, ex = e :: (sign ++ ds) ∧ (e = 'e' ∨ e = 'E') ∧
    (sign = [] ∨ sign = ['+'] ∨ sign = ['-']) ∧ ds ≠ [] ∧ ∀ c ∈ ds, c.isDigit = true

def UnsignedNumber (cs : List Char) : Prop :=
  ∃ ds fr ex, cs = ds ++ fr ++ ex ∧ IntPart ds ∧ FractionPart fr ∧ ExponentPart ex

def IsNumberText (cs : List Char) : Prop :=
  ∃ (neg : Bool) (body : List Char), cs = (if neg then ['-'] else []) ++ body ∧ UnsignedNumber body

theorem IntPart.head {ds : List Char} (intPart : IntPart ds) : ∃ d rest, ds = d :: rest ∧ d.isDigit = true := by
  rcases intPart with rfl | ⟨d, rest, rfl, -, digits⟩
  · exact ⟨'0', [], rfl, rfl⟩
  · exact ⟨d, rest, rfl, digits d List.mem_cons_self⟩

theorem readNumber_numberText {cs rest : List Char} (number : IsNumberText cs) (stop : EndsNumber rest) :
    ∃ v, readNumber (cs ++ rest) = some (v, rest) := by
  obtain ⟨neg, _, rfl, ds, fr, ex, rfl, intPart, frac, exp⟩ := number
  obtain ⟨d, ds', rfl, first⟩ := intPart.head
  -- what follows the fraction starts with an exponent mark or ends the number
  have afterFraction : ∀ c ∈ (ex ++ rest).head?, c.isDigit = false ∧ c ≠ '.' := by
    rcases exp with rfl | ⟨e, sign, es, rfl, mark, -⟩
    · exact fun c first => ⟨(stop c first).1, (stop c first).2.1⟩
    · intro c first
      cases first
      rcases mark with rfl | rfl <;> decide
  have afterInt : ∀ c ∈ (fr ++ (ex ++ rest)).head?, c.isDigit = false := by
    rcases frac with rfl | ⟨fs, rfl, -⟩
    · exact fun c first => (afterFraction c first).1
    · intro c first
      cases first
      rfl
  have sign : splitSign ((if neg then ['-'] else []) ++ (d :: ds' ++ fr ++ ex) ++ rest) =
      (neg, d :: ds' ++ (fr ++ (ex ++ rest))) := by
    cases neg with
    | true => simp only [if_true, List.append_assoc]; rfl
    | false =>
      have notMinus : d ≠ '-' := by rintro rfl; revert first; decide
      simp only [Bool.false_eq_true, if_false, List.nil_append, List.append_assoc, List.cons_append]
      exact splitSign_of_ne notMinus _
  have ints : intDigits (d :: ds' ++ (fr ++ (ex ++ rest))) = d :: ds' := by
    rcases intPart with same | ⟨d₀, r₀, same, nonzero, digits⟩
    · cases same
      rfl
    · cases same
      exact intDigits_of_ne nonzero digits afterInt
  have dropped : (d :: ds' ++ (fr ++ (ex ++ rest))).drop (d :: ds').length = fr ++ (ex ++ rest) :=
    List.drop_left
  obtain ⟨fracDs, fraction⟩ : ∃ fracDs, splitFraction (fr ++ (ex ++ rest)) = (fracDs, ex ++ rest) := by
    rcases frac with rfl | ⟨fs, rfl, ne, digits⟩
    · exact ⟨[], splitFraction_none fun c first => (afterFraction c first).2⟩
    · exact ⟨fs, splitFraction_point ne digits fun c first => (afterFraction c first).1⟩
  obtain ⟨e, hasExp, exponent⟩ : ∃ e hasExp, splitExponent (ex ++ rest) = (e, hasExp, rest) := by
    rcases exp with rfl | ⟨e, sign, es, rfl, mark, signs, ne, digits⟩
    · exact ⟨0, false, splitExponent_none fun c first => (stop c first).2.2⟩
    · obtain ⟨v, split⟩ := splitExponent_digits mark signs ne digits fun c first => (stop c first).1
      exact ⟨v, true, split⟩
  exact readNumber_of_parts sign ints (List.cons_ne_nil _ _) (by rw [dropped]; exact fraction) exponent

theorem readValue_of_readNumber {c : Char} (digit : c.isDigit = true) {rest : List Char} {fuel : Nat}
    {r : Value × List Char} (number : readNumber (c :: rest) = some r) :
    readValue (fuel + 1) (c :: rest) = .ok r := by
  -- every other case of the reader starts with a character that is no digit
  rw [readValue]
  all_goals first
    | (rw [number])
    | (intro r same; cases same; revert digit; decide)

theorem readValue_of_readNumber_neg {d : Char} (digit : d.isDigit = true) {rest : List Char} {fuel : Nat}
    {r : Value × List Char} (number : readNumber ('-' :: d :: rest) = some r) :
    readValue (fuel + 1) ('-' :: d :: rest) = .ok r := by
  rw [readValue]
  all_goals first
    | (rw [number])
    | (intro r same; cases same; revert digit; decide)
    | (intro r same; cases same)

theorem readValue_numberText {cs rest : List Char} (number : IsNumberText cs) (stop : EndsNumber rest)
    (fuel : Nat) : ∃ v, readValue (fuel + 1) (cs ++ rest) = .ok (v, rest) := by
  obtain ⟨v, read⟩ := readNumber_numberText number stop
  refine ⟨v, ?_⟩
  obtain ⟨neg, _, rfl, ds, fr, ex, rfl, intPart, -, -⟩ := number
  obtain ⟨d, ds', rfl, first⟩ := intPart.head
  cases neg with
  | false =>
    simp only [Bool.false_eq_true, if_false, List.nil_append, List.cons_append, List.append_assoc] at read ⊢
    exact readValue_of_readNumber first read
  | true =>
    simp only [if_true, List.cons_append, List.nil_append, List.append_assoc] at read ⊢
    exact readValue_of_readNumber_neg first read

theorem toDigits_isDigit (n : Nat) : ∀ c ∈ Nat.toDigits 10 n, c.isDigit = true :=
  fun _ mem => Nat.isDigit_of_mem_toDigits (by decide) (by decide) mem

theorem toDigits_lead {n : Nat} (pos : 0 < n) : ∃ d rest, Nat.toDigits 10 n = d :: rest ∧ d ≠ '0' := by
  induction n using Nat.strongRecOn with
  | ind n ih =>
    rw [Nat.toDigits_eq_if (by decide)]
    split
    · exact ⟨_, [], rfl, by rw [ne_eq, Nat.digitChar_eq_zero]; omega⟩
    · obtain ⟨d, rest, digits, lead⟩ := ih (n / 10) (by omega) (by omega)
      exact ⟨d, rest ++ [Nat.digitChar (n % 10)], by rw [digits]; rfl, lead⟩

theorem intPart_cons {d : Char} {rest : List Char} (digits : ∀ c ∈ d :: rest, c.isDigit = true)
    (lead : d ≠ '0' ∨ rest = []) : IntPart (d :: rest) := by
  rcases lead with nonzero | rfl
  · exact .inr ⟨d, rest, rfl, nonzero, digits⟩
  · by_cases zero : d = '0'
    · exact .inl (by rw [zero])
    · exact .inr ⟨d, [], rfl, zero, digits⟩

theorem intPart_toDigits (n : Nat) : IntPart (Nat.toDigits 10 n) := by
  rcases Nat.eq_zero_or_pos n with rfl | pos
  · exact .inl (Nat.toDigits_zero 10)
  · obtain ⟨d, rest, digits, lead⟩ := toDigits_lead pos
    rw [digits]
    exact intPart_cons (digits ▸ toDigits_isDigit n) (.inl lead)

theorem numberText_int (i : Int) : IsNumberText (toString i).toList := by
  have signed := Number.toString_signed (decide (i < 0)) i.natAbs
  have same : (if decide (i < 0) then -(i.natAbs : Int) else i.natAbs) = i := by
    by_cases neg : i < 0
    · rw [if_pos (decide_eq_true neg)]
      omega
    · rw [if_neg (by simpa using neg)]
      omega
  rw [same] at signed
  exact ⟨_, _, signed, Nat.toDigits 10 i.natAbs, [], [], by simp, intPart_toDigits _, .inl rfl, .inl rfl⟩

theorem zeroPad_natText (width k : Nat) :
    (Number.zeroPad width (Number.natText k)).toList =
      List.replicate (width - (Nat.toDigits 10 k).length) '0' ++ Nat.toDigits 10 k := by
  simp [Number.zeroPad, Number.natText]

theorem zeros_isDigit (k : Nat) : ∀ c ∈ List.replicate k '0', c.isDigit = true := by
  intro c mem
  rw [List.eq_of_mem_replicate mem]
  rfl

theorem unsignedNumber_layoutShort {d : Char} {rest : List Char} (digits : ∀ c ∈ d :: rest, c.isDigit = true)
    (lead : d ≠ '0') (point : Int) :
    UnsignedNumber (Number.layoutShort (String.ofList (d :: rest)) point).toList := by
  have zero : ∀ c ∈ ['0'], c.isDigit = true := by simp
  unfold Number.layoutShort
  simp only [String.length_ofList, String.toList_ofList]
  by_cases scientific : (decide (point ≤ -4) || decide (point > 16)) = true
  · -- one digit, maybe a point and the other digits, then the exponent
    rw [if_pos scientific]
    have first := digits d List.mem_cons_self
    generalize point - 1 = x
    have sign : (if x < 0 then "-" else "+").toList = [if x < 0 then '-' else '+'] := by
      split <;> rfl
    have exponent : ExponentPart ('e' :: ([if x < 0 then '-' else '+'] ++
        (Number.zeroPad 2 (Number.natText x.natAbs)).toList)) := by
      refine .inr ⟨'e', _, _, rfl, .inl rfl, by split <;> simp, ?_, ?_⟩
      · simp [zeroPad_natText]
      · rw [zeroPad_natText]
        exact List.forall_mem_append.2 ⟨zeros_isDigit _, toDigits_isDigit _⟩
    cases rest with
    | nil => exact ⟨[d], [], _, by simp [sign], intPart_cons digits (.inr rfl), .inl rfl, exponent⟩
    | cons r rest =>
      refine ⟨[d], '.' :: r :: rest, _, by simp [sign], intPart_cons (by simpa using first) (.inr rfl),
        .inr ⟨r :: rest, rfl, by simp, fun c mem => digits c (List.mem_cons_of_mem _ mem)⟩, exponent⟩
  rw [if_neg scientific]
  by_cases nonpositive : point ≤ 0
  · -- `0.`, zeros, then the digits
    rw [if_pos nonpositive]
    exact ⟨['0'], '.' :: (List.replicate (-point).toNat '0' ++ d :: rest), [], by simp, .inl rfl,
      .inr ⟨_, rfl, by simp, List.forall_mem_append.2 ⟨zeros_isDigit _, digits⟩⟩, .inl rfl⟩
  rw [if_neg nonpositive]
  by_cases wide : point ≥ ((d :: rest).length : Int)
  · -- the digits, zeros, then `.0`
    rw [if_pos wide]
    refine ⟨d :: (rest ++ List.replicate (point - (d :: rest).length).toNat '0'), ['.', '0'], [], by simp,
      intPart_cons ?_ (.inl lead), .inr ⟨['0'], rfl, by simp, zero⟩, .inl rfl⟩
    rw [← List.cons_append]
    exact List.forall_mem_append.2 ⟨digits, zeros_isDigit _⟩
  · -- a point inside the digits
    rw [if_neg wide]
    obtain ⟨k, split⟩ : ∃ k, point.toNat = k + 1 := ⟨point.toNat - 1, by omega⟩
    have inside : k < rest.length := by simp only [List.length_cons] at wide; omega
    refine ⟨d :: rest.take k, '.' :: rest.drop k, [], by simp [split], intPart_cons ?_ (.inl lead),
      .inr ⟨_, rfl, by simp; omega, fun c mem => digits c (List.mem_cons_of_mem _ (List.mem_of_mem_drop mem))⟩,
      .inl rfl⟩
    intro c mem
    rcases List.mem_cons.1 mem with rfl | later
    · exact digits c List.mem_cons_self
    · exact digits c (List.mem_cons_of_mem _ (List.mem_of_mem_take later))

theorem numberText_shortText {c : Float} {neg : Bool} {m : Nat} {e : Int}
    (parts : Number.Binary.ofFloat c = .finite neg m e) :
    IsNumberText (Number.Float.shortText c).toList := by
  rcases Number.shortText_chars parts with ⟨-, chars⟩ | ⟨pos, chars⟩
  · exact ⟨neg, _, chars, ['0'], ['.', '0'], [], rfl, .inl rfl, .inr ⟨['0'], rfl, by simp, by simp⟩, .inl rfl⟩
  · obtain ⟨d, rest, digits, lead⟩ :=
      toDigits_lead (Number.Binary.shortest_digits_pos (Number.Binary.ofFloat_canonical parts) pos)
    refine ⟨neg, _, chars, ?_⟩
    rw [Number.natText, digits]
    exact unsignedNumber_layoutShort (digits ▸ toDigits_isDigit _) lead _

end Spreadsheet.Json
