import Spreadsheet.Proofs.PrintedText

/-!
Where the lexemes of a body lie.

Scanning cuts a body into lexemes and runs of blanks. The lexemes, stray characters included,
stand in the body in order, each at its own position and spelling the characters there, and
between, before and after them only runs of blanks are left out (`Tiles`). No run left out
borders a blank: a lexeme starts with none, and one that a blank follows ends with none, so every
run is a whole run of blanks of the body. The end token stands where the last run starts: at the
end of the last lexeme, or at `0` when there is none.

The step facts are those of `lexemeAt`: a run of blanks is read whole (`lexemeAt_run`), and any
other lexeme starts with no blank, fits in the text and ends in no blank where a blank follows it
(`lexemeAt_lexeme`); the string literals are the one kind that may hold blanks up to their end.
-/

set_option autoImplicit false

namespace Spreadsheet.Formula

open Number

def ClosesBefore (chars after : List Char) : Prop :=
  ∀ d c, chars.getLast? = some d → after.head? = some c → Text.isBlank c = true → Text.isBlank d = false

def Lexeme.endAfter (pos : Nat) (ls : List Lexeme) : Nat := (ls.getLast?.map Lexeme.stop).getD pos

/-- How lexemes lie in a text: `Tiles pos cs ls stop` when the characters `cs`, the first at
position `pos`, are a run of blanks, then the first lexeme of `ls` standing right after it, then
the rest of the text tiled alike by the rest of `ls`, and after the last lexeme a run of blanks
that starts at `stop`. A lexeme starts with no blank and ends in none where a blank follows it. -/
inductive Tiles : Nat → List Char → List Lexeme → Nat → Prop
  | last {pos : Nat} {run : List Char} (blank : ∀ c ∈ run, Text.isBlank c) : Tiles pos run [] pos
  | next {pos stop : Nat} {run rest : List Char} {l : Lexeme} {ls : List Lexeme}
      (blank : ∀ c ∈ run, Text.isBlank c) (start : l.start = pos + run.length)
      (opens : ∃ c, l.chars.head? = some c ∧ Text.isBlank c = false)
      (closes : ClosesBefore l.chars rest) (tail : Tiles l.stop rest ls stop) :
      Tiles pos (run ++ l.chars ++ rest) (l :: ls) stop

/-- The token kinds that keep the characters they were scanned from: all but strings, truth
values and the end. -/
def TokenKind.keepsSpelling : TokenKind → Bool
  | .number | .ident | .op | .ampersand | .lparen | .rparen | .comma | .semicolon | .colon => true
  | .string | .bool | .eof => false

section Characters

theorem isBlank_of_isIdentChar {c : Char} (inner : isIdentChar c) : Text.isBlank c = false := by
  by_contra blank
  obtain ⟨n, listed, rfl⟩ := blank_code (Bool.not_eq_false _ ▸ blank)
  have : ∀ n ∈ Text.blankCodes, isIdentChar (Char.ofNat n) = false := by decide
  simp [this n listed] at inner

theorem take_length_takeWhile (p : Char → Bool) (l : List Char) :
    l.take (l.takeWhile p).length = l.takeWhile p := by
  have split := List.takeWhile_append_dropWhile (p := p) (l := l)
  calc l.take (l.takeWhile p).length = (l.takeWhile p ++ l.dropWhile p).take (l.takeWhile p).length := by
        rw [split]
    _ = l.takeWhile p := List.take_left

theorem closesBefore_of_solid {chars : List Char} (solid : ∀ d ∈ chars, Text.isBlank d = false)
    (after : List Char) : ClosesBefore chars after :=
  fun d _ last _ _ => solid d (List.mem_of_getLast? last)

theorem string_ends_cons (c : Char) {rest : List Char} {m : Nat}
    (ends : rest.drop m = [] ∨ rest.drop m = ['\\'] ∨ (rest.take m).getLast? = some '"') :
    (c :: rest).drop (m + 1) = [] ∨ (c :: rest).drop (m + 1) = ['\\'] ∨
      ((c :: rest).take (m + 1)).getLast? = some '"' := by
  rw [List.drop_succ_cons, List.take_succ_cons]
  rcases ends with ended | lone | quote
  · exact .inl ended
  · exact .inr (.inl lone)
  · refine .inr (.inr ?_)
    rw [List.getLast?_cons, quote]
    rfl

theorem stringBodyLength_ends (rest : List Char) :
    rest.drop (stringBodyLength rest) = [] ∨ rest.drop (stringBodyLength rest) = ['\\'] ∨
      (rest.take (stringBodyLength rest)).getLast? = some '"' := by
  fun_induction stringBodyLength rest with
  | case1 => exact .inl rfl
  | case2 => exact .inr (.inr rfl)
  | case3 => exact .inr (.inl rfl)
  | case4 c rest ih =>
    -- an escape and the character it escapes
    have width : 2 + stringBodyLength rest = stringBodyLength rest + 1 + 1 := by omega
    rw [width]
    exact string_ends_cons _ (string_ends_cons c ih)
  | case5 c rest _ _ _ ih =>
    have width : 1 + stringBodyLength rest = stringBodyLength rest + 1 := by omega
    rw [width]
    exact string_ends_cons c ih

theorem stringBodyLength_le (rest : List Char) : stringBodyLength rest ≤ rest.length := by
  fun_induction stringBodyLength rest <;> simp_all <;> omega

end Characters

section Step

variable {c : Char} {rest : List Char} {n : Nat}

theorem lexemeAt_fst_ne_none (rest : List Char) (solid : Text.isBlank c = false) :
    (lexemeAt c rest).1 ≠ none := by
  unfold lexemeAt
  rw [if_neg (by simp [solid])]
  repeat (apply fst_ite_ne; rintro ⟨⟩)
  -- the operators and the numbers end in a `match`
  apply fst_ite_ne
  · split <;> nofun
  · split <;> nofun

theorem lexemeAt_run (scanned : lexemeAt c rest = (none, n)) :
    Text.isBlank c ∧ n = (rest.takeWhile Text.isBlank).length := by
  by_cases blank : Text.isBlank c
  · unfold lexemeAt at scanned
    rw [if_pos blank] at scanned
    cases scanned
    exact ⟨blank, rfl⟩
  · exact absurd (congrArg Prod.fst scanned) (lexemeAt_fst_ne_none rest (by simpa using blank))

theorem string_closes (rest : List Char) :
    ClosesBefore (('"' :: rest).take (stringBodyLength rest + 1)) (('"' :: rest).drop (stringBodyLength rest + 1)) := by
  intro d b last head blank
  rw [List.take_succ_cons, List.getLast?_cons] at last
  rw [List.drop_succ_cons] at head
  rcases stringBodyLength_ends rest with ended | lone | quote
  · simp [ended] at head
  · simp only [lone, List.head?_cons, Option.some.injEq] at head
    subst head
    exact absurd blank (by decide)
  · simp only [quote, Option.getD_some, Option.some.injEq] at last
    subst last
    decide

theorem ident_closes (start : isIdentStart c) :
    ClosesBefore ((c :: rest).take ((rest.takeWhile isIdentChar).length + 1))
      ((c :: rest).drop ((rest.takeWhile isIdentChar).length + 1)) := by
  rw [List.take_succ_cons, take_length_takeWhile _ _]
  refine closesBefore_of_solid ?_ _
  intro d mem
  rcases List.mem_cons.1 mem with rfl | inner
  · exact isBlank_of_isIdentStart start
  · exact isBlank_of_isIdentChar (List.mem_takeWhile_imp inner)

theorem number_closes {l : Number.Literal} (scan : Literal.scan? (c :: rest) = some l) (long : 0 < l.length) :
    ClosesBefore ((c :: rest).take (l.length - 1 + 1)) ((c :: rest).drop (l.length - 1 + 1)) := by
  intro d b last head blank
  rw [Nat.sub_add_cancel long] at last head
  have ends : ∀ b', ((c :: rest).drop l.length).head? = some b' → endsLiteral b' := by
    intro b' head'
    rw [head] at head'
    cases head'
    exact endsLiteral_of_isBlank blank
  have own : Literal.scan? ((c :: rest).take l.length) = some l := by
    rw [← Literal.scan?_append_stop ends, List.take_append_drop, scan]
  have whole : l.length = ((c :: rest).take l.length).length := by
    rw [List.length_take, Nat.min_eq_left (Literal.scan?_length_le scan)]
  exact Literal.scan?_last_not_blank own whole d (by rw [List.head?_reverse, last])

theorem lexemeAt_lexeme {k : LexemeKind} (scanned : lexemeAt c rest = (some k, n)) :
    Text.isBlank c = false ∧ n ≤ rest.length ∧
      ClosesBefore ((c :: rest).take (n + 1)) ((c :: rest).drop (n + 1)) := by
  have solid : Text.isBlank c = false := by
    by_contra blank
    unfold lexemeAt at scanned
    rw [if_pos (by simpa using blank)] at scanned
    cases scanned
  refine ⟨solid, ?_⟩
  have single : n = 0 → n ≤ rest.length ∧ ClosesBefore ((c :: rest).take (n + 1)) ((c :: rest).drop (n + 1)) := by
    rintro rfl
    exact ⟨Nat.zero_le _, closesBefore_of_solid (by simp [solid]) _⟩
  unfold lexemeAt at scanned
  rw [if_neg (by simp [solid])] at scanned
  by_cases quote : (c == '"') = true
  · rw [if_pos quote] at scanned
    cases scanned
    rw [beq_iff_eq.1 quote]
    exact ⟨stringBodyLength_le rest, string_closes rest⟩
  rw [if_neg quote] at scanned
  by_cases start : isIdentStart c = true
  · rw [if_pos start] at scanned
    cases scanned
    exact ⟨(List.takeWhile_sublist _).length_le, ident_closes start⟩
  rw [if_neg start] at scanned
  -- the punctuation characters are lexemes of one character
  by_cases amp : (c == '&') = true
  · rw [if_pos amp] at scanned; cases scanned; exact single rfl
  rw [if_neg amp] at scanned
  by_cases lp : (c == '(') = true
  · rw [if_pos lp] at scanned; cases scanned; exact single rfl
  rw [if_neg lp] at scanned
  by_cases rp : (c == ')') = true
  · rw [if_pos rp] at scanned; cases scanned; exact single rfl
  rw [if_neg rp] at scanned
  by_cases comma : (c == ',') = true
  · rw [if_pos comma] at scanned; cases scanned; exact single rfl
  rw [if_neg comma] at scanned
  by_cases semi : (c == ';') = true
  · rw [if_pos semi] at scanned; cases scanned; exact single rfl
  rw [if_neg semi] at scanned
  by_cases colon : (c == ':') = true
  · rw [if_pos colon] at scanned; cases scanned; exact single rfl
  rw [if_neg colon] at scanned
  by_cases op : isOpChar c = true
  · rw [if_pos op] at scanned
    split at scanned
    -- `<=`, `<>` and `>=` are lexemes of two characters
    · cases scanned
      exact ⟨by simp, closesBefore_of_solid (by simp; decide) _⟩
    · cases scanned
      exact ⟨by simp, closesBefore_of_solid (by simp; decide) _⟩
    · cases scanned
      exact ⟨by simp, closesBefore_of_solid (by simp; decide) _⟩
    · cases scanned
      exact single rfl
  · rw [if_neg op] at scanned
    split at scanned
    next l scan =>
      cases scanned
      have within := Literal.scan?_length_le scan
      simp only [List.length_cons] at within
      refine ⟨by omega, ?_⟩
      by_cases long : 0 < l.length
      · exact number_closes scan long
      · exact (single (by omega)).2
    next => cases scanned; exact single rfl

end Step

section Tiling

variable {pos stop : Nat} {cs : List Char} {ls : List Lexeme}

@[simp] theorem Lexeme.endAfter_nil : Lexeme.endAfter pos [] = pos := rfl

theorem Lexeme.endAfter_cons (l : Lexeme) (ls : List Lexeme) :
    Lexeme.endAfter pos (l :: ls) = Lexeme.endAfter l.stop ls := by
  cases ls with
  | nil => rfl
  | cons l' ls => simp [Lexeme.endAfter, List.getLast?_cons]

theorem Tiles.stop_eq (tiles : Tiles pos cs ls stop) : stop = Lexeme.endAfter pos ls := by
  induction tiles with
  | last blank => rfl
  | next blank start opens closes tail ih => rw [ih, Lexeme.endAfter_cons]

theorem Tiles.after_blanks {run : List Char} (blank : ∀ c ∈ run, Text.isBlank c)
    (tiles : Tiles (pos + run.length) cs ls stop) : Tiles pos (run ++ cs) ls (Lexeme.endAfter pos ls) := by
  cases tiles with
  | last blank' => exact .last (List.forall_mem_append.2 ⟨blank, blank'⟩)
  | @next _ stop run' rest l ls blank' start opens closes tail =>
    have joined : run ++ (run' ++ l.chars ++ rest) = (run ++ run') ++ l.chars ++ rest := by
      simp only [List.append_assoc]
    rw [joined, Lexeme.endAfter_cons, ← tail.stop_eq]
    refine .next (List.forall_mem_append.2 ⟨blank, blank'⟩) ?_ opens closes tail
    rw [start, List.length_append, Nat.add_assoc]

theorem Tiles.starts_after (tiles : Tiles pos cs ls stop) : ∀ l ∈ ls, pos ≤ l.start := by
  induction tiles with
  | last blank => simp
  | next blank start opens closes tail ih =>
    intro l' mem
    rcases List.mem_cons.1 mem with rfl | later
    · omega
    · have := ih l' later
      simp only [Lexeme.stop] at this
      omega

theorem Tiles.ordered (tiles : Tiles pos cs ls stop) : ls.Pairwise fun a b => a.stop ≤ b.start := by
  induction tiles with
  | last blank => exact .nil
  | next blank start opens closes tail ih => exact .cons tail.starts_after ih

theorem Tiles.slice (tiles : Tiles pos cs ls stop) :
    ∀ l ∈ ls, (cs.drop (l.start - pos)).take (l.stop - l.start) = l.chars := by
  induction tiles with
  | last blank => simp
  | @next pos stop run rest l ls blank start opens closes tail ih =>
    intro l' mem
    rcases List.mem_cons.1 mem with rfl | later
    · have offset : l'.start - pos = run.length := by omega
      rw [offset, List.append_assoc, List.drop_left, Lexeme.stop, Nat.add_sub_cancel_left, List.take_left]
    · have after := tail.starts_after l' later
      have offset : l'.start - pos = (run ++ l.chars).length + (l'.start - l.stop) := by
        simp only [List.length_append, Lexeme.stop] at after ⊢
        omega
      rw [offset, ← List.drop_drop, List.drop_left, ih l' later]

end Tiling

theorem lexemesFrom_tiles (cs : List Char) (pos : Nat) :
    Tiles pos cs (lexemesFrom cs pos) (Lexeme.endAfter pos (lexemesFrom cs pos)) := by
  induction cs, pos using lexemesFrom.induct with
  | case1 pos =>
    rw [lexemesFrom.eq_1]
    exact .last (by simp)
  | case2 pos c rest n kind scanned ih =>
    obtain ⟨solid, within, closes⟩ := lexemeAt_lexeme scanned
    have stop : (⟨kind, (c :: rest).take (n + 1), pos⟩ : Lexeme).stop = pos + n + 1 := by
      simp only [Lexeme.stop, List.length_take, List.length_cons]
      omega
    have opens : ∃ c', ((c :: rest).take (n + 1)).head? = some c' ∧ Text.isBlank c' = false :=
      ⟨c, by simp, solid⟩
    have tiles := @Tiles.next pos _ [] _ _ _ (by simp) (by simp) opens closes (stop ▸ ih)
    rw [List.nil_append, List.take_append_drop, stop] at tiles
    rw [lexemesFrom.eq_2, scanned]
    dsimp only
    rwa [Lexeme.endAfter_cons, stop]
  | case3 pos c rest n scanned ih =>
    obtain ⟨blank, rfl⟩ := lexemeAt_run scanned
    have run : ∀ c' ∈ (c :: rest).take ((rest.takeWhile Text.isBlank).length + 1), Text.isBlank c' := by
      rw [List.take_succ_cons, take_length_takeWhile _ _]
      exact List.forall_mem_cons.2 ⟨blank, fun c' mem => List.mem_takeWhile_imp mem⟩
    have width : ((c :: rest).take ((rest.takeWhile Text.isBlank).length + 1)).length =
        (rest.takeWhile Text.isBlank).length + 1 := by
      simp [(List.takeWhile_sublist _).length_le]
    have tiles := Tiles.after_blanks run (by rwa [width, ← Nat.add_assoc])
    rw [List.take_append_drop] at tiles
    rw [lexemesFrom.eq_2, scanned]
    dsimp only
    exact tiles

theorem tokenize_getLast? (body : String) :
    (tokenize body).getLast? = some ⟨.eof, "", Lexeme.endAfter 0 (lexemes body)⟩ := by
  simp only [tokenize, List.getLast?_append, List.getLast?_singleton, Option.some_or, Lexeme.endAfter]
  cases (lexemes body).getLast? <;> rfl

theorem mem_tokenize {body : String} {t : Token} (mem : t ∈ tokenize body) :
    (∃ l ∈ lexemes body, l.toToken? = some t) ∨ t.kind = .eof := by
  simp only [tokenize, List.mem_append, List.mem_filterMap, List.mem_singleton] at mem
  rcases mem with scanned | rfl
  · exact .inl scanned
  · exact .inr rfl

theorem toToken?_spelling {l : Lexeme} {t : Token} (made : l.toToken? = some t) (keeps : t.kind.keepsSpelling) :
    t.start = l.start ∧ t.text = String.ofList l.chars := by
  obtain ⟨kind, chars, start⟩ := l
  cases kind <;> simp only [Lexeme.toToken?, Option.some.injEq, reduceCtorEq] at made
  case ident =>
    split at made <;> cases made
    · simp [TokenKind.keepsSpelling] at keeps
    · exact ⟨rfl, rfl⟩
  case string => cases made; simp [TokenKind.keepsSpelling] at keeps
  all_goals (cases made; exact ⟨rfl, rfl⟩)

/-- The raw lexemes of a body, stray characters included, tile it with runs of blanks between
them: they do not overlap, come in order, and each spells the body between its start and end; so
does every number, identifier, operator and punctuation token. The end token stands at the end of
the last lexeme, where the last run of blanks starts, or at `0` when there is no lexeme. -/
theorem lexemes_tile_body (body : String) :
    Tiles 0 body.toList (lexemes body) (Lexeme.endAfter 0 (lexemes body)) ∧
    (lexemes body).Pairwise (fun a b => a.stop ≤ b.start) ∧
    (∀ l ∈ lexemes body, (body.toList.drop l.start).take (l.stop - l.start) = l.chars) ∧
    (∀ t ∈ tokenize body, t.kind.keepsSpelling →
      ∃ l ∈ lexemes body, t.start = l.start ∧ t.text.toList = (body.toList.drop l.start).take (l.stop - l.start)) ∧
    (tokenize body).getLast? = some ⟨.eof, "", Lexeme.endAfter 0 (lexemes body)⟩ := by
  have tiles : Tiles 0 body.toList (lexemes body) (Lexeme.endAfter 0 (lexemes body)) :=
    lexemesFrom_tiles body.toList 0
  have slices : ∀ l ∈ lexemes body, (body.toList.drop l.start).take (l.stop - l.start) = l.chars := by
    simpa using tiles.slice
  refine ⟨tiles, tiles.ordered, slices, fun t mem keeps => ?_, tokenize_getLast? body⟩
  rcases mem_tokenize mem with ⟨l, listed, made⟩ | eof
  · obtain ⟨start, text⟩ := toToken?_spelling made keeps
    exact ⟨l, listed, start, by rw [text, slices l listed, String.toList_ofList]⟩
  · simp [eof, TokenKind.keepsSpelling] at keeps

end Spreadsheet.Formula
