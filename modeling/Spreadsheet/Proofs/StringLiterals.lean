import Spreadsheet.Formula.Token

/-!
String literals of formula bodies.

A literal is written between double quotes, with a backslash before every backslash and every
double quote of its text. Scanning such a literal gives one string token holding the text, and
scanning goes on after the closing quote as it would at the start of what follows, with every
position moved by the literal's width. In any body, a string token holds the characters after its
opening quote up to the first quote that no backslash escapes, or up to the end of the body less a
lone backslash there, each backslash standing for the character after it.
-/

set_option autoImplicit false

namespace Spreadsheet.Formula

/-- The written form of a literal's text: a backslash before every backslash and double quote. -/
def escapeLiteral : List Char → List Char
  | [] => []
  | c :: rest =>
    if c = '\\' ∨ c = '"' then '\\' :: c :: escapeLiteral rest else c :: escapeLiteral rest

/-- What the characters after an opening quote mean: `Literal raw text` when the literal they
start reads as `text`. -/
inductive Literal : List Char → List Char → Prop
  | stop : Literal [] []
  | close (rest : List Char) : Literal ('"' :: rest) []
  | lone : Literal ['\\'] []
  | escaped (c : Char) {raw text : List Char} : Literal raw text → Literal ('\\' :: c :: raw) (c :: text)
  | plain {c : Char} {raw text : List Char} :
      c ≠ '"' → c ≠ '\\' → Literal raw text → Literal (c :: raw) (c :: text)

def Lexeme.shift (k : Nat) (l : Lexeme) : Lexeme := { l with start := l.start + k }

def Token.shift (k : Nat) (t : Token) : Token := { t with start := t.start + k }

@[simp] theorem Lexeme.shift_stop (k : Nat) (l : Lexeme) : (l.shift k).stop = l.stop + k := by
  simp only [Lexeme.shift, Lexeme.stop]
  omega

theorem quote_not_blank : Text.isBlank '"' = false := by decide

theorem lexemeAt_quote (rest : List Char) : lexemeAt '"' rest = (some .string, stringBodyLength rest) := by
  simp only [lexemeAt, quote_not_blank, Bool.false_eq_true, if_false, beq_self_eq_true, if_true]

theorem fst_ite_ne {α β : Type} {p : Prop} [Decidable p] {a b : α × β} {x : α} (ha : a.1 ≠ x)
    (hb : b.1 ≠ x) : (if p then a else b).1 ≠ x := by
  split
  · exact ha
  · exact hb

theorem lexemeAt_fst_ne_string {c : Char} (rest : List Char) (quote : c ≠ '"') :
    (lexemeAt c rest).1 ≠ some .string := by
  unfold lexemeAt
  apply fst_ite_ne
  · rintro ⟨⟩
  rw [if_neg (by simpa using quote)]
  repeat (apply fst_ite_ne; rintro ⟨⟩)
  -- the operators and the numbers end in a `match`
  apply fst_ite_ne
  · split <;> nofun
  · split <;> nofun

theorem lexemeAt_string {c : Char} {rest : List Char} {n : Nat}
    (h : lexemeAt c rest = (some .string, n)) : c = '"' ∧ n = stringBodyLength rest := by
  by_cases quote : c = '"'
  · subst quote
    rw [lexemeAt_quote] at h
    exact ⟨rfl, (Prod.mk.inj h).2.symm⟩
  · exact absurd (congrArg Prod.fst h) (lexemeAt_fst_ne_string rest quote)

theorem stringBodyLength_escapeLiteral (s rest : List Char) :
    stringBodyLength (escapeLiteral s ++ '"' :: rest) = (escapeLiteral s).length + 1 := by
  induction s with
  | nil => simp [escapeLiteral, stringBodyLength]
  | cons c s ih =>
    by_cases special : c = '\\' ∨ c = '"'
    · simp only [escapeLiteral, if_pos special, List.cons_append, stringBodyLength, ih,
        List.length_cons]
      omega
    · have noQuote : c ≠ '"' := fun h => special (.inr h)
      have noBackslash : c ≠ '\\' := fun h => special (.inl h)
      simp only [escapeLiteral, if_neg special, List.cons_append, List.length_cons]
      rw [stringBodyLength.eq_5 _ _ noQuote (fun h => absurd h noBackslash)
        (fun _ _ h => absurd h noBackslash), ih]
      omega

theorem unquote_escapeLiteral (s rest : List Char) :
    unquote.go (escapeLiteral s ++ '"' :: rest) = s := by
  induction s with
  | nil => simp [escapeLiteral, unquote.go]
  | cons c s ih =>
    by_cases special : c = '\\' ∨ c = '"'
    · rcases special with rfl | rfl <;> simp [escapeLiteral, unquote.go, ih]
    · have noQuote : c ≠ '"' := fun h => special (.inr h)
      have noBackslash : c ≠ '\\' := fun h => special (.inl h)
      simp only [escapeLiteral, if_neg special, List.cons_append]
      rw [unquote.go.eq_4 _ _ (fun _ _ h => absurd h noBackslash) noQuote, ih]

theorem lexemesFrom_shift (cs : List Char) (pos k : Nat) :
    lexemesFrom cs (pos + k) = (lexemesFrom cs pos).map (Lexeme.shift k) := by
  induction cs, pos using lexemesFrom.induct with
  | case1 pos => simp [lexemesFrom]
  | case2 pos c rest n kind scanned ih =>
    have later : pos + k + n + 1 = pos + n + 1 + k := by omega
    rw [lexemesFrom.eq_2, lexemesFrom.eq_2, scanned]
    simp only [later, ih, List.map_cons, Lexeme.shift]
  | case3 pos c rest n scanned ih =>
    have later : pos + k + n + 1 = pos + n + 1 + k := by omega
    rw [lexemesFrom.eq_2, lexemesFrom.eq_2, scanned]
    simp only [later, ih]

theorem toToken?_shift (k : Nat) (l : Lexeme) : (l.shift k).toToken? = l.toToken?.map (Token.shift k) := by
  cases l with
  | mk kind chars start =>
    cases kind
    case ident =>
      -- a word is a truth value or an identifier whatever its position
      simp only [Lexeme.toToken?, Lexeme.shift]
      split <;> simp_all [Token.shift]
    all_goals simp [Lexeme.toToken?, Lexeme.shift, Token.shift]

theorem lexemesFrom_literal (s rest : List Char) :
    lexemesFrom ('"' :: (escapeLiteral s ++ '"' :: rest)) 0 =
      ⟨.string, '"' :: (escapeLiteral s ++ ['"']), 0⟩ ::
        (lexemesFrom rest 0).map (Lexeme.shift ((escapeLiteral s).length + 2)) := by
  have width : 0 + ((escapeLiteral s).length + 1) + 1 = 0 + ((escapeLiteral s).length + 2) := by omega
  rw [lexemesFrom.eq_2, lexemeAt_quote, stringBodyLength_escapeLiteral]
  simp only [width, lexemesFrom_shift, List.cons.injEq]
  constructor
  · simp [List.take_append, List.take_of_length_le (Nat.le_succ _)]
  · simp [List.drop_append, List.drop_eq_nil_of_le (Nat.le_succ _)]

theorem lexeme_scanned {cs : List Char} {pos : Nat} {l : Lexeme} (mem : l ∈ lexemesFrom cs pos) :
    pos ≤ l.start ∧ ∃ c rest n, cs.drop (l.start - pos) = c :: rest ∧
      lexemeAt c rest = (some l.kind, n) ∧ l.chars = (c :: rest).take (n + 1) := by
  induction cs, pos using lexemesFrom.induct with
  | case1 pos => simp [lexemesFrom] at mem
  | case2 pos c rest n kind scanned ih =>
    rw [lexemesFrom.eq_2, scanned] at mem
    rcases List.mem_cons.1 mem with rfl | later
    · exact ⟨Nat.le_refl _, c, rest, n, by simp, scanned, rfl⟩
    · obtain ⟨after, c', rest', n', at', scan', chars'⟩ := ih later
      refine ⟨by omega, c', rest', n', ?_, scan', chars'⟩
      rw [← at', List.drop_drop]
      congr 1
      omega
  | case3 pos c rest n scanned ih =>
    rw [lexemesFrom.eq_2, scanned] at mem
    obtain ⟨after, c', rest', n', at', scan', chars'⟩ := ih mem
    refine ⟨by omega, c', rest', n', ?_, scan', chars'⟩
    rw [← at', List.drop_drop]
    congr 1
    omega

theorem literal_unquote (raw : List Char) : Literal raw (unquote.go (raw.take (stringBodyLength raw))) := by
  fun_induction stringBodyLength raw with
  | case1 => simpa [unquote.go] using Literal.stop
  | case2 rest => simpa [unquote.go] using Literal.close rest
  | case3 => simpa [unquote.go] using Literal.lone
  | case4 c rest ih =>
    rw [Nat.add_comm, List.take_succ_cons, List.take_succ_cons, unquote.go]
    exact Literal.escaped c ih
  | case5 c rest noQuote noLone noPair ih =>
    have noBackslash : c ≠ '\\' := by
      intro h
      cases rest with
      | nil => exact noLone h rfl
      | cons d r => exact noPair d r h rfl
    rw [Nat.add_comm, List.take_succ_cons,
      unquote.go.eq_4 _ _ (fun _ _ h => absurd h noBackslash) noQuote]
    exact Literal.plain noQuote noBackslash ih

theorem string_token_of_lexeme {l : Lexeme} {t : Token} (h : l.toToken? = some t) (string : t.kind = .string) :
    l.kind = .string ∧ t.start = l.start ∧ t.text = String.ofList (unquote l.chars) := by
  cases l with
  | mk kind chars start =>
    cases kind <;> simp [Lexeme.toToken?] at h <;> (try split at h) <;> cases h <;> simp_all

/-- String literals read back: a written literal followed by any body is its text as one string
token, then the tokens of the body moved by the literal's width; and in every body, each string
token holds what the characters after its opening quote mean. -/
theorem string_literals_read_back :
    (∀ s t : String,
      tokenize ("\"" ++ String.ofList (escapeLiteral s.toList) ++ "\"" ++ t) =
        ⟨.string, s, 0⟩ :: (tokenize t).map (Token.shift ((escapeLiteral s.toList).length + 2))) ∧
    (∀ (body : String) (tok : Token), tok ∈ tokenize body → tok.kind = .string →
      ∃ raw, body.toList.drop tok.start = '"' :: raw ∧ Literal raw tok.text.toList) := by
  constructor
  · intro s t
    have chars : ("\"" ++ String.ofList (escapeLiteral s.toList) ++ "\"" ++ t).toList =
        '"' :: (escapeLiteral s.toList ++ '"' :: t.toList) := by simp
    have literal : Lexeme.toToken? ⟨.string, '"' :: (escapeLiteral s.toList ++ ['"']), 0⟩ =
        some ⟨.string, s, 0⟩ := by
      simp [Lexeme.toToken?, unquote, unquote_escapeLiteral]
    simp only [tokenize, lexemes, chars, lexemesFrom_literal, List.filterMap_cons, literal,
      List.filterMap_map, List.map_append, List.map_cons, List.map_nil, List.map_filterMap,
      List.cons_append, List.cons.injEq, true_and]
    -- the tokens of the body, then the end token, each moved by the literal's width
    refine congr (congrArg HAppend.hAppend ?_) ?_
    · simp only [Function.comp_def, toToken?_shift]
    · cases last : (lexemesFrom t.toList 0).getLast? <;>
        simp [List.getLast?_cons, List.getLast?_map, last, Token.shift, Lexeme.shift, Lexeme.stop]
      omega
  · intro body tok mem string
    simp only [tokenize, List.mem_append, List.mem_singleton] at mem
    rcases mem with mem | rfl
    · obtain ⟨l, listed, toTok⟩ := List.mem_filterMap.1 mem
      obtain ⟨lexKind, start, text⟩ := string_token_of_lexeme toTok string
      obtain ⟨-, c, rest, n, at', scan, chars⟩ := lexeme_scanned listed
      obtain ⟨rfl, rfl⟩ := lexemeAt_string (lexKind ▸ scan)
      refine ⟨rest, by simpa [start] using at', ?_⟩
      rw [text, String.toList_ofList, chars, List.take_succ_cons, unquote, List.drop_one,
        List.tail_cons]
      exact literal_unquote rest
    · simp at string

end Spreadsheet.Formula
