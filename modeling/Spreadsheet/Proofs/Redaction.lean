import Spreadsheet.Log.Redact

/-!
Redaction at every depth.

A place in a value is a path of positions: each step enters the value of an entry of a mapping or
an item of a list. A path is exposed when none of the entries it enters has a sensitive key. At an
exposed place redaction holds the redaction of what the input holds there (`at?_scrub_of_exposed`),
so mappings keep their keys, lists their length, a text longer than 256 characters is cut to its
first 256 followed by `...[truncated]`, and every other leaf is kept; the value of an entry whose key
is sensitive is `[REDACTED]`, whatever it holds (`at?_scrub_sensitive`). No text of the output is
longer than 270 characters, and a cut text is cut to itself, so redacting twice is redacting once.
-/

set_option autoImplicit false

namespace Spreadsheet

namespace Value

/-- The value at a path of positions: a step enters the value of the entry of a mapping, or the
item of a list, at that position. -/
def at? : Value → List Nat → Option Value
  | v, [] => some v
  | .dict es, i :: p => es[i]?.bind fun e => e.2.at? p
  | .list xs, i :: p => xs[i]?.bind fun x => x.at? p
  | _, _ :: _ => none

def keysOn : Value → List Nat → List Value
  | .dict es, i :: p =>
    match es[i]? with
    | some e => e.1 :: e.2.keysOn p
    | none => []
  | .list xs, i :: p =>
    match xs[i]? with
    | some x => x.keysOn p
    | none => []
  | _, _ => []

def IsPlainLeaf : Value → Prop
  | .str _ | .list _ | .dict _ => False
  | _ => True

theorem at?_append (v : Value) (p q : List Nat) : v.at? (p ++ q) = (v.at? p).bind fun w => w.at? q := by
  induction p generalizing v with
  | nil => rfl
  | cons i p ih =>
    cases v with
    | dict es => simp only [List.cons_append, at?, ih, Option.bind_assoc]
    | list xs => simp only [List.cons_append, at?, ih, Option.bind_assoc]
    | _ => rfl

theorem at?_str {s : String} {p : List Nat} {w : Value} (place : (Value.str s).at? p = some w) :
    p = [] ∧ w = .str s := by
  cases p with
  | nil => exact ⟨rfl, (Option.some.inj place).symm⟩
  | cons _ _ => cases place

end Value

namespace Log

open Value

/-- A path is exposed in a value when no entry it enters has a sensitive key. -/
def Exposed (v : Value) (p : List Nat) : Prop := ∀ k ∈ v.keysOn p, isSensitiveKey k.toPlain = false

theorem occursIn_iff_infix (w : List Char) : ∀ cs : List Char, occursIn w cs = true ↔ w <:+: cs
  | [] => by simp [occursIn]
  | c :: rest => by
    rw [occursIn, Bool.or_eq_true, occursIn_iff_infix w rest, List.infix_cons_iff, beq_iff_eq,
      List.prefix_iff_eq_take, eq_comm]

theorem isSensitiveKey_iff (key : String) :
    isSensitiveKey key = true ↔ ∃ w ∈ sensitiveWords, w.toList <:+: key.toList.map foldKeyChar := by
  simp [isSensitiveKey, occursIn_iff_infix]

theorem redactEntries_eq_map (es : List (Value × Value)) :
    redactEntries es =
      es.map fun e => (e.1, if isSensitiveKey e.1.toPlain then .str redactedText else scrub e.2) := by
  induction es with
  | nil => rfl
  | cons e rest ih =>
    obtain ⟨k, v⟩ := e
    rw [redactEntries, ih, List.map_cons]

theorem scrubAll_eq_map (xs : List Value) : scrubAll xs = xs.map scrub := by
  induction xs with
  | nil => rfl
  | cons x rest ih => rw [scrubAll, ih, List.map_cons]

@[simp] theorem keys_redactEntries (es : List (Value × Value)) :
    (redactEntries es).map Prod.fst = es.map Prod.fst := by
  simp [redactEntries_eq_map]

@[simp] theorem length_scrubAll (xs : List Value) : (scrubAll xs).length = xs.length := by
  simp [scrubAll_eq_map]

theorem scrub_of_isPlainLeaf {v : Value} (leaf : v.IsPlainLeaf) : scrub v = v := by
  cases v <;> first | rfl | exact leaf.elim

theorem at?_scrub_of_exposed (v : Value) (p : List Nat) (exposed : Exposed v p) :
    (scrub v).at? p = (v.at? p).map scrub := by
  induction p generalizing v with
  | nil => rfl
  | cons i p ih =>
    cases v with
    | dict es =>
      rw [scrub, at?, at?, redactEntries_eq_map, List.getElem?_map]
      cases entry : es[i]? with
      | none => rfl
      | some e =>
        -- the key entered is not sensitive, and the rest of the path is exposed below it
        have keys : (Value.dict es).keysOn (i :: p) = e.1 :: e.2.keysOn p := by
          simp [keysOn, entry]
        have plain : isSensitiveKey e.1.toPlain = false := exposed e.1 (by rw [keys]; exact List.mem_cons_self)
        have below : Exposed e.2 p := fun k mem => exposed k (by rw [keys]; exact List.mem_cons_of_mem _ mem)
        simp [plain, ih e.2 below]
    | list xs =>
      rw [scrub, at?, at?, scrubAll_eq_map, List.getElem?_map]
      cases item : xs[i]? with
      | none => rfl
      | some x =>
        have keys : (Value.list xs).keysOn (i :: p) = x.keysOn p := by simp [keysOn, item]
        have below : Exposed x p := fun k mem => exposed k (by rw [keys]; exact mem)
        simp [ih x below]
    | str s => rfl
    | _ => rfl

theorem at?_scrub_sensitive {v : Value} {p : List Nat} {es : List (Value × Value)} {i : Nat}
    {k w : Value} (exposed : Exposed v p) (place : v.at? p = some (.dict es)) (entry : es[i]? = some (k, w))
    (sensitive : isSensitiveKey k.toPlain = true) :
    (scrub v).at? (p ++ [i]) = some (.str redactedText) := by
  rw [at?_append, at?_scrub_of_exposed v p exposed, place]
  simp [scrub, at?, redactEntries_eq_map, entry, sensitive]

theorem length_cutText_of_long {s : String} (long : s.length > maxContextText) :
    (cutText s).length = maxContextText + truncatedSuffix.length := by
  rw [cutText, if_pos long, String.length_append, String.length_ofList, List.length_take,
    String.length_toList, Nat.min_eq_left (Nat.le_of_lt long)]

theorem length_cutText_le (s : String) : (cutText s).length ≤ 270 := by
  have suffix : truncatedSuffix.length = 14 := by decide
  by_cases long : s.length > maxContextText
  · have cut := length_cutText_of_long long
    rw [suffix, maxContextText] at cut
    omega
  · rw [cutText, if_neg long]
    simp only [maxContextText] at long
    omega

theorem length_le_of_scrub_eq_str {v : Value} {s : String} (text : scrub v = .str s) : s.length ≤ 270 := by
  cases v with
  | str t =>
    rw [← (Value.str.inj text : cutText t = s)]
    exact length_cutText_le t
  | dict _ | list _ => cases text
  | _ => cases text

theorem length_le_of_at?_scrub (v : Value) (p : List Nat) {s : String}
    (place : (scrub v).at? p = some (.str s)) : s.length ≤ 270 := by
  induction p generalizing v with
  | nil => exact length_le_of_scrub_eq_str (Option.some.inj place)
  | cons i p ih =>
    cases v with
    | dict es =>
      rw [scrub, at?, redactEntries_eq_map, List.getElem?_map] at place
      cases entry : es[i]? with
      | none => simp [entry] at place
      | some e =>
        simp only [entry, Option.map_some, Option.bind_some] at place
        split at place
        · -- a redacted value is the one text `[REDACTED]`
          obtain ⟨-, same⟩ := at?_str place
          rw [Value.str.inj same]
          decide
        · exact ih e.2 place
    | list xs =>
      rw [scrub, at?, scrubAll_eq_map, List.getElem?_map] at place
      cases item : xs[i]? with
      | none => simp [item] at place
      | some x =>
        simp only [item, Option.map_some, Option.bind_some] at place
        exact ih x place
    | str t => cases place
    | _ => cases place

theorem cutText_cutText (s : String) : cutText (cutText s) = cutText s := by
  by_cases long : s.length > maxContextText
  · have again : (cutText s).length > maxContextText := by
      rw [length_cutText_of_long long]
      exact Nat.lt_add_of_pos_right (by decide)
    have kept : (cutText s).toList.take maxContextText = s.toList.take maxContextText := by
      have taken : (s.toList.take maxContextText).length = maxContextText := by
        rw [List.length_take, String.length_toList, Nat.min_eq_left (Nat.le_of_lt long)]
      rw [cutText, if_pos long, String.toList_append, String.toList_ofList,
        List.take_append_of_le_length (Nat.le_of_eq taken.symm), List.take_of_length_le (Nat.le_of_eq taken)]
    rw [cutText, if_pos again, kept, cutText, if_pos long]
  · have same : cutText s = s := by rw [cutText, if_neg long]
    rw [same, same]

mutual

theorem scrub_scrub : ∀ v : Value, scrub (scrub v) = scrub v
  | .dict es => by rw [scrub, scrub, redactEntries_redactEntries es]
  | .list xs => by rw [scrub, scrub, scrubAll_scrubAll xs]
  | .str s => by rw [scrub, scrub, cutText_cutText]
  | .null | .bool _ | .int _ | .float _ | .date _ | .datetime _ => rfl

theorem redactEntries_redactEntries : ∀ es : List (Value × Value), redactEntries (redactEntries es) = redactEntries es
  | [] => rfl
  | (k, v) :: rest => by
    rw [redactEntries, redactEntries, redactEntries_redactEntries rest]
    -- the key is kept, so a second pass makes the same choice
    by_cases sensitive : isSensitiveKey k.toPlain = true
    · simp [sensitive]
    · simp [sensitive, scrub_scrub v]

theorem scrubAll_scrubAll : ∀ xs : List Value, scrubAll (scrubAll xs) = scrubAll xs
  | [] => rfl
  | v :: rest => by rw [scrubAll, scrubAll, scrub_scrub v, scrubAll_scrubAll rest]

end

/-- Redacting a context keeps its shape down to the sensitive keys: at every exposed place a
mapping keeps its keys, a list its length, a text longer than 256 characters is cut to its first
256 followed by `...[truncated]`, every other leaf is kept, and no place is added. The value of
every entry with a sensitive key, at any depth, is `[REDACTED]`. No text of the output is longer
than 270 characters, and redacting the output again changes nothing. -/
theorem redaction_at_every_depth (ctx : List (Value × Value)) :
    (∀ p es, Exposed (.dict ctx) p → (Value.dict ctx).at? p = some (.dict es) →
      ∃ es', (Value.dict (redactEntries ctx)).at? p = some (.dict es') ∧ es'.map Prod.fst = es.map Prod.fst) ∧
    (∀ p xs, Exposed (.dict ctx) p → (Value.dict ctx).at? p = some (.list xs) →
      ∃ xs', (Value.dict (redactEntries ctx)).at? p = some (.list xs') ∧ xs'.length = xs.length) ∧
    (∀ p s, Exposed (.dict ctx) p → (Value.dict ctx).at? p = some (.str s) →
      (Value.dict (redactEntries ctx)).at? p = some (.str (cutText s))) ∧
    (∀ p v, Exposed (.dict ctx) p → (Value.dict ctx).at? p = some v → v.IsPlainLeaf →
      (Value.dict (redactEntries ctx)).at? p = some v) ∧
    (∀ p, Exposed (.dict ctx) p → (Value.dict ctx).at? p = none → (Value.dict (redactEntries ctx)).at? p = none) ∧
    (∀ p es i k w, Exposed (.dict ctx) p → (Value.dict ctx).at? p = some (.dict es) → es[i]? = some (k, w) →
      isSensitiveKey k.toPlain = true →
      (Value.dict (redactEntries ctx)).at? (p ++ [i]) = some (.str redactedText)) ∧
    (∀ p s, (Value.dict (redactEntries ctx)).at? p = some (.str s) → s.length ≤ 270) ∧
    redactEntries (redactEntries ctx) = redactEntries ctx := by
  have out : Value.dict (redactEntries ctx) = scrub (.dict ctx) := by rw [scrub]
  rw [out]
  refine ⟨?dicts, ?lists, ?texts, ?leaves, ?absent, ?sensitive, ?short, ?twice⟩
  case dicts =>
    intro p es exposed place
    exact ⟨_, by rw [at?_scrub_of_exposed _ p exposed, place, Option.map_some, scrub], keys_redactEntries es⟩
  case lists =>
    intro p xs exposed place
    exact ⟨_, by rw [at?_scrub_of_exposed _ p exposed, place, Option.map_some, scrub], length_scrubAll xs⟩
  case texts =>
    intro p s exposed place
    rw [at?_scrub_of_exposed _ p exposed, place, Option.map_some, scrub]
  case leaves =>
    intro p v exposed place leaf
    rw [at?_scrub_of_exposed _ p exposed, place, Option.map_some, scrub_of_isPlainLeaf leaf]
  case absent =>
    intro p exposed place
    rw [at?_scrub_of_exposed _ p exposed, place, Option.map_none]
  case sensitive => exact fun p es i k w => at?_scrub_sensitive
  case short => exact fun p s => length_le_of_at?_scrub _ p
  case twice => exact redactEntries_redactEntries ctx

end Log

end Spreadsheet
