import Spreadsheet.Proofs.EventLog
import Spreadsheet.Proofs.JsonDocument

/-!
Reading back what was written to the event log.

Each record is written as its JSON text (`Record.body`) and a line feed. That text is printable
ASCII, starts with `{` and parses as a mapping, so the lines of a log written by the sink are the
records' texts, one each (`splitLines_lines`). A read looks at the last `tailBytes` bytes; when the
log is longer it cuts it there and drops the text up to the first line feed from the cut on. So it
sees the records whose line starts after the cut (`seenRecords`): the record whose line holds the
cut byte is dropped even when its line starts at that byte (`startingAfter_append`). The read
answers the records it sees, parsed back, filtered, newest first, cut to the limit
(`read_written_log`).
-/

set_option autoImplicit false

namespace Spreadsheet.Log

def Record.body (r : Record) : String := Json.render lineStyle r.toValue

theorem Record.text_eq (r : Record) : r.text = r.body ++ "\n" := rfl

theorem lineStyle_oneLine : lineStyle.OneLine := ⟨rfl, rfl, rfl, rfl⟩

theorem Record.toValue_mapping (r : Record) : ∃ es, r.toValue = .dict es := ⟨_, rfl⟩

theorem Record.parse_body (r : Record) : ∃ es, Json.parse r.body = .ok (.dict es) := by
  obtain ⟨es, value⟩ := Record.toValue_mapping r
  rw [Record.body, value]
  exact Json.parse_render_dict lineStyle_oneLine es

theorem Record.body_printable (r : Record) : ∀ c ∈ r.body.toList, Json.Printable c :=
  Json.render_printable lineStyle_oneLine _

theorem Record.body_head (r : Record) : ∃ tail, r.body.toList = '\x7b' :: tail := by
  obtain ⟨es, value⟩ := Record.toValue_mapping r
  rw [Record.body, value]
  exact Json.render_dict_head lineStyle_oneLine es

theorem isLineBreak_of_printable {c : Char} (printable : Json.Printable c) : Text.isLineBreak c = false := by
  obtain ⟨low, high⟩ := printable
  simp only [Text.isLineBreak, Text.lineBreakCodes, List.contains_cons, List.contains_nil, Bool.or_false,
    Bool.or_eq_false_iff, beq_eq_false_iff_ne, ne_eq]
  omega

theorem go_printable {cs : List Char} (printable : ∀ c ∈ cs, Json.Printable c) (rest line : List Char)
    (done : List String) :
    Text.splitLines.go (cs ++ rest) line done = Text.splitLines.go rest (cs.reverse ++ line) done := by
  induction cs generalizing line with
  | nil => rfl
  | cons c cs ih =>
    have first := printable c List.mem_cons_self
    have notCarriage : ∀ r, c = '\x0d' → cs ++ rest = '\n' :: r → False := by
      rintro r rfl -
      exact absurd first (by decide)
    rw [List.cons_append, Text.splitLines.go.eq_3 _ _ _ _ notCarriage,
      if_neg (by rw [isLineBreak_of_printable first]; decide),
      ih (fun x mem => printable x (List.mem_cons_of_mem _ mem))]
    simp

theorem go_lines (rs : List Record) (done : List String) :
    Text.splitLines.go (rs.flatMap fun r => r.text.toList) [] done = done.reverse ++ rs.map Record.body := by
  induction rs generalizing done with
  | nil => simp [Text.splitLines.go]
  | cons r rs ih =>
    rw [List.flatMap_cons, Record.text_eq, String.toList_append, List.append_assoc,
      go_printable r.body_printable]
    rw [show "\n".toList ++ rs.flatMap (fun r => r.text.toList) = '\n' :: rs.flatMap (fun r => r.text.toList) from rfl,
      Text.splitLines.go.eq_3 _ _ _ _ (by rintro r ⟨⟩), if_pos (by decide), ih]
    simp

theorem splitLines_lines (rs : List Record) :
    Text.splitLines (String.join (rs.map Record.text)) = rs.map Record.body := by
  rw [Text.splitLines, String.toList_join, List.flatMap_map, go_lines]
  rfl

def startingAfter (offset : Nat) : List Record → List Record
  | [] => []
  | r :: rs => if offset < r.text.utf8ByteSize then rs else startingAfter (offset - r.text.utf8ByteSize) rs

def linesSize (rs : List Record) : Nat := (rs.map fun r => r.text.utf8ByteSize).sum

/-- The records a read of the last `tail` bytes of their log sees: all of them when the log is no
longer, and otherwise those whose line starts after byte `size - tail`, where the read cuts. -/
def seenRecords (tail : Nat) (records : List Record) : List Record :=
  if linesSize records ≤ tail then records else startingAfter (linesSize records - tail) records

theorem startingAfter_append (before : List Record) (r : Record) (after : List Record) {offset : Nat}
    (past : linesSize before ≤ offset) (within : offset < linesSize before + r.text.utf8ByteSize) :
    startingAfter offset (before ++ r :: after) = after := by
  induction before generalizing offset with
  | nil =>
    simp only [linesSize, List.map_nil, List.sum_nil, Nat.zero_add] at within
    rw [List.nil_append, startingAfter, if_pos within]
  | cons b bs ih =>
    simp only [linesSize, List.map_cons, List.sum_cons] at past within
    rw [List.cons_append, startingAfter, if_neg (by omega)]
    exact ih (by simp only [linesSize]; omega) (by simp only [linesSize]; omega)

theorem line_size_pos (r : Record) : 0 < r.text.utf8ByteSize := by
  rw [Record.text_eq, String.utf8ByteSize_append]
  exact Nat.lt_add_left _ (by decide)

theorem seenRecords_last_line (r₁ r₂ : Record) : seenRecords r₂.text.utf8ByteSize [r₁, r₂] = [] := by
  have first := line_size_pos r₁
  have second := line_size_pos r₂
  have size : linesSize [r₁, r₂] = r₁.text.utf8ByteSize + r₂.text.utf8ByteSize := by
    simp [linesSize]
  rw [seenRecords, if_neg (by omega), size, Nat.add_sub_cancel, startingAfter, if_neg (Nat.lt_irrefl _),
    Nat.sub_self, startingAfter, if_pos second]

theorem utf8ByteSize_ofList (cs : List Char) : (String.ofList cs).utf8ByteSize = (cs.map Char.utf8Size).sum := by
  induction cs with
  | nil => rfl
  | cons c cs ih => rw [String.ofList_cons, String.utf8ByteSize_append, String.utf8ByteSize_singleton, ih]; rfl

theorem utf8ByteSize_join (rs : List Record) : (String.join (rs.map Record.text)).utf8ByteSize = linesSize rs := by
  induction rs with
  | nil => rfl
  | cons r rs ih => rw [List.map_cons, String.join_cons, String.utf8ByteSize_append, ih]; rfl

theorem afterCut_noFeed {cs : List Char} (noFeed : ∀ c ∈ cs, c ≠ '\n') (offset : Nat) (rest : List Char)
    (pos : Nat) :
    Sink.afterCut offset (cs ++ rest) pos = Sink.afterCut offset rest (pos + (cs.map Char.utf8Size).sum) := by
  induction cs generalizing pos with
  | nil => rfl
  | cons c cs ih =>
    have notFeed : (c == '\n') = false := beq_eq_false_iff_ne.2 (noFeed c List.mem_cons_self)
    rw [List.cons_append, Sink.afterCut, if_neg (by simp [notFeed]),
      ih (fun x mem => noFeed x (List.mem_cons_of_mem _ mem)), List.map_cons, List.sum_cons, Nat.add_assoc]

theorem afterCut_line (r : Record) (offset : Nat) (more : List Char) (pos : Nat) :
    Sink.afterCut offset (r.text.toList ++ more) pos =
      if offset < pos + r.text.utf8ByteSize then more else Sink.afterCut offset more (pos + r.text.utf8ByteSize) := by
  have noFeed : ∀ c ∈ r.body.toList, c ≠ '\n' := fun c mem same =>
    absurd (r.body_printable c mem) (by rw [same]; decide)
  have size : r.text.utf8ByteSize = (r.body.toList.map Char.utf8Size).sum + 1 := by
    rw [Record.text_eq, String.utf8ByteSize_append, ← String.ofList_toList (s := r.body), utf8ByteSize_ofList,
      String.toList_ofList]
    rfl
  rw [size, Record.text_eq, String.toList_append, List.append_assoc, afterCut_noFeed noFeed,
    show "\n".toList ++ more = '\n' :: more from rfl, Sink.afterCut]
  by_cases cut : offset < pos + ((r.body.toList.map Char.utf8Size).sum + 1)
  · rw [if_pos (by simp only [beq_self_eq_true, Bool.true_and, decide_eq_true_eq]; omega), if_pos cut]
  · rw [if_neg (by simp only [beq_self_eq_true, Bool.true_and, decide_eq_true_eq]; omega), if_neg cut]
    rfl

theorem afterCut_lines (rs : List Record) (offset pos : Nat) (reached : pos ≤ offset) :
    Sink.afterCut offset (rs.flatMap fun r => r.text.toList) pos =
      (startingAfter (offset - pos) rs).flatMap fun r => r.text.toList := by
  induction rs generalizing pos with
  | nil => rfl
  | cons r rs ih =>
    rw [List.flatMap_cons, afterCut_line, startingAfter]
    by_cases cut : offset < pos + r.text.utf8ByteSize
    · rw [if_pos cut, if_pos (by omega)]
    · rw [if_neg cut, if_neg (by omega), ih (pos + r.text.utf8ByteSize) (by omega), Nat.sub_add_eq]

theorem text_written (rs : List Record) (s : Sink) :
    (rs.foldl Sink.write s).text =
      if rs = [] then s.text else some (s.text.getD "" ++ String.join (rs.map Record.text)) := by
  induction rs generalizing s with
  | nil => rfl
  | cons r rs ih =>
    rw [List.foldl_cons, ih, if_neg (List.cons_ne_nil _ _)]
    by_cases empty : rs = []
    · subst empty
      simp [Sink.write, Sink.append]
    · rw [if_neg empty]
      simp [Sink.write, Sink.append, String.append_assoc]

theorem tailBytes_written (rs : List Record) (s : Sink) : (rs.foldl Sink.write s).tailBytes = s.tailBytes := by
  induction rs generalizing s with
  | nil => rfl
  | cons r rs ih => rw [List.foldl_cons, ih]; rfl

theorem tailOf_lines (rs : List Record) (tail : Nat) :
    Sink.tailOf (String.join (rs.map Record.text)) tail = String.join ((seenRecords tail rs).map Record.text) := by
  unfold Sink.tailOf seenRecords
  rw [utf8ByteSize_join]
  by_cases fits : linesSize rs ≤ tail
  · rw [if_pos (by simp only [beq_iff_eq]; omega), if_pos fits]
  · rw [if_neg (by simp only [beq_iff_eq]; omega), if_neg fits, String.toList_join, List.flatMap_map,
      afterCut_lines _ _ 0 (Nat.zero_le _), Nat.sub_zero, ← String.toList_inj, String.toList_ofList,
      String.toList_join, List.flatMap_map]

theorem trimBlanks_body (r : Record) : (Text.trimBlanks r.body).isEmpty = false := by
  obtain ⟨tail, chars⟩ := r.body_head
  rw [String.isEmpty_eq_false_iff, Text.trimBlanks, chars, List.dropWhile_cons_of_neg (by decide)]
  intro empty
  have chars := congrArg String.toList empty
  rw [String.toList_ofList, String.toList_empty, List.reverse_eq_nil_iff, List.dropWhile_eq_nil_iff] at chars
  exact absurd (chars '\x7b' (by simp)) (by decide)

theorem parsed_bodies (rs : List Record) :
    ∃ events, List.Forall₂ (fun r v => Json.parse r.body = .ok v) rs events ∧ (∀ v ∈ events, v.IsMapping) ∧
      (rs.map Record.body).filterMap (fun l => (Json.parse l).toOption) = events := by
  induction rs with
  | nil => exact ⟨[], .nil, by simp, rfl⟩
  | cons r rs ih =>
    obtain ⟨events, parsed, mappings, values⟩ := ih
    obtain ⟨es, parse⟩ := r.parse_body
    refine ⟨.dict es :: events, .cons parse parsed, ?_, ?_⟩
    · intro v mem
      rcases List.mem_cons.1 mem with rfl | mem
      · exact ⟨es, rfl⟩
      · exact mappings v mem
    · rw [List.map_cons, List.filterMap_cons, parse, values]
      rfl

theorem windowValues_written (records : List Record) (tail : Nat) :
    (records.foldl Sink.write { tailBytes := tail }).windowValues =
      ((seenRecords tail records).map Record.body).filterMap fun l => (Json.parse l).toOption := by
  rw [Sink.windowValues, Sink.windowLines, text_written, tailBytes_written]
  by_cases empty : records = []
  · -- nothing written: no file, nothing seen
    subst empty
    rfl
  · rw [if_neg empty]
    simp only [Int.toNat_natCast, Option.getD_none, String.empty_append]
    have nonblank : ∀ l ∈ (seenRecords tail records).map Record.body, (!(Text.trimBlanks l).isEmpty) = true := by
      intro l mem
      obtain ⟨r, -, rfl⟩ := List.mem_map.1 mem
      rw [trimBlanks_body]
      rfl
    rw [tailOf_lines, splitLines_lines, List.filter_eq_self.2 nonblank]

/-- A read of a log written record by record from nothing, looking at its last `tail` bytes, answers
the records it sees parsed back, mappings all of them, those that answer the filters, newest first,
cut to the limit. -/
theorem read_written_log (records : List Record) (tail : Nat) (level kind : Option Value) (limit : Int) :
    ∃ events, List.Forall₂ (fun r v => Json.parse r.body = .ok v) (seenRecords tail records) events ∧
      (∀ v ∈ events, v.IsMapping) ∧
      (records.foldl Sink.write { tailBytes := tail }).read level kind limit =
        .ok (Sink.cutTo (min limit maxReadLimit) (events.filter (Sink.Answers level kind)).reverse) := by
  obtain ⟨events, parsed, mappings, values⟩ := parsed_bodies (seenRecords tail records)
  refine ⟨events, parsed, mappings, ?_⟩
  have tailBytes : (records.foldl Sink.write { tailBytes := tail }).tailBytes = tail := tailBytes_written _ _
  rw [Sink.read_eq _ level kind limit (by rw [tailBytes]; omega), windowValues_written, values,
    Sink.filterM_eq_ok fun v mem => Sink.passes_mapping level kind (mappings v mem)]
  rfl

end Spreadsheet.Log
