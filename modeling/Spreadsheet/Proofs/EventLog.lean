import Spreadsheet.Log.Sink

/-!
Reading the event log.

A read of a log that exists looks at the lines of the file's tail (`Sink.windowLines`), keeps the
JSON values of those that are not blank and hold JSON (`Sink.windowValues`), filters them by level
and kind, and answers the last ones first, cut to the limit (`read_eq`). The filter is monadic: with
no filter every value passes, and a mapping passes when its `level` and `event_type` entries are the
ones asked for (`Answers`), but a filter that meets a value that is not a mapping stops the read.
So a read without filters never fails and returns every JSON value of its window, mappings or not;
a read with a filter fails exactly when one of those values is not a mapping (`read_outcome`).
-/

namespace Spreadsheet

def Value.IsMapping (v : Value) : Prop := ∃ entries, v = .dict entries

namespace Log.Sink

section FilterM

variable {α ε : Type} {f : α → Except ε Bool}

theorem filterAuxM_eq_ok {g : α → Bool} :
    ∀ (xs acc : List α), (∀ x ∈ xs, f x = .ok (g x)) →
      List.filterAuxM f xs acc = .ok ((xs.filter g).reverse ++ acc)
  | [], acc, _ => rfl
  | x :: rest, acc, agrees => by
    have tested : f x = .ok (g x) := agrees x List.mem_cons_self
    have more := filterAuxM_eq_ok rest (cond (g x) (x :: acc) acc)
      fun y mem => agrees y (List.mem_cons_of_mem x mem)
    simp only [List.filterAuxM, tested, bind, Except.bind, more]
    cases picked : g x <;> simp [picked]

theorem filterM_eq_ok {g : α → Bool} {xs : List α} (agrees : ∀ x ∈ xs, f x = .ok (g x)) :
    xs.filterM f = .ok (xs.filter g) := by
  simp only [List.filterM, filterAuxM_eq_ok xs [] agrees, bind, Except.bind, pure, Except.pure,
    List.append_nil, List.reverse_reverse]

theorem filterAuxM_eq_error {e : ε} :
    ∀ (xs acc : List α), (∀ x ∈ xs, ∀ e', f x = .error e' → e' = e) → (∃ x ∈ xs, ∀ b, f x ≠ .ok b) →
      List.filterAuxM f xs acc = .error e
  | [], _, _, ⟨_, absent, _⟩ => absurd absent List.not_mem_nil
  | x :: rest, acc, errors, ⟨y, mem, fails⟩ => by
    simp only [List.filterAuxM, bind, Except.bind]
    cases tested : f x with
    | error e' => exact congrArg Except.error (errors x List.mem_cons_self e' tested)
    | ok b =>
      refine filterAuxM_eq_error rest _ (fun z mem => errors z (List.mem_cons_of_mem x mem)) ?_
      rcases List.mem_cons.1 mem with rfl | later
      · exact absurd tested (fails b)
      · exact ⟨y, later, fails⟩

theorem mem_of_filterAuxM_eq_ok :
    ∀ (xs acc : List α) {kept : List α}, List.filterAuxM f xs acc = .ok kept → ∀ y ∈ kept, y ∈ xs ∨ y ∈ acc
  | [], acc, kept, done, y, mem => by
    cases done
    exact .inr mem
  | x :: rest, acc, kept, done, y, mem => by
    simp only [List.filterAuxM, bind, Except.bind] at done
    cases tested : f x with
    | error e => rw [tested] at done; cases done
    | ok b =>
      rw [tested] at done
      rcases mem_of_filterAuxM_eq_ok rest _ done y mem with later | kept
      · exact .inl (List.mem_cons_of_mem x later)
      · cases b
        · exact .inr kept
        · rcases List.mem_cons.1 kept with rfl | earlier
          · exact .inl List.mem_cons_self
          · exact .inr earlier

theorem mem_of_filterM_eq_ok {xs kept : List α} (done : xs.filterM f = .ok kept) : ∀ y ∈ kept, y ∈ xs := by
  simp only [List.filterM, bind, Except.bind] at done
  cases filtered : List.filterAuxM f xs [] with
  | error e => rw [filtered] at done; cases done
  | ok r =>
    rw [filtered] at done
    cases done
    intro y mem
    exact (mem_of_filterAuxM_eq_ok xs [] filtered y (List.mem_reverse.1 mem)).resolve_right List.not_mem_nil

theorem filterM_eq_error {e : ε} {xs : List α} (errors : ∀ x ∈ xs, ∀ e', f x = .error e' → e' = e)
    (fails : ∃ x ∈ xs, ∀ b, f x ≠ .ok b) : xs.filterM f = .error e := by
  simp only [List.filterM, filterAuxM_eq_error xs [] errors fails, bind, Except.bind]

end FilterM

/-- The lines a read looks at, in file order: those of the file's tail less its cut line. -/
def windowLines (s : Sink) : List String :=
  match s.text with
  | none => []
  | some text => Text.splitLines (tailOf text s.tailBytes.toNat)

/-- The JSON values of the lines a read looks at that are not blank and hold JSON, in file order. -/
def windowValues (s : Sink) : List Value :=
  (s.windowLines.filter fun l => !(Text.trimBlanks l).isEmpty).filterMap fun l => (Json.parse l).toOption

theorem mem_windowValues {s : Sink} {v : Value} :
    v ∈ s.windowValues ↔ ∃ l ∈ s.windowLines, (Text.trimBlanks l).isEmpty = false ∧ Json.parse l = .ok v := by
  simp only [windowValues, List.mem_filterMap, List.mem_filter, Bool.not_eq_true']
  refine exists_congr fun l => and_assoc.trans (and_congr_right fun _ => and_congr_right fun _ => ?_)
  cases Json.parse l <;> simp [Except.toOption]

/-- Whether a value answers the filters: its `level` and `event_type` entries equal the values
asked for, where one is asked for. -/
def Answers (level kind : Option Value) (v : Value) : Bool :=
  (level.all fun want => ((v.get? "level").getD .null).equals want) &&
    (kind.all fun want => ((v.get? "event_type").getD .null).equals want)

theorem passes_mapping (level kind : Option Value) {v : Value} (mapping : v.IsMapping) :
    passes level kind v = .ok (Answers level kind v) := by
  obtain ⟨entries, rfl⟩ := mapping
  cases level <;> cases kind <;> rfl

theorem passes_unfiltered (v : Value) : passes none none v = .ok true := rfl

theorem passes_not_mapping {level kind : Option Value} (filtered : level ≠ none ∨ kind ≠ none) {v : Value}
    (other : ¬v.IsMapping) : passes level kind v = .error .notAMapping := by
  have unfiltered : ∀ entries, v ≠ .dict entries := fun entries same => other ⟨entries, same⟩
  unfold passes
  split
  · simp at filtered
  · split
    · exact absurd rfl (unfiltered _)
    · rfl

theorem passes_error {level kind : Option Value} {v : Value} {e : ReadError} (failed : passes level kind v = .error e) :
    e = .notAMapping := by
  unfold passes at failed
  split at failed
  · cases failed
  · split at failed <;> cases failed; rfl

theorem read_eq (s : Sink) (level kind : Option Value) (limit : Int) (tail : 0 ≤ s.tailBytes) :
    s.read level kind limit =
      s.windowValues.filterM (passes level kind) >>= fun kept => pure (cutTo (min limit maxReadLimit) kept.reverse) := by
  unfold read windowValues windowLines
  cases s.text with
  | none =>
    have nothing : ([] : List Value).filterM (passes level kind) = .ok [] := rfl
    simp only [List.filter_nil, List.filterMap_nil, nothing]
    simp [cutTo, bind, Except.bind]
  | some text => simp [if_neg (Int.not_lt.2 tail)]

theorem cutTo_subset (limit : Int) (xs : List Value) : cutTo limit xs ⊆ xs := by
  unfold cutTo
  split <;> exact List.take_subset _ _

/-- A read of the log fails on what the file holds only when it filters. Without filters it returns
the JSON value of every line of its window that is not blank and holds JSON, mapping or not, newest
first and cut to the limit. With a filter it fails exactly when one of those values is not a
mapping, and otherwise returns those that answer the filters. Whatever it returns is the JSON of a
line of its window that is not blank. -/
theorem read_outcome (s : Sink) (level kind : Option Value) (limit : Int) (tail : 0 ≤ s.tailBytes) :
    (level = none → kind = none →
      s.read level kind limit = .ok (cutTo (min limit maxReadLimit) s.windowValues.reverse)) ∧
    ((level ≠ none ∨ kind ≠ none) →
      (s.read level kind limit = .error .notAMapping ↔ ∃ v ∈ s.windowValues, ¬v.IsMapping) ∧
      ((∀ v ∈ s.windowValues, v.IsMapping) →
        s.read level kind limit =
          .ok (cutTo (min limit maxReadLimit) (s.windowValues.filter (Answers level kind)).reverse))) ∧
    (∀ events, s.read level kind limit = .ok events → ∀ v ∈ events,
      ∃ l ∈ s.windowLines, (Text.trimBlanks l).isEmpty = false ∧ Json.parse l = .ok v) := by
  refine ⟨?unfiltered, ?filtered, ?found⟩
  case unfiltered =>
    rintro rfl rfl
    have kept : s.windowValues.filterM (passes none none) = .ok (s.windowValues.filter fun _ => true) :=
      filterM_eq_ok fun v _ => passes_unfiltered v
    rw [read_eq s none none limit tail, kept, List.filter_eq_self.2 fun _ _ => rfl]
    rfl
  case filtered =>
    intro filtered
    have mappings : (∀ v ∈ s.windowValues, v.IsMapping) → s.read level kind limit =
        .ok (cutTo (min limit maxReadLimit) (s.windowValues.filter (Answers level kind)).reverse) := by
      intro all
      rw [read_eq s level kind limit tail, filterM_eq_ok fun v mem => passes_mapping level kind (all v mem)]
      rfl
    refine ⟨⟨fun failed => ?_, fun ⟨v, mem, other⟩ => ?_⟩, mappings⟩
    · -- a read that fails meets a value that is not a mapping
      refine Classical.byContradiction fun none => ?_
      simp only [not_exists, not_and, Classical.not_not] at none
      rw [mappings none] at failed
      cases failed
    · rw [read_eq s level kind limit tail, filterM_eq_error (fun _ _ _ failed => passes_error failed)
        ⟨v, mem, fun b passed => by rw [passes_not_mapping filtered other] at passed; cases passed⟩]
      rfl
  case found =>
    intro events read v mem
    rw [read_eq s level kind limit tail] at read
    cases filtered : s.windowValues.filterM (passes level kind) with
    | error e => rw [filtered] at read; cases read
    | ok kept =>
      rw [filtered] at read
      cases read
      have found : v ∈ kept := List.mem_reverse.1 (cutTo_subset _ _ mem)
      exact mem_windowValues.1 (mem_of_filterM_eq_ok filtered v found)

theorem read_mixed_log :
    ({ text := some "1\n\nx\n\x7b\x7d\n" } : Sink).read none none defaultReadLimit = .ok [.dict [], .int 1] ∧
      ({ text := some "1\n\nx\n\x7b\x7d\n" } : Sink).read (some (.str "info")) none defaultReadLimit =
        .error .notAMapping := by
  have lines : ({ text := some "1\n\nx\n\x7b\x7d\n" } : Sink).windowLines = ["1", "", "x", "\x7b\x7d"] := by decide
  have values : ({ text := some "1\n\nx\n\x7b\x7d\n" } : Sink).windowValues = [.int 1, .dict []] := by
    rw [windowValues, lines]
    rfl
  have tail : (0 : Int) ≤ ({ text := some "1\n\nx\n\x7b\x7d\n" } : Sink).tailBytes := by decide
  constructor
  · rw [(read_outcome _ none none defaultReadLimit tail).1 rfl rfl, values]
    rfl
  · refine ((read_outcome _ (some (.str "info")) none defaultReadLimit tail).2.1
      (.inl (Option.some_ne_none _))).1.2 ⟨.int 1, ?_, ?_⟩
    · rw [values]
      exact List.mem_cons_self
    · rintro ⟨entries, ⟨⟩⟩

end Log.Sink

end Spreadsheet
