import ModularSynth.Proofs.Language.Descent

/-!
# Recovering from errors

A reader can be called again whatever came of the last call (`ItemReader.recovers`). Each call takes
items from the front and every item is taken once, each returns what a new reader would return, and
calling until nothing is returned takes at most one call more than there are items. Up to the first
error the calls return what `parse` does (`ItemReader.parse_remaining`).

All of it follows from what one call does, which is a function of the items that are left
(`ItemReader.call_eq`, `ItemReader.remaining_after_succ`).
-/

namespace ModularSynth

theorem readStatement_eq_finished_iff {items : List LexItem} :
    readStatement items = .finished ↔
      ∀ item ∈ items, ∃ position, item = .ok ⟨.newline, position⟩ := by
  induction items with
  | nil => exact ⟨fun _ item impossible => absurd impossible List.not_mem_nil, fun _ => rfl⟩
  | cons item items ih =>
    rw [List.forall_mem_cons, ← ih]
    rcases item with error | ⟨lexeme, position⟩
    · exact ⟨nofun, nofun⟩
    · by_cases line_end : lexeme = .newline
      · rw [readStatement, if_pos line_end, line_end]
        exact ⟨fun finished => ⟨⟨position, rfl⟩, finished⟩, And.right⟩
      · constructor
        · intro finished
          rw [readStatement, if_neg line_end] at finished
          split at finished
          · exact absurd finished (continueStatement_ne_finished _ _ _ _)
          · cases finished
        · rintro ⟨⟨_, same⟩, -⟩
          cases same
          exact absurd rfl line_end

namespace ParseResult

variable {result : ParseResult}

theorem outcome_eq_none_iff : result.outcome = .ok none ↔ result = .finished := by
  cases result with
  | finished => exact ⟨fun _ => rfl, fun _ => rfl⟩
  | statement read rest => exact ⟨nofun, nofun⟩
  | failed error rest => exact ⟨nofun, nofun⟩

theorem eq_statement_of_outcome {read : Statement} (outcome : result.outcome = .ok (some read)) :
    result = .statement read result.rest := by
  cases result with
  | statement found rest =>
    cases outcome
    rfl
  | _ => cases outcome

theorem eq_failed_of_outcome {error : ParseError} (outcome : result.outcome = .error error) :
    result = .failed error result.rest := by
  cases result with
  | failed found rest =>
    cases outcome
    rfl
  | _ => cases outcome

end ParseResult

namespace ItemReader

open Reading

/-- The reader after a number of calls. -/
def after (reader : ItemReader) : Nat → ItemReader
  | 0 => reader
  | n + 1 => (statement.on (reader.after n)).2

/-- What a call returns. The first call has the number nought. -/
def call (reader : ItemReader) (n : Nat) : Except ParseError (Option Statement) :=
  (statement.on (reader.after n)).1

/-- The items that a call takes. -/
def taken (reader : ItemReader) (n : Nat) : List LexItem :=
  (reader.after n).remaining.take
    ((reader.after n).remaining.length - (reader.after (n + 1)).remaining.length)

theorem after_succ (reader : ItemReader) (n : Nat) :
    reader.after (n + 1) = (statement.on reader).2.after n := by
  induction n with
  | zero => rfl
  | succ n ih => exact congrArg (fun reader => (statement.on reader).2) ih

theorem call_succ (reader : ItemReader) (n : Nat) :
    reader.call (n + 1) = (statement.on reader).2.call n :=
  congrArg (fun reader => (statement.on reader).1) (reader.after_succ n)

theorem call_eq (reader : ItemReader) (n : Nat) :
    reader.call n = (readStatement (reader.after n).remaining).outcome :=
  (meets_statement _).1

theorem remaining_after_succ (reader : ItemReader) (n : Nat) :
    (reader.after (n + 1)).remaining = (readStatement (reader.after n).remaining).rest :=
  (meets_statement _).2

theorem taken_eq (reader : ItemReader) (n : Nat) :
    reader.taken n = (reader.after n).remaining.take ((reader.after n).remaining.length -
      (readStatement (reader.after n).remaining).rest.length) := by
  rw [taken, remaining_after_succ]

theorem taken_append (reader : ItemReader) (n : Nat) :
    reader.taken n ++ (reader.after (n + 1)).remaining = (reader.after n).remaining := by
  obtain ⟨front, cut⟩ := takes_statement (reader.after n)
  have cut : front ++ (reader.after (n + 1)).remaining = (reader.after n).remaining := cut
  have same : reader.taken n = front := by
    simp only [taken, ← cut, List.length_append, Nat.add_sub_cancel, List.take_left]
  rw [same, cut]

theorem flatMap_taken (reader : ItemReader) (n : Nat) :
    (List.range n).flatMap reader.taken ++ (reader.after n).remaining = reader.remaining := by
  induction n with
  | zero => rfl
  | succ n ih =>
    rw [List.range_succ, List.flatMap_append, List.flatMap_singleton, List.append_assoc,
      taken_append, ih]

theorem taken_ne_nil {reader : ItemReader} {n : Nat} (something : reader.call n ≠ .ok none) :
    reader.taken n ≠ [] := by
  intro nothing
  have cut := reader.taken_append n
  rw [nothing, List.nil_append] at cut
  have fewer := (statement_on_eq_none_or_lt (reader.after n)).resolve_left something
  exact Nat.ne_of_lt fewer (congrArg List.length cut)

theorem call_eq_none_iff {reader : ItemReader} {n : Nat} :
    reader.call n = .ok none ↔
      ∀ item ∈ (reader.after n).remaining, ∃ position, item = .ok ⟨.newline, position⟩ := by
  rw [call_eq, ParseResult.outcome_eq_none_iff, readStatement_eq_finished_iff]

theorem call_succ_eq_none {reader : ItemReader} {n : Nat} (nothing : reader.call n = .ok none) :
    reader.call (n + 1) = .ok none := by
  rw [call_eq, ParseResult.outcome_eq_none_iff] at nothing
  rw [call_eq, remaining_after_succ, nothing]
  rfl

theorem call_eq_none_of_le {reader : ItemReader} {n m : Nat} (later : n ≤ m)
    (nothing : reader.call n = .ok none) : reader.call m = .ok none := by
  induction later with
  | refl => exact nothing
  | step _ ih => exact call_succ_eq_none ih

/-! ### Calling until nothing is returned -/

variable {reader later : ItemReader} {outcome : Except ParseError (Option Statement)}

theorem call_of_read (read : statement.on reader = (outcome, later)) :
    reader.call 0 = outcome ∧ ∀ n, reader.call (n + 1) = later.call n := by
  refine ⟨congrArg Prod.fst read, ?_⟩
  intro n
  rw [call_succ, read]

theorem length_of_read (read : statement.on reader = (outcome, later))
    (something : outcome ≠ .ok none) : later.remaining.length < reader.remaining.length := by
  have fewer := statement_on_eq_none_or_lt reader
  rw [read] at fewer
  exact fewer.resolve_left something

theorem call_length_statements (reader : ItemReader) :
    reader.call reader.statements.length = .ok none := by
  fun_induction statements reader with
  | case1 reader later read => exact (call_of_read read).1
  | case2 reader statement later read ih => exact ((call_of_read read).2 _).trans ih
  | case3 reader error later read ih => exact ((call_of_read read).2 _).trans ih

theorem length_statements_le (reader : ItemReader) :
    reader.statements.length ≤ reader.remaining.length := by
  fun_induction statements reader with
  | case1 reader later read => exact Nat.zero_le _
  | case2 reader statement later read ih => exact Nat.lt_of_le_of_lt ih (length_of_read read nofun)
  | case3 reader error later read ih => exact Nat.lt_of_le_of_lt ih (length_of_read read nofun)

theorem map_call_of_read (read : statement.on reader = (outcome, later)) (count : Nat) :
    (List.range (count + 1)).map reader.call = outcome :: (List.range count).map later.call := by
  obtain ⟨first, next⟩ := call_of_read read
  rw [List.range_succ_eq_map, List.map_cons, first, List.map_map]
  exact congrArg (outcome :: ·) (List.map_congr_left fun n _ => next n)

theorem map_statements (reader : ItemReader) :
    reader.statements.map (Except.map some) =
      (List.range reader.statements.length).map reader.call := by
  fun_induction statements reader with
  | case1 reader later read => rfl
  | case2 reader statement later read ih =>
    rw [List.length_cons, map_call_of_read read, ← ih]
    rfl
  | case3 reader error later read ih =>
    rw [List.length_cons, map_call_of_read read, ← ih]
    rfl

/-- Up to the first error, the statements are those of `parse`. -/
theorem parse_remaining (reader : ItemReader) :
    parse reader.remaining = proceed reader.statements [] := by
  fun_induction statements reader with
  | case1 reader later read =>
    obtain ⟨outcome, -⟩ := meets_statement reader
    rw [read] at outcome
    exact parse_of_finished (ParseResult.outcome_eq_none_iff.mp outcome.symm)
  | case2 reader statement later read ih =>
    obtain ⟨outcome, rest⟩ := meets_statement reader
    rw [read] at outcome rest
    have result := ParseResult.eq_statement_of_outcome outcome.symm
    rw [← rest] at result
    rw [parse_of_statement result, ih, proceed]
  | case3 reader error later read ih =>
    obtain ⟨outcome, -⟩ := meets_statement reader
    rw [read] at outcome
    rw [parse_of_failed (ParseResult.eq_failed_of_outcome outcome.symm), proceed]

/-- A reader of some items, of which none has been looked at. -/
def new (items : List LexItem) : ItemReader :=
  { upcoming := items }

/-- What calls do with some items, one after the other, whatever they return. -/
structure Recovers (items : List LexItem) : Prop where
  /-- The items that calls take, with those that are left, are the items: each stands there once. -/
  covers : ∀ n, (List.range n).flatMap (new items).taken ++ ((new items).after n).remaining = items
  /-- A call takes from the front of what is left, and something unless it returns nothing. -/
  takes : ∀ n,
    (new items).taken n ++ ((new items).after (n + 1)).remaining = ((new items).after n).remaining ∧
      ((new items).call n ≠ .ok none → (new items).taken n ≠ [])
  /-- A call returns and takes what the first call of a new reader would, for the items left. -/
  fresh : ∀ n, let left := ((new items).after n).remaining
    (new items).call n = (new left).call 0 ∧ (new items).taken n = (new left).taken 0
  /-- Nothing is returned when line ends are left and nothing else, -/
  nothing : ∀ n, (new items).call n = .ok none ↔
    ∀ item ∈ ((new items).after n).remaining, ∃ position, item = .ok ⟨.newline, position⟩
  /-- and ever after. -/
  forever : ∀ n m, n ≤ m → (new items).call n = .ok none → (new items).call m = .ok none
  /-- The loop that calls until nothing is returned collects what the calls before return. -/
  collects : (parseResuming items).map (Except.map some) =
    (List.range (parseResuming items).length).map (new items).call
  /-- It stops at the next call, -/
  stops : (new items).call (parseResuming items).length = .ok none
  /-- which is at most one more call than there are items. -/
  few : (parseResuming items).length ≤ items.length
  /-- Up to the first error it collects what `parse` does. -/
  parses : parse items = proceed (parseResuming items) []

theorem recovers (items : List LexItem) : Recovers items where
  covers n := (new items).flatMap_taken n
  takes n := ⟨(new items).taken_append n, taken_ne_nil⟩
  fresh n :=
    ⟨((new items).call_eq n).trans (call_eq (new _) 0).symm,
      ((new items).taken_eq n).trans (taken_eq (new _) 0).symm⟩
  nothing _ := call_eq_none_iff
  forever _ _ later := call_eq_none_of_le later
  collects := (new items).map_statements
  stops := (new items).call_length_statements
  few := (new items).length_statements_le
  parses := (new items).parse_remaining

end ItemReader

end ModularSynth
