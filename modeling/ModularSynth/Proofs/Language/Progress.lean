import ModularSynth.Proofs.Language.Resumption
import ModularSynth.Proofs.Language.Slicing

/-!
# Progress through a text

However often a reader is called, and whatever it returned before, it stands at the boundary of a
character of its text and knows the place of that character; a call that finds something takes a
character, and one that finds nothing never finds anything again (`TextReader.progresses`). So the
loop that calls until nothing is found ends, and up to its first error it finds the tokens of the
text. One call is known from the cursor that it follows (`exists_call_having`); the rest is
induction on the number of calls and on the number of characters left.
-/

namespace ModularSynth

namespace TextReader

open String (utf8Len)

variable {text : String} {read rest : List Char}

/-- A call finds nothing when white space is left and nothing else. Otherwise it takes a
character. -/
theorem exists_call_having (split : text.toList = read ++ rest) :
    ∃ item? used left, rest = used ++ left ∧
      Cursor.next ⟨rest, .following read⟩ = (item?, ⟨left, .following (read ++ used)⟩) ∧
      (having text read).nextToken = some (returns item?, having text (read ++ used)) ∧
      (item? = none ↔ ∀ c ∈ rest, isGap c = true) ∧ (item? ≠ none → used ≠ []) := by
  obtain ⟨item?, used, left, parts, stepped, called, nothing⟩ := exists_nextToken_having split
  refine ⟨item?, used, left, parts, stepped, called, nothing, ?_⟩
  intro something nothing_used
  obtain ⟨item, rfl⟩ := Option.ne_none_iff_exists'.mp something
  have fewer := Cursor.length_next_lt stepped
  rw [parts, nothing_used] at fewer
  exact Nat.lt_irrefl _ fewer

/-! ### One call after the other -/

/-- The reader after a number of calls, whatever they return. -/
def after (reader : TextReader) : Nat → Option TextReader
  | 0 => some reader
  | n + 1 => (reader.after n).bind fun later => later.nextToken.map (·.2)

/-- What a call returns. The first call has the number nought. -/
def call (reader : TextReader) (n : Nat) : Option (Except LexError (Option Token)) :=
  (reader.after n).bind fun later => later.nextToken.map (·.1)

theorem exists_after (text : String) (n : Nat) :
    ∃ read rest, text.toList = read ++ rest ∧ (new text).after n = some (having text read) := by
  induction n with
  | zero => exact ⟨[], text.toList, rfl, rfl⟩
  | succ n ih =>
    obtain ⟨read, rest, split, reached⟩ := ih
    obtain ⟨item?, used, left, parts, -, called, -⟩ := exists_call_having split
    refine ⟨read ++ used, left, ?_, ?_⟩
    · rw [split, parts, List.append_assoc]
    · simp only [after, reached, Option.bind_some, called, Option.map_some]

section Calls

variable {reader later : TextReader} {result : Except LexError (Option Token)}

theorem after_succ_of_call (called : reader.nextToken = some (result, later)) (n : Nat) :
    reader.after (n + 1) = later.after n := by
  induction n with
  | zero => simp only [after, Option.bind_some, called, Option.map_some]
  | succ n ih => exact congrArg (·.bind fun reader => reader.nextToken.map (·.2)) ih

theorem call_zero_of_call (called : reader.nextToken = some (result, later)) :
    reader.call 0 = some result := by
  simp only [call, after, Option.bind_some, called, Option.map_some]

theorem call_succ_of_call (called : reader.nextToken = some (result, later)) (n : Nat) :
    reader.call (n + 1) = later.call n :=
  congrArg (·.bind fun reader => reader.nextToken.map (·.1)) (after_succ_of_call called n)

theorem map_call_of_call (called : reader.nextToken = some (result, later)) (count : Nat) :
    (List.range (count + 1)).map reader.call =
      some result :: (List.range count).map later.call := by
  rw [List.range_succ_eq_map, List.map_cons, call_zero_of_call called, List.map_map]
  exact congrArg (some result :: ·)
    (List.map_congr_left fun n _ => call_succ_of_call called n)

theorem readings_of_nothing (called : reader.nextToken = some (.ok none, later)) :
    reader.readings = some ([], later) := by
  rw [readings, called]

theorem readings_of_item {item : LexItem}
    (called : reader.nextToken = some (item.map some, later)) :
    reader.readings =
      later.readings.map fun (found, last) => ((item, later.position) :: found, last) := by
  rw [readings, called]
  cases item with
  | _ => rfl

theorem items_of_nothing (called : reader.next = some (none, later)) :
    reader.items = some ([], later) := by
  rw [items, called]

theorem items_of_item {item : LexItem} (called : reader.next = some (some item, later)) :
    reader.items = later.items.map fun (items, last) => (item :: items, last) := by
  rw [items, called]

theorem next_of_ok {token? : Option Token} (unfailed : reader.failed = false)
    (called : reader.nextToken = some (.ok token?, later)) :
    reader.next = some (token?.map .ok, later) := by
  rw [next, unfailed, if_neg Bool.false_ne_true, called]
  rfl

theorem next_of_error {error : LexError} (unfailed : reader.failed = false)
    (called : reader.nextToken = some (.error error, later)) :
    reader.next = some (some (.error error), { later with failed := true }) := by
  rw [next, unfailed, if_neg Bool.false_ne_true, called]
  rfl

/-- These are what the calls return up to the one that finds nothing. -/
def Collects (reader : TextReader) (found : List (LexItem × Position)) : Prop :=
  found.map (fun reading => some (reading.1.map some)) =
      (List.range found.length).map reader.call ∧
    reader.call found.length = some (.ok none)

theorem Collects.cons {item : LexItem} {place : Position} {found : List (LexItem × Position)}
    (collects : later.Collects found)
    (called : reader.nextToken = some (item.map some, later)) :
    reader.Collects ((item, place) :: found) := by
  obtain ⟨returned, stopped⟩ := collects
  refine ⟨?_, ?_⟩
  · rw [List.length_cons, map_call_of_call called, ← returned]
    rfl
  · rw [List.length_cons, call_succ_of_call called, stopped]

theorem collects_of_readings {found : List (LexItem × Position)} {last : TextReader}
    (collected : reader.readings = some (found, last)) : reader.Collects found := by
  fun_induction readings reader generalizing found with
  | case1 => cases collected
  | case2 reader _ called =>
    cases collected
    exact ⟨rfl, call_zero_of_call called⟩
  | case3 reader token later called ih =>
    obtain ⟨⟨more, _⟩, collected, same⟩ := Option.map_eq_some_iff.mp collected
    cases same
    exact (ih collected).cons called
  | case4 reader error later called ih =>
    obtain ⟨⟨more, _⟩, collected, same⟩ := Option.map_eq_some_iff.mp collected
    cases same
    exact (ih collected).cons called

end Calls

/-- Both loops run to their end. The loop over all calls makes no more of them than there are
characters; the iterator yields what they return up to the first error, and then no more. -/
theorem exists_loops_having (split : text.toList = read ++ rest) :
    ∃ found last, (having text read).readings = some (found, last) ∧
      found.length ≤ rest.length ∧
      (Cursor.scan ⟨rest, .following read⟩).1 = proceed (found.map (·.1)) [] ∧
      ∃ done, (having text read).items = some (proceed (found.map (·.1)) [], done) ∧
        ∃ ended, done.next = some (none, ended) := by
  induction length : rest.length using Nat.strongRecOn generalizing read rest with
  | ind count ih =>
    obtain ⟨item?, used, left, parts, stepped, called, nothing, progress⟩ :=
      exists_call_having split
    have split' : text.toList = read ++ used ++ left := by
      rw [split, parts, List.append_assoc]
    cases item? with
    | none =>
      have yielded := items_of_nothing (next_of_ok rfl called)
      refine ⟨[], _, readings_of_nothing called, Nat.zero_le _, ?_, _, yielded, ?_⟩
      · rw [Cursor.scan_of_none stepped]
        rfl
      · -- What is left is white space again, so the next call finds nothing either.
        obtain ⟨item?, _, _, _, _, called, nothing', _⟩ := exists_call_having split'
        have blank : ∀ c ∈ left, isGap c = true := by
          intro c member
          apply nothing.mp rfl c
          rw [parts]
          exact List.mem_append_right used member
        cases nothing'.mpr blank
        exact ⟨_, next_of_ok rfl called⟩
    | some item =>
      have fewer : left.length < count := by
        have something := List.length_pos_iff.mpr (progress nofun)
        have lengths := congrArg List.length parts
        rw [List.length_append] at lengths
        omega
      obtain ⟨found, last, later_found, few, scanned, done, later_items, ended⟩ :=
        ih left.length fewer split' rfl
      have collected := readings_of_item called
      rw [later_found] at collected
      refine ⟨_, last, collected, Nat.lt_of_le_of_lt few fewer, ?_⟩
      cases item with
      | error error =>
        have yielded := items_of_item (next_of_error rfl called)
        have closed : ∀ reader : TextReader,
            { reader with failed := true }.next = some (none, { reader with failed := true }) :=
          fun _ => rfl
        refine ⟨?_, { having text (read ++ used) with failed := true }, ?_, _, closed _⟩
        · rw [Cursor.scan_of_error stepped]
          rfl
        · rw [yielded, items_of_nothing (closed _)]
          rfl
      | ok token =>
        have yielded := items_of_item (next_of_ok rfl called)
        refine ⟨?_, done, ?_, ended⟩
        · rw [Cursor.scan_of_token stepped, scanned]
          rfl
        · rw [yielded, later_items]
          rfl

/-! ### All calls -/

/-- The characters before the offset. -/
def front (reader : TextReader) : List Char :=
  (String.Pos.Raw.extract reader.source 0 reader.offset).toList

/-- The characters from the offset on. -/
def back (reader : TextReader) : List Char :=
  (reader.offset.extract reader.source reader.source.rawEndPos).toList

theorem front_having (split : text.toList = read ++ rest) : (having text read).front = read := by
  have text_eq : text = String.ofList ([] ++ read ++ rest) := by
    rw [List.nil_append, ← split, String.ofList_toList]
  have taken := String.extract_of_valid [] read rest
  rw [← text_eq, String.utf8Len_nil, Nat.zero_add] at taken
  exact (congrArg String.toList taken).trans String.toList_ofList

theorem back_having (split : text.toList = read ++ rest) : (having text read).back = rest := by
  have text_eq : text = String.ofList (read ++ rest ++ []) := by
    rw [List.append_nil, ← split, String.ofList_toList]
  have taken := String.extract_of_valid read rest []
  have whole : text.rawEndPos = ⟨utf8Len read + utf8Len rest⟩ := by
    rw [text_eq, String.rawEndPos_ofList, List.append_nil, String.utf8Len_append]
  rw [← text_eq, ← whole] at taken
  exact (congrArg String.toList taken).trans String.toList_ofList

/-- The reader is at the boundary of a character of the text, which is not past the end, and its
place is that of the next character. -/
structure Stands (text : String) (reader : TextReader) : Prop where
  source : reader.source = text
  boundary : reader.offset.IsValid text
  whole : reader.front ++ reader.back = text.toList
  place : reader.position = .following reader.front

/-- What calls do with a text, one after the other and whatever they return. -/
structure Progresses (text : String) : Prop where
  /-- None of them stops the program, and after each the reader stands somewhere in the text. -/
  stands : ∀ n, ∃ reader, (new text).after n = some reader ∧ reader.Stands text
  /-- A call that finds something takes a character at least. -/
  takes : ∀ n reader later, (new text).after n = some reader →
    (new text).after (n + 1) = some later → (new text).call n ≠ some (.ok none) →
      ∃ c cs, later.front = reader.front ++ c :: cs
  /-- Nothing is found when white space is left and nothing else, and no line feed, -/
  nothing : ∀ n reader, (new text).after n = some reader →
    ((new text).call n = some (.ok none) ↔ ∀ c ∈ reader.back, isGap c = true)
  /-- and ever after. -/
  forever : ∀ n m, n ≤ m → (new text).call n = some (.ok none) →
    (new text).call m = some (.ok none)
  /-- Calling until nothing is found collects what the calls before return, stops at the next call,
  which is at most one more call than there are characters, and what the iterator yields is the
  same up to the first error. -/
  loops : ∃ found last, (new text).readings = some (found, last) ∧ (new text).Collects found ∧
    found.length ≤ text.length ∧ tokens text = proceed (found.map (·.1)) [] ∧
    ∃ done, (new text).items = some (tokens text, done) ∧ ∃ ended, done.next = some (none, ended)

theorem stands_having (split : text.toList = read ++ rest) : (having text read).Stands text where
  source := rfl
  boundary := isValid_having split
  whole := by rw [front_having split, back_having split, split]
  place := by rw [front_having split, position_having]

/-- What the next call comes to, wherever the calls before have led. -/
theorem exists_call (text : String) (n : Nat) :
    ∃ item? read used left, text.toList = read ++ (used ++ left) ∧
      (new text).after n = some (having text read) ∧
      (new text).after (n + 1) = some (having text (read ++ used)) ∧
      (new text).call n = some (returns item?) ∧
      (item? = none ↔ ∀ c ∈ used ++ left, isGap c = true) ∧ (item? ≠ none → used ≠ []) := by
  obtain ⟨read, rest, split, reached⟩ := exists_after text n
  obtain ⟨item?, used, left, rfl, -, called, nothing, progress⟩ := exists_call_having split
  refine ⟨item?, read, used, left, split, reached, ?_, ?_, nothing, progress⟩
  · simp only [after, reached, Option.bind_some, called, Option.map_some]
  · simp only [call, reached, Option.bind_some, called, Option.map_some]

theorem returns_eq_none_iff {item? : Option LexItem} : returns item? = .ok none ↔ item? = none := by
  rcases item? with _ | error | token
  · exact ⟨fun _ => rfl, fun _ => rfl⟩
  · exact ⟨nofun, nofun⟩
  · exact ⟨nofun, nofun⟩

section All

variable {n : Nat} {reader later : TextReader}

theorem call_eq_none_iff (reached : (new text).after n = some reader) :
    (new text).call n = some (.ok none) ↔ ∀ c ∈ reader.back, isGap c = true := by
  obtain ⟨item?, read, used, left, split, here, -, returned, nothing, -⟩ := exists_call text n
  rw [reached] at here
  cases here
  rw [returned, Option.some.injEq, returns_eq_none_iff, back_having split]
  exact nothing

theorem call_succ_eq_none (nothing : (new text).call n = some (.ok none)) :
    (new text).call (n + 1) = some (.ok none) := by
  obtain ⟨-, read, used, left, split, here, next, -⟩ := exists_call text n
  rw [call_eq_none_iff here, back_having split] at nothing
  rw [← List.append_assoc] at split
  rw [call_eq_none_iff next, back_having split]
  exact fun c member => nothing c (List.mem_append_right used member)

theorem call_eq_none_of_le {m : Nat} (le : n ≤ m) (nothing : (new text).call n = some (.ok none)) :
    (new text).call m = some (.ok none) := by
  induction le with
  | refl => exact nothing
  | step _ ih => exact call_succ_eq_none ih

theorem exists_front_of_call (here : (new text).after n = some reader)
    (next : (new text).after (n + 1) = some later)
    (something : (new text).call n ≠ some (.ok none)) :
    ∃ c cs, later.front = reader.front ++ c :: cs := by
  obtain ⟨item?, read, used, left, split, here', next', returned, -, progress⟩ :=
    exists_call text n
  rw [here] at here'
  rw [next] at next'
  cases here'
  cases next'
  rw [returned, Ne, Option.some.injEq, returns_eq_none_iff] at something
  obtain ⟨c, cs, rfl⟩ := List.exists_cons_of_ne_nil (progress something)
  have split' : text.toList = read ++ c :: cs ++ left := by rw [split, List.append_assoc]
  exact ⟨c, cs, by rw [front_having split, front_having split']⟩

end All

theorem progresses (text : String) : Progresses text where
  stands n := by
    obtain ⟨read, rest, split, reached⟩ := exists_after text n
    exact ⟨_, reached, stands_having split⟩
  takes _ _ _ := exists_front_of_call
  nothing _ _ := call_eq_none_iff
  forever _ _ := call_eq_none_of_le
  loops := by
    obtain ⟨found, last, collected, few, scanned, done, yielded, ended⟩ :=
      exists_loops_having (show text.toList = [] ++ text.toList from rfl)
    have collects := collects_of_readings collected
    have tokens_eq : tokens text = proceed (found.map (·.1)) [] := scanned
    rw [← tokens_eq] at yielded
    exact ⟨found, last, collected, collects, few, tokens_eq, done, yielded, ended⟩

/-- The third call stops before the second point of the number, after eight characters in ten
bytes. -/
example : ((new "éé = 1.2.3").after 3).map (fun reader => (reader.offset.byteIdx, reader.position)) =
    some (10, ⟨1, 9⟩) := by
  decide +kernel

end TextReader

end ModularSynth
