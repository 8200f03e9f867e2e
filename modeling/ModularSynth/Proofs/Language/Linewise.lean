import ModularSynth.Proofs.Language.FirstError
import ModularSynth.Proofs.Language.Relocation

/-!
# Parsing line by line

What a line says does not depend on the lines around it. Behind a text that ends with a line feed
every text is parsed as if it stood alone, with its places that many lines further down
(`resultsOf_append`), unless there is an error in front of it. Since no line says more than one
thing (`parse_of_unbroken`), the results of a text are those of its lines, in their order
(`linewise`).
-/

namespace ModularSynth

/-! ### Places further down -/

namespace Position

def down (lines : Nat) (position : Position) : Position :=
  ⟨position.line + lines, position.column⟩

theorem advance_down (lines : Nat) (position : Position) (c : Char) :
    (position.down lines).advance c = (position.advance c).down lines := by
  unfold advance down
  split
  next => rw [Nat.add_right_comm]
  next => rfl

theorem after_down (lines : Nat) (position : Position) (cs : List Char) :
    (position.down lines).after cs = (position.after cs).down lines := by
  induction cs generalizing position with
  | nil => rfl
  | cons c cs ih => rw [after_cons, after_cons, advance_down, ih]

/-- Columns are counted from the last line feed. -/
theorem following_of_endsLine {before : List Char} (ends : EndsLine before) :
    following before = start.down (before.count '\n') := by
  have column : before.reverse.takeWhile (· ≠ '\n') = [] := by
    cases last : before.reverse with
    | nil => rfl
    | cons c rest =>
      have feed : c = '\n' := by
        apply ends
        rw [← List.head?_reverse, last]
        rfl
      simp [feed]
  unfold following
  rw [column, Nat.add_comm]
  rfl

/-- Whole lines in front change the line only. -/
theorem following_append_of_endsLine {before : List Char} (ends : EndsLine before)
    (cs : List Char) : following (before ++ cs) = (following cs).down (before.count '\n') := by
  rw [← following_append, following_of_endsLine ends, after_down, start_after]

end Position

/-! ### Texts further down -/

section Down

variable {before : List Char} (ends : EndsLine before)
include ends

theorem Stuck.down {inner cs : List Char} {error : LexError} (stuck : Stuck inner cs error) :
    Stuck (before ++ inner) cs (error.move (.down (before.count '\n'))) := by
  have place := Position.following_append_of_endsLine ends
  unfold LexError.move
  cases stuck with
  | character stray =>
    rw [← place]
    exact .character stray
  | hyphen no_arrow no_number =>
    rw [← place]
    exact .hyphen no_arrow no_number
  | point pointed =>
    rw [← place, ← List.append_assoc]
    exact .point pointed
  | text every unclosed =>
    rw [← place]
    exact .text every unclosed

/-- Behind a line feed a text is cut as if it stood alone. -/
theorem Cut.down {inner cs : List Char} {items : List LexItem} (cut : Cut inner cs items) :
    Cut (before ++ inner) cs (items.map (moveItem (.down (before.count '\n')))) := by
  induction cut with
  | finish blank => exact .finish blank
  | @token inner gap after lexeme items blank shaped stops _ ih =>
    rw [← List.append_assoc, ← List.append_assoc] at ih
    have cut := Cut.token blank shaped stops ih
    rw [List.append_assoc before, Position.following_append_of_endsLine ends] at cut
    exact cut
  | @stop inner gap rest error blank stuck =>
    have stuck := stuck.down ends
    rw [← List.append_assoc] at stuck
    exact .stop blank stuck

end Down

/-! ### Results -/

section Proceed

variable {ε α : Type}

theorem proceed_of_fine {items : List (Except ε α)} (fine : ∀ item ∈ items, ∃ a, item = .ok a)
    (later : List (Except ε α)) : proceed items later = items ++ later := by
  obtain ⟨values, rfl⟩ := exists_eq_map_ok fine
  clear fine
  induction values with
  | nil => rfl
  | cons value values ih => rw [List.map_cons, proceed, ih, List.cons_append]

theorem proceed_of_error (values : List α) (error : ε) (later : List (Except ε α)) :
    proceed (values.map .ok ++ [.error error]) later = values.map .ok ++ [.error error] := by
  induction values with
  | nil => rfl
  | cons value values ih => rw [List.map_cons, List.cons_append, proceed, ih]

theorem mem_of_mem_proceed {items later : List (Except ε α)} {item : Except ε α}
    (member : item ∈ proceed items later) : item ∈ items ∨ item ∈ later := by
  induction items with
  | nil => exact Or.inr member
  | cons first items ih =>
    cases first with
    | error error =>
      cases List.mem_singleton.mp member
      exact Or.inl List.mem_cons_self
    | ok value =>
      rcases List.mem_cons.mp member with rfl | member
      · exact Or.inl List.mem_cons_self
      · exact (ih member).imp_left (List.mem_cons_of_mem _)

end Proceed

theorem proceed_parse_of_broken {items : List LexItem}
    (broken : ∃ error, .error error ∈ parse items) (later : List (Except ParseError Statement)) :
    proceed (parse items) later = parse items := by
  obtain ⟨error, member⟩ := broken
  obtain ⟨statements, fine | ⟨last, same⟩⟩ := parse_cases items
  · rw [fine] at member
    obtain ⟨statement, -, impossible⟩ := List.mem_map.mp member
    cases impossible
  · rw [same, proceed_of_error]

/-- The results of some characters that stand alone. -/
def resultsOf (cs : List Char) : List (Except ParseError Statement) :=
  parseText (String.ofList cs)

theorem resultsOf_of_cut {cs : List Char} {items : List LexItem} (cut : Cut [] cs items) :
    resultsOf cs = parse items := by
  have scanned := Cursor.scan_of_cut cut
  unfold resultsOf parseText tokens Cursor.ofString
  rw [String.toList_ofList]
  exact congrArg parse scanned

theorem resultsOf_nil : resultsOf [] = [] := by
  have nothing : Cut [] [] [] := .finish (List.forall_mem_nil _)
  rw [resultsOf_of_cut nothing, parse_of_finished rfl]

/-- The results of a text that ends with a line feed are followed by those of the rest, that many
lines further down. -/
theorem resultsOf_append {cs : List Char} (ends : EndsLine cs) (ds : List Char) :
    resultsOf (cs ++ ds) =
      proceed (resultsOf cs) ((resultsOf ds).map (moveResult (.down (cs.count '\n')))) := by
  obtain ⟨items, cut⟩ := exists_cut [] cs
  obtain ⟨later, next⟩ := exists_cut [] ds
  have behind := next.down ends
  rw [List.append_nil] at behind
  rw [resultsOf_of_cut cut, resultsOf_of_cut next, ← parse_move,
    resultsOf_of_cut (cut.proceed ends behind), parse_proceed (cut.closed ends)]

/-! ### One line -/

/-- No line feed, or one at the end. -/
def OneLine (cs : List Char) : Prop :=
  ∀ front c back, cs = front ++ c :: back → '\n' ∉ front

/-- Nothing comes after a line end. -/
def Unbroken (items : List LexItem) : Prop :=
  ∀ front token rest, items = front ++ .ok token :: rest → token.lexeme = .newline → rest = []

theorem Cut.eq_nil {before : List Char} {items : List LexItem} (cut : Cut before [] items) :
    items = [] := by
  have nothing : Cut before [] [] := .finish (List.forall_mem_nil _)
  rw [← Cursor.scan_of_cut cut, Cursor.scan_of_cut nothing]

theorem Cut.unbroken {before cs : List Char} {items : List LexItem} (cut : Cut before cs items)
    (single : ∀ front back, cs = front ++ '\n' :: back → back = []) : Unbroken items := by
  induction cut with
  | finish blank =>
    intro front token rest split
    simp at split
  | @token before gap after lexeme items blank shaped stops cut ih =>
    intro front token rest split line_end
    cases front with
    | nil =>
      cases split
      cases line_end
      have nothing : after = [] := by
        apply single gap
        rw [List.append_assoc]
        rfl
      rw [nothing] at cut
      exact cut.eq_nil
    | cons item front =>
      obtain ⟨-, split⟩ := List.cons.inj split
      refine ih ?_ front token rest split line_end
      rintro inner back rfl
      apply single (gap ++ lexeme.spelling ++ inner)
      rw [List.append_assoc _ inner]
  | stop blank stuck =>
    intro front token rest split
    have member : (.ok token : LexItem) ∈ front ++ .ok token :: rest := by simp
    rw [← split] at member
    cases List.mem_singleton.mp member

/-- What is left after a statement stands right after a line end. -/
def LeftBehind (items rest : List LexItem) : Prop :=
  rest = [] ∨ ∃ front token, items = front ++ .ok token :: rest ∧ token.lexeme = .newline

theorem LeftBehind.cons {items rest : List LexItem} (left : LeftBehind items rest)
    (item : LexItem) : LeftBehind (item :: items) rest := by
  rcases left with nothing | ⟨front, token, rfl, line_end⟩
  · exact Or.inl nothing
  · exact Or.inr ⟨item :: front, token, rfl, line_end⟩

theorem leftBehind_of_continueStatement {items rest : List LexItem} {first last : Position}
    {state : Partial} {statement : Statement}
    (read : continueStatement first state last items = .statement statement rest) :
    LeftBehind items rest := by
  induction items generalizing state last with
  | nil =>
    rw [continueStatement] at read
    split at read
    next =>
      cases read
      exact Or.inl rfl
    next => cases read
  | cons item items ih =>
    cases item with
    | error error => cases read
    | ok token =>
      cases fed : state.feed token with
      | ok next =>
        rw [continueStatement_of_feeds (Partial.feed_eq_ok_iff.mp fed)] at read
        exact (ih read).cons _
      | error error =>
        rcases state.unfinished_or_ends token with unfinished | ⟨command, rfl, line_end⟩
        · rw [continueStatement_of_refused fed unfinished] at read
          cases read
        · rw [continueStatement_of_end rfl line_end] at read
          cases read
          exact Or.inr ⟨[], token, rfl, line_end⟩

theorem leftBehind_of_readStatement {items rest : List LexItem} {statement : Statement}
    (read : readStatement items = .statement statement rest) : LeftBehind items rest := by
  induction items with
  | nil => cases read
  | cons item items ih =>
    cases item with
    | error error => cases read
    | ok token =>
      by_cases blank : token.lexeme = .newline
      · simp only [readStatement, if_pos blank] at read
        exact (ih read).cons _
      · cases begun : Partial.begin token with
        | error error =>
          rw [readStatement_of_begin_error blank begun] at read
          cases read
        | ok state =>
          rw [readStatement_of_begin_ok blank begun] at read
          exact (leftBehind_of_continueStatement read).cons _

/-- A line has one result at most. -/
theorem parse_of_unbroken {items : List LexItem} (unbroken : Unbroken items) :
    parse items = [] ∨ ∃ result, parse items = [result] := by
  cases read : readStatement items with
  | finished => exact Or.inl (parse_of_finished read)
  | failed error rest => exact Or.inr ⟨_, parse_of_failed read⟩
  | statement statement rest =>
    have nothing : rest = [] := by
      rcases leftBehind_of_readStatement read with nothing | ⟨front, token, split, line_end⟩
      · exact nothing
      · exact unbroken front token rest split line_end
    rw [parse_of_statement read, nothing, parse_of_finished rfl]
    exact Or.inr ⟨_, rfl⟩

theorem OneLine.results {line : List Char} (single : OneLine line) :
    resultsOf line = [] ∨ ∃ alone, resultsOf line = [alone] ∧ (resultPlace alone).line = 1 := by
  obtain ⟨items, cut⟩ := exists_cut [] line
  have unbroken : Unbroken items := by
    apply cut.unbroken
    rintro front back rfl
    cases back with
    | nil => rfl
    | cons c back =>
      have feed_first := single (front ++ ['\n']) c back (by simp)
      exact absurd (by simp) feed_first
  have places : ∀ result ∈ parse items, (resultPlace result).line = 1 := by
    apply place_of_parse (P := fun position => position.line = 1)
    intro item member
    obtain ⟨front, c, back, split, place⟩ := cut.standsIn member
    rw [place, List.nil_append]
    show front.count '\n' + 1 = 1
    rw [List.count_eq_zero_of_not_mem (single front c back split)]
  rw [resultsOf_of_cut cut]
  rcases parse_of_unbroken unbroken with nothing | ⟨alone, only⟩
  · exact Or.inl nothing
  · refine Or.inr ⟨alone, only, places alone ?_⟩
    rw [only]
    exact List.mem_singleton_self alone

/-! ### Many lines -/

theorem Text.Ruled.oneLine {lines : List (List Char)} (ruled : Text.Ruled lines) {line : List Char}
    (member : line ∈ lines) : OneLine line := by
  obtain ⟨front, rest, rfl⟩ := List.append_of_mem member
  intro before c back split
  exact ruled.of_split.2 split

theorem resultPlace_move (f : Position → Position) (result : Except ParseError Statement) :
    resultPlace (moveResult f result) = f (resultPlace result) := by
  cases result with
  | ok statement => rfl
  | error error =>
    cases error with
    | _ => rfl

/-- The result is the only one of the line with this number, counted from zero. -/
def ComesFrom (lines : List (List Char)) (k : Nat) (result : Except ParseError Statement) : Prop :=
  ∃ line alone, lines[k]? = some line ∧ resultsOf line = [alone] ∧
    (resultPlace alone).line = 1 ∧ result = moveResult (.down k) alone

theorem ComesFrom.line_eq {lines : List (List Char)} {k : Nat}
    {result : Except ParseError Statement} (comes : ComesFrom lines k result) :
    (resultPlace result).line = k + 1 := by
  obtain ⟨line, alone, -, -, first, rfl⟩ := comes
  rw [resultPlace_move]
  show (resultPlace alone).line + k = k + 1
  rw [first, Nat.add_comm]

/-- One more line in front. -/
theorem ComesFrom.cons {lines : List (List Char)} {k : Nat} {result : Except ParseError Statement}
    (comes : ComesFrom lines k result) (line : List Char) :
    ComesFrom (line :: lines) (k + 1) (moveResult (.down 1) result) := by
  obtain ⟨line', alone, here, only, first, rfl⟩ := comes
  exact ⟨line', alone, here, only, first, moveResult_comp (.down 1) (.down k) alone⟩

theorem comesFrom_first {line : List Char} (single : OneLine line) (rest : List (List Char))
    {result : Except ParseError Statement} (member : result ∈ resultsOf line) :
    ComesFrom (line :: rest) 0 result := by
  rcases single.results with nothing | ⟨alone, only, first⟩
  · rw [nothing] at member
    cases member
  · rw [only] at member
    cases List.mem_singleton.mp member
    exact ⟨line, result, rfl, only, first, (moveResult_id result).symm⟩

/-- The line feed of a line is its last character. -/
theorem endsLine_concat (body : List Char) : EndsLine (body ++ ['\n']) := by
  intro c last
  rw [List.getLast?_append, List.getLast?_singleton] at last
  cases last
  rfl

theorem resultsOf_line {body : List Char} (within : '\n' ∉ body) (ds : List Char) :
    resultsOf (body ++ ['\n'] ++ ds) =
      proceed (resultsOf (body ++ ['\n'])) ((resultsOf ds).map (moveResult (.down 1))) := by
  have count : (body ++ ['\n']).count '\n' = 1 := by
    rw [List.count_append, List.count_eq_zero_of_not_mem within]
    rfl
  rw [resultsOf_append (endsLine_concat body), count]

/-- Every result is that of one line. -/
theorem exists_comesFrom {lines : List (List Char)} (ruled : Text.Ruled lines)
    {result : Except ParseError Statement} (member : result ∈ resultsOf lines.flatten) :
    ∃ k, ComesFrom lines k result := by
  induction ruled generalizing result with
  | nil =>
    rw [List.flatten_nil, resultsOf_nil] at member
    cases member
  | @last body nonempty within =>
    rw [List.flatten_singleton] at member
    have single := (Text.Ruled.last nonempty within).oneLine List.mem_cons_self
    exact ⟨0, comesFrom_first single [] member⟩
  | @line body rest within ruled ih =>
    rw [List.flatten_cons, resultsOf_line within] at member
    rcases mem_of_mem_proceed member with here | later
    · have single := (Text.Ruled.line within ruled).oneLine List.mem_cons_self
      exact ⟨0, comesFrom_first single rest here⟩
    · obtain ⟨alone, among, rfl⟩ := List.mem_map.mp later
      obtain ⟨k, comes⟩ := ih among
      exact ⟨k + 1, comes.cons _⟩

/-- Later results stand on later lines. -/
theorem pairwise_line_lt {lines : List (List Char)} (ruled : Text.Ruled lines) :
    (resultsOf lines.flatten).Pairwise
      fun result later => (resultPlace result).line < (resultPlace later).line := by
  induction ruled with
  | nil =>
    rw [List.flatten_nil, resultsOf_nil]
    exact .nil
  | @last body nonempty within =>
    rw [List.flatten_singleton]
    rcases ((Text.Ruled.last nonempty within).oneLine List.mem_cons_self).results with
      nothing | ⟨alone, only, -⟩
    · rw [nothing]
      exact .nil
    · rw [only]
      exact List.pairwise_singleton _ _
  | @line body rest within ruled ih =>
    have below : ((resultsOf rest.flatten).map (moveResult (.down 1))).Pairwise
        fun result later => (resultPlace result).line < (resultPlace later).line := by
      apply ih.map
      intro result later before
      rw [resultPlace_move, resultPlace_move]
      exact Nat.add_lt_add_right before 1
    rw [List.flatten_cons, resultsOf_line within]
    rcases ((Text.Ruled.line within ruled).oneLine List.mem_cons_self).results with
      nothing | ⟨alone, only, first⟩
    · rw [nothing]
      exact below
    · rw [only]
      cases alone with
      | error error => exact List.pairwise_singleton _ _
      | ok statement =>
        -- The statement is on the first line, and what is below it on the second or later.
        refine List.pairwise_cons.mpr ⟨?_, below⟩
        intro result member
        obtain ⟨later, among, rfl⟩ := List.mem_map.mp member
        obtain ⟨k, comes⟩ := exists_comesFrom ruled among
        rw [(comes.cons body).line_eq, first]
        omega

/-- How a text is parsed in front of others and line by line. -/
structure Linewise (text : String) : Prop where
  /-- If the text is empty or ends with a line feed and has no error, the results of every other
  text follow, with its places further down by the lines of this one, -/
  fine : EndsLine text.toList → (∀ result ∈ parseText text, ∃ statement, result = .ok statement) →
    ∀ more, parseText (text ++ more) =
      parseText text ++ (parseText more).map (moveResult (.down (text.toList.count '\n')))
  /-- and if it has an error nothing follows. -/
  broken : EndsLine text.toList → (∃ error, .error error ∈ parseText text) →
    ∀ more, parseText (text ++ more) = parseText text
  /-- Each statement, and an error as well, is what a single line says when it stands alone, -/
  alone : ∀ result ∈ parseText text, ∃ k, ComesFrom (Text.lines text.toList) k result
  /-- and each stands on a later line than the one before. -/
  increasing : (parseText text).Pairwise
    fun result later => (resultPlace result).line < (resultPlace later).line

/-- All texts are parsed line by line. -/
theorem linewise (text : String) : Linewise text := by
  have whole : parseText text = resultsOf (Text.lines text.toList).flatten := by
    rw [Text.flatten_lines, resultsOf, String.ofList_toList]
  have append : EndsLine text.toList → ∀ more, parseText (text ++ more) =
      proceed (parseText text)
        ((parseText more).map (moveResult (.down (text.toList.count '\n')))) := by
    intro ends more
    have joined := resultsOf_append ends more.toList
    rwa [← String.toList_append, resultsOf, resultsOf, resultsOf, String.ofList_toList,
      String.ofList_toList, String.ofList_toList] at joined
  refine ⟨?_, ?_, ?_, ?_⟩
  · intro ends fine more
    rw [append ends, proceed_of_fine fine]
  · intro ends broken more
    rw [append ends]
    exact proceed_parse_of_broken broken _
  · intro result member
    rw [whole] at member
    exact exists_comesFrom (Text.ruled_lines _) member
  · rw [whole]
    exact pairwise_line_lt (Text.ruled_lines _)

end ModularSynth
