import ModularSynth.Proofs.Language.Building
import ModularSynth.Proofs.Language.Resumption

/-!
# The first line with an error

The error that is reported for a description is that of its first bad line. Carrying out the lines
one after the other (`Session.runText_append`) leads to the line that fails after all earlier ones
have succeeded; its error stands on that line, because every error of a text stands at one of its
characters (`Session.place_of_runText`) and a line holds its line feed only at its end. What comes
after that line is never read.
-/

namespace ModularSynth

/-! ### Errors stand at characters -/

/-- The place is that of a character of a text which stands after some others. -/
def StandsIn (before cs : List Char) (position : Position) : Prop :=
  ∃ front c back, cs = front ++ c :: back ∧ position = .following (before ++ front)

/-- The place of a token or of a lexical error. -/
def itemPlace : LexItem → Position
  | .ok token => token.position
  | .error error => error.position

theorem Stuck.standsIn {before cs : List Char} {error : LexError}
    (stuck : Stuck before cs error) : StandsIn before cs error.position := by
  cases stuck with
  | @character c rest stray => exact ⟨[], c, rest, rfl, by rw [List.append_nil]⟩
  | @hyphen rest no_arrow no_number => exact ⟨[], '-', rest, rfl, by rw [List.append_nil]⟩
  | @point number rest pointed => exact ⟨number, '.', rest, rfl, rfl⟩
  | @text text rest every unclosed => exact ⟨[], '"', text ++ rest, rfl, by rw [List.append_nil]⟩

theorem Cut.standsIn {before cs : List Char} {items : List LexItem}
    (cut : Cut before cs items) {item : LexItem} (member : item ∈ items) :
    StandsIn before cs (itemPlace item) := by
  induction cut with
  | finish blank => cases member
  | @token before gap after lexeme items blank shaped stops _ ih =>
    rcases List.mem_cons.mp member with rfl | member
    · obtain ⟨c, tail, spelt⟩ := List.exists_cons_of_length_pos (lexeme.length_spelling_pos shaped)
      exact ⟨gap, c, tail ++ after, by rw [spelt]; simp, rfl⟩
    · obtain ⟨front, c, back, rfl, place⟩ := ih member
      exact ⟨gap ++ lexeme.spelling ++ front, c, back, by simp, by rw [place]; simp⟩
  | @stop before gap rest error blank stuck =>
    cases List.mem_singleton.mp member
    obtain ⟨front, c, back, rfl, place⟩ := stuck.standsIn
    exact ⟨gap ++ front, c, back, by simp, by simp [itemPlace, place]⟩

/-! ### Errors stand at tokens -/

namespace Token

variable {token : Token} {error : ParseError}

theorem position_of_name {expected : Expectation}
    (refused : token.name expected = .error error) : error.position = token.position := by
  rw [eq_refuse_of_name refused]
  rfl

theorem position_of_require {lexeme : Lexeme} {expected : Expectation}
    (refused : token.require lexeme expected = .error error) :
    error.position = token.position := by
  rw [eq_refuse_of_require refused]
  rfl

theorem position_of_value (refused : token.value = .error error) :
    error.position = token.position := by
  rcases refused_of_value refused with ⟨rfl, -⟩ | ⟨digits, -, -, rfl⟩
  · rfl
  · rfl

end Token

namespace Partial

/-- The place that a statement read in part remembers: that of an argument without its value. -/
def place? : Partial → Option Position
  | argumentEquals _ _ position => some position
  | argumentValue _ _ position => some position
  | _ => none

theorem place?_of_begin {token : Token} {state : Partial} (begun : begin token = .ok state) :
    state.place? = none := by
  unfold begin at begun
  split at begun
  next =>
    cases begun
    rfl
  next =>
    cases begun
    rfl
  next => cases begun

theorem position_of_begin {token : Token} {error : ParseError}
    (refused : begin token = .error error) : error.position = token.position := by
  unfold begin at refused
  split at refused
  next => cases refused
  next => cases refused
  next =>
    cases refused
    rfl

section Places

variable {P : Position → Prop} {token : Token} (here : P token.position)
include here

/-- A check of a token alone, and nothing after it that fails. -/
theorem place_of_bind {α : Type} {check : Except ParseError α}
    {finish : α → Except ParseError Partial} {error : ParseError}
    (at_token : ∀ {early}, check = .error early → early.position = token.position)
    (finishes : ∀ a, ∃ next, finish a = .ok next) (refused : check >>= finish = .error error) :
    P error.position := by
  rcases bind_eq_error_iff.mp refused with early | ⟨a, -, late⟩
  · rw [at_token early]
    exact here
  · obtain ⟨next, finished⟩ := finishes a
    rw [finished] at late
    cases late

theorem place_of_name {expected : Expectation} {finish : String → Except ParseError Partial}
    {error : ParseError} (finishes : ∀ name, ∃ next, finish name = .ok next)
    (refused : token.name expected >>= finish = .error error) : P error.position :=
  place_of_bind here Token.position_of_name finishes refused

theorem place_of_require {lexeme : Lexeme} {expected : Expectation}
    {finish : Unit → Except ParseError Partial} {error : ParseError}
    (finishes : ∀ seen, ∃ next, finish seen = .ok next)
    (refused : token.require lexeme expected >>= finish = .error error) : P error.position :=
  place_of_bind here Token.position_of_require finishes refused

variable {state next : Partial} (kept : ∀ position ∈ state.place?, P position)
include kept

theorem Feeds.place (feeds : state.Feeds token next) : ∀ position ∈ next.place?, P position := by
  cases feeds with
  | firstArgument =>
    intro position same
    cases same
    exact here
  | argumentName =>
    intro position same
    cases same
    exact here
  | argumentEquals => exact kept
  | _ =>
    intro position remembered
    cases remembered

/-- A token is refused at its own place or, for an argument that was given before, at the place of
the name. -/
theorem place_of_feed {error : ParseError} (refused : state.feed token = .error error) :
    P error.position := by
  cases state with
  | parameterName => exact place_of_name here (fun _ => ⟨_, rfl⟩) refused
  | parameterValue name =>
    exact place_of_bind here Token.position_of_value (fun _ => ⟨_, rfl⟩) refused
  | operator name =>
    obtain ⟨lexeme, position⟩ := token
    cases lexeme with
    | colon => cases refused
    | equals => cases refused
    | _ =>
      cases refused
      exact here
  | sourcePort device => exact place_of_name here (fun _ => ⟨_, rfl⟩) refused
  | arrow source => exact place_of_require here (fun _ => ⟨_, rfl⟩) refused
  | destinationDevice source => exact place_of_name here (fun _ => ⟨_, rfl⟩) refused
  | destinationColon source device => exact place_of_require here (fun _ => ⟨_, rfl⟩) refused
  | destinationPort source device => exact place_of_name here (fun _ => ⟨_, rfl⟩) refused
  | typeName name => exact place_of_name here (fun _ => ⟨_, rfl⟩) refused
  | openParen name device => exact place_of_require here (fun _ => ⟨_, rfl⟩) refused
  | firstArgument name device =>
    obtain ⟨lexeme, position⟩ := token
    cases lexeme with
    | closeParen => cases refused
    | _ => exact place_of_name here (fun _ => ⟨_, rfl⟩) refused
  | argumentName draft => exact place_of_name here (fun _ => ⟨_, rfl⟩) refused
  | argumentEquals draft argument position =>
    exact place_of_require here (fun _ => ⟨_, rfl⟩) refused
  | argumentValue draft argument position =>
    rcases bind_eq_error_iff.mp refused with refused | ⟨value, -, refused⟩
    · rw [Token.position_of_value refused]
      exact here
    · unfold addArgument at refused
      split at refused
      next => cases refused
      next =>
        cases refused
        exact kept position rfl
  | argumentEnd draft =>
    obtain ⟨lexeme, position⟩ := token
    cases lexeme with
    | comma => cases refused
    | closeParen => cases refused
    | _ =>
      cases refused
      exact here
  | lineEnd command =>
    cases refused
    exact here

end Places

end Partial

/-- The place of a statement or of an error in its stead. -/
def resultPlace : Except ParseError Statement → Position
  | .ok statement => statement.position
  | .error error => error.position

/-- The place of what was read, and those of the items that are left. -/
def ParseResult.Within (P : Position → Prop) : ParseResult → Prop
  | .finished => True
  | .statement read rest => P read.position ∧ ∀ item ∈ rest, P (itemPlace item)
  | .failed error _ => P error.position

section Places

variable {P : Position → Prop}

theorem within_continueStatement {items : List LexItem} (every : ∀ item ∈ items, P (itemPlace item))
    {first last : Position} {state : Partial} (begins : P first) (before : P last)
    (kept : ∀ position ∈ state.place?, P position) :
    (continueStatement first state last items).Within P := by
  induction items generalizing state last with
  | nil =>
    rw [continueStatement]
    split
    next command complete => exact ⟨begins, every⟩
    next => exact before
  | cons item items ih =>
    rw [List.forall_mem_cons] at every
    obtain ⟨here, rest⟩ := every
    cases item with
    | error error => exact here
    | ok token =>
      cases fed : state.feed token with
      | ok next =>
        have feeds := Partial.feed_eq_ok_iff.mp fed
        rw [continueStatement_of_feeds feeds]
        exact ih rest here (feeds.place here kept)
      | error error =>
        rw [continueStatement]
        split
        next command complete line_end => exact ⟨begins, rest⟩
        next =>
          rw [fed]
          exact Partial.place_of_feed here kept fed

theorem within_readStatement {items : List LexItem}
    (every : ∀ item ∈ items, P (itemPlace item)) : (readStatement items).Within P := by
  induction items with
  | nil => trivial
  | cons item items ih =>
    rw [List.forall_mem_cons] at every
    obtain ⟨here, rest⟩ := every
    cases item with
    | error error => exact here
    | ok token =>
      by_cases blank : token.lexeme = .newline
      · simp only [readStatement, if_pos blank]
        exact ih rest
      · cases begun : Partial.begin token with
        | error error =>
          rw [readStatement_of_begin_error blank begun]
          show P error.position
          rw [Partial.position_of_begin begun]
          exact here
        | ok state =>
          rw [readStatement_of_begin_ok blank begun]
          apply within_continueStatement rest here here
          intro position remembered
          rw [Partial.place?_of_begin begun] at remembered
          cases remembered

/-- Statements and errors stand where tokens and lexical errors do. -/
theorem place_of_parse {items : List LexItem} (every : ∀ item ∈ items, P (itemPlace item)) :
    ∀ result ∈ parse items, P (resultPlace result) := by
  induction items using statementwise with
  | finished items read =>
    rw [parse_of_finished read]
    intro result member
    cases member
  | failed items error rest read =>
    have within := within_readStatement every
    rw [read] at within
    rw [parse_of_failed read, List.forall_mem_singleton]
    exact within
  | statement items statement rest read ih =>
    have within := within_readStatement every
    rw [read] at within
    rw [parse_of_statement read, List.forall_mem_cons]
    exact ⟨within.1, ih within.2⟩

end Places

namespace Session

variable {D : Type} [Device D] {registry : Registry D}

theorem place_of_run {P : Position → Prop} {results : List (Except ParseError Statement)}
    (every : ∀ result ∈ results, P (resultPlace result)) {s : Session D} {error : CompileError}
    (failed : (s.run registry results).1 = .error error) :
    ∃ position, error.position? = some position ∧ P position := by
  induction results generalizing s with
  | nil => cases failed
  | cons result results ih =>
    rw [List.forall_mem_cons] at every
    obtain ⟨here, rest⟩ := every
    cases result with
    | error early =>
      cases failed
      refine ⟨early.position, ?_, here⟩
      cases early with
      | lexical fault => rfl
      | malformed fault position => rfl
    | ok statement =>
      simp only [run, execute] at failed
      cases outcome : (s.perform registry statement.command).1 with
      | ok =>
        simp only [outcome, Except.mapError] at failed
        exact ih rest failed
      | error fault =>
        simp only [outcome, Except.mapError] at failed
        cases failed
        exact ⟨statement.position, rfl, here⟩

/-- The error of a text stands at one of its characters. -/
theorem place_of_runText {s : Session D} {before cs : List Char} {error : CompileError}
    (failed : (s.runText registry before cs).1 = .error error) :
    ∃ position, error.position? = some position ∧ StandsIn before cs position := by
  obtain ⟨items, cut⟩ := exists_cut before cs
  unfold runText at failed
  rw [Cursor.scan_of_cut cut] at failed
  exact place_of_run (place_of_parse fun item member => cut.standsIn member) failed

end Session

/-! ### Lines -/

namespace Text

/-- The lines of a text, each with its line feed; the last one may lack it. -/
def lines : List Char → List (List Char)
  | [] => []
  | c :: cs =>
    if c = '\n' then [c] :: lines cs
    else
      match lines cs with
      | [] => [[c]]
      | line :: rest => (c :: line) :: rest

/-- Lines one after the other. -/
inductive Ruled : List (List Char) → Prop
  | nil : Ruled []
  | last {body : List Char} (nonempty : body ≠ []) (within : '\n' ∉ body) : Ruled [body]
  | line {body : List Char} {rest : List (List Char)} (within : '\n' ∉ body)
      (ruled : Ruled rest) : Ruled ((body ++ ['\n']) :: rest)

theorem ruled_lines (cs : List Char) : Ruled (lines cs) := by
  induction cs with
  | nil => exact .nil
  | cons c cs ih =>
    rw [lines]
    split
    next feed =>
      rw [feed]
      exact .line List.not_mem_nil ih
    next other =>
      have still : ∀ {body : List Char}, '\n' ∉ body → '\n' ∉ c :: body := by
        intro body within member
        rcases List.mem_cons.mp member with rfl | member
        · exact other rfl
        · exact within member
      split
      next => exact .last (List.cons_ne_nil c []) (still List.not_mem_nil)
      next line rest split =>
        rw [split] at ih
        cases ih with
        | last nonempty within => exact .last (List.cons_ne_nil c line) (still within)
        | line within ruled =>
          rw [← List.cons_append]
          exact .line (still within) ruled

theorem flatten_lines (cs : List Char) : (lines cs).flatten = cs := by
  induction cs with
  | nil => rfl
  | cons c cs ih =>
    rw [lines]
    split
    next => rw [List.flatten_cons, ih, List.singleton_append]
    next =>
      split
      next split =>
        rw [split] at ih
        rw [← ih]
        rfl
      next line rest split =>
        rw [split] at ih
        rw [← ih]
        rfl

end Text

/-- So many lines from the beginning of a text, with their line feeds. -/
def firstLines (count : Nat) (text : String) : String :=
  String.ofList ((Text.lines text.toList).take count).flatten

/-- In front of a line stand as many line feeds as lines, and in it none but at its end. -/
theorem Text.Ruled.of_split {front rest : List (List Char)} {line : List Char}
    (ruled : Text.Ruled (front ++ line :: rest)) :
    front.flatten.count '\n' = front.length ∧
      ∀ {a b : List Char} {c : Char}, line = a ++ c :: b → '\n' ∉ a := by
  induction front with
  | nil =>
    refine ⟨rfl, ?_⟩
    intro a b c split member
    cases ruled with
    | last nonempty within =>
      rw [split] at within
      exact within (List.mem_append_left _ member)
    | @line body _ within _ =>
      have shorter := congrArg List.dropLast split
      rw [List.dropLast_concat, List.dropLast_append_of_ne_nil (List.cons_ne_nil c b)] at shorter
      rw [shorter] at within
      exact within (List.mem_append_left _ member)
  | cons first front ih =>
    rw [List.cons_append] at ruled
    generalize tail : front ++ line :: rest = lines at ruled
    cases ruled with
    | last => simp at tail
    | @line body _ within ruled =>
      obtain ⟨count, ends⟩ := ih (tail ▸ ruled)
      refine ⟨?_, ends⟩
      rw [List.flatten_cons, List.count_append, count, List.count_append,
        List.count_eq_zero_of_not_mem within]
      simp
      omega

namespace Session

variable {D : Type} [Device D] {registry : Registry D}

theorem runText_nil (s : Session D) (before : List Char) :
    s.runText registry before [] = (.ok (), s) := by
  have nothing : Cut before [] [] := .finish (List.forall_mem_nil _)
  unfold runText
  rw [Cursor.scan_of_cut nothing, parse_of_finished rfl]
  rfl

section Append

variable {s after : Session D} {before cs : List Char} (ends : EndsLine cs)
include ends

theorem runText_append_of_ok (carried : s.runText registry before cs = (.ok (), after))
    (ds : List Char) :
    s.runText registry before (cs ++ ds) = after.runText registry (before ++ cs) ds := by
  rw [runText_append registry s before ends, carried]

theorem runText_append_of_error {error : CompileError}
    (failed : s.runText registry before cs = (.error error, after)) (ds : List Char) :
    s.runText registry before (cs ++ ds) = (.error error, after) := by
  rw [runText_append registry s before ends, failed]

end Append

/-- How lines fail: those in front are carried out, one fails at a place of its own, and what comes
after its line feed does not matter. -/
structure FailsAt (registry : Registry D) (s : Session D) (before : List Char)
    (front : List (List Char)) (line : List Char) (error : CompileError) : Prop where
  earlier : (s.runText registry before front.flatten).1 = .ok ()
  here : (s.runText registry before (front.flatten ++ line)).1 = .error error
  place : ∃ position, error.position? = some position ∧
    StandsIn (before ++ front.flatten) line position
  later : EndsLine line → ∀ more,
    (s.runText registry before (front.flatten ++ (line ++ more))).1 = .error error

/-- If the first line fails it is the line that fails, -/
theorem FailsAt.first {s : Session D} {before line : List Char} {error : CompileError}
    (failed : (s.runText registry before line).1 = .error error) :
    FailsAt registry s before [] line error where
  earlier := by
    rw [List.flatten_nil, runText_nil]
  here := failed
  place := by
    rw [List.flatten_nil, List.append_nil]
    exact place_of_runText failed
  later := by
    intro ends more
    rw [List.flatten_nil, List.nil_append, runText_append_of_error ends (Prod.ext failed rfl)]

/-- otherwise it is one of those after it. -/
theorem FailsAt.cons {s mid : Session D} {before head line : List Char}
    {front : List (List Char)} {error : CompileError} (ends : EndsLine head)
    (carried : s.runText registry before head = (.ok (), mid))
    (fails : FailsAt registry mid (before ++ head) front line error) :
    FailsAt registry s before (head :: front) line error where
  earlier := by
    rw [List.flatten_cons, runText_append_of_ok ends carried]
    exact fails.earlier
  here := by
    rw [List.flatten_cons, List.append_assoc, runText_append_of_ok ends carried]
    exact fails.here
  place := by
    rw [List.flatten_cons, ← List.append_assoc]
    exact fails.place
  later := by
    intro line_ends more
    rw [List.flatten_cons, List.append_assoc, runText_append_of_ok ends carried]
    exact fails.later line_ends more

theorem exists_failsAt {lines : List (List Char)} (ruled : Text.Ruled lines) {s : Session D}
    {before : List Char} {error : CompileError}
    (failed : (s.runText registry before lines.flatten).1 = .error error) :
    ∃ front line rest, lines = front ++ line :: rest ∧
      FailsAt registry s before front line error := by
  induction ruled generalizing s before with
  | nil =>
    rw [List.flatten_nil, runText_nil] at failed
    cases failed
  | @last body nonempty within =>
    rw [List.flatten_singleton] at failed
    exact ⟨[], body, [], rfl, .first failed⟩
  | @line body rest within ruled ih =>
    have ends : EndsLine (body ++ ['\n']) := by
      intro c last
      rw [List.getLast?_append, List.getLast?_singleton] at last
      cases last
      rfl
    rw [List.flatten_cons] at failed
    cases outcome : (s.runText registry before (body ++ ['\n'])).1 with
    | error early =>
      rw [runText_append_of_error ends (Prod.ext outcome rfl)] at failed
      cases failed
      exact ⟨[], body ++ ['\n'], rest, rfl, .first outcome⟩
    | ok =>
      rw [runText_append_of_ok ends (Prod.ext outcome rfl)] at failed
      obtain ⟨front, line, later, rfl, fails⟩ := ih failed
      exact ⟨_ :: front, line, later, rfl, fails.cons ends (Prod.ext outcome rfl)⟩

end Session

section Compile

variable {D : Type} [Device D] {registry : Registry D} {settings : Settings}

theorem compileWith_eq (text : String) :
    compileWith registry settings text =
      match ({ patch := .ofSettings settings } : Session D).runText registry [] text.toList with
      | (.ok (), s) => .ok s.patch
      | (.error error, _) => .error error := rfl

theorem compileWith_eq_error_iff {text : String} {error : CompileError} :
    compileWith registry settings text = .error error ↔
      (({ patch := .ofSettings settings } : Session D).runText registry [] text.toList).1 =
        .error error := by
  rw [compileWith_eq]
  split
  next s carried => simp [carried]
  next early s failed => simp [failed]

theorem exists_compileWith_of_ok {text : String}
    (carried : (({ patch := .ofSettings settings } : Session D).runText registry []
      text.toList).1 = .ok ()) : ∃ patch, compileWith registry settings text = .ok patch := by
  rw [compileWith_eq]
  split
  next s _ => exact ⟨s.patch, rfl⟩
  next early s failed =>
    rw [failed] at carried
    cases carried

/-- The error of a text is that of its first bad line. -/
structure FirstError (registry : Registry D) (settings : Settings) (text : String)
    (error : CompileError) (position : Position) : Prop where
  /-- It stands at a character of the text. -/
  placed : error.position? = some position
  character : ∃ front c back, text.toList = front ++ c :: back ∧ position = .following front
  /-- The lines before its line make a text without an error, -/
  earlier : ∃ patch,
    compileWith registry settings (firstLines (position.line - 1) text) = .ok patch
  /-- those up to its line make one with the same error, -/
  same : compileWith registry settings (firstLines position.line text) = .error error
  /-- and so does every text that goes on after the line feed of its line. -/
  whatever_follows : EndsLine (firstLines position.line text).toList → ∀ more,
    compileWith registry settings (firstLines position.line text ++ more) = .error error

/-- Whatever else is wrong with a description, the error that is reported is that of its first bad
line. -/
theorem firstError_of_compileWith (registry : Registry D) (settings : Settings) (text : String)
    (error : CompileError) (failed : compileWith registry settings text = .error error) :
    ∃ position, FirstError registry settings text error position := by
  have ruled := Text.ruled_lines text.toList
  rw [compileWith_eq_error_iff, ← Text.flatten_lines text.toList] at failed
  obtain ⟨front, line, rest, split, fails⟩ := Session.exists_failsAt ruled failed
  obtain ⟨position, placed, a, c, b, spelt, rfl⟩ := fails.place
  rw [split] at ruled
  obtain ⟨count, single⟩ := ruled.of_split
  have number : (Position.following ([] ++ front.flatten ++ a)).line = front.length + 1 := by
    unfold Position.following
    rw [List.nil_append, List.count_append, count, List.count_eq_zero_of_not_mem (single spelt)]
  have before : (firstLines front.length text).toList = front.flatten := by
    unfold firstLines
    rw [String.toList_ofList, split, List.take_left]
  have upto : (firstLines (front.length + 1) text).toList = front.flatten ++ line := by
    unfold firstLines
    rw [String.toList_ofList, split, List.append_cons, List.take_left' (by simp),
      List.flatten_append, List.flatten_singleton]
  refine ⟨_, placed, ?_, ?_, ?_, ?_⟩
  · refine ⟨front.flatten ++ a, c, b ++ rest.flatten, ?_, rfl⟩
    rw [← Text.flatten_lines text.toList, split, spelt]
    simp
  · rw [number, Nat.add_sub_cancel]
    apply exists_compileWith_of_ok
    rw [before]
    exact fails.earlier
  · rw [number, compileWith_eq_error_iff, upto]
    exact fails.here
  · rw [number, upto]
    intro ends more
    rw [compileWith_eq_error_iff, String.toList_append, upto, List.append_assoc]
    exact fails.later ends.of_append more.toList

end Compile

/-- The fourth line names a device that there is not. The line after it is no statement, and the
last not even a line of tokens. -/
def bungled : String :=
  "a = Echo()\n\nb = Echo()  \n  a:out -> c:in\nc = = Echo()\n\"unclosed"

theorem bungled_firstError :
    compileWith Program.echoes {} bungled =
        .error (.semantic ⟨.unknownVariable "c", ⟨4, 3⟩⟩) ∧
      ∃ position, FirstError Program.echoes {} bungled
        (.semantic ⟨.unknownVariable "c", ⟨4, 3⟩⟩) position := by
  have failed : (({ patch := .ofSettings {} } : Session Scripted).runText Program.echoes []
      bungled.toList).1 = .error (.semantic ⟨.unknownVariable "c", ⟨4, 3⟩⟩) := by
    decide +kernel
  have failed := compileWith_eq_error_iff.mpr failed
  exact ⟨failed, firstError_of_compileWith Program.echoes {} bungled _ failed⟩

end ModularSynth
