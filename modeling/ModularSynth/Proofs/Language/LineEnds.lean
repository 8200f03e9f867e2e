import ModularSynth.Proofs.Language.Earliest
import ModularSynth.Proofs.Language.Relocation
import ModularSynth.Proofs.Language.Spelling

/-!
# Carriage returns before line feeds

A carriage return is white space, and white space before a line feed goes unnoticed. So a text says
the same when each of its lines ends in a carriage return and a line feed (`ignoresReturns`): it has
the same statements at the same places and builds the same patch. What moves is the line end itself,
one column to the right, and with it an error that finds a line end where something else is
expected. The tokens are compared along the cut of the text (`Cut.afterReturn`), and the parser
follows the change token by token (`Translation.afterReturn`).
-/

namespace ModularSynth

/-- A carriage return and a line feed for every line feed. -/
def withReturns (cs : List Char) : List Char :=
  cs.flatMap fun c => if c = '\n' then ['\r', '\n'] else [c]

def returned (text : String) : String := String.ofList (withReturns text.toList)

def Position.right (position : Position) : Position :=
  ⟨position.line, position.column + 1⟩

/-- A token of the text with carriage returns: only the line ends stand elsewhere. -/
def Token.afterReturn : Token → Token
  | ⟨.newline, position⟩ => ⟨.newline, position.right⟩
  | token => token

/-- An error of the text with carriage returns: only a line end that was not expected is found
elsewhere. -/
def ParseError.afterReturn : ParseError → ParseError
  | malformed (.unexpectedToken expected .newline) position =>
    malformed (.unexpectedToken expected .newline) position.right
  | error => error

/-! ### Texts -/

section Characters

variable (cs ds : List Char)

theorem withReturns_append : withReturns (cs ++ ds) = withReturns cs ++ withReturns ds :=
  List.flatMap_append

theorem withReturns_cons {c : Char} (other : c ≠ '\n') :
    withReturns (c :: cs) = c :: withReturns cs := by
  rw [withReturns, List.flatMap_cons, if_neg other]
  rfl

variable {cs ds}

theorem withReturns_of_notMem (within : '\n' ∉ cs) : withReturns cs = cs := by
  induction cs with
  | nil => rfl
  | cons c cs ih =>
    rw [List.mem_cons, not_or] at within
    rw [withReturns_cons cs (Ne.symm within.1), ih within.2]

/-- A line begins as before, unless it is empty. -/
theorem head?_withReturns {c : Char} (first : c ∈ (withReturns cs).head?) :
    cs.head? = some c ∨ c = '\r' ∧ cs.head? = some '\n' := by
  cases cs with
  | nil => cases first
  | cons d cs =>
    by_cases feed : d = '\n'
    · subst feed
      cases first
      exact Or.inr ⟨rfl, rfl⟩
    · rw [withReturns_cons cs feed] at first
      exact Or.inl first

end Characters

namespace Position

theorem following_concat_return (before : List Char) :
    following (before ++ ['\r']) = (following before).right := by
  rw [← following_append]
  rfl

/-- Carriage returns do not move what comes after the line feed. -/
theorem following_withReturns (before : List Char) :
    following (withReturns before) = following before := by
  induction before using List.reverseRecOn with
  | nil => rfl
  | append_singleton before c ih =>
    rw [withReturns_append, ← following_append, ← following_append, ih]
    by_cases feed : c = '\n'
    · subst feed
      rfl
    · rw [withReturns_cons [] feed]
      rfl

end Position

/-! ### Tokens -/

theorem Token.afterReturn_of_ne {token : Token} (other : token.lexeme ≠ .newline) :
    token.afterReturn = token := by
  obtain ⟨lexeme, position⟩ := token
  cases lexeme with
  | newline => exact absurd rfl other
  | _ => rfl

theorem newline_notMem_of_blank {gap : List Char} (blank : ∀ c ∈ gap, isGap c = true) :
    '\n' ∉ gap :=
  fun member => absurd (blank _ member) (by decide)

/-- A lexeme ends before a carriage return as it does before the line feed. -/
theorem Lexeme.EndsBefore.afterReturn {lexeme : Lexeme} {after : List Char}
    (ends : lexeme.EndsBefore after) : lexeme.EndsBefore (withReturns after) := by
  cases after with
  | nil => exact ends
  | cons d after =>
    by_cases feed : d = '\n'
    · subst feed
      exact lexeme.endsBefore_gap (by decide) _
    · rw [withReturns_cons after feed]
      cases lexeme with
      | identifier name =>
        refine ⟨?_, ends.2⟩
        intro c first continues
        obtain ⟨hyphen, arrow⟩ := ends.1 c first continues
        obtain ⟨rest, rfl⟩ := List.head?_eq_some_iff.mp arrow
        exact ⟨hyphen, rfl⟩
      | number digits => exact ends
      | _ => trivial

/-- Where no token begins, none begins in the text with carriage returns. -/
theorem Stuck.afterReturn {before rest : List Char} {error : LexError}
    (stuck : Stuck before rest error) : Stuck (withReturns before) (withReturns rest) error := by
  have here := Position.following_withReturns before
  cases stuck with
  | @character c rest stray =>
    have not_feed : c ≠ '\n' := by
      rintro rfl
      exact stray.2 .newline trivial rfl
    rw [withReturns_cons rest not_feed, ← here]
    exact .character stray
  | @hyphen rest no_arrow no_number =>
    rw [withReturns_cons rest (by decide), ← here]
    apply Stuck.hyphen
    · intro arrow
      rcases head?_withReturns arrow with first | ⟨impossible, -⟩
      · exact no_arrow first
      · cases impossible
    · intro c first
      rcases head?_withReturns first with first | ⟨rfl, -⟩
      · exact no_number c first
      · decide
  | @point number rest pointed =>
    have within : '\n' ∉ number := by
      intro member
      have shaped : (Lexeme.number (String.ofList number)).Shaped :=
        Or.inr (by rwa [String.toList_ofList])
      cases Lexeme.eq_newline_of_mem shaped (by rwa [Lexeme.spelling_number, String.toList_ofList])
    have there := Position.following_withReturns (before ++ number)
    rw [withReturns_append, withReturns_of_notMem within] at there
    rw [withReturns_append, withReturns_of_notMem within, withReturns_cons rest (by decide),
      ← there]
    exact .point pointed
  | @text text rest every unclosed =>
    have within : '\n' ∉ text := fun member => absurd (every _ member) (by decide)
    rw [withReturns_cons _ (by decide), withReturns_append, withReturns_of_notMem within, ← here]
    rcases unclosed with rfl | feed
    · exact .text every (Or.inl rfl)
    · -- The text reaches up to the line feed, so it takes in the carriage return.
      obtain ⟨rest, rfl⟩ := List.head?_eq_some_iff.mp feed
      have longer : ∀ c ∈ text ++ ['\r'], endsText c = false :=
        List.forall_mem_append.mpr ⟨every, List.forall_mem_singleton.mpr (by decide)⟩
      have stuck' : Stuck (withReturns before)
          ('"' :: (text ++ ['\r'] ++ '\n' :: withReturns rest)) _ := .text longer (Or.inr rfl)
      rw [List.append_assoc] at stuck'
      exact stuck'

/-- A text with carriage returns is cut like the text without, and where a line ends the carriage
return joins the gap. -/
theorem Cut.afterReturn {before cs : List Char} {items : List LexItem} (cut : Cut before cs items) :
    Cut (withReturns before) (withReturns cs) (items.map (Except.map Token.afterReturn)) := by
  induction cut with
  | @finish before gap blank =>
    rw [withReturns_of_notMem (newline_notMem_of_blank blank)]
    exact .finish blank
  | @token before gap after lexeme items blank shaped ends _ ih =>
    have same_gap := withReturns_of_notMem (newline_notMem_of_blank blank)
    have place := Position.following_withReturns (before ++ gap)
    simp only [withReturns_append, same_gap] at ih place ⊢
    rw [List.map_cons, ← place]
    by_cases line_end : lexeme = .newline
    · subst line_end
      have widened : ∀ c ∈ gap ++ ['\r'], isGap c = true :=
        List.forall_mem_append.mpr ⟨blank, List.forall_mem_singleton.mpr (by decide)⟩
      have spelt : withReturns Lexeme.newline.spelling = ['\r'] ++ Lexeme.newline.spelling := rfl
      rw [spelt, ← List.append_assoc] at ih ⊢
      rw [List.append_assoc _ gap] at ih
      have whole := Cut.token widened shaped trivial ih
      rw [← List.append_assoc _ gap, Position.following_concat_return] at whole
      exact whole
    · have within : '\n' ∉ lexeme.spelling :=
        fun member => line_end (Lexeme.eq_newline_of_mem shaped member)
      rw [withReturns_of_notMem within] at ih ⊢
      rw [Except.map, Token.afterReturn_of_ne line_end]
      exact .token blank shaped ends.afterReturn ih
  | @stop before gap rest error blank stuck =>
    have same_gap := withReturns_of_notMem (newline_notMem_of_blank blank)
    have stuck' := stuck.afterReturn
    rw [withReturns_append, same_gap] at stuck' ⊢
    exact .stop blank stuck'

theorem tokens_returned (text : String) :
    tokens (returned text) = (tokens text).map (Except.map Token.afterReturn) := by
  rw [tokens_eq_iff_cut, returned, String.toList_ofList]
  exact ((tokens_eq_iff_cut text _).mp rfl).afterReturn

/-! ### Statements -/

namespace Token

theorem lexeme_afterReturn (token : Token) : token.afterReturn.lexeme = token.lexeme := by
  obtain ⟨lexeme, position⟩ := token
  cases lexeme with
  | _ => rfl

theorem refuse_afterReturn (token : Token) (expected : Expectation) :
    token.afterReturn.refuse expected = (token.refuse expected).afterReturn := by
  obtain ⟨lexeme, position⟩ := token
  cases lexeme with
  | _ => rfl

end Token

namespace Partial

/-- A line end goes on with no statement. -/
theorem feed_newline (state : Partial) (position : Position) :
    state.feed ⟨.newline, position⟩ =
      .error (Token.refuse ⟨.newline, position⟩ state.expects) := by
  cases state with
  | _ => rfl

/-- What is wrong with a token other than a line end has to do with no line end. -/
theorem Refusal.afterReturn {reading : Option Partial} {token : Token} {error : ParseError}
    (refusal : Refusal reading token error) (other : token.lexeme ≠ .newline) :
    error.afterReturn = error := by
  cases refusal with
  | unfit expected => rw [← token.refuse_afterReturn, Token.afterReturn_of_ne other]
  | number => rfl
  | repeated => rfl

theorem feed_afterReturn (state : Partial) (token : Token) :
    state.feed token.afterReturn = (state.feed token).mapError (·.afterReturn) := by
  by_cases line_end : token.lexeme = .newline
  · obtain ⟨_, position⟩ := token
    cases line_end
    rw [feed_newline]
    exact feed_newline state position.right
  · rw [Token.afterReturn_of_ne line_end]
    cases fed : state.feed token with
    | ok next => rfl
    | error error =>
      have refusal := refusal_of_feed fed (Or.inr line_end)
      exact congrArg Except.error (refusal.afterReturn line_end).symm

theorem begin_afterReturn (token : Token) :
    begin token.afterReturn = (begin token).mapError (·.afterReturn) := by
  obtain ⟨lexeme, position⟩ := token
  cases lexeme with
  | _ => rfl

end Partial

/-- Line ends stand one column further right, and nothing else changes. -/
def Translation.afterReturn : Translation where
  token := Token.afterReturn
  lexical := id
  place := id
  state := id
  error := ParseError.afterReturn
  lexeme_token := Token.lexeme_afterReturn
  position_token _ other := congrArg Token.position (Token.afterReturn_of_ne other)
  command?_state _ := rfl
  error_lexical _ := rfl
  error_end _ _ := rfl
  begin_token token := by
    rw [Partial.begin_afterReturn, Except.map_id]
    rfl
  feed_token state token := by
    rw [id, Partial.feed_afterReturn, Except.map_id]
    rfl

theorem parseText_returned (text : String) :
    parseText (returned text) = (parseText text).map (Except.mapError ParseError.afterReturn) := by
  have items : Translation.afterReturn.item = Except.map Token.afterReturn := by
    funext item
    cases item with
    | _ => rfl
  have results : Translation.afterReturn.result = Except.mapError ParseError.afterReturn := by
    funext result
    cases result with
    | _ => rfl
  rw [parseText, tokens_returned, ← items, ← results]
  exact Translation.afterReturn.parse_item (tokens text)

/-! ### Patches -/

namespace CompileError

/-- An error in building the text with carriage returns. -/
def afterReturn : CompileError → CompileError
  | grammar (.unexpectedToken expected .newline) position =>
    grammar (.unexpectedToken expected .newline) position.right
  | error => error

/-- The same error at another place. -/
def placedAt (position : Position) : CompileError → CompileError
  | file fault => file fault
  | lexical error => lexical ⟨error.fault, position⟩
  | grammar fault _ => grammar fault position
  | semantic error => semantic ⟨error.fault, position⟩

theorem ofParse_afterReturn (error : ParseError) :
    ofParse error.afterReturn = (ofParse error).afterReturn := by
  unfold ParseError.afterReturn
  split
  next => rfl
  next other =>
    cases error with
    | lexical error => rfl
    | malformed fault position =>
      rw [ofParse, afterReturn.eq_def]
      split
      next same =>
        cases same
        exact absurd rfl (other _ _)
      next => rfl

/-- An error is of the same kind and on the same line. -/
theorem exists_placedAt_of_afterReturn (error : CompileError) :
    ∃ position, error.afterReturn = error.placedAt position ∧
      (error.placedAt position).line? = error.line? := by
  cases error with
  | file fault => exact ⟨.start, rfl, rfl⟩
  | lexical error => exact ⟨error.position, rfl, rfl⟩
  | semantic error => exact ⟨error.position, rfl, rfl⟩
  | grammar fault position =>
    rw [afterReturn.eq_def]
    split
    next expected position same =>
      cases same
      exact ⟨position.right, rfl, rfl⟩
    next => exact ⟨position, rfl, rfl⟩

end CompileError

section Compile

variable {D : Type} [Device D] (registry : Registry D)

theorem Session.run_afterReturn (s : Session D) (results : List (Except ParseError Statement)) :
    s.run registry (results.map (Except.mapError ParseError.afterReturn)) =
      ((s.run registry results).1.mapError CompileError.afterReturn,
        (s.run registry results).2) := by
  induction results generalizing s with
  | nil => rfl
  | cons result results ih =>
    cases result with
    | error error => exact congrArg (Except.error ·, s) (CompileError.ofParse_afterReturn error)
    | ok statement =>
      rw [List.map_cons]
      simp only [Except.mapError, run]
      generalize s.execute registry statement = carried
      obtain ⟨outcome, after⟩ := carried
      cases outcome with
      | ok => exact ih after
      | error error => rfl

theorem compileWith_returned (settings : Settings) (text : String) :
    compileWith registry settings (returned text) =
      (compileWith registry settings text).mapError CompileError.afterReturn := by
  unfold compileWith
  rw [parseText_returned, Session.run_afterReturn]
  generalize Session.run registry _ (parseText text) = carried
  obtain ⟨outcome, last⟩ := carried
  cases outcome with
  | _ => rfl

end Compile

/-- Both outcomes are the same patch, or errors of the same kind on the same line. -/
inductive SameUpToColumn {D : Type} :
    Except CompileError (Patch D) → Except CompileError (Patch D) → Prop
  | built (p : Patch D) : SameUpToColumn (.ok p) (.ok p)
  | failed {error : CompileError} {position : Position}
      (same_line : (error.placedAt position).line? = error.line?) :
      SameUpToColumn (.error error) (.error (error.placedAt position))

/-- What a text says whether its lines end in a line feed or in a carriage return and a line
feed. -/
structure IgnoresReturns (text : String) : Prop where
  /-- The statements are the same and so is an error after them, all at the same places, except for
  a line end that was not expected: it is found one column further right. -/
  results : parseText (returned text) =
    (parseText text).map (Except.mapError ParseError.afterReturn)
  compiled : ∀ {D : Type} [Device D] (registry : Registry D) (settings : Settings),
    SameUpToColumn (compileWith registry settings text)
      (compileWith registry settings (returned text))

theorem ignoresReturns (text : String) : IgnoresReturns text where
  results := parseText_returned text
  compiled registry settings := by
    rw [compileWith_returned]
    cases compileWith registry settings text with
    | ok p => exact .built p
    | error error =>
      obtain ⟨position, moved, same_line⟩ := error.exists_placedAt_of_afterReturn
      rw [Except.mapError, moved]
      exact .failed same_line

/-- The second line is cut short, so its end is found where the name of a port is expected. The
carriage return that the first line has already is joined by another. -/
example : parseText "x = T()\r\na:\n" =
      [.ok ⟨.create "x" "T" .empty, ⟨1, 1⟩⟩,
        .error (.malformed (.unexpectedToken .portName .newline) ⟨2, 3⟩)] ∧
    parseText (returned "x = T()\r\na:\n") =
      [.ok ⟨.create "x" "T" .empty, ⟨1, 1⟩⟩,
        .error (.malformed (.unexpectedToken .portName .newline) ⟨2, 4⟩)] := by
  decide +kernel

end ModularSynth
