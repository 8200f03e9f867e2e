import Mathlib.Data.List.Nodup
import ModularSynth.Language.Parse

/-!
# The grammar of statements

The grammar is stated over token lists, without states and errors: `Grammar.Line` for one statement
and `Grammar.Lines` for a text. The parser accepts exactly the lists that have a derivation, with
the statements of the derivation (`Grammar.parse_eq_iff_lines`). In between stands `Partial.Feeds`,
which lists what one token can do to a statement that has been read in part.
-/

namespace ModularSynth

theorem bind_eq_ok_iff {ε α β : Type} {x : Except ε α} {f : α → Except ε β} {b : β} :
    x >>= f = .ok b ↔ ∃ a, x = .ok a ∧ f a = .ok b := by
  cases x with
  | error error => simp [bind, Except.bind]
  | ok a => simp [bind, Except.bind]

theorem bind_eq_error_iff {ε α β : Type} {x : Except ε α} {f : α → Except ε β} {error : ε} :
    x >>= f = .error error ↔ x = .error error ∨ ∃ a, x = .ok a ∧ f a = .error error := by
  cases x with
  | error early => simp [bind, Except.bind]
  | ok a => simp [bind, Except.bind]

namespace Grammar

/-- A name spells a word of small letters if it has the letters of the word, each small or
capital. -/
def Spells (name word : String) : Prop :=
  List.Forall₂ (fun c letter => c = letter ∨ c = letter.toUpper) name.toList word.toList

instance (name word : String) : Decidable (Spells name word) :=
  inferInstanceAs (Decidable (List.Forall₂ _ _ _))

/-- The values that tokens denote: identifiers a truth value or themselves, texts themselves, and
numbers what they convert to. -/
inductive Denotes : Token → Value → Prop
  | yes {name : String} {position : Position} (spells : Spells name "true") :
      Denotes ⟨.identifier name, position⟩ (.bool true)
  | no {name : String} {position : Position} (spells : Spells name "false") :
      Denotes ⟨.identifier name, position⟩ (.bool false)
  | name {name : String} {position : Position} (not_yes : ¬ Spells name "true")
      (not_no : ¬ Spells name "false") : Denotes ⟨.identifier name, position⟩ (.text name)
  | text {text : String} {position : Position} : Denotes ⟨.quoted text, position⟩ (.text text)
  | number {digits : String} {position : Position} {value : Value}
      (converts : Lexeme.valueOfNumber? digits = some value) :
      Denotes ⟨.number digits, position⟩ value

/-- One or more arguments with commas between them. -/
inductive Listed : List Token → List (String × Value) → Prop
  | last {name : String} {p q : Position} {token : Token} {value : Value}
      (denotes : Denotes token value) :
      Listed [⟨.identifier name, p⟩, ⟨.equals, q⟩, token] [(name, value)]
  | more {name : String} {p q r : Position} {token : Token} {value : Value} {rest : List Token}
      {entries : List (String × Value)} (denotes : Denotes token value)
      (listed : Listed rest entries) :
      Listed (⟨.identifier name, p⟩ :: ⟨.equals, q⟩ :: token :: ⟨.comma, r⟩ :: rest)
        ((name, value) :: entries)

/-- One statement, placed at its first token. -/
inductive Line : List Token → Statement → Prop
  | parameter {name : String} {p q : Position} {token : Token} {value : Value}
      (denotes : Denotes token value) :
      Line [⟨.atSign, p⟩, ⟨.identifier name, q⟩, token] ⟨.parameter name value, p⟩
  | connect {device port device' port' : String} {p q r s t u v : Position} :
      Line [⟨.identifier device, p⟩, ⟨.colon, q⟩, ⟨.identifier port, r⟩, ⟨.arrow, s⟩,
          ⟨.identifier device', t⟩, ⟨.colon, u⟩, ⟨.identifier port', v⟩]
        ⟨.connect ⟨device, port⟩ ⟨device', port'⟩, p⟩
  | createEmpty {name typeName : String} {p q r s t : Position} :
      Line [⟨.identifier name, p⟩, ⟨.equals, q⟩, ⟨.identifier typeName, r⟩, ⟨.openParen, s⟩,
          ⟨.closeParen, t⟩]
        ⟨.create name typeName .empty, p⟩
  | create {name typeName : String} {p q r s t : Position} {arguments : List Token}
      {entries : List (String × Value)} (listed : Listed arguments entries)
      (distinct : (entries.map (·.1)).Nodup) :
      Line (⟨.identifier name, p⟩ :: ⟨.equals, q⟩ :: ⟨.identifier typeName, r⟩ ::
          ⟨.openParen, s⟩ :: (arguments ++ [⟨.closeParen, t⟩]))
        ⟨.create name typeName ⟨entries⟩, p⟩

/-- Line ends and statements, each statement with a line end after it or at the end of the list. -/
inductive Lines : List Token → List Statement → Prop
  | nil : Lines [] []
  | blank {p : Position} {rest : List Token} {statements : List Statement}
      (lines : Lines rest statements) : Lines (⟨.newline, p⟩ :: rest) statements
  | last {tokens : List Token} {statement : Statement} (line : Line tokens statement) :
      Lines tokens [statement]
  | next {tokens rest : List Token} {statement : Statement} {statements : List Statement}
      {p : Position} (line : Line tokens statement) (lines : Lines rest statements) :
      Lines (tokens ++ ⟨.newline, p⟩ :: rest) (statement :: statements)

end Grammar

/-! ### Truth values -/

theorem isLower_iff {c : Char} : c.isLower = true ↔ 97 ≤ c.toNat ∧ c.toNat ≤ 122 := by
  have bounds : c.isLower = (decide ('a'.val ≤ c.val) && decide (c.val ≤ 'z'.val)) := rfl
  rw [bounds, Bool.and_eq_true, decide_eq_true_eq, decide_eq_true_eq]
  exact Iff.rfl

theorem toNat_toLower (c : Char) :
    c.toLower.toNat = if 65 ≤ c.toNat ∧ c.toNat ≤ 90 then c.toNat + 32 else c.toNat := by
  unfold Char.toLower
  split
  next capital =>
    obtain ⟨first, last⟩ : 65 ≤ c.toNat ∧ c.toNat ≤ 90 := capital
    have fits : c.toNat + 32 < 2 ^ 32 := by omega
    rw [if_pos ⟨first, last⟩]
    exact (UInt32.toNat_add c.val 32).trans (Nat.mod_eq_of_lt fits)
  next other => exact (if_neg other).symm

theorem toNat_toUpper {c : Char} (small : c.isLower = true) : c.toUpper.toNat = c.toNat - 32 := by
  obtain ⟨first, last⟩ := isLower_iff.mp small
  unfold Char.toUpper
  rw [dif_pos ⟨first, last⟩]
  -- The difference of the cases is negative, so that the sum wraps around.
  have wraps : (c.toNat + (2 ^ 32 - 32)) % 2 ^ 32 = c.toNat - 32 := by omega
  exact (UInt32.toNat_add c.val _).trans wraps

theorem toLower_eq_iff {c letter : Char} (small : letter.isLower = true) :
    c.toLower = letter ↔ c = letter ∨ c = letter.toUpper := by
  have letters := isLower_iff.mp small
  rw [← Char.toNat_inj, ← Char.toNat_inj, ← Char.toNat_inj, toNat_toLower, toNat_toUpper small]
  split
  next capital => omega
  next other => omega

theorem equalsIgnoringCase_iff_spells {name word : String}
    (small : word.toList.all Char.isLower = true) :
    equalsIgnoringCase name word = true ↔ Grammar.Spells name word := by
  unfold equalsIgnoringCase Grammar.Spells
  rw [decide_eq_true_eq]
  generalize name.toList = cs, word.toList = letters at small
  induction letters generalizing cs with
  | nil => simp
  | cons letter letters ih =>
    rw [List.all_cons, Bool.and_eq_true] at small
    obtain ⟨first, rest⟩ := small
    cases cs with
    | nil => simp
    | cons c cs =>
      have stays : letter.toLower = letter := (toLower_eq_iff first).mpr (Or.inl rfl)
      rw [List.map_cons, List.map_cons, List.cons.injEq, List.forall₂_cons, stays,
        toLower_eq_iff first, ih cs rest]

theorem Lexeme.valueOfName_eq (name : String) :
    valueOfName name = if Grammar.Spells name "true" then .bool true
      else if Grammar.Spells name "false" then .bool false else .text name := by
  have yes : equalsIgnoringCase name "true" = true ↔ Grammar.Spells name "true" :=
    equalsIgnoringCase_iff_spells (by decide)
  have no : equalsIgnoringCase name "false" = true ↔ Grammar.Spells name "false" :=
    equalsIgnoringCase_iff_spells (by decide)
  simp only [valueOfName, yes, no]

theorem Grammar.Spells.not_true_of_false {name : String} (no : Spells name "false") :
    ¬ Spells name "true" := by
  intro yes
  exact absurd (yes.length_eq.symm.trans no.length_eq) (by decide)

/-! ### Single tokens -/

namespace Token

theorem value_eq_ok_iff {token : Token} {value : Value} :
    token.value = .ok value ↔ Grammar.Denotes token value := by
  obtain ⟨lexeme, position⟩ := token
  constructor
  · intro read
    cases lexeme with
    | identifier name =>
      cases read
      rw [Lexeme.valueOfName_eq]
      split
      next yes => exact .yes yes
      next not_yes =>
        split
        next no => exact .no no
        next not_no => exact .name not_yes not_no
    | quoted text =>
      cases read
      exact .text
    | number digits =>
      cases converts : Lexeme.valueOfNumber? digits with
      | none => simp [Token.value, converts] at read
      | some converted =>
        simp only [Token.value, converts, Except.ok.injEq] at read
        subst read
        exact .number converts
    | _ => cases read
  · intro denotes
    cases denotes with
    | yes spells => simp [Token.value, Lexeme.valueOfName_eq, spells]
    | no spells => simp [Token.value, Lexeme.valueOfName_eq, spells, spells.not_true_of_false]
    | name not_yes not_no => simp [Token.value, Lexeme.valueOfName_eq, not_yes, not_no]
    | text => rfl
    | number converts => simp [Token.value, converts]

theorem name_eq_ok_iff {token : Token} {expected : Expectation} {name : String} :
    token.name expected = .ok name ↔ ∃ position, token = ⟨.identifier name, position⟩ := by
  obtain ⟨lexeme, position⟩ := token
  cases lexeme with
  | identifier given => simp [Token.name]
  | _ => simp [Token.name]

theorem require_eq_ok_iff {token : Token} {lexeme : Lexeme} {expected : Expectation} :
    token.require lexeme expected = .ok () ↔ ∃ position, token = ⟨lexeme, position⟩ := by
  obtain ⟨given, position⟩ := token
  by_cases same : given = lexeme
  · simp [Token.require, same]
  · simp [Token.require, same]

theorem eq_refuse_of_name {token : Token} {expected : Expectation} {error : ParseError}
    (refused : token.name expected = .error error) : error = token.refuse expected := by
  unfold Token.name at refused
  split at refused
  next => cases refused
  next =>
    cases refused
    rfl

theorem eq_refuse_of_require {token : Token} {lexeme : Lexeme} {expected : Expectation}
    {error : ParseError} (refused : token.require lexeme expected = .error error) :
    error = token.refuse expected := by
  unfold Token.require at refused
  split at refused
  next => cases refused
  next =>
    cases refused
    rfl

/-- A token is no value because it is no literal and no name, or because it is a number that does
not convert. -/
theorem refused_of_value {token : Token} {error : ParseError}
    (refused : token.value = .error error) :
    (error = token.refuse .value ∧ ∀ digits, token.lexeme ≠ .number digits) ∨
      ∃ digits, token.lexeme = .number digits ∧ Lexeme.valueOfNumber? digits = none ∧
        error = .malformed (.invalidNumber digits) token.position := by
  obtain ⟨lexeme, p⟩ := token
  cases lexeme with
  | identifier name => cases refused
  | quoted text => cases refused
  | number digits =>
    right
    cases converts : Lexeme.valueOfNumber? digits with
    | some value => simp [Token.value, converts] at refused
    | none =>
      simp only [Token.value, converts, Except.error.injEq] at refused
      exact ⟨digits, rfl, converts, refused.symm⟩
  | _ =>
    left
    cases refused
    refine ⟨rfl, ?_⟩
    intro digits impossible
    cases impossible

end Token

/-! ### One more token -/

namespace Partial

open Grammar (Denotes)

/-- What a token makes of a statement that has been read in part. -/
inductive Feeds : Partial → Token → Partial → Prop
  | parameterName {name : String} {p : Position} :
      Feeds parameterName ⟨.identifier name, p⟩ (parameterValue name)
  | parameterValue {name : String} {token : Token} {value : Value}
      (denotes : Denotes token value) :
      Feeds (parameterValue name) token (lineEnd (.parameter name value))
  | colon {name : String} {p : Position} : Feeds (operator name) ⟨.colon, p⟩ (sourcePort name)
  | equals {name : String} {p : Position} : Feeds (operator name) ⟨.equals, p⟩ (typeName name)
  | sourcePort {device port : String} {p : Position} :
      Feeds (sourcePort device) ⟨.identifier port, p⟩ (arrow ⟨device, port⟩)
  | arrow {source : Endpoint} {p : Position} :
      Feeds (arrow source) ⟨.arrow, p⟩ (destinationDevice source)
  | destinationDevice {source : Endpoint} {device : String} {p : Position} :
      Feeds (destinationDevice source) ⟨.identifier device, p⟩ (destinationColon source device)
  | destinationColon {source : Endpoint} {device : String} {p : Position} :
      Feeds (destinationColon source device) ⟨.colon, p⟩ (destinationPort source device)
  | destinationPort {source : Endpoint} {device port : String} {p : Position} :
      Feeds (destinationPort source device) ⟨.identifier port, p⟩
        (lineEnd (.connect source ⟨device, port⟩))
  | typeName {name type : String} {p : Position} :
      Feeds (typeName name) ⟨.identifier type, p⟩ (openParen name type)
  | openParen {name type : String} {p : Position} :
      Feeds (openParen name type) ⟨.openParen, p⟩ (firstArgument name type)
  | noArgument {name type : String} {p : Position} :
      Feeds (firstArgument name type) ⟨.closeParen, p⟩ (lineEnd (.create name type .empty))
  | firstArgument {name type argument : String} {p : Position} :
      Feeds (firstArgument name type) ⟨.identifier argument, p⟩
        (argumentEquals ⟨name, type, .empty⟩ argument p)
  | argumentName {draft : Draft} {argument : String} {p : Position} :
      Feeds (argumentName draft) ⟨.identifier argument, p⟩ (argumentEquals draft argument p)
  | argumentEquals {draft : Draft} {argument : String} {p q : Position} :
      Feeds (argumentEquals draft argument p) ⟨.equals, q⟩ (argumentValue draft argument p)
  | argumentValue {name type argument : String} {entries : List (String × Value)} {p : Position}
      {token : Token} {value : Value} (denotes : Denotes token value)
      (new : argument ∉ entries.map (·.1)) :
      Feeds (argumentValue ⟨name, type, ⟨entries⟩⟩ argument p) token
        (argumentEnd ⟨name, type, ⟨entries ++ [(argument, value)]⟩⟩)
  | comma {draft : Draft} {p : Position} :
      Feeds (argumentEnd draft) ⟨.comma, p⟩ (argumentName draft)
  | closeParen {draft : Draft} {p : Position} :
      Feeds (argumentEnd draft) ⟨.closeParen, p⟩ (finished draft)

theorem addArgument_eq_ok_iff {name type argument : String} {entries : List (String × Value)}
    {p : Position} {value : Value} {next : Partial} :
    addArgument ⟨name, type, ⟨entries⟩⟩ argument p value = .ok next ↔
      argument ∉ entries.map (·.1) ∧
        next = argumentEnd ⟨name, type, ⟨entries ++ [(argument, value)]⟩⟩ := by
  rw [← Arguments.contains_eq_false_iff ⟨entries⟩]
  unfold addArgument Arguments.insert
  cases taken : (⟨entries⟩ : Arguments).contains argument with
  | true => simp
  | false => simp [eq_comm]

section Feed

variable {token : Token} {after : Partial}

/-- A state that takes any name takes the identifiers. -/
theorem exists_of_named {expected : Expectation} {next : String → Partial}
    (fed : (do return next (← token.name expected)) = Except.ok after) :
    ∃ name p, token = ⟨.identifier name, p⟩ ∧ after = next name := by
  obtain ⟨name, named, done⟩ := bind_eq_ok_iff.mp fed
  obtain ⟨p, rfl⟩ := Token.name_eq_ok_iff.mp named
  cases done
  exact ⟨name, p, rfl, rfl⟩

/-- A state that takes one symbol takes that symbol. -/
theorem exists_of_required {lexeme : Lexeme} {expected : Expectation} {next : Partial}
    (fed : (do token.require lexeme expected; return next) = Except.ok after) :
    ∃ p, token = ⟨lexeme, p⟩ ∧ after = next := by
  obtain ⟨_, found, done⟩ := bind_eq_ok_iff.mp fed
  obtain ⟨p, rfl⟩ := Token.require_eq_ok_iff.mp found
  cases done
  exact ⟨p, rfl, rfl⟩

theorem feeds_of_operator {name : String} (fed : (operator name).feed token = .ok after) :
    Feeds (operator name) token after := by
  obtain ⟨lexeme, p⟩ := token
  cases lexeme with
  | colon =>
    cases fed
    exact .colon
  | equals =>
    cases fed
    exact .equals
  | _ => cases fed

theorem feeds_of_firstArgument {name type : String}
    (fed : (firstArgument name type).feed token = .ok after) :
    Feeds (firstArgument name type) token after := by
  obtain ⟨lexeme, p⟩ := token
  cases lexeme with
  | closeParen =>
    cases fed
    exact .noArgument
  | identifier argument =>
    cases fed
    exact .firstArgument
  | _ => cases fed

theorem feeds_of_argumentEnd {draft : Draft} (fed : (argumentEnd draft).feed token = .ok after) :
    Feeds (argumentEnd draft) token after := by
  obtain ⟨lexeme, p⟩ := token
  cases lexeme with
  | comma =>
    cases fed
    exact .comma
  | closeParen =>
    cases fed
    exact .closeParen
  | _ => cases fed

theorem feeds_of_parameterValue {name : String}
    (fed : (parameterValue name).feed token = .ok after) :
    Feeds (parameterValue name) token after := by
  obtain ⟨value, read, done⟩ := bind_eq_ok_iff.mp fed
  cases done
  exact .parameterValue (Token.value_eq_ok_iff.mp read)

theorem feeds_of_argumentValue {draft : Draft} {argument : String} {p : Position}
    (fed : (argumentValue draft argument p).feed token = .ok after) :
    Feeds (argumentValue draft argument p) token after := by
  obtain ⟨name, type, ⟨entries⟩⟩ := draft
  obtain ⟨value, read, added⟩ := bind_eq_ok_iff.mp fed
  obtain ⟨new, rfl⟩ := addArgument_eq_ok_iff.mp added
  exact .argumentValue (Token.value_eq_ok_iff.mp read) new

theorem feeds_of_feed {state : Partial} (fed : state.feed token = .ok after) :
    Feeds state token after := by
  cases state with
  | parameterName =>
    obtain ⟨name, p, rfl, rfl⟩ := exists_of_named fed
    exact .parameterName
  | parameterValue name => exact feeds_of_parameterValue fed
  | operator name => exact feeds_of_operator fed
  | sourcePort device =>
    obtain ⟨port, p, rfl, rfl⟩ := exists_of_named fed
    exact .sourcePort
  | arrow source =>
    obtain ⟨p, rfl, rfl⟩ := exists_of_required fed
    exact .arrow
  | destinationDevice source =>
    obtain ⟨device, p, rfl, rfl⟩ := exists_of_named fed
    exact .destinationDevice
  | destinationColon source device =>
    obtain ⟨p, rfl, rfl⟩ := exists_of_required fed
    exact .destinationColon
  | destinationPort source device =>
    obtain ⟨port, p, rfl, rfl⟩ := exists_of_named fed
    exact .destinationPort
  | typeName name =>
    obtain ⟨type, p, rfl, rfl⟩ := exists_of_named fed
    exact .typeName
  | openParen name type =>
    obtain ⟨p, rfl, rfl⟩ := exists_of_required fed
    exact .openParen
  | firstArgument name type => exact feeds_of_firstArgument fed
  | argumentName draft =>
    obtain ⟨argument, p, rfl, rfl⟩ := exists_of_named fed
    exact .argumentName
  | argumentEquals draft argument p =>
    obtain ⟨q, rfl, rfl⟩ := exists_of_required fed
    exact .argumentEquals
  | argumentValue draft argument p => exact feeds_of_argumentValue fed
  | argumentEnd draft => exact feeds_of_argumentEnd fed
  | lineEnd command => cases fed

theorem Feeds.feed_eq {state : Partial} (feeds : Feeds state token after) :
    state.feed token = .ok after := by
  cases feeds with
  | parameterValue denotes =>
    exact bind_eq_ok_iff.mpr ⟨_, Token.value_eq_ok_iff.mpr denotes, rfl⟩
  | argumentValue denotes new =>
    exact bind_eq_ok_iff.mpr
      ⟨_, Token.value_eq_ok_iff.mpr denotes, addArgument_eq_ok_iff.mpr ⟨new, rfl⟩⟩
  | _ => rfl

theorem feed_eq_ok_iff {state : Partial} : state.feed token = .ok after ↔ Feeds state token after :=
  ⟨feeds_of_feed, Feeds.feed_eq⟩

end Feed

/-! ### The rest of a statement -/

/-- The tokens that complete a statement. -/
inductive Reads : Partial → List Token → Command → Prop
  | done {command : Command} : Reads (lineEnd command) [] command
  | step {state next : Partial} {token : Token} {line : List Token} {command : Command}
      (feeds : Feeds state token next) (reads : Reads next line command) :
      Reads state (token :: line) command

open Grammar (Listed Line)

theorem Reads.eq_of_lineEnd {line : List Token} {command other : Command}
    (reads : Reads (lineEnd command) line other) : line = [] ∧ other = command := by
  cases reads with
  | done => exact ⟨rfl, rfl⟩
  | step feeds _ => cases feeds

/-- After a comma and after the opening parenthesis of a device that has arguments stand arguments,
a closing parenthesis, and nothing else. The induction is on the number of tokens, as each argument
takes the state through four of them. -/
theorem Reads.exists_listed {name type : String} {entries : List (String × Value)}
    {line : List Token} {command : Command}
    (reads : Reads (argumentName ⟨name, type, ⟨entries⟩⟩) line command)
    (distinct : (entries.map (·.1)).Nodup) :
    ∃ arguments added p, line = arguments ++ [⟨.closeParen, p⟩] ∧ Listed arguments added ∧
      ((entries ++ added).map (·.1)).Nodup ∧ command = .create name type ⟨entries ++ added⟩ := by
  induction length : line.length using Nat.strongRecOn generalizing entries line with
  | ind count ih =>
    cases reads with | step feeds reads =>
    cases feeds with | @argumentName _ argument =>
    cases reads with | step feeds reads =>
    cases feeds with | argumentEquals =>
    cases reads with | step feeds reads =>
    cases feeds with | @argumentValue _ _ _ _ _ _ value denotes new =>
    have still_distinct : ((entries ++ [(argument, value)]).map (·.1)).Nodup := by
      rw [List.map_append, List.map_singleton, ← List.concat_eq_append, List.nodup_concat]
      exact ⟨new, distinct⟩
    cases reads with | step feeds reads =>
    cases feeds with
    | closeParen =>
      obtain ⟨rfl, rfl⟩ := reads.eq_of_lineEnd
      exact ⟨_, [(argument, value)], _, rfl, .last denotes, still_distinct, rfl⟩
    | comma =>
      simp only [List.length_cons] at length
      obtain ⟨arguments, added, p, rfl, listed, together, rfl⟩ :=
        ih _ (by omega) reads still_distinct rfl
      rw [List.append_assoc] at together
      refine ⟨_ :: _ :: _ :: _ :: arguments, (argument, value) :: added, p, rfl,
        .more denotes listed, together, ?_⟩
      rw [List.append_assoc]
      rfl

theorem Reads.of_listed {name type : String} {arguments : List Token}
    {added : List (String × Value)} (listed : Listed arguments added) {p : Position}
    {entries : List (String × Value)} (together : ((entries ++ added).map (·.1)).Nodup) :
    Reads (argumentName ⟨name, type, ⟨entries⟩⟩) (arguments ++ [⟨.closeParen, p⟩])
      (.create name type ⟨entries ++ added⟩) := by
  induction listed generalizing entries with
  | @last argument _ _ token value denotes =>
    have new : argument ∉ entries.map (·.1) := by
      rw [List.map_append, List.nodup_append] at together
      intro member
      exact together.2.2 argument member argument (List.mem_singleton_self argument) rfl
    exact .step .argumentName (.step .argumentEquals
      (.step (.argumentValue denotes new) (.step .closeParen .done)))
  | @more argument _ _ _ token value rest added denotes listed ih =>
    have new : argument ∉ entries.map (·.1) := by
      rw [List.map_append, List.nodup_append] at together
      intro member
      exact together.2.2 argument member argument List.mem_cons_self rfl
    rw [List.append_cons] at together
    rw [List.append_cons entries]
    exact .step .argumentName (.step .argumentEquals
      (.step (.argumentValue denotes new) (.step .comma (ih together))))

/-- The first argument is read like one after a comma. -/
theorem Reads.firstArgument {name type : String} {line : List Token} {command : Command}
    (reads : Reads (argumentName ⟨name, type, .empty⟩) line command) :
    Reads (firstArgument name type) line command := by
  cases reads with | step feeds reads =>
  cases feeds with | argumentName =>
  exact .step .firstArgument reads

theorem Reads.line_of_parameterName {line : List Token} {command : Command} {p : Position}
    (reads : Reads parameterName line command) : Line (⟨.atSign, p⟩ :: line) ⟨command, p⟩ := by
  cases reads with | step feeds reads =>
  cases feeds with | parameterName =>
  cases reads with | step feeds reads =>
  cases feeds with | parameterValue denotes =>
  obtain ⟨rfl, rfl⟩ := reads.eq_of_lineEnd
  exact .parameter denotes

theorem Reads.line_of_sourcePort {device : String} {line : List Token} {command : Command}
    {p q : Position} (reads : Reads (sourcePort device) line command) :
    Line (⟨.identifier device, p⟩ :: ⟨.colon, q⟩ :: line) ⟨command, p⟩ := by
  cases reads with | step feeds reads =>
  cases feeds with | sourcePort =>
  cases reads with | step feeds reads =>
  cases feeds with | arrow =>
  cases reads with | step feeds reads =>
  cases feeds with | destinationDevice =>
  cases reads with | step feeds reads =>
  cases feeds with | destinationColon =>
  cases reads with | step feeds reads =>
  cases feeds with | destinationPort =>
  obtain ⟨rfl, rfl⟩ := reads.eq_of_lineEnd
  exact .connect

theorem Reads.line_of_typeName {name : String} {line : List Token} {command : Command}
    {p q : Position} (reads : Reads (typeName name) line command) :
    Line (⟨.identifier name, p⟩ :: ⟨.equals, q⟩ :: line) ⟨command, p⟩ := by
  cases reads with | step feeds reads =>
  cases feeds with | typeName =>
  cases reads with | step feeds reads =>
  cases feeds with | openParen =>
  cases reads with | step feeds reads =>
  cases feeds with
  | noArgument =>
    obtain ⟨rfl, rfl⟩ := reads.eq_of_lineEnd
    exact .createEmpty
  | firstArgument =>
    have reads := Reads.step Feeds.argumentName reads
    obtain ⟨arguments, added, q, split, listed, distinct, rfl⟩ :=
      reads.exists_listed List.nodup_nil
    rw [split]
    exact .create listed distinct

/-- The statements of the grammar are what can be read from a first token on. -/
theorem begin_reads_iff_line {first : Token} {line : List Token} {command : Command} :
    (∃ state, begin first = .ok state ∧ Reads state line command) ↔
      Line (first :: line) ⟨command, first.position⟩ := by
  constructor
  · intro begins
    obtain ⟨state, begun, reads⟩ := begins
    obtain ⟨lexeme, p⟩ := first
    cases lexeme with
    | atSign =>
      cases begun
      exact reads.line_of_parameterName
    | identifier name =>
      cases begun
      cases reads with | step feeds reads =>
      cases feeds with
      | colon => exact reads.line_of_sourcePort
      | equals => exact reads.line_of_typeName
    | _ => cases begun
  · intro derived
    cases derived with
    | parameter denotes =>
      exact ⟨_, rfl, .step .parameterName (.step (.parameterValue denotes) .done)⟩
    | connect =>
      exact ⟨_, rfl, .step .colon (.step .sourcePort (.step .arrow (.step .destinationDevice
        (.step .destinationColon (.step .destinationPort .done)))))⟩
    | createEmpty =>
      exact ⟨_, rfl, .step .equals (.step .typeName (.step .openParen (.step .noArgument .done)))⟩
    | create listed distinct =>
      exact ⟨_, rfl, .step .equals (.step .typeName (.step .openParen
        (Reads.firstArgument (Reads.of_listed listed distinct))))⟩

theorem Feeds.command?_eq_none {state next : Partial} {token : Token}
    (feeds : Feeds state token next) : state.command? = none := by
  cases feeds with
  | _ => rfl

end Partial

/-! ### One statement -/

open Grammar (Line Lines)
open Partial (Reads)

theorem continueStatement_of_reads {state : Partial} {line : List Token} {command : Command}
    (reads : Reads state line command) (first last : Position) (rest : List LexItem) :
    ∃ last', continueStatement first state last (line.map .ok ++ rest) =
      continueStatement first (.lineEnd command) last' rest := by
  induction reads generalizing last with
  | done => exact ⟨last, rfl⟩
  | @step state next token line command feeds reads ih =>
    obtain ⟨last', continued⟩ := ih token.position
    refine ⟨last', ?_⟩
    rw [← continued, List.map_cons, List.cons_append, continueStatement]
    simp only [feeds.command?_eq_none, Partial.feed_eq_ok_iff.mpr feeds]

/-- What is left after a statement that ends with its tokens or at a line end. -/
def Closes (after : List Token) (rest : List LexItem) : Prop :=
  (after = [] ∧ rest = []) ∨ ∃ p later, after = ⟨.newline, p⟩ :: later ∧ rest = later.map .ok

theorem continueStatement_lineEnd {first last : Position} {command : Command}
    {after : List Token} {rest : List LexItem} (closes : Closes after rest) :
    continueStatement first (.lineEnd command) last (after.map .ok) =
      .statement ⟨command, first⟩ rest := by
  rcases closes with ⟨rfl, rfl⟩ | ⟨p, later, rfl, rfl⟩
  · rfl
  · rfl

theorem exists_reads_of_continueStatement {first last : Position} {state : Partial}
    {tokens : List Token} {statement : Statement} {rest : List LexItem}
    (read : continueStatement first state last (tokens.map .ok) = .statement statement rest) :
    ∃ line command after, tokens = line ++ after ∧ Reads state line command ∧
      statement = ⟨command, first⟩ ∧ Closes after rest := by
  induction tokens generalizing state last with
  | nil =>
    rw [List.map_nil, continueStatement] at read
    cases complete : state.command? with
    | none => simp [complete] at read
    | some command =>
      simp only [complete, ParseResult.statement.injEq] at read
      obtain ⟨rfl, rfl⟩ := read
      cases state with
      | lineEnd present =>
        cases complete
        exact ⟨[], command, [], rfl, .done, rfl, Or.inl ⟨rfl, rfl⟩⟩
      | _ => cases complete
  | cons token tokens ih =>
    rw [List.map_cons, continueStatement] at read
    split at read
    next command complete line_end =>
      cases read
      obtain ⟨lexeme, p⟩ := token
      cases line_end
      cases state with
      | lineEnd present =>
        cases complete
        exact ⟨[], command, _, rfl, .done, rfl, Or.inr ⟨p, tokens, rfl, rfl⟩⟩
      | _ => cases complete
    next =>
      split at read
      next next fed =>
        obtain ⟨line, command, after, rfl, reads, rfl, closes⟩ := ih read
        exact ⟨token :: line, command, after, rfl,
          .step (Partial.feed_eq_ok_iff.mp fed) reads, rfl, closes⟩
      next => cases read

theorem continueStatement_ne_finished (first last : Position) (state : Partial)
    (items : List LexItem) : continueStatement first state last items ≠ .finished := by
  induction items generalizing state last with
  | nil =>
    rw [continueStatement]
    cases state.command? with
    | none => simp
    | some command => simp
  | cons item items ih =>
    cases item with
    | error error => simp [continueStatement]
    | ok token =>
      rw [continueStatement]
      split
      · simp
      · split
        next next _ => exact ih token.position next
        next => simp

section Begin

variable {first : Token} (not_blank : first.lexeme ≠ .newline)

include not_blank

theorem readStatement_of_begin_ok {state : Partial} (begun : Partial.begin first = .ok state)
    (items : List LexItem) :
    readStatement (.ok first :: items) =
      continueStatement first.position state first.position items := by
  simp only [readStatement, if_neg not_blank, begun]

theorem readStatement_of_begin_error {error : ParseError} {items : List LexItem}
    (refused : Partial.begin first = .error error) :
    readStatement (.ok first :: items) = .failed error items := by
  simp only [readStatement, if_neg not_blank, refused]

end Begin

/-! ### A whole text -/

theorem parse_of_finished {items : List LexItem} (read : readStatement items = .finished) :
    parse items = [] := by
  rw [parse]
  split
  next => rfl
  next statement rest other =>
    rw [read] at other
    cases other
  next error rest other =>
    rw [read] at other
    cases other

theorem parse_of_statement {items rest : List LexItem} {statement : Statement}
    (read : readStatement items = .statement statement rest) :
    parse items = .ok statement :: parse rest := by
  rw [parse]
  split
  next other =>
    rw [read] at other
    cases other
  next statement' rest' other =>
    rw [read] at other
    cases other
    rfl
  next error rest' other =>
    rw [read] at other
    cases other

theorem parse_of_failed {items rest : List LexItem} {error : ParseError}
    (read : readStatement items = .failed error rest) : parse items = [.error error] := by
  rw [parse]
  split
  next other =>
    rw [read] at other
    cases other
  next statement rest' other =>
    rw [read] at other
    cases other
  next error' rest' other =>
    rw [read] at other
    cases other
    rfl

theorem parse_of_readStatement_eq {items others : List LexItem}
    (same : readStatement items = readStatement others) : parse items = parse others := by
  cases read : readStatement others with
  | finished => rw [parse_of_finished read, parse_of_finished (same.trans read)]
  | statement statement rest =>
    rw [parse_of_statement read, parse_of_statement (same.trans read)]
  | failed error rest => rw [parse_of_failed read, parse_of_failed (same.trans read)]

/-- Induction on the statements of a list, of which each leaves fewer items. -/
theorem statementwise {motive : List LexItem → Prop}
    (finished : ∀ items, readStatement items = .finished → motive items)
    (failed : ∀ items error rest, readStatement items = .failed error rest → motive items)
    (statement : ∀ items statement rest, readStatement items = .statement statement rest →
      motive rest → motive items)
    (items : List LexItem) : motive items := by
  induction length : items.length using Nat.strongRecOn generalizing items with
  | ind count ih =>
    have shorter := length_rest_readStatement items
    cases read : readStatement items with
    | finished => exact finished items read
    | failed error rest => exact failed items error rest read
    | statement found rest =>
      rw [read] at shorter
      have shorter : rest.length < items.length := shorter.resolve_left (by simp)
      exact statement items found rest read (ih rest.length (by omega) rest rfl)

/-- Only the last result can be an error. -/
theorem parse_cases (items : List LexItem) :
    ∃ statements : List Statement, parse items = statements.map .ok ∨
      ∃ error, parse items = statements.map .ok ++ [.error error] := by
  induction items using statementwise with
  | finished items read => exact ⟨[], Or.inl (parse_of_finished read)⟩
  | failed items error rest read => exact ⟨[], Or.inr ⟨error, parse_of_failed read⟩⟩
  | statement items statement rest read ih =>
    rw [parse_of_statement read]
    obtain ⟨statements, fine | ⟨error, broken⟩⟩ := ih
    · exact ⟨statement :: statements, Or.inl (by rw [fine, List.map_cons])⟩
    · refine ⟨statement :: statements, Or.inr ⟨error, ?_⟩⟩
      rw [broken, List.map_cons, List.cons_append]

theorem parse_newline (p : Position) (items : List LexItem) :
    parse (.ok ⟨.newline, p⟩ :: items) = parse items :=
  parse_of_readStatement_eq rfl

/-- A statement of the grammar that is closed is read as such. -/
theorem parse_of_line {tokens after : List Token} {statement : Statement} {rest : List LexItem}
    (line : Line tokens statement) (closes : Closes after rest) :
    parse ((tokens ++ after).map .ok) = .ok statement :: parse rest := by
  apply parse_of_statement
  obtain ⟨first, line', rfl, position⟩ :
      ∃ first line', tokens = first :: line' ∧ statement.position = first.position := by
    cases line with
    | _ => exact ⟨_, _, rfl, rfl⟩
  obtain ⟨command, place⟩ := statement
  simp only at position
  subst position
  obtain ⟨state, begun, reads⟩ := Partial.begin_reads_iff_line.mpr line
  obtain ⟨last, continued⟩ :=
    continueStatement_of_reads reads first.position first.position (after.map .ok)
  have not_blank : first.lexeme ≠ .newline := by
    intro blank
    unfold Partial.begin at begun
    rw [blank] at begun
    cases begun
  rw [List.cons_append, List.map_cons, readStatement_of_begin_ok not_blank begun, List.map_append,
    continued]
  exact continueStatement_lineEnd closes

theorem exists_eq_map_ok {ε α : Type} {items : List (Except ε α)}
    (fine : ∀ item ∈ items, ∃ a, item = .ok a) : ∃ values : List α, items = values.map .ok := by
  induction items with
  | nil => exact ⟨[], rfl⟩
  | cons item items ih =>
    rw [List.forall_mem_cons] at fine
    obtain ⟨⟨a, rfl⟩, rest⟩ := fine
    obtain ⟨values, rfl⟩ := ih rest
    exact ⟨a :: values, rfl⟩

namespace Grammar

theorem parse_of_lines {tokens : List Token} {statements : List Statement}
    (lines : Lines tokens statements) : parse (tokens.map .ok) = statements.map .ok := by
  induction lines with
  | nil => exact parse_of_finished rfl
  | blank _ ih =>
    rw [List.map_cons, parse_newline]
    exact ih
  | last line =>
    have read := parse_of_line line (Or.inl ⟨rfl, rfl⟩)
    rw [List.append_nil] at read
    rw [read, parse_of_finished rfl]
    rfl
  | next line _ ih =>
    rw [parse_of_line line (Or.inr ⟨_, _, rfl, rfl⟩), ih]
    rfl

/-- What the parser reads without an error has a derivation. The induction is on the number of
tokens, as a statement uses up several of them. -/
theorem lines_of_parse {tokens : List Token} {statements : List Statement}
    (read : parse (tokens.map .ok) = statements.map .ok) : Lines tokens statements := by
  induction length : tokens.length using Nat.strongRecOn generalizing tokens statements with
  | ind count ih =>
    cases tokens with
    | nil =>
      rw [List.map_nil, parse_of_finished rfl] at read
      rw [List.map_eq_nil_iff.mp read.symm]
      exact .nil
    | cons first tokens =>
      rw [List.length_cons] at length
      rw [List.map_cons] at read
      by_cases blank : first.lexeme = .newline
      · obtain ⟨lexeme, p⟩ := first
        simp only at blank
        subst blank
        rw [parse_newline] at read
        exact .blank (ih tokens.length (by omega) read rfl)
      · cases begun : Partial.begin first with
        | error error =>
          rw [parse_of_failed (readStatement_of_begin_error blank begun)] at read
          cases statements with
          | nil => cases read
          | cons statement statements => cases read
        | ok state =>
          have began := readStatement_of_begin_ok blank begun (tokens.map .ok)
          cases continued : continueStatement first.position state first.position
              (tokens.map .ok) with
          | finished => exact absurd continued (continueStatement_ne_finished _ _ _ _)
          | failed error rest =>
            rw [parse_of_failed (began.trans continued)] at read
            cases statements with
            | nil => cases read
            | cons statement statements => cases read
          | statement statement rest =>
            rw [parse_of_statement (began.trans continued)] at read
            obtain ⟨line, command, after, rfl, reads, rfl, closes⟩ :=
              exists_reads_of_continueStatement continued
            have derived := Partial.begin_reads_iff_line.mp ⟨state, begun, reads⟩
            cases statements with
            | nil => cases read
            | cons statement statements =>
              rw [List.map_cons, List.cons.injEq, Except.ok.injEq] at read
              obtain ⟨rfl, read⟩ := read
              rcases closes with ⟨rfl, rfl⟩ | ⟨p, later, rfl, rfl⟩
              · rw [parse_of_finished rfl] at read
                rw [List.append_nil, List.map_eq_nil_iff.mp read.symm]
                exact .last derived
              · rw [List.length_append, List.length_cons] at length
                exact .next derived (ih later.length (by omega) read rfl)

/-- The parser accepts the token lists of the grammar and no others, and yields the statements of
the derivation. -/
theorem parse_eq_iff_lines (tokens : List Token) :
    (∀ statements : List Statement,
        parse (tokens.map .ok) = statements.map .ok ↔ Lines tokens statements) ∧
      ((∀ item ∈ parse (tokens.map .ok), ∃ statement, item = .ok statement) ↔
        ∃ statements, Lines tokens statements) := by
  have each : ∀ statements : List Statement,
      parse (tokens.map .ok) = statements.map .ok ↔ Lines tokens statements :=
    fun statements => ⟨lines_of_parse, parse_of_lines⟩
  refine ⟨each, ?_⟩
  constructor
  · intro fine
    obtain ⟨statements, read⟩ := exists_eq_map_ok fine
    exact ⟨statements, (each statements).mp read⟩
  · intro yielded item member
    obtain ⟨statements, lines⟩ := yielded
    rw [(each statements).mpr lines] at member
    obtain ⟨statement, -, same⟩ := List.mem_map.mp member
    exact ⟨statement, same.symm⟩

end Grammar

end ModularSynth
