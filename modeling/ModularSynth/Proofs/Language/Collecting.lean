import ModularSynth.Proofs.Device.OrderedMap
import ModularSynth.Proofs.Language.Descent

/-!
# Arguments read off a text

A statement that creates a device has its arguments inserted one after the other as they are read
(`statement_on_creates`): the reader yields it with the arguments that the insertions come to, or
refuses it if one of them is refused. Collecting the same pairs gives the same arguments, unless a
name is repeated. `Arguments.ordered_of_calls` says so, and says what holds of arguments however
they came about.
-/

namespace ModularSynth

open Grammar (Denotes Listed)

/-- The tokens of a statement that creates a device, whether or not its arguments have different
names. -/
inductive Creates (name typeName : String) (place : Position) :
    List Token → List (String × Value) → Prop
  | bare {q r s t : Position} :
      Creates name typeName place
        [⟨.identifier name, place⟩, ⟨.equals, q⟩, ⟨.identifier typeName, r⟩, ⟨.openParen, s⟩,
          ⟨.closeParen, t⟩] []
  | listed {q r s t : Position} {arguments : List Token} {pairs : List (String × Value)}
      (listed : Listed arguments pairs) :
      Creates name typeName place
        (⟨.identifier name, place⟩ :: ⟨.equals, q⟩ :: ⟨.identifier typeName, r⟩ ::
          ⟨.openParen, s⟩ :: (arguments ++ [⟨.closeParen, t⟩])) pairs

/-- What reading on comes to after a device whose arguments were inserted: its end, or an error. -/
def Finishes (first : Position) (draft : Draft) (rest : List LexItem) (result : ParseResult) :
    Except DeviceError Arguments → Prop
  | .ok arguments => ∃ last,
      result = continueStatement first (Partial.finished { draft with arguments }) last rest
  | .error _ => ∃ error left, result = .failed error left

/-- An argument is read and inserted. -/
theorem continueStatement_of_argument {argument : String} {p q : Position} {token : Token}
    {value : Value} (denotes : Denotes token value) (first last : Position) (draft : Draft)
    (items : List LexItem) :
    continueStatement first (.argumentName draft) last
        (.ok ⟨.identifier argument, p⟩ :: .ok ⟨.equals, q⟩ :: .ok token :: items) =
      proceedFrom first (Partial.addArgument draft argument p value) token.position items := by
  have named : (Partial.argumentName draft).feed ⟨.identifier argument, p⟩ =
      .ok (.argumentEquals draft argument p) := rfl
  have equal : (Partial.argumentEquals draft argument p).feed ⟨.equals, q⟩ =
      .ok (.argumentValue draft argument p) := rfl
  have valued : (Partial.argumentValue draft argument p).feed token =
      Partial.addArgument draft argument p value := by
    rw [Partial.feed, Token.value_eq_ok_iff.mpr denotes]
    rfl
  rw [continueStatement_of_token rfl, named, proceedFrom, continueStatement_of_token rfl, equal,
    proceedFrom, continueStatement_of_token rfl, valued]

/-- An argument that is refused ends the statement, and after any other one reading goes on. -/
theorem finishes_of_argument {argument : String} {p q : Position} {token : Token} {value : Value}
    (denotes : Denotes token value) (first last : Position) {draft : Draft} {rest : List LexItem}
    {items : List LexItem} {pairs : List (String × Value)}
    (goes_on : ∀ arguments, Finishes first draft rest
      (continueStatement first (.argumentEnd { draft with arguments }) token.position items)
      (arguments.insertAll pairs)) :
    Finishes first draft rest
      (continueStatement first (.argumentName draft) last
        (.ok ⟨.identifier argument, p⟩ :: .ok ⟨.equals, q⟩ :: .ok token :: items))
      (draft.arguments.insertAll ((argument, value) :: pairs)) := by
  rw [continueStatement_of_argument denotes, Partial.addArgument]
  cases inserted : draft.arguments.insert argument value with
  | error failure =>
    rw [Arguments.insertAll_cons_of_error inserted]
    exact ⟨_, _, rfl⟩
  | ok arguments =>
    rw [Arguments.insertAll_cons_of_ok inserted]
    exact goes_on arguments

/-- The arguments of a device are inserted one after the other. -/
theorem finishes_of_listed {tokens : List Token} {pairs : List (String × Value)}
    (listed : Listed tokens pairs) {p : Position} (first last : Position) (draft : Draft)
    (rest : List LexItem) :
    Finishes first draft rest
      (continueStatement first (.argumentName draft) last
        (tokens.map .ok ++ .ok ⟨.closeParen, p⟩ :: rest))
      (draft.arguments.insertAll pairs) := by
  induction listed generalizing draft last with
  | last denotes =>
    simp only [List.map_cons, List.map_nil, List.cons_append, List.nil_append]
    apply finishes_of_argument denotes
    intro arguments
    rw [continueStatement_of_token rfl]
    exact ⟨_, rfl⟩
  | more denotes listed ih =>
    simp only [List.map_cons, List.cons_append]
    apply finishes_of_argument denotes
    intro arguments
    rw [continueStatement_of_token rfl]
    exact ih _ { draft with arguments }

theorem finishes_of_creates {name typeName : String} {place : Position} {tokens : List Token}
    {pairs : List (String × Value)} (creates : Creates name typeName place tokens pairs)
    (rest : List LexItem) :
    Finishes place ⟨name, typeName, .empty⟩ rest (readStatement (tokens.map .ok ++ rest))
      (Arguments.empty.insertAll pairs) := by
  cases creates with
  | bare => exact ⟨_, rfl⟩
  | @listed q r s t arguments pairs listed =>
    have no_end : headKind (arguments.map .ok ++ .ok ⟨.closeParen, t⟩ :: rest) ≠
        some .closeParen := by
      cases listed with
      | last denotes => exact nofun
      | more denotes listed => exact nofun
    have begun : readStatement ((⟨.identifier name, place⟩ :: ⟨.equals, q⟩ ::
          ⟨.identifier typeName, r⟩ :: ⟨.openParen, s⟩ ::
            (arguments ++ [⟨.closeParen, t⟩])).map .ok ++ rest) =
        continueStatement place (.firstArgument name typeName) s
          (arguments.map .ok ++ .ok ⟨.closeParen, t⟩ :: rest) := by
      simp only [List.map_cons, List.map_append, List.map_nil, List.cons_append, List.append_assoc,
        List.nil_append]
      rfl
    rw [begun, ItemReader.continueStatement_firstArgument no_end]
    exact finishes_of_listed listed place s ⟨name, typeName, .empty⟩ rest

/-- Nothing, or a line end first. -/
def EndsStatement (rest : List LexItem) : Prop :=
  rest = [] ∨ ∃ p later, rest = .ok ⟨.newline, p⟩ :: later

theorem exists_of_endsStatement {first last : Position} {command : Command} {rest : List LexItem}
    (ends : EndsStatement rest) : ∃ left,
      continueStatement first (.lineEnd command) last rest = .statement ⟨command, first⟩ left := by
  rcases ends with rfl | ⟨p, later, rfl⟩
  · exact ⟨_, rfl⟩
  · exact ⟨_, rfl⟩

/-- The reader yields a device with the arguments that the insertions come to, if none is
refused. -/
theorem statement_on_creates {name typeName : String} {place : Position} {tokens : List Token}
    {pairs : List (String × Value)} (creates : Creates name typeName place tokens pairs)
    {reader : ItemReader} {rest : List LexItem}
    (begins : reader.remaining = tokens.map .ok ++ rest) (ends : EndsStatement rest)
    (arguments : Arguments) :
    (ItemReader.statement.on reader).1 = .ok (some ⟨.create name typeName arguments, place⟩) ↔
      Arguments.empty.insertAll pairs = .ok arguments := by
  have finishes := finishes_of_creates creates rest
  rw [(ItemReader.meets_statement reader).1, begins]
  cases inserted : Arguments.empty.insertAll pairs with
  | ok found =>
    rw [inserted] at finishes
    obtain ⟨last, read⟩ := finishes
    obtain ⟨left, ended⟩ := exists_of_endsStatement ends
    rw [read]
    unfold Partial.finished
    rw [ended]
    simp [ParseResult.outcome]
  | error failure =>
    rw [inserted] at finishes
    obtain ⟨error, left, read⟩ := finishes
    rw [read]
    simp [ParseResult.outcome]

/-- The ways in which pairs become arguments. -/
structure Collected (pairs : List (String × Value)) : Prop where
  /-- Inserted one after the other they give what collecting them gives, unless a name is
  repeated. -/
  inserted_iff : ∀ arguments, Arguments.empty.insertAll pairs = .ok arguments ↔
    (pairs.map (·.1)).Nodup ∧ arguments = .ofList pairs
  /-- Where they stand in a statement the reader inserts them one after the other. -/
  read_iff : ∀ name typeName place tokens, Creates name typeName place tokens pairs →
    ∀ (reader : ItemReader) rest, reader.remaining = tokens.map .ok ++ rest → EndsStatement rest →
      ∀ arguments, (ItemReader.statement.on reader).1 =
          .ok (some ⟨.create name typeName arguments, place⟩) ↔
        Arguments.empty.insertAll pairs = .ok arguments

theorem collected_of_pairs (pairs : List (String × Value)) : Collected pairs where
  inserted_iff _ := Arguments.empty_insertAll_eq_ok_iff
  read_iff _ _ _ _ creates _ _ begins ends := statement_on_creates creates begins ends

namespace Arguments

/-- Whatever the calls on arguments that are empty at first, or collected from pairs. -/
theorem ordered_of_calls (calls : List ArgumentCall) (pairs : List (String × Value)) :
    (empty.after calls).OrderedMap calls ∧
      ((ofList pairs).after calls).OrderedMap
        (pairs.map (fun pair => .set pair.1 pair.2) ++ calls) ∧
      Collected pairs := by
  refine ⟨(follows_empty.after calls).orderedMap, ?_, collected_of_pairs pairs⟩
  rw [ofList_eq_after]
  exact ((follows_empty.after _).after calls).orderedMap

/-- An insertion is refused, a text is taken for a number and is gone, and a name that was taken is
put in again behind one that was put in after it. -/
def jumbled : List ArgumentCall :=
  [.set "gain" (.integer 1), .insert "shape" (.text "saw"), .insert "gain" (.integer 2),
    .takeFloat "shape", .insert "freq" (.integer 440), .set "gain" (.integer 3), .take "gain",
    .insert "gain" (.integer 4), .set "freq" (.integer 220)]

def voicing : List (String × Value) := [("freq", .integer 440), ("shape", .text "saw")]

/-- The tokens of `osc=Voice(freq=440,shape=saw)`. -/
def voiced : List Token :=
  [⟨.identifier "osc", ⟨1, 1⟩⟩, ⟨.equals, ⟨1, 4⟩⟩, ⟨.identifier "Voice", ⟨1, 5⟩⟩,
    ⟨.openParen, ⟨1, 10⟩⟩, ⟨.identifier "freq", ⟨1, 11⟩⟩, ⟨.equals, ⟨1, 15⟩⟩,
    ⟨.number "440", ⟨1, 16⟩⟩, ⟨.comma, ⟨1, 19⟩⟩, ⟨.identifier "shape", ⟨1, 20⟩⟩,
    ⟨.equals, ⟨1, 25⟩⟩, ⟨.identifier "saw", ⟨1, 26⟩⟩, ⟨.closeParen, ⟨1, 29⟩⟩]

theorem jumbled_ordered :
    (empty.after jumbled).OrderedMap jumbled ∧
      ((ofList voicing).after jumbled).OrderedMap
        (voicing.map (fun pair => .set pair.1 pair.2) ++ jumbled) ∧
      Creates "osc" "Voice" ⟨1, 1⟩ voiced voicing ∧
      (ItemReader.statement.on { upcoming := voiced.map .ok }).1 =
        .ok (some ⟨.create "osc" "Voice" (ofList voicing), ⟨1, 1⟩⟩) := by
  obtain ⟨ordered, ordered', collected⟩ := ordered_of_calls jumbled voicing
  have creates : Creates "osc" "Voice" ⟨1, 1⟩ voiced voicing :=
    .listed (.more (.number (by decide +kernel)) (.last (.name (by decide) (by decide))))
  have read := collected.read_iff _ _ _ _ creates { upcoming := voiced.map .ok } []
    (List.append_nil _).symm (Or.inl rfl) (ofList voicing)
  exact ⟨ordered, ordered', creates, read.mpr ((collected.inserted_iff _).mpr ⟨by decide, rfl⟩)⟩

example : (empty.after jumbled).entries = [("freq", .integer 220), ("gain", .integer 4)] ∧
    (empty.after jumbled).finish = .error (.unknownArgument "freq") := by
  decide

end Arguments

end ModularSynth
