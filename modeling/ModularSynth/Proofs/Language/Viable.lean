import ModularSynth.Proofs.Language.Grammar

/-!
# Viable token lists

A list of tokens is viable if it can be continued to a program (`Grammar.Viable`). Here the grammar
alone counts: an argument may be given twice, which the parser refuses for another reason. Viable
lists are those that a machine can run through (`Grammar.viable_iff_run`) whose states are the
statements read in part. `Partial.Opens` says which tokens of a statement lead to which state, so
every state can be completed, and it records the arguments that were given before.
-/

namespace ModularSynth

namespace Grammar

/-- A statement, in which arguments may be given more than once. -/
inductive Form : List Token → Prop
  | line {tokens : List Token} {statement : Statement} (line : Line tokens statement) : Form tokens
  | create {name typeName : String} {p q r s t : Position} {arguments : List Token}
      {entries : List (String × Value)} (listed : Listed arguments entries) :
      Form (⟨.identifier name, p⟩ :: ⟨.equals, q⟩ :: ⟨.identifier typeName, r⟩ ::
        ⟨.openParen, s⟩ :: (arguments ++ [⟨.closeParen, t⟩]))

/-- Line ends and statements, each statement with a line end after it or at the end of the list. -/
inductive Script : List Token → Prop
  | nil : Script []
  | blank {p : Position} {rest : List Token} (script : Script rest) :
      Script (⟨.newline, p⟩ :: rest)
  | last {tokens : List Token} (form : Form tokens) : Script tokens
  | next {tokens rest : List Token} {p : Position} (form : Form tokens) (script : Script rest) :
      Script (tokens ++ ⟨.newline, p⟩ :: rest)

/-- The beginning of a program. -/
def Viable (tokens : List Token) : Prop :=
  ∃ more, Script (tokens ++ more)

end Grammar

namespace Partial

open Grammar (Denotes Listed Form Line)

/-! ### The machine -/

/-- One more token of a statement, if a second value for an argument is let pass. -/
inductive Takes : Partial → Token → Partial → Prop
  | feeds {state next : Partial} {token : Token} (feeds : Feeds state token next) :
      Takes state token next
  | repeats {name type argument : String} {entries : List (String × Value)} {p : Position}
      {token : Token} {value : Value} (denotes : Denotes token value)
      (given : argument ∈ entries.map (·.1)) :
      Takes (argumentValue ⟨name, type, ⟨entries⟩⟩ argument p) token
        (argumentEnd ⟨name, type, ⟨entries ++ [(argument, value)]⟩⟩)

/-- One more token of a program. Between statements no statement has been read in part. -/
inductive Step : Option Partial → Token → Option Partial → Prop
  | blank {p : Position} : Step none ⟨.newline, p⟩ none
  | begins {token : Token} {state : Partial} (begun : begin token = .ok state) :
      Step none token (some state)
  | takes {state next : Partial} {token : Token} (takes : Takes state token next) :
      Step (some state) token (some next)
  | ends {command : Command} {p : Position} : Step (some (lineEnd command)) ⟨.newline, p⟩ none

/-- Tokens one after the other. -/
inductive Run : Option Partial → List Token → Option Partial → Prop
  | nil {reading : Option Partial} : Run reading [] reading
  | cons {reading next last : Option Partial} {token : Token} {tokens : List Token}
      (step : Step reading token next) (run : Run next tokens last) :
      Run reading (token :: tokens) last

theorem Feeds.unique {state next other : Partial} {token : Token}
    (feeds : Feeds state token next) (feeds' : Feeds state token other) : next = other := by
  have fed := feed_eq_ok_iff.mpr feeds
  rw [feed_eq_ok_iff.mpr feeds'] at fed
  exact (Except.ok.inj fed).symm

/-- A value for an argument, be it the first one or not. -/
theorem takes_argumentValue {name type argument : String} (entries : List (String × Value))
    {p : Position} {token : Token} {value : Value} (denotes : Denotes token value) :
    Takes (argumentValue ⟨name, type, ⟨entries⟩⟩ argument p) token
      (argumentEnd ⟨name, type, ⟨entries ++ [(argument, value)]⟩⟩) := by
  by_cases given : argument ∈ entries.map (·.1)
  · exact .repeats denotes given
  · exact .feeds (.argumentValue denotes given)

theorem Takes.unique {state next other : Partial} {token : Token}
    (takes : Takes state token next) (takes' : Takes state token other) : next = other := by
  cases takes with
  | feeds feeds =>
    cases takes' with
    | feeds feeds' => exact feeds.unique feeds'
    | repeats denotes given =>
      cases feeds with | argumentValue denotes' new =>
      exact absurd given new
  | repeats denotes given =>
    cases takes' with
    | feeds feeds' =>
      cases feeds' with | argumentValue denotes' new =>
      exact absurd given new
    | repeats denotes' given' =>
      have same := Token.value_eq_ok_iff.mpr denotes
      rw [Token.value_eq_ok_iff.mpr denotes'] at same
      cases same
      rfl

theorem Step.unique {reading next other : Option Partial} {token : Token}
    (step : Step reading token next) (step' : Step reading token other) : next = other := by
  cases step with
  | blank =>
    cases step' with
    | blank => rfl
    | begins begun => cases begun
  | begins begun =>
    cases step' with
    | blank => cases begun
    | begins begun' =>
      rw [begun] at begun'
      cases begun'
      rfl
  | takes takes =>
    cases step' with
    | takes takes' => rw [takes.unique takes']
    | ends =>
      cases takes with | feeds feeds =>
      cases feeds
  | ends =>
    cases step' with
    | takes takes =>
      cases takes with | feeds feeds =>
      cases feeds
    | ends => rfl

namespace Run

variable {reading next last other : Option Partial} {tokens more : List Token} {token : Token}

theorem unique (run : Run reading tokens last) (run' : Run reading tokens other) :
    last = other := by
  induction run with
  | nil =>
    cases run'
    rfl
  | cons step _ ih =>
    cases run' with | cons step' run' =>
    cases step.unique step'
    exact ih run'

theorem append (run : Run reading tokens next) (run' : Run next more last) :
    Run reading (tokens ++ more) last := by
  induction run with
  | nil => exact run'
  | cons step _ ih => exact .cons step (ih run')

theorem concat (run : Run reading tokens next) (step : Step next token last) :
    Run reading (tokens ++ [token]) last :=
  run.append (.cons step .nil)

theorem of_append (run : Run reading (tokens ++ more) last) :
    ∃ next, Run reading tokens next ∧ Run next more last := by
  induction tokens generalizing reading with
  | nil => exact ⟨reading, .nil, run⟩
  | cons token tokens ih =>
    cases run with | cons step run =>
    obtain ⟨next, front, back⟩ := ih run
    exact ⟨next, .cons step front, back⟩

theorem of_concat (run : Run reading (tokens ++ [token]) last) :
    ∃ next, Run reading tokens next ∧ Step next token last := by
  obtain ⟨next, front, back⟩ := run.of_append
  cases back with | cons step rest =>
  cases rest
  exact ⟨next, front, step⟩

end Run

/-- A token that extends a statement. -/
theorem Feeds.step {state next : Partial} {token : Token} (feeds : Feeds state token next) :
    Step (some state) token (some next) :=
  .takes (.feeds feeds)

/-! ### Programs are run through -/

/-- The arguments of a device. -/
theorem run_of_listed {name type : String} {arguments : List Token}
    {added : List (String × Value)} (listed : Listed arguments added)
    (entries : List (String × Value)) :
    Run (some (argumentName ⟨name, type, ⟨entries⟩⟩)) arguments
      (some (argumentEnd ⟨name, type, ⟨entries ++ added⟩⟩)) := by
  induction listed generalizing entries with
  | last denotes =>
    exact .cons Feeds.argumentName.step (.cons Feeds.argumentEquals.step
      (.cons (.takes (takes_argumentValue entries denotes)) .nil))
  | @more argument _ _ _ token value rest added denotes listed ih =>
    rw [List.append_cons entries]
    exact .cons Feeds.argumentName.step (.cons Feeds.argumentEquals.step
      (.cons (.takes (takes_argumentValue entries denotes)) (.cons Feeds.comma.step (ih _))))

/-- The first argument is taken like one after a comma. -/
theorem Run.firstArgument {name type argument : String} {p : Position} {tokens : List Token}
    {last : Option Partial}
    (run : Run (some (argumentName ⟨name, type, .empty⟩)) (⟨.identifier argument, p⟩ :: tokens)
      last) :
    Run (some (firstArgument name type)) (⟨.identifier argument, p⟩ :: tokens) last := by
  cases run with | cons step run =>
  cases step.unique Feeds.argumentName.step
  exact .cons Feeds.firstArgument.step run

theorem run_firstArgument_of_listed {name type : String} {arguments : List Token}
    {entries : List (String × Value)} (listed : Listed arguments entries) :
    Run (some (firstArgument name type)) arguments
      (some (argumentEnd ⟨name, type, ⟨entries⟩⟩)) := by
  have run : Run (some (argumentName ⟨name, type, .empty⟩)) arguments
      (some (argumentEnd ⟨name, type, ⟨[] ++ entries⟩⟩)) := run_of_listed listed []
  cases listed with
  | last denotes => exact run.firstArgument
  | more denotes listed => exact run.firstArgument

theorem run_of_form {tokens : List Token} (form : Form tokens) :
    ∃ command, Run none tokens (some (lineEnd command)) := by
  have created : ∀ {name type : String} {p q r s t : Position} {arguments : List Token}
      {entries : List (String × Value)}, Listed arguments entries →
      Run none (⟨.identifier name, p⟩ :: ⟨.equals, q⟩ :: ⟨.identifier type, r⟩ ::
        ⟨.openParen, s⟩ :: (arguments ++ [⟨.closeParen, t⟩]))
        (some (lineEnd (.create name type ⟨entries⟩))) := by
    intro name type p q r s t arguments entries listed
    exact .cons (.begins rfl) (.cons Feeds.equals.step (.cons Feeds.typeName.step
      (.cons Feeds.openParen.step
        ((run_firstArgument_of_listed listed).concat Feeds.closeParen.step))))
  cases form with
  | create listed => exact ⟨_, created listed⟩
  | line line =>
    cases line with
    | parameter denotes =>
      exact ⟨_, .cons (.begins rfl) (.cons Feeds.parameterName.step
        (.cons (Feeds.parameterValue denotes).step .nil))⟩
    | connect =>
      exact ⟨_, .cons (.begins rfl) (.cons Feeds.colon.step (.cons Feeds.sourcePort.step
        (.cons Feeds.arrow.step (.cons Feeds.destinationDevice.step
          (.cons Feeds.destinationColon.step (.cons Feeds.destinationPort.step .nil))))))⟩
    | createEmpty =>
      exact ⟨_, .cons (.begins rfl) (.cons Feeds.equals.step (.cons Feeds.typeName.step
        (.cons Feeds.openParen.step (.cons Feeds.noArgument.step .nil))))⟩
    | create listed distinct => exact ⟨_, created listed⟩

/-- No statement has been read in part, or nothing of it is missing. -/
def Complete (reading : Option Partial) : Prop :=
  ∀ state, reading = some state → ∃ command, state = lineEnd command

open Grammar (Script Viable)

theorem run_of_script {tokens : List Token} (script : Script tokens) :
    ∃ last, Run none tokens last ∧ Complete last := by
  induction script with
  | nil => exact ⟨none, .nil, nofun⟩
  | blank _ ih =>
    obtain ⟨last, run, complete⟩ := ih
    exact ⟨last, .cons .blank run, complete⟩
  | last form =>
    obtain ⟨command, run⟩ := run_of_form form
    refine ⟨_, run, ?_⟩
    rintro _ ⟨rfl⟩
    exact ⟨command, rfl⟩
  | next form _ ih =>
    obtain ⟨command, here⟩ := run_of_form form
    obtain ⟨last, run, complete⟩ := ih
    exact ⟨last, here.append (.cons .ends run), complete⟩

/-! ### Runs are parts of programs -/

/-- What stands between an opening parenthesis and the name of an argument. -/
inductive Before : List Token → List (String × Value) → Prop
  | nothing : Before [] []
  | comma {arguments : List Token} {entries : List (String × Value)} {p : Position}
      (listed : Listed arguments entries) : Before (arguments ++ [⟨.comma, p⟩]) entries

/-- The tokens of a statement that lead to a state. -/
inductive Opens : List Token → Partial → Prop
  | parameterName {p : Position} : Opens [⟨.atSign, p⟩] parameterName
  | parameterValue {name : String} {p q : Position} :
      Opens [⟨.atSign, p⟩, ⟨.identifier name, q⟩] (parameterValue name)
  | operator {name : String} {p : Position} : Opens [⟨.identifier name, p⟩] (operator name)
  | sourcePort {device : String} {p q : Position} :
      Opens [⟨.identifier device, p⟩, ⟨.colon, q⟩] (sourcePort device)
  | arrow {device port : String} {p q r : Position} :
      Opens [⟨.identifier device, p⟩, ⟨.colon, q⟩, ⟨.identifier port, r⟩] (arrow ⟨device, port⟩)
  | destinationDevice {device port : String} {p q r s : Position} :
      Opens [⟨.identifier device, p⟩, ⟨.colon, q⟩, ⟨.identifier port, r⟩, ⟨.arrow, s⟩]
        (destinationDevice ⟨device, port⟩)
  | destinationColon {device port device' : String} {p q r s t : Position} :
      Opens [⟨.identifier device, p⟩, ⟨.colon, q⟩, ⟨.identifier port, r⟩, ⟨.arrow, s⟩,
        ⟨.identifier device', t⟩] (destinationColon ⟨device, port⟩ device')
  | destinationPort {device port device' : String} {p q r s t u : Position} :
      Opens [⟨.identifier device, p⟩, ⟨.colon, q⟩, ⟨.identifier port, r⟩, ⟨.arrow, s⟩,
        ⟨.identifier device', t⟩, ⟨.colon, u⟩] (destinationPort ⟨device, port⟩ device')
  | typeName {name : String} {p q : Position} :
      Opens [⟨.identifier name, p⟩, ⟨.equals, q⟩] (typeName name)
  | openParen {name type : String} {p q r : Position} :
      Opens [⟨.identifier name, p⟩, ⟨.equals, q⟩, ⟨.identifier type, r⟩] (openParen name type)
  | firstArgument {name type : String} {p q r s : Position} :
      Opens [⟨.identifier name, p⟩, ⟨.equals, q⟩, ⟨.identifier type, r⟩, ⟨.openParen, s⟩]
        (firstArgument name type)
  | argumentName {name type : String} {arguments : List Token} {entries : List (String × Value)}
      {p q r s t : Position} (listed : Listed arguments entries) :
      Opens (⟨.identifier name, p⟩ :: ⟨.equals, q⟩ :: ⟨.identifier type, r⟩ :: ⟨.openParen, s⟩ ::
        (arguments ++ [⟨.comma, t⟩])) (argumentName ⟨name, type, ⟨entries⟩⟩)
  | argumentEquals {name type argument : String} {front : List Token}
      {entries : List (String × Value)} {p q r s t : Position} (before : Before front entries) :
      Opens (⟨.identifier name, p⟩ :: ⟨.equals, q⟩ :: ⟨.identifier type, r⟩ :: ⟨.openParen, s⟩ ::
        (front ++ [⟨.identifier argument, t⟩]))
        (argumentEquals ⟨name, type, ⟨entries⟩⟩ argument t)
  | argumentValue {name type argument : String} {front : List Token}
      {entries : List (String × Value)} {p q r s t u : Position} (before : Before front entries) :
      Opens (⟨.identifier name, p⟩ :: ⟨.equals, q⟩ :: ⟨.identifier type, r⟩ :: ⟨.openParen, s⟩ ::
        (front ++ [⟨.identifier argument, t⟩, ⟨.equals, u⟩]))
        (argumentValue ⟨name, type, ⟨entries⟩⟩ argument t)
  | argumentEnd {name type : String} {arguments : List Token} {entries : List (String × Value)}
      {p q r s : Position} (listed : Listed arguments entries) :
      Opens (⟨.identifier name, p⟩ :: ⟨.equals, q⟩ :: ⟨.identifier type, r⟩ :: ⟨.openParen, s⟩ ::
        arguments) (argumentEnd ⟨name, type, ⟨entries⟩⟩)
  | lineEnd {tokens : List Token} {command : Command} (form : Form tokens) :
      Opens tokens (lineEnd command)

/-- One more argument at the end. -/
theorem Before.listed {front : List Token} {entries : List (String × Value)}
    (before : Before front entries) {argument : String} {p q : Position} {token : Token}
    {value : Value} (denotes : Denotes token value) :
    Listed (front ++ [⟨.identifier argument, p⟩, ⟨.equals, q⟩, token])
      (entries ++ [(argument, value)]) := by
  cases before with
  | nothing => exact .last denotes
  | comma listed =>
    rw [List.append_assoc]
    induction listed with
    | last denotes' => exact .more denotes' (.last denotes)
    | more denotes' _ ih => exact .more denotes' ih

theorem opens_begin {token : Token} {state : Partial} (begun : begin token = .ok state) :
    Opens [token] state := by
  obtain ⟨lexeme, p⟩ := token
  cases lexeme with
  | atSign =>
    cases begun
    exact .parameterName
  | identifier name =>
    cases begun
    exact .operator
  | _ => cases begun

/-- The appended tokens of a create statement stand behind its four first ones. -/
theorem append_behind {a b c d token : Token} {front back : List Token} :
    a :: b :: c :: d :: (front ++ back) ++ [token] =
      a :: b :: c :: d :: (front ++ (back ++ [token])) := by
  simp

theorem opens_argumentEnd {tokens : List Token} {name type argument : String}
    {entries : List (String × Value)} {p : Position}
    (opens : Opens tokens (argumentValue ⟨name, type, ⟨entries⟩⟩ argument p)) {token : Token}
    {value : Value} (denotes : Denotes token value) :
    Opens (tokens ++ [token]) (argumentEnd ⟨name, type, ⟨entries ++ [(argument, value)]⟩⟩) := by
  cases opens with | argumentValue before =>
  rw [append_behind]
  exact .argumentEnd (before.listed denotes)

theorem Opens.feeds {tokens : List Token} {state next : Partial} {token : Token}
    (opens : Opens tokens state) (feeds : Feeds state token next) :
    Opens (tokens ++ [token]) next := by
  cases feeds with
  | parameterName =>
    cases opens
    exact .parameterValue
  | parameterValue denotes =>
    cases opens
    exact .lineEnd (.line (.parameter denotes))
  | colon =>
    cases opens
    exact .sourcePort
  | equals =>
    cases opens
    exact .typeName
  | sourcePort =>
    cases opens
    exact .arrow
  | arrow =>
    cases opens
    exact .destinationDevice
  | destinationDevice =>
    cases opens
    exact .destinationColon
  | destinationColon =>
    cases opens
    exact .destinationPort
  | destinationPort =>
    cases opens
    exact .lineEnd (.line .connect)
  | typeName =>
    cases opens
    exact .openParen
  | openParen =>
    cases opens
    exact .firstArgument
  | noArgument =>
    cases opens
    exact .lineEnd (.line .createEmpty)
  | firstArgument =>
    cases opens
    exact .argumentEquals .nothing
  | argumentName =>
    cases opens with | argumentName listed =>
    exact .argumentEquals (.comma listed)
  | argumentEquals =>
    cases opens with | argumentEquals before =>
    rw [append_behind]
    exact .argumentValue before
  | argumentValue denotes new => exact opens_argumentEnd opens denotes
  | comma =>
    cases opens with | argumentEnd listed =>
    exact .argumentName listed
  | closeParen =>
    cases opens with | argumentEnd listed =>
    exact .lineEnd (.create listed)

theorem Opens.takes {tokens : List Token} {state next : Partial} {token : Token}
    (opens : Opens tokens state) (takes : Takes state token next) :
    Opens (tokens ++ [token]) next := by
  cases takes with
  | repeats denotes given => exact opens_argumentEnd opens denotes
  | feeds feeds => exact opens.feeds feeds

/-- A statement read in part can be completed. -/
def Completes (state : Partial) : Prop :=
  ∃ more command, Run (some state) more (some (lineEnd command))

theorem completes_lineEnd (command : Command) : Completes (lineEnd command) :=
  ⟨[], command, .nil⟩

theorem Takes.completes {state next : Partial} {token : Token} (takes : Takes state token next)
    (completes : Completes next) : Completes state := by
  obtain ⟨more, command, run⟩ := completes
  exact ⟨token :: more, command, .cons (.takes takes) run⟩

theorem Feeds.completes {state next : Partial} {token : Token} (feeds : Feeds state token next)
    (completes : Completes next) : Completes state :=
  (Takes.feeds feeds).completes completes

/-- Symbols complete a statement if some name or text is put where one is wanted. -/
theorem completes (state : Partial) : Completes state := by
  have text : Denotes ⟨.quoted "", .start⟩ (.text "") := .text
  have argument_end : ∀ draft, Completes (argumentEnd draft) := fun _ =>
    (Feeds.closeParen (p := .start)).completes (completes_lineEnd _)
  have argument_value : ∀ draft argument p, Completes (argumentValue draft argument p) :=
    fun ⟨_, _, ⟨entries⟩⟩ _ _ => (takes_argumentValue entries text).completes (argument_end _)
  have argument_equals : ∀ draft argument p, Completes (argumentEquals draft argument p) :=
    fun _ _ _ => (Feeds.argumentEquals (q := .start)).completes (argument_value _ _ _)
  have first_argument : ∀ name type, Completes (firstArgument name type) := fun _ _ =>
    (Feeds.noArgument (p := .start)).completes (completes_lineEnd _)
  have open_paren : ∀ name type, Completes (openParen name type) := fun _ _ =>
    (Feeds.openParen (p := .start)).completes (first_argument _ _)
  have destination_port : ∀ source device, Completes (destinationPort source device) :=
    fun source device => (Feeds.destinationPort (p := .start)).completes
      (completes_lineEnd (.connect source ⟨device, ""⟩))
  have destination_colon : ∀ source device, Completes (destinationColon source device) :=
    fun _ _ => (Feeds.destinationColon (p := .start)).completes (destination_port _ _)
  have destination_device : ∀ source, Completes (destinationDevice source) := fun source =>
    (Feeds.destinationDevice (p := .start)).completes (destination_colon source "")
  have arrow : ∀ source, Completes (arrow source) := fun _ =>
    (Feeds.arrow (p := .start)).completes (destination_device _)
  have source_port : ∀ device, Completes (sourcePort device) := fun device =>
    (Feeds.sourcePort (p := .start)).completes (arrow ⟨device, ""⟩)
  have parameter_value : ∀ name, Completes (parameterValue name) := fun _ =>
    (Feeds.parameterValue text).completes (completes_lineEnd _)
  cases state with
  | parameterName =>
    exact (Feeds.parameterName (p := .start)).completes (parameter_value "")
  | parameterValue name => exact parameter_value name
  | operator name => exact (Feeds.colon (p := .start)).completes (source_port name)
  | sourcePort device => exact source_port device
  | arrow source => exact arrow source
  | destinationDevice source => exact destination_device source
  | destinationColon source device => exact destination_colon source device
  | destinationPort source device => exact destination_port source device
  | typeName name => exact (Feeds.typeName (p := .start)).completes (open_paren name "")
  | openParen name type => exact open_paren name type
  | firstArgument name type => exact first_argument name type
  | argumentName draft => exact Feeds.argumentName.completes (argument_equals draft "" .start)
  | argumentEquals draft argument p => exact argument_equals draft argument p
  | argumentValue draft argument p => exact argument_value draft argument p
  | argumentEnd draft => exact argument_end draft
  | lineEnd command => exact completes_lineEnd command

/-- Whole lines, which every program can follow. -/
def Whole (tokens : List Token) : Prop :=
  ∀ rest, Script rest → Script (tokens ++ rest)

/-- What has been read: whole lines, and the tokens of a statement read in part. -/
inductive Reached : List Token → Option Partial → Prop
  | between {tokens : List Token} (whole : Whole tokens) : Reached tokens none
  | within {done current : List Token} {state : Partial} (whole : Whole done)
      (opens : Opens current state) : Reached (done ++ current) (some state)

theorem Reached.step {tokens : List Token} {token : Token} {reading next : Option Partial}
    (reached : Reached tokens reading) (step : Step reading token next) :
    Reached (tokens ++ [token]) next := by
  cases step with
  | blank =>
    cases reached with | between whole =>
    refine .between ?_
    intro rest script
    rw [List.append_assoc]
    exact whole _ (.blank script)
  | begins begun =>
    cases reached with | between whole =>
    exact .within whole (opens_begin begun)
  | takes takes =>
    cases reached with | within whole opens =>
    rw [List.append_assoc]
    exact .within whole (opens.takes takes)
  | ends =>
    cases reached with | within whole opens =>
    cases opens with | lineEnd form =>
    refine .between ?_
    intro rest script
    rw [List.append_assoc, List.append_assoc]
    exact whole _ (.next form script)

theorem Reached.run {done tokens : List Token} {reading last : Option Partial}
    (reached : Reached done reading) (run : Run reading tokens last) :
    Reached (done ++ tokens) last := by
  induction run generalizing done with
  | nil => rwa [List.append_nil]
  | cons step _ ih =>
    rw [List.append_cons]
    exact ih (reached.step step)

theorem reached_of_run {tokens : List Token} {reading : Option Partial}
    (run : Run none tokens reading) : Reached tokens reading := by
  have nothing : Whole [] := fun _ script => script
  exact (Reached.between nothing).run run

theorem Reached.script {tokens : List Token} {reading : Option Partial}
    (reached : Reached tokens reading) (complete : Complete reading) : Script tokens := by
  cases reached with
  | between whole =>
    have script := whole [] .nil
    rwa [List.append_nil] at script
  | within whole opens =>
    obtain ⟨command, rfl⟩ := complete _ rfl
    cases opens with | lineEnd form =>
    exact whole _ (.last form)

section Run

variable {tokens : List Token} {reading : Option Partial}

theorem Run.script_iff (run : Run none tokens reading) : Script tokens ↔ Complete reading := by
  constructor
  · intro script
    obtain ⟨last, run', complete⟩ := run_of_script script
    rwa [run.unique run']
  · exact (reached_of_run run).script

theorem Run.viable (run : Run none tokens reading) : Viable tokens := by
  cases reading with
  | none =>
    refine ⟨[], ?_⟩
    rw [List.append_nil]
    exact run.script_iff.mpr nofun
  | some state =>
    obtain ⟨more, command, completed⟩ := completes state
    refine ⟨more, (run.append completed).script_iff.mpr ?_⟩
    rintro _ ⟨rfl⟩
    exact ⟨command, rfl⟩

theorem viable_iff_run : Viable tokens ↔ ∃ reading, Run none tokens reading := by
  constructor
  · intro viable
    obtain ⟨more, script⟩ := viable
    obtain ⟨last, run, -⟩ := run_of_script script
    obtain ⟨reading, front, -⟩ := run.of_append
    exact ⟨reading, front⟩
  · rintro ⟨reading, run⟩
    exact run.viable

/-- A viable list stays viable with the tokens that the state which it leads to lets pass. -/
theorem Run.viable_concat_iff (run : Run none tokens reading) {token : Token} :
    Viable (tokens ++ [token]) ↔ ∃ next, Step reading token next := by
  constructor
  · intro viable
    obtain ⟨next, longer⟩ := viable_iff_run.mp viable
    obtain ⟨reading', run', step⟩ := longer.of_concat
    rw [run.unique run']
    exact ⟨next, step⟩
  · rintro ⟨next, step⟩
    exact (run.concat step).viable

end Run

end Partial

end ModularSynth
