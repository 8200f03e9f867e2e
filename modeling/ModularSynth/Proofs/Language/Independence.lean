import Mathlib.Data.List.Induction
import ModularSynth.Language.Compile
import ModularSynth.Proofs.Language.Commands

/-!
# What registries and settings have a say in

Of a registry only the factories count that were registered last under the names that a description
mentions (`Registry.instantiate_ofEnrolments`). Of the settings nothing counts but that the patch
gets its read cap from them, and its rate unless the description sets one. Two compilations of a
description under registries that agree on the types that it mentions are therefore the same, or the
same but for the settings (`compileWith_of_agreement`).

Two sessions whose patches differ in their settings are one session and its `Session.tune`. Commands
do the same to both (`Session.perform_tune`), and the command that sets the rate makes the rates
equal.
-/

namespace ModularSynth

variable {D : Type}

/-- A call that registers a type. -/
structure Enrolment (D : Type) where
  typeName : String
  description : String
  factory : Factory D

namespace Registry

/-- The factory that was registered last under a name. -/
def lastFactory? (enrolments : List (Enrolment D)) (typeName : String) : Option (Factory D) :=
  (enrolments.reverse.find? (·.typeName = typeName)).map (·.factory)

variable [Device D]

/-- An empty registry after some calls. -/
def ofEnrolments (enrolments : List (Enrolment D)) : Registry D :=
  enrolments.foldl (fun registry enrolment =>
    registry.register enrolment.typeName enrolment.description enrolment.factory) .empty

theorem map_factory_find?_register (registry : Registry D) (enrolled description typeName : String)
    (factory : Factory D) :
    ((registry.register enrolled description factory).find? typeName).map (·.factory) =
      if enrolled = typeName then some factory
      else (registry.find? typeName).map (·.factory) := by
  unfold register find?
  rw [find?_place]
  by_cases same : enrolled = typeName
  · simp only [if_pos same, Option.map_some]
  · simp only [if_neg same]

theorem map_factory_find?_ofEnrolments (enrolments : List (Enrolment D)) (typeName : String) :
    ((ofEnrolments enrolments).find? typeName).map (·.factory) =
      lastFactory? enrolments typeName := by
  induction enrolments using List.reverseRecOn with
  | nil => rfl
  | append_singleton enrolments enrolment ih =>
    unfold ofEnrolments lastFactory? at *
    rw [List.foldl_append, List.foldl_cons, List.foldl_nil, map_factory_find?_register, ih,
      List.reverse_append, List.reverse_singleton, List.singleton_append, List.find?_cons]
    by_cases same : enrolment.typeName = typeName
    · rw [if_pos same, decide_eq_true same]
      rfl
    · rw [if_neg same, decide_eq_false same]

/-- A registry builds devices with the factories that were registered last. -/
theorem instantiate_ofEnrolments (enrolments : List (Enrolment D)) (typeName : String)
    (args : Arguments) :
    (ofEnrolments enrolments).instantiate typeName args =
      match lastFactory? enrolments typeName with
      | none => .error (.unknownType typeName)
      | some factory => (factory args).mapError (.construction typeName) := by
  rw [← map_factory_find?_ofEnrolments]
  unfold instantiate
  cases (ofEnrolments enrolments).find? typeName with
  | none => rfl
  | some registration => rfl

end Registry

/-- The results have a statement that creates a device of this type. -/
def MentionsType (results : List (Except ParseError Statement)) (typeName : String) : Prop :=
  ∃ name arguments position, .ok ⟨.create name typeName arguments, position⟩ ∈ results

/-- The results have a statement that sets the rate. -/
def SetsRate (results : List (Except ParseError Statement)) : Prop :=
  ∃ value position, .ok ⟨.parameter rateParameter value, position⟩ ∈ results

/-! ### Other settings -/

/-- Settings in place of some of a patch. -/
structure Tuning where
  rate? : Option UInt32 := none
  readCap? : Option Nat := none

namespace Tuning

/-- What is left of a tuning after a command: a rate that is set replaces that of the tuning. -/
def past (tuning : Tuning) : Command → Tuning
  | .parameter name _ => if name = rateParameter then { tuning with rate? := none } else tuning
  | _ => tuning

def pastAll (tuning : Tuning) : List (Except ParseError Statement) → Tuning
  | .ok statement :: results => (tuning.past statement.command).pastAll results
  | _ => tuning

theorem past_default (command : Command) : ({} : Tuning).past command = {} := by
  unfold past
  split
  · exact ite_self _
  · rfl

theorem pastAll_default (results : List (Except ParseError Statement)) :
    ({} : Tuning).pastAll results = {} := by
  induction results with
  | nil => rfl
  | cons result results ih =>
    cases result with
    | error error => rfl
    | ok statement => rw [pastAll, past_default, ih]

theorem rate?_past_of_none {tuning : Tuning} (untouched : tuning.rate? = none) (command : Command) :
    (tuning.past command).rate? = none := by
  unfold past
  split
  · split
    · rfl
    · exact untouched
  · exact untouched

theorem rate?_pastAll_of_none {tuning : Tuning} (untouched : tuning.rate? = none)
    (results : List (Except ParseError Statement)) : (tuning.pastAll results).rate? = none := by
  induction results generalizing tuning with
  | nil => exact untouched
  | cons result results ih =>
    cases result with
    | error error => exact untouched
    | ok statement => exact ih (rate?_past_of_none untouched statement.command)

/-- A tuning loses its rate where the rate is set. -/
theorem rate?_pastAll_of_sets (statements : List Statement)
    (sets : SetsRate (statements.map .ok)) (tuning : Tuning) :
    (tuning.pastAll (statements.map .ok)).rate? = none := by
  obtain ⟨value, position, member⟩ := sets
  induction statements generalizing tuning with
  | nil => cases member
  | cons statement statements ih =>
    rw [List.map_cons, pastAll]
    rcases List.mem_cons.mp member with same | member
    · cases same
      apply rate?_pastAll_of_none
      rw [past, if_pos rfl]
    · exact ih _ member

end Tuning

namespace Patch

def tune (p : Patch D) (tuning : Tuning) : Patch D :=
  { p with
    rate := tuning.rate?.getD p.rate
    readCap := tuning.readCap?.getD p.readCap }

theorem ofSettings_tune (settings other : Settings) :
    (ofSettings settings : Patch D).tune ⟨some other.rate, some (max other.readCap 1)⟩ =
      ofSettings other := rfl

theorem setOutput_tune [Device D] (p : Patch D) (tuning : Tuning) (id : DeviceId) (port : String) :
    (p.tune tuning).setOutput id port = (p.setOutput id port).map (·.tune tuning) := by
  have resolved : (p.tune tuning).resolvePort id port .output = p.resolvePort id port .output := rfl
  unfold setOutput
  rw [resolved]
  cases p.resolvePort id port .output with
  | error error => rfl
  | ok address => rfl

theorem connect_tune (p : Patch D) (tuning : Tuning) (source destination : PortAddress) :
    (p.tune tuning).connect source destination =
      (p.connect source destination).map fun (id, q) => (id, q.tune tuning) := by
  have begins : (p.tune tuning).checkAddress source .output = p.checkAddress source .output := rfl
  have ends : (p.tune tuning).checkAddress destination .input =
    p.checkAddress destination .input := rfl
  have taken : (p.tune tuning).inputCable? destination = p.inputCable? destination := rfl
  unfold connect
  rw [begins, ends, taken]
  cases p.checkAddress source .output with
  | error error => rfl
  | ok =>
    cases p.checkAddress destination .input with
    | error error => rfl
    | ok =>
      cases p.inputCable? destination with
      | some id => rfl
      | none => rfl

theorem plug_tune [Device D] (p : Patch D) (tuning : Tuning) (source destination : DeviceId)
    (sourcePort destinationPort : String) :
    (p.tune tuning).plug source sourcePort destination destinationPort =
      (p.plug source sourcePort destination destinationPort).map
        fun (id, q) => (id, q.tune tuning) := by
  have begins : (p.tune tuning).resolvePort source sourcePort .output =
    p.resolvePort source sourcePort .output := rfl
  have ends : (p.tune tuning).resolvePort destination destinationPort .input =
    p.resolvePort destination destinationPort .input := rfl
  unfold plug
  rw [begins, ends]
  cases p.resolvePort source sourcePort .output with
  | error error => rfl
  | ok first =>
    cases p.resolvePort destination destinationPort .input with
    | error error => rfl
    | ok last => exact p.connect_tune tuning first last

end Patch

namespace Session

def tune (s : Session D) (tuning : Tuning) : Session D :=
  { s with patch := s.patch.tune tuning }

theorem setParameter_tune (s : Session D) (tuning : Tuning) (name : String) (value : Value) :
    (s.tune tuning).setParameter name value =
      (s.setParameter name value).map (·.tune (tuning.past (.parameter name value))) := by
  unfold setParameter Tuning.past
  by_cases rate : name = rateParameter
  · simp only [if_pos rate]
    cases expectRate name value with
    | error fault => rfl
    | ok hertz => rfl
  · simp only [if_neg rate]
    have given : (s.tune tuning).outputDevice = s.outputDevice := rfl
    have given' : (s.tune tuning).outputPort = s.outputPort := rfl
    have named : (s.tune tuning).lookup = s.lookup := rfl
    rw [given, given', named]
    split
    · cases s.outputDevice with
      | some id => rfl
      | none =>
        cases expectText name value with
        | error fault => rfl
        | ok text =>
          show s.lookup text >>= _ = (s.lookup text >>= _).map _
          cases s.lookup text with
          | error fault => rfl
          | ok id => rfl
    · split
      · cases s.outputPort with
        | some port => rfl
        | none =>
          cases expectText name value with
          | error fault => rfl
          | ok text => rfl
      · rfl

variable [Device D]

theorem bindOutput_tune (s : Session D) (tuning : Tuning) :
    (s.tune tuning).bindOutput = (s.bindOutput.1, s.bindOutput.2.tune tuning) := by
  obtain ⟨patch, bindings, outputDevice, outputPort, outputBound⟩ := s
  cases outputBound with
  | true => rfl
  | false =>
    cases outputDevice with
    | none => rfl
    | some id =>
      cases outputPort with
      | none => rfl
      | some port =>
        have chosen := patch.setOutput_tune tuning id port
        unfold bindOutput tune
        dsimp only
        rw [chosen]
        cases patch.setOutput id port with
        | error error => rfl
        | ok after => rfl

theorem create_tune {registry registry' : Registry D} (s : Session D) (tuning : Tuning)
    (name typeName : String) (arguments : Arguments)
    (agree : registry'.instantiate typeName arguments = registry.instantiate typeName arguments) :
    (s.tune tuning).create registry' name typeName arguments =
      (s.create registry name typeName arguments).map (·.tune tuning) := by
  have named : (s.tune tuning).lookup? name = s.lookup? name := rfl
  unfold create
  rw [named, agree]
  cases s.lookup? name with
  | some id => rfl
  | none =>
    cases registry.instantiate typeName arguments with
    | error error => rfl
    | ok device => rfl

theorem connect_tune (s : Session D) (tuning : Tuning) (source destination : Endpoint) :
    (s.tune tuning).connect source destination =
      (s.connect source destination).map (·.tune tuning) := by
  have named : (s.tune tuning).lookup = s.lookup := rfl
  have patched : (s.tune tuning).patch = s.patch.tune tuning := rfl
  unfold connect
  rw [named, patched]
  cases s.lookup source.device with
  | error fault => rfl
  | ok first =>
    cases s.lookup destination.device with
    | error fault => rfl
    | ok last =>
      have plugged := s.patch.plug_tune tuning first last source.port destination.port
      simp only [bind, Except.bind]
      rw [plugged]
      cases s.patch.plug first source.port last destination.port with
      | error error => rfl
      | ok result => rfl

section Run

variable {registry registry' : Registry D}

/-- Commands do the same under other settings, and under a registry that builds the same device. -/
theorem perform_tune (s : Session D) (tuning : Tuning) (command : Command)
    (agree : ∀ name typeName arguments, command = .create name typeName arguments →
      registry'.instantiate typeName arguments = registry.instantiate typeName arguments) :
    ((s.tune tuning).perform registry' command).1 = (s.perform registry command).1 ∧
      ((s.perform registry command).1 = .ok () →
        ((s.tune tuning).perform registry' command).2 =
          (s.perform registry command).2.tune (tuning.past command)) := by
  cases command with
  | parameter name value =>
    have recorded' := s.setParameter_tune tuning name value
    cases recorded : s.setParameter name value with
    | error fault =>
      rw [recorded] at recorded'
      rw [perform_parameter_of_error recorded, perform_parameter_of_error recorded']
      exact ⟨rfl, nofun⟩
    | ok after =>
      rw [recorded] at recorded'
      rw [perform_parameter_of_ok recorded, perform_parameter_of_ok recorded', bindOutput_tune]
      exact ⟨rfl, fun _ => rfl⟩
  | create name typeName arguments =>
    have created' := s.create_tune tuning name typeName arguments (agree _ _ _ rfl)
    cases created : s.create registry name typeName arguments with
    | error fault =>
      rw [created] at created'
      rw [perform_create_of_error created, perform_create_of_error created']
      exact ⟨rfl, nofun⟩
    | ok after =>
      rw [created] at created'
      rw [perform_create_of_ok created, perform_create_of_ok created']
      exact ⟨rfl, fun _ => rfl⟩
  | connect source destination =>
    have connected' := s.connect_tune tuning source destination
    cases connected : s.connect source destination with
    | error fault =>
      rw [connected] at connected'
      rw [perform_connect_of_error connected, perform_connect_of_error connected']
      exact ⟨rfl, nofun⟩
    | ok after =>
      rw [connected] at connected'
      rw [perform_connect_of_ok connected, perform_connect_of_ok connected']
      exact ⟨rfl, fun _ => rfl⟩

theorem run_tune (results : List (Except ParseError Statement)) (s : Session D) (tuning : Tuning)
    (agree : ∀ typeName, MentionsType results typeName → ∀ arguments,
      registry'.instantiate typeName arguments = registry.instantiate typeName arguments) :
    ((s.tune tuning).run registry' results).1 = (s.run registry results).1 ∧
      ((s.run registry results).1 = .ok () →
        ((s.tune tuning).run registry' results).2 =
          (s.run registry results).2.tune (tuning.pastAll results)) := by
  induction results generalizing s tuning with
  | nil => exact ⟨rfl, fun _ => rfl⟩
  | cons result results ih =>
    cases result with
    | error error => exact ⟨rfl, nofun⟩
    | ok statement =>
      have here : ∀ name typeName arguments,
          statement.command = .create name typeName arguments →
            registry'.instantiate typeName arguments =
              registry.instantiate typeName arguments := by
        intro name typeName arguments creates
        apply agree
        refine ⟨name, arguments, statement.position, ?_⟩
        rw [← creates]
        exact List.mem_cons_self
      have later : ∀ typeName, MentionsType results typeName → ∀ arguments,
          registry'.instantiate typeName arguments =
            registry.instantiate typeName arguments := by
        rintro typeName ⟨name, arguments, position, member⟩
        exact agree typeName ⟨name, arguments, position, List.mem_cons_of_mem _ member⟩
      obtain ⟨outcome, state⟩ := s.perform_tune tuning statement.command here
      unfold run execute
      generalize (s.tune tuning).perform registry' statement.command = performed' at outcome state
      generalize s.perform registry statement.command = performed at outcome state
      obtain ⟨outcome', after'⟩ := performed'
      obtain ⟨_, after⟩ := performed
      cases outcome
      cases outcome' with
      | error fault => exact ⟨rfl, nofun⟩
      | ok =>
        have state : after' = after.tune (tuning.past statement.command) := state rfl
        rw [state]
        exact ih after _ later

/-- What is carried out to the end was read without an error. -/
theorem exists_eq_map_ok_of_run {results : List (Except ParseError Statement)} {s : Session D}
    (carried : (s.run registry results).1 = .ok ()) :
    ∃ statements : List Statement, results = statements.map .ok := by
  induction results generalizing s with
  | nil => exact ⟨[], rfl⟩
  | cons result results ih =>
    cases result with
    | error error => cases carried
    | ok statement =>
      unfold run at carried
      split at carried
      next after _ =>
        obtain ⟨statements, rfl⟩ := ih carried
        exact ⟨statement :: statements, rfl⟩
      next => cases carried

end Run

end Session

/-- The outcomes are the same error, or patches that differ in their settings at most: in the read
cap, and in the rate unless a description set it. -/
inductive Alike (rate_set : Prop) :
    Except CompileError (Patch D) → Except CompileError (Patch D) → Prop
  | failed (error : CompileError) : Alike rate_set (.error error) (.error error)
  | built {p q : Patch D} (same : q = { p with rate := q.rate, readCap := q.readCap })
      (rate : rate_set → q.rate = p.rate) : Alike rate_set (.ok p) (.ok q)

section Compile

variable [Device D] {registry registry' : Registry D}

theorem compileWith_tune {text : String} {settings other : Settings} {tuning : Tuning}
    (tuned : (Patch.ofSettings settings : Patch D).tune tuning = .ofSettings other)
    (agree : ∀ typeName, MentionsType (parseText text) typeName → ∀ arguments,
      registry'.instantiate typeName arguments = registry.instantiate typeName arguments) :
    compileWith registry' other text = (compileWith registry settings text).map
      (·.tune (tuning.pastAll (parseText text))) := by
  obtain ⟨outcome, state⟩ := Session.run_tune (parseText text)
    { patch := .ofSettings settings } tuning agree
  have start : ({ patch := .ofSettings settings } : Session D).tune tuning =
      { patch := .ofSettings other } := by
    rw [← tuned]
    rfl
  rw [start] at outcome state
  unfold compileWith
  generalize Session.run registry' _ (parseText text) = carried' at outcome state
  generalize Session.run registry _ (parseText text) = carried at outcome state
  obtain ⟨outcome', last'⟩ := carried'
  obtain ⟨_, last⟩ := carried
  cases outcome
  cases outcome' with
  | error error => rfl
  | ok =>
    have state : last' = last.tune (tuning.pastAll (parseText text)) := state rfl
    rw [state]
    rfl

theorem exists_eq_map_ok_of_compileWith {text : String} {settings : Settings} {p : Patch D}
    (compiled : compileWith registry settings text = .ok p) :
    ∃ statements : List Statement, parseText text = statements.map .ok := by
  unfold compileWith at compiled
  split at compiled
  next s carried => exact Session.exists_eq_map_ok_of_run (congrArg Prod.fst carried)
  next => cases compiled

/-- Under registries whose factories are the same for all types that a description mentions, it
compiles to the same patch or fails with the same error. Other settings show in the patch as
settings only, and a rate that the description sets does not depend on them. -/
theorem compileWith_of_agreement (text : String) (enrolments others : List (Enrolment D))
    (agree : ∀ typeName, MentionsType (parseText text) typeName →
      Registry.lastFactory? enrolments typeName = Registry.lastFactory? others typeName)
    (settings other : Settings) :
    compileWith (.ofEnrolments others) settings text =
        compileWith (.ofEnrolments enrolments) settings text ∧
      Alike (SetsRate (parseText text)) (compileWith (.ofEnrolments enrolments) settings text)
        (compileWith (.ofEnrolments others) other text) := by
  have same : ∀ typeName, MentionsType (parseText text) typeName → ∀ arguments,
      (Registry.ofEnrolments others).instantiate typeName arguments =
        (Registry.ofEnrolments enrolments).instantiate typeName arguments := by
    intro typeName mentioned arguments
    rw [Registry.instantiate_ofEnrolments, Registry.instantiate_ofEnrolments,
      agree typeName mentioned]
  constructor
  · have unchanged : compileWith (.ofEnrolments others) settings text = _ :=
      compileWith_tune (show (Patch.ofSettings settings : Patch D).tune {} = _ from rfl) same
    rw [Tuning.pastAll_default] at unchanged
    rw [unchanged]
    cases compileWith (.ofEnrolments enrolments) settings text with
    | error error => rfl
    | ok p => rfl
  · rw [compileWith_tune (Patch.ofSettings_tune settings other) same]
    cases compiled : compileWith (.ofEnrolments enrolments) settings text with
    | error error => exact .failed error
    | ok p =>
      refine .built rfl ?_
      intro sets
      obtain ⟨statements, read⟩ := exists_eq_map_ok_of_compileWith compiled
      rw [read] at sets ⊢
      have lost := Tuning.rate?_pastAll_of_sets statements sets
        ⟨some other.rate, some (max other.readCap 1)⟩
      show (Tuning.rate? _).getD p.rate = p.rate
      rw [lost]
      rfl

end Compile

/-- Two devices of one type at a rate of their own. -/
def louder : String :=
  "a = Loud()\nb = Loud()\na:sample -> b:float\n@SAMPLING_FREQ 8000\n"

/-- The type is registered twice, and the first factory is replaced. -/
def replaced : List (Enrolment Builtin) :=
  [⟨"Loud", "out of order", .failing "broken"⟩, ⟨"Siren", "", .withoutArguments .converter⟩,
    ⟨"Loud", "makes samples", .withoutArguments .converter⟩]

/-- The type is registered once, and another one differs. -/
def sparse : List (Enrolment Builtin) :=
  [⟨"Loud", "", .withoutArguments .converter⟩, ⟨"Siren", "", .failing "broken"⟩]

theorem louder_of_agreement :
    (∀ typeName, MentionsType (parseText louder) typeName →
      Registry.lastFactory? replaced typeName = Registry.lastFactory? sparse typeName) ∧
      compileWith (.ofEnrolments sparse) {} louder =
          compileWith (.ofEnrolments replaced) {} louder ∧
        Alike (SetsRate (parseText louder)) (compileWith (.ofEnrolments replaced) {} louder)
          (compileWith (.ofEnrolments sparse) ⟨96000, 1⟩ louder) := by
  have read : parseText louder =
      [.ok ⟨.create "a" "Loud" .empty, ⟨1, 1⟩⟩, .ok ⟨.create "b" "Loud" .empty, ⟨2, 1⟩⟩,
        .ok ⟨.connect ⟨"a", "sample"⟩ ⟨"b", "float"⟩, ⟨3, 1⟩⟩,
        .ok ⟨.parameter "SAMPLING_FREQ" (.integer 8000), ⟨4, 1⟩⟩] := by
    decide +kernel
  have agree : ∀ typeName, MentionsType (parseText louder) typeName →
      Registry.lastFactory? replaced typeName = Registry.lastFactory? sparse typeName := by
    rintro typeName ⟨name, arguments, position, member⟩
    have loud : typeName = "Loud" := by
      simp only [read, List.mem_cons, Except.ok.injEq, Statement.mk.injEq, Command.create.injEq,
        List.not_mem_nil, or_false, reduceCtorEq, false_and] at member
      rcases member with ⟨⟨-, same, -⟩, -⟩ | ⟨⟨-, same, -⟩, -⟩
      · exact same
      · exact same
    rw [loud]
    rfl
  exact ⟨agree, compileWith_of_agreement louder replaced sparse agree {} ⟨96000, 1⟩⟩

/-- Both build the two devices, at the rate that the description sets. -/
example : ((compileWith (.ofEnrolments sparse) ⟨96000, 1⟩ louder).toOption.map
    fun p => (p.deviceCount, p.rate, p.readCap)) = some (2, 8000, 1) := by
  decide +kernel

end ModularSynth
