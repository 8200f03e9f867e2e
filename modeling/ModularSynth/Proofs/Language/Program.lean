import Mathlib.Data.List.Induction
import Mathlib.Data.List.Nodup
import ModularSynth.Language.Session

/-!
# Well-formed programs

A program is the commands of a patch description in order. `Program.WellFormed` says which programs
can be carried out, without carrying them out: names refer to what earlier commands created, and
nothing is given, named or fed twice. `Program.wellFormed_concat` splits the condition at the last
command, which is how a session meets it.
-/

namespace ModularSynth

variable {D : Type}

/-- What a create command asks for. -/
structure Creation where
  name : String
  typeName : String
  arguments : Arguments

/-- The device that the registered factory makes of the arguments. -/
def Creation.build? (registry : Registry D) (creation : Creation) : Option D :=
  (registry.find? creation.typeName).bind fun registration =>
    (registration.factory creation.arguments).toOption

theorem Creation.build?_eq_some_iff {registry : Registry D} {creation : Creation} {device : D} :
    creation.build? registry = some device ↔
      registry.instantiate creation.typeName creation.arguments = .ok device := by
  unfold build? Registry.instantiate
  cases registry.find? creation.typeName with
  | none => simp
  | some registration =>
    simp only [Option.bind_some]
    cases registration.factory creation.arguments with
    | error failure => simp [Except.toOption, Except.mapError]
    | ok device => simp [Except.toOption, Except.mapError]

/-- What a connect command asks for. -/
structure Link where
  source : Endpoint
  destination : Endpoint

namespace Command

def creation? : Command → Option Creation
  | create name typeName arguments => some ⟨name, typeName, arguments⟩
  | _ => none

def link? : Command → Option Link
  | connect source destination => some ⟨source, destination⟩
  | _ => none

/-- The text that a command gives to a parameter. -/
def text? (parameter : String) : Command → Option String
  | .parameter name (.text text) => if name = parameter then some text else none
  | _ => none

/-- The sampling rate that a command asks for. -/
def rate? : Command → Option UInt32
  | .parameter name (.integer n) =>
    if name = rateParameter then some (UInt32.ofNat n.toInt.toNat) else none
  | _ => none

end Command

/-- The commands of a patch description. -/
abbrev Program := List Command

namespace Program

def creations (program : Program) : List Creation := program.filterMap Command.creation?

def links (program : Program) : List Link := program.filterMap Command.link?

def texts (parameter : String) (program : Program) : List String :=
  program.filterMap (Command.text? parameter)

def rates (program : Program) : List UInt32 := program.filterMap Command.rate?

/-- The variables of the devices, oldest first. -/
def created (program : Program) : List String := (creations program).map (·.name)

/-- The key of the device that is created after this many others. -/
def deviceAt (index : Nat) : DeviceId := Slots.keyAt index firstGeneration

/-- The key of the cable that is connected after this many others. -/
def cableAt (index : Nat) : CableId := Slots.keyAt index firstGeneration

/-- How many devices are created before the one with this variable. -/
def indexOf? (program : Program) (name : String) : Option Nat :=
  (creations program).findIdx? (·.name = name)

/-- The port that an endpoint means: its variable tells the device, and of the device's ports with
the name the last is meant. -/
def portOf? [Device D] (registry : Registry D) (program : Program) (direction : Direction)
    (endpoint : Endpoint) : Option PortAddress :=
  (indexOf? program endpoint.device).bind fun index =>
    ((creations program)[index]?.bind (·.build? registry)).bind fun device =>
      ((Device.panel device).lastIndexOf? direction endpoint.port).map (⟨deviceAt index, ·⟩)

/-- The inputs that the connect commands end at. -/
def inputs [Device D] (registry : Registry D) (program : Program) : List (Option PortAddress) :=
  (links program).map fun link => portOf? registry program .input link.destination

/-- The device and the port that the parameters choose as the output. -/
def outputEndpoint? (program : Program) : Option Endpoint :=
  (texts outputDeviceParameter program).head?.bind fun device =>
    (texts outputPortParameter program).head?.map (⟨device, ·⟩)

section WellFormed

variable [Device D] (registry : Registry D)

/-- What a command needs of the registry and of the commands before it: a parameter has a value of
its kind, a variable is one that was created, a type is registered and its factory accepts the
arguments, and the ports of a connection exist. -/
def InScope (before : Program) : Command → Prop
  | .parameter name value =>
    (name = rateParameter ∧ ∃ n, value = .integer n ∧ 0 < n.toInt ∧ n.toInt < UInt32.size) ∨
    (name = outputDeviceParameter ∧ ∃ device, value = .text device ∧ device ∈ created before) ∨
    (name = outputPortParameter ∧ ∃ port, value = .text port)
  | .create name typeName arguments =>
    ((⟨name, typeName, arguments⟩ : Creation).build? registry).isSome
  | .connect source destination =>
    (portOf? registry before .output source).isSome ∧
      (portOf? registry before .input destination).isSome

/-- The programs that can be carried out. -/
structure WellFormed (program : Program) : Prop where
  in_scope : ∀ before command after, program = before ++ command :: after →
    InScope registry before command
  /-- No two devices are created under one variable. -/
  created_once : (created program).Nodup
  /-- No two connections end at one input. -/
  inputs_once : (inputs registry program).Nodup
  /-- The device and the port of the output are given at most once, -/
  output_device_once : (texts outputDeviceParameter program).length ≤ 1
  output_port_once : (texts outputPortParameter program).length ≤ 1
  /-- and if both are given, the device has that port. -/
  output_exists : ∀ endpoint, outputEndpoint? program = some endpoint →
    (portOf? registry program .output endpoint).isSome

/-- What a command needs besides: it gives, names or feeds nothing a second time. -/
def Compatible (before : Program) (command : Command) : Prop :=
  match command with
  | .parameter _ _ =>
    (texts outputDeviceParameter (before ++ [command])).length ≤ 1 ∧
      (texts outputPortParameter (before ++ [command])).length ≤ 1 ∧
        ∀ endpoint, outputEndpoint? (before ++ [command]) = some endpoint →
          (portOf? registry before .output endpoint).isSome
  | .create name _ _ => name ∉ created before
  | .connect _ destination => portOf? registry before .input destination ∉ inputs registry before

end WellFormed

/-! ### Programs with one more command -/

theorem filterMap_concat {α β : Type} (f : α → Option β) (l : List α) (a : α) :
    (l ++ [a]).filterMap f = l.filterMap f ++ (f a).toList := by
  rw [List.filterMap_append]
  cases given : f a with
  | none => simp [given]
  | some b => simp [given]

theorem creations_concat (program : Program) (command : Command) :
    creations (program ++ [command]) = creations program ++ command.creation?.toList :=
  filterMap_concat _ _ _

theorem links_concat (program : Program) (command : Command) :
    links (program ++ [command]) = links program ++ command.link?.toList :=
  filterMap_concat _ _ _

theorem texts_concat (parameter : String) (program : Program) (command : Command) :
    texts parameter (program ++ [command]) =
      texts parameter program ++ (command.text? parameter).toList :=
  filterMap_concat _ _ _

theorem rates_concat (program : Program) (command : Command) :
    rates (program ++ [command]) = rates program ++ command.rate?.toList :=
  filterMap_concat _ _ _

section Quiet

variable {command : Command} (program : Program)

theorem creations_concat_of_none (quiet : command.creation? = none) :
    creations (program ++ [command]) = creations program := by
  rw [creations_concat, quiet, Option.toList_none, List.append_nil]

theorem links_concat_of_none (quiet : command.link? = none) :
    links (program ++ [command]) = links program := by
  rw [links_concat, quiet, Option.toList_none, List.append_nil]

theorem texts_concat_of_none {parameter : String} (quiet : command.text? parameter = none) :
    texts parameter (program ++ [command]) = texts parameter program := by
  rw [texts_concat, quiet, Option.toList_none, List.append_nil]

theorem rates_concat_of_none (quiet : command.rate? = none) :
    rates (program ++ [command]) = rates program := by
  rw [rates_concat, quiet, Option.toList_none, List.append_nil]

theorem outputEndpoint?_concat_of_none (quiet : ∀ parameter, command.text? parameter = none) :
    outputEndpoint? (program ++ [command]) = outputEndpoint? program := by
  unfold outputEndpoint?
  rw [texts_concat_of_none program (quiet _), texts_concat_of_none program (quiet _)]

theorem created_concat_of_none (quiet : command.creation? = none) :
    created (program ++ [command]) = created program := by
  unfold created
  rw [creations_concat_of_none program quiet]

theorem indexOf?_concat_of_none (quiet : command.creation? = none) :
    indexOf? (program ++ [command]) = indexOf? program := by
  funext name
  unfold indexOf?
  rw [creations_concat_of_none program quiet]

theorem portOf?_concat_of_none [Device D] {registry : Registry D}
    (quiet : command.creation? = none) :
    portOf? registry (program ++ [command]) = portOf? registry program := by
  funext direction endpoint
  unfold portOf?
  rw [indexOf?_concat_of_none program quiet, creations_concat_of_none program quiet]

theorem inputs_concat_of_none [Device D] {registry : Registry D}
    (no_device : command.creation? = none) (no_cable : command.link? = none) :
    inputs registry (program ++ [command]) = inputs registry program := by
  unfold inputs
  rw [portOf?_concat_of_none program no_device, links_concat_of_none program no_cable]

end Quiet

theorem created_append (program more : Program) :
    created (program ++ more) = created program ++ created more := by
  unfold created creations
  rw [List.filterMap_append, List.map_append]

theorem length_creations_le (program more : Program) :
    (creations program).length ≤ (creations (program ++ more)).length := by
  unfold creations
  rw [List.filterMap_append, List.length_append]
  exact Nat.le_add_right _ _

/-- What holds of every command and those before it holds of the last and of all others. -/
theorem forall_split_concat_iff {holds : Program → Command → Prop} {program : Program}
    {last : Command} :
    (∀ before command after, program ++ [last] = before ++ command :: after →
        holds before command) ↔
      (∀ before command after, program = before ++ command :: after → holds before command) ∧
        holds program last := by
  constructor
  · intro every
    refine ⟨?_, every program last [] rfl⟩
    intro before command after split
    apply every before command (after ++ [last])
    rw [split, List.append_assoc, List.cons_append]
  · intro parts before command after split
    obtain ⟨every, final⟩ := parts
    rcases List.eq_nil_or_concat after with rfl | ⟨front, other, rfl⟩
    · obtain ⟨rfl, same⟩ := List.append_inj' split rfl
      cases same
      exact final
    · rw [List.concat_eq_append, ← List.cons_append, ← List.append_assoc] at split
      exact every before command front (List.append_inj' split rfl).1

/-! ### Names keep their meaning -/

section Scope

theorem indexOf?_append {program : Program} {name : String} (known : name ∈ created program)
    (more : Program) : indexOf? (program ++ more) name = indexOf? program name := by
  have found : ((creations program).findIdx? (·.name = name)).isSome := by
    rw [List.findIdx?_isSome, List.any_eq_true]
    obtain ⟨creation, member, same⟩ := List.mem_map.mp known
    exact ⟨creation, member, decide_eq_true same⟩
  unfold indexOf?
  unfold creations at found ⊢
  rw [List.filterMap_append, List.findIdx?_append]
  obtain ⟨index, at_index⟩ := Option.isSome_iff_exists.mp found
  rw [at_index]
  rfl

theorem lt_length_of_indexOf? {program : Program} {name : String} {index : Nat}
    (found : indexOf? program name = some index) : index < (creations program).length :=
  (List.findIdx?_eq_some_iff_getElem.mp found).1

theorem mem_created_of_indexOf? {program : Program} {name : String} {index : Nat}
    (found : indexOf? program name = some index) : name ∈ created program := by
  obtain ⟨inside, named, -⟩ := List.findIdx?_eq_some_iff_getElem.mp found
  exact List.mem_map.mpr ⟨_, List.getElem_mem inside, of_decide_eq_true named⟩

theorem indexOf?_eq_none_iff {program : Program} {name : String} :
    indexOf? program name = none ↔ name ∉ created program := by
  unfold indexOf? created
  rw [List.findIdx?_eq_none_iff]
  simp only [decide_eq_false_iff_not, List.mem_map, not_exists, not_and]

variable [Device D] {registry : Registry D}

/-- An endpoint whose variable was created means the same port whatever commands follow. -/
theorem portOf?_append {program : Program} {endpoint : Endpoint}
    (known : endpoint.device ∈ created program) (more : Program) (direction : Direction) :
    portOf? registry (program ++ more) direction endpoint =
      portOf? registry program direction endpoint := by
  unfold portOf?
  rw [indexOf?_append known]
  cases found : indexOf? program endpoint.device with
  | none => rfl
  | some index =>
    have inside := lt_length_of_indexOf? found
    have same : (creations (program ++ more))[index]? = (creations program)[index]? := by
      unfold creations at inside ⊢
      rw [List.filterMap_append, List.getElem?_append_left inside]
    rw [Option.bind_some, Option.bind_some, same]

theorem mem_created_of_portOf? {program : Program} {direction : Direction} {endpoint : Endpoint}
    (found : (portOf? registry program direction endpoint).isSome) :
    endpoint.device ∈ created program := by
  unfold portOf? at found
  cases index : indexOf? program endpoint.device with
  | none => simp [index] at found
  | some place => exact mem_created_of_indexOf? index

theorem inputs_concat_connect {program : Program} {source destination : Endpoint} :
    inputs registry (program ++ [.connect source destination]) =
      inputs registry program ++ [portOf? registry program .input destination] := by
  unfold inputs
  rw [portOf?_concat_of_none program rfl, links_concat, List.map_append]
  rfl

variable {program : Program} (in_scope : ∀ before command after,
  program = before ++ command :: after → InScope registry before command)

include in_scope

/-- Connections are between devices that were created. -/
theorem mem_created_of_mem_links {link : Link} (member : link ∈ links program) :
    link.source.device ∈ created program ∧ link.destination.device ∈ created program := by
  obtain ⟨command, present, asks⟩ := List.mem_filterMap.mp member
  obtain ⟨before, after, split⟩ := List.append_of_mem present
  have ports := in_scope before command after split
  cases command with
  | connect source destination =>
    cases asks
    rw [split, created_append]
    exact ⟨List.mem_append_left _ (mem_created_of_portOf? ports.1),
      List.mem_append_left _ (mem_created_of_portOf? ports.2)⟩
  | _ => cases asks

/-- The output is on a device that was created. -/
theorem mem_created_of_mem_texts {name : String}
    (member : name ∈ texts outputDeviceParameter program) : name ∈ created program := by
  obtain ⟨command, present, gives⟩ := List.mem_filterMap.mp member
  obtain ⟨before, after, split⟩ := List.append_of_mem present
  have scope := in_scope before command after split
  cases command with
  | parameter parameter value =>
    cases value with
    | text given =>
      simp only [Command.text?, Option.ite_none_right_eq_some, Option.some.injEq] at gives
      obtain ⟨rfl, rfl⟩ := gives
      rcases scope with ⟨wrong, -⟩ | ⟨-, device, same, known⟩ | ⟨wrong, -⟩
      · exact absurd wrong (by decide)
      · cases same
        rw [split, created_append]
        exact List.mem_append_left _ known
      · exact absurd wrong (by decide)
    | _ => cases gives
  | _ => cases gives

/-- The inputs of the connections stay what they are whatever commands follow. -/
theorem inputs_append (more : Program) :
    (links program).map (fun link =>
        portOf? registry (program ++ more) .input link.destination) =
      inputs registry program := by
  apply List.map_congr_left
  intro link member
  exact portOf?_append (mem_created_of_mem_links in_scope member).2 more .input

theorem inputs_concat_create {name typeName : String} {arguments : Arguments} :
    inputs registry (program ++ [.create name typeName arguments]) = inputs registry program := by
  rw [← inputs_append in_scope [.create name typeName arguments]]
  unfold inputs
  rw [links_concat_of_none program rfl]

theorem mem_created_of_outputEndpoint? {endpoint : Endpoint}
    (chosen : outputEndpoint? program = some endpoint) : endpoint.device ∈ created program := by
  unfold outputEndpoint? at chosen
  obtain ⟨device, given, rest⟩ := Option.bind_eq_some_iff.mp chosen
  obtain ⟨port, -, rfl⟩ := Option.map_eq_some_iff.mp rest
  exact mem_created_of_mem_texts in_scope (List.mem_of_head? given)

end Scope

/-! ### The condition at the last command -/

section Concat

variable [Device D] {registry : Registry D} {program : Program}

theorem wellFormed_nil : WellFormed registry [] where
  in_scope := by
    intro before command after split
    simp at split
  created_once := List.nodup_nil
  inputs_once := List.nodup_nil
  output_device_once := Nat.zero_le _
  output_port_once := Nat.zero_le _
  output_exists := by
    intro endpoint chosen
    cases chosen

theorem wellFormed_concat_parameter {name : String} {value : Value} :
    WellFormed registry (program ++ [.parameter name value]) ↔
      WellFormed registry program ∧ InScope registry program (.parameter name value) ∧
        Compatible registry program (.parameter name value) := by
  have ports : portOf? registry (program ++ [.parameter name value]) = portOf? registry program :=
    portOf?_concat_of_none program rfl
  have created_eq : created (program ++ [.parameter name value]) = created program :=
    created_concat_of_none program rfl
  have inputs_eq : inputs registry (program ++ [.parameter name value]) =
      inputs registry program :=
    inputs_concat_of_none program rfl rfl
  constructor
  · intro whole
    obtain ⟨in_scope, last⟩ := forall_split_concat_iff.mp whole.in_scope
    have device_once := whole.output_device_once
    have port_once := whole.output_port_once
    have exists_output := whole.output_exists
    rw [ports] at exists_output
    refine ⟨?_, last, device_once, port_once, exists_output⟩
    rw [texts_concat, List.length_append] at device_once port_once
    exact
      { in_scope
        created_once := created_eq ▸ whole.created_once
        inputs_once := inputs_eq ▸ whole.inputs_once
        output_device_once := by omega
        output_port_once := by omega
        output_exists := by
          intro endpoint chosen
          apply exists_output
          unfold outputEndpoint? at chosen ⊢
          obtain ⟨device, given, rest⟩ := Option.bind_eq_some_iff.mp chosen
          obtain ⟨port, given', rfl⟩ := Option.map_eq_some_iff.mp rest
          rw [texts_concat, texts_concat, List.head?_append, List.head?_append, given, given']
          rfl }
  · intro parts
    obtain ⟨front, last, device_once, port_once, exists_output⟩ := parts
    exact
      { in_scope := forall_split_concat_iff.mpr ⟨front.in_scope, last⟩
        created_once := created_eq ▸ front.created_once
        inputs_once := inputs_eq ▸ front.inputs_once
        output_device_once := device_once
        output_port_once := port_once
        output_exists := by
          rw [ports]
          exact exists_output }

theorem wellFormed_concat_create {name typeName : String} {arguments : Arguments} :
    WellFormed registry (program ++ [.create name typeName arguments]) ↔
      WellFormed registry program ∧ InScope registry program (.create name typeName arguments) ∧
        Compatible registry program (.create name typeName arguments) := by
  have texts_eq : ∀ parameter,
      texts parameter (program ++ [.create name typeName arguments]) = texts parameter program :=
    fun parameter => texts_concat_of_none program rfl
  have endpoint_eq : outputEndpoint? (program ++ [.create name typeName arguments]) =
      outputEndpoint? program :=
    outputEndpoint?_concat_of_none program fun parameter => rfl
  have created_eq : created (program ++ [.create name typeName arguments]) =
      created program ++ [name] :=
    created_append _ _
  have inputs_eq : (∀ before command after, program = before ++ command :: after →
        InScope registry before command) →
      inputs registry (program ++ [.create name typeName arguments]) = inputs registry program :=
    fun in_scope => inputs_concat_create in_scope
  constructor
  · intro whole
    obtain ⟨in_scope, last⟩ := forall_split_concat_iff.mp whole.in_scope
    have once := whole.created_once
    rw [created_eq, ← List.concat_eq_append, List.nodup_concat] at once
    refine ⟨?_, last, once.1⟩
    exact
      { in_scope
        created_once := once.2
        inputs_once := inputs_eq in_scope ▸ whole.inputs_once
        output_device_once := texts_eq _ ▸ whole.output_device_once
        output_port_once := texts_eq _ ▸ whole.output_port_once
        output_exists := by
          intro endpoint chosen
          have port := whole.output_exists endpoint (endpoint_eq.trans chosen)
          rwa [portOf?_append (mem_created_of_outputEndpoint? in_scope chosen)] at port }
  · intro parts
    obtain ⟨front, last, new⟩ := parts
    exact
      { in_scope := forall_split_concat_iff.mpr ⟨front.in_scope, last⟩
        created_once := by
          rw [created_eq, ← List.concat_eq_append, List.nodup_concat]
          exact ⟨new, front.created_once⟩
        inputs_once := inputs_eq front.in_scope ▸ front.inputs_once
        output_device_once := texts_eq _ ▸ front.output_device_once
        output_port_once := texts_eq _ ▸ front.output_port_once
        output_exists := by
          intro endpoint chosen
          rw [endpoint_eq] at chosen
          rw [portOf?_append (mem_created_of_outputEndpoint? front.in_scope chosen)]
          exact front.output_exists endpoint chosen }

theorem wellFormed_concat_connect {source destination : Endpoint} :
    WellFormed registry (program ++ [.connect source destination]) ↔
      WellFormed registry program ∧ InScope registry program (.connect source destination) ∧
        Compatible registry program (.connect source destination) := by
  have ports : portOf? registry (program ++ [.connect source destination]) =
      portOf? registry program :=
    portOf?_concat_of_none program rfl
  have texts_eq : ∀ parameter,
      texts parameter (program ++ [.connect source destination]) = texts parameter program :=
    fun parameter => texts_concat_of_none program rfl
  have endpoint_eq : outputEndpoint? (program ++ [.connect source destination]) =
      outputEndpoint? program :=
    outputEndpoint?_concat_of_none program fun parameter => rfl
  have created_eq : created (program ++ [.connect source destination]) = created program :=
    created_concat_of_none program rfl
  have inputs_eq : inputs registry (program ++ [.connect source destination]) =
      inputs registry program ++ [portOf? registry program .input destination] :=
    inputs_concat_connect
  constructor
  · intro whole
    obtain ⟨in_scope, last⟩ := forall_split_concat_iff.mp whole.in_scope
    have once := whole.inputs_once
    rw [inputs_eq, ← List.concat_eq_append, List.nodup_concat] at once
    have exists_output := whole.output_exists
    rw [ports, endpoint_eq] at exists_output
    refine ⟨?_, last, once.1⟩
    exact
      { in_scope
        created_once := created_eq ▸ whole.created_once
        inputs_once := once.2
        output_device_once := texts_eq _ ▸ whole.output_device_once
        output_port_once := texts_eq _ ▸ whole.output_port_once
        output_exists := exists_output }
  · intro parts
    obtain ⟨front, last, unfed⟩ := parts
    exact
      { in_scope := forall_split_concat_iff.mpr ⟨front.in_scope, last⟩
        created_once := created_eq ▸ front.created_once
        inputs_once := by
          rw [inputs_eq, ← List.concat_eq_append, List.nodup_concat]
          exact ⟨unfed, front.inputs_once⟩
        output_device_once := texts_eq _ ▸ front.output_device_once
        output_port_once := texts_eq _ ▸ front.output_port_once
        output_exists := by
          rw [ports, endpoint_eq]
          exact front.output_exists }

/-- A program is well formed when all but its last command are and the last fits in with them. -/
theorem wellFormed_concat {command : Command} :
    WellFormed registry (program ++ [command]) ↔
      WellFormed registry program ∧ InScope registry program command ∧
        Compatible registry program command := by
  cases command with
  | parameter name value => exact wellFormed_concat_parameter
  | create name typeName arguments => exact wellFormed_concat_create
  | connect source destination => exact wellFormed_concat_connect

/-- The front of a well-formed program is well formed. -/
theorem WellFormed.of_append {more : Program} (whole : WellFormed registry (program ++ more)) :
    WellFormed registry program := by
  induction more using List.reverseRecOn with
  | nil =>
    rw [List.append_nil] at whole
    exact whole
  | append_singleton more command ih =>
    rw [← List.append_assoc] at whole
    exact ih (wellFormed_concat.mp whole).1

end Concat

end Program

end ModularSynth
