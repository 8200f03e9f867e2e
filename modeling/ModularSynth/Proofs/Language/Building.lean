import ModularSynth.Device.Scripted
import ModularSynth.Language.Compile
import ModularSynth.Proofs.Language.Commands
import ModularSynth.Proofs.Language.Stock

/-!
# Building a patch from a well-formed program

A session succeeds on the well-formed programs and on no others, and what it builds can be read off
the program (`Program.run_eq_ok_iff`). `Program.Tracks` ties a session to the commands that it has
carried out; each kind of command preserves it, and the program is then taken command by command.
-/

namespace ModularSynth

variable {D : Type}

namespace Program

variable [Device D] {registry : Registry D} {settings : Settings}

/-! ### What a session has built -/

/-- A session has carried out a program, except that the output may not have been chosen yet. -/
structure Records (registry : Registry D) (settings : Settings) (program : Program)
    (s : Session D) : Prop where
  stocked : Stocked registry program s.patch s.bindings
  output_device : s.outputDevice =
    (texts outputDeviceParameter program).head?.bind fun name =>
      (indexOf? program name).map deviceAt
  output_port : s.outputPort = (texts outputPortParameter program).head?
  rate : s.patch.rate = (rates program).getLast?.getD settings.rate
  readCap : s.patch.readCap = max settings.readCap 1

/-- A session has carried out a program. -/
structure Tracks (registry : Registry D) (settings : Settings) (program : Program)
    (s : Session D) : Prop extends Records registry settings program s where
  output : s.patch.output = (outputEndpoint? program).bind (portOf? registry program .output)
  bound : s.outputBound = (outputEndpoint? program).isSome

theorem tracks_nil : Tracks registry settings [] { patch := .ofSettings settings } where
  stocked :=
    { wired := fun _ => Patch.wired_ofSettings settings
      chronological := fun _ _ => rfl
      devices_fit := Slots.fits_empty
      devices_free := rfl
      devices := .nil
      cables_free := rfl
      cables := .nil
      vacant_iff := fun _ => ⟨fun _ => List.not_mem_nil, fun _ => rfl⟩
      bindings_eq := rfl }
  output_device := rfl
  output_port := rfl
  rate := rfl
  readCap := rfl
  output := rfl
  bound := rfl

section Step

variable {program : Program} {s : Session D}

/-! ### Choosing the output -/

theorem Records.texts_device_eq_nil_iff (records : Records registry settings program s)
    (well_formed : WellFormed registry program) :
    texts outputDeviceParameter program = [] ↔ s.outputDevice = none := by
  rw [records.output_device]
  cases given : texts outputDeviceParameter program with
  | nil => simp
  | cons name rest =>
    have known : name ∈ created program := by
      apply mem_created_of_mem_texts well_formed.in_scope
      rw [given]
      exact List.mem_cons_self
    have found : indexOf? program name ≠ none := fun missing =>
      indexOf?_eq_none_iff.mp missing known
    simpa using found

theorem Records.texts_port_eq_nil_iff (records : Records registry settings program s) :
    texts outputPortParameter program = [] ↔ s.outputPort = none := by
  rw [records.output_port, List.head?_eq_none_iff]

/-- The output is chosen, or nothing has been tried. -/
def Pending (registry : Registry D) (program : Program) (s : Session D) : Prop :=
  (s.outputBound = false ∧ s.patch.output = none) ∨
    (s.outputBound = true ∧ ∃ endpoint address, outputEndpoint? program = some endpoint ∧
      portOf? registry program .output endpoint = some address ∧ s.patch.output = some address)

theorem Records.half_missing (records : Records registry settings program s)
    (unchosen : outputEndpoint? program = none) : s.outputDevice = none ∨ s.outputPort = none := by
  unfold outputEndpoint? at unchosen
  rw [records.output_device, records.output_port]
  cases given : (texts outputDeviceParameter program).head? with
  | none => exact Or.inl rfl
  | some name =>
    rw [given, Option.bind_some, Option.map_eq_none_iff] at unchosen
    exact Or.inr unchosen

/-- A session knows both halves of an output that the program gives, and finds the port that they
mean. -/
theorem Records.exists_halves (records : Records registry settings program s) {endpoint : Endpoint}
    (chosen : outputEndpoint? program = some endpoint) (known : endpoint.device ∈ created program) :
    ∃ id, s.outputDevice = some id ∧ s.outputPort = some endpoint.port ∧
      ∀ address, s.patch.resolvePort id endpoint.port .output = .ok address ↔
        portOf? registry program .output endpoint = some address := by
  unfold outputEndpoint? at chosen
  obtain ⟨name, device, rest⟩ := Option.bind_eq_some_iff.mp chosen
  obtain ⟨port, given, rfl⟩ := Option.map_eq_some_iff.mp rest
  have bound_name : s.bindings.lookup name ≠ none := by
    rw [records.stocked.lookup, Ne, Option.map_eq_none_iff, indexOf?_eq_none_iff, not_not]
    exact known
  obtain ⟨id, found⟩ := Option.ne_none_iff_exists'.mp bound_name
  have device_half := records.output_device
  rw [device, Option.bind_some, ← records.stocked.lookup, found] at device_half
  exact ⟨id, device_half, records.output_port.trans given, fun address =>
    records.stocked.resolvePort_eq_ok_iff ⟨name, port⟩ found⟩

/-- Choosing the output succeeds when the output that the program gives exists, and nothing is left
to do then. -/
def Binds (registry : Registry D) (settings : Settings) (program : Program) (s : Session D) :
    Prop :=
  (s.bindOutput.1 = .ok () ↔ ∀ endpoint, outputEndpoint? program = some endpoint →
      (portOf? registry program .output endpoint).isSome) ∧
    (s.bindOutput.1 = .ok () → Tracks registry settings program s.bindOutput.2)

/-- A session that cannot choose or has chosen is left as it is. -/
theorem Tracks.binds_of_idle (tracks : Tracks registry settings program s)
    (idle : s.outputBound = true ∨ s.outputDevice = none ∨ s.outputPort = none)
    (output_exists : ∀ endpoint, outputEndpoint? program = some endpoint →
      (portOf? registry program .output endpoint).isSome) :
    Binds registry settings program s := by
  unfold Binds
  rw [Session.bindOutput_of_idle idle]
  exact ⟨⟨fun _ => output_exists, fun _ => rfl⟩, fun _ => tracks⟩

theorem Records.binds_of_unchosen (records : Records registry settings program s)
    (unbound : s.outputBound = false) (no_output : s.patch.output = none)
    (unchosen : outputEndpoint? program = none) : Binds registry settings program s := by
  have tracks : Tracks registry settings program s :=
    { records with
      output := by rw [no_output, unchosen]; rfl
      bound := by rw [unbound, unchosen]; rfl }
  refine tracks.binds_of_idle (Or.inr (records.half_missing unchosen)) ?_
  intro endpoint chosen
  rw [unchosen] at chosen
  cases chosen

theorem Records.binds_of_bound (records : Records registry settings program s)
    (bound : s.outputBound = true) {endpoint : Endpoint} {address : PortAddress}
    (chosen : outputEndpoint? program = some endpoint)
    (port : portOf? registry program .output endpoint = some address)
    (output : s.patch.output = some address) : Binds registry settings program s := by
  have tracks : Tracks registry settings program s :=
    { records with
      output := by rw [output, chosen, Option.bind_some, port]
      bound := by rw [bound, chosen]; rfl }
  refine tracks.binds_of_idle (Or.inl bound) ?_
  intro other same
  rw [chosen] at same
  cases same
  rw [port]
  rfl

/-- The port is looked up once both halves are known. -/
theorem Records.binds_of_chosen (records : Records registry settings program s)
    (unbound : s.outputBound = false) {endpoint : Endpoint}
    (chosen : outputEndpoint? program = some endpoint) (known : endpoint.device ∈ created program) :
    Binds registry settings program s := by
  obtain ⟨id, device_half, port_half, resolves⟩ := records.exists_halves chosen known
  unfold Binds
  rw [chosen]
  cases resolved : s.patch.resolvePort id endpoint.port .output with
  | error fault =>
    rw [Session.bindOutput_of_no_port unbound device_half port_half resolved]
    refine ⟨⟨nofun, ?_⟩, nofun⟩
    intro every
    obtain ⟨address, present⟩ := Option.isSome_iff_exists.mp (every endpoint rfl)
    have accepted := (resolves address).mpr present
    rw [resolved] at accepted
    cases accepted
  | ok address =>
    have present := (resolves address).mp resolved
    rw [Session.bindOutput_of_port unbound device_half port_half resolved]
    refine ⟨⟨?_, fun _ => rfl⟩, ?_⟩
    · rintro _ _ ⟨rfl⟩
      rw [present]
      rfl
    · intro _
      exact
        { stocked := records.stocked.withOutput (Patch.resolvePort_hasPort resolved)
          output_device := records.output_device
          output_port := records.output_port
          rate := records.rate
          readCap := records.readCap
          output := by rw [chosen, Option.bind_some, present]
          bound := by rw [chosen]; rfl }

/-- Once both halves of the output are known, it is chosen if the device has the port. -/
theorem Records.binds (records : Records registry settings program s)
    (known : ∀ endpoint, outputEndpoint? program = some endpoint →
      endpoint.device ∈ created program)
    (pending : Pending registry program s) : Binds registry settings program s := by
  rcases pending with ⟨unbound, no_output⟩ | ⟨bound, endpoint, address, chosen, port, output⟩
  · cases chosen : outputEndpoint? program with
    | none => exact records.binds_of_unchosen unbound no_output chosen
    | some endpoint => exact records.binds_of_chosen unbound chosen (known endpoint chosen)
  · exact records.binds_of_bound bound chosen port output

/-! ### One command -/

/-- The session takes a command exactly when it fits in with those before it, and then keeps track
of the longer program. -/
def Follows (registry : Registry D) (settings : Settings) (program : Program) (s : Session D)
    (command : Command) : Prop :=
  ((s.perform registry command).1 = .ok () ↔
      InScope registry program command ∧ Compatible registry program command) ∧
    ((s.perform registry command).1 = .ok () →
      Tracks registry settings (program ++ [command]) (s.perform registry command).2)

theorem follows_of_failure {command : Command} {fault : SessionFault} {after : Session D}
    (failed : s.perform registry command = (.error fault, after))
    (misfit : InScope registry program command → ¬ Compatible registry program command) :
    Follows registry settings program s command := by
  unfold Follows
  rw [failed]
  constructor
  · constructor
    · intro impossible
      cases impossible
    · intro accepted
      obtain ⟨in_scope, compatible⟩ := accepted
      exact absurd compatible (misfit in_scope)
  · intro impossible
    cases impossible

theorem follows_of_success {command : Command} {after : Session D}
    (carried : s.perform registry command = (.ok (), after))
    (in_scope : InScope registry program command)
    (compatible : Compatible registry program command)
    (tracks : Tracks registry settings (program ++ [command]) after) :
    Follows registry settings program s command := by
  unfold Follows
  rw [carried]
  exact ⟨⟨fun _ => ⟨in_scope, compatible⟩, fun _ => rfl⟩, fun _ => tracks⟩

theorem Tracks.withDevice (tracks : Tracks registry settings program s)
    (well_formed : WellFormed registry program) (room : (creations program).length < UInt32.size)
    {name typeName : String} {arguments : Arguments} {device : D}
    (built : (⟨name, typeName, arguments⟩ : Creation).build? registry = some device) :
    Tracks registry settings (program ++ [.create name typeName arguments])
      { s with
        patch := (s.patch.addDevice device).2
        bindings := s.bindings ++ [(name, (s.patch.addDevice device).1)] } := by
  have texts_eq : ∀ parameter,
      texts parameter (program ++ [.create name typeName arguments]) = texts parameter program :=
    fun parameter => texts_concat_of_none program rfl
  have endpoint_eq : outputEndpoint? (program ++ [.create name typeName arguments]) =
      outputEndpoint? program :=
    outputEndpoint?_concat_of_none program fun parameter => rfl
  exact
    { stocked := tracks.stocked.create built well_formed.in_scope room
      output_device := by
        rw [texts_eq]
        refine tracks.output_device.trans ?_
        cases given : (texts outputDeviceParameter program).head? with
        | none => rfl
        | some device =>
          have known := mem_created_of_mem_texts well_formed.in_scope (List.mem_of_head? given)
          rw [Option.bind_some, Option.bind_some, indexOf?_append known]
      output_port := by
        rw [texts_eq]
        exact tracks.output_port
      rate := by
        rw [rates_concat_of_none program rfl]
        exact tracks.rate
      readCap := tracks.readCap
      output := by
        rw [endpoint_eq]
        refine tracks.output.trans ?_
        cases chosen : outputEndpoint? program with
        | none => rfl
        | some endpoint =>
          have known := mem_created_of_outputEndpoint? well_formed.in_scope chosen
          rw [Option.bind_some, Option.bind_some, portOf?_append known]
      bound := by
        rw [endpoint_eq]
        exact tracks.bound }

theorem Tracks.follows_create (tracks : Tracks registry settings program s)
    (well_formed : WellFormed registry program) (room : (creations program).length < UInt32.size)
    (name typeName : String) (arguments : Arguments) :
    Follows registry settings program s (.create name typeName arguments) := by
  have new_iff : s.lookup? name = none ↔ name ∉ created program := by
    unfold Session.lookup?
    rw [tracks.stocked.lookup, Option.map_eq_none_iff, indexOf?_eq_none_iff]
  cases performed : s.create registry name typeName arguments with
  | error fault =>
    apply follows_of_failure (Session.perform_create_of_error performed)
    intro built new
    obtain ⟨device, built⟩ := Option.isSome_iff_exists.mp built
    have accepted := Session.create_eq_ok_iff.mpr
      ⟨new_iff.mpr new, device, Creation.build?_eq_some_iff.mp built, rfl⟩
    rw [performed] at accepted
    cases accepted
  | ok after =>
    obtain ⟨new, device, instantiated, rfl⟩ := Session.create_eq_ok_iff.mp performed
    have built : (⟨name, typeName, arguments⟩ : Creation).build? registry = some device :=
      Creation.build?_eq_some_iff.mpr instantiated
    exact follows_of_success (Session.perform_create_of_ok performed)
      (Option.isSome_iff_exists.mpr ⟨device, built⟩) (new_iff.mp new)
      (tracks.withDevice well_formed room built)

/-- A connection between ports that exist is made if nothing ends at its input. -/
theorem Tracks.exists_connect (tracks : Tracks registry settings program s)
    {source destination : Endpoint} (known : InScope registry program (.connect source destination))
    (unfed : Compatible registry program (.connect source destination)) :
    ∃ after, s.connect source destination = .ok after := by
  have stocked := tracks.stocked
  obtain ⟨begins, ends⟩ := known
  obtain ⟨output, begins⟩ := Option.isSome_iff_exists.mp begins
  obtain ⟨input, ends⟩ := Option.isSome_iff_exists.mp ends
  obtain ⟨sourceId, source_known, begins⟩ := stocked.exists_resolvePort begins
  obtain ⟨destinationId, destination_known, ends'⟩ := stocked.exists_resolvePort ends
  have vacant : s.patch.inputCable? input = none := by
    rw [stocked.vacant_iff, ← ends]
    exact unfed
  have connected := Patch.connect_eq_ok_iff.mpr
    ⟨(Patch.checkAddress_eq_ok_iff_hasPort stocked.fitted).mpr (Patch.resolvePort_hasPort begins),
      (Patch.checkAddress_eq_ok_iff_hasPort stocked.fitted).mpr (Patch.resolvePort_hasPort ends'),
      vacant, rfl, rfl⟩
  have plugged := Patch.plug_eq_ok_iff.mpr ⟨output, input, begins, ends', connected⟩
  exact ⟨_, Session.connect_eq_ok_iff.mpr
    ⟨sourceId, destinationId, _, _, source_known, destination_known, plugged, rfl⟩⟩

theorem Tracks.withCable (tracks : Tracks registry settings program s)
    {source destination : Endpoint} {output input : PortAddress}
    (begins : portOf? registry program .output source = some output)
    (ends : portOf? registry program .input destination = some input)
    (output_port : s.patch.HasPort .output output) (input_port : s.patch.HasPort .input input)
    (vacant : s.patch.inputCable? input = none) :
    Tracks registry settings (program ++ [.connect source destination])
      { s with patch := s.patch.withCable output input } := by
  have texts_eq : ∀ parameter,
      texts parameter (program ++ [.connect source destination]) = texts parameter program :=
    fun parameter => texts_concat_of_none program rfl
  have endpoint_eq : outputEndpoint? (program ++ [.connect source destination]) =
      outputEndpoint? program :=
    outputEndpoint?_concat_of_none program fun parameter => rfl
  have ports : portOf? registry (program ++ [.connect source destination]) =
      portOf? registry program :=
    portOf?_concat_of_none program rfl
  have names : indexOf? (program ++ [.connect source destination]) = indexOf? program :=
    indexOf?_concat_of_none program rfl
  exact
    { stocked := tracks.stocked.connect begins ends output_port input_port vacant
      output_device := by
        rw [texts_eq, names]
        exact tracks.output_device
      output_port := by
        rw [texts_eq]
        exact tracks.output_port
      rate := by
        rw [rates_concat_of_none program rfl]
        exact tracks.rate
      readCap := tracks.readCap
      output := by
        rw [endpoint_eq, ports]
        exact tracks.output
      bound := by
        rw [endpoint_eq]
        exact tracks.bound }

theorem Tracks.follows_connect (tracks : Tracks registry settings program s)
    (source destination : Endpoint) :
    Follows registry settings program s (.connect source destination) := by
  have stocked := tracks.stocked
  cases performed : s.connect source destination with
  | error fault =>
    apply follows_of_failure (Session.perform_connect_of_error performed)
    intro known unfed
    obtain ⟨after, accepted⟩ := tracks.exists_connect known unfed
    rw [performed] at accepted
    cases accepted
  | ok after =>
    obtain ⟨sourceId, destinationId, id, patch, source_known, destination_known, plugged, rfl⟩ :=
      Session.connect_eq_ok_iff.mp performed
    obtain ⟨output, input, begins, ends, connected⟩ := Patch.plug_eq_ok_iff.mp plugged
    have output_port := Patch.resolvePort_hasPort begins
    have input_port := Patch.resolvePort_hasPort ends
    rw [stocked.resolvePort_eq_ok_iff source source_known] at begins
    rw [stocked.resolvePort_eq_ok_iff destination destination_known] at ends
    obtain ⟨-, -, vacant, rfl, rfl⟩ := Patch.connect_eq_ok_iff.mp connected
    have unfed := (stocked.vacant_iff input).mp vacant
    rw [← ends] at unfed
    exact follows_of_success (Session.perform_connect_of_ok performed)
      ⟨Option.isSome_iff_exists.mpr ⟨output, begins⟩, Option.isSome_iff_exists.mpr ⟨input, ends⟩⟩
      unfed (tracks.withCable begins ends output_port input_port vacant)

/-- What is left of a parameter command once its value has been recorded is to choose the output. -/
theorem follows_of_recorded {name : String} {value : Value} {after : Session D}
    (recorded : s.setParameter name value = .ok after)
    (well_formed : WellFormed registry program)
    (in_scope : InScope registry program (.parameter name value))
    (device_once : (texts outputDeviceParameter (program ++ [.parameter name value])).length ≤ 1)
    (port_once : (texts outputPortParameter (program ++ [.parameter name value])).length ≤ 1)
    (records : Records registry settings (program ++ [.parameter name value]) after)
    (pending : Pending registry (program ++ [.parameter name value]) after) :
    Follows registry settings program s (.parameter name value) := by
  have scope := forall_split_concat_iff.mpr ⟨well_formed.in_scope, in_scope⟩
  have binds := records.binds (fun _ => mem_created_of_outputEndpoint? scope) pending
  unfold Binds at binds
  rw [portOf?_concat_of_none program rfl] at binds
  unfold Follows
  rw [Session.perform_parameter_of_ok recorded]
  refine ⟨?_, binds.2⟩
  rw [binds.1]
  constructor
  · intro exists_output
    exact ⟨in_scope, device_once, port_once, exists_output⟩
  · intro accepted
    obtain ⟨-, -, -, exists_output⟩ := accepted
    exact exists_output

section Parameters

variable (tracks : Tracks registry settings program s) (well_formed : WellFormed registry program)

include tracks

/-- As long as a half of the output is missing, nothing has been chosen. -/
theorem Tracks.unchosen (missing : outputEndpoint? program = none) :
    s.outputBound = false ∧ s.patch.output = none := by
  have bound := tracks.bound
  have output := tracks.output
  rw [missing] at bound output
  exact ⟨bound, output⟩

include well_formed

theorem Tracks.follows_rate (n : Int64) (inside : 0 < n.toInt ∧ n.toInt < UInt32.size) :
    Follows registry settings program s (.parameter rateParameter (.integer n)) := by
  have texts_eq : ∀ parameter,
      texts parameter (program ++ [.parameter rateParameter (.integer n)]) =
        texts parameter program :=
    fun parameter => texts_concat_of_none program rfl
  have endpoint_eq : outputEndpoint? (program ++ [.parameter rateParameter (.integer n)]) =
      outputEndpoint? program :=
    outputEndpoint?_concat_of_none program fun parameter => rfl
  have names : indexOf? (program ++ [.parameter rateParameter (.integer n)]) =
      indexOf? program :=
    indexOf?_concat_of_none program rfl
  refine follows_of_recorded (Session.setParameter_eq_ok_iff.mpr (Or.inl ⟨rfl, n, rfl, inside, rfl⟩))
    well_formed (Or.inl ⟨rfl, n, rfl, inside⟩) ?_ ?_ ?_ ?_
  · rw [texts_eq]
    exact well_formed.output_device_once
  · rw [texts_eq]
    exact well_formed.output_port_once
  · exact
      { stocked := (tracks.stocked.parameter _ _).setRate _
        output_device := by
          rw [texts_eq, names]
          exact tracks.output_device
        output_port := by
          rw [texts_eq]
          exact tracks.output_port
        rate := by
          rw [rates_concat]
          simp [Command.rate?, Patch.setRate]
        readCap := tracks.readCap }
  · unfold Pending
    rw [endpoint_eq, portOf?_concat_of_none program rfl]
    cases chosen : outputEndpoint? program with
    | none => exact Or.inl (tracks.unchosen chosen)
    | some endpoint =>
      obtain ⟨address, port⟩ :=
        Option.isSome_iff_exists.mp (well_formed.output_exists endpoint chosen)
      have bound := tracks.bound
      have output := tracks.output
      rw [chosen] at bound output
      exact Or.inr ⟨bound, endpoint, address, rfl, port, output.trans port⟩

theorem Tracks.follows_output_device (device : String) (id : DeviceId)
    (found : s.lookup? device = some id) (unset : s.outputDevice = none) :
    Follows registry settings program s (.parameter outputDeviceParameter (.text device)) := by
  have port_ne_device : outputPortParameter ≠ outputDeviceParameter := by decide
  have none_given := (tracks.texts_device_eq_nil_iff well_formed).mpr unset
  have given : texts outputDeviceParameter
      (program ++ [.parameter outputDeviceParameter (.text device)]) = [device] := by
    rw [texts_concat, none_given]
    simp [Command.text?]
  have texts_eq : texts outputPortParameter
      (program ++ [.parameter outputDeviceParameter (.text device)]) =
        texts outputPortParameter program := by
    apply texts_concat_of_none
    simp [Command.text?, port_ne_device.symm]
  have names : indexOf? (program ++ [.parameter outputDeviceParameter (.text device)]) =
      indexOf? program :=
    indexOf?_concat_of_none program rfl
  have place : (indexOf? program device).map deviceAt = some id :=
    (tracks.stocked.lookup device).symm.trans found
  have known : device ∈ created program := by
    obtain ⟨index, present, -⟩ := Option.map_eq_some_iff.mp place
    exact mem_created_of_indexOf? present
  refine follows_of_recorded
    (Session.setParameter_eq_ok_iff.mpr (Or.inr (Or.inl ⟨rfl, unset, device, id, rfl, found, rfl⟩)))
    well_formed (Or.inr (Or.inl ⟨rfl, device, rfl, known⟩)) ?_ ?_ ?_ ?_
  · rw [given]
    exact Nat.le_refl 1
  · rw [texts_eq]
    exact well_formed.output_port_once
  · exact
      { stocked := tracks.stocked.parameter _ _
        output_device := by
          rw [given, names]
          exact place.symm
        output_port := by
          rw [texts_eq]
          exact tracks.output_port
        rate := by
          rw [rates_concat_of_none program rfl]
          exact tracks.rate
        readCap := tracks.readCap }
  · apply Or.inl
    apply tracks.unchosen
    unfold outputEndpoint?
    rw [none_given]
    rfl

theorem Tracks.follows_output_port (port : String) (unset : s.outputPort = none) :
    Follows registry settings program s (.parameter outputPortParameter (.text port)) := by
  have port_ne_device : outputPortParameter ≠ outputDeviceParameter := by decide
  have none_given := tracks.texts_port_eq_nil_iff.mpr unset
  have given : texts outputPortParameter
      (program ++ [.parameter outputPortParameter (.text port)]) = [port] := by
    rw [texts_concat, none_given]
    simp [Command.text?]
  have texts_eq : texts outputDeviceParameter
      (program ++ [.parameter outputPortParameter (.text port)]) =
        texts outputDeviceParameter program := by
    apply texts_concat_of_none
    simp [Command.text?, port_ne_device]
  have names : indexOf? (program ++ [.parameter outputPortParameter (.text port)]) =
      indexOf? program :=
    indexOf?_concat_of_none program rfl
  refine follows_of_recorded
    (Session.setParameter_eq_ok_iff.mpr (Or.inr (Or.inr ⟨rfl, unset, port, rfl, rfl⟩)))
    well_formed (Or.inr (Or.inr ⟨rfl, port, rfl⟩)) ?_ ?_ ?_ ?_
  · rw [texts_eq]
    exact well_formed.output_device_once
  · rw [given]
    exact Nat.le_refl 1
  · exact
      { stocked := tracks.stocked.parameter _ _
        output_device := by
          rw [texts_eq, names]
          exact tracks.output_device
        output_port := by
          rw [given]
          rfl
        rate := by
          rw [rates_concat_of_none program rfl]
          exact tracks.rate
        readCap := tracks.readCap }
  · apply Or.inl
    apply tracks.unchosen
    unfold outputEndpoint?
    rw [none_given]
    cases (texts outputDeviceParameter program).head? with
    | none => rfl
    | some device => rfl

theorem Tracks.follows_parameter (name : String) (value : Value) :
    Follows registry settings program s (.parameter name value) := by
  cases performed : s.setParameter name value with
  | error fault =>
    apply follows_of_failure (Session.perform_parameter_of_error performed)
    have refused : ∀ after, s.setParameter name value ≠ .ok after := by
      intro after accepted
      rw [performed] at accepted
      cases accepted
    rintro (⟨rfl, n, rfl, inside⟩ | ⟨rfl, device, rfl, known⟩ | ⟨rfl, port, rfl⟩)
      ⟨device_once, port_once, -⟩
    · exact refused _ (Session.setParameter_eq_ok_iff.mpr (Or.inl ⟨rfl, n, rfl, inside, rfl⟩))
    · have unset : texts outputDeviceParameter program = [] := by
        rw [texts_concat, List.length_append] at device_once
        simpa [Command.text?] using device_once
      obtain ⟨id, found⟩ : ∃ id, s.lookup? device = some id := by
        apply Option.ne_none_iff_exists'.mp
        unfold Session.lookup?
        rw [tracks.stocked.lookup, Ne, Option.map_eq_none_iff, indexOf?_eq_none_iff, not_not]
        exact known
      exact refused _ (Session.setParameter_eq_ok_iff.mpr (Or.inr (Or.inl
        ⟨rfl, (tracks.texts_device_eq_nil_iff well_formed).mp unset, device, id, rfl, found, rfl⟩)))
    · have unset : texts outputPortParameter program = [] := by
        rw [texts_concat, List.length_append] at port_once
        simpa [Command.text?] using port_once
      exact refused _ (Session.setParameter_eq_ok_iff.mpr (Or.inr (Or.inr
        ⟨rfl, tracks.texts_port_eq_nil_iff.mp unset, port, rfl, rfl⟩)))
  | ok after =>
    rcases Session.setParameter_eq_ok_iff.mp performed with ⟨rfl, n, rfl, inside, -⟩ |
      ⟨rfl, unset, device, id, rfl, found, -⟩ | ⟨rfl, unset, port, rfl, -⟩
    · exact tracks.follows_rate well_formed n inside
    · exact tracks.follows_output_device well_formed device id found unset
    · exact tracks.follows_output_port well_formed port unset

end Parameters

theorem Tracks.follows (tracks : Tracks registry settings program s)
    (well_formed : WellFormed registry program) (command : Command)
    (devices_fit : (creations (program ++ [command])).length ≤ UInt32.size) :
    Follows registry settings program s command := by
  cases command with
  | parameter name value => exact tracks.follows_parameter well_formed name value
  | create name typeName arguments =>
    rw [creations_concat, List.length_append] at devices_fit
    exact tracks.follows_create well_formed devices_fit name typeName arguments
  | connect source destination => exact tracks.follows_connect source destination

/-! ### The whole program -/

/-- A session that has carried out a well-formed program carries out the rest exactly when the whole
is well formed. -/
theorem Tracks.run (statements : List Statement) (tracks : Tracks registry settings program s)
    (well_formed : WellFormed registry program)
    (devices_fit : (creations (program ++ statements.map (·.command))).length ≤ UInt32.size) :
    ((s.run registry (statements.map .ok)).1 = .ok () ↔
        WellFormed registry (program ++ statements.map (·.command))) ∧
      ((s.run registry (statements.map .ok)).1 = .ok () →
        Tracks registry settings (program ++ statements.map (·.command))
          (s.run registry (statements.map .ok)).2) := by
  induction statements generalizing program s with
  | nil =>
    rw [List.map_nil, List.map_nil, List.append_nil]
    exact ⟨⟨fun _ => well_formed, fun _ => rfl⟩, fun _ => tracks⟩
  | cons statement statements ih =>
    have split : program ++ (statement :: statements).map (·.command) =
        (program ++ [statement.command]) ++ statements.map (·.command) := by
      rw [List.map_cons, List.append_assoc, List.singleton_append]
    rw [split] at devices_fit ⊢
    have follows := tracks.follows well_formed statement.command
      (Nat.le_trans (length_creations_le _ _) devices_fit)
    unfold Follows at follows
    rw [List.map_cons, Session.run]
    unfold Session.execute
    cases performed : s.perform registry statement.command with
    | mk outcome after =>
      rw [performed] at follows
      cases outcome with
      | ok =>
        have fits := follows.1.mp rfl
        exact ih (follows.2 rfl) (wellFormed_concat.mpr ⟨well_formed, fits⟩) devices_fit
      | error fault =>
        constructor
        · constructor
          · intro impossible
            cases impossible
          · intro whole
            have fits := (wellFormed_concat.mp whole.of_append).2
            have accepted := follows.1.mpr fits
            cases accepted
        · intro impossible
          cases impossible

end Step

/-- What a program builds. -/
structure Describes (registry : Registry D) (settings : Settings) (program : Program)
    (s : Session D) : Prop where
  /-- There is one device for each create command, under the key of its place, -/
  device_ids : s.patch.deviceIds = (List.range (creations program).length).map deviceAt
  /-- which is what the factory returned, its ports holding their initial values. -/
  device : ∀ (index : Nat) creation, (creations program)[index]? = some creation →
    ∃ device, creation.build? registry = some device ∧
      s.patch.devices.get? (deviceAt index) = some (.fresh device)
  /-- Those are the values that the panel of the device declares. -/
  initial : ∀ (index : Nat) creation device, (creations program)[index]? = some creation →
    creation.build? registry = some device → ∀ direction (connector : Nat),
      s.patch.portValue? direction ⟨deviceAt index, connector⟩ =
        (((Device.panel device).ports direction)[connector]?).map (·.initial)
  /-- Each variable names the device that was created under it. -/
  variable_names : ∀ name, s.lookup? name = (indexOf? program name).map deviceAt
  /-- There is one cable for each connect command, under the key of its place, -/
  cable_ids : s.patch.cables.keys = (List.range (links program).length).map cableAt
  /-- between the ports that its endpoints mean. -/
  cable : ∀ (index : Nat) link, (links program)[index]? = some link →
    ∃ source destination, portOf? registry program .output link.source = some source ∧
      portOf? registry program .input link.destination = some destination ∧
      s.patch.cable? (cableAt index) = some ⟨source, destination⟩
  /-- The indices are those of these cables, connected in this order. -/
  coherent : s.patch.Coherent ((List.range (links program).length).map cableAt)
  /-- The output is the one that the parameters choose, -/
  output : s.patch.output = (outputEndpoint? program).bind (portOf? registry program .output)
  /-- the sampling rate the last one given, -/
  rate : s.patch.rate = (rates program).getLast?.getD settings.rate
  /-- and the read cap that of the settings. -/
  readCap : s.patch.readCap = max settings.readCap 1

theorem Tracks.describes {program : Program} {s : Session D}
    (tracks : Tracks registry settings program s)
    (cables_fit : (links program).length ≤ UInt32.size) :
    Describes registry settings program s where
  device_ids := by
    unfold Patch.deviceIds
    rw [tracks.stocked.devices.length_eq]
    apply Slots.keys_of_filled
    intro slot member
    obtain ⟨creation, -, device, -, rfl⟩ := exists_of_forall₂ tracks.stocked.devices member
    exact ⟨.fresh device, rfl⟩
  device := fun _ _ asked => tracks.stocked.get?_deviceAt asked
  initial := by
    intro index creation device asked built direction connector
    obtain ⟨device', built', live⟩ := tracks.stocked.get?_deviceAt asked
    rw [built] at built'
    cases built'
    rw [Patch.portValue?, live]
    exact Placed.getElem?_values_fresh device direction connector
  variable_names := tracks.stocked.lookup
  cable_ids := by
    rw [tracks.stocked.cables.length_eq]
    apply Slots.keys_of_filled
    intro slot member
    obtain ⟨link, -, source, destination, -, -, rfl⟩ :=
      exists_of_forall₂ tracks.stocked.cables member
    exact ⟨⟨source, destination⟩, rfl⟩
  cable := fun _ _ asked =>
    tracks.stocked.cable?_cableAt (tracks.stocked.cables_fit cables_fit) asked
  coherent := by
    have fits := tracks.stocked.cables_fit cables_fit
    exact (tracks.stocked.wired fits).coherent (tracks.stocked.chronological fits)
  output := tracks.output
  rate := tracks.rate
  readCap := tracks.readCap

/-- A session over an empty patch carries out a program exactly when the program is well formed, and
then builds what it describes. -/
theorem run_eq_ok_iff (registry : Registry D) (settings : Settings) (statements : List Statement)
    (devices_fit : (creations (statements.map (·.command))).length ≤ UInt32.size)
    (cables_fit : (links (statements.map (·.command))).length ≤ UInt32.size) :
    ((({ patch := .ofSettings settings } : Session D).run registry (statements.map .ok)).1 =
        .ok () ↔ WellFormed registry (statements.map (·.command))) ∧
      (WellFormed registry (statements.map (·.command)) →
        Describes registry settings (statements.map (·.command))
          (({ patch := .ofSettings settings } : Session D).run registry
            (statements.map .ok)).2) := by
  have start : Tracks registry settings [] { patch := .ofSettings settings } := tracks_nil
  have whole := start.run statements wellFormed_nil devices_fit
  exact ⟨whole.1, fun well_formed => (whole.2 (whole.1.mpr well_formed)).describes cables_fit⟩

/-- One type of device, which takes no arguments. -/
def echoes : Registry Scripted :=
  Registry.empty.register "Echo" "" (Factory.withoutArguments Patch.echo)

/-- Two devices in a ring; the second is listened to. -/
def ring : List Statement :=
  [⟨.parameter "OUTPUT_PORT" (.text "out"), ⟨1, 1⟩⟩,
    ⟨.create "a" "Echo" .empty, ⟨2, 1⟩⟩,
    ⟨.create "b" "Echo" .empty, ⟨3, 1⟩⟩,
    ⟨.connect ⟨"a", "out"⟩ ⟨"b", "in"⟩, ⟨4, 1⟩⟩,
    ⟨.connect ⟨"b", "out"⟩ ⟨"a", "in"⟩, ⟨5, 1⟩⟩,
    ⟨.parameter "OUTPUT_COMPONENT" (.text "b"), ⟨6, 1⟩⟩,
    ⟨.parameter "SAMPLING_FREQ" (.integer 44100), ⟨7, 1⟩⟩]

theorem ring_built :
    (creations (ring.map (·.command))).length ≤ UInt32.size ∧
      (links (ring.map (·.command))).length ≤ UInt32.size ∧
        WellFormed echoes (ring.map (·.command)) ∧
          Describes echoes {} (ring.map (·.command))
            (({ patch := .ofSettings {} } : Session Scripted).run echoes (ring.map .ok)).2 := by
  have devices_fit : (creations (ring.map (·.command))).length ≤ UInt32.size := by decide
  have cables_fit : (links (ring.map (·.command))).length ≤ UInt32.size := by decide
  have spec := run_eq_ok_iff echoes {} ring devices_fit cables_fit
  have carried : (({ patch := .ofSettings {} } : Session Scripted).run echoes
      (ring.map .ok)).1 = .ok () := by rfl
  have well_formed := spec.1.mp carried
  exact ⟨devices_fit, cables_fit, well_formed, spec.2 well_formed⟩

end Program

end ModularSynth
