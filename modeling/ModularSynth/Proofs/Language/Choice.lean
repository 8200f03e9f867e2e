import ModularSynth.Proofs.Device.OrderedMap
import ModularSynth.Proofs.Language.Atomicity
import ModularSynth.Proofs.Patch.Cascade

/-!
# One choice of the output, one variable a device

Over all the statements of a session, those that fail included, the output is chosen once at most:
by the statement that gives the second of its two halves. The halves are the first ones offered
(`Session.firstOffer`), and no half is taken again. The reason is `Session.Paired`: with both halves
known the choice counts as made, and then no command completes it (`Paired.not_completes`).

Devices come from declarations only, and each brings a variable with it. So the keys that a patch
lists are those that it listed at first and those of the variables (`Session.Tallied`). This needs
no bound on the number of devices; that keys tell devices apart does.
-/

namespace ModularSynth

variable {D : Type}

namespace Session

/-! ### The halves of the output -/

/-- The device that a command offers for the output: that of a variable that there is. -/
def offeredDevice? (s : Session D) : Command → Option DeviceId
  | .parameter name (.text text) => if name = outputDeviceParameter then s.lookup? text else none
  | _ => none

/-- The name of a port that a command offers for the output. -/
def offeredPort? (_ : Session D) : Command → Option String
  | .parameter name (.text text) => if name = outputPortParameter then some text else none
  | _ => none

theorem offeredDevice?_eq_some_iff {s : Session D} {command : Command} {id : DeviceId} :
    s.offeredDevice? command = some id ↔
      ∃ text, command = .parameter outputDeviceParameter (.text text) ∧
        s.lookup? text = some id := by
  unfold offeredDevice?
  split
  next name text =>
    by_cases same : name = outputDeviceParameter
    · simp [same]
    · simp [same]
  next other =>
    constructor
    · intro impossible
      cases impossible
    · intro offers
      obtain ⟨text, rfl, -⟩ := offers
      exact absurd rfl (other _ _)

theorem offeredPort?_eq_some_iff {s : Session D} {command : Command} {port : String} :
    s.offeredPort? command = some port ↔
      command = .parameter outputPortParameter (.text port) := by
  unfold offeredPort?
  split
  next name text =>
    by_cases same : name = outputPortParameter
    · simp [same]
    · simp [same]
  next other =>
    constructor
    · intro impossible
      cases impossible
    · rintro rfl
      exact absurd rfl (other _ _)

variable [Device D]

theorem bindOutput_halves (s : Session D) :
    s.bindOutput.2.outputDevice = s.outputDevice ∧ s.bindOutput.2.outputPort = s.outputPort := by
  unfold bindOutput
  split
  next =>
    split
    · exact ⟨rfl, rfl⟩
    · exact ⟨rfl, rfl⟩
  next => exact ⟨rfl, rfl⟩

section Offers

variable {registry : Registry D} {s : Session D}

/-- What is on record, or else what a command offers. -/
def Recorded (s : Session D) (command : Command) (after : Session D) : Prop :=
  after.outputDevice = s.outputDevice.or (s.offeredDevice? command) ∧
    after.outputPort = s.outputPort.or (s.offeredPort? command)

omit [Device D] in
theorem recorded_of_no_offer {command : Command} {after : Session D}
    (device : s.offeredDevice? command = none) (port : s.offeredPort? command = none)
    (same : after.outputDevice = s.outputDevice ∧ after.outputPort = s.outputPort) :
    s.Recorded command after := by
  unfold Recorded
  rw [device, port, Option.or_none, Option.or_none]
  exact same

omit [Device D] in
theorem recorded_of_setParameter {name : String} {value : Value} {after : Session D}
    (taken : s.setParameter name value = .ok after) :
    s.Recorded (.parameter name value) after := by
  have port_ne_device : outputPortParameter ≠ outputDeviceParameter := by decide
  rcases setParameter_eq_ok_iff.mp taken with ⟨rfl, n, rfl, -, rfl⟩ |
    ⟨rfl, missing, text, id, rfl, known, rfl⟩ | ⟨rfl, missing, port, rfl, rfl⟩
  · exact recorded_of_no_offer rfl rfl ⟨rfl, rfl⟩
  · simp [Recorded, offeredDevice?, offeredPort?, missing, known, port_ne_device.symm]
  · simp [Recorded, offeredDevice?, offeredPort?, missing, port_ne_device]

omit [Device D] in
/-- A parameter that is not taken offers no half that is missing. -/
theorem recorded_of_refused {name : String} {value : Value} {fault : SessionFault}
    (refused : s.setParameter name value = .error fault) :
    s.Recorded (.parameter name value) s := by
  constructor
  · cases given : s.outputDevice with
    | some id => rfl
    | none =>
      rw [Option.none_or, eq_comm, Option.eq_none_iff_forall_ne_some]
      intro id offers
      obtain ⟨text, asked, known⟩ := offeredDevice?_eq_some_iff.mp offers
      cases asked
      have taken := setParameter_eq_ok_iff.mpr
        (Or.inr (Or.inl ⟨rfl, given, text, id, rfl, known, rfl⟩))
      rw [refused] at taken
      cases taken
  · cases given : s.outputPort with
    | some port => rfl
    | none =>
      rw [Option.none_or, eq_comm, Option.eq_none_iff_forall_ne_some]
      intro port offers
      cases offeredPort?_eq_some_iff.mp offers
      have taken := setParameter_eq_ok_iff.mpr (Or.inr (Or.inr ⟨rfl, given, port, rfl, rfl⟩))
      rw [refused] at taken
      cases taken

/-- A command records the half that it offers, unless one is on record. -/
theorem recorded_perform (registry : Registry D) (s : Session D) (command : Command) :
    s.Recorded command (s.perform registry command).2 := by
  cases command with
  | parameter name value =>
    cases taken : s.setParameter name value with
    | error fault =>
      rw [perform_parameter_of_error taken]
      exact recorded_of_refused taken
    | ok after =>
      rw [perform_parameter_of_ok taken]
      obtain ⟨device, port⟩ := recorded_of_setParameter taken
      obtain ⟨same_device, same_port⟩ := bindOutput_halves after
      exact ⟨same_device.trans device, same_port.trans port⟩
  | create name typeName arguments =>
    apply recorded_of_no_offer rfl rfl
    cases created : s.create registry name typeName arguments with
    | error fault =>
      rw [perform_create_of_error created]
      exact ⟨rfl, rfl⟩
    | ok after =>
      rw [perform_create_of_ok created]
      obtain ⟨-, device, -, rfl⟩ := create_eq_ok_iff.mp created
      exact ⟨rfl, rfl⟩
  | connect source destination =>
    apply recorded_of_no_offer rfl rfl
    cases connected : s.connect source destination with
    | error fault =>
      rw [perform_connect_of_error connected]
      exact ⟨rfl, rfl⟩
    | ok after =>
      rw [perform_connect_of_ok connected]
      obtain ⟨_, _, _, patch, -, -, -, rfl⟩ := connect_eq_ok_iff.mp connected
      exact ⟨rfl, rfl⟩

end Offers

/-- What is offered first while statements are carried out, those that fail included. -/
def firstOffer {α : Type} (offer? : Session D → Command → Option α) (registry : Registry D)
    (s : Session D) : List Statement → Option α
  | [] => none
  | statement :: rest =>
    (offer? s statement.command).or
      (firstOffer offer? registry (s.execute registry statement).2 rest)

/-- If every command records what it offers first, so do statements. -/
theorem half_runResuming {α : Type} {half : Session D → Option α}
    {offer? : Session D → Command → Option α} {registry : Registry D}
    (recorded : ∀ s command, half (s.perform registry command).2 = (half s).or (offer? s command))
    (s : Session D) (statements : List Statement) :
    half (s.runResuming registry statements) =
      (half s).or (firstOffer offer? registry s statements) := by
  induction statements generalizing s with
  | nil => rw [firstOffer, Option.or_none]; rfl
  | cons statement statements ih =>
    have here : half (s.execute registry statement).2 =
        (half s).or (offer? s statement.command) := recorded s statement.command
    rw [firstOffer, ← Option.or_assoc, ← here]
    exact ih _

/-! ### The choice -/

section Choice

variable {registry : Registry D} {s : Session D} {command : Command} {id : DeviceId}
  {port : String} {bound : Session D}

/-- A command that gives the second half records it and makes the choice. -/
theorem Completes.perform_eq (completes : s.Completes command id port bound)
    (registry : Registry D) :
    ∃ half : Session D, s.perform registry command = half.bindOutput ∧
      half.outputDevice = some id ∧ half.outputPort = some port ∧
      half.outputBound = s.outputBound ∧ half.patch = s.patch ∧
      bound = { half with outputBound := true } := by
  cases completes with
  | device missing given known =>
    have taken := setParameter_eq_ok_iff.mpr
      (Or.inr (Or.inl ⟨rfl, missing, _, _, rfl, known, rfl⟩))
    exact ⟨_, perform_parameter_of_ok taken, rfl, given, rfl, rfl, rfl⟩
  | port given missing =>
    have taken := setParameter_eq_ok_iff.mpr (Or.inr (Or.inr ⟨rfl, missing, port, rfl, rfl⟩))
    exact ⟨_, perform_parameter_of_ok taken, given, rfl, rfl, rfl, rfl⟩

theorem Completes.perform_of_port (completes : s.Completes command id port bound)
    (paired : s.Paired) {address : PortAddress}
    (resolved : s.patch.resolvePort id port .output = .ok address) :
    s.perform registry command =
      (.ok (), { bound with patch := { s.patch with output := some address } }) := by
  have unbound := completes.unbound paired
  obtain ⟨half, performed, device, given, mark, same, rfl⟩ := completes.perform_eq registry
  rw [performed, bindOutput_of_port (mark.trans unbound) device given (same ▸ resolved), same]

theorem Completes.perform_of_no_port (completes : s.Completes command id port bound)
    (paired : s.Paired) {error : PatchError}
    (unresolved : s.patch.resolvePort id port .output = .error error) :
    s.perform registry command = (.error (.patch error), bound) := by
  have unbound := completes.unbound paired
  obtain ⟨half, performed, device, given, mark, same, rfl⟩ := completes.perform_eq registry
  rw [performed, bindOutput_of_no_port (mark.trans unbound) device given (same ▸ unresolved)]

omit [Device D] in
/-- With both halves known no command gives the second. -/
theorem Paired.not_completes (paired : s.Paired)
    (known : s.outputDevice.isSome ∧ s.outputPort.isSome) :
    ¬ s.Completes command id port bound := by
  intro completes
  have unbound := completes.unbound paired
  rw [paired.mpr known] at unbound
  cases unbound

theorem Completes.known_after (completes : s.Completes command id port bound) :
    (s.perform registry command).2.outputDevice.isSome ∧
      (s.perform registry command).2.outputPort.isSome := by
  obtain ⟨half, performed, device, given, -⟩ := completes.perform_eq registry
  obtain ⟨same_device, same_port⟩ := bindOutput_halves half
  rw [performed, same_device, same_port, device, given]
  exact ⟨rfl, rfl⟩

/-- Connecting changes neither the devices nor the output. -/
theorem devices_plug {p after : Patch D} {source destination : DeviceId}
    {sourcePort destinationPort : String} {cable : CableId}
    (plugged : p.plug source sourcePort destination destinationPort = .ok (cable, after)) :
    after.devices = p.devices ∧ after.output = p.output := by
  obtain ⟨output, input, -, -, connected⟩ := Patch.plug_eq_ok_iff.mp plugged
  obtain ⟨-, -, -, -, rfl⟩ := Patch.connect_eq_ok_iff.mp connected
  exact ⟨rfl, rfl⟩

/-- A command that does not give the second half leaves the output. -/
theorem Effect.output_eq {outcome : Except SessionFault Unit} {after : Session D}
    (effect : Effect registry s command outcome after)
    (alone : ∀ id port bound, ¬ s.Completes command id port bound) :
    after.patch.output = s.patch.output := by
  cases effect with
  | chosen command id port bound address completes resolved =>
    exact absurd completes (alone id port bound)
  | missed command id port bound error completes unresolved =>
    exact absurd completes (alone id port _)
  | connected source destination sourceId destinationId cable patch begins ends plugged =>
    exact (devices_plug plugged).2
  | _ => rfl

end Choice

/-! ### The variables -/

/-- Names are given once, and each brings the key of a device of its own to those that the patch
had. -/
structure Tallied (p : Patch D) (s : Session D) : Prop where
  paired : s.Paired
  consistent : s.patch.devices.Consistent
  names : (s.bindings.map (·.1)).Nodup
  keys : s.patch.devices.keys.Perm (p.devices.keys ++ s.bindings.map (·.2))

section Tallied

variable {registry : Registry D} {p : Patch D} {s : Session D}

omit [Device D] in
theorem tallied_start (consistent : p.devices.Consistent) : Tallied p { patch := p } where
  paired := by simp [Paired]
  consistent
  names := List.nodup_nil
  keys := by simp

omit [Device D] in
/-- The devices and the variables matter, nothing else does. -/
theorem Tallied.of_eq (tallied : Tallied p s) {after : Session D} (paired : after.Paired)
    (devices : after.patch.devices = s.patch.devices) (bindings : after.bindings = s.bindings) :
    Tallied p after where
  paired
  consistent := devices ▸ tallied.consistent
  names := bindings ▸ tallied.names
  keys := by
    rw [devices, bindings]
    exact tallied.keys

omit [Device D] in
theorem notMem_names_of_lookup? {name : String} (new : s.lookup? name = none) :
    name ∉ s.bindings.map (·.1) := by
  intro member
  obtain ⟨binding, belongs, rfl⟩ := List.mem_map.mp member
  have other := List.lookup_eq_none_iff.mp new binding belongs
  simp at other

theorem Tallied.create (tallied : Tallied p s) {name : String} (new : s.lookup? name = none)
    (device : D) :
    Tallied p { s with
      patch := (s.patch.addDevice device).2
      bindings := s.bindings ++ [(name, (s.patch.addDevice device).1)] } where
  paired := tallied.paired
  consistent := tallied.consistent.insert _
  names := by
    rw [List.map_append, List.map_singleton, ← List.concat_eq_append, List.nodup_concat]
    exact ⟨notMem_names_of_lookup? new, tallied.names⟩
  keys := by
    have added := (tallied.consistent.perm_entries_insert (.fresh device)).map Prod.fst
    rw [List.map_append, List.map_singleton, ← List.append_assoc]
    exact added.trans ((tallied.keys.cons _).trans (List.perm_append_singleton _ _).symm)

theorem Tallied.effect (tallied : Tallied p s) {command : Command}
    {outcome : Except SessionFault Unit} {after : Session D}
    (effect : Effect registry s command outcome after) : Tallied p after := by
  have paired := effect.paired tallied.paired
  cases effect with
  | chosen command id port bound address completes resolved =>
    exact tallied.of_eq paired rfl completes.patch_eq.2
  | missed command id port bound error completes unresolved =>
    exact tallied.of_eq paired (congrArg Patch.devices completes.patch_eq.1) completes.patch_eq.2
  | created name typeName arguments device new built => exact tallied.create new device
  | connected source destination sourceId destinationId cable patch begins ends plugged =>
    exact tallied.of_eq paired (devices_plug plugged).1 rfl
  | _ => exact tallied.of_eq paired rfl rfl

theorem Tallied.runResuming (tallied : Tallied p s) (statements : List Statement) :
    Tallied p (s.runResuming registry statements) := by
  induction statements generalizing s with
  | nil => exact tallied
  | cons statement statements ih =>
    exact ih (tallied.effect (tallied.paired.effect registry statement.command))

/-- Variables are added at the end. -/
theorem Effect.bindings_prefix {command : Command} {outcome : Except SessionFault Unit}
    {after : Session D} (effect : Effect registry s command outcome after) :
    s.bindings <+: after.bindings := by
  cases effect with
  | chosen command id port bound address completes resolved =>
    exact completes.patch_eq.2 ▸ List.prefix_rfl
  | missed command id port bound error completes unresolved =>
    exact completes.patch_eq.2 ▸ List.prefix_rfl
  | created name typeName arguments device new built => exact List.prefix_append _ _
  | _ => exact List.prefix_rfl

theorem Tallied.lookup?_runResuming (tallied : Tallied p s) {name : String} {id : DeviceId}
    (bound : s.lookup? name = some id) (statements : List Statement) :
    (s.runResuming registry statements).lookup? name = some id := by
  induction statements generalizing s with
  | nil => exact bound
  | cons statement statements ih =>
    have effect := tallied.paired.effect registry statement.command
    obtain ⟨more, longer⟩ := effect.bindings_prefix
    apply ih (tallied.effect effect)
    unfold lookup? at bound ⊢
    rw [← longer, List.lookup_append, bound]
    rfl

end Tallied

/-! ### After any statements -/

/-- What the next statement can do to the output. -/
structure Chooses (registry : Registry D) (s : Session D) : Prop where
  /-- Once a half is on record it is not taken again, whatever its value. -/
  device_again : s.outputDevice.isSome → ∀ value position,
    s.execute registry ⟨.parameter outputDeviceParameter value, position⟩ =
      (.error ⟨.parameterAlreadySet outputDeviceParameter, position⟩, s)
  port_again : s.outputPort.isSome → ∀ value position,
    s.execute registry ⟨.parameter outputPortParameter value, position⟩ =
      (.error ⟨.parameterAlreadySet outputPortParameter, position⟩, s)
  /-- The statement that gives the second half, be it the device or the port, puts the output on
  the port of this name of this device, -/
  chosen : ∀ next id port bound address, s.Completes next.command id port bound →
    s.patch.resolvePort id port .output = .ok address →
      s.execute registry next =
        (.ok (), { bound with patch := { s.patch with output := some address } })
  /-- or fails and leaves the output if there is none. -/
  missed : ∀ next id port bound error, s.Completes next.command id port bound →
    s.patch.resolvePort id port .output = .error error →
      s.execute registry next = (.error ⟨.patch error, next.position⟩, bound) ∧
        bound.patch.output = s.patch.output
  /-- No other statement touches the output. -/
  others : ∀ next : Statement, (∀ id port bound, ¬ s.Completes next.command id port bound) →
    (s.execute registry next).2.patch.output = s.patch.output

theorem Paired.chooses {registry : Registry D} {s : Session D} (paired : s.Paired) :
    s.Chooses registry := by
  refine ⟨?_, ?_, ?_, ?_, ?_⟩
  · intro given value position
    have device_ne_rate : outputDeviceParameter ≠ rateParameter := by decide
    have refused : s.setParameter outputDeviceParameter value =
        .error (.parameterAlreadySet outputDeviceParameter) := by
      unfold setParameter
      rw [if_neg device_ne_rate, if_pos rfl, if_pos given]
      rfl
    unfold execute
    rw [perform_parameter_of_error refused]
    rfl
  · intro given value position
    have port_ne_rate : outputPortParameter ≠ rateParameter := by decide
    have port_ne_device : outputPortParameter ≠ outputDeviceParameter := by decide
    have refused : s.setParameter outputPortParameter value =
        .error (.parameterAlreadySet outputPortParameter) := by
      unfold setParameter
      rw [if_neg port_ne_rate, if_neg port_ne_device, if_pos rfl, if_pos given]
      rfl
    unfold execute
    rw [perform_parameter_of_error refused]
    rfl
  · intro next id port bound address completes resolved
    unfold execute
    rw [completes.perform_of_port paired resolved]
    rfl
  · intro next id port bound error completes unresolved
    refine ⟨?_, congrArg Patch.output completes.patch_eq.1⟩
    unfold execute
    rw [completes.perform_of_no_port paired unresolved]
    rfl
  · intro next alone
    exact (paired.effect registry next.command).output_eq alone

/-- The session after some statements over a patch, those that failed included. -/
def carriedOut (registry : Registry D) (p : Patch D) (statements : List Statement) : Session D :=
  runResuming registry { patch := p } statements

/-- What can be said of the output and the variables after some statements over a patch. -/
structure Settled (registry : Registry D) (p : Patch D) (done : List Statement) : Prop where
  /-- The halves on record are the first that were offered. -/
  device_half : (carriedOut registry p done).outputDevice =
    firstOffer offeredDevice? registry { patch := p } done
  port_half : (carriedOut registry p done).outputPort =
    firstOffer offeredPort? registry { patch := p } done
  /-- The next statement changes the output only with the second half, -/
  chooses : (carriedOut registry p done).Chooses registry
  /-- and not at all if the second half was given, be the port there or not, -/
  attempted : ∀ front statement later id port bound, done = front ++ statement :: later →
    (carriedOut registry p front).Completes statement.command id port bound →
      ∀ next, ((carriedOut registry p done).execute registry next).2.patch.output =
        (carriedOut registry p done).patch.output
  /-- so the output changes once at most. -/
  once : ∀ front statement later, done = front ++ statement :: later →
    (carriedOut registry p (front ++ [statement])).patch.output ≠
        (carriedOut registry p front).patch.output →
      ∀ next, ((carriedOut registry p done).execute registry next).2.patch.output =
        (carriedOut registry p done).patch.output
  /-- No two variables have one name, and none is bound a second time. -/
  names : ((carriedOut registry p done).bindings.map (·.1)).Nodup
  kept : ∀ name id, (carriedOut registry p done).lookup? name = some id →
    ∀ later, (carriedOut registry p (done ++ later)).lookup? name = some id
  /-- The keys of the patch are those that it had and one for each variable. -/
  keys : (carriedOut registry p done).patch.devices.keys.Perm
    (p.devices.keys ++ (carriedOut registry p done).bindings.map (·.2))
  /-- As long as slot numbers have not run out, different variables therefore name different
  devices, -/
  distinct : (carriedOut registry p done).patch.devices.Fits → ∀ name other id,
    (carriedOut registry p done).lookup? name = some id →
      (carriedOut registry p done).lookup? other = some id → name = other
  /-- which are in the patch, -/
  live : (carriedOut registry p done).patch.devices.Fits → ∀ name id,
    (carriedOut registry p done).lookup? name = some id →
      ∃ device, (carriedOut registry p done).patch.device? id = some device
  /-- and the devices that were not there at first have one variable each. -/
  added : (carriedOut registry p done).patch.devices.Fits →
    ∀ id ∈ (carriedOut registry p done).patch.devices.keys,
      id ∉ p.devices.keys ↔ ∃! name, (carriedOut registry p done).lookup? name = some id

section Settled

variable {registry : Registry D} {p : Patch D} {s : Session D}

theorem carriedOut_split (front : List Statement) (statement : Statement)
    (later : List Statement) :
    carriedOut registry p (front ++ statement :: later) =
      runResuming registry ((carriedOut registry p front).execute registry statement).2 later := by
  unfold carriedOut runResuming
  rw [List.foldl_append, List.foldl_cons]

/-- A half on record stays there. -/
theorem known_runResuming (known : s.outputDevice.isSome ∧ s.outputPort.isSome)
    (statements : List Statement) :
    (s.runResuming registry statements).outputDevice.isSome ∧
      (s.runResuming registry statements).outputPort.isSome := by
  rw [half_runResuming fun s command => (recorded_perform registry s command).1,
    half_runResuming fun s command => (recorded_perform registry s command).2,
    Option.isSome_or, Option.isSome_or, known.1, known.2]
  exact ⟨rfl, rfl⟩

omit [Device D] in
theorem mem_of_lookup? {name : String} {id : DeviceId} (bound : s.lookup? name = some id) :
    (name, id) ∈ s.bindings :=
  mem_of_lookup bound

omit [Device D] in
theorem Tallied.lookup?_of_mem (tallied : Tallied p s) {name : String} {id : DeviceId}
    (member : (name, id) ∈ s.bindings) : s.lookup? name = some id :=
  (lookup_eq_some_iff_mem tallied.names).mpr member

section Fits

variable (tallied : Tallied p s) (fits : s.patch.devices.Fits)
include tallied fits

omit [Device D] in
theorem Tallied.nodup_keys : (p.devices.keys ++ s.bindings.map (·.2)).Nodup :=
  tallied.keys.nodup_iff.mp (Slots.nodup_keys fits)

omit [Device D] in
theorem Tallied.name_eq {name other : String} {id : DeviceId} (bound : s.lookup? name = some id)
    (bound' : s.lookup? other = some id) : name = other := by
  have ids := (List.nodup_append.mp (tallied.nodup_keys fits)).2.1
  have same := List.inj_on_of_nodup_map ids (mem_of_lookup? bound) (mem_of_lookup? bound') rfl
  exact (Prod.mk.inj same).1

omit [Device D] in
theorem Tallied.exists_device {name : String} {id : DeviceId}
    (bound : s.lookup? name = some id) : ∃ device, s.patch.device? id = some device := by
  have listed : id ∈ s.patch.devices.keys :=
    tallied.keys.mem_iff.mpr
      (List.mem_append_right _ (List.mem_map_of_mem (mem_of_lookup? bound)))
  obtain ⟨placed, found⟩ := (Slots.mem_keys_iff fits).mp listed
  exact ⟨placed.device, Patch.device?_of_get? found⟩

omit [Device D] in
theorem Tallied.added_iff {id : DeviceId} (listed : id ∈ s.patch.devices.keys) :
    id ∉ p.devices.keys ↔ ∃! name, s.lookup? name = some id := by
  constructor
  · intro new
    rcases List.mem_append.mp (tallied.keys.mem_iff.mp listed) with old | bound
    · exact absurd old new
    · obtain ⟨⟨name, _⟩, member, rfl⟩ := List.mem_map.mp bound
      have found := tallied.lookup?_of_mem member
      exact ⟨name, found, fun other bound' => tallied.name_eq fits bound' found⟩
  · intro named old
    obtain ⟨name, bound, -⟩ := named
    exact (List.nodup_append.mp (tallied.nodup_keys fits)).2.2 id old id
      (List.mem_map_of_mem (mem_of_lookup? bound)) rfl

end Fits

/-- Over every patch that operations make out of an empty one, and after all statements, the output
changes once at most, and each device that was added has a variable of its own. -/
theorem settled_of_reachable (registry : Registry D) {p : Patch D} (reachable : p.Reachable)
    (done : List Statement) : Settled registry p done := by
  have start : Tallied p { patch := p } :=
    tallied_start (Patch.devices_consistent_of_reachable reachable)
  have tallied : ∀ statements, Tallied p (carriedOut registry p statements) :=
    fun statements => start.runResuming statements
  have attempted : ∀ front statement later id port bound, done = front ++ statement :: later →
      (carriedOut registry p front).Completes statement.command id port bound →
        ∀ next, ((carriedOut registry p done).execute registry next).2.patch.output =
          (carriedOut registry p done).patch.output := by
    intro front statement later id port bound split completes next
    -- Both halves are known from the attempt on, and then nothing completes the choice.
    have paired := (tallied done).paired
    refine paired.chooses.others next fun id port bound => paired.not_completes ?_
    rw [split, carriedOut_split]
    exact known_runResuming completes.known_after later
  refine
    { device_half := half_runResuming (fun s command => (recorded_perform registry s command).1) _ _
      port_half := half_runResuming (fun s command => (recorded_perform registry s command).2) _ _
      chooses := (tallied done).paired.chooses
      attempted
      once := ?_
      names := (tallied done).names
      kept := ?_
      keys := (tallied done).keys
      distinct := fun fits _ _ _ => (tallied done).name_eq fits
      live := fun fits _ _ => (tallied done).exists_device fits
      added := fun fits _ => (tallied done).added_iff fits }
  · intro front statement later split changed
    have gives : ∃ id port bound,
        (carriedOut registry p front).Completes statement.command id port bound := by
      by_contra alone
      simp only [not_exists] at alone
      apply changed
      rw [carriedOut_split]
      exact (tallied front).paired.chooses.others statement alone
    obtain ⟨id, port, bound, completes⟩ := gives
    exact attempted front statement later id port bound split completes
  · intro name id bound later
    have kept : (runResuming registry (carriedOut registry p done) later).lookup? name = some id :=
      (tallied done).lookup?_runResuming bound later
    unfold carriedOut runResuming at kept ⊢
    rwa [← List.foldl_append] at kept

end Settled

/-- The output is to be a port of a variable that is declared too late, and later one of another
variable. The port is given twice, and a name is declared twice. -/
def wavering : List Statement :=
  [⟨.parameter "OUTPUT_COMPONENT" (.text "a"), ⟨1, 1⟩⟩,
    ⟨.create "a" "Echo" .empty, ⟨2, 1⟩⟩,
    ⟨.create "a" "Echo" .empty, ⟨3, 1⟩⟩,
    ⟨.parameter "OUTPUT_PORT" (.text "out"), ⟨4, 1⟩⟩,
    ⟨.parameter "OUTPUT_PORT" (.integer 1), ⟨5, 1⟩⟩,
    ⟨.parameter "OUTPUT_COMPONENT" (.text "a"), ⟨6, 1⟩⟩,
    ⟨.create "b" "Echo" .empty, ⟨7, 1⟩⟩,
    ⟨.parameter "OUTPUT_COMPONENT" (.text "b"), ⟨8, 1⟩⟩]

/-- The session that `wavering` leads to over a patch that was edited and run before. -/
def wavered : Session Scripted :=
  carriedOut Program.echoes ((Patch.ofSettings {}).run Patch.rewiring).2 wavering

theorem wavered_settled :
    (((Patch.ofSettings {}).run Patch.rewiring).2 : Patch Scripted).Reachable ∧
      wavered.patch.devices.Fits ∧
      Settled Program.echoes ((Patch.ofSettings {}).run Patch.rewiring).2 wavering := by
  have reachable : (((Patch.ofSettings {}).run Patch.rewiring).2 : Patch Scripted).Reachable :=
    ⟨{}, Patch.rewiring, rfl⟩
  have fits : wavered.patch.devices.Fits := by
    unfold Slots.Fits
    decide
  exact ⟨reachable, fits, settled_of_reachable Program.echoes reachable wavering⟩

/-- The first device that was there when it was named is the output, and stays. -/
example : (wavered.bindings, wavered.patch.output) =
    ([("a", ⟨2, 3⟩), ("b", ⟨3, 1⟩)], some ⟨⟨2, 3⟩, 0⟩) := by
  decide

end Session

end ModularSynth
