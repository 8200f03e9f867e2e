import ModularSynth.Proofs.Language.Building
import ModularSynth.Proofs.Patch.Wiring

/-!
# Statements that fail

A statement that fails leaves the patch and the variables as they were. It may leave a trace in one
place: the two parameters that choose the output are recorded before the choice is made, so if the
port turns out to be missing the half that came second stays recorded. This goes no further because
the choice is marked as made exactly when both halves are recorded (`Session.Paired`): no statement
makes it again, and one that sets the sampling rate finds nothing left to do.
`Session.Effect` lists what one command can do under this invariant.
-/

namespace ModularSynth

variable {D : Type}

namespace Session

/-- The choice of the output was made, with or without success, exactly when both its halves are
known. -/
def Paired (s : Session D) : Prop :=
  s.outputBound = true ↔ s.outputDevice.isSome ∧ s.outputPort.isSome

/-- The command gives the second of the two halves, which are then `id` and `port`. The session
`bound` has this half recorded and the choice marked as made. -/
inductive Completes (s : Session D) : (command : Command) → (id : DeviceId) → (port : String) →
    (bound : Session D) → Prop
  | device {name : String} {id : DeviceId} {port : String} (missing : s.outputDevice = none)
      (given : s.outputPort = some port) (known : s.lookup? name = some id) :
      Completes s (.parameter outputDeviceParameter (.text name)) id port
        { s with outputDevice := some id, outputBound := true }
  | port {id : DeviceId} {port : String} (given : s.outputDevice = some id)
      (missing : s.outputPort = none) :
      Completes s (.parameter outputPortParameter (.text port)) id port
        { s with outputPort := some port, outputBound := true }

section Halves

variable {s : Session D}

/-- Without the one half or the other no choice was made. -/
theorem Paired.unbound (paired : s.Paired) (half : s.outputDevice = none ∨ s.outputPort = none) :
    s.outputBound = false := by
  rw [Bool.eq_false_iff]
  intro bound
  obtain ⟨device, port⟩ := paired.mp bound
  rcases half with missing | missing
  · rw [missing] at device
    cases device
  · rw [missing] at port
    cases port

/-- Whatever is recorded, there is no choice left to be made. -/
theorem Paired.idle (paired : s.Paired) :
    s.outputBound = true ∨ s.outputDevice = none ∨ s.outputPort = none := by
  cases device : s.outputDevice with
  | none => exact Or.inr (Or.inl rfl)
  | some id =>
    cases port : s.outputPort with
    | none => exact Or.inr (Or.inr rfl)
    | some name => exact Or.inl (paired.mpr ⟨by rw [device]; rfl, by rw [port]; rfl⟩)

theorem Completes.paired {command : Command} {id : DeviceId} {port : String} {bound : Session D}
    (completes : s.Completes command id port bound) : bound.Paired := by
  cases completes with
  | device missing given known => simp [Paired, given]
  | port given missing => simp [Paired, given]

/-- The choice was open before the second half came. -/
theorem Completes.unbound (paired : s.Paired) {command : Command} {id : DeviceId} {port : String}
    {bound : Session D} (completes : s.Completes command id port bound) :
    s.outputBound = false := by
  cases completes with
  | device missing given known => exact paired.unbound (Or.inl missing)
  | port given missing => exact paired.unbound (Or.inr missing)

/-- The sampling rate is no half of the output. -/
theorem Completes.name_ne_rate {name : String} {value : Value} {id : DeviceId} {port : String}
    {bound : Session D} (completes : s.Completes (.parameter name value) id port bound) :
    name ≠ rateParameter := by
  generalize asked : Command.parameter name value = command at completes
  cases completes with
  | device missing given known =>
    cases asked
    decide
  | port given missing =>
    cases asked
    decide

/-- The second half changes neither the patch nor the variables. -/
theorem Completes.patch_eq {command : Command} {id : DeviceId} {port : String}
    {bound : Session D} (completes : s.Completes command id port bound) :
    bound.patch = s.patch ∧ bound.bindings = s.bindings := by
  cases completes with
  | device missing given known => exact ⟨rfl, rfl⟩
  | port given missing => exact ⟨rfl, rfl⟩

end Halves

variable [Device D]

/-- A command, its outcome and the session after it. -/
inductive Effect (registry : Registry D) (s : Session D) :
    Command → Except SessionFault Unit → Session D → Prop
  | refused (command : Command) (fault : SessionFault) : Effect registry s command (.error fault) s
  | rated (n : Int64) (inside : 0 < n.toInt ∧ n.toInt < UInt32.size) :
      Effect registry s (.parameter rateParameter (.integer n)) (.ok ())
        { s with patch := s.patch.setRate (UInt32.ofNat n.toInt.toNat) }
  | half_device (name : String) (id : DeviceId) (missing : s.outputDevice = none)
      (alone : s.outputPort = none) (known : s.lookup? name = some id) :
      Effect registry s (.parameter outputDeviceParameter (.text name)) (.ok ())
        { s with outputDevice := some id }
  | half_port (port : String) (missing : s.outputPort = none) (alone : s.outputDevice = none) :
      Effect registry s (.parameter outputPortParameter (.text port)) (.ok ())
        { s with outputPort := some port }
  | chosen (command : Command) (id : DeviceId) (port : String) (bound : Session D)
      (address : PortAddress) (completes : s.Completes command id port bound)
      (resolved : s.patch.resolvePort id port .output = .ok address) :
      Effect registry s command (.ok ())
        { bound with patch := { s.patch with output := some address } }
  | missed (command : Command) (id : DeviceId) (port : String) (bound : Session D)
      (error : PatchError) (completes : s.Completes command id port bound)
      (unresolved : s.patch.resolvePort id port .output = .error error) :
      Effect registry s command (.error (.patch error)) bound
  | created (name typeName : String) (arguments : Arguments) (device : D)
      (new : s.lookup? name = none)
      (built : registry.instantiate typeName arguments = .ok device) :
      Effect registry s (.create name typeName arguments) (.ok ())
        { s with
          patch := (s.patch.addDevice device).2
          bindings := s.bindings ++ [(name, (s.patch.addDevice device).1)] }
  | connected (source destination : Endpoint) (sourceId destinationId : DeviceId) (id : CableId)
      (patch : Patch D) (begins : s.lookup? source.device = some sourceId)
      (ends : s.lookup? destination.device = some destinationId)
      (plugged : s.patch.plug sourceId source.port destinationId destination.port =
        .ok (id, patch)) :
      Effect registry s (.connect source destination) (.ok ()) { s with patch }

section Effect

variable {registry : Registry D} {s : Session D}

/-- With one half recorded the choice stays open for want of the other, or it is made. -/
theorem effect_bindOutput {command : Command} {half : Session D}
    (unbound : half.outputBound = false) (same : half.patch = s.patch)
    (alone : half.outputDevice = none ∨ half.outputPort = none →
      Effect registry s command (.ok ()) half)
    (second : ∀ id port, half.outputDevice = some id → half.outputPort = some port →
      s.Completes command id port { half with outputBound := true }) :
    Effect registry s command half.bindOutput.1 half.bindOutput.2 := by
  cases device : half.outputDevice with
  | none =>
    rw [bindOutput_of_idle (Or.inr (Or.inl device))]
    exact alone (Or.inl device)
  | some id =>
    cases given : half.outputPort with
    | none =>
      rw [bindOutput_of_idle (Or.inr (Or.inr given))]
      exact alone (Or.inr given)
    | some port =>
      have completes := second id port device given
      cases resolved : half.patch.resolvePort id port .output with
      | error error =>
        rw [bindOutput_of_no_port unbound device given resolved]
        rw [same] at resolved
        exact .missed command id port _ error completes resolved
      | ok address =>
        rw [bindOutput_of_port unbound device given resolved]
        rw [same] at resolved ⊢
        exact .chosen command id port _ address completes resolved

theorem effect_outputDevice (paired : s.Paired) {name : String} {id : DeviceId}
    (missing : s.outputDevice = none) (known : s.lookup? name = some id) {half : Session D}
    (recorded : half = { s with outputDevice := some id }) :
    Effect registry s (.parameter outputDeviceParameter (.text name)) half.bindOutput.1
      half.bindOutput.2 := by
  subst recorded
  refine effect_bindOutput (paired.unbound (Or.inl missing)) rfl ?alone ?second
  case alone =>
    intro open_half
    have no_port := open_half.resolve_left (by simp)
    exact .half_device name id missing no_port known
  case second =>
    intro id port device given
    cases device
    exact .device missing given known

theorem effect_outputPort (paired : s.Paired) {port : String} (missing : s.outputPort = none)
    {half : Session D} (recorded : half = { s with outputPort := some port }) :
    Effect registry s (.parameter outputPortParameter (.text port)) half.bindOutput.1
      half.bindOutput.2 := by
  subst recorded
  refine effect_bindOutput (paired.unbound (Or.inr missing)) rfl ?alone ?second
  case alone =>
    intro open_half
    have no_device := open_half.resolve_right (by simp)
    exact .half_port port missing no_device
  case second =>
    intro id port device given
    cases given
    exact .port device missing

/-- A command does one of the things that are listed. -/
theorem Paired.effect (paired : s.Paired) (registry : Registry D) (command : Command) :
    Effect registry s command (s.perform registry command).1 (s.perform registry command).2 := by
  cases command with
  | parameter name value =>
    cases recorded : s.setParameter name value with
    | error fault =>
      rw [perform_parameter_of_error recorded]
      exact .refused _ fault
    | ok after =>
      rw [perform_parameter_of_ok recorded]
      rcases setParameter_eq_ok_iff.mp recorded with ⟨rfl, n, rfl, inside, rated⟩ |
        ⟨rfl, missing, device, id, rfl, known, half⟩ | ⟨rfl, missing, port, rfl, half⟩
      · have idle : after.outputBound = true ∨ after.outputDevice = none ∨
            after.outputPort = none := by
          rw [rated]
          exact paired.idle
        rw [bindOutput_of_idle idle, rated]
        exact .rated n inside
      · exact effect_outputDevice paired missing known half
      · exact effect_outputPort paired missing half
  | create name typeName arguments =>
    cases created : s.create registry name typeName arguments with
    | error fault =>
      rw [perform_create_of_error created]
      exact .refused _ fault
    | ok after =>
      rw [perform_create_of_ok created]
      obtain ⟨new, device, built, rfl⟩ := create_eq_ok_iff.mp created
      exact .created name typeName arguments device new built
  | connect source destination =>
    cases connected : s.connect source destination with
    | error fault =>
      rw [perform_connect_of_error connected]
      exact .refused _ fault
    | ok after =>
      rw [perform_connect_of_ok connected]
      obtain ⟨sourceId, destinationId, id, patch, begins, ends, plugged, rfl⟩ :=
        connect_eq_ok_iff.mp connected
      exact .connected source destination sourceId destinationId id patch begins ends plugged

/-- Every command keeps the choice and its halves in step. -/
theorem Effect.paired {command : Command} {outcome : Except SessionFault Unit} {after : Session D}
    (effect : Effect registry s command outcome after) (paired : s.Paired) : after.Paired := by
  cases effect with
  | refused command fault => exact paired
  | rated n inside => exact paired
  | half_device name id missing alone known =>
    have unbound := paired.unbound (Or.inl missing)
    simp [Paired, unbound, alone]
  | half_port port missing alone =>
    have unbound := paired.unbound (Or.inl alone)
    simp [Paired, unbound, alone]
  | chosen command id port bound address completes resolved => exact completes.paired
  | missed command id port bound error completes unresolved => exact completes.paired
  | created name typeName arguments device new built => exact paired
  | connected source destination sourceId destinationId id patch begins ends plugged =>
    exact paired

end Effect

/-! ### Sessions that go on after errors -/

/-- Carries out statements in order, going on after those that fail. -/
def runResuming (registry : Registry D) (s : Session D) (statements : List Statement) :
    Session D :=
  statements.foldl (fun s statement => (s.execute registry statement).2) s

/-- A session that some statements make out of a patch that operations made, failing statements
included. -/
def Reached (registry : Registry D) (s : Session D) : Prop :=
  ∃ (p : Patch D) (statements : List Statement), p.Reachable ∧
    s = runResuming registry { patch := p } statements

variable {registry : Registry D} {s : Session D}

theorem Paired.runResuming (paired : s.Paired) (statements : List Statement) :
    (s.runResuming registry statements).Paired := by
  induction statements generalizing s with
  | nil => exact paired
  | cons statement statements ih =>
    have effect := paired.effect registry statement.command
    exact ih (effect.paired paired)

theorem paired_of_reached (reached : Reached registry s) : s.Paired := by
  obtain ⟨p, statements, -, rfl⟩ := reached
  have start : ({ patch := p } : Session D).Paired := by simp [Paired]
  exact start.runResuming statements

/-- What a statement leaves behind when it fails. -/
structure Atomic (registry : Registry D) (s : Session D) (statement : Statement) : Prop where
  /-- The patch stays as it is: devices, cables, output, rate, and the keys to be given out. -/
  patch_kept : ∀ error after, s.execute registry statement = (.error error, after) →
    after.patch = s.patch
  /-- So do the variables, -/
  bindings_kept : ∀ error after, s.execute registry statement = (.error error, after) →
    after.bindings = s.bindings
  /-- and so does all the rest, unless the statement gives the second half of the output and there
  is no such port. This half is then recorded, and the choice is marked as made. -/
  recorded : ∀ error after, s.execute registry statement = (.error error, after) →
    after = s ∨ ∃ id port failure, s.outputBound = false ∧
      s.Completes statement.command id port after ∧
      s.patch.resolvePort id port .output = .error failure ∧ error.fault = .patch failure
  /-- Once both halves are recorded the choice is marked as made, -/
  bound : s.outputDevice.isSome → s.outputPort.isSome → s.outputBound = true
  /-- so a statement about the sampling rate sets it and succeeds, or fails and does nothing. -/
  rate : ∀ value, statement.command = .parameter rateParameter value →
    (∃ error, s.execute registry statement = (.error error, s)) ∨
      ∃ hertz, s.execute registry statement = (.ok (), { s with patch := s.patch.setRate hertz })

/-- A statement does what its command does. -/
theorem Paired.effect_of_execute (paired : s.Paired) {statement : Statement}
    {outcome : Except SessionError Unit} {after : Session D}
    (carried : s.execute registry statement = (outcome, after)) :
    ∃ result, Effect registry s statement.command result after ∧
      outcome = result.mapError (⟨·, statement.position⟩) := by
  have effect := paired.effect registry statement.command
  unfold execute at carried
  cases carried
  exact ⟨_, effect, rfl⟩

/-- A statement that fails does nothing, or it misses the output with its second half. -/
theorem Paired.execute_error (paired : s.Paired) {statement : Statement} {error : SessionError}
    {after : Session D} (failed : s.execute registry statement = (.error error, after)) :
    after = s ∨ ∃ id port failure, s.Completes statement.command id port after ∧
      s.patch.resolvePort id port .output = .error failure ∧ error.fault = .patch failure := by
  obtain ⟨result, effect, outcome⟩ := paired.effect_of_execute failed
  generalize statement.command = command at effect ⊢
  cases effect with
  | refused command fault => exact Or.inl rfl
  | missed command id port bound failure completes unresolved =>
    cases outcome
    exact Or.inr ⟨id, port, failure, completes, unresolved, rfl⟩
  | _ => cases outcome

/-- A statement about the sampling rate sets it, or does nothing. -/
theorem Effect.of_rate {value : Value} {outcome : Except SessionFault Unit} {after : Session D}
    (effect : Effect registry s (.parameter rateParameter value) outcome after) :
    (∃ fault, outcome = .error fault ∧ after = s) ∨
      ∃ hertz, outcome = .ok () ∧ after = { s with patch := s.patch.setRate hertz } := by
  have device_ne_rate : outputDeviceParameter ≠ rateParameter := by decide
  have port_ne_rate : outputPortParameter ≠ rateParameter := by decide
  generalize asked : Command.parameter rateParameter value = command at effect
  cases effect with
  | refused command fault => exact Or.inl ⟨fault, rfl, rfl⟩
  | rated n inside => exact Or.inr ⟨_, rfl, rfl⟩
  | half_device name id missing alone known =>
    exact absurd (Command.parameter.inj asked).1.symm device_ne_rate
  | half_port port missing alone => exact absurd (Command.parameter.inj asked).1.symm port_ne_rate
  | chosen command id port bound address completes resolved =>
    rw [← asked] at completes
    exact absurd rfl completes.name_ne_rate
  | missed command id port bound error completes unresolved =>
    rw [← asked] at completes
    exact absurd rfl completes.name_ne_rate
  | created name typeName arguments device new built => cases asked
  | connected source destination sourceId destinationId id patch begins ends plugged =>
    cases asked

theorem Paired.execute_rate (paired : s.Paired) {statement : Statement} {value : Value}
    (asked : statement.command = .parameter rateParameter value) :
    (∃ error, s.execute registry statement = (.error error, s)) ∨
      ∃ hertz, s.execute registry statement =
        (.ok (), { s with patch := s.patch.setRate hertz }) := by
  obtain ⟨result, effect, outcome⟩ :=
    paired.effect_of_execute (s.execute registry statement).eta.symm
  rw [asked] at effect
  rcases effect.of_rate with ⟨fault, rfl, same⟩ | ⟨hertz, rfl, same⟩
  · exact Or.inl ⟨_, Prod.ext outcome same⟩
  · exact Or.inr ⟨hertz, Prod.ext outcome same⟩

/-- In every session that statements lead to, however many of them failed, a statement that fails
leaves nothing behind but, at most, its half of an output that is not there. -/
theorem atomic_of_reached (reached : Reached registry s) (statement : Statement) :
    s.Atomic registry statement := by
  have paired := paired_of_reached reached
  refine ⟨?_, ?_, ?_, ?_, ?_⟩
  · intro error after failed
    rcases paired.execute_error failed with rfl | ⟨id, port, failure, completes, -⟩
    · rfl
    · exact completes.patch_eq.1
  · intro error after failed
    rcases paired.execute_error failed with rfl | ⟨id, port, failure, completes, -⟩
    · rfl
    · exact completes.patch_eq.2
  · intro error after failed
    rcases paired.execute_error failed with same | ⟨id, port, failure, completes, rest⟩
    · exact Or.inl same
    · exact Or.inr ⟨id, port, failure, completes.unbound paired, completes, rest⟩
  · intro device port
    exact paired.mpr ⟨device, port⟩
  · intro value asked
    exact paired.execute_rate asked

/-- A variable is declared twice, and the output is to be a port that no device has. -/
def misnaming : List Statement :=
  [⟨.parameter "OUTPUT_PORT" (.text "missing"), ⟨1, 1⟩⟩,
    ⟨.create "a" "Echo" .empty, ⟨2, 1⟩⟩,
    ⟨.create "a" "Echo" .empty, ⟨3, 1⟩⟩]

/-- The session that `misnaming` leads to over a patch that was edited and run before. -/
def misnamed : Session Scripted :=
  runResuming Program.echoes { patch := ((Patch.ofSettings {}).run Patch.rewiring).2 } misnaming

theorem misnamed_atomic :
    misnamed.Reached Program.echoes ∧
      (misnamed.execute Program.echoes ⟨.parameter "OUTPUT_COMPONENT" (.text "a"), ⟨4, 1⟩⟩).1 =
        .error ⟨.patch (.unknownPort ⟨2, 3⟩ .output "missing"), ⟨4, 1⟩⟩ ∧
      misnamed.Atomic Program.echoes ⟨.parameter "OUTPUT_COMPONENT" (.text "a"), ⟨4, 1⟩⟩ := by
  have reached : misnamed.Reached Program.echoes :=
    ⟨((Patch.ofSettings {}).run Patch.rewiring).2, misnaming, ⟨{}, Patch.rewiring, rfl⟩, rfl⟩
  exact ⟨reached, by decide, atomic_of_reached reached _⟩

end Session

end ModularSynth
