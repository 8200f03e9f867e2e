import ModularSynth.Language.Session
import ModularSynth.Proofs.Patch.Wired

/-!
# When a command succeeds

For each command the conditions under which a session carries it out, and the session after it.
-/

namespace ModularSynth

variable {D : Type}

namespace Session

theorem expectRate_eq_ok_iff {name : String} {value : Value} {rate : UInt32} :
    expectRate name value = .ok rate ↔ ∃ n, value = .integer n ∧
      (0 < n.toInt ∧ n.toInt < UInt32.size) ∧ rate = UInt32.ofNat n.toInt.toNat := by
  cases value with
  | integer n =>
    simp only [expectRate, Value.integer.injEq, exists_eq_left']
    by_cases inside : 0 < n.toInt ∧ n.toInt < UInt32.size
    · rw [if_pos inside, Except.ok.injEq, and_iff_right inside]
      exact eq_comm
    · rw [if_neg inside]
      constructor
      · intro impossible
        cases impossible
      · intro accepted
        obtain ⟨within, -⟩ := accepted
        exact absurd within inside
  | _ => simp [expectRate]

/-- The parameters that a session takes, and what it records of each. -/
theorem setParameter_eq_ok_iff {s after : Session D} {name : String} {value : Value} :
    s.setParameter name value = .ok after ↔
      (name = rateParameter ∧ ∃ n, value = .integer n ∧ (0 < n.toInt ∧ n.toInt < UInt32.size) ∧
        after = { s with patch := s.patch.setRate (UInt32.ofNat n.toInt.toNat) }) ∨
      (name = outputDeviceParameter ∧ s.outputDevice = none ∧ ∃ device id, value = .text device ∧
        s.lookup? device = some id ∧ after = { s with outputDevice := some id }) ∨
      (name = outputPortParameter ∧ s.outputPort = none ∧ ∃ port, value = .text port ∧
        after = { s with outputPort := some port }) := by
  have device_ne_rate : outputDeviceParameter ≠ rateParameter := by decide
  have port_ne_rate : outputPortParameter ≠ rateParameter := by decide
  have port_ne_device : outputPortParameter ≠ outputDeviceParameter := by decide
  unfold setParameter
  by_cases rate : name = rateParameter
  · subst rate
    simp only [if_true, true_and, device_ne_rate.symm, port_ne_rate.symm, false_and, or_false]
    cases expected : expectRate rateParameter value with
    | error fault =>
      simp only [bind, Except.bind, reduceCtorEq, false_iff]
      intro rate
      obtain ⟨n, same, inside, -⟩ := rate
      have accepted : expectRate rateParameter value = .ok (UInt32.ofNat n.toInt.toNat) :=
        expectRate_eq_ok_iff.mpr ⟨n, same, inside, rfl⟩
      rw [expected] at accepted
      cases accepted
    | ok hertz =>
      obtain ⟨n, rfl, inside, rfl⟩ := expectRate_eq_ok_iff.mp expected
      simp only [bind, Except.bind, pure, Except.pure, Except.ok.injEq, Value.integer.injEq,
        exists_eq_left', inside, true_and, and_self]
      exact eq_comm
  · rw [if_neg rate]
    by_cases device : name = outputDeviceParameter
    · subst device
      simp only [if_true, rate, false_and, false_or, true_and, port_ne_device.symm, or_false]
      cases given : s.outputDevice with
      | some id => simp [bind, Except.bind, throw, throwThe, MonadExceptOf.throw]
      | none =>
        cases value with
        | text text =>
          simp only [Option.isSome_none, Bool.false_eq_true, if_false, bind, Except.bind, pure,
            Except.pure, true_and, expectText, Value.text.injEq, exists_and_left, exists_eq_left']
          unfold lookup
          cases s.lookup? text with
          | none => simp
          | some id => simp [eq_comm]
        | _ => simp [expectText, bind, Except.bind]
    · rw [if_neg device]
      by_cases port : name = outputPortParameter
      · subst port
        simp only [if_true, rate, device, false_and, false_or, true_and]
        cases given : s.outputPort with
        | some port => simp [bind, Except.bind, throw, throwThe, MonadExceptOf.throw]
        | none =>
          cases value with
          | text text => simp [expectText, bind, Except.bind, pure, Except.pure, eq_comm]
          | _ => simp [expectText, bind, Except.bind]
      · simp [rate, device, port]

variable [Device D]

/-- Nothing is chosen before both halves are known, nor a second time. -/
theorem bindOutput_of_idle {s : Session D}
    (idle : s.outputBound = true ∨ s.outputDevice = none ∨ s.outputPort = none) :
    s.bindOutput = (.ok (), s) := by
  unfold bindOutput
  split
  next id port unbound device given =>
    rcases idle with bound | missing | missing
    · rw [bound] at unbound
      cases unbound
    · rw [missing] at device
      cases device
    · rw [missing] at given
      cases given
  next => rfl

section Both

variable {s : Session D} {id : DeviceId} {port : String} (unbound : s.outputBound = false)
  (device : s.outputDevice = some id) (given : s.outputPort = some port)

include unbound device given

theorem bindOutput_of_port {address : PortAddress}
    (resolved : s.patch.resolvePort id port .output = .ok address) :
    s.bindOutput = (.ok (), { s with
      outputBound := true
      patch := { s.patch with output := some address } }) := by
  have chosen : s.patch.setOutput id port = .ok { s.patch with output := some address } := by
    unfold Patch.setOutput
    rw [resolved]
    rfl
  unfold bindOutput
  rw [unbound, device, given]
  simp only [chosen]

theorem bindOutput_of_no_port {error : PatchError}
    (resolved : s.patch.resolvePort id port .output = .error error) :
    s.bindOutput = (.error (.patch error), { s with outputBound := true }) := by
  have refused : s.patch.setOutput id port = .error error := by
    unfold Patch.setOutput
    rw [resolved]
    rfl
  unfold bindOutput
  rw [unbound, device, given]
  simp only [refused]

end Both

/-- A device is created when its variable is new and the registry delivers it. -/
theorem create_eq_ok_iff {registry : Registry D} {s after : Session D} {name typeName : String}
    {arguments : Arguments} :
    s.create registry name typeName arguments = .ok after ↔
      s.lookup? name = none ∧ ∃ device, registry.instantiate typeName arguments = .ok device ∧
        after = { s with
          patch := (s.patch.addDevice device).2
          bindings := s.bindings ++ [(name, (s.patch.addDevice device).1)] } := by
  unfold create
  cases taken : s.lookup? name with
  | some id => simp [bind, Except.bind, throw, throwThe, MonadExceptOf.throw]
  | none =>
    cases registry.instantiate typeName arguments with
    | error fault => simp [bind, Except.bind, Except.mapError]
    | ok device => simp [bind, Except.bind, Except.mapError, pure, Except.pure, eq_comm]

/-- Two ports are connected when both variables name devices that the patch can plug. -/
theorem connect_eq_ok_iff {s after : Session D} {source destination : Endpoint} :
    s.connect source destination = .ok after ↔
      ∃ sourceId destinationId id patch, s.lookup? source.device = some sourceId ∧
        s.lookup? destination.device = some destinationId ∧
        s.patch.plug sourceId source.port destinationId destination.port = .ok (id, patch) ∧
        after = { s with patch } := by
  unfold connect lookup
  cases s.lookup? source.device with
  | none => simp [bind, Except.bind]
  | some sourceId =>
    cases s.lookup? destination.device with
    | none => simp [bind, Except.bind]
    | some destinationId =>
      simp only [bind, Except.bind, Option.some.injEq, exists_and_left, exists_eq_left']
      cases s.patch.plug sourceId source.port destinationId destination.port with
      | error fault => simp [Except.mapError]
      | ok result => simp [Except.mapError, pure, Except.pure, eq_comm, Prod.ext_iff]

section Perform

variable {registry : Registry D} {s after : Session D} {fault : SessionFault}

theorem perform_create_of_ok {name typeName : String} {arguments : Arguments}
    (created : s.create registry name typeName arguments = .ok after) :
    s.perform registry (.create name typeName arguments) = (.ok (), after) := by
  simp only [perform, created]

theorem perform_create_of_error {name typeName : String} {arguments : Arguments}
    (refused : s.create registry name typeName arguments = .error fault) :
    s.perform registry (.create name typeName arguments) = (.error fault, s) := by
  simp only [perform, refused]

theorem perform_connect_of_ok {source destination : Endpoint}
    (connected : s.connect source destination = .ok after) :
    s.perform registry (.connect source destination) = (.ok (), after) := by
  simp only [perform, connected]

theorem perform_connect_of_error {source destination : Endpoint}
    (refused : s.connect source destination = .error fault) :
    s.perform registry (.connect source destination) = (.error fault, s) := by
  simp only [perform, refused]

theorem perform_parameter_of_ok {name : String} {value : Value}
    (recorded : s.setParameter name value = .ok after) :
    s.perform registry (.parameter name value) = after.bindOutput := by
  simp only [perform, recorded]

theorem perform_parameter_of_error {name : String} {value : Value}
    (refused : s.setParameter name value = .error fault) :
    s.perform registry (.parameter name value) = (.error fault, s) := by
  simp only [perform, refused]

end Perform

end Session

end ModularSynth
