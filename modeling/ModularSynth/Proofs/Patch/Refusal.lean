import ModularSynth.Proofs.Patch.Lifetime
import ModularSynth.Proofs.Patch.Places

/-!
# When an operation is refused

An edit is refused exactly for the reasons that `Patch.Refuses` lists, which speak of the devices,
their panels and the cables, and not of the lists and indices that the edits look them up in. What
joins the two is `Patch.Checkable`: a device has as many values as its panel has ports, and the
index of inputs has an entry exactly for the inputs at which a cable ends. It holds of every
reachable patch, however many devices and cables there are, and a refused edit leaves no trace
(`refusals_of_reachable`).
-/

namespace ModularSynth

variable {D : Type}

theorem Panel.lastIndexOf?_eq_none_iff {panel : Panel} {direction : Direction} {name : String} :
    panel.lastIndexOf? direction name = none ↔
      ∀ port ∈ panel.ports direction, port.name ≠ name := by
  unfold lastIndexOf?
  simp [List.findIdx?_eq_none_iff]

namespace Patch

/-- A cable ends at the input. -/
def Taken (p : Patch D) (input : PortAddress) : Prop :=
  ∃ cable ∈ p.cables.values, cable.destination = input

/-- As long as slot numbers have not wrapped, the cables are those that keys find. -/
theorem taken_iff_of_fits {p : Patch D} (fits : p.cables.Fits) (input : PortAddress) :
    p.Taken input ↔ ∃ id cable, p.cable? id = some cable ∧ cable.destination = input := by
  unfold Taken
  simp only [Slots.mem_values_iff_get? fits]
  constructor
  · intro taken
    obtain ⟨cable, ⟨id, found⟩, ends⟩ := taken
    exact ⟨id, cable, found, ends⟩
  · intro taken
    obtain ⟨id, cable, found, ends⟩ := taken
    exact ⟨cable, ⟨id, found⟩, ends⟩

/-! ### The reasons -/

section Reasons

variable [Device D]

/-- Why an address is not that of a port. -/
inductive AddressFault (p : Patch D) (direction : Direction) (address : PortAddress) :
    PatchError → Prop
  | device (gone : p.device? address.device = none) :
      AddressFault p direction address (.unknownDevice address.device)
  | port {device : D} (lives : p.device? address.device = some device)
      (lacking : ((Device.panel device).ports direction).length ≤ address.connector) :
      AddressFault p direction address
        (.unknownPort address.device direction (toString address.connector))

/-- Why a name does not mean a port. -/
inductive NameFault (p : Patch D) (direction : Direction) (id : DeviceId) (name : String) :
    PatchError → Prop
  | device (gone : p.device? id = none) : NameFault p direction id name (.unknownDevice id)
  | port {device : D} (lives : p.device? id = some device)
      (lacking : ∀ port ∈ (Device.panel device).ports direction, port.name ≠ name) :
      NameFault p direction id name (.unknownPort id direction name)

/-- The address is that of the last port of the device with this name. -/
structure Means (p : Patch D) (direction : Direction) (id : DeviceId) (name : String)
    (address : PortAddress) : Prop where
  device_eq : address.device = id
  last : ∃ device, p.device? id = some device ∧
    ((Device.panel device).ports direction)[address.connector]?.map (·.name) = some name ∧
      ∀ later, address.connector < later →
        ((Device.panel device).ports direction)[later]?.map (·.name) ≠ some name

/-- The edits that are refused, and for what: a fault at the source comes before one at the
destination, and that the input is taken comes last. -/
inductive Refuses (p : Patch D) : Operation D → PatchError → Prop
  | deleteDevice {id : DeviceId} (gone : p.device? id = none) :
      Refuses p (.deleteDevice id) (.unknownDevice id)
  | unplug {id : CableId} (gone : p.cable? id = none) : Refuses p (.unplug id) (.unknownCable id)
  | setOutput {id : DeviceId} {name : String} {error : PatchError}
      (fault : p.NameFault .output id name error) : Refuses p (.setOutput id name) error
  | connectSource {source destination : PortAddress} {error : PatchError}
      (fault : p.AddressFault .output source error) : Refuses p (.connect source destination) error
  | connectDestination {source destination : PortAddress} {error : PatchError}
      (begins : p.HasPort .output source) (fault : p.AddressFault .input destination error) :
      Refuses p (.connect source destination) error
  | connectTaken {source destination : PortAddress} (begins : p.HasPort .output source)
      (ends : p.HasPort .input destination) (taken : p.Taken destination) :
      Refuses p (.connect source destination) (.inputTaken destination)
  | plugSource {source destination : DeviceId} {sourcePort destinationPort : String}
      {error : PatchError} (fault : p.NameFault .output source sourcePort error) :
      Refuses p (.plug source sourcePort destination destinationPort) error
  | plugDestination {source destination : DeviceId} {sourcePort destinationPort : String}
      {output : PortAddress} {error : PatchError}
      (begins : p.Means .output source sourcePort output)
      (fault : p.NameFault .input destination destinationPort error) :
      Refuses p (.plug source sourcePort destination destinationPort) error
  | plugTaken {source destination : DeviceId} {sourcePort destinationPort : String}
      {output input : PortAddress} (begins : p.Means .output source sourcePort output)
      (ends : p.Means .input destination destinationPort input) (taken : p.Taken input) :
      Refuses p (.plug source sourcePort destination destinationPort) (.inputTaken input)

end Reasons

/-! ### Faults of names -/

theorem device?_eq_none_iff {p : Patch D} {id : DeviceId} :
    p.device? id = none ↔ p.devices.get? id = none := by
  unfold device?
  rw [Option.map_eq_none_iff]

theorem device?_of_get? {p : Patch D} {id : DeviceId} {placed : Placed D}
    (found : p.devices.get? id = some placed) : p.device? id = some placed.device := by
  unfold device?
  rw [found, Option.map_some]

section Names

variable [Device D] {p : Patch D} {direction : Direction}

theorem resolvePort_eq_error_iff {id : DeviceId} {name : String} {error : PatchError} :
    p.resolvePort id name direction = .error error ↔ p.NameFault direction id name error := by
  unfold resolvePort
  cases found : p.devices.get? id with
  | none =>
    constructor
    · rintro ⟨⟩
      exact .device (device?_eq_none_iff.mpr found)
    · intro fault
      cases fault with
      | device gone => rfl
      | port lives lacking =>
        rw [device?_eq_none_iff.mpr found] at lives
        cases lives
  | some placed =>
    have lives := device?_of_get? found
    dsimp only
    constructor
    · intro failed
      split at failed
      next absent =>
        cases failed
        exact .port lives (Panel.lastIndexOf?_eq_none_iff.mp absent)
      next => cases failed
    · intro fault
      cases fault with
      | device gone =>
        rw [lives] at gone
        cases gone
      | port lives' lacking =>
        rw [lives] at lives'
        cases lives'
        rw [Panel.lastIndexOf?_eq_none_iff.mpr lacking]

theorem resolvePort_eq_ok_iff {id : DeviceId} {name : String} {address : PortAddress} :
    p.resolvePort id name direction = .ok address ↔ p.Means direction id name address := by
  unfold resolvePort
  cases found : p.devices.get? id with
  | none =>
    constructor
    · rintro ⟨⟩
    · intro means
      obtain ⟨device, lives, -⟩ := means.last
      rw [device?_eq_none_iff.mpr found] at lives
      cases lives
  | some placed =>
    have lives := device?_of_get? found
    dsimp only
    constructor
    · intro resolved
      split at resolved
      next => cases resolved
      next connector named =>
        cases resolved
        exact ⟨rfl, placed.device, lives, Panel.lastIndexOf?_eq_some_iff.mp named⟩
    · intro means
      obtain ⟨device, lives', last⟩ := means.last
      rw [lives] at lives'
      cases lives'
      rw [Panel.lastIndexOf?_eq_some_iff.mpr last]
      simp only [← means.device_eq]

end Names

/-! ### What the checks look up -/

/-- What edits look up agrees with what is in the patch. -/
structure Checkable [Device D] (p : Patch D) : Prop where
  consistent : p.cables.Consistent
  fed : p.Fed
  ended : ∀ input, (p.inputCable? input).isSome → p.Taken input
  fitted : ∀ slot placed, p.devices.at? slot = some placed → placed.Fitted

theorem inputCable?_removeCable_of_some {p : Patch D} {id : CableId} {cable : Cable}
    (found : p.cable? id = some cable) (input : PortAddress) :
    (p.removeCable id).inputCable? input =
      if input = cable.destination then none else p.inputCable? input := by
  rw [removeCable_of_some found]
  exact PortIndex.get?_erase p.feeds cable.destination input

section Checkable

variable [Device D] {p : Patch D}

theorem checkable_ofSettings (settings : Settings) : (ofSettings settings : Patch D).Checkable where
  consistent := Slots.consistent_empty
  fed := fed_ofSettings settings
  ended := by
    intro input listed
    cases listed
  fitted := by
    intro slot placed held
    cases held

/-- `Checkable` does not depend on the rate, the read cap or the output. -/
theorem Checkable.of_eq {q : Patch D} (checkable : p.Checkable) (cables : q.cables = p.cables)
    (feeds : q.feeds = p.feeds)
    (fitted : ∀ slot placed, q.devices.at? slot = some placed → placed.Fitted) : q.Checkable where
  consistent := cables ▸ checkable.consistent
  fed := checkable.fed.of_eq cables feeds
  ended := by
    intro input listed
    unfold Taken
    rw [cables]
    apply checkable.ended
    unfold inputCable? at listed ⊢
    rwa [feeds] at listed
  fitted := fitted

theorem Checkable.removeCable (checkable : p.Checkable) (id : CableId) :
    (p.removeCable id).Checkable where
  consistent := by
    rw [cables_removeCable]
    exact checkable.consistent.remove id
  fed := checkable.fed.removeCable id
  ended := by
    intro input listed
    cases found : p.cable? id with
    | none =>
      rw [removeCable_of_none found] at listed ⊢
      exact checkable.ended input listed
    | some cable =>
      rw [inputCable?_removeCable_of_some found] at listed
      split at listed
      next => cases listed
      next apart =>
        obtain ⟨other, member, ends⟩ := checkable.ended input listed
        refine ⟨other, ?_, ends⟩
        rw [cables_removeCable]
        apply Slots.mem_values_remove member
        intro same
        cases found.symm.trans same
        exact apart ends.symm
  fitted := by
    rw [devices_removeCable]
    exact checkable.fitted

theorem Checkable.foldl_removeCable (checkable : p.Checkable) (ids : List CableId) :
    (ids.foldl Patch.removeCable p).Checkable := by
  induction ids generalizing p with
  | nil => exact checkable
  | cons id ids ih => exact ih (checkable.removeCable id)

theorem Checkable.withCable (checkable : p.Checkable) {source destination : PortAddress}
    (vacant : p.inputCable? destination = none) : (p.withCable source destination).Checkable where
  consistent := checkable.consistent.insert _
  fed := checkable.fed.withCable vacant
  ended := by
    intro input listed
    have values : ∀ cable, cable ∈ (p.withCable source destination).cables.values ↔
        cable = ⟨source, destination⟩ ∨ cable ∈ p.cables.values := fun cable =>
      checkable.consistent.mem_values_insert
    rw [inputCable?_withCable] at listed
    split at listed
    next same => exact ⟨_, (values _).mpr (Or.inl rfl), same.symm⟩
    next =>
      obtain ⟨cable, member, ends⟩ := checkable.ended input listed
      exact ⟨cable, (values cable).mpr (Or.inr member), ends⟩
  fitted := checkable.fitted

theorem Checkable.effect {after : Patch D} {operation : Operation D} {answer : Answer}
    (checkable : p.Checkable) (effect : p.Effect operation answer after) : after.Checkable := by
  have fitted : ∀ slot placed, after.devices.at? slot = some placed → placed.Fitted := by
    intro slot placed held
    rcases effect.of_at? held with ⟨device, -, rfl⟩ | ⟨earlier, before, ages⟩
    · exact Placed.fitted_fresh device
    · exact ages.continues.2 (checkable.fitted slot earlier before)
  cases effect with
  | refused operation error => exact checkable
  | aged _ _ _ keeps quiet same => exact checkable.of_eq same.cables_eq same.feeds_eq fitted
  | added device => exact checkable.of_eq rfl rfl fitted
  | deleted id placed found =>
    exact (checkable.foldl_removeCable (p.incidentCables id placed)).of_eq rfl rfl fitted
  | connected operation source destination begins ends vacant => exact checkable.withCable vacant
  | unplugged id cable found => exact checkable.removeCable id
  | chosen operation keeps output port => exact checkable.of_eq rfl rfl fitted

theorem checkable_of_reachable (reachable : p.Reachable) : p.Checkable := by
  obtain ⟨settings, operations, rfl⟩ := reachable
  refine run_induction (fun _ => True) (fun _ p => p.Checkable) ?_ operations [] _
    (checkable_ofSettings settings) fun _ _ => trivial
  intro answers p operation checkable _
  exact checkable.effect (effect_perform p operation)

/-- The index of inputs tells whether a cable ends at an input. -/
theorem Checkable.isSome_inputCable?_iff (checkable : p.Checkable) (input : PortAddress) :
    (p.inputCable? input).isSome ↔ p.Taken input := by
  refine ⟨checkable.ended input, ?_⟩
  intro taken
  obtain ⟨cable, member, rfl⟩ := taken
  obtain ⟨slot, held⟩ := Slots.mem_values_iff.mp member
  obtain ⟨generation, found⟩ := Slots.at?_eq_some_iff.mp held
  exact checkable.fed.taken slot generation cable found

theorem Checkable.checkAddress_eq_ok_iff (checkable : p.Checkable) {direction : Direction}
    {address : PortAddress} :
    p.checkAddress address direction = .ok () ↔ p.HasPort direction address :=
  checkAddress_eq_ok_iff_hasPort fun _ placed found =>
    checkable.fitted _ placed (Slots.at?_of_get? found)

theorem Checkable.checkAddress_eq_error_iff (checkable : p.Checkable) {direction : Direction}
    {address : PortAddress} {error : PatchError} :
    p.checkAddress address direction = .error error ↔ p.AddressFault direction address error := by
  unfold checkAddress
  cases found : p.devices.get? address.device with
  | none =>
    constructor
    · rintro ⟨⟩
      exact .device (device?_eq_none_iff.mpr found)
    · intro fault
      cases fault with
      | device gone => rfl
      | port lives lacking =>
        rw [device?_eq_none_iff.mpr found] at lives
        cases lives
  | some placed =>
    have lives := device?_of_get? found
    have values := checkable.fitted _ placed (Slots.at?_of_get? found) direction
    dsimp only
    rw [values]
    constructor
    · intro failed
      split at failed
      next => cases failed
      next above =>
        cases failed
        exact .port lives (Nat.le_of_not_lt above)
    · intro fault
      cases fault with
      | device gone =>
        rw [lives] at gone
        cases gone
      | port lives' lacking =>
        rw [lives] at lives'
        cases lives'
        rw [if_neg (Nat.not_lt.mpr lacking)]

/-- The port that a name means is a port. -/
theorem Checkable.checkAddress_of_means (checkable : p.Checkable) {direction : Direction}
    {id : DeviceId} {name : String} {address : PortAddress}
    (means : p.Means direction id name address) : p.checkAddress address direction = .ok () :=
  checkable.checkAddress_eq_ok_iff.mpr (resolvePort_hasPort (resolvePort_eq_ok_iff.mpr means))

end Checkable

/-! ### Each edit -/

theorem connect_eq_error_iff {p : Patch D} {source destination : PortAddress}
    {error : PatchError} :
    p.connect source destination = .error error ↔
      p.checkAddress source .output = .error error ∨
        p.checkAddress source .output = .ok () ∧
          (p.checkAddress destination .input = .error error ∨
            p.checkAddress destination .input = .ok () ∧
              (p.inputCable? destination).isSome ∧ error = .inputTaken destination) := by
  unfold connect
  cases p.checkAddress source .output with
  | error early => simp [bind, Except.bind]
  | ok =>
    cases p.checkAddress destination .input with
    | error early => simp [bind, Except.bind]
    | ok =>
      cases p.inputCable? destination with
      | none => simp [bind, Except.bind, pure, Except.pure]
      | some other => simp [bind, Except.bind, throw, throwThe, MonadExceptOf.throw, eq_comm]

section Edits

variable [Device D] {p : Patch D}

theorem plug_eq_error_iff {source destination : DeviceId} {sourcePort destinationPort : String}
    {error : PatchError} :
    p.plug source sourcePort destination destinationPort = .error error ↔
      p.resolvePort source sourcePort .output = .error error ∨
        ∃ output, p.resolvePort source sourcePort .output = .ok output ∧
          (p.resolvePort destination destinationPort .input = .error error ∨
            ∃ input, p.resolvePort destination destinationPort .input = .ok input ∧
              p.connect output input = .error error) := by
  unfold plug
  cases p.resolvePort source sourcePort .output with
  | error early => simp [bind, Except.bind]
  | ok output =>
    cases p.resolvePort destination destinationPort .input with
    | error early => simp [bind, Except.bind]
    | ok input => simp [bind, Except.bind]

theorem setOutput_eq_error_iff {id : DeviceId} {name : String} {error : PatchError} :
    p.setOutput id name = .error error ↔ p.resolvePort id name .output = .error error := by
  unfold setOutput
  cases p.resolvePort id name .output with
  | error early => simp [bind, Except.bind]
  | ok address => simp [bind, Except.bind, pure, Except.pure]

theorem deleteDevice_eq_error_iff {id : DeviceId} {error : PatchError} :
    p.deleteDevice id = .error error ↔ p.Refuses (.deleteDevice id) error := by
  constructor
  · intro failed
    cases found : p.devices.get? id with
    | none =>
      simp only [deleteDevice, found, Except.error.injEq] at failed
      subst failed
      exact .deleteDevice (device?_eq_none_iff.mpr found)
    | some placed =>
      rw [deleteDevice_of_some found] at failed
      cases failed
  · intro refused
    cases refused with
    | deleteDevice gone =>
      unfold deleteDevice
      rw [device?_eq_none_iff.mp gone]

theorem unplug_eq_error_iff {id : CableId} {error : PatchError} :
    p.unplug id = .error error ↔ p.Refuses (.unplug id) error := by
  have absent : p.cables.contains id = false ↔ p.cable? id = none := by
    unfold Slots.contains cable?
    rw [Option.isSome_eq_false_iff, Option.isNone_iff_eq_none]
  unfold unplug
  constructor
  · intro failed
    split at failed
    next => cases failed
    next dead =>
      cases failed
      exact .unplug (absent.mp (Bool.eq_false_iff.mpr dead))
  · intro refused
    cases refused with
    | unplug gone => simp [absent.mpr gone]

theorem Checkable.connect_eq_error_iff_refuses (checkable : p.Checkable)
    {source destination : PortAddress} {error : PatchError} :
    p.connect source destination = .error error ↔
      p.Refuses (.connect source destination) error := by
  rw [connect_eq_error_iff, checkable.checkAddress_eq_error_iff, checkable.checkAddress_eq_ok_iff,
    checkable.checkAddress_eq_error_iff, checkable.checkAddress_eq_ok_iff,
    checkable.isSome_inputCable?_iff]
  constructor
  · intro failed
    rcases failed with fault | ⟨begins, fault | ⟨ends, taken, rfl⟩⟩
    · exact .connectSource fault
    · exact .connectDestination begins fault
    · exact .connectTaken begins ends taken
  · intro refused
    cases refused with
    | connectSource fault => exact Or.inl fault
    | connectDestination begins fault => exact Or.inr ⟨begins, Or.inl fault⟩
    | connectTaken begins ends taken => exact Or.inr ⟨begins, Or.inr ⟨ends, taken, rfl⟩⟩

/-- Between ports that names mean a connection is refused only because the input is taken. -/
theorem Checkable.connect_eq_error_iff_of_means (checkable : p.Checkable)
    {source destination : DeviceId} {sourcePort destinationPort : String}
    {output input : PortAddress} (begins : p.Means .output source sourcePort output)
    (ends : p.Means .input destination destinationPort input) {error : PatchError} :
    p.connect output input = .error error ↔ p.Taken input ∧ error = .inputTaken input := by
  rw [connect_eq_error_iff, checkable.checkAddress_of_means begins,
    checkable.checkAddress_of_means ends, checkable.isSome_inputCable?_iff]
  simp

theorem Checkable.plug_eq_error_iff_refuses (checkable : p.Checkable)
    {source destination : DeviceId} {sourcePort destinationPort : String} {error : PatchError} :
    p.plug source sourcePort destination destinationPort = .error error ↔
      p.Refuses (.plug source sourcePort destination destinationPort) error := by
  rw [plug_eq_error_iff]
  simp only [resolvePort_eq_error_iff, resolvePort_eq_ok_iff]
  constructor
  · intro failed
    rcases failed with fault | ⟨output, begins, fault | ⟨input, ends, occupied⟩⟩
    · exact .plugSource fault
    · exact .plugDestination begins fault
    · obtain ⟨taken, rfl⟩ := (checkable.connect_eq_error_iff_of_means begins ends).mp occupied
      exact .plugTaken begins ends taken
  · intro refused
    cases refused with
    | plugSource fault => exact Or.inl fault
    | plugDestination begins fault => exact Or.inr ⟨_, begins, Or.inl fault⟩
    | plugTaken begins ends taken =>
      refine Or.inr ⟨_, begins, Or.inr ⟨_, ends, ?_⟩⟩
      exact (checkable.connect_eq_error_iff_of_means begins ends).mpr ⟨taken, rfl⟩

end Edits

/-! ### Refusals -/

theorem settle_eq_failed_iff {p : Patch D} {outcome : Except PatchError (Patch D)}
    {error : PatchError} : (p.settle outcome).1 = .failed error ↔ outcome = .error error := by
  cases outcome with
  | ok after => simp [settle]
  | error early => simp [settle]

theorem settleCable_eq_failed_iff {p : Patch D} {outcome : Except PatchError (CableId × Patch D)}
    {error : PatchError} : (p.settleCable outcome).1 = .failed error ↔ outcome = .error error := by
  cases outcome with
  | ok result => simp [settleCable]
  | error early => simp [settleCable]

section Refusals

variable [Device D] {p : Patch D}

/-- Only passes fail otherwise than by refusal. -/
theorem Checkable.perform_eq_failed_iff (checkable : p.Checkable) {operation : Operation D}
    (edit : operation ≠ .pass) {error : PatchError} :
    (p.perform operation).1 = .failed error ↔ p.Refuses operation error := by
  cases operation with
  | deleteDevice id => exact settle_eq_failed_iff.trans deleteDevice_eq_error_iff
  | plug source sourcePort destination destinationPort =>
    exact settleCable_eq_failed_iff.trans checkable.plug_eq_error_iff_refuses
  | connect source destination =>
    exact settleCable_eq_failed_iff.trans checkable.connect_eq_error_iff_refuses
  | unplug id => exact settle_eq_failed_iff.trans unplug_eq_error_iff
  | setOutput id port =>
    refine settle_eq_failed_iff.trans (setOutput_eq_error_iff.trans ?_)
    rw [resolvePort_eq_error_iff]
    refine ⟨.setOutput, ?_⟩
    intro refused
    cases refused with
    | setOutput fault => exact fault
  | pass => exact absurd rfl edit
  | _ =>
    constructor
    · intro failed
      cases failed
    · intro refused
      cases refused

/-- What fails, unless it is a pass, leaves the patch as it was. -/
theorem perform_of_failed {operation : Operation D} (edit : operation ≠ .pass)
    {error : PatchError} (failed : (p.perform operation).1 = .failed error) :
    p.perform operation = (.failed error, p) := by
  cases operation with
  | deleteDevice id =>
    rw [perform, settle_eq_failed_iff.mp failed]
    rfl
  | plug source sourcePort destination destinationPort =>
    rw [perform, settleCable_eq_failed_iff.mp failed]
    rfl
  | connect source destination =>
    rw [perform, settleCable_eq_failed_iff.mp failed]
    rfl
  | unplug id =>
    rw [perform, settle_eq_failed_iff.mp failed]
    rfl
  | setOutput id port =>
    rw [perform, settle_eq_failed_iff.mp failed]
    rfl
  | pass => exact absurd rfl edit
  | _ => cases failed

/-- Refusals happen for the listed reasons and leave no trace. -/
structure Refusals (p : Patch D) : Prop where
  /-- Looking up a name fails exactly if the device is gone or has no such port, -/
  lookup : ∀ id name direction error,
    p.resolvePort id name direction = .error error ↔ p.NameFault direction id name error
  /-- an edit fails exactly for the first reason that there is to refuse it, -/
  refused : ∀ operation error, operation ≠ .pass →
    ((p.perform operation).1 = .failed error ↔ p.Refuses operation error)
  /-- and an edit that fails changes nothing: -/
  unchanged : ∀ operation error, p.Refuses operation error →
    p.perform operation = (.failed error, p)
  /-- whatever is done later has the answers and the effect that it has without it. -/
  unnoticed : ∀ operation error later, p.Refuses operation error →
    p.run (operation :: later) = (.failed error :: (p.run later).1, (p.run later).2)
  /-- The cables at which an input counts as taken are those that keys find, unless slot numbers
  have run out. -/
  keyed : p.cables.Fits → ∀ input,
    p.Taken input ↔ ∃ id cable, p.cable? id = some cable ∧ cable.destination = input

theorem Refuses.ne_pass {operation : Operation D} {error : PatchError}
    (refused : p.Refuses operation error) : operation ≠ .pass := by
  rintro rfl
  cases refused

theorem Checkable.perform_of_refuses (checkable : p.Checkable) {operation : Operation D}
    {error : PatchError} (refused : p.Refuses operation error) :
    p.perform operation = (.failed error, p) :=
  perform_of_failed refused.ne_pass
    ((checkable.perform_eq_failed_iff refused.ne_pass).mpr refused)

/-- In every patch that operations make out of an empty one, edits are refused for the listed
reasons only, and without a trace. -/
theorem refusals_of_reachable (p : Patch D) (reachable : p.Reachable) : p.Refusals := by
  have checkable := checkable_of_reachable reachable
  refine
    { lookup := fun id name direction error => resolvePort_eq_error_iff
      refused := fun operation error edit => checkable.perform_eq_failed_iff edit
      unchanged := fun operation error refused => checkable.perform_of_refuses refused
      unnoticed := ?_
      keyed := taken_iff_of_fits }
  intro operation error later refused
  rw [run, checkable.perform_of_refuses refused]

end Refusals

theorem rewiring_refusals :
    ((ofSettings {}).run rewiring).2.Reachable ∧ ((ofSettings {}).run rewiring).2.Refusals :=
  have reachable : ((ofSettings {}).run rewiring).2.Reachable := ⟨{}, rewiring, rfl⟩
  ⟨reachable, refusals_of_reachable _ reachable⟩

end Patch

end ModularSynth
