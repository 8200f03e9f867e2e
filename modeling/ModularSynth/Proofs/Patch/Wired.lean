import Mathlib.Data.List.Dedup
import ModularSynth.Proofs.Patch.Ports

/-!
# Cables, indices and endpoints

`Patch.Wired` is the invariant that ties the two stores, the two indices and the output of a patch
together. Removing one cable preserves it, hence removing all cables of a device does; after that no
cable and no output names the device, so the device itself can go.

The one premise is that no more than 2³² devices and 2³² cables are in the patch at a time. Beyond
that slot numbers would wrap and one key would name two slots.
-/

namespace ModularSynth

variable {D : Type}

namespace Patch

/-- Both indices are in step with the live cables, and the second keeps no empty list. -/
structure Indexed (p : Patch D) : Prop where
  feeds_iff : ∀ input id, p.inputCable? input = some id ↔
    ∃ cable, p.cable? id = some cable ∧ cable.destination = input
  fanOut_iff : ∀ output id, id ∈ p.outputCables output ↔
    ∃ cable, p.cable? id = some cable ∧ cable.source = output
  fanOut_nodup : ∀ output, (p.outputCables output).Nodup
  fanOut_ne_nil : ∀ output, p.fanOut.get? output ≠ some []

/-- The ends of every cable are ports of devices in the patch. -/
def Endpoints [Device D] (p : Patch D) : Prop :=
  ∀ id cable, p.cable? id = some cable →
    p.HasPort .output cable.source ∧ p.HasPort .input cable.destination

/-- The stores are consistent, the indices are in step with the cables, and the ends of every cable
and the output are ports of devices in the patch. -/
structure Wired [Device D] (p : Patch D) : Prop where
  devices_consistent : p.devices.Consistent
  devices_fit : p.devices.Fits
  fitted : ∀ id placed, p.devices.get? id = some placed → placed.Fitted
  cables_consistent : p.cables.Consistent
  cables_fit : p.cables.Fits
  indexed : p.Indexed
  endpoints : ∀ id cable, p.cable? id = some cable →
    p.HasPort .output cable.source ∧ p.HasPort .input cable.destination
  output_port : ∀ address, p.output = some address → p.HasPort .output address

theorem wired_ofSettings [Device D] (settings : Settings) :
    (ofSettings settings : Patch D).Wired where
  devices_consistent := Slots.consistent_empty
  devices_fit := Slots.fits_empty
  fitted := by
    intro id placed found
    cases found
  cables_consistent := Slots.consistent_empty
  cables_fit := Slots.fits_empty
  indexed :=
    { feeds_iff := by
        intro input id
        constructor
        · intro found
          cases found
        · intro fed
          obtain ⟨cable, found, -⟩ := fed
          cases found
      fanOut_iff := by
        intro output id
        constructor
        · intro member
          cases member
        · intro listed
          obtain ⟨cable, found, -⟩ := listed
          cases found
      fanOut_nodup := fun output => List.nodup_nil
      fanOut_ne_nil := by
        intro output found
        cases found }
  endpoints := by
    intro id cable found
    cases found
  output_port := by
    intro address chosen
    cases chosen

/-! ### Removing a cable -/

theorem removeCable_of_none {p : Patch D} {id : CableId} (missing : p.cable? id = none) :
    p.removeCable id = p := by
  unfold removeCable
  rw [Slots.remove_of_none missing]

/-- The cables that stay at an output when one of them is removed. -/
def siblings (p : Patch D) (output : PortAddress) (id : CableId) : List CableId :=
  (p.outputCables output).filter (· ≠ id)

theorem removeCable_of_some {p : Patch D} {id : CableId} {cable : Cable}
    (found : p.cable? id = some cable) :
    p.removeCable id =
      { p with
        cables := (p.cables.remove id).2
        feeds := p.feeds.erase cable.destination
        fanOut :=
          if (p.siblings cable.source id).isEmpty then p.fanOut.erase cable.source
          else p.fanOut.set cable.source (p.siblings cable.source id) } := by
  unfold removeCable
  rw [Slots.remove_of_some found]
  rfl

@[simp]
theorem devices_removeCable (p : Patch D) (id : CableId) :
    (p.removeCable id).devices = p.devices := by
  cases found : p.cable? id with
  | none => rw [removeCable_of_none found]
  | some cable => rw [removeCable_of_some found]

@[simp]
theorem output_removeCable (p : Patch D) (id : CableId) :
    (p.removeCable id).output = p.output := by
  cases found : p.cable? id with
  | none => rw [removeCable_of_none found]
  | some cable => rw [removeCable_of_some found]

theorem cables_removeCable (p : Patch D) (id : CableId) :
    (p.removeCable id).cables = (p.cables.remove id).2 := by
  cases found : p.cable? id with
  | none => rw [removeCable_of_none found, Slots.remove_of_none found]
  | some cable => rw [removeCable_of_some found]

theorem cable?_removeCable (p : Patch D) (id other : CableId) :
    (p.removeCable id).cable? other = if other = id then none else p.cable? other := by
  unfold cable?
  rw [cables_removeCable, Slots.get?_remove]

theorem hasPort_removeCable [Device D] (p : Patch D) (id : CableId) (direction : Direction)
    (address : PortAddress) :
    (p.removeCable id).HasPort direction address ↔ p.HasPort direction address := by
  unfold HasPort
  rw [devices_removeCable]

theorem inputCable?_removeCable {p : Patch D} (indexed : p.Indexed) (id : CableId)
    (input : PortAddress) :
    (p.removeCable id).inputCable? input =
      if p.inputCable? input = some id then none else p.inputCable? input := by
  cases found : p.cable? id with
  | none =>
    have unused : p.inputCable? input ≠ some id := by
      rw [Ne, indexed.feeds_iff, found]
      intro fed
      obtain ⟨cable, absent, -⟩ := fed
      cases absent
    rw [removeCable_of_none found, if_neg unused]
  | some cable =>
    have ends : p.inputCable? input = some id ↔ input = cable.destination := by
      rw [indexed.feeds_iff, found]
      simp [eq_comm]
    rw [removeCable_of_some found]
    unfold inputCable? at ends ⊢
    rw [PortIndex.get?_erase]
    simp only [ends]

/-- Every output loses the removed cable and keeps the others in their order. -/
theorem outputCables_removeCable {p : Patch D} (indexed : p.Indexed) (id : CableId)
    (output : PortAddress) :
    (p.removeCable id).outputCables output = (p.outputCables output).filter (· ≠ id) := by
  have untouched : id ∉ p.outputCables output →
      (p.outputCables output).filter (· ≠ id) = p.outputCables output := by
    intro absent
    rw [List.filter_eq_self]
    intro other member
    exact decide_eq_true fun same => absent (same ▸ member)
  cases found : p.cable? id with
  | none =>
    have absent : id ∉ p.outputCables output := by
      rw [indexed.fanOut_iff, found]
      intro begins
      obtain ⟨cable, missing, -⟩ := begins
      cases missing
    rw [removeCable_of_none found, untouched absent]
  | some cable =>
    rw [removeCable_of_some found]
    by_cases same : output = cable.source
    · subst same
      unfold outputCables
      dsimp only
      split
      next empty =>
        rw [PortIndex.get?_erase, if_pos rfl]
        exact (List.isEmpty_iff.mp empty).symm
      next =>
        rw [PortIndex.get?_set, if_pos rfl]
        rfl
    · have absent : id ∉ p.outputCables output := by
        rw [indexed.fanOut_iff, found]
        intro begins
        obtain ⟨_, equal, source⟩ := begins
        cases equal
        exact same source.symm
      rw [untouched absent]
      unfold outputCables
      dsimp only
      split
      · rw [PortIndex.get?_erase, if_neg same]
      · rw [PortIndex.get?_set, if_neg same]

theorem fanOut_removeCable_ne_nil {p : Patch D} (indexed : p.Indexed) (id : CableId)
    (output : PortAddress) : (p.removeCable id).fanOut.get? output ≠ some [] := by
  cases found : p.cable? id with
  | none =>
    rw [removeCable_of_none found]
    exact indexed.fanOut_ne_nil output
  | some cable =>
    rw [removeCable_of_some found]
    dsimp only
    split
    next =>
      rw [PortIndex.get?_erase]
      split
      · simp
      · exact indexed.fanOut_ne_nil output
    next nonempty =>
      rw [PortIndex.get?_set]
      split
      · intro equal
        rw [Option.some.injEq] at equal
        exact nonempty (List.isEmpty_iff.mpr equal)
      · exact indexed.fanOut_ne_nil output

theorem Indexed.removeCable {p : Patch D} (indexed : p.Indexed) (id : CableId) :
    (p.removeCable id).Indexed where
  feeds_iff := by
    intro input other
    rw [inputCable?_removeCable indexed, cable?_removeCable]
    by_cases same : other = id
    · subst same
      simp only [if_true]
      constructor
      · intro found
        split at found
        · cases found
        next different => exact absurd found different
      · intro fed
        obtain ⟨cable, absent, -⟩ := fed
        cases absent
    · rw [if_neg same, ← indexed.feeds_iff]
      by_cases removed : p.inputCable? input = some id
      · rw [if_pos removed, removed, Option.some.injEq]
        constructor
        · intro absent
          cases absent
        · exact fun equal => absurd equal.symm same
      · rw [if_neg removed]
  fanOut_iff := by
    intro output other
    rw [outputCables_removeCable indexed, cable?_removeCable, List.mem_filter,
      indexed.fanOut_iff]
    by_cases same : other = id
    · simp [same]
    · simp [same]
  fanOut_nodup := by
    intro output
    rw [outputCables_removeCable indexed]
    exact (indexed.fanOut_nodup output).filter _
  fanOut_ne_nil := fanOut_removeCable_ne_nil indexed id

theorem cable?_foldl_removeCable (p : Patch D) (ids : List CableId) (other : CableId) :
    (ids.foldl Patch.removeCable p).cable? other =
      if other ∈ ids then none else p.cable? other := by
  induction ids generalizing p with
  | nil => simp
  | cons id ids ih =>
    rw [List.foldl_cons, ih, cable?_removeCable]
    by_cases same : other = id
    · simp [same]
    · simp [same]

/-- Removing cables changes nothing but the cables and the two indices. -/
theorem foldl_removeCable_eq (p : Patch D) (ids : List CableId) :
    ids.foldl Patch.removeCable p = { p with
      cables := (ids.foldl Patch.removeCable p).cables
      feeds := (ids.foldl Patch.removeCable p).feeds
      fanOut := (ids.foldl Patch.removeCable p).fanOut } := by
  induction ids generalizing p with
  | nil => rfl
  | cons id ids ih =>
    rw [List.foldl_cons, ih]
    cases found : p.cable? id with
    | none => rw [removeCable_of_none found]
    | some cable => rw [removeCable_of_some found]

theorem devices_foldl_removeCable (p : Patch D) (ids : List CableId) :
    (ids.foldl Patch.removeCable p).devices = p.devices := by
  rw [foldl_removeCable_eq]

theorem length_cables_foldl_removeCable (p : Patch D) (ids : List CableId) :
    (ids.foldl Patch.removeCable p).cables.slots.length = p.cables.slots.length := by
  induction ids generalizing p with
  | nil => rfl
  | cons id ids ih => rw [List.foldl_cons, ih, cables_removeCable, Slots.length_slots_remove]

theorem Indexed.foldl_removeCable {p : Patch D} (indexed : p.Indexed) (ids : List CableId) :
    (ids.foldl Patch.removeCable p).Indexed := by
  induction ids generalizing p with
  | nil => exact indexed
  | cons id ids ih => exact ih (indexed.removeCable id)

/-- `Indexed` is about the cables and the two indices alone. -/
theorem Indexed.of_eq {p q : Patch D} (indexed : p.Indexed) (cables : q.cables = p.cables)
    (feeds : q.feeds = p.feeds) (fanOut : q.fanOut = p.fanOut) : q.Indexed := by
  obtain ⟨devices, cables', feeds', fanOut'⟩ := q
  subst cables feeds fanOut
  exact ⟨indexed.feeds_iff, indexed.fanOut_iff, indexed.fanOut_nodup, indexed.fanOut_ne_nil⟩

theorem outputCables_foldl_removeCable {p : Patch D} (indexed : p.Indexed) (ids : List CableId)
    (output : PortAddress) :
    (ids.foldl Patch.removeCable p).outputCables output =
      (p.outputCables output).filter (· ∉ ids) := by
  induction ids generalizing p with
  | nil => simp
  | cons id ids ih =>
    rw [List.foldl_cons, ih (indexed.removeCable id), outputCables_removeCable indexed,
      List.filter_filter]
    apply List.filter_congr
    intro other _
    simp [Bool.and_comm]

/-- The cables that are found through the two indices touch the device. -/
theorem Indexed.exists_of_mem_incidentCables {p : Patch D} (indexed : p.Indexed) {id : DeviceId}
    {placed : Placed D} {other : CableId} (listed : other ∈ p.incidentCables id placed) :
    ∃ cable, p.cable? other = some cable ∧
      (cable.destination.device = id ∨ cable.source.device = id) := by
  unfold incidentCables at listed
  rw [List.mem_append, List.mem_filterMap, List.mem_flatMap] at listed
  rcases listed with ⟨connector, -, ends⟩ | ⟨connector, -, begins⟩
  · obtain ⟨cable, live, destination⟩ := (indexed.feeds_iff _ _).mp ends
    exact ⟨cable, live, Or.inl (by rw [destination])⟩
  · obtain ⟨cable, live, source⟩ := (indexed.fanOut_iff _ _).mp begins
    exact ⟨cable, live, Or.inr (by rw [source])⟩

section Removal

variable [Device D] {p : Patch D}

theorem Endpoints.removeCable (endpoints : p.Endpoints) (id : CableId) :
    (p.removeCable id).Endpoints := by
  intro other cable found
  rw [hasPort_removeCable, hasPort_removeCable]
  rw [cable?_removeCable] at found
  split at found
  · cases found
  · exact endpoints other cable found

theorem Wired.removeCable (wired : p.Wired) (id : CableId) : (p.removeCable id).Wired where
  devices_consistent := by
    rw [devices_removeCable]
    exact wired.devices_consistent
  devices_fit := by
    rw [devices_removeCable]
    exact wired.devices_fit
  fitted := by
    rw [devices_removeCable]
    exact wired.fitted
  cables_consistent := by
    rw [cables_removeCable]
    exact wired.cables_consistent.remove id
  cables_fit := by
    rw [cables_removeCable]
    exact wired.cables_fit.remove id
  indexed := wired.indexed.removeCable id
  endpoints := Endpoints.removeCable wired.endpoints id
  output_port := by
    intro address chosen
    rw [hasPort_removeCable]
    rw [output_removeCable] at chosen
    exact wired.output_port address chosen

theorem Wired.foldl_removeCable (wired : p.Wired) (ids : List CableId) :
    (ids.foldl Patch.removeCable p).Wired := by
  induction ids generalizing p with
  | nil => exact wired
  | cons id ids ih => exact ih (wired.removeCable id)

/-- All cables that touch the device are found. -/
theorem Indexed.mem_incidentCables_iff (indexed : p.Indexed) (endpoints : p.Endpoints)
    {id : DeviceId} {placed : Placed D} (found : p.devices.get? id = some placed)
    (fitted : placed.Fitted) (other : CableId) :
    other ∈ p.incidentCables id placed ↔
      ∃ cable, p.cable? other = some cable ∧
        (cable.destination.device = id ∨ cable.source.device = id) := by
  have inputs : placed.inputs.length = (Device.panel placed.device).inputs.length :=
    fitted .input
  have outputs : placed.outputs.length = (Device.panel placed.device).outputs.length :=
    fitted .output
  constructor
  · exact indexed.exists_of_mem_incidentCables
  · intro incident
    obtain ⟨⟨source, destination⟩, live, touches⟩ := incident
    obtain ⟨⟨a, found_source, below_source⟩, ⟨b, found_destination, below_destination⟩⟩ :=
      endpoints other _ live
    unfold incidentCables
    rw [List.mem_append, List.mem_filterMap, List.mem_flatMap]
    rcases touches with rfl | rfl
    · left
      rw [found] at found_destination
      cases found_destination
      refine ⟨destination.connector, List.mem_range.mpr (inputs ▸ below_destination), ?_⟩
      exact (indexed.feeds_iff _ _).mpr ⟨_, live, rfl⟩
    · right
      rw [found] at found_source
      cases found_source
      refine ⟨source.connector, List.mem_range.mpr (outputs ▸ below_source), ?_⟩
      exact (indexed.fanOut_iff _ _).mpr ⟨_, live, rfl⟩

theorem Wired.mem_incidentCables_iff (wired : p.Wired) {id : DeviceId} {placed : Placed D}
    (found : p.devices.get? id = some placed) (other : CableId) :
    other ∈ p.incidentCables id placed ↔
      ∃ cable, p.cable? other = some cable ∧
        (cable.destination.device = id ∨ cable.source.device = id) :=
  wired.indexed.mem_incidentCables_iff wired.endpoints found (wired.fitted id placed found) other

end Removal

/-! ### Deleting and adding devices -/

/-- What a deletion leaves of a patch in which the device was found. -/
def withoutDevice (p : Patch D) (id : DeviceId) (placed : Placed D) : Patch D :=
  let unplugged := (p.incidentCables id placed).foldl removeCable p
  { unplugged with
    devices := (unplugged.devices.remove id).2
    output := unplugged.output.filter (·.device ≠ id) }

theorem deleteDevice_of_some {p : Patch D} {id : DeviceId} {placed : Placed D}
    (found : p.devices.get? id = some placed) :
    p.deleteDevice id = .ok (p.withoutDevice id placed) := by
  simp only [deleteDevice, found, withoutDevice]

theorem deleteDevice_eq_ok_iff {p after : Patch D} {id : DeviceId} :
    p.deleteDevice id = .ok after ↔
      ∃ placed, p.devices.get? id = some placed ∧ after = p.withoutDevice id placed := by
  cases found : p.devices.get? id with
  | none => simp [deleteDevice, found]
  | some placed => simp [deleteDevice_of_some found, eq_comm]

theorem unplug_eq_ok_iff {p after : Patch D} {id : CableId} :
    p.unplug id = .ok after ↔ ∃ cable, p.cable? id = some cable ∧ after = p.removeCable id := by
  unfold unplug
  split
  next live =>
    obtain ⟨cable, found⟩ := Option.isSome_iff_exists.mp live
    have found : p.cable? id = some cable := found
    constructor
    · intro unplugged
      exact ⟨cable, found, (Except.ok.inj unplugged).symm⟩
    · rintro ⟨-, -, rfl⟩
      rfl
  next dead =>
    constructor
    · intro impossible
      cases impossible
    · rintro ⟨cable, found, -⟩
      exact absurd (Option.isSome_iff_exists.mpr ⟨cable, found⟩) dead

theorem devices_withoutDevice (p : Patch D) (id : DeviceId) (placed : Placed D) :
    (p.withoutDevice id placed).devices = (p.devices.remove id).2 := by
  unfold withoutDevice
  dsimp only
  rw [devices_foldl_removeCable]

theorem output_withoutDevice (p : Patch D) (id : DeviceId) (placed : Placed D) :
    (p.withoutDevice id placed).output = p.output.filter (·.device ≠ id) := by
  unfold withoutDevice
  rw [foldl_removeCable_eq]

theorem rate_withoutDevice (p : Patch D) (id : DeviceId) (placed : Placed D) :
    (p.withoutDevice id placed).rate = p.rate := by
  unfold withoutDevice
  rw [foldl_removeCable_eq]

theorem readCap_withoutDevice (p : Patch D) (id : DeviceId) (placed : Placed D) :
    (p.withoutDevice id placed).readCap = p.readCap := by
  unfold withoutDevice
  rw [foldl_removeCable_eq]

theorem get?_withoutDevice_of_ne (p : Patch D) {id : DeviceId} (placed : Placed D)
    {other : DeviceId} (apart : other ≠ id) :
    (p.withoutDevice id placed).devices.get? other = p.devices.get? other := by
  rw [devices_withoutDevice, Slots.get?_remove, if_neg apart]

theorem cable?_withoutDevice (p : Patch D) (id : DeviceId) (placed : Placed D) (other : CableId) :
    (p.withoutDevice id placed).cable? other =
      if other ∈ p.incidentCables id placed then none else p.cable? other :=
  cable?_foldl_removeCable p (p.incidentCables id placed) other

section Edits

variable [Device D] {p : Patch D}

/-- Other devices keep their ports. -/
theorem hasPort_withoutDevice_iff {id : DeviceId} (placed : Placed D) {direction : Direction}
    {address : PortAddress} (apart : address.device ≠ id) :
    (p.withoutDevice id placed).HasPort direction address ↔ p.HasPort direction address := by
  unfold HasPort
  rw [get?_withoutDevice_of_ne p placed apart]

/-- The cables that are left when a device is deleted do not touch it. -/
theorem Endpoints.withoutDevice (endpoints : p.Endpoints) (indexed : p.Indexed) {id : DeviceId}
    {placed : Placed D} (found : p.devices.get? id = some placed) (fitted : placed.Fitted) :
    (p.withoutDevice id placed).Endpoints := by
  intro other cable live
  rw [cable?_withoutDevice] at live
  split at live
  · cases live
  next untouched =>
    rw [indexed.mem_incidentCables_iff endpoints found fitted] at untouched
    have source : cable.source.device ≠ id := fun same => untouched ⟨cable, live, Or.inr same⟩
    have destination : cable.destination.device ≠ id := fun same =>
      untouched ⟨cable, live, Or.inl same⟩
    rw [hasPort_withoutDevice_iff placed source, hasPort_withoutDevice_iff placed destination]
    exact endpoints other cable live

theorem Wired.withoutDevice (wired : p.Wired) {id : DeviceId} {placed : Placed D}
    (found : p.devices.get? id = some placed) : (p.withoutDevice id placed).Wired := by
  have unplugged := wired.foldl_removeCable (p.incidentCables id placed)
  refine
    { devices_consistent := unplugged.devices_consistent.remove id
      devices_fit := unplugged.devices_fit.remove id
      fitted := ?_
      cables_consistent := unplugged.cables_consistent
      cables_fit := unplugged.cables_fit
      indexed := unplugged.indexed.of_eq rfl rfl rfl
      endpoints :=
        Endpoints.withoutDevice wired.endpoints wired.indexed found (wired.fitted id placed found)
      output_port := ?_ }
  · intro other placed' live
    rw [devices_withoutDevice, Slots.get?_remove] at live
    split at live
    · cases live
    · exact wired.fitted other placed' live
  · intro address chosen
    rw [output_withoutDevice] at chosen
    obtain ⟨before, elsewhere⟩ := Option.filter_eq_some_iff.mp chosen
    rw [hasPort_withoutDevice_iff placed (of_decide_eq_true elsewhere)]
    exact wired.output_port address before

/-- Adding a device takes no port away. -/
theorem HasPort.addDevice (consistent : p.devices.Consistent) {direction : Direction}
    {address : PortAddress} (port : p.HasPort direction address) (device : D) :
    (p.addDevice device).2.HasPort direction address := by
  obtain ⟨placed, live, below⟩ := port
  exact ⟨placed, consistent.get?_insert_of_some _ live, below⟩

theorem Endpoints.addDevice (endpoints : p.Endpoints) (consistent : p.devices.Consistent)
    (device : D) : (p.addDevice device).2.Endpoints := by
  intro id cable live
  obtain ⟨begins, ends⟩ := endpoints id cable live
  exact ⟨begins.addDevice consistent device, ends.addDevice consistent device⟩

theorem Wired.addDevice (wired : p.Wired) (device : D)
    (fits : (p.addDevice device).2.devices.Fits) : (p.addDevice device).2.Wired := by
  have lookup := wired.devices_consistent.get?_insert (.fresh device) fits
  refine
    { devices_consistent := wired.devices_consistent.insert _
      devices_fit := fits
      fitted := ?_
      cables_consistent := wired.cables_consistent
      cables_fit := wired.cables_fit
      indexed := wired.indexed.of_eq rfl rfl rfl
      endpoints := Endpoints.addDevice wired.endpoints wired.devices_consistent device
      output_port := ?_ }
  · intro id placed live
    have found := (lookup id).symm.trans live
    split at found
    · cases found
      exact Placed.fitted_fresh device
    · exact wired.fitted id placed found
  · intro address chosen
    exact (wired.output_port address chosen).addDevice wired.devices_consistent device

end Edits

/-! ### Connecting -/

theorem checkAddress_eq_ok_iff {p : Patch D} {address : PortAddress} {direction : Direction} :
    p.checkAddress address direction = .ok () ↔
      ∃ placed, p.devices.get? address.device = some placed ∧
        address.connector < (placed.values direction).length := by
  unfold checkAddress
  cases found : p.devices.get? address.device with
  | none => simp
  | some placed =>
    by_cases below : address.connector < (placed.values direction).length
    · simp [below]
    · simp [below]

/-- The patch with one more cable. -/
def withCable (p : Patch D) (source destination : PortAddress) : Patch D :=
  { p with
    cables := (p.cables.insert ⟨source, destination⟩).2
    feeds := p.feeds.set destination (p.cables.insert ⟨source, destination⟩).1
    fanOut := p.fanOut.set source
      (p.outputCables source ++ [(p.cables.insert ⟨source, destination⟩).1]) }

theorem connect_eq_ok_iff {p : Patch D} {source destination : PortAddress} {id : CableId}
    {after : Patch D} :
    p.connect source destination = .ok (id, after) ↔
      p.checkAddress source .output = .ok () ∧ p.checkAddress destination .input = .ok () ∧
        p.inputCable? destination = none ∧
        id = (p.cables.insert ⟨source, destination⟩).1 ∧ after = p.withCable source destination := by
  unfold connect
  cases begins : p.checkAddress source .output with
  | error error => simp [bind, Except.bind]
  | ok =>
    cases ends : p.checkAddress destination .input with
    | error error => simp [bind, Except.bind]
    | ok =>
      cases taken : p.inputCable? destination with
      | some other => simp [bind, Except.bind, throw, throwThe, MonadExceptOf.throw]
      | none =>
        simp only [bind, Except.bind, pure, Except.pure, Option.isSome_none, Bool.false_eq_true,
          if_false, Except.ok.injEq, Prod.mk.injEq, true_and]
        exact ⟨fun ⟨first, second⟩ => ⟨first.symm, second.symm⟩,
          fun ⟨first, second⟩ => ⟨first.symm, second.symm⟩⟩

theorem outputCables_withCable (p : Patch D) (source destination output : PortAddress) :
    (p.withCable source destination).outputCables output =
      if output = source then
        p.outputCables source ++ [(p.cables.insert ⟨source, destination⟩).1]
      else p.outputCables output := by
  unfold outputCables withCable
  rw [PortIndex.get?_set]
  by_cases same : output = source
  · rw [if_pos same, if_pos same]
    rfl
  · rw [if_neg same, if_neg same]

theorem inputCable?_withCable (p : Patch D) (source destination input : PortAddress) :
    (p.withCable source destination).inputCable? input =
      if input = destination then some (p.cables.insert ⟨source, destination⟩).1
      else p.inputCable? input := by
  unfold inputCable? withCable
  rw [PortIndex.get?_set]

/-- Among the cables after connecting are the new one and those from before. -/
theorem exists_withCable_iff {p : Patch D} (consistent : p.cables.Consistent)
    {source destination : PortAddress} (fits : (p.withCable source destination).cables.Fits)
    (id : CableId) (P : Cable → Prop) :
    (∃ cable, (p.withCable source destination).cable? id = some cable ∧ P cable) ↔
      id = (p.cables.insert ⟨source, destination⟩).1 ∧ P ⟨source, destination⟩ ∨
        ∃ cable, p.cable? id = some cable ∧ P cable := by
  have unused : p.cable? (p.cables.insert ⟨source, destination⟩).1 = none :=
    consistent.get?_insert_key _ fits
  have lookup : (p.withCable source destination).cable? id =
      if id = (p.cables.insert ⟨source, destination⟩).1 then some ⟨source, destination⟩
      else p.cable? id := consistent.get?_insert _ fits id
  rw [lookup]
  by_cases new : id = (p.cables.insert ⟨source, destination⟩).1
  · rw [if_pos new, new, unused]
    simp
  · rw [if_neg new]
    simp [new]

theorem Indexed.withCable {p : Patch D} (indexed : p.Indexed) (consistent : p.cables.Consistent)
    {source destination : PortAddress} (fits : (p.withCable source destination).cables.Fits)
    (vacant : p.inputCable? destination = none) :
    (p.withCable source destination).Indexed where
  feeds_iff := by
    intro input id
    rw [inputCable?_withCable, exists_withCable_iff consistent fits, ← indexed.feeds_iff]
    by_cases same : input = destination
    · subst same
      simp [vacant, eq_comm]
    · simp [same, Ne.symm same]
  fanOut_iff := by
    intro output id
    rw [outputCables_withCable, exists_withCable_iff consistent fits, ← indexed.fanOut_iff]
    by_cases same : output = source
    · subst same
      simp [or_comm]
    · simp [same, Ne.symm same]
  fanOut_nodup := by
    intro output
    rw [outputCables_withCable]
    split
    · have unused : p.cable? (p.cables.insert ⟨source, destination⟩).1 = none :=
        consistent.get?_insert_key _ fits
      have absent : (p.cables.insert ⟨source, destination⟩).1 ∉ p.outputCables source := by
        rw [indexed.fanOut_iff, unused]
        intro begins
        obtain ⟨cable, missing, -⟩ := begins
        cases missing
      rw [List.nodup_append]
      refine ⟨indexed.fanOut_nodup source, by simp, ?_⟩
      intro id member other belongs same
      rw [List.mem_singleton.mp belongs] at same
      exact absent (same ▸ member)
    · exact indexed.fanOut_nodup output
  fanOut_ne_nil := by
    intro output
    unfold Patch.withCable
    rw [PortIndex.get?_set]
    split
    · simp
    · exact indexed.fanOut_ne_nil output

section Connections

variable [Device D] {p : Patch D}

theorem checkAddress_eq_ok_iff_hasPort
    (fitted : ∀ id placed, p.devices.get? id = some placed → placed.Fitted)
    {address : PortAddress} {direction : Direction} :
    p.checkAddress address direction = .ok () ↔ p.HasPort direction address := by
  rw [checkAddress_eq_ok_iff]
  constructor
  · intro listed
    obtain ⟨placed, found, below⟩ := listed
    exact ⟨placed, found, fitted _ placed found direction ▸ below⟩
  · intro port
    obtain ⟨placed, found, below⟩ := port
    exact ⟨placed, found, (fitted _ placed found direction).symm ▸ below⟩

theorem resolvePort_hasPort {id : DeviceId} {name : String} {direction : Direction}
    {address : PortAddress} (resolved : p.resolvePort id name direction = .ok address) :
    p.HasPort direction address := by
  unfold resolvePort at resolved
  split at resolved
  · cases resolved
  next placed found =>
    split at resolved
    · cases resolved
    next connector named =>
      cases resolved
      obtain ⟨present, -⟩ := Panel.lastIndexOf?_eq_some_iff.mp named
      obtain ⟨port, at_connector, -⟩ := Option.map_eq_some_iff.mp present
      exact ⟨placed, found, (List.getElem?_eq_some_iff.mp at_connector).1⟩

/-- Connecting by name is connecting the ports that the names mean. -/
theorem plug_eq_ok_iff {source destination : DeviceId} {sourcePort destinationPort : String}
    {result : CableId × Patch D} :
    p.plug source sourcePort destination destinationPort = .ok result ↔
      ∃ output input, p.resolvePort source sourcePort .output = .ok output ∧
        p.resolvePort destination destinationPort .input = .ok input ∧
        p.connect output input = .ok result := by
  unfold plug
  cases p.resolvePort source sourcePort .output with
  | error error => simp [bind, Except.bind]
  | ok output =>
    cases p.resolvePort destination destinationPort .input with
    | error error => simp [bind, Except.bind]
    | ok input => simp [bind, Except.bind]

theorem setOutput_eq_ok_iff {id : DeviceId} {port : String} {after : Patch D} :
    p.setOutput id port = .ok after ↔
      ∃ address, p.resolvePort id port .output = .ok address ∧
        after = { p with output := some address } := by
  unfold setOutput
  cases p.resolvePort id port .output with
  | error error => simp [bind, Except.bind]
  | ok address => simp [bind, Except.bind, pure, Except.pure, eq_comm]

theorem Wired.cable?_withCable (wired : p.Wired) {source destination : PortAddress}
    (fits : (p.withCable source destination).cables.Fits) (id : CableId) :
    (p.withCable source destination).cable? id =
      if id = (p.cables.insert ⟨source, destination⟩).1 then some ⟨source, destination⟩
      else p.cable? id :=
  wired.cables_consistent.get?_insert _ fits id

theorem Endpoints.withCable (endpoints : p.Endpoints) (consistent : p.cables.Consistent)
    {source destination : PortAddress} (fits : (p.withCable source destination).cables.Fits)
    (begins : p.HasPort .output source) (ends : p.HasPort .input destination) :
    (p.withCable source destination).Endpoints := by
  intro id cable live
  have live := (consistent.get?_insert ⟨source, destination⟩ fits id).symm.trans live
  split at live
  · cases live
    exact ⟨begins, ends⟩
  · exact endpoints id cable live

theorem Wired.withCable (wired : p.Wired) {source destination : PortAddress}
    (fits : (p.withCable source destination).cables.Fits)
    (begins : p.HasPort .output source) (ends : p.HasPort .input destination)
    (vacant : p.inputCable? destination = none) : (p.withCable source destination).Wired where
  devices_consistent := wired.devices_consistent
  devices_fit := wired.devices_fit
  fitted := wired.fitted
  cables_consistent := wired.cables_consistent.insert _
  cables_fit := fits
  indexed := wired.indexed.withCable wired.cables_consistent fits vacant
  endpoints := Endpoints.withCable wired.endpoints wired.cables_consistent fits begins ends
  output_port := wired.output_port

/-- Any output port may be chosen as the output. -/
theorem Wired.withOutput (wired : p.Wired) {output : Option PortAddress}
    (port : ∀ address, output = some address → p.HasPort .output address) :
    ({ p with output } : Patch D).Wired where
  devices_consistent := wired.devices_consistent
  devices_fit := wired.devices_fit
  fitted := wired.fitted
  cables_consistent := wired.cables_consistent
  cables_fit := wired.cables_fit
  indexed := wired.indexed.of_eq rfl rfl rfl
  endpoints := wired.endpoints
  output_port := port

theorem Endpoints.of_retains {q : Patch D} (endpoints : p.Endpoints) (same : p.Retains q) :
    q.Endpoints := by
  intro id cable live
  rw [same.cable?_eq] at live
  rw [same.hasPort_iff, same.hasPort_iff]
  exact endpoints id cable live

/-- A patch that differs only in what its devices and ports hold is wired as before. -/
theorem Wired.of_retains {q : Patch D} (wired : p.Wired) (same : p.Retains q) : q.Wired where
  devices_consistent := same.devices.consistent wired.devices_consistent
  devices_fit := same.devices.fits wired.devices_fit
  fitted := by
    intro id placed live
    obtain ⟨earlier, before, step⟩ := exists_left_of_rel (same.devices.get? id) live
    exact step.2 (wired.fitted id earlier before)
  cables_consistent := by
    rw [same.cables_eq]
    exact wired.cables_consistent
  cables_fit := by
    rw [same.cables_eq]
    exact wired.cables_fit
  indexed := wired.indexed.of_eq same.cables_eq same.feeds_eq same.fanOut_eq
  endpoints := Endpoints.of_retains wired.endpoints same
  output_port := by
    intro address chosen
    rw [same.output_eq] at chosen
    rw [same.hasPort_iff]
    exact wired.output_port address chosen

end Connections

end Patch

end ModularSynth
