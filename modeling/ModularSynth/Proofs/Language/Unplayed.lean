import ModularSynth.Language.Compile
import ModularSynth.Proofs.Language.Commands
import ModularSynth.Proofs.Patch.Places

/-!
# What every description builds

A description only adds devices and cables, so no slot is vacated while a patch is built from it and
no pass is made: every device is as it was added, every cable leads from an output to an input of
devices that are there, and the sampling rate is positive (`Patch.Unplayed`). Every command keeps
this (`Session.unplayed_perform`), whatever the registry and however many devices there are.
-/

namespace ModularSynth

variable {D : Type} [Device D]

namespace Patch

/-- A patch that was built up and never run. -/
structure Unplayed (p : Patch D) : Prop where
  devices_free : p.devices.free = []
  fresh : ∀ slot placed, p.devices.at? slot = some placed → ∃ device, placed = .fresh device
  fed : p.Fed
  endpoints : ∀ cable ∈ p.cables.values,
    p.HasPort .output cable.source ∧ p.HasPort .input cable.destination
  rate_ne_zero : p.rate ≠ 0

theorem unplayed_ofSettings {settings : Settings} (positive : settings.rate ≠ 0) :
    (ofSettings settings : Patch D).Unplayed where
  devices_free := rfl
  fresh := by
    intro slot placed held
    cases held
  fed := fed_ofSettings settings
  endpoints := by
    intro cable member
    cases member
  rate_ne_zero := positive

section Unplayed

variable {p : Patch D}

theorem Unplayed.devices_addDevice (unplayed : p.Unplayed) (device : D) :
    (p.addDevice device).2.devices.slots =
      p.devices.slots ++ [⟨firstGeneration, some (.fresh device)⟩] := by
  unfold addDevice
  rw [Slots.insert_of_free_nil unplayed.devices_free]

/-- The ports that are there stay when a device is added. -/
theorem Unplayed.hasPort_addDevice (unplayed : p.Unplayed) (device : D) {direction : Direction}
    {address : PortAddress} (port : p.HasPort direction address) :
    (p.addDevice device).2.HasPort direction address := by
  obtain ⟨placed, found, below⟩ := port
  refine ⟨placed, ?_, below⟩
  rw [Slots.get?_eq_some_iff] at found ⊢
  have inside := (List.getElem?_eq_some_iff.mp found).1
  rw [unplayed.devices_addDevice, List.getElem?_append_left inside, found]

theorem Unplayed.addDevice (unplayed : p.Unplayed) (device : D) :
    (p.addDevice device).2.Unplayed where
  devices_free := by
    unfold Patch.addDevice
    rw [Slots.insert_of_free_nil unplayed.devices_free]
  fresh := by
    intro slot placed held
    obtain ⟨generation, found⟩ := Slots.at?_eq_some_iff.mp held
    rw [unplayed.devices_addDevice] at found
    rcases List.mem_append.mp (List.mem_of_getElem? found) with earlier | new
    · obtain ⟨other, found'⟩ := List.mem_iff_getElem?.mp earlier
      exact unplayed.fresh other placed (Slots.at?_eq_some_iff.mpr ⟨generation, found'⟩)
    · have same := List.mem_singleton.mp new
      simp only [Slot.mk.injEq, Option.some.injEq] at same
      exact ⟨device, same.2⟩
  fed := unplayed.fed.of_eq rfl rfl
  endpoints := by
    intro cable member
    obtain ⟨begins, ends⟩ := unplayed.endpoints cable member
    exact ⟨unplayed.hasPort_addDevice device begins, unplayed.hasPort_addDevice device ends⟩
  rate_ne_zero := unplayed.rate_ne_zero

theorem Unplayed.withCable (unplayed : p.Unplayed) {source destination : PortAddress}
    (begins : p.HasPort .output source) (ends : p.HasPort .input destination)
    (vacant : p.inputCable? destination = none) : (p.withCable source destination).Unplayed where
  devices_free := unplayed.devices_free
  fresh := unplayed.fresh
  fed := unplayed.fed.withCable vacant
  endpoints := by
    intro cable member
    obtain ⟨index, held⟩ := Slots.mem_values_iff.mp member
    obtain ⟨generation, found⟩ := Slots.at?_eq_some_iff.mp held
    obtain ⟨position, occupied⟩ := p.cables.occupied_of_insert ⟨source, destination⟩
    rcases occupied index generation cable found with ⟨-, rfl⟩ | before
    · exact ⟨begins, ends⟩
    · exact unplayed.endpoints cable
        (Slots.mem_values_iff.mpr ⟨index, Slots.at?_eq_some_iff.mpr ⟨generation, before⟩⟩)
  rate_ne_zero := unplayed.rate_ne_zero

theorem Unplayed.setRate (unplayed : p.Unplayed) {hertz : UInt32} (positive : hertz ≠ 0) :
    (p.setRate hertz).Unplayed where
  devices_free := unplayed.devices_free
  fresh := unplayed.fresh
  fed := unplayed.fed.of_eq rfl rfl
  endpoints := unplayed.endpoints
  rate_ne_zero := positive

theorem Unplayed.withOutput (unplayed : p.Unplayed) (output : Option PortAddress) :
    ({ p with output } : Patch D).Unplayed where
  devices_free := unplayed.devices_free
  fresh := unplayed.fresh
  fed := unplayed.fed.of_eq rfl rfl
  endpoints := unplayed.endpoints
  rate_ne_zero := unplayed.rate_ne_zero

end Unplayed

end Patch

namespace Session

variable {registry : Registry D}

theorem unplayed_bindOutput {s : Session D} (unplayed : s.patch.Unplayed) :
    s.bindOutput.2.patch.Unplayed := by
  unfold bindOutput
  split
  next id port unbound device given =>
    unfold Patch.setOutput
    cases s.patch.resolvePort id port .output with
    | error error => exact unplayed
    | ok address => exact unplayed.withOutput (some address)
  next => exact unplayed

theorem unplayed_setParameter {s after : Session D} {name : String} {value : Value}
    (unplayed : s.patch.Unplayed) (recorded : s.setParameter name value = .ok after) :
    after.patch.Unplayed := by
  rcases setParameter_eq_ok_iff.mp recorded with
    ⟨-, n, -, inside, rfl⟩ | ⟨-, -, device, id, -, -, rfl⟩ | ⟨-, -, port, -, rfl⟩
  · refine unplayed.setRate ?_
    intro zero
    have number := congrArg UInt32.toNat zero
    rw [UInt32.toNat_ofNat'] at number
    simp only [UInt32.size, UInt32.toNat_zero] at inside number
    omega
  · exact unplayed
  · exact unplayed

/-- Every command leaves a patch that was built up and never run. -/
theorem unplayed_perform {s : Session D} (unplayed : s.patch.Unplayed) (command : Command) :
    (s.perform registry command).2.patch.Unplayed := by
  cases command with
  | parameter name value =>
    cases recorded : s.setParameter name value with
    | error fault =>
      rw [perform_parameter_of_error recorded]
      exact unplayed
    | ok after =>
      rw [perform_parameter_of_ok recorded]
      exact unplayed_bindOutput (unplayed_setParameter unplayed recorded)
  | create name typeName arguments =>
    cases created : s.create registry name typeName arguments with
    | error fault =>
      rw [perform_create_of_error created]
      exact unplayed
    | ok after =>
      rw [perform_create_of_ok created]
      obtain ⟨-, device, -, rfl⟩ := create_eq_ok_iff.mp created
      exact unplayed.addDevice device
  | connect source destination =>
    cases connected : s.connect source destination with
    | error fault =>
      rw [perform_connect_of_error connected]
      exact unplayed
    | ok after =>
      rw [perform_connect_of_ok connected]
      obtain ⟨sourceId, destinationId, id, patch, -, -, plugged, rfl⟩ :=
        connect_eq_ok_iff.mp connected
      obtain ⟨output, input, begins, ends, joined⟩ := Patch.plug_eq_ok_iff.mp plugged
      obtain ⟨-, -, vacant, -, rfl⟩ := Patch.connect_eq_ok_iff.mp joined
      exact unplayed.withCable (Patch.resolvePort_hasPort begins) (Patch.resolvePort_hasPort ends)
        vacant

theorem unplayed_run (statements : List (Except ParseError Statement)) {s : Session D}
    (unplayed : s.patch.Unplayed) : (s.run registry statements).2.patch.Unplayed := by
  induction statements generalizing s with
  | nil => exact unplayed
  | cons head statements ih =>
    cases head with
    | error error => exact unplayed
    | ok statement =>
      have next : (s.execute registry statement).2.patch.Unplayed :=
        unplayed_perform unplayed statement.command
      unfold run
      split
      next after carried =>
        rw [carried] at next
        exact ih next
      next error after refused =>
        rw [refused] at next
        exact next

end Session

/-- Whatever a description builds at a positive sampling rate was built up and never run. -/
theorem unplayed_of_compileWith {registry : Registry D} {settings : Settings} {text : String}
    {p : Patch D} (positive : settings.rate ≠ 0)
    (compiled : compileWith registry settings text = .ok p) : p.Unplayed := by
  have unplayed : (({ patch := .ofSettings settings } : Session D).run registry
      (parseText text)).2.patch.Unplayed :=
    Session.unplayed_run (parseText text) (Patch.unplayed_ofSettings positive)
  unfold compileWith at compiled
  split at compiled
  next s finished =>
    cases compiled
    rw [finished] at unplayed
    exact unplayed
  next => cases compiled

end ModularSynth
