import ModularSynth.Proofs.Patch.Wiring
import ModularSynth.Proofs.Slots.History

/-!
# A patch and the history of its keys

What operations do to the slots of devices and cables is read off the answers to them, and of a
deletion off the cables that touched the device. `Patch.Chronicled` ties the two stores of a patch
to these histories, and every operation adds its events to them (`Chronicled.effect`). What one
operation does to the device or the cable under a key is said here too: it stays, or it is taken
out, and a key that finds nothing finds nothing until it is given out.
-/

namespace ModularSynth

variable {D : Type}

namespace Operation

/-- The operation takes out the cable with this key, alone or with one of its devices. -/
def Cuts (id : CableId) (cable : Cable) : Operation D → Prop
  | .unplug other => other = id
  | .deleteDevice device => cable.destination.device = device ∨ cable.source.device = device
  | _ => False

/-- What an operation does to the slots of devices. -/
def deviceEvents : Operation D → Answer → SlotHistory .device
  | _, .device id => [.filled id]
  | .deleteDevice id, .done => [.freed id]
  | _, _ => []

/-- What an operation does to the slots of cables; `touching` lists the cables that go with a
device. -/
def cableEvents (touching : DeviceId → List CableId) : Operation D → Answer → SlotHistory .cable
  | _, .cable id => [.filled id]
  | .unplug id, .done => [.freed id]
  | .deleteDevice id, .done => (touching id).map .freed
  | _, _ => []

@[simp]
theorem deviceEvents_device (operation : Operation D) (id : DeviceId) :
    operation.deviceEvents (.device id) = [.filled id] := by
  cases operation <;> rfl

@[simp]
theorem deviceEvents_cable (operation : Operation D) (id : CableId) :
    operation.deviceEvents (.cable id) = [] := by
  cases operation <;> rfl

@[simp]
theorem cableEvents_cable (operation : Operation D) (touching : DeviceId → List CableId)
    (id : CableId) : operation.cableEvents touching (.cable id) = [.filled id] := by
  cases operation <;> rfl

@[simp]
theorem deviceEvents_failed (operation : Operation D) (error : PatchError) :
    operation.deviceEvents (.failed error) = [] := by
  cases operation <;> rfl

@[simp]
theorem cableEvents_failed (operation : Operation D) (touching : DeviceId → List CableId)
    (error : PatchError) : operation.cableEvents touching (.failed error) = [] := by
  cases operation <;> rfl

theorem deviceEvents_of_keeps {operation : Operation D} {answer : Answer}
    (keeps : ¬ operation.Removes) (quiet : answer.device? = none) :
    operation.deviceEvents answer = [] := by
  cases answer with
  | device id => cases quiet
  | done =>
    cases operation with
    | deleteDevice id => exact absurd trivial keeps
    | _ => rfl
  | _ => cases operation <;> rfl

theorem cableEvents_of_keeps {operation : Operation D} {answer : Answer}
    (touching : DeviceId → List CableId) (keeps : ¬ operation.Removes)
    (quiet : answer.cable? = none) : operation.cableEvents touching answer = [] := by
  cases answer with
  | cable id => cases quiet
  | done =>
    cases operation with
    | deleteDevice id => exact absurd trivial keeps
    | unplug id => exact absurd trivial keeps
    | _ => rfl
  | _ => cases operation <;> rfl

end Operation

namespace Patch

/-- The cables that go with a device: those at its inputs in the order of connectors, then those at
its outputs, each output's oldest first. -/
def touching (p : Patch D) (id : DeviceId) : List CableId :=
  match p.devices.get? id with
  | some placed => (p.incidentCables id placed).eraseDups
  | none => []

/-- Cables that are removed again are no longer there. -/
theorem foldl_removeCable_of_gone {p : Patch D} {gone : CableId → Bool}
    (absent : ∀ id, gone id = true → p.cable? id = none) (ids : List CableId) :
    ids.foldl removeCable p = (ids.filter (!gone ·)).foldl removeCable p := by
  induction ids generalizing p with
  | nil => rfl
  | cons id ids ih =>
    have still : ∀ other, gone other = true → (p.removeCable id).cable? other = none := by
      intro other away
      rw [cable?_removeCable, absent other away, ite_self]
    rw [List.foldl_cons]
    cases away : gone id with
    | true =>
      rw [removeCable_of_none (absent id away), ih absent,
        List.filter_cons_of_neg (by simp [away])]
    | false => rw [ih still, List.filter_cons_of_pos (by simp [away]), List.foldl_cons]

/-- Removing cables frees their slots one after the other. -/
theorem recorded_foldl_removeCable {p : Patch D} {ids : List CableId}
    {history : SlotHistory .cable} (recorded : p.cables.Recorded history)
    (live : ∀ id ∈ ids, ∃ cable, p.cable? id = some cable) :
    (ids.foldl removeCable p).cables.Recorded (history ++ ids.eraseDups.map .freed) := by
  induction length : ids.length using Nat.strong_induction_on generalizing p ids history with
  | _ count ih =>
    cases ids with
    | nil =>
      rw [List.eraseDups_nil, List.map_nil, List.append_nil]
      exact recorded
    | cons id ids =>
      obtain ⟨cable, found⟩ := live id List.mem_cons_self
      have gone : ∀ other, (other == id) = true → (p.removeCable id).cable? other = none := by
        intro other same
        rw [cable?_removeCable, if_pos (eq_of_beq same)]
      have freed : (p.removeCable id).cables.Recorded (history ++ [.freed id]) := by
        rw [cables_removeCable]
        exact recorded.remove found
      have others : ∀ other ∈ ids.filter (fun other => !other == id),
          ∃ cable, (p.removeCable id).cable? other = some cable := by
        intro other member
        obtain ⟨listed, different⟩ := List.mem_filter.mp member
        rw [cable?_removeCable, if_neg (by simpa using different)]
        exact live other (List.mem_cons_of_mem _ listed)
      have shorter : (ids.filter fun other => !other == id).length < count := by
        have bound := List.length_filter_le (fun other => !other == id) ids
        rw [List.length_cons] at length
        omega
      have rest := ih _ shorter freed others rfl
      rw [List.append_assoc] at rest
      rw [List.foldl_cons, foldl_removeCable_of_gone gone, List.eraseDups_cons, List.map_cons]
      exact rest

variable [Device D]

/-- What operations do to the slots of devices. -/
def deviceHistory (p : Patch D) : List (Operation D) → SlotHistory .device
  | [] => []
  | operation :: operations =>
    operation.deviceEvents (p.perform operation).1 ++
      (p.perform operation).2.deviceHistory operations

/-- What operations do to the slots of cables. -/
def cableHistory (p : Patch D) : List (Operation D) → SlotHistory .cable
  | [] => []
  | operation :: operations =>
    operation.cableEvents p.touching (p.perform operation).1 ++
      (p.perform operation).2.cableHistory operations

theorem snd_run_append (p : Patch D) (done later : List (Operation D)) :
    (p.run (done ++ later)).2 = ((p.run done).2.run later).2 := by
  induction done generalizing p with
  | nil => rfl
  | cons operation done ih => exact ih (p.perform operation).2

theorem deviceHistory_append (p : Patch D) (done later : List (Operation D)) :
    p.deviceHistory (done ++ later) =
      p.deviceHistory done ++ (p.run done).2.deviceHistory later := by
  induction done generalizing p with
  | nil => rfl
  | cons operation done ih =>
    simp only [List.cons_append, deviceHistory, run, ih, List.append_assoc]

theorem cableHistory_append (p : Patch D) (done later : List (Operation D)) :
    p.cableHistory (done ++ later) =
      p.cableHistory done ++ (p.run done).2.cableHistory later := by
  induction done generalizing p with
  | nil => rfl
  | cons operation done ih =>
    simp only [List.cons_append, cableHistory, run, ih, List.append_assoc]

/-! ### Histories of both stores -/

/-- The stores of a patch have these histories. -/
structure Chronicled (p : Patch D) (devices : SlotHistory .device) (cables : SlotHistory .cable) :
    Prop where
  wired : p.Wired
  devices : p.devices.Recorded devices
  cables : p.cables.Recorded cables

theorem chronicled_ofSettings (settings : Settings) :
    (ofSettings settings : Patch D).Chronicled [] [] where
  wired := wired_ofSettings settings
  devices := Slots.recorded_empty
  cables := Slots.recorded_empty

section Step

variable {p after : Patch D} {operation : Operation D} {answer : Answer}

/-- Each operation adds its events to the histories. -/
theorem Chronicled.effect {devices : SlotHistory .device} {cables : SlotHistory .cable}
    (chronicled : p.Chronicled devices cables) (effect : p.Effect operation answer after)
    (capacity : after.WithinCapacity) :
    after.Chronicled (devices ++ operation.deviceEvents answer)
      (cables ++ operation.cableEvents p.touching answer) := by
  have wired := chronicled.wired.effect effect capacity
  cases effect with
  | refused operation error =>
    rw [Operation.deviceEvents_failed, Operation.cableEvents_failed, List.append_nil,
      List.append_nil]
    exact chronicled
  | aged _ _ _ keeps quiet same =>
    rw [Operation.deviceEvents_of_keeps keeps quiet.1,
      Operation.cableEvents_of_keeps p.touching keeps quiet.2, List.append_nil, List.append_nil]
    exact ⟨wired, same.devices.recorded chronicled.devices, same.cables_eq ▸ chronicled.cables⟩
  | added device =>
    refine ⟨wired, ?_, ?_⟩
    · exact chronicled.devices.insert chronicled.wired.devices_consistent _
        (chronicled.wired.fits_addDevice capacity)
    · simp only [Operation.cableEvents, List.append_nil]
      exact chronicled.cables
  | deleted id placed found =>
    have live : ∀ cable ∈ p.incidentCables id placed, ∃ c, p.cable? cable = some c := by
      intro cable member
      obtain ⟨c, found, -⟩ := (chronicled.wired.mem_incidentCables_iff found cable).mp member
      exact ⟨c, found⟩
    have touched : p.touching id = (p.incidentCables id placed).eraseDups := by
      unfold touching
      rw [found]
    refine ⟨wired, ?_, ?_⟩
    · rw [devices_withoutDevice]
      exact chronicled.devices.remove found
    · simp only [Operation.cableEvents, touched]
      exact recorded_foldl_removeCable chronicled.cables live
  | connected operation source destination begins ends vacant =>
    rw [Operation.deviceEvents_cable, Operation.cableEvents_cable, List.append_nil]
    exact ⟨wired, chronicled.devices, chronicled.cables.insert chronicled.wired.cables_consistent _
      (chronicled.wired.fits_withCable capacity)⟩
  | unplugged id cable found =>
    refine ⟨wired, ?_, ?_⟩
    · rw [devices_removeCable]
      simp only [Operation.deviceEvents, List.append_nil]
      exact chronicled.devices
    · rw [cables_removeCable]
      exact chronicled.cables.remove found
  | chosen operation keeps output port =>
    rw [Operation.deviceEvents_of_keeps keeps rfl,
      Operation.cableEvents_of_keeps p.touching keeps rfl, List.append_nil, List.append_nil]
    exact ⟨wired, chronicled.devices, chronicled.cables⟩

/-- The queue of vacant slots of devices stays consistent, -/
theorem Effect.devices_consistent (effect : p.Effect operation answer after)
    (consistent : p.devices.Consistent) : after.devices.Consistent := by
  cases effect with
  | aged _ _ _ keeps quiet same => exact same.devices.consistent consistent
  | added device => exact consistent.insert _
  | deleted id placed found =>
    rw [devices_withoutDevice]
    exact consistent.remove id
  | unplugged id cable found =>
    rw [devices_removeCable]
    exact consistent
  | _ => exact consistent

/-- and while it is, a device stays under its key until it is deleted. -/
theorem Effect.device_kept (effect : p.Effect operation answer after)
    (consistent : p.devices.Consistent) {id : DeviceId} {placed : Placed D}
    (live : p.devices.get? id = some placed) (kept : operation ≠ .deleteDevice id) :
    ∃ placed', after.devices.get? id = some placed' ∧ placed.Ages placed' := by
  cases effect with
  | refused operation error => exact ⟨placed, live, .refl⟩
  | aged _ _ _ keeps quiet same => exact same.devices.exists_of_get? live
  | added device => exact ⟨placed, consistent.get?_insert_of_some _ live, .refl⟩
  | deleted other placed' found =>
    have different : id ≠ other := fun same => kept (by rw [same])
    refine ⟨placed, ?_, .refl⟩
    rw [devices_withoutDevice, Slots.get?_remove, if_neg different, live]
  | connected operation source destination begins ends vacant => exact ⟨placed, live, .refl⟩
  | unplugged other cable found =>
    rw [devices_removeCable]
    exact ⟨placed, live, .refl⟩
  | chosen operation keeps output port => exact ⟨placed, live, .refl⟩

theorem devices_consistent_of_reachable (reachable : p.Reachable) : p.devices.Consistent := by
  obtain ⟨settings, operations, rfl⟩ := reachable
  refine run_induction (fun _ => True) (fun _ p => p.devices.Consistent) ?_ operations [] _
    Slots.consistent_empty fun _ _ => trivial
  intro answers p operation consistent _
  exact (effect_perform p operation).devices_consistent consistent

/-- A device stays under its key through every run that does not delete it. -/
theorem device_kept_of_run (consistent : p.devices.Consistent) {id : DeviceId} {placed : Placed D}
    (live : p.devices.get? id = some placed) {later : List (Operation D)}
    (kept : .deleteDevice id ∉ later) :
    ∃ placed', (p.run later).2.devices.get? id = some placed' ∧ placed.Ages placed' := by
  induction later generalizing p placed with
  | nil => exact ⟨placed, live, .refl⟩
  | cons operation later ih =>
    obtain ⟨other, rest⟩ := not_or.mp (mt List.mem_cons.mpr kept)
    have effect := effect_perform p operation
    obtain ⟨now, found, ages⟩ := effect.device_kept consistent live (Ne.symm other)
    obtain ⟨last, found', ages'⟩ := ih (effect.devices_consistent consistent) found rest
    exact ⟨last, found', ages.trans _ _ _ ages'⟩

/-- A key that finds no device finds none until it is given out. -/
theorem Effect.device_gone (effect : p.Effect operation answer after) (wired : p.Wired)
    (capacity : after.WithinCapacity) {id : DeviceId} (gone : p.devices.get? id = none)
    (unused : answer ≠ .device id) : after.devices.get? id = none := by
  cases effect with
  | refused operation error => exact gone
  | aged _ _ _ keeps quiet same =>
    rcases rel_cases (same.devices.get? id) with ⟨-, missing⟩ | ⟨before, now, found, -, -⟩
    · exact missing
    · rw [gone] at found
      cases found
  | added device =>
    have fits := wired.fits_addDevice capacity
    have different : id ≠ (p.devices.insert (.fresh device)).1 := fun same =>
      unused (by rw [same]; rfl)
    rw [← gone]
    exact (wired.devices_consistent.get?_insert (.fresh device) fits id).trans (if_neg different)
  | deleted other placed' found =>
    rw [devices_withoutDevice, Slots.get?_remove, gone, ite_self]
  | connected operation source destination begins ends vacant => exact gone
  | unplugged other cable found =>
    rw [devices_removeCable]
    exact gone
  | chosen operation keeps output port => exact gone

/-- A cable keeps its ends until it is taken out. -/
theorem Effect.cable_kept (effect : p.Effect operation answer after) (wired : p.Wired)
    (capacity : after.WithinCapacity) {id : CableId} {cable : Cable}
    (live : p.cable? id = some cable) (kept : ¬ operation.Cuts id cable) :
    after.cable? id = some cable := by
  cases effect with
  | refused operation error => exact live
  | aged _ _ _ keeps quiet same => exact (same.retains.cable?_eq id).trans live
  | added device => exact live
  | deleted device placed found =>
    have untouched : id ∉ p.incidentCables device placed := by
      intro touched
      obtain ⟨other, found', touches⟩ := (wired.mem_incidentCables_iff found id).mp touched
      rw [live] at found'
      cases found'
      exact kept touches
    rw [cable?_withoutDevice, if_neg untouched, live]
  | connected operation source destination begins ends vacant =>
    have fits := wired.fits_withCable capacity
    have unused := wired.cables_consistent.get?_insert_key ⟨source, destination⟩ fits
    have different : id ≠ (p.cables.insert ⟨source, destination⟩).1 := by
      intro same
      rw [← same] at unused
      exact absurd (live.symm.trans unused) (Option.some_ne_none cable)
    rw [wired.cable?_withCable fits, if_neg different, live]
  | unplugged other cable' found =>
    rw [cable?_removeCable, if_neg (Ne.symm kept), live]
  | chosen operation keeps output port => exact live

/-- A key that finds no cable finds none until it is given out. -/
theorem Effect.cable_gone (effect : p.Effect operation answer after) (wired : p.Wired)
    (capacity : after.WithinCapacity) {id : CableId} (gone : p.cable? id = none)
    (unused : answer ≠ .cable id) : after.cable? id = none := by
  cases effect with
  | refused operation error => exact gone
  | aged _ _ _ keeps quiet same => exact (same.retains.cable?_eq id).trans gone
  | added device => exact gone
  | deleted device placed found => rw [cable?_withoutDevice, gone, ite_self]
  | connected operation source destination begins ends vacant =>
    have fits := wired.fits_withCable capacity
    have different : id ≠ (p.cables.insert ⟨source, destination⟩).1 := fun same =>
      unused (by rw [same])
    rw [wired.cable?_withCable fits, if_neg different, gone]
  | unplugged other cable' found => rw [cable?_removeCable, gone, ite_self]
  | chosen operation keeps output port => exact gone

/-- A device is added to the slot that was freed earliest, or to a new one. -/
theorem Effect.device_slot (effect : p.Effect operation answer after)
    {devices : SlotHistory .device} {cables : SlotHistory .cable}
    (chronicled : p.Chronicled devices cables) (capacity : after.WithinCapacity) {id : DeviceId}
    (added : answer.device? = some id) : id.slot.toNat = devices.nextSlot := by
  cases effect with
  | added device =>
    cases added
    exact chronicled.devices.slot_insert chronicled.wired.devices_consistent _
      (chronicled.wired.fits_addDevice capacity)
  | aged _ _ _ keeps quiet same =>
    rw [quiet.1] at added
    cases added
  | _ => cases added

/-- A cable is connected in the slot that was freed earliest, or in a new one. -/
theorem Effect.cable_slot (effect : p.Effect operation answer after)
    {devices : SlotHistory .device} {cables : SlotHistory .cable}
    (chronicled : p.Chronicled devices cables) (capacity : after.WithinCapacity) {id : CableId}
    (connected : answer.cable? = some id) : id.slot.toNat = cables.nextSlot := by
  cases effect with
  | connected operation source destination begins ends vacant =>
    cases connected
    exact chronicled.cables.slot_insert chronicled.wired.cables_consistent _
      (chronicled.wired.fits_withCable capacity)
  | aged _ _ _ keeps quiet same =>
    rw [quiet.2] at connected
    cases connected
  | _ => cases connected

end Step

/-- A device that is there can be deleted, and takes its cables with it. -/
theorem perform_deleteDevice {p : Patch D} {id : DeviceId} {placed : Placed D}
    (found : p.devices.get? id = some placed) :
    p.perform (.deleteDevice id) = (.done, p.withoutDevice id placed) := by
  simp only [perform, deleteDevice_of_some found, settle]

/-- What takes a cable out leaves none under its key. -/
theorem Wired.cable?_perform_of_cuts {p : Patch D} (wired : p.Wired) {id : CableId} {cable : Cable}
    (live : p.cable? id = some cable) {operation : Operation D} (cuts : operation.Cuts id cable) :
    (p.perform operation).2.cable? id = none := by
  cases operation with
  | unplug other =>
    cases cuts
    have present : p.cables.contains id = true := Option.isSome_of_eq_some live
    simp only [perform, unplug, present, if_true, settle]
    rw [cable?_removeCable, if_pos rfl]
  | deleteDevice device =>
    obtain ⟨⟨placed, found_source, -⟩, ⟨placed', found_destination, -⟩⟩ :=
      wired.endpoints id cable live
    have touched : ∃ placed, p.devices.get? device = some placed := by
      rcases cuts with rfl | rfl
      · exact ⟨placed', found_destination⟩
      · exact ⟨placed, found_source⟩
    obtain ⟨placed, found⟩ := touched
    have incident := (wired.mem_incidentCables_iff found id).mpr ⟨cable, live, cuts⟩
    rw [perform_deleteDevice found, cable?_withoutDevice, if_pos incident]
  | _ => exact absurd cuts not_false

end Patch

end ModularSynth
