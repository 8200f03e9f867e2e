import ModularSynth.Proofs.Patch.Chronicle

/-!
# The lifetime of keys

Keys are told apart over a whole run, not only among those that live at a time: no key is given out
twice, so a device lives under its key exactly until the key is given to `deleteDevice`, a cable
until it is unplugged or one of its devices is deleted, and what no longer lives, or does not live
yet, is refused (`lasting_of_run`). An operation that names several devices is refused for one that
does not live, with one exception: a connection is judged at its source first, so a living source
without the named output is what it complains about.
-/

namespace ModularSynth

variable {D : Type}

namespace Operation

/-- The devices that an operation names. -/
def deviceIds : Operation D → List DeviceId
  | .deleteDevice id => [id]
  | .plug source _ destination _ => [source, destination]
  | .connect source destination => [source.device, destination.device]
  | .setOutput id _ => [id]
  | _ => []

/-- The cables that an operation names. -/
def cableIds : Operation D → List CableId
  | .unplug id => [id]
  | _ => []

end Operation

namespace Patch

variable [Device D]

/-! ### Runs -/

section Run

variable {p : Patch D} {devices : SlotHistory .device} {cables : SlotHistory .cable}
variable {later : List (Operation D)}

/-- What holds of a patch with its histories, and is preserved by the operations to come as long as
there never are more devices or cables than slot numbers, holds after them. -/
theorem Chronicled.run_induction
    (Holds : SlotHistory .device → SlotHistory .cable → Patch D → Prop)
    (preserved : ∀ devices cables (p : Patch D) operation, operation ∈ later →
      p.Chronicled devices cables → (p.perform operation).2.WithinCapacity →
      Holds devices cables p →
        Holds (devices ++ operation.deviceEvents (p.perform operation).1)
          (cables ++ operation.cableEvents p.touching (p.perform operation).1)
          (p.perform operation).2)
    (chronicled : p.Chronicled devices cables) (start : Holds devices cables p)
    (capacity : ∀ front, front <+: later → (p.run front).2.WithinCapacity) :
    Holds (devices ++ p.deviceHistory later) (cables ++ p.cableHistory later)
      (p.run later).2 := by
  induction later generalizing p devices cables with
  | nil =>
    simp only [deviceHistory, cableHistory, run, List.append_nil]
    exact start
  | cons operation later ih =>
    have within := capacity [operation] (List.prefix_append [operation] later)
    have next := preserved devices cables p operation List.mem_cons_self chronicled within start
    have rest := ih
      (fun devices cables p operation member =>
        preserved devices cables p operation (List.mem_cons_of_mem _ member))
      (chronicled.effect (effect_perform p operation) within) next
      fun front shorter =>
        capacity (operation :: front) (List.cons_prefix_cons.mpr ⟨rfl, shorter⟩)
    simp only [deviceHistory, cableHistory, run]
    rw [List.append_assoc, List.append_assoc] at rest
    exact rest

variable (capacity : ∀ front, front <+: later → (p.run front).2.WithinCapacity)
include capacity

theorem Chronicled.run (chronicled : p.Chronicled devices cables) :
    (p.run later).2.Chronicled (devices ++ p.deviceHistory later)
      (cables ++ p.cableHistory later) :=
  run_induction (fun devices cables p => p.Chronicled devices cables)
    (fun _ _ p operation _ _ within holds => holds.effect (effect_perform p operation) within)
    chronicled chronicled capacity

theorem Chronicled.run_device_gone (chronicled : p.Chronicled devices cables)
    (once : (devices ++ p.deviceHistory later).given.Nodup) {id : DeviceId}
    (given : id ∈ devices.given) (gone : p.devices.get? id = none) :
    (p.run later).2.devices.get? id = none := by
  refine (run_induction
    (fun devices _ p => id ∈ devices.given ∧ (devices.given.Nodup → p.devices.get? id = none))
    ?preserved chronicled ⟨given, fun _ => gone⟩ capacity).2 once
  case preserved =>
    intro devices cables p operation _ chronicled within holds
    obtain ⟨given, gone⟩ := holds
    rw [SlotHistory.given_append]
    refine ⟨List.mem_append_left _ given, ?_⟩
    intro once
    obtain ⟨before, -, apart⟩ := List.nodup_append.mp once
    refine (effect_perform p operation).device_gone chronicled.wired within (gone before) ?_
    intro added
    rw [added, Operation.deviceEvents_device] at apart
    exact apart id given id List.mem_cons_self rfl

theorem Chronicled.run_cable_gone (chronicled : p.Chronicled devices cables)
    (once : (cables ++ p.cableHistory later).given.Nodup) {id : CableId}
    (given : id ∈ cables.given) (gone : p.cable? id = none) : (p.run later).2.cable? id = none := by
  refine (run_induction
    (fun _ cables p => id ∈ cables.given ∧ (cables.given.Nodup → p.cable? id = none))
    ?preserved chronicled ⟨given, fun _ => gone⟩ capacity).2 once
  case preserved =>
    intro devices cables p operation _ chronicled within holds
    obtain ⟨given, gone⟩ := holds
    rw [SlotHistory.given_append]
    refine ⟨List.mem_append_left _ given, ?_⟩
    intro once
    obtain ⟨before, -, apart⟩ := List.nodup_append.mp once
    refine (effect_perform p operation).cable_gone chronicled.wired within (gone before) ?_
    intro connected
    rw [connected, Operation.cableEvents_cable] at apart
    exact apart id given id List.mem_cons_self rfl

theorem Chronicled.run_cable_kept (chronicled : p.Chronicled devices cables) {id : CableId}
    {cable : Cable} (live : p.cable? id = some cable)
    (kept : ∀ operation ∈ later, ¬ operation.Cuts id cable) :
    (p.run later).2.cable? id = some cable := by
  refine run_induction (fun _ _ p => p.cable? id = some cable) ?preserved chronicled live capacity
  case preserved =>
    intro devices cables p operation member chronicled within holds
    exact (effect_perform p operation).cable_kept chronicled.wired within holds
      (kept operation member)

theorem Chronicled.run_device_deleted (chronicled : p.Chronicled devices cables)
    (once : (devices ++ p.deviceHistory later).given.Nodup) {id : DeviceId} {placed : Placed D}
    (live : p.devices.get? id = some placed) (deleted : .deleteDevice id ∈ later) :
    (p.run later).2.devices.get? id = none := by
  induction later generalizing p devices cables placed with
  | nil => cases deleted
  | cons operation later ih =>
    have within := capacity [operation] (List.prefix_append [operation] later)
    have afterwards : ∀ front, front <+: later →
        ((p.perform operation).2.run front).2.WithinCapacity := fun front shorter =>
      capacity (operation :: front) (List.cons_prefix_cons.mpr ⟨rfl, shorter⟩)
    have next := chronicled.effect (effect_perform p operation) within
    rw [deviceHistory, ← List.append_assoc] at once
    by_cases same : operation = .deleteDevice id
    · subst same
      have given := chronicled.devices.given_of_get? live
      have gone : (p.perform (.deleteDevice id)).2.devices.get? id = none := by
        rw [perform_deleteDevice live, devices_withoutDevice, Slots.get?_remove, if_pos rfl]
      refine next.run_device_gone afterwards once ?_ gone
      rw [SlotHistory.given_append]
      exact List.mem_append_left _ given
    · obtain ⟨now, found, -⟩ :=
        (effect_perform p operation).device_kept chronicled.wired.devices_consistent live same
      exact ih afterwards next once found
        ((List.mem_cons.mp deleted).resolve_left (Ne.symm same))

theorem Chronicled.run_cable_cut (chronicled : p.Chronicled devices cables)
    (once : (cables ++ p.cableHistory later).given.Nodup) {id : CableId} {cable : Cable}
    (live : p.cable? id = some cable) (cut : ∃ operation ∈ later, operation.Cuts id cable) :
    (p.run later).2.cable? id = none := by
  induction later generalizing p devices cables with
  | nil =>
    obtain ⟨operation, member, -⟩ := cut
    cases member
  | cons operation later ih =>
    have within := capacity [operation] (List.prefix_append [operation] later)
    have afterwards : ∀ front, front <+: later →
        ((p.perform operation).2.run front).2.WithinCapacity := fun front shorter =>
      capacity (operation :: front) (List.cons_prefix_cons.mpr ⟨rfl, shorter⟩)
    have next := chronicled.effect (effect_perform p operation) within
    rw [cableHistory, ← List.append_assoc] at once
    by_cases cuts : operation.Cuts id cable
    · have given := chronicled.cables.given_of_get? live
      have gone := chronicled.wired.cable?_perform_of_cuts live cuts
      refine next.run_cable_gone afterwards once ?_ gone
      rw [SlotHistory.given_append]
      exact List.mem_append_left _ given
    · have still := (effect_perform p operation).cable_kept chronicled.wired within live cuts
      obtain ⟨cutter, member, cuts'⟩ := cut
      rcases List.mem_cons.mp member with rfl | member
      · exact absurd cuts' cuts
      · exact ih afterwards next once still ⟨cutter, member, cuts'⟩

end Run

/-! ### Keys that name nothing -/

/-- A connection whose source is there but has no such output: the device, and the output as the
operation names it. -/
inductive LacksOutput (p : Patch D) : Operation D → DeviceId → String → Prop
  | plug {source destination : DeviceId} {port input : String} {placed : Placed D}
      (found : p.devices.get? source = some placed)
      (lacking : (Device.panel placed.device).lastIndexOf? .output port = none) :
      LacksOutput p (.plug source port destination input) source port
  | connect {source destination : PortAddress} {placed : Placed D}
      (found : p.devices.get? source.device = some placed)
      (lacking : placed.outputs.length ≤ source.connector) :
      LacksOutput p (.connect source destination) source.device (toString source.connector)

theorem resolvePort_of_gone {p : Patch D} {id : DeviceId} (gone : p.devices.get? id = none)
    (name : String) (direction : Direction) :
    p.resolvePort id name direction = .error (.unknownDevice id) := by
  unfold resolvePort
  rw [gone]

omit [Device D] in
theorem checkAddress_of_gone {p : Patch D} {address : PortAddress}
    (gone : p.devices.get? address.device = none) (direction : Direction) :
    p.checkAddress address direction = .error (.unknownDevice address.device) := by
  unfold checkAddress
  rw [gone]

omit [Device D] in
/-- If the first of two devices lives and one of them does not, it is the second. -/
theorem get?_second_of_gone {p : Patch D} {first second missing : DeviceId} {placed : Placed D}
    (named : missing ∈ [first, second]) (gone : p.devices.get? missing = none)
    (lives : p.devices.get? first = some placed) : p.devices.get? second = none := by
  rcases List.mem_pair.mp named with same | same
  · rw [same, lives] at gone
    cases gone
  · rwa [same] at gone

theorem perform_plug_of_gone {p : Patch D} {source destination missing : DeviceId}
    {port input : String} (named : missing ∈ [source, destination])
    (gone : p.devices.get? missing = none) :
    (∃ dead ∈ [source, destination], p.devices.get? dead = none ∧
      p.perform (.plug source port destination input) = (.failed (.unknownDevice dead), p)) ∨
    p.LacksOutput (.plug source port destination input) source port ∧
      p.perform (.plug source port destination input) =
        (.failed (.unknownPort source .output port), p) := by
  cases begins : p.devices.get? source with
  | none =>
    left
    refine ⟨source, List.mem_cons_self, begins, ?_⟩
    simp only [perform, plug, resolvePort_of_gone begins, bind, Except.bind, settleCable]
  | some placed =>
    have ends := get?_second_of_gone named gone begins
    cases port_found : (Device.panel placed.device).lastIndexOf? .output port with
    | none =>
      right
      refine ⟨.plug begins port_found, ?_⟩
      simp only [perform, plug, resolvePort, begins, port_found, bind, Except.bind, settleCable]
    | some connector =>
      left
      refine ⟨destination, List.mem_cons_of_mem _ List.mem_cons_self, ends, ?_⟩
      simp only [perform, plug, resolvePort, begins, port_found, ends, bind, Except.bind,
        settleCable]

theorem perform_connect_of_gone {p : Patch D} {source destination : PortAddress}
    {missing : DeviceId} (named : missing ∈ [source.device, destination.device])
    (gone : p.devices.get? missing = none) :
    (∃ dead ∈ [source.device, destination.device], p.devices.get? dead = none ∧
      p.perform (.connect source destination) = (.failed (.unknownDevice dead), p)) ∨
    p.LacksOutput (.connect source destination) source.device (toString source.connector) ∧
      p.perform (.connect source destination) =
        (.failed (.unknownPort source.device .output (toString source.connector)), p) := by
  cases begins : p.devices.get? source.device with
  | none =>
    left
    refine ⟨source.device, List.mem_cons_self, begins, ?_⟩
    simp only [perform, connect, checkAddress_of_gone begins, bind, Except.bind, settleCable]
  | some placed =>
    have ends := get?_second_of_gone named gone begins
    by_cases below : source.connector < placed.outputs.length
    · left
      refine ⟨destination.device, List.mem_cons_of_mem _ List.mem_cons_self, ends, ?_⟩
      simp only [perform, connect, checkAddress, begins, Placed.values, below, if_true, ends,
        bind, Except.bind, settleCable]
    · right
      refine ⟨.connect begins (Nat.le_of_not_lt below), ?_⟩
      simp only [perform, connect, checkAddress, begins, Placed.values, below, if_false,
        bind, Except.bind, settleCable]

/-- An operation that names a device that is not there is refused for such a device, unless it is a
connection that already fails at its source. -/
theorem perform_of_gone {p : Patch D} {operation : Operation D} {missing : DeviceId}
    (named : missing ∈ operation.deviceIds) (gone : p.devices.get? missing = none) :
    (∃ dead ∈ operation.deviceIds, p.devices.get? dead = none ∧
      p.perform operation = (.failed (.unknownDevice dead), p)) ∨
    ∃ source output, p.LacksOutput operation source output ∧
      p.perform operation = (.failed (.unknownPort source .output output), p) := by
  cases operation with
  | deleteDevice id =>
    rw [List.mem_singleton.mp named] at gone
    left
    refine ⟨id, List.mem_singleton_self id, gone, ?_⟩
    simp only [perform, deleteDevice, gone, settle]
  | plug source port destination input =>
    exact (perform_plug_of_gone named gone).imp_right fun lacking => ⟨source, port, lacking⟩
  | connect source destination =>
    exact (perform_connect_of_gone named gone).imp_right fun lacking =>
      ⟨source.device, toString source.connector, lacking⟩
  | setOutput id port =>
    rw [List.mem_singleton.mp named] at gone
    left
    refine ⟨id, List.mem_singleton_self id, gone, ?_⟩
    simp only [perform, setOutput, resolvePort_of_gone gone, bind, Except.bind, settle]
  | _ => cases named

theorem perform_of_cable_gone {p : Patch D} {operation : Operation D} {missing : CableId}
    (named : missing ∈ operation.cableIds) (gone : p.cable? missing = none) :
    p.perform operation = (.failed (.unknownCable missing), p) := by
  cases operation with
  | unplug id =>
    rw [List.mem_singleton.mp named] at gone ⊢
    have absent : p.cables.contains id = false := Option.isSome_eq_false_iff.mpr
      (Option.isNone_iff_eq_none.mpr gone)
    simp [perform, unplug, absent, settle]
  | _ => cases named

/-! ### What holds over every run -/

/-- The keys of a patch with these histories, as it goes on. -/
structure Lasting (p : Patch D) (devices : SlotHistory .device) (cables : SlotHistory .cable)
    (later : List (Operation D)) : Prop where
  /-- No key is given out twice. -/
  device_ids_new : (devices ++ p.deviceHistory later).given.Nodup
  cable_ids_new : (cables ++ p.cableHistory later).given.Nodup
  /-- What lives was given out, -/
  device_given : ∀ id placed, p.devices.get? id = some placed → id ∈ devices.given
  cable_given : ∀ id cable, p.cable? id = some cable → id ∈ cables.given
  /-- a device lives on under its key until it is deleted, -/
  device_kept : ∀ id placed, p.devices.get? id = some placed → .deleteDevice id ∉ later →
    ∃ placed', (p.run later).2.devices.get? id = some placed' ∧ placed.Ages placed'
  device_deleted : ∀ id placed, p.devices.get? id = some placed → .deleteDevice id ∈ later →
    (p.run later).2.devices.get? id = none
  /-- a cable keeps its ends until it is unplugged or one of its devices is deleted, -/
  cable_kept : ∀ id cable, p.cable? id = some cable →
    (∀ operation ∈ later, ¬ operation.Cuts id cable) → (p.run later).2.cable? id = some cable
  cable_cut : ∀ id cable, p.cable? id = some cable →
    (∃ operation ∈ later, operation.Cuts id cable) → (p.run later).2.cable? id = none
  /-- and what is gone stays gone. -/
  device_gone : ∀ id ∈ devices.given, p.devices.get? id = none →
    (p.run later).2.devices.get? id = none
  cable_gone : ∀ id ∈ cables.given, p.cable? id = none → (p.run later).2.cable? id = none
  /-- A new key has the slot that was freed earliest, or a new slot when none is vacant. -/
  device_slot : ∀ operation back id, later = operation :: back →
    (p.perform operation).1 = .device id → id.slot.toNat = devices.nextSlot
  cable_slot : ∀ operation back id, later = operation :: back →
    (p.perform operation).1 = .cable id → id.slot.toNat = cables.nextSlot
  /-- What names a device that does not live is refused for such a device and changes nothing. Only
  a connection whose source lives but lacks the output is refused for that instead. -/
  device_refused : ∀ operation : Operation D, ∀ missing ∈ operation.deviceIds,
    p.devices.get? missing = none →
      (∃ dead ∈ operation.deviceIds, p.devices.get? dead = none ∧
        p.perform operation = (.failed (.unknownDevice dead), p)) ∨
      ∃ source output, p.LacksOutput operation source output ∧
        p.perform operation = (.failed (.unknownPort source .output output), p)
  port_refused : ∀ missing name direction, p.devices.get? missing = none →
    p.resolvePort missing name direction = .error (.unknownDevice missing)
  cable_refused : ∀ operation : Operation D, ∀ missing ∈ operation.cableIds,
    p.cable? missing = none → p.perform operation = (.failed (.unknownCable missing), p)

theorem Chronicled.lasting {p : Patch D} {devices : SlotHistory .device}
    {cables : SlotHistory .cable} (chronicled : p.Chronicled devices cables)
    {later : List (Operation D)}
    (capacity : ∀ front, front <+: later → (p.run front).2.WithinCapacity)
    (device_ids_new : (devices ++ p.deviceHistory later).given.Nodup)
    (cable_ids_new : (cables ++ p.cableHistory later).given.Nodup) :
    p.Lasting devices cables later where
  device_ids_new := device_ids_new
  cable_ids_new := cable_ids_new
  device_given := fun id placed live => chronicled.devices.given_of_get? live
  cable_given := fun id cable live => chronicled.cables.given_of_get? live
  device_kept := fun id placed live kept =>
    device_kept_of_run chronicled.wired.devices_consistent live kept
  device_deleted := fun id placed live deleted =>
    chronicled.run_device_deleted capacity device_ids_new live deleted
  cable_kept := fun id cable live kept => chronicled.run_cable_kept capacity live kept
  cable_cut := fun id cable live cut => chronicled.run_cable_cut capacity cable_ids_new live cut
  device_gone := fun id given gone => chronicled.run_device_gone capacity device_ids_new given gone
  cable_gone := fun id given gone => chronicled.run_cable_gone capacity cable_ids_new given gone
  device_slot := by
    intro operation back id next added
    subst next
    have within := capacity [operation] (List.prefix_append [operation] back)
    exact (effect_perform p operation).device_slot chronicled within (by rw [added]; rfl)
  cable_slot := by
    intro operation back id next connected
    subst next
    have within := capacity [operation] (List.prefix_append [operation] back)
    exact (effect_perform p operation).cable_slot chronicled within (by rw [connected]; rfl)
  device_refused := fun operation missing named gone => perform_of_gone named gone
  port_refused := fun missing name direction gone => resolvePort_of_gone gone name direction
  cable_refused := fun operation missing named gone => perform_of_cable_gone named gone

/-- The keys of an empty patch after any operations and through any that follow, as long as there
never are more devices or cables than slot numbers and no slot is filled more often than there are
generations. -/
theorem lasting_of_run (settings : Settings) (done later : List (Operation D))
    (capacity : ∀ front, front <+: done ++ later →
      ((ofSettings settings).run front).2.WithinCapacity)
    (device_fillings : ∀ slot,
      ((ofSettings settings : Patch D).deviceHistory (done ++ later)).fillings slot ≤ 2 ^ 31)
    (cable_fillings : ∀ slot,
      ((ofSettings settings : Patch D).cableHistory (done ++ later)).fillings slot ≤ 2 ^ 31) :
    ((ofSettings settings).run done).2.Lasting ((ofSettings settings).deviceHistory done)
      ((ofSettings settings).cableHistory done) later := by
  have whole := (chronicled_ofSettings settings).run capacity
  have reached := (chronicled_ofSettings settings).run
    fun front shorter => capacity front (shorter.trans (List.prefix_append done later))
  rw [List.nil_append, List.nil_append] at whole reached
  have afterwards : ∀ front, front <+: later →
      (((ofSettings settings).run done).2.run front).2.WithinCapacity := by
    intro front shorter
    rw [← snd_run_append]
    exact capacity (done ++ front) ((List.prefix_append_right_inj done).mpr shorter)
  have device_ids_new := whole.devices.nodup_given device_fillings
  have cable_ids_new := whole.cables.nodup_given cable_fillings
  rw [deviceHistory_append] at device_ids_new
  rw [cableHistory_append] at cable_ids_new
  exact reached.lasting afterwards device_ids_new cable_ids_new

/-- After `rewiring` the slot of the deleted device is filled again, and the old keys are given to
operations once more. -/
def refilling : List (Operation Scripted) :=
  [.addDevice echo,
    .deleteDevice ⟨2, 1⟩,
    .connect ⟨⟨2, 3⟩, 0⟩ ⟨⟨2, 3⟩, 0⟩,
    .unplug ⟨0, 1⟩,
    .unplug ⟨1, 1⟩,
    .deleteDevice ⟨0, 1⟩]

theorem refilling_lasting :
    ((∀ front, front <+: rewiring ++ refilling → ((ofSettings {}).run front).2.WithinCapacity) ∧
      (∀ slot, ((ofSettings {} : Patch Scripted).deviceHistory
        (rewiring ++ refilling)).fillings slot ≤ 2 ^ 31) ∧
      ∀ slot, ((ofSettings {} : Patch Scripted).cableHistory
        (rewiring ++ refilling)).fillings slot ≤ 2 ^ 31) ∧
    ((ofSettings {}).run rewiring).2.Lasting ((ofSettings {}).deviceHistory rewiring)
      ((ofSettings {}).cableHistory rewiring) refilling := by
  have capacity : ∀ front, front <+: rewiring ++ refilling →
      ((ofSettings {}).run front).2.WithinCapacity := by
    intro front shorter
    have each : ∀ front ∈ (rewiring ++ refilling).inits,
        ((ofSettings {}).run front).2.WithinCapacity := by decide
    exact each front ((List.mem_inits front _).mpr shorter)
  have devices : ∀ slot, ((ofSettings {} : Patch Scripted).deviceHistory
      (rewiring ++ refilling)).fillings slot ≤ 2 ^ 31 := fun slot =>
    (SlotHistory.fillings_le_length _ slot).trans (by decide)
  have cables : ∀ slot, ((ofSettings {} : Patch Scripted).cableHistory
      (rewiring ++ refilling)).fillings slot ≤ 2 ^ 31 := fun slot =>
    (SlotHistory.fillings_le_length _ slot).trans (by decide)
  exact ⟨⟨capacity, devices, cables⟩, lasting_of_run {} rewiring refilling capacity devices cables⟩

/-- The slots of the first cable that was unplugged and of the deleted device have new occupants. -/
example : (((ofSettings {}).run (rewiring ++ refilling)).2.deviceIds,
    ((ofSettings {}).run (rewiring ++ refilling)).2.cables.keys) =
      ([⟨1, 1⟩, ⟨2, 3⟩], [⟨2, 3⟩]) := by
  decide

/-- The second of two devices is deleted. -/
def halved : List (Operation Scripted) :=
  [.addDevice echo, .addDevice echo, .deleteDevice ⟨1, 1⟩]

/-- An operation that is given the key of a deleted device need not report a deleted device: this
connection also names an output that its source does not have, and that is reported. -/
theorem deleted_destination_unreported :
    (∀ front, front <+: halved → ((ofSettings {}).run front).2.WithinCapacity) ∧
      (∀ slot, ((ofSettings {} : Patch Scripted).deviceHistory halved).fillings slot ≤ 2 ^ 31) ∧
      (∀ slot, ((ofSettings {} : Patch Scripted).cableHistory halved).fillings slot ≤ 2 ^ 31) ∧
      SlotEvent.freed ⟨1, 1⟩ ∈ (ofSettings {} : Patch Scripted).deviceHistory halved ∧
      (⟨1, 1⟩ : DeviceId) ∈
        (Operation.connect ⟨⟨0, 1⟩, 1⟩ ⟨⟨1, 1⟩, 0⟩ : Operation Scripted).deviceIds ∧
      (((ofSettings {}).run halved).2.perform (.connect ⟨⟨0, 1⟩, 1⟩ ⟨⟨1, 1⟩, 0⟩)).1 =
        .failed (.unknownPort ⟨0, 1⟩ .output "1") ∧
      ¬ ∃ dead, (((ofSettings {}).run halved).2.perform
        (.connect ⟨⟨0, 1⟩, 1⟩ ⟨⟨1, 1⟩, 0⟩)).1 = .failed (.unknownDevice dead) := by
  have complaint : (((ofSettings {}).run halved).2.perform
      (.connect ⟨⟨0, 1⟩, 1⟩ ⟨⟨1, 1⟩, 0⟩)).1 = .failed (.unknownPort ⟨0, 1⟩ .output "1") := by rfl
  refine ⟨?_, ?_, ?_, by decide, by decide, complaint, ?_⟩
  · intro front shorter
    have each : ∀ front ∈ halved.inits, ((ofSettings {}).run front).2.WithinCapacity := by
      decide
    exact each front ((List.mem_inits front _).mpr shorter)
  · intro slot
    exact (SlotHistory.fillings_le_length _ slot).trans (by decide)
  · intro slot
    exact (SlotHistory.fillings_le_length _ slot).trans (by decide)
  · intro reported
    obtain ⟨dead, answer⟩ := reported
    rw [complaint] at answer
    cases answer

end Patch

end ModularSynth
