import ModularSynth.Proofs.Patch.Reading

/-!
# What a reset restores

A reset gives every port its initial value and every device back to itself. Of a device that was
new when it was added, and that a reset restores (`Device.Restores`), nothing remains of what became
of it since: whatever passes and reads made of the patch, its reset is the same
(`Sprung.reset_of_aged`). Edits in turn do not look at what a reset changes. So a reset can be moved
before an edit (`Sprung.perform_reset_of_edits`), and by induction a run that ends with a reset is
the run of its edits alone (`Sprung.run_reset`).
-/

namespace ModularSynth

/-! ### Devices that a reset restores -/

namespace Device

variable {D : Type} [Device D]

/-- What becomes of a device by steps and resets, whatever it reads and writes. -/
inductive Descends (device : D) : D → Prop
  | refl : Descends device device
  | step {now : D} (rate : UInt32) (inputs outputs : List Value) (earlier : Descends device now) :
      Descends device (Device.step rate inputs now outputs).device
  | reset {now : D} (earlier : Descends device now) : Descends device (Device.reset now)

/-- Whatever becomes of the device, a reset makes it what it is now. -/
def Restores (device : D) : Prop :=
  ∀ now, Descends device now → Device.reset now = device

end Device

namespace Builtin

/-- Built-in devices as they are constructed. -/
inductive New : Builtin → Prop
  | constant (value : Float) : New (constant value)
  | oscillator : New newOscillator
  | converter : New converter

/-- What the factories build is new. -/
theorem new_of_arguments {args : Arguments} {device : Builtin}
    (built : constantOfArguments args = .ok device ∨ oscillatorOfArguments args = .ok device ∨
      converterOfArguments args = .ok device) : device.New := by
  rcases built with built | built | built
  · simp only [constantOfArguments, bind, Except.bind] at built
    split at built
    next => cases built
    next value taken =>
      split at built
      next => cases built
      next =>
        cases built
        exact .constant _
  · simp only [oscillatorOfArguments, bind, Except.bind] at built
    split at built
    next => cases built
    next =>
      cases built
      exact .oscillator
  · simp only [converterOfArguments, bind, Except.bind] at built
    split at built
    next => cases built
    next =>
      cases built
      exact .converter

theorem New.reset_eq {device : Builtin} (new : device.New) : reset device = device := by
  cases new with
  | constant value => rfl
  | oscillator => rfl
  | converter => rfl

/-- A step leaves nothing that a reset does not undo. -/
theorem reset_step (rate : UInt32) (inputs : List Value) (device : Builtin)
    (outputs : List Value) : reset (step rate inputs device outputs).device = reset device := by
  cases device with
  | constant value => rfl
  | oscillator phase =>
    simp only [step]
    split
    next => rfl
    next => rfl
  | converter =>
    simp only [step]
    split
    next => rfl
    next => rfl

theorem reset_reset (device : Builtin) : reset (reset device) = reset device := by
  cases device with
  | constant value => rfl
  | oscillator phase => rfl
  | converter => rfl

theorem New.restores {device : Builtin} (new : device.New) : Device.Restores device := by
  intro now descends
  induction descends with
  | refl => exact new.reset_eq
  | @step now rate inputs outputs _ ih => exact (reset_step rate inputs now outputs).trans ih
  | @reset now _ ih => exact (reset_reset now).trans ih

end Builtin

/-! ### Slots under a map -/

namespace Slots

variable {resident : Resident} {α : Type}

theorem get?_map (s : Slots resident α) (f : α → α) (key : Key resident) :
    (s.map f).get? key = (s.get? key).map f := by
  unfold get? map
  rw [List.getElem?_map]
  cases s.slots[key.slot.toNat]? with
  | none => rfl
  | some slot =>
    simp only [Option.map_some, Option.bind_some, Slot.holding?]
    split
    · rfl
    · rfl

/-- A map and an insertion can change places, if the map is applied to the new value as well. -/
theorem insert_map (s : Slots resident α) (f : α → α) (a : α) :
    (s.map f).insert (f a) = ((s.insert a).1, (s.insert a).2.map f) := by
  have generation : ∀ index : Nat, ((s.map f).slots[index]?.map (·.generation)) =
      s.slots[index]?.map (·.generation) := by
    intro index
    unfold map
    rw [List.getElem?_map, Option.map_map]
    rfl
  cases queue : s.free with
  | nil =>
    have queue' : (s.map f).free = [] := queue
    rw [insert_of_free_nil queue, insert_of_free_nil queue']
    simp [map]
  | cons index free =>
    have queue' : (s.map f).free = index :: free := queue
    simp only [insert, queue, queue', generation]
    simp only [map, Prod.mk.injEq, Slots.mk.injEq, true_and, and_true]
    apply List.ext_getElem?
    intro other
    simp only [List.getElem?_map, List.getElem?_modify]
    by_cases same : index.toNat = other
    · simp [same, Slot.fill, Function.comp_def]
    · simp [same]

theorem remove_map (s : Slots resident α) (f : α → α) (key : Key resident) :
    ((s.map f).remove key).2 = (s.remove key).2.map f := by
  have found' := get?_map s f key
  cases found : s.get? key with
  | none =>
    rw [found] at found'
    rw [remove_of_none found, remove_of_none found']
  | some a =>
    rw [found] at found'
    rw [remove_of_some found, remove_of_some found']
    simp only [map, Slots.mk.injEq, and_true]
    apply List.ext_getElem?
    intro other
    simp only [List.getElem?_map, List.getElem?_modify]
    by_cases same : key.slot.toNat = other
    · simp [same, Slot.vacate, Function.comp_def]
    · simp [same]

/-- Values that a change in place does not tell apart for the map are mapped to the same. -/
theorem Matches.map_eq {R : α → α → Prop} {s t : Slots resident α} (same : s.Matches R t)
    {f : α → α} (equal : ∀ index a b, s.at? index = some a → R a b → f b = f a) :
    t.map f = s.map f := by
  unfold map
  rw [same.free_eq, same.size_eq, Slots.mk.injEq]
  refine ⟨?_, rfl, rfl⟩
  apply List.ext_getElem?
  intro index
  rw [List.getElem?_map, List.getElem?_map]
  rcases rel_cases (same.getElem? index) with ⟨left, right⟩ | ⟨before, after, left, right, step⟩
  · rw [left, right]
  · rw [left, right]
    obtain ⟨generation, occupant⟩ := before
    obtain ⟨generation', occupant'⟩ := after
    obtain ⟨numbers, occupants⟩ := step
    simp only at numbers occupants
    rw [numbers]
    cases occupants with
    | none => rfl
    | some related =>
      have held := at?_eq_some_iff.mpr ⟨generation, left⟩
      simp only [Option.map_some, equal index _ _ held related]

theorem at?_map (s : Slots resident α) (f : α → α) (index : Nat) :
    (s.map f).at? index = (s.at? index).map f := by
  unfold at? map
  rw [List.getElem?_map]
  cases s.slots[index]? with
  | none => rfl
  | some slot => rfl

end Slots

/-! ### Placed devices -/

namespace Placed

variable {D : Type} [Device D]

theorem Ages.descends {before after : Placed D} (ages : before.Ages after) :
    Device.Descends before.device after.device := by
  induction ages with
  | refl => exact .refl
  | receive connector value _ ih => exact ih
  | step rate _ ih => exact .step rate _ _ ih
  | reset _ ih => exact .reset ih

/-- The device was new when it was added; it may have done anything since. -/
def Sprung (New : D → Prop) (placed : Placed D) : Prop :=
  ∃ device, New device ∧ Device.Restores device ∧ (fresh device).Ages placed

section Sprung

variable {New : D → Prop} {placed now : Placed D}

theorem reset_of_ages {device : D} (restores : Device.Restores device)
    (ages : (fresh device).Ages placed) : placed.reset = fresh device :=
  congrArg fresh (restores _ ages.descends)

/-- Nothing that becomes of it shows after a reset. -/
theorem Sprung.reset_eq (sprung : placed.Sprung New) (ages : placed.Ages now) :
    now.reset = placed.reset := by
  obtain ⟨device, -, restores, earlier⟩ := sprung
  rw [reset_of_ages restores earlier, reset_of_ages restores (earlier.trans _ _ _ ages)]

theorem Sprung.of_ages (sprung : placed.Sprung New) (ages : placed.Ages now) :
    now.Sprung New := by
  obtain ⟨device, new, restores, earlier⟩ := sprung
  exact ⟨device, new, restores, earlier.trans _ _ _ ages⟩

theorem Sprung.fitted (sprung : placed.Sprung New) : placed.Fitted := by
  obtain ⟨device, -, -, ages⟩ := sprung
  exact ages.continues.2 (fitted_fresh device)

/-- A reset changes no number of ports. -/
theorem Sprung.length_values_reset (sprung : placed.Sprung New) (direction : Direction) :
    (placed.reset.values direction).length = (placed.values direction).length := by
  obtain ⟨panel, fitted⟩ := continues_reset placed
  rw [fitted sprung.fitted direction, sprung.fitted direction, panel]

end Sprung

end Placed

namespace Patch

variable {D : Type}

/-! ### Edits and the devices -/

theorem removeCable_withDevices (p : Patch D) (devices : Slots .device (Placed D))
    (id : CableId) :
    ({ p with devices } : Patch D).removeCable id = { p.removeCable id with devices } := by
  cases found : p.cable? id with
  | none =>
    have found' : ({ p with devices } : Patch D).cable? id = none := found
    rw [removeCable_of_none found, removeCable_of_none found']
  | some cable =>
    have found' : ({ p with devices } : Patch D).cable? id = some cable := found
    rw [removeCable_of_some found, removeCable_of_some found']
    rfl

theorem foldl_removeCable_withDevices (p : Patch D) (devices : Slots .device (Placed D))
    (ids : List CableId) : ids.foldl removeCable { p with devices } =
      { ids.foldl removeCable p with devices } := by
  induction ids generalizing p with
  | nil => rfl
  | cons id ids ih => rw [List.foldl_cons, List.foldl_cons, removeCable_withDevices, ih]

variable [Device D]

/-- All devices were new when they were added. -/
def Sprung (New : D → Prop) (p : Patch D) : Prop :=
  ∀ slot placed, p.devices.at? slot = some placed → placed.Sprung New

section Sprung

variable {New : D → Prop} {p after : Patch D}

theorem Sprung.of_get? (sprung : p.Sprung New) {id : DeviceId} {placed : Placed D}
    (found : p.devices.get? id = some placed) : placed.Sprung New :=
  sprung _ placed (Slots.at?_of_get? found)

theorem Sprung.effect {operation : Operation D} {answer : Answer} (sprung : p.Sprung New)
    (effect : p.Effect operation answer after)
    (new : ∀ device, operation = .addDevice device → New device ∧ Device.Restores device) :
    after.Sprung New := by
  intro slot placed held
  rcases effect.of_at? held with ⟨device, rfl, rfl⟩ | ⟨earlier, before, ages⟩
  · obtain ⟨fits, restores⟩ := new device rfl
    exact ⟨device, fits, restores, .refl⟩
  · exact (sprung slot earlier before).of_ages ages

/-- What passes and reads have done cannot be seen after a reset. -/
theorem Sprung.reset_of_aged (sprung : p.Sprung New) (aged : p.Aged after)
    (only : after = { p with devices := after.devices }) : after.reset = p.reset := by
  have devices : after.devices.map Placed.reset = p.devices.map Placed.reset :=
    aged.devices.map_eq fun slot _ _ held ages => (sprung slot _ held).reset_eq ages
  unfold Patch.reset
  rw [devices, only]

/-! ### Edits after a reset -/

theorem get?_reset (p : Patch D) (id : DeviceId) :
    p.reset.devices.get? id = (p.devices.get? id).map Placed.reset :=
  Slots.get?_map p.devices Placed.reset id

theorem Sprung.checkAddress_reset (sprung : p.Sprung New) (address : PortAddress)
    (direction : Direction) :
    p.reset.checkAddress address direction = p.checkAddress address direction := by
  unfold checkAddress
  rw [get?_reset]
  cases found : p.devices.get? address.device with
  | none => rfl
  | some placed =>
    simp only [Option.map_some, (sprung.of_get? found).length_values_reset direction]

theorem resolvePort_reset (p : Patch D) (id : DeviceId) (name : String) (direction : Direction) :
    p.reset.resolvePort id name direction = p.resolvePort id name direction := by
  unfold resolvePort
  rw [get?_reset]
  cases p.devices.get? id with
  | none => rfl
  | some placed =>
    have panel : Device.panel placed.reset.device = Device.panel placed.device :=
      (Placed.continues_reset placed).1
    simp only [Option.map_some, panel]

theorem Sprung.deleteDevice_reset (sprung : p.Sprung New) (id : DeviceId) :
    p.reset.deleteDevice id = (p.deleteDevice id).map reset := by
  have found' := get?_reset p id
  cases found : p.devices.get? id with
  | none =>
    rw [found] at found'
    simp only [deleteDevice, found, found', Option.map_none]
    rfl
  | some placed =>
    rw [found] at found'
    have inputs : placed.reset.inputs.length = placed.inputs.length :=
      (sprung.of_get? found).length_values_reset .input
    have outputs : placed.reset.outputs.length = placed.outputs.length :=
      (sprung.of_get? found).length_values_reset .output
    have incident : p.reset.incidentCables id placed.reset = p.incidentCables id placed := by
      unfold incidentCables
      rw [inputs, outputs]
      rfl
    have unplugged : (p.incidentCables id placed).foldl removeCable p.reset =
        { (p.incidentCables id placed).foldl removeCable p with
          devices := p.devices.map Placed.reset } :=
      foldl_removeCable_withDevices p _ _
    have without : p.reset.withoutDevice id placed.reset = (p.withoutDevice id placed).reset := by
      unfold withoutDevice
      rw [incident, unplugged]
      unfold reset
      simp only [Slots.remove_map, devices_foldl_removeCable]
    rw [deleteDevice_of_some found, deleteDevice_of_some found', without]
    rfl

theorem Sprung.connect_reset (sprung : p.Sprung New) (source destination : PortAddress) :
    p.reset.connect source destination =
      (p.connect source destination).map fun (id, after) => (id, after.reset) := by
  unfold connect
  rw [sprung.checkAddress_reset, sprung.checkAddress_reset]
  cases p.checkAddress source .output with
  | error error => rfl
  | ok begins =>
    cases p.checkAddress destination .input with
    | error error => rfl
    | ok ends =>
      have taken : p.reset.inputCable? destination = p.inputCable? destination := rfl
      simp only [bind, Except.bind, taken]
      cases p.inputCable? destination with
      | some id => rfl
      | none => rfl

theorem Sprung.plug_reset (sprung : p.Sprung New) (source : DeviceId) (sourcePort : String)
    (destination : DeviceId) (destinationPort : String) :
    p.reset.plug source sourcePort destination destinationPort =
      (p.plug source sourcePort destination destinationPort).map fun (id, after) =>
        (id, after.reset) := by
  unfold plug
  rw [resolvePort_reset, resolvePort_reset]
  cases p.resolvePort source sourcePort .output with
  | error error => rfl
  | ok output =>
    cases p.resolvePort destination destinationPort .input with
    | error error => rfl
    | ok input => exact sprung.connect_reset output input

theorem unplug_reset (p : Patch D) (id : CableId) :
    p.reset.unplug id = (p.unplug id).map reset := by
  have removed : p.reset.removeCable id = (p.removeCable id).reset := by
    unfold reset
    rw [removeCable_withDevices, devices_removeCable]
  have live : p.reset.cables.contains id = p.cables.contains id := rfl
  unfold unplug
  rw [live, removed]
  split
  · rfl
  · rfl

theorem setOutput_reset (p : Patch D) (id : DeviceId) (port : String) :
    p.reset.setOutput id port = (p.setOutput id port).map reset := by
  unfold setOutput
  rw [resolvePort_reset]
  cases p.resolvePort id port .output with
  | error error => rfl
  | ok address => rfl

theorem settle_reset (p : Patch D) (outcome : Except PatchError (Patch D)) :
    p.reset.settle (outcome.map reset) =
      ((p.settle outcome).1, (p.settle outcome).2.reset) := by
  cases outcome with
  | error error => rfl
  | ok after => rfl

theorem settleCable_reset (p : Patch D) (outcome : Except PatchError (CableId × Patch D)) :
    p.reset.settleCable (outcome.map fun (id, after) => (id, after.reset)) =
      ((p.settleCable outcome).1, (p.settleCable outcome).2.reset) := by
  cases outcome with
  | error error => rfl
  | ok result => rfl

theorem addDevice_reset {device : D} (restores : Device.Restores device) :
    p.reset.addDevice device = ((p.addDevice device).1, (p.addDevice device).2.reset) := by
  have fresh : (Placed.fresh device).reset = Placed.fresh device :=
    Placed.reset_of_ages restores .refl
  have inserted := Slots.insert_map p.devices Placed.reset (Placed.fresh device)
  rw [fresh] at inserted
  unfold addDevice
  have devices : p.reset.devices = p.devices.map Placed.reset := rfl
  rw [devices, inserted]
  rfl

end Sprung

end Patch

/-- The operation changes what the patch is made of or how it is set, not what its devices and ports
hold. -/
def Operation.edits {D : Type} : Operation D → Bool
  | .pass => false
  | .readFrames _ => false
  | .reset => false
  | _ => true

/-- The answers to the edits among some operations. -/
def editAnswers {D : Type} (operations : List (Operation D)) (answers : List Answer) :
    List Answer :=
  ((operations.zip answers).filter (·.1.edits)).map (·.2)

namespace Patch

variable {D : Type} [Device D]

section Runs

variable {New : D → Prop} {p : Patch D}

/-- An edit does the same before a reset as after it, and answers the same. -/
theorem Sprung.perform_reset_of_edits (sprung : p.Sprung New) {operation : Operation D}
    (restores : ∀ device, operation = .addDevice device → Device.Restores device)
    (edits : operation.edits = true) :
    p.reset.perform operation = ((p.perform operation).1, (p.perform operation).2.reset) := by
  cases operation with
  | addDevice device =>
    simp only [perform, addDevice_reset (restores device rfl)]
  | deleteDevice id =>
    simp only [perform, sprung.deleteDevice_reset, settle_reset]
  | plug source sourcePort destination destinationPort =>
    simp only [perform, sprung.plug_reset, settleCable_reset]
  | connect source destination =>
    simp only [perform, sprung.connect_reset, settleCable_reset]
  | unplug id =>
    simp only [perform, unplug_reset, settle_reset]
  | setOutput id port =>
    simp only [perform, setOutput_reset, settle_reset]
  | clearOutput => rfl
  | setRate hertz => rfl
  | setReadCap frames => rfl
  | _ => cases edits

/-- What is not an edit leaves nothing that a reset does not undo. -/
theorem Sprung.reset_perform (sprung : p.Sprung New) {operation : Operation D}
    (other : operation.edits = false) : (p.perform operation).2.reset = p.reset := by
  cases operation with
  | pass =>
    rw [snd_perform_pass]
    exact sprung.reset_of_aged (aged_pass p) (snd_pass p)
  | readFrames buffer =>
    exact sprung.reset_of_aged (aged_readFrames p buffer) (patch_readFrames p buffer)
  | reset => exact sprung.reset_of_aged (aged_reset p) rfl
  | _ => cases other

theorem Sprung.run (sprung : p.Sprung New) {operations : List (Operation D)}
    (new : ∀ device, .addDevice device ∈ operations → New device ∧ Device.Restores device) :
    (p.run operations).2.Sprung New := by
  induction operations generalizing p with
  | nil => exact sprung
  | cons operation operations ih =>
    refine ih (sprung.effect (effect_perform p operation) ?_) ?_
    · intro device added
      exact new device (by simp [added])
    · intro device member
      exact new device (List.mem_cons_of_mem operation member)

/-- A reset at the end of a run leaves what the edits of the run alone make of the patch after a
reset. -/
theorem Sprung.run_reset (sprung : p.Sprung New) {operations : List (Operation D)}
    (new : ∀ device, .addDevice device ∈ operations → New device ∧ Device.Restores device) :
    p.reset.run (operations.filter Operation.edits) =
      (editAnswers operations (p.run operations).1, (p.run operations).2.reset) := by
  induction operations generalizing p with
  | nil => rfl
  | cons operation operations ih =>
    have here : ∀ device, operation = .addDevice device → New device ∧ Device.Restores device :=
      fun device added => new device (by simp [added])
    have later := ih (sprung.effect (effect_perform p operation) here) fun device member =>
      new device (List.mem_cons_of_mem operation member)
    cases edits : operation.edits with
    | true =>
      have first := sprung.perform_reset_of_edits (fun device added => (here device added).2) edits
      rw [List.filter_cons_of_pos edits]
      simp only [Patch.run, editAnswers, List.zip_cons_cons, List.filter_cons_of_pos, edits,
        List.map_cons, first, later]
    | false =>
      rw [sprung.reset_perform edits] at later
      rw [List.filter_cons_of_neg (by simp [edits]), later]
      simp [Patch.run, editAnswers, edits]

/-- Nothing that is played is left after a reset. -/
theorem Sprung.reset_run (sprung : p.Sprung New) {played : List (Operation D)}
    (others : ∀ operation ∈ played, operation.edits = false) :
    (p.run played).2.reset = p.reset := by
  induction played generalizing p with
  | nil => rfl
  | cons operation played ih =>
    obtain ⟨head, rest⟩ := List.forall_mem_cons.mp others
    have next := sprung.effect (effect_perform p operation) fun device added => by
      rw [added] at head
      cases head
    exact (ih next rest).trans (sprung.reset_perform head)

/-- Edits and resets alone leave nothing to reset. -/
theorem Sprung.reset_run_of_unplayed (sprung : p.Sprung New) (start : p.reset = p)
    {operations : List (Operation D)}
    (new : ∀ device, .addDevice device ∈ operations → New device ∧ Device.Restores device)
    (unplayed : ∀ operation ∈ operations, operation.edits = true ∨ operation = .reset) :
    (p.run operations).2.reset = (p.run operations).2 := by
  induction operations generalizing p with
  | nil => exact start
  | cons operation operations ih =>
    obtain ⟨head, rest⟩ := List.forall_mem_cons.mp unplayed
    have here : ∀ device, operation = .addDevice device → New device ∧ Device.Restores device :=
      fun device added => new device (by simp [added])
    refine ih (sprung.effect (effect_perform p operation) here) ?_
      (fun device member => new device (List.mem_cons_of_mem operation member)) rest
    rcases head with edits | rfl
    · have first := sprung.perform_reset_of_edits (fun device added => (here device added).2) edits
      rw [start] at first
      exact (congrArg Prod.snd first).symm
    · exact sprung.reset_of_aged (aged_reset p) rfl

/-- After a reset a device is as it was when it was added. -/
theorem Sprung.exists_fresh (sprung : p.Sprung New) {slot : Nat} {placed : Placed D}
    (held : p.reset.devices.at? slot = some placed) :
    ∃ device, New device ∧ placed = .fresh device := by
  have before : (p.devices.at? slot).map Placed.reset = some placed :=
    (Slots.at?_map p.devices Placed.reset slot).symm.trans held
  obtain ⟨earlier, found, rfl⟩ := Option.map_eq_some_iff.mp before
  obtain ⟨device, new, restores, ages⟩ := sprung slot earlier found
  exact ⟨device, new, Placed.reset_of_ages restores ages⟩

end Runs

theorem sprung_ofSettings (New : D → Prop) (settings : Settings) :
    (ofSettings settings : Patch D).Sprung New := by
  intro slot placed held
  cases held

/-- What a reset makes of the patch that some operations on an empty one lead to. -/
structure Restoring (settings : Settings) (operations : List (Operation D)) : Prop where
  /-- It makes the patch that the edits alone lead to: the same devices under the same keys, the same
  cables and indices, the same output and settings, and the same slots to be filled next. -/
  reset_eq : ((ofSettings settings).run operations).2.reset =
    ((ofSettings settings).run (operations.filter Operation.edits)).2
  /-- The edits are answered alike. -/
  answers_eq : editAnswers operations ((ofSettings settings).run operations).1 =
    ((ofSettings settings).run (operations.filter Operation.edits)).1
  /-- Every device is as it was added, with the initial values in its ports. -/
  fresh : ∀ slot placed,
    ((ofSettings settings).run operations).2.reset.devices.at? slot = some placed →
      ∃ device, .addDevice device ∈ operations ∧ placed = .fresh device
  /-- Those are the values that the panel of the device declares. -/
  initial : ∀ slot placed,
    ((ofSettings settings).run operations).2.reset.devices.at? slot = some placed →
      ∀ direction (connector : Nat), (placed.values direction)[connector]? =
        (((Device.panel placed.device).ports direction)[connector]?).map (·.initial)
  /-- Whatever is played, the reset afterwards is the same. -/
  erases : ∀ played : List (Operation D), (∀ operation ∈ played, operation.edits = false) →
    (((ofSettings settings).run operations).2.run played).2.reset =
      ((ofSettings settings).run operations).2.reset
  idempotent : ((ofSettings settings).run operations).2.reset.reset =
    ((ofSettings settings).run operations).2.reset
  /-- A patch that never made a pass or a read is not changed. -/
  unplayed : (∀ operation ∈ operations, operation.edits = true ∨ operation = .reset) →
    ((ofSettings settings).run operations).2.reset = ((ofSettings settings).run operations).2
  /-- Whatever is done next, the answers, the frames and the patch are those of one newly built. -/
  later : ∀ next : List (Operation D),
    ((ofSettings settings).run operations).2.reset.run next =
      ((ofSettings settings).run (operations.filter Operation.edits)).2.run next

theorem restoring_of_restores (settings : Settings) (operations : List (Operation D))
    (restores : ∀ device, .addDevice device ∈ operations → Device.Restores device) :
    Restoring settings operations := by
  have new : ∀ device, .addDevice device ∈ operations →
      .addDevice device ∈ operations ∧ Device.Restores device :=
    fun device member => ⟨member, restores device member⟩
  have start := sprung_ofSettings (fun device : D => .addDevice device ∈ operations) settings
  have sprung := start.run new
  have edited : (ofSettings settings).run (operations.filter Operation.edits) =
      (editAnswers operations ((ofSettings settings).run operations).1,
        ((ofSettings settings).run operations).2.reset) := start.run_reset new
  exact
    { reset_eq := (congrArg Prod.snd edited).symm
      answers_eq := (congrArg Prod.fst edited).symm
      fresh := fun slot placed => sprung.exists_fresh
      initial := by
        intro slot placed held
        obtain ⟨device, -, rfl⟩ := sprung.exists_fresh held
        exact Placed.getElem?_values_fresh device
      erases := fun played => sprung.reset_run
      idempotent := sprung.reset_of_aged (aged_reset _) rfl
      unplayed := start.reset_run_of_unplayed rfl new
      later := fun next => by rw [edited] }

/-- Built-in devices as they are constructed are restored by a reset; and whatever operations are
done to an empty patch, if every device that they add is such, a reset afterwards leaves what the
edits among them would have made. -/
theorem restoring_of_run :
    (∀ device : Builtin, device.New → Device.Restores device) ∧
      ∀ {D : Type} [Device D] (settings : Settings) (operations : List (Operation D)),
        (∀ device, .addDevice device ∈ operations → Device.Restores device) →
          Restoring settings operations :=
  ⟨fun _ => Builtin.New.restores, restoring_of_restores⟩

/-- A tone that is listened to, reset, extended by a feedback cable that does not fit its input, and
run into the failure. -/
def tuning : List (Operation Builtin) :=
  [.addDevice (.constant 440.0), .addDevice .newOscillator, .addDevice .converter,
    .plug ⟨0, 1⟩ "float" ⟨1, 1⟩ "freq", .plug ⟨1, 1⟩ "sinusoid" ⟨2, 1⟩ "float",
    .setOutput ⟨2, 1⟩ "sample", .pass, .readFrames (.replicate 8 0), .reset, .setRate 44100,
    .plug ⟨2, 1⟩ "sample" ⟨1, 1⟩ "gain", .pass, .pass, .deleteDevice ⟨0, 1⟩,
    .addDevice (.constant 1.0), .pass]

theorem tuning_restoring :
    (∀ device, .addDevice device ∈ tuning → Device.Restores device) ∧ Restoring {} tuning := by
  have restores : ∀ device, .addDevice device ∈ tuning → Device.Restores device := by
    intro device member
    apply restoring_of_run.1
    simp only [tuning, List.mem_cons, Operation.addDevice.injEq, reduceCtorEq, List.not_mem_nil,
      or_false, false_or] at member
    rcases member with rfl | rfl | rfl | rfl
    · exact .constant _
    · exact .oscillator
    · exact .converter
    · exact .constant _
  exact ⟨restores, restoring_of_run.2 {} tuning restores⟩

end Patch

end ModularSynth
