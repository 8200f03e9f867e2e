import ModularSynth.Patch.Operation
import ModularSynth.Proofs.Slots.InPlace

/-!
# Ports through the life of a patch

A device that is added gets one value for each port of its panel, and no pass and no reset changes
their number (`Placed.Fitted`). `Patch.Retains` relates a patch to one that differs only in what
devices and ports hold, in the rate and in the read cap. `Patch.Aged` says besides how each device
came to what it holds: values arrived, it stepped, it was reset. Passes, reads and resets do
nothing else to a patch.
-/

namespace ModularSynth

variable {D : Type}

/-! ### Ports by name -/

namespace Panel

/-- The port that a name means is the last one with this name. -/
theorem lastIndexOf?_eq_some_iff {panel : Panel} {direction : Direction} {name : String}
    {connector : Nat} :
    panel.lastIndexOf? direction name = some connector ↔
      ((panel.ports direction)[connector]?.map (·.name)) = some name ∧
        ∀ later, connector < later → ((panel.ports direction)[later]?.map (·.name)) ≠ some name := by
  unfold lastIndexOf?
  generalize panel.ports direction = ports
  dsimp only
  have mirrored : ∀ index < ports.length,
      ports.reverse[index]? = ports[ports.length - 1 - index]? := fun index inside =>
    List.getElem?_reverse inside
  constructor
  · intro found
    obtain ⟨index, first, rfl⟩ := Option.map_eq_some_iff.mp found
    obtain ⟨inside, named, earlier⟩ := List.findIdx?_eq_some_iff_getElem.mp first
    rw [List.length_reverse] at inside
    constructor
    · rw [← mirrored index inside, List.getElem?_eq_getElem (by simpa using inside)]
      simpa using named
    · intro later above
      by_cases below : later < ports.length
      · have other := earlier (ports.length - 1 - later) (by omega)
        rw [List.getElem_reverse] at other
        have same : ports.length - 1 - (ports.length - 1 - later) = later := by omega
        simpa [same, List.getElem?_eq_getElem below] using other
      · simp [List.getElem?_eq_none (Nat.le_of_not_lt below)]
  · intro bound
    obtain ⟨named, last⟩ := bound
    obtain ⟨port, at_connector, rfl⟩ := Option.map_eq_some_iff.mp named
    have inside : connector < ports.length := (List.getElem?_eq_some_iff.mp at_connector).1
    rw [Option.map_eq_some_iff]
    refine ⟨ports.length - 1 - connector, ?_, by omega⟩
    rw [List.findIdx?_eq_some_iff_getElem]
    have same : ports.length - 1 - (ports.length - 1 - connector) = connector := by omega
    refine ⟨by rw [List.length_reverse]; omega, ?_, ?_⟩
    · have element : ports[connector] = port := (List.getElem?_eq_some_iff.mp at_connector).2
      rw [List.getElem_reverse]
      simp [same, element]
    · intro earlier before
      rw [List.getElem_reverse]
      have other := last (ports.length - 1 - earlier) (by omega)
      rw [List.getElem?_eq_getElem (by omega)] at other
      simpa using other

end Panel

/-! ### Values in ports -/

namespace Placed

/-- Each port of the panel has its value. -/
def Fitted [Device D] (placed : Placed D) : Prop :=
  ∀ direction, (placed.values direction).length =
    ((Device.panel placed.device).ports direction).length

/-- The same panel, and a value for each port if there was one before. -/
def Continues [Device D] (before after : Placed D) : Prop :=
  Device.panel after.device = Device.panel before.device ∧ (before.Fitted → after.Fitted)

variable [Device D]

theorem Continues.refl (placed : Placed D) : placed.Continues placed :=
  ⟨rfl, id⟩

theorem Continues.trans (a b c : Placed D) (first : a.Continues b) (second : b.Continues c) :
    a.Continues c :=
  ⟨second.1.trans first.1, fun fitted => second.2 (first.2 fitted)⟩

/-- What becomes of a device where it is: values arrive at its inputs, it steps, it is reset. -/
inductive Ages (placed : Placed D) : Placed D → Prop
  | refl : Ages placed placed
  | receive {now : Placed D} (connector : Nat) (value : Value) (earlier : Ages placed now) :
      Ages placed (receive connector value now)
  | step {now : Placed D} (rate : UInt32) (earlier : Ages placed now) :
      Ages placed (now.step rate).1
  | reset {now : Placed D} (earlier : Ages placed now) : Ages placed now.reset

theorem Ages.trans (a b c : Placed D) (first : a.Ages b) (second : b.Ages c) : a.Ages c := by
  induction second with
  | refl => exact first
  | receive connector value _ ih => exact .receive connector value ih
  | step rate _ ih => exact .step rate ih
  | reset _ ih => exact .reset ih

theorem fitted_fresh (device : D) : (fresh device).Fitted := by
  intro direction
  cases direction with
  | input => exact Panel.length_initialValues _ _
  | output => exact Panel.length_initialValues _ _

theorem continues_reset (placed : Placed D) : placed.Continues placed.reset :=
  ⟨Device.panel_reset placed.device, fun _ => fitted_fresh _⟩

theorem continues_receive (placed : Placed D) (connector : Nat) (value : Value) :
    placed.Continues (receive connector value placed) := by
  refine ⟨rfl, ?_⟩
  intro fitted direction
  have before := fitted direction
  cases direction with
  | input => simpa [values, receive] using before
  | output => exact before

theorem continues_step (rate : UInt32) (placed : Placed D) :
    placed.Continues (placed.step rate).1 := by
  refine ⟨Device.panel_step _ _ _ _, ?_⟩
  intro fitted direction
  have before := fitted direction
  unfold step
  rw [Device.panel_step]
  cases direction with
  | input => exact before
  | output => exact (Device.length_step _ _ _ _).trans before

theorem Ages.continues {before after : Placed D} (ages : before.Ages after) :
    before.Continues after := by
  induction ages with
  | refl => exact Continues.refl before
  | receive connector value _ ih => exact ih.trans _ _ _ (continues_receive _ connector value)
  | step rate _ ih => exact ih.trans _ _ _ (continues_step rate _)
  | reset _ ih => exact ih.trans _ _ _ (continues_reset _)

end Placed

namespace Patch

variable [Device D]

/-- The address is that of a port of a device in the patch. -/
def HasPort (p : Patch D) (direction : Direction) (address : PortAddress) : Prop :=
  ∃ placed, p.devices.get? address.device = some placed ∧
    address.connector < ((Device.panel placed.device).ports direction).length

/-- The same devices under the same keys with the same panels, and the same cables and output. -/
structure Retains (before after : Patch D) : Prop where
  devices : before.devices.Matches Placed.Continues after.devices
  cables_eq : after.cables = before.cables
  feeds_eq : after.feeds = before.feeds
  fanOut_eq : after.fanOut = before.fanOut
  output_eq : after.output = before.output

/-- Every device under its key with what has become of it, and the same cables and output. -/
structure Aged (before after : Patch D) : Prop where
  devices : before.devices.Matches Placed.Ages after.devices
  cables_eq : after.cables = before.cables
  feeds_eq : after.feeds = before.feeds
  fanOut_eq : after.fanOut = before.fanOut
  output_eq : after.output = before.output

theorem Aged.retains {p q : Patch D} (aged : p.Aged q) : p.Retains q where
  devices := aged.devices.mono fun _ _ => Placed.Ages.continues
  cables_eq := aged.cables_eq
  feeds_eq := aged.feeds_eq
  fanOut_eq := aged.fanOut_eq
  output_eq := aged.output_eq

theorem Aged.refl (p : Patch D) : p.Aged p where
  devices := Slots.Matches.refl (fun _ => .refl) p.devices
  cables_eq := rfl
  feeds_eq := rfl
  fanOut_eq := rfl
  output_eq := rfl

theorem Aged.trans {p q r : Patch D} (first : p.Aged q) (second : q.Aged r) : p.Aged r where
  devices := first.devices.trans Placed.Ages.trans second.devices
  cables_eq := second.cables_eq.trans first.cables_eq
  feeds_eq := second.feeds_eq.trans first.feeds_eq
  fanOut_eq := second.fanOut_eq.trans first.fanOut_eq
  output_eq := second.output_eq.trans first.output_eq

theorem Aged.of_devices {p : Patch D} {devices : Slots .device (Placed D)}
    (same : p.devices.Matches Placed.Ages devices) : p.Aged { p with devices } where
  devices := same
  cables_eq := rfl
  feeds_eq := rfl
  fanOut_eq := rfl
  output_eq := rfl

theorem aged_setRate (p : Patch D) (hertz : UInt32) : p.Aged (p.setRate hertz) where
  devices := Slots.Matches.refl (fun _ => .refl) p.devices
  cables_eq := rfl
  feeds_eq := rfl
  fanOut_eq := rfl
  output_eq := rfl

theorem aged_setReadCap (p : Patch D) (frames : Nat) : p.Aged (p.setReadCap frames) where
  devices := Slots.Matches.refl (fun _ => .refl) p.devices
  cables_eq := rfl
  feeds_eq := rfl
  fanOut_eq := rfl
  output_eq := rfl

theorem matches_carry (devices : Slots .device (Placed D)) (cable : Cable) :
    devices.Matches Placed.Ages (carry devices cable) := by
  unfold carry
  split
  · exact Slots.Matches.refl (fun _ => .refl) devices
  · exact Slots.matches_update (fun _ => .refl) devices _ _ fun _ => .receive _ _ .refl

theorem matches_foldl_carry (cables : List Cable) (devices : Slots .device (Placed D)) :
    devices.Matches Placed.Ages (cables.foldl carry devices) := by
  induction cables generalizing devices with
  | nil => exact Slots.Matches.refl (fun _ => .refl) devices
  | cons cable cables ih =>
    exact (matches_carry devices cable).trans Placed.Ages.trans (ih (carry devices cable))

theorem aged_propagate (p : Patch D) : p.Aged p.propagate :=
  Aged.of_devices (matches_foldl_carry p.cables.values p.devices)

/-- What a pass does to the device under a key: one step, whose failure is reported under the
key. -/
def stepping (p : Patch D) (id : DeviceId) (placed : Placed D) : Placed D × Option PatchError :=
  ((placed.step p.rate).1, (placed.step p.rate).2.map (PatchError.deviceFailed id))

/-- Stepping changes nothing but the devices. -/
theorem snd_stepAll (p : Patch D) :
    p.stepAll.2 = { p with devices := (p.devices.updateUntil p.stepping).1 } := by
  unfold stepAll
  dsimp only
  split
  next finished => rfl
  next failure failed => rfl

theorem fst_stepAll (p : Patch D) :
    p.stepAll.1 = (p.devices.updateUntil p.stepping).2.elim (.ok ()) .error := by
  unfold stepAll
  dsimp only
  split
  next finished =>
    have outcome : (p.devices.updateUntil p.stepping).2 = none := finished
    rw [outcome]
    rfl
  next failure failed =>
    have outcome : (p.devices.updateUntil p.stepping).2 = some failure := failed
    rw [outcome]
    rfl

theorem aged_stepAll (p : Patch D) : p.Aged p.stepAll.2 := by
  rw [snd_stepAll]
  apply Aged.of_devices
  apply Slots.matches_updateUntil (fun _ => .refl)
  intro id placed
  exact .step p.rate .refl

theorem aged_pass (p : Patch D) : p.Aged p.pass.2 :=
  (aged_propagate p).trans (aged_stepAll p.propagate)

/-- A pass changes nothing but the devices, -/
theorem snd_pass (p : Patch D) : p.pass.2 = { p with devices := p.pass.2.devices } := by
  unfold pass
  rw [snd_stepAll]
  rfl

/-- and so do frames, however many are made, -/
theorem patch_frames (p : Patch D) (count : Nat) :
    (p.frames count).2.2 = { p with devices := (p.frames count).2.2.devices } := by
  induction count generalizing p with
  | zero => rfl
  | succ count ih =>
    have once := snd_pass p
    unfold frames
    split
    next failure after failed =>
      rw [failed] at once
      exact once
    next after passed =>
      rw [passed] at once
      dsimp only at once ⊢
      rw [ih after, once]

/-- and reads. -/
theorem patch_readFrames (p : Patch D) (buffer : List UInt8) :
    (p.readFrames buffer).patch = { p with devices := (p.readFrames buffer).patch.devices } := by
  unfold readFrames
  split
  · rfl
  · exact patch_frames p _

theorem aged_frames (p : Patch D) (count : Nat) : p.Aged (p.frames count).2.2 := by
  induction count generalizing p with
  | zero => exact Aged.refl p
  | succ count ih =>
    have step := aged_pass p
    unfold frames
    split
    next failure after failed =>
      rw [failed] at step
      exact step
    next after passed =>
      rw [passed] at step
      exact step.trans (ih after)

theorem aged_readFrames (p : Patch D) (buffer : List UInt8) :
    p.Aged (p.readFrames buffer).patch := by
  unfold readFrames
  split
  · exact Aged.refl p
  · exact aged_frames p _

theorem aged_reset (p : Patch D) : p.Aged p.reset :=
  Aged.of_devices (Slots.matches_map p.devices Placed.reset fun _ => .reset .refl)

section Retains

variable {p q : Patch D}

theorem Retains.hasPort_iff (same : p.Retains q) (direction : Direction) (address : PortAddress) :
    q.HasPort direction address ↔ p.HasPort direction address := by
  unfold HasPort
  rcases rel_cases (same.devices.get? address.device) with
    ⟨before, after⟩ | ⟨a, b, before, after, step⟩
  · rw [before, after]
  · rw [before, after]
    simp only [Option.some.injEq, exists_eq_left', step.1]

theorem Retains.cable?_eq (same : p.Retains q) (id : CableId) : q.cable? id = p.cable? id := by
  unfold cable?
  rw [same.cables_eq]

theorem Retains.outputCables_eq (same : p.Retains q) (output : PortAddress) :
    q.outputCables output = p.outputCables output := by
  unfold outputCables
  rw [same.fanOut_eq]

end Retains

end Patch

end ModularSynth
