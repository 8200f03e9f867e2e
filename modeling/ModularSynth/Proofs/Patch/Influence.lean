import Mathlib.Order.Bounds.Defs
import ModularSynth.Proofs.Patch.Renaming

/-!
# How far a device is heard

Nothing leaves a device but over its cables, one cable a pass. So if a device is exchanged for
another, a device at a distance of some cables from it (`Patch.Path`) notices nothing for as many
passes, and one that no way leads to never does. The induction is over passes, with a statement about
all devices beyond a distance that grows by one in each: they are the same in both patches, and the
devices one cable nearer still held the same in their outputs (`Shields`). That a device has no
outputs that are heard elsewhere is also why it can be deleted unnoticed.
-/

namespace ModularSynth

variable {D : Type}

namespace Patch

/-- A way along so many cables, each of which leaves the device at which the one before ends. -/
inductive Path (p : Patch D) : Nat → DeviceId → DeviceId → Prop
  | here (id : DeviceId) : Path p 0 id id
  | along {length : Nat} {start : DeviceId} {cable : Cable}
      (earlier : Path p length start cable.source.device) (member : cable ∈ p.cables.values) :
      Path p (length + 1) start cable.destination.device

/-- The patch with another device in the place of one of its own. The values in the ports stay. -/
def exchange (p : Patch D) (id : DeviceId) (device : D) : Patch D :=
  { p with devices := p.devices.update id fun placed => { placed with device } }

/-- As long as no pass fails on either, both patches make the same frames. -/
def SameFrames [Device D] (p q : Patch D) (count : Nat) : Prop :=
  (p.frames count).2.1 = .ok () → (q.frames count).2.1 = .ok () →
    (q.frames count).1 = (p.frames count).1

/-! ### One pass -/

section Pass

variable {p q : Patch D}

section Heard

variable {id : DeviceId} (fed : p.Fed) (fed' : q.Fed)
  (here : q.devices.get? id = p.devices.get? id)
  (cables : ∀ cable : Cable, cable.destination.device = id →
    (cable ∈ q.cables.values ↔ cable ∈ p.cables.values))
  (carried : ∀ cable ∈ p.cables.values, cable.destination.device = id →
    q.outputValue? cable.source = p.outputValue? cable.source)

include fed fed' here cables carried

theorem Fed.inputValue?_propagate_eq_of_arrival {cable : Cable} (member : cable ∈ p.cables.values)
    (home : cable.destination.device = id) {value : Value}
    (held : p.outputValue? cable.source = some value) (travels : value.kind ≠ .text) :
    q.propagate.inputValue? cable.destination = p.propagate.inputValue? cable.destination := by
  have before : q.inputValue? cable.destination = p.inputValue? cable.destination := by
    unfold inputValue? portValue?
    rw [home, here]
  have member' := (cables cable home).mpr member
  have held' := (carried cable member home).trans held
  cases port : p.inputValue? cable.destination with
  | none =>
    rw [inputValue?_propagate_of_none port, inputValue?_propagate_of_none (before.trans port)]
  | some old =>
    rw [port] at before
    rw [inputValue?_propagate_of_arrival fed.nodup_destinations member held travels
        (by rw [port, Option.isSome_some]),
      inputValue?_propagate_of_arrival fed'.nodup_destinations member' held' travels
        (by rw [before, Option.isSome_some])]

theorem Fed.inputValue?_propagate_eq (connector : Nat) :
    q.propagate.inputValue? ⟨id, connector⟩ = p.propagate.inputValue? ⟨id, connector⟩ := by
  by_cases arrives : ∃ cable ∈ p.cables.values, cable.destination = ⟨id, connector⟩ ∧
      ∃ value, p.outputValue? cable.source = some value ∧ value.kind ≠ .text
  · obtain ⟨cable, member, ends, value, held, travels⟩ := arrives
    have home : cable.destination.device = id := by rw [ends]
    rw [← ends]
    exact fed.inputValue?_propagate_eq_of_arrival fed' here cables carried member home held travels
  · have silence : ∀ cable ∈ p.cables.values, cable.destination = ⟨id, connector⟩ →
        ∀ value, p.outputValue? cable.source = some value → value.kind = .text := by
      intro cable member ends value held
      by_contra travels
      exact arrives ⟨cable, member, ends, value, held, travels⟩
    have silence' : ∀ cable ∈ q.cables.values, cable.destination = ⟨id, connector⟩ →
        ∀ value, q.outputValue? cable.source = some value → value.kind = .text := by
      intro cable member ends value held
      have home : cable.destination.device = id := by rw [ends]
      have member' := (cables cable home).mp member
      rw [carried cable member' home] at held
      exact silence cable member' ends value held
    rw [inputValue?_propagate_of_silence silence, inputValue?_propagate_of_silence silence']
    unfold inputValue? portValue?
    rw [here]

/-- If two patches agree on a device, on the cables that lead to it and on what these carry, they
agree on what it hears. -/
theorem Fed.get?_propagate_eq : q.propagate.devices.get? id = p.propagate.devices.get? id := by
  have heard := fed.inputValue?_propagate_eq fed' here cables carried
  have hears := hears_foldl_carry p.cables.values p.devices
  have hears' := hears_foldl_carry q.cables.values q.devices
  unfold propagate inputValue? portValue? at heard
  unfold propagate
  rcases rel_cases (hears.get? id) with ⟨missing, right⟩ | ⟨before, after, held, right, step⟩
  · rcases rel_cases (hears'.get? id) with ⟨-, right'⟩ | ⟨before, after', held, -, -⟩
    · rw [right, right']
    · rw [here, missing] at held
      cases held
  · obtain ⟨after', right', step'⟩ := exists_right_of_rel (hears'.get? id) (here.trans held)
    have inputs : after'.inputs = after.inputs := by
      apply List.ext_getElem?
      intro connector
      have same := heard connector
      rw [right, right'] at same
      exact same
    rw [right, right', step.eq_of_inputs step' inputs]

theorem Fed.get?_pass_eq [Device D] (rates : q.rate = p.rate) (passed : p.pass.1 = .ok ())
    (passed' : q.pass.1 = .ok ()) : q.pass.2.devices.get? id = p.pass.2.devices.get? id := by
  have heard := fed.get?_propagate_eq fed' here cables carried
  have rate : q.propagate.rate = p.propagate.rate := rates
  unfold Patch.pass at passed passed' ⊢
  rw [get?_stepAll_of_ok passed, get?_stepAll_of_ok passed', heard, rate]

end Heard

end Pass

/-! ### Any number of passes -/

/-- Nothing that differs between two patches reaches the devices beyond: over one cable nothing comes
to those beyond `n + 1` but from those beyond `n`, and the cables that lead to them are the same. -/
structure Shields (beyond : Nat → DeviceId → Prop) (p q : Patch D) : Prop where
  nested : ∀ n id, beyond (n + 1) id → beyond n id
  sources : ∀ n, ∀ cable ∈ p.cables.values, beyond (n + 1) cable.destination.device →
    beyond n cable.source.device
  cables : ∀ n (cable : Cable), beyond (n + 1) cable.destination.device →
    (cable ∈ q.cables.values ↔ cable ∈ p.cables.values)
  rate_eq : q.rate = p.rate
  output_eq : q.output = p.output

section Shields

variable {beyond : Nat → DeviceId → Prop} {p q : Patch D}

/-- Beyond a distance both patches have the same devices, and one cable nearer the same outputs. -/
structure Agrees (beyond : Nat → DeviceId → Prop) (n : Nat) (p q : Patch D) : Prop where
  outputs : ∀ id, beyond n id → ∀ connector,
    q.outputValue? ⟨id, connector⟩ = p.outputValue? ⟨id, connector⟩
  devices : ∀ id, beyond (n + 1) id → q.devices.get? id = p.devices.get? id

theorem Shields.of_add (shields : Shields beyond p q) {n : Nat} {id : DeviceId} (more : Nat)
    (far : beyond (n + more) id) : beyond n id := by
  induction more with
  | zero => exact far
  | succ more ih => exact ih (shields.nested _ _ far)

theorem Shields.currentFrame_eq (shields : Shields beyond p q) {n : Nat}
    (agrees : Agrees beyond n p q)
    (far : ∀ output, p.output = some output → beyond n output.device) :
    q.currentFrame = p.currentFrame := by
  unfold currentFrame
  rw [shields.output_eq]
  cases chosen : p.output with
  | none => rfl
  | some output =>
    have same := agrees.outputs output.device (far output chosen) output.connector
    simp only [Option.bind_some]
    rw [show q.outputValue? output = p.outputValue? output from same]

variable [Device D]

theorem Shields.pass (shields : Shields beyond p q) : Shields beyond p.pass.2 q.pass.2 := by
  rw [snd_pass p, snd_pass q]
  exact ⟨shields.nested, shields.sources, shields.cables, shields.rate_eq, shields.output_eq⟩

/-- A pass brings what differs one cable further. -/
theorem Shields.agrees_pass (shields : Shields beyond p q) (fed : p.Fed) (fed' : q.Fed) {n : Nat}
    (agrees : Agrees beyond n p q) (passed : p.pass.1 = .ok ()) (passed' : q.pass.1 = .ok ()) :
    Agrees beyond (n + 1) p.pass.2 q.pass.2 := by
  have devices : ∀ id, beyond (n + 1) id → q.pass.2.devices.get? id = p.pass.2.devices.get? id := by
    intro id far
    refine fed.get?_pass_eq fed' (agrees.devices id far) ?_ ?_ shields.rate_eq passed passed'
    · intro cable ends
      exact shields.cables n cable (by rw [ends]; exact far)
    · intro cable member ends
      exact agrees.outputs _ (shields.sources n cable member (by rw [ends]; exact far)) _
  refine ⟨?_, fun id far => devices id (shields.nested _ _ far)⟩
  intro id far connector
  unfold outputValue? portValue?
  rw [devices id far]

/-- As long as the output is beyond what differs, the frames are the same. -/
theorem Shields.sameFrames (shields : Shields beyond p q) (fed : p.Fed) (fed' : q.Fed) {n : Nat}
    (agrees : Agrees beyond n p q) (count : Nat)
    (far : ∀ output, p.output = some output → beyond (n + count) output.device) :
    p.SameFrames q count := by
  induction count generalizing n p q with
  | zero => exact fun _ _ => rfl
  | succ count ih =>
    intro finished finished'
    cases passed : p.pass.1 with
    | error failure =>
      rw [frames_of_error passed] at finished
      cases finished
    | ok done =>
      cases passed' : q.pass.1 with
      | error failure =>
        rw [frames_of_error passed'] at finished'
        cases finished'
      | ok done' =>
        have next := shields.agrees_pass fed fed' agrees passed passed'
        have output : p.pass.2.output = p.output := by rw [snd_pass]
        have further : ∀ output, p.pass.2.output = some output →
            beyond (n + 1 + count) output.device := by
          intro address chosen
          rw [Nat.add_right_comm]
          exact far address (output ▸ chosen)
        have frame := shields.pass.currentFrame_eq next fun address chosen =>
          shields.of_add count (further address chosen)
        have later := ih shields.pass fed.pass fed'.pass next further
        rw [frames_of_ok passed] at finished ⊢
        rw [frames_of_ok passed'] at finished' ⊢
        rw [frame, later finished finished']

end Shields

/-! ### Another device -/

theorem get?_exchange_of_ne (p : Patch D) (device : D) {id other : DeviceId}
    (apart : other ≠ id) : (p.exchange id device).devices.get? other = p.devices.get? other := by
  unfold exchange
  rw [Slots.get?_update, if_neg apart]

theorem outputValue?_exchange (p : Patch D) (id : DeviceId) (device : D)
    (output : PortAddress) : (p.exchange id device).outputValue? output = p.outputValue? output := by
  by_cases same : output.device = id
  · unfold outputValue? portValue? exchange
    rw [Slots.get?_update, if_pos same, same, Option.bind_map]
    rfl
  · unfold outputValue? portValue?
    rw [get?_exchange_of_ne p device same]

/-- The devices to which no way of fewer cables leads. -/
def Beyond (p : Patch D) (id : DeviceId) (n : Nat) (other : DeviceId) : Prop :=
  ∀ length < n, ¬ p.Path length id other

/-- The devices to which no way leads. -/
def Unreached (p : Patch D) (id other : DeviceId) : Prop :=
  ∀ length, ¬ p.Path length id other

theorem Unreached.ne {p : Patch D} {id other : DeviceId} (unreached : p.Unreached id other) :
    other ≠ id := by
  rintro rfl
  exact unreached 0 (.here other)

theorem shields_exchange (p : Patch D) (id : DeviceId) (device : D) :
    Shields (p.Beyond id) p (p.exchange id device) where
  nested := fun n _ far length below => far length (below.trans n.lt_succ_self)
  sources := fun _ _ member far length below way =>
    far (length + 1) (Nat.succ_lt_succ below) (.along way member)
  cables := fun _ _ _ => Iff.rfl
  rate_eq := rfl
  output_eq := rfl

theorem agrees_exchange (p : Patch D) (id : DeviceId) (device : D) :
    Agrees (p.Beyond id) 0 p (p.exchange id device) where
  outputs := fun _ _ _ => outputValue?_exchange p id device _
  devices := by
    intro other far
    refine get?_exchange_of_ne p device ?_
    rintro rfl
    exact far 0 Nat.zero_lt_one (.here other)

/-! ### No device -/

section Deletion

variable {p : Patch D} {id : DeviceId}

/-- Cables that do not touch a device stay when it is deleted. -/
theorem CablesWired.mem_cables_withoutDevice (wired : p.CablesWired) (fits : p.cables.Fits)
    (placed : Placed D) {cable : Cable} (ends : cable.destination.device ≠ id)
    (begins : cable ∈ p.cables.values → cable.source.device ≠ id) :
    cable ∈ (p.withoutDevice id placed).cables.values ↔ cable ∈ p.cables.values := by
  have fits' : (p.withoutDevice id placed).cables.Fits := by
    unfold withoutDevice Slots.Fits
    rw [length_cables_foldl_removeCable]
    exact fits
  have left := cable?_foldl_removeCable p (p.incidentCables id placed)
  rw [Slots.mem_values_iff_get? fits', Slots.mem_values_iff_get? fits]
  constructor
  · intro still
    obtain ⟨key, found⟩ := still
    have live := (left key).symm.trans found
    split at live
    · cases live
    · exact ⟨key, live⟩
  · intro before
    obtain ⟨key, found⟩ := before
    refine ⟨key, (left key).trans ?_⟩
    have untouched : key ∉ p.incidentCables id placed := by
      intro listed
      obtain ⟨other, live, touches⟩ := wired.indexed.exists_of_mem_incidentCables listed
      obtain rfl : cable = other := Option.some.inj (found.symm.trans live)
      rcases touches with same | same
      · exact ends same
      · exact begins ((Slots.mem_values_iff_get? fits).mpr ⟨key, found⟩) same
    rw [if_neg untouched]
    exact found

theorem CablesWired.shields_withoutDevice (wired : p.CablesWired) (fits : p.cables.Fits)
    (placed : Placed D)
    (unheard : ∀ output, p.output = some output → p.Unreached id output.device) :
    Shields (fun _ => p.Unreached id) p (p.withoutDevice id placed) where
  nested := fun _ _ far => far
  sources := fun _ _ member far length way => far (length + 1) (.along way member)
  cables := by
    intro _ cable far
    refine wired.mem_cables_withoutDevice fits placed far.ne ?_
    rintro member same
    exact far 1 (.along (same ▸ .here cable.source.device) member)
  rate_eq := rate_withoutDevice p id placed
  output_eq := by
    rw [output_withoutDevice]
    cases chosen : p.output with
    | none => rfl
    | some output => simp [(unheard output chosen).ne]

theorem agrees_withoutDevice (placed : Placed D) (n : Nat) :
    Agrees (fun _ => p.Unreached id) n p (p.withoutDevice id placed) where
  outputs := by
    intro other far connector
    unfold outputValue? portValue?
    rw [get?_withoutDevice_of_ne p placed far.ne]
  devices := fun other far => get?_withoutDevice_of_ne p placed far.ne

end Deletion

/-! ### What is heard of a device -/

section Heard

variable [Device D] {p : Patch D} {id : DeviceId}

theorem Fed.sameFrames_exchange (fed : p.Fed) (device : D) {count : Nat}
    (far : ∀ output, p.output = some output → p.Beyond id count output.device) :
    p.SameFrames (p.exchange id device) count := by
  apply (shields_exchange p id device).sameFrames fed (fed.of_eq rfl rfl)
    (agrees_exchange p id device)
  rw [Nat.zero_add]
  exact far

/-- Without a way to the output neither the device nor another in its place is missed. -/
theorem CablesWired.sameFrames_withoutDevice (wired : p.CablesWired) (fits : p.cables.Fits)
    (fed : p.Fed) (placed : Placed D) (device : D)
    (unheard : ∀ output, p.output = some output → p.Unreached id output.device) (count : Nat) :
    p.SameFrames (p.withoutDevice id placed) count ∧
      (p.exchange id device).SameFrames (p.withoutDevice id placed) count := by
  have shields := wired.shields_withoutDevice fits placed unheard
  have agrees : Agrees (fun _ => p.Unreached id) 0 p (p.withoutDevice id placed) :=
    agrees_withoutDevice placed 0
  have fed' : (p.withoutDevice id placed).Fed :=
    (fed.foldl_removeCable (p.incidentCables id placed)).of_eq rfl rfl
  constructor
  · exact shields.sameFrames fed fed' agrees count unheard
  · have shields' : Shields (fun _ => p.Unreached id) (p.exchange id device)
        (p.withoutDevice id placed) :=
      ⟨shields.nested, shields.sources, shields.cables, shields.rate_eq, shields.output_eq⟩
    have agrees' : Agrees (fun _ => p.Unreached id) 0 (p.exchange id device)
        (p.withoutDevice id placed) := by
      constructor
      · intro other far connector
        rw [outputValue?_exchange]
        exact agrees.outputs other far connector
      · intro other far
        rw [get?_exchange_of_ne p device far.ne]
        exact agrees.devices other far
    exact shields'.sameFrames (fed.of_eq rfl rfl) fed' agrees' count unheard

end Heard

/-- What the frames of a patch tell about one of its devices. The other device that is put in its
place may do anything, whatever its panel. -/
structure Contained [Device D] (p : Patch D) (id : DeviceId) (output : PortAddress) : Prop where
  /-- It is first heard after as many frames as the shortest way to the output has cables. -/
  delayed : ∀ distance, IsLeast {length | p.Path length id output.device} distance →
    ∀ device, ∀ count ≤ distance, p.SameFrames (p.exchange id device) count
  /-- If there is no way it is never heard, -/
  unheard : (∀ length, ¬ p.Path length id output.device) →
    ∀ device count, p.SameFrames (p.exchange id device) count
  /-- nor is it missed when it is deleted. A deletion looks cables up by their keys, which name one
  cable each as long as there are no more slots of cables than numbers for them. -/
  unmissed : (∀ length, ¬ p.Path length id output.device) → p.cables.Fits →
    ∃ after, p.deleteDevice id = .ok after ∧
      ∀ device count, p.SameFrames after count ∧ (p.exchange id device).SameFrames after count

/-- Of every device in a patch that operations make out of an empty one, no more is heard than its
distance from the output allows. -/
theorem contained_of_reachable [Device D] {p : Patch D} (reachable : p.Reachable)
    {output : PortAddress} (chosen : p.output = some output) {id : DeviceId} {placed : Placed D}
    (found : p.devices.get? id = some placed) : p.Contained id output := by
  have fed := fed_of_reachable reachable
  have only : ∀ address, p.output = some address → address = output := fun address same =>
    Option.some.inj (same.symm.trans chosen)
  refine { delayed := ?_, unheard := ?_, unmissed := ?_ }
  · intro distance least device count within
    apply fed.sameFrames_exchange
    intro address same length below way
    rw [only address same] at way
    exact absurd (least.2 way) (Nat.not_le_of_lt (Nat.lt_of_lt_of_le below within))
  · intro unreached device count
    apply fed.sameFrames_exchange
    intro address same length _ way
    rw [only address same] at way
    exact unreached length way
  · intro unreached fits
    refine ⟨p.withoutDevice id placed, deleteDevice_of_some found, ?_⟩
    intro device count
    apply (cablesWired_of_reachable reachable fits).sameFrames_withoutDevice fits fed
    intro address same
    rw [only address same]
    exact unreached

/-- In `relayed` one cable leads from `spent` to the output. -/
theorem relayed_contained :
    (((ofSettings {}).run relayed).2.Reachable ∧
      ((ofSettings {}).run relayed).2.output = some ⟨⟨0, 1⟩, 0⟩ ∧
      (((ofSettings {}).run relayed).2.devices.get? ⟨1, 1⟩).isSome ∧
      IsLeast {length | ((ofSettings {}).run relayed).2.Path length ⟨1, 1⟩ ⟨0, 1⟩} 1) ∧
    ((ofSettings {}).run relayed).2.Contained ⟨1, 1⟩ ⟨⟨0, 1⟩, 0⟩ := by
  have member : (⟨⟨⟨1, 1⟩, 0⟩, ⟨⟨0, 1⟩, 0⟩⟩ : Cable) ∈
      ((ofSettings {}).run relayed).2.cables.values := by decide
  refine ⟨⟨⟨{}, relayed, rfl⟩, by decide, by decide, ?_, ?_⟩, ?_⟩
  · exact .along (.here _) member
  · intro length way
    cases length with
    | zero => cases way
    | succ length => exact Nat.succ_le_succ (Nat.zero_le length)
  · exact contained_of_reachable ⟨{}, relayed, rfl⟩ (by decide) rfl

/-- The first frame is the same with another device in the place of `spent`, the second is not. -/
example : (((ofSettings {}).run relayed).2.frames 2).1 = [.silence, ⟨1, -1⟩] ∧
    ((((ofSettings {}).run relayed).2.exchange ⟨1, 1⟩ relay).frames 2).1 =
      [.silence, .silence] := by
  decide

end Patch

end ModularSynth
