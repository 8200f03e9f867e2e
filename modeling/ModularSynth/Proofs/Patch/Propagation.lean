import Mathlib.Data.List.Nodup
import ModularSynth.Proofs.Patch.Ports

/-!
# The first phase of a pass

A cable reads an output and writes an input, and propagation writes no output. So what a cable
carries does not depend on the cables before it, and two cables can change places unless they end at
one input. `Patch.inputValue?_propagate_of_arrival` and `Patch.inputValue?_propagate_of_silence` say
what an input holds after all cables have been visited.
-/

namespace ModularSynth

variable {D : Type}

namespace Placed

/-- All but the contents of the inputs is the same. -/
structure Hears (before after : Placed D) : Prop where
  device_eq : after.device = before.device
  outputs_eq : after.outputs = before.outputs
  length_inputs : after.inputs.length = before.inputs.length

theorem Hears.refl (placed : Placed D) : placed.Hears placed where
  device_eq := rfl
  outputs_eq := rfl
  length_inputs := rfl

theorem Hears.trans (a b c : Placed D) (first : a.Hears b) (second : b.Hears c) : a.Hears c where
  device_eq := second.device_eq.trans first.device_eq
  outputs_eq := second.outputs_eq.trans first.outputs_eq
  length_inputs := second.length_inputs.trans first.length_inputs

/-- What has heard the same is the same. -/
theorem Hears.eq_of_inputs {before after after' : Placed D} (hears : before.Hears after)
    (hears' : before.Hears after') (inputs : after'.inputs = after.inputs) : after' = after := by
  have device := hears'.device_eq.trans hears.device_eq.symm
  have outputs := hears'.outputs_eq.trans hears.outputs_eq.symm
  cases after
  cases after'
  simp only at inputs device outputs
  rw [inputs, device, outputs]

theorem hears_receive (placed : Placed D) (connector : Nat) (value : Value) :
    placed.Hears (receive connector value placed) where
  device_eq := rfl
  outputs_eq := rfl
  length_inputs := List.length_modify _ _ _

theorem receive_comm {connector other : Nat} (apart : connector ≠ other) (value value' : Value)
    (placed : Placed D) :
    receive other value' (receive connector value placed) =
      receive connector value (receive other value' placed) := by
  unfold receive
  rw [List.modify_modify_ne _ _ _ apart]

end Placed

namespace Patch

/-- What an input of the devices holds. -/
def inputOf? (devices : Slots .device (Placed D)) (input : PortAddress) : Option Value :=
  (devices.get? input.device).bind (·.inputs[input.connector]?)

theorem carried?_eq_of_hears {before after : Slots .device (Placed D)}
    (hears : before.Matches Placed.Hears after) (cable : Cable) :
    carried? after cable = carried? before cable := by
  unfold carried?
  rcases rel_cases (hears.get? cable.source.device) with ⟨left, right⟩ | ⟨a, b, left, right, step⟩
  · rw [left, right]
  · rw [left, right, Option.bind_some, Option.bind_some, step.outputs_eq]

theorem hears_carry (devices : Slots .device (Placed D)) (cable : Cable) :
    devices.Matches Placed.Hears (carry devices cable) := by
  unfold carry
  split
  · exact Slots.Matches.refl Placed.Hears.refl devices
  · exact Slots.matches_update Placed.Hears.refl devices _ _
      fun placed => Placed.hears_receive placed _ _

theorem hears_foldl_carry (cables : List Cable) (devices : Slots .device (Placed D)) :
    devices.Matches Placed.Hears (cables.foldl carry devices) := by
  induction cables generalizing devices with
  | nil => exact Slots.Matches.refl Placed.Hears.refl devices
  | cons cable cables ih =>
    exact (hears_carry devices cable).trans Placed.Hears.trans (ih (carry devices cable))

theorem carried?_carry (devices : Slots .device (Placed D)) (cable other : Cable) :
    carried? (carry devices cable) other = carried? devices other :=
  carried?_eq_of_hears (hears_carry devices cable) other

/-! ### The order of the cables -/

/-- Cables that end at different inputs can be visited in either order. -/
theorem carry_comm (devices : Slots .device (Placed D)) {cable other : Cable}
    (apart : cable.destination ≠ other.destination) :
    carry (carry devices cable) other = carry (carry devices other) cable := by
  have first := carried?_carry devices other cable
  have second := carried?_carry devices cable other
  cases carried : carried? devices cable with
  | none =>
    rw [carried] at first
    have still : carry devices cable = devices := by simp only [carry, carried]
    rw [still]
    simp only [carry] at first ⊢
    rw [first]
  | some value =>
    cases carried' : carried? devices other with
    | none =>
      rw [carried'] at second
      have still : carry devices other = devices := by simp only [carry, carried']
      rw [still]
      simp only [carry, carried] at second ⊢
      rw [second]
    | some value' =>
      rw [carried] at first
      rw [carried'] at second
      simp only [carry, carried, carried'] at first second ⊢
      rw [first, second]
      apply Slots.update_comm
      intro same placed
      apply Placed.receive_comm
      intro connectors
      apply apart
      cases cable with | mk source destination =>
      cases other with | mk source' destination' =>
      cases destination
      cases destination'
      simp only at same connectors
      rw [same, connectors]

/-- The order in which cables with different ends are visited does not matter. -/
theorem foldl_carry_of_perm {cables order : List Cable} (apart : (cables.map (·.destination)).Nodup)
    (permuted : order.Perm cables) (devices : Slots .device (Placed D)) :
    order.foldl carry devices = cables.foldl carry devices := by
  refine (permuted.symm.foldl_eq' ?_ devices).symm
  intro cable member other member' devices
  by_cases same : cable = other
  · rw [same]
  · apply carry_comm
    intro ends
    exact same (List.inj_on_of_nodup_map apart member member' ends)

/-! ### What arrives at an input -/

theorem inputOf?_carry (devices : Slots .device (Placed D)) (cable : Cable) (input : PortAddress) :
    inputOf? (carry devices cable) input =
      if cable.destination = input then
        (inputOf? devices input).map fun old => (carried? devices cable).getD old
      else inputOf? devices input := by
  unfold carry
  cases carried : carried? devices cable with
  | none => simp
  | some value =>
    have travels : value.kind ≠ .text := by
      unfold carried? at carried
      have kept := (Option.filter_eq_some_iff.mp carried).2
      simpa using kept
    simp only [inputOf?, Slots.get?_update, Option.getD_some]
    by_cases device : input.device = cable.destination.device
    · rw [if_pos device, ← device]
      cases found : devices.get? input.device with
      | none => simp
      | some placed =>
        simp only [Option.map_some, Option.bind_some, Placed.receive, List.getElem?_modify]
        by_cases same : cable.destination = input
        · simp only [same, if_true]
          cases placed.inputs[input.connector]? with
          | none => rfl
          | some old => simp [Value.carriedOnto_of_kind_ne_text travels]
        · have differ : cable.destination.connector ≠ input.connector := by
            intro equal
            apply same
            cases cable with | mk source destination =>
            cases destination
            cases input
            simp only at device equal
            rw [device, equal]
          simp [same, differ]
    · have differ : cable.destination ≠ input := by
        intro same
        subst same
        exact device rfl
      rw [if_neg device, if_neg differ]

/-- An input at which nothing arrives keeps its value. -/
theorem inputOf?_foldl_of_silence (cables : List Cable) (devices : Slots .device (Placed D))
    (input : PortAddress)
    (silence : ∀ cable ∈ cables, cable.destination = input → carried? devices cable = none) :
    inputOf? (cables.foldl carry devices) input = inputOf? devices input := by
  induction cables generalizing devices with
  | nil => rfl
  | cons cable cables ih =>
    rw [List.forall_mem_cons] at silence
    have rest := ih (carry devices cable) fun other member ends => by
      rw [carried?_carry]
      exact silence.2 other member ends
    rw [List.foldl_cons, rest, inputOf?_carry]
    by_cases ends : cable.destination = input
    · simp [ends, silence.1 ends]
    · rw [if_neg ends]

/-- The value that a cable carries arrives at its input, whatever other cables do before and
after. -/
theorem inputOf?_foldl_of_arrival (cables : List Cable) (devices : Slots .device (Placed D))
    (apart : (cables.map (·.destination)).Nodup) {cable : Cable} (member : cable ∈ cables)
    {value : Value} (carried : carried? devices cable = some value)
    (port : (inputOf? devices cable.destination).isSome) :
    inputOf? (cables.foldl carry devices) cable.destination = some value := by
  induction cables generalizing devices with
  | nil => cases member
  | cons head tail ih =>
    rw [List.map_cons, List.nodup_cons] at apart
    rw [List.foldl_cons]
    rcases List.mem_cons.mp member with rfl | later
    · have unheard : ∀ other ∈ tail, other.destination = cable.destination →
          carried? (carry devices cable) other = none := by
        intro other member' ends
        exact absurd (List.mem_map.mpr ⟨other, member', ends⟩) apart.1
      obtain ⟨old, held⟩ := Option.isSome_iff_exists.mp port
      rw [inputOf?_foldl_of_silence tail _ _ unheard, inputOf?_carry, if_pos rfl, carried, held]
      rfl
    · have different : head.destination ≠ cable.destination := by
        intro ends
        exact apart.1 (ends ▸ List.mem_map_of_mem later)
      refine ih (carry devices head) apart.2 later ?_ ?_
      · rw [carried?_carry]
        exact carried
      · rw [inputOf?_carry, if_neg different]
        exact port

section Propagate

variable {p : Patch D}

/-- A cable carries what its output holds, unless that is a text. -/
theorem carried?_eq (p : Patch D) (cable : Cable) :
    carried? p.devices cable = (p.outputValue? cable.source).filter (·.kind ≠ .text) := rfl

/-- An input at which a cable ends whose output holds a value that travels takes that value over. -/
theorem inputValue?_propagate_of_arrival (apart : (p.cables.values.map (·.destination)).Nodup)
    {cable : Cable} (member : cable ∈ p.cables.values) {value : Value}
    (held : p.outputValue? cable.source = some value) (travels : value.kind ≠ .text)
    (port : (p.inputValue? cable.destination).isSome) :
    p.propagate.inputValue? cable.destination = some value := by
  have carried : carried? p.devices cable = some value := by
    rw [carried?_eq, held]
    simp [travels]
  exact inputOf?_foldl_of_arrival p.cables.values p.devices apart member carried port

/-- An input keeps its value if no cable ends there, or one whose output holds a text. -/
theorem inputValue?_propagate_of_silence {input : PortAddress}
    (silence : ∀ cable ∈ p.cables.values, cable.destination = input →
      ∀ value, p.outputValue? cable.source = some value → value.kind = .text) :
    p.propagate.inputValue? input = p.inputValue? input := by
  apply inputOf?_foldl_of_silence
  intro cable member ends
  rw [carried?_eq, Option.filter_eq_none_iff]
  intro value held
  simp [silence cable member ends value held]

theorem inputValue?_propagate_of_none {input : PortAddress}
    (missing : p.inputValue? input = none) : p.propagate.inputValue? input = none := by
  unfold inputValue? portValue? propagate at *
  have hears := hears_foldl_carry p.cables.values p.devices
  rcases rel_cases (hears.get? input.device) with ⟨left, right⟩ | ⟨a, b, left, right, step⟩
  · rw [right, Option.bind_none]
  · rw [left, Option.bind_some, List.getElem?_eq_none_iff] at missing
    rw [right, Option.bind_some, List.getElem?_eq_none_iff]
    exact Nat.le_trans (Nat.le_of_eq step.length_inputs) missing

/-- Propagation changes no device and no output. -/
theorem entries_propagate (p : Patch D) :
    p.propagate.devices.entries.map (fun (id, placed) => (id, placed.device, placed.outputs)) =
      p.devices.entries.map fun (id, placed) => (id, placed.device, placed.outputs) := by
  refine (hears_foldl_carry p.cables.values p.devices).map_entries ?_
  intro id before after heard
  simp only [heard.device_eq, heard.outputs_eq]

end Propagate

end Patch

end ModularSynth
