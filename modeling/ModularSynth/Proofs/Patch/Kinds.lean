import ModularSynth.Device.Builtin
import ModularSynth.Proofs.Patch.Places

/-!
# Kinds of values among built-in devices

Cables are connected whatever the kinds of their ports, so what keeps built-in devices running is an
invariant of the whole patch (`Patch.Kinded`): every output holds a value of its own kind, and every
input a float, unless a cable leads to it from a converter (`Patch.Tainted`). Once values have been
carried, a tainted input holds a sample and any other a float. So a pass succeeds if no input is
tainted, and otherwise fails at the first tainted input of the lowest slot that has one; either way
the invariant and the tainted inputs stay what they were (`Kinded.run`).
-/

namespace ModularSynth

/-! ### What a step needs -/

theorem floatInput_of_float {panel : Panel} {inputs : List Value} {connector : Nat} {value : Value}
    (held : inputs[connector]? = some value) (float : value.kind = .float) :
    ∃ x, floatInput panel inputs connector = .ok x := by
  cases value with
  | float x =>
    refine ⟨x, ?_⟩
    unfold floatInput
    rw [held]
  | _ => cases float

theorem floatInput_of_sample {panel : Panel} {inputs : List Value} {connector : Nat}
    {value : Value} {port : Port} (named : panel.inputs[connector]? = some port)
    (held : inputs[connector]? = some value) (sample : value.kind = .sample) :
    floatInput panel inputs connector = .error (.inputKind port.name .float .sample) := by
  cases value with
  | sample s =>
    unfold floatInput
    rw [held]
    simp only [named, Option.map_some, Option.getD_some, Value.kind]
  | _ => cases sample

namespace Builtin

/-- The kind of the values in a device's output. -/
def outputKind : Builtin → Kind
  | converter => .sample
  | _ => .float

theorem outputKind_eq_sample_iff {device : Builtin} :
    device.outputKind = .sample ↔ device = converter := by
  cases device <;> simp [outputKind]

theorem outputKind_eq_float {device : Builtin} (other : device.outputKind ≠ .sample) :
    device.outputKind = .float := by
  cases device with
  | converter => exact absurd rfl other
  | _ => rfl

theorem outputKind_ne_text (device : Builtin) : device.outputKind ≠ .text := by
  cases device <;> nofun

theorem kinds_outputs (device : Builtin) :
    (panel device).outputs.map (·.kind) = [device.outputKind] := by
  cases device <;> rfl

theorem kinds_inputs (device : Builtin) : ∀ port ∈ (panel device).inputs, port.kind = .float := by
  have constants : ∀ port ∈ constantPanel.inputs, port.kind = .float := by decide
  have oscillators : ∀ port ∈ oscillatorPanel.inputs, port.kind = .float := by decide
  have converters : ∀ port ∈ converterPanel.inputs, port.kind = .float := by decide
  cases device with
  | constant value => exact constants
  | oscillator phase => exact oscillators
  | converter => exact converters

/-- With floats in its inputs a device does not fail. -/
theorem step_of_floats {rate : UInt32} {inputs : List Value} {device : Builtin}
    (outputs : List Value) (positive : rate ≠ 0)
    (floats : ∀ connector < (panel device).inputs.length, ∃ value,
      inputs[connector]? = some value ∧ value.kind = .float) :
    (step rate inputs device outputs).failure = none := by
  have reads : ∀ connector < (panel device).inputs.length, ∀ panel : Panel,
      ∃ x, floatInput panel inputs connector = .ok x := by
    intro connector below panel
    obtain ⟨value, held, float⟩ := floats connector below
    exact floatInput_of_float held float
  cases device with
  | constant value => rfl
  | oscillator phase =>
    have three : (panel (oscillator phase)).inputs.length = 3 := rfl
    rw [three] at reads
    obtain ⟨frequency, first⟩ := reads 0 (by decide) oscillatorPanel
    obtain ⟨gain, second⟩ := reads 1 (by decide) oscillatorPanel
    obtain ⟨offset, third⟩ := reads 2 (by decide) oscillatorPanel
    simp only [step, oscillate, positive, if_false, first, second, third, bind, Except.bind, pure,
      Except.pure]
  | converter =>
    obtain ⟨signal, first⟩ := reads 0 Nat.zero_lt_one converterPanel
    simp only [step, first]

/-- The first input that holds a sample is the one a device complains about. -/
theorem step_of_sample {rate : UInt32} {inputs : List Value} {device : Builtin}
    (outputs : List Value) (positive : rate ≠ 0) {connector : Nat} {port : Port} {value : Value}
    (named : (panel device).inputs[connector]? = some port)
    (held : inputs[connector]? = some value) (sample : value.kind = .sample)
    (floats : ∀ lower < connector, ∃ value, inputs[lower]? = some value ∧ value.kind = .float) :
    (step rate inputs device outputs).failure = some (.inputKind port.name .float .sample) := by
  have complains := floatInput_of_sample named held sample
  have reads : ∀ lower < connector, ∃ x, floatInput (panel device) inputs lower = .ok x := by
    intro lower below
    obtain ⟨value, held, float⟩ := floats lower below
    exact floatInput_of_float held float
  have inside := (List.getElem?_eq_some_iff.mp named).1
  cases device with
  | constant value => cases inside
  | oscillator phase =>
    obtain rfl | rfl | rfl : connector = 0 ∨ connector = 1 ∨ connector = 2 := by
      simp only [panel, oscillatorPanel, List.length_cons, List.length_nil] at inside
      omega
    · simp only [panel] at complains
      simp only [step, oscillate, positive, if_false, complains, bind, Except.bind]
    · obtain ⟨frequency, first⟩ := reads 0 (by decide)
      simp only [panel] at complains first
      simp only [step, oscillate, positive, if_false, complains, first, bind, Except.bind]
    · obtain ⟨frequency, first⟩ := reads 0 (by decide)
      obtain ⟨gain, second⟩ := reads 1 (by decide)
      simp only [panel] at complains first second
      simp only [step, oscillate, positive, if_false, complains, first, second, bind, Except.bind]
  | converter =>
    obtain rfl : connector = 0 := by
      simp only [panel, converterPanel, List.length_cons, List.length_nil] at inside
      omega
    simp only [panel] at complains
    simp only [step, complains]

theorem outputKind_step (rate : UInt32) (inputs : List Value) (device : Builtin)
    (outputs : List Value) : (step rate inputs device outputs).device.outputKind =
      device.outputKind := by
  cases device with
  | constant value => rfl
  | oscillator phase =>
    simp only [step]
    split <;> rfl
  | converter =>
    simp only [step]
    split <;> rfl

theorem kinds_outputs_step (rate : UInt32) (inputs : List Value) (device : Builtin)
    {outputs : List Value} (kinds : outputs.map (·.kind) = [device.outputKind]) :
    (step rate inputs device outputs).outputs.map (·.kind) = [device.outputKind] := by
  obtain ⟨value, rfl, kind⟩ := List.map_eq_singleton_iff.mp kinds
  cases device with
  | constant value => rfl
  | oscillator phase =>
    simp only [step]
    split
    next => rfl
    next => exact kinds
  | converter =>
    simp only [step]
    split
    next => rfl
    next => exact kinds

end Builtin

/-! ### Devices in place -/

namespace Placed

/-- The ports hold what they should between passes, but for the kinds of the inputs. -/
structure Kinded (placed : Placed Builtin) : Prop where
  outputs : placed.outputs.map (·.kind) = [placed.device.outputKind]
  length_inputs : placed.inputs.length = (Builtin.panel placed.device).inputs.length

theorem kinded_fresh (device : Builtin) : (fresh device : Placed Builtin).Kinded where
  outputs := (List.map_map ..).trans (Builtin.kinds_outputs device)
  length_inputs := Panel.length_initialValues _ _

/-- Whatever becomes of a device where it is, its output keeps its kind. -/
theorem Ages.outputKind_eq {before after : Placed Builtin} (ages : before.Ages after) :
    after.device.outputKind = before.device.outputKind := by
  induction ages with
  | refl => rfl
  | receive connector value _ ih => exact ih
  | step rate _ ih => exact (Builtin.outputKind_step _ _ _ _).trans ih
  | @reset now _ ih =>
    rw [← ih]
    unfold Placed.reset fresh
    cases now.device <;> rfl

theorem Kinded.of_ages {before after : Placed Builtin} (kinded : before.Kinded)
    (ages : before.Ages after) : after.Kinded := by
  induction ages with
  | refl => exact kinded
  | @receive now connector value _ ih =>
    exact ⟨ih.outputs, (List.length_modify _ _ _).trans ih.length_inputs⟩
  | @step now rate _ ih =>
    refine ⟨?_, ?_⟩
    · rw [show (now.step rate).1.device.outputKind = now.device.outputKind from
        Builtin.outputKind_step _ _ _ _]
      exact Builtin.kinds_outputs_step rate now.inputs now.device ih.outputs
    · have same : Builtin.panel (now.step rate).1.device = Builtin.panel now.device :=
        Device.panel_step rate now.inputs now.device now.outputs
      rw [same]
      exact ih.length_inputs
  | reset _ _ => exact kinded_fresh _

end Placed

namespace Patch

/-- The device in a slot makes samples. -/
def Converts (p : Patch Builtin) (slot : Nat) : Prop :=
  ∃ placed, p.devices.at? slot = some placed ∧ placed.device.outputKind = .sample

/-- A cable leads to this input from a device that makes samples. -/
def Tainted (p : Patch Builtin) (jack : Jack) : Prop :=
  ∃ source, (source, jack) ∈ p.joins ∧ p.Converts source.slot

/-- Outputs hold values of their own kind, inputs hold floats unless they are tainted, and a step
has a rate to go by. -/
structure Kinded (p : Patch Builtin) : Prop where
  rate_ne_zero : p.rate ≠ 0
  fed : p.Fed
  endpoints : ∀ cable ∈ p.cables.values,
    p.HasPort .output cable.source ∧ p.HasPort .input cable.destination
  devices : ∀ slot placed, p.devices.at? slot = some placed → placed.Kinded
  inputs : ∀ jack value, p.valueAt? .input jack = some value →
    value.kind = .float ∨ p.Tainted jack ∧ value.kind = .sample

section Kinded

variable {p q : Patch Builtin}

theorem Aged.converts_iff (aged : p.Aged q) (slot : Nat) : q.Converts slot ↔ p.Converts slot := by
  unfold Converts
  rcases rel_cases (aged.devices.at? slot) with ⟨before, after⟩ | ⟨a, b, before, after, ages⟩
  · rw [before, after]
  · rw [before, after]
    simp only [Option.some.injEq, exists_eq_left', ages.outputKind_eq]

theorem Aged.tainted_iff (aged : p.Aged q) (jack : Jack) : q.Tainted jack ↔ p.Tainted jack := by
  unfold Tainted
  rw [joins_of_matches aged.devices aged.cables_eq]
  simp only [aged.converts_iff]

theorem Kinded.of_aged (kinded : p.Kinded) (aged : p.Aged q) (rate : q.rate = p.rate)
    (inputs : ∀ jack value, q.valueAt? .input jack = some value →
      value.kind = .float ∨ p.Tainted jack ∧ value.kind = .sample) : q.Kinded where
  rate_ne_zero := by
    rw [rate]
    exact kinded.rate_ne_zero
  fed := kinded.fed.of_eq aged.cables_eq aged.feeds_eq
  endpoints := by
    rw [aged.cables_eq]
    intro cable member
    rw [aged.retains.hasPort_iff, aged.retains.hasPort_iff]
    exact kinded.endpoints cable member
  devices := by
    intro slot placed held
    obtain ⟨earlier, before, ages⟩ := exists_left_of_rel (aged.devices.at? slot) held
    exact (kinded.devices slot earlier before).of_ages ages
  inputs := by
    intro jack value held
    rw [aged.tainted_iff]
    exact inputs jack value held

/-! ### One pass -/

/-- The output that a cable leaves holds a value of the kind of its device. -/
theorem Kinded.sends (kinded : p.Kinded) {source destination : Jack}
    (joined : (source, destination) ∈ p.joins) :
    ∃ placed value, p.devices.at? source.slot = some placed ∧
      p.valueAt? .output source = some value ∧ value.kind = placed.device.outputKind := by
  obtain ⟨cable, member, begins, -⟩ := mem_joins_iff.mp joined
  obtain ⟨⟨placed, found, below⟩, -⟩ := kinded.endpoints cable member
  obtain ⟨-, rfl⟩ := jack?_eq_some_iff.mp begins
  have held := Slots.at?_of_get? found
  have kinds := (kinded.devices _ placed held).outputs
  obtain ⟨value, outputs, kind⟩ := List.map_eq_singleton_iff.mp kinds
  have single := congrArg List.length (Builtin.kinds_outputs placed.device)
  rw [List.length_map, List.length_singleton] at single
  have only : cable.source.connector = 0 := by
    change cable.source.connector < (Builtin.panel placed.device).outputs.length at below
    omega
  refine ⟨placed, value, held, ?_, kind⟩
  unfold valueAt?
  rw [held, only]
  simp only [Option.bind_some, Placed.values, outputs, List.getElem?_cons_zero]

/-- Once values have been carried, the input that a cable leads to holds a value of the kind of the
device that it comes from. -/
theorem Kinded.arrives (kinded : p.Kinded) {source destination : Jack} {value : Value}
    (joined : (source, destination) ∈ p.joins)
    (held : p.propagate.valueAt? .input destination = some value) :
    ∃ placed, p.devices.at? source.slot = some placed ∧ value.kind = placed.device.outputKind := by
  obtain ⟨placed, sent, home, out, kind⟩ := kinded.sends joined
  have travels : sent.kind ≠ .text := kind ▸ placed.device.outputKind_ne_text
  rw [kinded.fed.valueAt?_propagate_of_arrival joined out travels,
    Option.map_eq_some_iff] at held
  obtain ⟨old, -, rfl⟩ := held
  exact ⟨placed, home, kind⟩

/-- Exactly the tainted inputs then hold samples, the others floats. -/
theorem Kinded.heard (kinded : p.Kinded) {jack : Jack} {value : Value}
    (held : p.propagate.valueAt? .input jack = some value) :
    (p.Tainted jack → value.kind = .sample) ∧ (¬ p.Tainted jack → value.kind = .float) := by
  constructor
  · intro tainted
    obtain ⟨source, joined, converter, home, sample⟩ := tainted
    obtain ⟨placed, home', kind⟩ := kinded.arrives joined held
    rw [home] at home'
    cases home'
    rw [kind, sample]
  · intro clean
    by_cases fed : ∃ source, (source, jack) ∈ p.joins
    · obtain ⟨source, joined⟩ := fed
      obtain ⟨placed, home, kind⟩ := kinded.arrives joined held
      rw [kind]
      apply Builtin.outputKind_eq_float
      intro sample
      exact clean ⟨source, joined, placed, home, sample⟩
    · have silence : ∀ source, (source, jack) ∈ p.joins → ∀ value,
          p.valueAt? .output source = some value → value.kind = .text := fun source joined =>
        absurd ⟨source, joined⟩ fed
      rw [valueAt?_propagate_of_silence silence] at held
      rcases kinded.inputs jack value held with float | ⟨tainted, -⟩
      · exact float
      · exact absurd tainted clean

theorem Kinded.propagate (kinded : p.Kinded) : p.propagate.Kinded := by
  refine kinded.of_aged (aged_propagate p) rfl ?_
  intro jack value held
  obtain ⟨sample, float⟩ := kinded.heard held
  by_cases tainted : p.Tainted jack
  · exact Or.inr ⟨tainted, sample tainted⟩
  · exact Or.inl (float tainted)

/-- Stepping changes outputs only, and those not in kind. -/
theorem Kinded.stepAll (kinded : p.Kinded) : p.stepAll.2.Kinded := by
  refine kinded.of_aged (aged_stepAll p) ?_ ?_
  · rw [snd_stepAll]
  · intro jack value held
    apply kinded.inputs jack value
    rw [← held]
    unfold valueAt?
    rcases rel_cases ((matches_inputs_stepAll p).at? jack.slot) with
      ⟨left, right⟩ | ⟨a, b, left, right, same⟩
    · rw [left, right]
    · rw [left, right]
      simp only [Option.bind_some, Placed.values, same]

/-- Succeed or fail, a pass keeps the kinds. -/
theorem Kinded.pass (kinded : p.Kinded) : p.pass.2.Kinded :=
  kinded.propagate.stepAll

theorem Kinded.frames (kinded : p.Kinded) (count : Nat) : (p.frames count).2.2.Kinded := by
  induction count generalizing p with
  | zero => exact kinded
  | succ count ih =>
    cases outcome : p.pass.1 with
    | error failure =>
      rw [frames_of_error outcome]
      exact kinded.pass
    | ok done =>
      rw [frames_of_ok outcome]
      exact ih kinded.pass

/-- Once values have been carried, a device reads samples from its tainted inputs and floats from
the others. -/
theorem Kinded.reads (kinded : p.Kinded) {slot : Nat} {placed : Placed Builtin}
    (held : p.propagate.devices.at? slot = some placed) {connector : Nat}
    (below : connector < (Builtin.panel placed.device).inputs.length) :
    ∃ value, placed.inputs[connector]? = some value ∧
      (p.Tainted ⟨slot, connector⟩ → value.kind = .sample) ∧
      (¬ p.Tainted ⟨slot, connector⟩ → value.kind = .float) := by
  rw [← (kinded.propagate.devices slot placed held).length_inputs] at below
  refine ⟨_, List.getElem?_eq_getElem below, ?_⟩
  apply kinded.heard
  unfold valueAt?
  rw [held]
  exact List.getElem?_eq_getElem below

theorem Kinded.floats_of_clean (kinded : p.Kinded) {slot : Nat} {placed : Placed Builtin}
    (held : p.propagate.devices.at? slot = some placed) {connector : Nat}
    (below : connector < (Builtin.panel placed.device).inputs.length)
    (clean : ¬ p.Tainted ⟨slot, connector⟩) :
    ∃ value, placed.inputs[connector]? = some value ∧ value.kind = .float := by
  obtain ⟨value, holds, -, float⟩ := kinded.reads held below
  exact ⟨value, holds, float clean⟩

theorem Kinded.step_of_clean (kinded : p.Kinded) {slot : Nat} {placed : Placed Builtin}
    (held : p.propagate.devices.at? slot = some placed)
    (clean : ∀ connector, ¬ p.Tainted ⟨slot, connector⟩) :
    (placed.step p.propagate.rate).2 = none :=
  Builtin.step_of_floats placed.outputs kinded.rate_ne_zero fun _ below =>
    kinded.floats_of_clean held below (clean _)

theorem Kinded.pass_of_clean (kinded : p.Kinded) (clean : ∀ jack, ¬ p.Tainted jack) :
    p.pass.1 = .ok () :=
  (stepAll_of_quiet fun _ _ held => kinded.step_of_clean held fun _ => clean _).1

/-- The first tainted input of the lowest slot that has one. -/
structure FirstTainted (p : Patch Builtin) (jack : Jack) : Prop where
  tainted : p.Tainted jack
  least : ∀ other, p.Tainted other →
    jack.slot < other.slot ∨ jack.slot = other.slot ∧ jack.connector ≤ other.connector

/-- A pass fails at the first tainted input, which is found to hold a sample. -/
theorem Kinded.pass_of_tainted (kinded : p.Kinded) {first : PortAddress} {jack : Jack}
    (addressed : p.jack? first = some jack) (firstTainted : p.FirstTainted jack)
    {placed : Placed Builtin} (found : p.devices.get? first.device = some placed) {port : Port}
    (named : (Builtin.panel placed.device).inputs[first.connector]? = some port) :
    p.pass.1 = .error (.deviceFailed first.device (.inputKind port.name .float .sample)) := by
  obtain ⟨-, rfl⟩ := jack?_eq_some_iff.mp addressed
  obtain ⟨now, there, continues⟩ := (aged_propagate p).retains.devices.exists_of_get? found
  have held := Slots.at?_of_get? there
  have clean : ∀ other : Jack, other.slot < first.device.slot.toNat ∨
      other.slot = first.device.slot.toNat ∧ other.connector < first.connector →
      ¬ p.Tainted other := by
    intro other before tainted
    have least := firstTainted.least other tainted
    dsimp only at least
    omega
  have named' : (Builtin.panel now.device).inputs[first.connector]? = some port :=
    (congrArg (·.inputs[first.connector]?) continues.1).trans named
  have inside := (List.getElem?_eq_some_iff.mp named').1
  obtain ⟨value, holds, sample, -⟩ := kinded.reads held inside
  have failed : (now.step p.propagate.rate).2 = some (.inputKind port.name .float .sample) :=
    Builtin.step_of_sample now.outputs kinded.rate_ne_zero named' holds
      (sample firstTainted.tainted) fun lower below =>
        kinded.floats_of_clean held (below.trans inside) (clean ⟨_, lower⟩ (Or.inr ⟨rfl, below⟩))
  have quiet : ∀ lower < first.device.slot.toNat, ∀ other,
      p.propagate.devices.at? lower = some other → (other.step p.propagate.rate).2 = none :=
    fun lower below other held =>
      kinded.step_of_clean held fun connector => clean ⟨lower, connector⟩ (Or.inl below)
  have outcome := stepAll_of_first (Slots.get?_eq_some_iff.mp there) failed quiet
  have key : Slots.keyAt first.device.slot.toNat first.device.generation = first.device := by
    simp [Slots.keyAt]
  rw [key] at outcome
  exact outcome

end Kinded

end Patch

/-! ### Playing -/

/-- The operation does nothing but make passes: it is one, or it reads whole frames. -/
def Operation.Plays {D : Type} : Operation D → Prop
  | .pass => True
  | .readFrames buffer => buffer.length % frameBytes = 0
  | _ => False

/-- The error that an operation answers. -/
def Answer.error? : Answer → Option PatchError
  | .failed error => some error
  | .read (.error error) _ => some error
  | _ => none

namespace Patch

section Playing

variable {p : Patch Builtin}

theorem Kinded.frames_of_clean (kinded : p.Kinded) (clean : ∀ jack, ¬ p.Tainted jack)
    (count : Nat) : (p.frames count).2.1 = .ok () := by
  induction count generalizing p with
  | zero => rfl
  | succ count ih =>
    rw [frames_of_ok (kinded.pass_of_clean clean)]
    exact ih kinded.pass fun jack => mt ((aged_pass p).tainted_iff jack).mp (clean jack)

/-- Passes and reads keep the kinds, the tainted inputs and whose they are. -/
theorem Kinded.perform (kinded : p.Kinded) {operation : Operation Builtin}
    (plays : operation.Plays) :
    (p.perform operation).2.Kinded ∧ p.Aged (p.perform operation).2 := by
  cases operation with
  | pass =>
    have after : (p.perform .pass).2 = p.pass.2 := by
      simp only [Patch.perform]
      split
      next q passed => rw [passed]
      next error q failed => rw [failed]
    rw [after]
    exact ⟨kinded.pass, aged_pass p⟩
  | readFrames buffer =>
    refine ⟨?_, aged_readFrames p buffer⟩
    change (p.readFrames buffer).patch.Kinded
    unfold readFrames
    split
    next => exact kinded
    next => exact kinded.frames _
  | _ => cases plays

theorem Kinded.perform_of_clean (kinded : p.Kinded) (clean : ∀ jack, ¬ p.Tainted jack)
    {operation : Operation Builtin} (plays : operation.Plays) :
    (p.perform operation).1.error? = none := by
  cases operation with
  | pass =>
    have passed := kinded.pass_of_clean clean
    simp only [Patch.perform]
    split
    next q finished => rfl
    next error q failed =>
      rw [failed] at passed
      cases passed
  | readFrames buffer =>
    have whole : ¬ buffer.length % frameBytes ≠ 0 := not_not.mpr plays
    change (Answer.read (p.readFrames buffer).outcome _).error? = none
    unfold readFrames
    rw [if_neg whole]
    dsimp only
    rw [kinded.frames_of_clean clean]
    rfl
  | _ => cases plays

theorem Kinded.run (kinded : p.Kinded) {operations : List (Operation Builtin)}
    (plays : ∀ operation ∈ operations, operation.Plays) :
    (p.run operations).2.Kinded ∧ p.Aged (p.run operations).2 := by
  induction operations generalizing p with
  | nil => exact ⟨kinded, Aged.refl p⟩
  | cons operation operations ih =>
    obtain ⟨head, rest⟩ := List.forall_mem_cons.mp plays
    obtain ⟨next, aged⟩ := kinded.perform head
    obtain ⟨last, later⟩ := ih next rest
    exact ⟨last, aged.trans later⟩

theorem Kinded.run_of_clean (kinded : p.Kinded) (clean : ∀ jack, ¬ p.Tainted jack)
    {operations : List (Operation Builtin)} (plays : ∀ operation ∈ operations, operation.Plays) :
    ∀ answer ∈ (p.run operations).1, answer.error? = none := by
  induction operations generalizing p with
  | nil =>
    intro answer member
    cases member
  | cons operation operations ih =>
    obtain ⟨head, rest⟩ := List.forall_mem_cons.mp plays
    obtain ⟨next, aged⟩ := kinded.perform head
    have still : ∀ jack, ¬ (p.perform operation).2.Tainted jack := fun jack =>
      mt (aged.tainted_iff jack).mp (clean jack)
    exact List.forall_mem_cons.mpr ⟨kinded.perform_of_clean clean head, ih next still rest⟩

end Playing

end Patch

end ModularSynth
