import ModularSynth.Proofs.Patch.Propagation
import ModularSynth.Proofs.Patch.Wiring

/-!
# A pass is a synchronous update

In every reachable patch a pass carries all values over the cables at once and then steps every
device from what arrived (`synchronous_of_reachable`), although it visits cables and devices one by
one. What makes the visits independent is that no two cables end at one input (`Patch.Fed`). Unlike
`Patch.Wired` this invariant needs no bound on the number of cables: it is about slots, not keys.
-/

namespace ModularSynth

variable {D : Type}

namespace Patch

/-- The end of every cable has an entry in the index, and no two cables have one end. -/
structure Fed (p : Patch D) : Prop where
  taken : ∀ (index : Nat) generation cable,
    p.cables.slots[index]? = some ⟨generation, some cable⟩ →
      (p.inputCable? cable.destination).isSome
  apart : ∀ (index other : Nat) generation generation' cable cable',
    p.cables.slots[index]? = some ⟨generation, some cable⟩ →
      p.cables.slots[other]? = some ⟨generation', some cable'⟩ →
        cable.destination = cable'.destination → index = other

theorem fed_ofSettings (settings : Settings) : (ofSettings settings : Patch D).Fed where
  taken := by
    intro index generation cable found
    simp [ofSettings, Slots.empty] at found
  apart := by
    intro index other generation generation' cable cable' found
    simp [ofSettings, Slots.empty] at found

theorem Fed.removeCable {p : Patch D} (fed : p.Fed) (id : CableId) : (p.removeCable id).Fed := by
  cases removed : p.cable? id with
  | none =>
    rw [removeCable_of_none removed]
    exact fed
  | some cable =>
    have home := Slots.get?_eq_some_iff.mp removed
    have stays : ∀ (index : Nat) generation other,
        (p.removeCable id).cables.slots[index]? = some ⟨generation, some other⟩ →
          id.slot.toNat ≠ index ∧ p.cables.slots[index]? = some ⟨generation, some other⟩ := by
      intro index generation other found
      rw [cables_removeCable, Slots.getElem?_remove] at found
      split at found
      next => simp at found
      next differs =>
        refine ⟨?_, found⟩
        intro same
        apply differs
        refine ⟨same, ?_⟩
        unfold cable? at removed
        rw [removed, Option.isSome_some]
    constructor
    · intro index generation other found
      obtain ⟨elsewhere, before⟩ := stays index generation other found
      have different : other.destination ≠ cable.destination := by
        intro ends
        exact elsewhere (fed.apart _ _ _ _ _ _ home before ends.symm)
      have entry := fed.taken index generation other before
      rw [removeCable_of_some removed]
      unfold inputCable? at entry ⊢
      rw [PortIndex.get?_erase, if_neg different]
      exact entry
    · intro index other generation generation' cable cable' found found'
      exact fed.apart _ _ _ _ _ _ (stays _ _ _ found).2 (stays _ _ _ found').2

theorem Fed.foldl_removeCable {p : Patch D} (fed : p.Fed) (ids : List CableId) :
    (ids.foldl Patch.removeCable p).Fed := by
  induction ids generalizing p with
  | nil => exact fed
  | cons id ids ih => exact ih (fed.removeCable id)

theorem Fed.withCable {p : Patch D} (fed : p.Fed) {source destination : PortAddress}
    (vacant : p.inputCable? destination = none) : (p.withCable source destination).Fed := by
  obtain ⟨position, occupied⟩ := p.cables.occupied_of_insert ⟨source, destination⟩
  have unfed : ∀ (index : Nat) generation cable,
      p.cables.slots[index]? = some ⟨generation, some cable⟩ →
        cable.destination ≠ destination := by
    intro index generation cable found ends
    have entry := fed.taken index generation cable found
    rw [ends, vacant] at entry
    cases entry
  constructor
  · intro index generation cable found
    rw [inputCable?_withCable]
    split
    · rfl
    next different =>
      rcases occupied index generation cable found with ⟨-, rfl⟩ | before
      · exact absurd rfl different
      · exact fed.taken index generation cable before
  · intro index other generation generation' cable cable' found found' ends
    rcases occupied _ _ _ found with ⟨here, rfl⟩ | before
    · rcases occupied _ _ _ found' with ⟨there, -⟩ | before'
      · rw [here, there]
      · exact absurd ends.symm (unfed _ _ _ before')
    · rcases occupied _ _ _ found' with ⟨-, rfl⟩ | before'
      · exact absurd ends (unfed _ _ _ before)
      · exact fed.apart _ _ _ _ _ _ before before' ends

/-- `Fed` is about cables and the index of inputs alone. -/
theorem Fed.of_eq {p q : Patch D} (fed : p.Fed) (cables : q.cables = p.cables)
    (feeds : q.feeds = p.feeds) : q.Fed := by
  constructor
  · intro index generation cable found
    rw [cables] at found
    unfold inputCable?
    rw [feeds]
    exact fed.taken index generation cable found
  · rw [cables]
    exact fed.apart

/-- The ends of all cables are different. -/
theorem Fed.nodup_destinations {p : Patch D} (fed : p.Fed) :
    (p.cables.values.map (·.destination)).Nodup := by
  rw [Slots.values_eq, List.Nodup, List.pairwise_map, List.pairwise_filterMap,
    List.pairwise_iff_getElem]
  intro index other inside inside' before cable occupant cable' occupant' ends
  have found : p.cables.slots[index]? =
      some ⟨p.cables.slots[index].generation, some cable⟩ := by
    rw [List.getElem?_eq_getElem inside, ← occupant]
  have found' : p.cables.slots[other]? =
      some ⟨p.cables.slots[other].generation, some cable'⟩ := by
    rw [List.getElem?_eq_getElem inside', ← occupant']
  have same := fed.apart _ _ _ _ _ _ found found' ends
  omega

variable [Device D]

theorem Fed.effect {p after : Patch D} {operation : Operation D} {answer : Answer} (fed : p.Fed)
    (effect : p.Effect operation answer after) : after.Fed := by
  cases effect with
  | refused operation error => exact fed
  | aged _ _ _ keeps quiet same => exact fed.of_eq same.cables_eq same.feeds_eq
  | added device => exact fed.of_eq rfl rfl
  | deleted id placed found =>
    exact (fed.foldl_removeCable (p.incidentCables id placed)).of_eq rfl rfl
  | connected operation source destination begins ends vacant => exact fed.withCable vacant
  | unplugged id cable found => exact fed.removeCable id
  | chosen operation keeps output port => exact fed.of_eq rfl rfl

theorem fed_of_reachable {p : Patch D} (reachable : p.Reachable) : p.Fed := by
  obtain ⟨settings, operations, rfl⟩ := reachable
  refine run_induction (fun _ => True) (fun _ p => p.Fed) ?_ operations [] _
    (fed_ofSettings settings) fun _ _ => trivial
  intro answers p operation fed _
  exact fed.effect (effect_perform p operation)

/-! ### Stepping -/

/-- A device after one step from what its ports hold, under its key. -/
def stepped (p : Patch D) (entry : DeviceId × Placed D) : DeviceId × Placed D :=
  (entry.1, (entry.2.step p.rate).1)

/-- Why the step of a device fails, if it does. -/
def failure? (p : Patch D) (entry : DeviceId × Placed D) : Option DeviceError :=
  (entry.2.step p.rate).2

theorem stepAll_of_no_failure {p : Patch D}
    (fine : ∀ entry ∈ p.devices.entries, p.failure? entry = none) :
    p.stepAll.1 = .ok () ∧ p.stepAll.2.devices.entries = p.devices.entries.map p.stepped := by
  have unfailing : ∀ entry ∈ p.devices.entries, (p.stepping entry.1 entry.2).2 = none := by
    intro entry member
    have quiet := fine entry member
    unfold failure? at quiet
    unfold stepping
    rw [quiet]
    rfl
  have every := Slots.updateUntilFrom_of_no_failure p.stepping p.devices.slots 0 unfailing
  rw [fst_stepAll, snd_stepAll]
  unfold Slots.updateUntil
  dsimp only
  rw [every.1]
  exact ⟨rfl, every.2⟩

theorem stepAll_of_failure {p : Patch D} {lower higher : List (DeviceId × Placed D)}
    {entry : DeviceId × Placed D} {failure : DeviceError}
    (listed : p.devices.entries = lower ++ entry :: higher)
    (fine : ∀ earlier ∈ lower, p.failure? earlier = none) (failed : p.failure? entry = some failure) :
    p.stepAll.1 = .error (.deviceFailed entry.1 failure) ∧
      p.stepAll.2.devices.entries = lower.map p.stepped ++ p.stepped entry :: higher := by
  have unfailing : ∀ earlier ∈ lower, (p.stepping earlier.1 earlier.2).2 = none := by
    intro earlier member
    have quiet := fine earlier member
    unfold failure? at quiet
    unfold stepping
    rw [quiet]
    rfl
  have fails : (p.stepping entry.1 entry.2).2 = some (.deviceFailed entry.1 failure) := by
    unfold failure? at failed
    unfold stepping
    rw [failed]
    rfl
  have first := Slots.updateUntilFrom_of_failure p.stepping p.devices.slots 0 listed unfailing fails
  rw [fst_stepAll, snd_stepAll]
  unfold Slots.updateUntil
  dsimp only
  rw [first.1]
  exact ⟨rfl, first.2⟩

/-- Stepping writes no input. -/
theorem matches_inputs_stepAll (p : Patch D) :
    p.devices.Matches (fun before after => after.inputs = before.inputs) p.stepAll.2.devices := by
  rw [snd_stepAll]
  apply Slots.matches_updateUntil
  · intro placed
    rfl
  · intro id placed
    rfl

theorem inputValue?_stepAll (p : Patch D) (input : PortAddress) :
    p.stepAll.2.inputValue? input = p.inputValue? input := by
  unfold inputValue? portValue?
  rcases rel_cases ((matches_inputs_stepAll p).get? input.device) with
    ⟨left, right⟩ | ⟨a, b, left, right, same⟩
  · rw [left, right]
  · rw [left, right, Option.bind_some, Option.bind_some]
    simp only [Placed.values, same]

/-! ### The whole pass -/

/-- A pass carries all values over the cables at once and then steps the devices from what arrived,
in the order of their slots and up to the first failure. -/
structure Synchronous (p : Patch D) : Prop where
  /-- Cables may be visited in any order. -/
  any_order : ∀ order : List Cable, order.Perm p.cables.values →
    order.foldl carry p.devices = p.propagate.devices
  /-- An input takes over what the output at the other end of its cable held before the pass, -/
  arrival : ∀ cable ∈ p.cables.values, ∀ value, p.outputValue? cable.source = some value →
    value.kind ≠ .text → (p.inputValue? cable.destination).isSome →
      p.propagate.inputValue? cable.destination = some value
  /-- and keeps its value if there is no cable, or only a text at its other end. -/
  silence : ∀ input, (∀ cable ∈ p.cables.values, cable.destination = input →
    ∀ value, p.outputValue? cable.source = some value → value.kind = .text) →
      p.propagate.inputValue? input = p.inputValue? input
  /-- Carrying changes no device and no output. -/
  carried_only : p.propagate.devices.entries.map (fun (id, placed) =>
      (id, placed.device, placed.outputs)) =
    p.devices.entries.map fun (id, placed) => (id, placed.device, placed.outputs)
  /-- The listed ports are those that cables address, unless slot numbers have run out. -/
  addressed : p.devices.Fits → ∀ entry ∈ p.propagate.devices.entries, ∀ connector,
    p.propagate.inputValue? ⟨entry.1, connector⟩ = entry.2.inputs[connector]?
  /-- If no step fails, every device has stepped once from what its own ports then held. -/
  completed : (∀ entry ∈ p.propagate.devices.entries, p.failure? entry = none) →
    p.pass.1 = .ok () ∧ p.pass.2.devices.entries = p.propagate.devices.entries.map p.stepped
  /-- Otherwise the first device whose step fails is named, with its error. Those in lower slots
  have stepped, it keeps what its step wrote, and those in higher slots have only heard. -/
  aborted : ∀ lower entry higher failure,
    p.propagate.devices.entries = lower ++ entry :: higher →
      (∀ earlier ∈ lower, p.failure? earlier = none) → p.failure? entry = some failure →
        p.pass.1 = .error (.deviceFailed entry.1 failure) ∧
          p.pass.2.devices.entries = lower.map p.stepped ++ p.stepped entry :: higher
  /-- Stepping writes no input, -/
  heard : ∀ input, p.pass.2.inputValue? input = p.propagate.inputValue? input
  /-- and nothing but the devices changes. -/
  rest : p.pass.2 = { p with devices := p.pass.2.devices }

theorem Fed.synchronous {p : Patch D} (fed : p.Fed) : p.Synchronous where
  any_order := by
    intro order permuted
    exact foldl_carry_of_perm fed.nodup_destinations permuted p.devices
  arrival := by
    intro cable member value held travels port
    exact inputValue?_propagate_of_arrival fed.nodup_destinations member held travels port
  silence := by
    intro input nothing
    exact inputValue?_propagate_of_silence nothing
  carried_only := entries_propagate p
  addressed := by
    intro fits entry member connector
    obtain ⟨id, placed⟩ := entry
    have fits' : p.propagate.devices.Fits :=
      (hears_foldl_carry p.cables.values p.devices).fits fits
    have found := (Slots.mem_entries_iff_get? fits').mp member
    unfold inputValue? portValue?
    rw [found]
    rfl
  completed := stepAll_of_no_failure
  aborted := by
    intro lower entry higher failure listed fine failed
    exact stepAll_of_failure listed fine failed
  heard := inputValue?_stepAll p.propagate
  rest := by
    unfold pass
    rw [snd_stepAll]
    rfl

/-- In every patch that operations make out of an empty one, whatever its cables, a pass is a
synchronous update. -/
theorem synchronous_of_reachable (p : Patch D) (reachable : p.Reachable) : p.Synchronous :=
  (fed_of_reachable reachable).synchronous

/-- The second of three devices fails after it has written its output. The first feeds itself and
the other two, the last feeds the second input of the second. -/
def faltering : List (Operation Scripted) :=
  let counter : Scripted :=
    { panel := ⟨[.ofKind "in" .integer], [.ofKind "out" .integer]⟩, script := [[.add 0 0 1]] }
  let broken : Scripted :=
    { panel := ⟨[.ofKind "in" .integer, .ofKind "back" .integer], [.ofKind "out" .integer]⟩
      script := [[.add 0 0 10, .fail "broken"]] }
  [.addDevice counter, .addDevice broken, .addDevice counter,
    .plug ⟨0, 1⟩ "out" ⟨0, 1⟩ "in", .plug ⟨0, 1⟩ "out" ⟨1, 1⟩ "in",
    .plug ⟨0, 1⟩ "out" ⟨2, 1⟩ "in", .plug ⟨2, 1⟩ "out" ⟨1, 1⟩ "back", .pass]

theorem faltering_synchronous :
    ((ofSettings {}).run faltering).2.Reachable ∧ ((ofSettings {}).run faltering).2.Synchronous :=
  have reachable : ((ofSettings {}).run faltering).2.Reachable := ⟨{}, faltering, rfl⟩
  ⟨reachable, synchronous_of_reachable _ reachable⟩

/-- The next pass names the second device. The first has stepped and the second has written, each
from what arrived; the third has only heard. -/
example :
    let (answer, after) := ((ofSettings {}).run faltering).2.pass
    answer = .error (.deviceFailed ⟨1, 1⟩ (.failed "broken")) ∧
      after.devices.entries.map (fun (id, placed) => (id.slot, placed.inputs, placed.outputs)) =
        [(0, [.integer 1], [.integer 2]), (1, [.integer 1, .integer 0], [.integer 11]),
          (2, [.integer 1], [.integer 0])] := by
  decide

end Patch

end ModularSynth
