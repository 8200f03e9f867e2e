import Mathlib.Data.List.Nodup
import ModularSynth.Proofs.Patch.Refusal

/-!
# What a deletion takes with it

Deleting a device unplugs the cables that the two indices list for its ports. `Patch.Anchored` says
that these are all the cables that touch it; like `Patch.Checkable` it needs no bound on the number
of devices. A cable from the device to itself is listed at its input and again at its output, where
nothing is left to remove, so the slots are freed in the order of `Patch.unplugged`, each once, and
are filled again in that order (`cascade_of_run`).
-/

namespace ModularSynth

variable {D : Type}

theorem connections_cons (answer : Answer) (answers : List Answer) :
    connections (answer :: answers) = answer.cable?.toList ++ connections answers := by
  unfold connections
  rw [List.filterMap_cons]
  cases answer.cable? with
  | none => rfl
  | some id => rfl

namespace Patch

/-- The cables that go with a device, in the order in which their slots are freed: those at its
inputs by connector, then those at its outputs by connector and, at one output, in the order in
which they were connected. A cable from the device to itself counts at its input. -/
def unplugged (p : Patch D) (connected : List CableId) (id : DeviceId) (panel : Panel) :
    List CableId :=
  ((List.range panel.inputs.length).flatMap fun connector =>
    connected.dedup.filter fun cable =>
      (p.cable? cable).any fun ends => ends.destination = ⟨id, connector⟩) ++
  (List.range panel.outputs.length).flatMap fun connector =>
    connected.dedup.filter fun cable =>
      (p.cable? cable).any fun ends =>
        ends.source = ⟨id, connector⟩ ∧ ends.destination.device ≠ id

/-! ### Freeing and filling slots -/

/-- Cables that are there free their slots one after the other. -/
theorem free_foldl_removeCable {p : Patch D} {ids : List CableId} (once : ids.Nodup)
    (live : ∀ id ∈ ids, ∃ cable, p.cable? id = some cable) :
    (ids.foldl removeCable p).cables.free = p.cables.free ++ ids.map (·.slot) := by
  induction ids generalizing p with
  | nil => simp
  | cons id ids ih =>
    obtain ⟨absent, once⟩ := List.nodup_cons.mp once
    obtain ⟨cable, found⟩ := live id List.mem_cons_self
    have others : ∀ other ∈ ids, ∃ cable, (p.removeCable id).cable? other = some cable := by
      intro other member
      have apart : other ≠ id := fun same => absent (same ▸ member)
      rw [cable?_removeCable, if_neg apart]
      exact live other (List.mem_cons_of_mem _ member)
    rw [List.foldl_cons, ih once others, cables_removeCable, Slots.remove_of_some found]
    simp

/-- Whatever is removed, the slots that were vacant before stay in front. -/
theorem exists_free_foldl_removeCable (p : Patch D) (ids : List CableId) :
    ∃ more, (ids.foldl removeCable p).cables.free = p.cables.free ++ more := by
  induction ids generalizing p with
  | nil => exact ⟨[], by simp⟩
  | cons id ids ih =>
    obtain ⟨more, later⟩ := ih (p.removeCable id)
    rw [List.foldl_cons, later]
    cases found : p.cable? id with
    | none =>
      rw [removeCable_of_none found]
      exact ⟨more, rfl⟩
    | some cable =>
      rw [cables_removeCable, Slots.remove_of_some found]
      exact ⟨id.slot :: more, by simp⟩

section Reuse

variable [Device D] {p after : Patch D} {operation : Operation D} {answer : Answer}

/-- An operation that connects a cable takes the first of the vacant slots, if there is one, and any
other leaves those that are vacant in front. -/
theorem Effect.free (effect : p.Effect operation answer after) :
    (answer.cable? = none ∧ ∃ more, after.cables.free = p.cables.free ++ more) ∨
      ∃ id, answer.cable? = some id ∧
        (p.cables.free = [] ∨ p.cables.free = id.slot :: after.cables.free) := by
  cases effect with
  | aged _ _ _ keeps quiet same => exact Or.inl ⟨quiet.2, [], by rw [same.cables_eq]; simp⟩
  | deleted id placed found => exact Or.inl ⟨rfl, exists_free_foldl_removeCable p _⟩
  | unplugged id cable found => exact Or.inl ⟨rfl, exists_free_foldl_removeCable p [id]⟩
  | connected operation source destination begins ends vacant =>
    refine Or.inr ⟨_, rfl, ?_⟩
    unfold withCable Slots.insert
    cases p.cables.free with
    | nil => exact Or.inl rfl
    | cons slot free => exact Or.inr rfl
  | _ => exact Or.inl ⟨rfl, [], (List.append_nil p.cables.free).symm⟩

/-- Of the slots that are vacant now, those connected later take the first, in order. -/
theorem take_slots_of_run (later : List (Operation D)) (p : Patch D) {waiting more : List UInt32}
    (free : p.cables.free = waiting ++ more) :
    ((connections (p.run later).1).map (·.slot)).take waiting.length =
      waiting.take (connections (p.run later).1).length := by
  induction later generalizing p waiting more with
  | nil => simp [run, connections]
  | cons operation later ih =>
    simp only [run, connections_cons]
    rcases (effect_perform p operation).free with
      ⟨quiet, added, grown⟩ | ⟨id, connected, taken⟩
    · rw [quiet, Option.toList_none, List.nil_append]
      rw [free, List.append_assoc] at grown
      exact ih _ grown
    · cases waiting with
      | nil => simp
      | cons slot waiting =>
        rcases taken with none_free | first
        · rw [free] at none_free
          cases none_free
        · rw [free, List.cons_append, List.cons.injEq] at first
          obtain ⟨rfl, rest⟩ := first
          rw [connected]
          simp [ih _ rest.symm]

end Reuse

/-! ### All cables of a device are found -/

/-- Cables and indices are in step, and the ends of cables are ports. Unlike `Wired` this needs no
bound on the number of devices. -/
structure Anchored [Device D] (p : Patch D) : Prop where
  checkable : p.Checkable
  devices_consistent : p.devices.Consistent
  indexed : p.Indexed
  endpoints : p.Endpoints

section Anchored

variable [Device D] {p after : Patch D}

theorem anchored_ofSettings (settings : Settings) : (ofSettings settings : Patch D).Anchored where
  checkable := checkable_ofSettings settings
  devices_consistent := Slots.consistent_empty
  indexed := (wired_ofSettings settings).indexed
  endpoints := (wired_ofSettings settings).endpoints

theorem Anchored.cablesWired (anchored : p.Anchored) : p.CablesWired :=
  ⟨anchored.checkable.consistent, anchored.indexed⟩

theorem Anchored.fitted (anchored : p.Anchored) {id : DeviceId} {placed : Placed D}
    (found : p.devices.get? id = some placed) : placed.Fitted :=
  anchored.checkable.fitted _ placed (Slots.at?_of_get? found)

theorem Anchored.effect {operation : Operation D} {answer : Answer} (anchored : p.Anchored)
    (effect : p.Effect operation answer after) (fits : after.cables.Fits) : after.Anchored := by
  refine
    { checkable := anchored.checkable.effect effect
      devices_consistent := effect.devices_consistent anchored.devices_consistent
      indexed := (anchored.cablesWired.effect effect fits).indexed
      endpoints := ?_ }
  have endpoints := anchored.endpoints
  cases effect with
  | aged _ _ _ keeps quiet same => exact endpoints.of_retains same.retains
  | added device => exact endpoints.addDevice anchored.devices_consistent device
  | deleted id placed found =>
    exact endpoints.withoutDevice anchored.indexed found (anchored.fitted found)
  | connected operation source destination begins ends vacant =>
    exact endpoints.withCable anchored.checkable.consistent fits
      (anchored.checkable.checkAddress_eq_ok_iff.mp begins)
      (anchored.checkable.checkAddress_eq_ok_iff.mp ends)
  | unplugged id cable found => exact endpoints.removeCable id
  | _ => exact endpoints

theorem anchored_of_run (settings : Settings) (operations : List (Operation D))
    (fits : ((ofSettings settings).run operations).2.cables.Fits) :
    ((ofSettings settings).run operations).2.Anchored ∧
      ((ofSettings settings).run operations).2.Chronological
        (connections ((ofSettings settings).run operations).1) := by
  refine run_induction_of_fits
    (fun answers p => p.Anchored ∧ p.Chronological (connections answers)) ?_ operations _
    ⟨anchored_ofSettings settings, fun output => rfl⟩ fits
  intro answers p operation holds fits
  obtain ⟨anchored, chronological⟩ := holds
  have effect := effect_perform p operation
  rw [connections_concat]
  exact ⟨anchored.effect effect fits,
    anchored.cablesWired.chronological effect fits chronological⟩

/-! ### The order in which they go -/

/-- Among the cables that were ever connected those that live are found. -/
theorem Anchored.mem_dedup (anchored : p.Anchored) {connected : List CableId}
    (chronological : p.Chronological connected) {id : CableId} {cable : Cable}
    (live : p.cable? id = some cable) : id ∈ connected.dedup := by
  have listed := (anchored.indexed.fanOut_iff cable.source id).mpr ⟨cable, live, rfl⟩
  rw [chronological cable.source] at listed
  exact (List.mem_filter.mp listed).1

/-- The cable at an input is the only live one that ends there. -/
theorem Anchored.filter_destination (anchored : p.Anchored) {connected : List CableId}
    (chronological : p.Chronological connected) (input : PortAddress) :
    (connected.dedup.filter fun id => (p.cable? id).any fun ends => ends.destination = input) =
      (p.inputCable? input).toList := by
  have ends_iff : ∀ id, ((p.cable? id).any fun ends => ends.destination = input) = true ↔
      p.inputCable? input = some id := by
    intro id
    rw [anchored.indexed.feeds_iff, Option.any_eq_true]
    simp only [decide_eq_true_eq]
  cases feeds : p.inputCable? input with
  | none =>
    rw [Option.toList_none, List.filter_eq_nil_iff]
    intro id _
    rw [ends_iff, feeds]
    simp
  | some id =>
    have only : ∀ other, ((p.cable? other).any fun ends => ends.destination = input) =
        (other == id) := by
      intro other
      rw [Bool.eq_iff_iff, ends_iff, feeds, Option.some.injEq, beq_iff_eq, eq_comm]
    obtain ⟨cable, live, -⟩ := (anchored.indexed.feeds_iff input id).mp feeds
    have member := anchored.mem_dedup chronological live
    simp only [only]
    rw [List.filter_beq, List.count_eq_one_of_mem connected.nodup_dedup member]
    rfl

/-- The cables that the index lists for the inputs of a device. -/
def arriving (p : Patch D) (id : DeviceId) (placed : Placed D) : List CableId :=
  (List.range placed.inputs.length).filterMap fun connector => p.inputCable? ⟨id, connector⟩

/-- The cables that the index lists for its outputs. -/
def leaving (p : Patch D) (id : DeviceId) (placed : Placed D) : List CableId :=
  (List.range placed.outputs.length).flatMap fun connector => p.outputCables ⟨id, connector⟩

omit [Device D] in
theorem incidentCables_eq (p : Patch D) (id : DeviceId) (placed : Placed D) :
    p.incidentCables id placed = p.arriving id placed ++ p.leaving id placed := rfl

section Found

variable (anchored : p.Anchored) {id : DeviceId} {placed : Placed D}
  (found : p.devices.get? id = some placed)
include anchored found

/-- The cables listed for the inputs are those that end at the device. -/
theorem Anchored.mem_arriving_iff {other : CableId} {cable : Cable}
    (live : p.cable? other = some cable) :
    other ∈ p.arriving id placed ↔ cable.destination.device = id := by
  unfold arriving
  rw [List.mem_filterMap]
  constructor
  · intro listed
    obtain ⟨connector, -, feeds⟩ := listed
    obtain ⟨cable', live', ends⟩ := (anchored.indexed.feeds_iff _ _).mp feeds
    cases live.symm.trans live'
    rw [ends]
  · rintro rfl
    obtain ⟨-, placed', found', below⟩ := anchored.endpoints other cable live
    cases found.symm.trans found'
    rw [← anchored.fitted found .input] at below
    exact ⟨cable.destination.connector, List.mem_range.mpr below,
      (anchored.indexed.feeds_iff _ _).mpr ⟨cable, live, rfl⟩⟩

/-- The order is that of the listed cables, without those that are listed a second time. -/
theorem Anchored.unplugged_eq {connected : List CableId}
    (chronological : p.Chronological connected) :
    p.unplugged connected id (Device.panel placed.device) =
      p.arriving id placed ++ (p.leaving id placed).filter (· ∉ p.arriving id placed) := by
  have inputs : placed.inputs.length = (Device.panel placed.device).inputs.length :=
    anchored.fitted found .input
  have outputs : placed.outputs.length = (Device.panel placed.device).outputs.length :=
    anchored.fitted found .output
  unfold unplugged
  congr 1
  · simp only [anchored.filter_destination chronological]
    unfold arriving
    rw [List.filterMap_eq_flatMap_toList, inputs]
  · have leaving_eq : p.leaving id placed =
        (List.range placed.outputs.length).flatMap fun connector =>
          p.outputCables ⟨id, connector⟩ := rfl
    rw [leaving_eq, List.filter_flatMap, outputs]
    congr 1
    funext connector
    rw [chronological, List.filter_filter]
    apply List.filter_congr
    intro other _
    cases live : p.cable? other with
    | none => simp
    | some cable => simp [anchored.mem_arriving_iff found live, and_comm]

omit found in
theorem Anchored.nodup_arriving : (p.arriving id placed).Nodup := by
  apply List.Nodup.filterMap _ List.nodup_range
  intro connector connector' other feeds feeds'
  obtain ⟨cable, live, ends⟩ := (anchored.indexed.feeds_iff _ _).mp feeds
  obtain ⟨cable', live', ends'⟩ := (anchored.indexed.feeds_iff _ _).mp feeds'
  cases live.symm.trans live'
  exact congrArg (·.connector) (ends.symm.trans ends')

omit found in
theorem Anchored.nodup_leaving : (p.leaving id placed).Nodup := by
  unfold leaving
  rw [List.nodup_flatMap]
  refine ⟨fun connector _ => anchored.indexed.fanOut_nodup _, ?_⟩
  apply List.Pairwise.imp _ List.nodup_range
  intro connector connector' apart other listed listed'
  obtain ⟨cable, live, begins⟩ := (anchored.indexed.fanOut_iff _ _).mp listed
  obtain ⟨cable', live', begins'⟩ := (anchored.indexed.fanOut_iff _ _).mp listed'
  cases live.symm.trans live'
  exact apart (congrArg (·.connector) (begins.symm.trans begins'))

variable {connected : List CableId} (chronological : p.Chronological connected)
include chronological

theorem Anchored.nodup_unplugged :
    (p.unplugged connected id (Device.panel placed.device)).Nodup := by
  rw [anchored.unplugged_eq found chronological, List.nodup_append]
  refine ⟨anchored.nodup_arriving, anchored.nodup_leaving.filter _, ?_⟩
  intro cable arrives other leaves same
  have elsewhere := (List.mem_filter.mp leaves).2
  simp [← same, arrives] at elsewhere

theorem Anchored.mem_unplugged_iff (other : CableId) :
    other ∈ p.unplugged connected id (Device.panel placed.device) ↔
      ∃ cable, p.cable? other = some cable ∧
        (cable.source.device = id ∨ cable.destination.device = id) := by
  have listed : other ∈ p.unplugged connected id (Device.panel placed.device) ↔
      other ∈ p.incidentCables id placed := by
    rw [anchored.unplugged_eq found chronological, incidentCables_eq, List.mem_append,
      List.mem_append, List.mem_filter, decide_eq_true_eq]
    tauto
  rw [listed, anchored.indexed.mem_incidentCables_iff anchored.endpoints found
    (anchored.fitted found)]
  simp only [or_comm]

/-- A cable that is listed a second time is not there any more. -/
theorem Anchored.foldl_incidentCables :
    (p.incidentCables id placed).foldl removeCable p =
      (p.unplugged connected id (Device.panel placed.device)).foldl removeCable p := by
  have gone : ∀ other, decide (other ∈ p.arriving id placed) = true →
      ((p.arriving id placed).foldl removeCable p).cable? other = none := by
    intro other arrives
    rw [cable?_foldl_removeCable, if_pos (of_decide_eq_true arrives)]
  rw [anchored.unplugged_eq found chronological, incidentCables_eq, List.foldl_append,
    List.foldl_append, foldl_removeCable_of_gone gone]
  simp only [decide_not]

end Found

end Anchored

/-! ### What is left -/

/-- What the deletion of a device with this panel does to the cables; `connected` are those that
were ever connected, oldest first. -/
structure Unplugging (p : Patch D) (connected : List CableId) (id : DeviceId) (panel : Panel)
    (after : Patch D) : Prop where
  /-- The cables that touch the device are gone, all others keep their ends, -/
  cables : ∀ cable, after.cable? cable = (p.cable? cable).filter fun ends =>
    ends.source.device ≠ id ∧ ends.destination.device ≠ id
  /-- and the indices lose those that are gone and nothing else. -/
  input_cables : ∀ input, after.inputCable? input =
    (p.inputCable? input).filter fun cable => (after.cable? cable).isSome
  output_cables : ∀ output, after.outputCables output =
    (p.outputCables output).filter fun cable => (after.cable? cable).isSome
  /-- Each cable that touched the device is unplugged once, -/
  once : (p.unplugged connected id panel).Nodup
  all : ∀ cable, cable ∈ p.unplugged connected id panel ↔
    ∃ ends, p.cable? cable = some ends ∧ (ends.source.device = id ∨ ends.destination.device = id)
  /-- and their slots are added in this order to those that are vacant. -/
  freed : after.cables.free = p.cables.free ++ (p.unplugged connected id panel).map (·.slot)
  freed_once : after.cables.free.Nodup

/-- What the deletion of a device with this panel does. -/
structure Cascade [Device D] (p : Patch D) (connected : List CableId) (id : DeviceId)
    (panel : Panel) (after : Patch D) : Prop where
  /-- The device is gone, every other device is as before, -/
  devices : ∀ other, after.devices.get? other =
    if other = id then none else p.devices.get? other
  /-- with the values in its ports, -/
  values : ∀ direction address, address.device ≠ id →
    after.portValue? direction address = p.portValue? direction address
  /-- and the output is the same unless it was on the device. -/
  output : after.output = p.output.filter (·.device ≠ id)
  rate : after.rate = p.rate
  readCap : after.readCap = p.readCap
  /-- Its cables go with it. Once a slot number stands for two cables there is no telling which
  one a key means. -/
  unplugging : p.cables.Fits → p.Unplugging connected id panel after
  /-- Whatever is done later, the cables connected then take the vacant slots in their order. -/
  refilled : ∀ later : List (Operation D),
    ((connections (after.run later).1).map (·.slot)).take after.cables.free.length =
      after.cables.free.take (connections (after.run later).1).length

section Deletion

variable [Device D] {p : Patch D}

theorem Anchored.cable?_withoutDevice (anchored : p.Anchored) {id : DeviceId} {placed : Placed D}
    (found : p.devices.get? id = some placed) (other : CableId) :
    (p.withoutDevice id placed).cable? other = (p.cable? other).filter fun ends =>
      ends.source.device ≠ id ∧ ends.destination.device ≠ id := by
  rw [Patch.cable?_withoutDevice]
  cases live : p.cable? other with
  | none => simp
  | some cable =>
    have touches : other ∈ p.incidentCables id placed ↔
        cable.destination.device = id ∨ cable.source.device = id := by
      rw [anchored.indexed.mem_incidentCables_iff anchored.endpoints found
        (anchored.fitted found), live]
      simp
    by_cases incident : other ∈ p.incidentCables id placed
    · rw [if_pos incident]
      rcases touches.mp incident with same | same
      · simp [Option.filter_some, same]
      · simp [Option.filter_some, same]
    · rw [if_neg incident]
      rw [touches, not_or] at incident
      simp [Option.filter_some, incident]

theorem Anchored.unplugging (anchored : p.Anchored) {connected : List CableId}
    (chronological : p.Chronological connected) {id : DeviceId} {placed : Placed D}
    (found : p.devices.get? id = some placed) :
    p.Unplugging connected id (Device.panel placed.device) (p.withoutDevice id placed) := by
  have cables := anchored.cable?_withoutDevice found
  have unplugged := anchored.cablesWired.foldl_removeCable (p.incidentCables id placed)
  have indexed : (p.withoutDevice id placed).Indexed := unplugged.indexed.of_eq rfl rfl rfl
  have once := anchored.nodup_unplugged found chronological
  have all := anchored.mem_unplugged_iff found chronological
  have freed : (p.withoutDevice id placed).cables.free = p.cables.free ++
      (p.unplugged connected id (Device.panel placed.device)).map (·.slot) := by
    have live : ∀ cable ∈ p.unplugged connected id (Device.panel placed.device),
        ∃ ends, p.cable? cable = some ends := by
      intro cable member
      obtain ⟨ends, live, -⟩ := (all cable).mp member
      exact ⟨ends, live⟩
    rw [← free_foldl_removeCable once live, ← anchored.foldl_incidentCables found chronological]
    rfl
  refine
    { cables, once, all, freed
      input_cables := ?_
      output_cables := ?_
      freed_once := unplugged.consistent.free_nodup }
  · intro input
    ext cable
    rw [indexed.feeds_iff, Option.filter_eq_some_iff, anchored.indexed.feeds_iff]
    constructor
    · intro fed
      obtain ⟨ends, live, arrives⟩ := fed
      refine ⟨⟨ends, ?_, arrives⟩, by rw [live]; rfl⟩
      rw [cables] at live
      exact (Option.filter_eq_some_iff.mp live).1
    · intro fed
      obtain ⟨⟨ends, before, arrives⟩, live⟩ := fed
      obtain ⟨ends', live⟩ := Option.isSome_iff_exists.mp live
      refine ⟨ends', live, ?_⟩
      rw [cables, before] at live
      obtain ⟨same, -⟩ := Option.filter_eq_some_iff.mp live
      cases same
      exact arrives
  · intro output
    refine (outputCables_foldl_removeCable anchored.indexed _ output).trans ?_
    apply List.filter_congr
    intro cable listed
    obtain ⟨ends, live, -⟩ := (anchored.indexed.fanOut_iff output cable).mp listed
    rw [Patch.cable?_withoutDevice, live]
    by_cases incident : cable ∈ p.incidentCables id placed
    · simp [incident]
    · simp [incident]

/-- Apart from the cables only the device and the output go. -/
theorem cascade_withoutDevice {connected : List CableId} {id : DeviceId} {placed : Placed D}
    (unplugging : p.cables.Fits →
      p.Unplugging connected id (Device.panel placed.device) (p.withoutDevice id placed)) :
    p.Cascade connected id (Device.panel placed.device) (p.withoutDevice id placed) where
  devices := by
    intro other
    rw [devices_withoutDevice, Slots.get?_remove]
  values := by
    intro direction address apart
    unfold portValue?
    rw [get?_withoutDevice_of_ne p placed apart]
  output := output_withoutDevice p id placed
  rate := rate_withoutDevice p id placed
  readCap := readCap_withoutDevice p id placed
  unplugging
  refilled := fun later => take_slots_of_run later _ (List.append_nil _).symm

/-- Deleting a device that is there succeeds, whatever operations made the patch, and takes with it
the cables that touch the device and nothing else. -/
theorem cascade_of_run (settings : Settings) (operations : List (Operation D)) {id : DeviceId}
    {device : D} (live : ((ofSettings settings).run operations).2.device? id = some device) :
    ∃ after, ((ofSettings settings).run operations).2.deleteDevice id = .ok after ∧
      ((ofSettings settings).run operations).2.Cascade
        (connections ((ofSettings settings).run operations).1) id (Device.panel device) after := by
  obtain ⟨placed, found, rfl⟩ := Option.map_eq_some_iff.mp live
  refine ⟨_, deleteDevice_of_some found, cascade_withoutDevice ?_⟩
  intro fits
  obtain ⟨anchored, chronological⟩ := anchored_of_run settings operations fits
  exact anchored.unplugging chronological found

end Deletion

/-- A device with two inputs and two outputs. -/
def hub : Scripted where
  panel := ⟨[.ofKind "left" .integer, .ofKind "right" .integer],
    [.ofKind "odd" .integer, .ofKind "even" .integer]⟩
  script := [[.copy 0 0, .copy 1 1]]

/-- The first output of the hub leads back to its own input, to the last device and to the first;
this cable is the newest, though it has the slot of one that was unplugged. The second output leads
to the second device, and a cable from there is gone. -/
def crossing : List (Operation Scripted) :=
  [.addDevice hub, .addDevice echo, .addDevice echo, .addDevice echo,
    .connect ⟨⟨0, 1⟩, 0⟩ ⟨⟨1, 1⟩, 0⟩,
    .connect ⟨⟨0, 1⟩, 0⟩ ⟨⟨0, 1⟩, 0⟩,
    .connect ⟨⟨2, 1⟩, 0⟩ ⟨⟨0, 1⟩, 1⟩,
    .connect ⟨⟨0, 1⟩, 1⟩ ⟨⟨2, 1⟩, 0⟩,
    .connect ⟨⟨0, 1⟩, 0⟩ ⟨⟨3, 1⟩, 0⟩,
    .unplug ⟨0, 1⟩,
    .unplug ⟨2, 1⟩,
    .connect ⟨⟨0, 1⟩, 0⟩ ⟨⟨1, 1⟩, 0⟩]

theorem crossing_cascade :
    (((ofSettings {}).run crossing).2.cables.Fits ∧
      ((ofSettings {}).run crossing).2.device? ⟨0, 1⟩ = some hub) ∧
    ∃ after, ((ofSettings {}).run crossing).2.deleteDevice ⟨0, 1⟩ = .ok after ∧
      ((ofSettings {}).run crossing).2.Cascade (connections ((ofSettings {}).run crossing).1)
        ⟨0, 1⟩ hub.panel after := by
  have fits : ((ofSettings {}).run crossing).2.cables.Fits :=
    Nat.le_trans (by decide : _ ≤ 5) (by decide)
  have live : ((ofSettings {}).run crossing).2.device? ⟨0, 1⟩ = some hub := by decide
  exact ⟨⟨fits, live⟩, cascade_of_run {} crossing live⟩

/-- After the slot that was vacant before come that of the cable at the hub's own input, those of
the other two cables at its first output, the newest last, and that of the cable at its second
output. -/
example : ((ofSettings {}).run (crossing ++ [.deleteDevice ⟨0, 1⟩])).2.cables.free =
    [2, 1, 4, 0, 3] := by
  decide

end Patch

end ModularSynth
