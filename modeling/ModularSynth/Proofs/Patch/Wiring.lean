import Mathlib.Data.List.Infix
import ModularSynth.Device.Scripted
import ModularSynth.Proofs.Patch.Wired

/-!
# Wiring through any run

Whatever operations are done to an empty patch, in any order and with any arguments, the two stores,
the two indices and the output stay in step (`coherent_of_run`). `Patch.Effect` lists what one
operation can do; every invariant of runs is a case analysis over it, followed by `run_induction`.
Connections are told apart by time as well as by key: an output lists its cables in the order in
which they were connected, and a key that was given out twice counts from the last time.
-/

namespace ModularSynth

variable {D : Type}

/-- The cable that an operation connected. -/
def Answer.cable? : Answer → Option CableId
  | .cable id => some id
  | _ => none

/-- The device that an operation added. -/
def Answer.device? : Answer → Option DeviceId
  | .device id => some id
  | _ => none

/-- The operation takes a device or a cable out. -/
def Operation.Removes : Operation D → Prop
  | .deleteDevice _ => True
  | .unplug _ => True
  | _ => False

/-- The cables that were connected, oldest first. -/
def connections (answers : List Answer) : List CableId :=
  answers.filterMap Answer.cable?

theorem connections_concat (answers : List Answer) (answer : Answer) :
    connections (answers ++ [answer]) = connections answers ++ answer.cable?.toList := by
  unfold connections
  rw [List.filterMap_append]
  cases connected : answer.cable? with
  | none => simp [connected]
  | some id => simp [connected]

namespace Patch

/-- There are no more devices and no more cables than slot numbers. -/
def WithinCapacity (p : Patch D) : Prop :=
  p.deviceIds.length ≤ UInt32.size ∧ p.cables.keys.length ≤ UInt32.size

instance (p : Patch D) : Decidable p.WithinCapacity :=
  inferInstanceAs (Decidable (_ ∧ _))

/-- Each output lists its live cables in the order in which they were connected. Of a key that was
given out more than once only the last time counts, as `dedup` keeps the last occurrence. -/
def Chronological (p : Patch D) (connected : List CableId) : Prop :=
  ∀ output, p.outputCables output =
    connected.dedup.filter fun id => (p.cable? id).map (·.source) = some output

/-- Filtering the log by what is live gives the same after some cables are gone. -/
theorem Chronological.of_erased {p q : Patch D} {connected : List CableId}
    (chronological : p.Chronological connected) (gone : CableId → Prop) [DecidablePred gone]
    (lists : ∀ output, q.outputCables output = (p.outputCables output).filter (¬ gone ·))
    (cables : ∀ id, q.cable? id = if gone id then none else p.cable? id) :
    q.Chronological connected := by
  intro output
  rw [lists, chronological output, List.filter_filter]
  apply List.filter_congr
  intro id _
  rw [cables]
  by_cases erased : gone id
  · simp [erased]
  · simp [erased]

/-- An edit that can fail keeps what it keeps when it succeeds. -/
theorem settle_keeps {β : Type} {p : Patch D} {outcome : Except PatchError (Patch D)}
    (of : Patch D → β) (keeps : ∀ after, outcome = .ok after → of after = of p) :
    of (p.settle outcome).2 = of p := by
  cases outcome with
  | error error => rfl
  | ok after => exact keeps after rfl

theorem settleCable_keeps {β : Type} {p : Patch D}
    {outcome : Except PatchError (CableId × Patch D)} (of : Patch D → β)
    (keeps : ∀ result, outcome = .ok result → of result.2 = of p) :
    of (p.settleCable outcome).2 = of p := by
  cases outcome with
  | error error => rfl
  | ok result => exact keeps result rfl

variable [Device D]

theorem eq_withCable_of_plug {p : Patch D} {source destination : DeviceId}
    {sourcePort destinationPort : String} {result : CableId × Patch D}
    (plugged : p.plug source sourcePort destination destinationPort = .ok result) :
    ∃ output input, result.2 = p.withCable output input := by
  obtain ⟨output, input, -, -, connected⟩ := plug_eq_ok_iff.mp plugged
  exact ⟨output, input, (connect_eq_ok_iff.mp connected).2.2.2.2⟩

/-! ### What an operation can do -/

/-- An operation, the answer to it and the patch after it. Passes, reads, resets and settings change
the patch where it is. -/
inductive Effect (p : Patch D) : Operation D → Answer → Patch D → Prop
  | refused (operation : Operation D) (error : PatchError) : Effect p operation (.failed error) p
  | aged (operation : Operation D) (answer : Answer) (after : Patch D)
      (keeps : ¬ operation.Removes) (quiet : answer.device? = none ∧ answer.cable? = none)
      (same : p.Aged after) : Effect p operation answer after
  | added (device : D) :
      Effect p (.addDevice device) (.device (p.addDevice device).1) (p.addDevice device).2
  | deleted (id : DeviceId) (placed : Placed D) (found : p.devices.get? id = some placed) :
      Effect p (.deleteDevice id) .done (p.withoutDevice id placed)
  | connected (operation : Operation D) (source destination : PortAddress)
      (begins : p.checkAddress source .output = .ok ())
      (ends : p.checkAddress destination .input = .ok ())
      (vacant : p.inputCable? destination = none) :
      Effect p operation (.cable (p.cables.insert ⟨source, destination⟩).1)
        (p.withCable source destination)
  | unplugged (id : CableId) (cable : Cable) (found : p.cable? id = some cable) :
      Effect p (.unplug id) .done (p.removeCable id)
  | chosen (operation : Operation D) (keeps : ¬ operation.Removes) (output : Option PortAddress)
      (port : ∀ address, output = some address → p.HasPort .output address) :
      Effect p operation .done { p with output }

theorem effect_settle {p : Patch D} {operation : Operation D}
    {outcome : Except PatchError (Patch D)}
    (effect : ∀ after, outcome = .ok after → p.Effect operation .done after) :
    p.Effect operation (p.settle outcome).1 (p.settle outcome).2 := by
  cases outcome with
  | error error => exact .refused operation error
  | ok after => exact effect after rfl

theorem effect_settleCable {p : Patch D} {operation : Operation D}
    {outcome : Except PatchError (CableId × Patch D)}
    (connects : ∀ result, outcome = .ok result →
      ∃ source destination, p.connect source destination = .ok result) :
    p.Effect operation (p.settleCable outcome).1 (p.settleCable outcome).2 := by
  cases outcome with
  | error error => exact .refused operation error
  | ok result =>
    obtain ⟨id, after⟩ := result
    obtain ⟨source, destination, connected⟩ := connects _ rfl
    obtain ⟨begins, ends, vacant, rfl, rfl⟩ := connect_eq_ok_iff.mp connected
    exact .connected operation source destination begins ends vacant

theorem effect_perform (p : Patch D) (operation : Operation D) :
    p.Effect operation (p.perform operation).1 (p.perform operation).2 := by
  cases operation with
  | addDevice device => exact .added device
  | deleteDevice id =>
    apply effect_settle
    intro after deleted
    obtain ⟨placed, found, rfl⟩ := deleteDevice_eq_ok_iff.mp deleted
    exact .deleted id placed found
  | plug source sourcePort destination destinationPort =>
    apply effect_settleCable
    intro result plugged
    obtain ⟨output, input, -, -, connected⟩ := plug_eq_ok_iff.mp plugged
    exact ⟨output, input, connected⟩
  | connect source destination =>
    apply effect_settleCable
    intro result connected
    exact ⟨source, destination, connected⟩
  | unplug id =>
    apply effect_settle
    intro after unplugged
    obtain ⟨cable, found, rfl⟩ := unplug_eq_ok_iff.mp unplugged
    exact .unplugged id cable found
  | setOutput id port =>
    apply effect_settle
    intro after chosen
    obtain ⟨address, resolved, rfl⟩ := setOutput_eq_ok_iff.mp chosen
    refine .chosen (.setOutput id port) not_false (some address) ?_
    intro chosen same
    cases same
    exact resolvePort_hasPort resolved
  | clearOutput =>
    refine .chosen .clearOutput not_false none ?_
    intro chosen same
    cases same
  | setRate hertz => exact .aged _ _ _ not_false ⟨rfl, rfl⟩ (aged_setRate p hertz)
  | setReadCap frames => exact .aged _ _ _ not_false ⟨rfl, rfl⟩ (aged_setReadCap p frames)
  | pass =>
    have same := aged_pass p
    simp only [perform]
    split
    next after passed =>
      rw [passed] at same
      exact .aged _ _ _ not_false ⟨rfl, rfl⟩ same
    next error after failed =>
      rw [failed] at same
      exact .aged _ _ _ not_false ⟨rfl, rfl⟩ same
  | readFrames buffer => exact .aged _ _ _ not_false ⟨rfl, rfl⟩ (aged_readFrames p buffer)
  | reset => exact .aged _ _ _ not_false ⟨rfl, rfl⟩ (aged_reset p)

theorem Wired.fits_addDevice {p : Patch D} (wired : p.Wired) {device : D}
    (capacity : (p.addDevice device).2.WithinCapacity) : (p.addDevice device).2.devices.Fits :=
  wired.devices_consistent.fits_insert wired.devices_fit _ (Slots.length_keys _ ▸ capacity.1)

theorem Wired.fits_withCable {p : Patch D} (wired : p.Wired) {source destination : PortAddress}
    (capacity : (p.withCable source destination).WithinCapacity) :
    (p.withCable source destination).cables.Fits :=
  wired.cables_consistent.fits_insert wired.cables_fit _ (Slots.length_keys _ ▸ capacity.2)

theorem Wired.effect {p after : Patch D} {operation : Operation D} {answer : Answer}
    (wired : p.Wired) (effect : p.Effect operation answer after)
    (capacity : after.WithinCapacity) : after.Wired := by
  cases effect with
  | refused operation error => exact wired
  | aged _ _ _ keeps quiet same => exact wired.of_retains same.retains
  | added device => exact wired.addDevice device (wired.fits_addDevice capacity)
  | deleted id placed found => exact wired.withoutDevice found
  | connected operation source destination begins ends vacant =>
    exact wired.withCable (wired.fits_withCable capacity)
      ((checkAddress_eq_ok_iff_hasPort wired.fitted).mp begins)
      ((checkAddress_eq_ok_iff_hasPort wired.fitted).mp ends) vacant
  | unplugged id cable found => exact wired.removeCable id
  | chosen operation keeps output port => exact wired.withOutput port

/-! ### Cables, whatever the number of devices -/

omit [Device D] in
/-- Removing cables makes no slots. -/
theorem fits_withoutDevice {p : Patch D} {id : DeviceId} {placed : Placed D}
    (fits : (p.withoutDevice id placed).cables.Fits) : p.cables.Fits := by
  unfold withoutDevice Slots.Fits at fits
  rw [length_cables_foldl_removeCable] at fits
  exact fits

/-- No operation makes fewer slots of cables. -/
theorem Effect.fits_before {p after : Patch D} {operation : Operation D} {answer : Answer}
    (effect : p.Effect operation answer after) (fits : after.cables.Fits) : p.cables.Fits := by
  cases effect with
  | aged _ _ _ keeps quiet same => exact same.cables_eq ▸ fits
  | deleted id placed found => exact fits_withoutDevice fits
  | connected operation source destination begins ends vacant => exact Slots.Fits.of_insert fits
  | unplugged id cable found =>
    rw [cables_removeCable] at fits
    exact fits.of_remove
  | _ => exact fits

/-- The cables and the two indices are in step; of the devices nothing is said. -/
structure CablesWired (p : Patch D) : Prop where
  consistent : p.cables.Consistent
  indexed : p.Indexed

theorem Wired.cablesWired {p : Patch D} (wired : p.Wired) : p.CablesWired :=
  ⟨wired.cables_consistent, wired.indexed⟩

omit [Device D] in
theorem CablesWired.of_eq {p q : Patch D} (wired : p.CablesWired) (cables : q.cables = p.cables)
    (feeds : q.feeds = p.feeds) (fanOut : q.fanOut = p.fanOut) : q.CablesWired :=
  ⟨cables ▸ wired.consistent, wired.indexed.of_eq cables feeds fanOut⟩

omit [Device D] in
theorem CablesWired.removeCable {p : Patch D} (wired : p.CablesWired) (id : CableId) :
    (p.removeCable id).CablesWired := by
  refine ⟨?_, wired.indexed.removeCable id⟩
  rw [cables_removeCable]
  exact wired.consistent.remove id

omit [Device D] in
theorem CablesWired.foldl_removeCable {p : Patch D} (wired : p.CablesWired) (ids : List CableId) :
    (ids.foldl Patch.removeCable p).CablesWired := by
  induction ids generalizing p with
  | nil => exact wired
  | cons id ids ih => exact ih (wired.removeCable id)

theorem CablesWired.effect {p after : Patch D} {operation : Operation D} {answer : Answer}
    (wired : p.CablesWired) (effect : p.Effect operation answer after)
    (fits : after.cables.Fits) : after.CablesWired := by
  cases effect with
  | refused operation error => exact wired
  | aged _ _ _ keeps quiet same => exact wired.of_eq same.cables_eq same.feeds_eq same.fanOut_eq
  | added device => exact wired.of_eq rfl rfl rfl
  | deleted id placed found =>
    exact (wired.foldl_removeCable (p.incidentCables id placed)).of_eq rfl rfl rfl
  | connected operation source destination begins ends vacant =>
    exact ⟨wired.consistent.insert _, wired.indexed.withCable wired.consistent fits vacant⟩
  | unplugged id cable found => exact wired.removeCable id
  | chosen operation keeps output port => exact wired.of_eq rfl rfl rfl

omit [Device D] in
theorem CablesWired.chronological_withCable {p : Patch D} (wired : p.CablesWired)
    {source destination : PortAddress} (fits : (p.withCable source destination).cables.Fits)
    {connected : List CableId} (chronological : p.Chronological connected) :
    (p.withCable source destination).Chronological
      (connected ++ [(p.cables.insert ⟨source, destination⟩).1]) := by
  have unused : p.cable? (p.cables.insert ⟨source, destination⟩).1 = none :=
    wired.consistent.get?_insert_key _ fits
  have lookup : ∀ id, (p.withCable source destination).cable? id =
      if id = (p.cables.insert ⟨source, destination⟩).1 then some ⟨source, destination⟩
      else p.cable? id := wired.consistent.get?_insert _ fits
  intro output
  rw [dedup_concat, List.filter_append, List.filter_filter, outputCables_withCable]
  have earlier : (connected.dedup.filter fun id =>
      decide (((p.withCable source destination).cable? id).map (·.source) = some output) &&
        decide (id ≠ (p.cables.insert ⟨source, destination⟩).1)) = p.outputCables output := by
    rw [chronological output]
    apply List.filter_congr
    intro id _
    rw [lookup]
    by_cases new : id = (p.cables.insert ⟨source, destination⟩).1
    · simp [new, unused]
    · simp [new]
  rw [earlier]
  by_cases same : output = source
  · subst same
    simp [lookup]
  · simp [lookup, same, Ne.symm same]

theorem CablesWired.chronological {p after : Patch D} {operation : Operation D} {answer : Answer}
    (wired : p.CablesWired) (effect : p.Effect operation answer after)
    (fits : after.cables.Fits) {connected : List CableId}
    (chronological : p.Chronological connected) :
    after.Chronological (connected ++ answer.cable?.toList) := by
  cases effect with
  | refused operation error =>
    simp only [Answer.cable?, Option.toList_none, List.append_nil]
    exact chronological
  | aged _ _ _ keeps quiet same =>
    rw [quiet.2, Option.toList_none, List.append_nil]
    intro output
    rw [same.retains.outputCables_eq]
    simp only [same.retains.cable?_eq]
    exact chronological output
  | added device =>
    simp only [Answer.cable?, Option.toList_none, List.append_nil]
    exact chronological
  | deleted id placed found =>
    simp only [Answer.cable?, Option.toList_none, List.append_nil]
    exact chronological.of_erased (· ∈ p.incidentCables id placed)
      (outputCables_foldl_removeCable wired.indexed _) (cable?_foldl_removeCable p _)
  | connected operation source destination begins ends vacant =>
    exact wired.chronological_withCable fits chronological
  | unplugged id cable found =>
    simp only [Answer.cable?, Option.toList_none, List.append_nil]
    exact chronological.of_erased (· = id)
      (outputCables_removeCable wired.indexed id) (cable?_removeCable p id)
  | chosen operation keeps output port =>
    simp only [Answer.cable?, Option.toList_none, List.append_nil]
    exact chronological

/-! ### Runs -/

/-- What holds of a patch and the answers so far, and is preserved by every operation that leads to
an admitted patch, holds after every run through admitted patches. -/
theorem run_induction (Admitted : Patch D → Prop) (Holds : List Answer → Patch D → Prop)
    (preserved : ∀ answers (p : Patch D) operation, Holds answers p →
      Admitted (p.perform operation).2 →
        Holds (answers ++ [(p.perform operation).1]) (p.perform operation).2)
    (operations : List (Operation D)) (answers : List Answer) (p : Patch D)
    (start : Holds answers p)
    (admitted : ∀ done, done <+: operations → Admitted (p.run done).2) :
    Holds (answers ++ (p.run operations).1) (p.run operations).2 := by
  induction operations generalizing answers p with
  | nil =>
    rw [run, List.append_nil]
    exact start
  | cons operation operations ih =>
    have next := preserved answers p operation start
      (admitted [operation] (List.prefix_append [operation] operations))
    have rest := ih _ _ next fun done front =>
      admitted (operation :: done) (List.cons_prefix_cons.mpr ⟨rfl, front⟩)
    rw [List.append_assoc] at rest
    exact rest

/-- What every operation preserves that leaves the slots of cables with numbers holds after a run
that does. -/
theorem run_induction_of_fits (Holds : List Answer → Patch D → Prop)
    (preserved : ∀ answers (p : Patch D) operation, Holds answers p →
      (p.perform operation).2.cables.Fits →
        Holds (answers ++ [(p.perform operation).1]) (p.perform operation).2)
    (operations : List (Operation D)) (p : Patch D) (start : Holds [] p)
    (fits : (p.run operations).2.cables.Fits) :
    Holds (p.run operations).1 (p.run operations).2 := by
  have holds := run_induction (fun _ => True)
    (fun answers p => p.cables.Fits → Holds answers p) ?_ operations [] p (fun _ => start)
    (fun _ _ => trivial)
  · exact holds fits
  · intro answers p operation holds _ fits
    exact preserved answers p operation
      (holds ((effect_perform p operation).fits_before fits)) fits

theorem cablesWired_of_reachable {p : Patch D} (reachable : p.Reachable)
    (fits : p.cables.Fits) : p.CablesWired := by
  obtain ⟨settings, operations, rfl⟩ := reachable
  refine run_induction_of_fits (fun _ p => p.CablesWired) ?_ operations (ofSettings settings)
    (wired_ofSettings settings).cablesWired fits
  intro answers p operation wired fits
  exact wired.effect (effect_perform p operation) fits

/-! ### What holds after every run -/

/-- Stores, indices and output are in step; `connected` are the cables that were ever connected,
oldest first. -/
structure Coherent (p : Patch D) (connected : List CableId) : Prop where
  /-- An input's cable is the live cable that ends there. -/
  input_cable : ∀ input id, p.inputCable? input = some id ↔
    ∃ cable, p.cable? id = some cable ∧ cable.destination = input
  /-- No input has two live cables. -/
  single_feed : ∀ id other cable cable', p.cable? id = some cable → p.cable? other = some cable' →
    cable.destination = cable'.destination → id = other
  /-- An output lists the live cables that begin there, -/
  output_cables : ∀ output id, id ∈ p.outputCables output ↔
    ∃ cable, p.cable? id = some cable ∧ cable.source = output
  /-- each once, -/
  output_once : ∀ output, (p.outputCables output).Nodup
  /-- in the order in which they were connected, -/
  output_order : p.Chronological connected
  /-- and an output without cables has no entry. -/
  no_empty_list : ∀ output, p.fanOut.get? output ≠ some []
  /-- Every live cable goes from an output port to an input port of live devices. -/
  endpoints : ∀ id cable, p.cable? id = some cable →
    p.HasPort .output cable.source ∧ p.HasPort .input cable.destination
  /-- The chosen output is an output port of a live device. -/
  output_port : ∀ address, p.output = some address → p.HasPort .output address
  /-- The listings name what is live, each once, and the counts are their lengths. -/
  device_ids : ∀ id, id ∈ p.deviceIds ↔ ∃ device, p.device? id = some device
  device_ids_once : p.deviceIds.Nodup
  device_count : p.deviceCount = p.deviceIds.length
  cable_ids : ∀ id, id ∈ p.cables.keys ↔ ∃ cable, p.cable? id = some cable
  cable_ids_once : p.cables.keys.Nodup
  cable_count : p.cableCount = p.cables.keys.length

theorem Wired.coherent {p : Patch D} (wired : p.Wired) {connected : List CableId}
    (chronological : p.Chronological connected) : p.Coherent connected where
  input_cable := wired.indexed.feeds_iff
  single_feed := by
    intro id other cable cable' found found' same
    have first := (wired.indexed.feeds_iff cable.destination id).mpr ⟨cable, found, rfl⟩
    have second := (wired.indexed.feeds_iff cable.destination other).mpr
      ⟨cable', found', same.symm⟩
    rw [first] at second
    exact Option.some.inj second
  output_cables := wired.indexed.fanOut_iff
  output_once := wired.indexed.fanOut_nodup
  output_order := chronological
  no_empty_list := wired.indexed.fanOut_ne_nil
  endpoints := wired.endpoints
  output_port := wired.output_port
  device_ids := by
    intro id
    unfold deviceIds device?
    rw [Slots.mem_keys_iff wired.devices_fit]
    simp
  device_ids_once := Slots.nodup_keys wired.devices_fit
  device_count := by
    unfold deviceCount deviceIds
    rw [Slots.length_keys, wired.devices_consistent.size_eq]
  cable_ids := fun id => Slots.mem_keys_iff wired.cables_fit
  cable_ids_once := Slots.nodup_keys wired.cables_fit
  cable_count := by
    unfold cableCount
    rw [Slots.length_keys, wired.cables_consistent.size_eq]

/-- After any operations on an empty patch, failing ones included, stores, indices and output are in
step, as long as there never are more devices or cables than slot numbers. -/
theorem coherent_of_run (settings : Settings) (operations : List (Operation D))
    (capacity : ∀ done, done <+: operations → ((ofSettings settings).run done).2.WithinCapacity) :
    ((ofSettings settings).run operations).2.Coherent
      (connections ((ofSettings settings).run operations).1) := by
  have invariant := run_induction (fun p : Patch D => p.WithinCapacity)
    (fun answers p => p.Wired ∧ p.Chronological (connections answers))
    ?preserved operations [] (ofSettings settings) ?start capacity
  case preserved =>
    intro answers p operation holds admitted
    obtain ⟨wired, chronological⟩ := holds
    have effect := effect_perform p operation
    refine ⟨wired.effect effect admitted, ?_⟩
    rw [connections_concat]
    exact wired.cablesWired.chronological effect (wired.effect effect admitted).cables_fit
      chronological
  case start =>
    refine ⟨wired_ofSettings settings, ?_⟩
    intro output
    rfl
  exact invariant.1.coherent invariant.2

/-- An integer input `in` whose value a step copies to the output `out`. -/
def echo : Scripted where
  panel := ⟨[.ofKind "in" .integer], [.ofKind "out" .integer]⟩
  script := [[.copy 0 0]]

/-- One output fans out to its own device and to two others. One of its cables is unplugged, another
goes with the device that it led to, and the first of their slots is filled again; a taken input
and a missing port are refused. -/
def rewiring : List (Operation Scripted) :=
  [.addDevice echo, .addDevice echo, .addDevice echo,
    .connect ⟨⟨0, 1⟩, 0⟩ ⟨⟨1, 1⟩, 0⟩,
    .plug ⟨0, 1⟩ "out" ⟨0, 1⟩ "in",
    .connect ⟨⟨0, 1⟩, 0⟩ ⟨⟨2, 1⟩, 0⟩,
    .connect ⟨⟨2, 1⟩, 0⟩ ⟨⟨1, 1⟩, 0⟩,
    .connect ⟨⟨2, 1⟩, 1⟩ ⟨⟨2, 1⟩, 0⟩,
    .setOutput ⟨1, 1⟩ "out",
    .pass,
    .unplug ⟨0, 1⟩,
    .deleteDevice ⟨2, 1⟩,
    .plug ⟨0, 1⟩ "out" ⟨1, 1⟩ "in"]

theorem rewiring_coherent :
    (∀ done, done <+: rewiring → ((ofSettings {}).run done).2.WithinCapacity) ∧
      ((ofSettings {}).run rewiring).2.Coherent (connections ((ofSettings {}).run rewiring).1) := by
  have capacity : ∀ done, done <+: rewiring → ((ofSettings {}).run done).2.WithinCapacity := by
    intro done front
    have each : ∀ done ∈ rewiring.inits, ((ofSettings {}).run done).2.WithinCapacity := by decide
    exact each done ((List.mem_inits done rewiring).mpr front)
  exact ⟨capacity, coherent_of_run {} rewiring capacity⟩

/-- The slot that was vacant longest is filled first, yet its new cable comes last in its output's
list. -/
example : ((ofSettings {}).run rewiring).2.outputCables ⟨⟨0, 1⟩, 0⟩ = [⟨1, 1⟩, ⟨0, 3⟩] := by
  decide

end Patch

end ModularSynth
