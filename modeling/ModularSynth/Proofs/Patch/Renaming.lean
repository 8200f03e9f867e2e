import Mathlib.Data.Set.Function
import ModularSynth.Proofs.Patch.Places

/-!
# Patches up to renaming

Two patches are the same up to renaming if the devices of one can be moved to the slots of the
other, with their states and what their ports hold, so that the same jacks are joined
(`Patch.Renames`).
The slots may be filled in any order and have any history, and the cables any keys. What arrives at
a jack and whether any device fails do not depend on the order of slots, so a pass keeps two such
patches the same (`Renames.pass`); only which device is named for a failure can differ. By induction
they make the same frames and fail after the same number of them (`indistinguishable_of_renames`).
-/

namespace ModularSynth

variable {D : Type}

/-- The same port of the device in another slot. -/
def Jack.moved (move : Nat → Nat) (jack : Jack) : Jack := { jack with slot := move jack.slot }

namespace Patch

/-- The slots that hold a device. -/
def occupied (p : Patch D) : Set Nat := {slot | ∃ placed, p.devices.at? slot = some placed}

/-- The jack that is listened to. -/
def outputJack? (p : Patch D) : Option Jack := p.output.bind p.jack?

/-- How many of so many passes succeed before the first that fails; `none` if all succeed. -/
def failsAfter? [Device D] (p : Patch D) (count : Nat) : Option Nat :=
  match (p.passes count).1 with
  | .error (_, done) => some done
  | .ok () => none

/-- The second patch is the first with its devices moved to other slots. -/
structure Renames (move : Nat → Nat) (p q : Patch D) : Prop where
  slots : Set.BijOn move p.occupied q.occupied
  /-- A device is moved as it is, state and ports included. -/
  devices : ∀ slot ∈ p.occupied, q.devices.at? (move slot) = p.devices.at? slot
  joins : ∀ source destination, (source, destination) ∈ q.joins ↔
    ∃ begins ends, (begins, ends) ∈ p.joins ∧
      begins.moved move = source ∧ ends.moved move = destination
  rate_eq : q.rate = p.rate
  output : q.outputJack? = p.outputJack?.map (Jack.moved move)

section Renames

variable {move : Nat → Nat} {p q : Patch D}

theorem occupied_of_jack? {address : PortAddress} {jack : Jack}
    (addressed : p.jack? address = some jack) : jack.slot ∈ p.occupied := by
  obtain ⟨⟨placed, found⟩, rfl⟩ := jack?_eq_some_iff.mp addressed
  exact ⟨placed, Slots.at?_of_get? found⟩

/-- If no slot is vacant, the slots below a number are the occupied ones. -/
theorem occupied_of_filled {count : Nat} (filled : p.devices.slots.length = count ∧
    ∀ slot ∈ p.devices.slots, slot.occupant.isSome) : p.occupied = {slot | slot < count} := by
  obtain ⟨length, filled⟩ := filled
  ext slot
  rw [Set.mem_ofPred_eq, ← length]
  constructor
  · intro home
    obtain ⟨placed, held⟩ := home
    obtain ⟨generation, found⟩ := Slots.at?_eq_some_iff.mp held
    exact (List.getElem?_eq_some_iff.mp found).1
  · intro below
    obtain ⟨placed, taken⟩ :=
      Option.isSome_iff_exists.mp (filled _ (List.getElem_mem below))
    refine ⟨placed, ?_⟩
    unfold Slots.at?
    rw [List.getElem?_eq_getElem below, Option.bind_some, taken]

theorem occupied_of_matches {R : Placed D → Placed D → Prop}
    (same : p.devices.Matches R q.devices) : q.occupied = p.occupied := by
  ext slot
  unfold occupied
  simp only [Set.mem_ofPred_eq]
  rcases rel_cases (same.at? slot) with ⟨left, right⟩ | ⟨a, b, left, right, -⟩
  · rw [left, right]
  · rw [left, right]
    simp

theorem outputJack?_of_matches {R : Placed D → Placed D → Prop}
    (same : p.devices.Matches R q.devices) (output : q.output = p.output) :
    q.outputJack? = p.outputJack? := by
  unfold outputJack?
  rw [output]
  exact congrArg (Option.bind p.output) (funext (jack?_of_matches same))

/-- Moving a device moves the values in its ports. -/
theorem Renames.valueAt?_moved (renames : Renames move p q) {jack : Jack}
    (home : jack.slot ∈ p.occupied) (direction : Direction) :
    q.valueAt? direction (jack.moved move) = p.valueAt? direction jack := by
  unfold valueAt? Jack.moved
  rw [renames.devices _ home]

/-- What is listened to is the value in a jack. -/
theorem bind_outputValue?_eq (p : Patch D) :
    p.output.bind p.outputValue? = p.outputJack?.bind (p.valueAt? .output) := by
  unfold outputJack?
  rw [Option.bind_assoc]
  refine congrArg (Option.bind p.output) (funext fun address => ?_)
  cases addressed : p.jack? address with
  | some jack => exact (valueAt?_of_jack? addressed .output).symm
  | none =>
    unfold jack? at addressed
    rw [Option.map_eq_none_iff] at addressed
    unfold outputValue? portValue?
    rw [addressed]
    rfl

/-- Patches that are the same up to renaming make the same frame. -/
theorem Renames.currentFrame_eq (renames : Renames move p q) : q.currentFrame = p.currentFrame := by
  have same : q.outputJack?.bind (q.valueAt? .output) =
      p.outputJack?.bind (p.valueAt? .output) := by
    rw [renames.output]
    cases chosen : p.outputJack? with
    | none => rfl
    | some jack =>
      obtain ⟨address, -, addressed⟩ := Option.bind_eq_some_iff.mp chosen
      exact renames.valueAt?_moved (occupied_of_jack? addressed) .output
  unfold currentFrame
  rw [bind_outputValue?_eq, bind_outputValue?_eq, same]

/-- Two patches whose devices change in place stay the same if every device changes as its
counterpart does. -/
theorem Renames.of_matches (renames : Renames move p q) {R S : Placed D → Placed D → Prop}
    {devices devices' : Slots .device (Placed D)} (here : p.devices.Matches R devices)
    (there : q.devices.Matches S devices')
    (moved : ∀ slot ∈ p.occupied, devices'.at? (move slot) = devices.at? slot) :
    Renames move { p with devices } { q with devices := devices' } := by
  have occupied : ({ p with devices } : Patch D).occupied = p.occupied := occupied_of_matches here
  have occupied' : ({ q with devices := devices' } : Patch D).occupied = q.occupied :=
    occupied_of_matches there
  have joins : ({ p with devices } : Patch D).joins = p.joins := joins_of_matches here rfl
  have joins' : ({ q with devices := devices' } : Patch D).joins = q.joins :=
    joins_of_matches there rfl
  have output : ({ p with devices } : Patch D).outputJack? = p.outputJack? :=
    outputJack?_of_matches here rfl
  have output' : ({ q with devices := devices' } : Patch D).outputJack? = q.outputJack? :=
    outputJack?_of_matches there rfl
  constructor
  · rw [occupied, occupied']
    exact renames.slots
  · rw [occupied]
    exact moved
  · rw [joins, joins']
    exact renames.joins
  · exact renames.rate_eq
  · rw [output, output']
    exact renames.output

/-! ### One pass -/

theorem Renames.moved_injOn (renames : Renames move p q) {jack other : Jack}
    (home : jack.slot ∈ p.occupied) (home' : other.slot ∈ p.occupied)
    (same : jack.moved move = other.moved move) : jack = other := by
  cases jack
  cases other
  simp only [Jack.moved, Jack.mk.injEq] at same home home' ⊢
  exact ⟨renames.slots.injOn home home' same.1, same.2⟩

/-- Counterparts hear the same. -/
theorem Renames.heard (renames : Renames move p q) (fed : p.Fed) (fed' : q.Fed) {jack : Jack}
    (home : jack.slot ∈ p.occupied) :
    q.propagate.valueAt? .input (jack.moved move) = p.propagate.valueAt? .input jack := by
  have before := renames.valueAt?_moved home .input
  by_cases arrives : ∃ source value, (source, jack) ∈ p.joins ∧
      p.valueAt? .output source = some value ∧ value.kind ≠ .text
  · obtain ⟨source, value, joined, held, travels⟩ := arrives
    have joined' : (source.moved move, jack.moved move) ∈ q.joins := by
      rw [renames.joins]
      exact ⟨source, jack, joined, rfl, rfl⟩
    have held' : q.valueAt? .output (source.moved move) = some value := by
      obtain ⟨cable, -, begins, -⟩ := mem_joins_iff.mp joined
      rw [renames.valueAt?_moved (occupied_of_jack? begins), held]
    rw [fed.valueAt?_propagate_of_arrival joined held travels,
      fed'.valueAt?_propagate_of_arrival joined' held' travels, before]
  · have silence : ∀ source, (source, jack) ∈ p.joins → ∀ value,
        p.valueAt? .output source = some value → value.kind = .text := by
      intro source joined value held
      by_contra travels
      exact arrives ⟨source, value, joined, held, travels⟩
    have silence' : ∀ source, (source, jack.moved move) ∈ q.joins → ∀ value,
        q.valueAt? .output source = some value → value.kind = .text := by
      intro source joined value held
      obtain ⟨begins, ends, origin, rfl, same⟩ := (renames.joins _ _).mp joined
      obtain ⟨cable, -, begins_at, ends_at⟩ := mem_joins_iff.mp origin
      have back : ends = jack := renames.moved_injOn (occupied_of_jack? ends_at) home same
      rw [back] at origin
      rw [renames.valueAt?_moved (occupied_of_jack? begins_at)] at held
      exact silence begins origin value held
    rw [valueAt?_propagate_of_silence silence, valueAt?_propagate_of_silence silence', before]

theorem Renames.propagate (renames : Renames move p q) (fed : p.Fed) (fed' : q.Fed) :
    Renames move p.propagate q.propagate := by
  have hears := hears_foldl_carry p.cables.values p.devices
  have hears' := hears_foldl_carry q.cables.values q.devices
  refine renames.of_matches hears hears' ?_
  intro slot home
  have heard : ∀ connector, q.propagate.valueAt? .input ⟨move slot, connector⟩ =
      p.propagate.valueAt? .input ⟨slot, connector⟩ := by
    intro connector
    have seat : (⟨slot, connector⟩ : Jack).slot ∈ p.occupied := home
    exact renames.heard fed fed' seat
  obtain ⟨placed, held⟩ := id home
  have held' := (renames.devices slot home).trans held
  obtain ⟨after, now, step⟩ := exists_right_of_rel (hears.at? slot) held
  obtain ⟨after', now', step'⟩ := exists_right_of_rel (hears'.at? (move slot)) held'
  have inputs : after'.inputs = after.inputs := by
    apply List.ext_getElem?
    intro connector
    have same := heard connector
    unfold valueAt? Patch.propagate at same
    rw [now, now'] at same
    exact same
  rw [now, now', step.eq_of_inputs step' inputs]

variable [Device D]

/-- Whether a device fails does not depend on its slot. -/
theorem Renames.stepAll_ok_iff (renames : Renames move p q) :
    p.stepAll.1 = .ok () ↔ q.stepAll.1 = .ok () := by
  rw [stepAll_eq_ok_iff, stepAll_eq_ok_iff, renames.rate_eq]
  constructor
  · intro quiet slot placed held
    obtain ⟨home, occupied, rfl⟩ := renames.slots.surjOn ⟨placed, held⟩
    rw [renames.devices home occupied] at held
    exact quiet home placed held
  · intro quiet slot placed held
    have held' := (renames.devices slot ⟨placed, held⟩).trans held
    exact quiet (move slot) placed held'

theorem Renames.stepAll (renames : Renames move p q) (finished : p.stepAll.1 = .ok ()) :
    Renames move p.stepAll.2 q.stepAll.2 := by
  have finished' := renames.stepAll_ok_iff.mp finished
  have steps := (stepAll_of_quiet (stepAll_eq_ok_iff.mp finished)).2
  have steps' := (stepAll_of_quiet (stepAll_eq_ok_iff.mp finished')).2
  have aged := (aged_stepAll p).devices
  have aged' := (aged_stepAll q).devices
  rw [snd_stepAll] at steps steps' aged aged' ⊢
  rw [snd_stepAll]
  refine renames.of_matches aged aged' ?_
  intro slot home
  rw [steps, steps', renames.devices slot home, renames.rate_eq]

/-- A pass succeeds on both or on neither, -/
theorem Renames.pass_ok_iff (renames : Renames move p q) (fed : p.Fed) (fed' : q.Fed) :
    p.pass.1 = .ok () ↔ q.pass.1 = .ok () :=
  (renames.propagate fed fed').stepAll_ok_iff

/-- and if it succeeds they are the same again. -/
theorem Renames.pass (renames : Renames move p q) (fed : p.Fed) (fed' : q.Fed)
    (passed : p.pass.1 = .ok ()) : Renames move p.pass.2 q.pass.2 :=
  (renames.propagate fed fed').stepAll passed

theorem Renames.pass_error (renames : Renames move p q) (fed : p.Fed) (fed' : q.Fed)
    {failure : PatchError} (failed : p.pass.1 = .error failure) :
    ∃ failure', q.pass.1 = .error failure' := by
  cases outcome : q.pass.1 with
  | error failure' => exact ⟨failure', rfl⟩
  | ok done =>
    rw [(renames.pass_ok_iff fed fed').mpr outcome] at failed
    cases failed

/-! ### Any number of passes -/

theorem failsAfter?_eq_none_iff {count : Nat} :
    p.failsAfter? count = none ↔ (p.passes count).1 = .ok () := by
  unfold failsAfter?
  rcases (p.passes count).1 with ⟨failure, done⟩ | finished
  · simp
  · simp

theorem failsAfter?_of_error {failure : PatchError} (failed : p.pass.1 = .error failure)
    (count : Nat) : p.failsAfter? (count + 1) = some 0 := by
  unfold failsAfter?
  rw [passes_of_error failed]

theorem failsAfter?_of_ok (passed : p.pass.1 = .ok ()) (count : Nat) :
    p.failsAfter? (count + 1) = (p.pass.2.failsAfter? count).map (· + 1) := by
  unfold failsAfter?
  rw [passes_of_ok passed]
  rcases (p.pass.2.passes count).1 with ⟨failure, done⟩ | finished
  · rfl
  · rfl

theorem Renames.passes (renames : Renames move p q) (fed : p.Fed) (fed' : q.Fed) (count : Nat) :
    q.failsAfter? count = p.failsAfter? count ∧
      (p.failsAfter? count = none → Renames move (p.passes count).2 (q.passes count).2) := by
  induction count generalizing p q with
  | zero => exact ⟨rfl, fun _ => renames⟩
  | succ count ih =>
    cases outcome : p.pass.1 with
    | error failure =>
      obtain ⟨failure', outcome'⟩ := renames.pass_error fed fed' outcome
      rw [failsAfter?_of_error outcome, failsAfter?_of_error outcome']
      refine ⟨rfl, ?_⟩
      intro never
      cases never
    | ok done =>
      have outcome' := (renames.pass_ok_iff fed fed').mp outcome
      obtain ⟨failures, same⟩ := ih (renames.pass fed fed' outcome) fed.pass fed'.pass
      rw [failsAfter?_of_ok outcome, failsAfter?_of_ok outcome', failures, Option.map_eq_none_iff,
        passes_of_ok outcome, passes_of_ok outcome']
      exact ⟨rfl, same⟩

theorem Renames.frames (renames : Renames move p q) (fed : p.Fed) (fed' : q.Fed) (count : Nat) :
    (q.frames count).1 = (p.frames count).1 ∧
      ((p.frames count).2.1 = .ok () ↔ (q.frames count).2.1 = .ok ()) := by
  induction count generalizing p q with
  | zero => exact ⟨rfl, Iff.rfl⟩
  | succ count ih =>
    cases outcome : p.pass.1 with
    | error failure =>
      obtain ⟨failure', outcome'⟩ := renames.pass_error fed fed' outcome
      rw [frames_of_error outcome, frames_of_error outcome']
      simp
    | ok done =>
      have outcome' := (renames.pass_ok_iff fed fed').mp outcome
      have next := renames.pass fed fed' outcome
      obtain ⟨frames, finished⟩ := ih next fed.pass fed'.pass
      rw [frames_of_ok outcome, frames_of_ok outcome', frames, next.currentFrame_eq]
      exact ⟨rfl, finished⟩

/-- A read fills the buffer with the same bytes, unless the caps differ. -/
theorem Renames.readFrames (renames : Renames move p q) (fed : p.Fed) (fed' : q.Fed)
    (caps : q.readCap = p.readCap) (buffer : List UInt8) :
    (q.readFrames buffer).buffer = (p.readFrames buffer).buffer ∧
      (q.readFrames buffer).outcome.toOption = (p.readFrames buffer).outcome.toOption := by
  unfold Patch.readFrames
  split
  · exact ⟨rfl, rfl⟩
  · obtain ⟨frames, finished⟩ := renames.frames fed fed'
      (min (buffer.length / frameBytes) p.readCap)
    rw [caps]
    dsimp only
    rw [frames]
    refine ⟨rfl, ?_⟩
    generalize (p.frames (min (buffer.length / frameBytes) p.readCap)).2.1 = outcome at finished ⊢
    generalize (q.frames (min (buffer.length / frameBytes) p.readCap)).2.1 = outcome' at finished ⊢
    cases outcome with
    | error failure =>
      cases outcome' with
      | error failure' => rfl
      | ok done => cases finished.mpr rfl
    | ok done =>
      rw [← finished.mp rfl]

end Renames

/-- Nothing that passes and reads tell makes out which of two patches it is, whatever slots their
devices are in. -/
structure Indistinguishable [Device D] (move : Nat → Nat) (p q : Patch D) : Prop where
  /-- A pass succeeds on both or on neither. -/
  pass_ok_iff : p.pass.1 = .ok () ↔ q.pass.1 = .ok ()
  /-- After any number of passes that succeed they are the same again, with the same frame. -/
  passes : ∀ count, (p.passes count).1 = .ok () →
    (q.passes count).1 = .ok () ∧ Renames move (p.passes count).2 (q.passes count).2 ∧
      (q.passes count).2.currentFrame = (p.passes count).2.currentFrame
  /-- The first pass to fail, if any does, has the same number. -/
  failsAfter?_eq : ∀ count, q.failsAfter? count = p.failsAfter? count
  /-- The same frames are made before it, -/
  frames_eq : ∀ count, (q.frames count).1 = (p.frames count).1
  /-- and reads that make as many frames at a time fill the same bytes and fail together. -/
  reads : q.readCap = p.readCap → ∀ buffer,
    (q.readFrames buffer).buffer = (p.readFrames buffer).buffer ∧
      (q.readFrames buffer).outcome.toOption = (p.readFrames buffer).outcome.toOption

theorem Renames.indistinguishable [Device D] {p q : Patch D} {move : Nat → Nat}
    (renames : Renames move p q) (fed : p.Fed) (fed' : q.Fed) : Indistinguishable move p q := by
  refine
    { pass_ok_iff := renames.pass_ok_iff fed fed'
      passes := ?_
      failsAfter?_eq := fun count => (renames.passes fed fed' count).1
      frames_eq := fun count => (renames.frames fed fed' count).1
      reads := renames.readFrames fed fed' }
  intro count finished
  obtain ⟨failures, same⟩ := renames.passes fed fed' count
  have never := failsAfter?_eq_none_iff.mpr finished
  exact ⟨failsAfter?_eq_none_iff.mp (failures.trans never), same never,
    (same never).currentFrame_eq⟩

/-- In patches that operations make out of empty ones, the order of slots cannot be observed. -/
theorem indistinguishable_of_renames [Device D] {p q : Patch D} (reachable : p.Reachable)
    (reachable' : q.Reachable) {move : Nat → Nat} (renames : Renames move p q) :
    Indistinguishable move p q :=
  renames.indistinguishable (fed_of_reachable reachable) (fed_of_reachable reachable')

/-- Copies its input to its output. -/
def relay : Scripted where
  panel := ⟨[.ofKind "in" .sample], [.ofKind "out" .sample]⟩
  script := [[.copy 0 0]]

/-- Two samples and then a failure. -/
def spent : Scripted where
  panel := ⟨[], [.ofKind "out" .sample]⟩
  script := [[.emit 0 (.sample ⟨1, -1⟩)], [.emit 0 (.sample ⟨2, -2⟩)], [.fail "spent"]]

/-- Listens to `spent` through `relay`. -/
def relayed : List (Operation Scripted) :=
  [.addDevice relay, .addDevice spent, .plug ⟨1, 1⟩ "out" ⟨0, 1⟩ "in", .setOutput ⟨0, 1⟩ "out"]

/-- The same with the two devices in each other's slots, after another device and another cable are
gone. -/
def relayedBack : List (Operation Scripted) :=
  [.addDevice relay, .addDevice relay, .plug ⟨1, 1⟩ "out" ⟨1, 1⟩ "in", .deleteDevice ⟨0, 1⟩,
    .unplug ⟨0, 1⟩, .addDevice spent, .plug ⟨0, 3⟩ "out" ⟨1, 1⟩ "in", .setOutput ⟨1, 1⟩ "out"]

theorem relayed_renames : Renames (1 - ·) ((ofSettings {}).run relayed).2
    ((ofSettings {}).run relayedBack).2 := by
  have here : ((ofSettings {}).run relayed).2.occupied = {slot | slot < 2} :=
    occupied_of_filled (by decide)
  have there : ((ofSettings {}).run relayedBack).2.occupied = {slot | slot < 2} :=
    occupied_of_filled (by decide)
  refine { slots := ⟨?_, ?_, ?_⟩, devices := ?_, joins := ?_, rate_eq := rfl, output := by decide }
  · rw [here, there]
    intro slot below
    rw [Set.mem_ofPred_eq] at below
    change 1 - slot < 2
    omega
  · rw [here]
    intro slot below other below' same
    rw [Set.mem_ofPred_eq] at below below'
    change 1 - slot = 1 - other at same
    omega
  · rw [here, there]
    intro slot below
    rw [Set.mem_ofPred_eq] at below
    refine ⟨1 - slot, ?_, Nat.sub_sub_self (Nat.le_of_lt_succ below)⟩
    change 1 - slot < 2
    omega
  · rw [here]
    intro slot below
    rw [Set.mem_ofPred_eq] at below
    obtain rfl | rfl : slot = 0 ∨ slot = 1 := by omega
    · rfl
    · rfl
  · have joins : ((ofSettings {}).run relayed).2.joins = [(⟨1, 0⟩, ⟨0, 0⟩)] := by decide
    have joins' : ((ofSettings {}).run relayedBack).2.joins = [(⟨0, 0⟩, ⟨1, 0⟩)] := by decide
    intro source destination
    rw [joins, joins']
    simp only [List.mem_singleton, Prod.mk.injEq]
    constructor
    · rintro ⟨rfl, rfl⟩
      exact ⟨_, _, ⟨rfl, rfl⟩, rfl, rfl⟩
    · rintro ⟨_, _, ⟨rfl, rfl⟩, rfl, rfl⟩
      exact ⟨rfl, rfl⟩

theorem relayed_indistinguishable :
    (((ofSettings {}).run relayed).2.Reachable ∧ ((ofSettings {}).run relayedBack).2.Reachable ∧
      Renames (1 - ·) ((ofSettings {}).run relayed).2 ((ofSettings {}).run relayedBack).2) ∧
    Indistinguishable (1 - ·) ((ofSettings {}).run relayed).2
      ((ofSettings {}).run relayedBack).2 := by
  have reachable : ((ofSettings {}).run relayed).2.Reachable := ⟨{}, relayed, rfl⟩
  have reachable' : ((ofSettings {}).run relayedBack).2.Reachable := ⟨{}, relayedBack, rfl⟩
  exact ⟨⟨reachable, reachable', relayed_renames⟩,
    indistinguishable_of_renames reachable reachable' relayed_renames⟩

/-- Both make two frames; the devices that then fail have different keys. -/
example : (((ofSettings {}).run relayed).2.passes 5).1 =
      .error (.deviceFailed ⟨1, 1⟩ (.failed "spent"), 2) ∧
    (((ofSettings {}).run relayedBack).2.passes 5).1 =
      .error (.deviceFailed ⟨0, 3⟩ (.failed "spent"), 2) := by
  decide

end Patch

end ModularSynth
