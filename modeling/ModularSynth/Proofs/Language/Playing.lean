import Mathlib.Data.List.MinMax
import Mathlib.Data.Prod.Lex
import ModularSynth.Proofs.Language.Unplayed
import ModularSynth.Proofs.Patch.Kinds

/-!
# Playing what was compiled

Nothing compares the kinds of two ports when a description connects them, and yet what a compiled
description does is settled by its cables alone. The only values that no built-in input takes are
samples, and only converters make them. So if no cable leaves a converter, all passes and reads
succeed (`Patch.NeverFails`); otherwise the very first pass fails, and every later one in the same
way, at the first port that such a cable leads to (`Patch.FailsAt`).
-/

namespace ModularSynth

/-- Ports in the order in which a pass reads them: by slot, then by connector. -/
def PortAddress.Precedes (first other : PortAddress) : Prop :=
  first.device.slot < other.device.slot ∨
    first.device.slot = other.device.slot ∧ first.connector ≤ other.connector

namespace PortAddress

theorem precedes_iff {first other : PortAddress} :
    first.Precedes other ↔ first.device.slot.toNat < other.device.slot.toNat ∨
      first.device.slot.toNat = other.device.slot.toNat ∧ first.connector ≤ other.connector := by
  unfold Precedes
  rw [UInt32.lt_iff_toNat_lt, ← UInt32.toNat_inj]

/-- A port's place in that order. -/
def place (address : PortAddress) : Nat ×ₗ Nat :=
  toLex (address.device.slot.toNat, address.connector)

theorem exists_first {addresses : List PortAddress} (nonempty : addresses ≠ []) :
    ∃ first ∈ addresses, ∀ other ∈ addresses, first.Precedes other := by
  obtain ⟨first, least⟩ := Option.ne_none_iff_exists'.mp
    (mt (List.argmin_eq_none (f := place)).mp nonempty)
  refine ⟨first, List.argmin_mem least, ?_⟩
  intro other member
  have before := List.le_of_mem_argmin member least
  unfold place at before
  rw [Prod.Lex.toLex_le_toLex] at before
  exact precedes_iff.mpr before

end PortAddress

namespace Patch

/-- The cables that leave converters. -/
def converted (p : Patch Builtin) : List Cable :=
  p.cables.values.filter fun cable => p.device? cable.source.device = some .converter

/-- A pass fails with this error, and so does a read that makes a frame. -/
structure FailsWith {D : Type} [Device D] (p : Patch D) (error : PatchError) : Prop where
  pass : p.pass.1 = .error error
  reads : ∀ buffer, buffer.length % frameBytes = 0 → frameBytes ≤ buffer.length → 0 < p.readCap →
    (p.readFrames buffer).outcome = .error error

theorem failsWith_of_pass {D : Type} [Device D] {p : Patch D} {error : PatchError}
    (failed : p.pass.1 = .error error) : p.FailsWith error where
  pass := failed
  reads := by
    intro buffer whole frame some_frames
    have positive : 0 < min (buffer.length / frameBytes) p.readCap :=
      Nat.lt_min.mpr ⟨Nat.div_pos frame (by decide), some_frames⟩
    obtain ⟨count, more⟩ := Nat.exists_eq_add_one_of_ne_zero positive.ne'
    unfold readFrames
    rw [if_neg (not_not.mpr whole)]
    dsimp only
    rw [more, frames_of_error failed]
    rfl

/-- However the patch is played, nothing fails. -/
structure NeverFails (p : Patch Builtin) : Prop where
  succeeds : ∀ operations : List (Operation Builtin),
    (∀ operation ∈ operations, operation.Plays) →
      ∀ answer ∈ (p.run operations).1, answer.error? = none
  /-- Every input holds a float at all times. -/
  floats : ∀ operations : List (Operation Builtin),
    (∀ operation ∈ operations, operation.Plays) →
      ∀ placed ∈ (p.run operations).2.devices.values, ∀ value ∈ placed.inputs, value.kind = .float

/-- However the patch was played before, it fails because of the sample in this input. -/
structure FailsAt (p : Patch Builtin) (first : PortAddress) : Prop where
  fed : ∃ cable ∈ p.converted, cable.destination = first
  least : ∀ cable ∈ p.converted, first.Precedes cable.destination
  fails : ∃ device port, p.device? first.device = some device ∧
    (Builtin.panel device).inputs[first.connector]? = some port ∧
    ∀ operations : List (Operation Builtin), (∀ operation ∈ operations, operation.Plays) →
      (p.run operations).2.FailsWith
        (.deviceFailed first.device (.inputKind port.name .float .sample))

section Kinded

variable {p : Patch Builtin}

/-- The tainted inputs are those that cables from converters lead to. -/
theorem tainted_iff_converted (jack : Jack) :
    p.Tainted jack ↔ ∃ cable ∈ p.converted, p.jack? cable.destination = some jack := by
  unfold Tainted converted
  simp only [List.mem_filter, decide_eq_true_eq]
  constructor
  · intro tainted
    obtain ⟨source, joined, placed, home, sample⟩ := tainted
    obtain ⟨cable, member, begins, ends⟩ := mem_joins_iff.mp joined
    obtain ⟨⟨placed', found⟩, rfl⟩ := jack?_eq_some_iff.mp begins
    have same := Slots.at?_of_get? found
    rw [home] at same
    cases same
    refine ⟨cable, ⟨member, ?_⟩, ends⟩
    unfold device?
    rw [found, Option.map_some, Builtin.outputKind_eq_sample_iff.mp sample]
  · intro fed
    obtain ⟨cable, ⟨member, converter⟩, ends⟩ := fed
    obtain ⟨placed, found, device⟩ := Option.map_eq_some_iff.mp converter
    refine ⟨⟨cable.source.device.slot.toNat, cable.source.connector⟩, ?_, placed,
      Slots.at?_of_get? found, by rw [device]; rfl⟩
    exact mem_joins_iff.mpr ⟨cable, member, jack?_eq_some_iff.mpr ⟨⟨placed, found⟩, rfl⟩, ends⟩

theorem Kinded.neverFails (kinded : p.Kinded) (none_converted : p.converted = []) :
    p.NeverFails := by
  have clean : ∀ jack, ¬ p.Tainted jack := by
    intro jack tainted
    obtain ⟨cable, member, -⟩ := (tainted_iff_converted jack).mp tainted
    rw [none_converted] at member
    cases member
  constructor
  · intro operations plays
    exact kinded.run_of_clean clean plays
  · intro operations plays placed member value held
    obtain ⟨later, aged⟩ := kinded.run plays
    obtain ⟨slot, home⟩ := Slots.mem_values_iff.mp member
    obtain ⟨connector, holds⟩ := List.mem_iff_getElem?.mp held
    have there : (p.run operations).2.valueAt? .input ⟨slot, connector⟩ = some value := by
      unfold valueAt?
      rw [home]
      exact holds
    rcases later.inputs _ _ there with float | ⟨tainted, -⟩
    · exact float
    · exact absurd ((aged.tainted_iff _).mp tainted) (clean _)

theorem Kinded.failsAt (kinded : p.Kinded) {first : Cable} (member : first ∈ p.converted)
    (least : ∀ cable ∈ p.converted, first.destination.Precedes cable.destination) :
    p.FailsAt first.destination := by
  have cable := (List.mem_filter.mp member).1
  obtain ⟨-, placed, found, below⟩ := kinded.endpoints first cable
  have addressed : p.jack? first.destination =
      some ⟨first.destination.device.slot.toNat, first.destination.connector⟩ :=
    jack?_eq_some_iff.mpr ⟨⟨placed, found⟩, rfl⟩
  have firstTainted : p.FirstTainted
      ⟨first.destination.device.slot.toNat, first.destination.connector⟩ := by
    refine ⟨(tainted_iff_converted _).mpr ⟨first, member, addressed⟩, ?_⟩
    intro other tainted
    obtain ⟨cable, converted, ends⟩ := (tainted_iff_converted other).mp tainted
    obtain ⟨-, rfl⟩ := jack?_eq_some_iff.mp ends
    exact PortAddress.precedes_iff.mp (least cable converted)
  have named := List.getElem?_eq_getElem below
  refine ⟨⟨first, member, rfl⟩, least, placed.device, _, ?_, named, ?_⟩
  · unfold device?
    rw [found, Option.map_some]
  · intro operations plays
    obtain ⟨later, aged⟩ := kinded.run plays
    obtain ⟨now, there, continues⟩ := aged.retains.devices.exists_of_get? found
    have named' := (congrArg (·.inputs[first.destination.connector]?) continues.1).trans named
    refine failsWith_of_pass (later.pass_of_tainted
      ((jack?_of_matches aged.devices _).trans addressed) ?_ there named')
    exact ⟨(aged.tainted_iff _).mpr firstTainted.tainted, fun other tainted =>
      firstTainted.least other ((aged.tainted_iff _).mp tainted)⟩

end Kinded

/-- Before the first pass the inputs of built-in devices hold floats. -/
theorem Unplayed.kinded {p : Patch Builtin} (unplayed : p.Unplayed) : p.Kinded where
  rate_ne_zero := unplayed.rate_ne_zero
  fed := unplayed.fed
  endpoints := unplayed.endpoints
  devices := by
    intro slot placed held
    obtain ⟨device, rfl⟩ := unplayed.fresh slot placed held
    exact Placed.kinded_fresh device
  inputs := by
    intro jack value held
    obtain ⟨placed, home, holds⟩ := Option.bind_eq_some_iff.mp held
    obtain ⟨device, rfl⟩ := unplayed.fresh jack.slot placed home
    obtain ⟨port, listed, rfl⟩ := List.mem_map.mp (List.mem_of_getElem? holds)
    exact Or.inl (Builtin.kinds_inputs device port listed)

end Patch

/-- A compiled description never fails if no cable leaves a converter. Otherwise every pass from
the first one on fails, and always at the same input. -/
theorem plays_of_compile {text : String} {p : Patch Builtin} (compiled : compile text = .ok p) :
    (p.converted = [] → p.NeverFails) ∧
      (p.converted ≠ [] → ∃ first, p.FailsAt first) := by
  have positive : ({} : Settings).rate ≠ 0 := by decide
  have kinded := (unplayed_of_compileWith positive compiled).kinded
  refine ⟨kinded.neverFails, ?_⟩
  intro some_converted
  obtain ⟨address, listed, least⟩ := PortAddress.exists_first
    (mt (List.map_eq_nil_iff (f := (·.destination))).mp some_converted)
  obtain ⟨first, member, rfl⟩ := List.mem_map.mp listed
  exact ⟨first.destination, kinded.failsAt member fun cable converted =>
    least _ (List.mem_map_of_mem converted)⟩

/-- A converter is connected to the gain of the oscillator that it listens to. -/
def mistaken : String :=
  "osc = SinGenerator()\nf2s = FloatToSample()\nosc:sinusoid -> f2s:float\nf2s:sample -> osc:gain\n"

theorem mistaken_failsAt :
    ∃ p, compile mistaken = .ok p ∧ p.FailsAt ⟨⟨0, 1⟩, 1⟩ := by
  have built : (compile mistaken).toOption.map (fun p => p.converted.map (·.destination)) =
      some [⟨⟨0, 1⟩, 1⟩] := by
    decide +kernel
  cases compiled : compile mistaken with
  | error error =>
    rw [compiled] at built
    cases built
  | ok p =>
    rw [compiled] at built
    have single : p.converted.map (·.destination) = [⟨⟨0, 1⟩, 1⟩] := Option.some.inj built
    have some_converted : p.converted ≠ [] := by
      intro nothing
      rw [nothing] at single
      cases single
    obtain ⟨first, fails⟩ := (plays_of_compile compiled).2 some_converted
    obtain ⟨cable, member, rfl⟩ := fails.fed
    have listed := List.mem_map_of_mem (f := (·.destination)) member
    rw [single, List.mem_singleton] at listed
    rw [listed] at fails
    exact ⟨p, rfl, fails⟩

end ModularSynth
