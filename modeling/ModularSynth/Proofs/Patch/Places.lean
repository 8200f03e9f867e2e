import Mathlib.Data.Nat.Find
import ModularSynth.Proofs.Patch.Synchrony

/-!
# A pass, slot by slot

What a pass does to the device in each slot. Cables address devices by keys, and keys run out; slots
do not, so nothing here needs a bound on the number of devices. A `Jack` is a port of the device in
a slot. The values that arrive depend on nothing but which jacks are joined (`Patch.joins`), and the
outcome of stepping on nothing but which device fails in the lowest slot.
-/

namespace ModularSynth

variable {D : Type}

namespace Slots

variable {resident : Resident} {α : Type}

/-- The occupant of the slot with this number. -/
def at? (s : Slots resident α) (index : Nat) : Option α :=
  s.slots[index]?.bind (·.occupant)

theorem at?_eq_some_iff {s : Slots resident α} {index : Nat} {a : α} :
    s.at? index = some a ↔ ∃ generation, s.slots[index]? = some ⟨generation, some a⟩ := by
  unfold at?
  rw [Option.bind_eq_some_iff]
  constructor
  · intro held
    obtain ⟨⟨generation, occupant⟩, found, taken⟩ := held
    simp only at taken
    exact ⟨generation, by rw [found, taken]⟩
  · intro found
    obtain ⟨generation, found⟩ := found
    exact ⟨_, found, rfl⟩

/-- The values are the occupants. -/
theorem mem_values_iff {s : Slots resident α} {a : α} :
    a ∈ s.values ↔ ∃ index, s.at? index = some a := by
  rw [values_eq, List.mem_filterMap]
  constructor
  · intro listed
    obtain ⟨slot, member, taken⟩ := listed
    obtain ⟨index, found⟩ := List.mem_iff_getElem?.mp member
    refine ⟨index, ?_⟩
    unfold at?
    rw [found]
    exact taken
  · intro held
    obtain ⟨index, held⟩ := held
    obtain ⟨generation, found⟩ := at?_eq_some_iff.mp held
    exact ⟨_, List.mem_of_getElem? found, rfl⟩

/-- A key finds the occupant of its slot. -/
theorem at?_of_get? {s : Slots resident α} {key : Key resident} {a : α}
    (found : s.get? key = some a) : s.at? key.slot.toNat = some a :=
  at?_eq_some_iff.mpr ⟨key.generation, get?_eq_some_iff.mp found⟩

/-- The occupants of the slots that have numbers are found under keys. -/
theorem exists_key_of_at? {s : Slots resident α} {index : Nat} {a : α}
    (held : s.at? index = some a) (numbered : index < UInt32.size) :
    ∃ key : Key resident, key.slot.toNat = index ∧ s.get? key = some a := by
  obtain ⟨generation, found⟩ := at?_eq_some_iff.mp held
  have number : (keyAt index generation : Key resident).slot.toNat = index :=
    toNat_slot_keyAt numbered generation
  refine ⟨keyAt index generation, number, ?_⟩
  rw [get?_eq_some_iff, number]
  exact found

/-- What is found after an insertion is the new value or was there before. -/
theorem at?_insert {s : Slots resident α} {a b : α} {index : Nat}
    (held : (s.insert a).2.at? index = some b) : b = a ∨ s.at? index = some b := by
  obtain ⟨generation, found⟩ := at?_eq_some_iff.mp held
  obtain ⟨position, occupied⟩ := occupied_of_insert s a
  rcases occupied index generation b found with ⟨-, new⟩ | before
  · exact Or.inl new
  · exact Or.inr (at?_eq_some_iff.mpr ⟨generation, before⟩)

theorem at?_remove {s : Slots resident α} {key : Key resident} {b : α} {index : Nat}
    (held : (s.remove key).2.at? index = some b) : s.at? index = some b := by
  obtain ⟨generation, found⟩ := at?_eq_some_iff.mp held
  rw [getElem?_remove] at found
  split at found
  · cases found
  · exact at?_eq_some_iff.mpr ⟨generation, found⟩

/-- With a consistent queue an insertion adds one value and keeps the others. -/
theorem Consistent.mem_values_insert {s : Slots resident α} (consistent : s.Consistent)
    {a b : α} : b ∈ (s.insert a).2.values ↔ b = a ∨ b ∈ s.values := by
  rw [mem_values_iff, mem_values_iff]
  constructor
  · intro held
    obtain ⟨index, held⟩ := held
    exact (at?_insert held).imp_right fun before => ⟨index, before⟩
  · intro held
    simp only [at?_eq_some_iff] at held ⊢
    rcases consistent.insert_cases a with ⟨waiting, free, generation, -, vacant, inserted⟩ |
      ⟨-, inserted⟩
    · rw [inserted]
      simp only [List.getElem?_modify]
      rcases held with rfl | ⟨index, generation', found⟩
      · exact ⟨waiting.toNat, nextGeneration generation, by simp [vacant, Slot.fill]⟩
      · have apart : waiting.toNat ≠ index := by
          rintro rfl
          simp [vacant] at found
        exact ⟨index, generation', by simp [apart, found]⟩
    · rw [inserted]
      rcases held with rfl | ⟨index, generation, found⟩
      · exact ⟨s.slots.length, firstGeneration, by simp⟩
      · have inside : index < s.slots.length := (List.getElem?_eq_some_iff.mp found).1
        exact ⟨index, generation, by rw [List.getElem?_append_left inside, found]⟩

/-- A removal takes out one value at most. -/
theorem mem_values_remove {s : Slots resident α} {key : Key resident} {a : α}
    (member : a ∈ s.values) (other : s.get? key ≠ some a) : a ∈ (s.remove key).2.values := by
  obtain ⟨index, held⟩ := mem_values_iff.mp member
  obtain ⟨generation, found⟩ := at?_eq_some_iff.mp held
  refine mem_values_iff.mpr ⟨index, at?_eq_some_iff.mpr ⟨generation, ?_⟩⟩
  rw [getElem?_remove, if_neg, found]
  intro vacated
  obtain ⟨rfl, present⟩ := vacated
  obtain ⟨b, named⟩ := Option.isSome_iff_exists.mp present
  have occupied := get?_eq_some_iff.mp named
  rw [found] at occupied
  cases occupied
  exact other named

theorem Matches.at? {R : α → α → Prop} {s t : Slots resident α} (same : s.Matches R t)
    (index : Nat) : Option.Rel R (s.at? index) (t.at? index) := by
  unfold Slots.at?
  rcases rel_cases (same.getElem? index) with ⟨left, right⟩ | ⟨a, b, left, right, step⟩
  · rw [left, right]
    exact .none
  · rw [left, right]
    exact step.2

theorem at?_update_of_ne {s : Slots resident α} {key : Key resident} {index : Nat}
    (apart : key.slot.toNat ≠ index) (f : α → α) : (s.update key f).at? index = s.at? index := by
  unfold at? update
  simp only [List.getElem?_modify, if_neg apart, Option.map_eq_map, Option.map_id']

section UpdateUntil

variable {ε : Type} (f : Key resident → α → α × Option ε)

theorem getElem?_updateUntilFrom_of_no_failure (slots : List (Slot α)) (first : Nat)
    (fine : ∀ (index : Nat) generation a, slots[index]? = some ⟨generation, some a⟩ →
      (f (keyAt (first + index) generation) a).2 = none) :
    (updateUntilFrom f first slots).2 = none ∧ ∀ index : Nat,
      (updateUntilFrom f first slots).1[index]? = slots[index]?.map fun slot =>
        { slot with
          occupant := slot.occupant.map fun a =>
            (f (keyAt (first + index) slot.generation) a).1 } := by
  induction slots generalizing first with
  | nil => exact ⟨rfl, fun index => rfl⟩
  | cons slot slots ih =>
    have rest := ih (first + 1) fun index generation a found => by
      rw [Nat.add_right_comm, Nat.add_assoc]
      exact fine (index + 1) generation a found
    obtain ⟨generation, occupant⟩ := slot
    have later : ∀ index : Nat, first + 1 + index = first + (index + 1) := by
      intro index
      omega
    cases occupant with
    | none =>
      refine ⟨rest.1, ?_⟩
      intro index
      cases index with
      | zero => rfl
      | succ index =>
        rw [← later index]
        exact rest.2 index
    | some a =>
      have head := fine 0 generation a rfl
      rw [Nat.add_zero] at head
      simp only [updateUntilFrom]
      split
      next b failure equal =>
        rw [equal] at head
        cases head
      next b equal =>
        refine ⟨rest.1, ?_⟩
        intro index
        cases index with
        | zero => simp [equal]
        | succ index =>
          rw [← later index]
          exact rest.2 index

/-- The failure of the lowest slot that fails ends an update. -/
theorem updateUntilFrom_of_first_failure (slots : List (Slot α)) (first : Nat) {index : Nat}
    {generation : UInt32} {a : α} {failure : ε}
    (found : slots[index]? = some ⟨generation, some a⟩)
    (failed : (f (keyAt (first + index) generation) a).2 = some failure)
    (fine : ∀ lower < index, ∀ generation b, slots[lower]? = some ⟨generation, some b⟩ →
      (f (keyAt (first + lower) generation) b).2 = none) :
    (updateUntilFrom f first slots).2 = some failure := by
  induction slots generalizing first index with
  | nil => cases found
  | cons slot slots ih =>
    obtain ⟨generation', occupant⟩ := slot
    cases index with
    | zero =>
      rw [List.getElem?_cons_zero, Option.some.injEq, Slot.mk.injEq] at found
      obtain ⟨rfl, rfl⟩ := found
      rw [Nat.add_zero] at failed
      simp only [updateUntilFrom]
      split
      next b other equal =>
        rw [equal] at failed
        exact failed
      next b equal =>
        rw [equal] at failed
        cases failed
    | succ index =>
      have rest := ih (first + 1) (by simpa using found)
        (by rw [Nat.add_right_comm, Nat.add_assoc]; exact failed)
        (fun lower below generation b found => by
          rw [Nat.add_right_comm, Nat.add_assoc]
          exact fine (lower + 1) (Nat.succ_lt_succ below) generation b found)
      cases occupant with
      | none => exact rest
      | some b =>
        have head := fine 0 (Nat.succ_pos index) generation' b rfl
        rw [Nat.add_zero] at head
        simp only [updateUntilFrom]
        split
        next c other equal =>
          rw [equal] at head
          cases head
        next c equal => exact rest

end UpdateUntil

end Slots

/-- A port of the device in a slot; whether an input or an output is meant follows from the use. -/
structure Jack where
  slot : Nat
  connector : Nat
  deriving DecidableEq, Repr

namespace Patch

/-- The jack that an address means, if its device is there. -/
def jack? (p : Patch D) (address : PortAddress) : Option Jack :=
  (p.devices.get? address.device).map fun _ => ⟨address.device.slot.toNat, address.connector⟩

/-- The value in a jack. -/
def valueAt? (p : Patch D) (direction : Direction) (jack : Jack) : Option Value :=
  (p.devices.at? jack.slot).bind fun placed => (placed.values direction)[jack.connector]?

/-- The outputs and inputs between which there is a cable. -/
def joins (p : Patch D) : List (Jack × Jack) :=
  p.cables.values.filterMap fun cable =>
    (p.jack? cable.source).bind fun source =>
      (p.jack? cable.destination).map fun destination => (source, destination)

theorem mem_joins_iff {p : Patch D} {source destination : Jack} :
    (source, destination) ∈ p.joins ↔ ∃ cable ∈ p.cables.values,
      p.jack? cable.source = some source ∧ p.jack? cable.destination = some destination := by
  unfold joins
  simp only [List.mem_filterMap, Option.bind_eq_some_iff, Option.map_eq_some_iff, Prod.mk.injEq,
    exists_eq_right_right]

theorem jack?_eq_some_iff {p : Patch D} {address : PortAddress} {jack : Jack} :
    p.jack? address = some jack ↔ (∃ placed, p.devices.get? address.device = some placed) ∧
      ⟨address.device.slot.toNat, address.connector⟩ = jack := by
  unfold jack?
  rw [Option.map_eq_some_iff, exists_and_right]

theorem valueAt?_of_jack? {p : Patch D} {address : PortAddress} {jack : Jack}
    (addressed : p.jack? address = some jack) (direction : Direction) :
    p.valueAt? direction jack = p.portValue? direction address := by
  obtain ⟨⟨placed, found⟩, rfl⟩ := jack?_eq_some_iff.mp addressed
  unfold valueAt? portValue?
  rw [Slots.at?_of_get? found, found]

/-- Changes in place move no jack. -/
theorem jack?_of_matches {R : Placed D → Placed D → Prop} {p q : Patch D}
    (same : p.devices.Matches R q.devices) (address : PortAddress) :
    q.jack? address = p.jack? address := by
  unfold jack?
  rcases rel_cases (same.get? address.device) with ⟨left, right⟩ | ⟨a, b, left, right, -⟩
  · rw [left, right]
  · rw [left, right, Option.map_some, Option.map_some]

theorem joins_of_matches {R : Placed D → Placed D → Prop} {p q : Patch D}
    (same : p.devices.Matches R q.devices) (cables : q.cables = p.cables) : q.joins = p.joins := by
  unfold joins
  simp only [jack?_of_matches same, cables]

/-! ### What arrives -/

section Propagate

variable {p : Patch D}

theorem Fed.valueAt?_propagate_of_arrival (fed : p.Fed) {source destination : Jack}
    (joined : (source, destination) ∈ p.joins) {value : Value}
    (held : p.valueAt? .output source = some value) (travels : value.kind ≠ .text) :
    p.propagate.valueAt? .input destination =
      (p.valueAt? .input destination).map fun _ => value := by
  obtain ⟨cable, member, begins, ends⟩ := mem_joins_iff.mp joined
  have hears := hears_foldl_carry p.cables.values p.devices
  rw [valueAt?_of_jack? begins] at held
  rw [valueAt?_of_jack? ends, valueAt?_of_jack? ((jack?_of_matches hears _).trans ends)]
  cases port : p.inputValue? cable.destination with
  | some old =>
    have isSome : (p.inputValue? cable.destination).isSome := by rw [port, Option.isSome_some]
    have arrived := inputValue?_propagate_of_arrival fed.nodup_destinations member held travels
      isSome
    unfold inputValue? at arrived port
    rw [arrived, port, Option.map_some]
  | none =>
    have missing := inputValue?_propagate_of_none port
    unfold inputValue? at port missing
    rw [port, Option.map_none, missing]

/-- Slots without a number hear nothing. -/
theorem at?_foldl_carry_of_unnumbered {slot : Nat} (unnumbered : UInt32.size ≤ slot)
    (cables : List Cable) (devices : Slots .device (Placed D)) :
    (cables.foldl carry devices).at? slot = devices.at? slot := by
  induction cables generalizing devices with
  | nil => rfl
  | cons cable cables ih =>
    rw [List.foldl_cons, ih]
    unfold carry
    split
    · rfl
    · have numbered := UInt32.toNat_lt_size cable.destination.device.slot
      exact Slots.at?_update_of_ne (by omega) _

theorem valueAt?_propagate_of_silence {destination : Jack}
    (silence : ∀ source, (source, destination) ∈ p.joins → ∀ value,
      p.valueAt? .output source = some value → value.kind = .text) :
    p.propagate.valueAt? .input destination = p.valueAt? .input destination := by
  have hears := hears_foldl_carry p.cables.values p.devices
  by_cases numbered : destination.slot < UInt32.size
  · cases held : p.devices.at? destination.slot with
    | none =>
      unfold valueAt? propagate
      rcases rel_cases (hears.at? destination.slot) with ⟨left, right⟩ | ⟨a, b, left, -, -⟩
      · rw [left, right]
      · rw [held] at left
        cases left
    | some placed =>
      obtain ⟨key, number, found⟩ := Slots.exists_key_of_at? held numbered
      have addressed : p.jack? ⟨key, destination.connector⟩ = some destination := by
        rw [jack?_eq_some_iff, number]
        exact ⟨⟨placed, found⟩, rfl⟩
      rw [valueAt?_of_jack? addressed,
        valueAt?_of_jack? ((jack?_of_matches hears _).trans addressed)]
      apply inputValue?_propagate_of_silence
      intro cable member ends value out
      have begins : ∃ placed', p.devices.get? cable.source.device = some placed' := by
        obtain ⟨placed', live, -⟩ := Option.bind_eq_some_iff.mp out
        exact ⟨placed', live⟩
      have source := jack?_eq_some_iff.mpr ⟨begins, rfl⟩
      have joined := mem_joins_iff.mpr ⟨cable, member, source, by rw [ends, addressed]⟩
      exact silence _ joined value (by rw [valueAt?_of_jack? source]; exact out)
  · have unheard := at?_foldl_carry_of_unnumbered (Nat.le_of_not_lt numbered) p.cables.values
      p.devices
    unfold valueAt? propagate
    rw [unheard]

end Propagate

/-! ### Who steps -/

section StepAll

variable [Device D] {p : Patch D}

/-- If no device fails, the occupant of each slot steps once. -/
theorem slots_stepAll_of_quiet
    (quiet : ∀ slot placed, p.devices.at? slot = some placed → (placed.step p.rate).2 = none) :
    p.stepAll.1 = .ok () ∧ ∀ index : Nat, p.stepAll.2.devices.slots[index]? =
      p.devices.slots[index]?.map fun slot =>
        { slot with occupant := slot.occupant.map fun placed => (placed.step p.rate).1 } := by
  have every := Slots.getElem?_updateUntilFrom_of_no_failure p.stepping p.devices.slots 0
    fun index generation placed found => by
      have held := Slots.at?_eq_some_iff.mpr ⟨generation, found⟩
      simp only [stepping, quiet index placed held, Option.map_none]
  rw [fst_stepAll, snd_stepAll]
  constructor
  · unfold Slots.updateUntil
    dsimp only
    rw [every.1]
    rfl
  · exact every.2

theorem stepAll_of_quiet
    (quiet : ∀ slot placed, p.devices.at? slot = some placed → (placed.step p.rate).2 = none) :
    p.stepAll.1 = .ok () ∧ ∀ slot, p.stepAll.2.devices.at? slot =
      (p.devices.at? slot).map fun placed => (placed.step p.rate).1 := by
  obtain ⟨finished, every⟩ := slots_stepAll_of_quiet quiet
  refine ⟨finished, ?_⟩
  intro slot
  unfold Slots.at?
  rw [every slot]
  cases p.devices.slots[slot]? with
  | none => rfl
  | some present => rfl

/-- The device in the lowest slot that fails is the one that is named. -/
theorem stepAll_of_first {slot : Nat} {generation : UInt32} {placed : Placed D}
    {failure : DeviceError} (found : p.devices.slots[slot]? = some ⟨generation, some placed⟩)
    (failed : (placed.step p.rate).2 = some failure)
    (quiet : ∀ lower < slot, ∀ other, p.devices.at? lower = some other →
      (other.step p.rate).2 = none) :
    p.stepAll.1 = .error (.deviceFailed (Slots.keyAt slot generation) failure) := by
  have reported : (p.stepping (Slots.keyAt (0 + slot) generation) placed).2 =
      some (.deviceFailed (Slots.keyAt slot generation) failure) := by
    simp only [stepping, failed, Option.map_some, Nat.zero_add]
  have first := Slots.updateUntilFrom_of_first_failure p.stepping p.devices.slots 0 found reported
    fun lower below generation other found => by
      have held := Slots.at?_eq_some_iff.mpr ⟨generation, found⟩
      simp only [stepping, quiet lower below other held, Option.map_none]
  rw [fst_stepAll]
  unfold Slots.updateUntil
  dsimp only
  rw [first]
  rfl

theorem stepAll_eq_ok_iff : p.stepAll.1 = .ok () ↔
    ∀ slot placed, p.devices.at? slot = some placed → (placed.step p.rate).2 = none := by
  classical
  constructor
  · intro finished
    by_contra loud
    simp only [not_forall] at loud
    have least := Nat.find_spec loud
    obtain ⟨placed, held, failed⟩ := least
    obtain ⟨failure, failed⟩ := Option.ne_none_iff_exists'.mp failed
    obtain ⟨generation, found⟩ := Slots.at?_eq_some_iff.mp held
    have quiet : ∀ lower < Nat.find loud, ∀ other, p.devices.at? lower = some other →
        (other.step p.rate).2 = none := by
      intro lower below other held
      by_contra failed
      exact Nat.find_min loud below ⟨other, held, failed⟩
    rw [stepAll_of_first found failed quiet] at finished
    cases finished
  · intro quiet
    exact (stepAll_of_quiet quiet).1

/-- If stepping succeeds, the device under each key has stepped once. -/
theorem get?_stepAll_of_ok (finished : p.stepAll.1 = .ok ()) (id : DeviceId) :
    p.stepAll.2.devices.get? id =
      (p.devices.get? id).map fun placed => (placed.step p.rate).1 := by
  unfold Slots.get?
  rw [(slots_stepAll_of_quiet (stepAll_eq_ok_iff.mp finished)).2]
  cases p.devices.slots[id.slot.toNat]? with
  | none => rfl
  | some present =>
    simp only [Option.map_some, Option.bind_some, Slot.holding?]
    split
    · rfl
    · rfl

end StepAll

/-! ### Operations -/

/-- What a slot holds after an operation was added by it, or came of what the slot held before. -/
theorem Effect.of_at? [Device D] {p after : Patch D} {operation : Operation D} {answer : Answer}
    (effect : p.Effect operation answer after) {slot : Nat} {placed : Placed D}
    (held : after.devices.at? slot = some placed) :
    (∃ device, operation = .addDevice device ∧ placed = .fresh device) ∨
      ∃ earlier, p.devices.at? slot = some earlier ∧ earlier.Ages placed := by
  cases effect with
  | aged _ _ _ keeps quiet same => exact Or.inr (exists_left_of_rel (same.devices.at? slot) held)
  | added device =>
    rcases Slots.at?_insert held with rfl | before
    · exact Or.inl ⟨device, rfl, rfl⟩
    · exact Or.inr ⟨placed, before, .refl⟩
  | deleted id placed' found =>
    have before := Slots.at?_remove held
    rw [devices_foldl_removeCable] at before
    exact Or.inr ⟨placed, before, .refl⟩
  | unplugged id cable found =>
    rw [devices_removeCable] at held
    exact Or.inr ⟨placed, held, .refl⟩
  | _ => exact Or.inr ⟨placed, held, .refl⟩

/-! ### Passes in a row -/

section Passes

variable [Device D] {p : Patch D}

theorem Fed.pass (fed : p.Fed) : p.pass.2.Fed :=
  fed.of_eq (aged_pass p).cables_eq (aged_pass p).feeds_eq

theorem passes_of_error {failure : PatchError} (failed : p.pass.1 = .error failure)
    (count : Nat) : p.passes (count + 1) = (.error (failure, 0), p.pass.2) := by
  unfold passes
  generalize p.pass = result at failed ⊢
  obtain ⟨outcome, after⟩ := result
  cases failed
  rfl

theorem passes_of_ok (passed : p.pass.1 = .ok ()) (count : Nat) :
    p.passes (count + 1) = ((p.pass.2.passes count).1.mapError fun (failure, done) =>
      (failure, done + 1), (p.pass.2.passes count).2) := by
  conv_lhs => unfold passes
  generalize p.pass = result at passed ⊢
  obtain ⟨outcome, after⟩ := result
  cases passed
  dsimp only
  generalize after.passes count = later
  rcases later with ⟨⟨failure, done⟩ | finished, last⟩
  · rfl
  · rfl

theorem frames_of_error {failure : PatchError} (failed : p.pass.1 = .error failure)
    (count : Nat) : p.frames (count + 1) = ([], .error failure, p.pass.2) := by
  unfold frames
  generalize p.pass = result at failed ⊢
  obtain ⟨outcome, after⟩ := result
  cases failed
  rfl

theorem frames_of_ok (passed : p.pass.1 = .ok ()) (count : Nat) :
    p.frames (count + 1) =
      (p.pass.2.currentFrame :: (p.pass.2.frames count).1, (p.pass.2.frames count).2) := by
  conv_lhs => unfold frames
  generalize p.pass = result at passed ⊢
  obtain ⟨outcome, after⟩ := result
  cases passed
  rfl

end Passes

end Patch

end ModularSynth
