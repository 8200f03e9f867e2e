import ModularSynth.Patch.Slots

/-!
# Keys of slots

Which key finds which value. A key finds a value exactly when the slot of its number has its
generation and is occupied (`Slots.get?_eq_some_iff`); the listings `entries` and `values` go
through the occupied slots. Slot numbers are 32 bits wide, so the listed keys find their values
only as long as the numbers have not wrapped (`Slots.Fits`).
-/

namespace ModularSynth

variable {resident : Resident} {α : Type}

theorem Key.eq_of_toNat {key other : Key resident} (slot : key.slot.toNat = other.slot.toNat)
    (generation : key.generation = other.generation) : key = other := by
  cases key
  cases other
  simp only at slot generation
  rw [UInt32.toNat_inj] at slot
  rw [slot, generation]

namespace Slots

theorem get?_eq_some_iff {s : Slots resident α} {key : Key resident} {a : α} :
    s.get? key = some a ↔ s.slots[key.slot.toNat]? = some ⟨key.generation, some a⟩ := by
  unfold get?
  cases hslot : s.slots[key.slot.toNat]? with
  | none => simp
  | some slot =>
    obtain ⟨generation, occupant⟩ := slot
    by_cases same : generation = key.generation
    · simp [Slot.holding?, same]
    · simp [Slot.holding?, same]

theorem mem_entriesFrom_iff (slots : List (Slot α)) (first : Nat) (key : Key resident) (a : α) :
    (key, a) ∈ entriesFrom first slots ↔
      ∃ index generation, slots[index]? = some ⟨generation, some a⟩ ∧
        key = keyAt (first + index) generation := by
  induction slots generalizing first with
  | nil => simp [entriesFrom]
  | cons slot slots ih =>
    obtain ⟨generation, occupant⟩ := slot
    have tail : (∃ index generation, slots[index]? = some ⟨generation, some a⟩ ∧
          key = keyAt (first + 1 + index) generation) ↔
        ∃ index generation', (⟨generation, occupant⟩ :: slots)[index + 1]? =
          some ⟨generation', some a⟩ ∧ key = keyAt (first + (index + 1)) generation' := by
      simp only [List.getElem?_cons_succ, Nat.add_assoc, Nat.add_comm 1]
    cases occupant with
    | none =>
      simp only [entriesFrom]
      rw [ih, tail]
      constructor
      · intro later
        obtain ⟨index, found⟩ := later
        exact ⟨index + 1, found⟩
      · intro held
        obtain ⟨index, generation', found, same⟩ := held
        cases index with
        | zero => simp at found
        | succ index => exact ⟨index, generation', found, same⟩
    | some b =>
      simp only [entriesFrom, List.mem_cons, Prod.mk.injEq]
      rw [ih, tail]
      constructor
      · intro listed
        rcases listed with ⟨rfl, rfl⟩ | ⟨index, found⟩
        · exact ⟨0, generation, rfl, rfl⟩
        · exact ⟨index + 1, found⟩
      · intro held
        obtain ⟨index, generation', found, same⟩ := held
        cases index with
        | zero =>
          simp only [List.getElem?_cons_zero, Option.some.injEq, Slot.mk.injEq] at found
          exact Or.inl ⟨by rw [same, found.1, Nat.add_zero], found.2.symm⟩
        | succ index => exact Or.inr ⟨index, generation', found, same⟩

theorem length_entriesFrom (slots : List (Slot α)) (first : Nat) :
    (entriesFrom first slots : List (Key resident × α)).length =
      slots.countP (·.occupant.isSome) := by
  induction slots generalizing first with
  | nil => rfl
  | cons slot slots ih =>
    obtain ⟨generation, occupant⟩ := slot
    cases occupant with
    | none => simp [entriesFrom, ih]
    | some a => simp [entriesFrom, ih]

theorem length_entries (s : Slots resident α) :
    s.entries.length = s.slots.countP (·.occupant.isSome) :=
  length_entriesFrom s.slots 0

@[simp]
theorem length_keys (s : Slots resident α) : s.keys.length = s.entries.length := by
  simp [keys]

theorem values_entriesFrom (slots : List (Slot α)) (first : Nat) :
    (entriesFrom first slots : List (Key resident × α)).map (·.2) =
      slots.filterMap (·.occupant) := by
  induction slots generalizing first with
  | nil => rfl
  | cons slot slots ih =>
    obtain ⟨generation, occupant⟩ := slot
    cases occupant with
    | none => simp [entriesFrom, ih]
    | some a => simp [entriesFrom, ih]

theorem values_eq (s : Slots resident α) : s.values = s.slots.filterMap (·.occupant) :=
  values_entriesFrom s.slots 0

/-- Slot numbers have not wrapped. -/
def Fits (s : Slots resident α) : Prop :=
  s.slots.length ≤ UInt32.size

theorem fits_empty : (empty : Slots resident α).Fits := Nat.zero_le _

theorem toNat_slot_keyAt {index : Nat} (fits : index < UInt32.size) (generation : UInt32) :
    (keyAt index generation : Key resident).slot.toNat = index := by
  unfold keyAt
  rw [UInt32.toNat_ofNat', Nat.mod_eq_of_lt fits]

@[simp]
theorem generation_keyAt (index : Nat) (generation : UInt32) :
    (keyAt index generation : Key resident).generation = generation := rfl

theorem below_of_fits_append {slots : List (Slot α)} {slot : Slot α} {free : List UInt32}
    {size : Nat} (fits : (⟨slots ++ [slot], free, size⟩ : Slots resident α).Fits) :
    slots.length < UInt32.size := by
  unfold Fits at fits
  simp only [List.length_append, List.length_singleton] at fits
  omega

/-- With slot numbers that have not wrapped, the keys that are listed are those that find
something. -/
theorem mem_entries_iff_get? {s : Slots resident α} (fits : s.Fits) {key : Key resident} {a : α} :
    (key, a) ∈ s.entries ↔ s.get? key = some a := by
  unfold entries
  rw [mem_entriesFrom_iff, get?_eq_some_iff]
  simp only [Nat.zero_add]
  constructor
  · intro listed
    obtain ⟨index, generation, found, rfl⟩ := listed
    have below : index < s.slots.length := (List.getElem?_eq_some_iff.mp found).1
    rw [toNat_slot_keyAt (Nat.lt_of_lt_of_le below fits)]
    exact found
  · intro found
    refine ⟨key.slot.toNat, key.generation, found, ?_⟩
    simp [keyAt]

theorem mem_keys_iff {s : Slots resident α} (fits : s.Fits) {key : Key resident} :
    key ∈ s.keys ↔ ∃ a, s.get? key = some a := by
  simp only [keys, List.mem_map, Prod.exists, exists_and_right, exists_eq_right,
    mem_entries_iff_get? fits]

theorem mem_values_iff_get? {s : Slots resident α} (fits : s.Fits) {a : α} :
    a ∈ s.values ↔ ∃ key, s.get? key = some a := by
  simp only [values, List.mem_map, Prod.exists, exists_eq_right, mem_entries_iff_get? fits]

/-- With slot numbers that have not wrapped, the entries are listed in ascending order of slots. -/
theorem pairwise_slot_entriesFrom (slots : List (Slot α)) (first : Nat)
    (fits : first + slots.length ≤ UInt32.size) :
    (entriesFrom first slots : List (Key resident × α)).Pairwise fun entry later =>
      entry.1.slot < later.1.slot := by
  induction slots generalizing first with
  | nil => exact .nil
  | cons slot slots ih =>
    obtain ⟨generation, occupant⟩ := slot
    rw [List.length_cons] at fits
    have rest := ih (first + 1) (by omega)
    cases occupant with
    | none => exact rest
    | some a =>
      refine .cons ?_ rest
      intro later member
      obtain ⟨index, generation', found, same⟩ := (mem_entriesFrom_iff _ _ later.1 later.2).mp member
      have below : index < slots.length := (List.getElem?_eq_some_iff.mp found).1
      rw [same, UInt32.lt_iff_toNat_lt, toNat_slot_keyAt (by omega), toNat_slot_keyAt (by omega)]
      omega

theorem pairwise_slot_entries {s : Slots resident α} (fits : s.Fits) :
    s.entries.Pairwise fun entry later => entry.1.slot < later.1.slot := by
  apply pairwise_slot_entriesFrom
  unfold Fits at fits
  omega

/-- With slot numbers that have not wrapped, no key is listed twice. -/
theorem nodup_keys {s : Slots resident α} (fits : s.Fits) : s.keys.Nodup := by
  unfold keys
  rw [List.Nodup, List.pairwise_map]
  apply (pairwise_slot_entries fits).imp
  intro entry later ascends same
  rw [same] at ascends
  exact UInt32.lt_irrefl _ ascends

/-- As long as no slot was vacated, the keys are numbered from zero and have one generation. -/
theorem keys_of_filled {s : Slots resident α} {generation : UInt32}
    (filled : ∀ slot ∈ s.slots, ∃ a, slot = ⟨generation, some a⟩) :
    s.keys = (List.range s.slots.length).map (keyAt · generation) := by
  have from_first : ∀ (slots : List (Slot α)) (first : Nat),
      (∀ slot ∈ slots, ∃ a, slot = ⟨generation, some a⟩) →
        (entriesFrom first slots : List (Key resident × α)).map (·.1) =
          (List.range' first slots.length).map (keyAt · generation) := by
    intro slots
    induction slots with
    | nil => exact fun _ _ => rfl
    | cons slot slots ih =>
      intro first filled
      rw [List.forall_mem_cons] at filled
      obtain ⟨⟨a, rfl⟩, rest⟩ := filled
      rw [List.length_cons, List.range'_succ, List.map_cons, ← ih (first + 1) rest]
      rfl
  rw [List.range_eq_range']
  exact from_first s.slots 0 filled

end Slots

end ModularSynth
