import Mathlib.Data.List.Dedup
import ModularSynth.Proofs.Slots.Keys

/-!
# The queue of vacant slots

`Slots.Consistent` ties the queue of vacant slots and the count to the slots themselves. Insertions
and removals preserve it, and under it an insertion gives out a key that found nothing before and
leaves what all other keys find. Nothing is assumed about generations: a key that named an earlier
occupant may be given out again once its generation has come round.
-/

namespace ModularSynth

variable {resident : Resident} {α : Type}

/-- Changing one element changes the number of those that pass a test only by that element. -/
theorem countP_modify {β : Type} (test : β → Bool) (f : β → β) (l : List β) (index : Nat) (b : β)
    (found : l[index]? = some b) :
    (l.modify index f).countP test + (if test b then 1 else 0) =
      l.countP test + (if test (f b) then 1 else 0) := by
  induction l generalizing index with
  | nil => simp at found
  | cons head tail ih =>
    cases index with
    | zero =>
      simp only [List.getElem?_cons_zero, Option.some.injEq] at found
      subst found
      simp only [List.modify_zero_cons, List.countP_cons]
      omega
    | succ index =>
      have rest := ih index (by simpa using found)
      simp only [List.modify_succ_cons, List.countP_cons]
      omega

/-- What is appended to a log counts there and no earlier, as `dedup` keeps the last occurrence. -/
theorem dedup_concat {β : Type} [DecidableEq β] (log : List β) (id : β) :
    (log ++ [id]).dedup = log.dedup.filter (· ≠ id) ++ [id] := by
  induction log with
  | nil => simp
  | cons head tail ih =>
    rw [List.cons_append]
    by_cases later : head ∈ tail
    · rw [List.dedup_cons_of_mem later, List.dedup_cons_of_mem (List.mem_append_left _ later), ih]
    · rw [List.dedup_cons_of_notMem later]
      by_cases same : head = id
      · have again : head ∈ tail ++ [id] := by simp [same]
        rw [List.dedup_cons_of_mem again, ih]
        simp [same]
      · have once : head ∉ tail ++ [id] := by simp [later, same]
        rw [List.dedup_cons_of_notMem once, ih]
        simp [same]

namespace Slots

/-- Exactly the vacant slots wait in the queue, each once, and `size` counts the others. -/
structure Consistent (s : Slots resident α) : Prop where
  free_nodup : s.free.Nodup
  vacant_iff : ∀ index, (∃ generation, s.slots[index]? = some ⟨generation, none⟩) ↔
    ∃ waiting ∈ s.free, waiting.toNat = index
  size_eq : s.size = s.entries.length

theorem consistent_empty : (empty : Slots resident α).Consistent where
  free_nodup := List.nodup_nil
  vacant_iff := by
    intro index
    constructor
    · intro vacant
      obtain ⟨generation, found⟩ := vacant
      simp [empty] at found
    · intro queued
      obtain ⟨waiting, member, -⟩ := queued
      cases member
  size_eq := rfl

theorem Consistent.length_entries_of_free_nil {s : Slots resident α} (consistent : s.Consistent)
    (none_free : s.free = []) : s.entries.length = s.slots.length := by
  rw [length_entries, List.countP_eq_length]
  intro slot member
  obtain ⟨index, found⟩ := List.mem_iff_getElem?.mp member
  obtain ⟨generation, occupant⟩ := slot
  cases occupant with
  | some a => rfl
  | none =>
    obtain ⟨waiting, belongs, -⟩ := (consistent.vacant_iff index).mp ⟨generation, found⟩
    rw [none_free] at belongs
    cases belongs

/-! ### Insertion -/

theorem insert_of_free_nil {s : Slots resident α} (none_free : s.free = []) (a : α) :
    s.insert a = (keyAt s.slots.length firstGeneration,
      { slots := s.slots ++ [⟨firstGeneration, some a⟩], free := [], size := s.size + 1 }) := by
  simp only [insert, none_free, keyAt]

/-- An insertion fills the slot that has waited longest, or a new slot when none waits. -/
theorem Consistent.insert_cases {s : Slots resident α} (consistent : s.Consistent) (a : α) :
    (∃ index free generation, s.free = index :: free ∧
      s.slots[index.toNat]? = some ⟨generation, none⟩ ∧
      s.insert a = (⟨index, nextGeneration generation⟩,
        { slots := s.slots.modify index.toNat (Slot.fill a), free, size := s.size + 1 })) ∨
    (s.free = [] ∧
      s.insert a = (keyAt s.slots.length firstGeneration,
        { slots := s.slots ++ [⟨firstGeneration, some a⟩], free := [], size := s.size + 1 })) := by
  cases hfree : s.free with
  | nil =>
    exact Or.inr ⟨rfl, insert_of_free_nil hfree a⟩
  | cons index free =>
    left
    obtain ⟨generation, found⟩ :=
      (consistent.vacant_iff index.toNat).mpr ⟨index, by simp [hfree], rfl⟩
    refine ⟨index, free, generation, rfl, found, ?_⟩
    simp only [insert, hfree, found, Option.map_some, Option.getD_some]

/-- An insertion occupies at most one slot that was not occupied by the same value before. -/
theorem occupied_of_insert (s : Slots resident α) (a : α) :
    ∃ position, ∀ (index : Nat) generation b,
      (s.insert a).2.slots[index]? = some ⟨generation, some b⟩ →
        index = position ∧ b = a ∨ s.slots[index]? = some ⟨generation, some b⟩ := by
  unfold insert
  split
  next waiting free queue =>
    refine ⟨waiting.toNat, ?_⟩
    intro index generation b found
    simp only [List.getElem?_modify] at found
    by_cases same : waiting.toNat = index
    · left
      cases before : s.slots[index]? with
      | none => simp [before] at found
      | some slot =>
        simp only [before, same, if_true, Option.map_eq_map, Option.map_some, Option.some.injEq,
          Slot.fill, Slot.mk.injEq] at found
        exact ⟨same.symm, found.2.symm⟩
    · right
      simpa [same] using found
  next queue =>
    refine ⟨s.slots.length, ?_⟩
    intro index generation b found
    by_cases inside : index < s.slots.length
    · right
      rwa [List.getElem?_append_left inside] at found
    · left
      rw [List.getElem?_append_right (by omega), List.getElem?_singleton] at found
      split at found
      next last =>
        simp only [Option.some.injEq, Slot.mk.injEq] at found
        exact ⟨by omega, found.2.symm⟩
      next => cases found

/-- The slots after an insertion: the key's slot holds the value, the others are as before. -/
theorem Consistent.getElem?_insert {s : Slots resident α} (consistent : s.Consistent) (a : α)
    (fits : (s.insert a).2.Fits) (index : Nat) :
    (s.insert a).2.slots[index]? =
      if (s.insert a).1.slot.toNat = index then some ⟨(s.insert a).1.generation, some a⟩
      else s.slots[index]? := by
  rcases consistent.insert_cases a with ⟨waiting, free, generation, -, found, inserted⟩ |
    ⟨-, inserted⟩
  · rw [inserted]
    simp only [List.getElem?_modify]
    by_cases same : waiting.toNat = index
    · subst same
      simp [found, Slot.fill]
    · simp [same]
  · rw [inserted] at fits ⊢
    have below := below_of_fits_append fits
    dsimp only
    rw [toNat_slot_keyAt below, generation_keyAt]
    by_cases same : s.slots.length = index
    · subst same
      rw [if_pos rfl, List.getElem?_concat_length]
    · rw [if_neg same]
      by_cases inside : index < s.slots.length
      · rw [List.getElem?_append_left inside]
      · rw [List.getElem?_eq_none (by simp; omega), List.getElem?_eq_none (by omega)]

/-- The slot that an insertion fills held nothing before. -/
theorem Consistent.getElem?_insert_slot {s : Slots resident α} (consistent : s.Consistent) (a : α)
    (fits : (s.insert a).2.Fits) (generation : UInt32) (b : α) :
    s.slots[(s.insert a).1.slot.toNat]? ≠ some ⟨generation, some b⟩ := by
  rcases consistent.insert_cases a with ⟨waiting, free, before, -, found, inserted⟩ |
    ⟨-, inserted⟩
  · rw [inserted]
    simp [found]
  · rw [inserted] at fits ⊢
    dsimp only
    rw [toNat_slot_keyAt (below_of_fits_append fits), List.getElem?_eq_none (Nat.le_refl _)]
    simp

theorem Consistent.get?_insert {s : Slots resident α} (consistent : s.Consistent) (a : α)
    (fits : (s.insert a).2.Fits) (key : Key resident) :
    (s.insert a).2.get? key = if key = (s.insert a).1 then some a else s.get? key := by
  ext b
  rw [get?_eq_some_iff, consistent.getElem?_insert a fits]
  by_cases slot : (s.insert a).1.slot.toNat = key.slot.toNat
  · rw [if_pos slot]
    have vacant : s.get? key = none := by
      rw [Option.eq_none_iff_forall_ne_some]
      intro c found
      rw [get?_eq_some_iff, ← slot] at found
      exact consistent.getElem?_insert_slot a fits _ _ found
    by_cases generation : (s.insert a).1.generation = key.generation
    · have same : key = (s.insert a).1 := (Key.eq_of_toNat slot generation).symm
      simp [same]
    · have different : key ≠ (s.insert a).1 := by
        intro same
        rw [same] at generation
        exact generation rfl
      simp [generation, different, vacant]
  · have different : key ≠ (s.insert a).1 := by
      intro same
      rw [same] at slot
      exact slot rfl
    rw [if_neg slot, if_neg different, get?_eq_some_iff]

theorem Consistent.get?_insert_key {s : Slots resident α} (consistent : s.Consistent) (a : α)
    (fits : (s.insert a).2.Fits) : s.get? (s.insert a).1 = none := by
  rw [Option.eq_none_iff_forall_ne_some]
  intro b found
  rw [get?_eq_some_iff] at found
  exact consistent.getElem?_insert_slot a fits _ _ found

/-- An insertion hides nothing, whether or not slot numbers have wrapped. -/
theorem Consistent.get?_insert_of_some {s : Slots resident α} (consistent : s.Consistent) (a : α)
    {key : Key resident} {b : α} (found : s.get? key = some b) :
    (s.insert a).2.get? key = some b := by
  rw [get?_eq_some_iff] at found ⊢
  rcases consistent.insert_cases a with ⟨waiting, free, generation, -, vacant, inserted⟩ |
    ⟨-, inserted⟩
  · have apart : waiting.toNat ≠ key.slot.toNat := by
      intro same
      rw [same, found] at vacant
      simp at vacant
    rw [inserted]
    simp only [List.getElem?_modify, if_neg apart, Option.map_eq_map, Option.map_id']
    exact found
  · rw [inserted, List.getElem?_append_left (List.getElem?_eq_some_iff.mp found).1]
    exact found

theorem Consistent.length_entries_insert {s : Slots resident α} (consistent : s.Consistent)
    (a : α) : (s.insert a).2.entries.length = s.entries.length + 1 := by
  rw [length_entries, length_entries]
  rcases consistent.insert_cases a with ⟨waiting, free, generation, -, found, inserted⟩ |
    ⟨-, inserted⟩
  · rw [inserted]
    have changed := countP_modify (·.occupant.isSome) (Slot.fill a) s.slots _ _ found
    simpa [Slot.fill] using changed
  · rw [inserted]
    simp

/-- Slot numbers do not wrap as long as no more values are stored than there are numbers. -/
theorem Consistent.fits_insert {s : Slots resident α} (consistent : s.Consistent) (fits : s.Fits)
    (a : α) (capacity : (s.insert a).2.entries.length ≤ UInt32.size) : (s.insert a).2.Fits := by
  have length := consistent.length_entries_insert a
  rcases consistent.insert_cases a with ⟨waiting, free, generation, -, -, inserted⟩ |
    ⟨none_free, inserted⟩
  · rw [inserted]
    unfold Fits at fits ⊢
    rw [List.length_modify]
    exact fits
  · have full := consistent.length_entries_of_free_nil none_free
    rw [inserted]
    unfold Fits
    simp only [List.length_append, List.length_singleton]
    omega

theorem Fits.of_insert {s : Slots resident α} {a : α} (fits : (s.insert a).2.Fits) : s.Fits := by
  unfold Fits insert at *
  split at fits
  · rw [List.length_modify] at fits
    exact fits
  · rw [List.length_append] at fits
    exact Nat.le_of_add_right_le fits

/-- An insertion keeps the queue in step with the slots, whether or not slot numbers have wrapped. -/
theorem Consistent.insert {s : Slots resident α} (consistent : s.Consistent) (a : α) :
    (s.insert a).2.Consistent where
  free_nodup := by
    rcases consistent.insert_cases a with ⟨waiting, free, generation, queue, -, inserted⟩ |
      ⟨-, inserted⟩
    · have nodup := consistent.free_nodup
      rw [queue] at nodup
      rw [inserted]
      exact (List.nodup_cons.mp nodup).2
    · rw [inserted]
      exact List.nodup_nil
  vacant_iff := by
    intro index
    have before := consistent.vacant_iff index
    rcases consistent.insert_cases a with ⟨waiting, free, generation, queue, found, inserted⟩ |
      ⟨queue, inserted⟩
    · have nodup := consistent.free_nodup
      rw [queue] at nodup before
      have absent := (List.nodup_cons.mp nodup).1
      rw [inserted]
      dsimp only
      rw [List.getElem?_modify]
      by_cases same : waiting.toNat = index
      · subst same
        constructor
        · intro vacant
          obtain ⟨_, impossible⟩ := vacant
          simp [found, Slot.fill] at impossible
        · intro queued
          obtain ⟨other, member, number⟩ := queued
          have equal : other = waiting := UInt32.toNat_inj.mp number
          exact absurd (equal ▸ member) absent
      · simp only [if_neg same, Option.map_eq_map, Option.map_id']
        rw [before]
        constructor
        · intro queued
          obtain ⟨other, member, number⟩ := queued
          rcases List.mem_cons.mp member with rfl | member
          · exact absurd number same
          · exact ⟨other, member, number⟩
        · intro queued
          obtain ⟨other, member, number⟩ := queued
          exact ⟨other, List.mem_cons_of_mem _ member, number⟩
    · rw [queue] at before
      rw [inserted]
      dsimp only
      rw [← before]
      by_cases inside : index < s.slots.length
      · rw [List.getElem?_append_left inside]
      · rw [List.getElem?_append_right (by omega), List.getElem?_singleton,
          List.getElem?_eq_none (by omega)]
        split
        · simp
        · rfl
  size_eq := by
    rw [consistent.length_entries_insert a, ← consistent.size_eq]
    rcases consistent.insert_cases a with ⟨_, _, _, -, -, inserted⟩ | ⟨-, inserted⟩
    · rw [inserted]
    · rw [inserted]

theorem entriesFrom_concat (slots : List (Slot α)) (first : Nat) (generation : UInt32) (a : α) :
    (entriesFrom first (slots ++ [⟨generation, some a⟩]) : List (Key resident × α)) =
      entriesFrom first slots ++ [(keyAt (first + slots.length) generation, a)] := by
  induction slots generalizing first with
  | nil => rfl
  | cons slot slots ih =>
    obtain ⟨generation', occupant⟩ := slot
    have rest := ih (first + 1)
    rw [Nat.add_assoc, Nat.add_comm 1] at rest
    cases occupant with
    | none => exact rest
    | some b => exact congrArg (_ :: ·) rest

/-- Filling a vacant slot lists one entry more. -/
theorem perm_entriesFrom_fill (slots : List (Slot α)) (first : Nat) {index : Nat}
    {generation : UInt32} (vacant : slots[index]? = some ⟨generation, none⟩) (a : α) :
    List.Perm (entriesFrom first (slots.modify index (Slot.fill a)) : List (Key resident × α))
      ((keyAt (first + index) (nextGeneration generation), a) :: entriesFrom first slots) := by
  induction slots generalizing first index with
  | nil => simp at vacant
  | cons slot slots ih =>
    obtain ⟨generation', occupant⟩ := slot
    cases index with
    | zero =>
      simp only [List.getElem?_cons_zero, Option.some.injEq, Slot.mk.injEq] at vacant
      obtain ⟨rfl, rfl⟩ := vacant
      exact List.Perm.refl _
    | succ index =>
      have rest := ih (first + 1) (by simpa using vacant)
      rw [Nat.add_assoc, Nat.add_comm 1] at rest
      rw [List.modify_succ_cons]
      cases occupant with
      | none => exact rest
      | some b => exact (rest.cons _).trans (.swap _ _ _)

/-- An insertion lists the new value under its key and the others as before, whether or not slot
numbers have wrapped. -/
theorem Consistent.perm_entries_insert {s : Slots resident α} (consistent : s.Consistent) (a : α) :
    (s.insert a).2.entries.Perm (((s.insert a).1, a) :: s.entries) := by
  unfold entries
  rcases consistent.insert_cases a with ⟨waiting, free, generation, -, vacant, inserted⟩ |
    ⟨-, inserted⟩
  · rw [inserted]
    have number : (keyAt (0 + waiting.toNat) (nextGeneration generation) : Key resident) =
        ⟨waiting, nextGeneration generation⟩ := by
      unfold keyAt
      rw [Nat.zero_add, UInt32.ofNat_toNat]
    rw [← number]
    exact perm_entriesFrom_fill s.slots 0 vacant a
  · rw [inserted, entriesFrom_concat, Nat.zero_add]
    exact List.perm_append_singleton _ _

/-! ### Removal -/

theorem remove_of_none {s : Slots resident α} {key : Key resident} (missing : s.get? key = none) :
    s.remove key = (none, s) := by
  simp only [remove, missing]

theorem remove_of_some {s : Slots resident α} {key : Key resident} {a : α}
    (found : s.get? key = some a) :
    s.remove key = (some a,
      { slots := s.slots.modify key.slot.toNat Slot.vacate
        free := s.free ++ [key.slot]
        size := s.size - 1 }) := by
  simp only [remove, found]

theorem length_slots_remove (s : Slots resident α) (key : Key resident) :
    (s.remove key).2.slots.length = s.slots.length := by
  cases found : s.get? key with
  | none => rw [remove_of_none found]
  | some a => rw [remove_of_some found, List.length_modify]

theorem Fits.remove {s : Slots resident α} (fits : s.Fits) (key : Key resident) :
    (s.remove key).2.Fits := by
  unfold Fits
  rw [length_slots_remove]
  exact fits

theorem Fits.of_remove {s : Slots resident α} {key : Key resident}
    (fits : (s.remove key).2.Fits) : s.Fits := by
  unfold Fits at fits ⊢
  rw [length_slots_remove] at fits
  exact fits

/-- A removal vacates the slot of a key that names a value and no other. -/
theorem getElem?_remove (s : Slots resident α) (key : Key resident) (index : Nat) :
    (s.remove key).2.slots[index]? =
      if key.slot.toNat = index ∧ (s.get? key).isSome then some ⟨key.generation, none⟩
      else s.slots[index]? := by
  cases found : s.get? key with
  | none => simp [remove_of_none found]
  | some a =>
    rw [remove_of_some found, List.getElem?_modify]
    rw [get?_eq_some_iff] at found
    by_cases same : key.slot.toNat = index
    · subst same
      simp [found, Slot.vacate]
    · simp [same]

theorem get?_remove (s : Slots resident α) (key other : Key resident) :
    (s.remove key).2.get? other = if other = key then none else s.get? other := by
  cases found : s.get? key with
  | none =>
    rw [remove_of_none found]
    by_cases same : other = key
    · rw [if_pos same, same, found]
    · rw [if_neg same]
  | some a =>
    ext b
    rw [get?_eq_some_iff, getElem?_remove, found]
    rw [get?_eq_some_iff] at found
    by_cases slot : key.slot.toNat = other.slot.toNat
    · have absent : (if other = key then none else s.get? other) ≠ some b := by
        by_cases same : other = key
        · simp [same]
        · rw [if_neg same, Ne, get?_eq_some_iff, ← slot, found]
          intro equal
          simp only [Option.some.injEq, Slot.mk.injEq] at equal
          exact same (Key.eq_of_toNat slot equal.1).symm
      simp [slot, absent]
    · have different : other ≠ key := by
        intro same
        rw [same] at slot
        exact slot rfl
      rw [if_neg (by simp [slot]), if_neg different, get?_eq_some_iff]

theorem length_entries_remove {s : Slots resident α} {key : Key resident} {a : α}
    (found : s.get? key = some a) :
    (s.remove key).2.entries.length + 1 = s.entries.length := by
  rw [length_entries, length_entries, remove_of_some found]
  rw [get?_eq_some_iff] at found
  have changed := countP_modify (·.occupant.isSome) Slot.vacate s.slots _ _ found
  simpa [Slot.vacate] using changed

/-- The slot of a key that finds something is not in the queue. -/
theorem Consistent.slot_notMem_free {s : Slots resident α} (consistent : s.Consistent)
    {key : Key resident} {a : α} (found : s.get? key = some a) : key.slot ∉ s.free := by
  intro member
  obtain ⟨generation, vacant⟩ := (consistent.vacant_iff _).mpr ⟨key.slot, member, rfl⟩
  rw [get?_eq_some_iff.mp found] at vacant
  simp at vacant

theorem Consistent.remove {s : Slots resident α} (consistent : s.Consistent)
    (key : Key resident) : (s.remove key).2.Consistent := by
  cases found : s.get? key with
  | none =>
    rw [remove_of_none found]
    exact consistent
  | some a =>
    have slots := getElem?_remove s key
    have length := length_entries_remove found
    have absent := consistent.slot_notMem_free found
    rw [remove_of_some found] at slots length ⊢
    refine ⟨?_, ?_, ?_⟩
    · rw [List.nodup_append]
      refine ⟨consistent.free_nodup, by simp, ?_⟩
      intro waiting member other belongs same
      rw [List.mem_singleton.mp belongs] at same
      exact absent (same ▸ member)
    · intro index
      rw [slots index, found]
      by_cases same : key.slot.toNat = index
      · simp only [same, Option.isSome_some, and_self, if_true]
        constructor
        · intro _
          exact ⟨key.slot, by simp, same⟩
        · intro _
          exact ⟨key.generation, rfl⟩
      · simp only [same, false_and, if_false]
        rw [consistent.vacant_iff index]
        constructor
        · intro queued
          obtain ⟨waiting, member, number⟩ := queued
          exact ⟨waiting, List.mem_append_left _ member, number⟩
        · intro queued
          obtain ⟨waiting, member, number⟩ := queued
          rcases List.mem_append.mp member with member | member
          · exact ⟨waiting, member, number⟩
          · rw [List.mem_singleton.mp member] at number
            exact absurd number same
    · have before := consistent.size_eq
      dsimp only at length ⊢
      omega

end Slots

end ModularSynth
