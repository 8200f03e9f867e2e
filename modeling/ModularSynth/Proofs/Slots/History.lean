import Mathlib.Algebra.Group.Nat.Defs
import Mathlib.Data.Finset.Card
import ModularSynth.Proofs.Slots.InPlace

/-!
# The history of a store

A `SlotHistory` lists the fillings and the freeings of slots under the keys of their occupants. What
it says is said without generations and without a queue: which keys were given out, which slots are
vacant and in which order they were freed, how many slots there have been. `Slots.Recorded` ties a
store to its history. The occupants of a slot have had the generations 1, 3, 5 and so on, so a key
is new as long as its slot was not filled more often than there are odd generations
(`Recorded.nodup_given`).
-/

namespace ModularSynth

variable {resident : Resident} {α : Type}

/-- What happens to a slot, under the key of its occupant. -/
inductive SlotEvent (resident : Resident) where
  | filled (key : Key resident)
  | freed (key : Key resident)
  deriving DecidableEq, Repr

/-- The key that is given out when a slot is filled. -/
def SlotEvent.given? : SlotEvent resident → Option (Key resident)
  | filled key => some key
  | freed _ => none

/-- What happened to the slots of a store, oldest first. -/
abbrev SlotHistory (resident : Resident) := List (SlotEvent resident)

namespace SlotHistory

/-- The keys that were given out, oldest first. -/
def given (history : SlotHistory resident) : List (Key resident) :=
  history.filterMap SlotEvent.given?

/-- The vacant slots after one more event. -/
def vacate (vacant : List UInt32) : SlotEvent resident → List UInt32
  | .filled key => vacant.erase key.slot
  | .freed key => vacant ++ [key.slot]

/-- The slots that are vacant, the one that was freed earliest first. -/
def vacant (history : SlotHistory resident) : List UInt32 :=
  history.foldl vacate []

/-- How many slots there have been. -/
def allocated (history : SlotHistory resident) : Nat :=
  (history.given.map (·.slot)).toFinset.card

/-- How often a slot was filled. -/
def fillings (history : SlotHistory resident) (slot : UInt32) : Nat :=
  history.given.countP (·.slot = slot)

/-- The slot to be filled next: of the vacant ones that which was freed earliest, or a new one. -/
def nextSlot (history : SlotHistory resident) : Nat :=
  match history.vacant with
  | slot :: _ => slot.toNat
  | [] => history.allocated

theorem given_append (history more : SlotHistory resident) :
    (history ++ more).given = history.given ++ more.given :=
  List.filterMap_append

@[simp]
theorem given_filled (key : Key resident) : given [.filled key] = [key] := rfl

@[simp]
theorem given_freed (key : Key resident) : given [.freed key] = [] := rfl

theorem vacant_concat (history : SlotHistory resident) (event : SlotEvent resident) :
    vacant (history ++ [event]) = vacate history.vacant event := by
  unfold vacant
  rw [List.foldl_append, List.foldl_cons, List.foldl_nil]

theorem fillings_le_length (history : SlotHistory resident) (slot : UInt32) :
    history.fillings slot ≤ history.given.length :=
  List.countP_le_length

end SlotHistory

/-- The generation of the occupant of a slot that was filled so often before. -/
def generationAfter (count : Nat) : UInt32 := UInt32.ofNat (2 * count + 1)

theorem nextGeneration_generationAfter (count : Nat) :
    nextGeneration (generationAfter count) = generationAfter (count + 1) := by
  unfold nextGeneration generationAfter
  rw [← UInt32.toNat_inj, UInt32.toNat_add, UInt32.toNat_ofNat', UInt32.toNat_ofNat']
  simp
  omega

/-- What was filled with so many generations was filled so often. -/
theorem SlotHistory.fillings_of_generations {history : SlotHistory resident} {slot : UInt32}
    {count : Nat} (generations : (history.given.filter (·.slot.toNat = slot.toNat)).map
      (·.generation) = (List.range count).map generationAfter) : history.fillings slot = count := by
  have lengths := congrArg List.length generations
  rw [List.length_map, List.length_map, List.length_range] at lengths
  unfold fillings
  rw [List.countP_eq_length_filter, ← lengths]
  simp only [UInt32.toNat_inj]

/-- There are 2³¹ odd generations. -/
theorem generationAfter_injective {count other : Nat} (below : count < 2 ^ 31)
    (below' : other < 2 ^ 31) (same : generationAfter count = generationAfter other) :
    count = other := by
  unfold generationAfter at same
  rw [← UInt32.toNat_inj, UInt32.toNat_ofNat', UInt32.toNat_ofNat'] at same
  omega

namespace Slots

/-- A store with this history. -/
structure Recorded (s : Slots resident α) (history : SlotHistory resident) : Prop where
  free_eq : s.free = history.vacant
  length_eq : s.slots.length = history.allocated
  /-- Keys were given out for slots of the store. -/
  inside : ∀ key ∈ history.given, key.slot.toNat < s.slots.length
  /-- The occupants of a slot had the odd generations in turn, the last one has the slot's. -/
  generations : ∀ (index : Nat) slot, s.slots[index]? = some slot → ∃ count,
    (history.given.filter (·.slot.toNat = index)).map (·.generation) =
        (List.range (count + 1)).map generationAfter ∧
      slot.generation = generationAfter count

theorem recorded_empty : (empty : Slots resident α).Recorded [] where
  free_eq := rfl
  length_eq := rfl
  inside := by
    intro key member
    cases member
  generations := by
    intro index slot found
    cases found

section Recorded

variable {s : Slots resident α} {history : SlotHistory resident}

/-- The generation of a slot is that of a key that was given out for it. -/
theorem Recorded.given_of_getElem? (recorded : s.Recorded history) {index : Nat} {slot : Slot α}
    (found : s.slots[index]? = some slot) :
    ∃ key ∈ history.given, key.slot.toNat = index ∧ key.generation = slot.generation := by
  obtain ⟨count, generations, current⟩ := recorded.generations _ _ found
  have last : slot.generation ∈
      (history.given.filter (·.slot.toNat = index)).map (·.generation) := by
    rw [generations, List.mem_map]
    exact ⟨count, List.mem_range.mpr (Nat.lt_succ_self count), current.symm⟩
  obtain ⟨key, member, same⟩ := List.mem_map.mp last
  obtain ⟨member, number⟩ := List.mem_filter.mp member
  exact ⟨key, member, of_decide_eq_true number, same⟩

/-- A key that finds something was given out. -/
theorem Recorded.given_of_get? (recorded : s.Recorded history) {key : Key resident} {a : α}
    (found : s.get? key = some a) : key ∈ history.given := by
  obtain ⟨given, member, slot, generation⟩ :=
    recorded.given_of_getElem? (get?_eq_some_iff.mp found)
  rwa [← Key.eq_of_toNat slot generation]

/-- No key was given out twice if no slot was filled more often than there are odd generations. -/
theorem Recorded.nodup_given (recorded : s.Recorded history)
    (bound : ∀ slot, history.fillings slot ≤ 2 ^ 31) : history.given.Nodup := by
  rw [List.nodup_iff_count_le_one]
  intro key
  by_cases member : key ∈ history.given
  · have inside := recorded.inside key member
    obtain ⟨count, generations, -⟩ :=
      recorded.generations _ _ (List.getElem?_eq_getElem inside)
    have often := SlotHistory.fillings_of_generations generations
    have distinct :
        ((history.given.filter (·.slot.toNat = key.slot.toNat)).map (·.generation)).Nodup := by
      rw [generations]
      apply List.Nodup.map_on _ List.nodup_range
      intro first below second below' same
      have limit := bound key.slot
      rw [List.mem_range] at below below'
      exact generationAfter_injective (by omega) (by omega) same
    have once := List.nodup_iff_count_le_one.mp distinct.of_map key
    rwa [List.count_filter (by simp)] at once
  · rw [List.count_eq_zero_of_not_mem member]
    exact Nat.zero_le 1

/-- An insertion fills the slot that was freed earliest, or a new slot when none is vacant. -/
theorem Recorded.slot_insert (recorded : s.Recorded history) (consistent : s.Consistent) (a : α)
    (fits : (s.insert a).2.Fits) : (s.insert a).1.slot.toNat = history.nextSlot := by
  unfold SlotHistory.nextSlot
  rw [← recorded.free_eq]
  rcases consistent.insert_cases a with ⟨waiting, free, generation, queue, -, inserted⟩ |
    ⟨queue, inserted⟩
  · rw [inserted, queue]
  · rw [inserted] at fits
    rw [inserted, queue]
    dsimp only
    rw [toNat_slot_keyAt (below_of_fits_append fits), recorded.length_eq]

/-- The generations that keys of the next occupant's slot have had. -/
theorem Recorded.generation_insert (recorded : s.Recorded history) (consistent : s.Consistent)
    (a : α) (fits : (s.insert a).2.Fits) :
    ∃ count, (history.given.filter (·.slot.toNat = (s.insert a).1.slot.toNat)).map
        (·.generation) = (List.range count).map generationAfter ∧
      (s.insert a).1.generation = generationAfter count := by
  rcases consistent.insert_cases a with ⟨waiting, free, generation, -, found, inserted⟩ |
    ⟨-, inserted⟩
  · obtain ⟨count, generations, current⟩ := recorded.generations _ _ found
    rw [inserted]
    refine ⟨count + 1, generations, ?_⟩
    simp only at current
    rw [current, nextGeneration_generationAfter]
  · rw [inserted] at fits ⊢
    refine ⟨0, ?_, rfl⟩
    dsimp only
    rw [toNat_slot_keyAt (below_of_fits_append fits), List.range_zero, List.map_nil,
      List.map_eq_nil_iff, List.filter_eq_nil_iff]
    intro key member slot
    have inside := recorded.inside key member
    rw [decide_eq_true_eq] at slot
    omega

/-- There are as many slots as were ever filled. -/
theorem Recorded.length_insert (recorded : s.Recorded history) (consistent : s.Consistent) (a : α)
    (fits : (s.insert a).2.Fits) : (s.insert a).2.slots.length =
      SlotHistory.allocated (history ++ [.filled (s.insert a).1]) := by
  unfold SlotHistory.allocated
  rw [SlotHistory.given_append, SlotHistory.given_filled, List.map_append, List.map_singleton,
    List.toFinset_append, List.toFinset_cons, List.toFinset_nil, LawfulSingleton.insert_empty_eq,
    Finset.union_comm, ← Finset.insert_eq]
  rcases consistent.insert_cases a with ⟨waiting, free, generation, -, found, inserted⟩ |
    ⟨-, inserted⟩
  · rw [inserted, List.length_modify, Finset.insert_eq_of_mem, recorded.length_eq]
    · rfl
    · obtain ⟨key, member, slot, -⟩ := recorded.given_of_getElem? found
      rw [List.mem_toFinset, List.mem_map]
      exact ⟨key, member, UInt32.toNat_inj.mp slot⟩
  · rw [inserted] at fits ⊢
    rw [List.length_append, List.length_singleton, Finset.card_insert_of_notMem,
      recorded.length_eq]
    · rfl
    · intro member
      rw [List.mem_toFinset, List.mem_map] at member
      obtain ⟨key, member, slot⟩ := member
      have inside := recorded.inside key member
      rw [slot, toNat_slot_keyAt (below_of_fits_append fits)] at inside
      omega

theorem Recorded.inside_insert (recorded : s.Recorded history) (consistent : s.Consistent) (a : α)
    (fits : (s.insert a).2.Fits) :
    ∀ key ∈ SlotHistory.given (history ++ [.filled (s.insert a).1]),
      key.slot.toNat < (s.insert a).2.slots.length := by
  intro key member
  rw [SlotHistory.given_append, SlotHistory.given_filled, List.mem_append,
    List.mem_singleton] at member
  apply Nat.lt_of_not_le
  intro beyond
  have nothing := List.getElem?_eq_none beyond
  rw [consistent.getElem?_insert a fits] at nothing
  rcases member with earlier | rfl
  · have inside := recorded.inside key earlier
    split at nothing
    · cases nothing
    · rw [List.getElem?_eq_none_iff] at nothing
      omega
  · rw [if_pos rfl] at nothing
    cases nothing

theorem Recorded.insert (recorded : s.Recorded history) (consistent : s.Consistent) (a : α)
    (fits : (s.insert a).2.Fits) :
    (s.insert a).2.Recorded (history ++ [.filled (s.insert a).1]) where
  free_eq := by
    rw [SlotHistory.vacant_concat, ← recorded.free_eq]
    rcases consistent.insert_cases a with ⟨waiting, free, generation, queue, -, inserted⟩ |
      ⟨queue, inserted⟩
    · simp [inserted, queue, SlotHistory.vacate]
    · simp [inserted, queue, SlotHistory.vacate]
  length_eq := recorded.length_insert consistent a fits
  inside := recorded.inside_insert consistent a fits
  generations := by
    intro index slot found
    rw [consistent.getElem?_insert a fits] at found
    rw [SlotHistory.given_append, SlotHistory.given_filled, List.filter_append, List.map_append]
    split at found
    next same =>
      subst same
      cases found
      obtain ⟨count, generations, current⟩ := recorded.generation_insert consistent a fits
      refine ⟨count, ?_, current⟩
      rw [generations, List.range_succ, List.map_append]
      simp [current]
    next other =>
      obtain ⟨count, generations, current⟩ := recorded.generations _ _ found
      refine ⟨count, ?_, current⟩
      rw [generations]
      simp [other]

/-- A removal frees the slot of a key that finds something. -/
theorem Recorded.remove (recorded : s.Recorded history) {key : Key resident} {a : α}
    (found : s.get? key = some a) : (s.remove key).2.Recorded (history ++ [.freed key]) where
  free_eq := by
    rw [SlotHistory.vacant_concat, ← recorded.free_eq, remove_of_some found]
    rfl
  length_eq := by
    unfold SlotHistory.allocated
    rw [length_slots_remove, SlotHistory.given_append, SlotHistory.given_freed, List.append_nil,
      recorded.length_eq]
    rfl
  inside := by
    rw [length_slots_remove, SlotHistory.given_append, SlotHistory.given_freed, List.append_nil]
    exact recorded.inside
  generations := by
    intro index slot vacated
    rw [SlotHistory.given_append, SlotHistory.given_freed, List.append_nil]
    rw [getElem?_remove] at vacated
    split at vacated
    next same =>
      cases vacated
      obtain ⟨count, generations, current⟩ :=
        recorded.generations _ _ (get?_eq_some_iff.mp found)
      rw [← same.1]
      exact ⟨count, generations, current⟩
    next => exact recorded.generations _ _ vacated

/-- Changes in place leave the history as it is. -/
theorem Matches.recorded {R : α → α → Prop} {t : Slots resident α} (same : s.Matches R t)
    (recorded : s.Recorded history) : t.Recorded history where
  free_eq := same.free_eq.trans recorded.free_eq
  length_eq := same.length_eq.trans recorded.length_eq
  inside := by
    rw [same.length_eq]
    exact recorded.inside
  generations := by
    intro index slot found
    obtain ⟨before, held, step⟩ := exists_left_of_rel (same.getElem? index) found
    rw [step.1]
    exact recorded.generations _ _ held

end Recorded

end Slots

end ModularSynth
