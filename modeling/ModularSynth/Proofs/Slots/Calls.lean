import ModularSynth.Proofs.Slots.History

/-!
# A store under any calls

A store is changed by insertions and by removals, the latter with any keys: of values that it holds,
of values that were removed, of values that it never held. `Slots.after` is the store after such
calls and `Slots.events` their history. As long as slot numbers have not wrapped every store that
calls lead to is orderly (`Slots.orderly_of_calls`): the queue holds the vacant slots in the order
in which they were vacated, and keys find what was put under them and nothing else.

A removed key is not kept from finding something for ever. The generations of its slot come round,
but not before the slot was filled as often as there are odd generations
(`Slots.Accounted.rounds_of_found`).
-/

namespace ModularSynth

variable {resident : Resident} {α : Type}

/-- A call on a store. The key of a removal need not name anything. -/
inductive SlotCall (resident : Resident) (α : Type) where
  | insert (a : α)
  | remove (key : Key resident)

namespace SlotHistory

/-- The slots that were vacated, oldest first, each as often as it was vacated. -/
def vacated (history : SlotHistory resident) : List UInt32 :=
  history.filterMap fun
    | .filled _ => none
    | .freed key => some key.slot

theorem vacated_append (history more : SlotHistory resident) :
    (history ++ more).vacated = history.vacated ++ more.vacated :=
  List.filterMap_append

theorem fillings_append (history more : SlotHistory resident) (slot : UInt32) :
    (history ++ more).fillings slot = history.fillings slot + more.fillings slot := by
  unfold fillings
  rw [given_append, List.countP_append]

@[simp]
theorem fillings_freed (key : Key resident) (slot : UInt32) : fillings [.freed key] slot = 0 := rfl

end SlotHistory

/-- A generation comes round after as many fillings as there are odd generations, or a multiple. -/
theorem dvd_of_generationAfter_eq {count more : Nat}
    (same : generationAfter (count + more) = generationAfter count) : 2 ^ 31 ∣ more := by
  unfold generationAfter at same
  rw [← UInt32.toNat_inj, UInt32.toNat_ofNat', UInt32.toNat_ofNat'] at same
  omega

theorem odd_generationAfter (count : Nat) : (generationAfter count).toNat % 2 = 1 := by
  unfold generationAfter
  rw [UInt32.toNat_ofNat']
  omega

namespace Slots

/-- The store after a call. -/
def call (s : Slots resident α) : SlotCall resident α → Slots resident α
  | .insert a => (s.insert a).2
  | .remove key => (s.remove key).2

/-- What a call does to a slot. The removal of a key that names nothing does nothing. -/
def event? (s : Slots resident α) : SlotCall resident α → Option (SlotEvent resident)
  | .insert a => some (.filled (s.insert a).1)
  | .remove key => (s.remove key).1.map fun _ => .freed key

/-- The store after some calls. -/
def after (s : Slots resident α) : List (SlotCall resident α) → Slots resident α
  | [] => s
  | call :: calls => (s.call call).after calls

/-- What some calls do to the slots. -/
def events (s : Slots resident α) : List (SlotCall resident α) → SlotHistory resident
  | [] => []
  | call :: calls => (s.event? call).toList ++ (s.call call).events calls

variable {s : Slots resident α} {history : SlotHistory resident}

/-! ### One call -/

theorem Fits.of_call {call : SlotCall resident α} (fits : (s.call call).Fits) : s.Fits := by
  cases call with
  | insert a => exact fits.of_insert
  | remove key => exact fits.of_remove

theorem Fits.of_after {calls : List (SlotCall resident α)} (fits : (s.after calls).Fits) :
    s.Fits := by
  induction calls generalizing s with
  | nil => exact fits
  | cons call calls ih => exact (ih fits).of_call

theorem Consistent.call (consistent : s.Consistent) (call : SlotCall resident α) :
    (s.call call).Consistent := by
  cases call with
  | insert a => exact consistent.insert a
  | remove key => exact consistent.remove key

/-- A store with this history whose queue is in step and in order. Of a slot that was vacated more
than once only the last time counts, as `dedup` keeps the last occurrence. -/
structure Accounted (s : Slots resident α) (history : SlotHistory resident) : Prop where
  consistent : s.Consistent
  recorded : s.Recorded history
  ordered : s.free.Sublist history.vacated.dedup

theorem accounted_empty : (empty : Slots resident α).Accounted [] where
  consistent := consistent_empty
  recorded := recorded_empty
  ordered := List.nil_sublist _

theorem Accounted.insert (accounted : s.Accounted history) (a : α)
    (fits : (s.insert a).2.Fits) :
    (s.insert a).2.Accounted (history ++ [.filled (s.insert a).1]) where
  consistent := accounted.consistent.insert a
  recorded := accounted.recorded.insert accounted.consistent a fits
  ordered := by
    have ordered := accounted.ordered
    rw [SlotHistory.vacated_append]
    show List.Sublist _ (history.vacated ++ []).dedup
    rw [List.append_nil]
    rcases accounted.consistent.insert_cases a with ⟨waiting, free, generation, queue, -, inserted⟩ |
      ⟨-, inserted⟩
    · rw [queue] at ordered
      rw [inserted]
      exact (List.sublist_cons_self waiting free).trans ordered
    · rw [inserted]
      exact List.nil_sublist _

theorem Accounted.remove (accounted : s.Accounted history) {key : Key resident} {a : α}
    (found : s.get? key = some a) : (s.remove key).2.Accounted (history ++ [.freed key]) where
  consistent := accounted.consistent.remove key
  recorded := accounted.recorded.remove found
  ordered := by
    have absent := accounted.consistent.slot_notMem_free found
    have kept : s.free.filter (· ≠ key.slot) = s.free := by
      rw [List.filter_eq_self]
      intro waiting member
      simpa using fun same : waiting = key.slot => absent (same ▸ member)
    rw [SlotHistory.vacated_append]
    show List.Sublist _ (history.vacated ++ [key.slot]).dedup
    rw [dedup_concat, remove_of_some found]
    apply List.Sublist.append _ (List.Sublist.refl _)
    rw [← kept]
    exact accounted.ordered.filter _

theorem Accounted.call (accounted : s.Accounted history) (call : SlotCall resident α)
    (fits : (s.call call).Fits) : (s.call call).Accounted (history ++ (s.event? call).toList) := by
  cases call with
  | insert a => exact accounted.insert a fits
  | remove key =>
    show (s.remove key).2.Accounted (history ++ ((s.remove key).1.map fun _ => .freed key).toList)
    cases found : s.get? key with
    | none =>
      rw [remove_of_none found, Option.map_none, Option.toList_none, List.append_nil]
      exact accounted
    | some a =>
      have freed := accounted.remove found
      rw [remove_of_some found] at freed ⊢
      exact freed

theorem Accounted.after (accounted : s.Accounted history) {calls : List (SlotCall resident α)}
    (fits : (s.after calls).Fits) : (s.after calls).Accounted (history ++ s.events calls) := by
  induction calls generalizing s history with
  | nil =>
    rw [events, List.append_nil]
    exact accounted
  | cons call calls ih =>
    have rest : ((s.call call).after calls).Fits := fits
    rw [events, ← List.append_assoc]
    exact ih (accounted.call call rest.of_after) rest

/-! ### Keys that come round -/

/-- The generation of a key that finds something counts the fillings of its slot. -/
theorem Recorded.fillings_of_get? (recorded : s.Recorded history) {key : Key resident} {a : α}
    (found : s.get? key = some a) :
    ∃ before, history.fillings key.slot = before + 1 ∧ key.generation = generationAfter before := by
  obtain ⟨count, generations, current⟩ := recorded.generations _ _ (get?_eq_some_iff.mp found)
  exact ⟨count, SlotHistory.fillings_of_generations generations, current⟩

/-- What finds nothing finds nothing until its slot is filled. -/
theorem Consistent.get?_after_of_unfilled (consistent : s.Consistent) {key : Key resident}
    (missing : s.get? key = none) {calls : List (SlotCall resident α)} (fits : (s.after calls).Fits)
    (unfilled : (s.events calls).fillings key.slot = 0) : (s.after calls).get? key = none := by
  induction calls generalizing s with
  | nil => exact missing
  | cons call calls ih =>
    have rest : ((s.call call).after calls).Fits := fits
    have fits := rest.of_after
    rw [events, SlotHistory.fillings_append, Nat.add_eq_zero_iff] at unfilled
    refine ih (consistent.call call) ?_ rest unfilled.2
    cases call with
    | remove other =>
      show (s.remove other).2.get? key = none
      rw [get?_remove, missing, ite_self]
    | insert a =>
      have apart : key ≠ (s.insert a).1 := by
        intro same
        have filled : SlotHistory.fillings [.filled (s.insert a).1] key.slot = 0 := unfilled.1
        rw [← same] at filled
        simp [SlotHistory.fillings] at filled
      show (s.insert a).2.get? key = none
      rw [consistent.get?_insert a fits, if_neg apart, missing]

/-- A removed key finds something only after its slot was filled again as often as there are odd
generations, or a multiple of that. -/
theorem Accounted.rounds_of_found (accounted : s.Accounted history) {key : Key resident} {a b : α}
    (live : s.get? key = some a) {later : List (SlotCall resident α)}
    (fits : ((s.remove key).2.after later).Fits)
    (found : ((s.remove key).2.after later).get? key = some b) :
    ∃ rounds, 0 < rounds ∧
      ((s.remove key).2.events later).fillings key.slot = rounds * 2 ^ 31 := by
  have removed := accounted.remove live
  obtain ⟨before, filled, generation⟩ := accounted.recorded.fillings_of_get? live
  obtain ⟨before', filled', generation'⟩ := (removed.after fits).recorded.fillings_of_get? found
  rw [SlotHistory.fillings_append, SlotHistory.fillings_append, SlotHistory.fillings_freed,
    filled] at filled'
  generalize more : ((s.remove key).2.events later).fillings key.slot = count at filled'
  have counted : before' = before + count := by omega
  rw [generation, counted] at generation'
  obtain ⟨rounds, product⟩ := dvd_of_generationAfter_eq generation'.symm
  refine ⟨rounds, Nat.pos_of_ne_zero ?_, by rw [product, Nat.mul_comm]⟩
  rintro rfl
  have missing : (s.remove key).2.get? key = none := by rw [get?_remove, if_pos rfl]
  rw [Nat.mul_zero] at product
  rw [removed.consistent.get?_after_of_unfilled missing fits (more.trans product)] at found
  cases found

/-! ### Any calls -/

/-- What holds of a store with some history, and of the calls that can follow. -/
structure Orderly (s : Slots resident α) (history : SlotHistory resident) : Prop where
  /-- The queue holds every vacant slot once and no occupied one, -/
  free_once : s.free.Nodup
  vacant_iff : ∀ index, (∃ generation, s.slots[index]? = some ⟨generation, none⟩) ↔
    ∃ waiting ∈ s.free, waiting.toNat = index
  /-- in the order in which they were vacated, a slot that was vacated more than once in the order
  of the last time. -/
  in_order : s.free.Sublist history.vacated.dedup
  counted : s.size = s.slots.countP (·.occupant.isSome)
  odd_generations : ∀ slot ∈ s.slots, slot.generation.toNat % 2 = 1
  /-- The live keys are listed with their values, in ascending order of slots. -/
  listed_iff : ∀ key a, (key, a) ∈ s.entries ↔ s.get? key = some a
  ascending : s.entries.Pairwise fun entry later => entry.1.slot < later.1.slot
  /-- An insertion gives out a key that found nothing and finds the value then. -/
  inserted : ∀ a, s.slots.length < UInt32.size ∨ s.free ≠ [] →
    s.get? (s.insert a).1 = none ∧
      ∀ key, (s.insert a).2.get? key = if key = (s.insert a).1 then some a else s.get? key
  /-- A removal yields the value of a live key, which finds nothing then, -/
  removed : ∀ key a, s.get? key = some a → (s.remove key).1 = some a ∧
    ∀ other, (s.remove key).2.get? other = if other = key then none else s.get? other
  /-- unless its slot was filled again, and as often as there are odd generations or a multiple. -/
  comes_round : ∀ key a, s.get? key = some a → ∀ later b,
    ((s.remove key).2.after later).Fits → ((s.remove key).2.after later).get? key = some b →
      ∃ rounds, 0 < rounds ∧
        ((s.remove key).2.events later).fillings key.slot = rounds * 2 ^ 31
  /-- The removal of any other key yields nothing and changes nothing. -/
  ignored : ∀ key, s.get? key = none → s.remove key = (none, s)

/-- There is room for a value as long as a slot is vacant or a slot number unused. -/
theorem Consistent.fits_insert_of_room (consistent : s.Consistent) (fits : s.Fits) (a : α)
    (room : s.slots.length < UInt32.size ∨ s.free ≠ []) : (s.insert a).2.Fits := by
  unfold Fits at fits ⊢
  rcases consistent.insert_cases a with ⟨waiting, free, generation, -, -, inserted⟩ |
    ⟨queue, inserted⟩
  · rw [inserted, List.length_modify]
    exact fits
  · have unused := room.resolve_right (· queue)
    rw [inserted, List.length_append, List.length_singleton]
    exact unused

theorem Accounted.orderly (accounted : s.Accounted history) (fits : s.Fits) :
    s.Orderly history where
  free_once := accounted.consistent.free_nodup
  vacant_iff := accounted.consistent.vacant_iff
  in_order := accounted.ordered
  counted := accounted.consistent.size_eq.trans (length_entries s)
  odd_generations := by
    intro slot member
    obtain ⟨index, found⟩ := List.mem_iff_getElem?.mp member
    obtain ⟨count, -, current⟩ := accounted.recorded.generations _ _ found
    rw [current]
    exact odd_generationAfter count
  listed_iff _ _ := mem_entries_iff_get? fits
  ascending := pairwise_slot_entries fits
  inserted := by
    intro a room
    have fits' := accounted.consistent.fits_insert_of_room fits a room
    exact ⟨accounted.consistent.get?_insert_key a fits', accounted.consistent.get?_insert a fits'⟩
  removed key a found := ⟨by rw [remove_of_some found], get?_remove s key⟩
  comes_round _ _ live _ _ fits' found := accounted.rounds_of_found live fits' found
  ignored _ missing := remove_of_none missing

/-- Whatever the calls on an empty store, as long as slot numbers have not wrapped. -/
theorem orderly_of_calls (calls : List (SlotCall resident α))
    (fits : (empty.after calls).Fits) : (empty.after calls).Orderly (empty.events calls) :=
  (accounted_empty.after fits).orderly fits

/-- Two values are removed and their slots vacated in the order of removal, the second slot being
filled again meanwhile; one key is removed twice and one was never given out. -/
def shuffled : List (SlotCall .cable String) :=
  [.insert "a", .insert "b", .insert "c", .remove ⟨1, 1⟩, .remove ⟨0, 1⟩, .remove ⟨1, 1⟩,
    .insert "d", .remove ⟨7, 5⟩, .remove ⟨1, 3⟩]

theorem shuffled_orderly : (empty.after shuffled).Fits ∧
    (empty.after shuffled).Orderly (empty.events shuffled) :=
  have fits : (empty.after shuffled).Fits := by unfold Fits; decide
  ⟨fits, orderly_of_calls shuffled fits⟩

/-- The slot that was vacated first is not the first in the queue: it was filled again. -/
example : (empty.after shuffled).free = [0, 1] ∧
    (empty.events shuffled).vacated = [1, 0, 1] ∧
      (empty.after shuffled).entries = [(⟨2, 1⟩, "c")] := by
  decide

end Slots

end ModularSynth
