import Mathlib.Data.List.Forall2
import ModularSynth.Proofs.Slots.Queue

/-!
# Changes in place

`Slots.Matches` relates slots whose values were changed where they are: the same keys are in use,
the same keys will be given out, and the values under a key are related. Updates of one value, of
all values, and of all values up to a failure are such changes. Two updates of one value can change
places unless they are of the same value, and an update up to a failure splits the listing at the
first value that fails.
-/

namespace ModularSynth

variable {resident : Resident} {α : Type}

theorem forall₂_modify {β : Type} {R : β → β → Prop} (reflexive : ∀ b, R b b) (f : β → β)
    (related : ∀ b, R b (f b)) (l : List β) (index : Nat) :
    List.Forall₂ R l (l.modify index f) := by
  induction l generalizing index with
  | nil => simp
  | cons head tail ih =>
    cases index with
    | zero => exact .cons (related head) (List.forall₂_same.mpr fun b _ => reflexive b)
    | succ index => exact .cons (reflexive head) (ih index)

theorem forall₂_getElem? {β γ : Type} {R : β → γ → Prop} {l : List β} {m : List γ}
    (related : List.Forall₂ R l m) (index : Nat) : Option.Rel R l[index]? m[index]? := by
  induction related generalizing index with
  | nil => exact .none
  | cons head _ ih =>
    cases index with
    | zero => exact .some head
    | succ index => exact ih index

/-- Related optional values are both absent, or both present and related. -/
theorem rel_cases {β γ : Type} {R : β → γ → Prop} {x : Option β} {y : Option γ}
    (related : Option.Rel R x y) :
    x = none ∧ y = none ∨ ∃ a b, x = some a ∧ y = some b ∧ R a b := by
  cases related with
  | none => exact Or.inl ⟨rfl, rfl⟩
  | some step => exact Or.inr ⟨_, _, rfl, rfl, step⟩

/-- If the first is present, so is the second, -/
theorem exists_right_of_rel {β γ : Type} {R : β → γ → Prop} {x : Option β} {y : Option γ}
    (related : Option.Rel R x y) {b : β} (held : x = some b) : ∃ c, y = some c ∧ R b c := by
  rcases rel_cases related with ⟨missing, -⟩ | ⟨b', c, held', present, step⟩
  · rw [held] at missing
    cases missing
  · rw [held] at held'
    cases held'
    exact ⟨c, present, step⟩

/-- and the other way round. -/
theorem exists_left_of_rel {β γ : Type} {R : β → γ → Prop} {x : Option β} {y : Option γ}
    (related : Option.Rel R x y) {c : γ} (held : y = some c) : ∃ b, x = some b ∧ R b c := by
  rcases rel_cases related with ⟨-, missing⟩ | ⟨b, c', present, held', step⟩
  · rw [held] at missing
    cases missing
  · rw [held] at held'
    cases held'
    exact ⟨b, present, step⟩

theorem exists_of_forall₂ {β γ : Type} {R : β → γ → Prop} {l : List β} {m : List γ}
    (related : List.Forall₂ R l m) {c : γ} (member : c ∈ m) : ∃ b ∈ l, R b c := by
  induction related with
  | nil => cases member
  | cons head _ ih =>
    rcases List.mem_cons.mp member with rfl | later
    · exact ⟨_, List.mem_cons_self, head⟩
    · obtain ⟨b, member, step⟩ := ih later
      exact ⟨b, List.mem_cons_of_mem _ member, step⟩

namespace Slot

/-- The same generation, and related occupants if there are any. -/
def Matches (R : α → α → Prop) (before after : Slot α) : Prop :=
  after.generation = before.generation ∧ Option.Rel R before.occupant after.occupant

theorem matches_map {R : α → α → Prop} {f : α → α} (related : ∀ a, R a (f a)) (slot : Slot α) :
    Slot.Matches R slot { slot with occupant := slot.occupant.map f } := by
  obtain ⟨generation, occupant⟩ := slot
  refine ⟨rfl, ?_⟩
  cases occupant with
  | none => exact .none
  | some a => exact .some (related a)

theorem Matches.refl {R : α → α → Prop} (reflexive : ∀ a, R a a) (slot : Slot α) :
    Slot.Matches R slot slot := by
  have same := matches_map (f := id) reflexive slot
  rwa [Option.map_id_apply] at same

theorem Matches.trans {R : α → α → Prop} (transitive : ∀ a b c, R a b → R b c → R a c)
    {a b c : Slot α} (first : Slot.Matches R a b) (second : Slot.Matches R b c) :
    Slot.Matches R a c := by
  refine ⟨second.1.trans first.1, ?_⟩
  rcases rel_cases first.2 with ⟨left, middle⟩ | ⟨x, y, left, middle, step⟩
  · rcases rel_cases second.2 with ⟨-, right⟩ | ⟨y', z, middle', -, -⟩
    · rw [left, right]
      exact .none
    · rw [middle] at middle'
      cases middle'
  · rcases rel_cases second.2 with ⟨middle', -⟩ | ⟨y', z, middle', right, step'⟩
    · rw [middle] at middle'
      cases middle'
    · rw [middle] at middle'
      cases middle'
      rw [left, right]
      exact .some (transitive _ _ _ step step')

end Slot

namespace Slots

/-- The same slots with the same keys, and related values in them. -/
structure Matches (R : α → α → Prop) (s t : Slots resident α) : Prop where
  free_eq : t.free = s.free
  size_eq : t.size = s.size
  slots : List.Forall₂ (Slot.Matches R) s.slots t.slots

theorem Matches.refl {R : α → α → Prop} (reflexive : ∀ a, R a a) (s : Slots resident α) :
    s.Matches R s where
  free_eq := rfl
  size_eq := rfl
  slots := List.forall₂_same.mpr fun slot _ => Slot.Matches.refl reflexive slot

theorem Matches.trans {R : α → α → Prop} (transitive : ∀ a b c, R a b → R b c → R a c)
    {s t u : Slots resident α} (first : s.Matches R t) (second : t.Matches R u) :
    s.Matches R u where
  free_eq := second.free_eq.trans first.free_eq
  size_eq := second.size_eq.trans first.size_eq
  slots := by
    have chained : ∀ {l m n : List (Slot α)}, List.Forall₂ (Slot.Matches R) l m →
        List.Forall₂ (Slot.Matches R) m n → List.Forall₂ (Slot.Matches R) l n := by
      intro l m n left
      induction left generalizing n with
      | nil => exact id
      | cons head _ ih =>
        intro right
        cases right with
        | cons head' tail' => exact .cons (head.trans transitive head') (ih tail')
    exact chained first.slots second.slots

theorem Matches.mono {R S : α → α → Prop} {s t : Slots resident α} (same : s.Matches R t)
    (weaker : ∀ a b, R a b → S a b) : s.Matches S t where
  free_eq := same.free_eq
  size_eq := same.size_eq
  slots := by
    apply same.slots.imp
    intro slot other step
    refine ⟨step.1, ?_⟩
    rcases rel_cases step.2 with ⟨left, right⟩ | ⟨a, b, left, right, related⟩
    · rw [left, right]
      exact .none
    · rw [left, right]
      exact .some (weaker a b related)

theorem matches_update {R : α → α → Prop} (reflexive : ∀ a, R a a) (s : Slots resident α)
    (key : Key resident) (f : α → α) (related : ∀ a, R a (f a)) :
    s.Matches R (s.update key f) where
  free_eq := rfl
  size_eq := rfl
  slots := by
    apply forall₂_modify (Slot.Matches.refl reflexive)
    intro slot
    unfold Slot.update
    split
    · exact Slot.matches_map related slot
    · exact Slot.Matches.refl reflexive slot

theorem matches_map {R : α → α → Prop} (s : Slots resident α) (f : α → α)
    (related : ∀ a, R a (f a)) : s.Matches R (s.map f) where
  free_eq := rfl
  size_eq := rfl
  slots := by
    unfold map
    rw [List.forall₂_map_right_iff, List.forall₂_same]
    exact fun slot _ => Slot.matches_map related slot

theorem matches_updateUntil {ε : Type} {R : α → α → Prop} (reflexive : ∀ a, R a a)
    (s : Slots resident α) (f : Key resident → α → α × Option ε)
    (related : ∀ key a, R a (f key a).1) : s.Matches R (s.updateUntil f).1 where
  free_eq := rfl
  size_eq := rfl
  slots := by
    have from_first : ∀ (slots : List (Slot α)) (first : Nat),
        List.Forall₂ (Slot.Matches R) slots (updateUntilFrom f first slots).1 := by
      intro slots
      induction slots with
      | nil => exact fun _ => .nil
      | cons slot slots ih =>
        intro first
        obtain ⟨generation, occupant⟩ := slot
        cases occupant with
        | none => exact .cons ⟨rfl, .none⟩ (ih (first + 1))
        | some a =>
          have step := related (keyAt first generation) a
          simp only [updateUntilFrom]
          split
          next b failure equal =>
            rw [equal] at step
            exact .cons ⟨rfl, .some step⟩
              (List.forall₂_same.mpr fun slot _ => Slot.Matches.refl reflexive slot)
          next b equal =>
            rw [equal] at step
            exact .cons ⟨rfl, .some step⟩ (ih (first + 1))
    exact from_first s.slots 0

/-! ### Updates of one value -/

theorem get?_update (s : Slots resident α) (key other : Key resident) (f : α → α) :
    (s.update key f).get? other = if other = key then (s.get? key).map f else s.get? other := by
  unfold get? update
  rw [List.getElem?_modify]
  by_cases slot : key.slot.toNat = other.slot.toNat
  · simp only [slot, if_true]
    cases found : s.slots[other.slot.toNat]? with
    | none => simp
    | some present =>
      simp only [Option.map_eq_map, Option.map_some, Option.bind_some, Slot.update]
      by_cases same : other = key
      · rw [if_pos same, same]
        by_cases current : present.generation = key.generation
        · simp [Slot.holding?, current]
        · simp [Slot.holding?, current]
      · have differ : other.generation ≠ key.generation := fun equal =>
          same (Key.eq_of_toNat slot.symm equal)
        rw [if_neg same]
        split
        next current => simp [Slot.holding?, current, Ne.symm differ]
        next => rfl
  · have differ : other ≠ key := by
      intro same
      subst same
      exact slot rfl
    simp [slot, differ]

/-- Updates under two keys can change places; under one key they can if the changes can. -/
theorem update_comm (s : Slots resident α) (key other : Key resident) (f g : α → α)
    (commute : key = other → ∀ a, g (f a) = f (g a)) :
    (s.update key f).update other g = (s.update other g).update key f := by
  unfold update
  simp only [Slots.mk.injEq, and_self, and_true]
  by_cases slot : key.slot.toNat = other.slot.toNat
  · rw [← slot, List.modify_modify_eq, List.modify_modify_eq]
    congr 1
    funext ⟨generation, occupant⟩
    simp only [Function.comp_apply, Slot.update]
    by_cases first : generation = key.generation
    · by_cases second : generation = other.generation
      · have same : key = other := Key.eq_of_toNat slot (first.symm.trans second)
        simp only [if_pos first, if_pos second, Option.map_map]
        congr 2
        exact funext (commute same)
      · simp only [if_pos first, if_neg second]
    · simp only [if_neg first]
      split
      · rfl
      · rfl
  · exact List.modify_modify_ne _ _ s.slots slot

/-! ### Updates up to a failure -/

section UpdateUntil

variable {ε : Type} (f : Key resident → α → α × Option ε)

/-- Without a failure every listed value is updated. -/
theorem updateUntilFrom_of_no_failure (slots : List (Slot α)) (first : Nat)
    (fine : ∀ entry ∈ entriesFrom first slots, (f entry.1 entry.2).2 = none) :
    (updateUntilFrom f first slots).2 = none ∧
      entriesFrom first (updateUntilFrom f first slots).1 =
        (entriesFrom first slots).map fun entry => (entry.1, (f entry.1 entry.2).1) := by
  induction slots generalizing first with
  | nil => exact ⟨rfl, rfl⟩
  | cons slot slots ih =>
    obtain ⟨generation, occupant⟩ := slot
    cases occupant with
    | none => exact ih (first + 1) fine
    | some a =>
      simp only [entriesFrom, List.mem_cons, forall_eq_or_imp] at fine
      obtain ⟨head, tail⟩ := fine
      have rest := ih (first + 1) tail
      simp only [updateUntilFrom]
      split
      next b failure equal =>
        rw [equal] at head
        cases head
      next b equal =>
        refine ⟨rest.1, ?_⟩
        simp only [entriesFrom, List.map_cons, equal]
        rw [rest.2]

/-- Up to the first failure, that one included, the listed values are updated; those after it are
not. -/
theorem updateUntilFrom_of_failure (slots : List (Slot α)) (first : Nat)
    {lower higher : List (Key resident × α)} {key : Key resident} {a : α} {failure : ε}
    (listed : entriesFrom first slots = lower ++ (key, a) :: higher)
    (fine : ∀ entry ∈ lower, (f entry.1 entry.2).2 = none)
    (failed : (f key a).2 = some failure) :
    (updateUntilFrom f first slots).2 = some failure ∧
      entriesFrom first (updateUntilFrom f first slots).1 =
        (lower.map fun entry => (entry.1, (f entry.1 entry.2).1)) ++
          (key, (f key a).1) :: higher := by
  induction slots generalizing first lower with
  | nil => simp [entriesFrom] at listed
  | cons slot slots ih =>
    obtain ⟨generation, occupant⟩ := slot
    cases occupant with
    | none => exact ih (first + 1) listed fine
    | some b =>
      simp only [entriesFrom] at listed
      simp only [updateUntilFrom]
      cases lower with
      | nil =>
        rw [List.nil_append, List.cons.injEq, Prod.mk.injEq] at listed
        obtain ⟨⟨rfl, rfl⟩, rfl⟩ := listed
        split
        next c other equal =>
          rw [equal] at failed
          refine ⟨failed, ?_⟩
          simp only [entriesFrom, List.map_nil, List.nil_append, equal]
        next c equal =>
          rw [equal] at failed
          cases failed
      | cons entry lower =>
        rw [List.cons_append, List.cons.injEq] at listed
        obtain ⟨rfl, listed⟩ := listed
        rw [List.forall_mem_cons] at fine
        have rest := ih (first + 1) listed fine.2
        split
        next c other equal =>
          have head := fine.1
          rw [equal] at head
          cases head
        next c equal =>
          refine ⟨rest.1, ?_⟩
          simp only [entriesFrom, List.map_cons, List.cons_append, equal]
          rw [rest.2]

/-- What is reported about some value is what is reported of the update. -/
theorem exists_of_updateUntilFrom (slots : List (Slot α)) (first : Nat) {failure : ε}
    (failed : (updateUntilFrom f first slots).2 = some failure) :
    ∃ key a, (f key a).2 = some failure := by
  induction slots generalizing first with
  | nil => cases failed
  | cons slot slots ih =>
    obtain ⟨generation, occupant⟩ := slot
    cases occupant with
    | none => exact ih (first + 1) failed
    | some a =>
      simp only [updateUntilFrom] at failed
      split at failed
      next b other equal =>
        refine ⟨keyAt first generation, a, ?_⟩
        rw [equal]
        exact failed
      next b equal => exact ih (first + 1) failed

end UpdateUntil

section Matches

variable {R : α → α → Prop} {s t : Slots resident α}

theorem Matches.length_eq (same : s.Matches R t) : t.slots.length = s.slots.length :=
  same.slots.length_eq.symm

theorem Matches.getElem? (same : s.Matches R t) (index : Nat) :
    Option.Rel (Slot.Matches R) s.slots[index]? t.slots[index]? :=
  forall₂_getElem? same.slots index

theorem Matches.get? (same : s.Matches R t) (key : Key resident) :
    Option.Rel R (s.get? key) (t.get? key) := by
  unfold Slots.get?
  rcases rel_cases (same.getElem? key.slot.toNat) with ⟨left, right⟩ | ⟨a, b, left, right, step⟩
  · rw [left, right]
    exact .none
  · rw [left, right]
    simp only [Option.bind_some, Slot.holding?, step.1]
    split
    · exact step.2
    · exact .none

theorem Matches.exists_of_get? (same : s.Matches R t) {key : Key resident} {a : α}
    (found : s.get? key = some a) : ∃ b, t.get? key = some b ∧ R a b :=
  exists_right_of_rel (same.get? key) found

theorem Matches.length_entries (same : s.Matches R t) :
    t.entries.length = s.entries.length := by
  have counted : ∀ {l m : List (Slot α)}, List.Forall₂ (Slot.Matches R) l m →
      m.countP (·.occupant.isSome) = l.countP (·.occupant.isSome) := by
    intro l m related
    induction related with
    | nil => rfl
    | cons head _ ih =>
      rw [List.countP_cons, List.countP_cons, ih]
      rcases rel_cases head.2 with ⟨left, right⟩ | ⟨a, b, left, right, -⟩
      · rw [left, right]
      · rw [left, right, Option.isSome_some, Option.isSome_some]
  rw [Slots.length_entries, Slots.length_entries]
  exact counted same.slots

/-- What is read off an entry and not affected by the change is listed as before. -/
theorem Matches.map_entries {β : Type} (same : s.Matches R t) {f : Key resident × α → β}
    (unaffected : ∀ key a b, R a b → f (key, b) = f (key, a)) :
    t.entries.map f = s.entries.map f := by
  have listed : ∀ {l m : List (Slot α)}, List.Forall₂ (Slot.Matches R) l m → ∀ first,
      (entriesFrom first m).map f = (entriesFrom first l).map f := by
    intro l m related
    induction related with
    | nil => exact fun _ => rfl
    | @cons before after _ _ head _ ih =>
      intro first
      obtain ⟨generation, occupant⟩ := before
      obtain ⟨generation', occupant'⟩ := after
      obtain ⟨rfl, occupants⟩ := head
      cases occupants with
      | none => exact ih (first + 1)
      | some step =>
        simp only [entriesFrom, List.map_cons]
        rw [ih (first + 1), unaffected _ _ _ step]
  exact listed same.slots 0

theorem Matches.fits (same : s.Matches R t) (fits : s.Fits) : t.Fits := by
  unfold Fits
  rw [same.length_eq]
  exact fits

theorem Matches.vacant_iff (same : s.Matches R t) (index : Nat) :
    (∃ generation, t.slots[index]? = some ⟨generation, none⟩) ↔
      ∃ generation, s.slots[index]? = some ⟨generation, none⟩ := by
  rcases rel_cases (same.getElem? index) with ⟨left, right⟩ | ⟨a, b, left, right, step⟩
  · rw [left, right]
  · obtain ⟨before, x⟩ := a
    obtain ⟨after, y⟩ := b
    rw [left, right]
    rcases rel_cases step.2 with ⟨vacant, vacant'⟩ | ⟨_, _, taken, taken', -⟩
    · simp only at vacant vacant'
      simp [vacant, vacant']
    · simp only at taken taken'
      simp [taken, taken']

theorem Matches.consistent (same : s.Matches R t) (consistent : s.Consistent) :
    t.Consistent where
  free_nodup := by
    rw [same.free_eq]
    exact consistent.free_nodup
  vacant_iff := by
    intro index
    rw [same.free_eq, ← consistent.vacant_iff index]
    exact same.vacant_iff index
  size_eq := by
    rw [same.size_eq, same.length_entries]
    exact consistent.size_eq

end Matches

end Slots

end ModularSynth
