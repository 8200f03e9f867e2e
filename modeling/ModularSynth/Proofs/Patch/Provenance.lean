import ModularSynth.Proofs.Patch.Refusal
import ModularSynth.Proofs.Patch.Restoring

/-!
# Where the values in inputs come from

An input is written in two ways. A pass carries to it what the output at the other end of its cable
holds, unless that is a text; and the addition of its device or a reset of the patch gives it its
initial value. So what an input holds was brought by the latest pass that brought it anything since
then, or it is the initial value (`Patch.Origin`). A run is followed instant by instant
(`Patch.instants`), where a read counts as the passes that it makes: what happens at one instant
says which inputs keep their values and which get a new one with a new origin.
-/

namespace ModularSynth

/-- What happens at an instant of a run. -/
inductive Event where
  | pass | reset | edit
  deriving DecidableEq

/-- A patch, and what happens to it next. -/
structure Instant (D : Type) where
  patch : Patch D
  event : Event

namespace Patch

variable {D : Type}

/-- A cable that ends at the input brings it a value: the output at its other end holds the value,
which is not a text. -/
def Brings (p : Patch D) (input : PortAddress) (value : Value) : Prop :=
  ∃ cable ∈ p.cables.values, cable.destination = input ∧
    p.outputValue? cable.source = some value ∧ value.kind ≠ .text

/-- The device lives at all these instants, and the patch is reset at none. -/
def Undisturbed (id : DeviceId) (instants : List (Instant D)) : Prop :=
  ∀ instant ∈ instants, (instant.patch.device? id).isSome ∧ instant.event ≠ .reset

/-- A pass among the instants brought a value to the input, and from its start through all the
instants after it the device of the input lived and was not reset. -/
def Brought (past : List (Instant D)) (input : PortAddress) (value : Value)
    (after : List (Instant D)) : Prop :=
  ∃ before p, past = before ++ ⟨p, .pass⟩ :: after ∧ p.Brings input value ∧
    Undisturbed input.device (⟨p, .pass⟩ :: after)

variable [Device D]

/-- Where the value of an input comes from, after the instants of a run. -/
inductive Origin (past : List (Instant D)) (p : Patch D) (input : PortAddress) : Value → Prop
  | initial {device : D} {port : Port} (lives : p.device? input.device = some device)
      (declared : (Device.panel device).inputs[input.connector]? = some port)
      (nothing : ∀ value after, ¬ Brought past input value after) :
      Origin past p input port.initial
  | brought {value : Value} {after : List (Instant D)}
      (arrived : Brought past input value after)
      (latest : ∀ value' after', Brought past input value' after' →
        after.length ≤ after'.length) :
      Origin past p input value

/-! ### The instants of a run -/

/-- The patches from which the passes of so many frames start, one that fails included. -/
def passStarts (p : Patch D) : Nat → List (Patch D)
  | 0 => []
  | count + 1 =>
    p :: match p.pass with
      | (.ok (), after) => after.passStarts count
      | (.error _, _) => []

/-- The instants of one operation. A read is as many passes. -/
def instantsOf (p : Patch D) : Operation D → List (Instant D)
  | .pass => [⟨p, .pass⟩]
  | .readFrames buffer =>
    if buffer.length % frameBytes = 0 then
      (p.passStarts (p.framesIn buffer)).map (⟨·, .pass⟩)
    else []
  | .reset => [⟨p, .reset⟩]
  | _ => [⟨p, .edit⟩]

/-- The instants of a run, oldest first. -/
def instants (p : Patch D) : List (Operation D) → List (Instant D)
  | [] => []
  | operation :: operations =>
    p.instantsOf operation ++ (p.perform operation).2.instants operations

/-- What happens at an instant leads from one patch to another. -/
inductive Happens (p : Patch D) : Event → Patch D → Prop
  | pass : Happens p .pass p.pass.2
  | reset : Happens p .reset p.reset
  | edit {operation : Operation D} (edits : operation.edits = true) :
      Happens p .edit (p.perform operation).2

/-- What happens at some instants, one after the other, leads from one patch to another. -/
inductive Leads : Patch D → List (Instant D) → Patch D → Prop
  | nil (p : Patch D) : Leads p [] p
  | cons {p q last : Patch D} {event : Event} {rest : List (Instant D)}
      (happens : p.Happens event q) (leads : Leads q rest last) :
      Leads p (⟨p, event⟩ :: rest) last

theorem Leads.append {p q last : Patch D} {front back : List (Instant D)}
    (first : Leads p front q) (second : Leads q back last) : Leads p (front ++ back) last := by
  induction first with
  | nil p => exact second
  | cons happens _ ih => exact .cons happens (ih second)

theorem leads_frames (p : Patch D) (count : Nat) :
    Leads p ((p.passStarts count).map (⟨·, .pass⟩)) (p.frames count).2.2 := by
  induction count generalizing p with
  | zero => exact .nil p
  | succ count ih =>
    have once : p.Happens .pass p.pass.2 := .pass
    rw [passStarts, List.map_cons]
    cases outcome : p.pass.1 with
    | error failure =>
      have passed : p.pass = (.error failure, p.pass.2) := Prod.ext outcome rfl
      rw [frames_of_error outcome, passed]
      exact .cons once (.nil _)
    | ok done =>
      have passed : p.pass = (.ok (), p.pass.2) := Prod.ext outcome rfl
      rw [frames_of_ok outcome, passed]
      exact .cons once (ih p.pass.2)

theorem leads_perform (p : Patch D) (operation : Operation D) :
    Leads p (p.instantsOf operation) (p.perform operation).2 := by
  cases operation with
  | pass =>
    have after : (p.perform .pass).2 = p.pass.2 := snd_perform_pass p
    rw [after]
    exact .cons .pass (.nil _)
  | readFrames buffer =>
    have after : (p.perform (.readFrames buffer)).2 = (p.readFrames buffer).patch := rfl
    rw [after, instantsOf]
    by_cases aligned : buffer.length % frameBytes = 0
    · rw [if_pos aligned, readFrames_of_aligned aligned]
      exact leads_frames p _
    · rw [if_neg aligned, readFrames_of_misaligned aligned]
      exact .nil p
  | reset => exact .cons .reset (.nil _)
  | _ => exact .cons (.edit rfl) (.nil _)

theorem leads_run (p : Patch D) (operations : List (Operation D)) :
    Leads p (p.instants operations) (p.run operations).2 := by
  induction operations generalizing p with
  | nil => exact .nil p
  | cons operation operations ih => exact (leads_perform p operation).append (ih _)

/-! ### What edits do to devices -/

/-- An edit leaves the devices as they are, adds one or takes one out. -/
theorem devices_perform_of_edits (p : Patch D) {operation : Operation D}
    (edits : operation.edits = true) :
    (p.perform operation).2.devices = p.devices ∨
      (∃ device, (p.perform operation).2.devices = (p.devices.insert (.fresh device)).2) ∨
      ∃ id, (p.perform operation).2.devices = (p.devices.remove id).2 := by
  cases operation with
  | addDevice device => exact Or.inr (Or.inl ⟨device, rfl⟩)
  | deleteDevice id =>
    cases found : p.devices.get? id with
    | none =>
      have refused : p.deleteDevice id = .error (.unknownDevice id) := by
        simp only [deleteDevice, found]
      exact Or.inl (settle_keeps devices (by simp [refused]))
    | some placed =>
      rw [perform_deleteDevice found]
      exact Or.inr (Or.inr ⟨id, devices_withoutDevice p id placed⟩)
  | plug source sourcePort destination destinationPort =>
    refine Or.inl (settleCable_keeps devices ?_)
    intro result plugged
    obtain ⟨output, input, same⟩ := eq_withCable_of_plug plugged
    rw [same]
    rfl
  | connect source destination =>
    refine Or.inl (settleCable_keeps devices ?_)
    intro result connected
    rw [(connect_eq_ok_iff.mp connected).2.2.2.2]
    rfl
  | unplug id =>
    refine Or.inl (settle_keeps devices ?_)
    intro after unplugged
    obtain ⟨-, -, rfl⟩ := unplug_eq_ok_iff.mp unplugged
    exact devices_removeCable p id
  | setOutput id port =>
    refine Or.inl (settle_keeps devices ?_)
    intro after chosen
    obtain ⟨-, -, rfl⟩ := setOutput_eq_ok_iff.mp chosen
    rfl
  | clearOutput => exact Or.inl rfl
  | setRate hertz => exact Or.inl rfl
  | setReadCap frames => exact Or.inl rfl
  | pass => cases edits
  | readFrames buffer => cases edits
  | reset => cases edits

/-- After an edit a device is as it was, or it is new. -/
theorem get?_perform_of_edits {p : Patch D} (consistent : p.devices.Consistent)
    {operation : Operation D} (edits : operation.edits = true) {id : DeviceId} {placed : Placed D}
    (found : (p.perform operation).2.devices.get? id = some placed) :
    p.devices.get? id = some placed ∨
      p.devices.get? id = none ∧ ∃ device, placed = .fresh device := by
  rcases p.devices_perform_of_edits edits with same | ⟨device, added⟩ | ⟨gone, removed⟩
  · rw [same] at found
    exact Or.inl found
  · rw [added] at found
    cases earlier : p.devices.get? id with
    | some before =>
      have kept := consistent.get?_insert_of_some (.fresh device) earlier
      exact Or.inl (kept.symm.trans found)
    | none =>
      obtain ⟨position, occupied⟩ := Slots.occupied_of_insert p.devices (.fresh device)
      rcases occupied _ _ _ (Slots.get?_eq_some_iff.mp found) with ⟨-, new⟩ | before
      · exact Or.inr ⟨rfl, device, new⟩
      · rw [Slots.get?_eq_some_iff.mpr before] at earlier
        cases earlier
  · rw [removed, Slots.get?_remove] at found
    split at found
    · cases found
    · exact Or.inl found

/-! ### What happens to inputs -/

section Inputs

variable {p q : Patch D} {event : Event} {input : PortAddress} {value : Value}

theorem Happens.fed (happens : p.Happens event q) (fed : p.Fed) : q.Fed := by
  cases happens with
  | pass => exact fed.pass
  | reset => exact fed.of_eq rfl rfl
  | edit edits => exact fed.effect (effect_perform p _)

theorem Happens.devices_consistent (happens : p.Happens event q)
    (consistent : p.devices.Consistent) : q.devices.Consistent := by
  cases happens with
  | pass => exact (aged_pass p).devices.consistent consistent
  | reset => exact (aged_reset p).devices.consistent consistent
  | edit edits => exact (effect_perform p _).devices_consistent consistent

theorem inputValue?_pass (p : Patch D) (input : PortAddress) :
    p.pass.2.inputValue? input = p.propagate.inputValue? input :=
  inputValue?_stepAll p.propagate input

/-- An input to which nothing is brought keeps its value through a pass. -/
theorem inputValue?_pass_of_quiet (quiet : ∀ value, ¬ p.Brings input value) :
    p.pass.2.inputValue? input = p.inputValue? input := by
  rw [inputValue?_pass]
  apply inputValue?_propagate_of_silence
  intro cable member ends value held
  by_contra travels
  exact quiet value ⟨cable, member, ends, held, travels⟩

/-- An input to which something is brought takes it over. -/
theorem inputValue?_pass_of_brings (fed : p.Fed) (brings : p.Brings input value)
    (port : (p.inputValue? input).isSome) : p.pass.2.inputValue? input = some value := by
  obtain ⟨cable, member, rfl, held, travels⟩ := brings
  rw [inputValue?_pass]
  exact inputValue?_propagate_of_arrival fed.nodup_destinations member held travels port

theorem isSome_inputValue?_of_pass (found : p.pass.2.inputValue? input = some value) :
    (p.inputValue? input).isSome := by
  rw [inputValue?_pass] at found
  by_contra missing
  rw [inputValue?_propagate_of_none (by simpa using missing)] at found
  cases found

omit [Device D] in
theorem exists_device?_of_inputValue? (found : p.inputValue? input = some value) :
    ∃ device, p.device? input.device = some device := by
  obtain ⟨placed, live, -⟩ := Option.bind_eq_some_iff.mp found
  exact ⟨placed.device, device?_of_get? live⟩

theorem exists_device?_of_pass {device : D} (lives : p.pass.2.device? input.device = some device) :
    ∃ before, p.device? input.device = some before ∧
      Device.panel device = Device.panel before := by
  obtain ⟨placed, live, rfl⟩ := Option.map_eq_some_iff.mp lives
  obtain ⟨before, live', ages⟩ := exists_left_of_rel ((aged_pass p).devices.get? _) live
  exact ⟨before.device, device?_of_get? live', ages.continues.1⟩

/-- A new device holds what its panel says. -/
theorem exists_port_of_fresh {device : D} {connector : Nat}
    (found : (Placed.fresh device).inputs[connector]? = some value) :
    ∃ port, (Device.panel device).inputs[connector]? = some port ∧ value = port.initial := by
  have held := (Placed.getElem?_values_fresh device .input connector).symm.trans found
  obtain ⟨port, declared, rfl⟩ := Option.map_eq_some_iff.mp held
  exact ⟨port, declared, rfl⟩

end Inputs

/-! ### Origins through a run -/

section Origins

variable {past : List (Instant D)} {p q : Patch D} {event : Event} {input : PortAddress}
  {value : Value} {after : List (Instant D)}

omit [Device D] in
/-- What was brought was brought at the last instant, or before it and has lasted. -/
theorem brought_concat_iff {instant : Instant D} :
    Brought (past ++ [instant]) input value after ↔
      (after = [] ∧ instant.event = .pass ∧ instant.patch.Brings input value ∧
        (instant.patch.device? input.device).isSome) ∨
      ∃ earlier, after = earlier ++ [instant] ∧ Brought past input value earlier ∧
        (instant.patch.device? input.device).isSome ∧ instant.event ≠ .reset := by
  constructor
  · intro brought
    obtain ⟨before, r, split, brings, since⟩ := brought
    rcases List.eq_nil_or_concat after with rfl | ⟨earlier, last, rfl⟩
    · obtain ⟨-, same⟩ := List.append_inj' split rfl
      cases same
      exact Or.inl ⟨rfl, rfl, brings, (since _ List.mem_cons_self).1⟩
    · rw [List.concat_eq_append] at split since ⊢
      rw [← List.cons_append, ← List.append_assoc] at split
      obtain ⟨front, same⟩ := List.append_inj' split rfl
      cases same
      have all : ∀ i ∈ ⟨r, .pass⟩ :: earlier, i ∈ ⟨r, .pass⟩ :: (earlier ++ [instant]) :=
        fun i member => List.mem_append_left [instant] member
      have lasted := since instant (List.mem_cons_of_mem _ (List.mem_append_right _ (by simp)))
      exact Or.inr ⟨earlier, rfl, ⟨before, r, front, brings, fun i member =>
        since i (all i member)⟩, lasted⟩
  · intro brought
    rcases brought with ⟨rfl, passes, brings, lives⟩ | ⟨earlier, rfl, brought, lasted⟩
    · obtain ⟨r, event⟩ := instant
      cases passes
      refine ⟨past, r, rfl, brings, ?_⟩
      intro i member
      obtain rfl := List.mem_singleton.mp member
      exact ⟨lives, nofun⟩
    · obtain ⟨before, r, rfl, brings, since⟩ := brought
      refine ⟨before, r, by rw [List.append_assoc, List.cons_append], brings, ?_⟩
      intro i member
      rw [← List.cons_append, List.mem_append, List.mem_singleton] at member
      rcases member with member | rfl
      · exact since i member
      · exact lasted

/-- A value keeps its origin at an instant that brings nothing new to it. -/
theorem Origin.keep {device device' : D} (origin : Origin past p input value)
    (lives : p.device? input.device = some device) (lives' : q.device? input.device = some device')
    (same : Device.panel device' = Device.panel device) (no_reset : event ≠ .reset)
    (quiet : event = .pass → ∀ value, ¬ p.Brings input value) :
    Origin (past ++ [⟨p, event⟩]) q input value := by
  have earlier : ∀ value after, Brought (past ++ [⟨p, event⟩]) input value after →
      ∃ front, after = front ++ [⟨p, event⟩] ∧ Brought past input value front := by
    intro value after brought
    rcases brought_concat_iff.mp brought with ⟨-, passes, brings, -⟩ | ⟨front, rfl, brought, -⟩
    · exact absurd brings (quiet passes value)
    · exact ⟨front, rfl, brought⟩
  cases origin with
  | initial lives'' declared nothing =>
    rw [lives] at lives''
    cases lives''
    refine .initial lives' (same ▸ declared) ?_
    intro value after brought
    obtain ⟨front, -, brought⟩ := earlier value after brought
    exact nothing value front brought
  | @brought _ after arrived latest =>
    have alive : (p.device? input.device).isSome := by rw [lives]; rfl
    refine .brought (brought_concat_iff.mpr (Or.inr ⟨after, rfl, arrived, alive, no_reset⟩)) ?_
    intro value' after' brought
    obtain ⟨front, rfl, arrived'⟩ := earlier value' after' brought
    simpa using latest value' front arrived'

/-- A value that a pass brings comes from there. -/
theorem Origin.arrive (brings : p.Brings input value)
    (lives : (p.device? input.device).isSome) :
    Origin (past ++ [⟨p, .pass⟩]) q input value :=
  .brought (brought_concat_iff.mpr (Or.inl ⟨rfl, rfl, brings, lives⟩)) fun _ _ _ => Nat.zero_le _

/-- After a reset, and in a device that was not there before, values are initial. -/
theorem Origin.start {device : D} {port : Port} (lives : q.device? input.device = some device)
    (declared : (Device.panel device).inputs[input.connector]? = some port)
    (no_pass : event ≠ .pass) (starts : event = .reset ∨ p.device? input.device = none) :
    Origin (past ++ [⟨p, event⟩]) q input port.initial := by
  refine .initial lives declared ?_
  intro value after brought
  rcases brought_concat_iff.mp brought with ⟨-, passes, -⟩ | ⟨front, -, -, alive, no_reset⟩
  · exact no_pass passes
  · rcases starts with reset | dead
    · exact no_reset reset
    · rw [dead] at alive
      cases alive

/-- Every input holds a value with an origin. -/
def Traced (past : List (Instant D)) (p : Patch D) : Prop :=
  ∀ input value, p.inputValue? input = some value → Origin past p input value

theorem Traced.pass (traced : Traced past p) (fed : p.Fed) :
    Traced (past ++ [⟨p, .pass⟩]) p.pass.2 := by
  intro input value found
  obtain ⟨device', lives'⟩ := exists_device?_of_inputValue? found
  obtain ⟨device, lives, same⟩ := exists_device?_of_pass lives'
  by_cases quiet : ∀ value, ¬ p.Brings input value
  · rw [inputValue?_pass_of_quiet quiet] at found
    exact (traced input value found).keep lives lives' same nofun fun _ => quiet
  · simp only [not_forall, not_not] at quiet
    obtain ⟨arrived, brings⟩ := quiet
    rw [inputValue?_pass_of_brings fed brings (isSome_inputValue?_of_pass found)] at found
    cases found
    exact .arrive brings (by rw [lives]; rfl)

theorem traced_reset (past : List (Instant D)) (p : Patch D) :
    Traced (past ++ [⟨p, .reset⟩]) p.reset := by
  intro input value found
  obtain ⟨placed, live, held⟩ := Option.bind_eq_some_iff.mp found
  have fresh := live
  rw [get?_reset] at fresh
  obtain ⟨before, -, rfl⟩ := Option.map_eq_some_iff.mp fresh
  obtain ⟨port, declared, rfl⟩ := exists_port_of_fresh held
  exact .start (device?_of_get? live) declared nofun (Or.inl rfl)

theorem Traced.edit (traced : Traced past p) (consistent : p.devices.Consistent)
    {operation : Operation D} (edits : operation.edits = true) :
    Traced (past ++ [⟨p, .edit⟩]) (p.perform operation).2 := by
  intro input value found
  obtain ⟨placed, live, held⟩ := Option.bind_eq_some_iff.mp found
  rcases get?_perform_of_edits consistent edits live with before | ⟨dead, device, rfl⟩
  · have earlier : p.inputValue? input = some value :=
      Option.bind_eq_some_iff.mpr ⟨placed, before, held⟩
    exact (traced input value earlier).keep (device?_of_get? before) (device?_of_get? live) rfl
      nofun nofun
  · obtain ⟨port, declared, rfl⟩ := exists_port_of_fresh held
    exact .start (device?_of_get? live) declared nofun (Or.inr (device?_eq_none_iff.mpr dead))

theorem Traced.leads {instants : List (Instant D)} (leads : Leads p instants q) (fed : p.Fed)
    (consistent : p.devices.Consistent) (traced : Traced past p) :
    Traced (past ++ instants) q := by
  induction leads generalizing past with
  | nil p =>
    rw [List.append_nil]
    exact traced
  | @cons p r last event rest happens _ ih =>
    have next : Traced (past ++ [⟨p, event⟩]) r := by
      cases happens with
      | pass => exact traced.pass fed
      | reset => exact traced_reset past p
      | edit edits => exact traced.edit consistent edits
    have whole := ih (happens.fed fed) (happens.devices_consistent consistent) next
    rwa [List.append_assoc] at whole

end Origins

/-! ### Inputs that keep their values -/

section Kept

variable {p q : Patch D} {instants : List (Instant D)} {input : PortAddress}

theorem Leads.alive {id : DeviceId} (leads : Leads p instants q)
    (undisturbed : Undisturbed id instants) (alive : (q.device? id).isSome) :
    (p.device? id).isSome := by
  cases leads with
  | nil => exact alive
  | cons happens rest => exact (undisturbed _ List.mem_cons_self).1

theorem inputValue?_perform_of_edits (consistent : p.devices.Consistent) {operation : Operation D}
    (edits : operation.edits = true) (alive : (p.device? input.device).isSome)
    (alive' : ((p.perform operation).2.device? input.device).isSome) :
    (p.perform operation).2.inputValue? input = p.inputValue? input := by
  obtain ⟨device, lives⟩ := Option.isSome_iff_exists.mp alive'
  obtain ⟨placed, live, -⟩ := Option.map_eq_some_iff.mp lives
  rcases get?_perform_of_edits consistent edits live with before | ⟨dead, -⟩
  · unfold inputValue? portValue?
    rw [live, before]
  · rw [device?_eq_none_iff.mpr dead] at alive
    cases alive

/-- While its device lives and is not reset, an input to which nothing is brought keeps its value. -/
theorem inputValue?_of_leads (leads : Leads p instants q) (consistent : p.devices.Consistent)
    (quiet : ∀ instant ∈ instants, instant.event = .pass →
      ∀ value, ¬ instant.patch.Brings input value)
    (undisturbed : Undisturbed input.device instants)
    (alive : (q.device? input.device).isSome) : q.inputValue? input = p.inputValue? input := by
  induction leads with
  | nil p => rfl
  | @cons p r last event rest happens later ih =>
    obtain ⟨first, others⟩ := List.forall_mem_cons.mp undisturbed
    obtain ⟨quiet, quiet'⟩ := List.forall_mem_cons.mp quiet
    rw [ih (happens.devices_consistent consistent) quiet' others alive]
    cases happens with
    | pass => exact inputValue?_pass_of_quiet (quiet rfl)
    | reset => exact absurd rfl first.2
    | edit edits =>
      exact inputValue?_perform_of_edits consistent edits first.1 (later.alive others alive)

/-- Nothing is brought over a cable that was taken out, as there was no other. -/
theorem not_brings_of_unplugged (checkable : p.Checkable) {id : CableId} {cable : Cable}
    (found : p.cable? id = some cable) (value : Value) :
    ¬ (p.perform (.unplug id)).2.Brings cable.destination value := by
  have live : p.cables.contains id = true := by
    have present : (p.cables.get? id).isSome := by
      have same : p.cables.get? id = some cable := found
      rw [same]
      rfl
    exact present
  have after : (p.perform (.unplug id)).2 = p.removeCable id := by
    simp only [perform, unplug, live, if_true, settle]
  rw [after]
  intro brings
  obtain ⟨other, member, ends, -⟩ := brings
  have listed := (checkable.removeCable id).isSome_inputCable?_iff cable.destination
  rw [inputCable?_removeCable_of_some found, if_pos rfl] at listed
  exact Bool.false_ne_true (listed.mpr ⟨other, member, ends⟩)

omit [Device D] in
/-- Nothing is brought over a cable whose output holds a text, as there is no other. -/
theorem Fed.not_brings_of_text (fed : p.Fed) {cable : Cable} (member : cable ∈ p.cables.values)
    {text : String} (held : p.outputValue? cable.source = some (.text text)) (value : Value) :
    ¬ p.Brings cable.destination value := by
  intro brings
  obtain ⟨other, member', ends, held', travels⟩ := brings
  have same : other = cable :=
    List.inj_on_of_nodup_map fed.nodup_destinations member' member ends
  subst same
  rw [held] at held'
  cases held'
  exact travels rfl

end Kept

/-- Where the values in the inputs of a patch come from, after the instants that led to it, and when
they stay. -/
structure Provenance (past : List (Instant D)) (p : Patch D) : Prop where
  /-- Every input holds what the latest pass brought to it since its device was added or the patch
  was reset, which is not a text, or else its initial value. -/
  origin : ∀ input, p.HasPort .input input →
    ∃ value, p.inputValue? input = some value ∧ Origin past p input value
  /-- So an input that holds a text holds its own initial value, -/
  text : ∀ input text, p.inputValue? input = some (.text text) → ∃ device port,
    p.device? input.device = some device ∧
      (Device.panel device).inputs[input.connector]? = some port ∧ port.initial = .text text
  /-- and what a pass changes an input to was brought over a cable. -/
  arrives : ∀ input value, p.pass.2.inputValue? input = some value →
    p.inputValue? input ≠ some value → p.Brings input value
  /-- Nothing is brought to an input whose cable was taken out, -/
  unplugged : ∀ id cable, p.cable? id = some cable →
    ∀ value, ¬ (p.perform (.unplug id)).2.Brings cable.destination value
  /-- nor over a cable whose output holds a text; -/
  silenced : ∀ cable ∈ p.cables.values, ∀ text, p.outputValue? cable.source = some (.text text) →
    ∀ value, ¬ p.Brings cable.destination value
  /-- and an input to which nothing is brought keeps its value through every pass and every edit, as
  long as its device lives and the patch is not reset. -/
  kept : ∀ input (later : List (Operation D)),
    (∀ instant ∈ p.instants later, instant.event = .pass →
      ∀ value, ¬ instant.patch.Brings input value) →
    Undisturbed input.device (p.instants later) →
    ((p.run later).2.device? input.device).isSome →
      (p.run later).2.inputValue? input = p.inputValue? input

/-- After every run every value in an input has an origin. -/
theorem provenance_of_run (settings : Settings) (operations : List (Operation D)) :
    Provenance ((ofSettings settings : Patch D).instants operations)
      ((ofSettings settings).run operations).2 := by
  have reachable : ((ofSettings settings : Patch D).run operations).2.Reachable :=
    ⟨settings, operations, rfl⟩
  have none_yet : Traced [] (ofSettings settings : Patch D) := by
    intro input value found
    cases found
  have traced := none_yet.leads (leads_run _ operations) (fed_ofSettings settings)
    Slots.consistent_empty
  rw [List.nil_append] at traced
  have checkable := checkable_of_reachable reachable
  have consistent := devices_consistent_of_reachable reachable
  generalize ((ofSettings settings : Patch D).run operations).2 = p at *
  refine
    { origin := ?_
      text := ?_
      arrives := ?_
      unplugged := fun id cable found => not_brings_of_unplugged checkable found
      silenced := fun cable member text held => checkable.fed.not_brings_of_text member held
      kept := fun input later quiet undisturbed alive =>
        inputValue?_of_leads (leads_run p later) consistent quiet undisturbed alive }
  · intro input port
    obtain ⟨placed, found, inside⟩ := port
    have fitted := checkable.fitted _ placed (Slots.at?_of_get? found) .input
    have within : input.connector < placed.inputs.length := fitted ▸ inside
    have held : p.inputValue? input = some placed.inputs[input.connector] := by
      unfold inputValue? portValue?
      rw [found, Option.bind_some]
      exact List.getElem?_eq_getElem within
    exact ⟨_, held, traced input _ held⟩
  · intro input text found
    generalize same : Value.text text = value at found
    cases traced input value found with
    | initial lives declared nothing => exact ⟨_, _, lives, declared, rfl⟩
    | brought arrived latest =>
      obtain ⟨before, q, -, ⟨cable, -, -, -, travels⟩, -⟩ := arrived
      subst same
      exact absurd rfl travels
  · intro input value found changed
    by_cases quiet : ∀ value, ¬ p.Brings input value
    · rw [inputValue?_pass_of_quiet quiet] at found
      exact absurd found changed
    · simp only [not_forall, not_not] at quiet
      obtain ⟨arrived, brings⟩ := quiet
      rw [inputValue?_pass_of_brings checkable.fed brings (isSome_inputValue?_of_pass found)]
        at found
      cases found
      exact brings

end Patch

end ModularSynth
