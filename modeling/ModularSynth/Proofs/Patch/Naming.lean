import Mathlib.Data.List.NodupEquivFin
import Mathlib.Order.Bounds.Basic
import ModularSynth.Device.Builtin
import ModularSynth.Proofs.Patch.Refusal

/-!
# Ports by name and by number

A panel numbers the ports of a side, and a patch holds one value under each number, so that what a
device looks up is always there. A name means the greatest number among the ports that have it,
although a search of the panel finds the least; the two agree on the names that occur no more than
once (`Panel.lastIndexOf?_eq_indexOf?_iff`). As no panel ever changes, neither does what a name
means, from the addition of a device to its deletion (`named_of_run`).
-/

namespace ModularSynth

/-! ### Numbers of ports with a name -/

namespace Panel

/-- The port with this number on a side has this name. -/
def Named (panel : Panel) (direction : Direction) (name : String) (connector : Nat) : Prop :=
  (panel.ports direction)[connector]?.map (·.name) = some name

variable {panel : Panel} {direction : Direction} {name : String} {connector : Nat}

theorem named_iff_getElem :
    panel.Named direction name connector ↔
      ∃ inside : connector < (panel.ports direction).length,
        (panel.ports direction)[connector].name = name := by
  unfold Named
  constructor
  · intro named
    obtain ⟨port, found, rfl⟩ := Option.map_eq_some_iff.mp named
    obtain ⟨inside, rfl⟩ := List.getElem?_eq_some_iff.mp found
    exact ⟨inside, rfl⟩
  · intro named
    obtain ⟨inside, rfl⟩ := named
    rw [List.getElem?_eq_getElem inside, Option.map_some]

theorem lastIndexOf?_eq_some_iff_isGreatest :
    panel.lastIndexOf? direction name = some connector ↔
      IsGreatest {connector | panel.Named direction name connector} connector := by
  rw [lastIndexOf?_eq_some_iff]
  constructor
  · intro last
    obtain ⟨named, later⟩ := last
    refine ⟨named, ?_⟩
    intro other named'
    by_contra above
    exact later other (Nat.lt_of_not_le above) named'
  · intro greatest
    obtain ⟨named, bound⟩ := greatest
    refine ⟨named, ?_⟩
    intro later above named'
    exact Nat.not_le_of_lt above (bound named')

theorem indexOf?_eq_some_iff_isLeast :
    panel.indexOf? direction name = some connector ↔
      IsLeast {connector | panel.Named direction name connector} connector := by
  unfold indexOf?
  rw [List.findIdx?_eq_some_iff_getElem]
  constructor
  · intro first
    obtain ⟨inside, named, earlier⟩ := first
    refine ⟨named_iff_getElem.mpr ⟨inside, of_decide_eq_true named⟩, ?_⟩
    intro other named'
    obtain ⟨inside', named'⟩ := named_iff_getElem.mp named'
    by_contra below
    exact earlier other (Nat.lt_of_not_le below) (decide_eq_true named')
  · intro least
    obtain ⟨named, bound⟩ := least
    obtain ⟨inside, named⟩ := named_iff_getElem.mp named
    refine ⟨inside, decide_eq_true named, ?_⟩
    intro earlier below named'
    have inside' : earlier < (panel.ports direction).length := by omega
    exact Nat.not_le_of_lt below
      (bound (named_iff_getElem.mpr ⟨inside', of_decide_eq_true named'⟩))

/-- A name occurs twice when two numbers have it. -/
theorem duplicate_name_iff :
    List.Duplicate name ((panel.ports direction).map (·.name)) ↔
      ∃ first second, first < second ∧ panel.Named direction name first ∧
        panel.Named direction name second := by
  rw [List.duplicate_iff_exists_distinct_get]
  simp only [named_iff_getElem]
  constructor
  · intro twice
    obtain ⟨first, second, below, named, named'⟩ := twice
    have inside : ∀ index : Fin ((panel.ports direction).map (·.name)).length,
        index < (panel.ports direction).length := fun index => by simpa using index.isLt
    exact ⟨first, second, below, ⟨inside first, by simpa using named.symm⟩,
      ⟨inside second, by simpa using named'.symm⟩⟩
  · intro twice
    obtain ⟨first, second, below, ⟨inside, named⟩, ⟨inside', named'⟩⟩ := twice
    exact ⟨⟨first, by simpa using inside⟩, ⟨second, by simpa using inside'⟩, below,
      by simp [named], by simp [named']⟩

theorem indexOf?_eq_none_iff :
    panel.indexOf? direction name = none ↔
      ∀ port ∈ panel.ports direction, port.name ≠ name := by
  simp [indexOf?, List.findIdx?_eq_none_iff]

/-- The last port with a name is the first one exactly when there are not two. -/
theorem lastIndexOf?_eq_indexOf?_iff :
    panel.lastIndexOf? direction name = panel.indexOf? direction name ↔
      ((panel.ports direction).map (·.name)).count name ≤ 1 := by
  rw [← Nat.not_lt, Nat.lt_iff_add_one_le, ← List.duplicate_iff_two_le_count, duplicate_name_iff]
  constructor
  · intro same twice
    obtain ⟨first, second, below, named, named'⟩ := twice
    cases last : panel.lastIndexOf? direction name with
    | none =>
      obtain ⟨inside, named⟩ := named_iff_getElem.mp named
      exact lastIndexOf?_eq_none_iff.mp last _ (List.getElem_mem inside) named
    | some connector =>
      have greatest := lastIndexOf?_eq_some_iff_isGreatest.mp last
      have least := indexOf?_eq_some_iff_isLeast.mp (same.symm.trans last)
      have above : second ≤ connector := greatest.2 named'
      have under : connector ≤ first := least.2 named
      omega
  · intro once
    cases last : panel.lastIndexOf? direction name with
    | none => exact (indexOf?_eq_none_iff.mpr (lastIndexOf?_eq_none_iff.mp last)).symm
    | some connector =>
      have greatest := lastIndexOf?_eq_some_iff_isGreatest.mp last
      refine (indexOf?_eq_some_iff_isLeast.mpr ⟨greatest.1, ?_⟩).symm
      intro other named
      by_contra below
      exact once ⟨other, connector, Nat.lt_of_not_le below, named, greatest.1⟩

example : let panel : Panel := { outputs := [.ofKind "a" .bool, .ofKind "b" .bool, .ofKind "a" .float] }
    (panel.lastIndexOf? .output "a", panel.indexOf? .output "a") = (some 2, some 0) := by decide

end Panel

/-! ### Built-in devices find their ports -/

namespace Builtin

/-- What a built-in device looks up is there: none of its inputs is missing, whatever it computes
from them, and it has an output to write to. -/
structure FindsPorts (builtin : Builtin) (inputs outputs : List Value) : Prop where
  input : ∀ connector < builtin.panel.inputs.length, ∀ reason,
    floatInput builtin.panel inputs connector ≠ .error (.failed reason)
  step : ∀ rate reason, (builtin.step rate inputs outputs).failure ≠ some (.failed reason)
  output : 0 < outputs.length

theorem floatInput_ne_failed (panel : Panel) {inputs : List Value} {connector : Nat}
    (inside : connector < inputs.length) (reason : String) :
    floatInput panel inputs connector ≠ .error (.failed reason) := by
  unfold floatInput
  rw [List.getElem?_eq_getElem inside]
  split
  next missing => cases missing
  next => simp
  next => simp

theorem oscillate_ne_failed (rate : UInt32) {inputs : List Value} (phase : Float)
    (every : 3 ≤ inputs.length) (reason : String) :
    oscillate rate inputs phase ≠ .error (.failed reason) := by
  have present : ∀ connector < 3,
      floatInput oscillatorPanel inputs connector ≠ .error (.failed reason) :=
    fun connector inside => floatInput_ne_failed _ (by omega) reason
  have frequency := present 0 (by decide)
  have gain := present 1 (by decide)
  have offset := present 2 (by decide)
  unfold oscillate
  by_cases stopped : rate = 0
  · simp [stopped, throw, throwThe, MonadExceptOf.throw, bind, Except.bind]
  · simp only [if_neg stopped, bind, Except.bind, pure, Except.pure]
    cases first : floatInput oscillatorPanel inputs 0 with
    | error failure => simpa [first] using frequency
    | ok frequency =>
      cases second : floatInput oscillatorPanel inputs 1 with
      | error failure => simpa [second] using gain
      | ok gain =>
        cases third : floatInput oscillatorPanel inputs 2 with
        | error failure => simpa [third] using offset
        | ok offset => simp

theorem findsPorts_of_lengths (builtin : Builtin) {inputs outputs : List Value}
    (every : inputs.length = builtin.panel.inputs.length)
    (every' : outputs.length = builtin.panel.outputs.length) :
    builtin.FindsPorts inputs outputs := by
  refine ⟨?_, ?_, ?_⟩
  · intro connector inside reason
    exact floatInput_ne_failed _ (by omega) reason
  · intro rate reason failed
    cases builtin with
    | constant value => cases failed
    | oscillator phase =>
      have found := oscillate_ne_failed rate phase (Nat.le_of_eq every.symm) reason
      simp only [step] at failed
      split at failed
      next => cases failed
      next failure refused =>
        rw [refused] at found
        exact found (congrArg Except.error (Option.some.inj failed))
    | converter =>
      have inside : 0 < inputs.length := by rw [every]; decide
      have found := floatInput_ne_failed converterPanel inside reason
      simp only [step] at failed
      split at failed
      next => cases failed
      next failure refused =>
        rw [refused] at found
        exact found (congrArg Except.error (Option.some.inj failed))
  · rw [every']
    cases builtin <;> exact Nat.one_pos

end Builtin

namespace Patch

variable {D : Type} [Device D]

/-- What the ports of a patch are and what their names mean. -/
structure Named (p : Patch D) : Prop where
  /-- Each device has exactly one value for each port of its panel, -/
  shape : ∀ slot placed, p.devices.at? slot = some placed → ∀ direction,
    (placed.values direction).length = ((Device.panel placed.device).ports direction).length
  /-- so a built-in device finds its ports when a pass, having propagated, steps it. -/
  finds : ∀ slot placed, p.propagate.devices.at? slot = some placed → ∀ builtin : Builtin,
    Device.panel placed.device = Device.panel builtin →
      builtin.FindsPorts placed.inputs placed.outputs
  /-- A name means the greatest number of a port that has it, -/
  greatest : ∀ id device, p.device? id = some device → ∀ direction name address,
    p.resolvePort id name direction = .ok address ↔ address.device = id ∧
      IsGreatest {connector | (Device.panel device).Named direction name connector}
        address.connector
  /-- and nothing exactly when there is no such port. -/
  unknown : ∀ id device, p.device? id = some device → ∀ direction name error,
    p.resolvePort id name direction = .error error ↔ error = .unknownPort id direction name ∧
      ∀ connector, ¬ (Device.panel device).Named direction name connector
  /-- It keeps its meaning until the device is deleted, whatever else is done. -/
  lasting : ∀ id device, p.device? id = some device → ∀ later : List (Operation D),
    .deleteDevice id ∉ later → ∀ direction name,
      (p.run later).2.resolvePort id name direction = p.resolvePort id name direction
  /-- What a name means holds a value and can be connected. -/
  port : ∀ id direction name address, p.resolvePort id name direction = .ok address →
    (p.portValue? direction address).isSome ∧ p.checkAddress address direction = .ok ()
  /-- The panel finds the same port exactly for a name that occurs at most once. -/
  agrees : ∀ id device, p.device? id = some device → ∀ direction name,
    (p.resolvePort id name direction).toOption.map (·.connector) =
        (Device.panel device).indexOf? direction name ↔
      (((Device.panel device).ports direction).map (·.name)).count name ≤ 1

variable {p : Patch D} {id : DeviceId} {device : D} {direction : Direction} {name : String}

/-- What a name means depends on nothing but the panel. -/
theorem resolvePort_of_device? (lives : p.device? id = some device) :
    p.resolvePort id name direction =
      match (Device.panel device).lastIndexOf? direction name with
      | none => .error (.unknownPort id direction name)
      | some connector => .ok ⟨id, connector⟩ := by
  obtain ⟨placed, found, rfl⟩ := Option.map_eq_some_iff.mp lives
  cases known : (Device.panel placed.device).lastIndexOf? direction name with
  | none => simp only [resolvePort, found, known]
  | some connector => simp only [resolvePort, found, known]

theorem resolvePort_eq_ok_iff_isGreatest (lives : p.device? id = some device)
    {address : PortAddress} :
    p.resolvePort id name direction = .ok address ↔ address.device = id ∧
      IsGreatest {connector | (Device.panel device).Named direction name connector}
        address.connector := by
  rw [resolvePort_of_device? lives, ← Panel.lastIndexOf?_eq_some_iff_isGreatest]
  obtain ⟨other, connector⟩ := address
  cases last : (Device.panel device).lastIndexOf? direction name with
  | none => simp
  | some greatest => simp [eq_comm]

theorem resolvePort_eq_error_iff_not_named (lives : p.device? id = some device)
    {error : PatchError} :
    p.resolvePort id name direction = .error error ↔ error = .unknownPort id direction name ∧
      ∀ connector, ¬ (Device.panel device).Named direction name connector := by
  rw [resolvePort_of_device? lives]
  cases last : (Device.panel device).lastIndexOf? direction name with
  | none =>
    have unnamed : ∀ connector, ¬ (Device.panel device).Named direction name connector := by
      intro connector named
      obtain ⟨inside, named⟩ := Panel.named_iff_getElem.mp named
      exact Panel.lastIndexOf?_eq_none_iff.mp last _ (List.getElem_mem inside) named
    simp [unnamed, eq_comm]
  | some greatest =>
    have named := (Panel.lastIndexOf?_eq_some_iff_isGreatest.mp last).1
    simp only [reduceCtorEq, false_iff, not_and, not_forall, not_not]
    exact fun _ => ⟨greatest, named⟩

/-- A panel stays as it is through every run that does not delete its device. -/
theorem exists_device?_run (consistent : p.devices.Consistent) (lives : p.device? id = some device)
    {later : List (Operation D)} (kept : .deleteDevice id ∉ later) :
    ∃ device', (p.run later).2.device? id = some device' ∧
      Device.panel device' = Device.panel device := by
  obtain ⟨placed, found, rfl⟩ := Option.map_eq_some_iff.mp lives
  obtain ⟨placed', found', ages⟩ := device_kept_of_run consistent found kept
  exact ⟨placed'.device, device?_of_get? found', ages.continues.1⟩

/-- The values are there before the devices step. -/
theorem Checkable.findsPorts (checkable : p.Checkable) {slot : Nat} {placed : Placed D}
    (held : p.propagate.devices.at? slot = some placed) {builtin : Builtin}
    (same : Device.panel placed.device = Device.panel builtin) :
    builtin.FindsPorts placed.inputs placed.outputs := by
  obtain ⟨before, held', ages⟩ :=
    exists_left_of_rel ((aged_propagate p).devices.at? slot) held
  have fitted := ages.continues.2 (checkable.fitted slot before held')
  apply builtin.findsPorts_of_lengths
  · rw [← Placed.values.eq_1 placed, fitted .input, same]
    rfl
  · rw [← Placed.values.eq_2 placed, fitted .output, same]
    rfl

/-- In every patch, the ports of every device are numbered and named by its panel. -/
theorem named_of_run (settings : Settings) (operations : List (Operation D)) :
    ((ofSettings settings).run operations).2.Named := by
  have reachable : ((ofSettings settings).run operations).2.Reachable :=
    ⟨settings, operations, rfl⟩
  generalize ((ofSettings settings).run operations).2 = p at reachable
  have checkable := checkable_of_reachable reachable
  have consistent := devices_consistent_of_reachable reachable
  refine
    { shape := checkable.fitted
      finds := fun slot placed held builtin same => checkable.findsPorts held same
      greatest := fun id device lives direction name address =>
        resolvePort_eq_ok_iff_isGreatest lives
      unknown := fun id device lives direction name error =>
        resolvePort_eq_error_iff_not_named lives
      lasting := ?_
      port := ?_
      agrees := ?_ }
  · intro id device lives later kept direction name
    obtain ⟨device', lives', same⟩ := exists_device?_run consistent lives kept
    rw [resolvePort_of_device? lives, resolvePort_of_device? lives', same]
  · intro id direction name address resolved
    have port := resolvePort_hasPort resolved
    refine ⟨?_, checkable.checkAddress_eq_ok_iff.mpr port⟩
    obtain ⟨placed, found, inside⟩ := port
    have fitted := checkable.fitted _ placed (Slots.at?_of_get? found)
    unfold portValue?
    rw [found, Option.bind_some, List.getElem?_eq_getElem (by rw [fitted]; exact inside)]
    rfl
  · intro id device lives direction name
    rw [← Panel.lastIndexOf?_eq_indexOf?_iff, resolvePort_of_device? lives]
    cases (Device.panel device).lastIndexOf? direction name with
    | none => rfl
    | some connector => rfl

end Patch

end ModularSynth
