import ModularSynth.Proofs.Language.Program
import ModularSynth.Proofs.Patch.Wiring

/-!
# The patch of a program

`Program.Stocked` relates a patch under construction to the commands so far: the device of the n-th
create command lies in slot n, the cable of the n-th connect command in slot n, and the variables
are bound accordingly. Names and ports then mean in the patch what they mean in the program
(`Stocked.resolvePort_eq_ok_iff`), and each kind of command extends the relation by one step.
-/

namespace ModularSynth

variable {D : Type}

theorem lookup_mapIdx {β : Type} (names : List String) (f : Nat → β) (name : String) :
    (names.mapIdx fun index other => (other, f index)).lookup name =
      (names.findIdx? (· = name)).map f := by
  induction names generalizing f with
  | nil => rfl
  | cons head tail ih =>
    have rest := ih fun index => f (index + 1)
    rw [List.mapIdx_cons, List.lookup_cons, List.findIdx?_cons]
    by_cases same : head = name
    · simp [same]
    · have different : (name == head) = false := beq_false_of_ne (Ne.symm same)
      rw [different, if_neg (by simpa using same), Option.map_map]
      exact rest

namespace Program

variable [Device D] {registry : Registry D}

/-! ### Slots and commands -/

/-- The slot of a device that was created. -/
def Houses (registry : Registry D) (creation : Creation) (slot : Slot (Placed D)) : Prop :=
  ∃ device, creation.build? registry = some device ∧
    slot = ⟨firstGeneration, some (.fresh device)⟩

/-- The slot of a cable that was connected. -/
def Joins (registry : Registry D) (program : Program) (link : Link) (slot : Slot Cable) : Prop :=
  ∃ source destination, portOf? registry program .output link.source = some source ∧
    portOf? registry program .input link.destination = some destination ∧
    slot = ⟨firstGeneration, some ⟨source, destination⟩⟩

theorem Joins.append {program : Program} {link : Link} {slot : Slot Cable}
    (joins : Joins registry program link slot) (more : Program) :
    Joins registry (program ++ more) link slot := by
  obtain ⟨source, destination, begins, ends, same⟩ := joins
  refine ⟨source, destination, ?_, ?_, same⟩
  · rw [portOf?_append (mem_created_of_portOf? (by rw [begins]; rfl))]
    exact begins
  · rw [portOf?_append (mem_created_of_portOf? (by rw [ends]; rfl))]
    exact ends

theorem joins_concat_of_none {command : Command} (program : Program)
    (quiet : command.creation? = none) :
    Joins registry (program ++ [command]) = Joins registry program := by
  unfold Joins
  rw [portOf?_concat_of_none program quiet]

/-- The devices and the cables of a patch are those of a program, each in the slot of its place, and
the variables are bound to the devices. -/
structure Stocked (registry : Registry D) (program : Program) (p : Patch D)
    (bindings : List (String × DeviceId)) : Prop where
  /-- What is said of the cables by their keys needs a key for each. -/
  wired : p.cables.Fits → p.Wired
  chronological : p.cables.Fits → p.Chronological ((List.range (links program).length).map cableAt)
  devices_fit : p.devices.Fits
  devices_free : p.devices.free = []
  devices : List.Forall₂ (Houses registry) (creations program) p.devices.slots
  cables_free : p.cables.free = []
  cables : List.Forall₂ (Joins registry program) (links program) p.cables.slots
  /-- An input of the patch is taken when a connection of the program ends there. -/
  vacant_iff : ∀ input, p.inputCable? input = none ↔ some input ∉ inputs registry program
  bindings_eq : bindings = (created program).mapIdx fun index name => (name, deviceAt index)

section Stocked

variable {program : Program} {p : Patch D} {bindings : List (String × DeviceId)}

theorem Stocked.lookup (stocked : Stocked registry program p bindings) (name : String) :
    bindings.lookup name = (indexOf? program name).map deviceAt := by
  rw [stocked.bindings_eq, lookup_mapIdx]
  unfold indexOf? created
  rw [List.findIdx?_map]
  rfl

/-- The slot of the device that was created after `index` others. -/
theorem Stocked.exists_device (stocked : Stocked registry program p bindings) {index : Nat}
    {creation : Creation} (asked : (creations program)[index]? = some creation) :
    ∃ device, creation.build? registry = some device ∧
      p.devices.slots[index]? = some ⟨firstGeneration, some (.fresh device)⟩ := by
  obtain ⟨_, housed, device, built, rfl⟩ :=
    exists_right_of_rel (forall₂_getElem? stocked.devices index) asked
  exact ⟨device, built, housed⟩

/-- The slot of the cable that was connected after `index` others. -/
theorem Stocked.exists_cable (stocked : Stocked registry program p bindings) {index : Nat}
    {link : Link} (asked : (links program)[index]? = some link) :
    ∃ source destination, portOf? registry program .output link.source = some source ∧
      portOf? registry program .input link.destination = some destination ∧
      p.cables.slots[index]? = some ⟨firstGeneration, some ⟨source, destination⟩⟩ := by
  obtain ⟨_, housed, source, destination, begins, ends, rfl⟩ :=
    exists_right_of_rel (forall₂_getElem? stocked.cables index) asked
  exact ⟨source, destination, begins, ends, housed⟩

/-- The device that was created after `index` others. -/
theorem Stocked.get?_deviceAt (stocked : Stocked registry program p bindings) {index : Nat}
    {creation : Creation} (asked : (creations program)[index]? = some creation) :
    ∃ device, creation.build? registry = some device ∧
      p.devices.get? (deviceAt index) = some (.fresh device) := by
  obtain ⟨device, built, housed⟩ := stocked.exists_device asked
  have below : index < UInt32.size :=
    Nat.lt_of_lt_of_le (List.getElem?_eq_some_iff.mp housed).1 stocked.devices_fit
  refine ⟨device, built, ?_⟩
  unfold deviceAt
  rw [Slots.get?_eq_some_iff, Slots.toNat_slot_keyAt below]
  exact housed

/-- The cable that was connected after `index` others. -/
theorem Stocked.cable?_cableAt (stocked : Stocked registry program p bindings)
    (fits : p.cables.Fits) {index : Nat} {link : Link}
    (asked : (links program)[index]? = some link) :
    ∃ source destination, portOf? registry program .output link.source = some source ∧
      portOf? registry program .input link.destination = some destination ∧
      p.cable? (cableAt index) = some ⟨source, destination⟩ := by
  obtain ⟨source, destination, begins, ends, housed⟩ := stocked.exists_cable asked
  have below : index < UInt32.size :=
    Nat.lt_of_lt_of_le (List.getElem?_eq_some_iff.mp housed).1 fits
  refine ⟨source, destination, begins, ends, ?_⟩
  unfold cableAt Patch.cable?
  rw [Slots.get?_eq_some_iff, Slots.toNat_slot_keyAt below]
  exact housed

/-- In the patch a port has the address that the program gives it. -/
theorem Stocked.resolvePort_eq_ok_iff (stocked : Stocked registry program p bindings)
    (endpoint : Endpoint) {id : DeviceId} (known : bindings.lookup endpoint.device = some id)
    {direction : Direction} {address : PortAddress} :
    p.resolvePort id endpoint.port direction = .ok address ↔
      portOf? registry program direction endpoint = some address := by
  rw [stocked.lookup] at known
  obtain ⟨index, found, rfl⟩ := Option.map_eq_some_iff.mp known
  have inside := lt_length_of_indexOf? found
  have asked := List.getElem?_eq_getElem inside
  obtain ⟨device, built, placed⟩ := stocked.get?_deviceAt asked
  unfold Patch.resolvePort portOf?
  simp only [placed, found, asked, built, Option.bind_some, Placed.fresh]
  cases (Device.panel device).lastIndexOf? direction endpoint.port with
  | none => simp
  | some connector => simp

/-- A port that the program knows is found in the patch. -/
theorem Stocked.exists_resolvePort (stocked : Stocked registry program p bindings)
    {direction : Direction} {endpoint : Endpoint} {address : PortAddress}
    (port : portOf? registry program direction endpoint = some address) :
    ∃ id, bindings.lookup endpoint.device = some id ∧
      p.resolvePort id endpoint.port direction = .ok address := by
  have known : endpoint.device ∈ created program :=
    mem_created_of_portOf? (Option.isSome_iff_exists.mpr ⟨address, port⟩)
  have bound : bindings.lookup endpoint.device ≠ none := by
    rw [stocked.lookup, Ne, Option.map_eq_none_iff, indexOf?_eq_none_iff, not_not]
    exact known
  obtain ⟨id, found⟩ := Option.ne_none_iff_exists'.mp bound
  exact ⟨id, found, (stocked.resolvePort_eq_ok_iff endpoint found).mpr port⟩

theorem Stocked.cables_fit (stocked : Stocked registry program p bindings)
    (fit : (links program).length ≤ UInt32.size) : p.cables.Fits := by
  unfold Slots.Fits
  rw [← stocked.cables.length_eq]
  exact fit

/-- The devices are as they were added. -/
theorem Stocked.fitted (stocked : Stocked registry program p bindings) (id : DeviceId)
    (placed : Placed D) (found : p.devices.get? id = some placed) : placed.Fitted := by
  have housed := Slots.get?_eq_some_iff.mp found
  obtain ⟨creation, -, device, -, same⟩ :=
    exists_of_forall₂ stocked.devices (List.mem_of_getElem? housed)
  simp only [Slot.mk.injEq, Option.some.injEq] at same
  rw [same.2]
  exact Placed.fitted_fresh device

/-! ### What a command adds -/

theorem Stocked.parameter (stocked : Stocked registry program p bindings) (name : String)
    (value : Value) : Stocked registry (program ++ [.parameter name value]) p bindings := by
  have creations_eq : creations (program ++ [.parameter name value]) = creations program :=
    creations_concat_of_none program rfl
  have links_eq : links (program ++ [.parameter name value]) = links program :=
    links_concat_of_none program rfl
  have joins_eq : Joins registry (program ++ [.parameter name value]) = Joins registry program :=
    joins_concat_of_none program rfl
  exact
    { wired := stocked.wired
      chronological := links_eq ▸ stocked.chronological
      devices_fit := stocked.devices_fit
      devices_free := stocked.devices_free
      devices := creations_eq ▸ stocked.devices
      cables_free := stocked.cables_free
      cables := by
        rw [joins_eq, links_eq]
        exact stocked.cables
      vacant_iff := by
        rw [inputs_concat_of_none program rfl rfl]
        exact stocked.vacant_iff
      bindings_eq := by
        rw [created_concat_of_none program rfl]
        exact stocked.bindings_eq }

theorem Stocked.withOutput (stocked : Stocked registry program p bindings) {address : PortAddress}
    (port : p.HasPort .output address) :
    Stocked registry program { p with output := some address } bindings where
  wired := by
    intro fits
    apply (stocked.wired fits).withOutput
    intro chosen same
    cases same
    exact port
  chronological := stocked.chronological
  devices_fit := stocked.devices_fit
  devices_free := stocked.devices_free
  devices := stocked.devices
  cables_free := stocked.cables_free
  cables := stocked.cables
  vacant_iff := stocked.vacant_iff
  bindings_eq := stocked.bindings_eq

theorem Stocked.setRate (stocked : Stocked registry program p bindings) (hertz : UInt32) :
    Stocked registry program (p.setRate hertz) bindings where
  wired := fun fits => (stocked.wired fits).of_retains (Patch.aged_setRate p hertz).retains
  chronological := stocked.chronological
  devices_fit := stocked.devices_fit
  devices_free := stocked.devices_free
  devices := stocked.devices
  cables_free := stocked.cables_free
  cables := stocked.cables
  vacant_iff := stocked.vacant_iff
  bindings_eq := stocked.bindings_eq

theorem Stocked.create (stocked : Stocked registry program p bindings) {name typeName : String}
    {arguments : Arguments} {device : D}
    (built : (⟨name, typeName, arguments⟩ : Creation).build? registry = some device)
    (in_scope : ∀ before command after, program = before ++ command :: after →
      InScope registry before command)
    (room : (creations program).length < UInt32.size) :
    Stocked registry (program ++ [.create name typeName arguments]) (p.addDevice device).2
      (bindings ++ [(name, (p.addDevice device).1)]) := by
  have creations_eq : creations (program ++ [.create name typeName arguments]) =
      creations program ++ [⟨name, typeName, arguments⟩] :=
    creations_concat _ _
  have links_eq : links (program ++ [.create name typeName arguments]) = links program :=
    links_concat_of_none program rfl
  have inputs_eq : inputs registry (program ++ [.create name typeName arguments]) =
      inputs registry program :=
    inputs_concat_create in_scope
  have inserted := Slots.insert_of_free_nil stocked.devices_free (.fresh device)
  have length := stocked.devices.length_eq
  have fits : (p.addDevice device).2.devices.Fits := by
    unfold Patch.addDevice
    rw [inserted]
    unfold Slots.Fits
    simp only [List.length_append, List.length_singleton]
    omega
  exact
    { wired := fun cables_fit => (stocked.wired cables_fit).addDevice device fits
      chronological := by
        rw [links_eq]
        exact stocked.chronological
      devices_fit := fits
      devices_free := by
        unfold Patch.addDevice
        rw [inserted]
      devices := by
        unfold Patch.addDevice
        rw [inserted, creations_eq]
        exact List.rel_append stocked.devices (.cons ⟨device, built, rfl⟩ .nil)
      cables_free := stocked.cables_free
      cables := by
        rw [links_eq]
        exact stocked.cables.imp fun link slot joins => joins.append _
      vacant_iff := by
        rw [inputs_eq]
        exact stocked.vacant_iff
      bindings_eq := by
        unfold Patch.addDevice created
        rw [inserted, creations_eq, List.map_append, stocked.bindings_eq, List.map_singleton,
          List.mapIdx_concat, List.length_map, length]
        rfl }

theorem Stocked.connect (stocked : Stocked registry program p bindings)
    {source destination : Endpoint} {output input : PortAddress}
    (begins : portOf? registry program .output source = some output)
    (ends : portOf? registry program .input destination = some input)
    (output_port : p.HasPort .output output) (input_port : p.HasPort .input input)
    (vacant : p.inputCable? input = none) :
    Stocked registry (program ++ [.connect source destination]) (p.withCable output input)
      bindings := by
  have creations_eq : creations (program ++ [.connect source destination]) = creations program :=
    creations_concat_of_none program rfl
  have links_eq : links (program ++ [.connect source destination]) =
      links program ++ [⟨source, destination⟩] :=
    links_concat _ _
  have joins_eq : Joins registry (program ++ [.connect source destination]) =
      Joins registry program :=
    joins_concat_of_none program rfl
  have inserted := Slots.insert_of_free_nil stocked.cables_free ⟨output, input⟩
  have length := stocked.cables.length_eq
  have inputs_eq : inputs registry (program ++ [.connect source destination]) =
      inputs registry program ++ [some input] := by
    rw [inputs_concat_connect, ends]
  exact
    { wired := fun fits => (stocked.wired (Slots.Fits.of_insert fits)).withCable fits output_port
        input_port vacant
      chronological := by
        intro fits
        have before := Slots.Fits.of_insert fits
        have ordered := (stocked.wired before).cablesWired.chronological_withCable fits
          (stocked.chronological before)
        rw [inserted, length] at ordered
        rw [links_eq, List.length_append, List.length_singleton, List.range_succ,
          List.map_append, List.map_singleton, length]
        exact ordered
      devices_fit := stocked.devices_fit
      devices_free := stocked.devices_free
      devices := creations_eq ▸ stocked.devices
      cables_free := by
        unfold Patch.withCable
        rw [inserted]
      cables := by
        unfold Patch.withCable
        rw [inserted, joins_eq, links_eq]
        exact List.rel_append stocked.cables (.cons ⟨output, input, begins, ends, rfl⟩ .nil)
      vacant_iff := by
        intro address
        rw [Patch.inputCable?_withCable, inputs_eq, List.mem_append, List.mem_singleton,
          Option.some.injEq]
        by_cases same : address = input
        · simp [same]
        · simp [same, stocked.vacant_iff]
      bindings_eq := by
        rw [created_concat_of_none program rfl]
        exact stocked.bindings_eq }

end Stocked

end Program

end ModularSynth
