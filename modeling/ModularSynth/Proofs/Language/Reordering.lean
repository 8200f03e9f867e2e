import ModularSynth.Proofs.Language.Building
import ModularSynth.Proofs.Patch.Renaming

/-!
# The order of statements

The commands of a program may be carried out in any order in which each device is created before it
is named and the sampling rates come as before (`Program.Reorders`). Names are what the two orders
have in common: a variable stands for one create command in both, so an endpoint means the same port
of the same device, in whatever slot the device lies (`Reorders.portOf?_eq`). Hence the reordered
program is well formed too, and the patches that the two build are the same up to a renaming of slots
(`Reorders.renames`), which nothing that is played can tell.
-/

namespace ModularSynth

variable {D : Type}

namespace Command

/-- The variables that a command refers to. -/
def names : Command → List String
  | .connect source destination => [source.device, destination.device]
  | .parameter name (.text text) => if name = outputDeviceParameter then [text] else []
  | _ => []

/-- The command sets the sampling rate. -/
def setsRate : Command → Bool
  | .parameter name _ => name = rateParameter
  | _ => false

end Command

/-- The jack that an address means if its device is there. -/
def PortAddress.jack (address : PortAddress) : Jack :=
  ⟨address.device.slot.toNat, address.connector⟩

namespace Program

/-- The commands of a program in another order, with each create command before all commands that
name its variable, and the commands that set the sampling rate in the order in which they were. -/
structure Reorders (program other : Program) : Prop where
  perm : other.Perm program
  creates_first : other.Pairwise fun earlier later =>
    ∀ creation, later.creation? = some creation → creation.name ∉ earlier.names
  rates_kept : other.filter Command.setsRate = program.filter Command.setsRate

/-- The place among the create commands of the other program. -/
def place (program other : Program) (index : Nat) : Nat :=
  ((creations program)[index]?.bind fun creation => indexOf? other creation.name).getD index

/-- The port of the same device in the other program. -/
def relocate (program other : Program) (address : PortAddress) : PortAddress :=
  ⟨deviceAt (place program other address.device.slot.toNat), address.connector⟩

/-! ### Names and places -/

theorem exists_of_indexOf? {program : Program} {name : String} {index : Nat}
    (found : indexOf? program name = some index) :
    ∃ creation, (creations program)[index]? = some creation ∧ creation.name = name := by
  obtain ⟨inside, named, -⟩ := List.findIdx?_eq_some_iff_getElem.mp found
  exact ⟨_, List.getElem?_eq_getElem inside, of_decide_eq_true named⟩

theorem indexOf?_of_getElem? {program : Program} (once : (created program).Nodup) {index : Nat}
    {creation : Creation} (asked : (creations program)[index]? = some creation) :
    indexOf? program creation.name = some index := by
  obtain ⟨inside, rfl⟩ := List.getElem?_eq_some_iff.mp asked
  refine List.findIdx?_eq_some_iff_getElem.mpr ⟨inside, decide_eq_true rfl, ?_⟩
  intro earlier before same
  have names : (created program)[earlier]? = (created program)[index]? := by
    unfold created
    rw [List.getElem?_map, List.getElem?_map, List.getElem?_eq_getElem (before.trans inside),
      List.getElem?_eq_getElem inside, Option.map_some, of_decide_eq_true same, Option.map_some]
  have listed : earlier < (created program).length := by
    rw [created, List.length_map]
    exact before.trans inside
  exact absurd ((List.getElem?_inj listed once).mp names) (Nat.ne_of_lt before)

theorem slot_deviceAt {index : Nat} (numbered : index < UInt32.size) :
    (deviceAt index).slot.toNat = index :=
  Slots.toNat_slot_keyAt numbered firstGeneration

section Reorders

variable {program other : Program} (reorders : Reorders program other)

include reorders

theorem Reorders.creations_perm : (creations other).Perm (creations program) :=
  reorders.perm.filterMap _

theorem Reorders.length_creations : (creations other).length = (creations program).length :=
  reorders.creations_perm.length_eq

theorem Reorders.created_perm : (created other).Perm (created program) :=
  reorders.creations_perm.map _

theorem Reorders.rates_eq : rates other = rates program := by
  have only : ∀ commands : Program, rates commands = rates (commands.filter Command.setsRate) := by
    intro commands
    unfold rates
    rw [List.filterMap_filter]
    congr 1
    funext command
    cases command with
    | parameter name value =>
      cases value with
      | integer n =>
        by_cases rate : name = rateParameter
        · simp [Command.setsRate, rate]
        · simp [Command.setsRate, Command.rate?, rate]
      | _ => simp [Command.rate?]
    | _ => simp [Command.rate?]
  rw [only other, only program, reorders.rates_kept]

/-- A parameter that is given at most once is given the same. -/
theorem Reorders.texts_eq {parameter : String} (once : (texts parameter program).length ≤ 1) :
    texts parameter other = texts parameter program := by
  have perm : (texts parameter other).Perm (texts parameter program) :=
    reorders.perm.filterMap _
  cases given : texts parameter program with
  | nil =>
    rw [given] at perm
    exact perm.eq_nil
  | cons text rest =>
    rw [given] at perm once
    obtain rfl : rest = [] := by
      rw [List.length_cons] at once
      exact List.eq_nil_of_length_eq_zero (by omega)
    exact List.perm_singleton.mp perm

variable (once : (created program).Nodup)

include once

/-- The device that was created after `index` others in the one program is created after
`place program other index` others in the other. -/
theorem Reorders.exists_of_lt {index : Nat} (inside : index < (creations program).length) :
    ∃ creation, (creations program)[index]? = some creation ∧
      (creations other)[place program other index]? = some creation ∧
        indexOf? other creation.name = some (place program other index) := by
  have asked := List.getElem?_eq_getElem inside
  have member := reorders.creations_perm.mem_iff.mpr (List.mem_of_getElem? asked)
  obtain ⟨index', asked'⟩ := List.mem_iff_getElem?.mp member
  have found := indexOf?_of_getElem? (reorders.created_perm.nodup_iff.mpr once) asked'
  have same : place program other index = index' := by
    unfold place
    rw [asked, Option.bind_some, found, Option.getD_some]
  rw [same]
  exact ⟨_, asked, asked', found⟩

theorem Reorders.place_lt {index : Nat} (inside : index < (creations program).length) :
    place program other index < (creations program).length := by
  obtain ⟨creation, -, asked, -⟩ := reorders.exists_of_lt once inside
  rw [← reorders.length_creations]
  exact (List.getElem?_eq_some_iff.mp asked).1

theorem Reorders.place_inj {index index' : Nat} (inside : index < (creations program).length)
    (inside' : index' < (creations program).length)
    (same : place program other index = place program other index') : index = index' := by
  obtain ⟨creation, asked, there, -⟩ := reorders.exists_of_lt once inside
  obtain ⟨creation', asked', there', -⟩ := reorders.exists_of_lt once inside'
  rw [same, there'] at there
  cases there
  have found := indexOf?_of_getElem? once asked
  rw [indexOf?_of_getElem? once asked'] at found
  exact (Option.some.inj found).symm

theorem Reorders.exists_place_eq {index : Nat} (inside : index < (creations other).length) :
    ∃ before < (creations program).length, place program other before = index := by
  have asked := List.getElem?_eq_getElem inside
  have member := reorders.creations_perm.mem_iff.mp (List.mem_of_getElem? asked)
  obtain ⟨before, asked'⟩ := List.mem_iff_getElem?.mp member
  refine ⟨before, (List.getElem?_eq_some_iff.mp asked').1, ?_⟩
  unfold place
  rw [asked', Option.bind_some,
    indexOf?_of_getElem? (reorders.created_perm.nodup_iff.mpr once) asked, Option.getD_some]

theorem Reorders.indexOf?_eq (name : String) :
    indexOf? other name = (indexOf? program name).map (place program other) := by
  cases found : indexOf? program name with
  | none =>
    rw [indexOf?_eq_none_iff] at found
    rw [Option.map_none, indexOf?_eq_none_iff, reorders.created_perm.mem_iff]
    exact found
  | some index =>
    obtain ⟨creation, asked, rfl⟩ := exists_of_indexOf? found
    obtain ⟨creation', asked', -, found'⟩ :=
      reorders.exists_of_lt once (lt_length_of_indexOf? found)
    rw [asked] at asked'
    cases asked'
    exact found'

/-! ### Ports -/

variable [Device D] {registry : Registry D}
  (fit : (creations program).length ≤ UInt32.size)

include fit

/-- An endpoint means the same port of the same device. -/
theorem Reorders.portOf?_eq (direction : Direction) (endpoint : Endpoint) :
    portOf? registry other direction endpoint =
      (portOf? registry program direction endpoint).map (relocate program other) := by
  unfold portOf?
  rw [reorders.indexOf?_eq once]
  cases found : indexOf? program endpoint.device with
  | none => rfl
  | some index =>
    have inside := lt_length_of_indexOf? found
    obtain ⟨creation, asked, there, -⟩ := reorders.exists_of_lt once inside
    have number := slot_deviceAt (Nat.lt_of_lt_of_le inside fit)
    have moved : (fun connector => ⟨deviceAt (place program other index), connector⟩) =
        relocate program other ∘ fun connector => ⟨deviceAt index, connector⟩ := by
      funext connector
      simp only [relocate, Function.comp_apply, number]
    rw [Option.map_some, Option.bind_some, Option.bind_some, asked, there, Option.bind_some,
      moved]
    cases creation.build? registry with
    | none => rfl
    | some device => exact (Option.map_map _ _ _).symm

end Reorders

/-- The device of a port is one that was created. -/
theorem exists_of_portOf? [Device D] {registry : Registry D} {program : Program}
    {direction : Direction} {endpoint : Endpoint} {address : PortAddress}
    (port : portOf? registry program direction endpoint = some address) :
    ∃ index < (creations program).length, address.device = deviceAt index := by
  unfold portOf? at port
  obtain ⟨index, found, rest⟩ := Option.bind_eq_some_iff.mp port
  obtain ⟨device, -, rest⟩ := Option.bind_eq_some_iff.mp rest
  obtain ⟨connector, -, rfl⟩ := Option.map_eq_some_iff.mp rest
  exact ⟨index, lt_length_of_indexOf? found, rfl⟩

section WellFormed

variable [Device D] {registry : Registry D} {program other : Program}
  (reorders : Reorders program other) (once : (created program).Nodup)
  (fit : (creations program).length ≤ UInt32.size)

include reorders once fit

theorem Reorders.jack_relocate {direction : Direction} {endpoint : Endpoint}
    {address : PortAddress}
    (port : portOf? registry program direction endpoint = some address) :
    (relocate program other address).jack = address.jack.moved (place program other) := by
  obtain ⟨index, inside, home⟩ := exists_of_portOf? port
  have number := slot_deviceAt (Nat.lt_of_lt_of_le inside fit)
  have number' := slot_deviceAt (Nat.lt_of_lt_of_le (reorders.place_lt once inside) fit)
  unfold relocate PortAddress.jack Jack.moved
  rw [home, number, number']

theorem Reorders.relocate_inj {direction : Direction} {endpoint endpoint' : Endpoint}
    {address address' : PortAddress}
    (port : portOf? registry program direction endpoint = some address)
    (port' : portOf? registry program direction endpoint' = some address')
    (same : relocate program other address = relocate program other address') :
    address = address' := by
  obtain ⟨index, inside, home⟩ := exists_of_portOf? port
  obtain ⟨index', inside', home'⟩ := exists_of_portOf? port'
  have jacks := congrArg PortAddress.jack same
  rw [reorders.jack_relocate once fit port, reorders.jack_relocate once fit port'] at jacks
  simp only [PortAddress.jack, Jack.moved, Jack.mk.injEq, home, home',
    slot_deviceAt (Nat.lt_of_lt_of_le inside fit),
    slot_deviceAt (Nat.lt_of_lt_of_le inside' fit)] at jacks
  obtain ⟨device, connector⟩ := address
  obtain ⟨device', connector'⟩ := address'
  simp only at home home' jacks
  rw [home, home', reorders.place_inj once inside inside' jacks.1, jacks.2]

omit [Device D] once fit in
/-- What a command names has been created before it. -/
theorem Reorders.mem_created_before {before after : Program} {command : Command}
    (split : other = before ++ command :: after) {name : String} (named : name ∈ command.names)
    (known : name ∈ created program) : name ∈ created before := by
  have anywhere := reorders.created_perm.mem_iff.mpr known
  rw [split, created_append] at anywhere
  rcases List.mem_append.mp anywhere with earlier | later
  · exact earlier
  · obtain ⟨creation, member, rfl⟩ := List.mem_map.mp later
    obtain ⟨creator, present, creates⟩ := List.mem_filterMap.mp member
    have order := reorders.creates_first
    rw [split] at order
    have behind := List.pairwise_cons.mp (List.pairwise_append.mp order).2.1
    rcases List.mem_cons.mp present with rfl | present
    · cases creator with
      | create name typeName arguments => cases named
      | _ => cases creates
    · exact absurd named (behind.1 creator present creation creates)

/-- Every command finds what it needs. -/
theorem Reorders.in_scope (well_formed : WellFormed registry program) {before after : Program}
    {command : Command} (split : other = before ++ command :: after) :
    InScope registry before command := by
  have member : command ∈ program :=
    reorders.perm.mem_iff.mp (by rw [split]; exact List.mem_append_cons_self)
  obtain ⟨before', after', split'⟩ := List.append_of_mem member
  have scope := well_formed.in_scope before' command after' split'
  have created_in : ∀ name, name ∈ created before' → name ∈ created program := by
    intro name known
    rw [split', created_append]
    exact List.mem_append_left _ known
  have port : ∀ direction (endpoint : Endpoint), endpoint.device ∈ command.names →
      (portOf? registry before' direction endpoint).isSome →
        (portOf? registry before direction endpoint).isSome := by
    intro direction endpoint named found
    have known := mem_created_of_portOf? found
    have there := reorders.mem_created_before split named (created_in _ known)
    have here : portOf? registry program direction endpoint =
        portOf? registry before' direction endpoint := by
      rw [split']
      exact portOf?_append known _ direction
    have same : portOf? registry other direction endpoint =
        portOf? registry before direction endpoint := by
      rw [split]
      exact portOf?_append there _ direction
    rw [← same, reorders.portOf?_eq once fit, here, Option.isSome_map]
    exact found
  cases command with
  | parameter name value =>
    rcases scope with rate | ⟨rfl, device, rfl, known⟩ | port
    · exact Or.inl rate
    · refine Or.inr (Or.inl ⟨rfl, device, rfl, ?_⟩)
      exact reorders.mem_created_before split (by simp [Command.names]) (created_in device known)
    · exact Or.inr (Or.inr port)
  | create name typeName arguments => exact scope
  | connect source destination =>
    exact ⟨port .output source List.mem_cons_self scope.1,
      port .input destination (List.mem_cons_of_mem _ List.mem_cons_self) scope.2⟩

omit once fit in
theorem Reorders.outputEndpoint?_eq (well_formed : WellFormed registry program) :
    outputEndpoint? other = outputEndpoint? program := by
  unfold outputEndpoint?
  rw [reorders.texts_eq well_formed.output_device_once,
    reorders.texts_eq well_formed.output_port_once]

theorem Reorders.inputs_nodup (well_formed : WellFormed registry program) :
    (inputs registry other).Nodup := by
  have moved : (inputs registry other).Perm
      ((inputs registry program).map (Option.map (relocate program other))) := by
    unfold inputs
    simp only [reorders.portOf?_eq once fit, List.map_map]
    exact (reorders.perm.filterMap _).map _
  rw [moved.nodup_iff]
  refine well_formed.inputs_once.map_on ?_
  intro input member input' member' same
  obtain ⟨link, -, rfl⟩ := List.mem_map.mp member
  obtain ⟨link', -, rfl⟩ := List.mem_map.mp member'
  cases port : portOf? registry program .input link.destination with
  | none =>
    rw [port, Option.map_none, eq_comm, Option.map_eq_none_iff] at same
    exact same.symm
  | some address =>
    rw [port, Option.map_some, eq_comm, Option.map_eq_some_iff] at same
    obtain ⟨address', port', same⟩ := same
    rw [port', reorders.relocate_inj once fit port' port same]

/-- A reordered program can be carried out as well. -/
theorem Reorders.wellFormed (well_formed : WellFormed registry program) :
    WellFormed registry other where
  in_scope := fun _ _ _ => reorders.in_scope once fit well_formed
  created_once := reorders.created_perm.nodup_iff.mpr once
  inputs_once := reorders.inputs_nodup once fit well_formed
  output_device_once := by
    rw [reorders.texts_eq well_formed.output_device_once]
    exact well_formed.output_device_once
  output_port_once := by
    rw [reorders.texts_eq well_formed.output_port_once]
    exact well_formed.output_port_once
  output_exists := by
    intro endpoint chosen
    rw [reorders.outputEndpoint?_eq well_formed] at chosen
    rw [reorders.portOf?_eq once fit, Option.isSome_map]
    exact well_formed.output_exists endpoint chosen

end WellFormed

/-! ### What the two orders build -/

section Stocked

variable [Device D] {registry : Registry D} {program : Program} {p : Patch D}
  {bindings : List (String × DeviceId)} (stocked : Stocked registry program p bindings)

include stocked

theorem Stocked.occupied_eq : p.occupied = {slot | slot < (creations program).length} := by
  refine Patch.occupied_of_filled ⟨stocked.devices.length_eq.symm, ?_⟩
  intro slot member
  obtain ⟨creation, -, device, -, rfl⟩ := exists_of_forall₂ stocked.devices member
  rfl

theorem Stocked.at?_eq {index : Nat} {creation : Creation}
    (asked : (creations program)[index]? = some creation) :
    p.devices.at? index = (creation.build? registry).map Placed.fresh := by
  obtain ⟨device, built, housed⟩ := stocked.exists_device asked
  rw [Slots.at?_eq_some_iff.mpr ⟨firstGeneration, housed⟩, built, Option.map_some]

theorem Stocked.jack?_eq {direction : Direction} {endpoint : Endpoint} {address : PortAddress}
    (port : portOf? registry program direction endpoint = some address) :
    p.jack? address = some address.jack := by
  obtain ⟨index, inside, home⟩ := exists_of_portOf? port
  obtain ⟨device, -, placed⟩ := stocked.get?_deviceAt (List.getElem?_eq_getElem inside)
  exact Patch.jack?_eq_some_iff.mpr ⟨⟨_, home ▸ placed⟩, rfl⟩

/-- Each cable is that of the connection in its place. -/
theorem Stocked.exists_link {index : Nat} {generation : UInt32} {cable : Cable}
    (found : p.cables.slots[index]? = some ⟨generation, some cable⟩) :
    ∃ link, (links program)[index]? = some link ∧
      portOf? registry program .output link.source = some cable.source ∧
        portOf? registry program .input link.destination = some cable.destination := by
  obtain ⟨link, asked, source, destination, begins, ends, same⟩ :=
    exists_left_of_rel (forall₂_getElem? stocked.cables index) found
  cases same
  exact ⟨link, asked, begins, ends⟩

/-- The joined jacks are those of the endpoints of the connections. -/
theorem Stocked.mem_joins_iff {source destination : Jack} :
    (source, destination) ∈ p.joins ↔ ∃ link ∈ links program, ∃ output input,
      portOf? registry program .output link.source = some output ∧
        portOf? registry program .input link.destination = some input ∧
          output.jack = source ∧ input.jack = destination := by
  rw [Patch.mem_joins_iff]
  constructor
  · intro joined
    obtain ⟨cable, member, begins, ends⟩ := joined
    obtain ⟨index, held⟩ := Slots.mem_values_iff.mp member
    obtain ⟨generation, found⟩ := Slots.at?_eq_some_iff.mp held
    obtain ⟨link, asked, begins', ends'⟩ := stocked.exists_link found
    rw [stocked.jack?_eq begins', Option.some.injEq] at begins
    rw [stocked.jack?_eq ends', Option.some.injEq] at ends
    exact ⟨link, List.mem_of_getElem? asked, _, _, begins', ends', begins, ends⟩
  · intro linked
    obtain ⟨link, member, output, input, begins, ends, rfl, rfl⟩ := linked
    obtain ⟨index, asked⟩ := List.mem_iff_getElem?.mp member
    obtain ⟨output', input', begins', ends', housed⟩ := stocked.exists_cable asked
    have held := Slots.at?_eq_some_iff.mpr ⟨firstGeneration, housed⟩
    rw [begins] at begins'
    rw [ends] at ends'
    cases begins'
    cases ends'
    exact ⟨⟨output, input⟩, Slots.mem_values_iff.mpr ⟨index, held⟩, stocked.jack?_eq begins,
      stocked.jack?_eq ends⟩

theorem Stocked.fed (once : (inputs registry program).Nodup) : p.Fed where
  taken := by
    intro index generation cable found
    obtain ⟨link, asked, -, ends⟩ := stocked.exists_link found
    have member : some cable.destination ∈ inputs registry program :=
      List.mem_map.mpr ⟨link, List.mem_of_getElem? asked, ends⟩
    rw [Option.isSome_iff_ne_none, Ne, stocked.vacant_iff, not_not]
    exact member
  apart := by
    intro index other generation generation' cable cable' found found' same
    have fed_at : ∀ {place : Nat} {generation cable},
        p.cables.slots[place]? = some ⟨generation, some cable⟩ →
          (inputs registry program)[place]? = some (some cable.destination) := by
      intro place generation cable found
      obtain ⟨link, asked, -, ends⟩ := stocked.exists_link found
      unfold inputs
      rw [List.getElem?_map, asked, Option.map_some, ends]
    have first := fed_at found
    have second := fed_at found'
    rw [← same, ← first] at second
    exact ((List.getElem?_inj (List.getElem?_eq_some_iff.mp first).1 once).mp second.symm)

end Stocked

section Tracks

variable [Device D] {registry : Registry D} {settings : Settings} {program other : Program}
  {s s' : Session D}

/-- The same jacks are joined, but for the slots they are in. -/
theorem Reorders.mem_joins_iff (reorders : Reorders program other)
    (once : (created program).Nodup) (fit : (creations program).length ≤ UInt32.size)
    {p q : Patch D} {bindings bindings' : List (String × DeviceId)}
    (stocked : Stocked registry program p bindings) (stocked' : Stocked registry other q bindings')
    {source destination : Jack} : (source, destination) ∈ q.joins ↔
      ∃ begins ends, (begins, ends) ∈ p.joins ∧
        begins.moved (place program other) = source ∧
          ends.moved (place program other) = destination := by
  have links_perm : (links other).Perm (links program) := reorders.perm.filterMap _
  rw [stocked'.mem_joins_iff]
  simp only [links_perm.mem_iff, reorders.portOf?_eq once fit, Option.map_eq_some_iff,
    stocked.mem_joins_iff]
  constructor
  · intro linked
    obtain ⟨link, member, _, _, ⟨output, begins, rfl⟩, ⟨input, ends, rfl⟩, rfl, rfl⟩ := linked
    exact ⟨_, _, ⟨link, member, output, input, begins, ends, rfl, rfl⟩,
      (reorders.jack_relocate once fit begins).symm, (reorders.jack_relocate once fit ends).symm⟩
  · intro joined
    obtain ⟨_, _, ⟨link, member, output, input, begins, ends, rfl, rfl⟩, rfl, rfl⟩ := joined
    exact ⟨link, member, _, _, ⟨output, begins, rfl⟩, ⟨input, ends, rfl⟩,
      reorders.jack_relocate once fit begins, reorders.jack_relocate once fit ends⟩

/-- The patches differ only in the slots of their devices. -/
theorem Reorders.renames (reorders : Reorders program other)
    (well_formed : WellFormed registry program) (tracks : Tracks registry settings program s)
    (tracks' : Tracks registry settings other s') :
    Patch.Renames (place program other) s.patch s'.patch := by
  have once := well_formed.created_once
  have fit : (creations program).length ≤ UInt32.size := by
    rw [tracks.stocked.devices.length_eq]
    exact tracks.stocked.devices_fit
  have here := tracks.stocked.occupied_eq
  have there := tracks'.stocked.occupied_eq
  rw [reorders.length_creations] at there
  constructor
  case slots =>
    rw [here, there]
    refine ⟨fun _ => reorders.place_lt once, fun _ inside _ => reorders.place_inj once inside, ?_⟩
    intro index inside
    rw [Set.mem_ofPred_eq, ← reorders.length_creations] at inside
    exact reorders.exists_place_eq once inside
  case devices =>
    intro slot home
    rw [here] at home
    obtain ⟨creation, asked, asked', -⟩ := reorders.exists_of_lt once home
    rw [tracks.stocked.at?_eq asked, tracks'.stocked.at?_eq asked']
  case joins =>
    intro source destination
    exact reorders.mem_joins_iff once fit tracks.stocked tracks'.stocked
  case rate_eq =>
    rw [tracks.rate, tracks'.rate, reorders.rates_eq]
  case output =>
    unfold Patch.outputJack?
    rw [tracks.output, tracks'.output, reorders.outputEndpoint?_eq well_formed]
    cases chosen : outputEndpoint? program with
    | none => rfl
    | some endpoint =>
      obtain ⟨address, port⟩ :=
        Option.isSome_iff_exists.mp (well_formed.output_exists endpoint chosen)
      have port' : portOf? registry other .output endpoint =
          some (relocate program other address) := by
        rw [reorders.portOf?_eq once fit, port, Option.map_some]
      simp only [Option.bind_some, port, port', tracks.stocked.jack?_eq port,
        tracks'.stocked.jack?_eq port', Option.map_some, reorders.jack_relocate once fit port]

end Tracks

/-- If a program can be carried out, so can the same commands in any order in which each device is
created before it is named and the sampling rates come as before; the two patches play the same and
fail alike. The devices must have keys of their own: after as many as there are slot numbers, a new
device would share its key with an old one, and which of the two a variable names would depend on
the order in which they were created. -/
theorem indistinguishable_of_reorders [Device D] (registry : Registry D) (settings : Settings)
    {statements others : List Statement} {s : Session D}
    (devices_fit : (creations (statements.map (·.command))).length ≤ UInt32.size)
    (compiled : ({ patch := .ofSettings settings } : Session D).run registry
      (statements.map .ok) = (.ok (), s))
    (reorders : Reorders (statements.map (·.command)) (others.map (·.command))) :
    ∃ s', ({ patch := .ofSettings settings } : Session D).run registry (others.map .ok) =
        (.ok (), s') ∧
      Patch.Indistinguishable (place (statements.map (·.command)) (others.map (·.command)))
        s.patch s'.patch ∧
      s'.patch.readCap = s.patch.readCap := by
  have start : Tracks registry settings [] { patch := .ofSettings settings } := tracks_nil
  have devices_fit' : (creations (others.map (·.command))).length ≤ UInt32.size := by
    rw [reorders.length_creations]
    exact devices_fit
  have whole := start.run statements wellFormed_nil devices_fit
  have whole' := start.run others wellFormed_nil devices_fit'
  rw [compiled] at whole
  have well_formed := whole.1.mp rfl
  have tracks := whole.2 rfl
  have well_formed' := reorders.wellFormed well_formed.created_once devices_fit well_formed
  have compiled' := whole'.1.mpr well_formed'
  have tracks' := whole'.2 compiled'
  have renames := reorders.renames well_formed tracks tracks'
  refine ⟨_, Prod.ext compiled' rfl, ?_, tracks'.readCap.trans tracks.readCap.symm⟩
  exact renames.indistinguishable (tracks.stocked.fed well_formed.inputs_once)
    (tracks'.stocked.fed well_formed'.inputs_once)

/-- The ring with its statements in another order: its devices are in each other's slots, its cables
have each other's keys and its output is chosen by the other half. -/
def ringTurned : List Statement :=
  [⟨.create "b" "Echo" .empty, ⟨1, 1⟩⟩,
    ⟨.parameter "OUTPUT_COMPONENT" (.text "b"), ⟨2, 1⟩⟩,
    ⟨.parameter "SAMPLING_FREQ" (.integer 44100), ⟨3, 1⟩⟩,
    ⟨.create "a" "Echo" .empty, ⟨4, 1⟩⟩,
    ⟨.connect ⟨"b", "out"⟩ ⟨"a", "in"⟩, ⟨5, 1⟩⟩,
    ⟨.parameter "OUTPUT_PORT" (.text "out"), ⟨6, 1⟩⟩,
    ⟨.connect ⟨"a", "out"⟩ ⟨"b", "in"⟩, ⟨7, 1⟩⟩]

/-- The two devices change places. -/
example : (List.range 2).map (place (ring.map (·.command)) (ringTurned.map (·.command))) =
    [1, 0] := by
  decide

theorem ring_reorders : Reorders (ring.map (·.command)) (ringTurned.map (·.command)) where
  perm := by decide
  creates_first := by decide
  rates_kept := by decide

theorem ring_indistinguishable :
    ∃ s s' : Session Scripted,
      (creations (ring.map (·.command))).length ≤ UInt32.size ∧
        ({ patch := .ofSettings {} } : Session Scripted).run echoes (ring.map .ok) = (.ok (), s) ∧
          Reorders (ring.map (·.command)) (ringTurned.map (·.command)) ∧
            ({ patch := .ofSettings {} } : Session Scripted).run echoes (ringTurned.map .ok) =
                (.ok (), s') ∧
              Patch.Indistinguishable (place (ring.map (·.command)) (ringTurned.map (·.command)))
                s.patch s'.patch ∧
              s'.patch.readCap = s.patch.readCap := by
  have devices_fit : (creations (ring.map (·.command))).length ≤ UInt32.size := by decide
  have compiled : ({ patch := .ofSettings {} } : Session Scripted).run echoes (ring.map .ok) =
      (.ok (), (({ patch := .ofSettings {} } : Session Scripted).run echoes
        (ring.map .ok)).2) := by rfl
  obtain ⟨s', same⟩ := indistinguishable_of_reorders echoes {} devices_fit compiled ring_reorders
  exact ⟨_, s', devices_fit, compiled, ring_reorders, same⟩

end Program

end ModularSynth
