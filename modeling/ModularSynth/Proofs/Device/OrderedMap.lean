import Mathlib.Data.Finmap
import Mathlib.Order.Bounds.Basic
import ModularSynth.Device.Arguments

/-!
# Arguments as an ordered map

Some calls give a name a value and others take a name out. `Arguments.contents` is the map that
calls make of the empty one, where nothing has an order; `Arguments.Enters` tells from the calls
alone which of them put a name in. Arguments that began empty are that map after whatever calls,
with the names in the order in which they were put in (`Arguments.Follows.orderedMap`). What one
call does to the order is `InOrder.give_again`, `InOrder.give_new` and `InOrder.take`; what it does
to the arguments is `Follows.step`.
-/

namespace ModularSynth

theorem mem_of_lookup {α β : Type} [BEq α] [LawfulBEq α] {entries : List (α × β)} {key : α}
    {b : β} (found : entries.lookup key = some b) : (key, b) ∈ entries := by
  obtain ⟨front, back, split, -⟩ := List.lookup_eq_some_iff.mp found
  rw [split]
  exact List.mem_append_right front List.mem_cons_self

/-- What a key finds among distinct keys is what is listed under it. -/
theorem lookup_eq_some_iff_mem {α β : Type} [BEq α] [LawfulBEq α] {entries : List (α × β)}
    (distinct : (entries.map (·.1)).Nodup) {key : α} {b : β} :
    entries.lookup key = some b ↔ (key, b) ∈ entries := by
  constructor
  · exact mem_of_lookup
  · intro member
    have present : (entries.lookup key).isSome :=
      List.lookup_isSome_iff.mpr ⟨(key, b), member, beq_self_eq_true key⟩
    obtain ⟨other, found⟩ := Option.isSome_iff_exists.mp present
    have same := List.inj_on_of_nodup_map distinct (mem_of_lookup found) member rfl
    cases same
    exact found

theorem getElem?_concat_eq_some_iff {α : Type} {as : List α} {a b : α} {index : Nat} :
    (as ++ [a])[index]? = some b ↔ as[index]? = some b ∨ index = as.length ∧ a = b := by
  grind

/-- A call that changes arguments. -/
inductive ArgumentCall where
  | set (name : String) (value : Value)
  | insert (name : String) (value : Value)
  | take (name : String)
  | takeFloat (name : String)

namespace ArgumentCall

/-- The call gives this name a value, unless it has one and keeps it. -/
def Gives (call : ArgumentCall) (name : String) : Prop :=
  match call with
  | set given _ | insert given _ => given = name
  | take _ | takeFloat _ => False

/-- The call takes this name out, if it is there. -/
def Takes (call : ArgumentCall) (name : String) : Prop :=
  match call with
  | set _ _ | insert _ _ => False
  | take taken | takeFloat taken => taken = name

/-- What the call makes of a map. -/
def onMap (call : ArgumentCall) (map : Finmap fun _ : String => Value) :
    Finmap fun _ : String => Value :=
  match call with
  | set name value => map.insert name value
  | insert name value => if name ∈ map then map else map.insert name value
  | take name | takeFloat name => map.erase name

end ArgumentCall

namespace Arguments

/-- The names, in order. -/
def names (args : Arguments) : List String := args.entries.map (·.1)

/-- The arguments after a call. An insertion that is refused changes nothing. -/
def call (args : Arguments) : ArgumentCall → Arguments
  | .set name value => args.set name value
  | .insert name value =>
    match args.insert name value with
    | .ok after => after
    | .error _ => args
  | .take name => (args.take name).2
  | .takeFloat name => (args.takeFloat name).2

/-- The arguments after some calls. -/
def after (args : Arguments) (calls : List ArgumentCall) : Arguments := calls.foldl call args

/-- The map that some calls make of the empty one. -/
def contents (calls : List ArgumentCall) : Finmap fun _ : String => Value :=
  calls.foldl (fun map call => call.onMap map) ∅

/-- The call at this position gives the name, and no later one takes it. -/
structure Stays (calls : List ArgumentCall) (name : String) (position : Nat) : Prop where
  given : ∃ call, calls[position]? = some call ∧ call.Gives name
  untaken : ∀ later call, position < later → calls[later]? = some call → ¬call.Takes name

/-- The call at this position put the name in: it is the first of those that gave it to stay. -/
def Enters (calls : List ArgumentCall) (name : String) : Nat → Prop :=
  IsLeast {position | Stays calls name position}

variable {args : Arguments} {name other : String} {value : Value} {calls : List ArgumentCall}
  {call : ArgumentCall} {position : Nat}

/-! ### Entries -/

theorem contains_of_mem (present : name ∈ args.names) : args.contains name = true := by
  rw [← Bool.not_eq_false, contains_eq_false_iff, not_not]
  exact present

theorem mem_names_iff : name ∈ args.names ↔ ∃ value, args.get? name = some value := by
  unfold names get?
  rw [← Option.isSome_iff_exists, List.lookup_isSome_iff, List.mem_map]
  constructor
  · rintro ⟨entry, member, rfl⟩
    exact ⟨entry, member, beq_self_eq_true _⟩
  · rintro ⟨entry, member, same⟩
    exact ⟨entry, member, (eq_of_beq same).symm⟩

theorem get?_eq_none_iff : args.get? name = none ↔ name ∉ args.names := by
  rw [mem_names_iff, ← Option.isSome_iff_exists, Option.not_isSome_iff_eq_none]

theorem get?_eq_some_iff (distinct : args.names.Nodup) :
    args.get? name = some value ↔ (name, value) ∈ args.entries :=
  lookup_eq_some_iff_mem distinct

/-- Where a name stands. -/
theorem exists_split (distinct : args.names.Nodup) (present : name ∈ args.names) :
    ∃ before old after, args.entries = before ++ (name, old) :: after ∧
      name ∉ before.map (·.1) ∧ name ∉ after.map (·.1) := by
  obtain ⟨⟨_, old⟩, member, rfl⟩ := List.mem_map.mp present
  obtain ⟨before, after, split⟩ := List.append_of_mem member
  refine ⟨before, old, after, split, ?_⟩
  unfold names at distinct
  rw [split, List.map_append, List.map_cons, List.nodup_middle, List.nodup_cons,
    List.mem_append, not_or] at distinct
  exact distinct.1

theorem entries_set_of_notMem (absent : name ∉ args.names) (value : Value) :
    (args.set name value).entries = args.entries ++ [(name, value)] := by
  unfold set
  rw [(contains_eq_false_iff args name).mpr absent, if_neg Bool.false_ne_true]

/-- A name that is there keeps its place and gets the value. -/
theorem set_in_place (distinct : args.names.Nodup) (present : name ∈ args.names) (value : Value) :
    ∃ before old after, args.entries = before ++ (name, old) :: after ∧
      (args.set name value).entries = before ++ (name, value) :: after := by
  have others : ∀ entries : List (String × Value), name ∉ entries.map (·.1) →
      (entries.map fun entry => if entry.1 == name then (entry.1, value) else entry) = entries := by
    intro entries absent
    rw [List.map_congr_left, List.map_id]
    intro entry member
    have different : entry.1 ≠ name := fun same => absent (same ▸ List.mem_map_of_mem member)
    rw [beq_false_of_ne different, if_neg Bool.false_ne_true, id]
  obtain ⟨before, old, after, split, not_before, not_after⟩ := exists_split distinct present
  refine ⟨before, old, after, split, ?_⟩
  unfold set
  rw [if_pos (contains_of_mem present), split, List.map_append, List.map_cons,
    others before not_before, others after not_after, if_pos (beq_self_eq_true name)]

theorem names_set_of_mem (distinct : args.names.Nodup) (present : name ∈ args.names)
    (value : Value) : (args.set name value).names = args.names := by
  obtain ⟨before, old, after, split, replaced⟩ := set_in_place distinct present value
  unfold names
  rw [split, replaced, List.map_append, List.map_append, List.map_cons, List.map_cons]

theorem names_set_of_notMem (absent : name ∉ args.names) (value : Value) :
    (args.set name value).names = args.names ++ [name] := by
  unfold names
  rw [entries_set_of_notMem absent, List.map_append, List.map_singleton]

theorem get?_set (distinct : args.names.Nodup) (name other : String) (value : Value) :
    (args.set name value).get? other = if other = name then some value else args.get? other := by
  by_cases present : name ∈ args.names
  · have kept : (args.set name value).names.Nodup := by
      rw [names_set_of_mem distinct present]
      exact distinct
    obtain ⟨before, old, after, split, replaced⟩ := set_in_place distinct present value
    by_cases same : other = name
    · subst same
      rw [if_pos rfl, get?_eq_some_iff kept, replaced]
      simp
    · rw [if_neg same]
      apply Option.ext
      intro found
      rw [get?_eq_some_iff kept, get?_eq_some_iff distinct, replaced, split]
      simp [same]
  · have missing := get?_eq_none_iff.mpr present
    unfold get? at missing ⊢
    rw [entries_set_of_notMem present, List.lookup_append, List.lookup_cons]
    by_cases same : other = name
    · subst same
      rw [missing, if_pos rfl, beq_self_eq_true]
      rfl
    · rw [if_neg same, beq_false_of_ne same]
      exact Option.or_none

theorem insert_of_mem (present : name ∈ args.names) (value : Value) :
    args.insert name value = .error (.duplicateArgument name) := by
  unfold insert
  rw [contains_of_mem present, if_pos rfl]

/-- An insertion that is not refused gives the name its value as `set` does. -/
theorem insert_of_notMem (absent : name ∉ args.names) (value : Value) :
    args.insert name value = .ok (args.set name value) := by
  unfold insert set
  rw [(contains_eq_false_iff args name).mpr absent, if_neg Bool.false_ne_true,
    if_neg Bool.false_ne_true]

theorem entries_take (distinct : args.names.Nodup) (name : String) :
    (args.take name).2.entries = args.entries.filter (·.1 ≠ name) := by
  obtain ⟨entries⟩ := args
  show entries.eraseP (·.1 == name) = entries.filter (·.1 ≠ name)
  unfold names at distinct
  induction entries with
  | nil => rfl
  | cons entry entries ih =>
    rw [List.map_cons, List.nodup_cons] at distinct
    by_cases same : entry.1 = name
    · have others : ∀ other ∈ entries, decide (other.1 ≠ name) = true := by
        intro other member
        rw [decide_eq_true_eq]
        intro again
        exact distinct.1 (same.trans again.symm ▸ List.mem_map_of_mem member)
      rw [List.eraseP_cons_of_pos (by simp [same]), List.filter_cons_of_neg (by simp [same]),
        List.filter_eq_self.mpr others]
    · rw [List.eraseP_cons_of_neg (by simp [same]), List.filter_cons_of_pos (by simp [same]),
        ih distinct.2]

theorem names_take (distinct : args.names.Nodup) (name : String) :
    (args.take name).2.names = args.names.filter (· ≠ name) := by
  unfold names
  rw [entries_take distinct, List.filter_map]
  rfl

theorem get?_take (distinct : args.names.Nodup) (name other : String) :
    (args.take name).2.get? other = if other = name then none else args.get? other := by
  have fewer : (args.take name).2.names.Nodup := by
    rw [names_take distinct]
    exact distinct.filter _
  by_cases same : other = name
  · rw [if_pos same, get?_eq_none_iff, names_take distinct, List.mem_filter]
    simp [same]
  · rw [if_neg same]
    apply Option.ext
    intro value
    rw [get?_eq_some_iff fewer, get?_eq_some_iff distinct, entries_take distinct, List.mem_filter]
    simp [same]

theorem snd_takeFloat (args : Arguments) (name : String) :
    (args.takeFloat name).2 = (args.take name).2 := by
  unfold takeFloat
  cases args.take name with
  | mk found rest =>
  rcases found with _ | (_ | _ | _ | _ | _)
  all_goals rfl

theorem takeFloat_eq_none_iff :
    (args.takeFloat name).1 = .ok none ↔ args.get? name = none := by
  unfold takeFloat take
  rcases args.get? name with _ | (_ | _ | _ | _ | _)
  all_goals simp

theorem takeFloat_eq_some_iff {x : Float} : (args.takeFloat name).1 = .ok (some x) ↔
    args.get? name = some (.float x) ∨
      ∃ n : Int64, args.get? name = some (.integer n) ∧ x = Float.ofInt n.toInt := by
  unfold takeFloat take
  rcases args.get? name with _ | (_ | _ | _ | _ | _)
  all_goals simp [eq_comm]

/-- A value that is no number is refused. -/
theorem takeFloat_eq_error_iff {failure : DeviceError} :
    (args.takeFloat name).1 = .error failure ↔ ∃ value, args.get? name = some value ∧
      value.kind ≠ .float ∧ value.kind ≠ .integer ∧
        failure = .argumentKind name .float value.kind := by
  unfold takeFloat take
  rcases args.get? name with _ | (_ | _ | _ | _ | _)
  all_goals simp [Value.kind, eq_comm]

theorem finish_eq_ok_iff : args.finish = .ok () ↔ args.names = [] := by
  obtain ⟨entries⟩ := args
  cases entries with
  | nil => exact iff_of_true rfl rfl
  | cons entry entries => exact iff_of_false nofun nofun

theorem finish_eq_error_iff {failure : DeviceError} : args.finish = .error failure ↔
    ∃ name, args.names.head? = some name ∧ failure = .unknownArgument name := by
  obtain ⟨entries⟩ := args
  cases entries with
  | nil => simp [finish, names]
  | cons entry entries => simp [finish, names, eq_comm]

/-! ### Positions -/

theorem stays_concat_iff :
    Stays (calls ++ [call]) name position ↔
      Stays calls name position ∧ ¬call.Takes name ∨
        position = calls.length ∧ call.Gives name := by
  constructor
  · rintro ⟨⟨given, found, gives⟩, untaken⟩
    rcases getElem?_concat_eq_some_iff.mp found with found | ⟨rfl, rfl⟩
    · left
      have inside := (List.getElem?_eq_some_iff.mp found).1
      refine ⟨⟨⟨given, found, gives⟩, ?_⟩, ?_⟩
      · intro later other past found
        exact untaken later other past (getElem?_concat_eq_some_iff.mpr (Or.inl found))
      · exact untaken calls.length call inside List.getElem?_concat_length
    · exact Or.inr ⟨rfl, gives⟩
  · rintro (⟨⟨⟨given, found, gives⟩, untaken⟩, kept⟩ | ⟨rfl, gives⟩)
    · refine ⟨⟨given, getElem?_concat_eq_some_iff.mpr (Or.inl found), gives⟩, ?_⟩
      intro later other past found
      rcases getElem?_concat_eq_some_iff.mp found with found | ⟨-, rfl⟩
      · exact untaken later other past found
      · exact kept
    · refine ⟨⟨call, List.getElem?_concat_length, gives⟩, ?_⟩
      intro later other past found
      rcases getElem?_concat_eq_some_iff.mp found with found | ⟨rfl, -⟩
      · have inside := (List.getElem?_eq_some_iff.mp found).1
        omega
      · exact absurd past (Nat.lt_irrefl _)

theorem Stays.lt_length (stays : Stays calls name position) : position < calls.length := by
  obtain ⟨given, found, -⟩ := stays.given
  exact (List.getElem?_eq_some_iff.mp found).1

/-- After a call that gives one name, that name stays too. -/
theorem exists_stays_give_iff (gives : ∀ other, call.Gives other ↔ other = name)
    (takes : ∀ other, ¬call.Takes other) :
    (∃ position, Stays (calls ++ [call]) other position) ↔
      (∃ position, Stays calls other position) ∨ other = name := by
  simp only [stays_concat_iff, gives, takes, not_false_eq_true, and_true, exists_or,
    exists_eq_left]

/-- After a call that takes one name, the others stay. -/
theorem exists_stays_take_iff (gives : ∀ other, ¬call.Gives other)
    (takes : ∀ other, call.Takes other ↔ other = name) :
    (∃ position, Stays (calls ++ [call]) other position) ↔
      (∃ position, Stays calls other position) ∧ other ≠ name := by
  simp only [stays_concat_iff, gives, takes, and_false, or_false, exists_and_right]

theorem exists_enters_iff :
    (∃ position, Enters calls name position) ↔ ∃ position, Stays calls name position := by
  classical
  constructor
  · rintro ⟨position, stays, -⟩
    exact ⟨position, stays⟩
  · intro given
    exact ⟨Nat.find given, Nat.find_spec given, fun _ stays => Nat.find_min' given stays⟩

/-- A name that stays was put in once, however often it was given since. -/
theorem Enters.concat (entered : Enters calls name position) (not_taken : ¬call.Takes name) :
    Enters (calls ++ [call]) name position := by
  refine ⟨stays_concat_iff.mpr (Or.inl ⟨entered.1, not_taken⟩), ?_⟩
  intro other stays
  rcases stays_concat_iff.mp stays with ⟨stays, -⟩ | ⟨rfl, -⟩
  · exact entered.2 stays
  · exact entered.1.lt_length.le

theorem enters_concat_of_new (absent : ¬∃ position, Stays calls name position)
    (gives : call.Gives name) : Enters (calls ++ [call]) name calls.length := by
  refine ⟨stays_concat_iff.mpr (Or.inr ⟨rfl, gives⟩), ?_⟩
  intro position stays
  rcases stays_concat_iff.mp stays with ⟨stays, -⟩ | ⟨rfl, -⟩
  · exact absurd ⟨position, stays⟩ absent
  · exact le_rfl

/-- Both names stay, and the first was put in before the second. -/
def EntersBefore (calls : List ArgumentCall) (name other : String) : Prop :=
  ∃ position later, Enters calls name position ∧ Enters calls other later ∧ position < later

theorem EntersBefore.ne (before : EntersBefore calls name other) : name ≠ other := by
  rintro rfl
  obtain ⟨position, later, entered, entered', less⟩ := before
  rw [entered.unique entered'] at less
  exact Nat.lt_irrefl later less

theorem EntersBefore.concat (before : EntersBefore calls name other) (not_taken : ¬call.Takes name)
    (not_taken' : ¬call.Takes other) : EntersBefore (calls ++ [call]) name other := by
  obtain ⟨position, later, entered, entered', less⟩ := before
  exact ⟨position, later, entered.concat not_taken, entered'.concat not_taken', less⟩

/-- The names that stay, in the order in which they were put in. -/
structure InOrder (calls : List ArgumentCall) (names : List String) : Prop where
  mem_iff : ∀ name, name ∈ names ↔ ∃ position, Stays calls name position
  ascending : names.Pairwise (EntersBefore calls)

namespace InOrder

variable {names : List String}

theorem nodup (in_order : InOrder calls names) : names.Nodup :=
  in_order.ascending.imp EntersBefore.ne

theorem nil : InOrder [] [] where
  mem_iff name := by
    constructor
    · intro impossible
      cases impossible
    · rintro ⟨position, stays⟩
      exact absurd stays.lt_length (Nat.not_lt_zero position)
  ascending := List.Pairwise.nil

theorem exists_enters (in_order : InOrder calls names) (member : name ∈ names) :
    ∃ position, Enters calls name position :=
  exists_enters_iff.mpr ((in_order.mem_iff name).mp member)

theorem mem_of_enters (in_order : InOrder calls names) (entered : Enters calls name position) :
    name ∈ names :=
  (in_order.mem_iff name).mpr ⟨position, entered.1⟩

/-- The first name was put in before all others. -/
theorem head?_eq_some_iff (in_order : InOrder calls names) :
    names.head? = some name ↔ ∃ position, Enters calls name position ∧
      ∀ other later, Enters calls other later → position ≤ later := by
  cases names with
  | nil =>
    constructor
    · intro impossible
      cases impossible
    · rintro ⟨position, entered, -⟩
      cases in_order.mem_of_enters entered
  | cons first rest =>
    have after_first := (List.pairwise_cons.mp in_order.ascending).1
    constructor
    · intro same
      cases same
      obtain ⟨position, entered⟩ := in_order.exists_enters List.mem_cons_self
      refine ⟨position, entered, ?_⟩
      intro other later entered'
      rcases List.mem_cons.mp (in_order.mem_of_enters entered') with rfl | member
      · exact (entered.unique entered').le
      · obtain ⟨position', later', first_entered, other_entered, less⟩ := after_first other member
        rw [entered.unique first_entered, entered'.unique other_entered]
        exact less.le
    · rintro ⟨position, entered, least⟩
      rcases List.mem_cons.mp (in_order.mem_of_enters entered) with rfl | member
      · rfl
      -- A name further back was put in after the first one, so its position is not the least.
      · obtain ⟨earlier, position', first_entered, name_entered, less⟩ := after_first name member
        rw [← entered.unique name_entered] at less
        exact absurd (least first earlier first_entered) (Nat.not_le.mpr less)

/-- A name that is there keeps its place when it is given again. -/
theorem give_again (in_order : InOrder calls names) (present : name ∈ names)
    (gives : ∀ other, call.Gives other ↔ other = name) (takes : ∀ other, ¬call.Takes other) :
    InOrder (calls ++ [call]) names where
  mem_iff other := by
    rw [exists_stays_give_iff gives takes, in_order.mem_iff]
    constructor
    · exact Or.inl
    · rintro (stays | rfl)
      · exact stays
      · exact (in_order.mem_iff _).mp present
  ascending := in_order.ascending.imp fun before => before.concat (takes _) (takes _)

/-- A new name comes last: all others were put in by calls before this one. -/
theorem give_new (in_order : InOrder calls names) (absent : name ∉ names)
    (gives : ∀ other, call.Gives other ↔ other = name) (takes : ∀ other, ¬call.Takes other) :
    InOrder (calls ++ [call]) (names ++ [name]) where
  mem_iff other := by
    rw [List.mem_append, List.mem_singleton, in_order.mem_iff, exists_stays_give_iff gives takes]
  ascending := by
    rw [List.pairwise_append]
    refine ⟨in_order.ascending.imp fun before => before.concat (takes _) (takes _),
      List.pairwise_singleton _ _, ?_⟩
    intro other member last is_last
    rw [List.mem_singleton.mp is_last]
    obtain ⟨position, entered⟩ := in_order.exists_enters member
    have new := enters_concat_of_new (mt (in_order.mem_iff name).mpr absent)
      ((gives name).mpr rfl)
    exact ⟨position, calls.length, entered.concat (takes other), new, entered.1.lt_length⟩

/-- When a name is taken, the others keep their order. -/
theorem take (in_order : InOrder calls names) (gives : ∀ other, ¬call.Gives other)
    (takes : ∀ other, call.Takes other ↔ other = name) :
    InOrder (calls ++ [call]) (names.filter (· ≠ name)) where
  mem_iff other := by
    rw [List.mem_filter, in_order.mem_iff, decide_eq_true_eq, exists_stays_take_iff gives takes]
  ascending := by
    apply (in_order.ascending.filter _).imp_of_mem
    intro earlier later member member' before
    have kept := of_decide_eq_true (List.mem_filter.mp member).2
    have kept' := of_decide_eq_true (List.mem_filter.mp member').2
    exact before.concat (mt (takes earlier).mp kept) (mt (takes later).mp kept')

end InOrder

/-! ### One call -/

theorem contents_concat (calls : List ArgumentCall) (call : ArgumentCall) :
    contents (calls ++ [call]) = call.onMap (contents calls) := by
  unfold contents
  rw [List.foldl_append]
  rfl

theorem lookup_insert (map : Finmap fun _ : String => Value) (name other : String) (value : Value) :
    (map.insert name value).lookup other =
      if other = name then some value else map.lookup other := by
  by_cases same : other = name
  · subst same
    rw [if_pos rfl, Finmap.lookup_insert]
  · rw [if_neg same, Finmap.lookup_insert_of_ne _ same]

theorem lookup_erase (map : Finmap fun _ : String => Value) (name other : String) :
    (map.erase name).lookup other = if other = name then none else map.lookup other := by
  by_cases same : other = name
  · subst same
    rw [if_pos rfl, Finmap.lookup_erase]
  · rw [if_neg same, Finmap.lookup_erase_ne same]

theorem call_insert_of_mem (present : name ∈ args.names) (value : Value) :
    args.call (.insert name value) = args := by
  rw [call, insert_of_mem present]

theorem call_insert_of_notMem (absent : name ∉ args.names) (value : Value) :
    args.call (.insert name value) = args.set name value := by
  rw [call, insert_of_notMem absent]

/-- Arguments that are the map that some calls make, in order. -/
structure Follows (args : Arguments) (calls : List ArgumentCall) : Prop where
  in_order : InOrder calls args.names
  get_eq : ∀ name, args.get? name = (contents calls).lookup name

theorem follows_empty : empty.Follows [] where
  in_order := .nil
  get_eq _ := rfl

namespace Follows

variable (follows : args.Follows calls)
include follows

theorem mem_contents_iff : name ∈ contents calls ↔ name ∈ args.names := by
  rw [mem_names_iff, Finmap.mem_iff]
  simp only [follows.get_eq]

/-- A call that adds the name or replaces its value. -/
theorem give (gives : ∀ other, call.Gives other ↔ other = name)
    (takes : ∀ other, ¬call.Takes other)
    (on_map : call.onMap (contents calls) = (contents calls).insert name value) :
    (args.set name value).Follows (calls ++ [call]) where
  in_order := by
    by_cases present : name ∈ args.names
    · rw [names_set_of_mem follows.in_order.nodup present]
      exact follows.in_order.give_again present gives takes
    · rw [names_set_of_notMem present]
      exact follows.in_order.give_new present gives takes
  get_eq other := by
    rw [contents_concat, on_map, lookup_insert, get?_set follows.in_order.nodup, follows.get_eq]

theorem take (gives : ∀ other, ¬call.Gives other) (takes : ∀ other, call.Takes other ↔ other = name)
    (on_map : call.onMap (contents calls) = (contents calls).erase name) :
    (args.take name).2.Follows (calls ++ [call]) where
  in_order := by
    rw [names_take follows.in_order.nodup]
    exact follows.in_order.take gives takes
  get_eq other := by
    rw [contents_concat, on_map, lookup_erase, get?_take follows.in_order.nodup, follows.get_eq]

theorem step (call : ArgumentCall) : (args.call call).Follows (calls ++ [call]) := by
  cases call with
  | set name value => exact follows.give (fun _ => eq_comm) (fun _ => id) rfl
  | insert name value =>
    by_cases present : name ∈ args.names
    -- Refused: nothing changes, but the calls give the name once more.
    · rw [call_insert_of_mem present]
      refine ⟨follows.in_order.give_again present (fun _ => eq_comm) fun _ => id, ?_⟩
      intro other
      rw [contents_concat, ArgumentCall.onMap, if_pos (follows.mem_contents_iff.mpr present),
        follows.get_eq]
    · rw [call_insert_of_notMem present]
      exact follows.give (fun _ => eq_comm) (fun _ => id)
        (if_neg (mt follows.mem_contents_iff.mp present))
  | take name => exact follows.take (fun _ => id) (fun _ => eq_comm) rfl
  | takeFloat name =>
    show (args.takeFloat name).2.Follows _
    rw [snd_takeFloat]
    exact follows.take (fun _ => id) (fun _ => eq_comm) rfl

theorem after (more : List ArgumentCall) : (args.after more).Follows (calls ++ more) := by
  induction more generalizing args calls with
  | nil =>
    rw [List.append_nil]
    exact follows
  | cons call more ih =>
    rw [List.append_cons]
    exact ih (follows.step call)

end Follows

/-! ### Any calls -/

/-- What holds of arguments after some calls, and of the calls that can follow. -/
structure OrderedMap (args : Arguments) (calls : List ArgumentCall) : Prop where
  /-- No name is there twice; the names stand in the order in which they were put in, -/
  distinct : args.names.Nodup
  in_order : args.names.Pairwise (EntersBefore calls)
  /-- and the names with their values are the map that the same calls make. -/
  get_eq : ∀ name, args.get? name = (contents calls).lookup name
  size_eq : args.size = (contents calls).keys.card
  /-- A name that is there gets its new value in its place, -/
  set_present : ∀ name ∈ contents calls, ∀ value, ∃ before old after,
    args.entries = before ++ (name, old) :: after ∧
      (args.set name value).entries = before ++ (name, value) :: after
  set_absent : ∀ name ∉ contents calls, ∀ value,
    (args.set name value).entries = args.entries ++ [(name, value)]
  /-- and cannot be inserted. -/
  insert_present : ∀ name ∈ contents calls, ∀ value,
    args.insert name value = .error (.duplicateArgument name) ∧
      args.call (.insert name value) = args
  insert_absent : ∀ name ∉ contents calls, ∀ value,
    args.insert name value = .ok ⟨args.entries ++ [(name, value)]⟩
  /-- Taking yields the value and leaves the other names, in their order, -/
  taken : ∀ name, (args.take name).1 = (contents calls).lookup name ∧
    (args.take name).2.entries = args.entries.filter (·.1 ≠ name)
  /-- and so does taking a float, whether or not the value is a number. -/
  float_taken : ∀ name, (args.takeFloat name).2.entries = args.entries.filter (·.1 ≠ name)
  float_none_iff : ∀ name,
    (args.takeFloat name).1 = .ok none ↔ (contents calls).lookup name = none
  float_some_iff : ∀ name x, (args.takeFloat name).1 = .ok (some x) ↔
    (contents calls).lookup name = some (.float x) ∨
      ∃ n : Int64, (contents calls).lookup name = some (.integer n) ∧ x = Float.ofInt n.toInt
  float_error_iff : ∀ name failure, (args.takeFloat name).1 = .error failure ↔
    ∃ value, (contents calls).lookup name = some value ∧ value.kind ≠ .float ∧
      value.kind ≠ .integer ∧ failure = .argumentKind name .float value.kind
  /-- Finishing succeeds when every name that was given was taken later, -/
  finish_ok_iff : args.finish = .ok () ↔ ∀ name position, ¬Stays calls name position
  /-- and names the one that was put in first among those that were not. -/
  finish_error_iff : ∀ failure, args.finish = .error failure ↔
    ∃ name position, failure = .unknownArgument name ∧ Enters calls name position ∧
      ∀ other later, Enters calls other later → position ≤ later

namespace Follows

variable (follows : args.Follows calls)
include follows

theorem names_toFinset : args.names.toFinset = (contents calls).keys := by
  ext name
  rw [List.mem_toFinset, Finmap.mem_keys, follows.mem_contents_iff]

theorem size_eq : args.size = (contents calls).keys.card := by
  rw [← follows.names_toFinset, List.toFinset_card_of_nodup follows.in_order.nodup]
  exact (List.length_map _).symm

theorem finish_ok_iff : args.finish = .ok () ↔ ∀ name position, ¬Stays calls name position := by
  rw [finish_eq_ok_iff, List.eq_nil_iff_forall_not_mem]
  simp only [follows.in_order.mem_iff, not_exists]

theorem finish_error_iff {failure : DeviceError} : args.finish = .error failure ↔
    ∃ name position, failure = .unknownArgument name ∧ Enters calls name position ∧
      ∀ other later, Enters calls other later → position ≤ later := by
  rw [finish_eq_error_iff]
  constructor
  · rintro ⟨name, first, rfl⟩
    obtain ⟨position, entered, least⟩ := follows.in_order.head?_eq_some_iff.mp first
    exact ⟨name, position, rfl, entered, least⟩
  · rintro ⟨name, position, rfl, entered, least⟩
    exact ⟨name, follows.in_order.head?_eq_some_iff.mpr ⟨position, entered, least⟩, rfl⟩

theorem orderedMap : args.OrderedMap calls where
  distinct := follows.in_order.nodup
  in_order := follows.in_order.ascending
  get_eq := follows.get_eq
  size_eq := follows.size_eq
  set_present name present :=
    set_in_place follows.in_order.nodup (follows.mem_contents_iff.mp present)
  set_absent name absent := entries_set_of_notMem (mt follows.mem_contents_iff.mpr absent)
  insert_present name present value :=
    have present := follows.mem_contents_iff.mp present
    ⟨insert_of_mem present value, call_insert_of_mem present value⟩
  insert_absent name absent value := by
    have absent := mt follows.mem_contents_iff.mpr absent
    rw [insert_of_notMem absent, ← entries_set_of_notMem absent]
  taken name := ⟨follows.get_eq name, entries_take follows.in_order.nodup name⟩
  float_taken name := by rw [snd_takeFloat, entries_take follows.in_order.nodup]
  float_none_iff name := by rw [takeFloat_eq_none_iff, follows.get_eq]
  float_some_iff name x := by rw [takeFloat_eq_some_iff, follows.get_eq]
  float_error_iff name failure := by rw [takeFloat_eq_error_iff, follows.get_eq]
  finish_ok_iff := follows.finish_ok_iff
  finish_error_iff _ := follows.finish_error_iff

end Follows

/-! ### Pairs -/

/-- Inserts pairs one after the other, up to the first that is refused. -/
def insertAll (args : Arguments) (pairs : List (String × Value)) : Except DeviceError Arguments :=
  pairs.foldlM (fun args pair => args.insert pair.1 pair.2) args

theorem insertAll_cons_of_error {failure : DeviceError}
    (refused : args.insert name value = .error failure) (pairs : List (String × Value)) :
    args.insertAll ((name, value) :: pairs) = .error failure := by
  unfold insertAll
  rw [List.foldlM_cons, refused]
  rfl

theorem insertAll_cons_of_ok {next : Arguments} (inserted : args.insert name value = .ok next)
    (pairs : List (String × Value)) :
    args.insertAll ((name, value) :: pairs) = next.insertAll pairs := by
  unfold insertAll
  rw [List.foldlM_cons, inserted]
  rfl

/-- Pairs can be inserted if no name is repeated, and then they are set by it. -/
theorem insertAll_eq_ok_iff (distinct : args.names.Nodup) {pairs : List (String × Value)}
    {last : Arguments} :
    args.insertAll pairs = .ok last ↔ (args.names ++ pairs.map (·.1)).Nodup ∧
      last = pairs.foldl (fun args pair => args.set pair.1 pair.2) args := by
  induction pairs generalizing args with
  | nil =>
    rw [List.map_nil, List.append_nil]
    constructor
    · intro done
      cases done
      exact ⟨distinct, rfl⟩
    · rintro ⟨-, rfl⟩
      rfl
  | cons pair pairs ih =>
    obtain ⟨name, value⟩ := pair
    rw [List.map_cons]
    by_cases present : name ∈ args.names
    · rw [insertAll_cons_of_error (insert_of_mem present value)]
      apply iff_of_false nofun
      rintro ⟨together, -⟩
      exact (List.nodup_append.mp together).2.2 name present name List.mem_cons_self rfl
    · have names_eq := names_set_of_notMem present value
      have longer : (args.set name value).names.Nodup := by
        rw [names_eq, ← List.concat_eq_append, List.nodup_concat]
        exact ⟨present, distinct⟩
      rw [insertAll_cons_of_ok (insert_of_notMem present value), ih longer, names_eq,
        ← List.append_cons, List.foldl_cons]

/-- Setting each pair in turn is what `ofList` does. -/
theorem ofList_eq_after (pairs : List (String × Value)) :
    ofList pairs = empty.after (pairs.map fun pair => .set pair.1 pair.2) := by
  unfold ofList after
  rw [List.foldl_map]
  rfl

theorem empty_insertAll_eq_ok_iff {pairs : List (String × Value)} :
    empty.insertAll pairs = .ok args ↔ (pairs.map (·.1)).Nodup ∧ args = ofList pairs := by
  have none_yet : empty.names.Nodup := List.nodup_nil
  exact insertAll_eq_ok_iff none_yet

end Arguments

end ModularSynth
