import Devirt.Lowering.Binding
import Devirt.Proofs.Runs

/-!
# What Binding Does to a Method

Binding adds a local variable for every variable of a routine, one after the other, and takes over
the types of the parameters. It succeeds exactly if there is room for the variables and there are
enough parameters, and then the method is determined by the declarations.

Main statements:
- `Method.mapM_addSlot_eq_ok`: adding local variables, one for each declaration.
- `Routine.bind_eq_ok_iff`: when binding succeeds, and what it leaves.
- `Routine.adopts_of_bind`: the method afterwards, part by part.
-/

namespace Devirt

open Stateful

/-! ## §1 Local variables -/

namespace Method

/-- The method with one more local variable for each declaration, in order. -/
def withSlots (m : Method) (declared : List Declaration) : Method :=
  { m with slots := m.slots ++
      (declared.mapIdx fun k d => ⟨UInt16.ofNat (m.slots.size + k), d.type⟩).toArray }

/-- The numbers of the next local variables. -/
def nextSlots (m : Method) (count : Nat) : List UInt16 :=
  (List.range' m.slots.size count).map UInt16.ofNat

theorem withSlots_nil (m : Method) : m.withSlots [] = m := by
  simp [withSlots]

theorem size_slots_withSlots (m : Method) (declared : List Declaration) :
    (m.withSlots declared).slots.size = m.slots.size + declared.length := by
  simp [withSlots]

theorem withSlots_cons (m : Method) (d : Declaration) (declared : List Declaration) :
    m.withSlots (d :: declared) = (m.withSlots [d]).withSlots declared := by
  simp [withSlots, Nat.add_assoc, Nat.add_comm 1]

theorem nextSlots_succ (m : Method) (d : Declaration) (count : Nat) :
    m.nextSlots (count + 1) =
      UInt16.ofNat m.slots.size :: (m.withSlots [d]).nextSlots count := by
  simp [nextSlots, List.range'_succ, size_slots_withSlots]

/-- The numbers of new local variables are their positions, as long as there is room. -/
theorem toNat_index_withSlots {m : Method} {declared : List Declaration}
    (room : declared.length ≤ capacity - m.slots.size) {i : Nat} {s : LocalSlot}
    (new : m.slots.size ≤ i) (here : (m.withSlots declared).slots[i]? = some s) :
    s.index.toNat = i := by
  obtain ⟨k, rfl⟩ := Nat.exists_eq_add_of_le new
  rw [withSlots, Array.getElem?_append_right new, Nat.add_sub_cancel_left,
    List.getElem?_toArray, List.getElem?_mapIdx] at here
  obtain ⟨d, there, rfl⟩ := Option.map_eq_some_iff.1 here
  have inside := (List.getElem?_eq_some_iff.1 there).1
  -- a position below the capacity is not cut off by the word that it is kept in
  refine UInt16.toNat_ofNat_of_lt' ?_
  unfold capacity at room
  rw [UInt16.size]
  omega

/-- A local variable is added if there is room for it. -/
theorem addSlot_eq_ok {d : Declaration} {m m' : Method} {index : UInt16} :
    addSlot d.type m = .ok index m' ↔
      m.slots.size < capacity ∧ index = UInt16.ofNat m.slots.size ∧ m' = m.withSlots [d] := by
  unfold addSlot
  split
  next room => simp [room, withSlots, eq_comm]
  next full => simp [full]

/-- Local variables are added if there is room for all of them. -/
theorem mapM_addSlot_eq_ok {declared : List Declaration} {m m' : Method} {indices : List UInt16} :
    (declared.mapM fun d => addSlot d.type) m = .ok indices m' ↔
      declared.length ≤ capacity - m.slots.size ∧ indices = m.nextSlots declared.length ∧
        m' = m.withSlots declared := by
  induction declared generalizing m m' indices with
  | nil => simp [pure_eq_ok, nextSlots, withSlots_nil, eq_comm]
  | cons d declared ih =>
    -- the others are added to the method with the first one
    have size := m.size_slots_withSlots [d]
    rw [List.length_singleton] at size
    simp only [List.mapM_cons, bind_eq_ok, pure_eq_ok, addSlot_eq_ok, ih, List.length_cons,
      withSlots_cons m d declared, nextSlots_succ m d]
    constructor
    · rintro ⟨_, _, ⟨room, rfl, rfl⟩, _, _, ⟨rest, rfl, rfl⟩, rfl, rfl⟩
      exact ⟨by omega, rfl, rfl⟩
    · rintro ⟨room, rfl, rfl⟩
      exact ⟨_, _, ⟨by omega, rfl, rfl⟩, _, _, ⟨by omega, rfl, rfl⟩, rfl, rfl⟩

theorem addSlot_eq_error {d : Declaration} {m m' : Method} {e : BodyError} :
    addSlot d.type m = .error e m' ↔ capacity ≤ m.slots.size ∧ e = .tooManyLocals ∧ m' = m := by
  unfold addSlot
  split
  next room => simp [Nat.not_le.2 room]
  next full => simp [Nat.not_lt.1 full, eq_comm]

/-- Local variables are added as long as there is room. The first one without room is a fault. -/
theorem mapM_addSlot_eq_error {declared : List Declaration} {m m' : Method} {e : BodyError} :
    (declared.mapM fun d => addSlot d.type) m = .error e m' ↔
      capacity - m.slots.size < declared.length ∧ e = .tooManyLocals ∧
        m' = m.withSlots (declared.take (capacity - m.slots.size)) := by
  induction declared generalizing m with
  | nil => exact ⟨nofun, fun h => absurd h.1 (Nat.not_lt_zero _)⟩
  | cons d declared ih =>
    have size := m.size_slots_withSlots [d]
    rw [List.length_singleton] at size
    rw [List.mapM_cons, bind_eq_error, addSlot_eq_error, List.length_cons]
    by_cases room : m.slots.size < capacity
    · -- the first one is added, and the rest goes into one place less
      have less : capacity - m.slots.size = capacity - (m.withSlots [d]).slots.size + 1 := by omega
      rw [less, List.take_succ_cons, withSlots_cons m d (declared.take _),
        Nat.add_lt_add_iff_right, ← ih]
      constructor
      · rintro (⟨full, _⟩ | ⟨_, _, added, failed⟩)
        · exact absurd room (Nat.not_lt.2 full)
        · obtain ⟨_, rfl, rfl⟩ := addSlot_eq_ok.1 added
          rcases bind_eq_error.1 failed with failed | ⟨_, _, _, failed⟩
          · exact failed
          · cases failed
      · intro failed
        exact .inr ⟨_, _, addSlot_eq_ok.2 ⟨room, rfl, rfl⟩, bind_eq_error.2 (.inl failed)⟩
    -- no room is left, so the method stays as it is and the first one fails
    · have full := Nat.not_lt.1 room
      rw [Nat.sub_eq_zero_of_le full, List.take_zero, withSlots_nil]
      constructor
      · rintro (⟨_, same, left⟩ | ⟨_, _, added, _⟩)
        · exact ⟨Nat.succ_pos _, same, left⟩
        · exact absurd (addSlot_eq_ok.1 added).1 room
      · rintro ⟨_, same, left⟩
        exact .inl ⟨full, same, left⟩

end Method

/-! ## §2 Binding -/

namespace Routine

variable {r : Routine} {m m' : Method}

/-- Variables are bound if there is room for all of them. -/
theorem bindVariables_eq_ok {slots : Array UInt16} :
    r.bindVariables m = .ok slots m' ↔
      r.vars.size ≤ Method.capacity - m.slots.size ∧
        slots = (m.nextSlots r.vars.size).toArray ∧ m' = m.withSlots r.vars.toList := by
  rw [bindVariables, Array.mapM_eq_mapM_toList, ← bind_pure_comp]
  simp only [bind_eq_ok, pure_eq_ok, Method.mapM_addSlot_eq_ok, Array.length_toList]
  constructor
  · rintro ⟨_, _, ⟨room, rfl, rfl⟩, rfl, rfl⟩
    exact ⟨room, rfl, rfl⟩
  · rintro ⟨room, rfl, rfl⟩
    exact ⟨_, _, ⟨room, rfl, rfl⟩, rfl, rfl⟩

/-- Variables are not bound if there is no room for one of them. -/
theorem bindVariables_eq_error {e : BodyError} :
    r.bindVariables m = .error e m' ↔
      Method.capacity - m.slots.size < r.vars.size ∧ e = .tooManyLocals ∧
        m' = m.withSlots (r.vars.toList.take (Method.capacity - m.slots.size)) := by
  rw [bindVariables, Array.mapM_eq_mapM_toList, ← bind_pure_comp, bind_eq_error,
    Method.mapM_addSlot_eq_error, Array.length_toList, or_iff_left]
  -- turning the list of numbers into an array cannot fail
  rintro ⟨_, _, _, failed⟩
  cases failed

/-- A parameter with its recovered type. -/
theorem getElem?_parameters_retype {declared : Array Declaration} {i : Nat} {p : Parameter}
    (here : m.parameters[i]? = some p) : (m.retype declared).parameters[i]? =
      some { p with type := if p.isHiddenThis then p.type else
        (declared[i]?.map (·.type)).getD p.type } := by
  rw [Method.retype, Array.getElem?_mapIdx, here, Option.map_some]
  cases declared[i]? with
  | none => simp
  | some d =>
    dsimp only [Option.map_some, Option.getD_some]
    split <;> rfl

theorem size_parameters_retype (m : Method) (declared : Array Declaration) :
    (m.retype declared).parameters.size = m.parameters.size := by
  simp [Method.retype]

/-- Taking over types keeps the arguments of parameters. -/
theorem map_index_retype (m : Method) (declared : Array Declaration) :
    (m.retype declared).parameters.map (·.index) = m.parameters.map (·.index) := by
  -- position by position, since types are looked up by position
  refine Array.ext_getElem? fun i => ?_
  simp only [Array.getElem?_map]
  cases here : m.parameters[i]? with
  | none => simp_all [Method.retype]
  | some p => rw [getElem?_parameters_retype here, Option.map_some, Option.map_some]

/-- Parameters are bound if there are enough of them. -/
theorem bindParameters_eq_ok {arguments : Array UInt16} :
    r.bindParameters m = .ok arguments m' ↔
      r.parameters.size ≤ m.parameters.size ∧
        arguments = (m.parameters.map (·.index)).extract 0 r.parameters.size ∧
        m' = m.retype r.parameters := by
  unfold bindParameters
  dsimp only
  rw [← map_index_retype m r.parameters, size_parameters_retype]
  split
  next enough => simp [enough, eq_comm]
  next missing => simp [missing]

/-- Binding succeeds exactly if there is room for the variables and there are enough parameters.
    Variables get the next local variables, and parameters the arguments of their positions. -/
theorem bind_eq_ok_iff {bound : Method} {binding : Binding} :
    r.bind m = .ok binding bound ↔
      r.vars.size ≤ Method.capacity - m.slots.size ∧ r.parameters.size ≤ m.parameters.size ∧
        binding = ⟨(m.nextSlots r.vars.size).toArray,
          (m.parameters.map (·.index)).extract 0 r.parameters.size⟩ ∧
        bound = (m.withSlots r.vars.toList).retype r.parameters := by
  simp only [bind, bind_eq_ok, pure_eq_ok, adaptExcept_eq_ok, bindVariables_eq_ok,
    bindParameters_eq_ok]
  constructor
  · rintro ⟨_, _, ⟨room, rfl, rfl⟩, _, _, ⟨enough, rfl, rfl⟩, rfl, rfl⟩
    exact ⟨room, enough, rfl, rfl⟩
  · rintro ⟨room, enough, rfl, rfl⟩
    exact ⟨_, _, ⟨room, rfl, rfl⟩, _, _, ⟨enough, rfl, rfl⟩, rfl, rfl⟩

/-- A variable without room is found out first. Parameters are not looked at then. -/
theorem bind_of_full (full : Method.capacity - m.slots.size < r.vars.size) :
    r.bind m = .error (.body .tooManyLocals)
      (m.withSlots (r.vars.toList.take (Method.capacity - m.slots.size))) := by
  refine bind_eq_error.2 (.inl (adaptExcept_eq_error.2 ⟨_, ?_, rfl⟩))
  exact bindVariables_eq_error.2 ⟨full, rfl, rfl⟩

/-- Too few parameters are found out last: the local variables have been added by then, and types
    have been taken over. -/
theorem bind_of_missing (room : r.vars.size ≤ Method.capacity - m.slots.size)
    (missing : m.parameters.size < r.parameters.size) :
    r.bind m = .error (.missingParameter m.parameters.size m.parameters.size)
      ((m.withSlots r.vars.toList).retype r.parameters) := by
  have allotted := bindVariables_eq_ok.2 ⟨room, rfl, rfl⟩
  refine bind_eq_error.2 (.inr ⟨_, _, adaptExcept_eq_ok.2 allotted, bind_eq_error.2 (.inl ?_)⟩)
  -- new local variables leave the parameters alone, so the numbers compared are those of before
  have size : (m.withSlots r.vars.toList).parameters.size = m.parameters.size := rfl
  unfold bindParameters
  dsimp only
  rw [size_parameters_retype, size, if_neg (Nat.not_le.2 missing)]

end Routine

/-! ## §3 The method afterwards -/

/-- The second method is the first one with the declarations of the routine: a new local variable
    for every variable, and the recovered type for every parameter but the instance argument. -/
structure Method.Adopts (m : Method) (r : Routine) (m' : Method) : Prop where
  name_eq : m'.name = m.name
  declaringType_eq : m'.declaringType = m.declaringType
  returnType_eq : m'.returnType = m.returnType
  /-- The new local variables are behind the old ones, in the order of the variables. -/
  slots_eq : ∃ added : Array LocalSlot, m'.slots = m.slots ++ added ∧
    added.map (·.type) = r.vars.map (·.type)
  /-- New local variables are numbered by their positions. -/
  number_eq : ∀ (i : Nat) (s : LocalSlot), m.slots.size ≤ i → m'.slots[i]? = some s →
    s.index.toNat = i
  /-- There is a parameter for every declared one, and none is added. -/
  enough : r.parameters.size ≤ m.parameters.size
  size_parameters : m'.parameters.size = m.parameters.size
  /-- A parameter keeps its argument, and is the instance argument if it was. -/
  kept : ∀ (i : Nat) (p p' : Parameter), m.parameters[i]? = some p → m'.parameters[i]? = some p' →
    p'.index = p.index ∧ p'.isHiddenThis = p.isHiddenThis
  declared : ∀ (i : Nat) (d : Declaration) (p p' : Parameter), r.parameters[i]? = some d →
    m.parameters[i]? = some p → m'.parameters[i]? = some p' → p.isHiddenThis = false →
    p'.type = d.type
  /-- The instance argument and the parameters that are not declared keep their types. -/
  others : ∀ (i : Nat) (p p' : Parameter), m.parameters[i]? = some p →
    m'.parameters[i]? = some p' → p.isHiddenThis = true ∨ r.parameters.size ≤ i → p'.type = p.type

/-- Binding makes a method adopt the declarations. -/
theorem Routine.adopts_of_bind {r : Routine} {m bound : Method} {binding : Binding}
    (h : r.bind m = .ok binding bound) : m.Adopts r bound := by
  obtain ⟨room, enough, _, rfl⟩ := bind_eq_ok_iff.1 h
  -- parameters are those of the method before, since variables are no parameters
  have parameter : ∀ (i : Nat) (p p' : Parameter), m.parameters[i]? = some p →
      ((m.withSlots r.vars.toList).retype r.parameters).parameters[i]? = some p' →
      p' = { p with type := if p.isHiddenThis then p.type else
        (r.parameters[i]?.map (·.type)).getD p.type } := by
    intro i p p' here there
    rw [getElem?_parameters_retype (m := m.withSlots r.vars.toList) here] at there
    exact (Option.some.inj there).symm
  constructor
  case name_eq | declaringType_eq | returnType_eq => rfl
  case slots_eq => exact ⟨_, rfl, by ext i <;> simp⟩
  case number_eq =>
    intro i s new here
    exact Method.toNat_index_withSlots (by simpa using room) new here
  case enough => exact enough
  case size_parameters => exact size_parameters_retype _ _
  case kept =>
    intro i p p' here there
    obtain rfl := parameter i p p' here there
    exact ⟨rfl, rfl⟩
  case declared =>
    intro i d p p' declared here there explicit
    obtain rfl := parameter i p p' here there
    simp [explicit, declared]
  case others =>
    intro i p p' here there excepted
    obtain rfl := parameter i p p' here there
    rcases excepted with hidden | behind
    · simp [hidden]
    · simp [Array.getElem?_eq_none behind]

end Devirt
