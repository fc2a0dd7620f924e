import Devirt.Catalog
import Devirt.Proofs.Lowering.Binding

/-!
# Places of Variables and Parameters

Binding fails for one of two reasons, lack of local variables before lack of parameters, and
otherwise gives a place to everything that is declared. The variables get local variables of their
own. A parameter gets the argument of the parameter of the method with the same number.

In a method made from a signature these arguments are the numbers of the parameters, as far as
numbers of 16 bits go: from the 65537th parameter on they start again.

Main statements:
- `Routine.bind_allots`: when binding fails, which places it gives otherwise, and what happens if
  the routine is bound once more.
- `Routine.bind_ofSignature`: the arguments of parameters, and when these are their numbers.
-/

namespace Devirt

variable {r : Routine} {m bound : Method} {binding : Binding}

/-! ## §1 Places -/

namespace Binding

theorem operand_var {i : Nat} {index : UInt16} (here : binding.slots[i]? = some index) :
    binding.operand (.var i) = .ok (.localSlot index) := by
  simp [operand, here]

theorem operand_arg {j : Nat} {index : UInt16} (here : binding.arguments[j]? = some index) :
    binding.operand (.arg j) = .ok (.argumentSlot index) := by
  simp [operand, here]

/-- The places of the variables and parameters of a routine, and the local variables of the method
    before and after they are bound in it. -/
structure Allots (b : Binding) (r : Routine) (m bound : Method) : Prop where
  /-- A variable gets a new local variable of its type, numbered by its position. -/
  slot : ∀ (i : Nat) (d : Declaration), r.vars[i]? = some d → ∃ s : LocalSlot,
    b.operand (.var i) = .ok (.localSlot s.index) ∧ s.index.toNat = m.slots.size + i ∧
      bound.slots[m.slots.size + i]? = some s ∧ s.type = d.type
  /-- Different variables get different local variables. -/
  apart : ∀ i j : Nat, i < r.vars.size → j < r.vars.size →
    b.operand (.var i) = b.operand (.var j) → i = j
  /-- The local variables that were there stay as they are. -/
  old : ∀ k < m.slots.size, bound.slots[k]? = m.slots[k]?
  size_slots : bound.slots.size = m.slots.size + r.vars.size
  /-- A parameter gets the argument of the parameter of the method with the same number. -/
  argument : ∀ j < r.parameters.size, ∃ p, m.parameters[j]? = some p ∧
    b.operand (.arg j) = .ok (.argumentSlot p.index)
  /-- Nothing else has a place. -/
  unbound_var : ∀ i : Nat, r.vars.size ≤ i → b.operand (.var i) = .error (.unbound (.var i))
  unbound_arg : ∀ j : Nat, r.parameters.size ≤ j →
    b.operand (.arg j) = .error (.unbound (.arg j))

end Binding

namespace Method

theorem getElem?_nextSlots {count i : Nat} (inside : i < count) :
    (m.nextSlots count)[i]? = some (UInt16.ofNat (m.slots.size + i)) := by
  simp [nextSlots, inside]

theorem length_nextSlots (m : Method) (count : Nat) : (m.nextSlots count).length = count := by
  simp [nextSlots]

theorem getElem?_slots_withSlots {declared : List Declaration} {i : Nat} {d : Declaration}
    (here : declared[i]? = some d) : (m.withSlots declared).slots[m.slots.size + i]? =
      some ⟨UInt16.ofNat (m.slots.size + i), d.type⟩ := by
  rw [withSlots, Array.getElem?_append_right (Nat.le_add_right _ i), Nat.add_sub_cancel_left,
    List.getElem?_toArray, List.getElem?_mapIdx, here]
  rfl

/-- The arguments of the first parameters. -/
theorem getElem?_extract_index (m : Method) (count j : Nat) :
    ((m.parameters.map (·.index)).extract 0 count)[j]? =
      if j < count then m.parameters[j]?.map (·.index) else none := by
  rw [Array.getElem?_extract, Nat.zero_add, Array.getElem?_map, Array.size_map, Nat.sub_zero]
  -- a count beyond the parameters adds no argument
  by_cases inside : j < m.parameters.size
  · simp only [Nat.lt_min, inside, and_true]
  · simp [Array.getElem?_eq_none (Nat.not_lt.1 inside)]

end Method

namespace Routine

/-- A variable that is bound has a new local variable, whose number is its position. -/
theorem slot_of_bind (h : r.bind m = .ok binding bound) {i : Nat} {d : Declaration}
    (here : r.vars[i]? = some d) : ∃ s : LocalSlot,
      binding.operand (.var i) = .ok (.localSlot s.index) ∧ s.index.toNat = m.slots.size + i ∧
        bound.slots[m.slots.size + i]? = some s ∧ s.type = d.type := by
  obtain ⟨room, _, rfl, rfl⟩ := bind_eq_ok_iff.1 h
  have inside := (Array.getElem?_eq_some_iff.1 here).1
  have added := m.getElem?_slots_withSlots (Array.getElem?_toList.trans here)
  have number := Method.toNat_index_withSlots (by simpa using room) (Nat.le_add_right _ i) added
  -- the binding and the method number the new local variables independently
  refine ⟨_, Binding.operand_var ?_, number, added, rfl⟩
  rw [List.getElem?_toArray, Method.getElem?_nextSlots inside]

/-- Binding allots a place to everything that is declared. -/
theorem allots_of_bind (h : r.bind m = .ok binding bound) : binding.Allots r m bound := by
  obtain ⟨_, enough, rfl, rfl⟩ := bind_eq_ok_iff.1 h
  constructor
  case slot => exact fun i d here => slot_of_bind h here
  case apart =>
    intro i j inside inside' same
    -- the number of the local variable tells the variable, as long as it has 16 bits
    obtain ⟨s, place, number, _⟩ := slot_of_bind h (Array.getElem?_eq_getElem inside)
    obtain ⟨s', place', number', _⟩ := slot_of_bind h (Array.getElem?_eq_getElem inside')
    rw [place, place'] at same
    rw [Operand.localSlot.inj (Except.ok.inj same)] at number
    omega
  case old =>
    intro k inside
    exact Array.getElem?_append_left inside
  case size_slots => exact m.size_slots_withSlots r.vars.toList
  case argument =>
    intro j inside
    have here := Array.getElem?_eq_getElem (Nat.lt_of_lt_of_le inside enough)
    refine ⟨_, here, Binding.operand_arg ?_⟩
    rw [Method.getElem?_extract_index, if_pos inside, here, Option.map_some]
  case unbound_var =>
    intro i beyond
    simp [Binding.operand, Method.length_nextSlots, Nat.not_lt.2 beyond]
  case unbound_arg =>
    intro j beyond
    unfold Binding.operand
    dsimp only
    rw [Method.getElem?_extract_index, if_neg (Nat.not_lt.2 beyond)]
    rfl

/-! ## §2 Outcomes -/

/-- There are variables, and too many for the local variables that the method can still get. -/
def Overfills (r : Routine) (m : Method) : Prop :=
  0 < r.vars.size ∧ 65535 < m.slots.size + r.vars.size

theorem overfills_iff : r.Overfills m ↔ Method.capacity - m.slots.size < r.vars.size := by
  unfold Overfills Method.capacity
  omega

/-- Binding runs out of local variables, or else of parameters, or else it succeeds. -/
theorem bind_cases (r : Routine) (m : Method) :
    (r.Overfills m ∧ ∃ left, r.bind m = .error (.body .tooManyLocals) left) ∨
    (¬r.Overfills m ∧ m.parameters.size < r.parameters.size ∧
      ∃ left, r.bind m = .error (.missingParameter m.parameters.size m.parameters.size) left) ∨
    (¬r.Overfills m ∧ r.parameters.size ≤ m.parameters.size ∧
      ∃ binding bound, r.bind m = .ok binding bound) := by
  -- local variables are asked for before parameters
  by_cases overfull : r.Overfills m
  · exact .inl ⟨overfull, _, bind_of_full (overfills_iff.1 overfull)⟩
  · have room := Nat.not_lt.1 (mt overfills_iff.2 overfull)
    rcases Nat.lt_or_ge m.parameters.size r.parameters.size with missing | enough
    · exact .inr (.inl ⟨overfull, missing, _, bind_of_missing room missing⟩)
    · exact .inr (.inr ⟨overfull, enough, _, _, bind_eq_ok_iff.2 ⟨room, enough, rfl, rfl⟩⟩)

/-! ## §3 Binding once more -/

/-- Types that have been taken over are kept when they are taken over again. -/
theorem parameters_retype_retype (m : Method) (declared : Array Declaration) :
    ((m.retype declared).retype declared).parameters = (m.retype declared).parameters := by
  refine Array.ext_getElem? fun i => ?_
  -- parameter by parameter, since a declaration is about the one at its own position
  cases here : m.parameters[i]? with
  | none => simp_all [Method.retype]
  | some p =>
    have once : (m.retype declared).parameters[i]? = some _ := getElem?_parameters_retype here
    rw [getElem?_parameters_retype once, once]
    -- a declared type replaces any other one, and without one the parameter stays as it is
    cases p.isHiddenThis <;> cases declared[i]? <;> rfl

/-- What happens if a routine that is bound in a method is bound there once more. Its variables get
    local variables behind those of the first time, if there is room. Nothing changes about
    parameters. -/
structure Rebinds (r : Routine) (m bound : Method) (binding : Binding) : Prop where
  full : r.Overfills bound → ∃ left, r.bind bound = .error (.body .tooManyLocals) left ∧
    left.parameters = bound.parameters
  fits : ¬r.Overfills bound → ∃ again rebound, r.bind bound = .ok again rebound ∧
    rebound.parameters = bound.parameters ∧
    (∀ i < r.vars.size, ∃ index : UInt16, again.operand (.var i) = .ok (.localSlot index) ∧
      index.toNat = m.slots.size + r.vars.size + i) ∧
    ∀ j : Nat, again.operand (.arg j) = binding.operand (.arg j)

theorem rebinds_of_bind (h : r.bind m = .ok binding bound) : r.Rebinds m bound binding := by
  obtain ⟨_, enough, rfl, rfl⟩ := bind_eq_ok_iff.1 h
  have size := (allots_of_bind h).size_slots
  constructor
  case full =>
    intro overfull
    exact ⟨_, bind_of_full (overfills_iff.1 overfull), rfl⟩
  case fits =>
    intro room
    have room := Nat.not_lt.1 (mt overfills_iff.2 room)
    -- the parameters are those of the first time, with other types
    have enough' : r.parameters.size ≤
        ((m.withSlots r.vars.toList).retype r.parameters).parameters.size := by
      rw [size_parameters_retype]
      exact enough
    have h' := bind_eq_ok_iff.2 ⟨room, enough', rfl, rfl⟩
    refine ⟨_, _, h', parameters_retype_retype _ _, ?_, ?_⟩
    · intro i inside
      -- the numbers go on behind all local variables, those of the first time included
      obtain ⟨s, place, number, _⟩ := slot_of_bind h' (Array.getElem?_eq_getElem inside)
      exact ⟨s.index, place, by rw [number, size]⟩
    · intro j
      unfold Binding.operand
      dsimp only
      -- types change, and arguments do not
      rw [map_index_retype]
      rfl

/-- Binding runs out of local variables exactly if there are variables and too many of them. If it
    does not, then it runs out of parameters exactly if the method has fewer than the routine.
    Otherwise it succeeds and allots a place to everything that is declared, and the routine can be
    bound once more as long as there is room. -/
theorem bind_allots (r : Routine) (m : Method) :
    ((∃ left, r.bind m = .error (.body .tooManyLocals) left) ↔ r.Overfills m) ∧
    (¬r.Overfills m →
      ((∃ left, r.bind m =
          .error (.missingParameter m.parameters.size m.parameters.size) left) ↔
        m.parameters.size < r.parameters.size) ∧
      (r.parameters.size ≤ m.parameters.size → ∃ binding bound, r.bind m = .ok binding bound ∧
        binding.Allots r m bound ∧ r.Rebinds m bound binding)) := by
  -- each outcome excludes the other two, which gives the converses
  rcases r.bind_cases m with ⟨overfull, left, failed⟩ | ⟨room, missing, left, failed⟩ |
    ⟨room, enough, binding, bound, succeeded⟩
  · exact ⟨⟨fun _ => overfull, fun _ => ⟨left, failed⟩⟩, fun room => absurd overfull room⟩
  · have other : ¬∃ left, r.bind m = .error (.body .tooManyLocals) left := by simp [failed]
    refine ⟨⟨fun h => absurd h other, fun h => absurd h room⟩, fun _ => ⟨?_, ?_⟩⟩
    · exact ⟨fun _ => missing, fun _ => ⟨left, failed⟩⟩
    · exact fun enough => absurd missing (Nat.not_lt.2 enough)
  · have never : ∀ e left, r.bind m ≠ .error e left := by simp [succeeded]
    refine ⟨⟨?_, fun h => absurd h room⟩, fun _ => ⟨⟨?_, ?_⟩, fun _ => ?_⟩⟩
    · exact fun ⟨left, failed⟩ => absurd failed (never _ left)
    · exact fun ⟨left, failed⟩ => absurd failed (never _ left)
    · exact fun missing => absurd enough (Nat.not_le.2 missing)
    · exact ⟨binding, bound, succeeded, allots_of_bind succeeded, rebinds_of_bind succeeded⟩

/-- A routine with the given numbers of variables and parameters, all of which are objects. -/
def crowded (vars parameters : Nat) : Routine where
  vars := .replicate vars ⟨"", CoreType.object.ref⟩
  parameters := .replicate parameters ⟨"", CoreType.object.ref⟩
  graph := .empty

end Routine

/-- A new method with the given number of parameters, all of which are objects. -/
def Method.crowded (parameters : Nat) : Method :=
  ofSignature "Crowded" CoreType.object.ref ⟨false, .replicate parameters CoreType.object.ref, none⟩

namespace Routine

theorem size_vars_crowded (vars parameters : Nat) : (crowded vars parameters).vars.size = vars :=
  Array.size_replicate

theorem size_parameters_crowded (vars parameters : Nat) :
    (crowded vars parameters).parameters.size = parameters :=
  Array.size_replicate

theorem overfills_crowded {vars parameters parameters' : Nat} :
    (crowded vars parameters).Overfills (.crowded parameters') ↔ 65535 < vars := by
  have new : (Method.crowded parameters').slots.size = 0 := rfl
  rw [Overfills, size_vars_crowded, new]
  omega

/-- A new method has room for 65535 variables, but only once. -/
theorem bind_allots_crowded :
    (∃ left, (crowded 65536 0).bind (.crowded 0) = .error (.body .tooManyLocals) left) ∧
    (∃ left, (crowded 65535 1).bind (.crowded 0) = .error (.missingParameter 0 0) left) ∧
    ∃ binding bound, (crowded 65535 1).bind (.crowded 1) = .ok binding bound ∧
      binding.Allots (crowded 65535 1) (.crowded 1) bound ∧
      ∃ left, (crowded 65535 1).bind bound = .error (.body .tooManyLocals) left := by
  have room (parameters parameters' : Nat) :
      ¬(crowded 65535 parameters).Overfills (.crowded parameters') := by
    rw [overfills_crowded]
    decide
  refine ⟨(bind_allots _ _).1.2 (overfills_crowded.2 (by decide)), ?_, ?_⟩
  · exact ((bind_allots _ (.crowded 0)).2 (room 1 0)).1.2 (by decide)
  · obtain ⟨binding, bound, binds, allots, again⟩ :=
      ((bind_allots _ (.crowded 1)).2 (room 1 1)).2 (by decide)
    -- the local variables of the first time are still there
    have overfull : (crowded 65535 1).Overfills bound := by
      unfold Overfills
      rw [allots.size_slots, size_vars_crowded]
      omega
    obtain ⟨left, fails, _⟩ := again.full overfull
    exact ⟨binding, bound, binds, allots, left, fails⟩

end Routine

/-! ## §4 Methods made from a signature -/

namespace Method

variable {name : String} {type : TypeRef} {signature : Signature}

/-- The argument of a parameter is its number, as far as that has 16 bits. -/
theorem toNat_index_ofSignature {j : Nat} {p : Parameter}
    (here : (ofSignature name type signature).parameters[j]? = some p) :
    p.index.toNat = j % 65536 := by
  rw [ofSignature, Array.getElem?_mapIdx] at here
  obtain ⟨_, _, rfl⟩ := Option.map_eq_some_iff.1 here
  exact UInt16.toNat_ofNat'

theorem size_parameters_ofSignature : (ofSignature name type signature).parameters.size =
    signature.hasThis.toNat + signature.parameters.length := by
  cases h : signature.hasThis <;> simp [ofSignature, h, Nat.add_comm]

end Method

namespace Binding

/-- Each of the first parameters gets the argument with its own number. -/
def NumbersArguments (b : Binding) (count : Nat) : Prop :=
  ∀ j < count, ∃ index : UInt16, b.operand (.arg j) = .ok (.argumentSlot index) ∧ index.toNat = j

/-- Different ones of the first parameters get different arguments. -/
def SeparatesArguments (b : Binding) (count : Nat) : Prop :=
  ∀ j k : Nat, j < count → k < count → b.operand (.arg j) = b.operand (.arg k) → j = k

theorem NumbersArguments.separates {count : Nat} (h : binding.NumbersArguments count) :
    binding.SeparatesArguments count := by
  intro j k inside inside' same
  -- the number of the argument tells the parameter
  obtain ⟨index, place, number⟩ := h j inside
  obtain ⟨index', place', number'⟩ := h k inside'
  rw [place, place'] at same
  rw [← number, ← number', Operand.argumentSlot.inj (Except.ok.inj same)]

end Binding

namespace Routine

variable {name : String} {type : TypeRef} {signature : Signature}

/-- In a method made from a signature, parameters get the arguments of their numbers modulo the
    capacity of 16 bits. -/
theorem argument_of_bind (h : r.bind (.ofSignature name type signature) = .ok binding bound)
    {j : Nat} (inside : j < r.parameters.size) : ∃ index : UInt16,
      binding.operand (.arg j) = .ok (.argumentSlot index) ∧ index.toNat = j % 65536 := by
  obtain ⟨p, here, place⟩ := (allots_of_bind h).argument j inside
  exact ⟨p.index, place, Method.toNat_index_ofSignature here⟩

/-- The first parameter and the one behind all numbers of 16 bits get the same argument. -/
theorem operand_eq_of_bind (h : r.bind (.ofSignature name type signature) = .ok binding bound)
    (many : 65536 < r.parameters.size) :
    binding.operand (.arg 0) = binding.operand (.arg 65536) := by
  obtain ⟨index, place, number⟩ := argument_of_bind h (j := 0) (by omega)
  obtain ⟨index', place', number'⟩ := argument_of_bind h many
  rw [place, place', UInt16.toNat_inj.1 (number.trans number'.symm)]

/-- In a method made from a signature, parameters get the arguments of their numbers modulo the
    capacity of 16 bits. So these are their numbers, and different ones for different parameters,
    exactly if no more parameters are declared than there are numbers of 16 bits. -/
theorem bind_ofSignature (h : r.bind (.ofSignature name type signature) = .ok binding bound) :
    (∀ j < r.parameters.size, ∃ index : UInt16,
      binding.operand (.arg j) = .ok (.argumentSlot index) ∧ index.toNat = j % 65536) ∧
    (binding.NumbersArguments r.parameters.size ↔ r.parameters.size ≤ 65536) ∧
    (binding.SeparatesArguments r.parameters.size ↔ r.parameters.size ≤ 65536) := by
  have numbers (few : r.parameters.size ≤ 65536) :
      binding.NumbersArguments r.parameters.size := by
    intro j inside
    obtain ⟨index, place, number⟩ := argument_of_bind h inside
    exact ⟨index, place, number.trans (Nat.mod_eq_of_lt (Nat.lt_of_lt_of_le inside few))⟩
  have few (separates : binding.SeparatesArguments r.parameters.size) :
      r.parameters.size ≤ 65536 := by
    -- one parameter too many, and the first one has its argument as well
    by_contra many
    rw [Nat.not_le] at many
    exact absurd (separates 0 65536 (by omega) many (operand_eq_of_bind h many)) (by decide)
  refine ⟨fun j inside => argument_of_bind h inside, ⟨?_, numbers⟩, few, ?_⟩
  · exact fun numbered => few numbered.separates
  · exact fun below => (numbers below).separates

theorem bind_crowded_eq_ok (parameters : Nat) : ∃ binding bound,
    (crowded 0 parameters).bind (.crowded parameters) = .ok binding bound := by
  have size : (Method.crowded parameters).parameters.size = parameters := by
    rw [Method.crowded, Method.size_parameters_ofSignature]
    simp
  -- without variables there is nothing to run out of but parameters
  have enough := Nat.le_of_eq ((size_parameters_crowded 0 parameters).trans size.symm)
  exact ⟨_, _, bind_eq_ok_iff.2 ⟨Nat.zero_le _, enough, rfl, rfl⟩⟩

/-- In a method that takes 65536 parameters, each parameter has its own argument. -/
theorem bind_ofSignature_crowded : ∃ binding bound,
    (crowded 0 65536).bind (.crowded 65536) = .ok binding bound ∧
      binding.NumbersArguments 65536 ∧ binding.SeparatesArguments 65536 := by
  obtain ⟨binding, bound, binds⟩ := bind_crowded_eq_ok 65536
  obtain ⟨_, numbers, separates⟩ := bind_ofSignature binds
  rw [size_parameters_crowded] at numbers separates
  exact ⟨binding, bound, binds, numbers.2 (Nat.le_refl _), separates.2 (Nat.le_refl _)⟩

/-- With one parameter more, the last one shares its argument with the first one. -/
theorem exists_shared_argument : ∃ binding bound,
    (crowded 0 65537).bind (.crowded 65537) = .ok binding bound ∧
      binding.operand (.arg 0) = .ok (.argumentSlot 0) ∧
      binding.operand (.arg 65536) = .ok (.argumentSlot 0) := by
  obtain ⟨binding, bound, binds⟩ := bind_crowded_eq_ok 65537
  have many : 65536 < (crowded 0 65537).parameters.size := by
    rw [size_parameters_crowded]
    decide
  obtain ⟨index, place, number⟩ := argument_of_bind binds many
  obtain rfl : index = 0 := UInt16.toNat_inj.1 number
  exact ⟨binding, bound, binds, (operand_eq_of_bind binds many).trans place, place⟩

end Routine

end Devirt
