import Devirt.Catalog
import Devirt.Instruction
import Devirt.Proofs.Opcode.PrefixCode

/-!
# Stack Use of Ill-Formed Instructions

An operand may have another form than the opcode asks for, and what an instruction does to the
evaluation stack is asked before anyone looks at that. If the opcode leaves it to a signature how
many values are taken, then opcode and operand are looked at together, and an operand of another
form takes nothing. How many values are left is read off the operand alone. So a direct call with a
standalone signature leaves the result of that signature, and so does an indirect call with a
method. These are the only ill-formed instructions that leave a value by signature.

Main statements:
- `Instruction.takenBySignature_of_misfit`: nothing is taken by signature, except for a return.
- `Instruction.leavesForeignResult_of_misfit`: what leaves something by signature.
- `Instruction.stackUse_of_misfit`: both, as effects on the evaluation stack.
-/

namespace Devirt

/-! ## §1 Opcodes that go by a signature -/

namespace Opcode

theorem pushes_eq_bySignature_iff {o : Opcode} :
    o.pushes = .bySignature ↔ o ∈ [call, calli, callvirt] := by
  -- over all opcodes, of which there are finitely many
  have table : ∀ o ∈ all, o.pushes = .bySignature ↔ o ∈ [call, calli, callvirt] := by
    decide +kernel
  exact table o o.mem_all

end Opcode

/-! ## §2 Effects of ill-formed instructions -/

namespace Instruction

variable {i : Instruction} {returnsValue : Bool}

/-- The instruction is a direct call with a standalone signature or an indirect call with a method,
    and the signature has a result. -/
inductive LeavesForeignResult : Instruction → Prop where
  | direct {opcode : Opcode} {s : SignatureRef} (isDirect : opcode = .call ∨ opcode = .callvirt)
      (result : s.signature.returnType.isSome = true) :
      LeavesForeignResult ⟨opcode, .signature s⟩
  | indirect {m : MethodRef} (result : m.signature.returnType.isSome = true) :
      LeavesForeignResult ⟨.calli, .member (.method m)⟩

theorem takes_of_bySignature (pops : i.opcode.pops = .bySignature) (returnsValue : Bool) :
    (i.stackUse returnsValue).takes = .slots (i.takenBySignature returnsValue) := by
  simp [stackUse, pops]

theorem leaves_of_bySignature (pushes : i.opcode.pushes = .bySignature) (returnsValue : Bool) :
    (i.stackUse returnsValue).leaves = i.leftBySignature := by
  simp [stackUse, pushes]

/-- Only operands of the right form tell how many values are taken. -/
theorem takenBySignature_of_misfit (misfit : i.isWellFormed = false) (notReturn : i.opcode ≠ .ret) :
    i.takenBySignature returnsValue = 0 := by
  unfold takenBySignature
  split
  next _ isReturn => exact absurd isReturn notReturn
  -- the operands from which a signature is read are those that fit
  next opcode operand =>
    rw [isWellFormed, opcode, operand] at misfit
    cases misfit
  next opcode operand =>
    rw [isWellFormed, opcode, operand] at misfit
    cases misfit
  next opcode operand =>
    rw [isWellFormed, opcode, operand] at misfit
    cases misfit
  next opcode operand =>
    rw [isWellFormed, opcode, operand] at misfit
    cases misfit
  next => rfl

theorem LeavesForeignResult.leftBySignature_eq (h : i.LeavesForeignResult) :
    i.leftBySignature = 1 := by
  cases h with
  | direct _ result => simp [leftBySignature, Signature.resultCount, result]
  | indirect result => simp [leftBySignature, Signature.resultCount, result]

theorem isSome_of_resultCount_ne_zero {s : Signature} (h : s.resultCount ≠ 0) :
    s.returnType.isSome = true := by
  simpa [Signature.resultCount, Option.isSome_iff_ne_none] using h

/-- A value is left by signature only if the signature in the operand is of the sort that the other
    calls go by, and has a result. -/
theorem leavesForeignResult_of_misfit (misfit : i.isWellFormed = false)
    (pushes : i.opcode.pushes = .bySignature) (left : i.leftBySignature ≠ 0) :
    i.LeavesForeignResult := by
  -- of the three opcodes that go by a signature, those that ask for this operand are well-formed
  obtain ⟨opcode, operand⟩ := i
  have sort := Opcode.pushes_eq_bySignature_iff.1 pushes
  simp only [List.mem_cons, List.not_mem_nil, or_false] at sort
  unfold leftBySignature at left
  split at left
  next m form =>
    obtain rfl : operand = _ := form
    rcases sort with rfl | rfl | rfl
    · cases misfit
    · exact .indirect (isSome_of_resultCount_ne_zero left)
    · cases misfit
  next s form =>
    obtain rfl : operand = _ := form
    rcases sort with rfl | rfl | rfl
    · exact .direct (.inl rfl) (isSome_of_resultCount_ne_zero left)
    · cases misfit
    · exact .direct (.inr rfl) (isSome_of_resultCount_ne_zero left)
  next => exact absurd rfl left

/-- An operand of a form that the opcode does not ask for takes nothing where that is left to a
    signature, except for a return. It leaves nothing where that is left to a signature, unless the
    instruction is a direct call with a standalone signature or an indirect call with a method. Then
    the result of the signature is left, if it has one. -/
theorem stackUse_of_misfit (misfit : i.isWellFormed = false) (returnsValue : Bool) :
    (i.opcode.pops = .bySignature → i.opcode ≠ .ret →
      (i.stackUse returnsValue).takes = .slots 0) ∧
    (i.opcode.pushes = .bySignature →
      ((i.stackUse returnsValue).leaves = 0 ↔ ¬i.LeavesForeignResult) ∧
      ((i.stackUse returnsValue).leaves = 1 ↔ i.LeavesForeignResult)) := by
  constructor
  · intro pops notReturn
    rw [takes_of_bySignature pops, takenBySignature_of_misfit misfit notReturn]
  · intro pushes
    rw [leaves_of_bySignature pushes]
    by_cases foreign : i.LeavesForeignResult
    · simp [foreign.leftBySignature_eq, foreign]
    -- whatever else leaves no value by signature
    · have nothing : i.leftBySignature = 0 := by
        by_contra left
        exact foreign (leavesForeignResult_of_misfit misfit pushes left)
      simp [nothing, foreign]

/-- A constructor call with a standalone signature takes nothing, and an indirect call with a method
    without a result leaves nothing. -/
theorem stackUse_of_misfit_silent :
    let construct : Instruction :=
      ⟨.newobj, .signature ⟨⟨true, [CoreType.string.ref], none⟩, 0x11000001⟩⟩
    let clear : Instruction :=
      ⟨.calli, .member (.method ⟨CoreType.object.ref, "Clear", ⟨true, [], none⟩, 0x0a000001⟩)⟩
    construct.isWellFormed = false ∧ (construct.stackUse true).takes = .slots 0 ∧
      clear.isWellFormed = false ∧ (clear.stackUse true).leaves = 0 := by
  refine ⟨rfl, (stackUse_of_misfit rfl true).1 rfl (by decide), rfl, ?_⟩
  refine ((stackUse_of_misfit rfl true).2 rfl).1.2 ?_
  rintro ⟨⟩
  contradiction

/-- A direct call that is given a standalone signature instead of a method. The signature has no
    parameters, and its result is an object. -/
def misdirected : Instruction :=
  ⟨.call, .signature ⟨⟨false, [], some CoreType.object.ref⟩, 0x11000001⟩⟩

/-- Such a call takes nothing, but leaves the result. -/
theorem exists_misfit_leaving : misdirected.isWellFormed = false ∧
    misdirected.opcode.pushes = .bySignature ∧
    misdirected.stackUse false = ⟨.slots 0, 1⟩ ∧ misdirected.stackUse true = ⟨.slots 0, 1⟩ :=
  ⟨rfl, rfl, rfl, rfl⟩

end Instruction

end Devirt
