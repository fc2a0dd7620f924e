/-!
# Flags of the Virtual Processor

A virtual processor has eight flags. A set of flags is a byte with one bit for each. These bits
name flags; where a machine keeps them is up to the machine.
-/

namespace Devirt

/-- A flag of the virtual processor. -/
inductive Flag where
  | overflow
  | carry
  | zero
  | sign
  /-- Unsigned operation. -/
  | unsigned
  /-- First flag with a meaning of the machine's own. -/
  | behav1
  /-- Second flag with a meaning of the machine's own. -/
  | behav2
  /-- Third flag with a meaning of the machine's own. -/
  | behav3
  deriving DecidableEq, Repr, Inhabited

namespace Flag

/-- Every flag, in the order of the bits that name them. -/
def all : List Flag := [.overflow, .carry, .zero, .sign, .unsigned, .behav1, .behav2, .behav3]

/-- The bit that names a flag. -/
def bit : Flag → Fin 8
  | .overflow => 0
  | .carry => 1
  | .zero => 2
  | .sign => 3
  | .unsigned => 4
  | .behav1 => 5
  | .behav2 => 6
  | .behav3 => 7

/-- The name of a flag. -/
def name : Flag → String
  | .overflow => "OVERFLOW"
  | .carry => "CARRY"
  | .zero => "ZERO"
  | .sign => "SIGN"
  | .unsigned => "UNSIGNED"
  | .behav1 => "BEHAV1"
  | .behav2 => "BEHAV2"
  | .behav3 => "BEHAV3"

theorem mem_all (f : Flag) : f ∈ all := by
  cases f <;> decide

end Flag

/-- A set of flags. -/
structure FlagSet where
  /-- One bit for each flag. -/
  bits : UInt8
  deriving DecidableEq, Repr, Inhabited

namespace FlagSet

/-- Is the flag in the set? -/
def contains (s : FlagSet) (f : Flag) : Bool :=
  s.bits.toNat.testBit f.bit

/-- The flags of either set. -/
instance : Union FlagSet := ⟨fun s t => ⟨s.bits ||| t.bits⟩⟩

@[simp] theorem contains_union (s t : FlagSet) (f : Flag) :
    (s ∪ t).contains f = (s.contains f || t.contains f) := by
  show (s.bits ||| t.bits).toNat.testBit f.bit = _
  simp [contains, UInt8.toNat_or]

/-- The flags of a set, in order. -/
def toList (s : FlagSet) : List Flag :=
  Flag.all.filter s.contains

@[simp] theorem mem_toList {s : FlagSet} {f : Flag} : f ∈ s.toList ↔ s.contains f = true := by
  simp [toList, f.mem_all]

/-- The only flag of a set, if it has exactly one. -/
def single? (s : FlagSet) : Option Flag :=
  match s.toList with
  | [f] => some f
  | _ => none

/-- The names of the flags with bars between them. -/
def text (s : FlagSet) : String :=
  match s.toList with
  | [] => "(empty)"
  | flags => " | ".intercalate (flags.map Flag.name)

end FlagSet

end Devirt
