import Devirt.Catalog
import Devirt.Lowering.Error
import Devirt.Machine

/-!
# Configuration of Lowering

What lowering needs to know besides the routine: the constants of the virtual machine, the methods
that convert its values, which passes to run, and how to update flags. The last is given by a pair
of functions that may keep state of their own.
-/

namespace Devirt

/-! ## §1 Settings -/

/-- Settings of lowering. -/
structure Config where
  machine : Machine
  /-- The methods that convert values to host types. -/
  converters : Converters
  /-- Replace short branches that are out of reach? -/
  relaxBranches : Bool
  /-- Compute the bound of the evaluation stack? -/
  boundStack : Bool
  /-- Insist that the nodes of a part of a region are laid out next to each other? -/
  checkContiguity : Bool

/-- The settings for the standard machine, with every pass and every check. -/
def Config.standard (converters : Converters) : Config :=
  ⟨.standard, converters, true, true, true⟩

/-! ## §2 Emitting lines -/

/-- What changes while code is emitted. -/
structure Emission (σ : Type) where
  /-- The labels that are left. -/
  supply : LabelSupply
  state : σ

/-- Emission of code. Labels that were used before a failure stay used. -/
abbrev Emit (σ α : Type) := EStateM LowerError (Emission σ) α

namespace Emit

variable {σ : Type}

/-- Give an instruction a fresh label. -/
def line (i : Instruction) : Emit σ Line := fun e =>
  let (label, supply) := e.supply.fresh
  .ok ⟨label, i⟩ { e with supply := supply }

/-- Give instructions fresh labels, in order. -/
def lines (is : List Instruction) : Emit σ (Array Line) :=
  is.foldlM (fun code i => return code.push (← line i)) #[]

/-- Fail if something failed that emits nothing. -/
def ofExcept {α : Type} (x : Except LowerError α) : Emit σ α :=
  match x with
  | .ok a => pure a
  | .error e => throw e

end Emit

/-! ## §3 Updating flags -/

/-- How an operation with two arguments updates flags. -/
structure BinaryUpdate where
  /-- The bits of the flags register that change. -/
  mask : UInt8
  /-- Are the flags computed from the inverted result? -/
  inverted : Bool
  /-- Does the result stay on the stack? -/
  keepsResult : Bool
  deriving DecidableEq, Repr

/-- Lowering of operations that update flags. The functions get the code of the arguments and the
    instructions of the operation, and give the whole code: for the result, for the flags and, if
    an operation with two arguments does not keep its result, for dropping it. -/
structure FlagsLowering (σ : Type) where
  /-- Lower an operation with one argument. The last input is the mask of the flags. -/
  unary : Array Line → List Instruction → UInt8 → Emit σ (Array Line)
  /-- Lower an operation with two arguments. -/
  binary : Array Line → Array Line → List Instruction → BinaryUpdate → Emit σ (Array Line)

end Devirt
