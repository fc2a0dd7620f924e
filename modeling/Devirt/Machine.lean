import Devirt.Flag
import Devirt.Handler

/-!
# Machine Constants

Every virtual machine keeps its flags at bits of its own choice, and has its own numbers for the
kinds of exception regions. Both are recovered along with the code. A machine is the pair of the
two assignments; flags are assigned a bit each, while tags may be unassigned.
-/

namespace Devirt

/-- The constants of a virtual machine. -/
structure Machine where
  /-- The bit of the flags register that holds a flag. -/
  bitOf : Flag → Fin 8
  /-- The kind of the exception regions with a tag. -/
  kindOf : UInt8 → Option HandlerKind

namespace Machine

/-- A machine that keeps every flag at the bit that names it, and numbers the kinds of regions from
    zero in the order of `HandlerKind.all`. -/
def standard : Machine where
  bitOf := Flag.bit
  kindOf tag := HandlerKind.all[tag.toNat]?

instance : Inhabited Machine := ⟨standard⟩

/-- Keep every flag of the set at the given bit, counted modulo eight. -/
def setBit (m : Machine) (flags : FlagSet) (bit : UInt8) : Machine :=
  { m with bitOf := fun f =>
      if flags.contains f then ⟨bit.toNat % 8, Nat.mod_lt _ (by decide)⟩ else m.bitOf f }

/-- Use a tag for a kind of exception regions. -/
def setKind (m : Machine) (tag : UInt8) (kind : HandlerKind) : Machine :=
  { m with kindOf := fun t => if t = tag then some kind else m.kindOf t }

/-- The bit of a set that consists of one flag. -/
def bitOf? (m : Machine) (flags : FlagSet) : Option (Fin 8) :=
  flags.single?.map m.bitOf

/-- The bits of the flags register that hold the flags of a set. -/
def mask (m : Machine) (flags : FlagSet) : UInt8 :=
  flags.toList.foldl (fun mask f => mask ||| ((1 : UInt8) <<< UInt8.ofNat (m.bitOf f))) 0

/-- Do two machines agree on all flags and all tags? -/
def agrees (a b : Machine) : Bool :=
  Flag.all.all (fun f => a.bitOf f == b.bitOf f) &&
    (List.range 256).all (fun n => a.kindOf (UInt8.ofNat n) == b.kindOf (UInt8.ofNat n))

/-- Machines that agree are equal. -/
theorem agrees_iff (a b : Machine) : a.agrees b = true ↔ a = b := by
  constructor
  · intro h
    simp only [agrees, Bool.and_eq_true, List.all_eq_true, beq_iff_eq, List.mem_range] at h
    have bits : a.bitOf = b.bitOf := funext fun f => h.1 f f.mem_all
    have kinds : a.kindOf = b.kindOf := funext fun tag => by
      simpa using h.2 tag.toNat tag.toNat_lt
    cases a
    cases b
    simp_all
  · rintro rfl
    simp [agrees]

instance : DecidableEq Machine := fun a b => decidable_of_iff _ (agrees_iff a b)

end Machine

end Devirt
