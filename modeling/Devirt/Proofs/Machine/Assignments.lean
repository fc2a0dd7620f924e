import Devirt.Machine
import Mathlib.Logic.Basic

/-!
# Machines Made by Assignments

The constants of a machine are recovered piece by piece: some flags are found at a bit, some tag is
found to stand for a kind of exception regions, and what is found later corrects what was found
before. Such a sequence of assignments starts from the standard machine. An assignment to flags may
cover several flags at once, and several flags may end up at one bit.

For each flag only the last assignment that covers it counts, and likewise for each tag. So a mask
has a bit exactly if one of its flags was last kept there, and the two kinds of assignments do not
touch each other.

Main statements:
- `eq_foldl_iff_of_overwrites`: what a run of writes leaves is what the last write left.
- `Machine.keptAt_iff`, `Machine.standsFor_iff`: the last assignments, and what the machine holds.
- `Machine.testBit_mask`: the bits of a mask are those of its flags.
- `Machine.mask_configured`: all of it for every sequence of assignments.
-/

namespace Devirt

/-! ## §1 Runs of writes -/

section Writes

variable {σ α β : Type}

/-- The last element that writes anything writes the value. -/
def LastWrites (written? : α → Option β) (xs : List α) (value : β) : Prop :=
  ∃ earlier x later, xs = earlier ++ x :: later ∧ written? x = some value ∧
    ∀ y ∈ later, written? y = none

/-- The first element counts only if no other one writes. -/
theorem lastWrites_cons {written? : α → Option β} {x : α} {xs : List α} {value : β} :
    LastWrites written? (x :: xs) value ↔ LastWrites written? xs value ∨
      written? x = some value ∧ ∀ y ∈ xs, written? y = none := by
  constructor
  · intro last
    obtain ⟨earlier, z, later, split, writes, silent⟩ := last
    -- the last write is the first element, or it is behind it
    cases earlier with
    | nil =>
      obtain ⟨rfl, rfl⟩ := List.cons.inj split
      exact .inr ⟨writes, silent⟩
    | cons first earlier =>
      obtain ⟨rfl, rfl⟩ := List.cons.inj split
      exact .inl ⟨earlier, z, later, rfl, writes, silent⟩
  · intro last
    rcases last with ⟨earlier, z, later, rfl, writes, silent⟩ | ⟨writes, silent⟩
    · exact ⟨x :: earlier, z, later, rfl, writes, silent⟩
    · exact ⟨[], x, xs, rfl, writes, silent⟩

variable {step : σ → α → σ} (view : σ → β)

/-- If every step either writes what is seen of a state or leaves it, then what is seen after a run
    is what the last write left, or what was seen before if there was none. -/
theorem eq_foldl_iff_of_overwrites {written? : α → Option β}
    (overwrites : ∀ s x, view (step s x) = (written? x).getD (view s)) (xs : List α) (s : σ)
    (value : β) :
    view (xs.foldl step s) = value ↔
      LastWrites written? xs value ∨ (∀ x ∈ xs, written? x = none) ∧ view s = value := by
  -- the state changes along the run, and with it what is seen before the rest of it
  induction xs generalizing s with
  | nil => simp [LastWrites]
  | cons x xs ih =>
    rw [List.foldl_cons, ih, overwrites, lastWrites_cons, List.forall_mem_cons]
    cases written? x with
    | none => simp
    | some value => simp [and_comm]

/-- Steps that leave what is seen of a state can be left out of a run. -/
theorem foldl_filter_of_unseen {seen : α → Bool}
    (unseen : ∀ s x, seen x = false → view (step s x) = view s)
    (congr : ∀ s s' x, view s = view s' → view (step s x) = view (step s' x))
    (xs : List α) {s s' : σ} (same : view s = view s') :
    view ((xs.filter seen).foldl step s) = view (xs.foldl step s') := by
  -- the two runs keep different states, which look the same
  induction xs generalizing s s' with
  | nil => exact same
  | cons x xs ih =>
    cases relevant : seen x with
    | true =>
      rw [List.filter_cons_of_pos relevant]
      exact ih (congr s s' x same)
    | false =>
      rw [List.filter_cons_of_neg (by simp [relevant])]
      exact ih (same.trans (unseen s' x relevant).symm)

end Writes

namespace Machine

/-! ## §2 Assignments -/

/-- A correction of the constants of a machine. -/
inductive Assignment where
  /-- The flags of the set are kept at the bit, counted modulo eight. -/
  | place (flags : FlagSet) (bit : UInt8)
  /-- The tag stands for the kind of exception regions. -/
  | number (tag : UInt8) (kind : HandlerKind)
  deriving DecidableEq, Repr

namespace Assignment

/-- Is the assignment one to flags? -/
def isPlace : Assignment → Bool
  | place _ _ => true
  | number _ _ => false

/-- The bit at which the assignment puts a flag, if it covers the flag. -/
def bitFor? (f : Flag) : Assignment → Option Nat
  | place flags bit => if flags.contains f then some (bit.toNat % 8) else none
  | number _ _ => none

/-- The kind for which the assignment lets a tag stand, if it is about the tag. -/
def kindFor? (tag : UInt8) : Assignment → Option HandlerKind
  | place _ _ => none
  | number t kind => if t = tag then some kind else none

end Assignment

/-- Apply an assignment to a machine. -/
def assign (m : Machine) : Assignment → Machine
  | .place flags bit => m.setBit flags bit
  | .number tag kind => m.setKind tag kind

/-- The machine that a sequence of assignments makes of the standard one. -/
def configured (assignments : List Assignment) : Machine :=
  assignments.foldl assign standard

/-- The last assignment that covers the flag puts it at the bit; or none covers it, and the bit is
    the one that names the flag. -/
def KeptAt (assignments : List Assignment) (f : Flag) (bit : Nat) : Prop :=
  LastWrites (·.bitFor? f) assignments bit ∨
    (∀ a ∈ assignments, a.bitFor? f = none) ∧ (f.bit : Nat) = bit

/-- The last assignment about the tag lets it stand for the kind; or none is about it, and it stands
    for the kind in the standard machine. -/
def StandsFor (assignments : List Assignment) (tag : UInt8) (kind : HandlerKind) : Prop :=
  LastWrites (·.kindFor? tag) assignments kind ∨
    (∀ a ∈ assignments, a.kindFor? tag = none) ∧ standard.kindOf tag = some kind

theorem bitOf_assign (m : Machine) (f : Flag) (a : Assignment) :
    ((m.assign a).bitOf f : Nat) = (a.bitFor? f).getD (m.bitOf f) := by
  cases a with
  | place flags bit =>
    show ((m.setBit flags bit).bitOf f : Nat) = _
    by_cases covered : flags.contains f <;> simp [setBit, Assignment.bitFor?, covered]
  | number tag kind => rfl

theorem kindOf_assign (m : Machine) (tag : UInt8) (a : Assignment) :
    (m.assign a).kindOf tag = ((a.kindFor? tag).map some).getD (m.kindOf tag) := by
  cases a with
  | place flags bit => rfl
  | number t kind =>
    show (m.setKind t kind).kindOf tag = _
    by_cases same : t = tag
    · simp [setKind, Assignment.kindFor?, same]
    · simp [setKind, Assignment.kindFor?, same, Ne.symm same]

/-- A machine keeps a flag where the last assignment that covers it says. -/
theorem keptAt_iff {assignments : List Assignment} {f : Flag} {bit : Nat} :
    KeptAt assignments f bit ↔ ((configured assignments).bitOf f : Nat) = bit := by
  have last := eq_foldl_iff_of_overwrites (fun m : Machine => (m.bitOf f : Nat))
    (fun m a => bitOf_assign m f a) assignments standard bit
  exact last.symm

/-- A tag stands for what the last assignment about it says. -/
theorem standsFor_iff {assignments : List Assignment} {tag : UInt8} {kind : HandlerKind} :
    StandsFor assignments tag kind ↔ (configured assignments).kindOf tag = some kind := by
  have last := eq_foldl_iff_of_overwrites (fun m : Machine => m.kindOf tag)
    (fun m a => kindOf_assign m tag a) assignments standard (some kind)
  rw [configured, last]
  simp [StandsFor, LastWrites]

/-- Assignments to tags leave the flags where they are. -/
theorem bitOf_filter (assignments : List Assignment) :
    (configured (assignments.filter (·.isPlace))).bitOf = (configured assignments).bitOf := by
  -- a step reads no more of a machine than where flags are kept
  refine foldl_filter_of_unseen Machine.bitOf (fun m a number => ?_) (fun m m' a same => ?_)
    assignments rfl
  · cases a with
    | place => cases number
    | number => rfl
  · funext f
    apply Fin.ext
    rw [bitOf_assign, bitOf_assign, same]

/-- Assignments to flags leave the meaning of tags as it is. -/
theorem kindOf_filter (assignments : List Assignment) :
    (configured (assignments.filter (!·.isPlace))).kindOf = (configured assignments).kindOf := by
  refine foldl_filter_of_unseen Machine.kindOf (fun m a place => ?_) (fun m m' a same => ?_)
    assignments rfl
  · cases a with
    | place => rfl
    | number => cases place
  · funext tag
    rw [kindOf_assign, kindOf_assign, same]

/-! ## §3 Masks -/

/-- The bit of a flag is inside the byte, so shifting one there loses nothing. -/
theorem toNat_one_shiftLeft (bit : Fin 8) :
    ((1 : UInt8) <<< UInt8.ofNat bit).toNat = 1 <<< (bit : Nat) := by
  revert bit
  decide

theorem testBit_foldl_mask (m : Machine) (flags : List Flag) (mask : UInt8) (b : Nat) :
    (flags.foldl (fun mask f => mask ||| ((1 : UInt8) <<< UInt8.ofNat (m.bitOf f)))
      mask).toNat.testBit b = true ↔
      mask.toNat.testBit b = true ∨ ∃ f ∈ flags, (m.bitOf f : Nat) = b := by
  -- the mask collected so far changes along the flags
  induction flags generalizing mask with
  | nil => simp
  | cons f flags ih =>
    rw [List.foldl_cons, ih, UInt8.toNat_or, toNat_one_shiftLeft, Nat.one_shiftLeft,
      Nat.testBit_or, Nat.testBit_two_pow]
    simp [or_assoc]

/-- A mask has the bits at which the machine keeps the flags of the set. -/
theorem testBit_mask (m : Machine) (flags : FlagSet) (b : Nat) :
    (m.mask flags).toNat.testBit b = true ↔
      ∃ f, flags.contains f = true ∧ (m.bitOf f : Nat) = b := by
  simp [mask, testBit_foldl_mask]

/-- Flags of either set are masked by the bits of both masks, even where the sets share bits. -/
theorem mask_union (m : Machine) (flags others : FlagSet) :
    m.mask (flags ∪ others) = m.mask flags ||| m.mask others := by
  -- bit by bit; a bit that both sets share is set by either
  apply UInt8.toNat_inj.1
  apply Nat.eq_of_testBit_eq
  intro b
  rw [UInt8.toNat_or, Nat.testBit_or, Bool.eq_iff_iff, Bool.or_eq_true]
  simp only [testBit_mask, FlagSet.contains_union, Bool.or_eq_true, or_and_right, exists_or]

/-! ## §4 The result -/

/-- After any sequence of assignments a mask has the bits at which its flags were last kept, and the
    mask of a union is the union of the masks. Every flag is kept at one of the eight bits, so the
    one that is shifted there is never lost. A tag stands for what it was last assigned to, and
    neither kind of assignments has an effect on what belongs to the other. -/
theorem mask_configured (assignments : List Assignment) :
    (∀ (flags : FlagSet) (b : Nat),
      ((configured assignments).mask flags).toNat.testBit b = true ↔
        ∃ f, flags.contains f = true ∧ KeptAt assignments f b) ∧
    (∀ flags others : FlagSet, (configured assignments).mask (flags ∪ others) =
      (configured assignments).mask flags ||| (configured assignments).mask others) ∧
    (∀ f : Flag, ∃ bit < 8, KeptAt assignments f bit ∧
      ((1 : UInt8) <<< UInt8.ofNat ((configured assignments).bitOf f)).toNat = 1 <<< bit) ∧
    (∀ (tag : UInt8) (kind : HandlerKind),
      (configured assignments).kindOf tag = some kind ↔ StandsFor assignments tag kind) ∧
    (configured assignments).mask = (configured (assignments.filter (·.isPlace))).mask ∧
    (configured assignments).kindOf =
      (configured (assignments.filter (!·.isPlace))).kindOf := by
  refine ⟨fun flags b => ?_, mask_union _, fun f => ?_, fun tag kind => standsFor_iff.symm, ?_, ?_⟩
  · simp only [testBit_mask, keptAt_iff]
  · exact ⟨_, ((configured assignments).bitOf f).isLt, keptAt_iff.2 rfl, toNat_one_shiftLeft _⟩
  · funext flags
    unfold mask
    rw [bitOf_filter]
  · exact (kindOf_filter assignments).symm

/-- Three flags are moved, two of them twice; the masks follow the last moves. -/
example : (configured [.place ⟨0x05⟩ 6, .place ⟨0x0c⟩ 0, .place ⟨0x08⟩ 11]).mask ⟨0x0d⟩ = 0x49 := by
  decide

end Machine

end Devirt
