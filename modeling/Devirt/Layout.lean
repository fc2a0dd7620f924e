import Devirt.Numeric.Hex

/-!
# Layouts

A layout places elements of different widths one after the other. The offset of an element is the
sum of the widths before it, so offsets start at zero and increase strictly. Elements can be looked
up by position and by offset; a lookup by offset searches by halving, and says where an offset that
starts no element falls.

The placement is an invariant of the type: `entries_eq` and `size_eq` say that the stored offsets
and the stored size are the ones that the elements determine.
-/

namespace Devirt

/-- Types whose values occupy a positive number of bytes. -/
class Width (α : Type) where
  /-- Number of bytes that a value occupies. -/
  width : α → Nat
  /-- Nothing is empty, so two elements of a layout never share an offset. -/
  width_pos : ∀ a, 0 < width a

export Width (width width_pos)

variable {α : Type} [Width α]

/-- Total width of some elements. -/
def totalWidth : List α → Nat
  | [] => 0
  | x :: xs => width x + totalWidth xs

theorem totalWidth_append (xs ys : List α) :
    totalWidth (xs ++ ys) = totalWidth xs + totalWidth ys := by
  induction xs with
  | nil => simp [totalWidth]
  | cons x xs ih => simp [totalWidth, ih, Nat.add_assoc]

/-- Pair every element with the offset at which it starts, the first one starting at `start`. -/
def placeFrom : (start : Nat) → List α → List (Nat × α)
  | _, [] => []
  | start, x :: xs => (start, x) :: placeFrom (start + width x) xs

theorem placeFrom_append (start : Nat) (xs ys : List α) :
    placeFrom start (xs ++ ys) = placeFrom start xs ++ placeFrom (start + totalWidth xs) ys := by
  induction xs generalizing start with
  | nil => simp [placeFrom, totalWidth]
  | cons x xs ih => simp [placeFrom, totalWidth, ih, Nat.add_assoc]

/-- Elements placed one after the other from offset zero. -/
structure Layout (α : Type) [Width α] where
  /-- The elements in order, each with its offset. -/
  entries : Array (Nat × α)
  /-- Offset at which the next element would start. -/
  size : Nat
  /-- Every offset is the sum of the widths before it. -/
  entries_eq : entries.toList = placeFrom 0 (entries.toList.map Prod.snd)
  /-- The size is the sum of all widths. -/
  size_eq : size = totalWidth (entries.toList.map Prod.snd)

namespace Layout

/-! ## §1 Building layouts -/

/-- The layout of no elements. -/
def empty : Layout α := ⟨#[], 0, rfl, rfl⟩

instance : Inhabited (Layout α) := ⟨empty⟩

/-- The elements of a layout, in order. -/
def elements (l : Layout α) : List α :=
  l.entries.toList.map Prod.snd

/-- Number of elements. -/
def length (l : Layout α) : Nat :=
  l.entries.size

/-- Place one more element behind the others; it starts at the present `size`. -/
def push (l : Layout α) (a : α) : Layout α where
  entries := l.entries.push (l.size, a)
  size := l.size + width a
  entries_eq := by
    simp only [Array.toList_push, List.map_append, List.map_cons, List.map_nil, placeFrom_append,
      ← l.entries_eq, Nat.zero_add, ← l.size_eq, placeFrom]
  size_eq := by
    simp [l.size_eq, totalWidth_append, totalWidth]

/-- Place elements in order. -/
def ofArray (xs : Array α) : Layout α :=
  xs.foldl push empty

@[simp] theorem elements_empty : (empty : Layout α).elements = [] := rfl

@[simp] theorem elements_push (l : Layout α) (a : α) :
    (l.push a).elements = l.elements ++ [a] := by
  simp [elements, push]

theorem elements_foldl_push (xs : List α) (l : Layout α) :
    (xs.foldl push l).elements = l.elements ++ xs := by
  induction xs generalizing l with
  | nil => simp
  | cons x xs ih => simp [ih]

/-- Placing elements loses none and keeps their order. -/
@[simp] theorem elements_ofArray (xs : Array α) : (ofArray xs).elements = xs.toList := by
  rw [ofArray, ← Array.foldl_toList, elements_foldl_push]
  simp

/-! ## §2 Lookups -/

/-- The element at a position, with its offset. -/
def at? (l : Layout α) (position : Nat) : Option (Nat × α) :=
  l.entries[position]?

/-- Outcome of a lookup by offset. -/
inductive Found (α : Type) where
  /-- The element at this position starts at the offset. -/
  | starts (position : Nat) (element : α)
  /-- No element starts at the offset; the one at this position is the first to start after it. -/
  | inside (position : Nat)
  /-- Every element starts before the offset. -/
  | beyond
  deriving DecidableEq, Repr

/-- The element that starts at the offset, if there is one. -/
def Found.element? : Found α → Option α
  | .starts _ a => some a
  | .inside _ | .beyond => none

/-- The first position from `low` on, but before `high`, whose element starts at the offset or
    after it; `high` if there is none. Elements before `low` must start before the offset. -/
def firstFrom (entries : Array (Nat × α)) (offset low high : Nat) : Nat :=
  if low < high then
    let middle := low + (high - low) / 2
    match entries[middle]? with
    | some (start, _) =>
      if start < offset then firstFrom entries offset (middle + 1) high
      else firstFrom entries offset low middle
    -- no entry in the middle means that `high` is beyond the last entry
    | none => firstFrom entries offset low middle
  else low
termination_by high - low

/-- Look an element up by its offset. -/
def find (l : Layout α) (offset : Nat) : Found α :=
  let position := firstFrom l.entries offset 0 l.entries.size
  match l.entries[position]? with
  | some (start, a) => if start = offset then .starts position a else .inside position
  | none => .beyond

/-- Signed number of bytes from one offset to another. -/
def displacement (source target : Nat) : Int :=
  (target : Int) - source

/-- The displacement as a signed 64-bit word. Offsets use all 64 bits, so one that is 2^63 bytes or
    more away appears on the other side: the displacement is kept modulo 2^64. -/
def wordDisplacement (source target : Nat) : Int64 :=
  Int64.ofInt (displacement source target)

/-! ## §3 Comparison and text -/

instance [BEq α] : BEq (Layout α) := ⟨fun a b => a.entries == b.entries⟩

/-- A listing of the layout, with offsets of at least four hexadecimal digits. -/
def text (l : Layout α) (elementText : α → String) : String :=
  let lines := l.entries.toList.map fun (offset, a) =>
    "IL_" ++ Numeric.hexPadded 4 offset ++ " = " ++ elementText a
  "[" ++ ", ".intercalate lines ++ "]"

end Layout

end Devirt
