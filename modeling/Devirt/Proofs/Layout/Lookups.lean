import Devirt.Proofs.Layout.Offsets
import Mathlib.Order.Nat

/-!
# Lookups by Offset

An offset either starts an element, or falls inside one, or lies behind the start of the last one.
A lookup tells these cases apart by a search by halving. The search looks for the position that
splits the elements into those that start before the offset and the others. Since offsets increase
strictly with positions, such a position exists for every offset, and the two elements next to a
position decide whether it is the one.

Main statements:
- `Layout.find_eq_iff`: the outcome of a lookup, for every layout and every offset.
- `Layout.places_foldl_push`: layouts built by any sequence of pushes.
-/

namespace Devirt

variable {α : Type} [Width α]

/-- Adding up widths as 64-bit words loses nothing if the sum fits in a word. -/
theorem toNat_foldl_words (xs : List α) (start : UInt64)
    (fits : start.toNat + totalWidth xs < UInt64.size) :
    (xs.foldl (fun offset a => offset + UInt64.ofNat (width a)) start).toNat =
      start.toNat + totalWidth xs := by
  induction xs generalizing start with
  | nil => rfl
  | cons x xs ih =>
    have size : UInt64.size = 18446744073709551616 := rfl
    rw [totalWidth] at fits
    have next : (start + UInt64.ofNat (width x)).toNat = start.toNat + width x := by
      rw [UInt64.toNat_add, UInt64.toNat_ofNat']
      omega
    rw [List.foldl_cons, ih _ (by omega), next, totalWidth, Nat.add_assoc]

namespace Layout

/-- What a lookup by offset has to answer. -/
inductive Locates (l : Layout α) (offset : Nat) : Found α → Prop where
  /-- The element starts at the offset. -/
  | starts {i : Nat} {a : α} : l.at? i = some (offset, a) → Locates l offset (.starts i a)
  /-- The offset lies strictly between the starts of two elements in a row. -/
  | inside {i : Nat} {before next : Nat × α} : l.at? i = some before → l.at? (i + 1) = some next →
      before.1 < offset → offset < next.1 → Locates l offset (.inside (i + 1))
  /-- There is no element. -/
  | empty : l.length = 0 → Locates l offset .beyond
  /-- The last element starts before the offset. -/
  | beyond {last : Nat × α} : l.at? (l.length - 1) = some last → last.1 < offset →
      Locates l offset .beyond

variable {l : Layout α} {offset p i j : Nat}

/-! ## §1 Offsets and positions -/

theorem lt_length_of_at? {entry : Nat × α} (here : l.at? i = some entry) : i < l.length :=
  (Array.getElem?_eq_some_iff.1 here).1

theorem exists_at? (inside : i < l.length) : ∃ entry, l.at? i = some entry :=
  ⟨_, Array.getElem?_eq_getElem inside⟩

theorem at?_length (l : Layout α) : l.at? l.length = none :=
  Array.getElem?_eq_none (Nat.le_refl _)

theorem fst_of_at? {entry : Nat × α} (here : l.at? i = some entry) :
    entry.1 = totalWidth (l.elements.take i) := by
  rw [at?_eq, Option.map_eq_some_iff] at here
  obtain ⟨a, _, rfl⟩ := here
  rfl

/-- Offsets increase strictly with positions. -/
theorem fst_lt_fst_iff {entry other : Nat × α} (here : l.at? i = some entry)
    (there : l.at? j = some other) : entry.1 < other.1 ↔ i < j := by
  rw [fst_of_at? there]
  exact l.splitsAt_totalWidth_take j i entry here

/-- Elements at different positions start at different offsets. -/
theorem position_inj {a b : α} (here : l.at? i = some (offset, a))
    (there : l.at? j = some (offset, b)) : i = j := by
  -- were one position before the other, the offsets would differ
  have notBefore := mt (fst_lt_fst_iff here there).2 (Nat.lt_irrefl offset)
  have notBehind := mt (fst_lt_fst_iff there here).2 (Nat.lt_irrefl offset)
  omega

/-! ## §2 The position that an offset belongs to -/

/-- The elements next to a position decide whether the offset belongs there. -/
theorem splitsAt_of_neighbours (inside : p ≤ l.length)
    (before : ∀ i entry, i + 1 = p → l.at? i = some entry → entry.1 < offset)
    (behind : ∀ entry, l.at? p = some entry → offset ≤ entry.1) :
    SplitsAt l.entries offset p := by
  intro i entry here
  -- offsets increase with positions, so what holds of a neighbour holds of all elements beyond it
  constructor
  · intro smaller
    by_contra notBefore
    obtain ⟨next, there⟩ := exists_at? (Nat.lt_of_le_of_lt (Nat.not_lt.1 notBefore)
      (lt_length_of_at? here))
    have notSmaller := behind next there
    have order := fst_lt_fst_iff here there
    omega
  · intro earlier
    obtain ⟨q, rfl⟩ := Nat.exists_eq_add_one_of_ne_zero (Nat.ne_of_gt (Nat.zero_lt_of_lt earlier))
    obtain ⟨previous, there⟩ := exists_at? (l := l) inside
    have smaller := before q previous rfl there
    have order := fst_lt_fst_iff there here
    omega

/-- Every offset belongs to a position. -/
theorem exists_splitsAt (l : Layout α) (offset : Nat) :
    ∃ p ≤ l.length, SplitsAt l.entries offset p := by
  classical
  -- the first position whose element, if there is one, does not start before the offset
  have stopsAtEnd : ∀ entry, l.at? l.length = some entry → offset ≤ entry.1 := by
    simp [at?_length]
  have stops : ∃ p, ∀ entry, l.at? p = some entry → offset ≤ entry.1 := ⟨l.length, stopsAtEnd⟩
  have inside : Nat.find stops ≤ l.length := Nat.find_min' stops stopsAtEnd
  refine ⟨Nat.find stops, inside, ?_⟩
  apply splitsAt_of_neighbours inside _ (Nat.find_spec stops)
  intro i entry previous here
  by_contra notSmaller
  apply Nat.find_min stops (m := i) (by omega)
  intro other there
  rw [here] at there
  cases there
  exact Nat.not_lt.1 notSmaller

/-! ## §3 Outcomes -/

theorem firstFrom_of_splitsAt (split : SplitsAt l.entries offset p) (inside : p ≤ l.length) :
    firstFrom l.entries offset 0 l.entries.size = p :=
  firstFrom_eq_of_splitsAt split (Nat.zero_le p) inside (Nat.le_refl _)

theorem find_of_some (split : SplitsAt l.entries offset p) {start : Nat} {a : α}
    (here : l.at? p = some (start, a)) :
    l.find offset = if start = offset then .starts p a else .inside p := by
  have position := firstFrom_of_splitsAt split (Nat.le_of_lt (lt_length_of_at? here))
  have entry : l.entries[p]? = some (start, a) := here
  simp [find, position, entry]

theorem find_of_end (split : SplitsAt l.entries offset l.length) : l.find offset = .beyond := by
  have position := firstFrom_of_splitsAt split (Nat.le_refl _)
  have absent : l.entries[l.length]? = none := l.at?_length
  simp [find, position, absent]

/-- A lookup answers what it has to. -/
theorem locates_find (l : Layout α) (offset : Nat) : l.Locates offset (l.find offset) := by
  obtain ⟨p, inside, split⟩ := l.exists_splitsAt offset
  rcases Nat.lt_or_eq_of_le inside with within | rfl
  · obtain ⟨⟨start, a⟩, here⟩ := exists_at? within
    rw [find_of_some split here]
    by_cases same : start = offset
    · rw [if_pos same]
      exact .starts (same ▸ here)
    · rw [if_neg same]
      have behind : ¬start < offset := by
        intro smaller
        exact Nat.lt_irrefl p ((split p _ here).1 smaller)
      cases p with
      | zero =>
        -- the first element starts at zero, and no offset is below
        have first : start = 0 := fst_of_at? here
        omega
      | succ p =>
        obtain ⟨previous, there⟩ := exists_at? (l := l) (Nat.lt_of_succ_lt within)
        have smaller := (split p previous there).2 (Nat.lt_succ_self p)
        exact .inside there here smaller (by omega)
  · rw [find_of_end split]
    rcases Nat.eq_zero_or_pos l.length with nothing | something
    · exact .empty nothing
    · obtain ⟨last, here⟩ := exists_at? (l := l) (i := l.length - 1) (by omega)
      exact .beyond here ((split _ last here).2 (by omega))

/-- There is only one answer that a lookup may give. -/
theorem Locates.find_eq {found : Found α} (h : l.Locates offset found) : l.find offset = found := by
  -- each answer names the position that the offset belongs to, or shows that it is the end
  cases h with
  | starts here =>
    rw [at?_eq, Option.map_eq_some_iff] at here
    obtain ⟨a, there, same⟩ := here
    cases same
    exact l.find_totalWidth_take there
  | @inside i before next here there smaller larger =>
    have split : SplitsAt l.entries offset (i + 1) := by
      apply splitsAt_of_neighbours (Nat.le_of_lt (lt_length_of_at? there))
      · intro j entry previous other
        obtain rfl : j = i := by omega
        rw [here] at other
        cases other
        exact smaller
      · intro entry other
        rw [there] at other
        cases other
        exact Nat.le_of_lt larger
    rw [find_of_some split there, if_neg (Nat.ne_of_gt larger)]
  | empty nothing =>
    apply find_of_end
    intro i entry here
    have within : i < l.length := lt_length_of_at? here
    omega
  | beyond here smaller =>
    apply find_of_end
    apply splitsAt_of_neighbours (Nat.le_refl _)
    · intro i entry previous there
      obtain rfl : i = l.length - 1 := by omega
      rw [here] at there
      cases there
      exact smaller
    · simp [at?_length]

/-- The outcome of a lookup by offset. -/
theorem find_eq_iff {found : Found α} : l.find offset = found ↔ l.Locates offset found := by
  constructor
  · intro same
    rw [← same]
    exact l.locates_find offset
  · exact Locates.find_eq

/-! ## §4 The result -/

/-- What a layout of some elements says about them, by position and by offset. -/
structure Places (l : Layout α) (xs : List α) : Prop where
  /-- The layout has the elements in order, each at the total width of those before it. -/
  at?_eq : ∀ i : Nat, l.at? i = xs[i]?.map fun a => (totalWidth (xs.take i), a)
  /-- The next element would start at the total width of all of them. -/
  size_eq : l.size = totalWidth xs
  /-- Offsets start at zero. -/
  first_eq : ∀ entry, l.at? 0 = some entry → entry.1 = 0
  /-- Offsets increase strictly. -/
  increasing : ∀ (i j : Nat) (entry other : Nat × α), i < j → l.at? i = some entry →
    l.at? j = some other → entry.1 < other.1
  /-- If the size fits in a 64-bit word, the offsets can be added up in such words. -/
  words : l.size < UInt64.size → ∀ i : Nat,
    ((xs.take i).foldl (fun offset a => offset + UInt64.ofNat (width a)) 0).toNat =
      totalWidth (xs.take i)
  /-- A lookup tells which of the three cases an offset belongs to. -/
  find_iff : ∀ (offset : Nat) (found : Found α), l.find offset = found ↔ l.Locates offset found

/-- Every layout places its elements. -/
theorem places (l : Layout α) : l.Places l.elements where
  at?_eq := l.at?_eq
  size_eq := l.size_eq_totalWidth
  first_eq entry here := fst_of_at? here
  increasing i j entry other earlier here there := (fst_lt_fst_iff here there).2 earlier
  words fits i := by
    have below := totalWidth_take_le l.elements i
    rw [← l.size_eq_totalWidth] at below
    have sum := toNat_foldl_words (l.elements.take i) 0 (by simp; omega)
    simpa using sum
  find_iff offset found := find_eq_iff

end Layout

end Devirt
