import Devirt.Layout

/-!
# Offsets of a Layout

The offset of the element at a position is the total width of the elements before it. Since widths
are positive, offsets increase strictly with positions, and this is what makes a search by halving
find the one position that an offset belongs to.

Main statements:
- `Layout.at?_eq`: the element at a position, with its offset as a sum of widths.
- `Layout.element?_find_eq_some_iff`: a lookup by offset gives an element exactly if that element
  starts at the offset.
-/

namespace Devirt

variable {α : Type} [Width α]

/-! ## §1 Widths of prefixes -/

/-- The total width depends on the widths alone. -/
theorem totalWidth_eq_foldr (xs : List α) : totalWidth xs = (xs.map width).foldr (· + ·) 0 := by
  induction xs with
  | nil => rfl
  | cons x xs ih => rw [totalWidth, ih, List.map_cons, List.foldr_cons]

theorem totalWidth_take_succ {xs : List α} {i : Nat} {a : α} (h : xs[i]? = some a) :
    totalWidth (xs.take (i + 1)) = totalWidth (xs.take i) + width a := by
  rw [List.take_add_one, h, totalWidth_append]
  simp [totalWidth]

/-- The width of a prefix is that of a shorter one and of what lies between. -/
theorem totalWidth_take_add (xs : List α) {i j : Nat} (h : i ≤ j) :
    totalWidth (xs.take j) = totalWidth (xs.take i) + totalWidth ((xs.take j).drop i) := by
  -- the shorter prefix is a prefix of the longer one
  have shorter : (xs.take j).take i = xs.take i := by
    rw [List.take_take, Nat.min_eq_left h]
  rw [← shorter, ← totalWidth_append, List.take_append_drop]

theorem totalWidth_take_mono (xs : List α) {i j : Nat} (h : i ≤ j) :
    totalWidth (xs.take i) ≤ totalWidth (xs.take j) := by
  rw [totalWidth_take_add xs h]
  exact Nat.le_add_right _ _

/-- Elements at different positions start at different offsets, the earlier one first. -/
theorem totalWidth_take_lt {xs : List α} {i j : Nat} (h : i < j) (inside : i < xs.length) :
    totalWidth (xs.take i) < totalWidth (xs.take j) := by
  have next := totalWidth_take_succ (List.getElem?_eq_getElem inside)
  have positive := width_pos xs[i]
  have grown : totalWidth (xs.take (i + 1)) ≤ totalWidth (xs.take j) :=
    totalWidth_take_mono xs h
  omega

/-- An offset belongs to one position only. -/
theorem totalWidth_take_inj {xs : List α} {i j : Nat} (hi : i ≤ xs.length) (hj : j ≤ xs.length)
    (same : totalWidth (xs.take i) = totalWidth (xs.take j)) : i = j := by
  rcases Nat.lt_trichotomy i j with before | rfl | behind
  · exact absurd same (Nat.ne_of_lt (totalWidth_take_lt before (Nat.lt_of_lt_of_le before hj)))
  · rfl
  · exact absurd same (Nat.ne_of_gt (totalWidth_take_lt behind (Nat.lt_of_lt_of_le behind hi)))

theorem totalWidth_take_le (xs : List α) (i : Nat) : totalWidth (xs.take i) ≤ totalWidth xs := by
  have split := totalWidth_append (xs.take i) (xs.drop i)
  rw [List.take_append_drop] at split
  omega

theorem placeFrom_getElem? (start : Nat) (xs : List α) (i : Nat) :
    (placeFrom start xs)[i]? = xs[i]?.map fun a => (start + totalWidth (xs.take i), a) := by
  -- the tail is placed behind the head, so the start changes along the list
  induction xs generalizing start i with
  | nil => rfl
  | cons x xs ih =>
    cases i with
    | zero => simp [placeFrom, totalWidth]
    | succ i => simp [placeFrom, totalWidth, ih, Nat.add_assoc]

namespace Layout

/-! ## §2 Lookups by position -/

theorem length_elements (l : Layout α) : l.elements.length = l.length := by
  simp [elements, length]

theorem size_eq_totalWidth (l : Layout α) : l.size = totalWidth l.elements :=
  l.size_eq

/-- The entry at a position: the element there, and the widths before it. -/
theorem at?_eq (l : Layout α) (i : Nat) :
    l.at? i = l.elements[i]?.map fun a => (totalWidth (l.elements.take i), a) := by
  have stored : l.entries.toList = placeFrom 0 l.elements := l.entries_eq
  rw [at?, ← Array.getElem?_toList, stored, placeFrom_getElem?]
  simp

/-! ## §3 Lookups by offset -/

/-- Entries before the position start before the offset, and the others do not. -/
def SplitsAt (entries : Array (Nat × α)) (offset position : Nat) : Prop :=
  ∀ i entry, entries[i]? = some entry → (entry.1 < offset ↔ i < position)

omit [Width α] in
/-- Halving keeps the position that splits the entries between its two ends. -/
theorem firstFrom_eq_of_splitsAt {entries : Array (Nat × α)} {offset position low high : Nat}
    (split : SplitsAt entries offset position) (least : low ≤ position)
    (greatest : position ≤ high) (inside : high ≤ entries.size) :
    firstFrom entries offset low high = position := by
  -- the position stays between the two ends, and the search stops where they meet
  fun_induction firstFrom entries offset low high with
  | case1 low high apart middle start _ found before ih =>
    have below := (split _ _ found).1 before
    exact ih (by omega) greatest inside
  | case2 low high apart middle start _ found notBefore ih =>
    have above := mt (split _ _ found).2 notBefore
    exact ih least (by omega) (by omega)
  | case3 low high apart middle absent ih =>
    have beyond := Array.getElem?_eq_none_iff.1 absent
    omega
  | case4 low high closed => omega

/-- The positions before a given one are those of the smaller offsets. -/
theorem splitsAt_totalWidth_take (l : Layout α) (i : Nat) :
    SplitsAt l.entries (totalWidth (l.elements.take i)) i := by
  intro j entry found
  have there : l.at? j = some entry := found
  rw [at?_eq, Option.map_eq_some_iff] at there
  obtain ⟨b, element, rfl⟩ := there
  have inside := (List.getElem?_eq_some_iff.1 element).1
  -- offsets compare as positions do, in both directions
  constructor
  · intro smaller
    refine Nat.lt_of_not_le fun later => ?_
    exact Nat.not_le.2 smaller (totalWidth_take_mono l.elements later)
  · intro earlier
    exact totalWidth_take_lt earlier inside

/-- A lookup by the offset at which an element starts finds that element. -/
theorem find_totalWidth_take (l : Layout α) {i : Nat} {a : α} (h : l.elements[i]? = some a) :
    l.find (totalWidth (l.elements.take i)) = .starts i a := by
  have inside : i < l.entries.size := by
    have := (List.getElem?_eq_some_iff.1 h).1
    rwa [length_elements] at this
  have entry : l.entries[i]? = some (totalWidth (l.elements.take i), a) := by
    have there := l.at?_eq i
    rwa [h] at there
  -- halving comes to the position itself, where the entry has the very offset
  have position := firstFrom_eq_of_splitsAt (l.splitsAt_totalWidth_take i) (Nat.zero_le _)
    (Nat.le_of_lt inside) (Nat.le_refl _)
  simp [find, position, entry]

/-- A lookup by offset gives an element only if it starts there. -/
theorem getElem?_of_find {l : Layout α} {offset i : Nat} {a : α}
    (h : l.find offset = .starts i a) :
    l.elements[i]? = some a ∧ totalWidth (l.elements.take i) = offset := by
  -- the entry that was found has the offset, unless the lookup said otherwise
  simp only [find] at h
  split at h
  next start b found =>
    split at h
    next starts =>
      cases h
      have there : l.at? _ = some (start, a) := found
      rw [at?_eq, Option.map_eq_some_iff] at there
      obtain ⟨b, element, same⟩ := there
      cases same
      exact ⟨element, starts⟩
    next => cases h
  next => cases h

/-- A lookup by offset gives exactly the element that starts at the offset. -/
theorem element?_find_eq_some_iff {l : Layout α} {offset : Nat} {a : α} :
    (l.find offset).element? = some a ↔
      ∃ i, l.elements[i]? = some a ∧ totalWidth (l.elements.take i) = offset := by
  constructor
  · intro h
    cases found : l.find offset with
    | starts i b =>
      rw [found] at h
      cases h
      exact ⟨i, getElem?_of_find found⟩
    | inside => simp [found, Found.element?] at h
    | beyond => simp [found, Found.element?] at h
  · rintro ⟨i, element, rfl⟩
    rw [find_totalWidth_take l element]
    rfl

end Layout

end Devirt
