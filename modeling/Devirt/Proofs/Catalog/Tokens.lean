import Devirt.Catalog
import Mathlib.Data.List.Nodup

/-!
# Tokens of Rows

A token has the number of a table in its top byte. As long as row numbers fit in the three bytes
below, the table and the row can be read off the token, so rows of a table have different tokens.

Main statements:
- `TokenTable.toNat_token`: the parts of a token.
- `TokenTable.shiftRight_token`: the top byte of a token is the number of its table.
- `TokenTable.nodup_rows`: different rows have different tokens.
-/

namespace Devirt.TokenTable

/-- Number of rows that a table can have before tokens run into each other. -/
def capacity : Nat := 0xffffff

/-- The tokens of the first rows of a table. -/
def rows (table : TokenTable) (count : Nat) : List UInt32 :=
  (List.range count).map fun row => table.token (row + 1)

theorem rows_succ (table : TokenTable) (count : Nat) :
    table.rows (count + 1) = table.rows count ++ [table.token (count + 1)] := by
  simp [rows, List.range_succ]

/-- The number of a table fills the top byte. -/
theorem toNat_shiftLeft_number (table : TokenTable) :
    (table.number <<< 24).toNat = table.number.toNat <<< 24 := by
  cases table <;> rfl

/-- The row is below the number of the table. -/
theorem toNat_token (table : TokenTable) {row : Nat} (fits : row ≤ capacity) :
    (table.token row).toNat = table.number.toNat <<< 24 + row := by
  have small : row < 2 ^ 24 := Nat.lt_succ_of_le fits
  have row_toNat : (UInt32.ofNat row).toNat = row :=
    UInt32.toNat_ofNat_of_lt' (Nat.lt_trans small (by decide))
  -- the two parts have no bit in common, so putting them together adds them up
  rw [token, UInt32.toNat_or, toNat_shiftLeft_number, row_toNat,
    Nat.shiftLeft_add_eq_or_of_lt small]

/-- The top byte of a token is the number of its table. -/
theorem shiftRight_token (table : TokenTable) {row : Nat} (fits : row ≤ capacity) :
    table.token row >>> 24 = table.number := by
  have small : row < 2 ^ 24 := Nat.lt_succ_of_le fits
  apply UInt32.toNat_inj.1
  rw [UInt32.toNat_shiftRight, toNat_token table fits]
  show (table.number.toNat <<< 24 + row) >>> 24 = _
  rw [Nat.shiftLeft_eq, Nat.shiftRight_eq_div_pow]
  omega

theorem token_inj (table : TokenTable) {row row' : Nat} (fits : row ≤ capacity)
    (fits' : row' ≤ capacity) (same : table.token row = table.token row') : row = row' := by
  have parts := table.toNat_token fits
  rw [same, table.toNat_token fits'] at parts
  omega

/-- Different rows have different tokens. -/
theorem nodup_rows (table : TokenTable) {count : Nat} (fits : count ≤ capacity) :
    (table.rows count).Nodup := by
  -- rows are counted from one, and the last of them still fits
  refine List.Nodup.map_on (fun row mem row' mem' same => ?_) List.nodup_range
  rw [List.mem_range] at mem mem'
  exact Nat.succ.inj (table.token_inj (by omega) (by omega) same)

theorem shiftRight_of_mem_rows (table : TokenTable) {count : Nat} (fits : count ≤ capacity)
    {token : UInt32} (mem : token ∈ table.rows count) : token >>> 24 = table.number := by
  obtain ⟨row, inside, rfl⟩ := List.mem_map.1 mem
  rw [List.mem_range] at inside
  exact table.shiftRight_token (by omega)

end Devirt.TokenTable
