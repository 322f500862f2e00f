import Mathlib.Algebra.Order.Group.Nat
import Mathlib.Tactic.Common
import Mathlib.Algebra.Group.Nat.Defs

/-!
# Records in rows

Records of `step` bytes, `columns` of them to a row, with rows that begin `stride` bytes
apart: where the last one ends, and that no two of them share a byte exactly when the stride
is no shorter than a row.
-/

namespace Strides

/-- Where the record in a column of a row begins. -/
def address (stride step row column : Nat) : Nat := row * stride + column * step

/-- Two ranges of one size have no byte in common. -/
def Separate (size start start' : Nat) : Prop := start + size ≤ start' ∨ start' + size ≤ start

/-- What some rows cover, the last one without the padding behind it. -/
def extent (stride step rows columns : Nat) : Nat := (rows - 1) * stride + columns * step

variable {stride step rows columns row column row' column' : Nat}

theorem column_end_le (step : Nat) (h : column < columns) :
    column * step + step ≤ columns * step := by
  have hmul := Nat.mul_le_mul_right step (Nat.succ_le_of_lt h)
  rw [Nat.succ_mul] at hmul
  exact hmul

theorem record_end_le (hrow : row < rows) (hcolumn : column < columns) :
    address stride step row column + step ≤ extent stride step rows columns := by
  have hcol := column_end_le step hcolumn
  have hrows : row * stride ≤ (rows - 1) * stride := Nat.mul_le_mul_right stride (by omega)
  unfold address extent
  omega

/-- With the padding, every row has the same length. -/
theorem extent_le (hrows : 0 < rows) (hstride : columns * step ≤ stride) :
    extent stride step rows columns ≤ rows * stride := by
  obtain ⟨more, rfl⟩ : ∃ more, rows = more + 1 := ⟨rows - 1, by omega⟩
  rw [extent, Nat.add_sub_cancel, Nat.succ_mul]
  omega

/-- No row reaches into the one that follows it. -/
def Clear (stride step rows columns : Nat) : Prop := rows ≤ 1 ∨ columns * step ≤ stride

/-- Records of one row, or of two rows that do not reach into one another. -/
theorem separate (hclear : Clear stride step rows columns) (hrow : row < rows) (hrow' : row' < rows)
    (hcolumn : column < columns) (hcolumn' : column' < columns)
    (hne : (row, column) ≠ (row', column')) :
    Separate step (address stride step row column) (address stride step row' column') := by
  have hend := column_end_le step hcolumn
  have hend' := column_end_le step hcolumn'
  unfold Clear at hclear
  unfold Separate address
  obtain hlt | rfl | hgt := lt_trichotomy row row'
  · have hnext := Nat.mul_le_mul_right stride (Nat.succ_le_of_lt hlt)
    rw [Nat.succ_mul] at hnext
    omega
  · obtain hlt | rfl | hgt := lt_trichotomy column column'
    · have hcol := column_end_le step hlt
      omega
    · exact absurd rfl hne
    · have hcol := column_end_le step hgt
      omega
  · have hnext := Nat.mul_le_mul_right stride (Nat.succ_le_of_lt hgt)
    rw [Nat.succ_mul] at hnext
    omega

/-- A stride shorter than a row puts the second row into the first. -/
theorem overlap (hstride : stride < columns * step) :
    stride / step < columns ∧
      ¬ Separate step (address stride step 0 (stride / step)) (address stride step 1 0) := by
  have hstep : 0 < step := by
    rcases Nat.eq_zero_or_pos step with rfl | h
    · omega
    · exact h
  have hdiv := Nat.div_add_mod stride step
  have hmod := Nat.mod_lt stride hstep
  refine ⟨(Nat.div_lt_iff_lt_mul hstep).mpr hstride, ?_⟩
  unfold Separate address
  rw [Nat.mul_comm step] at hdiv
  omega

/-- The records are apart if and only if the rows are. -/
theorem separate_iff :
    (∀ row column row' column', row < rows → row' < rows → column < columns → column' < columns →
      (row, column) ≠ (row', column') →
      Separate step (address stride step row column) (address stride step row' column')) ↔
      Clear stride step rows columns := by
  constructor
  · intro h
    by_contra hclear
    unfold Clear at hclear
    obtain ⟨hcolumn, hshared⟩ := @overlap stride step columns (by omega)
    have hcolumns : 0 < columns := Nat.lt_of_le_of_lt (Nat.zero_le _) hcolumn
    refine hshared (h 0 (stride / step) 1 0 (by omega) (by omega) hcolumn hcolumns ?_)
    intro heq
    exact absurd (Prod.mk.inj heq).1 (by decide)
  · intro hclear row column row' column' hrow hrow' hcolumn hcolumn' hne
    exact separate hclear hrow hrow' hcolumn hcolumn' hne

/-- Rows as long as what they hold: the records take no more room than the rows. -/
theorem count_le (hrows : 0 < rows) (hclear : Clear stride step rows columns) :
    rows * columns * step ≤ extent stride step rows columns := by
  obtain ⟨more, rfl⟩ : ∃ more, rows = more + 1 := ⟨rows - 1, by omega⟩
  rw [extent, Nat.add_sub_cancel, Nat.succ_mul, Nat.add_mul, Nat.mul_assoc]
  obtain hone | hstride := hclear
  · obtain rfl : more = 0 := by omega
    omega
  · have hmore := Nat.mul_le_mul_left more hstride
    omega

end Strides
