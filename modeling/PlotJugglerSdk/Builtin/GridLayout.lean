import PlotJugglerSdk.Builtin.GridCodecs
import PlotJugglerSdk.Numeric.Checked
import PlotJugglerSdk.Numeric.Strides

/-!
# Indexing an accepted grid map

What `validateGridMap` is for: the elements of an accepted grid can be read by their
position, in 64 bits, without a look at the size of the data.

* `checksExact`          — the checks are made in 64 bits, and none of their numbers wraps
* `validateGridMap_safe` — every element of every cell is inside the data
-/

namespace PlotJugglerSdk

open Unsigned Strides

/-! ## In 64 bits -/

/-- Where an element of a channel of a cell begins. -/
def elementAddress (grid : GridMap) (field : PointField) (row column element : UInt32) :
    Option UInt64 := do
  let rowStart ← mul row.toUInt64 grid.rowStride.toUInt64
  let cellStart ← mul column.toUInt64 grid.cellStride.toUInt64
  let cell ← add rowStart cellStart
  let channel ← add cell field.offset.toUInt64
  let index ← mul element.toUInt64 (.ofNat (bytesPerElement field.datatype))
  add channel index

/-- Where it ends. -/
def elementEnd (grid : GridMap) (field : PointField) (row column element : UInt32) :
    Option UInt64 := do
  let start ← elementAddress grid field row column element
  add start (.ofNat (bytesPerElement field.datatype))

/-- The end of a channel, as the check of a field computes it. -/
def channelEnd (field : PointField) : Option UInt64 := do
  let size ← mul (.ofNat (bytesPerElement field.datatype)) field.count.toUInt64
  add field.offset.toUInt64 size

theorem bytesPerElement_le (datatype : PointField.Datatype) : bytesPerElement datatype ≤ 8 := by
  cases datatype <;> decide

theorem toNat_bytesPerElement (datatype : PointField.Datatype) :
    (UInt64.ofNat (bytesPerElement datatype)).toNat = bytesPerElement datatype := by
  have hle := bytesPerElement_le datatype
  exact UInt64.toNat_ofNat_of_lt' (by rw [UInt64.size]; omega)

/-- A checked operation that fits, then the rest. -/
theorem bind_exact {β : Type} {n : Nat} (h : n < 2 ^ 64) (next : UInt64 → Option β) :
    (exact n).bind next = next (.ofNat n) := by
  rw [exact, if_pos h]
  rfl

theorem toNat_exact {n : Nat} (h : n < 2 ^ 64) : (UInt64.ofNat n).toNat = n :=
  UInt64.toNat_ofNat_of_lt' h

/-- The three numbers of the checks are those of unbounded arithmetic. -/
structure ChecksExact (grid : GridMap) (field : PointField) : Prop where
  channel : ∃ stop : UInt64, channelEnd field = some stop ∧
    stop.toNat = field.offset.toNat + bytesPerElement field.datatype * field.count.toNat
  row : ∃ length : UInt64, mul grid.columnCount.toUInt64 grid.cellStride.toUInt64 = some length ∧
    length.toNat = grid.columnCount.toNat * grid.cellStride.toNat
  rows : ∃ length : UInt64, mul grid.rowCount.toUInt64 grid.rowStride.toUInt64 = some length ∧
    length.toNat = grid.rowCount.toNat * grid.rowStride.toNat

theorem checksExact (grid : GridMap) (field : PointField) : ChecksExact grid field := by
  have hproduct : ∀ a b : UInt32, ∃ c : UInt64, mul a.toUInt64 b.toUInt64 = some c ∧
      c.toNat = a.toNat * b.toNat := by
    intro a b
    have hle := widened_mul_le a b
    have hfits : a.toUInt64.toNat * b.toUInt64.toNat < 2 ^ 64 := by
      rw [UInt32.toNat_toUInt64, UInt32.toNat_toUInt64]
      omega
    refine ⟨_, mul_eq hfits, ?_⟩
    rw [toNat_mul hfits, UInt32.toNat_toUInt64, UInt32.toNat_toUInt64]
  refine ⟨?_, hproduct _ _, hproduct _ _⟩
  have hoffset := field.offset.toNat_lt
  have hcount := field.count.toNat_lt
  have hsize : bytesPerElement field.datatype * field.count.toNat ≤ 8 * (2 ^ 32 - 1) :=
    Nat.mul_le_mul (bytesPerElement_le _) (by omega)
  unfold channelEnd mul add
  rw [toNat_bytesPerElement, UInt32.toNat_toUInt64, Option.bind_eq_bind,
    bind_exact (by omega), toNat_exact (by omega), UInt32.toNat_toUInt64]
  exact ⟨_, if_pos (by omega), toNat_exact (by omega)⟩

/-! ## Accepted grids -/

/-- A cell of an accepted grid ends inside the data. -/
theorem cell_end_le {grid : GridMap} (h : validateGridMap grid = .ok ()) {row column : Nat}
    (hrow : row < grid.rowCount.toNat) (hcolumn : column < grid.columnCount.toNat) :
    address grid.rowStride.toNat grid.cellStride.toNat row column + grid.cellStride.toNat ≤
        grid.rowCount.toNat * grid.rowStride.toNat ∧
      grid.rowCount.toNat * grid.rowStride.toNat ≤ grid.data.length := by
  obtain ⟨hheader, hdata⟩ := (validateLayout_true_iff grid).mp h
  have hcells : 0 < grid.columnCount ∧ 0 < grid.rowCount := by
    rw [UInt32.lt_iff_toNat_lt, UInt32.lt_iff_toNat_lt]
    exact ⟨Nat.lt_of_le_of_lt (Nat.zero_le _) hcolumn, Nat.lt_of_le_of_lt (Nat.zero_le _) hrow⟩
  obtain ⟨-, hstride⟩ := strides_of_validateLayout hheader hcells
  refine ⟨?_, hdata hcells⟩
  exact le_trans (record_end_le hrow hcolumn) (extent_le (by omega) hstride)

/-- An element of a channel lies inside its cell. -/
theorem element_end_le {field : PointField} {cellStride element : Nat}
    (h : field.offset.toNat + bytesPerElement field.datatype * field.count.toNat ≤ cellStride)
    (helement : element < field.count.toNat) :
    field.offset.toNat + element * bytesPerElement field.datatype +
      bytesPerElement field.datatype ≤ cellStride := by
  have hend := column_end_le (bytesPerElement field.datatype) helement
  rw [Nat.mul_comm] at h
  omega

/-- Every element of an accepted grid has an address in 64 bits, which is the one of its
position; its bytes are inside its cell and inside the data, and cells are apart. The checks
that say so have not wrapped either. -/
theorem validateGridMap_safe {grid : GridMap} (h : validateGridMap grid = .ok ()) :
    (∀ (field : PointField) (row column element : UInt32), field ∈ grid.fields →
      row < grid.rowCount → column < grid.columnCount → element < field.count →
      ∃ start stop : UInt64, elementAddress grid field row column element = some start ∧
        elementEnd grid field row column element = some stop ∧
        start.toNat = row.toNat * grid.rowStride.toNat + column.toNat * grid.cellStride.toNat +
          field.offset.toNat + element.toNat * bytesPerElement field.datatype ∧
        stop.toNat = start.toNat + bytesPerElement field.datatype ∧
        address grid.rowStride.toNat grid.cellStride.toNat row.toNat column.toNat ≤ start.toNat ∧
        stop.toNat ≤ address grid.rowStride.toNat grid.cellStride.toNat row.toNat column.toNat +
          grid.cellStride.toNat ∧
        stop.toNat ≤ grid.data.length) ∧
    (∀ row column row' column' : UInt32, row < grid.rowCount → column < grid.columnCount →
      row' < grid.rowCount → column' < grid.columnCount → (row, column) ≠ (row', column') →
      Separate grid.cellStride.toNat
        (address grid.rowStride.toNat grid.cellStride.toNat row.toNat column.toNat)
        (address grid.rowStride.toNat grid.cellStride.toNat row'.toNat column'.toNat)) ∧
    (∀ field, ChecksExact grid field) := by
  refine ⟨?_, ?_, checksExact grid⟩
  · intro field row column element hfield hrow hcolumn helement
    rw [UInt32.lt_iff_toNat_lt] at hrow hcolumn helement
    obtain ⟨hcell, hdata⟩ := cell_end_le h hrow hcolumn
    have hinside := element_end_le (field_of_validateLayout h hfield) helement
    have hrows := widened_mul_le grid.rowCount grid.rowStride
    unfold address at hcell ⊢
    -- all partial sums are below the end of the rows
    have hstart : elementAddress grid field row column element =
        exact (row.toNat * grid.rowStride.toNat + column.toNat * grid.cellStride.toNat +
          field.offset.toNat + element.toNat * bytesPerElement field.datatype) := by
      unfold elementAddress mul add
      simp only [toNat_bytesPerElement, UInt32.toNat_toUInt64, Option.bind_eq_bind]
      rw [bind_exact (by omega), bind_exact (by omega), toNat_exact (by omega),
        toNat_exact (by omega), bind_exact (by omega), toNat_exact (by omega),
        bind_exact (by omega), toNat_exact (by omega), bind_exact (by omega),
        toNat_exact (by omega)]
    have hfits : row.toNat * grid.rowStride.toNat + column.toNat * grid.cellStride.toNat +
        field.offset.toNat + element.toNat * bytesPerElement field.datatype < 2 ^ 64 := by omega
    have hstop : elementEnd grid field row column element =
        exact (row.toNat * grid.rowStride.toNat + column.toNat * grid.cellStride.toNat +
          field.offset.toNat + element.toNat * bytesPerElement field.datatype +
          bytesPerElement field.datatype) := by
      unfold elementEnd add
      rw [hstart, Option.bind_eq_bind, bind_exact hfits, toNat_exact hfits, toNat_bytesPerElement]
    refine ⟨_, _, hstart.trans (if_pos hfits), hstop.trans (if_pos (by omega)),
      toNat_exact hfits, ?_, ?_, ?_, ?_⟩
    · rw [toNat_exact (by omega), toNat_exact hfits]
    · rw [toNat_exact hfits]
      omega
    · rw [toNat_exact (by omega)]
      omega
    · rw [toNat_exact (by omega)]
      omega
  · intro row column row' column' hrow hcolumn hrow' hcolumn' hne
    obtain ⟨hheader, -⟩ := (validateLayout_true_iff grid).mp h
    have hcells : 0 < grid.columnCount ∧ 0 < grid.rowCount := by
      rw [UInt32.lt_iff_toNat_lt] at hrow hcolumn ⊢
      rw [UInt32.lt_iff_toNat_lt]
      exact ⟨Nat.lt_of_le_of_lt (Nat.zero_le _) hcolumn, Nat.lt_of_le_of_lt (Nat.zero_le _) hrow⟩
    obtain ⟨-, hstride⟩ := strides_of_validateLayout hheader hcells
    rw [UInt32.lt_iff_toNat_lt] at hrow hrow' hcolumn hcolumn'
    refine separate (.inr hstride) hrow hrow' hcolumn hcolumn' ?_
    intro heq
    obtain ⟨hrows, hcolumns⟩ := Prod.mk.inj heq
    exact hne (by rw [UInt32.toNat_inj.mp hrows, UInt32.toNat_inj.mp hcolumns])

/-- Two rows of one cell, each row padded by a byte. -/
theorem validateGridMap_padded :
    ∃ start : UInt64,
      elementAddress
        { columnCount := 1, rowCount := 2, cellStride := 4, rowStride := 5,
          fields := [{ datatype := .uint16, count := 2 }], data := List.replicate 10 0 }
        { datatype := .uint16, count := 2 } 1 0 1 = some start ∧ start.toNat = 7 := by
  obtain ⟨start, -, hstart, -, heq, -⟩ := (@validateGridMap_safe
    { columnCount := 1, rowCount := 2, cellStride := 4, rowStride := 5,
      fields := [{ datatype := .uint16, count := 2 }], data := List.replicate 10 0 }
    (by rfl)).1 { datatype := .uint16, count := 2 } 1 0 1 List.mem_cons_self (by decide) (by decide)
    (by decide)
  exact ⟨start, hstart, heq.trans (by decide)⟩

end PlotJugglerSdk
