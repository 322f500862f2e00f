import PlotJugglerSdk.Builtin.Geometry
import PlotJugglerSdk.Json.Value
import PlotJugglerSdk.Numeric.Checked
import PlotJugglerSdk.Numeric.Strides

/-!
# Record layouts of the field tables

The buffers of images, point clouds and voxel grids as the field tables describe them: how
many records there are, and where. Each layout is computed in 64 bits and again in unbounded
integers.

A row step that is shorter than its row passes the test of the extent, and only the voxel
grids ask for more.

* `rowsFitIn_iff`           — the division tests the extent
* `bufferLayouts_addressed` — a counted record is inside the bytes
* `bufferLayouts_clamped`   — when the records have room side by side
-/

namespace PlotJugglerSdk

open Wire Strides
open Json (text)

/-! ## Layouts -/

structure Channel where
  name : Bytes
  offset : UInt32
  datatype : UInt8
  count : UInt32
  deriving DecidableEq

/-- A buffer of records, counted in some numbers. -/
structure BufferLayout (Count : Type) where
  bytes : Bytes
  recordStep : UInt32
  recordCount : Count
  rowStep : UInt32
  isBigendian : Bool
  channels : List Channel
  deriving DecidableEq

/-- The layout with the number its count stands for. -/
def BufferLayout.unbounded (layout : BufferLayout UInt64) : BufferLayout Int :=
  { layout with recordCount := (layout.recordCount.toNat : Int) }

/-- Whether `rows` rows of `rowBytes` bytes, `rowStride` bytes apart (0 for packed), lie within
`size` bytes. -/
def rowsFitIn (rows rowBytes rowStride size : UInt64) : Bool :=
  if rows = 0 then true
  else if size < rowBytes then false
  else
    let stride := if rowStride = 0 then rowBytes else rowStride
    stride = 0 || rows - 1 ≤ (size - rowBytes) / stride

/-- The same in unbounded integers. -/
def rowsFitInUnbounded (rows rowBytes rowStride size : Int) : Bool :=
  if rows = 0 then true
  else if size < rowBytes then false
  else
    let stride := if rowStride = 0 then rowBytes else rowStride
    stride = 0 || rows - 1 ≤ (size - rowBytes) / stride

def channelsOf (fields : List PointField) : List Channel :=
  fields.map fun f => ⟨f.name, f.offset, (pointFieldDatatypeToWire f.datatype).toUInt8, f.count⟩

/-! ### Image -/

inductive CommonImageEncoding where
  | rgb8
  | rgba8
  | bgr8
  | bgra8
  | mono8
  | mono16
  | jpeg
  | png
  | qoi
  | compressedDepth
  deriving DecidableEq

def parseImageEncoding (s : Bytes) : Option CommonImageEncoding :=
  if s = text "rgb8" then some .rgb8
  else if s = text "rgba8" then some .rgba8
  else if s = text "bgr8" then some .bgr8
  else if s = text "bgra8" then some .bgra8
  else if s = text "mono8" then some .mono8
  else if s = text "mono16" then some .mono16
  else if s = text "jpeg" then some .jpeg
  else if s = text "png" then some .png
  else if s = text "qoi" then some .qoi
  else if s = text "compressedDepth" then some .compressedDepth
  else none

structure ImagePixelLayout where
  datatype : PointField.Datatype := .unknown
  count : UInt32 := 0

def ImagePixelLayout.bytes (pixel : ImagePixelLayout) : UInt32 :=
  pixel.count * .ofNat (bytesPerElement pixel.datatype)

def imagePixelLayout (encoding : Bytes) : ImagePixelLayout :=
  match parseImageEncoding encoding with
  | none => {}
  | some .rgb8 | some .bgr8 => { datatype := .uint8, count := 3 }
  | some .rgba8 | some .bgra8 => { datatype := .uint8, count := 4 }
  | some .mono8 => { datatype := .uint8, count := 1 }
  | some .mono16 => { datatype := .uint16, count := 1 }
  | some .jpeg | some .png | some .qoi | some .compressedDepth => {}

def imageBuffer (image : Image) : BufferLayout UInt64 :=
  let pixel := imagePixelLayout image.encoding
  let fits := rowsFitIn image.height.toUInt64 (image.width.toUInt64 * pixel.bytes.toUInt64)
    image.rowStep.toUInt64 (.ofNat image.data.length)
  { bytes := image.data
    recordStep := pixel.bytes
    recordCount :=
      if pixel.bytes = 0 ∨ ¬ fits then 0 else image.width.toUInt64 * image.height.toUInt64
    rowStep := image.rowStep
    isBigendian := image.isBigendian
    channels :=
      [⟨image.encoding, 0, (pointFieldDatatypeToWire pixel.datatype).toUInt8, pixel.count⟩] }

def imageBufferUnbounded (image : Image) : BufferLayout Int :=
  let pixel := imagePixelLayout image.encoding
  let fits := rowsFitInUnbounded image.height.toNat (image.width.toNat * pixel.bytes.toNat)
    image.rowStep.toNat image.data.length
  { bytes := image.data
    recordStep := pixel.bytes
    recordCount := if pixel.bytes = 0 ∨ ¬ fits then 0 else image.width.toNat * image.height.toNat
    rowStep := image.rowStep
    isBigendian := image.isBigendian
    channels :=
      [⟨image.encoding, 0, (pointFieldDatatypeToWire pixel.datatype).toUInt8, pixel.count⟩] }

/-! ### Point cloud -/

/-- No rows is one row. -/
def PointCloud.rows (cloud : PointCloud) : UInt32 := if cloud.height = 0 then 1 else cloud.height

def pointCloudBuffer (cloud : PointCloud) : BufferLayout UInt64 :=
  let rows := cloud.rows.toUInt64
  let fits := rowsFitIn rows (cloud.width.toUInt64 * cloud.pointStep.toUInt64)
    cloud.rowStep.toUInt64 (.ofNat cloud.data.length)
  { bytes := cloud.data
    recordStep := cloud.pointStep
    recordCount := if cloud.pointStep = 0 ∨ ¬ fits then 0 else cloud.width.toUInt64 * rows
    rowStep := cloud.rowStep
    isBigendian := cloud.isBigendian
    channels := channelsOf cloud.fields }

def pointCloudBufferUnbounded (cloud : PointCloud) : BufferLayout Int :=
  let rows : Int := cloud.rows.toNat
  let fits := rowsFitInUnbounded rows (cloud.width.toNat * cloud.pointStep.toNat)
    cloud.rowStep.toNat cloud.data.length
  { bytes := cloud.data
    recordStep := cloud.pointStep
    recordCount := if cloud.pointStep = 0 ∨ ¬ fits then 0 else cloud.width.toNat * rows
    rowStep := cloud.rowStep
    isBigendian := cloud.isBigendian
    channels := channelsOf cloud.fields }

/-! ### Voxel grid -/

def VoxelGrid.HasCells (grid : VoxelGrid) : Prop :=
  grid.columnCount ≠ 0 ∧ grid.rowCount ≠ 0 ∧ grid.sliceCount ≠ 0 ∧ grid.cellStride ≠ 0

instance (grid : VoxelGrid) : Decidable grid.HasCells := inferInstanceAs (Decidable (_ ∧ _))

def voxelGridBuffer (grid : VoxelGrid) : BufferLayout UInt64 :=
  let rowBytes := grid.columnCount.toUInt64 * grid.cellStride.toUInt64
  let rowsBytes := grid.rowCount.toUInt64 * grid.rowStride.toUInt64
  -- strides as long as what they step over keep the cells apart
  let disjoint := rowBytes ≤ grid.rowStride.toUInt64 ∧ rowsBytes ≤ grid.sliceStride.toUInt64
  let sliceBytes := rowsBytes - grid.rowStride.toUInt64 + rowBytes
  let fits := grid.HasCells ∧ disjoint ∧
    rowsFitIn grid.sliceCount.toUInt64 sliceBytes grid.sliceStride.toUInt64
      (.ofNat grid.data.length)
  { bytes := grid.data
    recordStep := grid.cellStride
    recordCount :=
      if fits then grid.columnCount.toUInt64 * grid.rowCount.toUInt64 * grid.sliceCount.toUInt64
      else 0
    rowStep := grid.rowStride
    isBigendian := false
    channels := channelsOf grid.fields }

def voxelGridBufferUnbounded (grid : VoxelGrid) : BufferLayout Int :=
  let rowBytes : Int := grid.columnCount.toNat * grid.cellStride.toNat
  let rowsBytes : Int := grid.rowCount.toNat * grid.rowStride.toNat
  let disjoint := rowBytes ≤ grid.rowStride.toNat ∧ rowsBytes ≤ grid.sliceStride.toNat
  -- the last row of a slice ends where its cells do
  let sliceBytes := rowsBytes - grid.rowStride.toNat + rowBytes
  let fits := grid.HasCells ∧ disjoint ∧
    rowsFitInUnbounded grid.sliceCount.toNat sliceBytes grid.sliceStride.toNat grid.data.length
  { bytes := grid.data
    recordStep := grid.cellStride
    recordCount :=
      if fits then grid.columnCount.toNat * grid.rowCount.toNat * grid.sliceCount.toNat else 0
    rowStep := grid.rowStride
    isBigendian := false
    channels := channelsOf grid.fields }

/-! ## The test of the extent -/

/-- How far apart the rows are. -/
def pitch (rowBytes rowStride : Nat) : Nat := if rowStride = 0 then rowBytes else rowStride

/-- Dividing what the first row leaves is as good as multiplying. -/
theorem le_div_iff_extent {rows rowBytes stride size : Nat} (hrow : rowBytes ≤ size) :
    stride = 0 ∨ rows - 1 ≤ (size - rowBytes) / stride ↔
      (rows - 1) * stride + rowBytes ≤ size := by
  rcases Nat.eq_zero_or_pos stride with rfl | hpos
  · simp only [true_or, Nat.mul_zero, Nat.zero_add, hrow]
  · have hdiv : rows - 1 ≤ (size - rowBytes) / stride ↔ (rows - 1) * stride ≤ size - rowBytes :=
      Nat.le_div_iff_mul_le hpos
    omega

theorem rowsFitIn_iff (rows rowBytes rowStride size : UInt64) :
    rowsFitIn rows rowBytes rowStride size = true ↔
      rows.toNat = 0 ∨
        (rows.toNat - 1) * pitch rowBytes.toNat rowStride.toNat + rowBytes.toNat ≤ size.toNat := by
  have hzero : (0 : UInt64).toNat = 0 := rfl
  unfold rowsFitIn
  by_cases hrows : rows = 0
  · rw [if_pos hrows, hrows, hzero]
    simp only [true_or]
  rw [if_neg hrows]
  rw [← UInt64.toNat_inj, hzero] at hrows
  by_cases hsize : size < rowBytes
  · rw [if_pos hsize]
    rw [UInt64.lt_iff_toNat_lt] at hsize
    simp only [Bool.false_eq_true, false_iff]
    omega
  rw [if_neg hsize]
  rw [UInt64.lt_iff_toNat_lt] at hsize
  have hstride : (if rowStride = 0 then rowBytes else rowStride).toNat =
      pitch rowBytes.toNat rowStride.toNat := by
    unfold pitch
    by_cases hpacked : rowStride = 0
    · rw [if_pos hpacked, if_pos (by rw [hpacked]; rfl)]
    · rw [if_neg hpacked, if_neg (by rwa [← UInt64.toNat_inj, hzero] at hpacked)]
  -- neither subtraction goes below zero
  have hless : (rows - 1).toNat = rows.toNat - 1 :=
    UInt64.toNat_sub_of_le _ _ (by rw [UInt64.le_iff_toNat_le]; show 1 ≤ _; omega)
  have hleft : (size - rowBytes).toNat = size.toNat - rowBytes.toNat :=
    UInt64.toNat_sub_of_le _ _ (by rw [UInt64.le_iff_toNat_le]; omega)
  have hextent := @le_div_iff_extent rows.toNat rowBytes.toNat
    (pitch rowBytes.toNat rowStride.toNat) size.toNat (by omega)
  simp only [Bool.or_eq_true, decide_eq_true_eq]
  rw [UInt64.le_iff_toNat_le, UInt64.toNat_div, hless, hleft, ← UInt64.toNat_inj, hstride, hzero,
    hextent]
  omega

theorem rowsFitInUnbounded_iff (rows rowBytes rowStride size : Nat) :
    rowsFitInUnbounded rows rowBytes rowStride size = true ↔
      rows = 0 ∨ (rows - 1) * pitch rowBytes rowStride + rowBytes ≤ size := by
  unfold rowsFitInUnbounded
  by_cases hrows : rows = 0
  · subst hrows
    simp only [Nat.cast_zero, if_true, true_or]
  rw [if_neg (by omega)]
  by_cases hsize : size < rowBytes
  · rw [if_pos (by omega)]
    simp only [Bool.false_eq_true, false_iff]
    omega
  rw [if_neg (by omega)]
  have hstride : (if (rowStride : Int) = 0 then (rowBytes : Int) else rowStride) =
      (pitch rowBytes rowStride : Nat) := by
    unfold pitch
    by_cases hzero : rowStride = 0
    · rw [if_pos (by omega), if_pos hzero]
    · rw [if_neg (by omega), if_neg hzero]
  have hextent := @le_div_iff_extent rows rowBytes (pitch rowBytes rowStride) size (by omega)
  have hdiv : ((size : Int) - rowBytes) / (pitch rowBytes rowStride : Nat) =
      ((size - rowBytes) / pitch rowBytes rowStride : Nat) := by
    rw [Int.natCast_ediv]
    congr 1
    omega
  simp only [hstride, hdiv, Bool.or_eq_true, decide_eq_true_eq]
  omega

/-! ## Rows of records -/

/-- The count of records in rows, said with the extent. -/
def countedRows (rows columns step rowStep size : Nat) : Nat :=
  if step = 0 ∨ ¬ (rows = 0 ∨ extent (pitch (columns * step) rowStep) step rows columns ≤ size) then
    0
  else columns * rows

section Counts

variable (rows columns step rowStep : UInt32) {size : Nat}

theorem widened_mul : (columns.toUInt64 * step.toUInt64).toNat = columns.toNat * step.toNat := by
  have hle := Unsigned.widened_mul_le columns step
  rw [Unsigned.toNat_mul, UInt32.toNat_toUInt64, UInt32.toNat_toUInt64]
  rw [UInt32.toNat_toUInt64, UInt32.toNat_toUInt64]
  omega

theorem rowCount_toNat (hsize : size < 2 ^ 64) :
    (if step = 0 ∨ ¬ rowsFitIn rows.toUInt64 (columns.toUInt64 * step.toUInt64) rowStep.toUInt64
        (.ofNat size) then 0 else columns.toUInt64 * rows.toUInt64 : UInt64).toNat =
      countedRows rows.toNat columns.toNat step.toNat rowStep.toNat size := by
  have hfits := rowsFitIn_iff rows.toUInt64 (columns.toUInt64 * step.toUInt64) rowStep.toUInt64
    (.ofNat size)
  have hzero : step = 0 ↔ step.toNat = 0 := by
    rw [← UInt32.toNat_inj]
    rfl
  rw [widened_mul, UInt32.toNat_toUInt64, UInt32.toNat_toUInt64,
    UInt64.toNat_ofNat_of_lt' hsize] at hfits
  unfold countedRows extent
  simp only [hfits, hzero]
  split
  · rfl
  · exact widened_mul columns rows

theorem rowCount_unbounded :
    (if step = 0 ∨ ¬ rowsFitInUnbounded rows.toNat (columns.toNat * step.toNat) rowStep.toNat size
        then 0 else columns.toNat * rows.toNat : Int) =
      countedRows rows.toNat columns.toNat step.toNat rowStep.toNat size := by
  have hfits := rowsFitInUnbounded_iff rows.toNat (columns.toNat * step.toNat) rowStep.toNat size
  have hzero : step = 0 ↔ step.toNat = 0 := by
    rw [← UInt32.toNat_inj]
    rfl
  rw [Nat.cast_mul] at hfits
  unfold countedRows extent
  simp only [hfits, hzero]
  split
  · rfl
  · exact (Nat.cast_mul _ _).symm

end Counts

theorem imageBuffer_unbounded {image : Image} (hsize : image.data.length < 2 ^ 64) :
    (imageBuffer image).unbounded = imageBufferUnbounded image := by
  have hcount := rowCount_toNat image.height image.width
    (imagePixelLayout image.encoding).bytes image.rowStep hsize
  have hunbounded := @rowCount_unbounded image.height image.width
    (imagePixelLayout image.encoding).bytes image.rowStep image.data.length
  unfold imageBuffer BufferLayout.unbounded imageBufferUnbounded
  dsimp only
  rw [hcount, hunbounded]

theorem pointCloudBuffer_unbounded {cloud : PointCloud} (hsize : cloud.data.length < 2 ^ 64) :
    (pointCloudBuffer cloud).unbounded = pointCloudBufferUnbounded cloud := by
  have hcount := rowCount_toNat cloud.rows cloud.width cloud.pointStep cloud.rowStep hsize
  have hunbounded := @rowCount_unbounded cloud.rows cloud.width cloud.pointStep cloud.rowStep
    cloud.data.length
  unfold pointCloudBuffer BufferLayout.unbounded pointCloudBufferUnbounded
  dsimp only
  rw [hcount, hunbounded]

/-- What a layout of rows and columns says of its records. -/
structure RowsAddressed (layout : BufferLayout UInt64) (rows columns : Nat) : Prop where
  counted : layout.recordCount ≠ 0 → layout.recordCount.toNat = columns * rows
  inside : layout.recordCount ≠ 0 → ∀ row column, row < rows → column < columns →
    address (pitch (columns * layout.recordStep.toNat) layout.rowStep.toNat)
      layout.recordStep.toNat row column + layout.recordStep.toNat ≤ layout.bytes.length
  refused : layout.recordCount = 0 → rows ≠ 0 → columns ≠ 0 → layout.recordStep ≠ 0 →
    layout.bytes.length < extent (pitch (columns * layout.recordStep.toNat) layout.rowStep.toNat)
      layout.recordStep.toNat rows columns

theorem rowsAddressed_of_counted {layout : BufferLayout UInt64} {rows columns : Nat}
    (hcount : layout.recordCount.toNat = countedRows rows columns layout.recordStep.toNat
      layout.rowStep.toNat layout.bytes.length) : RowsAddressed layout rows columns := by
  have hzero : layout.recordCount = 0 ↔ layout.recordCount.toNat = 0 := by
    rw [← UInt64.toNat_inj]
    rfl
  unfold countedRows at hcount
  refine ⟨?_, ?_, ?_⟩
  · intro hne
    rw [ne_eq, hzero] at hne
    split at hcount
    · exact absurd hcount hne
    · exact hcount
  · intro hne row column hrow hcolumn
    rw [ne_eq, hzero] at hne
    split at hcount
    · exact absurd hcount hne
    · next hfits =>
      -- a record ends where its row does at the latest, and the last row fits
      have hend := @record_end_le
        (pitch (columns * layout.recordStep.toNat) layout.rowStep.toNat) layout.recordStep.toNat
        rows columns row column hrow hcolumn
      omega
  · intro hnone hrows hcolumns hstep
    rw [hzero] at hnone
    rw [ne_eq, ← UInt32.toNat_inj] at hstep
    split at hcount
    · next hrefused =>
      have hstep' : layout.recordStep.toNat ≠ 0 := hstep
      omega
    · have hproduct := Nat.mul_pos (Nat.pos_of_ne_zero hcolumns) (Nat.pos_of_ne_zero hrows)
      omega

/-! ## Slices of rows -/

namespace VoxelGrid

/-- What the slices cover, the last row and the last slice without padding. -/
def extent (grid : VoxelGrid) : Nat :=
  (grid.sliceCount.toNat - 1) * grid.sliceStride.toNat +
    Strides.extent grid.rowStride.toNat grid.cellStride.toNat grid.rowCount.toNat
      grid.columnCount.toNat

/-- Strides as long as what they step over. -/
def Disjoint (grid : VoxelGrid) : Prop :=
  grid.columnCount.toNat * grid.cellStride.toNat ≤ grid.rowStride.toNat ∧
    grid.rowCount.toNat * grid.rowStride.toNat ≤ grid.sliceStride.toNat

instance (grid : VoxelGrid) : Decidable grid.Disjoint := inferInstanceAs (Decidable (_ ∧ _))

def countedCells (grid : VoxelGrid) : Nat :=
  if grid.HasCells ∧ grid.Disjoint ∧ grid.extent ≤ grid.data.length then
    grid.columnCount.toNat * grid.rowCount.toNat * grid.sliceCount.toNat
  else 0

variable {grid : VoxelGrid}

theorem hasCells_iff : grid.HasCells ↔
    grid.columnCount.toNat ≠ 0 ∧ grid.rowCount.toNat ≠ 0 ∧ grid.sliceCount.toNat ≠ 0 ∧
      grid.cellStride.toNat ≠ 0 := by
  unfold HasCells
  rw [ne_eq, ne_eq, ne_eq, ne_eq, ← UInt32.toNat_inj, ← UInt32.toNat_inj, ← UInt32.toNat_inj,
    ← UInt32.toNat_inj]
  rfl

/-- A slice is as long as its rows without the last padding. -/
theorem sliceBytes_eq (grid : VoxelGrid) :
    grid.rowCount.toNat * grid.rowStride.toNat - grid.rowStride.toNat +
        grid.columnCount.toNat * grid.cellStride.toNat =
      Strides.extent grid.rowStride.toNat grid.cellStride.toNat grid.rowCount.toNat
        grid.columnCount.toNat := by
  unfold Strides.extent
  rw [Nat.sub_one_mul]

/-- The slices are not packed. -/
theorem sliceStride_pos (hcells : grid.HasCells) (hdisjoint : grid.Disjoint) :
    0 < grid.sliceStride.toNat ∧
      grid.rowStride.toNat ≤ grid.rowCount.toNat * grid.rowStride.toNat := by
  obtain ⟨hcolumns, hrows, -, hstep⟩ := hasCells_iff.mp hcells
  obtain ⟨hrow, hslice⟩ := hdisjoint
  have hbytes := Nat.mul_pos (Nat.pos_of_ne_zero hcolumns) (Nat.pos_of_ne_zero hstep)
  have hrowStride : grid.rowStride.toNat ≤ grid.rowCount.toNat * grid.rowStride.toNat :=
    Nat.le_mul_of_pos_left _ (Nat.pos_of_ne_zero hrows)
  exact ⟨by omega, hrowStride⟩

/-- Cells that are apart take no more room than the extent. -/
theorem cells_le (hcells : grid.HasCells) (hdisjoint : grid.Disjoint) :
    grid.sliceCount.toNat *
        (grid.rowCount.toNat * grid.columnCount.toNat * grid.cellStride.toNat) ≤ grid.extent := by
  obtain ⟨-, hrows, hslices, -⟩ := hasCells_iff.mp hcells
  obtain ⟨hrow, hslice⟩ := hdisjoint
  have hinner := @count_le grid.rowStride.toNat grid.cellStride.toNat grid.rowCount.toNat
    grid.columnCount.toNat (by omega) (.inr hrow)
  have hextent := @extent_le grid.rowStride.toNat grid.cellStride.toNat grid.rowCount.toNat
    grid.columnCount.toNat (by omega) hrow
  have houter := @count_le grid.sliceStride.toNat
    (grid.rowCount.toNat * grid.columnCount.toNat * grid.cellStride.toNat) grid.sliceCount.toNat 1
    (by omega) (.inr (by omega))
  unfold Strides.extent at houter
  unfold extent
  rw [Nat.mul_one, Nat.one_mul] at houter
  omega

theorem rowsFitIn_slices (hcells : grid.HasCells) (hdisjoint : grid.Disjoint) {sliceBytes : Nat}
    (hbytes : sliceBytes = Strides.extent grid.rowStride.toNat grid.cellStride.toNat
      grid.rowCount.toNat grid.columnCount.toNat) {size : Nat} :
    (grid.sliceCount.toNat = 0 ∨
        (grid.sliceCount.toNat - 1) * pitch sliceBytes grid.sliceStride.toNat + sliceBytes ≤ size) ↔
      grid.extent ≤ size := by
  obtain ⟨-, -, hslices, -⟩ := hasCells_iff.mp hcells
  obtain ⟨hpos, -⟩ := sliceStride_pos hcells hdisjoint
  unfold pitch extent
  rw [if_neg (by omega), hbytes]
  omega

theorem disjoint_iff :
    (grid.columnCount.toUInt64 * grid.cellStride.toUInt64 ≤ grid.rowStride.toUInt64 ∧
      grid.rowCount.toUInt64 * grid.rowStride.toUInt64 ≤ grid.sliceStride.toUInt64) ↔
      grid.Disjoint := by
  rw [UInt64.le_iff_toNat_le, UInt64.le_iff_toNat_le, widened_mul, widened_mul,
    UInt32.toNat_toUInt64, UInt32.toNat_toUInt64]
  rfl

theorem voxelGridBuffer_count (hsize : grid.data.length < 2 ^ 64) :
    (voxelGridBuffer grid).recordCount.toNat = grid.countedCells := by
  unfold voxelGridBuffer countedCells
  dsimp only
  by_cases hcells : grid.HasCells
  swap
  · rw [if_neg (by tauto), if_neg (by tauto)]
    rfl
  by_cases hdisjoint : grid.Disjoint
  swap
  · have hapart := mt disjoint_iff.mp hdisjoint
    rw [if_neg (by tauto), if_neg (by tauto)]
    rfl
  -- the length of a slice has not wrapped
  obtain ⟨-, hrowStride⟩ := sliceStride_pos hcells hdisjoint
  have hrows := Unsigned.widened_mul_le grid.rowCount grid.rowStride
  have hrow := hdisjoint.1
  have hbytes : (grid.rowCount.toUInt64 * grid.rowStride.toUInt64 - grid.rowStride.toUInt64 +
      grid.columnCount.toUInt64 * grid.cellStride.toUInt64).toNat =
        Strides.extent grid.rowStride.toNat grid.cellStride.toNat grid.rowCount.toNat
          grid.columnCount.toNat := by
    have hsub : (grid.rowCount.toUInt64 * grid.rowStride.toUInt64 -
        grid.rowStride.toUInt64).toNat =
          grid.rowCount.toNat * grid.rowStride.toNat - grid.rowStride.toNat := by
      rw [UInt64.toNat_sub_of_le, widened_mul, UInt32.toNat_toUInt64]
      rw [UInt64.le_iff_toNat_le, widened_mul, UInt32.toNat_toUInt64]
      exact hrowStride
    rw [Unsigned.toNat_add (by rw [hsub, widened_mul]; omega), hsub, widened_mul,
      sliceBytes_eq grid]
  have hfits := rowsFitIn_iff grid.sliceCount.toUInt64
    (grid.rowCount.toUInt64 * grid.rowStride.toUInt64 - grid.rowStride.toUInt64 +
      grid.columnCount.toUInt64 * grid.cellStride.toUInt64) grid.sliceStride.toUInt64
    (.ofNat grid.data.length)
  rw [UInt32.toNat_toUInt64, UInt32.toNat_toUInt64, UInt64.toNat_ofNat_of_lt' hsize,
    rowsFitIn_slices hcells hdisjoint hbytes] at hfits
  have hapart := disjoint_iff.mpr hdisjoint
  by_cases hextent : grid.extent ≤ grid.data.length
  · rw [if_pos ⟨hcells, hapart, hfits.mpr hextent⟩, if_pos ⟨hcells, hdisjoint, hextent⟩]
    -- nor has the count
    have hroom := cells_le hcells hdisjoint
    obtain ⟨-, -, -, hstep⟩ := hasCells_iff.mp hcells
    have hcount : grid.columnCount.toNat * grid.rowCount.toNat * grid.sliceCount.toNat ≤
        grid.sliceCount.toNat *
          (grid.rowCount.toNat * grid.columnCount.toNat * grid.cellStride.toNat) := by
      rw [Nat.mul_comm _ grid.sliceCount.toNat, Nat.mul_comm grid.columnCount.toNat]
      exact Nat.mul_le_mul_left _ (Nat.le_mul_of_pos_right _ (Nat.pos_of_ne_zero hstep))
    rw [Unsigned.toNat_mul, widened_mul, UInt32.toNat_toUInt64]
    rw [widened_mul, UInt32.toNat_toUInt64]
    omega
  · rw [if_neg (by tauto), if_neg (by tauto)]
    rfl

theorem voxelGridBufferUnbounded_count :
    (voxelGridBufferUnbounded grid).recordCount = grid.countedCells := by
  unfold voxelGridBufferUnbounded countedCells
  dsimp only
  have hapart : ((grid.columnCount.toNat * grid.cellStride.toNat : Int) ≤ grid.rowStride.toNat ∧
      (grid.rowCount.toNat * grid.rowStride.toNat : Int) ≤ grid.sliceStride.toNat) ↔
        grid.Disjoint := by
    rw [← Nat.cast_mul, ← Nat.cast_mul, Nat.cast_le, Nat.cast_le]
    rfl
  by_cases hcells : grid.HasCells
  swap
  · rw [if_neg (by tauto), if_neg (by tauto)]
    rfl
  by_cases hdisjoint : grid.Disjoint
  swap
  · rw [if_neg (by tauto), if_neg (by tauto)]
    rfl
  obtain ⟨-, hrowStride⟩ := sliceStride_pos hcells hdisjoint
  -- a slice is its rows but the last in full, and the cells of the last one
  have hbytes : (grid.rowCount.toNat * grid.rowStride.toNat : Int) - grid.rowStride.toNat +
      grid.columnCount.toNat * grid.cellStride.toNat =
        (Strides.extent grid.rowStride.toNat grid.cellStride.toNat grid.rowCount.toNat
          grid.columnCount.toNat : Nat) := by
    rw [← sliceBytes_eq grid, Nat.cast_add, Nat.cast_sub hrowStride, Nat.cast_mul, Nat.cast_mul]
  have hfits := rowsFitInUnbounded_iff grid.sliceCount.toNat
    (Strides.extent grid.rowStride.toNat grid.cellStride.toNat grid.rowCount.toNat
      grid.columnCount.toNat) grid.sliceStride.toNat grid.data.length
  rw [rowsFitIn_slices hcells hdisjoint rfl] at hfits
  rw [hbytes]
  by_cases hextent : grid.extent ≤ grid.data.length
  · rw [if_pos ⟨hcells, hapart.mpr hdisjoint, hfits.mpr hextent⟩,
      if_pos ⟨hcells, hdisjoint, hextent⟩, Nat.cast_mul, Nat.cast_mul]
  · rw [if_neg (by tauto), if_neg (by tauto)]
    rfl

theorem voxelGridBuffer_unbounded (hsize : grid.data.length < 2 ^ 64) :
    (voxelGridBuffer grid).unbounded = voxelGridBufferUnbounded grid := by
  have hcount := voxelGridBuffer_count hsize
  have hunbounded := @voxelGridBufferUnbounded_count grid
  have hsame : ((voxelGridBuffer grid).recordCount.toNat : Int) =
      (voxelGridBufferUnbounded grid).recordCount := by rw [hcount, hunbounded]
  unfold BufferLayout.unbounded
  rw [hsame]
  rfl

end VoxelGrid

/-- What a layout of slices says of its records. -/
structure SlicesAddressed (layout : BufferLayout UInt64) (grid : VoxelGrid) : Prop where
  counted : layout.recordCount ≠ 0 → layout.recordCount.toNat =
    grid.columnCount.toNat * grid.rowCount.toNat * grid.sliceCount.toNat
  inside : layout.recordCount ≠ 0 → ∀ slice row column, slice < grid.sliceCount.toNat →
    row < grid.rowCount.toNat → column < grid.columnCount.toNat →
    slice * grid.sliceStride.toNat +
      address (pitch (grid.columnCount.toNat * layout.recordStep.toNat) layout.rowStep.toNat)
        layout.recordStep.toNat row column + layout.recordStep.toNat ≤ layout.bytes.length
  refused : layout.recordCount = 0 → grid.sliceCount ≠ 0 → grid.rowCount ≠ 0 →
    grid.columnCount ≠ 0 → layout.recordStep ≠ 0 →
    layout.rowStep.toNat < grid.columnCount.toNat * layout.recordStep.toNat ∨
      grid.sliceStride.toNat < grid.rowCount.toNat * layout.rowStep.toNat ∨
      layout.bytes.length < (grid.sliceCount.toNat - 1) * grid.sliceStride.toNat +
        extent layout.rowStep.toNat layout.recordStep.toNat grid.rowCount.toNat
          grid.columnCount.toNat

theorem slicesAddressed_voxelGridBuffer {grid : VoxelGrid} (hsize : grid.data.length < 2 ^ 64) :
    SlicesAddressed (voxelGridBuffer grid) grid := by
  have hcount := VoxelGrid.voxelGridBuffer_count hsize
  have hzero : (voxelGridBuffer grid).recordCount = 0 ↔
      (voxelGridBuffer grid).recordCount.toNat = 0 := by
    rw [← UInt64.toNat_inj]
    rfl
  unfold VoxelGrid.countedCells at hcount
  refine ⟨?_, ?_, ?_⟩
  · intro hne
    rw [ne_eq, hzero] at hne
    split at hcount
    · exact hcount
    · exact absurd hcount hne
  · intro hne slice row column hslice hrow hcolumn
    rw [ne_eq, hzero] at hne
    split at hcount
    · next hfits =>
      obtain ⟨hcells, hdisjoint, hextent⟩ := hfits
      obtain ⟨hpos, hrowStride⟩ := VoxelGrid.sliceStride_pos hcells hdisjoint
      obtain ⟨hcolumns, -, -, hstep⟩ := VoxelGrid.hasCells_iff.mp hcells
      have hbytes := Nat.mul_pos (Nat.pos_of_ne_zero hcolumns) (Nat.pos_of_ne_zero hstep)
      have hlong := hdisjoint.1
      have hpitch : pitch (grid.columnCount.toNat * grid.cellStride.toNat) grid.rowStride.toNat =
          grid.rowStride.toNat := if_neg (by omega)
      have hend := @record_end_le grid.rowStride.toNat grid.cellStride.toNat
        grid.rowCount.toNat grid.columnCount.toNat row column hrow hcolumn
      have hslices : slice * grid.sliceStride.toNat ≤
          (grid.sliceCount.toNat - 1) * grid.sliceStride.toNat :=
        Nat.mul_le_mul_right _ (by omega)
      show slice * grid.sliceStride.toNat +
        address (pitch (grid.columnCount.toNat * grid.cellStride.toNat) grid.rowStride.toNat)
          grid.cellStride.toNat row column + grid.cellStride.toNat ≤ grid.data.length
      rw [hpitch]
      unfold VoxelGrid.extent at hextent
      omega
    · exact absurd hcount hne
  · intro hnone hslices hrows hcolumns hstep
    rw [hzero] at hnone
    have hcells : grid.HasCells := ⟨hcolumns, hrows, hslices, hstep⟩
    obtain ⟨hcolumns', hrows', hslices', -⟩ := VoxelGrid.hasCells_iff.mp hcells
    show grid.rowStride.toNat < grid.columnCount.toNat * grid.cellStride.toNat ∨
      grid.sliceStride.toNat < grid.rowCount.toNat * grid.rowStride.toNat ∨
      grid.data.length < grid.extent
    by_contra hall
    have hdisjoint : grid.Disjoint := by
      unfold VoxelGrid.Disjoint
      omega
    rw [if_pos ⟨hcells, hdisjoint, by omega⟩, hnone] at hcount
    have hproduct := Nat.mul_pos (Nat.mul_pos (Nat.pos_of_ne_zero hcolumns')
      (Nat.pos_of_ne_zero hrows')) (Nat.pos_of_ne_zero hslices')
    omega

/-- The three layouts are those of unbounded arithmetic. A counted record is where its row and
column say, inside the bytes, and no records are counted only where they do not fit. -/
theorem bufferLayouts_addressed {image : Image} {cloud : PointCloud} {grid : VoxelGrid}
    (himage : image.data.length < 2 ^ 64) (hcloud : cloud.data.length < 2 ^ 64)
    (hgrid : grid.data.length < 2 ^ 64) :
    ((imageBuffer image).unbounded = imageBufferUnbounded image ∧
      RowsAddressed (imageBuffer image) image.height.toNat image.width.toNat) ∧
    ((pointCloudBuffer cloud).unbounded = pointCloudBufferUnbounded cloud ∧
      RowsAddressed (pointCloudBuffer cloud) cloud.rows.toNat cloud.width.toNat) ∧
    ((voxelGridBuffer grid).unbounded = voxelGridBufferUnbounded grid ∧
      SlicesAddressed (voxelGridBuffer grid) grid) := by
  refine ⟨⟨imageBuffer_unbounded himage, ?_⟩, ⟨pointCloudBuffer_unbounded hcloud, ?_⟩,
    ⟨VoxelGrid.voxelGridBuffer_unbounded hgrid, slicesAddressed_voxelGridBuffer hgrid⟩⟩
  · exact rowsAddressed_of_counted (rowCount_toNat image.height image.width _ image.rowStep himage)
  · exact rowsAddressed_of_counted
      (rowCount_toNat cloud.rows cloud.width cloud.pointStep cloud.rowStep hcloud)

/-! Two rows of one pixel with padding, a cloud without a height, and two slices of one cell. -/

def paddedImage : Image where
  width := 1
  height := 2
  encoding := text "mono8"
  rowStep := 2
  data := [1, 0, 2]

def singleRow : PointCloud where
  width := 1
  height := 0
  pointStep := 2
  data := [1, 2]

def twoSlices : VoxelGrid where
  columnCount := 1
  rowCount := 1
  sliceCount := 2
  cellStride := 1
  rowStride := 1
  sliceStride := 1
  data := [1, 2]

theorem bufferLayouts_small :
    (imageBuffer paddedImage).recordCount.toNat = 2 ∧
      (pointCloudBuffer singleRow).recordCount.toNat = 1 ∧
      (voxelGridBuffer twoSlices).recordCount.toNat = 2 := by
  obtain ⟨⟨-, himage⟩, ⟨-, hcloud⟩, ⟨-, hgrid⟩⟩ := @bufferLayouts_addressed
    paddedImage singleRow twoSlices (by decide) (by decide) (by decide)
  exact ⟨himage.counted (by decide), hcloud.counted (by decide), hgrid.counted (by decide)⟩

/-! ## Room side by side -/

/-- The counted records have room in the bytes, and no two of them share a byte. -/
structure Clamped (layout : BufferLayout UInt64) (rows columns : Nat) : Prop where
  room : layout.recordCount.toNat * layout.recordStep.toNat ≤ layout.bytes.length
  apart : layout.recordCount ≠ 0 → ∀ row column row' column', row < rows → row' < rows →
    column < columns → column' < columns → (row, column) ≠ (row', column') →
    Separate layout.recordStep.toNat
      (address (pitch (columns * layout.recordStep.toNat) layout.rowStep.toNat)
        layout.recordStep.toNat row column)
      (address (pitch (columns * layout.recordStep.toNat) layout.rowStep.toNat)
        layout.recordStep.toNat row' column')

/-- Several rows that begin before the one in front of them ends, and yet lie within `size`
bytes. -/
def Overlapping (rows columns step rowStep size : Nat) : Prop :=
  2 ≤ rows ∧ 0 < rowStep ∧ rowStep < columns * step ∧ extent rowStep step rows columns ≤ size

theorem clamped_iff {layout : BufferLayout UInt64} {rows columns : Nat}
    (hcount : layout.recordCount.toNat = countedRows rows columns layout.recordStep.toNat
      layout.rowStep.toNat layout.bytes.length) :
    Clamped layout rows columns ↔
      ¬ Overlapping rows columns layout.recordStep.toNat layout.rowStep.toNat
        layout.bytes.length := by
  have hzero : layout.recordCount = 0 ↔ layout.recordCount.toNat = 0 := by
    rw [← UInt64.toNat_inj]
    rfl
  unfold countedRows at hcount
  constructor
  · rintro hclamped ⟨hrows, hpos, hshort, hextent⟩
    have hpitch : pitch (columns * layout.recordStep.toNat) layout.rowStep.toNat =
        layout.rowStep.toNat := if_neg (by omega)
    have hproduct : 0 < columns * layout.recordStep.toNat := by omega
    have hcolumns : 0 < columns := Nat.pos_of_mul_pos_right hproduct
    have hstep : 0 < layout.recordStep.toNat := Nat.pos_of_mul_pos_left hproduct
    rw [hpitch, if_neg (by omega)] at hcount
    have hne : layout.recordCount ≠ 0 := by
      rw [ne_eq, hzero, hcount]
      exact (Nat.mul_pos hcolumns (by omega)).ne'
    -- rows that overlap put two records on the same bytes
    have hapart := hclamped.apart hne
    rw [hpitch] at hapart
    have hclear := separate_iff.mp hapart
    unfold Clear at hclear
    omega
  · intro hfree
    split at hcount
    · refine ⟨by rw [hcount]; omega, ?_⟩
      intro hne
      exact absurd (hzero.mpr hcount) hne
    · next hfits =>
      by_cases hrows : rows = 0
      · refine ⟨by rw [hcount, hrows]; omega, ?_⟩
        intro _ row _ _ _ hrow
        omega
      have hextent : extent (pitch (columns * layout.recordStep.toNat) layout.rowStep.toNat)
          layout.recordStep.toNat rows columns ≤ layout.bytes.length := by omega
      have hclear : Clear (pitch (columns * layout.recordStep.toNat) layout.rowStep.toNat)
          layout.recordStep.toNat rows columns := by
        unfold Overlapping at hfree
        unfold Clear
        -- packed rows never overlap
        by_cases hpacked : layout.rowStep.toNat = 0
        · have hpitch : pitch (columns * layout.recordStep.toNat) layout.rowStep.toNat =
              columns * layout.recordStep.toNat := if_pos hpacked
          omega
        · have hpitch : pitch (columns * layout.recordStep.toNat) layout.rowStep.toNat =
              layout.rowStep.toNat := if_neg hpacked
          rw [hpitch] at hextent ⊢
          omega
      refine ⟨?_, fun _ => separate_iff.mpr hclear⟩
      have hroom := count_le (Nat.pos_of_ne_zero hrows) hclear
      rw [hcount, Nat.mul_comm columns]
      omega

/-- The same of cells in slices. -/
structure ClampedSlices (layout : BufferLayout UInt64) (grid : VoxelGrid) : Prop where
  room : layout.recordCount.toNat * layout.recordStep.toNat ≤ layout.bytes.length
  apart : layout.recordCount ≠ 0 → ∀ slice row column slice' row' column',
    slice < grid.sliceCount.toNat → slice' < grid.sliceCount.toNat →
    row < grid.rowCount.toNat → row' < grid.rowCount.toNat →
    column < grid.columnCount.toNat → column' < grid.columnCount.toNat →
    (slice, row, column) ≠ (slice', row', column') →
    Separate layout.recordStep.toNat
      (slice * grid.sliceStride.toNat +
        address layout.rowStep.toNat layout.recordStep.toNat row column)
      (slice' * grid.sliceStride.toNat +
        address layout.rowStep.toNat layout.recordStep.toNat row' column')

theorem clampedSlices_voxelGridBuffer {grid : VoxelGrid} (hsize : grid.data.length < 2 ^ 64) :
    ClampedSlices (voxelGridBuffer grid) grid := by
  have hcount := VoxelGrid.voxelGridBuffer_count hsize
  have hzero : (voxelGridBuffer grid).recordCount = 0 ↔
      (voxelGridBuffer grid).recordCount.toNat = 0 := by
    rw [← UInt64.toNat_inj]
    rfl
  unfold VoxelGrid.countedCells at hcount
  split at hcount
  swap
  · refine ⟨by rw [hcount]; omega, ?_⟩
    intro hne
    exact absurd (hzero.mpr hcount) hne
  next hfits =>
  obtain ⟨hcells, hdisjoint, hextent⟩ := hfits
  constructor
  · have hroom := VoxelGrid.cells_le hcells hdisjoint
    have hproduct : grid.columnCount.toNat * grid.rowCount.toNat * grid.sliceCount.toNat *
        grid.cellStride.toNat = grid.sliceCount.toNat *
          (grid.rowCount.toNat * grid.columnCount.toNat * grid.cellStride.toNat) := by ring
    show (voxelGridBuffer grid).recordCount.toNat * grid.cellStride.toNat ≤ grid.data.length
    rw [hcount, hproduct]
    omega
  · intro _ slice row column slice' row' column' hslice hslice' hrow hrow' hcolumn hcolumn' hne
    show Separate grid.cellStride.toNat
      (slice * grid.sliceStride.toNat +
        address grid.rowStride.toNat grid.cellStride.toNat row column)
      (slice' * grid.sliceStride.toNat +
        address grid.rowStride.toNat grid.cellStride.toNat row' column')
    -- a cell ends before the slice does, and slices do not reach into one another
    have hrowsPos : 0 < grid.rowCount.toNat := by omega
    have hlong := extent_le hrowsPos hdisjoint.1
    have hend := @record_end_le grid.rowStride.toNat grid.cellStride.toNat _ _ row column hrow
      hcolumn
    have hend' := @record_end_le grid.rowStride.toNat grid.cellStride.toNat _ _ row' column' hrow'
      hcolumn'
    have hslices := hdisjoint.2
    obtain hlt | rfl | hgt := lt_trichotomy slice slice'
    · have hnext := Nat.mul_le_mul_right grid.sliceStride.toNat (Nat.succ_le_of_lt hlt)
      rw [Nat.succ_mul] at hnext
      left
      omega
    · have hapart := separate (.inr hdisjoint.1) hrow hrow' hcolumn hcolumn' (by
        rintro heq
        obtain ⟨rfl, rfl⟩ := Prod.mk.inj heq
        exact hne rfl)
      unfold Separate at hapart ⊢
      omega
    · have hnext := Nat.mul_le_mul_right grid.sliceStride.toNat (Nat.succ_le_of_lt hgt)
      rw [Nat.succ_mul] at hnext
      right
      omega

/-- Images and clouds: unless rows that fit reach into one another. Voxel grids: always. -/
theorem bufferLayouts_clamped {image : Image} {cloud : PointCloud} {grid : VoxelGrid}
    (himage : image.data.length < 2 ^ 64) (hcloud : cloud.data.length < 2 ^ 64)
    (hgrid : grid.data.length < 2 ^ 64) :
    (Clamped (imageBuffer image) image.height.toNat image.width.toNat ↔
      ¬ Overlapping image.height.toNat image.width.toNat
        (imagePixelLayout image.encoding).bytes.toNat image.rowStep.toNat image.data.length) ∧
    (Clamped (pointCloudBuffer cloud) cloud.rows.toNat cloud.width.toNat ↔
      ¬ Overlapping cloud.rows.toNat cloud.width.toNat cloud.pointStep.toNat cloud.rowStep.toNat
        cloud.data.length) ∧
    ClampedSlices (voxelGridBuffer grid) grid := by
  refine ⟨?_, ?_, clampedSlices_voxelGridBuffer hgrid⟩
  · exact clamped_iff (rowCount_toNat image.height image.width _ image.rowStep himage)
  · exact clamped_iff (rowCount_toNat cloud.rows cloud.width cloud.pointStep cloud.rowStep hcloud)

theorem bufferLayouts_padded :
    Clamped (imageBuffer paddedImage) 2 1 ∧
      ClampedSlices (voxelGridBuffer twoSlices) twoSlices := by
  obtain ⟨himage, -, hgrid⟩ := @bufferLayouts_clamped paddedImage singleRow twoSlices
    (by decide) (by decide) (by decide)
  refine ⟨himage.mpr ?_, hgrid⟩
  unfold Overlapping
  decide

/-! Two rows of four pixels in five bytes, two rows of two points in nine. -/

def overlappingImage : Image where
  width := 4
  height := 2
  encoding := text "mono8"
  rowStep := 1
  data := List.replicate 5 0

def overlappingCloud : PointCloud where
  width := 2
  height := 2
  pointStep := 4
  rowStep := 1
  data := List.replicate 9 0

theorem bufferLayouts_overlapping :
    (imageBuffer overlappingImage).recordCount = 8 ∧
      ¬ Clamped (imageBuffer overlappingImage) 2 4 ∧
      (pointCloudBuffer overlappingCloud).recordCount = 4 ∧
      ¬ Clamped (pointCloudBuffer overlappingCloud) 2 2 := by
  refine ⟨by decide, ?_, by decide, ?_⟩
  · intro h
    exact absurd h.room (by decide)
  · intro h
    exact absurd h.room (by decide)

end PlotJugglerSdk
