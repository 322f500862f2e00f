import PlotJugglerSdk.Builtin.ImageCodecs

/-!
# Point clouds, grids and the grid map's layout

The codecs of the record-based types. `GridMap` alone checks its layout after
decoding: `validateLayout` is the check, `validateGridMap` the public one
against the grid's own data, and a wire without data is let through on the
header alone.
-/

namespace PlotJugglerSdk

open Wire

/-! ## PointCloud -/

def serializePointCloud (cloud : PointCloud) : Bytes :=
  Writer.message 1 (writeTimestamp cloud.timestampNs) ++
    Writer.varint 2 cloud.width.toUInt64 ++
    Writer.varint 3 cloud.height.toUInt64 ++
    Writer.varint 4 cloud.pointStep.toUInt64 ++
    Writer.varint 5 cloud.rowStep.toUInt64 ++
    Writer.varint 6 (varintOfBool cloud.isBigendian) ++
    Writer.varint 7 (varintOfBool cloud.isDense) ++
    (cloud.fields.flatMap fun field => Writer.message 8 (writePointField field)) ++
    Writer.bytes 9 cloud.data ++
    Writer.string 10 cloud.frameId

def pointCloudFields : List (FieldDecl PointCloud) :=
  [.message 1 decodeTimestamp (·.timestampNs) fun timestampNs cloud => { cloud with timestampNs },
   .varint 2 fun v cloud => { cloud with width := v.toUInt32 },
   .varint 3 fun v cloud => { cloud with height := v.toUInt32 },
   .varint 4 fun v cloud => { cloud with pointStep := v.toUInt32 },
   .varint 5 fun v cloud => { cloud with rowStep := v.toUInt32 },
   .varint 6 fun v cloud => { cloud with isBigendian := v != 0 },
   .varint 7 fun v cloud => { cloud with isDense := v != 0 },
   .repeated 8 decodePointField {} fun f cloud => { cloud with fields := f cloud.fields },
   .bytes 9 fun data cloud => { cloud with data },
   .bytes 10 fun frameId cloud => { cloud with frameId }]

def pointCloudLoop : FieldLoop PointCloud := .lenient pointCloudFields

def deserializePointCloud (data : Bytes) : Except String PointCloud :=
  deserializeWith "PointCloud" pointCloudLoop {} data

theorem pointCloudLoop_serializePointCloud {cloud : PointCloud}
    (hlen : (serializePointCloud cloud).length < 2 ^ 64) :
    pointCloudLoop.decode (serializePointCloud cloud) {} = (true, cloud) := by
  have hbuild : Rebuilds pointCloudFields (serializePointCloud cloud) {} cloud := by
    iterate 9 apply Rebuilds.append
    · exact .message (by decide) rfl (decodeTimestamp_writeTimestamp _) rfl
    · exact .varint (by decide) rfl rfl
    · exact .varint (by decide) rfl rfl
    · exact .varint (by decide) rfl rfl
    · exact .varint (by decide) rfl rfl
    · exact .varint (by decide) rfl rfl
    · exact .varint (by decide) rfl rfl
    · exact .repeated (by decide) rfl (fun _ => rfl) (fun _ _ _ => rfl)
        (fun _ _ => decodePointField_writePointField {}) rfl
    · exact .bytes (by decide) rfl rfl
    · refine .bytes (by decide) rfl ?_
      simp only [UInt32.toUInt32_toUInt64, varintOfBool_ne_zero, List.nil_append]
  exact hbuild.decode hlen

/-! ## CompressedPointCloud -/

def serializeCompressedPointCloud (cloud : CompressedPointCloud) : Bytes :=
  Writer.message 1 (writeTimestamp cloud.timestampNs) ++
    Writer.string 2 cloud.frameId ++
    Writer.string 3 cloud.format ++
    Writer.bytes 4 cloud.data

def compressedPointCloudFields : List (FieldDecl CompressedPointCloud) :=
  [.message 1 decodeTimestamp (·.timestampNs) fun timestampNs cloud => { cloud with timestampNs },
   .bytes 2 fun frameId cloud => { cloud with frameId },
   .bytes 3 fun format cloud => { cloud with format },
   .bytes 4 fun data cloud => { cloud with data }]

def compressedPointCloudLoop : FieldLoop CompressedPointCloud :=
  .lenient compressedPointCloudFields

def deserializeCompressedPointCloud (data : Bytes) : Except String CompressedPointCloud :=
  deserializeWith "CompressedPointCloud" compressedPointCloudLoop {} data

theorem compressedPointCloudLoop_serialize {cloud : CompressedPointCloud}
    (hlen : (serializeCompressedPointCloud cloud).length < 2 ^ 64) :
    compressedPointCloudLoop.decode (serializeCompressedPointCloud cloud) {} = (true, cloud) := by
  have hbuild : Rebuilds compressedPointCloudFields (serializeCompressedPointCloud cloud) {}
      cloud := by
    iterate 3 apply Rebuilds.append
    · exact .message (by decide) rfl (decodeTimestamp_writeTimestamp _) rfl
    · exact .bytes (by decide) rfl rfl
    · exact .bytes (by decide) rfl rfl
    · exact .bytes (by decide) rfl rfl
  exact hbuild.decode hlen

/-! ## OccupancyGrid -/

def serializeOccupancyGrid (grid : OccupancyGrid) : Bytes :=
  Writer.message 1 (writeTimestamp grid.timestampNs) ++
    Writer.string 2 grid.frameId ++
    Writer.message 3 (writePose grid.origin) ++
    Writer.doubleField 4 grid.resolution ++
    Writer.varint 5 grid.width.toUInt64 ++
    Writer.varint 6 grid.height.toUInt64 ++
    Writer.bytes 7 grid.data

def occupancyGridFields : List (FieldDecl OccupancyGrid) :=
  [.message 1 decodeTimestamp (·.timestampNs) fun timestampNs grid => { grid with timestampNs },
   .bytes 2 fun frameId grid => { grid with frameId },
   .message 3 decodePose (·.origin) fun origin grid => { grid with origin },
   .fixed64 4 fun resolution grid => { grid with resolution },
   .varint 5 fun v grid => { grid with width := v.toUInt32 },
   .varint 6 fun v grid => { grid with height := v.toUInt32 },
   .bytes 7 fun data grid => { grid with data }]

def occupancyGridLoop : FieldLoop OccupancyGrid := .lenient occupancyGridFields

def deserializeOccupancyGrid (data : Bytes) : Except String OccupancyGrid :=
  deserializeWith "OccupancyGrid" occupancyGridLoop {} data

theorem occupancyGridLoop_serializeOccupancyGrid {grid : OccupancyGrid}
    (hlen : (serializeOccupancyGrid grid).length < 2 ^ 64) :
    occupancyGridLoop.decode (serializeOccupancyGrid grid) {} = (true, grid) := by
  have hbuild : Rebuilds occupancyGridFields (serializeOccupancyGrid grid) {} grid := by
    iterate 6 apply Rebuilds.append
    · exact .message (by decide) rfl (decodeTimestamp_writeTimestamp _) rfl
    · exact .bytes (by decide) rfl rfl
    · exact .message (by decide) rfl (decodePose_writePose _) rfl
    · exact .fixed64 (by decide) rfl rfl
    · exact .varint (by decide) rfl rfl
    · exact .varint (by decide) rfl rfl
    · refine .bytes (by decide) rfl ?_
      simp only [UInt32.toUInt32_toUInt64]
  exact hbuild.decode hlen

/-! ## OccupancyGridUpdate -/

/-- The signed offsets travel as their 32-bit patterns, zero-extended. -/
def serializeOccupancyGridUpdate (update : OccupancyGridUpdate) : Bytes :=
  Writer.message 1 (writeTimestamp update.timestampNs) ++
    Writer.string 2 update.frameId ++
    Writer.varint 3 update.x.toUInt32.toUInt64 ++
    Writer.varint 4 update.y.toUInt32.toUInt64 ++
    Writer.varint 5 update.width.toUInt64 ++
    Writer.varint 6 update.height.toUInt64 ++
    Writer.bytes 7 update.data

def occupancyGridUpdateFields : List (FieldDecl OccupancyGridUpdate) :=
  [.message 1 decodeTimestamp (·.timestampNs) fun timestampNs update => { update with timestampNs },
   .bytes 2 fun frameId update => { update with frameId },
   .varint 3 fun v update => { update with x := v.toUInt32.toInt32 },
   .varint 4 fun v update => { update with y := v.toUInt32.toInt32 },
   .varint 5 fun v update => { update with width := v.toUInt32 },
   .varint 6 fun v update => { update with height := v.toUInt32 },
   .bytes 7 fun data update => { update with data }]

def occupancyGridUpdateLoop : FieldLoop OccupancyGridUpdate := .lenient occupancyGridUpdateFields

def deserializeOccupancyGridUpdate (data : Bytes) : Except String OccupancyGridUpdate :=
  deserializeWith "OccupancyGridUpdate" occupancyGridUpdateLoop {} data

theorem occupancyGridUpdateLoop_serialize {update : OccupancyGridUpdate}
    (hlen : (serializeOccupancyGridUpdate update).length < 2 ^ 64) :
    occupancyGridUpdateLoop.decode (serializeOccupancyGridUpdate update) {} = (true, update) := by
  have hbuild : Rebuilds occupancyGridUpdateFields (serializeOccupancyGridUpdate update) {}
      update := by
    iterate 6 apply Rebuilds.append
    · exact .message (by decide) rfl (decodeTimestamp_writeTimestamp _) rfl
    · exact .bytes (by decide) rfl rfl
    · exact .varint (by decide) rfl rfl
    · exact .varint (by decide) rfl rfl
    · exact .varint (by decide) rfl rfl
    · exact .varint (by decide) rfl rfl
    · refine .bytes (by decide) rfl ?_
      simp only [UInt32.toUInt32_toUInt64, Int32.toInt32_toUInt32]
  exact hbuild.decode hlen

/-! ## VoxelGrid -/

def serializeVoxelGrid (grid : VoxelGrid) : Bytes :=
  Writer.message 1 (writeTimestamp grid.timestampNs) ++
    Writer.string 2 grid.frameId ++
    Writer.message 3 (writePose grid.origin) ++
    Writer.message 4 (writeVector3 grid.cellSize) ++
    Writer.varint 5 grid.columnCount.toUInt64 ++
    Writer.varint 6 grid.rowCount.toUInt64 ++
    Writer.varint 7 grid.sliceCount.toUInt64 ++
    Writer.varint 8 grid.cellStride.toUInt64 ++
    Writer.varint 9 grid.rowStride.toUInt64 ++
    Writer.varint 10 grid.sliceStride.toUInt64 ++
    (grid.fields.flatMap fun field => Writer.message 11 (writePointField field)) ++
    Writer.bytes 12 grid.data

def voxelGridFields : List (FieldDecl VoxelGrid) :=
  [.message 1 decodeTimestamp (·.timestampNs) fun timestampNs grid => { grid with timestampNs },
   .bytes 2 fun frameId grid => { grid with frameId },
   .message 3 decodePose (·.origin) fun origin grid => { grid with origin },
   .message 4 decodeVector3 (·.cellSize) fun cellSize grid => { grid with cellSize },
   .varint 5 fun v grid => { grid with columnCount := v.toUInt32 },
   .varint 6 fun v grid => { grid with rowCount := v.toUInt32 },
   .varint 7 fun v grid => { grid with sliceCount := v.toUInt32 },
   .varint 8 fun v grid => { grid with cellStride := v.toUInt32 },
   .varint 9 fun v grid => { grid with rowStride := v.toUInt32 },
   .varint 10 fun v grid => { grid with sliceStride := v.toUInt32 },
   .repeated 11 decodePointField {} fun f grid => { grid with fields := f grid.fields },
   .bytes 12 fun data grid => { grid with data }]

def voxelGridLoop : FieldLoop VoxelGrid := .lenient voxelGridFields

def deserializeVoxelGrid (data : Bytes) : Except String VoxelGrid :=
  deserializeWith "VoxelGrid" voxelGridLoop {} data

theorem voxelGridLoop_serializeVoxelGrid {grid : VoxelGrid}
    (hlen : (serializeVoxelGrid grid).length < 2 ^ 64) :
    voxelGridLoop.decode (serializeVoxelGrid grid) {} = (true, grid) := by
  have hbuild : Rebuilds voxelGridFields (serializeVoxelGrid grid) {} grid := by
    iterate 11 apply Rebuilds.append
    · exact .message (by decide) rfl (decodeTimestamp_writeTimestamp _) rfl
    · exact .bytes (by decide) rfl rfl
    · exact .message (by decide) rfl (decodePose_writePose _) rfl
    · exact .message (by decide) rfl (decodeVector3_writeVector3 _) rfl
    · exact .varint (by decide) rfl rfl
    · exact .varint (by decide) rfl rfl
    · exact .varint (by decide) rfl rfl
    · exact .varint (by decide) rfl rfl
    · exact .varint (by decide) rfl rfl
    · exact .varint (by decide) rfl rfl
    · exact .repeated (by decide) rfl (fun _ => rfl) (fun _ _ _ => rfl)
        (fun _ _ => decodePointField_writePointField {}) rfl
    · refine .bytes (by decide) rfl ?_
      simp only [UInt32.toUInt32_toUInt64, List.nil_append]
  exact hbuild.decode hlen

/-! ## GridMap -/

def serializeGridMap (grid : GridMap) : Bytes :=
  Writer.message 1 (writeTimestamp grid.timestampNs) ++
    Writer.string 2 grid.frameId ++
    Writer.message 3 (writePose grid.origin) ++
    Writer.message 4 (writeVector2 grid.cellSize) ++
    Writer.varint 5 grid.columnCount.toUInt64 ++
    Writer.varint 6 grid.rowCount.toUInt64 ++
    Writer.varint 7 grid.cellStride.toUInt64 ++
    Writer.varint 8 grid.rowStride.toUInt64 ++
    (grid.fields.flatMap fun field => Writer.message 9 (writePointField field)) ++
    Writer.bytes 10 grid.data

def gridMapFields : List (FieldDecl GridMap) :=
  [.message 1 decodeTimestamp (·.timestampNs) fun timestampNs grid => { grid with timestampNs },
   .bytes 2 fun frameId grid => { grid with frameId },
   .message 3 decodePose (·.origin) fun origin grid => { grid with origin },
   .message 4 decodeVector2 (·.cellSize) fun cellSize grid => { grid with cellSize },
   .varint 5 fun v grid => { grid with columnCount := v.toUInt32 },
   .varint 6 fun v grid => { grid with rowCount := v.toUInt32 },
   .varint 7 fun v grid => { grid with cellStride := v.toUInt32 },
   .varint 8 fun v grid => { grid with rowStride := v.toUInt32 },
   .repeated 9 decodePointField {} fun f grid => { grid with fields := f grid.fields },
   .bytes 10 fun data grid => { grid with data }]

def gridMapLoop : FieldLoop GridMap := .lenient gridMapFields

/-- A byte string as text, one character a byte. -/
def textOf (bytes : Bytes) : String := String.ofList (bytes.map fun b => Char.ofNat b.toNat)

def validateField (cellStride : UInt32) (field : PointField) : Except String Unit :=
  if field.datatype = .unknown then
    .error ("GridMap: field '" ++ textOf field.name ++ "' has an unknown datatype")
  else if field.count = 0 then
    .error ("GridMap: field '" ++ textOf field.name ++ "' has a zero count")
  else if cellStride.toNat <
      field.offset.toNat + bytesPerElement field.datatype * field.count.toNat then
    .error ("GridMap: field '" ++ textOf field.name ++ "' reaches past cell_stride")
  else .ok ()

def validateFields (cellStride : UInt32) : List PointField → Except String Unit
  | [] => .ok ()
  | field :: fields =>
    match validateField cellStride field with
    | .error e => .error e
    | .ok () => validateFields cellStride fields

/-- `checkData` is off for a header-only wire, whose bytes the host attaches
afterwards; everything else is checked whether or not the grid has cells. -/
def validateLayout (grid : GridMap) (checkData : Bool) : Except String Unit :=
  match validateFields grid.cellStride grid.fields with
  | .error e => .error e
  | .ok () =>
    if ¬(0 < grid.columnCount ∧ 0 < grid.rowCount) then .ok ()
    else if grid.cellStride = 0 ∨ grid.rowStride = 0 then
      .error "GridMap: zero stride with cells declared"
    else if grid.rowStride.toNat < grid.columnCount.toNat * grid.cellStride.toNat then
      .error "GridMap: row_stride shorter than column_count * cell_stride"
    else if checkData ∧ grid.data.length < grid.rowCount.toNat * grid.rowStride.toNat then
      .error "GridMap: data shorter than row_count * row_stride"
    else .ok ()

def validateGridMap (grid : GridMap) : Except String Unit := validateLayout grid true

/-- The bytes of a header-only wire are attached later and checked then. -/
def deserializeGridMap (data : Bytes) : Except String GridMap :=
  match deserializeWith "GridMap" gridMapLoop {} data with
  | .error e => .error e
  | .ok grid =>
    match validateLayout grid (!grid.data.isEmpty) with
    | .error e => .error e
    | .ok () => .ok grid

theorem gridMapLoop_serializeGridMap {grid : GridMap}
    (hlen : (serializeGridMap grid).length < 2 ^ 64) :
    gridMapLoop.decode (serializeGridMap grid) {} = (true, grid) := by
  have hbuild : Rebuilds gridMapFields (serializeGridMap grid) {} grid := by
    iterate 9 apply Rebuilds.append
    · exact .message (by decide) rfl (decodeTimestamp_writeTimestamp _) rfl
    · exact .bytes (by decide) rfl rfl
    · exact .message (by decide) rfl (decodePose_writePose _) rfl
    · exact .message (by decide) rfl (decodeVector2_writeVector2 _) rfl
    · exact .varint (by decide) rfl rfl
    · exact .varint (by decide) rfl rfl
    · exact .varint (by decide) rfl rfl
    · exact .varint (by decide) rfl rfl
    · exact .repeated (by decide) rfl (fun _ => rfl) (fun _ _ _ => rfl)
        (fun _ _ => decodePointField_writePointField {}) rfl
    · refine .bytes (by decide) rfl ?_
      simp only [UInt32.toUInt32_toUInt64, List.nil_append]
  exact hbuild.decode hlen

/-! What a valid layout promises. -/

/-- The full check is the header check and enough data for the declared cells. -/
theorem validateLayout_true_iff (grid : GridMap) :
    validateLayout grid true = .ok () ↔
      validateLayout grid false = .ok () ∧
        (0 < grid.columnCount ∧ 0 < grid.rowCount →
          grid.rowCount.toNat * grid.rowStride.toNat ≤ grid.data.length) := by
  rw [validateLayout, validateLayout]
  cases validateFields grid.cellStride grid.fields with
  | error e => simp
  | ok u =>
    by_cases hcells : 0 < grid.columnCount ∧ 0 < grid.rowCount
    · by_cases hstride : grid.cellStride = 0 ∨ grid.rowStride = 0
      · simp [hcells, hstride]
      · by_cases hrow : grid.rowStride.toNat < grid.columnCount.toNat * grid.cellStride.toNat
        · simp [hcells, hstride, hrow]
        · simp [hcells, hstride, hrow]
    · simp [hcells]

theorem validateLayout_of_true {grid : GridMap} (h : validateLayout grid true = .ok ())
    (checkData : Bool) : validateLayout grid checkData = .ok () := by
  cases checkData with
  | true => exact h
  | false => exact ((validateLayout_true_iff grid).mp h).1

/-- Rows and cells of a valid layout do not overlap the next ones. -/
theorem strides_of_validateLayout {grid : GridMap} {checkData : Bool}
    (h : validateLayout grid checkData = .ok ())
    (hcells : 0 < grid.columnCount ∧ 0 < grid.rowCount) :
    0 < grid.cellStride.toNat ∧
      grid.columnCount.toNat * grid.cellStride.toNat ≤ grid.rowStride.toNat := by
  rw [validateLayout] at h
  cases hfields : validateFields grid.cellStride grid.fields with
  | error e => simp [hfields] at h
  | ok u =>
    simp only [hfields, hcells, and_self, not_true_eq_false, if_false] at h
    split at h
    · exact absurd h (by simp)
    · next hstride =>
      split at h
      · exact absurd h (by simp)
      · next hrow =>
        refine ⟨?_, by omega⟩
        rw [Nat.pos_iff_ne_zero]
        intro hzero
        exact hstride (.inl (UInt32.toNat_inj.mp hzero))

theorem field_of_validateFields {cellStride : UInt32} {fields : List PointField}
    {field : PointField} (h : validateFields cellStride fields = .ok ()) (hmem : field ∈ fields) :
    field.offset.toNat + bytesPerElement field.datatype * field.count.toNat ≤
      cellStride.toNat := by
  induction fields with
  | nil => exact absurd hmem (by simp)
  | cons head tail ih =>
    rw [validateFields] at h
    split at h
    · exact absurd h (by simp)
    · next hhead =>
      rcases List.mem_cons.mp hmem with rfl | htail
      · rw [validateField] at hhead
        split at hhead
        · exact absurd hhead (by simp)
        · split at hhead
          · exact absurd hhead (by simp)
          · split at hhead
            · exact absurd hhead (by simp)
            · next hend => omega
      · exact ih h htail

/-- A channel of a valid layout lies inside the cell record. -/
theorem field_of_validateLayout {grid : GridMap} {checkData : Bool} {field : PointField}
    (h : validateLayout grid checkData = .ok ()) (hmem : field ∈ grid.fields) :
    field.offset.toNat + bytesPerElement field.datatype * field.count.toNat ≤
      grid.cellStride.toNat := by
  rw [validateLayout] at h
  split at h
  · exact absurd h (by simp)
  · next hfields => exact field_of_validateFields hfields hmem

end PlotJugglerSdk
