import PlotJugglerSdk.Host.ObjectOutput
import PlotJugglerSdk.ParserModule.ObjectWriter

/-!
# What the host makes of a built object

The kit's ten encoders are written apart from the host's codecs. Here the calls
on a builder are given their meaning on the host's own struct: each setter is an
assignment to it, from the struct's defaults on. A `Twin` relates a builder's
state to that struct.

* `Twin.run_ok` — after any calls that leave no error the state stands for the
  object the calls assigned;
* `finish_decodes` — the host decodes a finished output to that object and no
  other, whenever its decoder lets a grid map of that layout pass.
-/

namespace PlotJugglerSdk.ParserModule

open Wire WireWriter

/-! ## The meaning of the setters -/

/-- The bytes of the payload a reference stands for. -/
def InputSpanRef.bytes (reference : InputSpanRef) (payload : Bytes) : Bytes :=
  slice payload ⟨reference.offset.toNat, reference.length.toNat⟩

/-- A pose from the seven numbers of a setter. -/
def poseOf (px py pz qx qy qz qw : F64) : Pose := ⟨⟨px, py, pz⟩, ⟨qx, qy, qz, qw⟩⟩

def PointCloudSetter.assign (payload : Bytes) (cloud : PointCloud) : PointCloudSetter → PointCloud
  | .setTimestamp value => { cloud with timestampNs := value }
  | .setWidth value => { cloud with width := value }
  | .setHeight value => { cloud with height := value }
  | .setPointStep value => { cloud with pointStep := value }
  | .setRowStep value => { cloud with rowStep := value }
  | .setBigEndian value => { cloud with isBigendian := value }
  | .setDense value => { cloud with isDense := value }
  | .setFrameId value => { cloud with frameId := value }
  | .setData value => { cloud with data := value }
  | .setDataFromInput reference => { cloud with data := reference.bytes payload }
  | .addField name offset datatype count =>
    { cloud with fields := cloud.fields ++ [⟨name, offset, datatype.toHost, count⟩] }

def ImageSetter.assign (payload : Bytes) (image : Image) : ImageSetter → Image
  | .setTimestamp value => { image with timestampNs := value }
  | .setWidth value => { image with width := value }
  | .setHeight value => { image with height := value }
  | .setEncoding value => { image with encoding := value }
  | .setRowStep value => { image with rowStep := value }
  | .setBigEndian value => { image with isBigendian := value }
  | .setData value => { image with data := value }
  | .setDataFromInput reference => { image with data := reference.bytes payload }
  | .setCompressedDepthMin value => { image with compressedDepthMin := some value }
  | .setCompressedDepthMax value => { image with compressedDepthMax := some value }
  | .setFrameId value => { image with frameId := value }

def DepthImageSetter.assign (payload : Bytes) (depth : DepthImage) : DepthImageSetter → DepthImage
  | .setTimestamp value => { depth with timestampNs := value }
  | .setWidth value => { depth with width := value }
  | .setHeight value => { depth with height := value }
  | .setEncoding value => { depth with encoding := value }
  | .setData value => { depth with data := value }
  | .setDataFromInput reference => { depth with data := reference.bytes payload }
  | .setIntrinsics value => { depth with K := value }
  | .setDistortionModel value => { depth with distortionModel := value }
  | .addDistortionCoefficient value => { depth with D := depth.D ++ [value] }

def OccupancyGridSetter.assign (payload : Bytes) (grid : OccupancyGrid) :
    OccupancyGridSetter → OccupancyGrid
  | .setTimestamp value => { grid with timestampNs := value }
  | .setFrameId value => { grid with frameId := value }
  | .setOrigin px py pz qx qy qz qw => { grid with origin := poseOf px py pz qx qy qz qw }
  | .setResolution value => { grid with resolution := value }
  | .setWidth value => { grid with width := value }
  | .setHeight value => { grid with height := value }
  | .setData value => { grid with data := value }
  | .setDataFromInput reference => { grid with data := reference.bytes payload }

def CompressedPointCloudSetter.assign (payload : Bytes) (cloud : CompressedPointCloud) :
    CompressedPointCloudSetter → CompressedPointCloud
  | .setTimestamp value => { cloud with timestampNs := value }
  | .setFrameId value => { cloud with frameId := value }
  | .setFormat value => { cloud with format := value }
  | .setData value => { cloud with data := value }
  | .setDataFromInput reference => { cloud with data := reference.bytes payload }

/-- The host keeps a colour in bytes, so a channel is set as the byte it becomes. -/
def Mesh3DSetter.assign [FloatOps] (payload : Bytes) (mesh : Mesh3D) : Mesh3DSetter → Mesh3D
  | .setTimestamp value => { mesh with timestampNs := value }
  | .setFrameId value => { mesh with frameId := value }
  | .setId value => { mesh with id := value }
  | .setPose px py pz qx qy qz qw => { mesh with pose := poseOf px py pz qx qy qz qw }
  | .setScale x y z => { mesh with scale := ⟨x, y, z⟩ }
  | .setFormat value => { mesh with format := value }
  | .setData value => { mesh with data := value }
  | .setDataFromInput reference => { mesh with data := reference.bytes payload }
  | .setUrl value => { mesh with url := value }
  | .setColor r g b a => { mesh with color := ColorParts.color ⟨r, g, b, a⟩ }
  | .setOverrideColor value => { mesh with overrideColor := value }

def VideoFrameSetter.assign (payload : Bytes) (frame : VideoFrame) : VideoFrameSetter → VideoFrame
  | .setTimestamp value => { frame with timestampNs := value }
  | .setFrameId value => { frame with frameId := value }
  | .setData value => { frame with data := value }
  | .setDataFromInput reference => { frame with data := reference.bytes payload }
  | .setFormat value => { frame with format := value }

def OccupancyGridUpdateSetter.assign (payload : Bytes) (update : OccupancyGridUpdate) :
    OccupancyGridUpdateSetter → OccupancyGridUpdate
  | .setTimestamp value => { update with timestampNs := value }
  | .setFrameId value => { update with frameId := value }
  | .setX value => { update with x := value }
  | .setY value => { update with y := value }
  | .setWidth value => { update with width := value }
  | .setHeight value => { update with height := value }
  | .setData value => { update with data := value }
  | .setDataFromInput reference => { update with data := reference.bytes payload }

def VoxelGridSetter.assign (payload : Bytes) (grid : VoxelGrid) : VoxelGridSetter → VoxelGrid
  | .setTimestamp value => { grid with timestampNs := value }
  | .setFrameId value => { grid with frameId := value }
  | .setOrigin px py pz qx qy qz qw => { grid with origin := poseOf px py pz qx qy qz qw }
  | .setCellSize x y z => { grid with cellSize := ⟨x, y, z⟩ }
  | .setColumnCount value => { grid with columnCount := value }
  | .setRowCount value => { grid with rowCount := value }
  | .setSliceCount value => { grid with sliceCount := value }
  | .setCellStride value => { grid with cellStride := value }
  | .setRowStride value => { grid with rowStride := value }
  | .setSliceStride value => { grid with sliceStride := value }
  | .addField name offset datatype count =>
    { grid with fields := grid.fields ++ [⟨name, offset, datatype.toHost, count⟩] }
  | .setData value => { grid with data := value }
  | .setDataFromInput reference => { grid with data := reference.bytes payload }

def GridMapSetter.assign (payload : Bytes) (grid : GridMap) : GridMapSetter → GridMap
  | .setTimestamp value => { grid with timestampNs := value }
  | .setFrameId value => { grid with frameId := value }
  | .setOrigin px py pz qx qy qz qw => { grid with origin := poseOf px py pz qx qy qz qw }
  | .setCellSize x y => { grid with cellSize := ⟨x, y⟩ }
  | .setColumnCount value => { grid with columnCount := value }
  | .setRowCount value => { grid with rowCount := value }
  | .setCellStride value => { grid with cellStride := value }
  | .setRowStride value => { grid with rowStride := value }
  | .addField name offset datatype count =>
    { grid with fields := grid.fields ++ [⟨name, offset, datatype.toHost, count⟩] }
  | .setData value => { grid with data := value }
  | .setDataFromInput reference => { grid with data := reference.bytes payload }

/-! The setters called on the builders of one kind. -/

def Call.onPointCloud : Call → Option PointCloudSetter
  | .pointCloud setter => setter
  | _ => none

def Call.onImage : Call → Option ImageSetter
  | .image setter => setter
  | _ => none

def Call.onDepthImage : Call → Option DepthImageSetter
  | .depthImage setter => setter
  | _ => none

def Call.onOccupancyGrid : Call → Option OccupancyGridSetter
  | .occupancyGrid setter => setter
  | _ => none

def Call.onCompressedPointCloud : Call → Option CompressedPointCloudSetter
  | .compressedPointCloud setter => setter
  | _ => none

def Call.onMesh3D : Call → Option Mesh3DSetter
  | .mesh3D setter => setter
  | _ => none

def Call.onVideoFrame : Call → Option VideoFrameSetter
  | .videoFrame setter => setter
  | _ => none

def Call.onOccupancyGridUpdate : Call → Option OccupancyGridUpdateSetter
  | .occupancyGridUpdate setter => setter
  | _ => none

def Call.onVoxelGrid : Call → Option VoxelGridSetter
  | .voxelGrid setter => setter
  | _ => none

def Call.onGridMap : Call → Option GridMapSetter
  | .gridMap setter => setter
  | _ => none

/-- A host object after the setters of its kind, in order. -/
def assigned {S ο : Type} (on : Call → Option S) (assign : ο → S → ο) (default : ο)
    (calls : List Call) : ο :=
  (calls.filterMap on).foldl assign default

/-- The object the calls give: the last values set, over the defaults of the
host's struct. -/
def givenObject [FloatOps] (payload : Bytes) (calls : List Call) : BuiltinObject :=
  match ObjectWriter.givenKind calls with
  | .none => .none
  | .pointCloud =>
    .pointCloud (assigned Call.onPointCloud (PointCloudSetter.assign payload) {} calls)
  | .image => .image (assigned Call.onImage (ImageSetter.assign payload) {} calls)
  | .depthImage =>
    .depthImage (assigned Call.onDepthImage (DepthImageSetter.assign payload) {} calls)
  | .occupancyGrid =>
    .occupancyGrid (assigned Call.onOccupancyGrid (OccupancyGridSetter.assign payload) {} calls)
  | .compressedPointCloud =>
    .compressedPointCloud (assigned Call.onCompressedPointCloud
      (CompressedPointCloudSetter.assign payload) {} calls)
  | .mesh3D => .mesh3D (assigned Call.onMesh3D (Mesh3DSetter.assign payload) {} calls)
  | .videoFrame =>
    .videoFrame (assigned Call.onVideoFrame (VideoFrameSetter.assign payload) {} calls)
  | .occupancyGridUpdate =>
    .occupancyGridUpdate (assigned Call.onOccupancyGridUpdate
      (OccupancyGridUpdateSetter.assign payload) {} calls)
  | .voxelGrid => .voxelGrid (assigned Call.onVoxelGrid (VoxelGridSetter.assign payload) {} calls)
  | .gridMap => .gridMap (assigned Call.onGridMap (GridMapSetter.assign payload) {} calls)

/-! ## Twins -/

/-- An effect on the state is the assignment on the object the state stands for,
whatever bulk data is attached to that object later. -/
def Effect.Means {σ ο : Type} (slot : Slot σ) (toHost : σ → ο) (withData : Bytes → ο → ο)
    (payload : Bytes) (assign : ο → ο) : Effect σ → Prop
  | .assign f | .guarded f => ∀ state, assign (toHost state) = toHost (f state) ∧
      ∀ data, assign (withData data (toHost state)) = withData data (toHost (f state))
  | .setData value => ∀ state, assign (toHost state) = toHost (slot.destination value state)
  | .setDataFromInput reference =>
    ∀ state, assign (toHost state) = withData (reference.bytes payload) (toHost state)

/-- A builder's state and the host's struct for the same object. -/
structure Twin (S σ ο : Type) where
  slot : Slot σ
  effect : S → Effect σ
  on : Call → Option S
  default : ο
  assign : Bytes → ο → S → ο
  toHost : σ → ο
  withData : Bytes → ο → ο
  action : ∀ call : Call, call.action.slot.kind = slot.kind →
    call.action = ⟨slot, (on call).map effect⟩
  fresh : ∀ inputPayload, toHost (slot.get { inputPayload }) = default
  means : ∀ payload setter,
    (effect setter).Means slot toHost withData payload fun object => assign payload object setter

namespace Twin

variable {S σ ο : Type}

/-- The object a writer stands for: its state's, with the spliced bytes. -/
def object (twin : Twin S σ ο) (payload : Bytes) (writer : ObjectWriter) : ο :=
  match writer.splice with
  | none => twin.toHost (twin.slot.get writer)
  | some reference => twin.withData (reference.bytes payload) (twin.toHost (twin.slot.get writer))

/-- The object on the wire, whose bulk data is missing when it is spliced. -/
def wireObject (twin : Twin S σ ο) (writer : ObjectWriter) : ο :=
  match writer.splice with
  | none => twin.toHost (twin.slot.get writer)
  | some _ => twin.withData [] (twin.toHost (twin.slot.get writer))

/-- A value put in its place, under whatever is spliced already. -/
theorem object_put (twin : Twin S σ ο) {payload : Bytes} {writer after : ObjectWriter} {setter : S}
    {f : σ → σ} (hstate : twin.slot.get after = f (twin.slot.get writer))
    (hsplice : after.splice = writer.splice)
    (hmeans : ∀ state, twin.assign payload (twin.toHost state) setter = twin.toHost (f state) ∧
      ∀ data, twin.assign payload (twin.withData data (twin.toHost state)) setter =
        twin.withData data (twin.toHost (f state))) :
    twin.object payload after = twin.assign payload (twin.object payload writer) setter := by
  unfold object
  rw [hstate, hsplice]
  cases writer.splice with
  | none => exact (hmeans _).1.symm
  | some reference => exact ((hmeans _).2 _).symm

/-- Bulk data is given once, so nothing is spliced before it is given. -/
theorem splice_before {writer : ObjectWriter}
    (hspliced : writer.splice.isSome → writer.dataSource = .spliced)
    (hsource : writer.dataSource = .none) : writer.splice = none := by
  rw [← Option.not_isSome_iff_eq_none]
  intro hsome
  rw [hspliced hsome] at hsource
  exact absurd hsource (by decide)

/-- One more setter that left no error. -/
theorem object_act (twin : Twin S σ ο) {payload : Bytes} {writer after : ObjectWriter} {setter : S}
    (hspliced : writer.splice.isSome → writer.dataSource = .spliced)
    (h : writer.Performed ⟨twin.slot, some (twin.effect setter)⟩ after) :
    twin.object payload after = twin.assign payload (twin.object payload writer) setter := by
  have hmeans := twin.means payload setter
  cases heffect : twin.effect setter with
  | assign f =>
    rw [heffect] at hmeans h
    exact twin.object_put h.state h.splice hmeans
  | guarded f =>
    rw [heffect] at hmeans h
    exact twin.object_put h.state h.splice hmeans
  | setData value =>
    rw [heffect] at hmeans h
    have hnone := splice_before hspliced (h.once.resolve_left (by simp [Action.source]))
    have hstate : twin.slot.get after = twin.slot.destination value (twin.slot.get writer) :=
      h.state
    have hsplice : after.splice = writer.splice := h.splice
    unfold object
    rw [hsplice, hnone, hstate]
    exact (hmeans _).symm
  | setDataFromInput reference =>
    rw [heffect] at hmeans h
    have hnone := splice_before hspliced (h.once.resolve_left (by simp [Action.source]))
    have hstate : twin.slot.get after = twin.slot.get writer := h.state
    have hsplice : after.splice = some reference := h.splice
    unfold object
    rw [hsplice, hnone, hstate]
    exact (hmeans _).symm

theorem object_select (twin : Twin S σ ο) {payload : Bytes} {writer after : ObjectWriter}
    (h : writer.Performed ⟨twin.slot, none⟩ after) :
    twin.object payload after = twin.object payload writer := by
  have hstate : twin.slot.get after = twin.slot.get writer := h.state
  have hsplice : after.splice = writer.splice := h.splice
  unfold object
  rw [hstate, hsplice]

/-- After calls on builders of its kind a writer stands for the object assigned. -/
theorem run_ok (twin : Twin S σ ο) {payload : Bytes} {calls : List Call}
    (h : (ObjectWriter.run payload calls).status = none)
    (hkind : ∀ call ∈ calls, call.action.slot.kind = twin.slot.kind) :
    twin.object payload (ObjectWriter.run payload calls) =
      assigned twin.on (twin.assign payload) twin.default calls := by
  induction calls using List.reverseRecOn with
  | nil => exact twin.fresh payload
  | append_singleton calls call ih =>
    rw [ObjectWriter.run_append] at h ⊢
    have hcall := twin.action call (hkind call (by simp))
    have hperformed := ObjectWriter.act_ok h
    have hbuilt := ObjectWriter.run_status_ok hperformed.status
    have hbefore := ih hperformed.status fun call' hmem =>
      hkind call' (List.mem_append_left _ hmem)
    rw [hcall] at hperformed ⊢
    unfold assigned at hbefore ⊢
    rw [List.filterMap_append, List.foldl_append, ← hbefore]
    cases hon : twin.on call with
    | none =>
      rw [hon] at hperformed
      simp only [List.filterMap_cons, hon, List.filterMap_nil, List.foldl_nil]
      exact twin.object_select hperformed
    | some setter =>
      rw [hon] at hperformed
      simp only [List.filterMap_cons, hon, List.filterMap_nil, List.foldl_cons, List.foldl_nil]
      exact twin.object_act hbuilt.spliced.mpr hperformed

end Twin

/-! ## The bulk data on the wire -/

/-- The bulk data left on the wire. -/
def kept (data : Bytes) (splice : Option InputSpanRef) : Bytes :=
  if splice.isSome then [] else data

theorem appends_dataField (fieldNumber : Nat) (data : Bytes) (splice : Option InputSpanRef) :
    Appends (ObjectWriter.dataField fieldNumber data splice)
      (if !splice.isSome then Writer.bytes fieldNumber data else []) :=
  appends_whenever (appends_lengthDelimited fieldNumber data)

theorem rebuilds_dataField {α : Type} {table : List (FieldDecl α)} {number : Nat}
    {set : Bytes → α → α} {data : Bytes} {splice : Option InputSpanRef} {out final : α}
    (hnumber : 0 < number ∧ number < 2 ^ 29)
    (hdecl : declared table ⟨number, .lengthDelimited⟩ = some (.bytes number set))
    (hempty : set [] out = out) (hset : set (kept data splice) out = final) :
    Rebuilds table (if !splice.isSome then Writer.bytes number data else []) out final := by
  rw [← hset]
  cases splice with
  | none => exact .bytes hnumber hdecl rfl
  | some reference =>
    have hkept : set (kept data (some reference)) out = out := hempty
    rw [hkept]
    exact .nil out

theorem flag_ne_zero (value : Bool) : (ObjectWriter.flag value != 0) = value := by
  cases value <;> rfl

theorem rebuilds_pointFields {α : Type} {table : List (FieldDecl α)} {number : Nat}
    {modify : (List PointField → List PointField) → α → α} {fields : List PointFieldState}
    {out final : α} (hnumber : 0 < number ∧ number < 2 ^ 29)
    (hdecl : declared table ⟨number, .lengthDelimited⟩ =
      some (.repeated number decodePointField {} modify))
    (hid : ∀ out, modify id out = out)
    (hcomp : ∀ f g out, modify f (modify g out) = modify (f ∘ g) out)
    (hset : modify (· ++ fields.map (·.toHost)) out = final) :
    Rebuilds table
      (fields.flatMap fun field => Writer.message number (PlotJugglerSdk.writePointField field.toHost))
      out final := by
  have hbuild := Rebuilds.repeated hnumber hdecl hid hcomp
    (fun _ _ => decodePointField_writePointField {}) hset
  rwa [List.flatMap_map] at hbuild

theorem rebuilds_depthLimit {α : Type} {table : List (FieldDecl α)} {number : Nat}
    {set : UInt32 → α → α} {has : Bool} {value : F32} {out final : α}
    (assign : Option F32 → α → α) (hnumber : 0 < number ∧ number < 2 ^ 29)
    (hdecl : declared table ⟨number, .fixed32⟩ = some (.fixed32 number set))
    (hnone : assign none out = out) (hsome : ∀ v, set v out = assign (some v) out)
    (hset : assign (if has then some value else none) out = final) :
    Rebuilds table (if has then Writer.fixed32 number value else []) out final := by
  have hbuild := Rebuilds.floatOption assign hnumber hdecl hnone hsome hset
  cases has with
  | true => exact hbuild
  | false => exact hbuild

theorem rebuilds_packed {α β : Type} {table : List (FieldDecl α)} {number : Nat}
    {parse : Bytes → Option β} {set : β → α → α} {content : Bytes} {value : β} {out final : α}
    (hnumber : 0 < number ∧ number < 2 ^ 29)
    (hdecl : declared table ⟨number, .lengthDelimited⟩ = some (.packed number parse set))
    (hparse : parse content = some value) (hset : set value out = final) :
    Rebuilds table (Writer.bytes number content) out final := by
  rw [Writer.bytes_eq]
  exact .packed hnumber hdecl hparse hset

/-- The host converts the channels when the colour is complete. -/
theorem decodeColor_colorPiece [FloatOps] {value : ColorState} (out : ColorRGBA)
    (hlen : (colorPiece value).length < 2 ^ 64) :
    decodeColor (colorPiece value) out =
      (true, ColorParts.color ⟨value.r, value.g, value.b, value.a⟩) := by
  have hbuild : Rebuilds colorFields (colorPiece value) {} ⟨value.r, value.g, value.b,
      value.a⟩ := by
    iterate 3 apply Rebuilds.append
    · exact .fixed64 (by decide) rfl rfl
    · exact .fixed64 (by decide) rfl rfl
    · exact .fixed64 (by decide) rfl rfl
    · exact .fixed64 (by decide) rfl rfl
  exact FieldLoop.finish_of_decode out (Rebuilds.decode hbuild hlen) rfl

/-! ## The ten twins -/

def PointCloudState.toHost (state : PointCloudState) : PointCloud where
  width := state.width
  height := state.height
  pointStep := state.pointStep
  rowStep := state.rowStep
  isBigendian := state.isBigendian
  isDense := state.isDense
  frameId := state.frameId
  fields := state.fields.map (·.toHost)
  data := state.data
  timestampNs := state.timestampNs

def pointCloudTwin : Twin PointCloudSetter PointCloudState PointCloud where
  slot := pointCloudSlot
  effect := PointCloudSetter.effect
  on := Call.onPointCloud
  default := {}
  assign := PointCloudSetter.assign
  toHost := PointCloudState.toHost
  withData data object := { object with data }
  action call hkind := by cases call <;> first | rfl | cases hkind
  fresh _ := rfl
  means payload setter := by
    cases setter with
    | setData value => exact fun _ => rfl
    | setDataFromInput reference => exact fun _ => rfl
    | addField name offset datatype count =>
      intro state
      refine ⟨?_, fun data => ?_⟩
      · simp only [PointCloudSetter.assign, PointCloudState.toHost, List.map_append, List.map_cons,
          List.map_nil,
          PointFieldState.toHost]
      · simp only [PointCloudSetter.assign, PointCloudState.toHost, List.map_append, List.map_cons,
          List.map_nil,
          PointFieldState.toHost]
    | _ => exact fun _ => ⟨rfl, fun _ => rfl⟩

theorem decode_writePointCloud {writer : ObjectWriter} {wire : Bytes}
    (h : writer.writePointCloud = .ok wire) :
    pointCloudLoop.decode wire {} = (true, pointCloudTwin.wireObject writer) := by
  obtain ⟨rfl, hlen⟩ := writeAll_ok
    (.cons (appends_writeTimestamp _)
    (.cons (appends_varintField 2 _)
    (.cons (appends_varintField 3 _)
    (.cons (appends_varintField 4 _)
    (.cons (appends_varintField 5 _)
    (.cons (appends_varintField 6 _)
    (.cons (appends_varintField 7 _)
    (.cons (appends_forEach _ (appends_writePointField 8))
    (.cons (appends_dataField 9 _ _)
    (.cons (appends_stringField 10 _) .nil)))))))))) h
  refine Rebuilds.decode ?_ hlen
  refine .append (.message (by decide) rfl (decodeTimestamp_writeTimestamp _) rfl) ?_
  refine .append (.varint (by decide) rfl rfl) ?_
  refine .append (.varint (by decide) rfl rfl) ?_
  refine .append (.varint (by decide) rfl rfl) ?_
  refine .append (.varint (by decide) rfl rfl) ?_
  refine .append (.varint (by decide) rfl rfl) ?_
  refine .append (.varint (by decide) rfl rfl) ?_
  refine .append (rebuilds_pointFields (by decide) rfl (fun _ => rfl) (fun _ _ _ => rfl) rfl) ?_
  refine .append (rebuilds_dataField (by decide) rfl rfl rfl) ?_
  refine .append (.bytes (by decide) rfl ?_) (.nil _)
  simp only [UInt32.toUInt32_toUInt64, flag_ne_zero, List.nil_append]
  unfold Twin.wireObject
  cases writer.splice <;> rfl

def ImageState.toHost (state : ImageState) : Image where
  width := state.width
  height := state.height
  encoding := state.encoding
  rowStep := state.rowStep
  isBigendian := state.isBigendian
  data := state.data
  compressedDepthMin := if state.hasCompressedDepthMin then some state.compressedDepthMin else none
  compressedDepthMax := if state.hasCompressedDepthMax then some state.compressedDepthMax else none
  timestampNs := state.timestampNs
  frameId := state.frameId

def imageTwin : Twin ImageSetter ImageState Image where
  slot := imageSlot
  effect := ImageSetter.effect
  on := Call.onImage
  default := {}
  assign := ImageSetter.assign
  toHost := ImageState.toHost
  withData data object := { object with data }
  action call hkind := by cases call <;> first | rfl | cases hkind
  fresh _ := rfl
  means payload setter := by
    cases setter with
    | setData value => exact fun _ => rfl
    | setDataFromInput reference => exact fun _ => rfl
    | _ => exact fun _ => ⟨rfl, fun _ => rfl⟩

theorem decode_writeImage {writer : ObjectWriter} {wire : Bytes}
    (h : writer.writeImage = .ok wire) :
    imageLoop.decode wire {} = (true, imageTwin.wireObject writer) := by
  obtain ⟨rfl, hlen⟩ := writeAll_ok
    (.cons (appends_writeTimestamp _)
    (.cons (appends_varintField 2 _)
    (.cons (appends_varintField 3 _)
    (.cons (appends_stringField 4 _)
    (.cons (appends_varintField 5 _)
    (.cons (appends_varintField 6 _)
    (.cons (appends_dataField 7 _ _)
    (.cons (appends_whenever (appends_fixed32Field 8 _))
    (.cons (appends_whenever (appends_fixed32Field 9 _))
    (.cons (appends_stringField 10 _) .nil)))))))))) h
  -- field by field, in the order in which they were written
  refine Rebuilds.decode ?_ hlen
  refine .append (.message (by decide) rfl (decodeTimestamp_writeTimestamp _) rfl) ?_
  refine .append (.varint (by decide) rfl rfl) ?_
  refine .append (.varint (by decide) rfl rfl) ?_
  refine .append (.bytes (by decide) rfl rfl) ?_
  refine .append (.varint (by decide) rfl rfl) ?_
  refine .append (.varint (by decide) rfl rfl) ?_
  refine .append (rebuilds_dataField (by decide) rfl rfl rfl) ?_
  refine .append
    (rebuilds_depthLimit (fun v image => { image with compressedDepthMin := v }) (by decide)
    rfl rfl (fun _ => rfl) rfl) ?_
  refine .append
    (rebuilds_depthLimit (fun v image => { image with compressedDepthMax := v }) (by decide)
    rfl rfl (fun _ => rfl) rfl) ?_
  refine .append (.bytes (by decide) rfl ?_) (.nil _)
  -- the flag and the widened numbers come back as they were
  simp only [UInt32.toUInt32_toUInt64, flag_ne_zero]
  unfold Twin.wireObject
  cases writer.splice <;> rfl

def DepthImageState.toHost (state : DepthImageState) : DepthImage where
  width := state.width
  height := state.height
  encoding := state.encoding
  data := state.data
  K := state.intrinsics
  distortionModel := state.distortionModel
  D := state.distortion
  timestampNs := state.timestampNs

def depthImageTwin : Twin DepthImageSetter DepthImageState DepthImage where
  slot := depthImageSlot
  effect := DepthImageSetter.effect
  on := Call.onDepthImage
  default := {}
  assign := DepthImageSetter.assign
  toHost := DepthImageState.toHost
  withData data object := { object with data }
  action call hkind := by cases call <;> first | rfl | cases hkind
  fresh _ := rfl
  means payload setter := by
    cases setter with
    | setData value => exact fun _ => rfl
    | setDataFromInput reference => exact fun _ => rfl
    | _ => exact fun _ => ⟨rfl, fun _ => rfl⟩

theorem decode_writeDepthImage {writer : ObjectWriter} {wire : Bytes}
    (h : writer.writeDepthImage = .ok wire) :
    depthImageLoop.decode wire {} = (true, depthImageTwin.wireObject writer) := by
  obtain ⟨rfl, hlen⟩ := writeAll_ok
    (.cons (appends_writeTimestamp _)
    (.cons (appends_varintField 2 _)
    (.cons (appends_varintField 3 _)
    (.cons (appends_stringField 4 _)
    (.cons (appends_dataField 5 _ _)
    (.cons (appends_writePackedDoubles 6 _)
    (.cons (appends_stringField 7 _)
    (.cons (appends_writePackedDoubles 8 _) .nil)))))))) h
  refine Rebuilds.decode ?_ hlen
  refine .append (.message (by decide) rfl (decodeTimestamp_writeTimestamp _) rfl) ?_
  refine .append (.varint (by decide) rfl rfl) ?_
  refine .append (.varint (by decide) rfl rfl) ?_
  refine .append (.bytes (by decide) rfl rfl) ?_
  refine .append (rebuilds_dataField (by decide) rfl rfl rfl) ?_
  refine .append (rebuilds_packed (by decide) rfl (Reader.readPackedDoubleArray_flatMap _) rfl) ?_
  refine .append (.bytes (by decide) rfl rfl) ?_
  refine .append (rebuilds_packed (by decide) rfl (Reader.readPackedDouble_flatMap _) ?_) (.nil _)
  simp only [UInt32.toUInt32_toUInt64, List.nil_append]
  unfold Twin.wireObject
  cases writer.splice <;> rfl

def OccupancyGridState.toHost (state : OccupancyGridState) : OccupancyGrid where
  timestampNs := state.timestampNs
  frameId := state.frameId
  origin := state.origin.toHost
  resolution := state.resolution
  width := state.width
  height := state.height
  data := state.data

def occupancyGridTwin : Twin OccupancyGridSetter OccupancyGridState OccupancyGrid where
  slot := occupancyGridSlot
  effect := OccupancyGridSetter.effect
  on := Call.onOccupancyGrid
  default := {}
  assign := OccupancyGridSetter.assign
  toHost := OccupancyGridState.toHost
  withData data object := { object with data }
  action call hkind := by cases call <;> first | rfl | cases hkind
  fresh _ := rfl
  means payload setter := by
    cases setter with
    | setData value => exact fun _ => rfl
    | setDataFromInput reference => exact fun _ => rfl
    | _ => exact fun _ => ⟨rfl, fun _ => rfl⟩

theorem decode_writeOccupancyGrid {writer : ObjectWriter} {wire : Bytes}
    (h : writer.writeOccupancyGrid = .ok wire) :
    occupancyGridLoop.decode wire {} = (true, occupancyGridTwin.wireObject writer) := by
  obtain ⟨rfl, hlen⟩ := writeAll_ok
    (.cons (appends_writeTimestamp _)
    (.cons (appends_stringField 2 _)
    (.cons (appends_writePose 3 _)
    (.cons (appends_doubleField 4 _)
    (.cons (appends_varintField 5 _)
    (.cons (appends_varintField 6 _)
    (.cons (appends_dataField 7 _ _) .nil))))))) h
  refine Rebuilds.decode ?_ hlen
  refine .append (.message (by decide) rfl (decodeTimestamp_writeTimestamp _) rfl) ?_
  refine .append (.bytes (by decide) rfl rfl) ?_
  refine .append (.message (by decide) rfl (decodePose_writePose _) rfl) ?_
  refine .append (.fixed64 (by decide) rfl rfl) ?_
  refine .append (.varint (by decide) rfl rfl) ?_
  refine .append (.varint (by decide) rfl rfl) ?_
  refine .append (rebuilds_dataField (by decide) rfl rfl ?_) (.nil _)
  simp only [UInt32.toUInt32_toUInt64]
  unfold Twin.wireObject
  cases writer.splice <;> rfl

def CompressedPointCloudState.toHost (state : CompressedPointCloudState) :
    CompressedPointCloud where
  timestampNs := state.timestampNs
  frameId := state.frameId
  format := state.format
  data := state.data

def compressedPointCloudTwin :
    Twin CompressedPointCloudSetter CompressedPointCloudState CompressedPointCloud where
  slot := compressedPointCloudSlot
  effect := CompressedPointCloudSetter.effect
  on := Call.onCompressedPointCloud
  default := {}
  assign := CompressedPointCloudSetter.assign
  toHost := CompressedPointCloudState.toHost
  withData data object := { object with data }
  action call hkind := by cases call <;> first | rfl | cases hkind
  fresh _ := rfl
  means payload setter := by
    cases setter with
    | setData value => exact fun _ => rfl
    | setDataFromInput reference => exact fun _ => rfl
    | _ => exact fun _ => ⟨rfl, fun _ => rfl⟩

theorem decode_writeCompressedPointCloud {writer : ObjectWriter} {wire : Bytes}
    (h : writer.writeCompressedPointCloud = .ok wire) :
    compressedPointCloudLoop.decode wire {} =
      (true, compressedPointCloudTwin.wireObject writer) := by
  obtain ⟨rfl, hlen⟩ := writeAll_ok
    (.cons (appends_writeTimestamp _)
    (.cons (appends_stringField 2 _)
    (.cons (appends_stringField 3 _)
    (.cons (appends_dataField 4 _ _) .nil)))) h
  refine Rebuilds.decode ?_ hlen
  refine .append (.message (by decide) rfl (decodeTimestamp_writeTimestamp _) rfl) ?_
  refine .append (.bytes (by decide) rfl rfl) ?_
  refine .append (.bytes (by decide) rfl rfl) ?_
  refine .append (rebuilds_dataField (by decide) rfl rfl ?_) (.nil _)
  unfold Twin.wireObject
  cases writer.splice <;> rfl

def Mesh3DState.toHost [FloatOps] (state : Mesh3DState) : Mesh3D where
  timestampNs := state.timestampNs
  frameId := state.frameId
  id := state.id
  pose := state.pose.toHost
  scale := state.scale.toHost
  format := state.format
  data := state.data
  url := state.url
  color := ColorParts.color ⟨state.color.r, state.color.g, state.color.b, state.color.a⟩
  overrideColor := state.overrideColor

/-- The two channel values a fresh colour has. -/
def ColorEnds [FloatOps] : Prop :=
  FloatOps.normalizedToByte .zero = 0 ∧ FloatOps.normalizedToByte .one = 255

theorem colorEnds_binary64 : @ColorEnds binary64 := by
  constructor <;> decide +kernel

def mesh3DTwin [FloatOps] (hends : ColorEnds) : Twin Mesh3DSetter Mesh3DState Mesh3D where
  slot := mesh3DSlot
  effect := Mesh3DSetter.effect
  on := Call.onMesh3D
  default := {}
  assign := Mesh3DSetter.assign
  toHost := Mesh3DState.toHost
  withData data object := { object with data }
  action call hkind := by cases call <;> first | rfl | cases hkind
  fresh _ := by
    show Mesh3DState.toHost {} = {}
    unfold Mesh3DState.toHost ColorParts.color
    rw [hends.1, hends.2]
    rfl
  means payload setter := by
    cases setter with
    | setData value => exact fun _ => rfl
    | setDataFromInput reference => exact fun _ => rfl
    | _ => exact fun _ => ⟨rfl, fun _ => rfl⟩

theorem decode_writeMesh3D [FloatOps] (hends : ColorEnds) {writer : ObjectWriter} {wire : Bytes}
    (h : writer.writeMesh3D = .ok wire) :
    mesh3DLoop.decode wire {} = (true, (mesh3DTwin hends).wireObject writer) := by
  obtain ⟨rfl, hlen⟩ := writeAll_ok
    (.cons (appends_writeTimestamp _)
    (.cons (appends_stringField 2 _)
    (.cons (appends_stringField 3 _)
    (.cons (appends_writePose 4 _)
    (.cons (appends_writeVector3 5 _)
    (.cons (appends_stringField 6 _)
    (.cons (appends_dataField 7 _ _)
    (.cons (appends_stringField 8 _)
    (.cons (appends_writeColor 9 _)
    (.cons (appends_varintField 10 _) .nil)))))))))) h
  refine Rebuilds.decode ?_ hlen
  refine .append (.message (by decide) rfl (decodeTimestamp_writeTimestamp _) rfl) ?_
  refine .append (.bytes (by decide) rfl rfl) ?_
  refine .append (.bytes (by decide) rfl rfl) ?_
  refine .append (.message (by decide) rfl (decodePose_writePose _) rfl) ?_
  refine .append (.message (by decide) rfl (decodeVector3_writeVector3 _) rfl) ?_
  refine .append (.bytes (by decide) rfl rfl) ?_
  refine .append (rebuilds_dataField (by decide) rfl rfl rfl) ?_
  refine .append (.bytes (by decide) rfl rfl) ?_
  refine .append (.message (by decide) rfl (decodeColor_colorPiece _) rfl) ?_
  refine .append (.varint (by decide) rfl ?_) (.nil _)
  simp only [flag_ne_zero]
  unfold Twin.wireObject
  cases writer.splice <;> rfl

def VideoFrameState.toHost (state : VideoFrameState) : VideoFrame where
  timestampNs := state.timestampNs
  frameId := state.frameId
  format := state.format
  data := state.data

def videoFrameTwin : Twin VideoFrameSetter VideoFrameState VideoFrame where
  slot := videoFrameSlot
  effect := VideoFrameSetter.effect
  on := Call.onVideoFrame
  default := {}
  assign := VideoFrameSetter.assign
  toHost := VideoFrameState.toHost
  withData data object := { object with data }
  action call hkind := by cases call <;> first | rfl | cases hkind
  fresh _ := rfl
  means payload setter := by
    cases setter with
    | setData value => exact fun _ => rfl
    | setDataFromInput reference => exact fun _ => rfl
    | _ => exact fun _ => ⟨rfl, fun _ => rfl⟩

theorem decode_writeVideoFrame {writer : ObjectWriter} {wire : Bytes}
    (h : writer.writeVideoFrame = .ok wire) :
    videoFrameLoop.decode wire {} = (true, videoFrameTwin.wireObject writer) := by
  obtain ⟨rfl, hlen⟩ := writeAll_ok
    (.cons (appends_writeTimestamp _)
    (.cons (appends_stringField 2 _)
    (.cons (appends_dataField 3 _ _)
    (.cons (appends_stringField 4 _) .nil)))) h
  refine Rebuilds.decode ?_ hlen
  refine .append (.message (by decide) rfl (decodeTimestamp_writeTimestamp _) rfl) ?_
  refine .append (.bytes (by decide) rfl rfl) ?_
  refine .append (rebuilds_dataField (by decide) rfl rfl rfl) ?_
  refine .append (.bytes (by decide) rfl ?_) (.nil _)
  unfold Twin.wireObject
  cases writer.splice <;> rfl

def OccupancyGridUpdateState.toHost (state : OccupancyGridUpdateState) : OccupancyGridUpdate where
  timestampNs := state.timestampNs
  frameId := state.frameId
  x := state.x
  y := state.y
  width := state.width
  height := state.height
  data := state.data

def occupancyGridUpdateTwin :
    Twin OccupancyGridUpdateSetter OccupancyGridUpdateState OccupancyGridUpdate where
  slot := occupancyGridUpdateSlot
  effect := OccupancyGridUpdateSetter.effect
  on := Call.onOccupancyGridUpdate
  default := {}
  assign := OccupancyGridUpdateSetter.assign
  toHost := OccupancyGridUpdateState.toHost
  withData data object := { object with data }
  action call hkind := by cases call <;> first | rfl | cases hkind
  fresh _ := rfl
  means payload setter := by
    cases setter with
    | setData value => exact fun _ => rfl
    | setDataFromInput reference => exact fun _ => rfl
    | _ => exact fun _ => ⟨rfl, fun _ => rfl⟩

theorem decode_writeOccupancyGridUpdate {writer : ObjectWriter} {wire : Bytes}
    (h : writer.writeOccupancyGridUpdate = .ok wire) :
    occupancyGridUpdateLoop.decode wire {} = (true, occupancyGridUpdateTwin.wireObject writer) := by
  obtain ⟨rfl, hlen⟩ := writeAll_ok
    (.cons (appends_writeTimestamp _)
    (.cons (appends_stringField 2 _)
    (.cons (appends_varintField 3 _)
    (.cons (appends_varintField 4 _)
    (.cons (appends_varintField 5 _)
    (.cons (appends_varintField 6 _)
    (.cons (appends_dataField 7 _ _) .nil))))))) h
  refine Rebuilds.decode ?_ hlen
  refine .append (.message (by decide) rfl (decodeTimestamp_writeTimestamp _) rfl) ?_
  refine .append (.bytes (by decide) rfl rfl) ?_
  refine .append (.varint (by decide) rfl rfl) ?_
  refine .append (.varint (by decide) rfl rfl) ?_
  refine .append (.varint (by decide) rfl rfl) ?_
  refine .append (.varint (by decide) rfl rfl) ?_
  refine .append (rebuilds_dataField (by decide) rfl rfl ?_) (.nil _)
  simp only [UInt32.toUInt32_toUInt64, Int32.toInt32_toUInt32]
  unfold Twin.wireObject
  cases writer.splice <;> rfl

def VoxelGridState.toHost (state : VoxelGridState) : VoxelGrid where
  timestampNs := state.timestampNs
  frameId := state.frameId
  origin := state.origin.toHost
  cellSize := state.cellSize.toHost
  columnCount := state.columnCount
  rowCount := state.rowCount
  sliceCount := state.sliceCount
  cellStride := state.cellStride
  rowStride := state.rowStride
  sliceStride := state.sliceStride
  fields := state.fields.map (·.toHost)
  data := state.data

def voxelGridTwin : Twin VoxelGridSetter VoxelGridState VoxelGrid where
  slot := voxelGridSlot
  effect := VoxelGridSetter.effect
  on := Call.onVoxelGrid
  default := {}
  assign := VoxelGridSetter.assign
  toHost := VoxelGridState.toHost
  withData data object := { object with data }
  action call hkind := by cases call <;> first | rfl | cases hkind
  fresh _ := rfl
  means payload setter := by
    cases setter with
    | setData value => exact fun _ => rfl
    | setDataFromInput reference => exact fun _ => rfl
    | addField name offset datatype count =>
      intro state
      refine ⟨?_, fun data => ?_⟩
      · simp only [VoxelGridSetter.assign, VoxelGridState.toHost, List.map_append, List.map_cons,
          List.map_nil,
          PointFieldState.toHost]
      · simp only [VoxelGridSetter.assign, VoxelGridState.toHost, List.map_append, List.map_cons,
          List.map_nil,
          PointFieldState.toHost]
    | _ => exact fun _ => ⟨rfl, fun _ => rfl⟩

theorem decode_writeVoxelGrid {writer : ObjectWriter} {wire : Bytes}
    (h : writer.writeVoxelGrid = .ok wire) :
    voxelGridLoop.decode wire {} = (true, voxelGridTwin.wireObject writer) := by
  obtain ⟨rfl, hlen⟩ := writeAll_ok
    (.cons (appends_writeTimestamp _)
    (.cons (appends_stringField 2 _)
    (.cons (appends_writePose 3 _)
    (.cons (appends_writeVector3 4 _)
    (.cons (appends_varintField 5 _)
    (.cons (appends_varintField 6 _)
    (.cons (appends_varintField 7 _)
    (.cons (appends_varintField 8 _)
    (.cons (appends_varintField 9 _)
    (.cons (appends_varintField 10 _)
    (.cons (appends_forEach _ (appends_writePointField 11))
    (.cons (appends_dataField 12 _ _) .nil)))))))))))) h
  -- field by field, in the order in which they were written
  refine Rebuilds.decode ?_ hlen
  refine .append (.message (by decide) rfl (decodeTimestamp_writeTimestamp _) rfl) ?_
  refine .append (.bytes (by decide) rfl rfl) ?_
  refine .append (.message (by decide) rfl (decodePose_writePose _) rfl) ?_
  refine .append (.message (by decide) rfl (decodeVector3_writeVector3 _) rfl) ?_
  refine .append (.varint (by decide) rfl rfl) ?_
  refine .append (.varint (by decide) rfl rfl) ?_
  refine .append (.varint (by decide) rfl rfl) ?_
  refine .append (.varint (by decide) rfl rfl) ?_
  refine .append (.varint (by decide) rfl rfl) ?_
  refine .append (.varint (by decide) rfl rfl) ?_
  -- a repeated field adds to a list that starts empty
  refine .append (rebuilds_pointFields (by decide) rfl (fun _ => rfl) (fun _ _ _ => rfl) rfl) ?_
  refine .append (rebuilds_dataField (by decide) rfl rfl ?_) (.nil _)
  simp only [UInt32.toUInt32_toUInt64, List.nil_append]
  unfold Twin.wireObject
  cases writer.splice <;> rfl

def GridMapState.toHost (state : GridMapState) : GridMap where
  timestampNs := state.timestampNs
  frameId := state.frameId
  origin := state.origin.toHost
  cellSize := state.cellSize.toHost
  columnCount := state.columnCount
  rowCount := state.rowCount
  cellStride := state.cellStride
  rowStride := state.rowStride
  fields := state.fields.map (·.toHost)
  data := state.data

def gridMapTwin : Twin GridMapSetter GridMapState GridMap where
  slot := gridMapSlot
  effect := GridMapSetter.effect
  on := Call.onGridMap
  default := {}
  assign := GridMapSetter.assign
  toHost := GridMapState.toHost
  withData data object := { object with data }
  action call hkind := by cases call <;> first | rfl | cases hkind
  fresh _ := rfl
  means payload setter := by
    cases setter with
    | setData value => exact fun _ => rfl
    | setDataFromInput reference => exact fun _ => rfl
    | addField name offset datatype count =>
      intro state
      refine ⟨?_, fun data => ?_⟩
      · simp only [GridMapSetter.assign, GridMapState.toHost, List.map_append, List.map_cons,
          List.map_nil,
          PointFieldState.toHost]
      · simp only [GridMapSetter.assign, GridMapState.toHost, List.map_append, List.map_cons,
          List.map_nil,
          PointFieldState.toHost]
    | _ => exact fun _ => ⟨rfl, fun _ => rfl⟩

theorem decode_writeGridMap {writer : ObjectWriter} {wire : Bytes}
    (h : writer.writeGridMap = .ok wire) :
    gridMapLoop.decode wire {} = (true, gridMapTwin.wireObject writer) := by
  obtain ⟨rfl, hlen⟩ := writeAll_ok
    (.cons (appends_writeTimestamp _)
    (.cons (appends_stringField 2 _)
    (.cons (appends_writePose 3 _)
    (.cons (appends_writeVector2 4 _)
    (.cons (appends_varintField 5 _)
    (.cons (appends_varintField 6 _)
    (.cons (appends_varintField 7 _)
    (.cons (appends_varintField 8 _)
    (.cons (appends_forEach _ (appends_writePointField 9))
    (.cons (appends_dataField 10 _ _) .nil)))))))))) h
  refine Rebuilds.decode ?_ hlen
  refine .append (.message (by decide) rfl (decodeTimestamp_writeTimestamp _) rfl) ?_
  refine .append (.bytes (by decide) rfl rfl) ?_
  refine .append (.message (by decide) rfl (decodePose_writePose _) rfl) ?_
  refine .append (.message (by decide) rfl (decodeVector2_writeVector2 _) rfl) ?_
  refine .append (.varint (by decide) rfl rfl) ?_
  refine .append (.varint (by decide) rfl rfl) ?_
  refine .append (.varint (by decide) rfl rfl) ?_
  refine .append (.varint (by decide) rfl rfl) ?_
  refine .append (rebuilds_pointFields (by decide) rfl (fun _ => rfl) (fun _ _ _ => rfl) rfl) ?_
  refine .append (rebuilds_dataField (by decide) rfl rfl ?_) (.nil _)
  simp only [UInt32.toUInt32_toUInt64, List.nil_append]
  unfold Twin.wireObject
  cases writer.splice <;> rfl

/-! ## Decoding a finished output -/

section Decoding

variable [FloatOps]

/-- An output decoded: its wire, with the spliced range attached. -/
def decodeOutput (payload : Bytes) (output : ObjectOutputV1 Bytes) : Except String BuiltinObject :=
  match deserializeBuiltinObjectCode output.objectType output.wire with
  | .error e => .error e
  | .ok decoded =>
    match output.splice with
    | none => .ok decoded
    | some splice =>
      let data := slice payload ⟨splice.inputOffset.toNat, splice.inputLength.toNat⟩
      match (BuiltinObjectType.ofCode output.objectType).bind (attach · data decoded) with
      | none => .error "output splice could not be attached to its canonical object"
      | some attached => .ok attached

/-- What the decoder asks of an object: a grid map's layout is checked, without
its data when that is not on the wire. -/
def Admitted (spliced : Bool) : BuiltinObject → Prop
  | .gridMap grid => GridMap.Passes (if spliced then { grid with data := [] } else grid)
  | _ => True

/-- A twin's object comes back from its wire if the decoder lets it pass. -/
theorem Twin.decodeOutput_iff {S σ ο : Type} (twin : Twin S σ ο) {loop : FieldLoop ο}
    {erase : ο → BuiltinObject} {passes : ο → Prop} {type : BuiltinObjectType} {objectType : UInt16}
    {payload wire : Bytes} {writer : ObjectWriter} {object : BuiltinObject}
    (hcode : BuiltinObjectType.ofCode objectType = some type)
    (hdeserialize : ∀ wire object, deserializeBuiltinObject type wire = .ok object ↔
      loop.Decodes twin.default erase passes wire object)
    (hattach : ∀ data value, attach type data (erase value) = some (erase (twin.withData data value)))
    (htwice : ∀ data value, twin.withData data (twin.withData [] value) = twin.withData data value)
    (hdecode : loop.decode wire twin.default = (true, twin.wireObject writer)) :
    decodeOutput payload ⟨objectType, writer.splice.map (ObjectWriter.spliceOf writer.kind), wire⟩ =
        .ok object ↔
      object = erase (twin.object payload writer) ∧ passes (twin.wireObject writer) := by
  -- the wire alone decodes to the object without its spliced bytes
  have hdecoded : ∀ decoded, deserializeBuiltinObjectCode objectType wire = .ok decoded ↔
      decoded = erase (twin.wireObject writer) ∧ passes (twin.wireObject writer) := by
    intro decoded
    unfold deserializeBuiltinObjectCode
    rw [hcode]
    dsimp only
    rw [hdeserialize]
    constructor
    · rintro ⟨value, hvalue, hpasses, rfl⟩
      have hsame : (true, value) = (true, twin.wireObject writer) := hvalue.symm.trans hdecode
      obtain rfl := (Prod.mk.inj hsame).2
      exact ⟨rfl, hpasses⟩
    · rintro ⟨rfl, hpasses⟩
      exact ⟨_, hdecode, hpasses, rfl⟩
  unfold decodeOutput
  dsimp only
  cases hwire : deserializeBuiltinObjectCode objectType wire with
  | error e =>
    have hnot : ¬passes (twin.wireObject writer) := by
      intro hpasses
      rw [(hdecoded _).mpr ⟨rfl, hpasses⟩] at hwire
      exact absurd hwire (by simp)
    simp [hnot]
  | ok decoded =>
    obtain ⟨rfl, hpasses⟩ := (hdecoded decoded).mp hwire
    dsimp only
    unfold Twin.object Twin.wireObject at *
    cases hsplice : writer.splice with
    | none =>
      rw [hsplice] at hpasses
      dsimp only at hpasses ⊢
      simp only [Option.map_none, Except.ok.injEq, hpasses, and_true, eq_comm]
    -- attaching the bytes afterwards is setting them at once
    | some reference =>
      rw [hsplice] at hpasses
      dsimp only at hpasses ⊢
      simp only [Option.map_some, hcode, Option.bind_some, hattach, htwice, Except.ok.injEq,
        hpasses, and_true]
      exact eq_comm

/-- The same after calls: the object is the one they assigned. -/
theorem Twin.decodeOutput_run {S σ ο : Type} (twin : Twin S σ ο) {loop : FieldLoop ο}
    {erase : ο → BuiltinObject} {passes : ο → Prop} {type : BuiltinObjectType}
    {payload wire : Bytes} {calls : List Call} {object : BuiltinObject}
    (hstatus : (ObjectWriter.run payload calls).status = none)
    (hkind : (ObjectWriter.run payload calls).kind = twin.slot.kind)
    (hcode : BuiltinObjectType.ofCode (ObjectWriter.selectedObjectType twin.slot.kind) = some type)
    (hdeserialize : ∀ wire object, deserializeBuiltinObject type wire = .ok object ↔
      loop.Decodes twin.default erase passes wire object)
    (hattach : ∀ data value, attach type data (erase value) = some (erase (twin.withData data value)))
    (htwice : ∀ data value, twin.withData data (twin.withData [] value) = twin.withData data value)
    (hadmitted : ∀ value, Admitted false (erase value) ↔ passes value)
    (hspliced : ∀ data value,
      Admitted true (erase (twin.withData data value)) ↔ passes (twin.withData [] value))
    (hdecode : loop.decode wire twin.default =
      (true, twin.wireObject (ObjectWriter.run payload calls))) :
    decodeOutput payload ⟨ObjectWriter.selectedObjectType (ObjectWriter.givenKind calls),
        (ObjectWriter.givenSplice calls).map (ObjectWriter.spliceOf (ObjectWriter.givenKind calls)),
        wire⟩ = .ok object ↔
      object = erase (assigned twin.on (twin.assign payload) twin.default calls) ∧
        Admitted (ObjectWriter.givenSplice calls).isSome
          (erase (assigned twin.on (twin.assign payload) twin.default calls)) := by
  -- a run that succeeds was on one kind of object throughout
  have hbuilt := ObjectWriter.run_status_ok hstatus
  have hobject := twin.run_ok hstatus fun call hmem => (hbuilt.one call hmem).trans hkind
  have hcode' : BuiltinObjectType.ofCode
      (ObjectWriter.selectedObjectType (ObjectWriter.run payload calls).kind) = some type := by
    rw [hkind, hcode]
  rw [← hobject, ← hbuilt.kind, ← hbuilt.splice,
    twin.decodeOutput_iff hcode' hdeserialize hattach htwice hdecode]
  refine and_congr_right fun _ => ?_
  unfold Twin.object Twin.wireObject
  -- with a splice the decoder checks the object as it is without its data
  cases (ObjectWriter.run payload calls).splice with
  | none => exact (hadmitted _).symm
  | some reference => exact (hspliced _ _).symm

/-- Ten kinds, one statement. -/
theorem decodeOutput_writeSelected (hends : ColorEnds) {payload wire : Bytes} {calls : List Call}
    (hstatus : (ObjectWriter.run payload calls).status = none)
    (hwire : (ObjectWriter.run payload calls).writeSelected = .ok wire) (object : BuiltinObject) :
    decodeOutput payload ⟨ObjectWriter.selectedObjectType (ObjectWriter.givenKind calls),
        (ObjectWriter.givenSplice calls).map (ObjectWriter.spliceOf (ObjectWriter.givenKind calls)),
        wire⟩ = .ok object ↔
      object = givenObject payload calls ∧
        Admitted (ObjectWriter.givenSplice calls).isSome (givenObject payload calls) := by
  have hbuilt := ObjectWriter.run_status_ok hstatus
  unfold ObjectWriter.writeSelected at hwire
  unfold givenObject
  rw [← hbuilt.kind]
  cases hkind : (ObjectWriter.run payload calls).kind <;> rw [hkind] at hwire <;> dsimp
    only at hwire ⊢
  case none => exact absurd hwire (by simp)
  case pointCloud =>
    rw [← hkind, hbuilt.kind]
    exact pointCloudTwin.decodeOutput_run hstatus hkind rfl (fun _ _ => deserializeAs_with)
      (fun _ _ => rfl) (fun _ _ => rfl) (fun _ => Iff.rfl) (fun _ _ => Iff.rfl)
        (decode_writePointCloud hwire)
  case image =>
    rw [← hkind, hbuilt.kind]
    exact imageTwin.decodeOutput_run hstatus hkind rfl (fun _ _ => deserializeAs_with)
      (fun _ _ => rfl) (fun _ _ => rfl) (fun _ => Iff.rfl) (fun _ _ => Iff.rfl)
        (decode_writeImage hwire)
  case depthImage =>
    rw [← hkind, hbuilt.kind]
    exact depthImageTwin.decodeOutput_run hstatus hkind rfl (fun _ _ => deserializeAs_with)
      (fun _ _ => rfl) (fun _ _ => rfl) (fun _ => Iff.rfl) (fun _ _ => Iff.rfl)
        (decode_writeDepthImage hwire)
  case occupancyGrid =>
    rw [← hkind, hbuilt.kind]
    exact occupancyGridTwin.decodeOutput_run hstatus hkind rfl (fun _ _ => deserializeAs_with)
      (fun _ _ => rfl) (fun _ _ => rfl) (fun _ => Iff.rfl) (fun _ _ => Iff.rfl)
        (decode_writeOccupancyGrid hwire)
  case compressedPointCloud =>
    rw [← hkind, hbuilt.kind]
    exact compressedPointCloudTwin.decodeOutput_run hstatus hkind rfl
      (fun _ _ => deserializeAs_with)
      (fun _ _ => rfl) (fun _ _ => rfl) (fun _ => Iff.rfl) (fun _ _ => Iff.rfl)
        (decode_writeCompressedPointCloud hwire)
  case mesh3D =>
    rw [← hkind, hbuilt.kind]
    exact (mesh3DTwin hends).decodeOutput_run hstatus hkind rfl (fun _ _ => deserializeAs_with)
      (fun _ _ => rfl) (fun _ _ => rfl) (fun _ => Iff.rfl) (fun _ _ => Iff.rfl)
        (decode_writeMesh3D hends hwire)
  case videoFrame =>
    rw [← hkind, hbuilt.kind]
    exact videoFrameTwin.decodeOutput_run hstatus hkind rfl (fun _ _ => deserializeAs_with)
      (fun _ _ => rfl) (fun _ _ => rfl) (fun _ => Iff.rfl) (fun _ _ => Iff.rfl)
        (decode_writeVideoFrame hwire)
  case occupancyGridUpdate =>
    rw [← hkind, hbuilt.kind]
    exact occupancyGridUpdateTwin.decodeOutput_run hstatus hkind rfl (fun _ _ => deserializeAs_with)
      (fun _ _ => rfl) (fun _ _ => rfl) (fun _ => Iff.rfl) (fun _ _ => Iff.rfl)
        (decode_writeOccupancyGridUpdate hwire)
  case voxelGrid =>
    rw [← hkind, hbuilt.kind]
    exact voxelGridTwin.decodeOutput_run hstatus hkind rfl (fun _ _ => deserializeAs_with)
      (fun _ _ => rfl) (fun _ _ => rfl) (fun _ => Iff.rfl) (fun _ _ => Iff.rfl)
        (decode_writeVoxelGrid hwire)
  case gridMap =>
    rw [← hkind, hbuilt.kind]
    exact gridMapTwin.decodeOutput_run hstatus hkind rfl (fun _ _ => deserializeAs_gridMap)
      (fun _ _ => rfl) (fun _ _ => rfl) (fun _ => Iff.rfl) (fun _ _ => Iff.rfl)
        (decode_writeGridMap hwire)

end Decoding

/-- The host decodes a finished output to the object the calls gave and to no
other, if it lets the layout pass; only a grid map's layout is checked. -/
theorem finish_decodes {payload : Bytes} {calls : List Call} {block : Bytes}
    (h : (ObjectWriter.run payload calls).finish = .ok block) :
    ∃ view output, readOutputDescriptorV1 block = .ok view ∧
      view.map (slice block) = .object output ∧
        ∀ object, @decodeOutput binary64 payload output = .ok object ↔
          object = @givenObject binary64 payload calls ∧
            Admitted (ObjectWriter.givenSplice calls).isSome
              (@givenObject binary64 payload calls) := by
  obtain ⟨wire, view, hwire, hread, hview⟩ := ObjectWriter.readOutputDescriptorV1_finish h
  obtain ⟨hstatus, -⟩ := ObjectWriter.finish_ok h
  refine ⟨view, _, hread, hview, ?_⟩
  intro object
  exact @decodeOutput_writeSelected binary64 colorEnds_binary64 _ _ _ hstatus hwire object

/-- A video frame spliced from the payload. -/
theorem finish_decodes_frame :
    ∃ view output, readOutputDescriptorV1 [1, 0, 2, 0, 10, 0, 1, 0, 3, 0, 0, 0, 1, 0, 0, 0, 0, 0,
        0, 0, 2, 0, 0, 0, 0, 0, 0, 0, 11, 0, 0, 0, 0, 0, 0, 0, 10, 4, 8, 0, 16, 0, 18, 0, 34, 1,
        104] = .ok view ∧
      view.map (slice [1, 0, 2, 0, 10, 0, 1, 0, 3, 0, 0, 0, 1, 0, 0, 0, 0, 0,
        0, 0, 2, 0, 0, 0, 0, 0, 0, 0, 11, 0, 0, 0, 0, 0, 0, 0, 10, 4, 8, 0, 16, 0, 18, 0, 34, 1,
        104]) = .object output ∧
        @decodeOutput binary64 [1, 2, 3, 4] output =
          .ok (.videoFrame { format := [104], data := [2, 3] }) := by
  obtain ⟨view, output, hread, hview, hdecode⟩ := finish_decodes
    (show (ObjectWriter.run [1, 2, 3, 4] [.videoFrame (some (.setDataFromInput ⟨1, 2⟩)),
      .videoFrame (some (.setFormat [104]))]).finish = .ok _ from rfl)
  exact ⟨view, output, hread, hview, (hdecode _).mpr ⟨rfl, trivial⟩⟩

/-- Two setters that succeed, and an output no host decodes: the grid map
declares a cell and has no strides. -/
theorem finish_gridMap_refused :
    ∃ block view output,
      (ObjectWriter.run [] [.gridMap (some (.setColumnCount 1)),
        .gridMap (some (.setRowCount 1))]).finish = .ok block ∧
      readOutputDescriptorV1 block = .ok view ∧ view.map (slice block) = .object output ∧
        @decodeOutput binary64 [] output = .error "GridMap: zero stride with cells declared" :=
  ⟨_, _, _, rfl, rfl, rfl, rfl⟩

end PlotJugglerSdk.ParserModule
