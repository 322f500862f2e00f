import PlotJugglerSdk.ParserModule.ScalarWriter
import PlotJugglerSdk.ParserModule.WireWriter

/-!
# ObjectWriter

The authoring kit's builder of object outputs. A module selects one of ten
kinds, sets its fields through the kind's builder, gives its bulk data as bytes
or as a range of the parse payload, and finishes the output descriptor.

The builders' setters are a constructor each. What a setter does to its builder's
state is an `Effect`; the four forms an effect has are carried out by
`ObjectWriter.call`, once for all kinds.

* `ObjectWriter.run_status_ok` — what a writer that has not failed was given;
* `ObjectWriter.readOutputDescriptorV1_finish` — the host reads the type, the
  splice and the wire of a finished writer.
-/

namespace PlotJugglerSdk.ParserModule

open Wire WireWriter

/-! ## States -/

structure PointCloudState where
  timestampNs : Int64 := 0
  width : UInt32 := 0
  height : UInt32 := 1
  pointStep : UInt32 := 0
  rowStep : UInt32 := 0
  isBigendian : Bool := false
  isDense : Bool := true
  fields : List PointFieldState := []
  data : Bytes := []
  frameId : Bytes := []

structure ImageState where
  timestampNs : Int64 := 0
  width : UInt32 := 0
  height : UInt32 := 0
  encoding : Bytes := []
  rowStep : UInt32 := 0
  isBigendian : Bool := false
  data : Bytes := []
  hasCompressedDepthMin : Bool := false
  compressedDepthMin : F32 := 0
  hasCompressedDepthMax : Bool := false
  compressedDepthMax : F32 := 0
  frameId : Bytes := []

structure DepthImageState where
  timestampNs : Int64 := 0
  width : UInt32 := 0
  height : UInt32 := 0
  encoding : Bytes := []
  data : Bytes := []
  intrinsics : List.Vector F64 9 := .replicate 9 .zero
  distortionModel : Bytes := []
  distortion : List F64 := []

structure OccupancyGridState where
  timestampNs : Int64 := 0
  frameId : Bytes := []
  origin : PoseState := {}
  resolution : F64 := .zero
  width : UInt32 := 0
  height : UInt32 := 0
  data : Bytes := []

structure CompressedPointCloudState where
  timestampNs : Int64 := 0
  frameId : Bytes := []
  format : Bytes := []
  data : Bytes := []

structure Mesh3DState where
  timestampNs : Int64 := 0
  frameId : Bytes := []
  id : Bytes := []
  pose : PoseState := {}
  scale : Vector3State := ⟨.one, .one, .one⟩
  format : Bytes := []
  data : Bytes := []
  url : Bytes := []
  color : ColorState := {}
  overrideColor : Bool := false

structure VideoFrameState where
  timestampNs : Int64 := 0
  frameId : Bytes := []
  data : Bytes := []
  format : Bytes := []

structure OccupancyGridUpdateState where
  timestampNs : Int64 := 0
  frameId : Bytes := []
  x : Int32 := 0
  y : Int32 := 0
  width : UInt32 := 0
  height : UInt32 := 0
  data : Bytes := []

structure VoxelGridState where
  timestampNs : Int64 := 0
  frameId : Bytes := []
  origin : PoseState := {}
  cellSize : Vector3State := {}
  columnCount : UInt32 := 0
  rowCount : UInt32 := 0
  sliceCount : UInt32 := 0
  cellStride : UInt32 := 0
  rowStride : UInt32 := 0
  sliceStride : UInt32 := 0
  fields : List PointFieldState := []
  data : Bytes := []

structure GridMapState where
  timestampNs : Int64 := 0
  frameId : Bytes := []
  origin : PoseState := {}
  cellSize : Vector2State := {}
  columnCount : UInt32 := 0
  rowCount : UInt32 := 0
  cellStride : UInt32 := 0
  rowStride : UInt32 := 0
  fields : List PointFieldState := []
  data : Bytes := []

/-! ## The writer -/

inductive Kind where
  | none
  | pointCloud
  | image
  | depthImage
  | occupancyGrid
  | compressedPointCloud
  | mesh3D
  | videoFrame
  | occupancyGridUpdate
  | voxelGrid
  | gridMap
  deriving DecidableEq

inductive DataSource where
  | none
  | copied
  | spliced
  deriving DecidableEq

structure InputSpanRef where
  offset : UInt64 := 0
  length : UInt64 := 0
  deriving DecidableEq

/-- The whole range lies in the payload. -/
def InputSpanRef.Inside (reference : InputSpanRef) (payload : Bytes) : Prop :=
  reference.offset.toNat + reference.length.toNat ≤ payload.length

structure ObjectWriter where
  kind : Kind := .none
  status : Option String := none
  inputPayload : Bytes
  dataSource : DataSource := .none
  pointCloud : PointCloudState := {}
  image : ImageState := {}
  depthImage : DepthImageState := {}
  occupancyGrid : OccupancyGridState := {}
  compressedPointCloud : CompressedPointCloudState := {}
  mesh3d : Mesh3DState := {}
  videoFrame : VideoFrameState := {}
  occupancyGridUpdate : OccupancyGridUpdateState := {}
  voxelGrid : VoxelGridState := {}
  gridMap : GridMapState := {}
  splice : Option InputSpanRef := none

/-- What a setter does with its builder's state `σ`. -/
inductive Effect (σ : Type) where
  /-- `owner_->state.field = value` -/
  | assign (f : σ → σ)
  /-- The same, but not behind an error: strings and lists. -/
  | guarded (f : σ → σ)
  | setData (value : Bytes)
  | setDataFromInput (reference : InputSpanRef)

/-- What a writer has besides the builders' states. -/
def ObjectWriter.frame (writer : ObjectWriter) :
    Kind × Option String × Bytes × DataSource × Option InputSpanRef :=
  (writer.kind, writer.status, writer.inputPayload, writer.dataSource, writer.splice)

/-- Where a builder's state is kept, and where in it the bulk data goes. -/
structure Slot (σ : Type) where
  kind : Kind
  get : ObjectWriter → σ
  put : σ → ObjectWriter → ObjectWriter
  destination : Bytes → σ → σ
  kind_ne : kind ≠ .none
  get_put : ∀ state writer, get (put state writer) = state
  /-- Nothing outside the builders' states is touched. -/
  put_frame : ∀ state writer, (put state writer).frame = writer.frame
  /-- The state is the writer's, whatever the rest of the writer is. -/
  get_frame : ∀ writer kind status dataSource splice,
    get { writer with kind, status, dataSource, splice } = get writer

namespace ObjectWriter

/-- The first error stays. -/
def fail (message : String) (writer : ObjectWriter) : ObjectWriter :=
  { writer with status := writer.status.or (some message) }

def select (kind : Kind) (writer : ObjectWriter) : ObjectWriter :=
  if writer.kind ≠ .none ∧ writer.kind ≠ kind then
    writer.fail "ObjectWriter may emit only one object per parse call"
  else { writer with kind }

def setData {σ : Type} (slot : Slot σ) (value : Bytes) (writer : ObjectWriter) : ObjectWriter :=
  if writer.dataSource ≠ .none then
    writer.fail "pj.parser.contract_violation: object bulk data source was selected more than once"
  else
    { slot.put (slot.destination value (slot.get writer)) writer with dataSource := .copied }

def setDataFromInput (reference : InputSpanRef) (writer : ObjectWriter) : ObjectWriter :=
  if writer.dataSource ≠ .none then
    writer.fail "pj.parser.contract_violation: object bulk data source was selected more than once"
  else if writer.inputPayload.length < reference.offset.toNat ∨
      writer.inputPayload.length - reference.offset.toNat < reference.length.toNat then
    writer.fail "pj.parser.contract_violation: object splice range is outside the parse payload"
  else { writer with splice := some reference, dataSource := .spliced }

/-- A setter called on a builder. The builder was selected when it was made;
doing it here again changes nothing. -/
def call {σ : Type} (slot : Slot σ) (effect : Effect σ) (writer : ObjectWriter) : ObjectWriter :=
  let writer := writer.select slot.kind
  match effect with
  | .assign f => slot.put (f (slot.get writer)) writer
  | .guarded f => if writer.status.isSome then writer else slot.put (f (slot.get writer)) writer
  | .setData value => writer.setData slot value
  | .setDataFromInput reference => writer.setDataFromInput reference

end ObjectWriter

/-- What a builder does with its writer: it is made, and a setter may be called
on it. -/
structure Action where
  {State : Type}
  slot : Slot State
  effect : Option (Effect State)

/-- What the action does to the builder's state. -/
def Action.next (action : Action) (state : action.State) : action.State :=
  match action.effect with
  | some (.assign f) => f state
  | some (.guarded f) => f state
  | some (.setData value) => action.slot.destination value state
  | _ => state

/-- Where the action has the bulk data from. -/
def Action.source (action : Action) : DataSource :=
  match action.effect with
  | some (.setData _) => .copied
  | some (.setDataFromInput _) => .spliced
  | _ => .none

def Action.reference (action : Action) : Option InputSpanRef :=
  match action.effect with
  | some (.setDataFromInput reference) => some reference
  | _ => none

def ObjectWriter.act (writer : ObjectWriter) (action : Action) : ObjectWriter :=
  match action.effect with
  | none => writer.select action.slot.kind
  | some effect => writer.call action.slot effect

def pointCloudSlot : Slot PointCloudState where
  kind := .pointCloud
  get := (·.pointCloud)
  put pointCloud writer := { writer with pointCloud }
  destination data state := { state with data }
  kind_ne := by decide
  get_put _ _ := rfl
  put_frame _ _ := rfl
  get_frame _ _ _ _ _ := rfl

def imageSlot : Slot ImageState where
  kind := .image
  get := (·.image)
  put image writer := { writer with image }
  destination data state := { state with data }
  kind_ne := by decide
  get_put _ _ := rfl
  put_frame _ _ := rfl
  get_frame _ _ _ _ _ := rfl

def depthImageSlot : Slot DepthImageState where
  kind := .depthImage
  get := (·.depthImage)
  put depthImage writer := { writer with depthImage }
  destination data state := { state with data }
  kind_ne := by decide
  get_put _ _ := rfl
  put_frame _ _ := rfl
  get_frame _ _ _ _ _ := rfl

def occupancyGridSlot : Slot OccupancyGridState where
  kind := .occupancyGrid
  get := (·.occupancyGrid)
  put occupancyGrid writer := { writer with occupancyGrid }
  destination data state := { state with data }
  kind_ne := by decide
  get_put _ _ := rfl
  put_frame _ _ := rfl
  get_frame _ _ _ _ _ := rfl

def compressedPointCloudSlot : Slot CompressedPointCloudState where
  kind := .compressedPointCloud
  get := (·.compressedPointCloud)
  put compressedPointCloud writer := { writer with compressedPointCloud }
  destination data state := { state with data }
  kind_ne := by decide
  get_put _ _ := rfl
  put_frame _ _ := rfl
  get_frame _ _ _ _ _ := rfl

def mesh3DSlot : Slot Mesh3DState where
  kind := .mesh3D
  get := (·.mesh3d)
  put mesh3d writer := { writer with mesh3d }
  destination data state := { state with data }
  kind_ne := by decide
  get_put _ _ := rfl
  put_frame _ _ := rfl
  get_frame _ _ _ _ _ := rfl

def videoFrameSlot : Slot VideoFrameState where
  kind := .videoFrame
  get := (·.videoFrame)
  put videoFrame writer := { writer with videoFrame }
  destination data state := { state with data }
  kind_ne := by decide
  get_put _ _ := rfl
  put_frame _ _ := rfl
  get_frame _ _ _ _ _ := rfl

def occupancyGridUpdateSlot : Slot OccupancyGridUpdateState where
  kind := .occupancyGridUpdate
  get := (·.occupancyGridUpdate)
  put occupancyGridUpdate writer := { writer with occupancyGridUpdate }
  destination data state := { state with data }
  kind_ne := by decide
  get_put _ _ := rfl
  put_frame _ _ := rfl
  get_frame _ _ _ _ _ := rfl

def voxelGridSlot : Slot VoxelGridState where
  kind := .voxelGrid
  get := (·.voxelGrid)
  put voxelGrid writer := { writer with voxelGrid }
  destination data state := { state with data }
  kind_ne := by decide
  get_put _ _ := rfl
  put_frame _ _ := rfl
  get_frame _ _ _ _ _ := rfl

def gridMapSlot : Slot GridMapState where
  kind := .gridMap
  get := (·.gridMap)
  put gridMap writer := { writer with gridMap }
  destination data state := { state with data }
  kind_ne := by decide
  get_put _ _ := rfl
  put_frame _ _ := rfl
  get_frame _ _ _ _ _ := rfl

/-! ## The builders' setters -/

inductive PointCloudSetter where
  | setTimestamp (value : Int64)
  | setWidth (value : UInt32)
  | setHeight (value : UInt32)
  | setPointStep (value : UInt32)
  | setRowStep (value : UInt32)
  | setBigEndian (value : Bool)
  | setDense (value : Bool)
  | setFrameId (value : Bytes)
  | setData (value : Bytes)
  | setDataFromInput (reference : InputSpanRef)
  | addField (name : Bytes) (offset : UInt32) (datatype : PointFieldDatatype) (count : UInt32)

def PointCloudSetter.effect : PointCloudSetter → Effect PointCloudState
  | .setTimestamp value => .assign fun state => { state with timestampNs := value }
  | .setWidth value => .assign fun state => { state with width := value }
  | .setHeight value => .assign fun state => { state with height := value }
  | .setPointStep value => .assign fun state => { state with pointStep := value }
  | .setRowStep value => .assign fun state => { state with rowStep := value }
  | .setBigEndian value => .assign fun state => { state with isBigendian := value }
  | .setDense value => .assign fun state => { state with isDense := value }
  | .setFrameId value => .guarded fun state => { state with frameId := value }
  | .setData value => .setData value
  | .setDataFromInput reference => .setDataFromInput reference
  | .addField name offset datatype count =>
    .guarded fun state => { state with fields := state.fields ++ [⟨name, offset, datatype, count⟩] }

inductive ImageSetter where
  | setTimestamp (value : Int64)
  | setWidth (value : UInt32)
  | setHeight (value : UInt32)
  | setEncoding (value : Bytes)
  | setRowStep (value : UInt32)
  | setBigEndian (value : Bool)
  | setData (value : Bytes)
  | setDataFromInput (reference : InputSpanRef)
  | setCompressedDepthMin (value : F32)
  | setCompressedDepthMax (value : F32)
  | setFrameId (value : Bytes)

def ImageSetter.effect : ImageSetter → Effect ImageState
  | .setTimestamp value => .assign fun state => { state with timestampNs := value }
  | .setWidth value => .assign fun state => { state with width := value }
  | .setHeight value => .assign fun state => { state with height := value }
  | .setEncoding value => .guarded fun state => { state with encoding := value }
  | .setRowStep value => .assign fun state => { state with rowStep := value }
  | .setBigEndian value => .assign fun state => { state with isBigendian := value }
  | .setData value => .setData value
  | .setDataFromInput reference => .setDataFromInput reference
  | .setCompressedDepthMin value =>
    .assign fun state => { state with hasCompressedDepthMin := true, compressedDepthMin := value }
  | .setCompressedDepthMax value =>
    .assign fun state => { state with hasCompressedDepthMax := true, compressedDepthMax := value }
  | .setFrameId value => .guarded fun state => { state with frameId := value }

inductive DepthImageSetter where
  | setTimestamp (value : Int64)
  | setWidth (value : UInt32)
  | setHeight (value : UInt32)
  | setEncoding (value : Bytes)
  | setData (value : Bytes)
  | setDataFromInput (reference : InputSpanRef)
  | setIntrinsics (value : List.Vector F64 9)
  | setDistortionModel (value : Bytes)
  | addDistortionCoefficient (value : F64)

def DepthImageSetter.effect : DepthImageSetter → Effect DepthImageState
  | .setTimestamp value => .assign fun state => { state with timestampNs := value }
  | .setWidth value => .assign fun state => { state with width := value }
  | .setHeight value => .assign fun state => { state with height := value }
  | .setEncoding value => .guarded fun state => { state with encoding := value }
  | .setData value => .setData value
  | .setDataFromInput reference => .setDataFromInput reference
  | .setIntrinsics value => .assign fun state => { state with intrinsics := value }
  | .setDistortionModel value => .guarded fun state => { state with distortionModel := value }
  | .addDistortionCoefficient value =>
    .guarded fun state => { state with distortion := state.distortion ++ [value] }

inductive OccupancyGridSetter where
  | setTimestamp (value : Int64)
  | setFrameId (value : Bytes)
  | setOrigin (px py pz qx qy qz qw : F64)
  | setResolution (value : F64)
  | setWidth (value : UInt32)
  | setHeight (value : UInt32)
  | setData (value : Bytes)
  | setDataFromInput (reference : InputSpanRef)

def OccupancyGridSetter.effect : OccupancyGridSetter → Effect OccupancyGridState
  | .setTimestamp value => .assign fun state => { state with timestampNs := value }
  | .setFrameId value => .guarded fun state => { state with frameId := value }
  | .setOrigin px py pz qx qy qz qw =>
    .assign fun state => { state with origin := ⟨⟨px, py, pz⟩, ⟨qx, qy, qz, qw⟩⟩ }
  | .setResolution value => .assign fun state => { state with resolution := value }
  | .setWidth value => .assign fun state => { state with width := value }
  | .setHeight value => .assign fun state => { state with height := value }
  | .setData value => .setData value
  | .setDataFromInput reference => .setDataFromInput reference

inductive CompressedPointCloudSetter where
  | setTimestamp (value : Int64)
  | setFrameId (value : Bytes)
  | setFormat (value : Bytes)
  | setData (value : Bytes)
  | setDataFromInput (reference : InputSpanRef)

def CompressedPointCloudSetter.effect :
    CompressedPointCloudSetter → Effect CompressedPointCloudState
  | .setTimestamp value => .assign fun state => { state with timestampNs := value }
  | .setFrameId value => .guarded fun state => { state with frameId := value }
  | .setFormat value => .guarded fun state => { state with format := value }
  | .setData value => .setData value
  | .setDataFromInput reference => .setDataFromInput reference

inductive Mesh3DSetter where
  | setTimestamp (value : Int64)
  | setFrameId (value : Bytes)
  | setId (value : Bytes)
  | setPose (px py pz qx qy qz qw : F64)
  | setScale (x y z : F64)
  | setFormat (value : Bytes)
  | setData (value : Bytes)
  | setDataFromInput (reference : InputSpanRef)
  | setUrl (value : Bytes)
  | setColor (r g b a : F64)
  | setOverrideColor (value : Bool)

def Mesh3DSetter.effect : Mesh3DSetter → Effect Mesh3DState
  | .setTimestamp value => .assign fun state => { state with timestampNs := value }
  | .setFrameId value => .guarded fun state => { state with frameId := value }
  | .setId value => .guarded fun state => { state with id := value }
  | .setPose px py pz qx qy qz qw =>
    .assign fun state => { state with pose := ⟨⟨px, py, pz⟩, ⟨qx, qy, qz, qw⟩⟩ }
  | .setScale x y z => .assign fun state => { state with scale := ⟨x, y, z⟩ }
  | .setFormat value => .guarded fun state => { state with format := value }
  | .setData value => .setData value
  | .setDataFromInput reference => .setDataFromInput reference
  | .setUrl value => .guarded fun state => { state with url := value }
  | .setColor r g b a => .assign fun state => { state with color := ⟨r, g, b, a⟩ }
  | .setOverrideColor value => .assign fun state => { state with overrideColor := value }

inductive VideoFrameSetter where
  | setTimestamp (value : Int64)
  | setFrameId (value : Bytes)
  | setData (value : Bytes)
  | setDataFromInput (reference : InputSpanRef)
  | setFormat (value : Bytes)

def VideoFrameSetter.effect : VideoFrameSetter → Effect VideoFrameState
  | .setTimestamp value => .assign fun state => { state with timestampNs := value }
  | .setFrameId value => .guarded fun state => { state with frameId := value }
  | .setData value => .setData value
  | .setDataFromInput reference => .setDataFromInput reference
  | .setFormat value => .guarded fun state => { state with format := value }

inductive OccupancyGridUpdateSetter where
  | setTimestamp (value : Int64)
  | setFrameId (value : Bytes)
  | setX (value : Int32)
  | setY (value : Int32)
  | setWidth (value : UInt32)
  | setHeight (value : UInt32)
  | setData (value : Bytes)
  | setDataFromInput (reference : InputSpanRef)

def OccupancyGridUpdateSetter.effect : OccupancyGridUpdateSetter → Effect OccupancyGridUpdateState
  | .setTimestamp value => .assign fun state => { state with timestampNs := value }
  | .setFrameId value => .guarded fun state => { state with frameId := value }
  | .setX value => .assign fun state => { state with x := value }
  | .setY value => .assign fun state => { state with y := value }
  | .setWidth value => .assign fun state => { state with width := value }
  | .setHeight value => .assign fun state => { state with height := value }
  | .setData value => .setData value
  | .setDataFromInput reference => .setDataFromInput reference

inductive VoxelGridSetter where
  | setTimestamp (value : Int64)
  | setFrameId (value : Bytes)
  | setOrigin (px py pz qx qy qz qw : F64)
  | setCellSize (x y z : F64)
  | setColumnCount (value : UInt32)
  | setRowCount (value : UInt32)
  | setSliceCount (value : UInt32)
  | setCellStride (value : UInt32)
  | setRowStride (value : UInt32)
  | setSliceStride (value : UInt32)
  | addField (name : Bytes) (offset : UInt32) (datatype : PointFieldDatatype) (count : UInt32)
  | setData (value : Bytes)
  | setDataFromInput (reference : InputSpanRef)

def VoxelGridSetter.effect : VoxelGridSetter → Effect VoxelGridState
  | .setTimestamp value => .assign fun state => { state with timestampNs := value }
  | .setFrameId value => .guarded fun state => { state with frameId := value }
  | .setOrigin px py pz qx qy qz qw =>
    .assign fun state => { state with origin := ⟨⟨px, py, pz⟩, ⟨qx, qy, qz, qw⟩⟩ }
  | .setCellSize x y z => .assign fun state => { state with cellSize := ⟨x, y, z⟩ }
  | .setColumnCount value => .assign fun state => { state with columnCount := value }
  | .setRowCount value => .assign fun state => { state with rowCount := value }
  | .setSliceCount value => .assign fun state => { state with sliceCount := value }
  | .setCellStride value => .assign fun state => { state with cellStride := value }
  | .setRowStride value => .assign fun state => { state with rowStride := value }
  | .setSliceStride value => .assign fun state => { state with sliceStride := value }
  | .addField name offset datatype count =>
    .guarded fun state => { state with fields := state.fields ++ [⟨name, offset, datatype, count⟩] }
  | .setData value => .setData value
  | .setDataFromInput reference => .setDataFromInput reference

inductive GridMapSetter where
  | setTimestamp (value : Int64)
  | setFrameId (value : Bytes)
  | setOrigin (px py pz qx qy qz qw : F64)
  | setCellSize (x y : F64)
  | setColumnCount (value : UInt32)
  | setRowCount (value : UInt32)
  | setCellStride (value : UInt32)
  | setRowStride (value : UInt32)
  | addField (name : Bytes) (offset : UInt32) (datatype : PointFieldDatatype) (count : UInt32)
  | setData (value : Bytes)
  | setDataFromInput (reference : InputSpanRef)

def GridMapSetter.effect : GridMapSetter → Effect GridMapState
  | .setTimestamp value => .assign fun state => { state with timestampNs := value }
  | .setFrameId value => .guarded fun state => { state with frameId := value }
  | .setOrigin px py pz qx qy qz qw =>
    .assign fun state => { state with origin := ⟨⟨px, py, pz⟩, ⟨qx, qy, qz, qw⟩⟩ }
  | .setCellSize x y => .assign fun state => { state with cellSize := ⟨x, y⟩ }
  | .setColumnCount value => .assign fun state => { state with columnCount := value }
  | .setRowCount value => .assign fun state => { state with rowCount := value }
  | .setCellStride value => .assign fun state => { state with cellStride := value }
  | .setRowStride value => .assign fun state => { state with rowStride := value }
  | .addField name offset datatype count =>
    .guarded fun state => { state with fields := state.fields ++ [⟨name, offset, datatype, count⟩] }
  | .setData value => .setData value
  | .setDataFromInput reference => .setDataFromInput reference

/-- A builder made, with or without a setter called on it. -/
inductive Call where
  | pointCloud (setter : Option PointCloudSetter)
  | image (setter : Option ImageSetter)
  | depthImage (setter : Option DepthImageSetter)
  | occupancyGrid (setter : Option OccupancyGridSetter)
  | compressedPointCloud (setter : Option CompressedPointCloudSetter)
  | mesh3D (setter : Option Mesh3DSetter)
  | videoFrame (setter : Option VideoFrameSetter)
  | occupancyGridUpdate (setter : Option OccupancyGridUpdateSetter)
  | voxelGrid (setter : Option VoxelGridSetter)
  | gridMap (setter : Option GridMapSetter)

def Call.action : Call → Action
  | .pointCloud setter => ⟨pointCloudSlot, setter.map (·.effect)⟩
  | .image setter => ⟨imageSlot, setter.map (·.effect)⟩
  | .depthImage setter => ⟨depthImageSlot, setter.map (·.effect)⟩
  | .occupancyGrid setter => ⟨occupancyGridSlot, setter.map (·.effect)⟩
  | .compressedPointCloud setter => ⟨compressedPointCloudSlot, setter.map (·.effect)⟩
  | .mesh3D setter => ⟨mesh3DSlot, setter.map (·.effect)⟩
  | .videoFrame setter => ⟨videoFrameSlot, setter.map (·.effect)⟩
  | .occupancyGridUpdate setter => ⟨occupancyGridUpdateSlot, setter.map (·.effect)⟩
  | .voxelGrid setter => ⟨voxelGridSlot, setter.map (·.effect)⟩
  | .gridMap setter => ⟨gridMapSlot, setter.map (·.effect)⟩

namespace ObjectWriter

def step (writer : ObjectWriter) (call : Call) : ObjectWriter := writer.act call.action

def run (inputPayload : Bytes) (calls : List Call) : ObjectWriter :=
  calls.foldl step { inputPayload }

/-! ## What a call does -/

/-- What an action did that left no error. -/
structure Performed (writer : ObjectWriter) (action : Action) (after : ObjectWriter) : Prop where
  status : writer.status = none
  fresh : writer.kind = .none ∨ writer.kind = action.slot.kind
  kind : after.kind = action.slot.kind
  inputPayload : after.inputPayload = writer.inputPayload
  state : action.slot.get after = action.next (action.slot.get writer)
  /-- Bulk data is given once. -/
  once : action.source = .none ∨ writer.dataSource = .none
  dataSource : after.dataSource = if action.source = .none then writer.dataSource else action.source
  splice : after.splice = if action.source = .spliced then action.reference else writer.splice
  inside : ∀ reference ∈ action.reference, reference.Inside writer.inputPayload

theorem fail_status_ne (message : String) (writer : ObjectWriter) :
    (writer.fail message).status ≠ none := by
  unfold fail
  cases writer.status <;> simp

theorem select_ok {writer : ObjectWriter} {kind : Kind} (h : (writer.select kind).status = none) :
    writer.status = none ∧ (writer.kind = .none ∨ writer.kind = kind) ∧
      writer.select kind = { writer with kind } := by
  unfold select at h ⊢
  split at h
  · exact absurd h (fail_status_ne _ _)
  · next hkind =>
    rw [if_neg hkind]
    refine ⟨h, ?_, rfl⟩
    by_cases hnone : writer.kind = .none
    · exact Or.inl hnone
    · exact Or.inr (not_not.mp fun hne => hkind ⟨hnone, hne⟩)

@[simp] theorem kind_put {σ : Type} (slot : Slot σ) (state : σ) (writer : ObjectWriter) :
    (slot.put state writer).kind = writer.kind :=
  congrArg (·.1) (slot.put_frame state writer)

@[simp] theorem status_put {σ : Type} (slot : Slot σ) (state : σ) (writer : ObjectWriter) :
    (slot.put state writer).status = writer.status :=
  congrArg (·.2.1) (slot.put_frame state writer)

@[simp] theorem inputPayload_put {σ : Type} (slot : Slot σ) (state : σ) (writer : ObjectWriter) :
    (slot.put state writer).inputPayload = writer.inputPayload :=
  congrArg (·.2.2.1) (slot.put_frame state writer)

@[simp] theorem dataSource_put {σ : Type} (slot : Slot σ) (state : σ) (writer : ObjectWriter) :
    (slot.put state writer).dataSource = writer.dataSource :=
  congrArg (·.2.2.2.1) (slot.put_frame state writer)

@[simp] theorem splice_put {σ : Type} (slot : Slot σ) (state : σ) (writer : ObjectWriter) :
    (slot.put state writer).splice = writer.splice :=
  congrArg (·.2.2.2.2) (slot.put_frame state writer)

@[simp] theorem get_select {σ : Type} (slot : Slot σ) (writer : ObjectWriter) (kind : Kind) :
    slot.get { writer with kind } = slot.get writer :=
  slot.get_frame writer kind writer.status writer.dataSource writer.splice

/-- A value put in its place. -/
theorem performed_put {σ : Type} {slot : Slot σ} {effect : Effect σ} {writer : ObjectWriter}
    {f : σ → σ} (hstatus : writer.status = none)
    (hkind : writer.kind = .none ∨ writer.kind = slot.kind)
    (heffect : effect = .assign f ∨ effect = .guarded f) :
    writer.Performed ⟨slot, some effect⟩
      (slot.put (f (slot.get writer)) { writer with kind := slot.kind }) where
  status := hstatus
  fresh := hkind
  kind := by simp
  inputPayload := by simp
  state := by rcases heffect with rfl | rfl <;> exact slot.get_put _ _
  once := by rcases heffect with rfl | rfl <;> exact Or.inl rfl
  dataSource := by rcases heffect with rfl | rfl <;> simp [Action.source]
  splice := by rcases heffect with rfl | rfl <;> simp [Action.source]
  inside := by rcases heffect with rfl | rfl <;> simp [Action.reference]

theorem performed_setData {σ : Type} {slot : Slot σ} {value : Bytes} {writer : ObjectWriter}
    (hstatus : writer.status = none) (hkind : writer.kind = .none ∨ writer.kind = slot.kind)
    (h : (setData slot value { writer with kind := slot.kind }).status = none) :
    writer.Performed ⟨slot, some (.setData value)⟩
      (setData slot value { writer with kind := slot.kind }) := by
  unfold setData at h ⊢
  dsimp only at h ⊢
  by_cases hsource : writer.dataSource = .none
  · rw [if_neg (not_not.mpr hsource)] at h ⊢
    refine ⟨hstatus, hkind, by simp, by simp, ?_, Or.inr hsource, by simp [Action.source],
      by simp [Action.source], by simp [Action.reference]⟩
    show slot.get { slot.put _ _ with dataSource := DataSource.copied } = _
    rw [get_select]
    exact (slot.get_frame (slot.put _ _) _ _ DataSource.copied _).trans (slot.get_put _ _)
  · rw [if_pos hsource] at h
    exact absurd h (fail_status_ne _ _)

theorem performed_setDataFromInput {σ : Type} {slot : Slot σ} {reference : InputSpanRef}
    {writer : ObjectWriter} (hstatus : writer.status = none)
    (hkind : writer.kind = .none ∨ writer.kind = slot.kind)
    (h : (setDataFromInput reference { writer with kind := slot.kind }).status = none) :
    writer.Performed ⟨slot, some (.setDataFromInput reference)⟩
      (setDataFromInput reference { writer with kind := slot.kind }) := by
  unfold setDataFromInput at h ⊢
  dsimp only at h ⊢
  split at h
  · exact absurd h (fail_status_ne _ _)
  · split at h
    · exact absurd h (fail_status_ne _ _)
    · next hsource houtside =>
      rw [if_neg hsource, if_neg houtside]
      refine ⟨hstatus, hkind, rfl, rfl, ?_, Or.inr (not_not.mp hsource), rfl, rfl, ?_⟩
      · exact slot.get_frame writer slot.kind writer.status .spliced (some reference)
      · intro reference' hmem
        obtain rfl := Option.some.inj hmem
        unfold InputSpanRef.Inside
        omega

theorem act_ok {writer : ObjectWriter} {action : Action} (h : (writer.act action).status = none) :
    writer.Performed action (writer.act action) := by
  obtain ⟨slot, effect⟩ := action
  cases effect with
  | none =>
    obtain ⟨hstatus, hkind, hselect⟩ := select_ok h
    have hact : writer.act ⟨slot, none⟩ = { writer with kind := slot.kind } := hselect
    rw [hact]
    exact ⟨hstatus, hkind, rfl, rfl, slot.get_frame .., Or.inl rfl, rfl,
      rfl, by simp [Action.reference]⟩
  | some effect =>
    -- whatever the setter does then, it keeps an error of the selection
    have hselected : (writer.select slot.kind).status = none := by
      have hcall : (call slot effect writer).status = none := h
      unfold call at hcall
      cases hstatus : (writer.select slot.kind).status with
      | none => rfl
      | some message =>
        exfalso
        cases effect with
        | assign f => simp [hstatus] at hcall
        | guarded f => simp [hstatus] at hcall
        | setData value =>
          simp only [setData] at hcall
          split at hcall
          · exact fail_status_ne _ _ hcall
          · simp [hstatus] at hcall
        | setDataFromInput reference =>
          simp only [setDataFromInput] at hcall
          split at hcall
          · exact fail_status_ne _ _ hcall
          · split at hcall
            · exact fail_status_ne _ _ hcall
            · simp [hstatus] at hcall
    obtain ⟨hstatus, hkind, hselect⟩ := select_ok hselected
    have hact : writer.act ⟨slot, some effect⟩ = call slot effect writer := rfl
    rw [hact] at h ⊢
    unfold call at h ⊢
    rw [hselect] at h ⊢
    cases effect with
    | assign f => simpa using performed_put hstatus hkind (Or.inl rfl)
    | guarded f =>
      dsimp only
      rw [if_neg (by simp [hstatus])]
      simpa using performed_put hstatus hkind (Or.inr rfl)
    | setData value => exact performed_setData hstatus hkind h
    | setDataFromInput reference => exact performed_setDataFromInput hstatus hkind h

/-! ## Runs -/

/-- The kind of the first builder. -/
def givenKind (calls : List Call) : Kind := calls.head?.elim .none (·.action.slot.kind)

/-- The range of the payload given as bulk data. -/
def givenSplice (calls : List Call) : Option InputSpanRef := calls.findSome? (·.action.reference)

theorem run_append (payload : Bytes) (calls : List Call) (call : Call) :
    run payload (calls ++ [call]) = (run payload calls).act call.action := by
  rw [run, List.foldl_append]
  rfl

theorem givenKind_append (calls : List Call) (call : Call) :
    givenKind (calls ++ [call]) =
      if calls = [] then call.action.slot.kind else givenKind calls := by
  cases calls with
  | nil => rfl
  | cons first calls => rfl

theorem givenSplice_append (calls : List Call) (call : Call) :
    givenSplice (calls ++ [call]) = (givenSplice calls).or call.action.reference := by
  unfold givenSplice
  rw [List.findSome?_append, List.findSome?_singleton]

/-- A writer that has not failed after the calls. -/
structure Built (payload : Bytes) (calls : List Call) (writer : ObjectWriter) : Prop where
  kind : writer.kind = givenKind calls
  started : writer.kind = .none ↔ calls = []
  inputPayload : writer.inputPayload = payload
  splice : writer.splice = givenSplice calls
  spliced : writer.dataSource = .spliced ↔ writer.splice.isSome
  inside : ∀ reference ∈ writer.splice, reference.Inside payload
  /-- All calls were on builders of one kind. -/
  one : ∀ call ∈ calls, call.action.slot.kind = writer.kind

theorem Action.source_eq_spliced {action : Action} :
    action.source = .spliced ↔ action.reference.isSome := by
  obtain ⟨slot, effect⟩ := action
  cases effect with
  | none => simp [Action.source, Action.reference]
  | some effect => cases effect <;> simp [Action.source, Action.reference]

/-- One more call that leaves no error. -/
theorem Built.act {payload : Bytes} {calls : List Call} {writer after : ObjectWriter} {call : Call}
    (hbuilt : Built payload calls writer) (h : writer.Performed call.action after) :
    Built payload (calls ++ [call]) after where
  kind := by
    rw [givenKind_append, h.kind]
    by_cases hcalls : calls = []
    · rw [if_pos hcalls]
    · rw [if_neg hcalls, ← hbuilt.kind]
      exact (h.fresh.resolve_left (mt hbuilt.started.mp hcalls)).symm
  started := by simp [h.kind, call.action.slot.kind_ne]
  inputPayload := h.inputPayload.trans hbuilt.inputPayload
  splice := by
    rw [h.splice, givenSplice_append, ← hbuilt.splice]
    by_cases hspliced : call.action.source = .spliced
    · -- bulk data is given once, so nothing was spliced before
      rw [if_pos hspliced]
      have hsource : writer.dataSource = .none := h.once.resolve_left (by simp [hspliced])
      have hnone : writer.splice = none := by
        rw [← Option.not_isSome_iff_eq_none, ← hbuilt.spliced, hsource]
        decide
      rw [hnone, Option.none_or]
    · rw [if_neg hspliced]
      rw [Action.source_eq_spliced, Option.not_isSome_iff_eq_none] at hspliced
      rw [hspliced, Option.or_none]
  spliced := by
    rw [h.dataSource, h.splice]
    by_cases hspliced : call.action.source = .spliced
    · rw [if_pos hspliced, hspliced, if_neg (by decide)]
      exact iff_of_true rfl (Action.source_eq_spliced.mp hspliced)
    · rw [if_neg hspliced, ← hbuilt.spliced]
      by_cases hnone : call.action.source = .none
      · rw [if_pos hnone]
      · rw [if_neg hnone, h.once.resolve_left hnone]
        exact iff_of_false hspliced (by decide)
  inside := by
    rw [h.splice]
    split
    · rw [← hbuilt.inputPayload]
      exact h.inside
    · exact hbuilt.inside
  one := by
    intro call' hmem
    rcases List.mem_append.mp hmem with hold | hnew
    · have hstarted : writer.kind ≠ .none :=
        mt hbuilt.started.mp (List.ne_nil_of_mem hold)
      rw [hbuilt.one call' hold, h.kind]
      exact h.fresh.resolve_left hstarted
    · rw [List.mem_singleton.mp hnew, h.kind]

theorem run_status_ok {payload : Bytes} {calls : List Call}
    (h : (run payload calls).status = none) : Built payload calls (run payload calls) := by
  induction calls using List.reverseRecOn with
  | nil => exact ⟨rfl, ⟨fun _ => rfl, fun _ => rfl⟩, rfl,
    rfl, by simp [run], by simp [run], by simp⟩
  | append_singleton calls call ih =>
    rw [run_append] at h ⊢
    have hperformed := act_ok h
    exact (ih hperformed.status).act hperformed

/-! ## The wires -/

/-- The bulk data stands on the wire unless it is spliced. -/
def dataField (fieldNumber : Nat) (data : Bytes) (splice : Option InputSpanRef) : Step :=
  whenever (!splice.isSome) (lengthDelimited fieldNumber data)

def flag (value : Bool) : UInt64 := if value then 1 else 0

def writePointCloud (writer : ObjectWriter) : Except String Bytes :=
  writeAll
    [writeTimestamp writer.pointCloud.timestampNs,
     varintField 2 writer.pointCloud.width.toUInt64,
     varintField 3 writer.pointCloud.height.toUInt64,
     varintField 4 writer.pointCloud.pointStep.toUInt64,
     varintField 5 writer.pointCloud.rowStep.toUInt64,
     varintField 6 (flag writer.pointCloud.isBigendian),
     varintField 7 (flag writer.pointCloud.isDense),
     forEach writer.pointCloud.fields fun field =>
       messageField 8
         [stringField 1 field.name, varintField 2 field.offset.toUInt64,
          varintField 3 field.datatype.code.toUInt64, varintField 4 field.count.toUInt64],
     dataField 9 writer.pointCloud.data writer.splice,
     stringField 10 writer.pointCloud.frameId]

def writeImage (writer : ObjectWriter) : Except String Bytes :=
  writeAll
    [writeTimestamp writer.image.timestampNs,
     varintField 2 writer.image.width.toUInt64,
     varintField 3 writer.image.height.toUInt64,
     stringField 4 writer.image.encoding,
     varintField 5 writer.image.rowStep.toUInt64,
     varintField 6 (flag writer.image.isBigendian),
     dataField 7 writer.image.data writer.splice,
     whenever writer.image.hasCompressedDepthMin (fixed32Field 8 writer.image.compressedDepthMin),
     whenever writer.image.hasCompressedDepthMax (fixed32Field 9 writer.image.compressedDepthMax),
     stringField 10 writer.image.frameId]

def writeDepthImage (writer : ObjectWriter) : Except String Bytes :=
  writeAll
    [writeTimestamp writer.depthImage.timestampNs,
     varintField 2 writer.depthImage.width.toUInt64,
     varintField 3 writer.depthImage.height.toUInt64,
     stringField 4 writer.depthImage.encoding,
     dataField 5 writer.depthImage.data writer.splice,
     writePackedDoubles 6 writer.depthImage.intrinsics.toList,
     stringField 7 writer.depthImage.distortionModel,
     writePackedDoubles 8 writer.depthImage.distortion]

def writeOccupancyGrid (writer : ObjectWriter) : Except String Bytes :=
  writeAll
    [writeTimestamp writer.occupancyGrid.timestampNs,
     stringField 2 writer.occupancyGrid.frameId,
     writePose 3 writer.occupancyGrid.origin,
     doubleField 4 writer.occupancyGrid.resolution,
     varintField 5 writer.occupancyGrid.width.toUInt64,
     varintField 6 writer.occupancyGrid.height.toUInt64,
     dataField 7 writer.occupancyGrid.data writer.splice]

def writeCompressedPointCloud (writer : ObjectWriter) : Except String Bytes :=
  writeAll
    [writeTimestamp writer.compressedPointCloud.timestampNs,
     stringField 2 writer.compressedPointCloud.frameId,
     stringField 3 writer.compressedPointCloud.format,
     dataField 4 writer.compressedPointCloud.data writer.splice]

def writeMesh3D (writer : ObjectWriter) : Except String Bytes :=
  writeAll
    [writeTimestamp writer.mesh3d.timestampNs,
     stringField 2 writer.mesh3d.frameId,
     stringField 3 writer.mesh3d.id,
     writePose 4 writer.mesh3d.pose,
     writeVector3 5 writer.mesh3d.scale,
     stringField 6 writer.mesh3d.format,
     dataField 7 writer.mesh3d.data writer.splice,
     stringField 8 writer.mesh3d.url,
     writeColor 9 writer.mesh3d.color,
     varintField 10 (flag writer.mesh3d.overrideColor)]

def writeVideoFrame (writer : ObjectWriter) : Except String Bytes :=
  writeAll
    [writeTimestamp writer.videoFrame.timestampNs,
     stringField 2 writer.videoFrame.frameId,
     dataField 3 writer.videoFrame.data writer.splice,
     stringField 4 writer.videoFrame.format]

def writeOccupancyGridUpdate (writer : ObjectWriter) : Except String Bytes :=
  writeAll
    [writeTimestamp writer.occupancyGridUpdate.timestampNs,
     stringField 2 writer.occupancyGridUpdate.frameId,
     varintField 3 writer.occupancyGridUpdate.x.toUInt32.toUInt64,
     varintField 4 writer.occupancyGridUpdate.y.toUInt32.toUInt64,
     varintField 5 writer.occupancyGridUpdate.width.toUInt64,
     varintField 6 writer.occupancyGridUpdate.height.toUInt64,
     dataField 7 writer.occupancyGridUpdate.data writer.splice]

def writeGridMap (writer : ObjectWriter) : Except String Bytes :=
  writeAll
    [writeTimestamp writer.gridMap.timestampNs,
     stringField 2 writer.gridMap.frameId,
     writePose 3 writer.gridMap.origin,
     writeVector2 4 writer.gridMap.cellSize,
     varintField 5 writer.gridMap.columnCount.toUInt64,
     varintField 6 writer.gridMap.rowCount.toUInt64,
     varintField 7 writer.gridMap.cellStride.toUInt64,
     varintField 8 writer.gridMap.rowStride.toUInt64,
     forEach writer.gridMap.fields (writePointField 9),
     dataField 10 writer.gridMap.data writer.splice]

def writeVoxelGrid (writer : ObjectWriter) : Except String Bytes :=
  writeAll
    [writeTimestamp writer.voxelGrid.timestampNs,
     stringField 2 writer.voxelGrid.frameId,
     writePose 3 writer.voxelGrid.origin,
     writeVector3 4 writer.voxelGrid.cellSize,
     varintField 5 writer.voxelGrid.columnCount.toUInt64,
     varintField 6 writer.voxelGrid.rowCount.toUInt64,
     varintField 7 writer.voxelGrid.sliceCount.toUInt64,
     varintField 8 writer.voxelGrid.cellStride.toUInt64,
     varintField 9 writer.voxelGrid.rowStride.toUInt64,
     varintField 10 writer.voxelGrid.sliceStride.toUInt64,
     forEach writer.voxelGrid.fields (writePointField 11),
     dataField 12 writer.voxelGrid.data writer.splice]

def writeSelected (writer : ObjectWriter) : Except String Bytes :=
  match writer.kind with
  | .pointCloud => writer.writePointCloud
  | .image => writer.writeImage
  | .depthImage => writer.writeDepthImage
  | .occupancyGrid => writer.writeOccupancyGrid
  | .compressedPointCloud => writer.writeCompressedPointCloud
  | .mesh3D => writer.writeMesh3D
  | .videoFrame => writer.writeVideoFrame
  | .occupancyGridUpdate => writer.writeOccupancyGridUpdate
  | .voxelGrid => writer.writeVoxelGrid
  | .gridMap => writer.writeGridMap
  | .none => .error "ObjectWriter has no selected object type"

def selectedObjectType : Kind → UInt16
  | .image => 1
  | .pointCloud => 3
  | .depthImage => 4
  | .occupancyGrid => 7
  | .compressedPointCloud => 8
  | .mesh3D => 9
  | .videoFrame => 10
  | .occupancyGridUpdate => 15
  | .voxelGrid => 18
  | .gridMap => 20
  | .none => 0

def selectedSpliceField : Kind → UInt32
  | .image => 7
  | .pointCloud => 9
  | .depthImage => 5
  | .occupancyGrid => 7
  | .compressedPointCloud => 4
  | .mesh3D => 7
  | .videoFrame => 3
  | .occupancyGridUpdate => 7
  | .voxelGrid => 12
  | .gridMap => 10
  | .none => 0

/-! ## finish -/

def writeHead (writer : ObjectWriter) (wireLength : Nat) : Bytes :=
  appendLittle 1 2 ++ [2] ++ [0] ++ appendLittle (selectedObjectType writer.kind).toNat 2 ++
    appendLittle (if writer.splice.isSome then 1 else 0) 2 ++
    appendLittle (if writer.splice.isSome then (selectedSpliceField writer.kind).toNat else 0) 4 ++
    appendLittle (writer.splice.elim 0 (·.offset.toNat)) 8 ++
    appendLittle (writer.splice.elim 0 (·.length.toNat)) 8 ++ appendLittle wireLength 8

def finish (writer : ObjectWriter) : Except String Bytes :=
  match writer.status with
  | some message => .error message
  | none =>
    if writer.kind = .none then .error "ObjectWriter has no selected object type"
    else
      match writer.writeSelected with
      | .error e => .error e
      | .ok wire => append (writer.writeHead wire.length) wire

/-- The splice a reference stands for. -/
def spliceOf (kind : Kind) (reference : InputSpanRef) : ObjectSpliceV1 :=
  ⟨selectedSpliceField kind, reference.offset, reference.length⟩

/-- The kit writes the bytes the host's writer makes of the same output. -/
theorem finish_ok {writer : ObjectWriter} {block : Bytes} (h : writer.finish = .ok block) :
    writer.status = none ∧ ∃ wire, writer.writeSelected = .ok wire ∧
      writeOutputDescriptorV1 (.object ⟨selectedObjectType writer.kind,
        writer.splice.map (spliceOf writer.kind), wire⟩) = .ok block := by
  unfold finish at h
  cases hstatus : writer.status with
  | some message => simp [hstatus] at h
  | none =>
    simp only [hstatus] at h
    split at h
    · exact absurd h (by simp)
    · cases hwire : writer.writeSelected with
      | error e => simp [hwire] at h
      | ok wire =>
        simp only [hwire] at h
        refine ⟨rfl, wire, rfl, ?_⟩
        -- the head is of a fixed size, and the wire is behind it as it is
        have hhead : (writer.writeHead wire.length).length = 36 := by
          simp [writeHead, appendLittle]
        obtain ⟨rfl, hfits⟩ := append_ok h (by omega)
        rw [List.length_append, hhead] at hfits
        have hlength : (UInt64.ofNat wire.length).toNat = wire.length := by
          rw [UInt64.toNat_ofNat', Nat.mod_eq_of_lt (by omega)]
        have hsum : checkedAdd 36 wire.length = some (36 + wire.length) := by
          unfold checkedAdd
          rw [if_neg (by omega)]
        unfold writeOutputDescriptorV1
        simp only [hsum]
        unfold objectOutputHead writeHead
        dsimp only
        unfold ByteWriter.u64
        rw [hlength]
        cases writer.splice <;> rfl

/-- The host reads the type, the splice and the wire of a finished writer. -/
theorem readOutputDescriptorV1_finish {payload : Bytes} {calls : List Call} {block : Bytes}
    (h : (run payload calls).finish = .ok block) :
    ∃ wire view, (run payload calls).writeSelected = .ok wire ∧
      readOutputDescriptorV1 block = .ok view ∧
        view.map (slice block) = .object ⟨selectedObjectType (givenKind calls),
          (givenSplice calls).map (spliceOf (givenKind calls)), wire⟩ := by
  obtain ⟨hstatus, wire, hwire, hwrite⟩ := finish_ok h
  have hbuilt := run_status_ok hstatus
  rw [hbuilt.kind, hbuilt.splice] at hwrite
  obtain ⟨view, hread, hview⟩ := readOutputDescriptorV1_write hwrite
  exact ⟨wire, view, hwire, hread, hview⟩

end ObjectWriter

/-! ## The kit and the host -/

/-- The two sides read every block alike: what the kit reads, the host reads the
same, and what the kit's writers finish, the host reads as what they were given. -/
theorem kit_blocks_agree :
    (∀ block, (readBindingInfo block).toOption =
      (readBindingInfoV1 block).toOption.map BindingInfo.ofHost) ∧
    (∀ block, (readParseInput block).toOption = (readParseInputV1 block).toOption) ∧
    (∀ calls block, (ScalarWriter.run calls).finish = .ok block →
      ∃ view, readOutputDescriptorV1 block = .ok view ∧
        view.map (slice block) = .scalar ⟨(ScalarWriter.givenTimestamp calls).isSome,
          (ScalarWriter.givenTimestamp calls).getD 0, ScalarWriter.givenFields calls⟩) ∧
    (∀ payload calls block, (ObjectWriter.run payload calls).finish = .ok block →
      ∃ wire view, (ObjectWriter.run payload calls).writeSelected = .ok wire ∧
        readOutputDescriptorV1 block = .ok view ∧
          view.map (slice block) =
            .object ⟨ObjectWriter.selectedObjectType (ObjectWriter.givenKind calls),
              (ObjectWriter.givenSplice calls).map
                (ObjectWriter.spliceOf (ObjectWriter.givenKind calls)), wire⟩) := by
  refine ⟨readBindingInfo_agrees, readParseInput_agrees, ?_, ?_⟩
  · intro calls block h
    exact ScalarWriter.readOutputDescriptorV1_finish h
  · intro payload calls block h
    exact ObjectWriter.readOutputDescriptorV1_finish h

/-- One scalar with a timestamp, and a video frame spliced from four bytes. -/
theorem kit_blocks_agree_frame :
    (∃ view, readOutputDescriptorV1 [1, 0, 1, 0, 1, 0, 0, 0, 0, 0, 0, 0, 5, 0, 0, 0, 0, 0, 0, 0,
        1, 0, 0, 0, 34, 0, 0, 0, 1, 0, 0, 0, 3, 1, 120] = .ok view ∧
      view.map (slice [1, 0, 1, 0, 1, 0, 0, 0, 0, 0, 0, 0, 5, 0, 0, 0, 0, 0, 0, 0,
        1, 0, 0, 0, 34, 0, 0, 0, 1, 0, 0, 0, 3, 1, 120]) =
        .scalar ⟨true, 5, [⟨[120], .bool true⟩]⟩) ∧
    (∃ wire view, (ObjectWriter.run [1, 2, 3, 4]
        [.videoFrame (some (.setDataFromInput ⟨1, 2⟩)),
          .videoFrame (some (.setFormat [104]))]).writeSelected = .ok wire ∧
      readOutputDescriptorV1 [1, 0, 2, 0, 10, 0, 1, 0, 3, 0, 0, 0, 1, 0, 0, 0, 0, 0, 0, 0,
        2, 0, 0, 0, 0, 0, 0, 0, 11, 0, 0, 0, 0, 0, 0, 0,
        10, 4, 8, 0, 16, 0, 18, 0, 34, 1, 104] = .ok view ∧
      view.map (slice [1, 0, 2, 0, 10, 0, 1, 0, 3, 0, 0, 0, 1, 0, 0, 0, 0, 0, 0, 0,
        2, 0, 0, 0, 0, 0, 0, 0, 11, 0, 0, 0, 0, 0, 0, 0,
        10, 4, 8, 0, 16, 0, 18, 0, 34, 1, 104]) = .object ⟨10, some ⟨3, 1, 2⟩, wire⟩) :=
  ⟨kit_blocks_agree.2.2.1 [.add [120] (.bool true) true, .setTimestamp 5] _ rfl,
    kit_blocks_agree.2.2.2 [1, 2, 3, 4] [.videoFrame (some (.setDataFromInput ⟨1, 2⟩)),
      .videoFrame (some (.setFormat [104]))] _ rfl⟩

end PlotJugglerSdk.ParserModule
