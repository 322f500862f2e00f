import PlotJugglerSdk.Builtin.DoubleArithmetic
import PlotJugglerSdk.Builtin.Messages

/-!
# The codec of any builtin object

`serializeBuiltinObject` and `deserializeBuiltinObject` dispatch on the object
type. `ObjectCodec` is what the types have in common: a field loop, the default
object it starts from, and a check of the finished object (which only the grid
map has). `deserializeBuiltinObject_ok` reads every decoder, empty buffer
included, as that; the round trip is
`deserializeBuiltinObject_serializeBuiltinObject`.
-/

namespace PlotJugglerSdk

open Wire FloatOps

variable {α : Type}

/-! ## Dispatch -/

section Dispatch

variable [FloatOps]

def serializeBuiltinObject : BuiltinObject → Except String Bytes
  | .image value => .ok (serializeImage value)
  | .pointCloud value => .ok (serializePointCloud value)
  | .depthImage value => .ok (serializeDepthImage value)
  | .imageAnnotations value => .ok (serializeImageAnnotations value)
  | .frameTransforms value => .ok (serializeFrameTransforms value)
  | .occupancyGrid value => .ok (serializeOccupancyGrid value)
  | .compressedPointCloud value => .ok (serializeCompressedPointCloud value)
  | .mesh3D value => .ok (serializeMesh3D value)
  | .videoFrame value => .ok (serializeVideoFrame value)
  | .sceneEntities value => .ok (serializeSceneEntities value)
  | .robotDescription value => .ok (serializeRobotDescription value)
  | .cameraInfo value => .ok (serializeCameraInfo value)
  | .occupancyGridUpdate value => .ok (serializeOccupancyGridUpdate value)
  | .log value => .ok (serializeLog value)
  | .posesInFrame value => .ok (serializePosesInFrame value)
  | .voxelGrid value => .ok (serializeVoxelGrid value)
  | .plotMarkers value => .ok (serializePlotMarkers value)
  | .gridMap value => .ok (serializeGridMap value)
  | .none => .error "cannot serialize builtin object with type kNone"

/-- An empty buffer is the default object of any type, whatever its own codec
says to it. -/
def deserializeAs (init : α) (erase : α → BuiltinObject) (deserialize : Bytes → Except String α)
    (data : Bytes) : Except String BuiltinObject :=
  if data = [] then .ok (erase init) else (deserialize data).map erase

def deserializeBuiltinObject : BuiltinObjectType → Bytes → Except String BuiltinObject
  | .image => deserializeAs {} .image deserializeImage
  | .pointCloud => deserializeAs {} .pointCloud deserializePointCloud
  | .depthImage => deserializeAs {} .depthImage deserializeDepthImage
  | .imageAnnotations => deserializeAs {} .imageAnnotations deserializeImageAnnotations
  | .frameTransforms => deserializeAs {} .frameTransforms deserializeFrameTransforms
  | .occupancyGrid => deserializeAs {} .occupancyGrid deserializeOccupancyGrid
  | .compressedPointCloud => deserializeAs {} .compressedPointCloud deserializeCompressedPointCloud
  | .mesh3D => deserializeAs {} .mesh3D deserializeMesh3D
  | .videoFrame => deserializeAs {} .videoFrame deserializeVideoFrame
  | .sceneEntities => deserializeAs {} .sceneEntities deserializeSceneEntities
  | .robotDescription => deserializeAs {} .robotDescription deserializeRobotDescription
  | .cameraInfo => deserializeAs {} .cameraInfo deserializeCameraInfo
  | .occupancyGridUpdate => deserializeAs {} .occupancyGridUpdate deserializeOccupancyGridUpdate
  | .log => deserializeAs {} .log deserializeLog
  | .posesInFrame => deserializeAs {} .posesInFrame deserializePosesInFrame
  | .voxelGrid => deserializeAs {} .voxelGrid deserializeVoxelGrid
  | .plotMarkers => deserializeAs {} .plotMarkers deserializePlotMarkers
  | .gridMap => deserializeAs {} .gridMap deserializeGridMap
  | .none => fun _ => .error "cannot deserialize builtin object with type kNone"

/-- The dispatcher on a type number that came in from outside. -/
def deserializeBuiltinObjectCode (code : UInt16) (data : Bytes) : Except String BuiltinObject :=
  match BuiltinObjectType.ofCode code with
  | some type => deserializeBuiltinObject type data
  | none => .error ("cannot deserialize unknown builtin object type: " ++ toString code.toNat)

end Dispatch

/-! ## What the codecs have in common -/

structure ObjectCodec [FloatOps] where
  message : MessageType
  init : (messageCodec message).Value
  erase : (messageCodec message).Value → BuiltinObject
  /-- Whether the decoder lets the finished object pass. -/
  passes : (messageCodec message).Value → Prop

/-- A grid map is checked without its data when it came without any. -/
def GridMap.Passes (grid : GridMap) : Prop := validateLayout grid (!grid.data.isEmpty) = .ok ()

section Codecs

variable [FloatOps]

def ObjectCodec.unchecked (message : MessageType) (init : (messageCodec message).Value)
    (erase : (messageCodec message).Value → BuiltinObject) : ObjectCodec :=
  ⟨message, init, erase, fun _ => True⟩

def objectCodec : BuiltinObjectType → Option ObjectCodec
  | .none => none
  | .image => some (.unchecked .image ({} : Image) .image)
  | .pointCloud => some (.unchecked .pointCloud ({} : PointCloud) .pointCloud)
  | .depthImage => some (.unchecked .depthImage ({} : DepthImage) .depthImage)
  | .imageAnnotations =>
    some (.unchecked .imageAnnotations ({} : ImageAnnotations) .imageAnnotations)
  | .frameTransforms => some (.unchecked .frameTransforms ({} : FrameTransforms) .frameTransforms)
  | .occupancyGrid => some (.unchecked .occupancyGrid ({} : OccupancyGrid) .occupancyGrid)
  | .compressedPointCloud =>
    some (.unchecked .compressedPointCloud ({} : CompressedPointCloud) .compressedPointCloud)
  | .mesh3D => some (.unchecked .mesh3D ({} : Mesh3D) .mesh3D)
  | .videoFrame => some (.unchecked .videoFrame ({} : VideoFrame) .videoFrame)
  | .sceneEntities => some (.unchecked .sceneEntities ({} : SceneEntities) .sceneEntities)
  | .robotDescription =>
    some (.unchecked .robotDescription ({} : RobotDescription) .robotDescription)
  | .cameraInfo => some (.unchecked .cameraInfo ({} : CameraInfo) .cameraInfo)
  | .occupancyGridUpdate =>
    some (.unchecked .occupancyGridUpdate ({} : OccupancyGridUpdate) .occupancyGridUpdate)
  | .log => some (.unchecked .log ({} : Log) .log)
  | .posesInFrame => some (.unchecked .posesInFrame ({} : PosesInFrame) .posesInFrame)
  | .voxelGrid => some (.unchecked .voxelGrid ({} : VoxelGrid) .voxelGrid)
  | .plotMarkers => some (.unchecked .plotMarkers ({} : PlotMarkers) .plotMarkers)
  | .gridMap => some ⟨.gridMap, ({} : GridMap), .gridMap, GridMap.Passes⟩

/-- The object a codec makes of a buffer. -/
def ObjectCodec.Decodes (codec : ObjectCodec) (data : Bytes) (object : BuiltinObject) : Prop :=
  ∃ value, (messageCodec codec.message).decoder data codec.init = (true, value) ∧
    codec.passes value ∧ codec.erase value = object

end Codecs

/-- The same of a bare field loop. -/
def FieldLoop.Decodes (loop : FieldLoop α) (init : α) (erase : α → BuiltinObject)
    (passes : α → Prop) (data : Bytes) (object : BuiltinObject) : Prop :=
  ∃ value, loop.decode data init = (true, value) ∧ passes value ∧ erase value = object

theorem deserializeAs_ok {init : α} {erase : α → BuiltinObject}
    {deserialize : Bytes → Except String α} {loop : FieldLoop α} {passes : α → Prop} {data : Bytes}
    {object : BuiltinObject} (hinit : passes init)
    (hok : ∀ value, data ≠ [] → (deserialize data = .ok value ↔
      loop.decode data init = (true, value) ∧ passes value)) :
    deserializeAs init erase deserialize data = .ok object ↔
      loop.Decodes init erase passes data object := by
  rw [deserializeAs, FieldLoop.Decodes]
  by_cases hempty : data = []
  · subst hempty
    simp [hinit]
  · rw [if_neg hempty]
    constructor
    · intro h
      cases hdata : deserialize data with
      | error e => simp [hdata, Except.map] at h
      | ok value =>
        obtain ⟨hdecode, hpasses⟩ := (hok value hempty).mp hdata
        rw [hdata] at h
        exact ⟨value, hdecode, hpasses, Except.ok.inj h⟩
    · rintro ⟨value, hdecode, hpasses, rfl⟩
      rw [(hok value hempty).mpr ⟨hdecode, hpasses⟩]
      rfl

theorem deserializeAs_with {name : String} {loop : FieldLoop α} {init : α}
    {erase : α → BuiltinObject} {data : Bytes} {object : BuiltinObject} :
    deserializeAs init erase (deserializeWith name loop init) data = .ok object ↔
      loop.Decodes init erase (fun _ => True) data object := by
  refine deserializeAs_ok trivial fun value hne => ?_
  rw [deserializeWith_ok]
  simp [hne]

theorem deserializeAs_batch {name : String} {badLength refused : Nat → String}
    {table : List (FieldDecl α)} (htypes : ∀ decl ∈ table, decl.type = .lengthDelimited) {init : α}
    {erase : α → BuiltinObject} {data : Bytes} {object : BuiltinObject} :
    deserializeAs init erase (deserializeBatch name badLength refused table init) data =
        .ok object ↔
      (FieldLoop.strict table).Decodes init erase (fun _ => True) data object := by
  refine deserializeAs_ok trivial fun value hne => ?_
  rw [deserializeBatch_ok htypes]
  simp [hne]

theorem deserializeAs_plotMarkers [FloatOps] {data : Bytes} {object : BuiltinObject} :
    deserializeAs {} .plotMarkers deserializePlotMarkers data = .ok object ↔
      plotMarkersLoop.Decodes {} .plotMarkers (fun _ => True) data object := by
  have htypes : ∀ decl ∈ plotMarkersFields, decl.type = .lengthDelimited := by
    simp [plotMarkersFields, FieldDecl.repeated]
  refine deserializeAs_ok trivial fun value _ => ?_
  rw [and_true]
  exact batchFieldsWithin_ok htypes

theorem deserializeAs_gridMap {data : Bytes} {object : BuiltinObject} :
    deserializeAs {} .gridMap deserializeGridMap data = .ok object ↔
      gridMapLoop.Decodes {} .gridMap GridMap.Passes data object := by
  refine deserializeAs_ok rfl fun value hne => ?_
  rw [deserializeGridMap, GridMap.Passes]
  cases hwith : deserializeWith "GridMap" gridMapLoop {} data with
  | error e =>
    have hnot : gridMapLoop.decode data {} ≠ (true, value) := fun hdecode => by
      rw [deserializeWith_ok.mpr ⟨hne, hdecode⟩] at hwith
      exact absurd hwith (by simp)
    simp [hnot]
  | ok grid =>
    have hgrid : gridMapLoop.decode data {} = (true, grid) := (deserializeWith_ok.mp hwith).2
    simp only [hgrid, Prod.mk.injEq, true_and]
    cases hlayout : validateLayout grid (!grid.data.isEmpty) with
    | error e =>
      simp only [reduceCtorEq, false_iff, not_and]
      rintro rfl
      rw [hlayout]
      simp
    | ok u =>
      simp only [Except.ok.injEq]
      exact ⟨fun h => ⟨h, by rw [← h, hlayout]⟩, And.left⟩

/-- Every decoder, read as a field loop from the default object. -/
theorem deserializeBuiltinObject_ok [FloatOps] {type : BuiltinObjectType} {data : Bytes}
    {object : BuiltinObject} :
    deserializeBuiltinObject type data = .ok object ↔
      ∃ codec, objectCodec type = some codec ∧ codec.Decodes data object := by
  cases type <;> simp only [objectCodec, Option.some.injEq, exists_eq_left', reduceCtorEq,
    false_and, exists_false]
  case none => simp [deserializeBuiltinObject]
  case frameTransforms => exact deserializeAs_batch (by simp [frameTransformsFields, FieldDecl.repeated])
  case sceneEntities => exact deserializeAs_batch (by simp [sceneEntitiesFields, FieldDecl.repeated])
  case imageAnnotations =>
    exact deserializeAs_batch (by
      simp [imageAnnotationsFields, FieldDecl.repeated, FieldDecl.message, FieldDecl.bytes])
  case plotMarkers => exact deserializeAs_plotMarkers
  case gridMap => exact deserializeAs_gridMap
  all_goals exact deserializeAs_with

/-! ## Round trip -/

/-- Objects that pass the decoder's check, with radii that survive being
written as diameters. -/
structure BuiltinObject.Codable [FloatOps] (object : BuiltinObject) : Prop where
  typed : typeOf object ≠ .none
  layout : ∀ grid, object = .gridMap grid → validateGridMap grid = .ok ()
  radius : ∀ annotations, object = .imageAnnotations annotations →
    ∀ circle ∈ annotations.circles, half (twice circle.radius) = circle.radius

/-- Whatever the writers leave out the decoders put back: an object decodes
from its serialization, for buffers of any 64-bit size. -/
theorem deserializeBuiltinObject_serializeBuiltinObject [FloatOps] (hexact : ColorExact)
    {object : BuiltinObject} (hobject : object.Codable) :
    ∃ wire, serializeBuiltinObject object = .ok wire ∧
      (wire.length < 2 ^ 64 → deserializeBuiltinObject (typeOf object) wire = .ok object) := by
  simp only [deserializeBuiltinObject_ok]
  -- one codec for each kind of object; two of them need what the object promises
  cases object with
  | none => exact absurd rfl hobject.typed
  | image value =>
    exact ⟨_, rfl, fun hlen => ⟨_, rfl, value, imageLoop_serializeImage hlen, trivial, rfl⟩⟩
  | pointCloud value =>
    exact ⟨_, rfl,
      fun hlen => ⟨_, rfl, value, pointCloudLoop_serializePointCloud hlen, trivial, rfl⟩⟩
  | depthImage value =>
    exact ⟨_, rfl,
      fun hlen => ⟨_, rfl, value, depthImageLoop_serializeDepthImage hlen, trivial, rfl⟩⟩
  | imageAnnotations value =>
    exact ⟨_, rfl, fun hlen => ⟨_, rfl, value,
      imageAnnotationsLoop_serializeImageAnnotations hexact (hobject.radius value rfl) hlen,
      trivial, rfl⟩⟩
  | frameTransforms value =>
    exact ⟨_, rfl, fun hlen => ⟨_, rfl, value, frameTransformsLoop_serializeFrameTransforms hlen,
      trivial, rfl⟩⟩
  | occupancyGrid value =>
    exact ⟨_, rfl, fun hlen => ⟨_, rfl, value, occupancyGridLoop_serializeOccupancyGrid hlen,
      trivial, rfl⟩⟩
  | compressedPointCloud value =>
    exact ⟨_, rfl, fun hlen => ⟨_, rfl, value, compressedPointCloudLoop_serialize hlen,
      trivial, rfl⟩⟩
  | mesh3D value =>
    exact ⟨_, rfl, fun hlen => ⟨_, rfl, value, mesh3DLoop_serializeMesh3D hexact hlen,
      trivial, rfl⟩⟩
  | videoFrame value =>
    exact ⟨_, rfl, fun hlen => ⟨_, rfl, value, videoFrameLoop_serializeVideoFrame hlen,
      trivial, rfl⟩⟩
  | sceneEntities value =>
    exact ⟨_, rfl, fun hlen => ⟨_, rfl, value,
      sceneEntitiesLoop_serializeSceneEntities hexact hlen, trivial, rfl⟩⟩
  | robotDescription value =>
    exact ⟨_, rfl, fun hlen => ⟨_, rfl, value, robotDescriptionLoop_serialize hlen, trivial, rfl⟩⟩
  | cameraInfo value =>
    exact ⟨_, rfl, fun hlen => ⟨_, rfl, value, cameraInfoLoop_serializeCameraInfo hlen,
      trivial, rfl⟩⟩
  | occupancyGridUpdate value =>
    exact ⟨_, rfl, fun hlen => ⟨_, rfl, value, occupancyGridUpdateLoop_serialize hlen,
      trivial, rfl⟩⟩
  | log value =>
    exact ⟨_, rfl, fun hlen => ⟨_, rfl, value, logLoop_serializeLog hlen, trivial, rfl⟩⟩
  | posesInFrame value =>
    exact ⟨_, rfl, fun hlen => ⟨_, rfl, value, posesInFrameLoop_serializePosesInFrame hlen,
      trivial, rfl⟩⟩
  | voxelGrid value =>
    exact ⟨_, rfl, fun hlen => ⟨_, rfl, value, voxelGridLoop_serializeVoxelGrid hlen,
      trivial, rfl⟩⟩
  | plotMarkers value =>
    exact ⟨_, rfl, fun hlen => ⟨_, rfl, value, plotMarkersLoop_serializePlotMarkers hexact hlen,
      trivial, rfl⟩⟩
  | gridMap value =>
    exact ⟨_, rfl, fun hlen => ⟨_, rfl, value, gridMapLoop_serializeGridMap hlen,
      validateLayout_of_true (hobject.layout value rfl) _, rfl⟩⟩

/-- One nanosecond before the epoch, and a circle in a colour of its own. -/
def sampleCircle : BuiltinObject :=
  .imageAnnotations
    { timestamp := -1
      circles := [{ center := ⟨.one, .two⟩, radius := .two, fillColor := ⟨10, 127, 128, 254⟩ }] }

theorem deserializeBuiltinObject_serializeBuiltinObject_circle :
    ∃ wire, @serializeBuiltinObject binary64 sampleCircle = .ok wire ∧
      @deserializeBuiltinObject binary64 .imageAnnotations wire = .ok sampleCircle := by
  have hradius : ∀ annotations, sampleCircle = .imageAnnotations annotations →
      ∀ circle ∈ annotations.circles, binary64.half (binary64.twice circle.radius) =
        circle.radius := by
    intro annotations hannotations
    rw [sampleCircle, BuiltinObject.imageAnnotations.injEq] at hannotations
    subst hannotations
    decide +kernel
  obtain ⟨wire, hwire, hround⟩ :=
    @deserializeBuiltinObject_serializeBuiltinObject binary64 colorExact_binary64 sampleCircle
      (@BuiltinObject.Codable.mk binary64 _ (by decide) (by simp [sampleCircle]) hradius)
  have hlen : wire.length < 2 ^ 64 := by
    obtain rfl := Except.ok.inj hwire
    decide +kernel
  exact ⟨wire, hwire, hround hlen⟩

end PlotJugglerSdk
