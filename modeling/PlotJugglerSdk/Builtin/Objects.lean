import PlotJugglerSdk.Builtin.ProtobufWire

/-!
# Builtin objects

The canonical object types with the defaults of their structs. Strings and
byte spans are the bytes they hold (an anchor only keeps them alive), a
`std::array` is a vector of its length, and doubles are bit patterns.

`FloatOps` is the floating-point arithmetic the codecs do on values they carry:
the two colour conversions and the radius/diameter pair.
-/

namespace PlotJugglerSdk

open Wire

abbrev Timestamp := Int64

namespace F64

def zero : F64 := 0

def one : F64 := 0x3FF0000000000000

def two : F64 := 0x4000000000000000

def fourteen : F64 := 0x402C000000000000

end F64

class FloatOps where
  /-- `static_cast<double>(byte) / 255.0` -/
  byteToNormalized : UInt8 → F64
  /-- `static_cast<uint8_t>(std::clamp(value, 0.0, 1.0) * 255.0 + 0.5)` -/
  normalizedToByte : F64 → UInt8
  /-- `value * 2.0` -/
  twice : F64 → F64
  /-- `value * 0.5` -/
  half : F64 → F64

/-- Every byte survives the way through a normalized double. -/
def FloatOps.ColorExact [FloatOps] : Prop :=
  ∀ byte, normalizedToByte (byteToNormalized byte) = byte

/-! ## Geometry -/

structure Vector2 where
  x : F64 := .zero
  y : F64 := .zero
  deriving DecidableEq

structure Vector3 where
  x : F64 := .zero
  y : F64 := .zero
  z : F64 := .zero
  deriving DecidableEq

structure Point2 where
  x : F64 := .zero
  y : F64 := .zero
  deriving DecidableEq

structure Point3 where
  x : F64 := .zero
  y : F64 := .zero
  z : F64 := .zero
  deriving DecidableEq

structure Quaternion where
  x : F64 := .zero
  y : F64 := .zero
  z : F64 := .zero
  w : F64 := .one
  deriving DecidableEq

structure Pose where
  position : Vector3 := {}
  orientation : Quaternion := {}
  deriving DecidableEq

structure ColorRGBA where
  r : UInt8 := 0
  g : UInt8 := 0
  b : UInt8 := 0
  a : UInt8 := 255
  deriving DecidableEq

/-! ## Images -/

structure Image where
  width : UInt32 := 0
  height : UInt32 := 0
  encoding : Bytes := []
  rowStep : UInt32 := 0
  isBigendian : Bool := false
  data : Bytes := []
  compressedDepthMin : Option F32 := none
  compressedDepthMax : Option F32 := none
  timestampNs : Timestamp := 0
  frameId : Bytes := []
  deriving DecidableEq

structure DepthImage where
  width : UInt32 := 0
  height : UInt32 := 0
  encoding : Bytes := []
  data : Bytes := []
  K : List.Vector F64 9 := .replicate 9 .zero
  distortionModel : Bytes := []
  D : List F64 := []
  timestampNs : Timestamp := 0
  deriving DecidableEq

structure CameraInfo where
  timestampNs : Timestamp := 0
  frameId : Bytes := []
  width : UInt32 := 0
  height : UInt32 := 0
  distortionModel : Bytes := []
  D : List F64 := []
  K : List.Vector F64 9 := .replicate 9 .zero
  R : List.Vector F64 9 := .replicate 9 .zero
  P : List.Vector F64 12 := .replicate 12 .zero
  deriving DecidableEq

structure VideoFrame where
  timestampNs : Timestamp := 0
  frameId : Bytes := []
  format : Bytes := []
  data : Bytes := []
  deriving DecidableEq

/-! ## Point clouds and grids -/

namespace PointField

inductive Datatype where
  | unknown
  | int8
  | uint8
  | int16
  | uint16
  | int32
  | uint32
  | float32
  | float64
  deriving DecidableEq

end PointField

structure PointField where
  name : Bytes := []
  offset : UInt32 := 0
  datatype : PointField.Datatype := .unknown
  count : UInt32 := 1
  deriving DecidableEq

def bytesPerElement : PointField.Datatype → Nat
  | .int8 | .uint8 => 1
  | .int16 | .uint16 => 2
  | .int32 | .uint32 | .float32 => 4
  | .float64 => 8
  | .unknown => 0

structure PointCloud where
  width : UInt32 := 0
  height : UInt32 := 1
  pointStep : UInt32 := 0
  rowStep : UInt32 := 0
  isBigendian : Bool := false
  isDense : Bool := true
  frameId : Bytes := []
  fields : List PointField := []
  data : Bytes := []
  timestampNs : Timestamp := 0
  deriving DecidableEq

structure CompressedPointCloud where
  timestampNs : Timestamp := 0
  frameId : Bytes := []
  format : Bytes := []
  data : Bytes := []
  deriving DecidableEq

structure OccupancyGrid where
  timestampNs : Timestamp := 0
  frameId : Bytes := []
  origin : Pose := {}
  resolution : F64 := .zero
  width : UInt32 := 0
  height : UInt32 := 0
  data : Bytes := []
  deriving DecidableEq

structure OccupancyGridUpdate where
  timestampNs : Timestamp := 0
  frameId : Bytes := []
  x : Int32 := 0
  y : Int32 := 0
  width : UInt32 := 0
  height : UInt32 := 0
  data : Bytes := []
  deriving DecidableEq

structure VoxelGrid where
  timestampNs : Timestamp := 0
  frameId : Bytes := []
  origin : Pose := {}
  cellSize : Vector3 := {}
  columnCount : UInt32 := 0
  rowCount : UInt32 := 0
  sliceCount : UInt32 := 0
  cellStride : UInt32 := 0
  rowStride : UInt32 := 0
  sliceStride : UInt32 := 0
  fields : List PointField := []
  data : Bytes := []
  deriving DecidableEq

structure GridMap where
  timestampNs : Timestamp := 0
  frameId : Bytes := []
  origin : Pose := {}
  cellSize : Vector2 := {}
  columnCount : UInt32 := 0
  rowCount : UInt32 := 0
  cellStride : UInt32 := 0
  rowStride : UInt32 := 0
  fields : List PointField := []
  data : Bytes := []
  deriving DecidableEq

/-! ## Frames, meshes, text -/

structure FrameTransform where
  timestamp : Timestamp := 0
  parentFrameId : Bytes := []
  childFrameId : Bytes := []
  translation : Vector3 := {}
  rotation : Quaternion := {}
  deriving DecidableEq

structure FrameTransforms where
  transforms : List FrameTransform := []
  deriving DecidableEq

structure PosesInFrame where
  timestampNs : Timestamp := 0
  frameId : Bytes := []
  poses : List Pose := []
  deriving DecidableEq

structure Mesh3D where
  timestampNs : Timestamp := 0
  frameId : Bytes := []
  id : Bytes := []
  pose : Pose := {}
  scale : Vector3 := ⟨.one, .one, .one⟩
  format : Bytes := []
  data : Bytes := []
  url : Bytes := []
  color : ColorRGBA := {}
  overrideColor : Bool := false
  deriving DecidableEq

structure RobotDescription where
  timestampNs : Timestamp := 0
  topic : Bytes := []
  format : Bytes := []
  text : Bytes := []
  deriving DecidableEq

namespace Log

inductive Level where
  | unknown
  | debug
  | info
  | warning
  | error
  | fatal
  deriving DecidableEq

end Log

structure Log where
  timestampNs : Timestamp := 0
  level : Log.Level := .unknown
  message : Bytes := []
  name : Bytes := []
  deriving DecidableEq

/-! ## Image annotations -/

inductive AnnotationTopology where
  | points
  | lineList
  | lineStrip
  | lineLoop
  deriving DecidableEq

structure PointsAnnotation where
  topology : AnnotationTopology := .points
  points : List Point2 := []
  thickness : F64 := .two
  color : ColorRGBA := ⟨0, 255, 0, 255⟩
  colors : List ColorRGBA := []
  fillColor : ColorRGBA := ⟨0, 0, 0, 0⟩
  deriving DecidableEq

structure CircleAnnotation where
  center : Point2 := {}
  radius : F64 := .one
  thickness : F64 := .two
  color : ColorRGBA := ⟨0, 255, 0, 255⟩
  fillColor : ColorRGBA := ⟨0, 0, 0, 0⟩
  deriving DecidableEq

structure TextAnnotation where
  position : Point2 := {}
  fontSize : F64 := .fourteen
  color : ColorRGBA := ⟨255, 255, 255, 255⟩
  text : Bytes := []
  deriving DecidableEq

structure ImageAnnotations where
  timestamp : Timestamp := 0
  imageTopic : Bytes := []
  points : List PointsAnnotation := []
  circles : List CircleAnnotation := []
  texts : List TextAnnotation := []
  deriving DecidableEq

/-! ## Scene entities -/

inductive LineType where
  | lineStrip
  | lineLoop
  | lineList
  deriving DecidableEq

structure ArrowPrimitive where
  pose : Pose := {}
  shaftLength : F64 := .zero
  shaftDiameter : F64 := .zero
  headLength : F64 := .zero
  headDiameter : F64 := .zero
  color : ColorRGBA := {}
  deriving DecidableEq

structure CubePrimitive where
  pose : Pose := {}
  size : Vector3 := {}
  color : ColorRGBA := {}
  deriving DecidableEq

structure SpherePrimitive where
  pose : Pose := {}
  size : Vector3 := {}
  color : ColorRGBA := {}
  deriving DecidableEq

structure CylinderPrimitive where
  pose : Pose := {}
  size : Vector3 := {}
  bottomScale : F64 := .one
  topScale : F64 := .one
  color : ColorRGBA := {}
  deriving DecidableEq

structure LinePrimitive where
  type : LineType := .lineStrip
  pose : Pose := {}
  thickness : F64 := .zero
  scaleInvariant : Bool := false
  points : List Point3 := []
  color : ColorRGBA := {}
  colors : List ColorRGBA := []
  indices : List UInt32 := []
  deriving DecidableEq

structure TrianglePrimitive where
  pose : Pose := {}
  points : List Point3 := []
  color : ColorRGBA := {}
  colors : List ColorRGBA := []
  indices : List UInt32 := []
  deriving DecidableEq

structure TextPrimitive where
  pose : Pose := {}
  billboard : Bool := false
  fontSize : F64 := .zero
  scaleInvariant : Bool := false
  color : ColorRGBA := {}
  text : Bytes := []
  deriving DecidableEq

structure AxesPrimitive where
  pose : Pose := {}
  length : F64 := .zero
  thickness : F64 := .zero
  scaleInvariant : Bool := false
  deriving DecidableEq

structure ModelPrimitive where
  pose : Pose := {}
  scale : Vector3 := {}
  color : ColorRGBA := {}
  overrideColor : Bool := false
  url : Bytes := []
  mediaType : Bytes := []
  data : Bytes := []
  deriving DecidableEq

structure KeyValuePair where
  key : Bytes := []
  value : Bytes := []
  deriving DecidableEq

structure SceneEntity where
  timestamp : Timestamp := 0
  frameId : Bytes := []
  id : Bytes := []
  lifetimeNs : Int64 := 0
  frameLocked : Bool := false
  metadata : List KeyValuePair := []
  arrows : List ArrowPrimitive := []
  cubes : List CubePrimitive := []
  spheres : List SpherePrimitive := []
  cylinders : List CylinderPrimitive := []
  lines : List LinePrimitive := []
  triangles : List TrianglePrimitive := []
  texts : List TextPrimitive := []
  models : List ModelPrimitive := []
  axes : List AxesPrimitive := []
  deriving DecidableEq

namespace SceneEntityDeletion

inductive Kind where
  | matchingId
  | all
  deriving DecidableEq

end SceneEntityDeletion

structure SceneEntityDeletion where
  type : SceneEntityDeletion.Kind := .matchingId
  timestamp : Timestamp := 0
  id : Bytes := []
  deriving DecidableEq

structure SceneEntities where
  entities : List SceneEntity := []
  deletions : List SceneEntityDeletion := []
  deriving DecidableEq

/-! ## Plot markers -/

inductive MarkerKind where
  | region
  | event
  | valueBand
  | label
  deriving DecidableEq

inductive MarkerStatus where
  | none
  | pass
  | fail
  deriving DecidableEq

inductive MarkerSeverity where
  | info
  | warning
  | error
  | critical
  deriving DecidableEq

structure MarkerProperty where
  key : Bytes := []
  value : Bytes := []
  deriving DecidableEq

structure PlotMarker where
  kind : MarkerKind := .region
  tStart : Timestamp := 0
  tEnd : Timestamp := 0
  valueLow : F64 := .zero
  valueHigh : F64 := .zero
  hasValue : Bool := false
  status : MarkerStatus := .none
  severity : MarkerSeverity := .info
  category : Bytes := []
  label : Bytes := []
  description : Bytes := []
  color : ColorRGBA := ⟨0, 0, 0, 0⟩
  metadata : List MarkerProperty := []
  deriving DecidableEq

structure PlotMarkers where
  markers : List PlotMarker := []
  deriving DecidableEq

/-! ## The erased object -/

inductive BuiltinObjectType where
  | none
  | image
  | pointCloud
  | depthImage
  | imageAnnotations
  | frameTransforms
  | occupancyGrid
  | compressedPointCloud
  | mesh3D
  | videoFrame
  | sceneEntities
  | robotDescription
  | cameraInfo
  | occupancyGridUpdate
  | log
  | posesInFrame
  | voxelGrid
  | plotMarkers
  | gridMap
  deriving DecidableEq

namespace BuiltinObjectType

/-- The number of a type in the ABI; 2 and 12 are retired. -/
def code : BuiltinObjectType → UInt16
  | none => 0
  | image => 1
  | pointCloud => 3
  | depthImage => 4
  | imageAnnotations => 5
  | frameTransforms => 6
  | occupancyGrid => 7
  | compressedPointCloud => 8
  | mesh3D => 9
  | videoFrame => 10
  | sceneEntities => 11
  | robotDescription => 13
  | cameraInfo => 14
  | occupancyGridUpdate => 15
  | log => 16
  | posesInFrame => 17
  | voxelGrid => 18
  | plotMarkers => 19
  | gridMap => 20

/-- The enumerator of a number, if it has one. -/
def ofCode (code : UInt16) : Option BuiltinObjectType :=
  match code.toNat with
  | 0 => some .none
  | 1 => some .image
  | 3 => some .pointCloud
  | 4 => some .depthImage
  | 5 => some .imageAnnotations
  | 6 => some .frameTransforms
  | 7 => some .occupancyGrid
  | 8 => some .compressedPointCloud
  | 9 => some .mesh3D
  | 10 => some .videoFrame
  | 11 => some .sceneEntities
  | 13 => some .robotDescription
  | 14 => some .cameraInfo
  | 15 => some .occupancyGridUpdate
  | 16 => some .log
  | 17 => some .posesInFrame
  | 18 => some .voxelGrid
  | 19 => some .plotMarkers
  | 20 => some .gridMap
  | _ => Option.none

end BuiltinObjectType

/-- An object holder; it may be empty. -/
inductive BuiltinObject where
  | none
  | image (value : Image)
  | pointCloud (value : PointCloud)
  | depthImage (value : DepthImage)
  | imageAnnotations (value : ImageAnnotations)
  | frameTransforms (value : FrameTransforms)
  | occupancyGrid (value : OccupancyGrid)
  | compressedPointCloud (value : CompressedPointCloud)
  | mesh3D (value : Mesh3D)
  | videoFrame (value : VideoFrame)
  | sceneEntities (value : SceneEntities)
  | robotDescription (value : RobotDescription)
  | cameraInfo (value : CameraInfo)
  | occupancyGridUpdate (value : OccupancyGridUpdate)
  | log (value : Log)
  | posesInFrame (value : PosesInFrame)
  | voxelGrid (value : VoxelGrid)
  | plotMarkers (value : PlotMarkers)
  | gridMap (value : GridMap)
  deriving DecidableEq

def typeOf : BuiltinObject → BuiltinObjectType
  | .none => .none
  | .image _ => .image
  | .pointCloud _ => .pointCloud
  | .depthImage _ => .depthImage
  | .imageAnnotations _ => .imageAnnotations
  | .frameTransforms _ => .frameTransforms
  | .occupancyGrid _ => .occupancyGrid
  | .compressedPointCloud _ => .compressedPointCloud
  | .mesh3D _ => .mesh3D
  | .videoFrame _ => .videoFrame
  | .sceneEntities _ => .sceneEntities
  | .robotDescription _ => .robotDescription
  | .cameraInfo _ => .cameraInfo
  | .occupancyGridUpdate _ => .occupancyGridUpdate
  | .log _ => .log
  | .posesInFrame _ => .posesInFrame
  | .voxelGrid _ => .voxelGrid
  | .plotMarkers _ => .plotMarkers
  | .gridMap _ => .gridMap

end PlotJugglerSdk
