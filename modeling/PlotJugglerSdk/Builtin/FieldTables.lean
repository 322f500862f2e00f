import PlotJugglerSdk.Builtin.FieldTable

/-!
# The described types

The field tables of the objects (`*_fields.hpp`) and the registry that finds the one of a type
(`field_table_registry.hpp`). Each table comes with what the generic copy makes of an object that
it is given: a member that a table leaves out, has under another member's accessors or twice would
be lost there.

* `fieldTables_copy` — the copy is the object, but for the singles of an image, which come back
  quiet and are left alone where there are none
-/

namespace PlotJugglerSdk

open Wire
open Json (text)

/-! ## Buffers -/

def depthImageDatatype (encoding : Bytes) : PointField.Datatype :=
  if encoding = text "16UC1" then .uint16
  else if encoding = text "32FC1" then .float32
  else .unknown

def depthImageBuffer (image : DepthImage) : BufferLayout UInt64 :=
  let datatype := depthImageDatatype image.encoding
  let bpp : UInt32 := .ofNat (bytesPerElement datatype)
  let fits := rowsFitIn image.height.toUInt64 (image.width.toUInt64 * bpp.toUInt64) 0
    (.ofNat image.data.length)
  { bytes := image.data
    recordStep := bpp
    recordCount := if bpp = 0 ∨ ¬ fits then 0 else image.width.toUInt64 * image.height.toUInt64
    rowStep := if bpp = 0 then 0 else image.width * bpp
    isBigendian := false
    channels :=
      [⟨image.encoding, 0, (pointFieldDatatypeToWire datatype).toUInt8, if bpp = 0 then 0 else 1⟩] }

/-- A frame has no records, only a format. -/
def videoFrameBuffer (frame : VideoFrame) : BufferLayout UInt64 :=
  { bytes := frame.data
    recordStep := 0
    recordCount := 0
    rowStep := 0
    isBigendian := false
    channels := [⟨frame.format, 0, 0, 0⟩] }

/-! A buffer that is read for its bytes gives the payload, whatever its records are. -/

@[simp] theorem imageBuffer_bytes (image : Image) : (imageBuffer image).bytes = image.data := rfl

@[simp] theorem depthImageBuffer_bytes (image : DepthImage) :
    (depthImageBuffer image).bytes = image.data := rfl

@[simp] theorem pointCloudBuffer_bytes (cloud : PointCloud) :
    (pointCloudBuffer cloud).bytes = cloud.data := rfl

@[simp] theorem videoFrameBuffer_bytes (frame : VideoFrame) :
    (videoFrameBuffer frame).bytes = frame.data := rfl

@[simp] theorem voxelGridBuffer_bytes (grid : VoxelGrid) :
    (voxelGridBuffer grid).bytes = grid.data := rfl

/-! ## Enumerations -/

/-- An enumeration whose values count from 0. -/
def ScalarAccess.ofValues {ν : Type} [DecidableEq ν] (values : List ν) : ScalarAccess ν :=
  .ofEnum (fun value => .ofNat (values.idxOf value)) fun code => values[code.toNat]?

def AnnotationTopology.access : ScalarAccess AnnotationTopology :=
  .ofValues [.points, .lineList, .lineStrip, .lineLoop]

def LineType.access : ScalarAccess LineType := .ofValues [.lineStrip, .lineLoop, .lineList]

def SceneEntityDeletion.Kind.access : ScalarAccess SceneEntityDeletion.Kind :=
  .ofValues [.matchingId, .all]

def PointField.Datatype.access : ScalarAccess PointField.Datatype :=
  .ofValues [.unknown, .int8, .uint8, .int16, .uint16, .int32, .uint32, .float32, .float64]

theorem copyScalar_ofValues {ν : Type} [DecidableEq ν] {values : List ν}
    (hall : ∀ value, value ∈ values) (hfew : values.length ≤ 256) (src dst : ν) :
    copyScalar (.ofValues values) src dst = src := by
  refine copyScalar_ofEnum (fun value => ?_) src dst
  have hlt : values.idxOf value < values.length := List.idxOf_lt_length_of_mem (hall value)
  have hcode : (UInt8.ofNat (values.idxOf value)).toNat = values.idxOf value :=
    UInt8.toNat_ofNat_of_lt' (hlt.trans_le hfew)
  rw [hcode, List.getElem?_eq_getElem hlt, List.getElem_idxOf]

@[simp] theorem AnnotationTopology.copies (src dst : AnnotationTopology) :
    copyScalar AnnotationTopology.access src dst = src :=
  copyScalar_ofValues (by rintro ⟨⟩ <;> decide) (by decide) src dst

@[simp] theorem LineType.copies (src dst : LineType) :
    copyScalar LineType.access src dst = src :=
  copyScalar_ofValues (by rintro ⟨⟩ <;> decide) (by decide) src dst

@[simp] theorem SceneEntityDeletion.Kind.copies (src dst : SceneEntityDeletion.Kind) :
    copyScalar SceneEntityDeletion.Kind.access src dst = src :=
  copyScalar_ofValues (by rintro ⟨⟩ <;> decide) (by decide) src dst

@[simp] theorem PointField.Datatype.copies (src dst : PointField.Datatype) :
    copyScalar PointField.Datatype.access src dst = src :=
  copyScalar_ofValues (by rintro ⟨⟩ <;> decide) (by decide) src dst

/-! ## Tables -/

/-! ### Frame transforms -/

def Vector3.fieldTable : FieldTable Vector3 := .ofList
  [.scalar "x" (.mk (·.x) fun x v => { v with x }) .ofDouble,
   .scalar "y" (.mk (·.y) fun y v => { v with y }) .ofDouble,
   .scalar "z" (.mk (·.z) fun z v => { v with z }) .ofDouble]

@[simp] theorem Vector3.copies : Vector3.fieldTable.Copies := fun _ _ => by simp [fieldTable]

def Quaternion.fieldTable : FieldTable Quaternion := .ofList
  [.scalar "x" (.mk (·.x) fun x q => { q with x }) .ofDouble,
   .scalar "y" (.mk (·.y) fun y q => { q with y }) .ofDouble,
   .scalar "z" (.mk (·.z) fun z q => { q with z }) .ofDouble,
   .scalar "w" (.mk (·.w) fun w q => { q with w }) .ofDouble]

@[simp] theorem Quaternion.copies : Quaternion.fieldTable.Copies := fun _ _ => by simp [fieldTable]

def Pose.fieldTable : FieldTable Pose := .ofList
  [.struct "position" (.mk (·.position) fun position p => { p with position }) Vector3.fieldTable,
   .struct "orientation"
     (.mk (·.orientation) fun orientation p => { p with orientation }) Quaternion.fieldTable]

@[simp] theorem Pose.copies : Pose.fieldTable.Copies := fun _ _ => by simp [fieldTable]

def FrameTransform.fieldTable : FieldTable FrameTransform := .ofList
  [.scalar "timestamp" (.mk (·.timestamp) fun timestamp t => { t with timestamp }) .ofInt64,
   .scalar "parent_frame_id"
     (.mk (·.parentFrameId) fun parentFrameId t => { t with parentFrameId }) .ofString,
   .scalar "child_frame_id"
     (.mk (·.childFrameId) fun childFrameId t => { t with childFrameId }) .ofString,
   .struct "translation"
     (.mk (·.translation) fun translation t => { t with translation }) Vector3.fieldTable,
   .struct "rotation"
     (.mk (·.rotation) fun rotation t => { t with rotation }) Quaternion.fieldTable]

@[simp] theorem FrameTransform.copies : FrameTransform.fieldTable.Copies := fun _ _ => by
  simp [fieldTable]

def FrameTransforms.fieldTable : FieldTable FrameTransforms := .ofList
  [.structList "transforms"
     (.mk (·.transforms) fun transforms t => { t with transforms }) {} FrameTransform.fieldTable]

@[simp] theorem FrameTransforms.copies : FrameTransforms.fieldTable.Copies := fun _ _ => by
  simp [fieldTable]

/-! ### Image annotations -/

def Point2.fieldTable : FieldTable Point2 := .ofList
  [.scalar "x" (.mk (·.x) fun x p => { p with x }) .ofDouble,
   .scalar "y" (.mk (·.y) fun y p => { p with y }) .ofDouble]

@[simp] theorem Point2.copies : Point2.fieldTable.Copies := fun _ _ => by simp [fieldTable]

def ColorRGBA.fieldTable : FieldTable ColorRGBA := .ofList
  [.scalar "r" (.mk (·.r) fun r c => { c with r }) .ofUInt8,
   .scalar "g" (.mk (·.g) fun g c => { c with g }) .ofUInt8,
   .scalar "b" (.mk (·.b) fun b c => { c with b }) .ofUInt8,
   .scalar "a" (.mk (·.a) fun a c => { c with a }) .ofUInt8]

@[simp] theorem ColorRGBA.copies : ColorRGBA.fieldTable.Copies := fun _ _ => by simp [fieldTable]

def PointsAnnotation.fieldTable : FieldTable PointsAnnotation := .ofList
  [.scalar "topology"
     (.mk (·.topology) fun topology a => { a with topology }) AnnotationTopology.access,
   .structList "points" (.mk (·.points) fun points a => { a with points }) {} Point2.fieldTable,
   .scalar "thickness" (.mk (·.thickness) fun thickness a => { a with thickness }) .ofDouble,
   .struct "color" (.mk (·.color) fun color a => { a with color }) ColorRGBA.fieldTable,
   .structList "colors" (.mk (·.colors) fun colors a => { a with colors }) {} ColorRGBA.fieldTable,
   .struct "fill_color"
     (.mk (·.fillColor) fun fillColor a => { a with fillColor }) ColorRGBA.fieldTable]

@[simp] theorem PointsAnnotation.copies : PointsAnnotation.fieldTable.Copies := fun _ _ => by
  simp [fieldTable]

def CircleAnnotation.fieldTable : FieldTable CircleAnnotation := .ofList
  [.struct "center" (.mk (·.center) fun center a => { a with center }) Point2.fieldTable,
   .scalar "radius" (.mk (·.radius) fun radius a => { a with radius }) .ofDouble,
   .scalar "thickness" (.mk (·.thickness) fun thickness a => { a with thickness }) .ofDouble,
   .struct "color" (.mk (·.color) fun color a => { a with color }) ColorRGBA.fieldTable,
   .struct "fill_color"
     (.mk (·.fillColor) fun fillColor a => { a with fillColor }) ColorRGBA.fieldTable]

@[simp] theorem CircleAnnotation.copies : CircleAnnotation.fieldTable.Copies := fun _ _ => by
  simp [fieldTable]

def TextAnnotation.fieldTable : FieldTable TextAnnotation := .ofList
  [.struct "position" (.mk (·.position) fun position a => { a with position }) Point2.fieldTable,
   .scalar "font_size" (.mk (·.fontSize) fun fontSize a => { a with fontSize }) .ofDouble,
   .struct "color" (.mk (·.color) fun color a => { a with color }) ColorRGBA.fieldTable,
   .scalar "text" (.mk (·.text) fun text a => { a with text }) .ofString]

@[simp] theorem TextAnnotation.copies : TextAnnotation.fieldTable.Copies := fun _ _ => by
  simp [fieldTable]

def ImageAnnotations.fieldTable : FieldTable ImageAnnotations := .ofList
  [.scalar "timestamp" (.mk (·.timestamp) fun timestamp a => { a with timestamp }) .ofInt64,
   .scalar "image_topic" (.mk (·.imageTopic) fun imageTopic a => { a with imageTopic }) .ofString,
   .structList "points"
     (.mk (·.points) fun points a => { a with points }) {} PointsAnnotation.fieldTable,
   .structList "circles"
     (.mk (·.circles) fun circles a => { a with circles }) {} CircleAnnotation.fieldTable,
   .structList "texts" (.mk (·.texts) fun texts a => { a with texts }) {} TextAnnotation.fieldTable]

@[simp] theorem ImageAnnotations.copies : ImageAnnotations.fieldTable.Copies := fun _ _ => by
  simp [fieldTable]

/-! ### Scene entities -/

def Point3.fieldTable : FieldTable Point3 := .ofList
  [.scalar "x" (.mk (·.x) fun x p => { p with x }) .ofDouble,
   .scalar "y" (.mk (·.y) fun y p => { p with y }) .ofDouble,
   .scalar "z" (.mk (·.z) fun z p => { p with z }) .ofDouble]

@[simp] theorem Point3.copies : Point3.fieldTable.Copies := fun _ _ => by simp [fieldTable]

def KeyValuePair.fieldTable : FieldTable KeyValuePair := .ofList
  [.scalar "key" (.mk (·.key) fun key p => { p with key }) .ofString,
   .scalar "value" (.mk (·.value) fun value p => { p with value }) .ofString]

@[simp] theorem KeyValuePair.copies : KeyValuePair.fieldTable.Copies := fun _ _ => by
  simp [fieldTable]

def ArrowPrimitive.fieldTable : FieldTable ArrowPrimitive := .ofList
  [.struct "pose" (.mk (·.pose) fun pose p => { p with pose }) Pose.fieldTable,
   .scalar "shaft_length"
     (.mk (·.shaftLength) fun shaftLength p => { p with shaftLength }) .ofDouble,
   .scalar "shaft_diameter"
     (.mk (·.shaftDiameter) fun shaftDiameter p => { p with shaftDiameter }) .ofDouble,
   .scalar "head_length" (.mk (·.headLength) fun headLength p => { p with headLength }) .ofDouble,
   .scalar "head_diameter"
     (.mk (·.headDiameter) fun headDiameter p => { p with headDiameter }) .ofDouble,
   .struct "color" (.mk (·.color) fun color p => { p with color }) ColorRGBA.fieldTable]

@[simp] theorem ArrowPrimitive.copies : ArrowPrimitive.fieldTable.Copies := fun _ _ => by
  simp [fieldTable]

def CubePrimitive.fieldTable : FieldTable CubePrimitive := .ofList
  [.struct "pose" (.mk (·.pose) fun pose p => { p with pose }) Pose.fieldTable,
   .struct "size" (.mk (·.size) fun size p => { p with size }) Vector3.fieldTable,
   .struct "color" (.mk (·.color) fun color p => { p with color }) ColorRGBA.fieldTable]

@[simp] theorem CubePrimitive.copies : CubePrimitive.fieldTable.Copies := fun _ _ => by
  simp [fieldTable]

def SpherePrimitive.fieldTable : FieldTable SpherePrimitive := .ofList
  [.struct "pose" (.mk (·.pose) fun pose p => { p with pose }) Pose.fieldTable,
   .struct "size" (.mk (·.size) fun size p => { p with size }) Vector3.fieldTable,
   .struct "color" (.mk (·.color) fun color p => { p with color }) ColorRGBA.fieldTable]

@[simp] theorem SpherePrimitive.copies : SpherePrimitive.fieldTable.Copies := fun _ _ => by
  simp [fieldTable]

def CylinderPrimitive.fieldTable : FieldTable CylinderPrimitive := .ofList
  [.struct "pose" (.mk (·.pose) fun pose p => { p with pose }) Pose.fieldTable,
   .struct "size" (.mk (·.size) fun size p => { p with size }) Vector3.fieldTable,
   .scalar "bottom_scale"
     (.mk (·.bottomScale) fun bottomScale p => { p with bottomScale }) .ofDouble,
   .scalar "top_scale" (.mk (·.topScale) fun topScale p => { p with topScale }) .ofDouble,
   .struct "color" (.mk (·.color) fun color p => { p with color }) ColorRGBA.fieldTable]

@[simp] theorem CylinderPrimitive.copies : CylinderPrimitive.fieldTable.Copies := fun _ _ => by
  simp [fieldTable]

def LinePrimitive.fieldTable : FieldTable LinePrimitive := .ofList
  [.scalar "type" (.mk (·.type) fun type p => { p with type }) LineType.access,
   .struct "pose" (.mk (·.pose) fun pose p => { p with pose }) Pose.fieldTable,
   .scalar "thickness" (.mk (·.thickness) fun thickness p => { p with thickness }) .ofDouble,
   .scalar "scale_invariant"
     (.mk (·.scaleInvariant) fun scaleInvariant p => { p with scaleInvariant }) .ofBool,
   .structList "points" (.mk (·.points) fun points p => { p with points }) {} Point3.fieldTable,
   .struct "color" (.mk (·.color) fun color p => { p with color }) ColorRGBA.fieldTable,
   .structList "colors" (.mk (·.colors) fun colors p => { p with colors }) {} ColorRGBA.fieldTable,
   .scalarList "indices" (.mk (·.indices) fun indices p => { p with indices }) 0 .ofUInt32]

@[simp] theorem LinePrimitive.copies : LinePrimitive.fieldTable.Copies := fun _ _ => by
  simp [fieldTable]

def TrianglePrimitive.fieldTable : FieldTable TrianglePrimitive := .ofList
  [.struct "pose" (.mk (·.pose) fun pose p => { p with pose }) Pose.fieldTable,
   .structList "points" (.mk (·.points) fun points p => { p with points }) {} Point3.fieldTable,
   .struct "color" (.mk (·.color) fun color p => { p with color }) ColorRGBA.fieldTable,
   .structList "colors" (.mk (·.colors) fun colors p => { p with colors }) {} ColorRGBA.fieldTable,
   .scalarList "indices" (.mk (·.indices) fun indices p => { p with indices }) 0 .ofUInt32]

@[simp] theorem TrianglePrimitive.copies : TrianglePrimitive.fieldTable.Copies := fun _ _ => by
  simp [fieldTable]

def TextPrimitive.fieldTable : FieldTable TextPrimitive := .ofList
  [.struct "pose" (.mk (·.pose) fun pose p => { p with pose }) Pose.fieldTable,
   .scalar "billboard" (.mk (·.billboard) fun billboard p => { p with billboard }) .ofBool,
   .scalar "font_size" (.mk (·.fontSize) fun fontSize p => { p with fontSize }) .ofDouble,
   .scalar "scale_invariant"
     (.mk (·.scaleInvariant) fun scaleInvariant p => { p with scaleInvariant }) .ofBool,
   .struct "color" (.mk (·.color) fun color p => { p with color }) ColorRGBA.fieldTable,
   .scalar "text" (.mk (·.text) fun text p => { p with text }) .ofString]

@[simp] theorem TextPrimitive.copies : TextPrimitive.fieldTable.Copies := fun _ _ => by
  simp [fieldTable]

def AxesPrimitive.fieldTable : FieldTable AxesPrimitive := .ofList
  [.struct "pose" (.mk (·.pose) fun pose p => { p with pose }) Pose.fieldTable,
   .scalar "length" (.mk (·.length) fun length p => { p with length }) .ofDouble,
   .scalar "thickness" (.mk (·.thickness) fun thickness p => { p with thickness }) .ofDouble,
   .scalar "scale_invariant"
     (.mk (·.scaleInvariant) fun scaleInvariant p => { p with scaleInvariant }) .ofBool]

@[simp] theorem AxesPrimitive.copies : AxesPrimitive.fieldTable.Copies := fun _ _ => by
  simp [fieldTable]

def ModelPrimitive.fieldTable : FieldTable ModelPrimitive := .ofList
  [.struct "pose" (.mk (·.pose) fun pose p => { p with pose }) Pose.fieldTable,
   .struct "scale" (.mk (·.scale) fun scale p => { p with scale }) Vector3.fieldTable,
   .struct "color" (.mk (·.color) fun color p => { p with color }) ColorRGBA.fieldTable,
   .scalar "override_color"
     (.mk (·.overrideColor) fun overrideColor p => { p with overrideColor }) .ofBool,
   .scalar "url" (.mk (·.url) fun url p => { p with url }) .ofString,
   .scalar "media_type" (.mk (·.mediaType) fun mediaType p => { p with mediaType }) .ofString,
   .scalarList "data" (.mk (·.data) fun data p => { p with data }) 0 .ofUInt8]

@[simp] theorem ModelPrimitive.copies : ModelPrimitive.fieldTable.Copies := fun _ _ => by
  simp [fieldTable]

def SceneEntity.fieldTable : FieldTable SceneEntity := .ofList
  [.scalar "timestamp" (.mk (·.timestamp) fun timestamp e => { e with timestamp }) .ofInt64,
   .scalar "frame_id" (.mk (·.frameId) fun frameId e => { e with frameId }) .ofString,
   .scalar "id" (.mk (·.id) fun id e => { e with id }) .ofString,
   .scalar "lifetime_ns" (.mk (·.lifetimeNs) fun lifetimeNs e => { e with lifetimeNs }) .ofInt64,
   .scalar "frame_locked" (.mk (·.frameLocked) fun frameLocked e => { e with frameLocked }) .ofBool,
   .structList "metadata"
     (.mk (·.metadata) fun metadata e => { e with metadata }) {} KeyValuePair.fieldTable,
   .structList "arrows"
     (.mk (·.arrows) fun arrows e => { e with arrows }) {} ArrowPrimitive.fieldTable,
   .structList "cubes" (.mk (·.cubes) fun cubes e => { e with cubes }) {} CubePrimitive.fieldTable,
   .structList "spheres"
     (.mk (·.spheres) fun spheres e => { e with spheres }) {} SpherePrimitive.fieldTable,
   .structList "cylinders"
     (.mk (·.cylinders) fun cylinders e => { e with cylinders }) {} CylinderPrimitive.fieldTable,
   .structList "lines" (.mk (·.lines) fun lines e => { e with lines }) {} LinePrimitive.fieldTable,
   .structList "triangles"
     (.mk (·.triangles) fun triangles e => { e with triangles }) {} TrianglePrimitive.fieldTable,
   .structList "texts" (.mk (·.texts) fun texts e => { e with texts }) {} TextPrimitive.fieldTable,
   .structList "models"
     (.mk (·.models) fun models e => { e with models }) {} ModelPrimitive.fieldTable,
   .structList "axes" (.mk (·.axes) fun axes e => { e with axes }) {} AxesPrimitive.fieldTable]

@[simp] theorem SceneEntity.copies : SceneEntity.fieldTable.Copies := fun _ _ => by
  simp [fieldTable]

def SceneEntityDeletion.fieldTable : FieldTable SceneEntityDeletion := .ofList
  [.scalar "type" (.mk (·.type) fun type d => { d with type }) SceneEntityDeletion.Kind.access,
   .scalar "timestamp" (.mk (·.timestamp) fun timestamp d => { d with timestamp }) .ofInt64,
   .scalar "id" (.mk (·.id) fun id d => { d with id }) .ofString]

@[simp] theorem SceneEntityDeletion.copies : SceneEntityDeletion.fieldTable.Copies := fun _ _ => by
  simp [fieldTable]

def SceneEntities.fieldTable : FieldTable SceneEntities := .ofList
  [.structList "entities"
     (.mk (·.entities) fun entities s => { s with entities }) {} SceneEntity.fieldTable,
   .structList "deletions"
     (.mk (·.deletions) fun deletions s => { s with deletions }) {} SceneEntityDeletion.fieldTable]

@[simp] theorem SceneEntities.copies : SceneEntities.fieldTable.Copies := fun _ _ => by
  simp [fieldTable]

/-! ### Point clouds, images and voxel grids -/

def PointField.fieldTable : FieldTable PointField := .ofList
  [.scalar "name" (.mk (·.name) fun name f => { f with name }) .ofString,
   .scalar "offset" (.mk (·.offset) fun offset f => { f with offset }) .ofUInt32,
   .scalar "datatype"
     (.mk (·.datatype) fun datatype f => { f with datatype }) PointField.Datatype.access,
   .scalar "count" (.mk (·.count) fun count f => { f with count }) .ofUInt32]

@[simp] theorem PointField.copies : PointField.fieldTable.Copies := fun _ _ => by simp [fieldTable]

def PointCloud.fieldTable : FieldTable PointCloud := .ofList
  [.scalar "width" (.mk (·.width) fun width c => { c with width }) .ofUInt32,
   .scalar "height" (.mk (·.height) fun height c => { c with height }) .ofUInt32,
   .scalar "point_step" (.mk (·.pointStep) fun pointStep c => { c with pointStep }) .ofUInt32,
   .scalar "row_step" (.mk (·.rowStep) fun rowStep c => { c with rowStep }) .ofUInt32,
   .scalar "is_bigendian" (.mk (·.isBigendian) fun isBigendian c => { c with isBigendian }) .ofBool,
   .scalar "is_dense" (.mk (·.isDense) fun isDense c => { c with isDense }) .ofBool,
   .scalar "frame_id" (.mk (·.frameId) fun frameId c => { c with frameId }) .ofString,
   .structList "fields" (.mk (·.fields) fun fields c => { c with fields }) {} PointField.fieldTable,
   .buffer "data" pointCloudBuffer (fun data c => { c with data }),
   .scalar "timestamp_ns"
     (.mk (·.timestampNs) fun timestampNs c => { c with timestampNs }) .ofInt64]

@[simp] theorem PointCloud.copies : PointCloud.fieldTable.Copies := fun _ _ => by simp [fieldTable]

def Image.fieldTable : FieldTable Image := .ofList
  [.scalar "width" (.mk (·.width) fun width i => { i with width }) .ofUInt32,
   .scalar "height" (.mk (·.height) fun height i => { i with height }) .ofUInt32,
   .scalar "encoding" (.mk (·.encoding) fun encoding i => { i with encoding }) .ofString,
   .scalar "row_step" (.mk (·.rowStep) fun rowStep i => { i with rowStep }) .ofUInt32,
   .scalar "is_bigendian" (.mk (·.isBigendian) fun isBigendian i => { i with isBigendian }) .ofBool,
   .buffer "data" imageBuffer (fun data i => { i with data }),
   .optionalNumber "compressed_depth_min"
     (.mk (·.compressedDepthMin) fun compressedDepthMin i => { i with compressedDepthMin })
     F32.toDouble F32.ofDouble,
   .optionalNumber "compressed_depth_max"
     (.mk (·.compressedDepthMax) fun compressedDepthMax i => { i with compressedDepthMax })
     F32.toDouble F32.ofDouble,
   .scalar "timestamp_ns"
     (.mk (·.timestampNs) fun timestampNs i => { i with timestampNs }) .ofInt64,
   .scalar "frame_id" (.mk (·.frameId) fun frameId i => { i with frameId }) .ofString]

def DepthImage.fieldTable : FieldTable DepthImage := .ofList
  [.scalar "width" (.mk (·.width) fun width i => { i with width }) .ofUInt32,
   .scalar "height" (.mk (·.height) fun height i => { i with height }) .ofUInt32,
   .scalar "encoding" (.mk (·.encoding) fun encoding i => { i with encoding }) .ofString,
   .buffer "data" depthImageBuffer (fun data i => { i with data }),
   .scalarArray "K" (.mk (·.K) fun K i => { i with K }) .ofDouble,
   .scalar "distortion_model"
     (.mk (·.distortionModel) fun distortionModel i => { i with distortionModel }) .ofString,
   .scalarList "D" (.mk (·.D) fun D i => { i with D }) .zero .ofDouble,
   .scalar "timestamp_ns"
     (.mk (·.timestampNs) fun timestampNs i => { i with timestampNs }) .ofInt64]

@[simp] theorem DepthImage.copies : DepthImage.fieldTable.Copies := fun _ _ => by
  simp [fieldTable, copyArray_eq _ copyScalar_ofDouble]

def CameraInfo.fieldTable : FieldTable CameraInfo := .ofList
  [.scalar "timestamp_ns"
     (.mk (·.timestampNs) fun timestampNs i => { i with timestampNs }) .ofInt64,
   .scalar "frame_id" (.mk (·.frameId) fun frameId i => { i with frameId }) .ofString,
   .scalar "width" (.mk (·.width) fun width i => { i with width }) .ofUInt32,
   .scalar "height" (.mk (·.height) fun height i => { i with height }) .ofUInt32,
   .scalar "distortion_model"
     (.mk (·.distortionModel) fun distortionModel i => { i with distortionModel }) .ofString,
   .scalarList "D" (.mk (·.D) fun D i => { i with D }) .zero .ofDouble,
   .scalarArray "K" (.mk (·.K) fun K i => { i with K }) .ofDouble,
   .scalarArray "R" (.mk (·.R) fun R i => { i with R }) .ofDouble,
   .scalarArray "P" (.mk (·.P) fun P i => { i with P }) .ofDouble]

@[simp] theorem CameraInfo.copies : CameraInfo.fieldTable.Copies := fun _ _ => by
  simp [fieldTable, copyArray_eq _ copyScalar_ofDouble]

def VideoFrame.fieldTable : FieldTable VideoFrame := .ofList
  [.scalar "timestamp_ns"
     (.mk (·.timestampNs) fun timestampNs f => { f with timestampNs }) .ofInt64,
   .scalar "frame_id" (.mk (·.frameId) fun frameId f => { f with frameId }) .ofString,
   .scalar "format" (.mk (·.format) fun format f => { f with format }) .ofString,
   .buffer "data" videoFrameBuffer (fun data f => { f with data })]

@[simp] theorem VideoFrame.copies : VideoFrame.fieldTable.Copies := fun _ _ => by simp [fieldTable]

def VoxelGrid.fieldTable : FieldTable VoxelGrid := .ofList
  [.scalar "timestamp_ns"
     (.mk (·.timestampNs) fun timestampNs g => { g with timestampNs }) .ofInt64,
   .scalar "frame_id" (.mk (·.frameId) fun frameId g => { g with frameId }) .ofString,
   .struct "origin" (.mk (·.origin) fun origin g => { g with origin }) Pose.fieldTable,
   .struct "cell_size" (.mk (·.cellSize) fun cellSize g => { g with cellSize }) Vector3.fieldTable,
   .scalar "column_count"
     (.mk (·.columnCount) fun columnCount g => { g with columnCount }) .ofUInt32,
   .scalar "row_count" (.mk (·.rowCount) fun rowCount g => { g with rowCount }) .ofUInt32,
   .scalar "slice_count" (.mk (·.sliceCount) fun sliceCount g => { g with sliceCount }) .ofUInt32,
   .scalar "cell_stride" (.mk (·.cellStride) fun cellStride g => { g with cellStride }) .ofUInt32,
   .scalar "row_stride" (.mk (·.rowStride) fun rowStride g => { g with rowStride }) .ofUInt32,
   .scalar "slice_stride"
     (.mk (·.sliceStride) fun sliceStride g => { g with sliceStride }) .ofUInt32,
   .structList "fields" (.mk (·.fields) fun fields g => { g with fields }) {} PointField.fieldTable,
   .buffer "data" voxelGridBuffer (fun data g => { g with data })]

@[simp] theorem VoxelGrid.copies : VoxelGrid.fieldTable.Copies := fun _ _ => by simp [fieldTable]

/-! ## The registry -/

/-- The table of a type, if it is described. -/
def describe : BuiltinObjectType → Option FieldTableView
  | .frameTransforms => some ⟨FrameTransforms, "FrameTransforms", FrameTransforms.fieldTable⟩
  | .imageAnnotations => some ⟨ImageAnnotations, "ImageAnnotations", ImageAnnotations.fieldTable⟩
  | .pointCloud => some ⟨PointCloud, "PointCloud", PointCloud.fieldTable⟩
  | .sceneEntities => some ⟨SceneEntities, "SceneEntities", SceneEntities.fieldTable⟩
  | .image => some ⟨Image, "Image", Image.fieldTable⟩
  | .depthImage => some ⟨DepthImage, "DepthImage", DepthImage.fieldTable⟩
  | .cameraInfo => some ⟨CameraInfo, "CameraInfo", CameraInfo.fieldTable⟩
  | .videoFrame => some ⟨VideoFrame, "VideoFrame", VideoFrame.fieldTable⟩
  | .voxelGrid => some ⟨VoxelGrid, "VoxelGrid", VoxelGrid.fieldTable⟩
  | .none | .occupancyGrid | .compressedPointCloud | .mesh3D | .robotDescription
  | .occupancyGridUpdate | .log | .posesInFrame | .plotMarkers | .gridMap => none

/-- The generic copy through the table of a type copies an object of it whole, whatever it is
written over; an image keeps the depths of its own that the other has none for. -/
theorem fieldTables_copy :
    (∀ type, type ≠ .image → ∀ view ∈ describe type, view.fields.Copies) ∧
      ∀ src dst : Image, copyThroughTable Image.fieldTable src dst =
        { src with
          compressedDepthMin :=
            (src.compressedDepthMin.map Binary.quieted).or dst.compressedDepthMin
          compressedDepthMax :=
            (src.compressedDepthMax.map Binary.quieted).or dst.compressedDepthMax } := by
  constructor
  · intro type himage view hview
    cases type with
    | image => exact absurd rfl himage
    | frameTransforms => exact Option.some.inj hview ▸ FrameTransforms.copies
    | imageAnnotations => exact Option.some.inj hview ▸ ImageAnnotations.copies
    | pointCloud => exact Option.some.inj hview ▸ PointCloud.copies
    | sceneEntities => exact Option.some.inj hview ▸ SceneEntities.copies
    | depthImage => exact Option.some.inj hview ▸ DepthImage.copies
    | cameraInfo => exact Option.some.inj hview ▸ CameraInfo.copies
    | videoFrame => exact Option.some.inj hview ▸ VideoFrame.copies
    | voxelGrid => exact Option.some.inj hview ▸ VoxelGrid.copies
    | none | occupancyGrid | compressedPointCloud | mesh3D | robotDescription
    | occupancyGridUpdate | log | posesInFrame | plotMarkers | gridMap =>
      exact absurd hview (Option.not_mem_none view)
  · intro src dst
    rcases hmin : src.compressedDepthMin with _ | least <;>
      rcases hmax : src.compressedDepthMax with _ | most <;>
      simp [Image.fieldTable, hmin, hmax, F32.ofDouble_toDouble]

end PlotJugglerSdk
