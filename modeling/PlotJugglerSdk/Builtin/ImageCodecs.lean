import PlotJugglerSdk.Builtin.Deserialize
import PlotJugglerSdk.Builtin.Geometry

/-!
# Image, depth image, camera info, video frame

The camera-side codecs. Each type is its serializer, the table of the fields
its decoder takes, the deserializer and the round trip
`…Loop.decode (serialize… value) {} = (true, value)`.
-/

namespace PlotJugglerSdk

open Wire

variable {α : Type}

def varintOfBool (value : Bool) : UInt64 := if value then 1 else 0

@[simp] theorem varintOfBool_ne_zero (value : Bool) : (varintOfBool value != 0) = value := by
  cases value <;> rfl

/-! ## Image -/

/-- `if (value.has_value()) writer.floatField(number, *value)` -/
def writeFloatOption (number : Nat) : Option F32 → Bytes
  | some value => Writer.floatField number value
  | none => []

def serializeImage (image : Image) : Bytes :=
  Writer.message 1 (writeTimestamp image.timestampNs) ++
    Writer.varint 2 image.width.toUInt64 ++
    Writer.varint 3 image.height.toUInt64 ++
    Writer.string 4 image.encoding ++
    Writer.varint 5 image.rowStep.toUInt64 ++
    Writer.varint 6 (varintOfBool image.isBigendian) ++
    Writer.bytes 7 image.data ++
    writeFloatOption 8 image.compressedDepthMin ++
    writeFloatOption 9 image.compressedDepthMax ++
    Writer.string 10 image.frameId

def imageFields : List (FieldDecl Image) :=
  [.message 1 decodeTimestamp (·.timestampNs) fun timestampNs image => { image with timestampNs },
   .varint 2 fun v image => { image with width := v.toUInt32 },
   .varint 3 fun v image => { image with height := v.toUInt32 },
   .bytes 4 fun encoding image => { image with encoding },
   .varint 5 fun v image => { image with rowStep := v.toUInt32 },
   .varint 6 fun v image => { image with isBigendian := v != 0 },
   .bytes 7 fun data image => { image with data },
   .fixed32 8 fun v image => { image with compressedDepthMin := some v },
   .fixed32 9 fun v image => { image with compressedDepthMax := some v },
   .bytes 10 fun frameId image => { image with frameId }]

def imageLoop : FieldLoop Image := .lenient imageFields

def deserializeImage (data : Bytes) : Except String Image :=
  deserializeWith "Image" imageLoop {} data

theorem Rebuilds.floatOption {table : List (FieldDecl α)} {number : Nat} {set : UInt32 → α → α}
    {value : Option F32} {out final : α} (assign : Option F32 → α → α)
    (hnumber : 0 < number ∧ number < 2 ^ 29)
    (hdecl : declared table ⟨number, .fixed32⟩ = some (.fixed32 number set))
    (hnone : assign none out = out) (hsome : ∀ v, set v out = assign (some v) out)
    (hset : assign value out = final) :
    Rebuilds table (writeFloatOption number value) out final := by
  rw [← hset]
  cases value with
  | none =>
    rw [hnone]
    exact .nil out
  | some v => exact .fixed32 hnumber hdecl (hsome v)

theorem imageLoop_serializeImage {image : Image} (hlen : (serializeImage image).length < 2 ^ 64) :
    imageLoop.decode (serializeImage image) {} = (true, image) := by
  have hbuild : Rebuilds imageFields (serializeImage image) {} image := by
    iterate 9 apply Rebuilds.append
    · exact .message (by decide) rfl (decodeTimestamp_writeTimestamp _) rfl
    · exact .varint (by decide) rfl rfl
    · exact .varint (by decide) rfl rfl
    · exact .bytes (by decide) rfl rfl
    · exact .varint (by decide) rfl rfl
    · exact .varint (by decide) rfl rfl
    · exact .bytes (by decide) rfl rfl
    · exact .floatOption (fun v image => { image with compressedDepthMin := v }) (by decide) rfl
        rfl (fun _ => rfl) rfl
    · exact .floatOption (fun v image => { image with compressedDepthMax := v }) (by decide) rfl
        rfl (fun _ => rfl) rfl
    · refine .bytes (by decide) rfl ?_
      simp only [UInt32.toUInt32_toUInt64, varintOfBool_ne_zero]
  exact hbuild.decode hlen

/-! ## DepthImage -/

def serializeDepthImage (depth : DepthImage) : Bytes :=
  Writer.message 1 (writeTimestamp depth.timestampNs) ++
    Writer.varint 2 depth.width.toUInt64 ++
    Writer.varint 3 depth.height.toUInt64 ++
    Writer.string 4 depth.encoding ++
    Writer.bytes 5 depth.data ++
    Writer.packedDouble 6 depth.K.toList ++
    Writer.string 7 depth.distortionModel ++
    Writer.packedDouble 8 depth.D

def depthImageFields : List (FieldDecl DepthImage) :=
  [.message 1 decodeTimestamp (·.timestampNs) fun timestampNs depth => { depth with timestampNs },
   .varint 2 fun v depth => { depth with width := v.toUInt32 },
   .varint 3 fun v depth => { depth with height := v.toUInt32 },
   .bytes 4 fun encoding depth => { depth with encoding },
   .bytes 5 fun data depth => { depth with data },
   .packed 6 (Reader.readPackedDoubleArray 9) fun K depth => { depth with K },
   .bytes 7 fun distortionModel depth => { depth with distortionModel },
   .packed 8 Reader.readPackedDouble fun D depth => { depth with D := depth.D ++ D }]

def depthImageLoop : FieldLoop DepthImage := .lenient depthImageFields

def deserializeDepthImage (data : Bytes) : Except String DepthImage :=
  deserializeWith "DepthImage" depthImageLoop {} data

theorem depthImageLoop_serializeDepthImage {depth : DepthImage}
    (hlen : (serializeDepthImage depth).length < 2 ^ 64) :
    depthImageLoop.decode (serializeDepthImage depth) {} = (true, depth) := by
  have hbuild : Rebuilds depthImageFields (serializeDepthImage depth) {} depth := by
    iterate 7 apply Rebuilds.append
    · exact .message (by decide) rfl (decodeTimestamp_writeTimestamp _) rfl
    · exact .varint (by decide) rfl rfl
    · exact .varint (by decide) rfl rfl
    · exact .bytes (by decide) rfl rfl
    · exact .bytes (by decide) rfl rfl
    · exact .packedDoubleArray (by decide) (by decide) rfl rfl
    · exact .bytes (by decide) rfl rfl
    · refine .packedDouble (by decide) rfl rfl ?_
      simp only [UInt32.toUInt32_toUInt64, List.nil_append]
  exact hbuild.decode hlen

/-! ## CameraInfo -/

def serializeCameraInfo (info : CameraInfo) : Bytes :=
  Writer.message 1 (writeTimestamp info.timestampNs) ++
    Writer.string 2 info.frameId ++
    Writer.varint 3 info.width.toUInt64 ++
    Writer.varint 4 info.height.toUInt64 ++
    Writer.string 5 info.distortionModel ++
    Writer.packedDouble 6 info.D ++
    Writer.packedDouble 7 info.K.toList ++
    Writer.packedDouble 8 info.R.toList ++
    Writer.packedDouble 9 info.P.toList

/-- `D` may come in several packed chunks; the matrices are replaced. -/
def cameraInfoFields : List (FieldDecl CameraInfo) :=
  [.message 1 decodeTimestamp (·.timestampNs) fun timestampNs info => { info with timestampNs },
   .bytes 2 fun frameId info => { info with frameId },
   .varint 3 fun v info => { info with width := v.toUInt32 },
   .varint 4 fun v info => { info with height := v.toUInt32 },
   .bytes 5 fun distortionModel info => { info with distortionModel },
   .packed 6 Reader.readPackedDouble fun D info => { info with D := info.D ++ D },
   .packed 7 (Reader.readPackedDoubleArray 9) fun K info => { info with K },
   .packed 8 (Reader.readPackedDoubleArray 9) fun R info => { info with R },
   .packed 9 (Reader.readPackedDoubleArray 12) fun P info => { info with P }]

def cameraInfoLoop : FieldLoop CameraInfo := .lenient cameraInfoFields

def deserializeCameraInfo (data : Bytes) : Except String CameraInfo :=
  deserializeWith "CameraInfo" cameraInfoLoop {} data

theorem cameraInfoLoop_serializeCameraInfo {info : CameraInfo}
    (hlen : (serializeCameraInfo info).length < 2 ^ 64) :
    cameraInfoLoop.decode (serializeCameraInfo info) {} = (true, info) := by
  have hbuild : Rebuilds cameraInfoFields (serializeCameraInfo info) {} info := by
    iterate 8 apply Rebuilds.append
    · exact .message (by decide) rfl (decodeTimestamp_writeTimestamp _) rfl
    · exact .bytes (by decide) rfl rfl
    · exact .varint (by decide) rfl rfl
    · exact .varint (by decide) rfl rfl
    · exact .bytes (by decide) rfl rfl
    · exact .packedDouble (by decide) rfl rfl rfl
    · exact .packedDoubleArray (by decide) (by decide) rfl rfl
    · exact .packedDoubleArray (by decide) (by decide) rfl rfl
    · refine .packedDoubleArray (by decide) (by decide) rfl ?_
      simp only [UInt32.toUInt32_toUInt64, List.nil_append]
  exact hbuild.decode hlen

/-! ## VideoFrame -/

def serializeVideoFrame (frame : VideoFrame) : Bytes :=
  Writer.message 1 (writeTimestamp frame.timestampNs) ++
    Writer.string 2 frame.frameId ++
    Writer.bytes 3 frame.data ++
    Writer.string 4 frame.format

def videoFrameFields : List (FieldDecl VideoFrame) :=
  [.message 1 decodeTimestamp (·.timestampNs) fun timestampNs frame => { frame with timestampNs },
   .bytes 2 fun frameId frame => { frame with frameId },
   .bytes 3 fun data frame => { frame with data },
   .bytes 4 fun format frame => { frame with format }]

def videoFrameLoop : FieldLoop VideoFrame := .lenient videoFrameFields

def deserializeVideoFrame (data : Bytes) : Except String VideoFrame :=
  deserializeWith "VideoFrame" videoFrameLoop {} data

theorem videoFrameLoop_serializeVideoFrame {frame : VideoFrame}
    (hlen : (serializeVideoFrame frame).length < 2 ^ 64) :
    videoFrameLoop.decode (serializeVideoFrame frame) {} = (true, frame) := by
  have hbuild : Rebuilds videoFrameFields (serializeVideoFrame frame) {} frame := by
    iterate 3 apply Rebuilds.append
    · exact .message (by decide) rfl (decodeTimestamp_writeTimestamp _) rfl
    · exact .bytes (by decide) rfl rfl
    · exact .bytes (by decide) rfl rfl
    · exact .bytes (by decide) rfl rfl
  exact hbuild.decode hlen

end PlotJugglerSdk
