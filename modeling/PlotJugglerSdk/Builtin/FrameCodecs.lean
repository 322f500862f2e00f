import PlotJugglerSdk.Builtin.ImageCodecs

/-!
# Transforms, poses, meshes, robot descriptions, logs

The codecs of the types that are placed in a frame or carry text.
-/

namespace PlotJugglerSdk

open Wire

/-! ## FrameTransforms -/

def writeFrameTransform (transform : FrameTransform) : Bytes :=
  Writer.message 1 (writeTimestamp transform.timestamp) ++
    Writer.string 2 transform.parentFrameId ++
    Writer.string 3 transform.childFrameId ++
    Writer.message 4 (writeVector3 transform.translation) ++
    Writer.message 5 (writeQuaternion transform.rotation)

def frameTransformFields : List (FieldDecl FrameTransform) :=
  [.message 1 decodeTimestamp (·.timestamp) fun timestamp t => { t with timestamp },
   .bytes 2 fun parentFrameId t => { t with parentFrameId },
   .bytes 3 fun childFrameId t => { t with childFrameId },
   .message 4 decodeVector3 (·.translation) fun translation t => { t with translation },
   .message 5 decodeQuaternion (·.rotation) fun rotation t => { t with rotation }]

def frameTransformLoop : FieldLoop FrameTransform := .lenient frameTransformFields

def decodeFrameTransform : Decoder FrameTransform := frameTransformLoop.decode

theorem decodeFrameTransform_write {transform : FrameTransform}
    (hlen : (writeFrameTransform transform).length < 2 ^ 64) :
    decodeFrameTransform (writeFrameTransform transform) {} = (true, transform) := by
  have hbuild : Rebuilds frameTransformFields (writeFrameTransform transform) {} transform := by
    iterate 4 apply Rebuilds.append
    · exact .message (by decide) rfl (decodeTimestamp_writeTimestamp _) rfl
    · exact .bytes (by decide) rfl rfl
    · exact .bytes (by decide) rfl rfl
    · exact .message (by decide) rfl (decodeVector3_writeVector3 _) rfl
    · exact .message (by decide) rfl (decodeQuaternion_writeQuaternion _) rfl
  exact Rebuilds.decode hbuild hlen

def serializeFrameTransforms (transforms : FrameTransforms) : Bytes :=
  transforms.transforms.flatMap fun transform => Writer.message 1 (writeFrameTransform transform)

def frameTransformsFields : List (FieldDecl FrameTransforms) :=
  [.repeated 1 decodeFrameTransform {} fun f ts => { ts with transforms := f ts.transforms }]

def frameTransformsLoop : FieldLoop FrameTransforms := .strict frameTransformsFields

def deserializeFrameTransforms (data : Bytes) : Except String FrameTransforms :=
  deserializeBatch "FrameTransforms" (fun _ => "bad nested message length")
    (fun _ => "FrameTransform decode failed") frameTransformsFields {} data

theorem frameTransformsLoop_serializeFrameTransforms {transforms : FrameTransforms}
    (hlen : (serializeFrameTransforms transforms).length < 2 ^ 64) :
    frameTransformsLoop.decode (serializeFrameTransforms transforms) {} = (true, transforms) := by
  have hbuild : Rebuilds frameTransformsFields (serializeFrameTransforms transforms) {}
      transforms :=
    .repeated (by decide) rfl (fun _ => rfl) (fun _ _ _ => rfl)
      (fun _ _ => decodeFrameTransform_write) rfl
  exact hbuild.decode hlen

/-! ## PosesInFrame -/

def serializePosesInFrame (poses : PosesInFrame) : Bytes :=
  Writer.message 1 (writeTimestamp poses.timestampNs) ++
    Writer.string 2 poses.frameId ++
    poses.poses.flatMap fun pose => Writer.message 3 (writePose pose)

def posesInFrameFields : List (FieldDecl PosesInFrame) :=
  [.message 1 decodeTimestamp (·.timestampNs) fun timestampNs result => { result with timestampNs },
   .bytes 2 fun frameId result => { result with frameId },
   .repeated 3 decodePose {} fun f result => { result with poses := f result.poses }]

def posesInFrameLoop : FieldLoop PosesInFrame := .lenient posesInFrameFields

def deserializePosesInFrame (data : Bytes) : Except String PosesInFrame :=
  deserializeWith "PosesInFrame" posesInFrameLoop {} data

theorem posesInFrameLoop_serializePosesInFrame {poses : PosesInFrame}
    (hlen : (serializePosesInFrame poses).length < 2 ^ 64) :
    posesInFrameLoop.decode (serializePosesInFrame poses) {} = (true, poses) := by
  have hbuild : Rebuilds posesInFrameFields (serializePosesInFrame poses) {} poses := by
    iterate 2 apply Rebuilds.append
    · exact .message (by decide) rfl (decodeTimestamp_writeTimestamp _) rfl
    · exact .bytes (by decide) rfl rfl
    · exact .repeated (by decide) rfl (fun _ => rfl) (fun _ _ _ => rfl)
        (fun _ _ => decodePose_writePose {}) rfl
  exact hbuild.decode hlen

/-! ## Mesh3D -/

section Mesh

variable [FloatOps]

open FloatOps

def serializeMesh3D (mesh : Mesh3D) : Bytes :=
  Writer.message 1 (writeTimestamp mesh.timestampNs) ++
    Writer.string 2 mesh.frameId ++
    Writer.string 3 mesh.id ++
    Writer.message 4 (writePose mesh.pose) ++
    Writer.message 5 (writeVector3 mesh.scale) ++
    Writer.string 6 mesh.format ++
    Writer.bytes 7 mesh.data ++
    Writer.string 8 mesh.url ++
    Writer.message 9 (writeColor mesh.color) ++
    Writer.varint 10 (varintOfBool mesh.overrideColor)

def mesh3DFields : List (FieldDecl Mesh3D) :=
  [.message 1 decodeTimestamp (·.timestampNs) fun timestampNs mesh => { mesh with timestampNs },
   .bytes 2 fun frameId mesh => { mesh with frameId },
   .bytes 3 fun id mesh => { mesh with id },
   .message 4 decodePose (·.pose) fun pose mesh => { mesh with pose },
   .message 5 decodeVector3 (·.scale) fun scale mesh => { mesh with scale },
   .bytes 6 fun format mesh => { mesh with format },
   .bytes 7 fun data mesh => { mesh with data },
   .bytes 8 fun url mesh => { mesh with url },
   .message 9 decodeColor (·.color) fun color mesh => { mesh with color },
   .varint 10 fun v mesh => { mesh with overrideColor := v != 0 }]

def mesh3DLoop : FieldLoop Mesh3D := .lenient mesh3DFields

def deserializeMesh3D (data : Bytes) : Except String Mesh3D :=
  deserializeWith "Mesh3D" mesh3DLoop {} data

theorem mesh3DLoop_serializeMesh3D (hexact : ColorExact) {mesh : Mesh3D}
    (hlen : (serializeMesh3D mesh).length < 2 ^ 64) :
    mesh3DLoop.decode (serializeMesh3D mesh) {} = (true, mesh) := by
  have hbuild : Rebuilds mesh3DFields (serializeMesh3D mesh) {} mesh := by
    iterate 9 apply Rebuilds.append
    · exact .message (by decide) rfl (decodeTimestamp_writeTimestamp _) rfl
    · exact .bytes (by decide) rfl rfl
    · exact .bytes (by decide) rfl rfl
    · exact .message (by decide) rfl (decodePose_writePose _) rfl
    · exact .message (by decide) rfl (decodeVector3_writeVector3 _) rfl
    · exact .bytes (by decide) rfl rfl
    · exact .bytes (by decide) rfl rfl
    · exact .bytes (by decide) rfl rfl
    · exact .message (by decide) rfl (decodeColor_writeColor hexact _) rfl
    · refine .varint (by decide) rfl ?_
      simp only [varintOfBool_ne_zero]
  exact hbuild.decode hlen

end Mesh

/-! ## RobotDescription -/

def serializeRobotDescription (description : RobotDescription) : Bytes :=
  Writer.message 1 (writeTimestamp description.timestampNs) ++
    Writer.string 2 description.topic ++
    Writer.string 3 description.format ++
    Writer.string 4 description.text

def robotDescriptionFields : List (FieldDecl RobotDescription) :=
  [.message 1 decodeTimestamp (·.timestampNs) fun timestampNs d => { d with timestampNs },
   .bytes 2 fun topic d => { d with topic },
   .bytes 3 fun format d => { d with format },
   .bytes 4 fun text d => { d with text }]

def robotDescriptionLoop : FieldLoop RobotDescription := .lenient robotDescriptionFields

def deserializeRobotDescription (data : Bytes) : Except String RobotDescription :=
  deserializeWith "RobotDescription" robotDescriptionLoop {} data

theorem robotDescriptionLoop_serialize {description : RobotDescription}
    (hlen : (serializeRobotDescription description).length < 2 ^ 64) :
    robotDescriptionLoop.decode (serializeRobotDescription description) {} =
      (true, description) := by
  have hbuild : Rebuilds robotDescriptionFields (serializeRobotDescription description) {}
      description := by
    iterate 3 apply Rebuilds.append
    · exact .message (by decide) rfl (decodeTimestamp_writeTimestamp _) rfl
    · exact .bytes (by decide) rfl rfl
    · exact .bytes (by decide) rfl rfl
    · exact .bytes (by decide) rfl rfl
  exact hbuild.decode hlen

/-! ## Log -/

/-- `static_cast<uint64_t>(log.level)` -/
def Log.Level.code : Log.Level → UInt64
  | .unknown => 0
  | .debug => 1
  | .info => 2
  | .warning => 3
  | .error => 4
  | .fatal => 5

def levelFromWire (value : UInt64) : Log.Level :=
  match value.toNat with
  | 1 => .debug
  | 2 => .info
  | 3 => .warning
  | 4 => .error
  | 5 => .fatal
  | _ => .unknown

theorem levelFromWire_code (level : Log.Level) : levelFromWire level.code = level := by
  cases level <;> rfl

def serializeLog (log : Log) : Bytes :=
  Writer.message 1 (writeTimestamp log.timestampNs) ++
    Writer.varint 2 log.level.code ++
    Writer.string 3 log.message ++
    Writer.string 4 log.name

def logFields : List (FieldDecl Log) :=
  [.message 1 decodeTimestamp (·.timestampNs) fun timestampNs log => { log with timestampNs },
   .varint 2 fun v log => { log with level := levelFromWire v },
   .bytes 3 fun message log => { log with message },
   .bytes 4 fun name log => { log with name }]

def logLoop : FieldLoop Log := .lenient logFields

def deserializeLog (data : Bytes) : Except String Log := deserializeWith "Log" logLoop {} data

theorem logLoop_serializeLog {log : Log} (hlen : (serializeLog log).length < 2 ^ 64) :
    logLoop.decode (serializeLog log) {} = (true, log) := by
  have hbuild : Rebuilds logFields (serializeLog log) {} log := by
    iterate 3 apply Rebuilds.append
    · exact .message (by decide) rfl (decodeTimestamp_writeTimestamp _) rfl
    · exact .varint (by decide) rfl rfl
    · exact .bytes (by decide) rfl rfl
    · refine .bytes (by decide) rfl ?_
      simp only [levelFromWire_code]
  exact hbuild.decode hlen

end PlotJugglerSdk
