import PlotJugglerSdk.Builtin.ImageCodecs

/-!
# Scene entities

The deepest codec: a batch of entities, each a list per primitive kind, each
primitive with its pose, colours and vertices. Every level has its writer, its
table and its round trip; the entity's is assembled from its primitives'.
-/

namespace PlotJugglerSdk

open Wire FloatOps

variable [FloatOps]

/-! ## Line types -/

/-- On the wire 0 is unknown, so the SDK's numbers are shifted by one. -/
def lineTypeToWire : LineType → UInt64
  | .lineStrip => 1
  | .lineLoop => 2
  | .lineList => 3

def lineTypeFromWire (value : UInt64) : LineType :=
  match value.toNat with
  | 2 => .lineLoop
  | 3 => .lineList
  | _ => .lineStrip

omit [FloatOps] in
theorem lineTypeFromWire_toWire (type : LineType) :
    lineTypeFromWire (lineTypeToWire type) = type := by
  cases type <;> rfl

/-! ## Primitives -/

def writeArrowPrimitive (p : ArrowPrimitive) : Bytes :=
  Writer.message 1 (writePose p.pose) ++
    Writer.doubleField 2 p.shaftLength ++
    Writer.doubleField 3 p.shaftDiameter ++
    Writer.doubleField 4 p.headLength ++
    Writer.doubleField 5 p.headDiameter ++
    Writer.message 6 (writeColor p.color)

def arrowPrimitiveFields : List (FieldDecl ArrowPrimitive) :=
  [.message 1 decodePose (·.pose) fun pose p => { p with pose },
   .fixed64 2 fun shaftLength p => { p with shaftLength },
   .fixed64 3 fun shaftDiameter p => { p with shaftDiameter },
   .fixed64 4 fun headLength p => { p with headLength },
   .fixed64 5 fun headDiameter p => { p with headDiameter },
   .message 6 decodeColor (·.color) fun color p => { p with color }]

def arrowPrimitiveLoop : FieldLoop ArrowPrimitive := .lenient arrowPrimitiveFields

def decodeArrowPrimitive : Decoder ArrowPrimitive := arrowPrimitiveLoop.decode

theorem decodeArrowPrimitive_write (hexact : ColorExact) {p : ArrowPrimitive}
    (hlen : (writeArrowPrimitive p).length < 2 ^ 64) :
    decodeArrowPrimitive (writeArrowPrimitive p) {} = (true, p) := by
  have hbuild : Rebuilds arrowPrimitiveFields (writeArrowPrimitive p) {} p := by
    iterate 5 apply Rebuilds.append
    · exact .message (by decide) rfl (decodePose_writePose _) rfl
    · exact .fixed64 (by decide) rfl rfl
    · exact .fixed64 (by decide) rfl rfl
    · exact .fixed64 (by decide) rfl rfl
    · exact .fixed64 (by decide) rfl rfl
    · exact .message (by decide) rfl (decodeColor_writeColor hexact _) rfl
  exact Rebuilds.decode hbuild hlen

def writeCubePrimitive (p : CubePrimitive) : Bytes :=
  Writer.message 1 (writePose p.pose) ++
    Writer.message 2 (writeVector3 p.size) ++
    Writer.message 3 (writeColor p.color)

def cubePrimitiveFields : List (FieldDecl CubePrimitive) :=
  [.message 1 decodePose (·.pose) fun pose p => { p with pose },
   .message 2 decodeVector3 (·.size) fun size p => { p with size },
   .message 3 decodeColor (·.color) fun color p => { p with color }]

def cubePrimitiveLoop : FieldLoop CubePrimitive := .lenient cubePrimitiveFields

def decodeCubePrimitive : Decoder CubePrimitive := cubePrimitiveLoop.decode

theorem decodeCubePrimitive_write (hexact : ColorExact) {p : CubePrimitive}
    (hlen : (writeCubePrimitive p).length < 2 ^ 64) :
    decodeCubePrimitive (writeCubePrimitive p) {} = (true, p) := by
  have hbuild : Rebuilds cubePrimitiveFields (writeCubePrimitive p) {} p := by
    iterate 2 apply Rebuilds.append
    · exact .message (by decide) rfl (decodePose_writePose _) rfl
    · exact .message (by decide) rfl (decodeVector3_writeVector3 _) rfl
    · exact .message (by decide) rfl (decodeColor_writeColor hexact _) rfl
  exact Rebuilds.decode hbuild hlen

/-- Same wire shape as the cube. -/
def writeSpherePrimitive (p : SpherePrimitive) : Bytes :=
  Writer.message 1 (writePose p.pose) ++
    Writer.message 2 (writeVector3 p.size) ++
    Writer.message 3 (writeColor p.color)

def spherePrimitiveFields : List (FieldDecl SpherePrimitive) :=
  [.message 1 decodePose (·.pose) fun pose p => { p with pose },
   .message 2 decodeVector3 (·.size) fun size p => { p with size },
   .message 3 decodeColor (·.color) fun color p => { p with color }]

def spherePrimitiveLoop : FieldLoop SpherePrimitive := .lenient spherePrimitiveFields

def decodeSpherePrimitive : Decoder SpherePrimitive := spherePrimitiveLoop.decode

theorem decodeSpherePrimitive_write (hexact : ColorExact) {p : SpherePrimitive}
    (hlen : (writeSpherePrimitive p).length < 2 ^ 64) :
    decodeSpherePrimitive (writeSpherePrimitive p) {} = (true, p) := by
  have hbuild : Rebuilds spherePrimitiveFields (writeSpherePrimitive p) {} p := by
    iterate 2 apply Rebuilds.append
    · exact .message (by decide) rfl (decodePose_writePose _) rfl
    · exact .message (by decide) rfl (decodeVector3_writeVector3 _) rfl
    · exact .message (by decide) rfl (decodeColor_writeColor hexact _) rfl
  exact Rebuilds.decode hbuild hlen

def writeCylinderPrimitive (p : CylinderPrimitive) : Bytes :=
  Writer.message 1 (writePose p.pose) ++
    Writer.message 2 (writeVector3 p.size) ++
    Writer.doubleField 3 p.bottomScale ++
    Writer.doubleField 4 p.topScale ++
    Writer.message 5 (writeColor p.color)

def cylinderPrimitiveFields : List (FieldDecl CylinderPrimitive) :=
  [.message 1 decodePose (·.pose) fun pose p => { p with pose },
   .message 2 decodeVector3 (·.size) fun size p => { p with size },
   .fixed64 3 fun bottomScale p => { p with bottomScale },
   .fixed64 4 fun topScale p => { p with topScale },
   .message 5 decodeColor (·.color) fun color p => { p with color }]

def cylinderPrimitiveLoop : FieldLoop CylinderPrimitive := .lenient cylinderPrimitiveFields

def decodeCylinderPrimitive : Decoder CylinderPrimitive := cylinderPrimitiveLoop.decode

theorem decodeCylinderPrimitive_write (hexact : ColorExact) {p : CylinderPrimitive}
    (hlen : (writeCylinderPrimitive p).length < 2 ^ 64) :
    decodeCylinderPrimitive (writeCylinderPrimitive p) {} = (true, p) := by
  have hbuild : Rebuilds cylinderPrimitiveFields (writeCylinderPrimitive p) {} p := by
    iterate 4 apply Rebuilds.append
    · exact .message (by decide) rfl (decodePose_writePose _) rfl
    · exact .message (by decide) rfl (decodeVector3_writeVector3 _) rfl
    · exact .fixed64 (by decide) rfl rfl
    · exact .fixed64 (by decide) rfl rfl
    · exact .message (by decide) rfl (decodeColor_writeColor hexact _) rfl
  exact Rebuilds.decode hbuild hlen

def writeLinePrimitive (p : LinePrimitive) : Bytes :=
  Writer.varint 1 (lineTypeToWire p.type) ++
    Writer.message 2 (writePose p.pose) ++
    Writer.doubleField 3 p.thickness ++
    Writer.varint 4 (varintOfBool p.scaleInvariant) ++
    (p.points.flatMap fun point => Writer.message 5 (writePoint3 point)) ++
    Writer.message 6 (writeColor p.color) ++
    (p.colors.flatMap fun color => Writer.message 7 (writeColor color)) ++
    Writer.packedFixed32 8 p.indices

def linePrimitiveFields : List (FieldDecl LinePrimitive) :=
  [.varint 1 fun v p => { p with type := lineTypeFromWire v },
   .message 2 decodePose (·.pose) fun pose p => { p with pose },
   .fixed64 3 fun thickness p => { p with thickness },
   .varint 4 fun v p => { p with scaleInvariant := v != 0 },
   .repeated 5 decodePoint3 {} fun f p => { p with points := f p.points },
   .message 6 decodeColor (·.color) fun color p => { p with color },
   .repeated 7 decodeColor {} fun f p => { p with colors := f p.colors },
   .packed 8 Reader.readPackedFixed32 fun indices p => { p with indices := p.indices ++ indices }]

def linePrimitiveLoop : FieldLoop LinePrimitive := .lenient linePrimitiveFields

def decodeLinePrimitive : Decoder LinePrimitive := linePrimitiveLoop.decode

theorem decodeLinePrimitive_write (hexact : ColorExact) {p : LinePrimitive}
    (hlen : (writeLinePrimitive p).length < 2 ^ 64) :
    decodeLinePrimitive (writeLinePrimitive p) {} = (true, p) := by
  have hbuild : Rebuilds linePrimitiveFields (writeLinePrimitive p) {} p := by
    iterate 7 apply Rebuilds.append
    · exact .varint (by decide) rfl rfl
    · exact .message (by decide) rfl (decodePose_writePose _) rfl
    · exact .fixed64 (by decide) rfl rfl
    · exact .varint (by decide) rfl rfl
    · exact .repeated (by decide) rfl (fun _ => rfl) (fun _ _ _ => rfl)
        (fun _ _ => decodePoint3_writePoint3 {}) rfl
    · exact .message (by decide) rfl (decodeColor_writeColor hexact _) rfl
    · exact .repeated (by decide) rfl (fun _ => rfl) (fun _ _ _ => rfl)
        (fun _ _ => decodeColor_writeColor hexact {}) rfl
    · refine .packedFixed32 (by decide) rfl (by simp only [List.append_nil]) ?_
      simp only [lineTypeFromWire_toWire, varintOfBool_ne_zero, List.nil_append]
  exact Rebuilds.decode hbuild hlen

def writeTrianglePrimitive (p : TrianglePrimitive) : Bytes :=
  Writer.message 1 (writePose p.pose) ++
    (p.points.flatMap fun point => Writer.message 2 (writePoint3 point)) ++
    Writer.message 3 (writeColor p.color) ++
    (p.colors.flatMap fun color => Writer.message 4 (writeColor color)) ++
    Writer.packedFixed32 5 p.indices

def trianglePrimitiveFields : List (FieldDecl TrianglePrimitive) :=
  [.message 1 decodePose (·.pose) fun pose p => { p with pose },
   .repeated 2 decodePoint3 {} fun f p => { p with points := f p.points },
   .message 3 decodeColor (·.color) fun color p => { p with color },
   .repeated 4 decodeColor {} fun f p => { p with colors := f p.colors },
   .packed 5 Reader.readPackedFixed32 fun indices p => { p with indices := p.indices ++ indices }]

def trianglePrimitiveLoop : FieldLoop TrianglePrimitive := .lenient trianglePrimitiveFields

def decodeTrianglePrimitive : Decoder TrianglePrimitive := trianglePrimitiveLoop.decode

theorem decodeTrianglePrimitive_write (hexact : ColorExact) {p : TrianglePrimitive}
    (hlen : (writeTrianglePrimitive p).length < 2 ^ 64) :
    decodeTrianglePrimitive (writeTrianglePrimitive p) {} = (true, p) := by
  have hbuild : Rebuilds trianglePrimitiveFields (writeTrianglePrimitive p) {} p := by
    iterate 4 apply Rebuilds.append
    · exact .message (by decide) rfl (decodePose_writePose _) rfl
    · exact .repeated (by decide) rfl (fun _ => rfl) (fun _ _ _ => rfl)
        (fun _ _ => decodePoint3_writePoint3 {}) rfl
    · exact .message (by decide) rfl (decodeColor_writeColor hexact _) rfl
    · exact .repeated (by decide) rfl (fun _ => rfl) (fun _ _ _ => rfl)
        (fun _ _ => decodeColor_writeColor hexact {}) rfl
    · refine .packedFixed32 (by decide) rfl (by simp only [List.append_nil]) ?_
      simp only [List.nil_append]
  exact Rebuilds.decode hbuild hlen

def writeTextPrimitive (p : TextPrimitive) : Bytes :=
  Writer.message 1 (writePose p.pose) ++
    Writer.varint 2 (varintOfBool p.billboard) ++
    Writer.doubleField 3 p.fontSize ++
    Writer.varint 4 (varintOfBool p.scaleInvariant) ++
    Writer.message 5 (writeColor p.color) ++
    Writer.string 6 p.text

def textPrimitiveFields : List (FieldDecl TextPrimitive) :=
  [.message 1 decodePose (·.pose) fun pose p => { p with pose },
   .varint 2 fun v p => { p with billboard := v != 0 },
   .fixed64 3 fun fontSize p => { p with fontSize },
   .varint 4 fun v p => { p with scaleInvariant := v != 0 },
   .message 5 decodeColor (·.color) fun color p => { p with color },
   .bytes 6 fun text p => { p with text }]

def textPrimitiveLoop : FieldLoop TextPrimitive := .lenient textPrimitiveFields

def decodeTextPrimitive : Decoder TextPrimitive := textPrimitiveLoop.decode

theorem decodeTextPrimitive_write (hexact : ColorExact) {p : TextPrimitive}
    (hlen : (writeTextPrimitive p).length < 2 ^ 64) :
    decodeTextPrimitive (writeTextPrimitive p) {} = (true, p) := by
  have hbuild : Rebuilds textPrimitiveFields (writeTextPrimitive p) {} p := by
    iterate 5 apply Rebuilds.append
    · exact .message (by decide) rfl (decodePose_writePose _) rfl
    · exact .varint (by decide) rfl rfl
    · exact .fixed64 (by decide) rfl rfl
    · exact .varint (by decide) rfl rfl
    · exact .message (by decide) rfl (decodeColor_writeColor hexact _) rfl
    · refine .bytes (by decide) rfl ?_
      simp only [varintOfBool_ne_zero]
  exact Rebuilds.decode hbuild hlen

def writeAxesPrimitive (p : AxesPrimitive) : Bytes :=
  Writer.message 1 (writePose p.pose) ++
    Writer.doubleField 2 p.length ++
    Writer.doubleField 3 p.thickness ++
    Writer.varint 4 (varintOfBool p.scaleInvariant)

def axesPrimitiveFields : List (FieldDecl AxesPrimitive) :=
  [.message 1 decodePose (·.pose) fun pose p => { p with pose },
   .fixed64 2 fun length p => { p with length },
   .fixed64 3 fun thickness p => { p with thickness },
   .varint 4 fun v p => { p with scaleInvariant := v != 0 }]

def axesPrimitiveLoop : FieldLoop AxesPrimitive := .lenient axesPrimitiveFields

def decodeAxesPrimitive : Decoder AxesPrimitive := axesPrimitiveLoop.decode

omit [FloatOps] in
theorem decodeAxesPrimitive_write {p : AxesPrimitive}
    (hlen : (writeAxesPrimitive p).length < 2 ^ 64) :
    decodeAxesPrimitive (writeAxesPrimitive p) {} = (true, p) := by
  have hbuild : Rebuilds axesPrimitiveFields (writeAxesPrimitive p) {} p := by
    iterate 3 apply Rebuilds.append
    · exact .message (by decide) rfl (decodePose_writePose _) rfl
    · exact .fixed64 (by decide) rfl rfl
    · exact .fixed64 (by decide) rfl rfl
    · refine .varint (by decide) rfl ?_
      simp only [varintOfBool_ne_zero]
  exact Rebuilds.decode hbuild hlen

/-- Inline model bytes are left out when there are none. -/
def writeModelPrimitive (p : ModelPrimitive) : Bytes :=
  Writer.message 1 (writePose p.pose) ++
    Writer.message 2 (writeVector3 p.scale) ++
    Writer.message 3 (writeColor p.color) ++
    Writer.varint 4 (varintOfBool p.overrideColor) ++
    Writer.string 5 p.url ++
    Writer.string 6 p.mediaType ++
    (if p.data ≠ [] then Writer.bytes 7 p.data else [])

def modelPrimitiveFields : List (FieldDecl ModelPrimitive) :=
  [.message 1 decodePose (·.pose) fun pose p => { p with pose },
   .message 2 decodeVector3 (·.scale) fun scale p => { p with scale },
   .message 3 decodeColor (·.color) fun color p => { p with color },
   .varint 4 fun v p => { p with overrideColor := v != 0 },
   .bytes 5 fun url p => { p with url },
   .bytes 6 fun mediaType p => { p with mediaType },
   .bytes 7 fun data p => { p with data }]

def modelPrimitiveLoop : FieldLoop ModelPrimitive := .lenient modelPrimitiveFields

def decodeModelPrimitive : Decoder ModelPrimitive := modelPrimitiveLoop.decode

theorem decodeModelPrimitive_write (hexact : ColorExact) {p : ModelPrimitive}
    (hlen : (writeModelPrimitive p).length < 2 ^ 64) :
    decodeModelPrimitive (writeModelPrimitive p) {} = (true, p) := by
  have hdata : Rebuilds modelPrimitiveFields (if p.data ≠ [] then Writer.bytes 7 p.data else [])
      { p with data := [] } p := by
    by_cases hempty : p.data = []
    · rw [if_neg (by simpa using hempty)]
      obtain ⟨pose, scale, color, overrideColor, url, mediaType, data⟩ := p
      subst hempty
      exact .nil _
    · rw [if_pos hempty]
      exact .bytes (by decide) rfl rfl
  have hbuild : Rebuilds modelPrimitiveFields (writeModelPrimitive p) {} p := by
    refine .append ?_ hdata
    iterate 5 apply Rebuilds.append
    · exact .message (by decide) rfl (decodePose_writePose _) rfl
    · exact .message (by decide) rfl (decodeVector3_writeVector3 _) rfl
    · exact .message (by decide) rfl (decodeColor_writeColor hexact _) rfl
    · exact .varint (by decide) rfl rfl
    · exact .bytes (by decide) rfl rfl
    · refine .bytes (by decide) rfl ?_
      simp only [varintOfBool_ne_zero]
  exact Rebuilds.decode hbuild hlen

def writeKeyValuePair (kv : KeyValuePair) : Bytes :=
  Writer.string 1 kv.key ++ Writer.string 2 kv.value

def keyValuePairFields : List (FieldDecl KeyValuePair) :=
  [.bytes 1 fun key kv => { kv with key },
   .bytes 2 fun value kv => { kv with value }]

def keyValuePairLoop : FieldLoop KeyValuePair := .lenient keyValuePairFields

def decodeKeyValuePair : Decoder KeyValuePair := keyValuePairLoop.decode

omit [FloatOps] in
theorem decodeKeyValuePair_write {kv : KeyValuePair}
    (hlen : (writeKeyValuePair kv).length < 2 ^ 64) :
    decodeKeyValuePair (writeKeyValuePair kv) {} = (true, kv) := by
  have hbuild : Rebuilds keyValuePairFields (writeKeyValuePair kv) {} kv := by
    apply Rebuilds.append
    · exact .bytes (by decide) rfl rfl
    · exact .bytes (by decide) rfl rfl
  exact Rebuilds.decode hbuild hlen

/-! ## Deletions -/

def SceneEntityDeletion.Kind.code : SceneEntityDeletion.Kind → UInt64
  | .matchingId => 0
  | .all => 1

def deletionTypeFromWire (v : UInt64) : SceneEntityDeletion.Kind :=
  if v = 1 then .all else .matchingId

omit [FloatOps] in
theorem deletionTypeFromWire_code (type : SceneEntityDeletion.Kind) :
    deletionTypeFromWire type.code = type := by
  cases type <;> rfl

def writeSceneEntityDeletion (d : SceneEntityDeletion) : Bytes :=
  Writer.message 1 (writeTimestamp d.timestamp) ++
    Writer.varint 2 d.type.code ++
    Writer.string 3 d.id

def sceneEntityDeletionFields : List (FieldDecl SceneEntityDeletion) :=
  [.message 1 decodeTimestamp (·.timestamp) fun timestamp d => { d with timestamp },
   .varint 2 fun v d => { d with type := deletionTypeFromWire v },
   .bytes 3 fun id d => { d with id }]

def sceneEntityDeletionLoop : FieldLoop SceneEntityDeletion := .lenient sceneEntityDeletionFields

def decodeSceneEntityDeletion : Decoder SceneEntityDeletion := sceneEntityDeletionLoop.decode

omit [FloatOps] in
theorem decodeSceneEntityDeletion_write {d : SceneEntityDeletion}
    (hlen : (writeSceneEntityDeletion d).length < 2 ^ 64) :
    decodeSceneEntityDeletion (writeSceneEntityDeletion d) {} = (true, d) := by
  have hbuild : Rebuilds sceneEntityDeletionFields (writeSceneEntityDeletion d) {} d := by
    iterate 2 apply Rebuilds.append
    · exact .message (by decide) rfl (decodeTimestamp_writeTimestamp _) rfl
    · exact .varint (by decide) rfl rfl
    · refine .bytes (by decide) rfl ?_
      simp only [deletionTypeFromWire_code]
  exact Rebuilds.decode hbuild hlen

/-! ## Entities -/

/-- The lifetime is a duration, which shares the timestamp's wire shape. -/
def writeSceneEntity (e : SceneEntity) : Bytes :=
  Writer.message 1 (writeTimestamp e.timestamp) ++
    Writer.string 2 e.frameId ++
    Writer.string 3 e.id ++
    Writer.message 4 (writeTimestamp e.lifetimeNs) ++
    Writer.varint 5 (varintOfBool e.frameLocked) ++
    (e.metadata.flatMap fun kv => Writer.message 6 (writeKeyValuePair kv)) ++
    (e.arrows.flatMap fun a => Writer.message 7 (writeArrowPrimitive a)) ++
    (e.cubes.flatMap fun c => Writer.message 8 (writeCubePrimitive c)) ++
    (e.spheres.flatMap fun s => Writer.message 9 (writeSpherePrimitive s)) ++
    (e.cylinders.flatMap fun c => Writer.message 10 (writeCylinderPrimitive c)) ++
    (e.lines.flatMap fun l => Writer.message 11 (writeLinePrimitive l)) ++
    (e.triangles.flatMap fun t => Writer.message 12 (writeTrianglePrimitive t)) ++
    (e.texts.flatMap fun t => Writer.message 13 (writeTextPrimitive t)) ++
    (e.models.flatMap fun m => Writer.message 14 (writeModelPrimitive m)) ++
    (e.axes.flatMap fun a => Writer.message 15 (writeAxesPrimitive a))

def sceneEntityFields : List (FieldDecl SceneEntity) :=
  [.message 1 decodeTimestamp (·.timestamp) fun timestamp e => { e with timestamp },
   .bytes 2 fun frameId e => { e with frameId },
   .bytes 3 fun id e => { e with id },
   .message 4 decodeTimestamp (·.lifetimeNs) fun lifetimeNs e => { e with lifetimeNs },
   .varint 5 fun v e => { e with frameLocked := v != 0 },
   .repeated 6 decodeKeyValuePair {} fun f e => { e with metadata := f e.metadata },
   .repeated 7 decodeArrowPrimitive {} fun f e => { e with arrows := f e.arrows },
   .repeated 8 decodeCubePrimitive {} fun f e => { e with cubes := f e.cubes },
   .repeated 9 decodeSpherePrimitive {} fun f e => { e with spheres := f e.spheres },
   .repeated 10 decodeCylinderPrimitive {} fun f e => { e with cylinders := f e.cylinders },
   .repeated 11 decodeLinePrimitive {} fun f e => { e with lines := f e.lines },
   .repeated 12 decodeTrianglePrimitive {} fun f e => { e with triangles := f e.triangles },
   .repeated 13 decodeTextPrimitive {} fun f e => { e with texts := f e.texts },
   .repeated 14 decodeModelPrimitive {} fun f e => { e with models := f e.models },
   .repeated 15 decodeAxesPrimitive {} fun f e => { e with axes := f e.axes }]

def sceneEntityLoop : FieldLoop SceneEntity := .lenient sceneEntityFields

def decodeSceneEntity : Decoder SceneEntity := sceneEntityLoop.decode

theorem decodeSceneEntity_write (hexact : ColorExact) {e : SceneEntity}
    (hlen : (writeSceneEntity e).length < 2 ^ 64) :
    decodeSceneEntity (writeSceneEntity e) {} = (true, e) := by
  have hbuild : Rebuilds sceneEntityFields (writeSceneEntity e) {} e := by
    iterate 14 apply Rebuilds.append
    · exact .message (by decide) rfl (decodeTimestamp_writeTimestamp _) rfl
    · exact .bytes (by decide) rfl rfl
    · exact .bytes (by decide) rfl rfl
    · exact .message (by decide) rfl (decodeTimestamp_writeTimestamp _) rfl
    · exact .varint (by decide) rfl rfl
    · exact .repeated (by decide) rfl (fun _ => rfl) (fun _ _ _ => rfl)
        (fun _ _ => decodeKeyValuePair_write) rfl
    · exact .repeated (by decide) rfl (fun _ => rfl) (fun _ _ _ => rfl)
        (fun _ _ => decodeArrowPrimitive_write hexact) rfl
    · exact .repeated (by decide) rfl (fun _ => rfl) (fun _ _ _ => rfl)
        (fun _ _ => decodeCubePrimitive_write hexact) rfl
    · exact .repeated (by decide) rfl (fun _ => rfl) (fun _ _ _ => rfl)
        (fun _ _ => decodeSpherePrimitive_write hexact) rfl
    · exact .repeated (by decide) rfl (fun _ => rfl) (fun _ _ _ => rfl)
        (fun _ _ => decodeCylinderPrimitive_write hexact) rfl
    · exact .repeated (by decide) rfl (fun _ => rfl) (fun _ _ _ => rfl)
        (fun _ _ => decodeLinePrimitive_write hexact) rfl
    · exact .repeated (by decide) rfl (fun _ => rfl) (fun _ _ _ => rfl)
        (fun _ _ => decodeTrianglePrimitive_write hexact) rfl
    · exact .repeated (by decide) rfl (fun _ => rfl) (fun _ _ _ => rfl)
        (fun _ _ => decodeTextPrimitive_write hexact) rfl
    · exact .repeated (by decide) rfl (fun _ => rfl) (fun _ _ _ => rfl)
        (fun _ _ => decodeModelPrimitive_write hexact) rfl
    · refine .repeated (by decide) rfl (fun _ => rfl) (fun _ _ _ => rfl)
        (fun _ _ => decodeAxesPrimitive_write) ?_
      simp only [varintOfBool_ne_zero, List.nil_append]
  exact Rebuilds.decode hbuild hlen

/-! ## SceneEntities -/

def serializeSceneEntities (entities : SceneEntities) : Bytes :=
  (entities.deletions.flatMap fun d => Writer.message 1 (writeSceneEntityDeletion d)) ++
    (entities.entities.flatMap fun e => Writer.message 2 (writeSceneEntity e))

def sceneEntitiesFields : List (FieldDecl SceneEntities) :=
  [.repeated 1 decodeSceneEntityDeletion {} fun f es => { es with deletions := f es.deletions },
   .repeated 2 decodeSceneEntity {} fun f es => { es with entities := f es.entities }]

def sceneEntitiesLoop : FieldLoop SceneEntities := .strict sceneEntitiesFields

def deserializeSceneEntities (data : Bytes) : Except String SceneEntities :=
  deserializeBatch "SceneEntities" (fun _ => "bad nested message length")
    (fun number =>
      if number = 1 then "SceneEntityDeletion decode failed" else "SceneEntity decode failed")
    sceneEntitiesFields {} data

theorem sceneEntitiesLoop_serializeSceneEntities (hexact : ColorExact) {entities : SceneEntities}
    (hlen : (serializeSceneEntities entities).length < 2 ^ 64) :
    sceneEntitiesLoop.decode (serializeSceneEntities entities) {} = (true, entities) := by
  have hbuild : Rebuilds sceneEntitiesFields (serializeSceneEntities entities) {} entities := by
    apply Rebuilds.append
    · exact .repeated (by decide) rfl (fun _ => rfl) (fun _ _ _ => rfl)
        (fun _ _ => decodeSceneEntityDeletion_write) rfl
    · exact .repeated (by decide) rfl (fun _ => rfl) (fun _ _ _ => rfl)
        (fun _ _ => decodeSceneEntity_write hexact) rfl
  exact hbuild.decode hlen

end PlotJugglerSdk
