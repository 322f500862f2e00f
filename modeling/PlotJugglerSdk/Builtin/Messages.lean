import PlotJugglerSdk.Builtin.AnnotationCodecs
import PlotJugglerSdk.Builtin.FrameCodecs
import PlotJugglerSdk.Builtin.GridCodecs
import PlotJugglerSdk.Builtin.MarkerCodecs
import PlotJugglerSdk.Builtin.SceneCodecs

/-!
# The message types

Every message level of the builtin codecs under one name (`MessageType`), with
its schema — which field numbers it declares, with which kind of payload — and
its decoder (`messageCodec`). `schema_conforms` says that each decoder's table
is its schema: number by number it asks for the wire type of the kind, and
accepts what the kind asks of a payload.

A number of the `.proto` files for which the SDK's structs have no member is
not in the schema: the decoders pass over it.
-/

namespace PlotJugglerSdk

open Wire

variable {α β : Type}

/-! ## Schemas -/

inductive MessageType where
  | timestamp
  | vector2
  | vector3
  | point2
  | point3
  | quaternion
  | pose
  | color
  | pointField
  | image
  | depthImage
  | cameraInfo
  | videoFrame
  | pointCloud
  | compressedPointCloud
  | occupancyGrid
  | occupancyGridUpdate
  | voxelGrid
  | gridMap
  | frameTransform
  | frameTransforms
  | posesInFrame
  | mesh3D
  | robotDescription
  | log
  | annotationColor
  | annotationPoints
  | annotationCircle
  | annotationText
  | imageAnnotations
  | arrowPrimitive
  | cubePrimitive
  | spherePrimitive
  | cylinderPrimitive
  | linePrimitive
  | trianglePrimitive
  | textPrimitive
  | axesPrimitive
  | modelPrimitive
  | keyValuePair
  | sceneEntityDeletion
  | sceneEntity
  | sceneEntities
  | markerColor
  | markerProperty
  | plotMarker
  | plotMarkers
  deriving DecidableEq

inductive FieldKind where
  | varint
  | fixed64
  | fixed32
  | bytes
  | packedFixed32
  | packedDouble
  | doubleArray (size : Nat)
  | message (type : MessageType)
  deriving DecidableEq

def FieldKind.wireType : FieldKind → WireType
  | .varint => .varint
  | .fixed64 => .fixed64
  | .fixed32 => .fixed32
  | _ => .lengthDelimited

open MessageType FieldKind in
def schema : MessageType → List (Nat × FieldKind)
  | .timestamp => [(1, .varint), (2, .varint)]
  | .vector2 | .point2 => [(1, .fixed64), (2, .fixed64)]
  | .vector3 | .point3 => [(1, .fixed64), (2, .fixed64), (3, .fixed64)]
  | .quaternion => [(1, .fixed64), (2, .fixed64), (3, .fixed64), (4, .fixed64)]
  | .pose => [(1, .message .vector3), (2, .message .quaternion)]
  | .color | .annotationColor | .markerColor =>
    [(1, .fixed64), (2, .fixed64), (3, .fixed64), (4, .fixed64)]
  | .pointField => [(1, .bytes), (2, .varint), (3, .varint), (4, .varint)]
  | .image =>
    [(1, .message .timestamp), (2, .varint), (3, .varint), (4, .bytes), (5, .varint),
      (6, .varint), (7, .bytes), (8, .fixed32), (9, .fixed32), (10, .bytes)]
  | .depthImage =>
    [(1, .message .timestamp), (2, .varint), (3, .varint), (4, .bytes), (5, .bytes),
      (6, .doubleArray 9), (7, .bytes), (8, .packedDouble)]
  | .cameraInfo =>
    [(1, .message .timestamp), (2, .bytes), (3, .varint), (4, .varint), (5, .bytes),
      (6, .packedDouble), (7, .doubleArray 9), (8, .doubleArray 9), (9, .doubleArray 12)]
  | .videoFrame => [(1, .message .timestamp), (2, .bytes), (3, .bytes), (4, .bytes)]
  | .pointCloud =>
    [(1, .message .timestamp), (2, .varint), (3, .varint), (4, .varint), (5, .varint),
      (6, .varint), (7, .varint), (8, .message .pointField), (9, .bytes), (10, .bytes)]
  | .compressedPointCloud => [(1, .message .timestamp), (2, .bytes), (3, .bytes), (4, .bytes)]
  | .occupancyGrid =>
    [(1, .message .timestamp), (2, .bytes), (3, .message .pose), (4, .fixed64), (5, .varint),
      (6, .varint), (7, .bytes)]
  | .occupancyGridUpdate =>
    [(1, .message .timestamp), (2, .bytes), (3, .varint), (4, .varint), (5, .varint),
      (6, .varint), (7, .bytes)]
  | .voxelGrid =>
    [(1, .message .timestamp), (2, .bytes), (3, .message .pose), (4, .message .vector3),
      (5, .varint), (6, .varint), (7, .varint), (8, .varint), (9, .varint), (10, .varint),
      (11, .message .pointField), (12, .bytes)]
  | .gridMap =>
    [(1, .message .timestamp), (2, .bytes), (3, .message .pose), (4, .message .vector2),
      (5, .varint), (6, .varint), (7, .varint), (8, .varint), (9, .message .pointField),
      (10, .bytes)]
  | .frameTransform =>
    [(1, .message .timestamp), (2, .bytes), (3, .bytes), (4, .message .vector3),
      (5, .message .quaternion)]
  | .frameTransforms => [(1, .message .frameTransform)]
  | .posesInFrame => [(1, .message .timestamp), (2, .bytes), (3, .message .pose)]
  | .mesh3D =>
    [(1, .message .timestamp), (2, .bytes), (3, .bytes), (4, .message .pose),
      (5, .message .vector3), (6, .bytes), (7, .bytes), (8, .bytes), (9, .message .color),
      (10, .varint)]
  | .robotDescription => [(1, .message .timestamp), (2, .bytes), (3, .bytes), (4, .bytes)]
  | .log => [(1, .message .timestamp), (2, .varint), (3, .bytes), (4, .bytes)]
  | .annotationPoints =>
    [(2, .varint), (3, .message .point2), (4, .message .annotationColor),
      (5, .message .annotationColor), (6, .message .annotationColor), (7, .fixed64)]
  | .annotationCircle =>
    [(2, .message .point2), (3, .fixed64), (4, .fixed64), (5, .message .annotationColor),
      (6, .message .annotationColor)]
  | .annotationText =>
    [(2, .message .point2), (3, .bytes), (4, .fixed64), (5, .message .annotationColor)]
  | .imageAnnotations =>
    [(1, .message .annotationCircle), (2, .message .annotationPoints),
      (3, .message .annotationText), (5, .message .timestamp), (6, .bytes)]
  | .arrowPrimitive =>
    [(1, .message .pose), (2, .fixed64), (3, .fixed64), (4, .fixed64), (5, .fixed64),
      (6, .message .color)]
  | .cubePrimitive | .spherePrimitive =>
    [(1, .message .pose), (2, .message .vector3), (3, .message .color)]
  | .cylinderPrimitive =>
    [(1, .message .pose), (2, .message .vector3), (3, .fixed64), (4, .fixed64),
      (5, .message .color)]
  | .linePrimitive =>
    [(1, .varint), (2, .message .pose), (3, .fixed64), (4, .varint), (5, .message .point3),
      (6, .message .color), (7, .message .color), (8, .packedFixed32)]
  | .trianglePrimitive =>
    [(1, .message .pose), (2, .message .point3), (3, .message .color), (4, .message .color),
      (5, .packedFixed32)]
  | .textPrimitive =>
    [(1, .message .pose), (2, .varint), (3, .fixed64), (4, .varint), (5, .message .color),
      (6, .bytes)]
  | .axesPrimitive => [(1, .message .pose), (2, .fixed64), (3, .fixed64), (4, .varint)]
  | .modelPrimitive =>
    [(1, .message .pose), (2, .message .vector3), (3, .message .color), (4, .varint),
      (5, .bytes), (6, .bytes), (7, .bytes)]
  | .keyValuePair | .markerProperty => [(1, .bytes), (2, .bytes)]
  | .sceneEntityDeletion => [(1, .message .timestamp), (2, .varint), (3, .bytes)]
  | .sceneEntity =>
    [(1, .message .timestamp), (2, .bytes), (3, .bytes), (4, .message .timestamp), (5, .varint),
      (6, .message .keyValuePair), (7, .message .arrowPrimitive), (8, .message .cubePrimitive),
      (9, .message .spherePrimitive), (10, .message .cylinderPrimitive),
      (11, .message .linePrimitive), (12, .message .trianglePrimitive),
      (13, .message .textPrimitive), (14, .message .modelPrimitive),
      (15, .message .axesPrimitive)]
  | .sceneEntities => [(1, .message .sceneEntityDeletion), (2, .message .sceneEntity)]
  | .plotMarker =>
    [(1, .varint), (2, .varint), (3, .varint), (4, .fixed64), (5, .fixed64), (6, .varint),
      (7, .varint), (8, .varint), (9, .bytes), (10, .bytes), (11, .bytes),
      (12, .message .markerColor), (13, .message .markerProperty)]
  | .plotMarkers => [(1, .message .plotMarker)]

/-- The kind of payload a message declares under a number. -/
def kindOf (type : MessageType) (number : Nat) : Option FieldKind := (schema type).lookup number

/-! ## Decoders -/

/-- A decoder as a field loop over parts of its own: it starts them from the
out-parameter and, at the end of the message, makes the value of them. -/
structure MessageCodec where
  Parts : Type
  Value : Type
  loop : FieldLoop Parts
  start : Value → Parts
  complete : Parts → Option Value
  decoder : Decoder Value
  decoder_iff : ∀ {bytes out value}, decoder bytes out = (true, value) ↔
    ∃ parts, loop.decode bytes (start out) = (true, parts) ∧ complete parts = some value

namespace MessageCodec

/-- The loop works on the value itself. -/
def direct (loop : FieldLoop α) : MessageCodec where
  Parts := α
  Value := α
  loop := loop
  start := id
  complete := some
  decoder := loop.decode
  decoder_iff := by simp

/-- As `direct`, from an out-parameter some of whose members are reset first. -/
def resetting (loop : FieldLoop α) (reset : α → α) (decoder : Decoder α)
    (h : ∀ bytes out, decoder bytes out = loop.decode bytes (reset out)) : MessageCodec where
  Parts := α
  Value := α
  loop := loop
  start := reset
  complete := some
  decoder := decoder
  decoder_iff {bytes out value} := by simp [h]

def finishing (loop : FieldLoop α) (start : α) (complete : α → Option β) : MessageCodec where
  Parts := α
  Value := β
  loop := loop
  start _ := start
  complete := complete
  decoder := loop.finish start complete
  decoder_iff {bytes out value} := by
    rw [FieldLoop.finish]
    simp only
    rcases hdecode : loop.decode bytes start with ⟨ok, parts⟩
    cases ok with
    | false => simp
    | true => cases hcomplete : complete parts <;> simp [hcomplete]

end MessageCodec

variable [FloatOps]

def messageCodec : MessageType → MessageCodec
  | .timestamp => .finishing timestampLoop {} combineTimestamp
  | .vector2 => .direct vector2Loop
  | .vector3 => .direct vector3Loop
  | .point2 => .direct point2Loop
  | .point3 => .direct point3Loop
  | .quaternion => .direct quaternionLoop
  | .pose => .direct poseLoop
  | .color => .finishing colorLoop {} fun parts => some parts.color
  | .pointField => .direct pointFieldLoop
  | .image => .direct imageLoop
  | .depthImage => .direct depthImageLoop
  | .cameraInfo => .direct cameraInfoLoop
  | .videoFrame => .direct videoFrameLoop
  | .pointCloud => .direct pointCloudLoop
  | .compressedPointCloud => .direct compressedPointCloudLoop
  | .occupancyGrid => .direct occupancyGridLoop
  | .occupancyGridUpdate => .direct occupancyGridUpdateLoop
  | .voxelGrid => .direct voxelGridLoop
  | .gridMap => .direct gridMapLoop
  | .frameTransform => .direct frameTransformLoop
  | .frameTransforms => .direct frameTransformsLoop
  | .posesInFrame => .direct posesInFrameLoop
  | .mesh3D => .direct mesh3DLoop
  | .robotDescription => .direct robotDescriptionLoop
  | .log => .direct logLoop
  | .annotationColor => .finishing annotationColorLoop { a := .one } fun parts => some parts.color
  | .annotationPoints => .direct pointsAnnotationLoop
  | .annotationCircle => .resetting circleAnnotationLoop _ decodeCircleAnnotation fun _ _ => rfl
  | .annotationText => .resetting textAnnotationLoop _ decodeTextAnnotation fun _ _ => rfl
  | .imageAnnotations => .direct imageAnnotationsLoop
  | .arrowPrimitive => .direct arrowPrimitiveLoop
  | .cubePrimitive => .direct cubePrimitiveLoop
  | .spherePrimitive => .direct spherePrimitiveLoop
  | .cylinderPrimitive => .direct cylinderPrimitiveLoop
  | .linePrimitive => .direct linePrimitiveLoop
  | .trianglePrimitive => .direct trianglePrimitiveLoop
  | .textPrimitive => .direct textPrimitiveLoop
  | .axesPrimitive => .direct axesPrimitiveLoop
  | .modelPrimitive => .direct modelPrimitiveLoop
  | .keyValuePair => .direct keyValuePairLoop
  | .sceneEntityDeletion => .direct sceneEntityDeletionLoop
  | .sceneEntity => .direct sceneEntityLoop
  | .sceneEntities => .direct sceneEntitiesLoop
  | .markerColor => .finishing Marker.colorLoop {} fun parts => some parts.color
  | .markerProperty => .direct propertyLoop
  | .plotMarker => .direct markerLoop
  | .plotMarkers => .direct plotMarkersLoop

/-- A message's decoder accepts the bytes, whatever it decodes into. -/
def Accepts (type : MessageType) (bytes : Bytes) : Prop :=
  ∃ out, ((messageCodec type).decoder bytes out).1 = true

theorem Accepts.decoder {type : MessageType} {bytes : Bytes} (h : Accepts type bytes)
    (out : (messageCodec type).Value) : ((messageCodec type).decoder bytes out).1 = true := by
  obtain ⟨out', hok⟩ := h
  rw [(messageCodec type).decoder.steady bytes out out', hok]

/-! ## Tables conform to schemas -/

/-- What a kind asks of a payload of its wire type; `nested` says what it asks
of a message. -/
def FieldKind.TakesBy (nested : MessageType → Bytes → Prop) : FieldKind → Payload → Prop
  | .packedFixed32, .bytes content => content.length % 4 = 0
  | .packedDouble, .bytes content => content.length % 8 = 0
  | .doubleArray size, .bytes content => content.length = size * 8
  | .message type, .bytes content => nested type content
  | _, _ => True

def FieldKind.Takes : FieldKind → Payload → Prop := FieldKind.TakesBy Accepts

structure Conforms (entry : Nat × FieldKind) (decl : FieldDecl α) : Prop where
  number : decl.number = entry.1
  type : decl.type = entry.2.wireType
  takes : ∀ payload out, payload.type = decl.type →
    ((decl.apply payload out).1 = true ↔ entry.2.Takes payload)
  /-- Of a nested message only what its decoder makes of it counts. -/
  extensional : ∀ type content content', entry.2 = .message type →
    (messageCodec type).decoder.run content = (messageCodec type).decoder.run content' →
      ∀ out, decl.apply (.bytes content) out = decl.apply (.bytes content') out

omit [FloatOps] in
theorem payload_varint {payload : Payload} (h : payload.type = .varint) :
    ∃ value, payload = .varint value := by
  cases payload <;> simp [Payload.type] at h ⊢

omit [FloatOps] in
theorem payload_fixed64 {payload : Payload} (h : payload.type = .fixed64) :
    ∃ bits, payload = .fixed64 bits := by
  cases payload <;> simp [Payload.type] at h ⊢

omit [FloatOps] in
theorem payload_fixed32 {payload : Payload} (h : payload.type = .fixed32) :
    ∃ bits, payload = .fixed32 bits := by
  cases payload <;> simp [Payload.type] at h ⊢

omit [FloatOps] in
theorem payload_bytes {payload : Payload} (h : payload.type = .lengthDelimited) :
    ∃ content, payload = .bytes content := by
  cases payload <;> simp [Payload.type] at h ⊢

namespace Conforms

theorem varint {number : Nat} {set : UInt64 → α → α} :
    Conforms (number, .varint) (.varint number set) where
  number := rfl
  type := rfl
  takes payload out h := by
    obtain ⟨value, rfl⟩ := payload_varint h
    simp [FieldDecl.varint, FieldKind.Takes, FieldKind.TakesBy]
  extensional _ _ _ h := absurd h (by simp)

theorem fixed64 {number : Nat} {set : UInt64 → α → α} :
    Conforms (number, .fixed64) (.fixed64 number set) where
  number := rfl
  type := rfl
  takes payload out h := by
    obtain ⟨value, rfl⟩ := payload_fixed64 h
    simp [FieldDecl.fixed64, FieldKind.Takes, FieldKind.TakesBy]
  extensional _ _ _ h := absurd h (by simp)

theorem fixed32 {number : Nat} {set : UInt32 → α → α} :
    Conforms (number, .fixed32) (.fixed32 number set) where
  number := rfl
  type := rfl
  takes payload out h := by
    obtain ⟨value, rfl⟩ := payload_fixed32 h
    simp [FieldDecl.fixed32, FieldKind.Takes, FieldKind.TakesBy]
  extensional _ _ _ h := absurd h (by simp)

theorem bytes {number : Nat} {set : Bytes → α → α} :
    Conforms (number, .bytes) (.bytes number set) where
  number := rfl
  type := rfl
  takes payload out h := by
    obtain ⟨value, rfl⟩ := payload_bytes h
    simp [FieldDecl.bytes, FieldKind.Takes, FieldKind.TakesBy]
  extensional _ _ _ h := absurd h (by simp)

theorem packed {number : Nat} {kind : FieldKind} {parse : Bytes → Option β} {set : β → α → α}
    (htype : kind.wireType = .lengthDelimited) (hkind : ∀ type, kind ≠ .message type)
    (hparse : ∀ content, (parse content).isSome ↔ kind.Takes (.bytes content)) :
    Conforms (number, kind) (.packed number parse set) where
  number := rfl
  type := htype.symm
  takes payload out h := by
    obtain ⟨content, rfl⟩ := payload_bytes h
    rw [← hparse]
    cases hvalue : parse content <;> simp [FieldDecl.packed, hvalue]
  extensional type _ _ h := absurd h (hkind type)

theorem packedFixed32 {number : Nat} {set : List UInt32 → α → α} :
    Conforms (number, .packedFixed32) (.packed number Reader.readPackedFixed32 set) :=
  packed rfl (by simp) Reader.readPackedFixed32_isSome

theorem packedDouble {number : Nat} {set : List F64 → α → α} :
    Conforms (number, .packedDouble) (.packed number Reader.readPackedDouble set) :=
  packed rfl (by simp) Reader.readPackedDouble_isSome

theorem doubleArray {number size : Nat} {set : List.Vector F64 size → α → α} :
    Conforms (number, .doubleArray size) (.packed number (Reader.readPackedDoubleArray size) set) :=
  packed rfl (by simp) (Reader.readPackedDoubleArray_isSome size)

theorem message {number : Nat} {type : MessageType} {get : α → (messageCodec type).Value}
    {set : (messageCodec type).Value → α → α} :
    Conforms (number, .message type) (.message number (messageCodec type).decoder get set) where
  number := rfl
  type := rfl
  takes payload out h := by
    obtain ⟨content, rfl⟩ := payload_bytes h
    simp only [FieldDecl.message, FieldKind.Takes, FieldKind.TakesBy]
    exact ⟨fun hok => ⟨_, hok⟩, fun haccepts => haccepts.decoder _⟩
  extensional type' content content' h hrun out := by
    obtain rfl := FieldKind.message.inj h
    simp only [FieldDecl.message, hrun]

theorem repeated {number : Nat} {type : MessageType} {init : (messageCodec type).Value}
    {modify : (List (messageCodec type).Value → List (messageCodec type).Value) → α → α} :
    Conforms (number, .message type)
      (.repeated number (messageCodec type).decoder init modify) where
  number := rfl
  type := rfl
  takes payload out h := by
    obtain ⟨content, rfl⟩ := payload_bytes h
    simp only [FieldDecl.repeated, FieldKind.Takes, FieldKind.TakesBy]
    rcases hrun : (messageCodec type).decoder content init with ⟨ok, value⟩
    cases ok with
    | true =>
      have haccepts : Accepts type content := ⟨init, by rw [hrun]⟩
      simpa using haccepts
    | false =>
      have hrejects : ¬Accepts type content := fun haccepts => by
        have hok := haccepts.decoder init
        rw [hrun] at hok
        exact absurd hok (by simp)
      simpa using hrejects
  extensional type' content content' h hrun out := by
    obtain rfl := FieldKind.message.inj h
    simp only [FieldDecl.repeated, hrun]

end Conforms

theorem schema_conforms (type : MessageType) :
    List.Forall₂ Conforms (schema type) (messageCodec type).loop.table := by
  cases type <;> repeat' first
    | exact .nil
    | apply List.Forall₂.cons
    | exact .varint
    | exact .fixed64
    | exact .fixed32
    | exact .bytes
    | exact .packedFixed32
    | exact .packedDouble
    | exact .doubleArray
    | exact .message
    | exact .repeated

theorem lookup_of_conforms {entries : List (Nat × FieldKind)} {table : List (FieldDecl α)}
    (h : List.Forall₂ Conforms entries table) {number : Nat} {kind : FieldKind}
    (hkind : entries.lookup number = some kind) :
    ∃ decl, lookup table number = some decl ∧ Conforms (number, kind) decl := by
  induction h with
  | nil => simp at hkind
  | @cons entry decl entries table hhead htail ih =>
    obtain ⟨entryNumber, entryKind⟩ := entry
    rw [List.lookup_cons] at hkind
    by_cases hnumber : number = entryNumber
    · subst hnumber
      simp only [beq_self_eq_true, Option.some.injEq] at hkind
      subst hkind
      exact ⟨decl, by simp [lookup, hhead.number], hhead⟩
    · simp only [beq_eq_false_iff_ne.mpr hnumber] at hkind
      obtain ⟨decl', hlookup, hconforms⟩ := ih hkind
      refine ⟨decl', ?_, hconforms⟩
      have hne : decl.number ≠ number := by
        rw [hhead.number]
        exact Ne.symm hnumber
      simpa [lookup, hne] using hlookup

theorem lookup_of_conforms_none {entries : List (Nat × FieldKind)} {table : List (FieldDecl α)}
    (h : List.Forall₂ Conforms entries table) {number : Nat}
    (hnone : entries.lookup number = none) : lookup table number = none := by
  induction h with
  | nil => rfl
  | @cons entry decl entries table hhead htail ih =>
    obtain ⟨entryNumber, entryKind⟩ := entry
    rw [List.lookup_cons] at hnone
    by_cases hnumber : number = entryNumber
    · simp [hnumber] at hnone
    · simp only [beq_eq_false_iff_ne.mpr hnumber] at hnone
      have hne : decl.number ≠ number := by
        rw [hhead.number]
        exact Ne.symm hnumber
      simpa [lookup, hne] using ih hnone

/-- The declaration of a number is the one of its kind. -/
theorem lookup_of_kindOf {type : MessageType} {number : Nat} {kind : FieldKind}
    (h : kindOf type number = some kind) :
    ∃ decl, lookup (messageCodec type).loop.table number = some decl ∧
      Conforms (number, kind) decl :=
  lookup_of_conforms (schema_conforms type) h

theorem lookup_of_kindOf_none {type : MessageType} {number : Nat}
    (h : kindOf type number = none) : lookup (messageCodec type).loop.table number = none :=
  lookup_of_conforms_none (schema_conforms type) h

/-- A table refuses a field exactly if its kind does not take the payload. -/
theorem foldField_isSome_iff (type : MessageType) (field : Field)
    (out : (messageCodec type).Parts) :
    (foldField (messageCodec type).loop.table out field).isSome ↔
      ∀ kind, kindOf type field.number = some kind → field.payload.type = kind.wireType →
        kind.Takes field.payload := by
  cases hkind : kindOf type field.number with
  | none =>
    rw [foldField_passed out (declared_eq_none_of_lookup (lookup_of_kindOf_none hkind))]
    simp
  | some kind =>
    obtain ⟨decl, hlookup, hconforms⟩ := lookup_of_kindOf hkind
    simp only [Option.some.injEq, forall_eq']
    by_cases htype : field.payload.type = kind.wireType
    · have hdeclared : declared (messageCodec type).loop.table field.tag = some decl :=
        declared_eq_some.mpr ⟨hlookup, htype.trans hconforms.type.symm⟩
      have htakes := hconforms.takes field.payload out (htype.trans hconforms.type.symm)
      rw [foldField, hdeclared]
      rcases happly : decl.apply field.payload out with ⟨ok, value⟩
      rw [happly] at htakes
      cases ok <;> simp [happly, htype, ← htakes]
    · have hdeclared : declared (messageCodec type).loop.table field.tag = none := by
        rw [declared, Field.tag, hlookup]
        simp [hconforms.type, htype]
      rw [foldField_passed out hdeclared]
      simp [htype]

end PlotJugglerSdk
