import PlotJugglerSdk.Builtin.Objects
import PlotJugglerSdk.Json.Value
import Mathlib.Data.Finset.Basic
import Mathlib.Data.List.TakeWhile

/-!
# Parser claims

A parser claim says that a provider can parse the messages of one encoding and
one type, or of every type (`*`). A claim enters the catalog only after
`normalizeAndValidateClaim`, which rewrites its type name to the one spelling
its encoding has for it and checks everything else.

`Validated` is what the rules add up to. A claim that passes comes out validated
(`normalizeAndValidateClaim_validated`), and a validated claim passes unchanged
(`Validated.normalizeAndValidateClaim`).
-/

namespace PlotJugglerSdk

open Wire Json

/-! ## Built-in object types by name -/

namespace BuiltinObjectType

def name : BuiltinObjectType → String
  | none => "kNone"
  | image => "kImage"
  | pointCloud => "kPointCloud"
  | depthImage => "kDepthImage"
  | imageAnnotations => "kImageAnnotations"
  | frameTransforms => "kFrameTransforms"
  | occupancyGrid => "kOccupancyGrid"
  | compressedPointCloud => "kCompressedPointCloud"
  | mesh3D => "kMesh3D"
  | videoFrame => "kVideoFrame"
  | sceneEntities => "kSceneEntities"
  | robotDescription => "kRobotDescription"
  | cameraInfo => "kCameraInfo"
  | occupancyGridUpdate => "kOccupancyGridUpdate"
  | log => "kLog"
  | posesInFrame => "kPosesInFrame"
  | voxelGrid => "kVoxelGrid"
  | plotMarkers => "kPlotMarkers"
  | gridMap => "kGridMap"

def all : List BuiltinObjectType :=
  [none, image, pointCloud, depthImage, imageAnnotations, frameTransforms, occupancyGrid,
    compressedPointCloud, mesh3D, videoFrame, sceneEntities, robotDescription, cameraInfo,
    occupancyGridUpdate, log, posesInFrame, voxelGrid, plotMarkers, gridMap]

end BuiltinObjectType

def parseBuiltinObjectType (s : Bytes) : Option BuiltinObjectType :=
  BuiltinObjectType.all.find? fun type => s = text type.name

/-- A number outside the enumeration has the name of `kNone`. -/
def isKnownObjectType (objectType : UInt16) : Bool :=
  objectType ≠ BuiltinObjectType.none.code ∧
    (parseBuiltinObjectType
      (text ((BuiltinObjectType.ofCode objectType).getD .none).name)).map BuiltinObjectType.code =
        some objectType

/-! ## Type names -/

def kRegisteredEncodings : List Bytes :=
  [text "bson", text "cbor", text "data_tamer", text "json", text "msgpack", text "omgidl",
    text "protobuf", text "ros1", text "ros1msg", text "ros2", text "ros2msg"]

def isRegisteredParserEncoding (encoding : Bytes) : Bool := encoding ∈ kRegisteredEncodings

/-- The wildcard type name. -/
def kAnyType : Bytes := text "*"

def kSlash : UInt8 := 0x2F

def kDot : UInt8 := 0x2E

def isIdentifierStart (value : UInt8) : Bool :=
  (0x41 ≤ value ∧ value ≤ 0x5A) ∨ (0x61 ≤ value ∧ value ≤ 0x7A) ∨ value = 0x5F

def isIdentifierContinuation (value : UInt8) : Bool :=
  isIdentifierStart value ∨ (0x30 ≤ value ∧ value ≤ 0x39)

def isProtobufComponent : Bytes → Bool
  | [] => false
  | front :: rest => isIdentifierStart front && rest.all isIdentifierContinuation

/-- The loop takes the components off at the dots. An empty name and a name with
a trailing dot fall out of it, and both have an empty component. -/
def isProtobufFullName (name : Bytes) : Bool := (name.splitOn kDot).all isProtobufComponent

def kRos2TypeError : Bytes := text "ros2msg type_name must be pkg/Type or pkg/msg/Type"

def normalizeRos2TypeName (typeName : Bytes) : Except Bytes Bytes :=
  match typeName.span (· ≠ kSlash) with
  | (package, _ :: name) =>
    if package = [] ∨ name = [] then .error kRos2TypeError
    else
      match name.span (· ≠ kSlash) with
      | (_, []) => .ok (package ++ text "/msg/" ++ name)
      | (middle, _ :: type) =>
        if middle ≠ text "msg" ∨ type = [] ∨ kSlash ∈ type then .error kRos2TypeError
        else .ok typeName
  | (_, []) => .error kRos2TypeError

def normalizeProtobufTypeName (typeName : Bytes) : Except Bytes Bytes :=
  let name := if typeName.head? = some kDot then typeName.tail else typeName
  if isProtobufFullName name then .ok name
  else .error (text "protobuf type_name must be a full dotted message name")

def normalizeParserTypeName (encoding typeName : Bytes) : Except Bytes Bytes :=
  if !isRegisteredParserEncoding encoding then
    .error (text "cannot normalize type name for unknown encoding: " ++ encoding)
  else if typeName = [] then .error (text "parser claim type_name must not be empty")
  else if typeName = kAnyType then .ok typeName
  else if encoding = text "ros2msg" then normalizeRos2TypeName typeName
  else if encoding = text "protobuf" then normalizeProtobufTypeName typeName
  else .ok typeName

/-! Normalizing is idempotent. -/

/-- A text is split at its first separator. -/
theorem span_ne_append {separator : UInt8} {front rest : Bytes} (h : separator ∉ front) :
    (front ++ separator :: rest).span (· ≠ separator) = (front, separator :: rest) := by
  induction front with
  | nil => simp [List.span_eq_takeWhile_dropWhile]
  | cons b front ih =>
    rw [List.mem_cons, not_or] at h
    have hb : b ≠ separator := fun hb => h.1 hb.symm
    have ih' := ih h.2
    rw [List.span_eq_takeWhile_dropWhile] at ih' ⊢
    rw [Prod.mk.injEq] at ih' ⊢
    simpa [hb] using ih'

theorem span_ne_eq {separator : UInt8} {s front rest : Bytes}
    (h : s.span (· ≠ separator) = (front, rest)) :
    separator ∉ front ∧ s = front ++ rest ∧ rest.head?.all (· = separator) := by
  rw [List.span_eq_takeWhile_dropWhile, Prod.mk.injEq] at h
  obtain ⟨rfl, rfl⟩ := h
  refine ⟨?_, List.takeWhile_append_dropWhile.symm, ?_⟩
  · intro hmem
    have hne := List.mem_takeWhile_imp hmem
    simp at hne
  · cases hdrop : s.dropWhile (· ≠ separator) with
    | nil => rfl
    | cons b rest =>
      have hb := List.head?_dropWhile_not (fun b => decide (b ≠ separator)) s
      rw [hdrop] at hb
      simpa using hb

/-- What comes out of `normalizeRos2TypeName` has exactly two slashes. -/
theorem normalizeRos2TypeName_ok {typeName normal : Bytes}
    (h : normalizeRos2TypeName typeName = .ok normal) :
    ∃ package name, normal = package ++ kSlash :: (text "msg" ++ kSlash :: name) ∧
      package ≠ [] ∧ name ≠ [] ∧ kSlash ∉ package ∧ kSlash ∉ name := by
  unfold normalizeRos2TypeName at h
  split at h
  next package first name hspan =>
    obtain ⟨hpackage, htype, hfirst⟩ := span_ne_eq hspan
    obtain rfl : first = kSlash := by simpa using hfirst
    split at h
    · exact absurd h (by simp)
    next hne =>
      rw [not_or] at hne
      split at h
      -- no second slash: the short spelling, which is completed
      next name' hspan' =>
        obtain ⟨hslash, hname, -⟩ := span_ne_eq hspan'
        rw [List.append_nil] at hname
        subst hname
        refine ⟨package, name, ?_, hne.1, hne.2, hpackage, hslash⟩
        rw [← Except.ok.inj h, List.append_assoc]
        rfl
      -- a second slash: the long spelling, which has to be the canonical one
      next middle second type hspan' =>
        obtain ⟨-, hname, hsecond⟩ := span_ne_eq hspan'
        obtain rfl : second = kSlash := by simpa using hsecond
        split at h
        · exact absurd h (by simp)
        next hlong =>
          simp only [not_or, not_not] at hlong
          refine ⟨package, type, ?_, hne.1, hlong.2.1, hpackage, hlong.2.2⟩
          rw [← Except.ok.inj h, htype, hname, hlong.1]
  · exact absurd h (by simp)

theorem normalizeRos2TypeName_normal {package name : Bytes} (hpackage : package ≠ [])
    (hname : name ≠ []) (hfront : kSlash ∉ package) (hback : kSlash ∉ name) :
    normalizeRos2TypeName (package ++ kSlash :: (text "msg" ++ kSlash :: name)) =
      .ok (package ++ kSlash :: (text "msg" ++ kSlash :: name)) := by
  have hmsg : kSlash ∉ text "msg" := by decide
  have hrest : text "msg" ++ kSlash :: name ≠ [] := by simp
  unfold normalizeRos2TypeName
  rw [span_ne_append hfront]
  dsimp only
  rw [if_neg (by simp [hpackage, hrest]), span_ne_append hmsg]
  dsimp only
  rw [if_neg (by simp [hname, hback])]

/-- A full name starts with an identifier, so no dot is taken off it. -/
theorem isProtobufFullName_head {name : Bytes} (h : isProtobufFullName name = true) :
    name.head? ≠ some kDot ∧ name ≠ [] := by
  refine ⟨?_, ?_⟩
  · intro hhead
    cases name with
    | nil => simp at hhead
    | cons front rest =>
      obtain rfl : front = kDot := by simpa using hhead
      unfold isProtobufFullName at h
      rw [List.splitOn, List.splitOnP_cons_eq_if_modifyHead] at h
      simp [isProtobufComponent] at h
  · rintro rfl
    exact absurd h (by decide)

theorem normalizeProtobufTypeName_ok {typeName normal : Bytes}
    (h : normalizeProtobufTypeName typeName = .ok normal) :
    normal ≠ [] ∧ normal ≠ kAnyType ∧ normalizeProtobufTypeName normal = .ok normal := by
  have hfull : isProtobufFullName normal = true := by
    unfold normalizeProtobufTypeName at h
    generalize (if typeName.head? = some kDot then typeName.tail else typeName) = name at h
    dsimp only at h
    split at h
    next hfull => exact Except.ok.inj h ▸ hfull
    next => exact absurd h (by simp)
  obtain ⟨hhead, hne⟩ := isProtobufFullName_head hfull
  refine ⟨hne, ?_, ?_⟩
  · rintro rfl
    exact absurd hfull (by decide)
  · unfold normalizeProtobufTypeName
    rw [if_neg hhead]
    exact if_pos hfull

/-- Normalizing is idempotent. -/
theorem normalizeParserTypeName_normal {encoding typeName normal : Bytes}
    (h : normalizeParserTypeName encoding typeName = .ok normal) :
    normalizeParserTypeName encoding normal = .ok normal := by
  unfold normalizeParserTypeName at h
  split at h
  · exact absurd h (by simp)
  next hencoding =>
    have hsteps (hne : normal ≠ []) (hany : normal ≠ kAnyType) :
        normalizeParserTypeName encoding normal =
          if encoding = text "ros2msg" then normalizeRos2TypeName normal
          else if encoding = text "protobuf" then normalizeProtobufTypeName normal
          else .ok normal := by
      unfold normalizeParserTypeName
      rw [if_neg hencoding, if_neg hne, if_neg hany]
    split at h
    · exact absurd h (by simp)
    next hne =>
      split at h
      next hany =>
        obtain rfl := Except.ok.inj h
        unfold normalizeParserTypeName
        rw [if_neg hencoding, if_neg hne, if_pos hany]
      next hany =>
        split at h
        next hros =>
          obtain ⟨package, name, rfl, hpackage, hname, hfront, hback⟩ :=
            normalizeRos2TypeName_ok h
          -- two slashes, so it is not the wildcard
          have hstar : package ++ kSlash :: (text "msg" ++ kSlash :: name) ≠ kAnyType := by
            intro heq
            have hslash : kSlash ∈ kAnyType := heq ▸ by simp
            exact absurd hslash (by decide)
          rw [hsteps (by simp) hstar, if_pos hros]
          exact normalizeRos2TypeName_normal hpackage hname hfront hback
        next hros =>
          split at h
          next hproto =>
            obtain ⟨hne, hany, hnormal⟩ := normalizeProtobufTypeName_ok h
            rw [hsteps hne hany, if_neg hros, if_pos hproto]
            exact hnormal
          next hproto =>
            obtain rfl := Except.ok.inj h
            rw [hsteps hne hany, if_neg hros, if_neg hproto]

/-! ## Claims -/

/-- Where the host found a provider, in the order of trust. -/
inductive ParserClaimProvenance where
  | folderDrop
  | marketplace
  | bundled
  deriving DecidableEq

def ParserClaimProvenance.tier : ParserClaimProvenance → Nat
  | folderDrop => 0
  | marketplace => 1
  | bundled => 2

def kRouteFlagScalar : UInt16 := 1

def kRouteFlagObject : UInt16 := 2

structure ParserClaim where
  encoding : Bytes
  typeName : Bytes
  routeFlags : UInt16 := 0
  /-- The number may be none of the enumeration's. -/
  objectType : Option UInt16 := none
  schemaDigests : Finset Bytes := ∅
  providerId : Bytes
  claimId : Bytes
  priority : Int32 := 0
  provenance : ParserClaimProvenance := .folderDrop
  deriving DecidableEq

structure ParserClaimIdentity where
  providerId : Bytes
  claimId : Bytes
  deriving DecidableEq

def identityOf (claim : ParserClaim) : ParserClaimIdentity := ⟨claim.providerId, claim.claimId⟩

def claimIdentity (claim : ParserClaim) : Bytes := claim.providerId ++ text "/" ++ claim.claimId

def isHexDigit (value : UInt8) : Bool :=
  (0x30 ≤ value ∧ value ≤ 0x39) ∨ (0x61 ≤ value ∧ value ≤ 0x66) ∨ (0x41 ≤ value ∧ value ≤ 0x46)

def isSchemaDigest (digest : Bytes) : Bool :=
  (text "sha256:").isPrefixOf digest && digest.length = 71 && (digest.drop 7).all isHexDigit

def hasObjectRoute (claim : ParserClaim) : Prop := claim.routeFlags &&& kRouteFlagObject ≠ 0

instance (claim : ParserClaim) : Decidable (hasObjectRoute claim) :=
  inferInstanceAs (Decidable (_ ≠ _))

def normalizeAndValidateClaim (claim : ParserClaim) : Except Bytes ParserClaim :=
  if claim.providerId = [] then .error (text "parser claim provider_id must not be empty")
  else if claim.claimId = [] then .error (text "parser claim claim_id must not be empty")
  else if claim.priority < -1000 ∨ claim.priority > 1000 then
    .error (text "parser claim priority is outside the admitted range [-1000,1000]: " ++
      claimIdentity claim)
  else if !isRegisteredParserEncoding claim.encoding then
    .error (text "parser claim uses unknown encoding: " ++ claim.encoding)
  else
    match normalizeParserTypeName claim.encoding claim.typeName with
    | .error e => .error e
    | .ok typeName =>
      -- from here on the claim has its canonical type name
      let claim := { claim with typeName }
      if claim.routeFlags = 0 ∨ claim.routeFlags &&& ~~~(kRouteFlagScalar ||| kRouteFlagObject) ≠ 0
      then .error (text "parser claim route_flags must contain only scalar and/or object")
      else if claim.typeName = kAnyType ∧ hasObjectRoute claim then
        .error (text "parser claim wildcard type_name cannot claim the object route")
      else if hasObjectRoute claim ∧ claim.objectType.isNone then
        .error (text "parser claim object route requires object_type")
      else if ¬hasObjectRoute claim ∧ claim.objectType.isSome then
        .error (text "parser claim object_type is forbidden without the object route")
      else if ¬claim.objectType.all isKnownObjectType then
        .error (text "parser claim uses unknown object_type")
      else if ∃ digest ∈ claim.schemaDigests, ¬isSchemaDigest digest then
        .error (text "parser claim schema_digest must use sha256:<64-hex>")
      else .ok claim

/-- What the rules add up to. -/
structure Validated (claim : ParserClaim) : Prop where
  providerId : claim.providerId ≠ []
  claimId : claim.claimId ≠ []
  priority : -1000 ≤ claim.priority ∧ claim.priority ≤ 1000
  encoding : isRegisteredParserEncoding claim.encoding = true
  /-- The type name is the normal one. -/
  typeName : normalizeParserTypeName claim.encoding claim.typeName = .ok claim.typeName
  routes : claim.routeFlags ≠ 0 ∧
    claim.routeFlags &&& ~~~(kRouteFlagScalar ||| kRouteFlagObject) = 0
  /-- A wildcard claims the scalar route only. -/
  wildcard : claim.typeName = kAnyType → ¬hasObjectRoute claim
  objectType : claim.objectType.isSome ↔ hasObjectRoute claim
  knownType : claim.objectType.all isKnownObjectType = true
  digests : ∀ digest ∈ claim.schemaDigests, isSchemaDigest digest = true

theorem Int32.not_outside {value low high : Int32} (h : ¬(value < low ∨ value > high)) :
    low ≤ value ∧ value ≤ high := by
  rw [not_or] at h
  exact ⟨Int32.not_lt.mp h.1, Int32.not_lt.mp h.2⟩

/-- Nothing of a claim changes but its type name, and that to the normal one. -/
theorem normalizeAndValidateClaim_ok {claim normal : ParserClaim}
    (h : normalizeAndValidateClaim claim = .ok normal) :
    ∃ typeName, normalizeParserTypeName claim.encoding claim.typeName = .ok typeName ∧
      normal = { claim with typeName } ∧ Validated normal := by
  unfold normalizeAndValidateClaim at h
  split at h
  · exact absurd h (by simp)
  -- one guard after the other; each leaves the negation that its field needs
  next hprovider =>
  split at h
  · exact absurd h (by simp)
  next hclaim =>
  split at h
  · exact absurd h (by simp)
  next hpriority =>
  split at h
  · exact absurd h (by simp)
  next hencoding =>
  split at h
  · exact absurd h (by simp)
  next typeName htype =>
  dsimp only at h
  split at h
  · exact absurd h (by simp)
  next hroutes =>
  split at h
  · exact absurd h (by simp)
  next hwildcard =>
  split at h
  · exact absurd h (by simp)
  next hrequired =>
  split at h
  · exact absurd h (by simp)
  next hforbidden =>
  split at h
  · exact absurd h (by simp)
  next hknown =>
  split at h
  · exact absurd h (by simp)
  next hdigests =>
  refine ⟨typeName, htype, (Except.ok.inj h).symm, ?_⟩
  obtain rfl := Except.ok.inj h
  exact
    { providerId := hprovider
      claimId := hclaim
      priority := Int32.not_outside hpriority
      encoding := by simpa using hencoding
      typeName := normalizeParserTypeName_normal htype
      routes := by simpa using hroutes
      wildcard := fun hany hobject => hwildcard ⟨hany, hobject⟩
      objectType := by
        constructor
        · intro hsome
          by_contra hnone
          exact hforbidden ⟨hnone, hsome⟩
        · intro hobject
          by_contra hnone
          exact hrequired ⟨hobject, by simpa using hnone⟩
      knownType := by simpa using hknown
      digests := by simpa using hdigests }

/-- A claim that passes comes out validated. -/
theorem normalizeAndValidateClaim_validated {claim normal : ParserClaim}
    (h : normalizeAndValidateClaim claim = .ok normal) : Validated normal := by
  obtain ⟨-, -, -, hvalidated⟩ := normalizeAndValidateClaim_ok h
  exact hvalidated

/-- A validated claim passes unchanged. -/
theorem Validated.normalizeAndValidateClaim {claim : ParserClaim} (h : Validated claim) :
    normalizeAndValidateClaim claim = .ok claim := by
  have hpriority : ¬(claim.priority < -1000 ∨ claim.priority > 1000) := by
    rw [not_or]
    exact ⟨Int32.not_lt.mpr h.priority.1, Int32.not_lt.mpr h.priority.2⟩
  have hrequired : ¬(hasObjectRoute claim ∧ claim.objectType.isNone) := by
    rintro ⟨hobject, hnone⟩
    have hsome := h.objectType.mpr hobject
    rw [Option.isNone_iff_eq_none] at hnone
    rw [hnone] at hsome
    exact absurd hsome (by simp)
  unfold PlotJugglerSdk.normalizeAndValidateClaim
  rw [if_neg h.providerId, if_neg h.claimId, if_neg hpriority, if_neg (by simp [h.encoding]),
    h.typeName]
  dsimp only
  rw [if_neg (by simp [h.routes]), if_neg (fun hw => h.wildcard hw.1 hw.2), if_neg hrequired,
    if_neg (fun hf => hf.1 (h.objectType.mp hf.2)), if_neg (by simp [h.knownType]),
    if_neg (by simpa using h.digests)]

end PlotJugglerSdk
