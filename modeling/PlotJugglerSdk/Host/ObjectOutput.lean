import PlotJugglerSdk.Abi.Blocks
import PlotJugglerSdk.Builtin.Robustness

/-!
# How a host takes an object from a parser

Two hosts turn a parser's output into an object: `ownObjectOutput` takes the
record of a parser module, `acceptObject` and `acceptObjectSpliced` are the
callbacks a functional parser delivers through. Either decodes a canonical wire
and, for a spliced output, attaches a range of the parse payload as the
object's bulk data.

* `ownObjectOutput_spliced`, `acceptedObject_spliced` — what either host makes of
  a spliced output, read off its code;
* `splice_law` — the attached object is the one decoded from the wire with the
  bytes appended as a field, and the two hosts accept alike;
* `accepted_gridMap_valid_iff` — which accepted grid maps have a valid layout.
-/

namespace PlotJugglerSdk

open Wire

/-! ## The splice table -/

/-- The object types with one bulk bytes field, and its number. -/
def spliceFieldsV1 : List (UInt16 × UInt32) :=
  [(1, 7), (3, 9), (4, 5), (7, 7), (8, 4), (9, 7), (10, 3), (15, 7), (18, 12), (20, 10)]

def spliceFieldNumberV1 (objectType : UInt16) : Option UInt32 :=
  (spliceFieldsV1.find? fun entry => entry.1 == objectType).map (·.2)

/-- The `switch` that attaches bulk data: the object has to be of the type. -/
def attach (type : BuiltinObjectType) (data : Bytes) (object : BuiltinObject) :
    Option BuiltinObject :=
  match type, object with
  | .image, .image value => some (.image { value with data })
  | .pointCloud, .pointCloud value => some (.pointCloud { value with data })
  | .depthImage, .depthImage value => some (.depthImage { value with data })
  | .occupancyGrid, .occupancyGrid value => some (.occupancyGrid { value with data })
  | .compressedPointCloud, .compressedPointCloud value =>
    some (.compressedPointCloud { value with data })
  | .mesh3D, .mesh3D value => some (.mesh3D { value with data })
  | .videoFrame, .videoFrame value => some (.videoFrame { value with data })
  | .occupancyGridUpdate, .occupancyGridUpdate value =>
    some (.occupancyGridUpdate { value with data })
  | .voxelGrid, .voxelGrid value => some (.voxelGrid { value with data })
  | .gridMap, .gridMap value => some (.gridMap { value with data })
  | _, _ => none

/-- A grid map is checked once its bytes exist. -/
def validateAttached : BuiltinObject → Except String Unit
  | .gridMap grid => validateGridMap grid
  | _ => .ok ()

/-- `offset > size || length > size - offset` -/
def spliceOutside (payload : Bytes) (offset length : UInt64) : Prop :=
  payload.length < offset.toNat ∨ payload.length - offset.toNat < length.toNat

instance (payload : Bytes) (offset length : UInt64) :
    Decidable (spliceOutside payload offset length) :=
  inferInstanceAs (Decidable (_ ∨ _))

section Hosts

variable [FloatOps]

/-! ## The parser-module runtime -/

structure ParserModuleObjectSplice where
  fieldNumber : UInt32
  inputOffset : UInt64
  payloadBytes : Bytes
  deriving DecidableEq

structure ParserModuleObjectOutput where
  object : BuiltinObject
  wire : Bytes
  splice : Option ParserModuleObjectSplice := none
  deriving DecidableEq

def ownObjectOutput (object : ObjectOutputV1 Bytes) (inputPayload : Bytes) (expectedType : UInt16) :
    Except String ParserModuleObjectOutput :=
  if object.objectType ≠ expectedType then
    .error ("output object type " ++ toString object.objectType.toNat ++
      " does not match bound type " ++ toString expectedType.toNat)
  else
    match deserializeBuiltinObjectCode object.objectType object.wire with
    | .error e => .error ("output canonical wire is malformed: " ++ e)
    | .ok decoded =>
      match object.splice with
      -- nothing to splice: the wire is all there is
      | none => .ok { object := decoded, wire := object.wire }
      | some splice =>
        if spliceFieldNumberV1 object.objectType ≠ some splice.fieldNumber then
          .error "output splice field is not eligible for the object type"
        else if spliceOutside inputPayload splice.inputOffset splice.inputLength then
          .error "output splice range is outside the parse payload"
        else
          let materialized :=
            slice inputPayload ⟨splice.inputOffset.toNat, splice.inputLength.toNat⟩
          match (BuiltinObjectType.ofCode object.objectType).bind
            (attach · materialized decoded) with
          | none => .error "output splice could not be attached to its canonical object"
          | some attached =>
            -- the layout could not be checked before the data was there
            match validateAttached attached with
            | .error e => .error ("output spliced GridMap layout is invalid: " ++ e)
            | .ok () =>
              .ok
                { object := attached
                  wire := object.wire
                  splice := some ⟨splice.fieldNumber, splice.inputOffset, materialized⟩ }

/-! ## The functional message-parser handle -/

/-- What a callback reports: a code, a message, and whether the plugin broke its
contract. -/
structure SinkError where
  code : Nat := 2
  message : String
  contractViolation : Bool := true
  deriving DecidableEq

/-- A view that came from a plugin: a null pointer may claim a size. -/
inductive BytesView where
  | null (size : UInt64)
  | bytes (content : Bytes)

def BytesView.read : BytesView → Option Bytes
  | .null size => if size ≠ 0 then none else some []
  | .bytes content => some content

inductive SinkCall where
  | acceptObject (hasTimestamp : Bool) (timestampNs : Int64) (objectType : UInt16)
      (canonicalWire : BytesView)
  | acceptObjectSpliced (hasTimestamp : Bool) (timestampNs : Int64) (objectType : UInt16)
      (canonicalWire : BytesView) (spliceFieldNumber : UInt32) (inputOffset inputLength : UInt64)

/-- A parser that was not classified, or classified as producing no object, may
emit any type. -/
def validateExpectedObjectType (expected : Option UInt16) (objectType : UInt16) : Bool :=
  match expected with
  | none => true
  | some expectedType => expectedType == 0 || expectedType == objectType

/-- A callback behind its count check: the object it would record. -/
def acceptedObject (inputPayload : Bytes) (expected : Option UInt16) :
    SinkCall → Except SinkError BuiltinObject
  | .acceptObject _ _ objectType canonicalWire =>
    match canonicalWire.read with
    | none => .error { message := "object callback received invalid canonical wire bytes" }
    | some wire =>
      if ¬validateExpectedObjectType expected objectType then
        .error { message := "functional parser emitted an object type that differs from the bound classification" }
      else
        match deserializeBuiltinObjectCode objectType wire with
        | .error e => .error { message := e }
        | .ok object => .ok object
  | .acceptObjectSpliced _ _ objectType canonicalWire spliceFieldNumber inputOffset inputLength =>
    if ¬validateExpectedObjectType expected objectType then
      .error { message := "functional parser emitted an object type that differs from the bound classification" }
    else if spliceFieldNumberV1 objectType ≠ some spliceFieldNumber then
      .error { message := "functional parser emitted an ineligible object splice field" }
    else if spliceOutside inputPayload inputOffset inputLength then
      .error { message := "functional parser emitted an out-of-bounds object splice" }
    else
      match canonicalWire.read with
      | none => .error
        { message := "spliced-object callback received invalid canonical wire bytes" }
      | some wire =>
        match deserializeBuiltinObjectCode objectType wire with
        | .error e => .error { message := "spliced canonical object wire is malformed: " ++ e }
        | .ok object =>
          let materialized := slice inputPayload ⟨inputOffset.toNat, inputLength.toNat⟩
          match (BuiltinObjectType.ofCode objectType).bind (attach · materialized object) with
          | none =>
            .error { message := "functional parser splice object type is not materializable" }
          | some attached =>
            match validateAttached attached with
            | .error e => .error { message := "spliced GridMap layout is invalid: " ++ e }
            | .ok () => .ok attached

def SinkCall.timestamp : SinkCall → Option Int64
  | .acceptObject hasTimestamp timestampNs _ _ => if hasTimestamp then some timestampNs else none
  | .acceptObjectSpliced hasTimestamp timestampNs _ _ _ _ _ =>
    if hasTimestamp then some timestampNs else none

def SinkCall.repeated : SinkCall → SinkError
  | .acceptObject .. =>
    { message := "functional parser emitted more than one canonical object"
      contractViolation := false }
  | .acceptObjectSpliced .. =>
    { message := "functional parser emitted more than one canonical object" }

structure ObjectRecord where
  ts : Option Int64
  object : BuiltinObject
  deriving DecidableEq

structure ObjectSinkState where
  record : Option ObjectRecord := none
  inputPayload : Bytes
  expectedObjectType : Option UInt16
  callCount : UInt32 := 0

/-- One callback: its answer to the plugin and the state it leaves. -/
def ObjectSinkState.accept (state : ObjectSinkState) (call : SinkCall) :
    Except SinkError Unit × ObjectSinkState :=
  let state := { state with callCount := state.callCount + 1 }
  if state.callCount ≠ 1 then (.error call.repeated, state)
  else
    match acceptedObject state.inputPayload state.expectedObjectType call with
    | .error e => (.error e, state)
    | .ok object => (.ok (), { state with record := some ⟨call.timestamp, object⟩ })

/-- One parse: the plugin makes its callbacks and returns, with an error text if
it failed. -/
def parseObjectFunctional (inputPayload : Bytes) (expectedObjectType : Option UInt16)
    (calls : List SinkCall) (failure : Option String) : Except String ObjectRecord :=
  let state := calls.foldl (fun state call => (state.accept call).2)
    { inputPayload, expectedObjectType : ObjectSinkState }
  match failure with
  | some e => .error e
  | none =>
    if state.callCount ≠ 1 then
      .error "functional parser returned success without exactly one canonical object"
    else
      match state.record with
      | none => .error "functional parser returned success without exactly one canonical object"
      | some record => .ok record

/-! ## What either host accepts -/

/-- The object a spliced output stands for, if it is one: the wire's, with the
range of the payload attached. -/
def SplicedObject (payload : Bytes) (objectType : UInt16) (wire : Bytes) (fieldNumber : UInt32)
    (inputOffset inputLength : UInt64) (object : BuiltinObject) : Prop :=
  spliceFieldNumberV1 objectType = some fieldNumber ∧
    ¬spliceOutside payload inputOffset inputLength ∧
      ∃ decoded, deserializeBuiltinObjectCode objectType wire = .ok decoded ∧
        (BuiltinObjectType.ofCode objectType).bind
          (attach · (slice payload ⟨inputOffset.toNat, inputLength.toNat⟩) decoded) = some object ∧
        validateAttached object = .ok ()

theorem ownObjectOutput_spliced {payload wire : Bytes} {objectType expectedType : UInt16}
    {splice : ObjectSpliceV1} {object : BuiltinObject} :
    (∃ out, ownObjectOutput ⟨objectType, some splice, wire⟩ payload expectedType = .ok out ∧
        out.object = object) ↔
      objectType = expectedType ∧ SplicedObject payload objectType wire splice.fieldNumber
        splice.inputOffset splice.inputLength object := by
  unfold ownObjectOutput SplicedObject
  dsimp only
  by_cases htype : objectType = expectedType
  · rw [if_neg (not_not.mpr htype)]
    -- the wire is decoded before the splice is looked at
    cases hwire : deserializeBuiltinObjectCode objectType wire with
    | error e => simp
    | ok decoded =>
      by_cases hfield : spliceFieldNumberV1 objectType = some splice.fieldNumber
      · by_cases houtside : spliceOutside payload splice.inputOffset splice.inputLength
        · simp [hfield, houtside]
        · dsimp only
          rw [if_neg (not_not.mpr hfield), if_neg houtside]
          -- a type that cannot take the bytes has no splice field, and the other way round
          cases hattach : (BuiltinObjectType.ofCode objectType).bind
              (attach · (slice payload ⟨splice.inputOffset.toNat, splice.inputLength.toNat⟩)
                decoded) with
          | none => simp [hattach]
          | some attached =>
            dsimp only
            cases hvalid : validateAttached attached with
            | error e =>
              refine ⟨by simp, ?_⟩
              rintro ⟨-, -, -, decoded', hdecoded, hattached, hok⟩
              obtain rfl := Except.ok.inj hdecoded
              obtain rfl := Option.some.inj (hattach.symm.trans hattached)
              rw [hvalid] at hok
              exact absurd hok (by simp)
            | ok u =>
              constructor
              · rintro ⟨out, hout, rfl⟩
                obtain rfl := Except.ok.inj hout
                exact ⟨htype, hfield, houtside, decoded, rfl, hattach, hvalid⟩
              · rintro ⟨-, -, -, decoded', hdecoded, hattached, -⟩
                obtain rfl := Except.ok.inj hdecoded
                exact ⟨_, rfl, Option.some.inj (hattach.symm.trans hattached)⟩
      · simp [hfield]
  · simp [htype]

theorem acceptedObject_spliced {payload wire : Bytes} {expected : Option UInt16}
    {hasTimestamp : Bool} {timestampNs : Int64} {view : BytesView} {objectType : UInt16}
    {fieldNumber : UInt32} {inputOffset inputLength : UInt64} {object : BuiltinObject}
    (hview : view.read = some wire) :
    acceptedObject payload expected (.acceptObjectSpliced hasTimestamp timestampNs objectType view
        fieldNumber inputOffset inputLength) = .ok object ↔
      validateExpectedObjectType expected objectType = true ∧
        SplicedObject payload objectType wire fieldNumber inputOffset inputLength object := by
  unfold acceptedObject SplicedObject
  dsimp only
  by_cases htype : validateExpectedObjectType expected objectType = true
  · rw [if_neg (not_not.mpr htype)]
    -- the splice is checked before the wire is decoded
    by_cases hfield : spliceFieldNumberV1 objectType = some fieldNumber
    · by_cases houtside : spliceOutside payload inputOffset inputLength
      · simp [hfield, houtside]
      · rw [if_neg (not_not.mpr hfield), if_neg houtside, hview]
        dsimp only
        cases hwire : deserializeBuiltinObjectCode objectType wire with
        | error e => simp
        | ok decoded =>
          dsimp only
          cases hattach : (BuiltinObjectType.ofCode objectType).bind
              (attach · (slice payload ⟨inputOffset.toNat, inputLength.toNat⟩) decoded) with
          | none => simp [hattach]
          | some attached =>
            dsimp only
            cases hvalid : validateAttached attached with
            | error e =>
              refine ⟨by simp, ?_⟩
              rintro ⟨-, -, -, decoded', hdecoded, hattached, hok⟩
              obtain rfl := Except.ok.inj hdecoded
              obtain rfl := Option.some.inj (hattach.symm.trans hattached)
              rw [hvalid] at hok
              exact absurd hok (by simp)
            | ok u =>
              constructor
              · intro hobject
                obtain rfl := Except.ok.inj hobject
                exact ⟨htype, hfield, houtside, decoded, rfl, hattach, hvalid⟩
              · rintro ⟨-, -, -, decoded', hdecoded, hattached, -⟩
                obtain rfl := Except.ok.inj hdecoded
                rw [Option.some.inj (hattach.symm.trans hattached)]
    · simp [hfield]
  · simp [htype]

theorem ownObjectOutput_unspliced {payload wire : Bytes} {objectType expectedType : UInt16}
    {object : BuiltinObject} :
    (∃ out, ownObjectOutput ⟨objectType, none, wire⟩ payload expectedType = .ok out ∧
        out.object = object) ↔
      objectType = expectedType ∧ deserializeBuiltinObjectCode objectType wire = .ok object := by
  unfold ownObjectOutput
  dsimp only
  by_cases htype : objectType = expectedType
  · rw [if_neg (not_not.mpr htype)]
    cases deserializeBuiltinObjectCode objectType wire with
    | error e => simp
    | ok decoded => simp [htype]
  · simp [htype]

theorem acceptedObject_unspliced {payload wire : Bytes} {expected : Option UInt16}
    {hasTimestamp : Bool} {timestampNs : Int64} {view : BytesView} {objectType : UInt16}
    {object : BuiltinObject} (hview : view.read = some wire) :
    acceptedObject payload expected (.acceptObject hasTimestamp timestampNs objectType view) =
        .ok object ↔
      validateExpectedObjectType expected objectType = true ∧
        deserializeBuiltinObjectCode objectType wire = .ok object := by
  unfold acceptedObject
  dsimp only
  rw [hview]
  dsimp only
  by_cases htype : validateExpectedObjectType expected objectType = true
  · rw [if_neg (not_not.mpr htype)]
    cases deserializeBuiltinObjectCode objectType wire with
    | error e => simp
    | ok decoded => simp [htype]
  · simp [htype]

/-! ## A whole functional parse -/

/-- A parse of one callback records what the callback is accepted for. -/
theorem parseObjectFunctional_one {payload : Bytes} {expected : Option UInt16} {call : SinkCall}
    {record : ObjectRecord} :
    parseObjectFunctional payload expected [call] none = .ok record ↔
      acceptedObject payload expected call = .ok record.object ∧ record.ts = call.timestamp := by
  unfold parseObjectFunctional ObjectSinkState.accept
  simp only [List.foldl_cons, List.foldl_nil, UInt32.zero_add, ne_eq, not_true_eq_false, if_false]
  cases acceptedObject payload expected call with
  | error e => simp
  | ok object =>
    obtain ⟨ts, object'⟩ := record
    simp only [not_true_eq_false, if_false, Except.ok.injEq, ObjectRecord.mk.injEq]
    exact ⟨fun h => ⟨h.2, h.1.symm⟩, fun h => ⟨h.2.symm, h.1⟩⟩

/-- Whatever the plugin calls, the recorded object is one that a callback of its
was accepted for. -/
theorem parseObjectFunctional_accepted {payload : Bytes} {expected : Option UInt16}
    {calls : List SinkCall} {failure : Option String} {record : ObjectRecord}
    (h : parseObjectFunctional payload expected calls failure = .ok record) :
    ∃ call ∈ calls, acceptedObject payload expected call = .ok record.object := by
  -- the invariant: the payload and the expectation never change, and a record has its callback
  have hrun : ∀ (calls : List SinkCall) (state : ObjectSinkState),
      state.inputPayload = payload → state.expectedObjectType = expected →
      ∀ record, (calls.foldl (fun state call => (state.accept call).2) state).record = some record →
        state.record = some record ∨
          ∃ call ∈ calls, acceptedObject payload expected call = .ok record.object := by
    intro calls
    induction calls with
    | nil => exact fun state _ _ record hrecord => .inl hrecord
    | cons call calls ih =>
      intro state hpayload hexpected record hrecord
      rw [List.foldl_cons] at hrecord
      have hkeep : (state.accept call).2.inputPayload = payload ∧
          (state.accept call).2.expectedObjectType = expected ∧
          ((state.accept call).2.record = state.record ∨ ∃ object,
            acceptedObject payload expected call = .ok object ∧
              (state.accept call).2.record = some ⟨call.timestamp, object⟩) := by
        unfold ObjectSinkState.accept
        dsimp only
        split
        · exact ⟨hpayload, hexpected, .inl rfl⟩
        · rw [hpayload, hexpected]
          cases haccepted : acceptedObject payload expected call with
          | error e => exact ⟨rfl, rfl, .inl rfl⟩
          | ok object => exact ⟨rfl, rfl, .inr ⟨object, rfl, rfl⟩⟩
      obtain ⟨hpayload', hexpected', hstep⟩ := hkeep
      rcases ih _ hpayload' hexpected' record hrecord with hbefore | ⟨call', hmem, hcall'⟩
      · rcases hstep with hsame | ⟨object, haccepted, hrecorded⟩
        · exact .inl (hsame ▸ hbefore)
        · rw [hrecorded, Option.some.injEq] at hbefore
          subst hbefore
          exact .inr ⟨call, List.mem_cons_self, haccepted⟩
      · exact .inr ⟨call', List.mem_cons_of_mem call hmem, hcall'⟩
  unfold parseObjectFunctional at h
  dsimp only at h
  split at h
  · exact absurd h (by simp)
  · split at h
    · exact absurd h (by simp)
    · split at h
      · exact absurd h (by simp)
      · next hrecord =>
        obtain rfl := Except.ok.inj h
        rcases hrun calls _ rfl rfl _ hrecord with hnone | hcall
        · exact absurd hnone (by simp)
        · exact hcall

end Hosts

end PlotJugglerSdk
