import PlotJugglerSdk.ParserModule.CdrReader
import PlotJugglerSdk.ParserModule.CdrSchema

/-!
# CdrTraversalPlan

The traversal of a message along its schema. It goes over every field once, without keeping
values, and notes where the fields stand that were asked for; the accessors read them there.

The loop over the elements of a container runs as often as the payload or the schema says,
so here it takes rounds, as many as there are bytes left and one more.

* `minimumSize`              — what a value takes at least
* `walkValue`, `walkStruct`  — the traversal
* `locateAll`                — the whole of it
* `cached`, `u32`, …         — the accessors
-/

namespace PlotJugglerSdk.ParserModule.CdrTraversalPlan

open Wire Scan CdrFieldLocator CdrReader

abbrev Cursor : Type := CdrCursor CachedKind

abbrev Walk (α : Type) : Type := CdrScan CachedKind α

def primitiveSize : CdrValueKind → Nat
  | .bool | .i8 | .u8 => 1
  | .i16 | .u16 => 2
  | .i32 | .u32 | .f32 => 4
  | .i64 | .u64 | .f64 => 8
  | .string | .struct => 1

/-- What a field adds to the minimum of its struct, given that of its type. -/
def fieldMinimum (type : CdrSchemaType) (minimum : Nat) : Except String Nat :=
  match type.container with
  | .sequence => .ok 4
  | .fixedArray =>
    if minimum > sizeMax / type.fixedCount then
      .error "CDR schema minimum size overflows the host size type"
    else .ok (minimum * type.fixedCount)
  | .scalar => .ok minimum

/-- What an element of the type takes at least, with `levels` of nesting left. -/
def minimumSize (structs : List CdrSchemaStruct) :
    (levels : Nat) → CdrSchemaType → Except String Nat
  | levels, type =>
    match type.kind with
    -- the length and the terminator
    | .string => .ok 5
    | .struct =>
      match levels with
      | 0 => .error "CDR schema nesting depth exceeds 64"
      | levels + 1 =>
        (structAt structs type.nestedIndex).fields.foldlM
          (fun total field => do
            let minimum ← minimumSize structs levels field.type
            let fieldMinimum ← fieldMinimum field.type minimum
            if fieldMinimum > sizeMax - total then
              .error "CDR schema minimum size overflows the host size type"
            else return total + fieldMinimum) 0
    | kind => .ok (primitiveSize kind)

/-! ## Values -/

/-- A field that was asked for is noted under its number. -/
def note (requestedId : Option Nat) (cached : CachedField CachedKind) : Walk Unit :=
  match requestedId with
  | none => pure ()
  | some id => modify fun cursor =>
    { cursor with cachedFields := cursor.cachedFields.set id cached }

/-- Bytes that are stepped over, if there are as many. -/
def walkBytes (input : CdrInput) (size : Nat) (requestedId : Option Nat) (message : String) :
    Walk Unit := do
  let cursor ← get
  if size > remaining input cursor then fail message
  else do
    skip size
    note requestedId { kind := .bytes, offset := cursor.position, size, located := true }

def walkString (input : CdrInput) (type : CdrSchemaType) (requestedId : Option Nat) :
    Walk Unit := do
  let length ← readU32 input
  let cursor ← get
  if length = 0 ∨ length.toNat > remaining input cursor then fail "invalid CDR string length"
  else if type.maximumStringLength ≠ 0 ∧ length.toNat - 1 > type.maximumStringLength then
    fail "CDR bounded-string length exceeds its schema maximum"
  else if input.payload[cursor.position + length.toNat - 1]? ≠ some 0 then
    fail "CDR string is not NUL terminated"
  else do
    skip length.toNat
    note requestedId
      { kind := .string, offset := cursor.position, size := length.toNat - 1, located := true }

def walkPrimitive (input : CdrInput) (type : CdrSchemaType) (requestedId : Option Nat) :
    Walk Unit := do
  let width := primitiveSize type.kind
  align input width
  let cursor ← get
  if width > remaining input cursor then fail "truncated CDR primitive while locating fields"
  else if type.kind = .bool ∧ (input.payload.getD cursor.position 0) > 1 then
    fail "CDR bool is not 0 or 1"
  else do
    skip width
    note requestedId
      { kind := cachedKind type, offset := cursor.position, size := width, located := true }

/-- A value that is no container; structs are walked by the function given for them. -/
def walkScalar (input : CdrInput) (walkNested : Nat → Walk Unit) (type : CdrSchemaType)
    (requestedId : Option Nat) : Walk Unit :=
  match type.kind with
  | .struct => walkNested type.nestedIndex
  | .string => walkString input type requestedId
  | _ => walkPrimitive input type requestedId

/-- The loop over the elements of a container. -/
def walkElements (walkElement : Walk Unit) (message : String) : (rounds count : Nat) → Walk Unit
  | _, 0 => pure ()
  | 0, _ + 1 => throw .unfinished
  | rounds + 1, count + 1 => do
    let before ← get
    walkElement
    let cursor ← get
    if cursor.position ≤ before.position then fail message
    else walkElements walkElement message rounds count

def roundsLeft (input : CdrInput) (cursor : Cursor) : Nat := remaining input cursor + 1

/-- How many elements a sequence has, if there can be so many. -/
def sequenceCount (structs : List CdrSchemaStruct) (input : CdrInput) (type : CdrSchemaType)
    (count : UInt32) : Walk Nat := do
  let cursor ← get
  match minimumSize structs kMaxTraversalDepth type with
  | .error e => fail e
  | .ok minimum =>
    if count ≠ 0 ∧ minimum = 0 then fail "CDR sequence element has zero serialized minimum size"
    else if minimum ≠ 0 ∧ count.toNat > remaining input cursor / minimum then
      fail "CDR sequence length exceeds the remaining payload"
    else return count.toNat

def fixedArrayCount (structs : List CdrSchemaStruct) (type : CdrSchemaType) : Walk Nat :=
  match minimumSize structs kMaxTraversalDepth type with
  | .error e => fail e
  | .ok minimum =>
    if type.fixedCount ≠ 0 ∧ minimum = 0 then
      fail "CDR fixed-array element has zero serialized minimum size"
    else return type.fixedCount

/-- A type without its container. -/
def elementType (type : CdrSchemaType) : CdrSchemaType := { type with container := .scalar }

def walkSequence (structs : List CdrSchemaStruct) (input : CdrInput) (walkNested : Nat → Walk Unit)
    (type : CdrSchemaType) (requestedId : Option Nat) : Walk Unit := do
  let count ← readU32 input
  if type.maximumContainerCount ≠ 0 ∧ count.toNat > type.maximumContainerCount then
    fail "CDR bounded-sequence length exceeds its schema maximum"
  else if type.kind = .u8 then
    walkBytes input count.toNat requestedId "CDR byte-sequence length exceeds the remaining payload"
  else do
    let count ← sequenceCount structs input type count
    let cursor ← get
    walkElements (walkScalar input walkNested (elementType type) none)
      "CDR sequence element did not consume input" (roundsLeft input cursor) count

def walkFixedArray (structs : List CdrSchemaStruct) (input : CdrInput)
    (walkNested : Nat → Walk Unit)
    (type : CdrSchemaType) (requestedId : Option Nat) : Walk Unit :=
  if type.kind = .u8 then
    walkBytes input type.fixedCount requestedId "truncated CDR fixed byte array"
  else do
    let count ← fixedArrayCount structs (elementType type)
    let cursor ← get
    walkElements (walkScalar input walkNested (elementType type) none)
      "CDR fixed-array element did not consume input" (roundsLeft input cursor) count

def walkValue (structs : List CdrSchemaStruct) (input : CdrInput) (walkNested : Nat → Walk Unit)
    (type : CdrSchemaType) (requestedId : Option Nat) (hasDescendant : Bool) : Walk Unit :=
  if hasDescendant ∧ (type.kind ≠ .struct ∨ type.container ≠ .scalar) then
    fail "CDR field path descends through a non-scalar nested struct"
  else
    match type.container with
    | .sequence => walkSequence structs input walkNested type requestedId
    | .fixedArray => walkFixedArray structs input walkNested type requestedId
    | .scalar => walkScalar input walkNested type requestedId

/-! ## Structs -/

/-- The last request that ends at a path. -/
def requestedAt (requested : List CdrRequestedField) (path : List Nat) : Option Nat :=
  (requested.zipIdx.filter fun indexed => indexed.1.steps = path).getLast?.map (·.2)

/-- A request that goes on behind a path. -/
def hasDescendant (requested : List CdrRequestedField) (path : List Nat) : Bool :=
  requested.any fun request => path.isPrefixOf request.steps && path.length < request.steps.length

def walkFields (walkField : Nat → CdrSchemaField → Walk Unit) :
    Nat → List CdrSchemaField → Walk Unit
  | _, [] => pure ()
  | fieldIndex, field :: fields => do
    walkField fieldIndex field
    walkFields walkField (fieldIndex + 1) fields

/-- A struct at a path, with `levels` of nesting left. -/
def walkStruct (plan : CdrTraversalPlan) (input : CdrInput) :
    (levels structIndex : Nat) → (path : List Nat) → Walk Unit
  | 0, _, _ => fail "CDR traversal depth exceeds 64"
  | levels + 1, structIndex, path =>
    walkFields
      (fun fieldIndex field =>
        let path := path ++ [fieldIndex]
        walkValue plan.structs input
          (fun nestedIndex => walkStruct plan input levels nestedIndex path)
          field.type (requestedAt plan.requested path) (hasDescendant plan.requested path))
      0 (structAt plan.structs structIndex).fields

def locateAll (plan : CdrTraversalPlan) (input : CdrInput) : Walk Unit := do
  walkStruct plan input kMaxTraversalDepth 0 []
  let cursor ← get
  if cursor.cachedFields.all (·.located) then return ()
  else fail "requested CDR field was not reached during traversal"

end PlotJugglerSdk.ParserModule.CdrTraversalPlan

namespace PlotJugglerSdk.ParserModule

open Wire Scan

/-! ## The accessors -/

/-- A reader with a plan: what it has read, and how it stands. -/
structure CdrReader where
  plan : CdrTraversalPlan
  input : CdrInput
  cursor : CdrCursor CachedKind
  status : Option ScanError := none
  traversalCount : Nat := 0

namespace CdrReader

/-- A reader of a payload; one whose header is not accepted has no input. -/
def create (payload : Bytes) (plan : CdrTraversalPlan) : CdrReader :=
  match initializeReader payload with
  | .error e =>
    { plan, input := { payload, littleEndian := false }, cursor := { position := 0 }, status := some e }
  | .ok input =>
    { plan, input
      cursor :=
        { position := dataOrigin
          cachedFields := List.replicate plan.requested.length { kind := .unknown } } }

def failed {α : Type} (reader : CdrReader) (e : ScanError) : Except ScanError α × CdrReader :=
  (.error e, { reader with status := some e })

/-- The traversal is made once, when a field is asked for first. -/
def ensurePlannedFields (reader : CdrReader) : Except ScanError Unit × CdrReader :=
  match reader.status with
  | some e => (.error e, reader)
  | none =>
    if reader.traversalCount = 0 then
      let reader := { reader with traversalCount := reader.traversalCount + 1 }
      match reader.plan.locateAll reader.input { reader.cursor with position := dataOrigin } with
      | .ok () cursor => (.ok (), { reader with cursor })
      | .error e cursor => (.error e, { reader with cursor, status := some e })
    else (.ok (), reader)

def cached (reader : CdrReader) (field : Nat) (expected : CachedKind) :
    Except ScanError (CachedField CachedKind) × CdrReader :=
  match reader.ensurePlannedFields with
  | (.error e, reader) => (.error e, reader)
  | (.ok (), reader) =>
    match reader.cursor.cachedFields[field]? with
    | none => reader.failed (.status "CDR field id is outside the traversal plan")
    | some value =>
      if ¬value.located ∨ value.kind ≠ expected then
        reader.failed (.status "CDR field accessor does not match the planned field type")
      else (.ok value, reader)

def cachedUnsigned (reader : CdrReader) (field : Nat) (kind : CachedKind) (width : Nat) :
    Except ScanError UInt64 × CdrReader :=
  let (value, reader) := reader.cached field kind
  (value.map fun value => unsignedAt reader.input value.offset width, reader)

def u8 (reader : CdrReader) (field : Nat) : Except ScanError UInt8 × CdrReader :=
  let (value, reader) := reader.cachedUnsigned field .u8 1
  (value.map UInt64.toUInt8, reader)

def u16 (reader : CdrReader) (field : Nat) : Except ScanError UInt16 × CdrReader :=
  let (value, reader) := reader.cachedUnsigned field .u16 2
  (value.map UInt64.toUInt16, reader)

def u32 (reader : CdrReader) (field : Nat) : Except ScanError UInt32 × CdrReader :=
  let (value, reader) := reader.cachedUnsigned field .u32 4
  (value.map UInt64.toUInt32, reader)

def u64 (reader : CdrReader) (field : Nat) : Except ScanError UInt64 × CdrReader :=
  reader.cachedUnsigned field .u64 8

def boolean (reader : CdrReader) (field : Nat) : Except ScanError Bool × CdrReader :=
  match reader.cachedUnsigned field .bool 1 with
  | (.error e, reader) => (.error e, reader)
  | (.ok value, reader) =>
    if value > 1 then reader.failed (.status "CDR bool is not 0 or 1") else
      (.ok (value != 0), reader)

def i8 (reader : CdrReader) (field : Nat) : Except ScanError Int8 × CdrReader :=
  let (value, reader) := reader.cachedUnsigned field .i8 1
  (value.map fun bits => bits.toUInt8.toInt8, reader)

def i16 (reader : CdrReader) (field : Nat) : Except ScanError Int16 × CdrReader :=
  let (value, reader) := reader.cachedUnsigned field .i16 2
  (value.map fun bits => bits.toUInt16.toInt16, reader)

def i32 (reader : CdrReader) (field : Nat) : Except ScanError Int32 × CdrReader :=
  let (value, reader) := reader.cachedUnsigned field .i32 4
  (value.map fun bits => bits.toUInt32.toInt32, reader)

def i64 (reader : CdrReader) (field : Nat) : Except ScanError Int64 × CdrReader :=
  let (value, reader) := reader.cachedUnsigned field .i64 8
  (value.map UInt64.toInt64, reader)

def f32 (reader : CdrReader) (field : Nat) : Except ScanError UInt32 × CdrReader :=
  let (value, reader) := reader.cachedUnsigned field .f32 4
  (value.map UInt64.toUInt32, reader)

def f64 (reader : CdrReader) (field : Nat) : Except ScanError UInt64 × CdrReader :=
  reader.cachedUnsigned field .f64 8

def string (reader : CdrReader) (field : Nat) : Except ScanError ByteView × CdrReader :=
  let (value, reader) := reader.cached field .string
  (value.map fun value => { offset := value.offset, size := value.size }, reader)

def bytes (reader : CdrReader) (field : Nat) : Except ScanError ByteView × CdrReader :=
  let (value, reader) := reader.cached field .bytes
  (value.map fun value => { offset := value.offset, size := value.size }, reader)

/-- The same bytes as a reference into the payload. -/
def spanRef (reader : CdrReader) (field : Nat) : Except ScanError ByteView × CdrReader :=
  let (value, reader) := reader.cached field .bytes
  (value.map fun value => { offset := value.offset, size := value.size }, reader)

end CdrReader

end PlotJugglerSdk.ParserModule
