import PlotJugglerSdk.ParserModule.CdrTraversal

/-!
# A message as a whole

What a message means: it is read from its first byte to its last with the reader's own
primitives, struct by struct, field by field and element by element, and what comes out is
kept as a value. No count is looked at before it is met, and no path is known.

* `readStruct`, `readMessage`  — the reading
* `CdrValue.named`             — the value at a path
* `CdrReader.ask`, `answers`   — what a reader with a plan says when it is asked
-/

namespace PlotJugglerSdk.ParserModule

open Wire Scan

/-- A value of a message. Text and blocks of bytes are where they stand. -/
inductive CdrValue where
  | bool (value : Bool)
  | i8 (value : Int8)
  | u8 (value : UInt8)
  | i16 (value : Int16)
  | u16 (value : UInt16)
  | i32 (value : Int32)
  | u32 (value : UInt32)
  | i64 (value : Int64)
  | u64 (value : UInt64)
  | f32 (bits : UInt32)
  | f64 (bits : UInt64)
  | string (view : ByteView)
  | bytes (view : ByteView)
  | elements (values : List CdrValue)
  | struct (fields : List (Text × CdrValue))

/-- The value that a list of field names leads to. -/
def CdrValue.named : List Text → CdrValue → Option CdrValue
  | [], value => some value
  | name :: names, .struct fields =>
    (fields.find? fun field => field.1 = name).bind fun field => field.2.named names
  | _ :: _, _ => none

theorem CdrValue.named_cons (name : Text) (names : List Text) (fields : List (Text × CdrValue)) :
    (CdrValue.struct fields).named (name :: names) =
      (fields.find? fun field => field.1 = name).bind fun field => field.2.named names :=
  rfl

namespace CdrMessage

open CdrFieldLocator CdrReader

variable {Kind : Type}

/-! ## The reading -/

def readBoundedString (input : CdrInput) (maximum : Nat) : CdrScan Kind CdrValue := do
  let view ← readString input
  if maximum ≠ 0 ∧ view.size > maximum then
    fail "CDR bounded-string length exceeds its schema maximum"
  else return .string view

/-- A value that is no container; structs are read by the function given for them. -/
def readScalar (input : CdrInput) (readNested : Nat → CdrScan Kind CdrValue)
    (type : CdrSchemaType) : CdrScan Kind CdrValue :=
  match type.kind with
  | .bool => do return .bool (← readBool input)
  | .i8 => do return .i8 (← readI8 input)
  | .u8 => do return .u8 (← readU8 input)
  | .i16 => do return .i16 (← readI16 input)
  | .u16 => do return .u16 (← readU16 input)
  | .i32 => do return .i32 (← readI32 input)
  | .u32 => do return .u32 (← readU32 input)
  | .i64 => do return .i64 (← readI64 input)
  | .u64 => do return .u64 (← readU64 input)
  | .f32 => do return .f32 (← readF32 input)
  | .f64 => do return .f64 (← readF64 input)
  | .string => readBoundedString input type.maximumStringLength
  | .struct => readNested type.nestedIndex

def readElements (readElement : CdrScan Kind CdrValue) :
    (count : Nat) → CdrScan Kind (List CdrValue)
  | 0 => return []
  | count + 1 => do
    let value ← readElement
    let values ← readElements readElement count
    return value :: values

/-- The elements of a container, one after the other; bytes are kept as the block they are. -/
def readContainer (input : CdrInput) (readNested : Nat → CdrScan Kind CdrValue)
    (type : CdrSchemaType) (count : Nat) : CdrScan Kind CdrValue := do
  let cursor ← get
  let values ← readElements (readScalar input readNested type) count
  if type.kind = .u8 then return .bytes { offset := cursor.position, size := count }
  else return .elements values

def readValue (input : CdrInput) (readNested : Nat → CdrScan Kind CdrValue)
    (type : CdrSchemaType) : CdrScan Kind CdrValue :=
  match type.container with
  | .scalar => readScalar input readNested type
  | .fixedArray => readContainer input readNested type type.fixedCount
  | .sequence => do
    let count ← readU32 input
    if type.maximumContainerCount ≠ 0 ∧ count.toNat > type.maximumContainerCount then
      fail "CDR bounded-sequence length exceeds its schema maximum"
    else readContainer input readNested type count.toNat

def readStructFields (readField : CdrSchemaType → CdrScan Kind CdrValue) :
    List CdrSchemaField → CdrScan Kind (List (Text × CdrValue))
  | [] => return []
  | field :: fields => do
    let value ← readField field.type
    let values ← readStructFields readField fields
    return (field.name, value) :: values

/-- A struct of a table, with as many levels as it takes. -/
def readStruct (structs : List CdrSchemaStruct) (input : CdrInput) :
    (levels structIndex : Nat) → CdrScan Kind CdrValue
  | 0, _ => throw .unfinished
  | levels + 1, structIndex => do
    let fields ← readStructFields (readValue input (readStruct structs input levels))
      (structAt structs structIndex).fields
    return .struct fields

/-- A payload, from behind its header. -/
def readMessage (structs : List CdrSchemaStruct) (levels : Nat) (payload : Bytes) :
    Except ScanError CdrValue :=
  match initializeReader payload with
  | .error e => .error e
  | .ok input =>
    match readStruct structs input levels 0 ({ position := dataOrigin } : CdrCursor Unit) with
    | .ok value _ => .ok value
    | .error e _ => .error e

end CdrMessage

/-! ## Questions -/

/-- The accessors of a reader with a plan. -/
inductive CdrAccessor where
  | boolean | i8 | u8 | i16 | u16 | i32 | u32 | i64 | u64 | f32 | f64 | string | bytes | spanRef
  deriving DecidableEq

/-- The kind of field that an accessor is for. -/
def CdrAccessor.kind : CdrAccessor → CachedKind
  | .boolean => .bool
  | .i8 => .i8
  | .u8 => .u8
  | .i16 => .i16
  | .u16 => .u16
  | .i32 => .i32
  | .u32 => .u32
  | .i64 => .i64
  | .u64 => .u64
  | .f32 => .f32
  | .f64 => .f64
  | .string => .string
  | .bytes | .spanRef => .bytes

namespace CdrReader

/-- One question: what the accessor says of a field, and the reader behind it. -/
def ask (reader : CdrReader) (accessor : CdrAccessor) (field : Nat) :
    Except ScanError CdrValue × CdrReader :=
  match accessor with
  | .boolean => ((reader.boolean field).1.map .bool, (reader.boolean field).2)
  | .i8 => ((reader.i8 field).1.map .i8, (reader.i8 field).2)
  | .u8 => ((reader.u8 field).1.map .u8, (reader.u8 field).2)
  | .i16 => ((reader.i16 field).1.map .i16, (reader.i16 field).2)
  | .u16 => ((reader.u16 field).1.map .u16, (reader.u16 field).2)
  | .i32 => ((reader.i32 field).1.map .i32, (reader.i32 field).2)
  | .u32 => ((reader.u32 field).1.map .u32, (reader.u32 field).2)
  | .i64 => ((reader.i64 field).1.map .i64, (reader.i64 field).2)
  | .u64 => ((reader.u64 field).1.map .u64, (reader.u64 field).2)
  | .f32 => ((reader.f32 field).1.map .f32, (reader.f32 field).2)
  | .f64 => ((reader.f64 field).1.map .f64, (reader.f64 field).2)
  | .string => ((reader.string field).1.map .string, (reader.string field).2)
  | .bytes => ((reader.bytes field).1.map .bytes, (reader.bytes field).2)
  | .spanRef => ((reader.spanRef field).1.map .bytes, (reader.spanRef field).2)

/-- Questions one after the other. -/
def answers (reader : CdrReader) : List (CdrAccessor × Nat) → List (Except ScanError CdrValue)
  | [] => []
  | question :: questions =>
    (reader.ask question.1 question.2).1 ::
      answers (reader.ask question.1 question.2).2 questions

end CdrReader

end PlotJugglerSdk.ParserModule
