import PlotJugglerSdk.Scan.Rounds
import PlotJugglerSdk.Wire.Groups

/-!
# ProtoReader

The authoring kit's protobuf reader: it looks a field number up in a message by
scanning the message's top level, and steps over groups without keeping them.

The loops of the source run while there is input, so here they take rounds; those they
are called with are enough, since every step consumes input.

* `nextField`, `skipGroup` — one step of the scan
* `ProtoReader.matching`   — the occurrences of a number
* `ProtoReader.repeatedVarints`, `ProtoReader.repeatedFixed` — their elements
-/

namespace PlotJugglerSdk.ParserModule

open Wire Scan

/-- A part of a message. -/
structure ByteView where
  offset : Nat := 0
  size : Nat := 0
  deriving DecidableEq

def ByteView.of (view : ByteView) (message : Bytes) : Bytes :=
  (message.drop view.offset).take view.size

namespace ProtoReader

def kMaxRecursionDepth : Nat := 64

structure Field where
  number : UInt32 := 0
  wireType : WireType := .varint
  integer : UInt64 := 0
  bytes : ByteView := {}
  deriving DecidableEq

/-- The matches of a lookup, no more than are kept. -/
@[ext]
structure FieldList where
  fields : List Field := []
  bounded : fields.length ≤ 64 * 1024 := by decide

def FieldList.kMaximumFields : Nat := 64 * 1024

def FieldList.push (list : FieldList) (field : Field) : Except ScanError FieldList :=
  if h : list.fields.length = FieldList.kMaximumFields then
    fail "protobuf field match count exceeds the configured limit"
  else
    .ok
      { fields := list.fields ++ [field]
        bounded := by
          have hle : list.fields.length ≤ 64 * 1024 := list.bounded
          have hne : list.fields.length ≠ 64 * 1024 := h
          rw [List.length_append, List.length_singleton]
          omega }

/-! ## Scanning -/

/-- The loop of `readVarint` with `left` of its ten bytes to go. -/
def readVarintFrom (bytes : Bytes) : (left position : Nat) → (value : UInt64) →
    Except ScanError (UInt64 × Nat)
  | 0, _, _ => fail "protobuf varint exceeds ten bytes"
  | left + 1, position, value =>
    let byteIndex := 9 - left
    match bytes[position]? with
    | none => fail "truncated protobuf varint"
    | some byte =>
      if byteIndex = 9 ∧ byte &&& 0xFE ≠ 0 then fail "protobuf varint overflows uint64"
      else
        let value := value ||| (byte &&& 0x7F).toUInt64 <<< UInt64.ofNat (byteIndex * 7)
        if byte &&& 0x80 = 0 then .ok (value, position + 1)
        else readVarintFrom bytes left (position + 1) value

def readVarint (bytes : Bytes) (position : Nat) : Except ScanError (UInt64 × Nat) :=
  readVarintFrom bytes 10 position 0

def readLittleEndian (bytes : Bytes) (position width : Nat) : UInt64 :=
  .ofNat (leNat ((bytes.drop position).take width))

section Message

variable (message : Bytes)

/-- A payload inside a group; the position behind it. -/
def skipValue (position : Nat) (wireType : WireType) : Except ScanError Nat :=
  match wireType with
  | .varint => do
    let (_, position) ← readVarint message position
    .ok position
  | .fixed64 =>
    if message.length < position ∨ message.length - position < 8 then
      fail "truncated protobuf fixed field"
    else .ok (position + 8)
  | .fixed32 =>
    if message.length < position ∨ message.length - position < 4 then
      fail "truncated protobuf fixed field"
    else .ok (position + 4)
  | .lengthDelimited =>
    match readVarint message position with
    -- a length that cannot be read and one that leads outside get the same error
    | .error _ => fail "truncated protobuf length-delimited field"
    | .ok (length, position) =>
      if message.length < position ∨ message.length - position < length.toNat then
        fail "truncated protobuf length-delimited field"
      else .ok (position + length.toNat)
  | _ => fail "invalid protobuf group field"

/-- The check on entry to `skipGroup`, before the scan of its content. -/
def enterGroup (depth : Nat) (scan : Except ScanError Nat) : Except ScanError Nat :=
  if kMaxRecursionDepth < depth then fail "protobuf recursion depth exceeds 64" else scan

/-- The loop of `skipGroup`. -/
def skipGroupFrom : (rounds position : Nat) → (groupNumber : UInt32) → (depth : Nat) →
    Except ScanError Nat
  -- out of rounds; every round reads a key, so the length of the message is enough of them
  | 0, position, _, _ =>
    if position < message.length then .error .unfinished else fail "truncated protobuf group"
  | rounds + 1, position, groupNumber, depth =>
    if position < message.length then do
      let (key, position) ← readVarint message position
      let rawFieldNumber := key >>> 3
      if rawFieldNumber = 0 ∨ 0x1FFFFFFF < rawFieldNumber ∨ 5 < key &&& 7 then
        fail "invalid protobuf field inside a group"
      else
        let fieldNumber := rawFieldNumber.toUInt32
        match WireType.ofRaw key.toNat with
        | .endGroup =>
          -- a group is ended by its own end tag alone
          if fieldNumber = groupNumber then .ok position
          else fail "protobuf group end tag does not match"
        | .startGroup => do
          -- the nested group has the rounds that are left, and so has the rest of this one
          let position ← enterGroup (depth + 1)
            (skipGroupFrom rounds position fieldNumber (depth + 1))
          skipGroupFrom rounds position groupNumber depth
        | wireType => do
          let position ← skipValue message position wireType
          skipGroupFrom rounds position groupNumber depth
    else fail "truncated protobuf group"

def skipGroup (position : Nat) (groupNumber : UInt32) (depth : Nat) : Except ScanError Nat :=
  enterGroup depth (skipGroupFrom message message.length position groupNumber depth)

/-- The field at a position and the position behind it. -/
def nextField (position depth : Nat) : Except ScanError (Field × Nat) := do
  let (key, position) ← readVarint message position
  let rawFieldNumber := key >>> 3
  let fieldNumber := rawFieldNumber.toUInt32
  if rawFieldNumber = 0 ∨ 0x1FFFFFFF < rawFieldNumber then fail "protobuf field number is invalid"
  -- 3 bits: 6 and 7 are no wire types
  else if 5 < key &&& 7 then fail "protobuf wire type is invalid"
  else
    match WireType.ofRaw key.toNat with
    | .varint => do
      let (value, position) ← readVarint message position
      .ok ({ number := fieldNumber, wireType := .varint, integer := value }, position)
    | .fixed64 =>
      if message.length < position ∨ message.length - position < 8 then
        fail "truncated protobuf fixed64 field"
      else
        .ok
          ({ number := fieldNumber, wireType := .fixed64,
             integer := readLittleEndian message position 8 }, position + 8)
    | .lengthDelimited => do
      let (length, position) ← readVarint message position
      if message.length < position ∨ message.length - position < length.toNat then
        fail "protobuf length-delimited field exceeds the remaining input"
      else
        .ok
          ({ number := fieldNumber, wireType := .lengthDelimited,
             bytes := { offset := position, size := length.toNat } }, position + length.toNat)
    -- the content of a group is looked through and not kept
    | .startGroup => do
      let position ← skipGroup message position fieldNumber (depth + 1)
      .ok ({ number := fieldNumber, wireType := .startGroup }, position)
    | .endGroup => fail "unexpected protobuf end-group tag"
    | .fixed32 =>
      if message.length < position ∨ message.length - position < 4 then
        fail "truncated protobuf fixed32 field"
      else
        .ok
          ({ number := fieldNumber, wireType := .fixed32,
             integer := readLittleEndian message position 4 }, position + 4)
    | _ => fail "protobuf wire type is invalid"

/-- The loop of `matching`. -/
def matchingFrom (depth : Nat) (fieldNumber : UInt32) : (rounds position : Nat) → FieldList →
    Except ScanError FieldList
  | 0, position, result => if position < message.length then .error .unfinished else .ok result
  | rounds + 1, position, result =>
    if position < message.length then do
      let (field, position) ← nextField message position depth
      if field.number = fieldNumber then do
        let result ← result.push field
        matchingFrom depth fieldNumber rounds position result
      else matchingFrom depth fieldNumber rounds position result
    else .ok result

end Message

end ProtoReader

theorem ProtoReader.outermost_le : 0 ≤ ProtoReader.kMaxRecursionDepth := by decide

/-- A message and how deep it is nested in the one the reading began with. -/
structure ProtoReader where
  message : Bytes
  depth : Nat := 0
  depth_le : depth ≤ ProtoReader.kMaxRecursionDepth := by decide

namespace ProtoReader

/-- The occurrences of a number at the top level. -/
def matching (reader : ProtoReader) (fieldNumber : UInt32) : Except ScanError FieldList :=
  if fieldNumber = 0 ∨ 0x1FFFFFFF < fieldNumber then fail "protobuf field number is invalid"
  else matchingFrom reader.message reader.depth fieldNumber reader.message.length 0 {}

def last (reader : ProtoReader) (fieldNumber : UInt32) : Except ScanError Field := do
  let list ← reader.matching fieldNumber
  match list.fields.getLast? with
  | none => fail "protobuf field is absent"
  | some field => .ok field

def varint (reader : ProtoReader) (fieldNumber : UInt32) : Except ScanError UInt64 := do
  let field ← reader.last fieldNumber
  if field.wireType ≠ .varint then fail "protobuf field is not a varint" else .ok field.integer

/-! ## Repeated fields -/

/-- The varints of a packed payload. -/
def packedVarints (bytes : Bytes) : (rounds position : Nat) → Except ScanError (List UInt64)
  | 0, position => if position < bytes.length then .error .unfinished else .ok []
  | rounds + 1, position =>
    if position < bytes.length then do
      let (value, position) ← readVarint bytes position
      let values ← packedVarints bytes rounds position
      .ok (value :: values)
    else .ok []

/-- The elements of one occurrence. -/
def varintElements (message : Bytes) (field : Field) : Except ScanError (List UInt64) :=
  if field.wireType = .varint then .ok [field.integer]
  else if field.wireType ≠ .lengthDelimited then
    fail "repeated protobuf integer uses an incompatible wire type"
  else packedVarints (field.bytes.of message) field.bytes.size 0

section Fixed

-- The integer type of the elements and the cast to it.
variable {α : Type} (cast : UInt64 → α)

def fixedElements (unpackedType : WireType) (width : Nat) (message : Bytes) (field : Field) :
    Except ScanError (List α) :=
  if field.wireType = unpackedType then .ok [cast field.integer]
  else if field.wireType ≠ .lengthDelimited ∨ field.bytes.size % width ≠ 0 then
    fail "repeated protobuf fixed field uses an incompatible wire encoding"
  else
    .ok ((List.range (field.bytes.size / width)).map fun index =>
      cast (readLittleEndian (field.bytes.of message) (index * width) width))

end Fixed

/-- The loop over the matches. -/
def collect {α : Type} (elements : Field → Except ScanError (List α)) :
    List Field → Except ScanError (List α)
  | [] => .ok []
  | field :: fields => do
    let values ← elements field
    let rest ← collect elements fields
    .ok (values ++ rest)

def repeatedVarints (reader : ProtoReader) (fieldNumber : UInt32) :
    Except ScanError (List UInt64) := do
  let list ← reader.matching fieldNumber
  collect (varintElements reader.message) list.fields

def repeatedFixed {α : Type} (cast : UInt64 → α) (reader : ProtoReader) (fieldNumber : UInt32)
    (unpackedType : WireType) (width : Nat) : Except ScanError (List α) := do
  let list ← reader.matching fieldNumber
  collect (fixedElements cast unpackedType width reader.message) list.fields

def repeatedFixed32 (reader : ProtoReader) (fieldNumber : UInt32) :
    Except ScanError (List UInt32) :=
  repeatedFixed UInt64.toUInt32 reader fieldNumber .fixed32 4

def repeatedFixed64 (reader : ProtoReader) (fieldNumber : UInt32) :
    Except ScanError (List UInt64) :=
  repeatedFixed id reader fieldNumber .fixed64 8

end ProtoReader

end PlotJugglerSdk.ParserModule
