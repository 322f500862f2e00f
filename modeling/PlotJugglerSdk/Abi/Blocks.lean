import PlotJugglerSdk.Builtin.ProtobufWire
import PlotJugglerSdk.Wire.Blocks

/-!
# The blocks of the module ABI

The records that cross the boundary between a host and a parser module, with
the little-endian reader and writer of their encodings. A record is generic in
what its variable parts are: bytes where it is written, ranges of the block
where it is read. `map` goes from one to the other.
-/

namespace PlotJugglerSdk

open Wire

variable {ρ σ : Type}

/-! ## Records -/

/-- An enumeration over a byte: a cast can give it any value. -/
abbrev Route := UInt8

def Route.scalar : Route := 1

def Route.object : Route := 2

structure BindingInfoV1 (ρ : Type) where
  route : Route := .scalar
  claimIndex : UInt32 := 0
  expectedObjectType : UInt16 := 0
  encoding : ρ
  typeName : ρ
  schema : ρ
  claimId : ρ
  configJson : ρ
  schemaDigest : ρ
  deriving DecidableEq

/-- The variable parts, in their order in the block. -/
def BindingInfoV1.fields (info : BindingInfoV1 ρ) : List ρ :=
  [info.encoding, info.typeName, info.schema, info.claimId, info.configJson, info.schemaDigest]

def BindingInfoV1.map (f : ρ → σ) (info : BindingInfoV1 ρ) : BindingInfoV1 σ where
  route := info.route
  claimIndex := info.claimIndex
  expectedObjectType := info.expectedObjectType
  encoding := f info.encoding
  typeName := f info.typeName
  schema := f info.schema
  claimId := f info.claimId
  configJson := f info.configJson
  schemaDigest := f info.schemaDigest

structure ParseInputV1 (ρ : Type) where
  hasTimestamp : Bool := false
  timestampNs : Int64 := 0
  payload : ρ
  deriving DecidableEq

def ParseInputV1.map (f : ρ → σ) (input : ParseInputV1 ρ) : ParseInputV1 σ :=
  ⟨input.hasTimestamp, input.timestampNs, f input.payload⟩

structure ObjectSpliceV1 where
  fieldNumber : UInt32 := 0
  inputOffset : UInt64 := 0
  inputLength : UInt64 := 0
  deriving DecidableEq

structure ObjectOutputV1 (ρ : Type) where
  objectType : UInt16 := 0
  splice : Option ObjectSpliceV1 := none
  wire : ρ
  deriving DecidableEq

inductive ScalarValueV1 (ρ : Type) where
  | float64 (bits : F64)
  | int64 (value : Int64)
  | uint64 (value : UInt64)
  | bool (value : Bool)
  | string (text : ρ)
  deriving DecidableEq

def ScalarValueV1.map (f : ρ → σ) : ScalarValueV1 ρ → ScalarValueV1 σ
  | .float64 bits => .float64 bits
  | .int64 value => .int64 value
  | .uint64 value => .uint64 value
  | .bool value => .bool value
  | .string text => .string (f text)

structure ScalarFieldV1 (ρ : Type) where
  name : ρ
  value : ScalarValueV1 ρ
  deriving DecidableEq

def ScalarFieldV1.map (f : ρ → σ) (field : ScalarFieldV1 ρ) : ScalarFieldV1 σ :=
  ⟨f field.name, field.value.map f⟩

structure ScalarOutputV1 (ρ : Type) where
  hasTimestamp : Bool := false
  timestampNs : Int64 := 0
  fields : List (ScalarFieldV1 ρ)
  deriving DecidableEq

inductive OutputDescriptorV1 (ρ : Type) where
  | object (output : ObjectOutputV1 ρ)
  | scalar (output : ScalarOutputV1 ρ)
  deriving DecidableEq

def OutputDescriptorV1.map (f : ρ → σ) : OutputDescriptorV1 ρ → OutputDescriptorV1 σ
  | .object output => .object ⟨output.objectType, output.splice, f output.wire⟩
  | .scalar output =>
    .scalar ⟨output.hasTimestamp, output.timestampNs, output.fields.map (·.map f)⟩

/-- The parts of a string value. -/
def ScalarValueV1.parts : ScalarValueV1 ρ → List ρ
  | .string text => [text]
  | _ => []

/-- Everything a descriptor borrows from its block. -/
def OutputDescriptorV1.parts : OutputDescriptorV1 ρ → List ρ
  | .object output => [output.wire]
  | .scalar output => output.fields.flatMap fun field => field.name :: field.value.parts

/-! ## Writer -/

namespace ByteWriter

def u8 (value : UInt8) : Bytes := [value]

def u16 (value : UInt16) : Bytes := leBytes 2 value.toNat

def u32 (value : UInt32) : Bytes := leBytes 4 value.toNat

def u64 (value : UInt64) : Bytes := leBytes 8 value.toNat

def i64 (value : Int64) : Bytes := u64 value.toUInt64

def f64 (bits : F64) : Bytes := u64 bits

def zeros (count : Nat) : Bytes := List.replicate count 0

@[simp] theorem u8_length (value : UInt8) : (u8 value).length = 1 := rfl

@[simp] theorem u16_length (value : UInt16) : (u16 value).length = 2 := leBytes_length 2 _

@[simp] theorem u32_length (value : UInt32) : (u32 value).length = 4 := leBytes_length 4 _

@[simp] theorem u64_length (value : UInt64) : (u64 value).length = 8 := leBytes_length 8 _

@[simp] theorem i64_length (value : Int64) : (i64 value).length = 8 := leBytes_length 8 _

@[simp] theorem f64_length (bits : F64) : (f64 bits).length = 8 := leBytes_length 8 _

@[simp] theorem zeros_length (count : Nat) : (zeros count).length = count := by simp [zeros]

end ByteWriter

/-! ## Reader

A reader is the part of the block behind its position. -/

namespace ByteReader

def u8 (reader : Bytes) : Option (UInt8 × Bytes) :=
  (takeLe 1 reader).map fun (value, rest) => (UInt8.ofNat value, rest)

def u16 (reader : Bytes) : Option (UInt16 × Bytes) :=
  (takeLe 2 reader).map fun (value, rest) => (UInt16.ofNat value, rest)

def u32 (reader : Bytes) : Option (UInt32 × Bytes) :=
  (takeLe 4 reader).map fun (value, rest) => (UInt32.ofNat value, rest)

def u64 (reader : Bytes) : Option (UInt64 × Bytes) :=
  (takeLe 8 reader).map fun (value, rest) => (UInt64.ofNat value, rest)

def i64 (reader : Bytes) : Option (Int64 × Bytes) :=
  (u64 reader).map fun (value, rest) => (value.toInt64, rest)

def f64 (reader : Bytes) : Option (F64 × Bytes) := u64 reader

def skip (count : Nat) (reader : Bytes) : Option Bytes :=
  (takeBytes count reader).map Prod.snd

/-- A view of the next `count` bytes of `block`. -/
def take (block : Bytes) (count : Nat) (reader : Bytes) : Option (Range × Bytes) :=
  (takeBytes count reader).map fun (_, rest) => (⟨block.length - reader.length, count⟩, rest)

@[simp] theorem u8_append (value : UInt8) (rest : Bytes) :
    u8 (ByteWriter.u8 value ++ rest) = some (value, rest) := by
  have hbytes : ByteWriter.u8 value = leBytes 1 value.toNat := by
    simp [ByteWriter.u8, leBytes]
  rw [u8, hbytes, takeLe_leBytes value.toNat_lt]
  simp

@[simp] theorem u16_append (value : UInt16) (rest : Bytes) :
    u16 (ByteWriter.u16 value ++ rest) = some (value, rest) := by
  rw [u16, ByteWriter.u16, takeLe_leBytes value.toNat_lt]
  simp

@[simp] theorem u32_append (value : UInt32) (rest : Bytes) :
    u32 (ByteWriter.u32 value ++ rest) = some (value, rest) := by
  rw [u32, ByteWriter.u32, takeLe_leBytes value.toNat_lt]
  simp

@[simp] theorem u64_append (value : UInt64) (rest : Bytes) :
    u64 (ByteWriter.u64 value ++ rest) = some (value, rest) := by
  rw [u64, ByteWriter.u64, takeLe_leBytes value.toNat_lt]
  simp

@[simp] theorem i64_append (value : Int64) (rest : Bytes) :
    i64 (ByteWriter.i64 value ++ rest) = some (value, rest) := by
  rw [i64, ByteWriter.i64, u64_append]
  simp

@[simp] theorem f64_append (bits : F64) (rest : Bytes) :
    f64 (ByteWriter.f64 bits ++ rest) = some (bits, rest) := u64_append bits rest

theorem skip_append {content : Bytes} {count : Nat} (h : content.length = count) (rest : Bytes) :
    skip count (content ++ rest) = some rest := by
  rw [skip, takeBytes_append h]
  rfl

theorem take_append {block content rest : Bytes} (count : Nat) (h : content.length = count) :
    take block count (content ++ rest) =
      some (⟨block.length - (content ++ rest).length, count⟩, rest) := by
  rw [take, takeBytes_append h]
  rfl

/-- A view lies in the block if the reader does. -/
theorem take_inside {block reader rest : Bytes} {count : Nat} {range : Range}
    (h : take block count reader = some (range, rest)) (hreader : reader.length ≤ block.length) :
    range.Inside block ∧ rest.length ≤ reader.length := by
  rw [take, Option.map_eq_some_iff] at h
  obtain ⟨⟨content, rest'⟩, htake, heq⟩ := h
  obtain ⟨rfl, rfl⟩ := Prod.mk.inj heq
  obtain ⟨rfl, rfl⟩ := takeBytes_eq_some htake
  rw [List.length_append] at hreader
  simp only [Range.Inside, List.length_append]
  omega

theorem map_takeLe_length {α : Type} {width : Nat} {f : Nat → α} {reader rest : Bytes} {value : α}
    (h : ((takeLe width reader).map fun (value, rest) => (f value, rest)) = some (value, rest)) :
    reader.length = width + rest.length := by
  rw [Option.map_eq_some_iff] at h
  obtain ⟨⟨number, rest'⟩, htake, heq⟩ := h
  obtain ⟨-, rfl⟩ := Prod.mk.inj heq
  exact takeLe_length htake

theorem u8_rest {reader rest : Bytes} {value : UInt8} (h : u8 reader = some (value, rest)) :
    reader.length = 1 + rest.length := map_takeLe_length h

theorem u16_rest {reader rest : Bytes} {value : UInt16} (h : u16 reader = some (value, rest)) :
    reader.length = 2 + rest.length := map_takeLe_length h

theorem u32_rest {reader rest : Bytes} {value : UInt32} (h : u32 reader = some (value, rest)) :
    reader.length = 4 + rest.length := map_takeLe_length h

theorem u64_rest {reader rest : Bytes} {value : UInt64} (h : u64 reader = some (value, rest)) :
    reader.length = 8 + rest.length := map_takeLe_length h

theorem i64_rest {reader rest : Bytes} {value : Int64} (h : i64 reader = some (value, rest)) :
    reader.length = 8 + rest.length := by
  rw [i64, Option.map_eq_some_iff] at h
  obtain ⟨⟨number, rest'⟩, hread, heq⟩ := h
  obtain ⟨-, rfl⟩ := Prod.mk.inj heq
  exact u64_rest hread

theorem skip_rest {reader rest : Bytes} {count : Nat} (h : skip count reader = some rest) :
    reader.length = count + rest.length := by
  rw [skip, Option.map_eq_some_iff] at h
  obtain ⟨⟨front, rest'⟩, htake, rfl⟩ := h
  obtain ⟨rfl, rfl⟩ := takeBytes_eq_some htake
  rw [List.length_append]

end ByteReader

end PlotJugglerSdk
