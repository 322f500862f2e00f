import PlotJugglerSdk.ParserModule.ProtoReader

/-!
# CdrReader

The reader of plain CDR: primitives in the byte order that the first four bytes of a payload
announce, each aligned to its own width behind these.

The payload and its byte order never change while a reader is used, so they are arguments;
what changes is the cursor, and a failure leaves it where it is.

* `initializeReader`                       — the header
* `align`, `readUnsigned`            — where a number stands, and the number
* `readBool`, …, `readString`        — the values
-/

namespace PlotJugglerSdk.ParserModule

open Wire Scan

structure CdrInput where
  payload : Bytes
  littleEndian : Bool

/-- A field that a traversal was asked for. -/
structure CachedField (Kind : Type) where
  kind : Kind
  offset : Nat := 0
  size : Nat := 0
  located : Bool := false
  deriving DecidableEq

structure CdrCursor (Kind : Type) where
  position : Nat
  cachedFields : List (CachedField Kind) := []
  deriving DecidableEq

namespace CdrReader

variable {Kind : Type}

/-- A step of a reader: what it does to the cursor, whether it fails or not. -/
abbrev CdrScan (Kind α : Type) : Type := EStateM ScanError (CdrCursor Kind) α

/-- `data_origin_`: alignment counts from behind the header. -/
def dataOrigin : Nat := 4

def fail {α : Type} (message : String) : CdrScan Kind α := throw (.status message)

/-- The header of a payload; a payload without data is empty. -/
def initializeReader (payload : Bytes) : Except ScanError CdrInput :=
  match payload with
  | first :: second :: _ :: _ :: _ =>
    let representation := first.toUInt16 <<< 8 ||| second.toUInt16
    if representation ≠ 0 ∧ representation ≠ 1 then
      .error (.status "unsupported CDR representation; XCDR1 plain CDR is required")
    else .ok { payload, littleEndian := representation == 1 }
  | _ => .error (.status "truncated CDR encapsulation header")

def remaining (input : CdrInput) (cursor : CdrCursor Kind) : Nat :=
  input.payload.length - cursor.position

def skip (size : Nat) : CdrScan Kind Unit :=
  modify fun cursor => { cursor with position := cursor.position + size }

def align (input : CdrInput) (alignment : Nat) : CdrScan Kind Unit := do
  let cursor ← get
  if alignment = 0 ∨ alignment &&& (alignment - 1) ≠ 0 then
    fail "CDR alignment must be a nonzero power of two"
  else
    let relative := cursor.position - dataOrigin
    let padding := (alignment - (relative &&& (alignment - 1))) &&& (alignment - 1)
    if padding > remaining input cursor then fail "truncated CDR alignment padding"
    else skip padding

/-- The bits of a number of `width` bytes, and no others. -/
def unsignedAt (input : CdrInput) (offset width : Nat) : UInt64 :=
  let bytes := (input.payload.drop offset).take width
  if input.littleEndian then
    bytes.zipIdx.foldl
      (fun value indexed => value ||| indexed.1.toUInt64 <<< UInt64.ofNat (indexed.2 * 8)) 0
  else bytes.foldl (fun value byte => value <<< 8 ||| byte.toUInt64) 0

def readUnsigned (input : CdrInput) (width : Nat) : CdrScan Kind UInt64 := do
  align input width
  let cursor ← get
  if width > remaining input cursor then fail "truncated CDR primitive"
  else do
    skip width
    return unsignedAt input cursor.position width

def readU8 (input : CdrInput) : CdrScan Kind UInt8 := do
  return (← readUnsigned input 1).toUInt8

def readU16 (input : CdrInput) : CdrScan Kind UInt16 := do
  return (← readUnsigned input 2).toUInt16

def readU32 (input : CdrInput) : CdrScan Kind UInt32 := do
  return (← readUnsigned input 4).toUInt32

def readU64 (input : CdrInput) : CdrScan Kind UInt64 := readUnsigned input 8

def readBool (input : CdrInput) : CdrScan Kind Bool := do
  let value ← readU8 input
  if value > 1 then fail "CDR bool is not 0 or 1" else return value != 0

def readI8 (input : CdrInput) : CdrScan Kind Int8 := do return (← readU8 input).toInt8

def readI16 (input : CdrInput) : CdrScan Kind Int16 := do return (← readU16 input).toInt16

def readI32 (input : CdrInput) : CdrScan Kind Int32 := do return (← readU32 input).toInt32

def readI64 (input : CdrInput) : CdrScan Kind Int64 := do return (← readU64 input).toInt64

/-- A float is its bits. -/
def readF32 (input : CdrInput) : CdrScan Kind UInt32 := readU32 input

def readF64 (input : CdrInput) : CdrScan Kind UInt64 := readU64 input

/-- A string is where it stands, without its terminator. -/
def readString (input : CdrInput) : CdrScan Kind ByteView := do
  let length ← readU32 input
  let cursor ← get
  if length = 0 then fail "CDR string length does not include a terminator"
  else if length.toNat > remaining input cursor then
    fail "CDR string length exceeds the remaining payload"
  else if input.payload[cursor.position + length.toNat - 1]? ≠ some 0 then
    fail "CDR string is not NUL terminated"
  else do
    skip length.toNat
    return { offset := cursor.position, size := length.toNat - 1 }

end CdrReader

end PlotJugglerSdk.ParserModule
