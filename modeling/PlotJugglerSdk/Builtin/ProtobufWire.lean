import Mathlib.Data.Vector.Basic
import PlotJugglerSdk.Wire.Declarations

/-!
# The protobuf wire layer of the builtin codecs

`Writer` and `Reader`, the two classes every builtin codec is written with.

A writer's member functions append to a buffer; here each is the bytes it
appends. A reader is the bytes it has left. Its member functions return what
they read *and* the reader afterwards, also when they fail: `readVarint` gives
up with the offending bytes already consumed, and the codecs' loop goes on from
there.

The results tie both to the wire format: what a writer appends is the canonical
encoding of one field (`Writer.varint_eq` and its siblings), and a successful
read is the format's (`Reader.readPayload_some`, `Reader.readPayload_none`).
-/

namespace PlotJugglerSdk

open Wire

/-- A `double` and a `float`, as their bit patterns. -/
abbrev F64 := UInt64

abbrev F32 := UInt32

/-! ## Writer -/

namespace Writer

def appendVarint (value : Nat) : Bytes := varintBytes value

def appendFixed64 (value : UInt64) : Bytes := leBytes 8 value.toNat

def appendFixed32 (value : UInt32) : Bytes := leBytes 4 value.toNat

def tag (field : Nat) (type : WireType) : Bytes := appendVarint (rawTag field type)

def varint (field : Nat) (value : UInt64) : Bytes :=
  tag field .varint ++ appendVarint value.toNat

def fixed64 (field : Nat) (value : UInt64) : Bytes :=
  tag field .fixed64 ++ appendFixed64 value

def fixed32 (field : Nat) (value : UInt32) : Bytes :=
  tag field .fixed32 ++ appendFixed32 value

def packedFixed32 (field : Nat) (values : List UInt32) : Bytes :=
  if values.length = 0 then []
  else tag field .lengthDelimited ++ appendVarint (values.length * 4) ++
    values.flatMap appendFixed32

def doubleField (field : Nat) (value : F64) : Bytes := fixed64 field value

def floatField (field : Nat) (value : F32) : Bytes := fixed32 field value

def packedDouble (field : Nat) (values : List F64) : Bytes :=
  if values.length = 0 then []
  else tag field .lengthDelimited ++ appendVarint (values.length * 8) ++
    values.flatMap appendFixed64

def bytes (field : Nat) (data : Bytes) : Bytes :=
  tag field .lengthDelimited ++ appendVarint data.length ++ data

def string (field : Nat) (value : Bytes) : Bytes := bytes field value

def message (field : Nat) (body : Bytes) : Bytes := bytes field body

end Writer

/-! ## Reader -/

namespace Reader

/-- The loop of `readVarint`, before byte `byteIndex`: at most ten bytes, the
tenth no more than bit 63. -/
def readVarintFrom (byteIndex value : Nat) : Bytes → Option Nat × Bytes
  | [] => (none, [])
  | byte :: rest =>
    if 10 ≤ byteIndex then (none, byte :: rest)
    else
      let payload := byte.toNat % 128
      if byteIndex = 9 ∧ 1 < payload then (none, rest)
      else
        let value := value ||| payload <<< (7 * byteIndex)
        if byte.toNat < 128 then (some value, rest) else readVarintFrom (byteIndex + 1) value rest

def readVarint (reader : Bytes) : Option UInt64 × Bytes :=
  match readVarintFrom 0 0 reader with
  | (some value, rest) => (some (UInt64.ofNat value), rest)
  | (none, rest) => (none, rest)

def readFixed64 (reader : Bytes) : Option UInt64 × Bytes :=
  if reader.length < 8 then (none, reader)
  else (some (UInt64.ofNat (leNat (reader.take 8))), reader.drop 8)

def readFixed32 (reader : Bytes) : Option UInt32 × Bytes :=
  if reader.length < 4 then (none, reader)
  else (some (UInt32.ofNat (leNat (reader.take 4))), reader.drop 4)

def readBytes (reader : Bytes) : Option Bytes × Bytes :=
  match readVarint reader with
  | (none, rest) => (none, rest)
  | (some len, rest) =>
    if rest.length < len.toNat then (none, rest)
    else (some (rest.take len.toNat), rest.drop len.toNat)

/-- A raw tag as the reader takes it: the number keeps its low 32 bits. -/
def tagOf (raw : Nat) : Option Tag :=
  if raw = 0 then none
  else
    let field := raw / 8 % 2 ^ 32
    if field ≠ 0 then some ⟨field, .ofRaw raw⟩ else none

def readTag (reader : Bytes) : Option (Tag × Bytes) :=
  match readVarint reader with
  | (none, _) => none
  | (some raw, rest) => (tagOf raw.toNat).map fun tag => (tag, rest)

/-- Steps over a payload; no wire type but these four can be skipped. -/
def skip (type : WireType) (reader : Bytes) : Option Bytes :=
  match type with
  | .varint =>
    match readVarint reader with
    | (some _, rest) => some rest
    | (none, _) => none
  | .fixed64 => if reader.length < 8 then none else some (reader.drop 8)
  | .lengthDelimited =>
    match readBytes reader with
    | (some _, rest) => some rest
    | (none, _) => none
  | .fixed32 => if reader.length < 4 then none else some (reader.drop 4)
  | _ => none

/-- The read a handler makes for a field of the given wire type. -/
def readPayload (type : WireType) (reader : Bytes) : Option Payload × Bytes :=
  match type with
  | .varint =>
    match readVarint reader with
    | (some value, rest) => (some (.varint value), rest)
    | (none, rest) => (none, rest)
  | .fixed64 =>
    match readFixed64 reader with
    | (some bits, rest) => (some (.fixed64 bits), rest)
    | (none, rest) => (none, rest)
  | .lengthDelimited =>
    match readBytes reader with
    | (some content, rest) => (some (.bytes content), rest)
    | (none, rest) => (none, rest)
  | .fixed32 =>
    match readFixed32 reader with
    | (some bits, rest) => (some (.fixed32 bits), rest)
    | (none, rest) => (none, rest)
  | _ => (none, reader)

/-- `count` doubles off the front. -/
def readDoubles : (count : Nat) → Bytes → Option (List.Vector F64 count)
  | 0, _ => some .nil
  | count + 1, sub =>
    match readFixed64 sub with
    | (some value, sub) => (readDoubles count sub).map (value ::ᵥ ·)
    | (none, _) => none

def readFixed32s : (count : Nat) → Bytes → Option (List.Vector UInt32 count)
  | 0, _ => some .nil
  | count + 1, sub =>
    match readFixed32 sub with
    | (some value, sub) => (readFixed32s count sub).map (value ::ᵥ ·)
    | (none, _) => none

/-- The content of a proto3-packed `repeated fixed32` field. -/
def readPackedFixed32 (content : Bytes) : Option (List UInt32) :=
  if content.length % 4 ≠ 0 then none
  else (readFixed32s (content.length / 4) content).map (·.toList)

/-- The content of a proto3-packed `repeated double` field. -/
def readPackedDouble (content : Bytes) : Option (List F64) :=
  if content.length % 8 ≠ 0 then none
  else (readDoubles (content.length / 8) content).map (·.toList)

/-- The same into a `std::array`: exactly `N` doubles. -/
def readPackedDoubleArray (N : Nat) (content : Bytes) : Option (List.Vector F64 N) :=
  if content.length ≠ N * 8 then none else readDoubles N content

end Reader

/-! ## What the writer appends -/

namespace Writer

theorem varint_eq (field : Nat) (value : UInt64) :
    varint field value = encodeField ⟨field, .varint value⟩ := rfl

theorem fixed64_eq (field : Nat) (value : UInt64) :
    fixed64 field value = encodeField ⟨field, .fixed64 value⟩ := rfl

theorem fixed32_eq (field : Nat) (value : UInt32) :
    fixed32 field value = encodeField ⟨field, .fixed32 value⟩ := rfl

theorem bytes_eq (field : Nat) (data : Bytes) :
    bytes field data = encodeField ⟨field, .bytes data⟩ := by
  simp only [bytes, tag, appendVarint, encodeField, encodePayload, Payload.type, List.append_assoc]

theorem flatMap_leBytes_length (width : Nat) (values : List Nat) :
    (values.flatMap (leBytes width)).length = values.length * width := by
  induction values with
  | nil => simp
  | cons value values ih =>
    rw [List.flatMap_cons, List.length_append, ih, leBytes_length, List.length_cons, Nat.succ_mul]
    omega

theorem flatMap_appendFixed32_length (values : List UInt32) :
    (values.flatMap appendFixed32).length = values.length * 4 := by
  have h := flatMap_leBytes_length 4 (values.map UInt32.toNat)
  rwa [List.flatMap_map, List.length_map] at h

theorem flatMap_appendFixed64_length (values : List UInt64) :
    (values.flatMap appendFixed64).length = values.length * 8 := by
  have h := flatMap_leBytes_length 8 (values.map UInt64.toNat)
  rwa [List.flatMap_map, List.length_map] at h

theorem packedFixed32_eq (field : Nat) {values : List UInt32} (h : values ≠ []) :
    packedFixed32 field values = encodeField ⟨field, .bytes (values.flatMap appendFixed32)⟩ := by
  rw [packedFixed32, if_neg (by simpa using h)]
  simp only [tag, appendVarint, encodeField, encodePayload, Payload.type,
    flatMap_appendFixed32_length, List.append_assoc]

theorem packedDouble_eq (field : Nat) {values : List F64} (h : values ≠ []) :
    packedDouble field values = encodeField ⟨field, .bytes (values.flatMap appendFixed64)⟩ := by
  rw [packedDouble, if_neg (by simpa using h)]
  simp only [tag, appendVarint, encodeField, encodePayload, Payload.type,
    flatMap_appendFixed64_length, List.append_assoc]

end Writer

/-! ## What the reader reads -/

namespace Reader

theorem readVarintFrom_some {bytes rest : Bytes} {byteIndex value taken : Nat}
    (h : takeVarint byteIndex bytes = some (taken, rest)) (hvalue : value < 2 ^ (7 * byteIndex)) :
    readVarintFrom byteIndex value bytes = (some (value + taken * 2 ^ (7 * byteIndex)), rest) := by
  induction bytes generalizing byteIndex value taken rest with
  | nil => exact absurd h (by simp [takeVarint])
  | cons byte tail ih =>
    rw [takeVarint] at h
    -- the reader puts groups together with shifts, the grammar with sums
    have hor := lor_group (byte.toNat % 128) hvalue
    rw [readVarintFrom]
    split at h
    · exact absurd h (by simp)
    · next hindex =>
      rw [if_neg (by omega)]
      split at h
      · exact absurd h (by simp)
      · next hlast =>
        simp only [hlast, if_false, hor]
        split at h
        · next hb =>
          simp only [Option.some.injEq, Prod.mk.injEq] at h
          obtain ⟨rfl, rfl⟩ := h
          rw [if_pos hb, Nat.mod_eq_of_lt hb]
        · next hb =>
          split at h
          · exact absurd h (by simp)
          · next taken' rest' hrec =>
            simp only [Option.some.injEq, Prod.mk.injEq] at h
            obtain ⟨rfl, rfl⟩ := h
            have hpow : 2 ^ (7 * (byteIndex + 1)) = 128 * 2 ^ (7 * byteIndex) :=
              two_pow_group byteIndex 0
            rw [if_neg hb, ih hrec (add_group_lt byte.toNat hvalue), hpow]
            ring_nf

theorem readVarintFrom_none {bytes : Bytes} {byteIndex : Nat} (value : Nat)
    (h : takeVarint byteIndex bytes = none) : (readVarintFrom byteIndex value bytes).1 = none := by
  induction bytes generalizing byteIndex value with
  | nil => rfl
  | cons byte tail ih =>
    rw [takeVarint] at h
    rw [readVarintFrom]
    split at h
    · next hindex => rw [if_pos (by omega)]
    · next hindex =>
      rw [if_neg (by omega)]
      split at h
      · next hlast => simp only [hlast, if_true, and_self]
      · next hlast =>
        simp only [hlast, if_false]
        split at h
        · exact absurd h (by simp)
        · next hb =>
          rw [if_neg hb]
          split at h
          · next hrec => exact ih _ hrec
          · exact absurd h (by simp)

theorem readVarintFrom_length (byteIndex value : Nat) (bytes : Bytes) :
    (readVarintFrom byteIndex value bytes).2.length ≤ bytes.length := by
  induction bytes generalizing byteIndex value with
  | nil => rfl
  | cons byte tail ih =>
    rw [readVarintFrom]
    split
    · exact le_rfl
    · dsimp only
      split
      · exact Nat.le_succ _
      · split
        · exact Nat.le_succ _
        · exact Nat.le_succ_of_le (ih _ _)

theorem readVarint_some {bytes rest : Bytes} {value : Nat}
    (h : takeVarint 0 bytes = some (value, rest)) :
    readVarint bytes = (some (UInt64.ofNat value), rest) := by
  rw [readVarint, readVarintFrom_some h (by simp)]
  simp

theorem readVarint_none {bytes : Bytes} (h : takeVarint 0 bytes = none) :
    (readVarint bytes).1 = none := by
  have hnone := readVarintFrom_none 0 h
  rw [readVarint]
  split
  · next hsome => simp [hsome] at hnone
  · rfl

theorem readVarint_length (bytes : Bytes) : (readVarint bytes).2.length ≤ bytes.length := by
  have := readVarintFrom_length 0 0 bytes
  rw [readVarint]
  split <;> next heq => simpa [heq] using this

/-- A varint read never leaves the reader where it was, unless at the end. -/
theorem readVarint_moves {bytes : Bytes} (h : bytes ≠ []) :
    (readVarint bytes).2.length < bytes.length := by
  cases bytes with
  | nil => exact absurd rfl h
  | cons byte tail =>
    have hfrom : (readVarintFrom 0 0 (byte :: tail)).2.length ≤ tail.length := by
      rw [readVarintFrom, if_neg (by decide)]
      dsimp only
      rw [if_neg (by simp)]
      split
      · exact le_rfl
      · exact readVarintFrom_length _ _ tail
    rw [readVarint, List.length_cons]
    split <;> next heq => simp only [heq] at hfrom ⊢; omega

/-! A read succeeds exactly where the wire format has a payload. -/

theorem readPayload_some {type : WireType} {bytes rest : Bytes} {payload : Payload}
    (h : takePayload type bytes = some (payload, rest)) :
    readPayload type bytes = (some payload, rest) := by
  cases type <;> simp only [takePayload, Option.map_eq_some_iff, Option.bind_eq_bind,
    Option.bind_eq_some_iff, Option.some.injEq, Prod.mk.injEq, reduceCtorEq] at h
  case varint =>
    obtain ⟨⟨value, rest'⟩, htake, rfl, rfl⟩ := h
    simp [readPayload, readVarint_some htake]
  case fixed64 =>
    obtain ⟨⟨front, rest'⟩, htake, rfl, rfl⟩ := h
    obtain ⟨rfl, hlen⟩ := takeBytes_eq_some htake
    simp [readPayload, readFixed64, List.take_left' hlen, List.drop_left' hlen, hlen]
  case fixed32 =>
    obtain ⟨⟨front, rest'⟩, htake, rfl, rfl⟩ := h
    obtain ⟨rfl, hlen⟩ := takeBytes_eq_some htake
    simp [readPayload, readFixed32, List.take_left' hlen, List.drop_left' hlen, hlen]
  case lengthDelimited =>
    obtain ⟨⟨size, middle⟩, hsize, ⟨content, rest'⟩, hcontent, rfl, rfl⟩ := h
    obtain ⟨hsplit, hlen⟩ := takeBytes_eq_some hcontent
    simp only at hsplit hlen
    have hsmall : (UInt64.ofNat size).toNat = size :=
      UInt64.toNat_ofNat_of_lt' (takeVarint_lt_two_pow hsize)
    rw [readPayload, readBytes, readVarint_some hsize]
    simp only [hsmall, hsplit, List.take_left' hlen, List.drop_left' hlen]
    rw [if_neg (by rw [List.length_append]; omega)]

theorem readPayload_none {type : WireType} {bytes : Bytes} (h : takePayload type bytes = none) :
    (readPayload type bytes).1 = none := by
  cases type <;> simp only [takePayload, Option.map_eq_none_iff] at h
  case varint =>
    have hnone := readVarint_none h
    rw [readPayload]
    split
    · next heq => simp [heq] at hnone
    · rfl
  case fixed64 =>
    have hlen : bytes.length < 8 := by
      by_contra hge
      simp [takeBytes, Nat.not_lt.mp hge] at h
    simp [readPayload, readFixed64, hlen]
  case fixed32 =>
    have hlen : bytes.length < 4 := by
      by_contra hge
      simp [takeBytes, Nat.not_lt.mp hge] at h
    simp [readPayload, readFixed32, hlen]
  case lengthDelimited =>
    cases hsize : takeVarint 0 bytes with
    -- no size, or a size that the bytes behind it do not reach
    | none =>
      have hnone := readVarint_none hsize
      rw [readPayload, readBytes]
      rcases hread : readVarint bytes with ⟨value, rest⟩
      rw [hread] at hnone
      obtain rfl : value = none := hnone
      rfl
    | some taken =>
      obtain ⟨size, rest⟩ := taken
      have hlen : rest.length < size := by
        by_contra hge
        simp [hsize, takeBytes, Nat.not_lt.mp hge] at h
      have hsmall : (UInt64.ofNat size).toNat = size :=
      UInt64.toNat_ofNat_of_lt' (takeVarint_lt_two_pow hsize)
      simp [readPayload, readBytes, readVarint_some hsize, hsmall, hlen]
  all_goals rfl

theorem readPayload_length (type : WireType) (bytes : Bytes) :
    (readPayload type bytes).2.length ≤ bytes.length := by
  have hvarint := readVarint_length bytes
  cases type <;> simp only [readPayload, le_refl]
  case varint => split <;> next heq => simpa [heq] using hvarint
  case fixed64 =>
    rw [readFixed64]
    by_cases hlen : bytes.length < 8 <;> simp [hlen]
  case fixed32 =>
    rw [readFixed32]
    by_cases hlen : bytes.length < 4 <;> simp [hlen]
  case lengthDelimited =>
    rw [readBytes]
    rcases hread : readVarint bytes with ⟨size, rest⟩
    rw [hread] at hvarint
    cases size with
    | none => simpa using hvarint
    | some size =>
      by_cases hlen : rest.length < size.toNat
      · simpa [hlen] using hvarint
      · simp only [hlen, if_false, List.length_drop]
        simp only at hvarint
        omega

/-- Skipping is reading and forgetting. -/
theorem skip_eq (type : WireType) (bytes : Bytes) :
    skip type bytes = (takePayload type bytes).map (·.2) := by
  cases htake : takePayload type bytes with
  | none =>
    have hnone := readPayload_none htake
    cases type <;> simp only [readPayload, readFixed64, readFixed32] at hnone <;>
      simp only [skip, Option.map_none]
    case varint | lengthDelimited =>
      split at hnone
      · exact absurd hnone (by simp)
      · rfl
    case fixed64 | fixed32 =>
      split at hnone
      · exact absurd hnone (by simp)
      · next heq =>
        split at heq
        · next hlen => simp [hlen]
        · simp at heq
  | some taken =>
    obtain ⟨payload, rest⟩ := taken
    have hsome := readPayload_some htake
    cases type <;> simp only [readPayload, readFixed64, readFixed32, Prod.mk.injEq, reduceCtorEq,
      false_and] at hsome <;> simp only [skip, Option.map_some]
    case varint | lengthDelimited =>
      split at hsome
      · next heq => simp_all
      · exact absurd hsome (by simp)
    case fixed64 | fixed32 =>
      split at hsome
      · next heq =>
        split at heq
        · exact absurd heq (by simp)
        · simp_all
      · exact absurd hsome (by simp)

theorem readTag_eq (bytes : Bytes) :
    readTag bytes = (takeVarint 0 bytes).bind fun (raw, rest) =>
      (tagOf raw).map fun tag => (tag, rest) := by
  cases htake : takeVarint 0 bytes with
  | none =>
    have hnone := readVarint_none htake
    rw [readTag]
    split
    · rfl
    · next heq => simp [heq] at hnone
  | some taken =>
    obtain ⟨raw, rest⟩ := taken
    have hsmall : (UInt64.ofNat raw).toNat = raw :=
      UInt64.toNat_ofNat_of_lt' (takeVarint_lt_two_pow htake)
    rw [readTag, readVarint_some htake]
    simp only [hsmall, Option.bind_some]

/-! Packed lists come back as they were written. -/

theorem readDoubles_flatMap {count : Nat} (values : List.Vector F64 count) :
    readDoubles count (values.toList.flatMap Writer.appendFixed64) = some values := by
  induction count with
  | zero => rw [readDoubles, List.Vector.eq_nil values]
  | succ count ih =>
    obtain ⟨value, values, rfl⟩ := values.exists_eq_cons
    have hbits : leNat (leBytes 8 value.toNat) = value.toNat := leNat_leBytes value.toNat_lt
    have hread : readFixed64 ((value ::ᵥ values).toList.flatMap Writer.appendFixed64) =
        (some value, values.toList.flatMap Writer.appendFixed64) := by
      simp [readFixed64, List.Vector.toList_cons, List.flatMap_cons, Writer.appendFixed64, hbits]
    rw [readDoubles, hread]
    simp only [ih values, Option.map_some]

theorem readFixed32s_flatMap {count : Nat} (values : List.Vector UInt32 count) :
    readFixed32s count (values.toList.flatMap Writer.appendFixed32) = some values := by
  induction count with
  | zero => rw [readFixed32s, List.Vector.eq_nil values]
  | succ count ih =>
    obtain ⟨value, values, rfl⟩ := values.exists_eq_cons
    have hbits : leNat (leBytes 4 value.toNat) = value.toNat := leNat_leBytes value.toNat_lt
    have hread : readFixed32 ((value ::ᵥ values).toList.flatMap Writer.appendFixed32) =
        (some value, values.toList.flatMap Writer.appendFixed32) := by
      simp [readFixed32, List.Vector.toList_cons, List.flatMap_cons, Writer.appendFixed32, hbits]
    rw [readFixed32s, hread]
    simp only [ih values, Option.map_some]

theorem readPackedDouble_flatMap (values : List F64) :
    readPackedDouble (values.flatMap Writer.appendFixed64) = some values := by
  have hlen := Writer.flatMap_appendFixed64_length values
  have hcount : (values.flatMap Writer.appendFixed64).length / 8 = values.length := by omega
  have hread : readDoubles values.length (values.flatMap Writer.appendFixed64) = some ⟨values,
      rfl⟩ :=
    readDoubles_flatMap ⟨values, rfl⟩
  rw [readPackedDouble, if_neg (by omega), hcount, hread]
  rfl

theorem readPackedDoubleArray_flatMap {N : Nat} (values : List.Vector F64 N) :
    readPackedDoubleArray N (values.toList.flatMap Writer.appendFixed64) = some values := by
  have hlen := Writer.flatMap_appendFixed64_length values.toList
  rw [values.toList_length] at hlen
  rw [readPackedDoubleArray, if_neg (by omega), readDoubles_flatMap]

theorem readPackedFixed32_flatMap (values : List UInt32) :
    readPackedFixed32 (values.flatMap Writer.appendFixed32) = some values := by
  have hlen := Writer.flatMap_appendFixed32_length values
  have hcount : (values.flatMap Writer.appendFixed32).length / 4 = values.length := by omega
  have hread : readFixed32s values.length (values.flatMap Writer.appendFixed32) = some ⟨values,
      rfl⟩ :=
    readFixed32s_flatMap ⟨values, rfl⟩
  rw [readPackedFixed32, if_neg (by omega), hcount, hread]
  rfl

/-! A packed list is refused for its length alone. -/

theorem readDoubles_isSome {count : Nat} {content : Bytes} (h : count * 8 ≤ content.length) :
    (readDoubles count content).isSome := by
  induction count generalizing content with
  | zero => rfl
  | succ count ih =>
    have hread : readFixed64 content =
        (some (UInt64.ofNat (leNat (content.take 8))), content.drop 8) := by
      rw [readFixed64, if_neg (by omega)]
    rw [readDoubles, hread]
    have hrest : count * 8 ≤ (content.drop 8).length := by
      rw [List.length_drop]
      omega
    simpa using ih hrest

theorem readFixed32s_isSome {count : Nat} {content : Bytes} (h : count * 4 ≤ content.length) :
    (readFixed32s count content).isSome := by
  induction count generalizing content with
  | zero => rfl
  | succ count ih =>
    have hread : readFixed32 content =
        (some (UInt32.ofNat (leNat (content.take 4))), content.drop 4) := by
      rw [readFixed32, if_neg (by omega)]
    rw [readFixed32s, hread]
    have hrest : count * 4 ≤ (content.drop 4).length := by
      rw [List.length_drop]
      omega
    simpa using ih hrest

theorem readPackedDouble_isSome (content : Bytes) :
    (readPackedDouble content).isSome ↔ content.length % 8 = 0 := by
  rw [readPackedDouble]
  split
  · next hlen => simpa using hlen
  · next hlen =>
    rw [Option.isSome_map, readDoubles_isSome (by omega)]
    simpa using hlen

theorem readPackedFixed32_isSome (content : Bytes) :
    (readPackedFixed32 content).isSome ↔ content.length % 4 = 0 := by
  rw [readPackedFixed32]
  split
  · next hlen => simpa using hlen
  · next hlen =>
    rw [Option.isSome_map, readFixed32s_isSome (by omega)]
    simpa using hlen

theorem readPackedDoubleArray_isSome (N : Nat) (content : Bytes) :
    (readPackedDoubleArray N content).isSome ↔ content.length = N * 8 := by
  rw [readPackedDoubleArray]
  split
  · next hlen => simpa using hlen
  · next hlen =>
    rw [readDoubles_isSome (by omega)]
    simpa using hlen

/-- A field of the wire format, in the reader's steps. -/
theorem takeField_eq (bytes : Bytes) :
    takeField tagOf bytes = (readTag bytes).bind fun (tag, reader) =>
      (takePayload tag.type reader).map fun (payload, rest) => (⟨tag.number, payload⟩, rest) := by
  rw [readTag_eq]
  cases htake : takeVarint 0 bytes with
  | none => simp [takeField, htake]
  | some taken =>
    obtain ⟨raw, reader⟩ := taken
    cases htag : tagOf raw with
    | none => simp [takeField, htake, htag]
    | some tag =>
      cases hpayload : takePayload tag.type reader <;> simp [takeField, htake, htag, hpayload]

theorem takeField_some {bytes reader rest : Bytes} {tag : Tag} {payload : Payload}
    (htag : readTag bytes = some (tag, reader))
    (hpayload : takePayload tag.type reader = some (payload, rest)) :
    takeField tagOf bytes = some (⟨tag.number, payload⟩, rest) := by
  rw [takeField_eq, htag]
  simp [hpayload]

theorem takeField_none {bytes reader : Bytes} {tag : Tag}
    (htag : readTag bytes = some (tag, reader)) (hpayload : takePayload tag.type reader = none) :
    takeField tagOf bytes = none := by
  rw [takeField_eq, htag]
  simp [hpayload]

/-- The tag in front of a field of the wire format. -/
theorem readTag_of_takeField {bytes rest : Bytes} {field : Field}
    (h : takeField tagOf bytes = some (field, rest)) :
    ∃ reader, readTag bytes = some (field.tag, reader) ∧
      takePayload field.payload.type reader = some (field.payload, rest) := by
  simp only [takeField_eq, Option.bind_eq_some_iff, Option.map_eq_some_iff, Prod.mk.injEq,
    Prod.exists] at h
  obtain ⟨tag, reader, htag, payload, rest', hpayload, rfl, rfl⟩ := h
  have htype := takePayload_type hpayload
  refine ⟨reader, ?_, by rw [htype]; exact hpayload⟩
  rw [htag, Field.tag, htype]

/-- The field numbers of the builtin messages read back as written. -/
theorem readable {field : Field} (hlow : 0 < field.number) (hhigh : field.number < 2 ^ 29)
    (hsized : field.payload.Sized) : field.Readable tagOf := by
  have hcode := field.payload.type.code_lt
  refine ⟨?_, by rw [rawTag]; omega, hsized⟩
  have hnumber : (field.number * 8 + field.payload.type.code) / 8 % 2 ^ 32 =
      field.number := by omega
  rw [tagOf, rawTag, if_neg (by omega)]
  simp only [hnumber, WireType.ofRaw_code, Field.tag]
  rw [if_pos (by omega)]

end Reader

end PlotJugglerSdk
