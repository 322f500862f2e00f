import PlotJugglerSdk.Wire.Numbers

/-!
# Fields on the wire

A message is a sequence of fields, each a varint tag (number and wire type)
followed by a payload whose extent the wire type alone decides. This module
knows nothing of any message: it gives the two directions

* `encodeFields` — the canonical bytes of a field list;
* `splitFields` — the field list of a byte string, or nothing if a tag or a
  payload runs past the end;

and the laws by which a codec's proofs move between bytes and field lists:
`splitFields_cons` (one field at a time), `splitFields_append` (concatenated
messages are concatenated lists) and `splitFields_encodeFields`.

What a reader makes of a raw tag is a parameter (`readTag`): readers differ in
the numbers they admit.
-/

namespace Wire

inductive WireType where
  | varint
  | fixed64
  | lengthDelimited
  | startGroup
  | endGroup
  | fixed32
  | reserved6
  | reserved7
  deriving DecidableEq, Repr

namespace WireType

def code : WireType → Nat
  | varint => 0
  | fixed64 => 1
  | lengthDelimited => 2
  | startGroup => 3
  | endGroup => 4
  | fixed32 => 5
  | reserved6 => 6
  | reserved7 => 7

/-- The wire type in the low three bits of a raw tag. -/
def ofRaw (raw : Nat) : WireType :=
  match raw % 8 with
  | 0 => varint
  | 1 => fixed64
  | 2 => lengthDelimited
  | 3 => startGroup
  | 4 => endGroup
  | 5 => fixed32
  | 6 => reserved6
  | _ => reserved7

theorem code_lt (type : WireType) : type.code < 8 := by
  cases type <;> decide

@[simp] theorem ofRaw_code (number : Nat) (type : WireType) :
    ofRaw (number * 8 + type.code) = type := by
  have hmod : (number * 8 + type.code) % 8 = type.code := by
    have := type.code_lt
    omega
  rw [ofRaw, hmod]
  cases type <;> rfl

end WireType

structure Tag where
  number : Nat
  type : WireType
  deriving DecidableEq, Repr

/-- What a tag announces. `bytes` is the content of a length-delimited field,
without its length. -/
inductive Payload where
  | varint (value : UInt64)
  | fixed64 (bits : UInt64)
  | bytes (content : Bytes)
  | fixed32 (bits : UInt32)
  deriving DecidableEq, Repr

def Payload.type : Payload → WireType
  | varint _ => .varint
  | fixed64 _ => .fixed64
  | bytes _ => .lengthDelimited
  | fixed32 _ => .fixed32

structure Field where
  number : Nat
  payload : Payload
  deriving DecidableEq, Repr

def Field.tag (field : Field) : Tag := ⟨field.number, field.payload.type⟩

/-! ## Payloads -/

/-- The payload a wire type announces and what follows it. Groups and the two
reserved types announce none. -/
def takePayload (type : WireType) (bytes : Bytes) : Option (Payload × Bytes) :=
  match type with
  | .varint => (takeVarint 0 bytes).map fun (value, rest) => (.varint (UInt64.ofNat value), rest)
  | .fixed64 =>
    (takeBytes 8 bytes).map fun (front, rest) => (.fixed64 (UInt64.ofNat (leNat front)), rest)
  | .lengthDelimited => do
    let (size, rest) ← takeVarint 0 bytes
    let (content, rest) ← takeBytes size rest
    some (.bytes content, rest)
  | .fixed32 =>
    (takeBytes 4 bytes).map fun (front, rest) => (.fixed32 (UInt32.ofNat (leNat front)), rest)
  | .startGroup | .endGroup | .reserved6 | .reserved7 => none

def encodePayload : Payload → Bytes
  | .varint value => varintBytes value.toNat
  | .fixed64 bits => leBytes 8 bits.toNat
  | .bytes content => varintBytes content.length ++ content
  | .fixed32 bits => leBytes 4 bits.toNat

/-- A length that fits the varint in front of it. -/
def Payload.Sized : Payload → Prop
  | .bytes content => content.length < 2 ^ 64
  | _ => True

theorem takePayload_type {type : WireType} {bytes rest : Bytes} {payload : Payload}
    (h : takePayload type bytes = some (payload, rest)) : payload.type = type := by
  cases type <;> simp only [takePayload, Option.map_eq_some_iff, Option.bind_eq_bind,
    Option.bind_eq_some_iff, Option.some.injEq, Prod.mk.injEq, reduceCtorEq] at h
  case varint | fixed64 | fixed32 =>
    obtain ⟨_, _, rfl, _⟩ := h
    rfl
  case lengthDelimited =>
    obtain ⟨_, _, _, _, rfl, _⟩ := h
    rfl

theorem takePayload_encodePayload {payload : Payload} (h : payload.Sized) (rest : Bytes) :
    takePayload payload.type (encodePayload payload ++ rest) = some (payload, rest) := by
  cases payload with
  | varint value =>
    simp [takePayload, Payload.type, encodePayload, takeVarint_varintBytes value.toNat_lt]
  | fixed64 bits =>
    have hbits : leNat (leBytes 8 bits.toNat) = bits.toNat := leNat_leBytes bits.toNat_lt
    simp [takePayload, Payload.type, encodePayload, takeBytes_append, hbits]
  | bytes content =>
    simp [takePayload, Payload.type, encodePayload, takeVarint_varintBytes h, takeBytes_append]
  | fixed32 bits =>
    have hbits : leNat (leBytes 4 bits.toNat) = bits.toNat := leNat_leBytes bits.toNat_lt
    simp [takePayload, Payload.type, encodePayload, takeBytes_append, hbits]

/-- What a payload took means the same in front of any other bytes. -/
theorem takePayload_local {type : WireType} {bytes rest : Bytes} {payload : Payload}
    (h : takePayload type bytes = some (payload, rest)) :
    ∃ front, bytes = front ++ rest ∧ front ≠ [] ∧
      ∀ later, takePayload type (front ++ later) = some (payload, later) := by
  cases type <;> simp only [takePayload, Option.map_eq_some_iff, Option.bind_eq_bind,
    Option.bind_eq_some_iff, Option.some.injEq, Prod.mk.injEq, reduceCtorEq] at h
  case varint =>
    obtain ⟨⟨value, rest'⟩, htake, rfl, rfl⟩ := h
    obtain ⟨front, hsplit, hne, hlocal⟩ := takeVarint_local htake
    exact ⟨front, hsplit, hne, fun later => by simp [takePayload, hlocal]⟩
  case fixed64 | fixed32 =>
    obtain ⟨⟨front, rest'⟩, htake, rfl, rfl⟩ := h
    obtain ⟨hsplit, hlocal⟩ := takeBytes_local htake
    have hne : front ≠ [] := by
      rintro rfl
      exact absurd (takeBytes_eq_some htake).2 (by simp)
    exact ⟨front, hsplit, hne, fun later => by simp [takePayload, hlocal]⟩
  case lengthDelimited =>
    obtain ⟨⟨size, middle⟩, hsize, ⟨content, rest'⟩, hcontent, rfl, rfl⟩ := h
    obtain ⟨header, hsplit, hne, hlocal⟩ := takeVarint_local hsize
    obtain ⟨hsplit', hlocal'⟩ := takeBytes_local hcontent
    simp only at hsplit' hlocal'
    refine ⟨header ++ content, by rw [hsplit, hsplit', List.append_assoc], by simp [hne],
      fun later => ?_⟩
    simp [takePayload, List.append_assoc, hlocal, hlocal']

theorem takePayload_length {type : WireType} {bytes rest : Bytes} {payload : Payload}
    (h : takePayload type bytes = some (payload, rest)) : rest.length < bytes.length := by
  obtain ⟨front, rfl, hne, -⟩ := takePayload_local h
  have hpos : 0 < front.length := List.length_pos_of_ne_nil hne
  rw [List.length_append]
  omega

/-! ## One field -/

/-- The canonical raw tag. -/
def rawTag (number : Nat) (type : WireType) : Nat := number * 8 + type.code

def encodeField (field : Field) : Bytes :=
  varintBytes (rawTag field.number field.payload.type) ++ encodePayload field.payload

def encodeFields (fields : List Field) : Bytes := fields.flatMap encodeField

@[simp] theorem encodeFields_nil : encodeFields [] = [] := rfl

@[simp] theorem encodeFields_cons (field : Field) (fields : List Field) :
    encodeFields (field :: fields) = encodeField field ++ encodeFields fields := rfl

section Reading

-- What the reader makes of a raw tag.
variable (readTag : Nat → Option Tag)

def takeField (bytes : Bytes) : Option (Field × Bytes) := do
  let (raw, rest) ← takeVarint 0 bytes
  let tag ← readTag raw
  let (payload, rest) ← takePayload tag.type rest
  some (⟨tag.number, payload⟩, rest)

/-- A field whose canonical spelling the reader reads back. -/
def Field.Readable (field : Field) : Prop :=
  readTag (rawTag field.number field.payload.type) = some field.tag ∧
    rawTag field.number field.payload.type < 2 ^ 64 ∧ field.payload.Sized

/-- The fields of a byte string, every byte accounted for. A field takes a byte
at least, so as many rounds as there are bytes are enough. -/
def splitFieldsWithin : Nat → Bytes → Option (List Field)
  | _, [] => some []
  | 0, _ :: _ => none
  | fuel + 1, b :: tail => do
    let (field, rest) ← takeField readTag (b :: tail)
    let fields ← splitFieldsWithin fuel rest
    some (field :: fields)

def splitFields (bytes : Bytes) : Option (List Field) :=
  splitFieldsWithin readTag bytes.length bytes

variable {readTag}

theorem takeField_encodeField {field : Field} (h : field.Readable readTag) (rest : Bytes) :
    takeField readTag (encodeField field ++ rest) = some (field, rest) := by
  obtain ⟨htag, hraw, hsized⟩ := h
  simp [takeField, encodeField, List.append_assoc, takeVarint_varintBytes hraw, htag, Field.tag,
    takePayload_encodePayload hsized]

theorem takeField_local {bytes rest : Bytes} {field : Field}
    (h : takeField readTag bytes = some (field, rest)) :
    ∃ front, bytes = front ++ rest ∧ front ≠ [] ∧
      ∀ later, takeField readTag (front ++ later) = some (field, later) := by
  simp only [takeField, Option.bind_eq_bind, Option.bind_eq_some_iff, Option.some.injEq,
    Prod.mk.injEq] at h
  obtain ⟨⟨raw, middle⟩, hraw, tag, htag, ⟨payload, rest'⟩, hpayload, rfl, rfl⟩ := h
  obtain ⟨header, hsplit, hne, hlocal⟩ := takeVarint_local hraw
  obtain ⟨body, hsplit', -, hlocal'⟩ := takePayload_local hpayload
  simp only at htag hsplit' hlocal'
  refine ⟨header ++
    body, by rw [hsplit, hsplit', List.append_assoc], by simp [hne], fun later => ?_⟩
  simp [takeField, List.append_assoc, hlocal, htag, hlocal']

theorem takeField_nil : takeField readTag [] = none := rfl

theorem takeField_length {bytes rest : Bytes} {field : Field}
    (h : takeField readTag bytes = some (field, rest)) : rest.length < bytes.length := by
  obtain ⟨front, hsplit, hne, -⟩ := takeField_local h
  have hpos : 0 < front.length := List.length_pos_of_ne_nil hne
  rw [hsplit, List.length_append]
  omega

/-! ## Field sequences -/

theorem splitFieldsWithin_eq {fuel : Nat} {bytes : Bytes} (h : bytes.length ≤ fuel) :
    splitFieldsWithin readTag fuel bytes = splitFields readTag bytes := by
  induction hlen : bytes.length using Nat.strongRecOn generalizing bytes fuel with
  | _ length ih =>
    subst hlen
    cases bytes with
    | nil => cases fuel <;> rfl
    | cons b tail =>
      obtain ⟨fuel, rfl⟩ : ∃ f, fuel = f + 1 := ⟨fuel - 1, by rw [List.length_cons] at h; omega⟩
      rw [splitFields, List.length_cons, splitFieldsWithin, splitFieldsWithin]
      cases htake : takeField readTag (b :: tail) with
      | none => rfl
      | some taken =>
        obtain ⟨field, rest⟩ := taken
        have hlt := takeField_length htake
        rw [List.length_cons] at hlt h
        have hfuel : splitFieldsWithin readTag fuel rest = splitFields readTag rest :=
          ih rest.length (by rw [List.length_cons]; omega) (by omega) rfl
        have htail : splitFieldsWithin readTag tail.length rest = splitFields readTag rest :=
          ih rest.length (by rw [List.length_cons]; omega) (by omega) rfl
        simp [hfuel, htail]

@[simp] theorem splitFields_nil : splitFields readTag [] = some [] := rfl

/-- Reading on after one field. -/
theorem splitFields_cons {bytes rest : Bytes} {field : Field}
    (h : takeField readTag bytes = some (field, rest)) :
    splitFields readTag bytes = (splitFields readTag rest).map (field :: ·) := by
  have hlt := takeField_length h
  obtain ⟨fuel, hfuel⟩ : ∃ f, bytes.length = f + 1 := ⟨bytes.length - 1, by omega⟩
  rw [splitFields, hfuel]
  cases bytes with
  | nil => exact absurd h (by simp [takeField_nil])
  | cons b tail =>
    rw [splitFieldsWithin, h]
    simp only [Option.bind_eq_bind, Option.bind_some]
    rw [splitFieldsWithin_eq (by omega)]
    cases splitFields readTag rest <;> rfl

theorem splitFields_stuck {bytes : Bytes} (hne : bytes ≠ [])
    (h : takeField readTag bytes = none) : splitFields readTag bytes = none := by
  cases bytes with
  | nil => exact absurd rfl hne
  | cons b tail =>
    rw [splitFields, List.length_cons, splitFieldsWithin, h]
    rfl

theorem splitFields_eq_nil {bytes : Bytes} :
    splitFields readTag bytes = some [] ↔ bytes = [] := by
  refine ⟨fun h => ?_, fun h => by rw [h]; rfl⟩
  by_contra hne
  cases htake : takeField readTag bytes with
  | none => exact absurd h (by simp [splitFields_stuck hne htake])
  | some taken => exact absurd h (by simp [splitFields_cons htake])

theorem splitFields_eq_cons {bytes : Bytes} {field : Field} {fields : List Field} :
    splitFields readTag bytes = some (field :: fields) ↔
      ∃ rest, takeField readTag bytes = some (field, rest) ∧
        splitFields readTag rest = some fields := by
  constructor
  · intro h
    cases htake : takeField readTag bytes with
    | none =>
      have hne : bytes ≠ [] := by
        rintro rfl
        exact absurd h (by simp)
      exact absurd h (by simp [splitFields_stuck hne htake])
    | some taken =>
      obtain ⟨field', rest⟩ := taken
      rw [splitFields_cons htake, Option.map_eq_some_iff] at h
      obtain ⟨fields', hrest, heq⟩ := h
      rw [List.cons.injEq] at heq
      obtain ⟨rfl, rfl⟩ := heq
      exact ⟨rest, rfl, hrest⟩
  · rintro ⟨rest, htake, hrest⟩
    rw [splitFields_cons htake, hrest]
    rfl

/-- A message in front of a message is one message. -/
theorem splitFields_append {bytes : Bytes} {fields : List Field}
    (h : splitFields readTag bytes = some fields) (later : Bytes) :
    splitFields readTag (bytes ++ later) = (splitFields readTag later).map (fields ++ ·) := by
  induction fields generalizing bytes with
  | nil =>
    rw [splitFields_eq_nil.mp h, List.nil_append]
    simp
  | cons field fields ih =>
    obtain ⟨rest, htake, hrest⟩ := splitFields_eq_cons.mp h
    obtain ⟨front, rfl, -, hlocal⟩ := takeField_local htake
    rw [List.append_assoc, splitFields_cons (hlocal (rest ++ later)), ih hrest, Option.map_map]
    rfl

theorem splitFields_encodeFields {fields : List Field}
    (h : ∀ field ∈ fields, field.Readable readTag) :
    splitFields readTag (encodeFields fields) = some fields := by
  induction fields with
  | nil => rfl
  | cons field fields ih =>
    rw [encodeFields_cons,
      splitFields_cons (takeField_encodeField (h field List.mem_cons_self) (encodeFields fields)),
      ih fun field' hmem => h field' (List.mem_cons_of_mem field hmem)]
    rfl

end Reading

end Wire
