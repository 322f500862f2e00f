import PlotJugglerSdk.Abi.OutputBlocks

/-!
# The authoring kit's readers

What a module is compiled with to read the two blocks it is given. The kit
decodes them a second time, with a reader of its own that keeps a position in
the whole block where the host's keeps what is left of it.

`readBindingInfo_agrees` and `readParseInput_agrees` are the comparison: on any
bytes the two sides accept or reject together, and read the same record.
`Agrees` relates one read of the kit's reader to one of the host's; both
results go through the blocks read by read with `Agrees.bind`.
-/

namespace PlotJugglerSdk.ParserModule

open Wire

/-! ## LittleEndianReader -/

structure LittleEndianReader where
  bytes : Bytes
  position : Nat := 0

namespace LittleEndianReader

def remaining (reader : LittleEndianReader) : Nat := reader.bytes.length - reader.position

/-- `read<UInt>` for an unsigned type of `size` bytes. -/
def read (size : Nat) (reader : LittleEndianReader) : Option (Nat × LittleEndianReader) :=
  if reader.bytes.length < reader.position ∨ reader.remaining < size then none
  else
    some (leNat ((reader.bytes.drop reader.position).take size),
      { reader with position := reader.position + size })

def skip (size : Nat) (reader : LittleEndianReader) : Option LittleEndianReader :=
  if reader.bytes.length < reader.position ∨ reader.remaining < size then none
  else some { reader with position := reader.position + size }

def readU16 (reader : LittleEndianReader) : Option (UInt16 × LittleEndianReader) :=
  (reader.read 2).map fun (value, reader) => (.ofNat value, reader)

def readU32 (reader : LittleEndianReader) : Option (UInt32 × LittleEndianReader) :=
  (reader.read 4).map fun (value, reader) => (.ofNat value, reader)

def readU64 (reader : LittleEndianReader) : Option (UInt64 × LittleEndianReader) :=
  (reader.read 8).map fun (value, reader) => (.ofNat value, reader)

/-- The bits of an unsigned number, copied into a signed one. -/
def readI64 (reader : LittleEndianReader) : Option (Int64 × LittleEndianReader) :=
  reader.readU64.map fun (value, reader) => (value.toInt64, reader)

/-- What the host's reader would have left at this position. -/
def rest (reader : LittleEndianReader) : Bytes := reader.bytes.drop reader.position

/-- A reader of `block` that has not run over its end. -/
structure On (block : Bytes) (reader : LittleEndianReader) : Prop where
  bytes : reader.bytes = block
  position : reader.position ≤ block.length

theorem On.rest_length {block : Bytes} {reader : LittleEndianReader} (h : reader.On block) :
    reader.rest.length = block.length - reader.position := by
  rw [rest, List.length_drop, h.bytes]

theorem On.remaining {block : Bytes} {reader : LittleEndianReader} (h : reader.On block) :
    reader.remaining = reader.rest.length := by
  rw [h.rest_length, LittleEndianReader.remaining, h.bytes]

end LittleEndianReader

/-! ## Two readers of one block -/

variable {α β : Type}

/-- A read of the kit's reader gives what the same read of the host's gives, and
stays on the block. -/
def Agrees (block : Bytes) (kit : Option (α × LittleEndianReader)) (host : Option (α × Bytes)) :
    Prop :=
  match kit, host with
  | none, none => True
  | some (value, reader), some (value', rest) =>
    value = value' ∧ reader.rest = rest ∧ reader.On block
  | _, _ => False

theorem Agrees.bind {block : Bytes} {kit : Option (α × LittleEndianReader)}
    {host : Option (α × Bytes)} {kit' : α × LittleEndianReader → Option (β × LittleEndianReader)}
    {host' : α × Bytes → Option (β × Bytes)} (h : Agrees block kit host)
    (hnext : ∀ value reader, reader.On block →
      Agrees block (kit' (value, reader)) (host' (value, reader.rest))) :
    Agrees block (kit.bind kit') (host.bind host') := by
  unfold Agrees at h
  split at h
  · exact trivial
  · obtain ⟨rfl, rfl, hon⟩ := h
    exact hnext _ _ hon
  · exact h.elim

theorem Agrees.pure {block : Bytes} {reader : LittleEndianReader} (value : α)
    (h : reader.On block) : Agrees block (some (value, reader)) (some (value, reader.rest)) :=
  ⟨rfl, rfl, h⟩

theorem Agrees.map {block : Bytes} {kit : Option (α × LittleEndianReader)}
    {host : Option (α × Bytes)} (f : α → β) (h : Agrees block kit host) :
    Agrees block (kit.map fun (value, reader) => (f value, reader))
      (host.map fun (value, rest) => (f value, rest)) := by
  unfold Agrees at h
  split at h
  · exact trivial
  · obtain ⟨rfl, rfl, hon⟩ := h
    exact ⟨rfl, rfl, hon⟩
  · exact h.elim

theorem agrees_read {block : Bytes} {reader : LittleEndianReader} (size : Nat)
    (h : reader.On block) : Agrees block (reader.read size) (takeLe size reader.rest) := by
  have hposition := h.position
  have hbytes := h.bytes
  have hlength := h.rest_length
  unfold LittleEndianReader.read LittleEndianReader.remaining takeLe takeBytes
  rw [hbytes]
  by_cases hroom : size ≤ reader.rest.length
  · rw [if_neg (by omega), if_pos hroom]
    refine ⟨?_, ?_, ⟨rfl, ?_⟩⟩
    · rw [LittleEndianReader.rest, hbytes]
    · show block.drop (reader.position + size) = reader.rest.drop size
      rw [LittleEndianReader.rest, hbytes, List.drop_drop]
    · show reader.position + size ≤ block.length
      omega
  · rw [if_pos (by omega), if_neg hroom]
    exact trivial

theorem agrees_skip {block : Bytes} {reader : LittleEndianReader} (size : Nat)
    (h : reader.On block) :
    Agrees block ((reader.skip size).map ((), ·))
      ((ByteReader.skip size reader.rest).map ((), ·)) := by
  have hread := agrees_read size h
  unfold LittleEndianReader.read takeLe at hread
  unfold LittleEndianReader.skip ByteReader.skip
  split at hread
  · next hfull =>
    rw [if_pos hfull]
    cases htake : takeBytes size reader.rest with
    | none => exact trivial
    | some taken => simp [htake, Agrees] at hread
  · next hfull =>
    rw [if_neg hfull]
    cases htake : takeBytes size reader.rest with
    | none => simp [htake, Agrees] at hread
    | some taken =>
      simp only [htake, Agrees, Option.map_some] at hread
      exact ⟨rfl, hread.2.1, hread.2.2⟩

theorem agrees_readU16 {block : Bytes} {reader : LittleEndianReader} (h : reader.On block) :
    Agrees block reader.readU16 (ByteReader.u16 reader.rest) :=
  (agrees_read 2 h).map UInt16.ofNat

theorem agrees_readU32 {block : Bytes} {reader : LittleEndianReader} (h : reader.On block) :
    Agrees block reader.readU32 (ByteReader.u32 reader.rest) :=
  (agrees_read 4 h).map UInt32.ofNat

theorem agrees_readU64 {block : Bytes} {reader : LittleEndianReader} (h : reader.On block) :
    Agrees block reader.readU64 (ByteReader.u64 reader.rest) :=
  (agrees_read 8 h).map UInt64.ofNat

theorem agrees_readI64 {block : Bytes} {reader : LittleEndianReader} (h : reader.On block) :
    Agrees block reader.readI64 (ByteReader.i64 reader.rest) :=
  (agrees_readU64 h).map UInt64.toInt64

/-- The kit reads two reserved bytes where the host skips them. -/
theorem Agrees.bind_reserved {block : Bytes} {reader : LittleEndianReader} (h : reader.On block)
    {kit : UInt16 × LittleEndianReader → Option (α × LittleEndianReader)}
    {host : Bytes → Option (α × Bytes)}
    (hnext : ∀ value next, next.On block → Agrees block (kit (value, next)) (host next.rest)) :
    Agrees block (reader.readU16.bind kit) ((ByteReader.skip 2 reader.rest).bind host) := by
  have hhost : (ByteReader.skip 2 reader.rest).bind host =
      (ByteReader.u16 reader.rest).bind fun read => host read.2 := by
    unfold ByteReader.skip ByteReader.u16 takeLe
    cases takeBytes 2 reader.rest <;> rfl
  rw [hhost]
  exact (agrees_readU16 h).bind hnext

/-! ## readBindingInfo -/

structure BindingInfo where
  route : UInt16 := 1
  claimIndex : UInt32 := 0
  expectedObjectType : UInt16 := 0
  encoding : Range := {}
  typeName : Range := {}
  schema : Range := {}
  claimId : Range := {}
  configJson : Range := {}
  schemaDigest : Range := {}
  deriving DecidableEq

def readBindingHeader (reader : LittleEndianReader) :
    Option (BindingHeader × LittleEndianReader) := do
  let (version, reader) ← reader.readU16
  let (route, reader) ← reader.readU16
  let (claimIndex, reader) ← reader.readU32
  let (expectedType, reader) ← reader.readU16
  let (_, reader) ← reader.readU16
  let (fieldCount, reader) ← reader.readU32
  some (⟨version, route, claimIndex, expectedType, fieldCount⟩, reader)

def readDescriptor (reader : LittleEndianReader) : Option (Range × LittleEndianReader) := do
  let (offset, reader) ← reader.readU32
  let (length, reader) ← reader.readU32
  some (⟨offset.toNat, length.toNat⟩, reader)

/-- The loop over the field table, `count` entries before its end. `fields` is
the array of six views; entries behind the sixth are checked and dropped. -/
def readFields (bytes : Bytes) :
    (count index : Nat) → LittleEndianReader → (Fin 6 → Range) → Except String (Fin 6 → Range)
  | 0, _, _, fields => .ok fields
  | count + 1, index, reader, fields =>
    match readDescriptor reader with
    | none => .error "truncated BindingInfo field descriptor"
    | some (range, reader) =>
      if bytes.length < range.offset ∨ bytes.length - range.offset < range.length then
        .error "BindingInfo field range is outside the block"
      else
        readFields bytes count (index + 1) reader fun slot =>
          if slot.val = index then range else fields slot

def readBindingInfo (bytes : Bytes) : Except String BindingInfo :=
  if bytes.length < 16 then .error "truncated BindingInfo v1 header"
  else
    match readBindingHeader { bytes } with
    | none => .error "truncated BindingInfo v1 header"
    | some (header, reader) =>
      if header.version ≠ 1 ∨ (header.route ≠ 1 ∧ header.route ≠ 2) then
        .error "unsupported BindingInfo version or route"
      -- six fields are known, and more may be appended
      else if header.fieldCount < 6 ∨ reader.remaining / 8 < header.fieldCount.toNat then
        .error "truncated BindingInfo field table"
      else
        match readFields bytes header.fieldCount.toNat 0 reader fun _ => {} with
        | .error e => .error e
        | .ok fields =>
          .ok
            { route := header.route
              claimIndex := header.claimIndex
              expectedObjectType := header.expectedObjectType
              encoding := fields 0
              typeName := fields 1
              schema := fields 2
              claimId := fields 3
              configJson := fields 4
              schemaDigest := fields 5 }

/-- The kit's record of what the host's reader returns. -/
def BindingInfo.ofHost (info : BindingInfoV1 Range) : BindingInfo where
  route := info.route.toUInt16
  claimIndex := info.claimIndex
  expectedObjectType := info.expectedObjectType
  encoding := info.encoding
  typeName := info.typeName
  schema := info.schema
  claimId := info.claimId
  configJson := info.configJson
  schemaDigest := info.schemaDigest

theorem agrees_readBindingHeader {block : Bytes} {reader : LittleEndianReader}
    (h : reader.On block) :
    Agrees block (readBindingHeader reader) (PlotJugglerSdk.readBindingHeader reader.rest) := by
  unfold readBindingHeader PlotJugglerSdk.readBindingHeader
  refine (agrees_readU16 h).bind fun version reader h => ?_
  refine (agrees_readU16 h).bind fun route reader h => ?_
  refine (agrees_readU32 h).bind fun claimIndex reader h => ?_
  refine (agrees_readU16 h).bind fun expectedType reader h => ?_
  refine .bind_reserved h fun reserved reader h => ?_
  refine (agrees_readU32 h).bind fun fieldCount reader h => ?_
  exact .pure _ h

theorem agrees_readDescriptor {block : Bytes} {reader : LittleEndianReader} (h : reader.On block) :
    Agrees block (readDescriptor reader) (PlotJugglerSdk.readDescriptor reader.rest) := by
  unfold readDescriptor PlotJugglerSdk.readDescriptor
  refine (agrees_readU32 h).bind fun offset reader h => ?_
  refine (agrees_readU32 h).bind fun length reader h => ?_
  exact .pure _ h

theorem readFields_agrees {block : Bytes} {count index : Nat} {reader : LittleEndianReader}
    {fields : Fin 6 → Range} (h : reader.On block) :
    (readFields block count index reader fields).toOption =
      (readBindingFields block count reader.rest).toOption.map fun ranges slot =>
        if slot.val < index then fields slot else ranges.getD (slot.val - index) (fields slot) := by
  induction count generalizing index reader fields with
  | zero =>
    unfold readFields readBindingFields
    simp [Except.toOption]
  | succ count ih =>
    unfold readFields readBindingFields
    have hread := agrees_readDescriptor h
    unfold Agrees at hread
    split at hread
    · next hkit hhost =>
      rw [hkit, hhost]
      rfl
    · next range reader' range' rest hkit hhost =>
      obtain ⟨rfl, rfl, hon⟩ := hread
      simp only [hkit, hhost]
      by_cases houtside : outside block range
      · have hkitOutside : block.length < range.offset ∨
          block.length - range.offset < range.length :=
          houtside
        rw [if_pos houtside, if_pos hkitOutside]
        rfl
      · have hkitInside :
            ¬(block.length < range.offset ∨ block.length - range.offset < range.length) := houtside
        rw [if_neg houtside, if_neg hkitInside, ih hon]
        cases readBindingFields block count reader'.rest with
        | error e => rfl
        | ok ranges =>
          show some _ = some _
          congr 1
          funext slot
          dsimp only
          -- the slot is filled before this entry, by it, or behind it
          rcases Nat.lt_trichotomy slot.val index with hlt | heq | hgt
          · rw [if_pos (by omega), if_pos hlt, if_neg (by omega)]
          · subst heq
            rw [if_pos (by omega), if_pos rfl, if_neg (by omega), Nat.sub_self]
            rfl
          · have hsub : slot.val - index = slot.val - (index + 1) + 1 := by omega
            rw [if_neg (by omega), if_neg (by omega), if_neg (by omega), hsub]
            rfl
    · exact hread.elim

theorem readBindingHeader_length {block rest : Bytes} {header : BindingHeader}
    (h : PlotJugglerSdk.readBindingHeader block = some (header, rest)) : 16 ≤ block.length := by
  simp only [PlotJugglerSdk.readBindingHeader, Option.bind_eq_bind, Option.bind_eq_some_iff] at h
  obtain ⟨⟨_, r1⟩, h1, ⟨_, r2⟩, h2, ⟨_, r3⟩, h3, ⟨_, r4⟩, h4, r5, h5, ⟨_, r6⟩, h6, -⟩ := h
  have h1' : block.length = 2 + r1.length := ByteReader.u16_rest h1
  have h2' : r1.length = 2 + r2.length := ByteReader.u16_rest h2
  have h3' : r2.length = 4 + r3.length := ByteReader.u32_rest h3
  have h4' : r3.length = 2 + r4.length := ByteReader.u16_rest h4
  have h5' : r4.length = 2 + r5.length := ByteReader.skip_rest h5
  have h6' : r5.length = 4 + r6.length := ByteReader.u32_rest h6
  omega

theorem validRoute_iff {route : UInt16} : validRoute route = true ↔ route = 1 ∨ route = 2 := by
  simp [validRoute]

/-- The kit reads a binding exactly where the host does, and reads the same. -/
theorem readBindingInfo_agrees (block : Bytes) :
    (readBindingInfo block).toOption =
      (readBindingInfoV1 block).toOption.map BindingInfo.ofHost := by
  have hstart : LittleEndianReader.On block { bytes := block } := ⟨rfl, Nat.zero_le _⟩
  have hheader := agrees_readBindingHeader hstart
  unfold readBindingInfo readBindingInfoV1
  unfold Agrees at hheader
  split at hheader
  · next hkit hhost =>
    have hhost' : PlotJugglerSdk.readBindingHeader block = none := hhost
    rw [hkit, hhost']
    split <;> rfl
  · next header reader header' rest hkit hhost =>
    obtain ⟨rfl, rfl, hon⟩ := hheader
    have hhost' : PlotJugglerSdk.readBindingHeader block = some (header, reader.rest) := hhost
    have hlength := readBindingHeader_length hhost'
    rw [if_neg (by omega), hkit, hhost']
    simp only [hon.remaining]
    -- the host tells four errors apart where the kit has two
    by_cases hversion : header.version = 1
    · by_cases hroute : validRoute header.route = true
      · have hroute' := validRoute_iff.mp hroute
        rw [if_neg (by rcases hroute' with h | h <;> simp [hversion, h]),
          if_neg (not_not.mpr hversion), if_neg (not_not.mpr hroute)]
        by_cases hsix : header.fieldCount < 6
        · rw [if_pos (.inl hsix), if_pos hsix]
          rfl
        · by_cases htable : reader.rest.length / 8 < header.fieldCount.toNat
          · rw [if_pos (.inr htable), if_neg hsix, if_pos htable]
            rfl
          · rw [if_neg (by simp [hsix, htable]), if_neg hsix, if_neg htable]
            have hfields := @readFields_agrees block header.fieldCount.toNat 0 reader
              (fun _ => {}) hon
            cases hhostFields : readBindingFields block header.fieldCount.toNat reader.rest with
            | error e =>
              rw [hhostFields] at hfields
              cases hkitFields : readFields block header.fieldCount.toNat 0 reader fun _ => {} with
              | error e' => rfl
              | ok fields => simp [hkitFields, Except.toOption] at hfields
            | ok ranges =>
              rw [hhostFields] at hfields
              cases hkitFields : readFields block header.fieldCount.toNat 0 reader fun _ => {} with
              | error e' => simp [hkitFields, Except.toOption] at hfields
              | ok fields =>
                simp only [hkitFields, Except.toOption, Option.map_some, Option.some.injEq,
                  Nat.not_lt_zero, if_false, Nat.sub_zero] at hfields
                subst hfields
                have hcast : header.route.toUInt8.toUInt16 = header.route := by
                  rcases hroute' with h | h <;> rw [h] <;> rfl
                simp [Except.toOption, BindingInfo.ofHost, hcast]
      · have hroute' := mt validRoute_iff.mpr hroute
        rw [if_pos (.inr (not_or.mp hroute')), if_neg (not_not.mpr hversion), if_pos hroute]
        rfl
    · rw [if_pos (.inl hversion), if_pos hversion]
      rfl
  · exact hheader.elim

/-! ## readParseInput -/

def readTimestampAndLength (reader : LittleEndianReader) :
    Option ((Int64 × UInt64) × LittleEndianReader) := do
  let (timestampNs, reader) ← reader.readI64
  let (payloadLength, reader) ← reader.readU64
  some ((timestampNs, payloadLength), reader)

/-- The kit's `ParseInput` has the fields of the host's. -/
def readParseInput (bytes : Bytes) : Except String (ParseInputV1 Range) :=
  match bytes with
  | [] => .error "truncated ParseInput v1 header"
  | flags :: _ =>
    if bytes.length < 24 then .error "truncated ParseInput v1 header"
    -- the host writes the flags and seven zeros; the seven are skipped unread
    else if flags &&& 0xFE ≠ 0 then .error "ParseInput v1 has unknown flag bits"
    else
      match ({ bytes } : LittleEndianReader).skip 8 with
      | none => .error "truncated ParseInput v1 flags"
      | some reader =>
        match readTimestampAndLength reader with
        | none => .error "truncated ParseInput v1 header"
        | some ((timestampNs, payloadLength), reader) =>
          if payloadLength.toNat ≠ reader.remaining then
            .error "ParseInput payload length does not match the block"
          else .ok ⟨flags &&& 1 ≠ 0, timestampNs, ⟨reader.position, payloadLength.toNat⟩⟩

/-- The host's reader behind the flags. -/
def hostTimestampAndLength (rest : Bytes) : Option ((Int64 × UInt64) × Bytes) := do
  let (timestampNs, rest) ← ByteReader.i64 rest
  let (payloadLength, rest) ← ByteReader.u64 rest
  some ((timestampNs, payloadLength), rest)

theorem agrees_readTimestampAndLength {block : Bytes} {reader : LittleEndianReader}
    (h : reader.On block) :
    Agrees block (readTimestampAndLength reader) (hostTimestampAndLength reader.rest) := by
  unfold readTimestampAndLength hostTimestampAndLength
  refine (agrees_readI64 h).bind fun timestampNs reader h => ?_
  refine (agrees_readU64 h).bind fun payloadLength reader h => ?_
  exact .pure _ h

/-- The host reads the flags and skips seven bytes, the kit skips all eight. -/
theorem readParseInputHeader_cons (flags : UInt8) (tail : Bytes) :
    readParseInputHeader (flags :: tail) =
      (ByteReader.skip 8 (flags :: tail)).bind fun rest =>
        (hostTimestampAndLength rest).map fun ((timestampNs, payloadLength), rest) =>
          (flags, timestampNs, payloadLength, rest) := by
  have hflags : ByteReader.u8 (flags :: tail) = some (flags, tail) :=
    ByteReader.u8_append flags tail
  have hskip : ByteReader.skip 8 (flags :: tail) = ByteReader.skip 7 tail := by
    unfold ByteReader.skip takeBytes
    by_cases hroom : 7 ≤ tail.length
    · rw [if_pos hroom, if_pos (by simpa using hroom)]
      rfl
    · rw [if_neg hroom, if_neg (by simpa using hroom)]
  unfold readParseInputHeader hostTimestampAndLength
  rw [hflags, hskip]
  simp only [Option.bind_eq_bind, Option.bind_some]
  cases ByteReader.skip 7 tail with
  | none => rfl
  | some rest =>
    show ((ByteReader.i64 rest).bind _) = Option.map _ ((ByteReader.i64 rest).bind _)
    cases ByteReader.i64 rest with
    | none => rfl
    | some read =>
      show ((ByteReader.u64 read.2).bind _) = Option.map _ ((ByteReader.u64 read.2).bind _)
      cases ByteReader.u64 read.2 <;> rfl

theorem readParseInputHeader_length {block rest : Bytes} {flags : UInt8} {timestampNs : Int64}
    {payloadLength : UInt64}
    (h : readParseInputHeader block = some (flags, timestampNs, payloadLength, rest)) :
    24 ≤ block.length := by
  simp only [readParseInputHeader, Option.bind_eq_bind, Option.bind_eq_some_iff] at h
  obtain ⟨⟨_, r1⟩, h1, r2, h2, ⟨_, r3⟩, h3, ⟨_, r4⟩, h4, -⟩ := h
  have h1' : block.length = 1 + r1.length := ByteReader.u8_rest h1
  have h2' : r1.length = 7 + r2.length := ByteReader.skip_rest h2
  have h3' : r2.length = 8 + r3.length := ByteReader.i64_rest h3
  have h4' : r3.length = 8 + r4.length := ByteReader.u64_rest h4
  omega

/-- The kit reads a parse input exactly where the host does, and reads the same. -/
theorem readParseInput_agrees (block : Bytes) :
    (readParseInput block).toOption = (readParseInputV1 block).toOption := by
  cases block with
  | nil => rfl
  | cons flags tail =>
    have hstart : LittleEndianReader.On (flags :: tail) { bytes := flags :: tail } :=
      ⟨rfl, Nat.zero_le _⟩
    have hheader := readParseInputHeader_cons flags tail
    have hskip := agrees_skip 8 hstart
    unfold readParseInput readParseInputV1
    dsimp only
    -- the kit checks the length of the header once, the host at each read
    by_cases hshort : (flags :: tail).length < 24
    · rw [if_pos hshort]
      cases hread : readParseInputHeader (flags :: tail) with
      | none => rfl
      | some read => exact absurd (readParseInputHeader_length hread) (by omega)
    · rw [if_neg hshort, hheader]
      have hstartRest : ({ bytes := flags :: tail } : LittleEndianReader).rest = flags ::
          tail := rfl
      rw [hstartRest] at hskip
      unfold Agrees at hskip
      cases hkit : ({ bytes := flags :: tail } : LittleEndianReader).skip 8 with
      | none =>
        cases hhost : ByteReader.skip 8 (flags :: tail) with
        | none =>
          simp only [Option.bind_none]
          split <;> rfl
        | some rest => simp [hkit, hhost] at hskip
      | some reader =>
        cases hhost : ByteReader.skip 8 (flags :: tail) with
        | none => simp [hkit, hhost] at hskip
        | some rest =>
          simp only [hkit, hhost, Option.map_some, true_and] at hskip
          obtain ⟨rfl, hon⟩ := hskip
          have hnumbers := agrees_readTimestampAndLength hon
          unfold Agrees at hnumbers
          simp only [Option.bind_some]
          split at hnumbers
          · next hkit' hhost' =>
            rw [hkit', hhost']
            split <;> rfl
          · next numbers reader' numbers' rest' hkit' hhost' =>
            obtain ⟨rfl, rfl, hon'⟩ := hnumbers
            rw [hkit', hhost']
            simp only [Option.map_some, hon'.remaining]
            -- the reserved flags are refused by both, and so is a length that is not the rest
            by_cases hflags : flags &&& 0xFE = 0
            · rw [if_neg (not_not.mpr hflags), if_neg (not_not.mpr hflags)]
              by_cases hlength : numbers.2.toNat = reader'.rest.length
              · rw [if_neg (not_not.mpr hlength), if_neg (not_not.mpr hlength), hlength, take_rest]
                have hposition : (flags :: tail).length - reader'.rest.length =
                    reader'.position := by
                  have := hon'.rest_length
                  have := hon'.position
                  omega
                rw [hposition]
              · rw [if_pos hlength, if_pos hlength]
                rfl
            · rw [if_pos hflags, if_pos hflags]
              rfl
          · exact hnumbers.elim

end PlotJugglerSdk.ParserModule
