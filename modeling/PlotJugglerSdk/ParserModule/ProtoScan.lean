import Mathlib.Data.List.Forall2
import PlotJugglerSdk.ParserModule.ProtoReader

/-!
# The scan and the wire grammar

`ProtoReader` takes the protobuf wire grammar and nothing else: each part of the scan
against the grammar's part of the same name, first what a success says and then that
the grammar is enough for one.

* `readVarint_iff`, `nextField_sound`, `nextField_complete` — one step
* `matching_iff` — the whole message
-/

namespace PlotJugglerSdk.ParserModule

open Wire Scan

namespace ProtoReader

/-! ## Varints -/

theorem byte_bit (b : UInt8) : b &&& 0xFE = 0 ↔ b.toNat < 2 := by
  have h : ∀ b : BitVec 8, b &&& 0xFE = 0 ↔ b.toNat < 2 := by decide
  rw [← UInt8.toBitVec_inj]
  exact h b.toBitVec

/-- The payload of byte `byteIndex` is put above what was read so far. -/
theorem or_payload {value : UInt64} {byte : UInt8} {byteIndex : Nat} (hindex : byteIndex ≤ 9)
    (hvalue : value.toNat < 2 ^ (7 * byteIndex)) (hlast : byteIndex = 9 → byte.toNat < 2) :
    (value ||| (byte &&& 0x7F).toUInt64 <<< UInt64.ofNat (byteIndex * 7)).toNat =
        value.toNat + byte.toNat % 128 * 2 ^ (7 * byteIndex) ∧
      value.toNat + byte.toNat % 128 * 2 ^ (7 * byteIndex) < 2 ^ 64 := by
  have hbyte : byte.toNat % 128 < 128 := Nat.mod_lt _ (by decide)
  have hsmall : value.toNat + byte.toNat % 128 * 2 ^ (7 * byteIndex) < 2 ^ 64 := by
    by_cases h9 : byteIndex = 9
    · have hlt : byte.toNat < 2 := hlast h9
      have hmod : byte.toNat % 128 ≤ 1 := by omega
      subst h9
      omega
    · have hle : byte.toNat % 128 * 2 ^ (7 * byteIndex) ≤ 127 * 2 ^ (7 * byteIndex) :=
        Nat.mul_le_mul_right _ (by omega)
      have hpow : 2 ^ (7 * byteIndex) ≤ 2 ^ 56 := Nat.pow_le_pow_right (by decide) (by omega)
      omega
  have hshift : (UInt64.ofNat (byteIndex * 7)).toNat % 64 = 7 * byteIndex := by
    rw [UInt64.toNat_ofNat_of_lt' (by rw [UInt64.size]; omega)]
    omega
  refine ⟨?_, hsmall⟩
  rw [UInt64.toNat_or, UInt64.toNat_shiftLeft, hshift, UInt8.toNat_toUInt64, byte_payload,
    Nat.shiftLeft_eq, Nat.mod_eq_of_lt (by omega), ← Nat.shiftLeft_eq, lor_group _ hvalue,
    Nat.shiftLeft_eq]

/-- The loop reads what the format's varint says of the bytes left. -/
theorem readVarintFrom_eq (bytes : Bytes) {left byteIndex position : Nat} {value : UInt64}
    (hleft : left + byteIndex = 10) (hvalue : value.toNat < 2 ^ (7 * byteIndex)) :
    (readVarintFrom bytes left position value).toOption =
      (takeVarint byteIndex (bytes.drop position)).map fun (taken, rest) =>
        (UInt64.ofNat (value.toNat + taken * 2 ^ (7 * byteIndex)), bytes.length - rest.length) := by
  induction left generalizing byteIndex position value with
  | zero =>
    obtain rfl : byteIndex = 10 := by omega
    have hnone : takeVarint 10 (bytes.drop position) = none := by
      cases bytes.drop position with
      | nil => rfl
      | cons b rest => rw [takeVarint, if_pos (by decide)]
    rw [hnone]
    rfl
  | succ left ih =>
    have hindex : 9 - left = byteIndex := by omega
    rw [readVarintFrom, hindex]
    cases hget : bytes[position]? with
    | none =>
      have hlen : bytes.length ≤ position := List.getElem?_eq_none_iff.mp hget
      rw [List.drop_eq_nil_of_le hlen]
      rfl
    | some byte =>
      have hlt : position < bytes.length := by
        obtain ⟨hlt, -⟩ := List.getElem?_eq_some_iff.mp hget
        exact hlt
      rw [drop_of_getElem? hget, takeVarint, if_neg (by omega)]
      by_cases hover : byteIndex = 9 ∧ byte &&& 0xFE ≠ 0
      · -- The tenth byte may only carry bit 63 and may not go on.
        obtain ⟨rfl, hbit⟩ := hover
        have hbig : ¬ byte.toNat < 2 := fun h => hbit ((byte_bit byte).mpr h)
        show (if 9 = 9 ∧ byte &&& 0xFE ≠ 0 then _ else _ : Except ScanError _).toOption = _
        rw [if_pos ⟨rfl, hbit⟩]
        by_cases hpayload : 1 < byte.toNat % 128
        · rw [if_pos ⟨rfl, hpayload⟩]
          rfl
        · have hnone : takeVarint (9 + 1) (bytes.drop (position + 1)) = none := by
            cases bytes.drop (position + 1) with
            | nil => rfl
            | cons b rest => rw [takeVarint, if_pos (by decide)]
          rw [if_neg (fun h => hpayload h.2), if_neg (by omega), hnone]
          rfl
      · have hlast : byteIndex = 9 → byte.toNat < 2 := by
          intro h9
          by_contra hbig
          exact hover ⟨h9, fun h => hbig ((byte_bit byte).mp h)⟩
        have hpayload : ¬ (byteIndex = 9 ∧ 1 < byte.toNat % 128) := by
          rintro ⟨h9, hpayload⟩
          have hlt2 := hlast h9
          omega
        obtain ⟨hor, hsmall⟩ := or_payload (by omega) hvalue hlast
        show (if byteIndex = 9 ∧ byte &&& 0xFE ≠ 0 then _ else _ : Except ScanError _).toOption = _
        rw [if_neg hover, if_neg hpayload]
        by_cases hend : byte.toNat < 128
        · show (if byte &&& 0x80 = 0 then _ else _ : Except ScanError _).toOption = _
          rw [if_pos ((byte_last byte).mpr hend), if_pos hend]
          have hvalueEq : value ||| (byte &&& 0x7F).toUInt64 <<< UInt64.ofNat (byteIndex * 7) =
              UInt64.ofNat (value.toNat + byte.toNat * 2 ^ (7 * byteIndex)) := by
            rw [Nat.mod_eq_of_lt hend] at hor
            rw [← hor, UInt64.ofNat_toNat]
          have hstop : position + 1 = bytes.length - (bytes.drop (position + 1)).length := by
            rw [List.length_drop]
            omega
          rw [hvalueEq]
          exact congrArg (fun stop => some (_, stop)) hstop
        · show (if byte &&& 0x80 = 0 then _ else _ : Except ScanError _).toOption = _
          rw [if_neg (fun h => hend ((byte_last byte).mp h)), if_neg hend]
          have hpow : 2 ^ (7 * (byteIndex + 1)) = 128 * 2 ^ (7 * byteIndex) :=
            two_pow_group byteIndex 0
          have hnext := add_group_lt byte.toNat hvalue
          rw [@ih (byteIndex + 1) (position + 1) _ (by omega) (by rw [hor]; exact hnext), hor]
          cases takeVarint (byteIndex + 1) (bytes.drop (position + 1)) with
          | none => rfl
          | some taken =>
            obtain ⟨taken, rest⟩ := taken
            show some (_, _) = some (_, _)
            rw [hpow]
            congr 3
            ring

theorem readVarint_eq (bytes : Bytes) (position : Nat) :
    (readVarint bytes position).toOption =
      (takeVarint 0 (bytes.drop position)).map fun (value, rest) =>
        (UInt64.ofNat value, bytes.length - rest.length) := by
  have h := @readVarintFrom_eq bytes 10 0 position 0 rfl (by decide)
  rw [readVarint, h]
  cases takeVarint 0 (bytes.drop position) with
  | none => rfl
  | some taken =>
    show some (UInt64.ofNat (0 + taken.1 * 1), _) = some (UInt64.ofNat taken.1, _)
    rw [Nat.mul_one, Nat.zero_add]

theorem readVarint_iff {bytes : Bytes} {position next : Nat} {value : UInt64} :
    readVarint bytes position = .ok (value, next) ↔ VarintAt bytes position value.toNat next := by
  rw [← toOption_eq_some, readVarint_eq, Option.map_eq_some_iff]
  constructor
  · rintro ⟨⟨taken, rest⟩, htake, heq⟩
    obtain ⟨rfl, rfl⟩ := Prod.mk.inj heq
    rw [UInt64.toNat_ofNat_of_lt' (takeVarint_lt_two_pow htake)]
    exact varintAt_of_take htake
  · intro h
    refine ⟨(value.toNat, bytes.drop next), h.read, ?_⟩
    show (UInt64.ofNat value.toNat, bytes.length - (bytes.drop next).length) = _
    rw [UInt64.ofNat_toNat, h.length_eq]

/-- A varint of the format is read. -/
theorem readVarint_ok {bytes : Bytes} {position value next : Nat}
    (h : VarintAt bytes position value next) :
    readVarint bytes position = .ok (UInt64.ofNat value, next) := by
  rw [readVarint_iff, UInt64.toNat_ofNat_of_lt' h.value_lt]
  exact h

/-! ## Scans that finish -/

theorem readVarintFrom_finishes (bytes : Bytes) (left position : Nat) (value : UInt64) :
    Finishes (readVarintFrom bytes left position value) := by
  induction left generalizing position value with
  | zero => exact finishes_fail _
  | succ left ih =>
    rw [readVarintFrom]
    cases bytes[position]? with
    | none => exact finishes_fail _
    | some byte =>
      show Finishes (if _ then _ else if _ then _ else _)
      split
      · exact finishes_fail _
      · split
        · exact finishes_ok _
        · exact ih _ _

theorem readVarint_finishes (bytes : Bytes) (position : Nat) :
    Finishes (readVarint bytes position) :=
  readVarintFrom_finishes bytes 10 position 0

/-! ## Tags -/

theorem key_number (key : UInt64) : (key >>> 3).toNat = key.toNat / 8 := by
  rw [UInt64.toNat_shiftRight,
    show (3 : UInt64).toNat % 64 = 3 by decide, Nat.shiftRight_eq_div_pow]

theorem key_type (key : UInt64) : (key &&& 7).toNat = key.toNat % 8 := by
  rw [UInt64.toNat_and, show (7 : UInt64).toNat = 2 ^ 3 - 1 by decide,
    Nat.and_two_pow_sub_one_eq_mod]

/-- The checks both scans make of a key. -/
theorem key_valid {key : UInt64} :
    ¬ (key >>> 3 = 0 ∨ (0x1FFFFFFF : UInt64) < key >>> 3) ↔ 0 < key.toNat / 8 ∧
      key.toNat / 8 < 2 ^ 29 := by
  rw [UInt64.lt_iff_toNat_lt, ← UInt64.toNat_inj, key_number,
    show (0x1FFFFFFF : UInt64).toNat = 2 ^ 29 - 1 by decide, show (0 : UInt64).toNat = 0 by decide]
  omega

/-- A field number survives its cast. -/
theorem fieldNumber_toNat {key : UInt64} (h : key.toNat / 8 < 2 ^ 29) :
    (key >>> 3).toUInt32.toNat = key.toNat / 8 := by
  rw [UInt64.toNat_toUInt32, key_number]
  omega

theorem key_reserved {key : UInt64} :
    5 < key &&& 7 ↔ WireType.ofRaw key.toNat = .reserved6 ∨
      WireType.ofRaw key.toNat = .reserved7 := by
  rw [UInt64.lt_iff_toNat_lt, key_type, show (5 : UInt64).toNat = 5 by decide]
  have hlt : key.toNat % 8 < 8 := Nat.mod_lt _ (by decide)
  unfold WireType.ofRaw
  generalize key.toNat % 8 = code at hlt ⊢
  revert code
  decide

theorem tagAt_of_read {message : Bytes} {position next : Nat} {key : UInt64}
    (hread : readVarint message position = .ok (key, next))
    (hvalid : ¬ (key >>> 3 = 0 ∨ (0x1FFFFFFF : UInt64) < key >>> 3)) :
    TagAt message position ⟨(key >>> 3).toUInt32.toNat, WireType.ofRaw key.toNat⟩ next := by
  obtain ⟨hpos, hlt⟩ := key_valid.mp hvalid
  have hnumber : (key >>> 3).toUInt32.toNat = key.toNat / 8 := fieldNumber_toNat hlt
  refine ⟨⟨key.toNat, readVarint_iff.mp hread, hnumber.symm, rfl⟩, ?_, ?_⟩
  · show 0 < (key >>> 3).toUInt32.toNat
    omega
  · show (key >>> 3).toUInt32.toNat < 2 ^ 29
    omega

/-- The key of a tag of the format passes the checks of both scans. -/
theorem read_of_tagAt {message : Bytes} {position next : Nat} {tag : Tag}
    (h : TagAt message position tag next)
    (htype : tag.type ≠ .reserved6 ∧ tag.type ≠ .reserved7) :
    ∃ key, readVarint message position = .ok (key, next) ∧
      ¬ (key >>> 3 = 0 ∨ (0x1FFFFFFF : UInt64) < key >>> 3) ∧ ¬ 5 < key &&& 7 ∧
      (key >>> 3).toUInt32 = .ofNat tag.number ∧ WireType.ofRaw key.toNat = tag.type := by
  obtain ⟨raw, hraw, hnumber, hkind⟩ := h.raw
  have hkey : (UInt64.ofNat raw).toNat = raw := UInt64.toNat_ofNat_of_lt' hraw.value_lt
  have hpos := h.pos
  have hlt := h.lt
  refine ⟨UInt64.ofNat raw, readVarint_ok hraw, ?_, ?_, ?_, ?_⟩
  · rw [key_valid, hkey, hnumber]
    exact ⟨hpos, hlt⟩
  · rw [key_reserved, hkey, hkind]
    exact fun h => h.elim htype.1 htype.2
  · have hcast : (UInt64.ofNat raw >>> 3).toUInt32.toNat = tag.number := by
      rw [fieldNumber_toNat (by rw [hkey, hnumber]; exact hlt), hkey, hnumber]
    rw [← hcast, UInt32.ofNat_toNat]
  · rw [hkey]
    exact hkind

/-! ## Payloads -/

section Message

variable {message : Bytes}

theorem skipValue_sound {position stop : Nat} {type : WireType}
    (h : skipValue message position type = .ok stop) :
    ∃ first, PayloadAt message type position first stop := by
  cases type with
  | varint =>
    obtain ⟨⟨value, next⟩, hread, hstop⟩ := bind_ok h
    obtain rfl : next = stop := Except.ok.inj hstop
    exact ⟨position, .varint (readVarint_iff.mp hread)⟩
  | fixed64 =>
    rw [skipValue] at h
    split at h
    · cases h
    · obtain rfl : position + 8 = stop := Except.ok.inj h
      exact ⟨position, .fixed64 (by omega)⟩
  | fixed32 =>
    rw [skipValue] at h
    split at h
    · cases h
    · obtain rfl : position + 4 = stop := Except.ok.inj h
      exact ⟨position, .fixed32 (by omega)⟩
  | lengthDelimited =>
    rw [skipValue] at h
    split at h
    · cases h
    · rename_i length first hread
      split at h
      · cases h
      · obtain rfl : first + length.toNat = stop := Except.ok.inj h
        exact ⟨first, .lengthDelimited (readVarint_iff.mp hread) (by omega)⟩
  | startGroup => cases h
  | endGroup => cases h
  | reserved6 => cases h
  | reserved7 => cases h

theorem skipValue_complete {position first stop : Nat} {type : WireType}
    (h : PayloadAt message type position first stop) :
    skipValue message position type = .ok stop := by
  cases h with
  | varint h =>
    rw [skipValue]
    rw [readVarint_ok h]
    rfl
  | fixed64 h =>
    rw [skipValue]
    exact if_neg (by omega)
  | fixed32 h =>
    rw [skipValue]
    exact if_neg (by omega)
  | lengthDelimited h hsize =>
    rw [skipValue]
    rw [readVarint_ok h]
    show (if _ then _ else Except.ok (first + _)) = _
    rw [UInt64.toNat_ofNat_of_lt' h.value_lt, if_neg (by omega)]

theorem skipValue_finishes (position : Nat) (type : WireType) :
    Finishes (skipValue message position type) := by
  cases type with
  | varint => exact (readVarint_finishes message position).bind fun _ _ => finishes_ok _
  | fixed64 =>
    rw [skipValue]
    split
    · exact finishes_fail _
    · exact finishes_ok _
  | fixed32 =>
    rw [skipValue]
    split
    · exact finishes_fail _
    · exact finishes_ok _
  | lengthDelimited =>
    rw [skipValue]
    split
    · exact finishes_fail _
    · split
      · exact finishes_fail _
      · exact finishes_ok _
  | startGroup => exact finishes_fail _
  | endGroup => exact finishes_fail _
  | reserved6 => exact finishes_fail _
  | reserved7 => exact finishes_fail _

/-! ## Groups -/

theorem enterGroup_ok {depth stop : Nat} {scan : Except ScanError Nat}
    (h : enterGroup depth scan = .ok stop) : depth ≤ kMaxRecursionDepth ∧ scan = .ok stop := by
  unfold enterGroup at h
  split at h
  · cases h
  · rename_i hdepth
    exact ⟨Nat.not_lt.mp hdepth, h⟩

/-- A scan that ends closed its group, and what it went over is a field sequence. -/
theorem skipGroupFrom_sound {rounds position stop depth levels : Nat} {groupNumber : UInt32}
    (hlevels : depth + levels = kMaxRecursionDepth)
    (h : skipGroupFrom message rounds position groupNumber depth = .ok stop) :
    ∃ inner last, FieldsAt message levels position inner last ∧
      TagAt message last ⟨groupNumber.toNat, .endGroup⟩ stop := by
  induction rounds generalizing position stop depth levels groupNumber with
  | zero =>
    unfold skipGroupFrom at h
    split at h
    · cases h
    · cases h
  | succ rounds ih =>
    rw [skipGroupFrom] at h
    split at h
    · obtain ⟨⟨key, body⟩, hread, h⟩ := bind_ok h
      dsimp only at h
      split at h
      · cases h
      · rename_i hchecks
        have hvalid : ¬ (key >>> 3 = 0 ∨ (0x1FFFFFFF : UInt64) < key >>> 3) :=
          fun hor => hchecks (hor.elim .inl fun hlt => .inr (.inl hlt))
        have htag := tagAt_of_read hread hvalid
        split at h
        · -- The end tag: it closes this group or none.
          rename_i htype
          rw [htype] at htag
          split at h
          · rename_i hnumber
            obtain rfl : body = stop := Except.ok.inj h
            rw [hnumber] at htag
            exact ⟨[], position, .nil, htag⟩
          · cases h
        · -- A nested group is one level further down.
          rename_i htype
          rw [htype] at htag
          obtain ⟨next, hnested, hrest⟩ := bind_ok h
          obtain ⟨hdepth, hscan⟩ := enterGroup_ok hnested
          obtain ⟨levels, rfl⟩ : ∃ lower, levels = lower + 1 := ⟨levels - 1, by omega⟩
          obtain ⟨inner, last, hinner, hclose⟩ :=
            @ih body next (depth + 1) levels _ (by omega) hscan
          obtain ⟨fields, final, hfields, hend⟩ := ih hlevels hrest
          exact ⟨_, final, .group htag hinner hclose hfields, hend⟩
        · obtain ⟨next, hskip, hrest⟩ := bind_ok h
          obtain ⟨first, hpayload⟩ := skipValue_sound hskip
          obtain ⟨fields, final, hfields, hend⟩ := ih hlevels hrest
          exact ⟨_, final, .value htag hpayload hfields, hend⟩
    · cases h

/-- A field sequence and the end tag behind it are gone over. -/
theorem skipGroupFrom_complete {position last levels : Nat} {inner : List Occurrence}
    (h : FieldsAt message levels position inner last) {rounds stop depth : Nat}
    {groupNumber : UInt32} (hlevels : depth + levels = kMaxRecursionDepth)
    (hclose : TagAt message last ⟨groupNumber.toNat, .endGroup⟩ stop)
    (hrounds : message.length ≤ position + rounds) :
    skipGroupFrom message rounds position groupNumber depth = .ok stop := by
  induction h generalizing rounds stop depth groupNumber with
  -- no field is left: the round reads the end tag of this group
  | nil =>
    have hlt := hclose.start_lt
    have hinside := hclose.inside
    obtain ⟨rounds, rfl⟩ : ∃ fewer, rounds = fewer + 1 := ⟨rounds - 1, by omega⟩
    obtain ⟨key, hread, hvalid, hreserved, hnumber, hkey⟩ := read_of_tagAt hclose ⟨nofun, nofun⟩
    rw [skipGroupFrom, if_pos (by omega), hread]
    show (if _ then _ else _) = _
    rw [if_neg (by tauto), hkey, hnumber]
    show (if UInt32.ofNat groupNumber.toNat = groupNumber then _ else _) = _
    rw [UInt32.ofNat_toNat, if_pos rfl]
  | @value levels start body first next stop tag fields htag hpayload hfields ih =>
    have hlt := htag.start_lt
    have hinside := htag.inside
    have hle := hpayload.le
    obtain ⟨rounds, rfl⟩ : ∃ fewer, rounds = fewer + 1 := ⟨rounds - 1, by omega⟩
    have hskip : skipValue message body tag.type = .ok next := skipValue_complete hpayload
    have hrest : skipGroupFrom message rounds next groupNumber depth = .ok _ :=
      ih hlevels hclose (by omega)
    -- a payload is of no reserved type, so the tag is not refused
    have htype : tag.type ≠ .reserved6 ∧ tag.type ≠ .reserved7 := by
      obtain ⟨number, type⟩ := tag
      -- whatever the type of the payload, the round skips it and goes on
      cases hpayload <;> exact ⟨nofun, nofun⟩
    obtain ⟨key, hread, hvalid, hreserved, hnumber, hkey⟩ := read_of_tagAt htag htype
    rw [skipGroupFrom, if_pos (by omega), hread]
    show (if _ then _ else _) = _
    rw [if_neg (by tauto), hkey]
    obtain ⟨number, type⟩ := tag
    cases hpayload <;>
      show (skipValue message body _ >>= _) = _ <;>
      rw [hskip] <;>
      exact hrest
  | @group levels start body last next stop number inner fields hopen hinner hcloseInner hfields
      ihInner ih =>
    have hlt := hopen.start_lt
    have hinside := hopen.inside
    have hcloseLt := hcloseInner.start_lt
    have hle := hinner.le
    have hnumber : (UInt32.ofNat number).toNat = number :=
      UInt32.toNat_ofNat_of_lt' (lt_trans hopen.lt (by decide))
    obtain ⟨rounds, rfl⟩ : ∃ fewer, rounds = fewer + 1 := ⟨rounds - 1, by omega⟩
    obtain ⟨key, hread, hvalid, hreserved, hcast, hkey⟩ := read_of_tagAt hopen ⟨nofun, nofun⟩
    rw [skipGroupFrom, if_pos (by omega), hread]
    show (if _ then _ else _) = _
    rw [if_neg (by tauto), hkey, hcast]
    show (enterGroup (depth + 1)
      (skipGroupFrom message rounds body (UInt32.ofNat number) (depth + 1)) >>= _) = _
    -- the inner group closes with its own number, one level further down
    have hnested : skipGroupFrom message rounds body (UInt32.ofNat number) (depth + 1) =
        .ok next := by
      refine ihInner (by omega) ?_ (by omega)
      rw [hnumber]
      exact hcloseInner
    rw [hnested, enterGroup, if_neg (by omega)]
    exact ih hlevels hclose (by omega)

theorem enterGroup_finishes {scan : Except ScanError Nat} (depth : Nat) (h : Finishes scan) :
    Finishes (enterGroup depth scan) := by
  unfold enterGroup
  split
  · exact finishes_fail _
  · exact h

/-- Every round consumes input, so there are rounds enough. -/
theorem skipGroupFrom_finishes {rounds position depth levels : Nat} (groupNumber : UInt32)
    (hlevels : depth + levels = kMaxRecursionDepth) (hrounds : message.length ≤ position + rounds) :
    Finishes (skipGroupFrom message rounds position groupNumber depth) := by
  induction rounds generalizing position depth levels groupNumber with
  | zero =>
    rw [skipGroupFrom, if_neg (by omega)]
    exact finishes_fail _
  | succ rounds ih =>
    rw [skipGroupFrom]
    split
    · refine (readVarint_finishes message position).bind ?_
      rintro ⟨key, body⟩ hread
      have hbody : position < body := (readVarint_iff.mp hread).lt
      dsimp only
      split
      · exact finishes_fail _
      · split
        · split
          · exact finishes_ok _
          · exact finishes_fail _
        · by_cases hdepth : depth = kMaxRecursionDepth
          · -- No deeper group is entered.
            unfold enterGroup
            rw [if_pos (by omega)]
            exact finishes_fail _
          · obtain ⟨levels, rfl⟩ : ∃ lower, levels = lower + 1 := ⟨levels - 1, by omega⟩
            have hnested : Finishes
                (skipGroupFrom message rounds body (key >>> 3).toUInt32 (depth + 1)) :=
              @ih body (depth + 1) levels (key >>> 3).toUInt32 (by omega) (by omega)
            refine (enterGroup_finishes (depth + 1) hnested).bind ?_
            intro next hnext
            obtain ⟨-, hscan⟩ := enterGroup_ok hnext
            obtain ⟨inner, last, hinner, hclose⟩ := @skipGroupFrom_sound message rounds body next
              (depth + 1) levels _ (by omega) hscan
            have hle := hinner.le
            have hlt := hclose.start_lt
            exact ih groupNumber hlevels (by omega)
        · refine (skipValue_finishes body _).bind ?_
          intro next hskip
          obtain ⟨first, hpayload⟩ := skipValue_sound hskip
          have hle := hpayload.le
          exact ih groupNumber hlevels (by omega)
    · exact finishes_fail _

/-! ## One field of the top level -/

/-- What a lookup keeps of an occurrence: the value of a varint or a fixed field, the
span of a length-delimited one, and of a group no more than its number. -/
def fieldOf (message : Bytes) (occurrence : Occurrence) : Field :=
  let field : Field := { number := .ofNat occurrence.number, wireType := occurrence.type }
  match occurrence.type with
  | .varint =>
    { field with
      integer := .ofNat ((takeVarint 0 (message.drop occurrence.start)).elim 0 Prod.fst) }
  | .fixed64 => { field with integer := readLittleEndian message occurrence.start 8 }
  | .fixed32 => { field with integer := readLittleEndian message occurrence.start 4 }
  | .lengthDelimited =>
    { field with
      bytes := { offset := occurrence.start, size := occurrence.stop - occurrence.start } }
  | _ => field

theorem fieldOf_varint {number start value stop : Nat} (h : VarintAt message start value stop) :
    fieldOf message ⟨number, .varint, start, stop⟩ =
      { number := .ofNat number, wireType := .varint, integer := .ofNat value } := by
  unfold fieldOf
  rw [h.read]
  rfl

theorem fieldOf_bytes {number start stop : Nat} :
    fieldOf message ⟨number, .lengthDelimited, start, stop⟩ =
      { number := .ofNat number, wireType := .lengthDelimited,
        bytes := { offset := start, size := stop - start } } := rfl

theorem skipGroup_sound {position stop depth levels : Nat} {groupNumber : UInt32}
    (hlevels : depth + levels = kMaxRecursionDepth)
    (h : skipGroup message position groupNumber (depth + 1) = .ok stop) :
    ∃ lower, levels = lower + 1 ∧ ∃ inner last, FieldsAt message lower position inner last ∧
      TagAt message last ⟨groupNumber.toNat, .endGroup⟩ stop := by
  obtain ⟨hdepth, hscan⟩ := enterGroup_ok h
  obtain ⟨lower, rfl⟩ : ∃ lower, levels = lower + 1 := ⟨levels - 1, by omega⟩
  exact ⟨lower, rfl, @skipGroupFrom_sound message message.length position stop (depth + 1) lower _
    (by omega) hscan⟩

/-- A step of the scan is a field of the grammar. -/
theorem nextField_sound {position stop depth levels : Nat} {field : Field}
    (hlevels : depth + levels = kMaxRecursionDepth)
    (h : nextField message position depth = .ok (field, stop)) :
    ∃ occurrence, FieldAt message levels position occurrence stop ∧
      field = fieldOf message occurrence := by
  unfold nextField at h
  obtain ⟨⟨key, body⟩, hread, h⟩ := bind_ok h
  dsimp only at h
  split at h
  · cases h
  · -- the branches in the order of the source: reserved types, then one for each type
    rename_i hvalid
    have htag := tagAt_of_read hread hvalid
    split at h
    · cases h
    · split at h
      · rename_i htype
        rw [htype] at htag
        obtain ⟨⟨value, next⟩, hvalue, h⟩ := bind_ok h
        obtain ⟨rfl, rfl⟩ := Prod.mk.inj (Except.ok.inj h)
        have hat := readVarint_iff.mp hvalue
        refine ⟨_, .value htag (.varint hat), ?_⟩
        rw [fieldOf_varint hat, UInt32.ofNat_toNat, UInt64.ofNat_toNat]
      · rename_i htype
        rw [htype] at htag
        split at h
        · cases h
        · obtain ⟨rfl, rfl⟩ := Prod.mk.inj (Except.ok.inj h)
          refine ⟨_, .value htag (.fixed64 (by omega)), ?_⟩
          unfold fieldOf
          rw [UInt32.ofNat_toNat]
      · rename_i htype
        rw [htype] at htag
        obtain ⟨⟨length, first⟩, hlength, h⟩ := bind_ok h
        dsimp only at h
        split at h
        · cases h
        · obtain ⟨rfl, rfl⟩ := Prod.mk.inj (Except.ok.inj h)
          refine ⟨_, .value htag (.lengthDelimited (readVarint_iff.mp hlength) (by omega)), ?_⟩
          rw [fieldOf_bytes, UInt32.ofNat_toNat, Nat.add_sub_cancel_left]
      · rename_i htype
        rw [htype] at htag
        obtain ⟨next, hskip, h⟩ := bind_ok h
        obtain ⟨rfl, rfl⟩ := Prod.mk.inj (Except.ok.inj h)
        -- a group is gone over by the inner scan, which has its own grammar
        obtain ⟨lower, rfl, inner, last, hinner, hclose⟩ := skipGroup_sound hlevels hskip
        refine ⟨_, .group htag hinner hclose, ?_⟩
        unfold fieldOf
        rw [UInt32.ofNat_toNat]
      · cases h
      · rename_i htype
        rw [htype] at htag
        split at h
        · cases h
        · obtain ⟨rfl, rfl⟩ := Prod.mk.inj (Except.ok.inj h)
          refine ⟨_, .value htag (.fixed32 (by omega)), ?_⟩
          unfold fieldOf
          rw [UInt32.ofNat_toNat]
      · cases h

/-- A field of the grammar is read in one step. -/
theorem nextField_complete {position stop depth levels : Nat} {occurrence : Occurrence}
    (hlevels : depth + levels = kMaxRecursionDepth)
    (h : FieldAt message levels position occurrence stop) :
    nextField message position depth = .ok (fieldOf message occurrence, stop) := by
  cases h with
  | @value levels start body first stop tag htag hpayload =>
    -- a payload is of no reserved type, so the tag is not refused
    have htype : tag.type ≠ .reserved6 ∧ tag.type ≠ .reserved7 := by
      obtain ⟨number, type⟩ := tag
      cases hpayload <;> exact ⟨nofun, nofun⟩
    obtain ⟨key, hread, hvalid, hreserved, hnumber, hkey⟩ := read_of_tagAt htag htype
    unfold nextField
    rw [hread]
    show (if _ then _ else if _ then _ else _) = _
    rw [if_neg hvalid, if_neg hreserved, hkey, hnumber]
    obtain ⟨number, type⟩ := tag
    cases hpayload with
    | varint h =>
      show (readVarint message body >>= _) = _
      rw [readVarint_ok h, fieldOf_varint h]
      rfl
    | fixed64 h =>
      show (if _ then _ else _) = _
      rw [if_neg (by omega)]
      rfl
    | lengthDelimited h hsize =>
      show (readVarint message body >>= _) = _
      rw [readVarint_ok h]
      show (if _ then _ else Except.ok (_, first + _)) = _
      rw [UInt64.toNat_ofNat_of_lt' h.value_lt, if_neg (by omega), fieldOf_bytes,
        Nat.add_sub_cancel_left]
    | fixed32 h =>
      show (if _ then _ else _) = _
      rw [if_neg (by omega)]
      rfl
  | @group levels start body last stop number inner hopen hinner hclose =>
    obtain ⟨key, hread, hvalid, hreserved, hnumber, hkey⟩ := read_of_tagAt hopen ⟨nofun, nofun⟩
    -- the end tag is compared with the number as it was cast to 32 bits
    have hcast : (UInt32.ofNat number).toNat = number :=
      UInt32.toNat_ofNat_of_lt' (lt_trans hopen.lt (by decide))
    have hscan : skipGroupFrom message message.length body (UInt32.ofNat number) (depth + 1) =
        .ok stop := by
      refine skipGroupFrom_complete hinner (by omega) ?_ (by omega)
      rw [hcast]
      exact hclose
    unfold nextField
    rw [hread]
    show (if _ then _ else if _ then _ else _) = _
    rw [if_neg hvalid, if_neg hreserved, hkey]
    show (skipGroup message body (key >>> 3).toUInt32 (depth + 1) >>= _) = _
    rw [hnumber, skipGroup, hscan, enterGroup, if_neg (by omega)]
    rfl

theorem nextField_finishes {position depth levels : Nat}
    (hlevels : depth + levels = kMaxRecursionDepth) :
    Finishes (nextField message position depth) := by
  unfold nextField
  refine (readVarint_finishes message position).bind ?_
  rintro ⟨key, body⟩ hread
  dsimp only
  split
  · exact finishes_fail _
  · split
    · exact finishes_fail _
    · split
      · exact (readVarint_finishes message body).bind fun _ _ => finishes_ok _
      · split
        · exact finishes_fail _
        · exact finishes_ok _
      · refine (readVarint_finishes message body).bind ?_
        rintro ⟨length, first⟩ hlength
        dsimp only
        split
        · exact finishes_fail _
        · exact finishes_ok _
      · -- at the deepest level the group is refused before anything is scanned
        by_cases hdepth : depth = kMaxRecursionDepth
        · unfold skipGroup enterGroup
          rw [if_pos (by omega)]
          exact finishes_fail _
        · have hscan : Finishes (skipGroupFrom message message.length body
              (key >>> 3).toUInt32 (depth + 1)) :=
            @skipGroupFrom_finishes message message.length body (depth + 1) (levels - 1) _
              (by omega) (by omega)
          exact (enterGroup_finishes (depth + 1) hscan).bind fun _ _ => finishes_ok _
      · exact finishes_fail _
      · split
        · exact finishes_fail _
        · exact finishes_ok _
      · exact finishes_fail _

/-! ## The whole message -/

/-- The fields a lookup keeps of some occurrences. -/
def kept (message : Bytes) (fieldNumber : UInt32) (occurrences : List Occurrence) : List Field :=
  (occurrences.filter (·.number = fieldNumber.toNat)).map (fieldOf message)

theorem push_ok {list result : FieldList} {field : Field} (h : list.push field = .ok result) :
    result.fields = list.fields ++ [field] := by
  unfold FieldList.push at h
  split at h
  · cases h
  · rw [← Except.ok.inj h]

theorem push_of_bounded {list result : FieldList} {field : Field} {more : List Field}
    (h : result.fields = list.fields ++ field :: more) :
    ∃ next, list.push field = .ok next ∧ next.fields = list.fields ++ [field] := by
  have hbounded := result.bounded
  rw [h, List.length_append, List.length_cons] at hbounded
  unfold FieldList.push
  rw [dif_neg (by unfold FieldList.kMaximumFields; omega)]
  exact ⟨_, rfl, rfl⟩

theorem fieldOf_number (occurrence : Occurrence) :
    (fieldOf message occurrence).number = .ofNat occurrence.number := by
  unfold fieldOf
  split <;> rfl

/-- The scan tells the numbers apart as the grammar does. -/
theorem number_iff {levels start stop : Nat} {occurrence : Occurrence} {fieldNumber : UInt32}
    (h : FieldAt message levels start occurrence stop) :
    (fieldOf message occurrence).number = fieldNumber ↔ occurrence.number = fieldNumber.toNat := by
  have hlt : occurrence.number < 2 ^ 32 := lt_trans h.number_lt (by decide)
  rw [fieldOf_number, ← UInt32.toNat_inj, UInt32.toNat_ofNat_of_lt' hlt]

theorem kept_cons (fieldNumber : UInt32) (occurrence : Occurrence)
    (occurrences : List Occurrence) :
    kept message fieldNumber (occurrence :: occurrences) =
      if occurrence.number = fieldNumber.toNat then
        fieldOf message occurrence :: kept message fieldNumber occurrences
      else kept message fieldNumber occurrences := by
  unfold kept
  by_cases hnumber : occurrence.number = fieldNumber.toNat
  · rw [List.filter_cons_of_pos (by simpa using hnumber), if_pos hnumber, List.map_cons]
  · rw [List.filter_cons_of_neg (by simpa using hnumber), if_neg hnumber]

theorem matching_end {position levels : Nat} {fieldNumber : UInt32} {result final : FieldList}
    (hposition : position ≤ message.length) (hend : ¬ position < message.length)
    (h : result = final) :
    ∃ occurrences, FieldsAt message levels position occurrences message.length ∧
      final.fields = result.fields ++ kept message fieldNumber occurrences := by
  obtain rfl : position = message.length := by omega
  rw [h]
  exact ⟨[], .nil, (List.append_nil _).symm⟩

/-- What a finished lookup went over is the whole message, and it kept the fields of its
number in their order. -/
theorem matchingFrom_sound {rounds position depth levels : Nat} {fieldNumber : UInt32}
    {result final : FieldList} (hlevels : depth + levels = kMaxRecursionDepth)
    (hposition : position ≤ message.length)
    (h : matchingFrom message depth fieldNumber rounds position result = .ok final) :
    ∃ occurrences, FieldsAt message levels position occurrences message.length ∧
      final.fields = result.fields ++ kept message fieldNumber occurrences := by
  induction rounds generalizing position result with
  | zero =>
    unfold matchingFrom at h
    split at h
    · cases h
    · rename_i hlt
      exact matching_end hposition hlt (Except.ok.inj h)
  | succ rounds ih =>
    rw [matchingFrom] at h
    split at h
    · obtain ⟨⟨field, next⟩, hfield, h⟩ := bind_ok h
      obtain ⟨occurrence, hat, rfl⟩ := nextField_sound hlevels hfield
      have hinside := hat.inside
      dsimp only at h
      split at h
      · rename_i hnumber
        obtain ⟨list, hpush, h⟩ := bind_ok h
        obtain ⟨occurrences, hfields, hfinal⟩ := ih hinside h
        refine ⟨occurrence :: occurrences, hat.cons hfields, ?_⟩
        rw [hfinal, push_ok hpush, kept_cons, if_pos ((number_iff hat).mp hnumber),
          List.append_assoc, List.singleton_append]
      · rename_i hnumber
        obtain ⟨occurrences, hfields, hfinal⟩ := ih hinside h
        refine ⟨occurrence :: occurrences, hat.cons hfields, ?_⟩
        rw [hfinal, kept_cons, if_neg fun heq => hnumber ((number_iff hat).mpr heq)]
    · rename_i hlt
      exact matching_end hposition hlt (Except.ok.inj h)

/-- A message of the grammar is gone over, while what is kept stays within the limit. -/
theorem matchingFrom_complete {rounds position depth levels : Nat} {fieldNumber : UInt32}
    {result final : FieldList} {occurrences : List Occurrence}
    (hlevels : depth + levels = kMaxRecursionDepth)
    (hfields : FieldsAt message levels position occurrences message.length)
    (hfinal : final.fields = result.fields ++ kept message fieldNumber occurrences)
    (hrounds : message.length ≤ position + rounds) :
    matchingFrom message depth fieldNumber rounds position result = .ok final := by
  induction occurrences generalizing rounds position result with
  | nil =>
    have heq : result = final := FieldList.ext (hfinal.trans (List.append_nil _)).symm
    cases hfields
    cases rounds with
    | zero => rw [matchingFrom, if_neg (lt_irrefl _), heq]
    | succ rounds => rw [matchingFrom, if_neg (lt_irrefl _), heq]
  | cons occurrence occurrences ih =>
    obtain ⟨next, hat, hrest⟩ := hfields.uncons
    have hlt := hat.start_lt
    have hinside := hat.inside
    obtain ⟨rounds, rfl⟩ : ∃ fewer, rounds = fewer + 1 := ⟨rounds - 1, by omega⟩
    rw [matchingFrom, if_pos (by omega), nextField_complete hlevels hat]
    rw [kept_cons] at hfinal
    by_cases hnumber : occurrence.number = fieldNumber.toNat
    · rw [if_pos hnumber] at hfinal
      obtain ⟨list, hpush, hlist⟩ := push_of_bounded hfinal
      show (if (fieldOf message occurrence).number = fieldNumber then _ else _) = _
      rw [if_pos ((number_iff hat).mpr hnumber), hpush]
      refine ih hrest ?_ (by omega)
      rw [hfinal, hlist, List.append_assoc, List.singleton_append]
    · rw [if_neg hnumber] at hfinal
      show (if (fieldOf message occurrence).number = fieldNumber then _ else _) = _
      rw [if_neg fun h => hnumber ((number_iff hat).mp h)]
      exact ih hrest hfinal (by omega)

theorem push_finishes (list : FieldList) (field : Field) : Finishes (list.push field) := by
  unfold FieldList.push
  split
  · exact finishes_fail _
  · exact finishes_ok _

theorem matchingFrom_finishes {rounds position depth levels : Nat} {fieldNumber : UInt32}
    {result : FieldList} (hlevels : depth + levels = kMaxRecursionDepth)
    (hrounds : message.length ≤ position + rounds) :
    Finishes (matchingFrom message depth fieldNumber rounds position result) := by
  induction rounds generalizing position result with
  | zero =>
    rw [matchingFrom, if_neg (by omega)]
    exact finishes_ok _
  | succ rounds ih =>
    rw [matchingFrom]
    split
    · refine (nextField_finishes hlevels).bind ?_
      rintro ⟨field, next⟩ hfield
      obtain ⟨occurrence, hat, -⟩ := nextField_sound hlevels hfield
      have hlt := hat.start_lt
      dsimp only
      split
      · exact (push_finishes result field).bind fun list _ => ih (by omega)
      · exact ih (by omega)
    · exact finishes_ok _

end Message

/-! ## Lookups -/

/-- The message is a field sequence with these occurrences at its top level, and groups
no deeper than the reader goes. -/
def Spells (reader : ProtoReader) (occurrences : List Occurrence) : Prop :=
  FieldsAt reader.message (kMaxRecursionDepth - reader.depth) 0 occurrences reader.message.length

/-- A number a field can have. -/
def ValidNumber (fieldNumber : UInt32) : Prop :=
  0 < fieldNumber.toNat ∧ fieldNumber.toNat < 2 ^ 29

theorem validNumber_iff {fieldNumber : UInt32} :
    ¬ (fieldNumber = 0 ∨ (0x1FFFFFFF : UInt32) < fieldNumber) ↔ ValidNumber fieldNumber := by
  rw [ValidNumber, UInt32.lt_iff_toNat_lt, ← UInt32.toNat_inj,
    show (0x1FFFFFFF : UInt32).toNat = 2 ^ 29 - 1 by decide, show (0 : UInt32).toNat = 0 by decide]
  omega

theorem matching_iff {reader : ProtoReader} {fieldNumber : UInt32} {list : FieldList} :
    reader.matching fieldNumber = .ok list ↔
      ValidNumber fieldNumber ∧ ∃ occurrences, reader.Spells occurrences ∧
        list.fields = kept reader.message fieldNumber occurrences := by
  have hlevels : reader.depth + (kMaxRecursionDepth - reader.depth) = kMaxRecursionDepth :=
    Nat.add_sub_cancel' reader.depth_le
  rw [← validNumber_iff, matching]
  constructor
  · intro h
    split at h
    · cases h
    · rename_i hvalid
      exact ⟨hvalid, matchingFrom_sound hlevels (Nat.zero_le _) h⟩
  · rintro ⟨hvalid, occurrences, hspells, hlist⟩
    rw [if_neg hvalid]
    exact matchingFrom_complete hlevels hspells hlist (by omega)

theorem matching_finishes (reader : ProtoReader) (fieldNumber : UInt32) :
    Finishes (reader.matching fieldNumber) := by
  have hlevels : reader.depth + (kMaxRecursionDepth - reader.depth) = kMaxRecursionDepth :=
    Nat.add_sub_cancel' reader.depth_le
  unfold matching
  split
  · exact finishes_fail _
  · exact matchingFrom_finishes hlevels (by omega)

/-! ## Elements -/

/-- What one occurrence gives a repeated integer. -/
inductive VarintElements (message : Bytes) (field : Field) : List UInt64 → Prop where
  | unpacked (h : field.wireType = .varint) : VarintElements message field [field.integer]
  | packed {values : List UInt64} (h : field.wireType = .lengthDelimited)
      (hvalues : VarintsAt (field.bytes.of message) 0 (values.map UInt64.toNat)
        (field.bytes.of message).length) :
    VarintElements message field values

/-- What one occurrence gives a repeated fixed field of elements of `width` bytes. -/
inductive FixedElements {α : Type} (cast : UInt64 → α) (unpackedType : WireType) (width : Nat)
    (message : Bytes) (field : Field) : List α → Prop where
  | unpacked (h : field.wireType = unpackedType) :
    FixedElements cast unpackedType width message field [cast field.integer]
  | packed {values : List Nat} (h : field.wireType = .lengthDelimited)
      (hlt : ∀ value ∈ values, value < 256 ^ width)
      (hvalues : field.bytes.of message = values.flatMap (leBytes width)) :
    FixedElements cast unpackedType width message field
      (values.map fun value => cast (.ofNat value))

theorem packedVarints_sound {bytes : Bytes} {rounds position : Nat} {values : List UInt64}
    (hposition : position ≤ bytes.length)
    (h : packedVarints bytes rounds position = .ok values) :
    VarintsAt bytes position (values.map UInt64.toNat) bytes.length := by
  induction rounds generalizing position values with
  | zero =>
    unfold packedVarints at h
    split at h
    · cases h
    · obtain rfl : position = bytes.length := by omega
      rw [← Except.ok.inj h]
      exact .nil
  | succ rounds ih =>
    rw [packedVarints] at h
    split at h
    · obtain ⟨⟨value, next⟩, hread, h⟩ := bind_ok h
      obtain ⟨rest, hrest, h⟩ := bind_ok h
      have hat := readVarint_iff.mp hread
      rw [← Except.ok.inj h]
      exact .cons hat (ih hat.inside hrest)
    · obtain rfl : position = bytes.length := by omega
      rw [← Except.ok.inj h]
      exact .nil

theorem packedVarints_complete {bytes : Bytes} {rounds position stop : Nat} {values : List Nat}
    (h : VarintsAt bytes position values stop) (hstop : stop = bytes.length)
    (hrounds : bytes.length ≤ position + rounds) :
    packedVarints bytes rounds position = .ok (values.map UInt64.ofNat) := by
  induction h generalizing rounds with
  | @nil start =>
    cases rounds with
    | zero =>
      rw [packedVarints, if_neg (by omega)]
      rfl
    | succ rounds =>
      rw [packedVarints, if_neg (by omega)]
      rfl
  | @cons start value next stop values hat hvalues ih =>
    have hlt := hat.lt
    have hinside := hat.inside
    obtain ⟨rounds, rfl⟩ : ∃ fewer, rounds = fewer + 1 := ⟨rounds - 1, by omega⟩
    have hrest : packedVarints bytes rounds next = .ok (values.map UInt64.ofNat) :=
      ih hstop (by omega)
    rw [packedVarints, if_pos (by omega), readVarint_ok hat]
    show (packedVarints bytes rounds next >>= _) = _
    rw [hrest]
    rfl

theorem packedVarints_finishes {bytes : Bytes} {rounds position : Nat}
    (hrounds : bytes.length ≤ position + rounds) :
    Finishes (packedVarints bytes rounds position) := by
  induction rounds generalizing position with
  | zero =>
    rw [packedVarints, if_neg (by omega)]
    exact finishes_ok _
  | succ rounds ih =>
    rw [packedVarints]
    split
    · refine (readVarint_finishes bytes position).bind ?_
      rintro ⟨value, next⟩ hread
      have hlt : position < next := (readVarint_iff.mp hread).lt
      have hrest : Finishes (packedVarints bytes rounds next) := ih (by omega)
      exact hrest.bind fun _ _ => finishes_ok _
    · exact finishes_ok _

theorem of_length_le (view : ByteView) (message : Bytes) :
    (view.of message).length ≤ view.size := by
  unfold ByteView.of
  rw [List.length_take]
  exact Nat.min_le_left _ _

theorem varintElements_iff {message : Bytes} {field : Field} {values : List UInt64} :
    varintElements message field = .ok values ↔ VarintElements message field values := by
  have hbound := of_length_le field.bytes message
  unfold varintElements
  constructor
  · intro h
    split at h
    · rename_i htype
      rw [← Except.ok.inj h]
      exact .unpacked htype
    · split at h
      · cases h
      · rename_i htype
        exact .packed (not_not.mp htype) (packedVarints_sound (Nat.zero_le _) h)
  · intro h
    cases h with
    | unpacked htype => rw [if_pos htype]
    | packed htype hvalues =>
      rw [if_neg (by rw [htype]; decide), if_neg (not_not.mpr htype),
        packedVarints_complete hvalues rfl (by omega), List.map_map]
      have hcast : UInt64.ofNat ∘ UInt64.toNat = id := by
        funext value
        exact UInt64.ofNat_toNat
      rw [hcast, List.map_id]

theorem varintElements_finishes (message : Bytes) (field : Field) :
    Finishes (varintElements message field) := by
  have hbound := of_length_le field.bytes message
  unfold varintElements
  split
  · exact finishes_ok _
  · split
    · exact finishes_fail _
    · exact packedVarints_finishes (by omega)

section Fixed

variable {α : Type} {cast : UInt64 → α} {unpackedType : WireType} {width : Nat} {message : Bytes}
  {field : Field}

/-- An element is its bytes, least significant first. -/
theorem readLittleEndian_element {values : List Nat} {index : Nat} (h : index < values.length)
    (hlt : ∀ value ∈ values, value < 256 ^ width) :
    readLittleEndian (values.flatMap (leBytes width)) (index * width) width =
      .ofNat (values.get ⟨index, h⟩) := by
  unfold readLittleEndian
  rw [element_flatMap h, leNat_leBytes (hlt _ (List.get_mem values ⟨index, h⟩))]

theorem fixedElements_iff (hwidth : 0 < width) (hunpacked : unpackedType ≠ .lengthDelimited)
    (hinside : (field.bytes.of message).length = field.bytes.size) {values : List α} :
    fixedElements cast unpackedType width message field = .ok values ↔
      FixedElements cast unpackedType width message field values := by
  unfold fixedElements
  constructor
  · intro h
    split at h
    · rename_i htype
      rw [← Except.ok.inj h]
      exact .unpacked htype
    · split at h
      · cases h
      · rename_i hchecks
        have htype : field.wireType = .lengthDelimited := by
          by_contra hne
          exact hchecks (.inl hne)
        have hmod : field.bytes.size % width = 0 := by
          by_contra hne
          exact hchecks (.inr hne)
        -- a whole number of elements: the span is the list of its elements written out
        have hlength : (field.bytes.of message).length = field.bytes.size / width * width := by
          rw [hinside, Nat.div_mul_cancel (Nat.dvd_of_mod_eq_zero hmod)]
        have hvalues := flatMap_elements hlength
        rw [← Except.ok.inj h]
        have hcast : ((List.range (field.bytes.size / width)).map fun index =>
            cast (readLittleEndian (field.bytes.of message) (index * width) width)) =
            ((List.range (field.bytes.size / width)).map fun index =>
              leNat (((field.bytes.of message).drop (index * width)).take width)).map
                fun value => cast (.ofNat value) := by
          rw [List.map_map]
          rfl
        rw [hcast]
        refine .packed htype ?_ hvalues.symm
        intro value hvalue
        obtain ⟨index, -, rfl⟩ := List.mem_map.mp hvalue
        -- an element has at most its width of bytes
        refine lt_of_lt_of_le (leNat_lt _) (Nat.pow_le_pow_right (by decide) ?_)
        rw [List.length_take]
        exact Nat.min_le_left _ _
  · intro h
    cases h with
    | unpacked htype => rw [if_pos htype]
    | @packed values htype hlt hvalues =>
      -- and back: the span of a list of elements divides into them
      have hlength : field.bytes.size = values.length * width := by
        rw [← hinside, hvalues, List.length_flatMap]
        simp
      have hmod : field.bytes.size % width = 0 := by
        rw [hlength, Nat.mul_mod_left]
      have hcount : field.bytes.size / width = values.length := by
        rw [hlength, Nat.mul_div_cancel _ hwidth]
      rw [if_neg (by rw [htype]; exact hunpacked.symm), if_neg (by tauto), hcount, hvalues]
      refine congrArg Except.ok (List.ext_get ?_ ?_)
      · simp
      · intro index hleft hright
        have hindex : index < values.length := by simpa using hright
        have hread := readLittleEndian_element hindex hlt
        simpa using congrArg cast hread

theorem fixedElements_finishes :
    Finishes (fixedElements cast unpackedType width message field) := by
  unfold fixedElements
  split
  · exact finishes_ok _
  · split
    · exact finishes_fail _
    · exact finishes_ok _

end Fixed

/-! ## Collecting -/

section Collect

variable {α : Type} {elements : Field → Except ScanError (List α)}

theorem collect_iff {fields : List Field} {values : List α} :
    collect elements fields = .ok values ↔
      ∃ parts, List.Forall₂ (fun field part => elements field = .ok part) fields parts ∧
        values = parts.flatten := by
  induction fields generalizing values with
  | nil =>
    constructor
    · intro h
      exact ⟨[], .nil, (Except.ok.inj h).symm⟩
    · rintro ⟨parts, hparts, rfl⟩
      cases hparts
      rfl
  | cons field fields ih =>
    constructor
    · intro h
      obtain ⟨part, hpart, h⟩ := bind_ok h
      obtain ⟨rest, hrest, h⟩ := bind_ok h
      obtain ⟨parts, hparts, rfl⟩ := ih.mp hrest
      exact ⟨part :: parts, .cons hpart hparts, (Except.ok.inj h).symm⟩
    · rintro ⟨parts, hparts, rfl⟩
      cases hparts with
      | @cons _ part _ parts hpart hparts =>
        have hrest : collect elements fields = .ok parts.flatten := ih.mpr ⟨parts, hparts, rfl⟩
        rw [collect, hpart]
        show (collect elements fields >>= _) = _
        rw [hrest]
        rfl

theorem collect_finishes (h : ∀ field, Finishes (elements field)) (fields : List Field) :
    Finishes (collect elements fields) := by
  induction fields with
  | nil => exact finishes_ok _
  | cons field fields ih => exact (h field).bind fun _ _ => ih.bind fun _ _ => finishes_ok _

end Collect

/-! ## Repeated fields -/

section Reader

variable {reader : ProtoReader} {fieldNumber : UInt32}

/-- The span of a match lies in the message. -/
theorem kept_inside {occurrences : List Occurrence} (h : reader.Spells occurrences) {field : Field}
    (hmem : field ∈ kept reader.message fieldNumber occurrences) :
    (field.bytes.of reader.message).length = field.bytes.size := by
  obtain ⟨occurrence, hoccurrence, rfl⟩ := List.mem_map.mp hmem
  have hinside : occurrence.stop ≤ reader.message.length :=
    FieldsAt.mem_inside h (List.mem_of_mem_filter hoccurrence)
  unfold ByteView.of
  rw [List.length_take, List.length_drop]
  unfold fieldOf
  split
  · exact Nat.zero_min _
  · exact Nat.zero_min _
  · exact Nat.zero_min _
  · show min (occurrence.stop - occurrence.start) (reader.message.length - occurrence.start) =
      occurrence.stop - occurrence.start
    omega
  · exact Nat.zero_min _

/-- The elements of the matches, in the order of the matches. -/
def Collected {α : Type} (elements : Field → List α → Prop) (fields : List Field)
    (values : List α) : Prop :=
  ∃ parts, List.Forall₂ elements fields parts ∧ values = parts.flatten

theorem repeatedVarints_iff {values : List UInt64} :
    reader.repeatedVarints fieldNumber = .ok values ↔
      ∃ list, reader.matching fieldNumber = .ok list ∧
        Collected (VarintElements reader.message) list.fields values := by
  have helements : ∀ field part, varintElements reader.message field = .ok part ↔
      VarintElements reader.message field part := fun _ _ => varintElements_iff
  constructor
  · intro h
    obtain ⟨list, hlist, h⟩ := bind_ok h
    obtain ⟨parts, hparts, hvalues⟩ := collect_iff.mp h
    exact ⟨list, hlist, parts, hparts.imp fun field part => (helements field part).mp, hvalues⟩
  · rintro ⟨list, hlist, parts, hparts, hvalues⟩
    unfold repeatedVarints
    rw [hlist]
    exact collect_iff.mpr
      ⟨parts, hparts.imp fun field part => (helements field part).mpr, hvalues⟩

theorem repeatedFixed_iff {α : Type} {cast : UInt64 → α} {unpackedType : WireType} {width : Nat}
    (hwidth : 0 < width) (hunpacked : unpackedType ≠ .lengthDelimited) {values : List α} :
    repeatedFixed cast reader fieldNumber unpackedType width = .ok values ↔
      ∃ list, reader.matching fieldNumber = .ok list ∧
        Collected (FixedElements cast unpackedType width reader.message) list.fields values := by
  have helements : ∀ list, reader.matching fieldNumber = .ok list → ∀ parts : List (List α),
      List.Forall₂ (fun field part =>
        fixedElements cast unpackedType width reader.message field = .ok part) list.fields parts ↔
      List.Forall₂ (FixedElements cast unpackedType width reader.message) list.fields parts := by
    intro list hlist parts
    obtain ⟨-, occurrences, hspells, hkept⟩ := matching_iff.mp hlist
    have hinside : ∀ field ∈ list.fields, (field.bytes.of reader.message).length =
        field.bytes.size := by
      intro field hmem
      rw [hkept] at hmem
      exact kept_inside hspells hmem
    rw [List.forall₂_iff_get, List.forall₂_iff_get]
    refine and_congr_right fun hlength => forall_congr' fun index => forall_congr' fun hleft =>
      forall_congr' fun hright => ?_
    exact fixedElements_iff hwidth hunpacked (hinside _ (List.get_mem _ _))
  constructor
  · intro h
    obtain ⟨list, hlist, h⟩ := bind_ok h
    obtain ⟨parts, hparts, hvalues⟩ := collect_iff.mp h
    exact ⟨list, hlist, parts, (helements list hlist parts).mp hparts, hvalues⟩
  · rintro ⟨list, hlist, parts, hparts, hvalues⟩
    unfold repeatedFixed
    rw [hlist]
    exact collect_iff.mpr ⟨parts, (helements list hlist parts).mpr hparts, hvalues⟩

end Reader

/-- The reader takes the wire grammar and returns the top level's matches in their order;
the repeated reads return their elements, and no scan goes round without end. -/
theorem reader_exact (reader : ProtoReader) (fieldNumber : UInt32) :
    (∀ list, reader.matching fieldNumber = .ok list ↔
        ValidNumber fieldNumber ∧ ∃ occurrences, reader.Spells occurrences ∧
          list.fields = kept reader.message fieldNumber occurrences) ∧
      ((∃ list, reader.matching fieldNumber = .ok list) ↔
        ValidNumber fieldNumber ∧ ∃ occurrences, reader.Spells occurrences ∧
          (kept reader.message fieldNumber occurrences).length ≤ FieldList.kMaximumFields) ∧
      (∀ values, reader.repeatedVarints fieldNumber = .ok values ↔
        ∃ list, reader.matching fieldNumber = .ok list ∧
          Collected (VarintElements reader.message) list.fields values) ∧
      (∀ values, reader.repeatedFixed32 fieldNumber = .ok values ↔
        ∃ list, reader.matching fieldNumber = .ok list ∧
          Collected (FixedElements UInt64.toUInt32 .fixed32 4 reader.message) list.fields values) ∧
      (∀ values, reader.repeatedFixed64 fieldNumber = .ok values ↔
        ∃ list, reader.matching fieldNumber = .ok list ∧
          Collected (FixedElements id .fixed64 8 reader.message) list.fields values) ∧
      (∀ position field next,
        nextField reader.message position reader.depth = .ok (field, next) →
          position < next ∧ next ≤ reader.message.length) ∧
      Finishes (reader.matching fieldNumber) ∧ Finishes (reader.repeatedVarints fieldNumber) ∧
      Finishes (reader.repeatedFixed32 fieldNumber) ∧
      Finishes (reader.repeatedFixed64 fieldNumber) := by
  have hlevels : reader.depth + (kMaxRecursionDepth - reader.depth) = kMaxRecursionDepth :=
    Nat.add_sub_cancel' reader.depth_le
  refine ⟨fun list => matching_iff, ?_, fun values => repeatedVarints_iff,
    fun values => repeatedFixed_iff (by decide) (by decide),
    fun values => repeatedFixed_iff (by decide) (by decide), ?_, matching_finishes reader _,
    ?_, ?_, ?_⟩
  · constructor
    · rintro ⟨list, h⟩
      -- a list of matches carries its own bound
      obtain ⟨hvalid, occurrences, hspells, hlist⟩ := matching_iff.mp h
      refine ⟨hvalid, occurrences, hspells, ?_⟩
      rw [← hlist]
      exact list.bounded
    · rintro ⟨hvalid, occurrences, hspells, hbounded⟩
      exact ⟨{ fields := _, bounded := hbounded },
        matching_iff.mpr ⟨hvalid, occurrences, hspells, rfl⟩⟩
  · intro position field next h
    obtain ⟨occurrence, hat, -⟩ := nextField_sound hlevels h
    exact ⟨hat.start_lt, hat.inside⟩
  · exact (matching_finishes reader _).bind fun list _ =>
      collect_finishes (varintElements_finishes reader.message) list.fields
  · exact (matching_finishes reader _).bind fun list _ =>
      collect_finishes (fun _ => fixedElements_finishes) list.fields
  · exact (matching_finishes reader _).bind fun list _ =>
      collect_finishes (fun _ => fixedElements_finishes) list.fields

/-- A group is matched without its payload, which stands at bytes 1 and 2. -/
theorem group_without_span :
    ProtoReader.Spells { message := [0x0B, 0x08, 0x01, 0x0C] } [⟨1, .startGroup, 1, 3⟩] ∧
      (ProtoReader.matching { message := [0x0B, 0x08, 0x01, 0x0C] } 1).map FieldList.fields =
        .ok [{ number := 1, wireType := .startGroup, bytes := { offset := 0, size := 0 } }] := by
  constructor
  · have hopen : TagAt [0x0B, 0x08, 0x01, 0x0C] 0 ⟨1, .startGroup⟩ 1 :=
      ⟨⟨0x0B, ⟨by decide, by decide, by decide⟩, by decide, by decide⟩, by decide, by decide⟩
    have hvalue : TagAt [0x0B, 0x08, 0x01, 0x0C] 1 ⟨1, .varint⟩ 2 :=
      ⟨⟨0x08, ⟨by decide, by decide, by decide⟩, by decide, by decide⟩, by decide, by decide⟩
    have hclose : TagAt [0x0B, 0x08, 0x01, 0x0C] 3 ⟨1, .endGroup⟩ 4 :=
      ⟨⟨0x0C, ⟨by decide, by decide, by decide⟩, by decide, by decide⟩, by decide, by decide⟩
    have hone : VarintAt [0x0B, 0x08, 0x01, 0x0C] 2 1 3 := ⟨by decide, by decide, by decide⟩
    exact .group hopen (.value hvalue (.varint hone) .nil) hclose .nil
  · decide

end ProtoReader

end PlotJugglerSdk.ParserModule
