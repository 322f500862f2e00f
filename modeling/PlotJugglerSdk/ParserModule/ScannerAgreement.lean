import PlotJugglerSdk.Builtin.FieldLoops
import PlotJugglerSdk.ParserModule.ProtoScan
import PlotJugglerSdk.Wire.Spans

/-!
# The two scanners of the wire format

The field loop of the builtin codecs and `ProtoReader`, both made to step over every field,
against the flat grammar: they differ in the numbers they take. `ProtoReader` takes those of
the format, the codecs' reader whatever the low 32 bits of the number are.

* `codecFields_eq_some_iff`, `delivered_eq` — the codecs' loop
* `scan_eq_ok_iff`                          — `ProtoReader`
* `scannersAgree_iff`                       — where the two see the same
-/

namespace PlotJugglerSdk

open Wire Scan

/-! ## The codecs' loop -/

/-- Notes what it is handed, and takes no field. -/
def recordFields : Handler (List (Tag × Bytes)) where
  run tag reader seen := (false, seen ++ [(tag, reader)], reader)
  steady _ _ _ _ := ⟨rfl, rfl⟩
  shrinks _ _ _ := le_rfl

/-- A field a handler was handed, where the read it could make of the payload finds it. -/
def spanOf (message : Bytes) (seen : Tag × Bytes) : Occurrence :=
  let (payload, rest) := Reader.readPayload seen.1.type seen.2
  let start := message.length - seen.2.length
  let stop := message.length - rest.length
  ⟨seen.1.number, seen.1.type, stop - payload.elim 0 (·.size (stop - start)), stop⟩

/-- The fields of a message the loop accepts. -/
def codecFields (message : Bytes) : Option (List Occurrence) :=
  let (ok, seen) := parseFields recordFields message []
  if ok then some (seen.map (spanOf message)) else none

/-- The tags the loop hands to its handler, whether it accepts the message or not. -/
def delivered (message : Bytes) : List Tag := (parseFields recordFields message []).2.map (·.1)

/-! One round of the loop. -/

theorem record_unread {bytes : Bytes} (hne : bytes ≠ []) (htag : Reader.readTag bytes = none)
    (seen : List (Tag × Bytes)) : parseFields recordFields bytes seen = (false, seen) := by
  rw [parseFields_step recordFields hne, htag]

theorem record_stuck {bytes reader : Bytes} {tag : Tag} (hne : bytes ≠ [])
    (htag : Reader.readTag bytes = some (tag, reader))
    (hpayload : takePayload tag.type reader = none)
    (seen : List (Tag × Bytes)) :
    parseFields recordFields bytes seen = (false, seen ++ [(tag, reader)]) := by
  have hskip : Reader.skip tag.type reader = none := by
    rw [Reader.skip_eq, hpayload]
    rfl
  rw [parseFields_step recordFields hne, htag]
  simp only [recordFields, hskip]

theorem record_next {bytes reader rest : Bytes} {tag : Tag} {payload : Payload} (hne : bytes ≠ [])
    (htag : Reader.readTag bytes = some (tag, reader))
    (hpayload : takePayload tag.type reader = some (payload, rest)) (seen : List (Tag × Bytes)) :
    parseFields recordFields bytes seen =
      parseFields recordFields rest (seen ++ [(tag, reader)]) := by
  have hskip : Reader.skip tag.type reader = some rest := by
    rw [Reader.skip_eq, hpayload]
    rfl
  rw [parseFields_step recordFields hne, htag]
  simp only [recordFields, hskip]

theorem readTag_of_take {bytes reader : Bytes} {raw : Nat}
    (h : takeVarint 0 bytes = some (raw, reader)) :
    Reader.readTag bytes = (Reader.tagOf raw).map fun tag => (tag, reader) := by
  rw [Reader.readTag_eq, h]
  rfl

/-- The handler is handed the tags that are met. -/
theorem record_tags (bytes : Bytes) (seen : List (Tag × Bytes)) :
    (parseFields recordFields bytes seen).2.map (·.1) =
      seen.map (·.1) ++ (tags Reader.tagOf bytes).map (·.2) := by
  induction hlen : bytes.length using Nat.strongRecOn generalizing bytes seen with
  | _ length ih =>
    subst hlen
    by_cases hne : bytes = []
    · subst hne
      exact (List.append_nil _).symm
    cases htake : takeVarint 0 bytes with
    | none =>
      have htag : Reader.readTag bytes = none := by
        rw [Reader.readTag_eq, htake]
        rfl
      rw [record_unread hne htag, tags_unread htake, List.map_nil, List.append_nil]
    | some taken =>
      obtain ⟨raw, reader⟩ := taken
      have hread := readTag_of_take htake
      cases htag : Reader.tagOf raw with
      | none =>
        rw [htag, Option.map_none] at hread
        rw [record_unread hne hread, tags_refused htake htag, List.map_nil, List.append_nil]
      | some tag =>
        rw [htag, Option.map_some] at hread
        rw [tags_met htake htag]
        cases hpayload : takePayload tag.type reader with
        | none =>
          -- the tag is noted before its payload turns out to be broken
          rw [record_stuck hne hread hpayload, List.map_append]
          rfl
        | some taken =>
          obtain ⟨payload, rest⟩ := taken
          have hlt := takePayload_length hpayload
          have hlt' := takeVarint_shrinks htake
          rw [record_next hne hread hpayload, ih rest.length (by omega) rest _ rfl,
            List.map_append, List.append_assoc]
          rfl

theorem delivered_eq (message : Bytes) :
    delivered message = (tags Reader.tagOf message).map (·.2) := by
  rw [delivered, record_tags]
  rfl

/-- A span is the one of the grammar. -/
theorem spanOf_eq {message : Bytes} {tag : Tag} {body first stop : Nat}
    (hbody : body ≤ message.length) (h : PayloadAt message tag.type body first stop) :
    spanOf message (tag, message.drop body) = ⟨tag.number, tag.type, first, stop⟩ := by
  have hinside := h.inside
  obtain ⟨payload, htake, hfirst⟩ := take_of_payloadAt h
  unfold spanOf
  rw [Reader.readPayload_some htake]
  have hstart : message.length - (message.drop body).length = body := by
    rw [List.length_drop]
    omega
  have hstop : message.length - (message.drop stop).length = stop := by
    rw [List.length_drop]
    omega
  simp only [hstart, hstop, Option.elim_some, ← hfirst]

/-- The loop accepts the rest of a message if it is a field sequence, and notes its fields. -/
theorem record_of_spansAt {message : Bytes} {start stop : Nat} {fields : List Occurrence}
    (h : SpansAt Reader.tagOf message start fields stop) (hstop : stop = message.length)
    (seen : List (Tag × Bytes)) :
    ∃ more, parseFields recordFields (message.drop start) seen = (true, seen ++ more) ∧
      more.map (spanOf message) = fields := by
  induction h generalizing seen with
  | nil =>
    refine ⟨[], ?_, rfl⟩
    rw [hstop, List.drop_length, List.append_nil]
    rfl
  | @cons start raw body first next stop tag fields hraw htag hpayload hfields ih =>
    obtain ⟨payload, htake, -⟩ := take_of_payloadAt hpayload
    have hread := readTag_of_take hraw.read
    rw [htag, Option.map_some] at hread
    have hne : message.drop start ≠ [] := by
      intro hnil
      have hlt := hraw.lt
      have hinside := hraw.inside
      have hzero := congrArg List.length hnil
      rw [List.length_drop, List.length_nil] at hzero
      omega
    obtain ⟨more, hmore, hspans⟩ := ih hstop (seen ++ [(tag, message.drop body)])
    refine ⟨(tag, message.drop body) :: more, ?_, ?_⟩
    · rw [record_next hne hread htake, hmore, List.append_assoc]
      rfl
    · rw [List.map_cons, hspans, spanOf_eq hraw.inside hpayload]

/-- What the loop accepts is a field sequence. -/
theorem spansAt_of_record {message : Bytes} {start : Nat} {seen final : List (Tag × Bytes)}
    (hstart : start ≤ message.length)
    (h : parseFields recordFields (message.drop start) seen = (true, final)) :
    ∃ fields, SpansAt Reader.tagOf message start fields message.length := by
  induction hlen : (message.drop start).length using Nat.strongRecOn generalizing start seen with
  | _ length ih =>
    subst hlen
    by_cases hne : message.drop start = []
    · have hend : start = message.length := by
        have hzero := congrArg List.length hne
        rw [List.length_drop, List.length_nil] at hzero
        omega
      subst hend
      exact ⟨[], .nil⟩
    cases htake : takeVarint 0 (message.drop start) with
    | none =>
      have htag : Reader.readTag (message.drop start) = none := by
        rw [Reader.readTag_eq, htake]
        rfl
      rw [record_unread hne htag] at h
      cases h
    | some taken =>
      obtain ⟨raw, reader⟩ := taken
      have hread := readTag_of_take htake
      have hraw := varintAt_of_take htake
      -- what is left to read is a suffix of the message, which gives the place
      have hreader : reader = message.drop (message.length - reader.length) := by
        have hdrop := hraw.read
        rw [htake] at hdrop
        exact (Prod.mk.inj (Option.some.inj hdrop)).2
      generalize message.length - reader.length = body at hraw hreader
      subst hreader
      cases htag : Reader.tagOf raw with
      | none =>
        rw [htag, Option.map_none] at hread
        rw [record_unread hne hread] at h
        cases h
      | some tag =>
        rw [htag, Option.map_some] at hread
        cases hpayload : takePayload tag.type (message.drop body) with
        | none =>
          rw [record_stuck hne hread hpayload] at h
          cases h
        | some taken =>
          obtain ⟨payload, rest⟩ := taken
          obtain ⟨first, next, hat, rfl, -⟩ := payloadAt_of_take hpayload
          rw [record_next hne hread hpayload] at h
          have hlt := takePayload_length hpayload
          have hlt' := takeVarint_shrinks htake
          obtain ⟨fields, hfields⟩ := ih _ (by omega) hat.inside h rfl
          exact ⟨_, .cons hraw htag hat hfields⟩

theorem codecFields_eq_some_iff {message : Bytes} {fields : List Occurrence} :
    codecFields message = some fields ↔
      SpansAt Reader.tagOf message 0 fields message.length := by
  have haccepted : ∀ {fields}, SpansAt Reader.tagOf message 0 fields message.length →
      codecFields message = some fields := by
    intro fields h
    obtain ⟨more, hmore, hspans⟩ := record_of_spansAt h rfl []
    rw [List.drop_zero, List.nil_append] at hmore
    rw [codecFields, hmore, ← hspans]
    rfl
  constructor
  · intro h
    unfold codecFields at h
    rcases hrun : parseFields recordFields message [] with ⟨ok, seen⟩
    rw [hrun] at h
    cases ok with
    | false => cases h
    | true =>
      -- the fields of the sequence are the ones noted
      obtain ⟨fields', hspans⟩ :=
        spansAt_of_record (Nat.zero_le _) (by rw [List.drop_zero]; exact hrun)
      have hsame := haccepted hspans
      rw [codecFields, hrun] at hsame
      obtain rfl := Option.some.inj (hsame.symm.trans h)
      exact hspans
  · exact haccepted

/-! ## `ProtoReader` -/

namespace ParserModule.ProtoReader

/-- A field of the scan, where it stands between two positions of it. -/
def placed (message : Bytes) (position : Nat) (field : Field) (next : Nat) :
    Except ScanError Occurrence := do
  let (_, body) ← readVarint message position
  .ok ⟨field.number.toNat, field.wireType,
    if field.wireType = .lengthDelimited then field.bytes.offset else body, next⟩

/-- The loop of `matching`, with every field noted. -/
def scanFrom (message : Bytes) : (rounds position : Nat) → Except ScanError (List Occurrence)
  | 0, position => if position < message.length then .error .unfinished else .ok []
  | rounds + 1, position =>
    if position < message.length then do
      let (field, next) ← nextField message position 0
      let occurrence ← placed message position field next
      let rest ← scanFrom message rounds next
      .ok (occurrence :: rest)
    else .ok []

/-- The fields of a message the reader scans without an error. -/
def scan (message : Bytes) : Except ScanError (List Occurrence) :=
  scanFrom message message.length 0

/-- A field that is no group is noted where the grammar has it. -/
theorem placed_eq {message : Bytes} {start stop body first : Nat} {tag : Tag}
    (htag : TagAt message start tag body) (hpayload : PayloadAt message tag.type body first stop) :
    placed message start (fieldOf message ⟨tag.number, tag.type, first, stop⟩) stop =
      .ok ⟨tag.number, tag.type, first, stop⟩ := by
  obtain ⟨raw, hraw, -, -⟩ := htag.raw
  have hnumber : (UInt32.ofNat tag.number).toNat = tag.number :=
    UInt32.toNat_ofNat_of_lt' (lt_trans htag.lt (by decide))
  unfold placed
  rw [readVarint_ok hraw]
  obtain ⟨number, type⟩ := tag
  show Except.ok _ = _
  cases hpayload with
  | varint h => rw [fieldOf_varint h, hnumber]; rfl
  | fixed64 h => simp only [fieldOf]; rw [hnumber]; rfl
  | lengthDelimited h hsize => rw [fieldOf_bytes, hnumber]; rfl
  | fixed32 h => simp only [fieldOf]; rw [hnumber]; rfl

/-- A scan that succeeds has gone over a field sequence, as a lookup has. -/
theorem scanFrom_sound {message : Bytes} {rounds position : Nat} {occurrences : List Occurrence}
    (hposition : position ≤ message.length)
    (h : scanFrom message rounds position = .ok occurrences) :
    ∃ fields, FieldsAt message kMaxRecursionDepth position fields message.length := by
  have hend : ¬ position < message.length →
      ∃ fields, FieldsAt message kMaxRecursionDepth position fields message.length := by
    intro hend
    obtain rfl : position = message.length := by omega
    exact ⟨[], .nil⟩
  induction rounds generalizing position occurrences with
  | zero =>
    rw [scanFrom] at h
    split at h
    · cases h
    · next hnot => exact hend hnot
  | succ rounds ih =>
    rw [scanFrom] at h
    split at h
    · obtain ⟨⟨field, next⟩, hnext, h⟩ := bind_ok h
      obtain ⟨occurrence, -, h⟩ := bind_ok h
      obtain ⟨rest, hrest, -⟩ := bind_ok h
      obtain ⟨placedAt, hfield, -⟩ := nextField_sound (Nat.zero_add _) hnext
      obtain ⟨fields, hfields⟩ := ih hfield.inside hrest fun hnot => by
        obtain rfl : next = message.length := by
          have hinside := hfield.inside
          omega
        exact ⟨[], .nil⟩
      exact ⟨_, hfield.cons hfields⟩
    · next hnot => exact hend hnot

/-- A flat field sequence is noted as it stands. -/
theorem scanFrom_complete {message : Bytes} {rounds position stop : Nat}
    {occurrences : List Occurrence} (h : SpansAt strictTag message position occurrences stop)
    (hstop : stop = message.length) (hrounds : message.length - position ≤ rounds) :
    scanFrom message rounds position = .ok occurrences := by
  induction h generalizing rounds with
  | nil =>
    subst hstop
    cases rounds <;> rw [scanFrom, if_neg (lt_irrefl _)]
  | @cons start raw body first next stop tag fields hraw htag hpayload hfields ih =>
    have hat : TagAt message start tag body := tagAt_iff.mpr ⟨raw, hraw, htag⟩
    have hlt := hat.start_lt
    have hle := hpayload.le
    have hinside := hpayload.inside
    obtain ⟨rounds, rfl⟩ : ∃ r, rounds = r + 1 := ⟨rounds - 1, by omega⟩
    rw [scanFrom, if_pos (by omega),
      nextField_complete (Nat.zero_add _) (FieldAt.value hat hpayload)]
    show (placed message start _ next >>= _) = _
    rw [placed_eq hat hpayload]
    show (scanFrom message rounds next >>= _) = _
    rw [ih hstop (by omega)]
    rfl

/-- Without groups, the scan takes the flat field sequences with the numbers of the format. -/
theorem scan_eq_ok_iff {readTag : Nat → Option Tag} {message : Bytes}
    {occurrences : List Occurrence}
    (hread : ∀ raw tag, strictTag raw = some tag → readTag raw = some tag)
    (hgroups : ∀ met ∈ tags readTag message, met.2.type ≠ .startGroup) :
    scan message = .ok occurrences ↔
      SpansAt strictTag message 0 occurrences message.length := by
  constructor
  · intro h
    obtain ⟨fields, hfields⟩ := scanFrom_sound (Nat.zero_le _) h
    have hspans := hfields.spansAt hread (by rwa [List.drop_zero])
    have hsame := @scanFrom_complete message message.length 0 _ _ hspans rfl (by omega)
    rw [scan, hsame] at h
    obtain rfl := Except.ok.inj h
    exact hspans
  · intro h
    exact scanFrom_complete h rfl (by omega)

end ParserModule.ProtoReader

/-! ## Agreement -/

open ParserModule.ProtoReader

theorem tagOf_eq_some_iff {raw : Nat} {tag : Tag} :
    Reader.tagOf raw = some tag ↔
      raw / 8 % 2 ^ 32 = tag.number ∧ WireType.ofRaw raw = tag.type ∧ tag.number ≠ 0 := by
  obtain ⟨number, type⟩ := tag
  unfold Reader.tagOf
  constructor
  · intro h
    split at h
    · cases h
    · dsimp only at h
      split at h
      · next hne =>
        obtain ⟨rfl, rfl⟩ := Tag.mk.inj (Option.some.inj h)
        exact ⟨rfl, rfl, hne⟩
      · cases h
  · rintro ⟨rfl, rfl, hne⟩
    have hraw : raw ≠ 0 := by
      rintro rfl
      exact hne rfl
    rw [if_neg hraw]
    exact if_pos hne

/-- The codecs' reader takes every tag of the format. -/
theorem tagOf_of_strictTag (raw : Nat) (tag : Tag) (h : strictTag raw = some tag) :
    Reader.tagOf raw = some tag := by
  obtain ⟨hnumber, htype, hpos, hlt⟩ := strictTag_eq_some_iff.mp h
  rw [tagOf_eq_some_iff]
  exact ⟨by omega, htype, by omega⟩

/-- No tag the scanners meet begins or ends a group. -/
def GroupFree (message : Bytes) : Prop :=
  ∀ met ∈ tags Reader.tagOf message, met.2.type ≠ .startGroup ∧ met.2.type ≠ .endGroup

/-- The two scanners accept the message or not, together and with the same fields, and the
codecs' handlers are handed the numbers that are in the message. -/
structure ScannersAgree (message : Bytes) : Prop where
  accepts : (codecFields message).isSome ↔ ∃ occurrences, scan message = .ok occurrences
  same : ∀ fields occurrences, codecFields message = some fields →
    scan message = .ok occurrences → fields = occurrences
  faithful : (delivered message).map (·.number) = (tags Reader.tagOf message).map (·.1 / 8)

/-- The scanners agree where no number is above 32 bits and, if the message is a field
sequence, none is above the format's. -/
theorem scannersAgree_iff {message : Bytes} (hgroups : GroupFree message) :
    ScannersAgree message ↔
      (∀ met ∈ tags Reader.tagOf message, met.1 / 8 < 2 ^ 32) ∧
        ((∃ fields, SpansAt Reader.tagOf message 0 fields message.length) →
          ∀ met ∈ tags Reader.tagOf message, met.1 / 8 < 2 ^ 29) := by
  have hnumber : ∀ met ∈ tags Reader.tagOf message,
      met.1 / 8 % 2 ^ 32 = met.2.number ∧ WireType.ofRaw met.1 = met.2.type ∧
        met.2.number ≠ 0 :=
    fun met hmet => tagOf_eq_some_iff.mp (tags_read hmet)
  have hscan : ∀ {occurrences}, scan message = .ok occurrences ↔
      SpansAt strictTag message 0 occurrences message.length :=
    scan_eq_ok_iff tagOf_of_strictTag fun met hmet => (hgroups met hmet).1
  constructor
  · intro h
    have hfaithful := h.faithful
    rw [delivered_eq, List.map_map, List.map_inj_left] at hfaithful
    have hsmall : ∀ met ∈ tags Reader.tagOf message, met.1 / 8 < 2 ^ 32 := by
      intro met hmet
      have hkept : met.2.number = met.1 / 8 := hfaithful met hmet
      obtain ⟨hmod, -⟩ := hnumber met hmet
      omega
    refine ⟨hsmall, ?_⟩
    rintro ⟨fields, hfields⟩ met hmet
    have hcodec := codecFields_eq_some_iff.mpr hfields
    obtain ⟨occurrences, hoccurrences⟩ := h.accepts.mp (by rw [hcodec]; rfl)
    obtain rfl := h.same _ _ hcodec hoccurrences
    -- the numbers met are those of the fields, which `ProtoReader` has taken
    have hnumbers := hfields.numbers rfl
    rw [List.drop_zero] at hnumbers
    have hmem : met.2.number ∈ fields.map (·.number) := by
      rw [hnumbers]
      exact List.mem_map_of_mem hmet
    obtain ⟨field, hfield, heq⟩ := List.mem_map.mp hmem
    have hlt := ((hscan.mp hoccurrences).fieldsAt 0).mem_number_lt hfield
    have hsmall' := hsmall met hmet
    obtain ⟨hmod, -⟩ := hnumber met hmet
    omega
  · rintro ⟨hsmall, hvalid⟩
    have hstrict : ∀ {fields}, SpansAt Reader.tagOf message 0 fields message.length →
        SpansAt strictTag message 0 fields message.length := by
      intro fields hfields
      apply hfields.transport
      rw [List.drop_zero]
      intro met hmet
      obtain ⟨hmod, htype, hne⟩ := hnumber met hmet
      have hlt := hvalid ⟨fields, hfields⟩ met hmet
      rw [strictTag_eq_some_iff]
      exact ⟨by omega, htype, by omega, by omega⟩
    refine ⟨⟨?_, ?_⟩, ?_, ?_⟩
    · intro h
      obtain ⟨fields, hfields⟩ := Option.isSome_iff_exists.mp h
      exact ⟨fields, hscan.mpr (hstrict (codecFields_eq_some_iff.mp hfields))⟩
    · rintro ⟨occurrences, h⟩
      rw [codecFields_eq_some_iff.mpr ((hscan.mp h).mono tagOf_of_strictTag)]
      rfl
    · intro fields occurrences hfields hoccurrences
      have hboth := hscan.mpr (hstrict (codecFields_eq_some_iff.mp hfields))
      exact Except.ok.inj (hboth.symm.trans hoccurrences)
    · rw [delivered_eq, List.map_map, List.map_inj_left]
      intro met hmet
      show met.2.number = met.1 / 8
      obtain ⟨hmod, -⟩ := hnumber met hmet
      have hlt := hsmall met hmet
      omega

theorem scannersAgree_byte : ScannersAgree [0x08, 0x01] := by
  refine (scannersAgree_iff (by unfold GroupFree; decide)).mpr ⟨by decide, ?_⟩
  intro _
  decide

/-- Field 4294967297 is handed to the codecs' handlers as field 1. -/
theorem scannersAgree_aliased :
    GroupFree [0x88, 0x80, 0x80, 0x80, 0x80, 0x01, 0x05] ∧
      delivered [0x88, 0x80, 0x80, 0x80, 0x80, 0x01, 0x05] = [⟨1, .varint⟩] ∧
      codecFields [0x88, 0x80, 0x80, 0x80, 0x80, 0x01, 0x05] = some [⟨1, .varint, 6, 7⟩] ∧
      scan [0x88, 0x80, 0x80, 0x80, 0x80, 0x01, 0x05] =
        fail "protobuf field number is invalid" ∧
      ¬ ScannersAgree [0x88, 0x80, 0x80, 0x80, 0x80, 0x01, 0x05] := by
  refine ⟨by unfold GroupFree; decide, by decide, by decide, by rfl, ?_⟩
  intro h
  exact absurd h.faithful (by decide)

end PlotJugglerSdk
