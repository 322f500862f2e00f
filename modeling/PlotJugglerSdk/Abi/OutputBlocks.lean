import PlotJugglerSdk.Abi.HostBlocks

/-!
# The output descriptor

What a module returns from a parse: an object's wire with an optional splice,
or a record of named scalars. The scalars' names stand behind all the values
and are named by ranges of the block; their values are in line.

`readOutputDescriptorV1_write` is the round trip, for any number of fields of
any kind; `readOutputDescriptorV1_inside` bounds what the reader returns.
-/

namespace PlotJugglerSdk

open Wire

/-! ## Writer -/

def scalarValueSize : ScalarValueV1 Bytes → Except String Nat
  | .float64 _ | .int64 _ | .uint64 _ => .ok 8
  | .bool _ => .ok 1
  | .string text =>
    if uint32Max < text.length then .error "scalar string exceeds the v1 uint32 length limit"
    else
      match checkedAdd 4 text.length with
      | none => .error "scalar string size overflows the host size type"
      | some size => .ok size

/-- Where the values end that start at `start`. -/
def scalarValuesEnd : List (ScalarFieldV1 Bytes) → Nat → Except String Nat
  | [], start => .ok start
  | field :: fields, start =>
    match scalarValueSize field.value with
    | .error e => .error e
    | .ok valueSize =>
      if uint32Max < field.name.length then
        .error "scalar output v1 field size exceeds its encoded range"
      else
        match (checkedAdd start 9).bind fun next => checkedAdd next valueSize with
        | none => .error "scalar output v1 field size exceeds its encoded range"
        | some next => scalarValuesEnd fields next

/-- Where the names go behind the values, one after another. -/
def scalarNameLayout : List (ScalarFieldV1 Bytes) → Nat → Except String (List Range)
  | [], _ => .ok []
  | field :: fields, total =>
    if uint32Max < total then .error "scalar output v1 name offset exceeds uint32"
    else
      match checkedAdd total field.name.length with
      | none => .error "scalar output v1 block exceeds the uint32 name-offset range"
      | some next =>
        if uint32Max < next then
          .error "scalar output v1 block exceeds the uint32 name-offset range"
        else
          match scalarNameLayout fields next with
          | .error e => .error e
          | .ok ranges => .ok (⟨total, field.name.length⟩ :: ranges)

def writeScalarValue : ScalarValueV1 Bytes → Bytes
  | .float64 bits => ByteWriter.u8 0 ++ ByteWriter.f64 bits
  | .int64 value => ByteWriter.u8 1 ++ ByteWriter.i64 value
  | .uint64 value => ByteWriter.u8 2 ++ ByteWriter.u64 value
  | .bool value => ByteWriter.u8 3 ++ ByteWriter.u8 (if value then 1 else 0)
  | .string text => ByteWriter.u8 4 ++ ByteWriter.u32 (UInt32.ofNat text.length) ++ text

def writeScalarFields : List (ScalarFieldV1 Bytes) → List Range → Bytes
  | field :: fields, name :: names =>
    writeRange name ++ writeScalarValue field.value ++ writeScalarFields fields names
  | _, _ => []

def objectOutputHead (output : ObjectOutputV1 Bytes) : Bytes :=
  ByteWriter.u16 1 ++ ByteWriter.u8 Route.object ++ ByteWriter.u8 0 ++
    ByteWriter.u16 output.objectType ++ ByteWriter.u16 (if output.splice.isSome then 1 else 0) ++
    ByteWriter.u32 (output.splice.elim 0 (·.fieldNumber)) ++
    ByteWriter.u64 (output.splice.elim 0 (·.inputOffset)) ++
    ByteWriter.u64 (output.splice.elim 0 (·.inputLength)) ++
    ByteWriter.u64 (UInt64.ofNat output.wire.length)

def scalarOutputHead (output : ScalarOutputV1 Bytes) : Bytes :=
  ByteWriter.u16 1 ++ ByteWriter.u8 Route.scalar ++ ByteWriter.u8 0 ++
    ByteWriter.u8 (if output.hasTimestamp then 1 else 0) ++ ByteWriter.zeros 7 ++
    ByteWriter.i64 output.timestampNs ++ ByteWriter.u32 (UInt32.ofNat output.fields.length)

def writeOutputDescriptorV1 : OutputDescriptorV1 Bytes → Except String Bytes
  | .object output =>
    match checkedAdd 36 output.wire.length with
    | none => .error "object output v1 size overflows the host size type"
    | some _ => .ok (objectOutputHead output ++ output.wire)
  | .scalar output =>
    if uint32Max < output.fields.length then .error "scalar output v1 has too many fields"
    else
      match scalarValuesEnd output.fields 24 with
      | .error e => .error e
      | .ok valuesEnd =>
        match scalarNameLayout output.fields valuesEnd with
        | .error e => .error e
        | .ok names =>
          .ok (scalarOutputHead output ++ writeScalarFields output.fields names ++
            (output.fields.map (·.name)).flatten)

/-! ## Reader -/

def readOutputHeader (reader : Bytes) : Option (UInt16 × UInt8 × Bytes) := do
  let (version, reader) ← ByteReader.u16 reader
  let (route, reader) ← ByteReader.u8 reader
  let reader ← ByteReader.skip 1 reader
  some (version, route, reader)

structure ObjectHeader where
  objectType : UInt16
  spliceCount : UInt16
  fieldNumber : UInt32
  inputOffset : UInt64
  inputLength : UInt64
  wireLength : UInt64

def readObjectHeader (reader : Bytes) : Option (ObjectHeader × Bytes) := do
  let (objectType, reader) ← ByteReader.u16 reader
  let (spliceCount, reader) ← ByteReader.u16 reader
  let (fieldNumber, reader) ← ByteReader.u32 reader
  let (inputOffset, reader) ← ByteReader.u64 reader
  let (inputLength, reader) ← ByteReader.u64 reader
  let (wireLength, reader) ← ByteReader.u64 reader
  some (⟨objectType, spliceCount, fieldNumber, inputOffset, inputLength, wireLength⟩, reader)

def readObjectOutput (block reader : Bytes) : Except String (ObjectOutputV1 Range) :=
  match readObjectHeader reader with
  | none => .error (malformed "truncated object output descriptor")
  | some (header, reader) =>
    if 1 < header.spliceCount then .error (malformed "object output splice_count is not 0 or 1")
    -- the wire is all that follows the header
    else if header.wireLength.toNat ≠ reader.length then
      .error (malformed "object output wire length does not match the block")
    else
      match ByteReader.take block header.wireLength.toNat reader with
      | none => .error (malformed "truncated object output wire bytes")
      | some (wire, _) =>
        -- without a splice its three numbers are read and not looked at
        let splice :=
          if header.spliceCount = 1 then
            some ⟨header.fieldNumber, header.inputOffset, header.inputLength⟩
          else none
        .ok ⟨header.objectType, splice, wire⟩

def readScalarHeader (reader : Bytes) : Option (UInt8 × Int64 × UInt32 × Bytes) := do
  let (hasTimestamp, reader) ← ByteReader.u8 reader
  let reader ← ByteReader.skip 7 reader
  let (timestampNs, reader) ← ByteReader.i64 reader
  let (fieldCount, reader) ← ByteReader.u32 reader
  some (hasTimestamp, timestampNs, fieldCount, reader)

def readScalarLead (reader : Bytes) : Option (Range × UInt8 × Bytes) := do
  let (name, reader) ← readDescriptor reader
  let (valueKind, reader) ← ByteReader.u8 reader
  some (name, valueKind, reader)

def readScalarString (block reader : Bytes) : Option (Range × Bytes) := do
  let (length, reader) ← ByteReader.u32 reader
  ByteReader.take block length.toNat reader

def readScalarValue (block : Bytes) (valueKind : UInt8) (reader : Bytes) :
    Except String (ScalarValueV1 Range × Bytes) :=
  match valueKind.toNat with
  | 0 =>
    match ByteReader.f64 reader with
    | none => .error (malformed "truncated scalar float64 value")
    | some (bits, reader) => .ok (.float64 bits, reader)
  | 1 =>
    match ByteReader.i64 reader with
    | none => .error (malformed "truncated scalar int64 value")
    | some (value, reader) => .ok (.int64 value, reader)
  | 2 =>
    match ByteReader.u64 reader with
    | none => .error (malformed "truncated scalar uint64 value")
    | some (value, reader) => .ok (.uint64 value, reader)
  | 3 =>
    match ByteReader.u8 reader with
    | none => .error (malformed "invalid scalar bool value")
    | some (value, reader) =>
      -- any other byte would be a second spelling of true
      if 1 < value then .error (malformed "invalid scalar bool value")
      else .ok (.bool (value != 0), reader)
  | 4 =>
    match readScalarString block reader with
    | none => .error (malformed "truncated scalar string value")
    | some (text, reader) => .ok (.string text, reader)
  | _ => .error (malformed "unknown scalar value kind")

/-- The names are not looked at before all values are read. -/
def readScalarFields (block : Bytes) : Nat → Bytes → Except String (List (ScalarFieldV1 Range))
  | 0, _ => .ok []
  | count + 1, reader =>
    match readScalarLead reader with
    | none => .error (malformed "truncated scalar field descriptor")
    | some (name, valueKind, reader) =>
      match readScalarValue block valueKind reader with
      | .error e => .error e
      | .ok (value, reader) =>
        match readScalarFields block count reader with
        | .error e => .error e
        | .ok fields => .ok (⟨name, value⟩ :: fields)

def checkScalarNames (block : Bytes) : List (ScalarFieldV1 Range) → Except String Unit
  | [] => .ok ()
  | field :: fields =>
    if outside block field.name then
      .error (malformed "scalar field name range is outside the block")
    else checkScalarNames block fields

def readScalarOutput (block reader : Bytes) : Except String (ScalarOutputV1 Range) :=
  match readScalarHeader reader with
  | none => .error (malformed "truncated scalar output descriptor")
  | some (hasTimestamp, timestampNs, fieldCount, reader) =>
    if 1 < hasTimestamp then .error (malformed "scalar output has_timestamp is not 0 or 1")
    -- a field takes ten bytes at least, its name apart
    else if reader.length / 10 < fieldCount.toNat then
      .error (malformed "scalar output field count exceeds the block")
    else
      match readScalarFields block fieldCount.toNat reader with
      | .error e => .error e
      | .ok fields =>
        match checkScalarNames block fields with
        | .error e => .error e
        | .ok () => .ok ⟨hasTimestamp != 0, timestampNs, fields⟩

def readOutputDescriptorV1 (block : Bytes) : Except String (OutputDescriptorV1 Range) :=
  match readOutputHeader block with
  | none => .error (malformed "truncated output descriptor header")
  | some (version, route, reader) =>
    if version ≠ 1 then .error (malformed "unsupported output descriptor version")
    else if route = Route.object then (readObjectOutput block reader).map .object
    else if route ≠ Route.scalar then .error (malformed "invalid output descriptor route")
    else (readScalarOutput block reader).map .scalar

/-! ## Round trip -/

theorem scalarNameLayout_ok {fields : List (ScalarFieldV1 Bytes)} {start : Nat}
    {names : List Range} (h : scalarNameLayout fields start = .ok names) :
    names = layout start (fields.map (·.name)) ∧
      (fields ≠ [] → start + (fields.map (·.name)).flatten.length < 2 ^ 32) := by
  induction fields generalizing start names with
  | nil =>
    obtain rfl := Except.ok.inj h
    exact ⟨rfl, by simp⟩
  | cons field fields ih =>
    rw [scalarNameLayout] at h
    split at h
    · exact absurd h (by simp)
    · cases hnext : checkedAdd start field.name.length with
      | none => simp [hnext] at h
      | some next =>
        obtain ⟨rfl, -⟩ := checkedAdd_eq_some hnext
        simp only [hnext] at h
        split at h
        · exact absurd h (by simp)
        · next hle =>
          cases hrest : scalarNameLayout fields (start + field.name.length) with
          | error e => simp [hrest] at h
          | ok names' =>
            obtain ⟨rfl, hbound⟩ := ih hrest
            simp only [hrest, Except.ok.injEq] at h
            subst h
            refine ⟨rfl, fun _ => ?_⟩
            rw [List.map_cons, List.flatten_cons, List.length_append]
            -- the writer checks where a name starts; the last name has nothing after it
            by_cases hnil : fields = []
            · subst hnil
              rw [uint32Max] at hle
              simp only [List.map_nil, List.flatten_nil, List.length_nil]
              omega
            · have := hbound hnil
              omega

/-- The bytes of a field but for its name. -/
def scalarFieldSize (field : ScalarFieldV1 Bytes) : Nat := 8 + (writeScalarValue field.value).length

theorem scalarValueSize_ok {value : ScalarValueV1 Bytes} {size : Nat}
    (h : scalarValueSize value = .ok size) :
    (writeScalarValue value).length = 1 + size ∧
      ∀ text, value = .string text → text.length < 2 ^ 32 := by
  cases value with
  | float64 bits =>
    obtain rfl := Except.ok.inj h
    exact ⟨by simp [writeScalarValue], by simp⟩
  | int64 value =>
    obtain rfl := Except.ok.inj h
    exact ⟨by simp [writeScalarValue], by simp⟩
  | uint64 value =>
    obtain rfl := Except.ok.inj h
    exact ⟨by simp [writeScalarValue], by simp⟩
  | bool value =>
    obtain rfl := Except.ok.inj h
    exact ⟨by simp [writeScalarValue], by simp⟩
  | string text =>
    rw [scalarValueSize] at h
    split at h
    · exact absurd h (by simp)
    · -- the length of a text is what the writer refuses above 32 bits
      next hle =>
      cases hsum : checkedAdd 4 text.length with
      | none => simp [hsum] at h
      | some sum =>
        obtain ⟨rfl, -⟩ := checkedAdd_eq_some hsum
        simp only [hsum, Except.ok.injEq] at h
        subst h
        rw [uint32Max] at hle
        refine ⟨?_, fun text' htext => ?_⟩
        · simp only [writeScalarValue, List.length_append, ByteWriter.u8_length,
            ByteWriter.u32_length]
          omega
        · obtain rfl := ScalarValueV1.string.inj htext
          omega

theorem scalarValuesEnd_ok {fields : List (ScalarFieldV1 Bytes)} {start final : Nat}
    (h : scalarValuesEnd fields start = .ok final) {names : List Range}
    (hnames : names.length = fields.length) :
    final = start + (writeScalarFields fields names).length ∧
      ∀ field ∈ fields, ∀ text, field.value = .string text → text.length < 2 ^ 32 := by
  induction fields generalizing start names with
  | nil =>
    obtain rfl := Except.ok.inj h
    simp [writeScalarFields]
  | cons field fields ih =>
    obtain ⟨name, names, rfl⟩ := List.exists_cons_of_length_eq_add_one hnames
    rw [scalarValuesEnd] at h
    cases hsize : scalarValueSize field.value with
    | error e => simp [hsize] at h
    | ok size =>
      obtain ⟨hlen, htext⟩ := scalarValueSize_ok hsize
      simp only [hsize] at h
      split at h
      · exact absurd h (by simp)
      · cases hnext : (checkedAdd start 9).bind fun next => checkedAdd next size with
        | none => simp [hnext] at h
        | some next =>
          obtain ⟨middle, hmiddle, hsum⟩ := Option.bind_eq_some_iff.mp hnext
          obtain ⟨rfl, -⟩ := checkedAdd_eq_some hmiddle
          obtain ⟨rfl, -⟩ := checkedAdd_eq_some hsum
          simp only [hnext] at h
          obtain ⟨rfl, hall⟩ := ih h (by simpa using hnames)
          refine ⟨?_, List.forall_mem_cons.mpr ⟨htext, hall⟩⟩
          simp only [writeScalarFields, List.length_append, writeRange_length, hlen]
          omega

/-- A value reads back in any block it stands in. -/
theorem readScalarValue_write {value : ScalarValueV1 Bytes} (front rest : Bytes)
    (htext : ∀ text, value = .string text → text.length < 2 ^ 32) :
    ∃ kind body view, writeScalarValue value = ByteWriter.u8 kind ++ body ∧
      readScalarValue (front ++ writeScalarValue value ++ rest) kind (body ++ rest) =
        .ok (view, rest) ∧
      view.map (slice (front ++ writeScalarValue value ++ rest)) = value := by
  cases value with
  | float64 bits =>
    refine ⟨0, ByteWriter.f64 bits, .float64 bits, rfl, ?_, rfl⟩
    simp [readScalarValue]
  | int64 value =>
    refine ⟨1, ByteWriter.i64 value, .int64 value, rfl, ?_, rfl⟩
    simp [readScalarValue]
  | uint64 value =>
    refine ⟨2, ByteWriter.u64 value, .uint64 value, rfl, ?_, rfl⟩
    simp [readScalarValue]
  | bool value =>
    refine ⟨3, ByteWriter.u8 (if value then 1 else 0), .bool value, rfl, ?_, rfl⟩
    cases value <;> simp [readScalarValue]
  | string text =>
    have hlength : (UInt32.ofNat text.length).toNat = text.length := by
      rw [UInt32.toNat_ofNat', Nat.mod_eq_of_lt (htext text rfl)]
    -- a text is read in place: its range starts after all that stands before it
    set lead := front ++ ByteWriter.u8 4 ++ ByteWriter.u32 (UInt32.ofNat text.length) with hlead
    have hblock : front ++ writeScalarValue (.string text) ++ rest = lead ++ text ++ rest := by
      simp [writeScalarValue, hlead]
    rw [hblock]
    refine ⟨4, ByteWriter.u32 (UInt32.ofNat text.length) ++ text,
      .string ⟨lead.length, text.length⟩, by simp [writeScalarValue], ?_, ?_⟩
    · -- the reader finds its place from what is left of the block
      have hoffset : (lead ++ text ++ rest).length - (text ++ rest).length = lead.length := by
        simp only [List.length_append]
        omega
      have hread : readScalarString (lead ++ text ++ rest)
          (ByteWriter.u32 (UInt32.ofNat text.length) ++ (text ++ rest)) =
            some (⟨lead.length, text.length⟩, rest) := by
        rw [readScalarString, ByteReader.u32_append]
        simp only [Option.bind_eq_bind, Option.bind_some, hlength]
        rw [ByteReader.take_append text.length rfl, hoffset]
      have hreader : ByteWriter.u32 (UInt32.ofNat text.length) ++ text ++ rest =
          ByteWriter.u32 (UInt32.ofNat text.length) ++ (text ++ rest) := List.append_assoc _ _ _
      rw [hreader]
      simp only [readScalarValue, UInt8.reduceToNat, hread]
    · simp only [ScalarValueV1.map]
      rw [slice_middle]

theorem readScalarFields_write {fields : List (ScalarFieldV1 Bytes)} {names : List Range}
    (hnames : names.length = fields.length)
    (hfits : ∀ name ∈ names, name.offset < 2 ^ 32 ∧ name.length < 2 ^ 32)
    (htexts : ∀ field ∈ fields, ∀ text, field.value = .string text → text.length < 2 ^ 32)
    (front rest : Bytes) :
    ∃ views, readScalarFields (front ++ writeScalarFields fields names ++ rest) fields.length
        (writeScalarFields fields names ++ rest) = .ok views ∧ views.map (·.name) = names ∧
      views.map (·.value.map (slice (front ++ writeScalarFields fields names ++ rest))) =
        fields.map (·.value) := by
  induction fields generalizing names front with
  | nil =>
    obtain rfl := List.length_eq_zero_iff.mp hnames
    exact ⟨[], rfl, rfl, rfl⟩
  | cons field fields ih =>
    obtain ⟨name, names, rfl⟩ := List.exists_cons_of_length_eq_add_one hnames
    obtain ⟨hname, hfits⟩ := List.forall_mem_cons.mp hfits
    obtain ⟨htext, htexts⟩ := List.forall_mem_cons.mp htexts
    -- the rest of the fields reads with this field moved to the front
    have hblock : front ++ writeScalarFields (field :: fields) (name :: names) ++ rest =
        front ++ writeRange name ++ writeScalarValue field.value ++
          (writeScalarFields fields names ++ rest) := by
      simp [writeScalarFields]
    obtain ⟨kind, body, value, hwrite, hvalue, hview⟩ := readScalarValue_write
      (front ++ writeRange name) (writeScalarFields fields names ++ rest) htext
    obtain ⟨views, hviews, hviewNames, hviewValues⟩ := ih (by simpa using hnames) hfits htexts
      (front ++ writeRange name ++ writeScalarValue field.value)
    have hfront : front ++ writeRange name ++ writeScalarValue field.value ++
        writeScalarFields fields names ++ rest =
          front ++ writeRange name ++ writeScalarValue field.value ++
            (writeScalarFields fields names ++ rest) := List.append_assoc _ _ _
    rw [hfront] at hviews hviewValues
    rw [hblock]
    refine ⟨⟨name, value⟩ :: views, ?_, by rw [List.map_cons, hviewNames], ?_⟩
    · have hreader : writeScalarFields (field :: fields) (name :: names) ++ rest =
          writeRange name ++ (ByteWriter.u8 kind ++
            (body ++ (writeScalarFields fields names ++ rest))) := by
        simp [writeScalarFields, hwrite]
      have hlead : readScalarLead (writeScalarFields (field :: fields) (name :: names) ++ rest) =
          some (name, kind, body ++ (writeScalarFields fields names ++ rest)) := by
        rw [hreader, readScalarLead, readDescriptor_writeRange hname.1 hname.2]
        simp
      rw [List.length_cons, readScalarFields, hlead]
      simp only [hvalue, hviews]
    · rw [List.map_cons, List.map_cons, hview, hviewValues]

theorem checkScalarNames_eq_ok {block : Bytes} {fields : List (ScalarFieldV1 Range)} :
    checkScalarNames block fields = .ok () ↔ ∀ field ∈ fields, field.name.Inside block := by
  induction fields with
  | nil => simp [checkScalarNames]
  | cons field fields ih =>
    rw [checkScalarNames, List.forall_mem_cons]
    by_cases houtside : outside block field.name
    · rw [if_pos houtside]
      simp [mt not_outside_iff.mpr (not_not.mpr houtside)]
    · rw [if_neg houtside, ih]
      simp [not_outside_iff.mp houtside]

/-- A field takes ten bytes at least: a range, a kind and a byte of value. -/
theorem writeScalarFields_length_ge {fields : List (ScalarFieldV1 Bytes)} {names : List Range}
    (hnames : names.length = fields.length) :
    fields.length * 10 ≤ (writeScalarFields fields names).length := by
  induction fields generalizing names with
  | nil => simp
  | cons field fields ih =>
    obtain ⟨name, names, rfl⟩ := List.exists_cons_of_length_eq_add_one hnames
    have hrest : fields.length * 10 ≤ (writeScalarFields fields names).length :=
      ih (by simpa using hnames)
    have hvalue : 2 ≤ (writeScalarValue field.value).length := by
      cases field.value <;>
        simp only [writeScalarValue, List.length_append, ByteWriter.u8_length,
          ByteWriter.f64_length, ByteWriter.i64_length, ByteWriter.u64_length,
          ByteWriter.u32_length] <;> omega
    simp only [writeScalarFields, List.length_append, List.length_cons, writeRange_length]
    omega

theorem map_fields_eq {f : Range → Bytes} {views : List (ScalarFieldV1 Range)}
    {fields : List (ScalarFieldV1 Bytes)}
    (hnames : (views.map (·.name)).map f = fields.map (·.name))
    (hvalues : views.map (·.value.map f) = fields.map (·.value)) :
    views.map (·.map f) = fields := by
  induction views generalizing fields with
  | nil =>
    rw [List.map_nil, List.map_nil] at hnames
    exact (List.map_eq_nil_iff.mp hnames.symm).symm
  | cons view views ih =>
    cases fields with
    | nil => simp at hnames
    | cons field fields =>
      simp only [List.map_cons, List.cons.injEq] at hnames hvalues
      rw [List.map_cons, ih hnames.2 hvalues.2, ScalarFieldV1.map, hnames.1, hvalues.1]

theorem readObjectOutput_write {output : ObjectOutputV1 Bytes}
    (hfits : output.wire.length < 2 ^ 64) :
    ∃ view, readOutputDescriptorV1 (objectOutputHead output ++ output.wire) =
        .ok (.object view) ∧
      (OutputDescriptorV1.object view).map (slice (objectOutputHead output ++ output.wire)) =
        .object output := by
  have hlength : (UInt64.ofNat output.wire.length).toNat = output.wire.length := by
    rw [UInt64.toNat_ofNat', Nat.mod_eq_of_lt hfits]
  have hheader : readOutputHeader (objectOutputHead output ++ output.wire) = some (1, Route.object,
      ByteWriter.u16 output.objectType ++ (ByteWriter.u16 (if output.splice.isSome then 1 else 0) ++
        (ByteWriter.u32 (output.splice.elim 0 (·.fieldNumber)) ++
          (ByteWriter.u64 (output.splice.elim 0 (·.inputOffset)) ++
            (ByteWriter.u64 (output.splice.elim 0 (·.inputLength)) ++
              (ByteWriter.u64 (UInt64.ofNat output.wire.length) ++ output.wire)))))) := by
    simp only [objectOutputHead, readOutputHeader, List.append_assoc, ByteReader.u16_append,
      ByteReader.u8_append, ByteReader.skip_append (ByteWriter.u8_length 0), Option.bind_eq_bind,
      Option.bind_some]
  rw [readOutputDescriptorV1, hheader]
  simp only [ne_eq, not_true_eq_false, if_false, if_true]
  simp only [readObjectOutput, readObjectHeader, ByteReader.u16_append, ByteReader.u32_append,
    ByteReader.u64_append, Option.bind_eq_bind, Option.bind_some, hlength, ne_eq,
    not_true_eq_false, if_false, take_rest]
  cases hsplice : output.splice with
  | none =>
    refine ⟨⟨output.objectType, none, ⟨_, output.wire.length⟩⟩, rfl, ?_⟩
    rw [OutputDescriptorV1.map, slice_rest, ← hsplice]
  | some splice =>
    refine ⟨⟨output.objectType, some splice, ⟨_, output.wire.length⟩⟩, rfl, ?_⟩
    rw [OutputDescriptorV1.map, slice_rest, ← hsplice]

theorem readScalarOutput_write {output : ScalarOutputV1 Bytes} {valuesEnd : Nat}
    {names : List Range} (hcount : output.fields.length < 2 ^ 32)
    (hend : scalarValuesEnd output.fields 24 = .ok valuesEnd)
    (hlayout : scalarNameLayout output.fields valuesEnd = .ok names) {block : Bytes}
    (hblock : block = scalarOutputHead output ++ writeScalarFields output.fields names ++
      (output.fields.map (·.name)).flatten) :
    ∃ view, readOutputDescriptorV1 block = .ok (.scalar view) ∧
      (OutputDescriptorV1.scalar view).map (slice block) = .scalar output := by
  obtain ⟨hnames, hbound⟩ := scalarNameLayout_ok hlayout
  have hlength : names.length = output.fields.length := by rw [hnames]; simp
  obtain ⟨hvaluesEnd, htexts⟩ := scalarValuesEnd_ok hend hlength
  have hhead : (scalarOutputHead output).length = 24 := by simp [scalarOutputHead]
  -- the names were laid out one after the other at the end of the block
  have hinside : ∀ name ∈ names, name.Inside block := fun name hmem => by
    rw [hnames] at hmem
    have := inside_layout valuesEnd (output.fields.map (·.name)) name hmem
    simp only [Range.Inside, hblock, List.length_append, hhead]
    omega
  -- which is why their ranges fit the 32 bits they are written with
  have hfits : ∀ name ∈ names, name.offset < 2 ^ 32 ∧ name.length < 2 ^ 32 :=
    fun name hmem => by
      have hnonempty : output.fields ≠ [] := fun hnil => by
        rw [hnil, List.length_nil, List.length_eq_zero_iff] at hlength
        simp [hlength] at hmem
      have hsize := hbound hnonempty
      have hname := hinside name hmem
      simp only [Range.Inside, hblock, List.length_append, hhead] at hname
      omega
  have hslices : names.map (slice block) = output.fields.map (·.name) := by
    have := slice_layout (scalarOutputHead output ++ writeScalarFields output.fields names)
      (output.fields.map (·.name)) []
    rw [List.length_append, hhead, ← hvaluesEnd, ← hnames, List.append_nil, ← hblock] at this
    exact this
  obtain ⟨views, hviews, hviewNames, hviewValues⟩ := readScalarFields_write hlength hfits htexts
    (scalarOutputHead output) (output.fields.map (·.name)).flatten
  rw [← hblock] at hviews hviewValues
  have hchecked : checkScalarNames block views = .ok () :=
    checkScalarNames_eq_ok.mpr fun view hmem =>
      hinside view.name (hviewNames ▸ List.mem_map_of_mem hmem)
  have hcountNat : (UInt32.ofNat output.fields.length).toNat = output.fields.length := by
    rw [UInt32.toNat_ofNat', Nat.mod_eq_of_lt hcount]
  have hheader : readOutputHeader block = some (1, Route.scalar,
      ByteWriter.u8 (if output.hasTimestamp then 1 else 0) ++ (ByteWriter.zeros 7 ++
        (ByteWriter.i64 output.timestampNs ++ (ByteWriter.u32 (UInt32.ofNat output.fields.length) ++
          (writeScalarFields output.fields names ++ (output.fields.map (·.name)).flatten))))) := by
    simp only [hblock, scalarOutputHead, readOutputHeader, List.append_assoc,
      ByteReader.u16_append, ByteReader.u8_append,
      ByteReader.skip_append (ByteWriter.u8_length 0), Option.bind_eq_bind, Option.bind_some]
  -- the reader refuses a count that the rest of the block has no room for
  have hroom : ¬(writeScalarFields output.fields names ++
      (output.fields.map (·.name)).flatten).length / 10 < output.fields.length := by
    have := writeScalarFields_length_ge hlength
    rw [List.length_append]
    omega
  have hflag : ¬1 < (if output.hasTimestamp then (1 : UInt8) else 0) := by
    cases output.hasTimestamp <;> decide
  have hflag' : ((if output.hasTimestamp then (1 : UInt8) else 0) != 0) = output.hasTimestamp := by
    cases output.hasTimestamp <;> rfl
  have hroute : Route.scalar ≠ Route.object := by decide
  rw [readOutputDescriptorV1, hheader]
  simp only [ne_eq, not_true_eq_false, if_false, hroute]
  simp only [readScalarOutput, readScalarHeader, ByteReader.u8_append,
    ByteReader.skip_append (ByteWriter.zeros_length 7), ByteReader.i64_append,
    ByteReader.u32_append, Option.bind_eq_bind, Option.bind_some, hflag, hcountNat, hroom,
    if_false, hviews, hchecked, hflag']
  refine ⟨⟨output.hasTimestamp, output.timestampNs, views⟩, rfl, ?_⟩
  rw [OutputDescriptorV1.map, map_fields_eq (hviewNames ▸ hslices) hviewValues]

/-- The host reads back the output it wrote. -/
theorem readOutputDescriptorV1_write {output : OutputDescriptorV1 Bytes} {block : Bytes}
    (h : writeOutputDescriptorV1 output = .ok block) :
    ∃ view, readOutputDescriptorV1 block = .ok view ∧ view.map (slice block) = output := by
  cases output with
  | object output =>
    rw [writeOutputDescriptorV1] at h
    cases hsum : checkedAdd 36 output.wire.length with
    | none => simp [hsum] at h
    | some total =>
      obtain ⟨-, hfits⟩ := checkedAdd_eq_some hsum
      simp only [hsum, Except.ok.injEq] at h
      subst h
      obtain ⟨view, hread, hmap⟩ := @readObjectOutput_write output (by omega)
      exact ⟨.object view, hread, hmap⟩
  | scalar output =>
    rw [writeOutputDescriptorV1] at h
    split at h
    · exact absurd h (by simp)
    · next hcount =>
      cases hend : scalarValuesEnd output.fields 24 with
      | error e => simp [hend] at h
      | ok valuesEnd =>
        cases hlayout : scalarNameLayout output.fields valuesEnd with
        | error e => simp [hend, hlayout] at h
        | ok names =>
          simp only [hend, hlayout, Except.ok.injEq] at h
          rw [uint32Max] at hcount
          obtain ⟨view, hread, hmap⟩ :=
            readScalarOutput_write (by omega) hend hlayout h.symm
          exact ⟨.scalar view, hread, hmap⟩

/-! ## Bounds -/

theorem readOutputHeader_rest {block reader : Bytes} {version : UInt16} {route : UInt8}
    (h : readOutputHeader block = some (version, route, reader)) :
    reader.length ≤ block.length := by
  simp only [readOutputHeader, Option.bind_eq_bind, Option.bind_eq_some_iff, Option.some.injEq,
    Prod.mk.injEq] at h
  obtain ⟨⟨_, r1⟩, h1, ⟨_, r2⟩, h2, r3, h3, -, -, rfl⟩ := h
  have h1' : block.length = 2 + r1.length := ByteReader.u16_rest h1
  have h2' : r1.length = 1 + r2.length := ByteReader.u8_rest h2
  have h3' : r2.length = 1 + r3.length := ByteReader.skip_rest h3
  omega

theorem readObjectHeader_rest {reader rest : Bytes} {header : ObjectHeader}
    (h : readObjectHeader reader = some (header, rest)) : rest.length ≤ reader.length := by
  simp only [readObjectHeader, Option.bind_eq_bind, Option.bind_eq_some_iff, Option.some.injEq,
    Prod.mk.injEq] at h
  obtain ⟨⟨_, r1⟩, h1, ⟨_, r2⟩, h2, ⟨_, r3⟩, h3, ⟨_, r4⟩, h4, ⟨_, r5⟩, h5, ⟨_, r6⟩, h6, -, rfl⟩ := h
  have h1' : reader.length = 2 + r1.length := ByteReader.u16_rest h1
  have h2' : r1.length = 2 + r2.length := ByteReader.u16_rest h2
  have h3' : r2.length = 4 + r3.length := ByteReader.u32_rest h3
  have h4' : r3.length = 8 + r4.length := ByteReader.u64_rest h4
  have h5' : r4.length = 8 + r5.length := ByteReader.u64_rest h5
  have h6' : r5.length = 8 + r6.length := ByteReader.u64_rest h6
  simp only
  omega

theorem readScalarHeader_rest {reader rest : Bytes} {hasTimestamp : UInt8} {timestampNs : Int64}
    {fieldCount : UInt32}
    (h : readScalarHeader reader = some (hasTimestamp, timestampNs, fieldCount, rest)) :
    rest.length ≤ reader.length := by
  simp only [readScalarHeader, Option.bind_eq_bind, Option.bind_eq_some_iff, Option.some.injEq,
    Prod.mk.injEq] at h
  obtain ⟨⟨_, r1⟩, h1, r2, h2, ⟨_, r3⟩, h3, ⟨_, r4⟩, h4, -, -, -, rfl⟩ := h
  have h1' : reader.length = 1 + r1.length := ByteReader.u8_rest h1
  have h2' : r1.length = 7 + r2.length := ByteReader.skip_rest h2
  have h3' : r2.length = 8 + r3.length := ByteReader.i64_rest h3
  have h4' : r3.length = 4 + r4.length := ByteReader.u32_rest h4
  simp only
  omega

theorem readScalarLead_rest {reader rest : Bytes} {name : Range} {valueKind : UInt8}
    (h : readScalarLead reader = some (name, valueKind, rest)) : rest.length ≤ reader.length := by
  simp only [readScalarLead, readDescriptor, Option.bind_eq_bind, Option.bind_eq_some_iff,
    Option.some.injEq, Prod.mk.injEq] at h
  obtain ⟨⟨_, r1⟩, ⟨⟨_, r2⟩, h2, ⟨_, r3⟩, h3, -, rfl⟩, ⟨_, r4⟩, h4, -, -, rfl⟩ := h
  have h2' : reader.length = 4 + r2.length := ByteReader.u32_rest h2
  have h3' : r2.length = 4 + r3.length := ByteReader.u32_rest h3
  have h4' : r3.length = 1 + r4.length := ByteReader.u8_rest h4
  simp only
  omega

/-- A string value lies in the block. -/
theorem readScalarValue_inside {block reader rest : Bytes} {valueKind : UInt8}
    {value : ScalarValueV1 Range} (h : readScalarValue block valueKind reader = .ok (value, rest))
    (hreader : reader.length ≤ block.length) :
    (∀ range ∈ value.parts, range.Inside block) ∧ rest.length ≤ reader.length := by
  rw [readScalarValue] at h
  split at h
  · -- only a text has a range; the others move the reader on
    cases hread : ByteReader.f64 reader with
    | none => simp [hread] at h
    | some read =>
      have hrest : reader.length = 8 + read.2.length := ByteReader.u64_rest hread
      simp only [hread, Except.ok.injEq, Prod.mk.injEq] at h
      obtain ⟨rfl, rfl⟩ := h
      exact ⟨by simp [ScalarValueV1.parts], by omega⟩
  · cases hread : ByteReader.i64 reader with
    | none => simp [hread] at h
    | some read =>
      have hrest : reader.length = 8 + read.2.length := ByteReader.i64_rest hread
      simp only [hread, Except.ok.injEq, Prod.mk.injEq] at h
      obtain ⟨rfl, rfl⟩ := h
      exact ⟨by simp [ScalarValueV1.parts], by omega⟩
  · cases hread : ByteReader.u64 reader with
    | none => simp [hread] at h
    | some read =>
      have hrest : reader.length = 8 + read.2.length := ByteReader.u64_rest hread
      simp only [hread, Except.ok.injEq, Prod.mk.injEq] at h
      obtain ⟨rfl, rfl⟩ := h
      exact ⟨by simp [ScalarValueV1.parts], by omega⟩
  · cases hread : ByteReader.u8 reader with
    | none => simp [hread] at h
    | some read =>
      have hrest : reader.length = 1 + read.2.length := ByteReader.u8_rest hread
      simp only [hread] at h
      split at h
      · exact absurd h (by simp)
      · simp only [Except.ok.injEq, Prod.mk.injEq] at h
        obtain ⟨rfl, rfl⟩ := h
        exact ⟨by simp [ScalarValueV1.parts], by omega⟩
  · cases hread : readScalarString block reader with
    | none => simp [hread] at h
    | some read =>
      simp only [hread, Except.ok.injEq, Prod.mk.injEq] at h
      obtain ⟨rfl, rfl⟩ := h
      simp only [readScalarString, Option.bind_eq_bind, Option.bind_eq_some_iff] at hread
      obtain ⟨⟨length, r1⟩, hlength, htake⟩ := hread
      have hr1 : reader.length = 4 + r1.length := ByteReader.u32_rest hlength
      have htake' : ByteReader.take block length.toNat r1 = some read := htake
      -- the taken range ends where the reader goes on, inside the block
      obtain ⟨hinside, hrest⟩ := ByteReader.take_inside htake' (by omega)
      exact ⟨by simpa [ScalarValueV1.parts] using hinside, by omega⟩
  · exact absurd h (by simp)

theorem readScalarFields_inside {block reader : Bytes} {count : Nat}
    {fields : List (ScalarFieldV1 Range)} (h : readScalarFields block count reader = .ok fields)
    (hreader : reader.length ≤ block.length) :
    ∀ field ∈ fields, ∀ range ∈ field.value.parts, range.Inside block := by
  induction count generalizing reader fields with
  | zero =>
    obtain rfl := Except.ok.inj h
    simp
  | succ count ih =>
    rw [readScalarFields] at h
    cases hlead : readScalarLead reader with
    | none => simp [hlead] at h
    | some lead =>
      obtain ⟨name, valueKind, rest⟩ := lead
      have hrest := readScalarLead_rest hlead
      cases hvalue : readScalarValue block valueKind rest with
      | error e => simp [hlead, hvalue] at h
      | ok read =>
        obtain ⟨value, rest'⟩ := read
        obtain ⟨hinside, hrest'⟩ := readScalarValue_inside hvalue (by omega)
        cases hfields : readScalarFields block count rest' with
        | error e => simp [hlead, hvalue, hfields] at h
        | ok fields' =>
          simp only [hlead, hvalue, hfields, Except.ok.injEq] at h
          subst h
          exact List.forall_mem_cons.mpr ⟨hinside, ih hfields (by omega)⟩

theorem readObjectOutput_inside {block reader : Bytes} {view : ObjectOutputV1 Range}
    (h : readObjectOutput block reader = .ok view) (hreader : reader.length ≤ block.length) :
    view.wire.Inside block := by
  rw [readObjectOutput] at h
  cases hheader : readObjectHeader reader with
  | none => simp [hheader] at h
  | some read =>
    obtain ⟨header, rest⟩ := read
    have hrest := readObjectHeader_rest hheader
    simp only [hheader] at h
    split at h
    · exact absurd h (by simp)
    · split at h
      · exact absurd h (by simp)
      · cases htake : ByteReader.take block header.wireLength.toNat rest with
        | none => simp [htake] at h
        | some taken =>
          simp only [htake, Except.ok.injEq] at h
          subst h
          exact (ByteReader.take_inside htake (by omega)).1

theorem readScalarOutput_inside {block reader : Bytes} {view : ScalarOutputV1 Range}
    (h : readScalarOutput block reader = .ok view) (hreader : reader.length ≤ block.length) :
    ∀ field ∈ view.fields, field.name.Inside block ∧
      ∀ range ∈ field.value.parts, range.Inside block := by
  rw [readScalarOutput] at h
  cases hheader : readScalarHeader reader with
  | none => simp [hheader] at h
  | some read =>
    obtain ⟨hasTimestamp, timestampNs, fieldCount, rest⟩ := read
    have hrest := readScalarHeader_rest hheader
    simp only [hheader] at h
    split at h
    · exact absurd h (by simp)
    · split at h
      · exact absurd h (by simp)
      · cases hfields : readScalarFields block fieldCount.toNat rest with
        | error e => simp [hfields] at h
        | ok fields =>
          cases hchecked : checkScalarNames block fields with
          | error e => simp [hfields, hchecked] at h
          | ok checked =>
            simp only [hfields, hchecked, Except.ok.injEq] at h
            subst h
            exact fun field hmem => ⟨checkScalarNames_eq_ok.mp hchecked field hmem,
              readScalarFields_inside hfields (by omega) field hmem⟩

/-- Everything an accepted output descriptor refers to lies in its block. -/
theorem readOutputDescriptorV1_inside {block : Bytes} {view : OutputDescriptorV1 Range}
    (h : readOutputDescriptorV1 block = .ok view) : ∀ range ∈ view.parts, range.Inside block := by
  rw [readOutputDescriptorV1] at h
  cases hheader : readOutputHeader block with
  | none => simp [hheader] at h
  | some read =>
    obtain ⟨version, route, reader⟩ := read
    have hreader := readOutputHeader_rest hheader
    simp only [hheader] at h
    split at h
    · exact absurd h (by simp)
    · split at h
      · cases hread : readObjectOutput block reader with
        | error e => simp [hread, Except.map] at h
        | ok output =>
          simp only [hread, Except.map, Except.ok.injEq] at h
          subst h
          simpa [OutputDescriptorV1.parts] using readObjectOutput_inside hread hreader
      · split at h
        · exact absurd h (by simp)
        · cases hread : readScalarOutput block reader with
          | error e => simp [hread, Except.map] at h
          | ok output =>
            simp only [hread, Except.map, Except.ok.injEq] at h
            subst h
            intro range hmem
            simp only [OutputDescriptorV1.parts, List.mem_flatMap, List.mem_cons] at hmem
            obtain ⟨field, hfield, hpart⟩ := hmem
            obtain ⟨hname, hvalue⟩ := readScalarOutput_inside hread hreader field hfield
            rcases hpart with rfl | hpart
            · exact hname
            · exact hvalue range hpart

/-! ## The three formats -/

def bindingInfoV1 : BlockFormat BindingInfoV1 where
  write := writeBindingInfoV1
  read := readBindingInfoV1
  map := BindingInfoV1.map
  parts := BindingInfoV1.fields

def parseInputV1 : BlockFormat ParseInputV1 where
  write := writeParseInputV1
  read := readParseInputV1
  map := ParseInputV1.map
  parts := fun view => [view.payload]

def outputDescriptorV1 : BlockFormat OutputDescriptorV1 where
  write := writeOutputDescriptorV1
  read := readOutputDescriptorV1
  map := OutputDescriptorV1.map
  parts := OutputDescriptorV1.parts

/-- The blocks of the ABI survive the way through their bytes, and their readers
stay inside them whatever the bytes are. -/
theorem hostBlocks_lawful :
    bindingInfoV1.Lawful ∧ parseInputV1.Lawful ∧ outputDescriptorV1.Lawful := by
  refine ⟨⟨fun h => readBindingInfoV1_write h, fun h => readBindingInfoV1_inside h⟩,
    ⟨fun h => readParseInputV1_write h, ?_⟩,
    ⟨fun h => readOutputDescriptorV1_write h, fun h => readOutputDescriptorV1_inside h⟩⟩
  intro block view h range hmem
  rw [List.mem_singleton.mp hmem]
  exact readParseInputV1_inside h

end PlotJugglerSdk
