import PlotJugglerSdk.Host.ObjectOutput

/-!
# What the accepted objects are

* `splice_law` — the object a host makes of a spliced output is the one decoded
  from its wire with the bytes appended as a field, and the two hosts make it of
  the same outputs;
* `accepted_gridMap_valid_iff` — a host's grid map has a valid layout unless its
  output carries cells and no data and no splice, the one case nobody checks.
-/

namespace PlotJugglerSdk

open Wire

variable {α : Type}

/-! ## A field appended -/

/-- A message read field by field and one field more. -/
theorem FieldLoop.decode_append {loop : FieldLoop α} {bytes : Bytes} {fields : List Field}
    {out value final : α} {field : Field} {decl : FieldDecl α}
    (hsplit : splitFields Reader.tagOf bytes = some fields)
    (hreads : ∀ field ∈ fields, loop.reads field.tag = false)
    (hsome : (foldFields loop.table fields out).isSome)
    (hdecode : loop.decode bytes out = (true, value))
    (hreadable : field.Readable Reader.tagOf) (hread : loop.reads field.tag = false)
    (hdecl : declared loop.table field.tag = some decl)
    (happly : decl.apply field.payload value = (true, final)) :
    loop.decode (bytes ++ encodeField field) out = (true, final) := by
  obtain ⟨value', hfold⟩ := Option.isSome_iff_exists.mp hsome
  have hsame : (true, value') = (true, value) :=
    (loop.decode_of_fold hsplit hreads hfold).symm.trans hdecode
  obtain rfl := (Prod.mk.inj hsame).2
  have hone : splitFields Reader.tagOf (encodeField field) = some [field] := by
    have hall : ∀ field' ∈ [field], field'.Readable Reader.tagOf := by simpa using hreadable
    simpa using splitFields_encodeFields hall
  have hsplit' : splitFields Reader.tagOf (bytes ++ encodeField field) =
      some (fields ++ [field]) := by
    rw [splitFields_append hsplit, hone]
    rfl
  refine loop.decode_of_fold hsplit' ?_ ?_
  · exact List.forall_mem_append.mpr ⟨hreads, by simpa using hread⟩
  · rw [foldFields_append, hfold, Option.bind_some, foldFields_cons, foldField_applied hdecl happly]
    rfl

/-! ## Canonical wires -/

section Canonical

variable [FloatOps]

/-- A wire that is a sequence of fields, each declared one with a payload its
kind takes. What a serializer writes is one, and so is it with fields repeated,
missing, reordered or unknown. -/
def CanonicalWire (type : BuiltinObjectType) (wire : Bytes) : Prop :=
  ∃ codec fields, objectCodec type = some codec ∧ splitFields Reader.tagOf wire = some fields ∧
    ∀ field ∈ fields, ∀ kind, kindOf codec.message field.number = some kind →
      field.payload.type = kind.wireType → kind.Takes field.payload

/-- The fields of a canonical wire are ones the tables take. -/
theorem CanonicalWire.fold {type : BuiltinObjectType} {codec : ObjectCodec} {wire : Bytes}
    (h : CanonicalWire type wire) (hcodec : objectCodec type = some codec)
    (out : (messageCodec codec.message).Parts) :
    ∃ fields, splitFields Reader.tagOf wire = some fields ∧
      (foldFields (messageCodec codec.message).loop.table fields out).isSome := by
  obtain ⟨codec', fields, hcodec', hsplit, htakes⟩ := h
  obtain rfl := Option.some.inj (hcodec.symm.trans hcodec')
  refine ⟨fields, hsplit, foldFields_isSome_iff.mpr fun field hmem => ?_⟩
  exact (foldField_isSome_iff codec.message field out).mpr (htakes field hmem)

end Canonical

/-! ## The splice law -/

/-- The law for one type, whose loop checks before it reads and declares the
spliced field as bytes. -/
theorem decodes_append_data {table : List (FieldDecl α)} {init : α} {erase : α → BuiltinObject}
    {passes : α → Prop} {wire data : Bytes} {fields : List Field} {number : Nat}
    {set : Bytes → α → α} {decoded object : BuiltinObject}
    (hsplit : splitFields Reader.tagOf wire = some fields)
    (hsome : (foldFields table fields init).isSome)
    (hdecoded : (FieldLoop.lenient table).Decodes init erase passes wire decoded)
    (hnumber : 0 < number ∧ number < 2 ^ 29) (hdata : data.length < 2 ^ 64)
    (hdecl : declared table ⟨number, .lengthDelimited⟩ = some (.bytes number set))
    (hattach : ∀ value, erase value = decoded → erase (set data value) = object)
    (hpasses : ∀ value, erase (set data value) = object → passes (set data value)) :
    (FieldLoop.lenient table).Decodes init erase passes (wire ++ Writer.bytes number data)
      object := by
  obtain ⟨value, hdecode, -, hvalue⟩ := hdecoded
  have hobject := hattach value hvalue
  rw [Writer.bytes_eq]
  refine ⟨set data value, ?_, hpasses value hobject, hobject⟩
  exact FieldLoop.decode_append hsplit (fun _ _ => rfl) hsome hdecode
    (Reader.readable hnumber.1 hnumber.2 hdata) rfl hdecl rfl

theorem spliceFieldNumberV1_mem {objectType : UInt16} {fieldNumber : UInt32}
    (h : spliceFieldNumberV1 objectType = some fieldNumber) :
    (objectType, fieldNumber) ∈ spliceFieldsV1 := by
  unfold spliceFieldNumberV1 at h
  rw [Option.map_eq_some_iff] at h
  obtain ⟨⟨objectType', fieldNumber'⟩, hfind, rfl⟩ := h
  have htype := List.find?_some hfind
  obtain rfl : objectType' = objectType := by simpa using htype
  exact List.mem_of_find?_eq_some hfind

theorem slice_length_lt {payload : Bytes} {offset length : UInt64} :
    (slice payload ⟨offset.toNat, length.toNat⟩).length < 2 ^ 64 := by
  have hlength := length.toNat_lt
  rw [slice, List.length_take]
  exact lt_of_le_of_lt (min_le_left _ _) hlength

section Hosts

variable [FloatOps]

theorem decode_spliced {payload wire : Bytes} {objectType : UInt16} {fieldNumber : UInt32}
    {inputOffset inputLength : UInt64} {object : BuiltinObject} {type : BuiltinObjectType}
    (htype : BuiltinObjectType.ofCode objectType = some type) (hcanonical : CanonicalWire type wire)
    (h : SplicedObject payload objectType wire fieldNumber inputOffset inputLength object) :
    deserializeBuiltinObjectCode objectType (wire ++ Writer.bytes fieldNumber.toNat
      (slice payload ⟨inputOffset.toNat, inputLength.toNat⟩)) = .ok object := by
  obtain ⟨hfield, -, decoded, hdecoded, hattach, hvalid⟩ := h
  have hdata := @slice_length_lt payload inputOffset inputLength
  set data := slice payload ⟨inputOffset.toNat, inputLength.toNat⟩
  have hmem := spliceFieldNumberV1_mem hfield
  simp only [deserializeBuiltinObjectCode, htype] at hdecoded ⊢
  rw [htype, Option.bind_some] at hattach
  simp only [spliceFieldsV1, List.mem_cons, Prod.mk.injEq, List.not_mem_nil, or_false] at hmem
  rcases hmem with ⟨rfl, rfl⟩ | ⟨rfl, rfl⟩ | ⟨rfl, rfl⟩ | ⟨rfl, rfl⟩ | ⟨rfl, rfl⟩ | ⟨rfl, rfl⟩ |
    ⟨rfl, rfl⟩ | ⟨rfl, rfl⟩ | ⟨rfl, rfl⟩ | ⟨rfl, rfl⟩ <;>
    obtain rfl := Option.some.inj htype <;>
    obtain ⟨fields, hsplit, hsome⟩ := hcanonical.fold rfl {}
  case inr.inr.inr.inr.inr.inr.inr.inr.inr =>
    -- the grid map has a check of its own, which the host has made of the attached bytes
    refine deserializeAs_gridMap.mpr (decodes_append_data hsplit hsome
      (deserializeAs_gridMap.mp hdecoded) (by decide) hdata rfl ?_ ?_)
    · rintro value rfl
      exact Option.some.inj hattach
    · rintro value rfl
      exact validateLayout_of_true hvalid _
  all_goals
    refine deserializeAs_with.mpr (decodes_append_data hsplit hsome (deserializeAs_with.mp hdecoded)
      (by decide) hdata rfl ?_ fun _ _ => trivial)
    rintro value rfl
    exact Option.some.inj hattach

/-- **The splice law.** What a host accepts for a spliced output is the object
decoded from the wire with the bytes appended as a field. The two hosts accept
the same outputs and produce equal objects where the type is the expected one,
whatever the wire and the range are. -/
theorem splice_law (payload wire : Bytes) (objectType : UInt16) (splice : ObjectSpliceV1) :
    (∀ type, BuiltinObjectType.ofCode objectType = some type → CanonicalWire type wire →
      ∀ object,
        ((∃ expected out,
            ownObjectOutput ⟨objectType, some splice, wire⟩ payload expected = .ok out ∧
              out.object = object) ∨
          ∃ expected hasTimestamp timestampNs record,
            parseObjectFunctional payload expected
              [.acceptObjectSpliced hasTimestamp timestampNs objectType (.bytes wire)
                splice.fieldNumber splice.inputOffset splice.inputLength] none = .ok record ∧
              record.object = object) →
        deserializeBuiltinObjectCode objectType (wire ++ Writer.bytes splice.fieldNumber.toNat
          (slice payload ⟨splice.inputOffset.toNat, splice.inputLength.toNat⟩)) = .ok object) ∧
    ∀ hasTimestamp timestampNs object,
      (∃ out, ownObjectOutput ⟨objectType, some splice, wire⟩ payload objectType = .ok out ∧
          out.object = object) ↔
        ∃ record, parseObjectFunctional payload (some objectType)
          [.acceptObjectSpliced hasTimestamp timestampNs objectType (.bytes wire)
            splice.fieldNumber splice.inputOffset splice.inputLength] none = .ok record ∧
          record.object = object := by
  have hview : (BytesView.bytes wire).read = some wire := rfl
  refine ⟨?_, ?_⟩
  · -- by either way the object is one that the spliced wire decodes to
    rintro type htype hcanonical object (⟨expected, hown⟩ | ⟨expected, _, _, record, hparse, rfl⟩)
    · exact decode_spliced htype hcanonical (ownObjectOutput_spliced.mp hown).2
    · exact decode_spliced htype hcanonical
        ((acceptedObject_spliced hview).mp (parseObjectFunctional_one.mp hparse).1).2
  · intro hasTimestamp timestampNs object
    rw [ownObjectOutput_spliced]
    have hexpected : validateExpectedObjectType (some objectType) objectType = true := by
      simp [validateExpectedObjectType]
    constructor
    · rintro ⟨-, hspliced⟩
      exact ⟨⟨_, object⟩, parseObjectFunctional_one.mpr
        ⟨(acceptedObject_spliced hview).mpr ⟨hexpected, hspliced⟩, rfl⟩, rfl⟩
    · rintro ⟨record, hparse, rfl⟩
      exact ⟨rfl, ((acceptedObject_spliced hview).mp (parseObjectFunctional_one.mp hparse).1).2⟩

end Hosts

/-- The law on an image whose wire has a width and no data. -/
theorem splice_law_image :
    @deserializeBuiltinObjectCode binary64 1
        ([0x10, 2] ++ Writer.bytes 7 (slice [1, 2, 3] ⟨1, 2⟩)) =
      .ok (.image { width := 2, data := [2, 3] }) := by
  have hcanonical : @CanonicalWire binary64 .image [0x10, 2] := by
    refine ⟨_, [⟨2, .varint 2⟩], rfl, rfl, ?_⟩
    intro field hmem kind hkind _
    rw [List.mem_singleton.mp hmem] at hkind ⊢
    obtain rfl := Option.some.inj hkind
    exact trivial
  exact (@splice_law binary64 [1, 2, 3] [0x10, 2] 1 ⟨7, 1, 2⟩).1 .image rfl hcanonical _
    (.inl ⟨1, _, rfl, rfl⟩)

/-! ## Accepted grid maps -/

/-- A wire that decodes to a grid map with cells, a layout with nothing wrong in
it, and no data: `deserializeGridMap` leaves the length of the data to a later
check. -/
def HeaderOnlyCells (wire : Bytes) : Prop :=
  ∃ grid, gridMapLoop.decode wire {} = (true, grid) ∧ validateLayout grid false = .ok () ∧
    grid.data = [] ∧ 0 < grid.columnCount ∧ 0 < grid.rowCount

/-- Without a splice there is no later check. -/
def ObjectOutputV1.Unchecked (output : ObjectOutputV1 Bytes) : Prop :=
  output.splice = none ∧ output.objectType = BuiltinObjectType.gridMap.code ∧
    HeaderOnlyCells output.wire

def SinkCall.objectType : SinkCall → UInt16
  | .acceptObject _ _ objectType _ => objectType
  | .acceptObjectSpliced _ _ objectType _ _ _ _ => objectType

def SinkCall.Unchecked : SinkCall → Prop
  | .acceptObject _ _ objectType view =>
    objectType = BuiltinObjectType.gridMap.code ∧
      ∃ wire, view.read = some wire ∧ HeaderOnlyCells wire
  | .acceptObjectSpliced .. => False

/-- A grid with cells and no data does not validate. -/
theorem not_validateGridMap_of_empty {grid : GridMap} (hempty : grid.data = [])
    (hcells : 0 < grid.columnCount ∧ 0 < grid.rowCount) : validateGridMap grid ≠ .ok () := by
  intro hvalid
  obtain ⟨hheader, hdata⟩ := (validateLayout_true_iff grid).mp hvalid
  obtain ⟨hstride, hrow⟩ := strides_of_validateLayout hheader hcells
  have hfits := hdata hcells
  rw [hempty, List.length_nil, Nat.le_zero, Nat.mul_eq_zero] at hfits
  rw [UInt32.lt_iff_toNat_lt, UInt32.lt_iff_toNat_lt, UInt32.toNat_zero] at hcells
  -- the row stride covers at least one cell, and a cell at least one byte
  have hcolumn : 0 < grid.columnCount.toNat * grid.cellStride.toNat :=
    Nat.mul_pos hcells.1 hstride
  omega

theorem gridMap_valid_iff {wire : Bytes} :
    (∀ grid, deserializeAs {} .gridMap deserializeGridMap wire = .ok (.gridMap grid) →
      validateGridMap grid = .ok ()) ↔ ¬HeaderOnlyCells wire := by
  constructor
  · rintro hvalid ⟨grid, hdecode, hheader, hempty, hcells⟩
    have hpasses : grid.Passes := by
      unfold GridMap.Passes
      rw [hempty]
      exact hheader
    exact not_validateGridMap_of_empty hempty hcells
      (hvalid grid (deserializeAs_gridMap.mpr ⟨grid, hdecode, hpasses, rfl⟩))
  · intro hnot grid hdecoded
    obtain ⟨grid', hdecode, hpasses, herase⟩ := deserializeAs_gridMap.mp hdecoded
    obtain rfl := BuiltinObject.gridMap.inj herase
    unfold GridMap.Passes at hpasses
    by_cases hempty : grid'.data = []
    · rw [hempty] at hpasses
      refine (validateLayout_true_iff grid').mpr ⟨hpasses, fun hcells => ?_⟩
      exact absurd ⟨grid', hdecode, hpasses, hempty, hcells⟩ hnot
    · have hcheck : (!grid'.data.isEmpty) = true := by simpa using hempty
      rw [hcheck] at hpasses
      exact hpasses

section Hosts

variable [FloatOps]

theorem deserializeBuiltinObject_typeOf {type : BuiltinObjectType} {data : Bytes}
    {object : BuiltinObject} (h : deserializeBuiltinObject type data = .ok object) :
    typeOf object = type := by
  obtain ⟨codec, hcodec, value, -, -, rfl⟩ := deserializeBuiltinObject_ok.mp h
  cases type
  case none => exact absurd hcodec (by simp [objectCodec])
  all_goals
    obtain rfl := Option.some.inj hcodec
    rfl

omit [FloatOps] in
theorem BuiltinObjectType.ofCode_eq_some {code : UInt16} {type : BuiltinObjectType}
    (h : BuiltinObjectType.ofCode code = some type) : code = type.code := by
  unfold BuiltinObjectType.ofCode at h
  rw [← UInt16.toNat_inj]
  split at h
  case h_20 => exact absurd h (by simp)
  all_goals
    obtain rfl := Option.some.inj h
    assumption

/-- Only a grid map's decoder makes a grid map. -/
theorem deserializeBuiltinObjectCode_gridMap {objectType : UInt16} {wire : Bytes} {grid : GridMap} :
    deserializeBuiltinObjectCode objectType wire = .ok (.gridMap grid) ↔
      objectType = BuiltinObjectType.gridMap.code ∧
        deserializeAs {} .gridMap deserializeGridMap wire = .ok (.gridMap grid) := by
  constructor
  · intro h
    unfold deserializeBuiltinObjectCode at h
    split at h
    · next type htype =>
      obtain rfl : BuiltinObjectType.gridMap = type := deserializeBuiltinObject_typeOf h
      exact ⟨BuiltinObjectType.ofCode_eq_some htype, h⟩
    · exact absurd h (by simp)
  · rintro ⟨rfl, h⟩
    exact h

/-- Among the objects decoded for one output, a grid map validates unless the
wire is header-only with cells. -/
theorem decoded_gridMap_valid_iff {objectType : UInt16} {wire : Bytes} :
    (∀ grid, deserializeBuiltinObjectCode objectType wire = .ok (.gridMap grid) →
      validateGridMap grid = .ok ()) ↔
      ¬(objectType = BuiltinObjectType.gridMap.code ∧ HeaderOnlyCells wire) := by
  by_cases htype : objectType = BuiltinObjectType.gridMap.code
  · simp only [deserializeBuiltinObjectCode_gridMap, htype, true_and]
    exact gridMap_valid_iff
  · simp [deserializeBuiltinObjectCode_gridMap, htype]

/-- The accepted object of one output is a valid grid map if it is one, exactly
if the output is not unchecked. -/
theorem ownObjectOutput_gridMap_valid_iff {payload : Bytes} {object : ObjectOutputV1 Bytes}
    {expectedType : UInt16} :
    (∀ out grid, ownObjectOutput object payload expectedType = .ok out → out.object = .gridMap grid →
      validateGridMap grid = .ok ()) ↔ ¬(object.objectType = expectedType ∧ object.Unchecked) := by
  obtain ⟨objectType, splice, wire⟩ := object
  cases splice with
  | some splice =>
    refine ⟨fun _ hunchecked => by simp [ObjectOutputV1.Unchecked] at hunchecked, ?_⟩
    intro _ out grid hown hgrid
    obtain ⟨-, -, -, -, -, -, hvalid⟩ := ownObjectOutput_spliced.mp ⟨out, hown, hgrid⟩
    exact hvalid
  | none =>
    have hown : (∀ out grid, ownObjectOutput ⟨objectType, none, wire⟩ payload expectedType =
        .ok out →
          out.object = .gridMap grid → validateGridMap grid = .ok ()) ↔
        (objectType = expectedType → ∀ grid,
          deserializeBuiltinObjectCode objectType wire = .ok (.gridMap grid) →
            validateGridMap grid = .ok ()) := by
      constructor
      · intro h htype grid hgrid
        obtain ⟨out, hout, hobject⟩ := ownObjectOutput_unspliced.mpr ⟨htype, hgrid⟩
        exact h out grid hout hobject
      · intro h out grid hout hobject
        obtain ⟨htype, hgrid⟩ := ownObjectOutput_unspliced.mp ⟨out, hout, hobject⟩
        exact h htype grid hgrid
    rw [hown, decoded_gridMap_valid_iff]
    simp only [ObjectOutputV1.Unchecked, true_and]
    tauto

theorem acceptedObject_gridMap_valid_iff {payload : Bytes} {expected : Option UInt16}
    {call : SinkCall} :
    (∀ grid, acceptedObject payload expected call = .ok (.gridMap grid) →
      validateGridMap grid = .ok ()) ↔
      ¬(validateExpectedObjectType expected call.objectType = true ∧ call.Unchecked) := by
  cases call with
  | acceptObjectSpliced hasTimestamp timestampNs objectType view fieldNumber inputOffset
    inputLength =>
    refine ⟨fun _ hunchecked => hunchecked.2, ?_⟩
    intro _ grid haccepted
    cases hview : view.read with
    | none =>
      unfold acceptedObject at haccepted
      dsimp only at haccepted
      rw [hview] at haccepted
      split at haccepted
      · exact absurd haccepted (by simp)
      · split at haccepted
        · exact absurd haccepted (by simp)
        · split at haccepted <;> exact absurd haccepted (by simp)
    | some wire =>
      obtain ⟨-, -, -, -, -, -, hvalid⟩ := (acceptedObject_spliced hview).mp haccepted
      exact hvalid
  | acceptObject hasTimestamp timestampNs objectType view =>
    cases hview : view.read with
    | none => simp [acceptedObject, hview, SinkCall.Unchecked]
    | some wire =>
      simp only [acceptedObject_unspliced hview, SinkCall.objectType, SinkCall.Unchecked, hview,
        Option.some.injEq, exists_eq_left']
      have hiff := @decoded_gridMap_valid_iff _ objectType wire
      by_cases htype : validateExpectedObjectType expected objectType = true
      · simp only [htype, true_and]
        exact hiff
      · simp [htype]

/-- **Accepted grid maps.** A grid map that either host accepts validates against
its own data exactly if its output is not an unspliced header with cells and no
data; in a functional parse of any callbacks none of which is one, the recorded
grid map validates. -/
theorem accepted_gridMap_valid_iff (payload : Bytes) :
    (∀ (object : ObjectOutputV1 Bytes) (expectedType : UInt16),
      (∀ out grid, ownObjectOutput object payload expectedType = .ok out →
        out.object = .gridMap grid → validateGridMap grid = .ok ()) ↔
        ¬(object.objectType = expectedType ∧ object.Unchecked)) ∧
    (∀ (call : SinkCall) (expected : Option UInt16),
      (∀ record grid, parseObjectFunctional payload expected [call] none = .ok record →
        record.object = .gridMap grid → validateGridMap grid = .ok ()) ↔
        ¬(validateExpectedObjectType expected call.objectType = true ∧ call.Unchecked)) ∧
    ∀ (calls : List SinkCall) (expected : Option UInt16) (failure : Option String) record grid,
      (∀ call ∈ calls, ¬call.Unchecked) →
        parseObjectFunctional payload expected calls failure = .ok record →
          record.object = .gridMap grid → validateGridMap grid = .ok () := by
  refine ⟨fun object expectedType => ownObjectOutput_gridMap_valid_iff, ?_, ?_⟩
  · intro call expected
    rw [← @acceptedObject_gridMap_valid_iff _ payload]
    constructor
    · intro h grid haccepted
      exact h ⟨call.timestamp, .gridMap grid⟩ grid
        (parseObjectFunctional_one.mpr ⟨haccepted, rfl⟩) rfl
    · intro h record grid hparse hgrid
      have haccepted := (parseObjectFunctional_one.mp hparse).1
      rw [hgrid] at haccepted
      exact h grid haccepted
  · intro calls expected failure record grid hchecked hparse hgrid
    obtain ⟨call, hmem, haccepted⟩ := parseObjectFunctional_accepted hparse
    rw [hgrid] at haccepted
    exact acceptedObject_gridMap_valid_iff.mpr (fun h => hchecked call hmem h.2) grid haccepted

end Hosts

/-- One cell, strides of one byte, no data: both hosts accept it, and it does not
validate. -/
theorem headerOnly_gridMap_accepted :
    ∃ out grid record,
      @ownObjectOutput binary64 ⟨20, none, [0x28, 1, 0x30, 1, 0x38, 1, 0x40, 1]⟩ [] 20 = .ok out ∧
        out.object = .gridMap grid ∧
        @parseObjectFunctional binary64 [] (some 20)
          [.acceptObject false 0 20 (.bytes [0x28, 1, 0x30, 1, 0x38, 1, 0x40, 1])] none =
            .ok record ∧
        record.object = .gridMap grid ∧
        validateGridMap grid = .error "GridMap: data shorter than row_count * row_stride" :=
  ⟨_, _, _, rfl, rfl, rfl, rfl, rfl⟩

end PlotJugglerSdk
