import PlotJugglerSdk.Json.Value
import PlotJugglerSdk.Scan.Rounds
import PlotJugglerSdk.Wire.Leb128

/-!
# The manifest section of a wasm module

A parser module carries its manifest in a custom section of its own. The scanner goes
over a module section by section and notes the last manifest section and how many there
were; the writer appends one to a module that has none.

* `SectionsAt`, `Module` — well-formed modules, as places in their bytes
* `scanManifestSections_iff` — the scanner takes these and no others
* `manifest_section`         — what is appended is read back
-/

namespace PlotJugglerSdk.ManifestSection

open Wire Json Scan

/-! ## The code -/

def kWasmPreamble : Bytes := [0x00, 0x61, 0x73, 0x6D, 0x01, 0x00, 0x00, 0x00]

def kManifestSectionName : Bytes := text "pj_parser_module_manifest"

/-- A view of some bytes. -/
structure Span where
  offset : Nat := 0
  size : Nat := 0
  deriving DecidableEq

def Span.of (span : Span) (bytes : Bytes) : Bytes := (bytes.drop span.offset).take span.size

structure ManifestScan where
  count : Nat := 0
  bytes : Span := {}

/-- The loop of `readVarUint32` with `left` of its five bytes to go. -/
def readVarUint32From (bytes : Bytes) : (left position : Nat) → (value : UInt32) →
    Except ScanError (UInt32 × Nat)
  | 0, _, _ => fail "wasm varuint32 exceeds five bytes"
  | left + 1, position, value =>
    let index := 4 - left
    match bytes[position]? with
    | none => fail "truncated wasm varuint32"
    | some byte =>
      if index = 4 ∧ byte &&& 0xF0 ≠ 0 then fail "wasm varuint32 overflows uint32"
      else
        let value := value ||| (byte &&& 0x7F).toUInt32 <<< UInt32.ofNat (index * 7)
        if byte &&& 0x80 = 0 then .ok (value, position + 1)
        else readVarUint32From bytes left (position + 1) value

def readVarUint32 (bytes : Bytes) (position : Nat) : Except ScanError (UInt32 × Nat) :=
  readVarUint32From bytes 5 position 0

def appendVarUint32 (value : Nat) : Bytes :=
  if value / 128 ≠ 0 then UInt8.ofNat (value % 128 + 128) :: appendVarUint32 (value / 128)
  else [UInt8.ofNat (value % 128)]
termination_by value
decreasing_by omega

def varUint32Size (value : Nat) : Nat :=
  if 128 ≤ value then varUint32Size (value / 128) + 1 else 1
termination_by value
decreasing_by omega

/-- A custom section between `position` and `sectionEnd`, added to the scan. -/
def scanCustomSection (wasm : Bytes) (position sectionEnd : Nat) (result : ManifestScan) :
    Except ScanError ManifestScan :=
  match readVarUint32 (wasm.take sectionEnd) position with
  | .error (.status error) => fail ("malformed wasm custom-section name: " ++ error)
  | .error .unfinished => .error .unfinished
  | .ok (nameSize, customPosition) =>
    if sectionEnd - customPosition < nameSize.toNat then
      fail "wasm custom-section name exceeds its section"
    else if (Span.mk customPosition nameSize.toNat).of wasm = kManifestSectionName then
      let manifestBegin := customPosition + nameSize.toNat
      .ok { count := result.count + 1, bytes := ⟨manifestBegin, sectionEnd - manifestBegin⟩ }
    else .ok result

/-- The loop of `scanManifestSections`. -/
def scanFrom (wasm : Bytes) : (rounds position : Nat) → ManifestScan →
    Except ScanError ManifestScan
  -- out of rounds; a section takes a byte at least
  | 0, position, result => if position < wasm.length then .error .unfinished else .ok result
  | rounds + 1, position, result =>
    match wasm[position]? with
    | none => .ok result
    | some sectionId => do
      let (sectionSize, position) ← readVarUint32 wasm (position + 1)
      if wasm.length - position < sectionSize.toNat then
        fail "wasm section exceeds the remaining module bytes"
      else
        let sectionEnd := position + sectionSize.toNat
        let result ←
          -- only custom sections have names
          if sectionId = 0 then scanCustomSection wasm position sectionEnd result else .ok result
        scanFrom wasm rounds sectionEnd result

def scanManifestSections (wasm : Bytes) : Except ScanError ManifestScan :=
  if wasm.length < kWasmPreamble.length ∨ wasm.take kWasmPreamble.length ≠ kWasmPreamble then
    fail "invalid or truncated wasm preamble"
  else scanFrom wasm wasm.length kWasmPreamble.length {}

/-- The largest `size_t`. -/
def kSizeMax : Nat := 2 ^ 64 - 1

def appendManifestSection (wasm manifest : Bytes) : Except ScanError Bytes := do
  let scanned ← scanManifestSections wasm
  if scanned.count ≠ 0 then fail "wasm already contains a parser-module manifest section"
  else if 2 ^ 32 - 1 < manifest.length then
    fail "manifest exceeds the wasm custom-section size range"
  else
    -- the payload of the section: the length of the name, the name and the manifest
    let nameSize := kManifestSectionName.length
    let payloadSize := varUint32Size nameSize + nameSize + manifest.length
    if 2 ^ 32 - 1 < payloadSize ∨ kSizeMax < payloadSize then
      fail "embedded wasm manifest size overflows the output range"
    else
      let sectionHeaderSize := 1 + varUint32Size payloadSize
      if kSizeMax - sectionHeaderSize < wasm.length ∨
          kSizeMax - wasm.length - sectionHeaderSize < payloadSize then
        fail "embedded wasm manifest size overflows the output range"
      else
        -- 0 is the id of a custom section
        .ok (wasm ++ 0 :: appendVarUint32 payloadSize ++ appendVarUint32 nameSize ++
          kManifestSectionName ++ manifest)

def readManifestSection (wasm : Bytes) : Except ScanError Span := do
  let scanned ← scanManifestSections wasm
  if scanned.count = 0 then fail "wasm has no parser-module manifest section"
  else if scanned.count ≠ 1 then fail "wasm has multiple parser-module manifest sections"
  else .ok scanned.bytes

/-! ## Sizes -/

theorem byte_fifth (b : UInt8) : b &&& 0xF0 = 0 ↔ b.toNat < 2 ^ 4 := by
  have h : ∀ b : BitVec 8, b &&& 0xF0 = 0 ↔ b.toNat < 2 ^ 4 := by decide
  rw [← UInt8.toBitVec_inj]
  exact h b.toBitVec

/-- The payload of byte `index` is put above what was read so far. -/
theorem or_group {value : UInt32} {byte : UInt8} {index : Nat} (hindex : index ≤ 4)
    (hvalue : value.toNat < 2 ^ (7 * index)) (hlast : index = 4 → byte.toNat < 2 ^ 4) :
    (value ||| (byte &&& 0x7F).toUInt32 <<< UInt32.ofNat (index * 7)).toNat =
      value.toNat + byte.toNat % 128 * 2 ^ (7 * index) := by
  have hbyte : byte.toNat % 128 < 128 := Nat.mod_lt _ (by decide)
  have hsmall : byte.toNat % 128 * 2 ^ (7 * index) < 2 ^ 32 := by
    by_cases h4 : index = 4
    · have hlt : byte.toNat < 2 ^ 4 := hlast h4
      subst h4
      omega
    · have hle : byte.toNat % 128 * 2 ^ (7 * index) ≤ 127 * 2 ^ (7 * index) :=
        Nat.mul_le_mul_right _ (by omega)
      have hpow : 2 ^ (7 * index) ≤ 2 ^ 21 := Nat.pow_le_pow_right (by decide) (by omega)
      omega
  have hshift : (UInt32.ofNat (index * 7)).toNat % 32 = 7 * index := by
    rw [UInt32.toNat_ofNat_of_lt' (by rw [UInt32.size]; omega)]
    omega
  rw [UInt32.toNat_or, UInt32.toNat_shiftLeft, hshift, UInt8.toNat_toUInt32, byte_payload,
    Nat.shiftLeft_eq, Nat.mod_eq_of_lt hsmall, ← Nat.shiftLeft_eq, lor_group _ hvalue,
    Nat.shiftLeft_eq]

/-- The loop, with `groups` bytes after this one, reads what the format's number says. -/
theorem readVarUint32From_eq (bytes : Bytes) {groups index position : Nat} {value : UInt32}
    (hgroups : groups + index = 4) (hvalue : value.toNat < 2 ^ (7 * index)) :
    (readVarUint32From bytes (groups + 1) position value).toOption =
      (takeLeb 4 groups (bytes.drop position)).map fun taken =>
        (UInt32.ofNat (value.toNat + taken.1 * 2 ^ (7 * index)), bytes.length - taken.2.length) := by
  induction groups generalizing index position value with
  | zero =>
    obtain rfl : index = 4 := by omega
    rw [readVarUint32From]
    cases hget : bytes[position]? with
    | none =>
      rw [List.drop_eq_nil_of_le (List.getElem?_eq_none_iff.mp hget)]
      rfl
    | some byte =>
      obtain ⟨hlt, -⟩ := List.getElem?_eq_some_iff.mp hget
      rw [drop_of_getElem? hget, takeLeb]
      show (if 4 = 4 ∧ byte &&& 0xF0 ≠ 0 then _ else _ : Except ScanError _).toOption = _
      -- the fifth byte may only carry the bits 28 to 31, and so may not go on
      by_cases hfifth : byte.toNat < 2 ^ 4
      · have hzero : byte &&& 0xF0 = 0 := (byte_fifth byte).mpr hfifth
        have hor := or_group (by decide) hvalue fun _ => hfifth
        rw [if_neg (fun h => h.2 hzero), if_pos hfifth]
        show (if byte &&& 0x80 = 0 then _ else _ : Except ScanError _).toOption = _
        rw [if_pos ((byte_last byte).mpr (by omega))]
        rw [Nat.mod_eq_of_lt (by omega)] at hor
        show some (_, position + 1) = some (UInt32.ofNat (value.toNat + byte.toNat * _), _)
        rw [← hor, UInt32.ofNat_toNat, List.length_drop]
        congr 2
        omega
      · have hnonzero : byte &&& 0xF0 ≠ 0 := fun h => hfifth ((byte_fifth byte).mp h)
        rw [if_pos ⟨rfl, hnonzero⟩, if_neg hfifth]
        rfl
  | succ groups ih =>
    have hindex : 4 - (groups + 1) = index := by omega
    rw [readVarUint32From, hindex]
    cases hget : bytes[position]? with
    | none =>
      rw [List.drop_eq_nil_of_le (List.getElem?_eq_none_iff.mp hget)]
      rfl
    | some byte =>
      obtain ⟨hlt, -⟩ := List.getElem?_eq_some_iff.mp hget
      have hor := @or_group value byte index (by omega) hvalue fun h4 => by omega
      rw [drop_of_getElem? hget, takeLeb]
      show (if index = 4 ∧ byte &&& 0xF0 ≠ 0 then _ else _ : Except ScanError _).toOption = _
      rw [if_neg fun h => by omega]
      show (if byte &&& 0x80 = 0 then _ else _ : Except ScanError _).toOption = _
      -- before it a byte ends the number or the next group goes on above it
      by_cases hend : byte.toNat < 128
      · rw [if_pos ((byte_last byte).mpr hend), if_pos hend]
        rw [Nat.mod_eq_of_lt hend] at hor
        show some (_, position + 1) = some (UInt32.ofNat (value.toNat + byte.toNat * _), _)
        rw [← hor, UInt32.ofNat_toNat, List.length_drop]
        congr 2
        omega
      · have hpow : 2 ^ (7 * (index + 1)) = 128 * 2 ^ (7 * index) := two_pow_group index 0
        have hnext := add_group_lt byte.toNat hvalue
        rw [if_neg (fun h => hend ((byte_last byte).mp h)), if_neg hend,
          @ih (index + 1) (position + 1) _ (by omega) (by rw [hor]; exact hnext), hor,
            Option.map_map]
        congr 1
        funext taken
        show (UInt32.ofNat _, _) = (UInt32.ofNat _, _)
        rw [hpow]
        congr 2
        ring

/-- A `varuint32` stands from `start` up to `stop`. -/
abbrev VarUint32At (bytes : Bytes) (start value stop : Nat) : Prop :=
  LebAt 4 4 bytes start value stop

theorem readVarUint32_iff {bytes : Bytes} {position next : Nat} {value : UInt32} :
    readVarUint32 bytes position = .ok (value, next) ↔
      VarUint32At bytes position value.toNat next := by
  have hread := @readVarUint32From_eq bytes 4 0 position 0 rfl (by decide)
  rw [← toOption_eq_some, readVarUint32, hread, Option.map_eq_some_iff]
  constructor
  · rintro ⟨⟨taken, rest⟩, htake, heq⟩
    obtain ⟨rfl, rfl⟩ := Prod.mk.inj heq
    have htaken : taken < 2 ^ 32 := takeLeb_lt htake
    have hvalue : (UInt32.ofNat ((0 : UInt32).toNat + taken * 2 ^ (7 * 0))).toNat = taken := by
      rw [show (0 : UInt32).toNat + taken * 2 ^ (7 * 0) = taken by simp,
        UInt32.toNat_ofNat_of_lt' htaken]
    rw [hvalue]
    exact lebAt_of_take htake
  · intro h
    refine ⟨(value.toNat, bytes.drop next), h.read, ?_⟩
    show (UInt32.ofNat ((0 : UInt32).toNat + value.toNat * 2 ^ (7 * 0)),
      bytes.length - (bytes.drop next).length) = _
    rw [show (0 : UInt32).toNat + value.toNat * 2 ^ (7 * 0) = value.toNat by simp,
      UInt32.ofNat_toNat, h.length_eq]

theorem readVarUint32_ok {bytes : Bytes} {position value next : Nat}
    (h : VarUint32At bytes position value next) :
    readVarUint32 bytes position = .ok (UInt32.ofNat value, next) := by
  have hlt : value < 2 ^ 32 := takeLeb_lt h.read
  rw [readVarUint32_iff, UInt32.toNat_ofNat_of_lt' hlt]
  exact h

theorem readVarUint32_finishes (bytes : Bytes) (position : Nat) :
    Finishes (readVarUint32 bytes position) := by
  have hfrom : ∀ left position value, Finishes (readVarUint32From bytes left position value) := by
    intro left
    induction left with
    | zero => exact fun _ _ => finishes_fail _
    | succ left ih =>
      intro position value
      rw [readVarUint32From]
      cases bytes[position]? with
      | none => exact finishes_fail _
      | some byte =>
        show Finishes (if _ then _ else if _ then _ else _)
        split
        · exact finishes_fail _
        · split
          · exact finishes_ok _
          · exact ih _ _
  exact hfrom 5 position 0

/-- The writer's spelling is the shortest one. -/
theorem appendVarUint32_eq {groups value : Nat} (h : value < 2 ^ (7 * groups + 4)) :
    appendVarUint32 value = varintGroups groups value := by
  induction groups generalizing value with
  | zero =>
    rw [appendVarUint32, if_neg (by omega), Nat.mod_eq_of_lt (by omega)]
    rfl
  | succ groups ih =>
    have hpow := two_pow_group groups 4
    rw [appendVarUint32, varintGroups]
    by_cases hsmall : value < 128
    · rw [if_neg (by omega), if_pos hsmall, Nat.mod_eq_of_lt hsmall]
    · rw [if_pos (by omega), if_neg hsmall, ih (by omega)]

theorem appendVarUint32_length (value : Nat) :
    (appendVarUint32 value).length = varUint32Size value := by
  induction value using Nat.strongRecOn with
  | _ value ih =>
    rw [appendVarUint32, varUint32Size]
    by_cases hlarge : 128 ≤ value
    · rw [if_pos (by omega), if_pos hlarge, List.length_cons, ih (value / 128) (by omega)]
    · rw [if_neg (by omega), if_neg hlarge]
      rfl

/-- What the writer appends stands there, whatever follows. -/
theorem varUint32At_append {value : Nat} (h : value < 2 ^ 32) (front later : Bytes) :
    VarUint32At (front ++ appendVarUint32 value ++ later) front.length value
      (front.length + varUint32Size value) := by
  have hread : takeLeb 4 4 (appendVarUint32 value ++ later) = some (value, later) := by
    have heq : appendVarUint32 value = varintGroups 4 value := appendVarUint32_eq h
    rw [heq]
    exact takeLeb_varintGroups (by decide) h later
  have hdrop : (front ++ appendVarUint32 value ++ later).drop front.length =
      appendVarUint32 value ++ later := by
    rw [List.append_assoc, List.drop_left]
  have hat : VarUint32At (front ++ appendVarUint32 value ++ later) front.length value
      ((front ++ appendVarUint32 value ++ later).length - later.length) := by
    refine lebAt_of_take ?_
    rw [hdrop]
    exact hread
  have hlength : (front ++ appendVarUint32 value ++ later).length - later.length =
      front.length + varUint32Size value := by
    rw [List.length_append, List.length_append, appendVarUint32_length]
    omega
  rwa [hlength] at hat

/-! ## Well-formed modules -/

structure CustomSection where
  name : Span
  payload : Span
  deriving DecidableEq

/-- Sections one after the other, each inside the module and each custom one with a name
inside the section. The custom ones are listed. -/
inductive SectionsAt (wasm : Bytes) : (start : Nat) → List CustomSection → (stop : Nat) → Prop where
  | nil {start : Nat} : SectionsAt wasm start [] start
  | other {start size content stop : Nat} {id : UInt8} {sections : List CustomSection}
      (hid : wasm[start]? = some id) (hother : id ≠ 0)
      (hsize : VarUint32At wasm (start + 1) size content) (hinside : content + size ≤ wasm.length)
      (hsections : SectionsAt wasm (content + size) sections stop) :
    SectionsAt wasm start sections stop
  | custom {start size content nameSize name stop : Nat} {sections : List CustomSection}
      (hid : wasm[start]? = some 0) (hsize : VarUint32At wasm (start + 1) size content)
      (hinside : content + size ≤ wasm.length) (hname : VarUint32At wasm content nameSize name)
      (hfits : name + nameSize ≤ content + size)
      (hsections : SectionsAt wasm (content + size) sections stop) :
    SectionsAt wasm start
      (⟨⟨name, nameSize⟩, ⟨name + nameSize, content + size - (name + nameSize)⟩⟩ :: sections) stop

/-- A wasm preamble and sections up to the end. -/
structure Module (wasm : Bytes) (sections : List CustomSection) : Prop where
  preamble : wasm.take kWasmPreamble.length = kWasmPreamble
  sections : SectionsAt wasm kWasmPreamble.length sections wasm.length

/-- The payloads of the manifest sections. -/
def manifests (wasm : Bytes) (sections : List CustomSection) : List Span :=
  (sections.filter fun custom => custom.name.of wasm = kManifestSectionName).map
    CustomSection.payload

/-- A scan that came upon some more manifests. -/
def noted (result : ManifestScan) (spans : List Span) : ManifestScan :=
  spans.foldl (fun result span => { count := result.count + 1, bytes := span }) result

theorem manifests_cons (wasm : Bytes) (custom : CustomSection) (sections : List CustomSection) :
    manifests wasm (custom :: sections) =
      if custom.name.of wasm = kManifestSectionName then
        custom.payload :: manifests wasm sections
      else manifests wasm sections := by
  unfold manifests
  by_cases hname : custom.name.of wasm = kManifestSectionName
  · rw [List.filter_cons_of_pos (by simpa using hname), if_pos hname, List.map_cons]
  · rw [List.filter_cons_of_neg (by simpa using hname), if_neg hname]

theorem noted_count (result : ManifestScan) (spans : List Span) :
    (noted result spans).count = result.count + spans.length := by
  induction spans generalizing result with
  | nil => rfl
  | cons span spans ih =>
    show (noted { count := result.count + 1, bytes := span } spans).count = _
    rw [ih, List.length_cons]
    show result.count + 1 + spans.length = _
    omega

theorem SectionsAt.le {wasm : Bytes} {start stop : Nat} {sections : List CustomSection}
    (h : SectionsAt wasm start sections stop) : start ≤ stop := by
  induction h with
  | nil => exact le_rfl
  | other hid hother hsize hinside hsections ih =>
    have hlt := hsize.lt
    omega
  | custom hid hsize hinside hname hfits hsections ih =>
    have hlt := hsize.lt
    omega

/-! ## The scan takes well-formed modules -/

section Scanning

variable {wasm : Bytes}

theorem scanCustomSection_sound {position sectionEnd : Nat} {result final : ManifestScan}
    (hend : sectionEnd ≤ wasm.length)
    (h : scanCustomSection wasm position sectionEnd result = .ok final) :
    ∃ nameSize name, VarUint32At wasm position nameSize name ∧ name + nameSize ≤ sectionEnd ∧
      final = noted result
        (manifests wasm [⟨⟨name, nameSize⟩, ⟨name + nameSize, sectionEnd - (name + nameSize)⟩⟩]) := by
  unfold scanCustomSection at h
  split at h
  · cases h
  · cases h
  · rename_i nameSize name hread
    obtain ⟨hname, hinside⟩ := (lebAt_take hend).mp (readVarUint32_iff.mp hread)
    split at h
    · cases h
    · rename_i hfits
      refine ⟨nameSize.toNat, name, hname, by omega, ?_⟩
      rw [manifests_cons]
      split at h
      · rename_i hmanifest
        rw [if_pos hmanifest, ← Except.ok.inj h]
        rfl
      · rename_i hmanifest
        rw [if_neg hmanifest, ← Except.ok.inj h]
        rfl

theorem scanCustomSection_complete {position sectionEnd nameSize name : Nat}
    (hend : sectionEnd ≤ wasm.length) (hname : VarUint32At wasm position nameSize name)
    (hfits : name + nameSize ≤ sectionEnd) (result : ManifestScan) :
    scanCustomSection wasm position sectionEnd result = .ok (noted result
      (manifests wasm
        [⟨⟨name, nameSize⟩, ⟨name + nameSize, sectionEnd - (name + nameSize)⟩⟩])) := by
  have hlt : nameSize < 2 ^ 32 := takeLeb_lt hname.read
  have hread : readVarUint32 (wasm.take sectionEnd) position = .ok (UInt32.ofNat nameSize, name) :=
    readVarUint32_ok ((lebAt_take hend).mpr ⟨hname, by omega⟩)
  unfold scanCustomSection
  rw [hread]
  show (if sectionEnd - name < (UInt32.ofNat nameSize).toNat then _ else _) = _
  rw [UInt32.toNat_ofNat_of_lt' hlt, if_neg (by omega), manifests_cons]
  split
  · rfl
  · rfl

theorem scanCustomSection_finishes (position sectionEnd : Nat) (result : ManifestScan) :
    Finishes (scanCustomSection wasm position sectionEnd result) := by
  unfold scanCustomSection
  split
  · exact finishes_fail _
  · rename_i hread
    exact absurd hread (readVarUint32_finishes _ _)
  · split
    · exact finishes_fail _
    · split
      · exact finishes_ok _
      · exact finishes_ok _

/-- A scan that ends went over sections up to the end of the module. -/
theorem scanFrom_sound {rounds position : Nat} {result final : ManifestScan}
    (hposition : position ≤ wasm.length) (h : scanFrom wasm rounds position result = .ok final) :
    ∃ sections, SectionsAt wasm position sections wasm.length ∧
      final = noted result (manifests wasm sections) := by
  induction rounds generalizing position result with
  | zero =>
    unfold scanFrom at h
    split at h
    · cases h
    · obtain rfl : position = wasm.length := by omega
      exact ⟨[], .nil, (Except.ok.inj h).symm⟩
  | succ rounds ih =>
    rw [scanFrom] at h
    split at h
    · rename_i hget
      have hle : wasm.length ≤ position := List.getElem?_eq_none_iff.mp hget
      obtain rfl : position = wasm.length := by omega
      exact ⟨[], .nil, (Except.ok.inj h).symm⟩
    · rename_i sectionId hget
      obtain ⟨⟨size, content⟩, hread, hrest⟩ := bind_ok h
      have hsize := readVarUint32_iff.mp hread
      have hcontent := hsize.inside
      dsimp only at hrest
      split at hrest
      · cases hrest
      · rename_i hfits
        have hinside : content + size.toNat ≤ wasm.length := by omega
        split at hrest
        · -- the scanner remembers the last manifest section and how many there were
          rename_i hcustom
          subst hcustom
          obtain ⟨next, hsection, htail⟩ := bind_ok hrest
          obtain ⟨sections, hsections, rfl⟩ := ih hinside htail
          obtain ⟨nameSize, name, hname, hnameFits, rfl⟩ :=
            scanCustomSection_sound hinside hsection
          refine ⟨_, .custom hget hsize hinside hname hnameFits hsections, ?_⟩
          rw [manifests_cons, manifests_cons]
          split
          · rfl
          · rfl
        · rename_i hother
          obtain ⟨sections, hsections, rfl⟩ := ih hinside hrest
          exact ⟨sections, .other hget hother hsize hinside hsections, rfl⟩

theorem scanFrom_complete {position stop : Nat} {sections : List CustomSection}
    (h : SectionsAt wasm position sections stop) (hstop : stop = wasm.length) {rounds : Nat}
    (result : ManifestScan) (hrounds : wasm.length ≤ position + rounds) :
    scanFrom wasm rounds position result = .ok (noted result (manifests wasm sections)) := by
  induction h generalizing rounds result with
  | @nil start =>
    subst hstop
    cases rounds with
    | zero =>
      rw [scanFrom, if_neg (lt_irrefl _)]
      rfl
    | succ rounds =>
      rw [scanFrom, List.getElem?_eq_none_iff.mpr le_rfl]
      rfl
  | @other start size content stop id sections hid hother hsize hinside hsections ih =>
    have hlt := hsize.lt
    obtain ⟨rounds, rfl⟩ : ∃ fewer, rounds = fewer + 1 := ⟨rounds - 1, by omega⟩
    -- the size of a section fits the number it was read as
    have hvalue : size < 2 ^ 32 := takeLeb_lt hsize.read
    have hrest : scanFrom wasm rounds (content + size) result =
        .ok (noted result (manifests wasm sections)) := ih hstop result (by omega)
    rw [scanFrom, hid]
    show (readVarUint32 wasm (start + 1) >>= _) = _
    rw [readVarUint32_ok hsize]
    show (if wasm.length - content < (UInt32.ofNat size).toNat then _ else _) = _
    rw [UInt32.toNat_ofNat_of_lt' hvalue, if_neg (by omega), if_neg hother]
    exact hrest
  | @custom start size content nameSize name stop sections hid hsize hinside hname hfits hsections
      ih =>
    have hlt := hsize.lt
    obtain ⟨rounds, rfl⟩ : ∃ fewer, rounds = fewer + 1 := ⟨rounds - 1, by omega⟩
    have hvalue : size < 2 ^ 32 := takeLeb_lt hsize.read
    rw [scanFrom, hid]
    show (readVarUint32 wasm (start + 1) >>= _) = _
    rw [readVarUint32_ok hsize]
    show (if wasm.length - content < (UInt32.ofNat size).toNat then _ else _) = _
    rw [UInt32.toNat_ofNat_of_lt' hvalue, if_neg (by omega), if_pos rfl,
      scanCustomSection_complete hinside hname hfits]
    show scanFrom wasm rounds (content + size) _ = _
    rw [ih hstop _ (by omega), manifests_cons, manifests_cons]
    split
    · rfl
    · rfl

theorem scanFrom_finishes {rounds position : Nat} (result : ManifestScan)
    (hrounds : wasm.length ≤ position + rounds) :
    Finishes (scanFrom wasm rounds position result) := by
  induction rounds generalizing position result with
  | zero =>
    rw [scanFrom, if_neg (by omega)]
    exact finishes_ok _
  | succ rounds ih =>
    rw [scanFrom]
    split
    · exact finishes_ok _
    · refine (readVarUint32_finishes wasm (position + 1)).bind ?_
      rintro ⟨size, content⟩ hread
      have hlt : position + 1 < content := (readVarUint32_iff.mp hread).lt
      dsimp only
      split
      · exact finishes_fail _
      · have hrest : ∀ next, Finishes (scanFrom wasm rounds (content + size.toNat) next) :=
          fun next => ih next (by omega)
        split
        · exact (scanCustomSection_finishes _ _ _).bind fun next _ => hrest next
        · exact hrest result

/-- The scanner takes the well-formed modules and no other bytes. -/
theorem scanManifestSections_iff {final : ManifestScan} :
    scanManifestSections wasm = .ok final ↔
      ∃ sections, Module wasm sections ∧ final = noted {} (manifests wasm sections) := by
  unfold scanManifestSections
  constructor
  · intro h
    split at h
    · cases h
    · rename_i hchecks
      have hlength : kWasmPreamble.length ≤ wasm.length := by
        by_contra hshort
        exact hchecks (.inl (by omega))
      obtain ⟨sections, hsections, hfinal⟩ := scanFrom_sound hlength h
      refine ⟨sections, ⟨?_, hsections⟩, hfinal⟩
      by_contra hpreamble
      exact hchecks (.inr hpreamble)
  · rintro ⟨sections, ⟨hpreamble, hsections⟩, rfl⟩
    have hle := hsections.le
    rw [if_neg]
    · exact scanFrom_complete hsections rfl {} (by omega)
    · rintro (hshort | hwrong)
      · omega
      · exact hwrong hpreamble

theorem scanManifestSections_finishes : Finishes (scanManifestSections wasm) := by
  unfold scanManifestSections
  split
  · exact finishes_fail _
  · exact scanFrom_finishes {} (by omega)

theorem readManifestSection_finishes : Finishes (readManifestSection wasm) := by
  refine scanManifestSections_finishes.bind fun scanned _ => ?_
  split
  · exact finishes_fail _
  · split
    · exact finishes_fail _
    · exact finishes_ok _

/-- Reading succeeds on the well-formed modules with one manifest section, and returns
what follows its name. -/
theorem readManifestSection_iff {span : Span} :
    readManifestSection wasm = .ok span ↔
      ∃ sections, Module wasm sections ∧ manifests wasm sections = [span] := by
  constructor
  · intro h
    obtain ⟨scanned, hscan, h⟩ := bind_ok h
    obtain ⟨sections, hmodule, rfl⟩ := scanManifestSections_iff.mp hscan
    refine ⟨sections, hmodule, ?_⟩
    split at h
    · cases h
    · split at h
      · cases h
      · rename_i hone
        have hcount : (manifests wasm sections).length = 1 := by
          rw [noted_count] at hone
          have hzero : (0 : Nat) + (manifests wasm sections).length = 1 := not_not.mp hone
          omega
        obtain ⟨only, honly⟩ := List.length_eq_one_iff.mp hcount
        rw [honly] at h ⊢
        exact congrArg (fun span => [span]) (Except.ok.inj h)
  · rintro ⟨sections, hmodule, hone⟩
    have hscan := scanManifestSections_iff.mpr ⟨sections, hmodule, rfl⟩
    unfold readManifestSection
    rw [hscan, hone]
    rfl

end Scanning

/-! ## Appending -/

theorem SectionsAt.append {wasm : Bytes} {start stop : Nat} {sections : List CustomSection}
    (h : SectionsAt wasm start sections stop) (more : Bytes) :
    SectionsAt (wasm ++ more) start sections stop := by
  have hget : ∀ {position : Nat} {id : UInt8}, wasm[position]? = some id →
      (wasm ++ more)[position]? = some id := by
    intro position id hid
    obtain ⟨hlt, -⟩ := List.getElem?_eq_some_iff.mp hid
    rw [List.getElem?_append_left hlt, hid]
  have hlength : wasm.length ≤ (wasm ++ more).length := by
    rw [List.length_append]
    omega
  induction h with
  | nil => exact .nil
  | other hid hother hsize hinside hsections ih =>
    exact .other (hget hid) hother (hsize.append more) (by omega) ih
  | custom hid hsize hinside hname hfits hsections ih =>
    exact .custom (hget hid) (hsize.append more) (by omega) (hname.append more) hfits ih

theorem SectionsAt.trans {wasm : Bytes} {start middle stop : Nat}
    {sections more : List CustomSection} (h : SectionsAt wasm start sections middle)
    (hmore : SectionsAt wasm middle more stop) :
    SectionsAt wasm start (sections ++ more) stop := by
  induction h with
  | nil => exact hmore
  | other hid hother hsize hinside hsections ih =>
    exact .other hid hother hsize hinside (ih hmore)
  | custom hid hsize hinside hname hfits hsections ih =>
    exact .custom hid hsize hinside hname hfits (ih hmore)

/-- The names of the sections stay what they are when bytes follow. -/
theorem manifests_append {wasm : Bytes} {start stop : Nat} {sections : List CustomSection}
    (h : SectionsAt wasm start sections stop) (more : Bytes) :
    manifests (wasm ++ more) sections = manifests wasm sections := by
  induction h with
  | nil => rfl
  | other hid hother hsize hinside hsections ih => exact ih
  | @custom start size content nameSize name stop sections hid hsize hinside hname hfits
      hsections ih =>
    have hsame : (Span.mk name nameSize).of (wasm ++ more) = (Span.mk name nameSize).of wasm := by
      show ((wasm ++ more).drop name).take nameSize = (wasm.drop name).take nameSize
      rw [List.drop_append_of_le_length (by omega), List.take_append_of_le_length]
      rw [List.length_drop]
      omega
    rw [manifests_cons, manifests_cons, ih, hsame]

/-- The spans of the manifests lie in the module. -/
theorem manifests_inside {wasm : Bytes} {start stop : Nat} {sections : List CustomSection}
    (h : SectionsAt wasm start sections stop) :
    ∀ span ∈ manifests wasm sections, span.offset + span.size ≤ wasm.length := by
  induction h with
  | nil => exact fun _ hspan => absurd hspan List.not_mem_nil
  | other hid hother hsize hinside hsections ih => exact ih
  | @custom start size content nameSize name stop sections hid hsize hinside hname hfits
      hsections ih =>
    intro span hspan
    rw [manifests_cons] at hspan
    split at hspan
    · rcases List.mem_cons.mp hspan with rfl | hrest
      · show name + nameSize + (content + size - (name + nameSize)) ≤ wasm.length
        omega
      · exact ih span hrest
    · exact ih span hspan

/-- What stands after the section id and its size. -/
def payloadSize (manifest : Bytes) : Nat :=
  varUint32Size kManifestSectionName.length + kManifestSectionName.length + manifest.length

def manifestSection (manifest : Bytes) : Bytes :=
  0 :: appendVarUint32 (payloadSize manifest) ++ appendVarUint32 kManifestSectionName.length ++
    kManifestSectionName ++ manifest

/-- Where the section's name stands once it is appended to `wasm`. -/
def nameSpan (wasm manifest : Bytes) : Span :=
  { offset := wasm.length + 1 + varUint32Size (payloadSize manifest) +
      varUint32Size kManifestSectionName.length
    size := kManifestSectionName.length }

/-- Where the manifest stands. -/
def manifestSpan (wasm manifest : Bytes) : Span :=
  { offset := (nameSpan wasm manifest).offset + kManifestSectionName.length
    size := manifest.length }

theorem nameSpan_of (wasm manifest : Bytes) :
    (nameSpan wasm manifest).of (wasm ++ manifestSection manifest) = kManifestSectionName := by
  have hfront : (wasm ++ (0 :: appendVarUint32 (payloadSize manifest) ++
      appendVarUint32 kManifestSectionName.length)).length = (nameSpan wasm manifest).offset := by
    simp only [List.length_append, List.length_cons, appendVarUint32_length, nameSpan]
    omega
  have hsplit : wasm ++ manifestSection manifest =
      wasm ++ (0 :: appendVarUint32 (payloadSize manifest) ++
        appendVarUint32 kManifestSectionName.length) ++ (kManifestSectionName ++ manifest) := by
    simp [manifestSection, List.append_assoc]
  show ((wasm ++ manifestSection manifest).drop (nameSpan wasm manifest).offset).take
    kManifestSectionName.length = kManifestSectionName
  rw [hsplit, List.drop_left' hfront, List.take_left]

theorem manifestSpan_of (wasm manifest : Bytes) :
    (manifestSpan wasm manifest).of (wasm ++ manifestSection manifest) = manifest := by
  have hfront : (wasm ++ (0 :: appendVarUint32 (payloadSize manifest) ++
      appendVarUint32 kManifestSectionName.length ++ kManifestSectionName)).length =
      (manifestSpan wasm manifest).offset := by
    simp only [List.length_append, List.length_cons, appendVarUint32_length, manifestSpan,
      nameSpan]
    omega
  show ((wasm ++ (0 :: appendVarUint32 (payloadSize manifest) ++
    appendVarUint32 kManifestSectionName.length ++ kManifestSectionName ++ manifest)).drop
      (manifestSpan wasm manifest).offset).take manifest.length = manifest
  rw [← List.append_assoc, List.drop_left' hfront, List.take_length]

/-- The appended section is a section of the result. -/
theorem section_appended (wasm : Bytes) {manifest : Bytes} (h : payloadSize manifest < 2 ^ 32) :
    SectionsAt (wasm ++ manifestSection manifest) wasm.length
      [⟨nameSpan wasm manifest, manifestSpan wasm manifest⟩]
      (wasm ++ manifestSection manifest).length := by
  have hname : kManifestSectionName.length < 2 ^ 32 := by decide
  -- The id and the two sizes, each with what stands before it.
  have hid : (wasm ++ manifestSection manifest)[wasm.length]? = some 0 := by
    rw [List.getElem?_append_right le_rfl, Nat.sub_self]
    rfl
  have hsize : VarUint32At (wasm ++ manifestSection manifest) (wasm.length + 1)
      (payloadSize manifest) (wasm.length + 1 + varUint32Size (payloadSize manifest)) := by
    have hat := varUint32At_append h (wasm ++ [0])
      (appendVarUint32 kManifestSectionName.length ++ kManifestSectionName ++ manifest)
    rw [List.length_append, List.length_singleton] at hat
    simpa [manifestSection, List.append_assoc] using hat
  have hnameSize : VarUint32At (wasm ++ manifestSection manifest)
      (wasm.length + 1 + varUint32Size (payloadSize manifest)) kManifestSectionName.length
      (nameSpan wasm manifest).offset := by
    have hat := varUint32At_append hname (wasm ++ [0] ++ appendVarUint32 (payloadSize manifest))
      (kManifestSectionName ++ manifest)
    rw [List.length_append, List.length_append, List.length_singleton,
      appendVarUint32_length] at hat
    simpa [manifestSection, nameSpan, List.append_assoc] using hat
  have hlength : (wasm ++ manifestSection manifest).length =
      wasm.length + 1 + varUint32Size (payloadSize manifest) + payloadSize manifest := by
    simp only [manifestSection, List.length_append, List.length_cons, appendVarUint32_length,
      payloadSize]
    omega
  have hpayload : payloadSize manifest = varUint32Size kManifestSectionName.length +
      kManifestSectionName.length + manifest.length := rfl
  have hoffset : (nameSpan wasm manifest).offset = wasm.length + 1 +
      varUint32Size (payloadSize manifest) + varUint32Size kManifestSectionName.length := rfl
  have hspan : manifestSpan wasm manifest =
      ⟨(nameSpan wasm manifest).offset + kManifestSectionName.length,
        wasm.length + 1 + varUint32Size (payloadSize manifest) + payloadSize manifest -
          ((nameSpan wasm manifest).offset + kManifestSectionName.length)⟩ := by
    unfold manifestSpan
    congr 1
    omega
  rw [hspan]
  refine SectionsAt.custom hid hsize (by omega) hnameSize (by omega) ?_
  rw [hlength]
  exact .nil

theorem varUint32Size_le {value : Nat} (h : value < 2 ^ 32) : varUint32Size value ≤ 5 := by
  have hlength : ∀ groups value : Nat, (varintGroups groups value).length ≤ groups + 1 := by
    intro groups
    induction groups with
    | zero => exact fun _ => le_rfl
    | succ groups ih =>
      intro value
      rw [varintGroups]
      split
      · exact Nat.succ_le_succ (Nat.zero_le _)
      · exact Nat.succ_le_succ (ih _)
  have heq : appendVarUint32 value = varintGroups 4 value := appendVarUint32_eq h
  rw [← appendVarUint32_length, heq]
  exact hlength 4 value

/-- A module without a manifest takes one that fits a section. No byte string in memory is
longer than `PTRDIFF_MAX`. -/
theorem appendManifestSection_ok {wasm manifest : Bytes} {sections : List CustomSection}
    (hmodule : Module wasm sections) (hnone : manifests wasm sections = [])
    (hsize : payloadSize manifest < 2 ^ 32) (hmemory : wasm.length < 2 ^ 63) :
    appendManifestSection wasm manifest = .ok (wasm ++ manifestSection manifest) := by
  have hscan := scanManifestSections_iff.mpr ⟨sections, hmodule, rfl⟩
  have hheader : varUint32Size (payloadSize manifest) ≤ 5 := varUint32Size_le hsize
  have hpayload : payloadSize manifest = varUint32Size kManifestSectionName.length +
      kManifestSectionName.length + manifest.length := rfl
  have hmax : kSizeMax = 2 ^ 64 - 1 := rfl
  unfold appendManifestSection
  rw [hscan, hnone]
  show (if 2 ^ 32 - 1 < manifest.length then _
    else if 2 ^ 32 - 1 < payloadSize manifest ∨ kSizeMax < payloadSize manifest then _
    else if kSizeMax - (1 + varUint32Size (payloadSize manifest)) < wasm.length ∨
        kSizeMax - wasm.length - (1 + varUint32Size (payloadSize manifest)) <
          payloadSize manifest then _
    else Except.ok (wasm ++ 0 :: appendVarUint32 (payloadSize manifest) ++
      appendVarUint32 kManifestSectionName.length ++ kManifestSectionName ++ manifest)) = _
  rw [if_neg (by omega), if_neg (by omega), if_neg (by omega)]
  unfold manifestSection
  simp only [List.append_assoc, List.cons_append]

/-- Appending makes the module one that has this manifest. -/
theorem module_appended {wasm manifest : Bytes} {sections : List CustomSection}
    (hmodule : Module wasm sections) (hnone : manifests wasm sections = [])
    (hsize : payloadSize manifest < 2 ^ 32) :
    ∃ all, Module (wasm ++ manifestSection manifest) all ∧
      manifests (wasm ++ manifestSection manifest) all = [manifestSpan wasm manifest] := by
  have hle := hmodule.sections.le
  refine ⟨sections ++ [⟨nameSpan wasm manifest, manifestSpan wasm manifest⟩], ⟨?_, ?_⟩, ?_⟩
  · rw [List.take_append_of_le_length hle]
    exact hmodule.preamble
  · exact (hmodule.sections.append _).trans (section_appended wasm hsize)
  · have hold : manifests (wasm ++ manifestSection manifest) sections = [] :=
      (manifests_append hmodule.sections _).trans hnone
    unfold manifests at hold ⊢
    rw [List.filter_append, List.map_append, hold, List.nil_append,
      List.filter_cons_of_pos (by simpa using nameSpan_of wasm manifest)]
    rfl

/-- A manifest appended to a module without one is read back, and none goes beside it;
reading succeeds on the modules with one manifest section and no others, and returns
bytes of the module. -/
theorem manifest_section :
    (∀ (wasm manifest : Bytes) (sections : List CustomSection), Module wasm sections →
      manifests wasm sections = [] → payloadSize manifest < 2 ^ 32 → wasm.length < 2 ^ 63 →
        ∃ out, appendManifestSection wasm manifest = .ok out ∧ wasm <+: out ∧
          (∃ span, readManifestSection out = .ok span ∧ span.of out = manifest) ∧
          ∀ again, appendManifestSection out again =
            fail "wasm already contains a parser-module manifest section") ∧
      ∀ wasm, Finishes (readManifestSection wasm) ∧
        ∀ span, (readManifestSection wasm = .ok span ↔
            ∃ sections, Module wasm sections ∧ manifests wasm sections = [span]) ∧
          (readManifestSection wasm = .ok span → span.offset + span.size ≤ wasm.length) := by
  constructor
  · intro wasm manifest sections hmodule hnone hsize hmemory
    obtain ⟨all, hall, hone⟩ := module_appended hmodule hnone hsize
    refine ⟨wasm ++ manifestSection manifest,
      appendManifestSection_ok hmodule hnone hsize hmemory, List.prefix_append _ _,
      ⟨manifestSpan wasm manifest, readManifestSection_iff.mpr ⟨all, hall, hone⟩,
        manifestSpan_of wasm manifest⟩, ?_⟩
    -- the module that was written is refused because it has one now
    intro again
    have hscan := scanManifestSections_iff.mpr ⟨all, hall, rfl⟩
    unfold appendManifestSection
    rw [hscan, hone]
    rfl
  · intro wasm
    refine ⟨readManifestSection_finishes, fun span => ⟨readManifestSection_iff, ?_⟩⟩
    intro h
    obtain ⟨sections, hmodule, hone⟩ := readManifestSection_iff.mp h
    refine manifests_inside hmodule.sections span ?_
    rw [hone]
    exact List.mem_singleton_self span

/-- The manifest `m` in a module of no sections. -/
theorem manifest_section_m :
    Module kWasmPreamble [] ∧ payloadSize [0x6D] < 2 ^ 32 ∧
      ∃ out, appendManifestSection kWasmPreamble [0x6D] = .ok out ∧
        ∃ span, readManifestSection out = .ok span ∧ span.of out = [0x6D] := by
  have hmodule : Module kWasmPreamble [] := ⟨rfl, .nil⟩
  have hsize : payloadSize [0x6D] < 2 ^ 32 := by
    have hname : varUint32Size kManifestSectionName.length ≤ 5 := varUint32Size_le (by decide)
    have hlength : kManifestSectionName.length = 25 := by decide
    show varUint32Size kManifestSectionName.length + kManifestSectionName.length + 1 < 2 ^ 32
    omega
  obtain ⟨out, happend, -, hread, -⟩ :=
    manifest_section.1 kWasmPreamble [0x6D] [] hmodule rfl hsize (by decide)
  exact ⟨hmodule, hsize, out, happend, hread⟩

end PlotJugglerSdk.ManifestSection
