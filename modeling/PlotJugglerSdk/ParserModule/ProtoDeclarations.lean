import PlotJugglerSdk.ParserModule.ProtoScan
import PlotJugglerSdk.ParserModule.ProtoSchema
import PlotJugglerSdk.Scan.Folds

/-!
# What a descriptor set declares

The messages a `FileDescriptorSet` declares are stated over its bytes and the wire grammar:
a string or a number of a descriptor is the last occurrence of its field, a list all
occurrences of its field in their order. The locator's table of an accepted descriptor set is
these messages, no full name stands twice in it, and inside a message neither a name nor a
number does.

## Results

* `last_iff`       — a lookup finds the last occurrence the grammar gives
* `parse_declares` — the table of an accepted descriptor set
* `parse_distinct` — its names and numbers stand once
-/

namespace PlotJugglerSdk.ParserModule

open Ranking Scan Wire

namespace ProtoReader

/-! ## The last occurrence -/

/-- What a lookup comes to. -/
inductive Located where
  | present (field : Field)
  | absent
  | error
  deriving DecidableEq

def classify : Except ScanError Field → Located
  | .ok field => .present field
  | .error e => if e = .status "protobuf field is absent" then .absent else .error

/-- The occurrences of a number at the top level, where they are no more than are kept. -/
def Matches (reader : ProtoReader) (number : UInt32) (fields : List Field) : Prop :=
  ∃ occurrences, reader.Spells occurrences ∧ fields = kept reader.message number occurrences ∧
    fields.length ≤ FieldList.kMaximumFields

/-- The last occurrence of a number, stated over the wire grammar. -/
inductive LastIn (reader : ProtoReader) (number : UInt32) : Located → Prop
  | present {fields : List Field} {field : Field} :
    reader.Matches number fields → fields.getLast? = some field →
      LastIn reader number (.present field)
  | absent : reader.Matches number [] → LastIn reader number .absent
  | error : (∀ fields, ¬ reader.Matches number fields) → LastIn reader number .error

section Reader

variable {reader : ProtoReader} {number : UInt32}

theorem matches_of_matching {list : FieldList} (h : reader.matching number = .ok list) :
    ValidNumber number ∧ reader.Matches number list.fields := by
  obtain ⟨hvalid, occurrences, hspells, hkept⟩ := matching_iff.mp h
  exact ⟨hvalid, occurrences, hspells, hkept, list.bounded⟩

theorem matching_of_matches (hvalid : ValidNumber number) {fields : List Field}
    (h : reader.Matches number fields) :
    ∃ list, reader.matching number = .ok list ∧ list.fields = fields := by
  obtain ⟨occurrences, hspells, hkept, hbounded⟩ := h
  exact ⟨{ fields, bounded := hbounded },
    matching_iff.mpr ⟨hvalid, occurrences, hspells, hkept⟩, rfl⟩

end Reader

/-! ## Failures that do not say "absent" -/

section Message

variable (message : Bytes)

theorem readVarintFrom_avoids (bytes : Bytes) (left position : Nat) (value : UInt64) :
    Avoids "protobuf field is absent" (readVarintFrom bytes left position value) := by
  induction left generalizing position value with
  | zero => exact avoids_fail (by decide)
  | succ left ih =>
    rw [readVarintFrom]
    dsimp only
    split
    · exact avoids_fail (by decide)
    · split
      · exact avoids_fail (by decide)
      · split
        · exact avoids_ok _ _
        · exact ih _ _

theorem readVarint_avoids (position : Nat) :
    Avoids "protobuf field is absent" (readVarint message position) :=
  readVarintFrom_avoids message 10 position 0

theorem skipValue_avoids (position : Nat) (type : WireType) :
    Avoids "protobuf field is absent" (skipValue message position type) := by
  unfold skipValue
  split
  · exact (readVarint_avoids message position).bind fun _ => avoids_ok _ _
  · split
    · exact avoids_fail (by decide)
    · exact avoids_ok _ _
  · split
    · exact avoids_fail (by decide)
    · exact avoids_ok _ _
  · split
    · exact avoids_fail (by decide)
    · split
      · exact avoids_fail (by decide)
      · exact avoids_ok _ _
  · exact avoids_fail (by decide)

theorem enterGroup_avoids {scan : Except ScanError Nat} (depth : Nat)
    (h : Avoids "protobuf field is absent" scan) :
    Avoids "protobuf field is absent" (enterGroup depth scan) := by
  unfold enterGroup
  split
  · exact avoids_fail (by decide)
  · exact h

theorem skipGroupFrom_avoids (rounds position : Nat) (groupNumber : UInt32) (depth : Nat) :
    Avoids "protobuf field is absent"
      (skipGroupFrom message rounds position groupNumber depth) := by
  induction rounds generalizing position groupNumber depth with
  | zero =>
    rw [skipGroupFrom]
    split
    · intro h
      cases h
    · exact avoids_fail (by decide)
  | succ rounds ih =>
    rw [skipGroupFrom]
    split
    · refine (readVarint_avoids message position).bind ?_
      rintro ⟨key, body⟩
      dsimp only
      split
      · exact avoids_fail (by decide)
      · split
        · split
          · exact avoids_ok _ _
          · exact avoids_fail (by decide)
        · exact (enterGroup_avoids _ (ih _ _ _)).bind fun _ => ih _ _ _
        · exact (skipValue_avoids message body _).bind fun _ => ih _ _ _
    · exact avoids_fail (by decide)

theorem nextField_avoids (position depth : Nat) :
    Avoids "protobuf field is absent" (nextField message position depth) := by
  unfold nextField
  refine (readVarint_avoids message position).bind ?_
  rintro ⟨key, body⟩
  dsimp only
  split
  · exact avoids_fail (by decide)
  · split
    · exact avoids_fail (by decide)
    · split
      · exact (readVarint_avoids message body).bind fun _ => avoids_ok _ _
      · split
        · exact avoids_fail (by decide)
        · exact avoids_ok _ _
      · refine (readVarint_avoids message body).bind ?_
        rintro ⟨length, first⟩
        dsimp only
        split
        · exact avoids_fail (by decide)
        · exact avoids_ok _ _
      · exact (enterGroup_avoids _ (skipGroupFrom_avoids message _ _ _ _)).bind
          fun _ => avoids_ok _ _
      · exact avoids_fail (by decide)
      · split
        · exact avoids_fail (by decide)
        · exact avoids_ok _ _
      · exact avoids_fail (by decide)

theorem push_avoids (list : FieldList) (field : Field) :
    Avoids "protobuf field is absent" (list.push field) := by
  unfold FieldList.push
  split
  · exact avoids_fail (by decide)
  · exact avoids_ok _ _

theorem matchingFrom_avoids (depth : Nat) (fieldNumber : UInt32) (rounds position : Nat)
    (result : FieldList) : Avoids "protobuf field is absent"
      (matchingFrom message depth fieldNumber rounds position result) := by
  induction rounds generalizing position result with
  | zero =>
    rw [matchingFrom]
    split
    · intro h
      cases h
    · exact avoids_ok _ _
  | succ rounds ih =>
    rw [matchingFrom]
    split
    · refine (nextField_avoids message position depth).bind ?_
      rintro ⟨field, next⟩
      dsimp only
      split
      · exact (push_avoids result field).bind fun list => ih _ _
      · exact ih _ _
    · exact avoids_ok _ _

end Message

theorem matching_avoids (reader : ProtoReader) (number : UInt32) :
    Avoids "protobuf field is absent" (reader.matching number) := by
  unfold matching
  split
  · exact avoids_fail (by decide)
  · exact matchingFrom_avoids _ _ _ _ _ _

/-! ## Lookups find the last occurrence -/

section Reader

variable {reader : ProtoReader} {number : UInt32}

/-- The spelling of a message is unique, so its matches are. -/
theorem matches_unique (hvalid : ValidNumber number) {fields fields' : List Field}
    (h : reader.Matches number fields) (h' : reader.Matches number fields') : fields = fields' := by
  obtain ⟨list, hlist, rfl⟩ := matching_of_matches hvalid h
  obtain ⟨list', hlist', rfl⟩ := matching_of_matches hvalid h'
  rw [hlist] at hlist'
  rw [Except.ok.inj hlist']

theorem lastIn_classify (hvalid : ValidNumber number) :
    LastIn reader number (classify (reader.last number)) := by
  unfold last
  cases hmatching : reader.matching number with
  | error e =>
    have hne : e ≠ .status "protobuf field is absent" := by
      rintro rfl
      exact matching_avoids reader number hmatching
    show LastIn reader number (if e = _ then .absent else .error)
    rw [if_neg hne]
    refine .error fun fields hmatches => ?_
    obtain ⟨list, hlist, -⟩ := matching_of_matches hvalid hmatches
    rw [hlist] at hmatching
    cases hmatching
  | ok list =>
    have hmatches := (matches_of_matching hmatching).2
    dsimp only [bind, Except.bind]
    cases hlast : list.fields.getLast? with
    | none =>
      rw [List.getLast?_eq_none_iff.mp hlast] at hmatches
      exact .absent hmatches
    | some field => exact .present hmatches hlast

theorem lastIn_unique (hvalid : ValidNumber number) {outcome outcome' : Located}
    (h : LastIn reader number outcome) (h' : LastIn reader number outcome') :
    outcome = outcome' := by
  cases h with
  | present hmatches hlast =>
    cases h' with
    | present hmatches' hlast' =>
      rw [matches_unique hvalid hmatches hmatches', hlast'] at hlast
      rw [Option.some.inj hlast]
    | absent hmatches' =>
      rw [matches_unique hvalid hmatches hmatches'] at hlast
      exact nomatch hlast
    | error hnone => exact absurd hmatches (hnone _)
  | absent hmatches =>
    cases h' with
    | present hmatches' hlast' =>
      rw [← matches_unique hvalid hmatches hmatches'] at hlast'
      exact nomatch hlast'
    | absent => rfl
    | error hnone => exact absurd hmatches (hnone _)
  | error hnone =>
    cases h' with
    | present hmatches' => exact absurd hmatches' (hnone _)
    | absent hmatches' => exact absurd hmatches' (hnone _)
    | error => rfl

/-- A lookup comes to what the wire grammar says of the last occurrence. -/
theorem last_iff (hvalid : ValidNumber number) {outcome : Located} :
    LastIn reader number outcome ↔ classify (reader.last number) = outcome := by
  constructor
  · intro h
    exact lastIn_unique hvalid (lastIn_classify hvalid) h
  · rintro rfl
    exact lastIn_classify hvalid

theorem present_of_last {field : Field} (hvalid : ValidNumber number)
    (h : reader.last number = .ok field) : LastIn reader number (.present field) := by
  rw [last_iff hvalid, h]
  rfl

end Reader

end ProtoReader

namespace ProtoFieldLocator

open ProtoReader

instance (number : UInt32) : Decidable (ValidNumber number) := inferInstanceAs (Decidable (_ ∧ _))

/-! ## What descriptors declare -/

/-- The last occurrence of a number is a string. -/
def HasText (bytes : Bytes) (number : UInt32) (text : Bytes) : Prop :=
  ∃ field, LastIn { message := bytes, depth_le := outermost_le } number (.present field) ∧
    field.wireType = .lengthDelimited ∧ field.bytes.of bytes = text

/-- The last occurrence of a number is a varint. -/
def HasVarint (bytes : Bytes) (number : UInt32) (value : UInt64) : Prop :=
  ∃ field, LastIn { message := bytes, depth_le := outermost_le } number (.present field) ∧
    field.wireType = .varint ∧ field.integer = value

/-- The occurrences of a number are the messages of a list. -/
def HasParts (bytes : Bytes) (number : UInt32) (parts : List Bytes) : Prop :=
  ∃ fields : List ProtoReader.Field,
    Matches { message := bytes, depth_le := outermost_le } number fields ∧
    (∀ field ∈ fields, field.wireType = .lengthDelimited) ∧
    parts = fields.map fun field => field.bytes.of bytes

/-- A `FieldDescriptorProto` declares a field. -/
structure FieldDeclared (bytes : Bytes) (field : ProtoSchemaField) : Prop where
  name : HasText bytes 1 field.name
  number : ∃ value, HasVarint bytes 3 value ∧ field.number.toNat = value.toNat
  valid : ValidNumber field.number
  repeated : ∃ label, HasVarint bytes 4 label ∧ (field.repeated = true ↔ label = 3)
  type : ∃ type, HasVarint bytes 5 type ∧ field.type.toNat = type.toNat
  typeName : if field.type = 11 then
      ∃ text, HasText bytes 6 text ∧ field.typeName = normalizeProtoTypeName text
    else field.typeName = []

/-- The fields of a `DescriptorProto`, in the order of their numbers. -/
def FieldsDeclared (bytes : Bytes) (fields : List ProtoSchemaField) : Prop :=
  ∃ parts declared, HasParts bytes 2 parts ∧ List.Forall₂ FieldDeclared parts declared ∧
    fields.Perm declared ∧ fields.Pairwise fun lhs rhs => lhs.number < rhs.number

/-- The name of a message inside its parent, or at the top of a file without a package. -/
def qualified (parent name : Bytes) : Bytes := if parent = [] then name else parent ++ dot :: name

/-- A `DescriptorProto` declares a message and, behind it, those nested in it. -/
inductive MessageDeclares :
    (bytes parent : Bytes) → (topLevel : Bool) → List ProtoSchemaMessage → Prop
  | message {bytes parent name : Bytes} {topLevel : Bool} {fields : List ProtoSchemaField}
    {parts : List Bytes} {nested : List (List ProtoSchemaMessage)} :
    HasText bytes 1 name → FieldsDeclared bytes fields → HasParts bytes 3 parts →
    parts.length = nested.length →
    (∀ part declared, (part, declared) ∈ parts.zip nested →
      MessageDeclares part (qualified parent name) false declared) →
    MessageDeclares bytes parent topLevel
      ({ fullName := qualified parent name, fields, topLevel } :: nested.flatten)

/-- The package of a file, the empty name where it has none. -/
inductive PackageDeclared (bytes : Bytes) : Bytes → Prop
  | named {package : Bytes} : HasText bytes 2 package → PackageDeclared bytes package
  | none : LastIn { message := bytes } 2 .absent → PackageDeclared bytes []

/-- A `FileDescriptorProto` declares messages. -/
def FileDeclares (bytes : Bytes) (messages : List ProtoSchemaMessage) : Prop :=
  ∃ package parts declared, PackageDeclared bytes package ∧ HasParts bytes 4 parts ∧
    List.Forall₂ (fun part declared => MessageDeclares part package true declared)
      parts declared ∧
    messages = declared.flatten

/-- A `FileDescriptorSet` declares messages. -/
def SetDeclares (bytes : Bytes) (messages : List ProtoSchemaMessage) : Prop :=
  ∃ files declared, HasParts bytes 1 files ∧ List.Forall₂ FileDeclares files declared ∧
    messages = declared.flatten

/-- The message that paths begin in: the named one, or the only one at the top of a file. -/
def IsRoot (messages : List ProtoSchemaMessage) (rootType : Bytes) (root : ProtoSchemaMessage) :
    Prop :=
  if rootType = [] then messages.filter (·.topLevel) = [root]
  else root ∈ messages ∧ root.fullName = normalizeProtoTypeName rootType

/-! ## The table is what the set declares -/

theorem entryBytes_ok {message part : Bytes} {entry : ProtoReader.Field} {error : String}
    (h : entryBytes message entry error = .ok part) :
    entry.wireType = .lengthDelimited ∧ entry.bytes.of message = part := by
  unfold entryBytes at h
  split at h
  · exact nomatch h
  · rename_i htype
    exact ⟨not_not.mp htype, Except.ok.inj h⟩

/-- A loop over the parts of a message. -/
theorem hasParts_of_matching {bytes : Bytes} {number : UInt32} {list : FieldList} {β : Type}
    {declared : List β} (declares : Bytes → β → Prop)
    (hlist : ProtoReader.matching { message := bytes } number = .ok list)
    (h : List.Forall₂ (fun entry declared => entry.wireType = .lengthDelimited ∧
      declares (entry.bytes.of bytes) declared) list.fields declared) :
    ∃ parts, HasParts bytes number parts ∧ List.Forall₂ declares parts declared := by
  rw [List.forall₂_and_left] at h
  exact ⟨_, ⟨list.fields, (matches_of_matching hlist).2, h.1, rfl⟩,
    List.forall₂_map_left_iff.mpr h.2⟩

theorem last_text {bytes : Bytes} {number : UInt32} (hvalid : ValidNumber number)
    {field : ProtoReader.Field} (h : ProtoReader.last { message := bytes } number = .ok field)
    (htype : field.wireType = .lengthDelimited) : HasText bytes number (field.bytes.of bytes) :=
  ⟨field, present_of_last hvalid h, htype, rfl⟩

theorem varint_declared {bytes : Bytes} {number : UInt32} (hvalid : ValidNumber number)
    {value : UInt64} (h : ProtoReader.varint { message := bytes } number = .ok value) :
    HasVarint bytes number value := by
  obtain ⟨field, hlast, h⟩ := bind_ok h
  split at h
  · exact nomatch h
  · rename_i htype
    exact ⟨field, present_of_last hvalid hlast, not_not.mp htype, Except.ok.inj h⟩

theorem toUInt32_small {value : UInt64} (h : value.toNat < 2 ^ 29) :
    value.toUInt32.toNat = value.toNat := by
  rw [UInt64.toNat_toUInt32, Nat.mod_eq_of_lt (lt_trans h (by decide))]

theorem parseField_declared {bytes : Bytes} {field : ProtoSchemaField}
    (h : parseField bytes = .ok field) : FieldDeclared bytes field := by
  unfold parseField at h
  dsimp only at h
  split at h
  · rename_i name number label type hname hnumber hlabel htype
    split at h
    · exact nomatch h
    · rename_i hbytes
      rw [not_or] at hbytes
      split at h
      · exact nomatch h
      · rename_i hrange
        simp only [not_or] at hrange
        obtain ⟨hzero, hlarge, -, -, -, hkind, -⟩ := hrange
        -- the range check keeps the casts to 32 bits from losing anything
        have hnumberLt : number.toNat < 2 ^ 29 := by
          have hle := UInt64.not_lt.mp hlarge
          rw [UInt64.le_iff_toNat_le,
            show (0x1FFFFFFF : UInt64).toNat = 2 ^ 29 - 1 by decide] at hle
          omega
        have hnumberPos : 0 < number.toNat := by
          refine Nat.pos_of_ne_zero fun heq => hzero (UInt64.toNat_inj.mp ?_)
          rw [heq]
          rfl
        have htypeLt : type.toNat < 2 ^ 29 := by
          have hle := UInt64.not_lt.mp hkind
          rw [UInt64.le_iff_toNat_le, show (18 : UInt64).toNat = 18 by decide] at hle
          omega
        have hcast := toUInt32_small hnumberLt
        have hnameText := last_text (by decide) hname (not_not.mp hbytes.1)
        have hvalid : ValidNumber number.toUInt32 := ⟨by omega, by omega⟩
        have hlabelHas := varint_declared (by decide) hlabel
        split at h
        · -- a field of a message type names it, in a text of its own
          rename_i hmessage
          split at h
          · rename_i typeName htypeName
            split at h
            · exact nomatch h
            · rename_i htext
              obtain rfl := Except.ok.inj h
              exact ⟨hnameText, ⟨number, varint_declared (by decide) hnumber, hcast⟩, hvalid,
                ⟨label, hlabelHas, decide_eq_true_iff⟩,
                ⟨type, varint_declared (by decide) htype, toUInt32_small htypeLt⟩,
                by
                  rw [if_pos hmessage]
                  exact ⟨_, last_text (by decide) htypeName (not_not.mp htext), rfl⟩⟩
          · exact nomatch h
        · rename_i hother
          obtain rfl := Except.ok.inj h
          exact ⟨hnameText, ⟨number, varint_declared (by decide) hnumber, hcast⟩, hvalid,
            ⟨label, hlabelHas, decide_eq_true_iff⟩,
            ⟨type, varint_declared (by decide) htype, toUInt32_small htypeLt⟩,
            by rw [if_neg hother]⟩
  · exact nomatch h

/-- What the two sortings of a message's fields leave. -/
theorem sortFields_ok {fields sorted : List ProtoSchemaField} (h : sortFields fields = .ok sorted) :
    sorted.Perm fields ∧ (sorted.map (·.name)).Nodup ∧ (sorted.map (·.number)).Nodup ∧
      sorted.Pairwise fun lhs rhs => lhs.number < rhs.number := by
  unfold sortFields at h
  dsimp only at h
  split at h
  · cases h
  · rename_i hnames
    split at h
    · cases h
    · rename_i hnumbers
      obtain rfl := Except.ok.inj h
      generalize hbyName : sortBy (fun lhs rhs : ProtoSchemaField => lhs.name < rhs.name) fields =
        byName at hnames hnumbers
      have hpermName : byName.Perm fields := by
        rw [← hbyName]
        exact sortBy_perm_self _ _
      have hsortedName : byName.Pairwise fun a b => decide (b.name < a.name) = false := by
        rw [← hbyName]
        exact sortBy_pairwise (decisive_bytes.ranked ProtoSchemaField.name) fields
      have hsortedNumber := sortBy_pairwise (decisive_uint32.ranked ProtoSchemaField.number) byName
      have hperm :=
        sortBy_perm_self (fun a b : ProtoSchemaField => decide (a.number < b.number)) byName
      have hname : (byName.map (·.name)).Nodup :=
        nodup_of_sorted decisive_bytes hsortedName (Bool.not_eq_true _ ▸ hnames)
      have hnumber := nodup_of_sorted decisive_uint32 hsortedNumber (Bool.not_eq_true _ ▸ hnumbers)
      refine ⟨hperm.trans hpermName, (hperm.map _).nodup_iff.mpr hname, hnumber, ?_⟩
      -- in order and nowhere twice, so strictly in order
      refine (hsortedNumber.and (List.pairwise_map.mp hnumber)).imp ?_
      rintro lhs rhs ⟨hle, hne⟩
      rcases UInt32.lt_or_lt_of_ne hne with hlt | hlt
      · exact hlt
      · exact absurd hlt (of_decide_eq_false hle)

theorem parseFields_declared {bytes : Bytes} {fields : List ProtoSchemaField}
    (h : parseFields bytes = .ok fields) :
    FieldsDeclared bytes fields ∧ (fields.map (·.name)).Nodup ∧ (fields.map (·.number)).Nodup ∧
      ∀ field ∈ fields, ValidNumber field.number := by
  obtain ⟨entries, hentries, h⟩ := bind_ok h
  obtain ⟨declared, hdeclared, h⟩ := bind_ok h
  obtain ⟨hperm, hnames, hnumbers, hsorted⟩ := sortFields_ok h
  have heach : List.Forall₂ (fun entry field => entry.wireType = .lengthDelimited ∧
      FieldDeclared (entry.bytes.of bytes) field) entries.fields declared := by
    refine (mapM_ok_iff.mp hdeclared).imp fun entry field hfield => ?_
    obtain ⟨part, hpart, hfield⟩ := bind_ok hfield
    obtain ⟨htype, rfl⟩ := entryBytes_ok hpart
    exact ⟨htype, parseField_declared hfield⟩
  obtain ⟨parts, hparts, hfields⟩ := hasParts_of_matching FieldDeclared hentries heach
  refine ⟨⟨parts, declared, hparts, hfields, hperm, hsorted⟩, hnames, hnumbers, ?_⟩
  intro field hfield
  obtain ⟨part, -, hdeclared⟩ := exists_of_forall₂_right hfields (hperm.mem_iff.mp hfield)
  exact hdeclared.valid

theorem parseName_ok {bytes parent fullName : Bytes} {messages : List ProtoSchemaMessage}
    (h : parseName bytes parent messages = .ok fullName) :
    ∃ name, HasText bytes 1 name ∧ fullName = qualified parent name ∧
      fullName ∉ messages.map (·.fullName) := by
  unfold parseName at h
  split at h
  · exact nomatch h
  · rename_i field hfield
    split at h
    · exact nomatch h
    · rename_i hbytes
      rw [not_or] at hbytes
      replace h : (if messages.any fun existing =>
            existing.fullName = qualified parent (field.bytes.of bytes) then
          fail "FileDescriptorSet contains a duplicate message name"
        else .ok (qualified parent (field.bytes.of bytes))) = .ok fullName := h
      split at h
      · exact nomatch h
      · rename_i hnew
        obtain rfl := Except.ok.inj h
        refine ⟨_, last_text (by decide) hfield (not_not.mp hbytes.1), rfl, ?_⟩
        intro hmem
        obtain ⟨existing, hexisting, heq⟩ := List.mem_map.mp hmem
        exact hnew (List.any_eq_true.mpr ⟨existing, hexisting, decide_eq_true heq⟩)

/-- A part of the loop over nested or top-level messages. -/
theorem parseMessage_declares {levels : Nat} {bytes parent : Bytes} {topLevel : Bool}
    {messages result : List ProtoSchemaMessage}
    (h : parseMessage levels bytes parent topLevel messages = .ok result) :
    ∃ declared, MessageDeclares bytes parent topLevel declared ∧ result = messages ++ declared := by
  induction levels generalizing bytes parent topLevel messages result with
  | zero => exact nomatch h
  | succ levels ih =>
    obtain ⟨fullName, hparseName, h⟩ := bind_ok h
    obtain ⟨fields, hfields, h⟩ := bind_ok h
    obtain ⟨entries, hentries, h⟩ := bind_ok h
    obtain ⟨name, hname, rfl, -⟩ := parseName_ok hparseName
    obtain ⟨nested, hnested, rfl⟩ := @foldlM_appends _ _ _ _
      (fun entry declared => entry.wireType = .lengthDelimited ∧
        MessageDeclares (entry.bytes.of bytes) (qualified parent name) false declared) _
      (fun entry _ state state' hstep => by
        obtain ⟨part, hpart, hstep⟩ := bind_ok hstep
        obtain ⟨htype, rfl⟩ := entryBytes_ok hpart
        obtain ⟨declared, hdeclared, rfl⟩ := ih hstep
        exact ⟨declared, ⟨htype, hdeclared⟩, rfl⟩) _ _ h
    obtain ⟨parts, hparts, hdeclares⟩ := hasParts_of_matching
      (fun part declared => MessageDeclares part (qualified parent name) false declared)
      hentries hnested
    obtain ⟨hlength, heach⟩ := List.forall₂_iff_zip.mp hdeclares
    refine ⟨_, .message hname (parseFields_declared hfields).1 hparts hlength
      (fun part declared hmem => heach hmem), ?_⟩
    rw [List.append_assoc, List.singleton_append]

theorem parsePackage_declared {bytes package : Bytes} (h : parsePackage bytes = .ok package) :
    PackageDeclared bytes package := by
  obtain ⟨packages, hpackages, h⟩ := bind_ok h
  have hmatches := (matches_of_matching hpackages).2
  split at h
  · rename_i hnone
    rw [← Except.ok.inj h]
    rw [List.getLast?_eq_none_iff.mp hnone] at hmatches
    exact .none (.absent hmatches)
  · rename_i field hlast
    obtain ⟨htype, rfl⟩ := entryBytes_ok h
    exact .named ⟨field, .present hmatches hlast, htype, rfl⟩

theorem parseFile_declares {bytes : Bytes} {messages result : List ProtoSchemaMessage}
    (h : parseFile messages bytes = .ok result) :
    ∃ declared, FileDeclares bytes declared ∧ result = messages ++ declared := by
  obtain ⟨package, hpackage, h⟩ := bind_ok h
  obtain ⟨entries, hentries, h⟩ := bind_ok h
  obtain ⟨declared, hdeclared, rfl⟩ := @foldlM_appends _ _ _ _
    (fun entry declared => entry.wireType = .lengthDelimited ∧
      MessageDeclares (entry.bytes.of bytes) package true declared) _
    (fun entry _ state state' hstep => by
      obtain ⟨part, hpart, hstep⟩ := bind_ok hstep
      obtain ⟨htype, rfl⟩ := entryBytes_ok hpart
      obtain ⟨declared, hdeclared, rfl⟩ := parseMessage_declares hstep
      exact ⟨declared, ⟨htype, hdeclared⟩, rfl⟩) _ _ h
  obtain ⟨parts, hparts, hdeclares⟩ := hasParts_of_matching
    (fun part declared => MessageDeclares part package true declared) hentries hdeclared
  exact ⟨_, ⟨package, parts, declared, parsePackage_declared hpackage, hparts, hdeclares, rfl⟩,
    rfl⟩

/-- The stages of an accepted set. -/
theorem parse_ok {descriptorSet rootType : Bytes} {schema : Schema}
    (h : parse descriptorSet rootType = .ok schema) :
    ∃ files, ProtoReader.matching { message := descriptorSet } 1 = .ok files ∧
      files.fields.foldlM (fun messages file => do
          let bytes ← entryBytes descriptorSet file "FileDescriptorSet file entry is not a message"
          parseFile messages bytes) [] = .ok schema.messages ∧
      findRoot schema.messages rootType = .ok schema.rootIndex := by
  unfold parse at h
  split at h
  · exact nomatch h
  · obtain ⟨files, hfiles, h⟩ := bind_ok h
    split at h
    · exact nomatch h
    · obtain ⟨messages, hmessages, h⟩ := bind_ok h
      obtain ⟨rootIndex, hroot, h⟩ := bind_ok h
      obtain rfl := Except.ok.inj h
      exact ⟨files, hfiles, hmessages, hroot⟩

/-- The table of an accepted descriptor set is what the set declares. -/
theorem parse_declares {descriptorSet rootType : Bytes} {schema : Schema}
    (h : parse descriptorSet rootType = .ok schema) :
    SetDeclares descriptorSet schema.messages := by
  obtain ⟨files, hfiles, hmessages, -⟩ := parse_ok h
  obtain ⟨declared, hdeclared, hflatten⟩ := @foldlM_appends _ _ _ _
    (fun file declared => file.wireType = .lengthDelimited ∧
      FileDeclares (file.bytes.of descriptorSet) declared) _
    (fun file _ state state' hstep => by
      obtain ⟨part, hpart, hstep⟩ := bind_ok hstep
      obtain ⟨htype, rfl⟩ := entryBytes_ok hpart
      obtain ⟨declared, hdeclared, rfl⟩ := parseFile_declares hstep
      exact ⟨declared, ⟨htype, hdeclared⟩, rfl⟩) _ _ hmessages
  obtain ⟨parts, hparts, hdeclares⟩ := hasParts_of_matching FileDeclares hfiles hdeclared
  exact ⟨parts, declared, hparts, hdeclares, hflatten⟩

/-! ## Names and numbers stand once -/

/-- A table in which no name is taken twice, with numbers that fields can have. -/
structure Distinct (messages : List ProtoSchemaMessage) : Prop where
  fullNames : (messages.map (·.fullName)).Nodup
  names : ∀ message ∈ messages, (message.fields.map (·.name)).Nodup
  numbers : ∀ message ∈ messages, (message.fields.map (·.number)).Nodup
  valid : ∀ message ∈ messages, ∀ field ∈ message.fields, ValidNumber field.number

theorem distinct_nil : Distinct [] :=
  ⟨List.nodup_nil, fun _ h => (nomatch h), fun _ h => (nomatch h), fun _ h => (nomatch h)⟩

theorem Distinct.add {messages : List ProtoSchemaMessage} (h : Distinct messages)
    {message : ProtoSchemaMessage} (hnew : message.fullName ∉ messages.map (·.fullName))
    (hnames : (message.fields.map (·.name)).Nodup)
    (hnumbers : (message.fields.map (·.number)).Nodup)
    (hvalid : ∀ field ∈ message.fields, ValidNumber field.number) :
    Distinct (messages ++ [message]) := by
  refine ⟨?_, ?_, ?_, ?_⟩
  · rw [List.map_append, List.map_singleton]
    exact List.nodup_append.mpr ⟨h.fullNames, List.nodup_singleton _, by
      rintro name hold _ hsame rfl
      rw [List.mem_singleton] at hsame
      exact hnew (hsame ▸ hold)⟩
  · intro other hother
    obtain hold | hsame := List.mem_append.mp hother
    · exact h.names other hold
    · rw [List.mem_singleton.mp hsame]
      exact hnames
  · intro other hother
    obtain hold | hsame := List.mem_append.mp hother
    · exact h.numbers other hold
    · rw [List.mem_singleton.mp hsame]
      exact hnumbers
  · intro other hother
    obtain hold | hsame := List.mem_append.mp hother
    · exact h.valid other hold
    · rw [List.mem_singleton.mp hsame]
      exact hvalid

theorem parseMessage_distinct {levels : Nat} {bytes parent : Bytes} {topLevel : Bool}
    {messages result : List ProtoSchemaMessage} (hdistinct : Distinct messages)
    (h : parseMessage levels bytes parent topLevel messages = .ok result) : Distinct result := by
  induction levels generalizing bytes parent topLevel messages result with
  | zero => exact nomatch h
  | succ levels ih =>
    obtain ⟨fullName, hname, h⟩ := bind_ok h
    obtain ⟨fields, hfields, h⟩ := bind_ok h
    obtain ⟨entries, -, h⟩ := bind_ok h
    obtain ⟨name, -, -, hnew⟩ := parseName_ok hname
    obtain ⟨-, hnames, hnumbers, hvalid⟩ := parseFields_declared hfields
    refine foldlM_invariant Distinct ?_ (hdistinct.add hnew hnames hnumbers hvalid) h
    intro entry _ state state' hstate hstep
    obtain ⟨part, -, hstep⟩ := bind_ok hstep
    exact ih hstate hstep

theorem parseFile_distinct {bytes : Bytes} {messages result : List ProtoSchemaMessage}
    (hdistinct : Distinct messages) (h : parseFile messages bytes = .ok result) :
    Distinct result := by
  obtain ⟨package, -, h⟩ := bind_ok h
  obtain ⟨entries, -, h⟩ := bind_ok h
  refine foldlM_invariant Distinct ?_ hdistinct h
  intro entry _ state state' hstate hstep
  obtain ⟨part, -, hstep⟩ := bind_ok hstep
  exact parseMessage_distinct hstate hstep

/-- No full name stands twice in the table of an accepted set, and no name or number twice
in one of its messages. -/
theorem parse_distinct {descriptorSet rootType : Bytes} {schema : Schema}
    (h : parse descriptorSet rootType = .ok schema) : Distinct schema.messages := by
  obtain ⟨files, -, hmessages, -⟩ := parse_ok h
  refine foldlM_invariant Distinct ?_ distinct_nil hmessages
  intro file _ state state' hstate hstep
  obtain ⟨part, -, hstep⟩ := bind_ok hstep
  exact parseFile_distinct hstate hstep

end ProtoFieldLocator

end PlotJugglerSdk.ParserModule
