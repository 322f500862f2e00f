import PlotJugglerSdk.Wire.Fields

/-!
# The wire grammar with groups

What stands between two positions of a message. A group is a field whose payload is a
field sequence, closed by an end tag with the group's number, so the grammar is nested
where that of `Wire.Fields` is flat. `FieldsAt` bounds how deep.

* `VarintAt`, `TagAt`, `PayloadAt` — one part from here to there
* `FieldsAt`, `FieldAt`            — the field sequences and their occurrences
* `VarintsAt`                      — packed varints
-/

namespace Wire

/-- A varint stands from `start` up to `stop`. -/
structure VarintAt (message : Bytes) (start value stop : Nat) : Prop where
  lt : start < stop
  inside : stop ≤ message.length
  read : takeVarint 0 (message.drop start) = some (value, message.drop stop)

theorem varintAt_of_take {message rest : Bytes} {start value : Nat}
    (h : takeVarint 0 (message.drop start) = some (value, rest)) :
    VarintAt message start value (message.length - rest.length) := by
  obtain ⟨front, hsplit, hne, -⟩ := takeVarint_local h
  have hpos : 0 < front.length := List.length_pos_of_ne_nil hne
  have hlength : (message.drop start).length = front.length + rest.length := by
    rw [hsplit, List.length_append]
  rw [List.length_drop] at hlength
  have hstop : message.length - rest.length = start + front.length := by omega
  refine ⟨by omega, by omega, ?_⟩
  rw [hstop, ← List.drop_drop, hsplit, List.drop_left]
  rw [← hsplit]
  exact h

theorem VarintAt.length_eq {message : Bytes} {start value stop : Nat}
    (h : VarintAt message start value stop) :
    message.length - (message.drop stop).length = stop := by
  have hinside : stop ≤ message.length := h.inside
  rw [List.length_drop]
  omega

theorem VarintAt.value_lt {message : Bytes} {start value stop : Nat}
    (h : VarintAt message start value stop) : value < 2 ^ 64 :=
  takeVarint_lt_two_pow h.read

/-- A tag with a number a field can have. -/
structure TagAt (message : Bytes) (start : Nat) (tag : Tag) (stop : Nat) : Prop where
  raw : ∃ raw, VarintAt message start raw stop ∧ raw / 8 = tag.number ∧
    WireType.ofRaw raw = tag.type
  pos : 0 < tag.number
  lt : tag.number < 2 ^ 29

theorem TagAt.start_lt {message : Bytes} {start stop : Nat} {tag : Tag}
    (h : TagAt message start tag stop) : start < stop := by
  obtain ⟨raw, hraw, -, -⟩ := h.raw
  exact hraw.lt

theorem TagAt.inside {message : Bytes} {start stop : Nat} {tag : Tag}
    (h : TagAt message start tag stop) : stop ≤ message.length := by
  obtain ⟨raw, hraw, -, -⟩ := h.raw
  exact hraw.inside

/-- A payload that is no group: the wire type, where it begins, where what it carries
begins and where both end. -/
inductive PayloadAt (message : Bytes) : WireType → (start first stop : Nat) → Prop where
  | varint {start value stop : Nat} (h : VarintAt message start value stop) :
    PayloadAt message .varint start start stop
  | fixed64 {start : Nat} (h : start + 8 ≤ message.length) :
    PayloadAt message .fixed64 start start (start + 8)
  | lengthDelimited {start size first : Nat} (h : VarintAt message start size first)
      (hsize : first + size ≤ message.length) :
    PayloadAt message .lengthDelimited start first (first + size)
  | fixed32 {start : Nat} (h : start + 4 ≤ message.length) :
    PayloadAt message .fixed32 start start (start + 4)

theorem PayloadAt.le {message : Bytes} {type : WireType} {start first stop : Nat}
    (h : PayloadAt message type start first stop) : start ≤ stop := by
  cases h with
  | varint h => exact h.lt.le
  | fixed64 h => omega
  | lengthDelimited h hsize =>
    have hlt := h.lt
    omega
  | fixed32 h => omega

theorem PayloadAt.inside {message : Bytes} {type : WireType} {start first stop : Nat}
    (h : PayloadAt message type start first stop) : stop ≤ message.length := by
  cases h with
  | varint h => exact h.inside
  | fixed64 h => exact h
  | lengthDelimited h hsize => exact hsize
  | fixed32 h => exact h

/-- A field where it stands in a message: its payload from `start` up to `stop`, without
the length in front of it and without the tags of a group. -/
structure Occurrence where
  number : Nat
  type : WireType
  start : Nat
  stop : Nat
  deriving DecidableEq, Repr

/-- A sequence of fields from one position to another, with groups nested `levels` deep
at most. The occurrences are those of the sequence itself, not of its groups. -/
inductive FieldsAt (message : Bytes) :
    (levels start : Nat) → List Occurrence → (stop : Nat) → Prop where
  | nil {levels start : Nat} : FieldsAt message levels start [] start
  | value {levels start body first next stop : Nat} {tag : Tag} {fields : List Occurrence}
      (htag : TagAt message start tag body) (hpayload : PayloadAt message tag.type body first next)
      (hfields : FieldsAt message levels next fields stop) :
    FieldsAt message levels start (⟨tag.number, tag.type, first, next⟩ :: fields) stop
  | group {levels start body last next stop number : Nat} {inner fields : List Occurrence}
      (hopen : TagAt message start ⟨number, .startGroup⟩ body)
      (hinner : FieldsAt message levels body inner last)
      (hclose : TagAt message last ⟨number, .endGroup⟩ next)
      (hfields : FieldsAt message (levels + 1) next fields stop) :
    FieldsAt message (levels + 1) start (⟨number, .startGroup, body, last⟩ :: fields) stop

theorem FieldsAt.le {message : Bytes} {levels start stop : Nat} {fields : List Occurrence}
    (h : FieldsAt message levels start fields stop) : start ≤ stop := by
  induction h with
  | nil => exact le_rfl
  | value htag hpayload hfields ih =>
    have htagLt := htag.start_lt
    have hle := hpayload.le
    omega
  | group hopen hinner hclose hfields ihInner ih =>
    have hopenLt := hopen.start_lt
    have hcloseLt := hclose.start_lt
    omega

/-- One field from `start` up to `stop`. -/
inductive FieldAt (message : Bytes) :
    (levels start : Nat) → Occurrence → (stop : Nat) → Prop where
  | value {levels start body first stop : Nat} {tag : Tag} (htag : TagAt message start tag body)
      (hpayload : PayloadAt message tag.type body first stop) :
    FieldAt message levels start ⟨tag.number, tag.type, first, stop⟩ stop
  | group {levels start body last stop number : Nat} {inner : List Occurrence}
      (hopen : TagAt message start ⟨number, .startGroup⟩ body)
      (hinner : FieldsAt message levels body inner last)
      (hclose : TagAt message last ⟨number, .endGroup⟩ stop) :
    FieldAt message (levels + 1) start ⟨number, .startGroup, body, last⟩ stop

theorem FieldAt.cons {message : Bytes} {levels start next stop : Nat} {field : Occurrence}
    {fields : List Occurrence} (h : FieldAt message levels start field next)
    (hfields : FieldsAt message levels next fields stop) :
    FieldsAt message levels start (field :: fields) stop := by
  cases h with
  | value htag hpayload => exact .value htag hpayload hfields
  | group hopen hinner hclose => exact .group hopen hinner hclose hfields

theorem FieldsAt.uncons {message : Bytes} {levels start stop : Nat} {field : Occurrence}
    {fields : List Occurrence} (h : FieldsAt message levels start (field :: fields) stop) :
    ∃ next, FieldAt message levels start field next ∧
      FieldsAt message levels next fields stop := by
  cases h with
  | value htag hpayload hfields => exact ⟨_, .value htag hpayload, hfields⟩
  | group hopen hinner hclose hfields => exact ⟨_, .group hopen hinner hclose, hfields⟩

/-- A field takes at least its tag. -/
theorem FieldAt.start_lt {message : Bytes} {levels start stop : Nat} {field : Occurrence}
    (h : FieldAt message levels start field stop) : start < stop := by
  cases h with
  | value htag hpayload =>
    have htagLt := htag.start_lt
    have hle := hpayload.le
    omega
  | group hopen hinner hclose =>
    have hopenLt := hopen.start_lt
    have hle := hinner.le
    have hcloseLt := hclose.start_lt
    omega

theorem FieldAt.inside {message : Bytes} {levels start stop : Nat} {field : Occurrence}
    (h : FieldAt message levels start field stop) : stop ≤ message.length := by
  cases h with
  | value htag hpayload => exact hpayload.inside
  | group hopen hinner hclose => exact hclose.inside

theorem FieldAt.number_lt {message : Bytes} {levels start stop : Nat} {field : Occurrence}
    (h : FieldAt message levels start field stop) : field.number < 2 ^ 29 := by
  cases h with
  | value htag hpayload => exact htag.lt
  | group hopen hinner hclose => exact hopen.lt

theorem FieldsAt.mem_number_lt {message : Bytes} {levels start stop : Nat}
    {fields : List Occurrence} {field : Occurrence} (h : FieldsAt message levels start fields stop)
    (hmem : field ∈ fields) : field.number < 2 ^ 29 := by
  induction fields generalizing start with
  | nil => exact absurd hmem List.not_mem_nil
  | cons first fields ih =>
    obtain ⟨next, hfirst, hfields⟩ := h.uncons
    rcases List.mem_cons.mp hmem with rfl | hrest
    · exact hfirst.number_lt
    · exact ih hfields hrest

theorem FieldsAt.mem_inside {message : Bytes} {levels start stop : Nat}
    {fields : List Occurrence} {field : Occurrence} (h : FieldsAt message levels start fields stop)
    (hmem : field ∈ fields) : field.stop ≤ message.length := by
  induction fields generalizing start with
  | nil => exact absurd hmem List.not_mem_nil
  | cons first fields ih =>
    obtain ⟨next, hfirst, hfields⟩ := h.uncons
    rcases List.mem_cons.mp hmem with rfl | hrest
    · cases hfirst with
      | value htag hpayload => exact hpayload.inside
      | group hopen hinner hclose => exact le_trans hclose.start_lt.le hclose.inside
    · exact ih hfields hrest

/-- Varints one after the other. -/
inductive VarintsAt (message : Bytes) : (start : Nat) → List Nat → (stop : Nat) → Prop where
  | nil {start : Nat} : VarintsAt message start [] start
  | cons {start value next stop : Nat} {values : List Nat} (h : VarintAt message start value next)
      (hvalues : VarintsAt message next values stop) :
    VarintsAt message start (value :: values) stop

/-! ## Elements of one width -/

theorem leBytes_leNat (bytes : Bytes) : leBytes bytes.length (leNat bytes) = bytes := by
  induction bytes with
  | nil => rfl
  | cons b rest ih =>
    have hb : b.toNat < 256 := b.toNat_lt
    have hdiv : (b.toNat + 256 * leNat rest) / 256 = leNat rest := by omega
    have hbyte : UInt8.ofNat (b.toNat + 256 * leNat rest) = b := by
      apply UInt8.toNat_inj.mp
      rw [UInt8.toNat_ofNat']
      omega
    rw [leNat, List.length_cons, leBytes, hdiv, ih, hbyte]

/-- The element at an index of a packed payload. -/
theorem element_flatMap {width : Nat} {values : List Nat} {index : Nat}
    (h : index < values.length) :
    ((values.flatMap (leBytes width)).drop (index * width)).take width =
      leBytes width (values.get ⟨index, h⟩) := by
  induction values generalizing index with
  | nil => exact absurd h (Nat.not_lt_zero _)
  | cons value values ih =>
    have hlength : (leBytes width value).length = width := leBytes_length width value
    cases index with
    | zero =>
      rw [Nat.zero_mul, List.drop_zero, List.flatMap_cons]
      exact List.take_left' hlength
    | succ index =>
      rw [List.flatMap_cons, Nat.succ_mul, Nat.add_comm, ← List.drop_drop,
        List.drop_left' hlength]
      exact ih (Nat.lt_of_succ_lt_succ h)

/-- A payload of whole elements is the elements' bytes. -/
theorem flatMap_elements {width count : Nat} {content : Bytes}
    (h : content.length = count * width) :
    ((List.range count).map fun index =>
      leNat ((content.drop (index * width)).take width)).flatMap (leBytes width) = content := by
  induction count generalizing content with
  | zero =>
    rw [Nat.zero_mul] at h
    rw [List.eq_nil_of_length_eq_zero h]
    rfl
  | succ count ih =>
    rw [Nat.succ_mul] at h
    have hfirst : (content.take width).length = width := by
      rw [List.length_take]
      omega
    have hrest : (content.drop width).length = count * width := by
      rw [List.length_drop]
      omega
    have htail : ((List.range count).map fun index =>
        leNat ((content.drop ((index + 1) * width)).take width)) =
        (List.range count).map fun index =>
          leNat (((content.drop width).drop (index * width)).take width) := by
      refine List.map_congr_left fun index _ => ?_
      rw [List.drop_drop, Nat.succ_mul, Nat.add_comm]
    rw [List.range_succ_eq_map, List.map_cons, List.map_map, List.flatMap_cons, Nat.zero_mul,
      List.drop_zero]
    have hhead : leBytes width (leNat (content.take width)) = content.take width := by
      have heq := leBytes_leNat (content.take width)
      rwa [hfirst] at heq
    show _ ++ ((List.range count).map fun index =>
      leNat ((content.drop ((index + 1) * width)).take width)).flatMap (leBytes width) = _
    rw [htail, ih hrest, hhead, List.take_append_drop]

end Wire
