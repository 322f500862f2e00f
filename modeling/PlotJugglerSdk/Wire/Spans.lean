import PlotJugglerSdk.Wire.Groups

/-!
# Flat field sequences, where they stand

The fields of a message without groups, by position, for any reading of the raw tags, and
the tags such a reading meets from the front on, as far as it gets.

* `SpansAt`                            — the fields from one position up to another
* `tags`                               — the tags that are met
* `SpansAt.fieldsAt`, `FieldsAt.spansAt` — with the numbers of the format, the grammar with
  groups
-/

namespace Wire

/-! ## Parts of a message -/

/-- A varint that is written in a message. -/
theorem varintAt_written (front rest : Bytes) {value : Nat} (h : value < 2 ^ 64) :
    VarintAt (front ++ (varintBytes value ++ rest)) front.length value
      (front.length + (varintBytes value).length) := by
  have hpos : 0 < (varintBytes value).length := List.length_pos_of_ne_nil (varintBytes_ne_nil value)
  refine ⟨by omega, by simp only [List.length_append]; omega, ?_⟩
  rw [List.drop_left, ← List.drop_drop, List.drop_left, List.drop_left]
  exact takeVarint_varintBytes h rest

/-- How many bytes a payload has from where it begins. -/
def Payload.size : Payload → Nat → Nat
  | .bytes content, _ => content.length
  | _, extent => extent

/-- A payload in front of a suffix of a message stands there. -/
theorem payloadAt_of_take {message rest : Bytes} {type : WireType} {start : Nat} {payload : Payload}
    (h : takePayload type (message.drop start) = some (payload, rest)) :
    ∃ first stop, PayloadAt message type start first stop ∧ rest = message.drop stop ∧
      first = stop - payload.size (stop - start) := by
  cases type <;> simp only [takePayload, Option.map_eq_some_iff, Option.bind_eq_bind,
    Option.bind_eq_some_iff, Option.some.injEq, Prod.mk.injEq, reduceCtorEq] at h
  case varint =>
    obtain ⟨⟨value, rest'⟩, htake, rfl, rfl⟩ := h
    have hat := varintAt_of_take htake
    have hdrop := hat.read
    rw [htake] at hdrop
    simp only [Option.some.injEq, Prod.mk.injEq, true_and] at hdrop
    have hlt := hat.lt
    exact ⟨start, _, .varint hat, hdrop, by simp only [Payload.size]; omega⟩
  case fixed64 =>
    obtain ⟨⟨front, rest'⟩, htake, rfl, rfl⟩ := h
    obtain ⟨hsplit, hlen⟩ := takeBytes_eq_some htake
    have hlength := congrArg List.length hsplit
    rw [List.length_append, List.length_drop, hlen] at hlength
    refine ⟨start, start + 8, .fixed64 (by omega), ?_, by simp [Payload.size]⟩
    rw [← List.drop_drop, hsplit, ← hlen, List.drop_left]
  case fixed32 =>
    obtain ⟨⟨front, rest'⟩, htake, rfl, rfl⟩ := h
    obtain ⟨hsplit, hlen⟩ := takeBytes_eq_some htake
    have hlength := congrArg List.length hsplit
    rw [List.length_append, List.length_drop, hlen] at hlength
    refine ⟨start, start + 4, .fixed32 (by omega), ?_, by simp [Payload.size]⟩
    rw [← List.drop_drop, hsplit, ← hlen, List.drop_left]
  case lengthDelimited =>
    -- the size is a number at a place, and the content stands right behind it
    obtain ⟨⟨size, middle⟩, hsize, ⟨content, rest'⟩, hcontent, rfl, rfl⟩ := h
    have hat := varintAt_of_take hsize
    have hdrop := hat.read
    rw [hsize] at hdrop
    simp only [Option.some.injEq, Prod.mk.injEq, true_and] at hdrop
    obtain ⟨hsplit, hlen⟩ := takeBytes_eq_some hcontent
    simp only at hsplit hlen hdrop
    have hinside := hat.inside
    have hlength := congrArg List.length hsplit
    rw [hdrop, List.length_append, List.length_drop, hlen] at hlength
    refine ⟨_, _, .lengthDelimited hat (by omega), ?_, ?_⟩
    · rw [← List.drop_drop, ← hdrop, hsplit, ← hlen, List.drop_left]
    · simp only [Payload.size]
      omega

/-- A payload that stands in a message is in front of a suffix of it. -/
theorem take_of_payloadAt {message : Bytes} {type : WireType} {start first stop : Nat}
    (h : PayloadAt message type start first stop) :
    ∃ payload, takePayload type (message.drop start) = some (payload, message.drop stop) ∧
      first = stop - payload.size (stop - start) := by
  cases h with
  | varint h =>
    have hlt := h.lt
    refine ⟨_, by rw [takePayload, h.read]; rfl, ?_⟩
    simp only [Payload.size]
    omega
  | fixed64 h =>
    have htake : takeBytes 8 (message.drop start) =
        some ((message.drop start).take 8, message.drop (start + 8)) := by
      rw [takeBytes, if_pos (by rw [List.length_drop]; omega), List.drop_drop]
    exact ⟨_, by rw [takePayload, htake]; rfl, by simp [Payload.size]⟩
  | fixed32 h =>
    have htake : takeBytes 4 (message.drop start) =
        some ((message.drop start).take 4, message.drop (start + 4)) := by
      rw [takeBytes, if_pos (by rw [List.length_drop]; omega), List.drop_drop]
    exact ⟨_, by rw [takePayload, htake]; rfl, by simp [Payload.size]⟩
  | @lengthDelimited start size first h hsize =>
    have htake : takeBytes size (message.drop first) =
        some ((message.drop first).take size, message.drop (first + size)) := by
      rw [takeBytes, if_pos (by rw [List.length_drop]; omega), List.drop_drop]
    refine ⟨.bytes ((message.drop first).take size), ?_, ?_⟩
    · rw [takePayload, h.read]
      show (takeBytes size (message.drop first)).bind _ = _
      rw [htake]
      rfl
    · simp only [Payload.size, List.length_take, List.length_drop]
      omega

section Reading

-- What the reader makes of a raw tag.
variable (readTag : Nat → Option Tag)

/-! ## Fields -/

/-- A sequence of fields that are no groups, from one position to another. -/
inductive SpansAt (message : Bytes) : (start : Nat) → List Occurrence → (stop : Nat) → Prop where
  | nil {start : Nat} : SpansAt message start [] start
  | cons {start raw body first next stop : Nat} {tag : Tag} {fields : List Occurrence}
      (hraw : VarintAt message start raw body) (htag : readTag raw = some tag)
      (hpayload : PayloadAt message tag.type body first next)
      (hfields : SpansAt message next fields stop) :
    SpansAt message start (⟨tag.number, tag.type, first, next⟩ :: fields) stop

/-! ## Tags -/

/-- The tags in front of the fields, raw and read, up to the first that is refused or has
no payload behind it. A field takes a byte at least, so as many rounds as there are bytes are
enough. -/
def tagsWithin : Nat → Bytes → List (Nat × Tag)
  | 0, _ => []
  | rounds + 1, bytes =>
    match takeVarint 0 bytes with
    | none => []
    | some (raw, body) =>
      match readTag raw with
      | none => []
      | some tag =>
        (raw, tag) ::
          (takePayload tag.type body).elim [] fun taken => tagsWithin rounds taken.2

def tags (bytes : Bytes) : List (Nat × Tag) := tagsWithin readTag bytes.length bytes

variable {readTag}

theorem takeVarint_shrinks {bytes rest : Bytes} {value : Nat}
    (h : takeVarint 0 bytes = some (value, rest)) : rest.length < bytes.length := by
  obtain ⟨front, rfl, hne, -⟩ := takeVarint_local h
  have hpos : 0 < front.length := List.length_pos_of_ne_nil hne
  rw [List.length_append]
  omega

theorem tagsWithin_eq {rounds : Nat} {bytes : Bytes} (h : bytes.length ≤ rounds) :
    tagsWithin readTag rounds bytes = tags readTag bytes := by
  induction hlen : bytes.length using Nat.strongRecOn generalizing bytes rounds with
  | _ length ih =>
    subst hlen
    cases bytes with
    | nil => cases rounds <;> rfl
    | cons b tail =>
      obtain ⟨rounds, rfl⟩ : ∃ r, rounds = r + 1 :=
        ⟨rounds - 1, by rw [List.length_cons] at h; omega⟩
      rw [tags, List.length_cons, tagsWithin, tagsWithin]
      cases htake : takeVarint 0 (b :: tail) with
      | none => rfl
      | some taken =>
        obtain ⟨raw, body⟩ := taken
        have hbody := takeVarint_shrinks htake
        rw [List.length_cons] at hbody h
        cases htag : readTag raw with
        | none => simp only [htag]
        | some tag =>
          cases hpayload : takePayload tag.type body with
          | none => simp only [htag, hpayload, Option.elim_none]
          | some taken' =>
            obtain ⟨payload, rest⟩ := taken'
            have hlt := takePayload_length hpayload
            -- the rest is shorter by the tag at least, which is enough for either bound
            have hrounds : tagsWithin readTag rounds rest = tags readTag rest :=
              ih rest.length (by rw [List.length_cons]; omega) (by omega) rfl
            have htail : tagsWithin readTag tail.length rest = tags readTag rest :=
              ih rest.length (by rw [List.length_cons]; omega) (by omega) rfl
            simp only [htag, hpayload, Option.elim_some, hrounds, htail]

theorem tags_nil : tags readTag [] = [] := rfl

/-- A tag is met, then what is behind its payload. -/
theorem tags_met {bytes body : Bytes} {raw : Nat} {tag : Tag}
    (htake : takeVarint 0 bytes = some (raw, body)) (htag : readTag raw = some tag) :
    tags readTag bytes =
      (raw, tag) :: (takePayload tag.type body).elim [] fun taken => tags readTag taken.2 := by
  cases bytes with
  | nil => cases htake
  | cons b tail =>
    have hbody := takeVarint_shrinks htake
    rw [List.length_cons] at hbody
    rw [tags, List.length_cons, tagsWithin, htake]
    simp only [htag]
    cases hpayload : takePayload tag.type body with
    | none => rfl
    | some taken =>
      obtain ⟨payload, rest⟩ := taken
      have hlt := takePayload_length hpayload
      simp only [Option.elim_some]
      rw [tagsWithin_eq (by omega)]

theorem tags_unread {bytes : Bytes} (htake : takeVarint 0 bytes = none) :
    tags readTag bytes = [] := by
  cases bytes with
  | nil => rfl
  | cons b tail => rw [tags, List.length_cons, tagsWithin, htake]

theorem tags_refused {bytes body : Bytes} {raw : Nat}
    (htake : takeVarint 0 bytes = some (raw, body)) (htag : readTag raw = none) :
    tags readTag bytes = [] := by
  cases bytes with
  | nil => rfl
  | cons b tail =>
    rw [tags, List.length_cons, tagsWithin, htake]
    simp only [htag]

/-! ## Fields and their tags -/

/-- A tag that is met is read as it says. -/
theorem tagsWithin_read {rounds : Nat} {bytes : Bytes} {met : Nat × Tag}
    (h : met ∈ tagsWithin readTag rounds bytes) : readTag met.1 = some met.2 := by
  induction rounds generalizing bytes with
  | zero => exact absurd h List.not_mem_nil
  | succ rounds ih =>
    rw [tagsWithin] at h
    split at h
    · exact absurd h List.not_mem_nil
    · next raw body htake =>
      split at h
      · exact absurd h List.not_mem_nil
      · next tag htag =>
        obtain rfl | hrest := List.mem_cons.mp h
        · exact htag
        · cases hpayload : takePayload tag.type body with
          | none =>
            rw [hpayload] at hrest
            exact absurd hrest List.not_mem_nil
          | some taken =>
            rw [hpayload] at hrest
            exact ih hrest

theorem tags_read {bytes : Bytes} {met : Nat × Tag} (h : met ∈ tags readTag bytes) :
    readTag met.1 = some met.2 := tagsWithin_read h

/-- The tag of the first field is the first that is met. -/
theorem SpansAt.tags_cons {message : Bytes} {start raw body first next : Nat} {tag : Tag}
    (hraw : VarintAt message start raw body) (htag : readTag raw = some tag)
    (hpayload : PayloadAt message tag.type body first next) :
    tags readTag (message.drop start) = (raw, tag) :: tags readTag (message.drop next) := by
  obtain ⟨payload, htake, -⟩ := take_of_payloadAt hpayload
  rw [tags_met hraw.read htag, htake]
  rfl

/-- Up to the end of the message, the fields are those whose tags are met. -/
theorem SpansAt.numbers {message : Bytes} {start stop : Nat} {fields : List Occurrence}
    (h : SpansAt readTag message start fields stop) (hstop : stop = message.length) :
    fields.map (·.number) = (tags readTag (message.drop start)).map (·.2.number) := by
  induction h with
  | nil =>
    rw [hstop, List.drop_length, tags_nil]
    rfl
  | cons hraw htag hpayload hfields ih =>
    rw [SpansAt.tags_cons hraw htag hpayload, List.map_cons, List.map_cons, ih hstop]

/-- A reading that agrees on the tags that are met sees the same fields. -/
theorem SpansAt.transport {readTag' : Nat → Option Tag} {message : Bytes} {start stop : Nat}
    {fields : List Occurrence} (h : SpansAt readTag message start fields stop)
    (hsame : ∀ met ∈ tags readTag (message.drop start), readTag' met.1 = some met.2) :
    SpansAt readTag' message start fields stop := by
  induction h with
  | nil => exact .nil
  | @cons start raw body first next stop tag fields hraw htag hpayload hfields ih =>
    rw [SpansAt.tags_cons hraw htag hpayload] at hsame
    refine .cons hraw (hsame (raw, tag) List.mem_cons_self) hpayload (ih ?_)
    intro met hmet
    exact hsame met (List.mem_cons_of_mem _ hmet)

/-- A reading that takes more tags sees the fields of one that takes fewer. -/
theorem SpansAt.mono {readTag' : Nat → Option Tag} {message : Bytes} {start stop : Nat}
    {fields : List Occurrence} (h : SpansAt readTag message start fields stop)
    (hread : ∀ raw tag, readTag raw = some tag → readTag' raw = some tag) :
    SpansAt readTag' message start fields stop :=
  h.transport fun met hmet => hread met.1 met.2 (tags_read hmet)

end Reading

/-! ## The numbers of the format -/

/-- The reading that takes the field numbers of the format and no others. -/
def strictTag (raw : Nat) : Option Tag :=
  if 0 < raw / 8 ∧ raw / 8 < 2 ^ 29 then some ⟨raw / 8, .ofRaw raw⟩ else none

theorem strictTag_eq_some_iff {raw : Nat} {tag : Tag} :
    strictTag raw = some tag ↔
      raw / 8 = tag.number ∧ WireType.ofRaw raw = tag.type ∧ 0 < tag.number ∧
        tag.number < 2 ^ 29 := by
  obtain ⟨number, type⟩ := tag
  unfold strictTag
  constructor
  · intro h
    split at h
    · next hvalid =>
      obtain ⟨rfl, rfl⟩ := Tag.mk.inj (Option.some.inj h)
      exact ⟨rfl, rfl, hvalid⟩
    · cases h
  · rintro ⟨rfl, rfl, hvalid⟩
    exact if_pos hvalid

theorem tagAt_iff {message : Bytes} {start stop : Nat} {tag : Tag} :
    TagAt message start tag stop ↔
      ∃ raw, VarintAt message start raw stop ∧ strictTag raw = some tag := by
  constructor
  · rintro ⟨⟨raw, hraw, hnumber, htype⟩, hpos, hlt⟩
    exact ⟨raw, hraw, strictTag_eq_some_iff.mpr ⟨hnumber, htype, hpos, hlt⟩⟩
  · rintro ⟨raw, hraw, htag⟩
    obtain ⟨hnumber, htype, hpos, hlt⟩ := strictTag_eq_some_iff.mp htag
    exact ⟨⟨raw, hraw, hnumber, htype⟩, hpos, hlt⟩

/-- A flat field sequence is one of the grammar with groups. -/
theorem SpansAt.fieldsAt {message : Bytes} {start stop : Nat} {fields : List Occurrence}
    (h : SpansAt strictTag message start fields stop) (levels : Nat) :
    FieldsAt message levels start fields stop := by
  induction h with
  | nil => exact .nil
  | cons hraw htag hpayload hfields ih =>
    exact .value (tagAt_iff.mpr ⟨_, hraw, htag⟩) hpayload ih

/-- The grammar with groups, where none is met. -/
theorem FieldsAt.spansAt {readTag : Nat → Option Tag} {message : Bytes} {levels start stop : Nat}
    {fields : List Occurrence} (h : FieldsAt message levels start fields stop)
    (hread : ∀ raw tag, strictTag raw = some tag → readTag raw = some tag)
    (hgroups : ∀ met ∈ tags readTag (message.drop start), met.2.type ≠ .startGroup) :
    SpansAt strictTag message start fields stop := by
  induction fields generalizing start with
  | nil =>
    cases h
    exact .nil
  | cons field fields ih =>
    obtain ⟨next, hfield, hfields⟩ := h.uncons
    cases hfield with
    | value htag hpayload =>
      obtain ⟨raw, hraw, hstrict⟩ := tagAt_iff.mp htag
      have htags := SpansAt.tags_cons hraw (hread _ _ hstrict) hpayload
      refine .cons hraw hstrict hpayload (ih hfields ?_)
      intro met hmet
      apply hgroups met
      rw [htags]
      exact List.mem_cons_of_mem _ hmet
    | @group _ _ _ _ _ number _ hopen hinner hclose =>
      obtain ⟨raw, hraw, hstrict⟩ := tagAt_iff.mp hopen
      have hmet : (raw, ⟨number, .startGroup⟩) ∈ tags readTag (message.drop start) := by
        rw [tags_met hraw.read (hread _ _ hstrict)]
        exact List.mem_cons_self
      exact absurd rfl (hgroups _ hmet)

end Wire
