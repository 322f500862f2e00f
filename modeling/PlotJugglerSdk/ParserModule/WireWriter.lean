import PlotJugglerSdk.Builtin.Geometry

/-!
# WireWriter

The authoring kit's writer of canonical wires, and the messages that several
objects share. Every call of the source returns a status, and the calls behind
a failed one are skipped; here a call is a `Step` on the bytes written so far,
and `writeAll` makes the calls in order until one fails.

`Appends step piece` says what a call that succeeds has appended. There is one
lemma for each call, and `writeAll_ok` puts them together. The pieces are those
of the host's `Writer`.
-/

namespace PlotJugglerSdk.ParserModule

open Wire

/-! ## Blob -/

/-- `Blob::append`, with memory for every size there is. -/
def append (blob bytes : Bytes) : Except String Bytes :=
  if 2 ^ 64 - 1 - blob.length < bytes.length then .error "parser-module output size overflow"
  else .ok (blob ++ bytes)

theorem append_ok {blob bytes blob' : Bytes} (h : append blob bytes = .ok blob')
    (hblob : blob.length < 2 ^ 64) : blob' = blob ++ bytes ∧ blob'.length < 2 ^ 64 := by
  unfold append at h
  split at h
  · exact absurd h (by simp)
  · next hfits =>
    obtain rfl := Except.ok.inj h
    refine ⟨rfl, ?_⟩
    rw [List.length_append]
    omega

/-! ## Calls -/

abbrev Step := Bytes → Except String Bytes

/-- Calls in order; the first failure is the outcome. -/
def calls : List Step → Step
  | [], blob => .ok blob
  | step :: steps, blob =>
    match step blob with
    | .error e => .error e
    | .ok blob => calls steps blob

/-- What a fresh writer holds after the calls. -/
def writeAll (steps : List Step) : Except String Bytes := calls steps []

namespace WireWriter

def varint (value : Nat) : Step := fun blob => append blob (varintBytes value)

def littleEndian (value width : Nat) : Step := fun blob => append blob (leBytes width value)

def tag (fieldNumber wireType : Nat) : Step := fun blob =>
  if fieldNumber = 0 ∨ 0x1FFFFFFF < fieldNumber ∨ 5 < wireType ∨ wireType = 3 ∨ wireType = 4 then
    .error "invalid canonical-wire tag"
  else varint (fieldNumber <<< 3 ||| wireType) blob

def varintField (fieldNumber : Nat) (value : UInt64) : Step :=
  calls [tag fieldNumber 0, varint value.toNat]

def fixed32Field (fieldNumber : Nat) (value : UInt32) : Step :=
  calls [tag fieldNumber 5, littleEndian value.toNat 4]

def fixed64Field (fieldNumber : Nat) (value : UInt64) : Step :=
  calls [tag fieldNumber 1, littleEndian value.toNat 8]

def rawFixed64 (value : UInt64) : Step := littleEndian value.toNat 8

def doubleField (fieldNumber : Nat) (value : F64) : Step := fixed64Field fieldNumber value

def floatField (fieldNumber : Nat) (value : F32) : Step := fixed32Field fieldNumber value

def lengthDelimited (fieldNumber : Nat) (value : Bytes) : Step :=
  calls [tag fieldNumber 2, varint value.length, fun blob => append blob value]

def stringField (fieldNumber : Nat) (value : Bytes) : Step := lengthDelimited fieldNumber value

/-- `messageField` of a nested writer that the given calls were made on. -/
def messageField (fieldNumber : Nat) (nested : List Step) : Step := fun blob =>
  match writeAll nested with
  | .error e => .error e
  | .ok content => lengthDelimited fieldNumber content blob

/-- `for (const auto& item : items) { … }` -/
def forEach {α : Type} (items : List α) (step : α → Step) : Step := calls (items.map step)

/-- `if (condition) { … }` -/
def whenever (condition : Bool) (step : Step) : Step := fun blob =>
  if condition then step blob else .ok blob

end WireWriter

open WireWriter

/-- Seconds rounded down, and nanoseconds from zero up. -/
def secondsAndNanos (timestampNs : Int64) : Int64 × Int32 :=
  let seconds := timestampNs / 1000000000
  let nanos := (timestampNs % 1000000000).toInt32
  if nanos < 0 then (seconds - 1, nanos + 1000000000) else (seconds, nanos)

def writeTimestamp (timestampNs : Int64) : Step :=
  messageField 1
    [varintField 1 (secondsAndNanos timestampNs).1.toUInt64,
     varintField 2 (secondsAndNanos timestampNs).2.toUInt32.toUInt64]

structure Vector2State where
  x : F64 := .zero
  y : F64 := .zero

structure Vector3State where
  x : F64 := .zero
  y : F64 := .zero
  z : F64 := .zero

structure QuaternionState where
  x : F64 := .zero
  y : F64 := .zero
  z : F64 := .zero
  w : F64 := .one

structure PoseState where
  position : Vector3State := {}
  orientation : QuaternionState := {}

structure ColorState where
  r : F64 := .zero
  g : F64 := .zero
  b : F64 := .zero
  a : F64 := .one

inductive PointFieldDatatype where
  | unknown
  | int8
  | uint8
  | int16
  | uint16
  | int32
  | uint32
  | float32
  | float64
  deriving DecidableEq

def PointFieldDatatype.code : PointFieldDatatype → UInt32
  | unknown => 0
  | int8 => 1
  | uint8 => 2
  | int16 => 3
  | uint16 => 4
  | int32 => 5
  | uint32 => 6
  | float32 => 7
  | float64 => 8

structure PointFieldState where
  name : Bytes := []
  offset : UInt32 := 0
  datatype : PointFieldDatatype := .unknown
  count : UInt32 := 1

def writeVector2 (field : Nat) (value : Vector2State) : Step :=
  messageField field [doubleField 1 value.x, doubleField 2 value.y]

def writeVector3 (field : Nat) (value : Vector3State) : Step :=
  messageField field [doubleField 1 value.x, doubleField 2 value.y, doubleField 3 value.z]

def writePose (field : Nat) (value : PoseState) : Step :=
  messageField field
    [writeVector3 1 value.position,
     messageField 2
      [doubleField 1 value.orientation.x, doubleField 2 value.orientation.y,
       doubleField 3 value.orientation.z, doubleField 4 value.orientation.w]]

def writeColor (field : Nat) (value : ColorState) : Step :=
  messageField field
    [doubleField 1 value.r, doubleField 2 value.g, doubleField 3 value.b, doubleField 4 value.a]

def writePointField (fieldNumber : Nat) (field : PointFieldState) : Step :=
  messageField fieldNumber
    [stringField 1 field.name, varintField 2 field.offset.toUInt64,
     varintField 3 field.datatype.code.toUInt64, varintField 4 field.count.toUInt64]

def writePackedDoubles (field : Nat) (values : List F64) : Step :=
  messageField field [forEach values rawFixed64]

/-! ## What the calls append -/

/-- A call that succeeds has appended the piece, and the bytes still have a size. -/
def Appends (step : Step) (piece : Bytes) : Prop :=
  ∀ blob blob', blob.length < 2 ^ 64 → step blob = .ok blob' →
    blob' = blob ++ piece ∧ blob'.length < 2 ^ 64

theorem appends_append (bytes : Bytes) : Appends (fun blob => append blob bytes) bytes :=
  fun _ _ hblob h => append_ok h hblob

theorem appends_calls {steps : List Step} {pieces : List Bytes}
    (h : List.Forall₂ Appends steps pieces) : Appends (calls steps) pieces.flatten := by
  induction h with
  | nil =>
    intro blob blob' hblob hcalls
    obtain rfl := Except.ok.inj hcalls
    exact ⟨by simp, hblob⟩
  | @cons step piece steps pieces hstep hsteps ih =>
    intro blob blob' hblob hcalls
    rw [calls] at hcalls
    cases hfirst : step blob with
    | error e => simp [hfirst] at hcalls
    | ok middle =>
      simp only [hfirst] at hcalls
      obtain ⟨rfl, hmiddle⟩ := hstep blob middle hblob hfirst
      obtain ⟨rfl, hfinal⟩ := ih _ _ hmiddle hcalls
      exact ⟨by rw [List.flatten_cons, List.append_assoc], hfinal⟩

theorem writeAll_ok {steps : List Step} {pieces : List Bytes} {wire : Bytes}
    (h : List.Forall₂ Appends steps pieces) (hwrite : writeAll steps = .ok wire) :
    wire = pieces.flatten ∧ wire.length < 2 ^ 64 := by
  simpa using appends_calls h [] wire (by simp) hwrite

theorem appends_tag {fieldNumber : Nat} (type : WireType) :
    Appends (tag fieldNumber type.code) (Writer.tag fieldNumber type) := by
  intro blob blob' hblob h
  unfold tag at h
  split at h
  · exact absurd h (by simp)
  · have hraw : fieldNumber <<< 3 ||| type.code = rawTag fieldNumber type := by
      have hcode := type.code_lt
      rw [← Nat.shiftLeft_add_eq_or_of_lt hcode, Nat.shiftLeft_eq]
      unfold rawTag
      omega
    unfold varint at h
    rw [hraw] at h
    exact append_ok h hblob

theorem appends_varintField (fieldNumber : Nat) (value : UInt64) :
    Appends (varintField fieldNumber value) (Writer.varint fieldNumber value) := by
  have h : Appends (varintField fieldNumber value)
      [Writer.tag fieldNumber .varint, varintBytes value.toNat].flatten :=
    appends_calls (.cons (appends_tag .varint) (.cons (appends_append _) .nil))
  simpa [Writer.varint, Writer.appendVarint] using h

theorem appends_fixed32Field (fieldNumber : Nat) (value : UInt32) :
    Appends (fixed32Field fieldNumber value) (Writer.fixed32 fieldNumber value) := by
  have h : Appends (fixed32Field fieldNumber value)
      [Writer.tag fieldNumber .fixed32, leBytes 4 value.toNat].flatten :=
    appends_calls (.cons (appends_tag .fixed32) (.cons (appends_append _) .nil))
  simpa [Writer.fixed32, Writer.appendFixed32] using h

theorem appends_doubleField (fieldNumber : Nat) (value : F64) :
    Appends (doubleField fieldNumber value) (Writer.doubleField fieldNumber value) := by
  have h : Appends (doubleField fieldNumber value)
      [Writer.tag fieldNumber .fixed64, leBytes 8 value.toNat].flatten :=
    appends_calls (.cons (appends_tag .fixed64) (.cons (appends_append _) .nil))
  simpa [Writer.doubleField, Writer.fixed64, Writer.appendFixed64] using h

theorem appends_lengthDelimited (fieldNumber : Nat) (value : Bytes) :
    Appends (lengthDelimited fieldNumber value) (Writer.bytes fieldNumber value) := by
  have h : Appends (lengthDelimited fieldNumber value)
      [Writer.tag fieldNumber .lengthDelimited, varintBytes value.length, value].flatten :=
    appends_calls (.cons (appends_tag .lengthDelimited)
      (.cons (appends_append _) (.cons (appends_append value) .nil)))
  simpa [Writer.bytes, Writer.appendVarint] using h

theorem appends_stringField (fieldNumber : Nat) (value : Bytes) :
    Appends (stringField fieldNumber value) (Writer.string fieldNumber value) :=
  appends_lengthDelimited fieldNumber value

theorem appends_messageField (fieldNumber : Nat) {nested : List Step} {pieces : List Bytes}
    (h : List.Forall₂ Appends nested pieces) :
    Appends (messageField fieldNumber nested) (Writer.message fieldNumber pieces.flatten) := by
  intro blob blob' hblob hmessage
  unfold messageField at hmessage
  cases hnested : writeAll nested with
  | error e => simp [hnested] at hmessage
  | ok content =>
    obtain ⟨rfl, -⟩ := writeAll_ok h hnested
    simp only [hnested] at hmessage
    exact appends_lengthDelimited fieldNumber _ blob blob' hblob hmessage

theorem appends_forEach {α : Type} {step : α → Step} {piece : α → Bytes} (items : List α)
    (h : ∀ item, Appends (step item) (piece item)) :
    Appends (forEach items step) (items.flatMap piece) := by
  have hall : List.Forall₂ Appends (items.map step) (items.map piece) := by
    induction items with
    | nil => exact .nil
    | cons item items ih => exact .cons (h item) ih
  exact appends_calls hall

theorem appends_whenever {condition : Bool} {step : Step} {piece : Bytes}
    (h : Appends step piece) :
    Appends (whenever condition step) (if condition then piece else []) := by
  intro blob blob' hblob hstep
  unfold whenever at hstep
  cases condition with
  | true => exact h blob blob' hblob hstep
  | false =>
    obtain rfl := Except.ok.inj hstep
    exact ⟨by simp, hblob⟩

/-! With room for it, a call does append its piece. -/

/-- A call that cannot fail for anything but the size of its output. -/
def Writes (step : Step) (piece : Bytes) : Prop :=
  ∀ blob : Bytes, blob.length + piece.length < 2 ^ 64 → step blob = .ok (blob ++ piece)

theorem writes_append (bytes : Bytes) : Writes (fun blob => append blob bytes) bytes := by
  intro blob hroom
  show append blob bytes = _
  unfold append
  rw [if_neg (by omega)]

theorem writes_calls {steps : List Step} {pieces : List Bytes}
    (h : List.Forall₂ Writes steps pieces) : Writes (calls steps) pieces.flatten := by
  induction h with
  | nil =>
    intro blob _
    rw [calls, List.flatten_nil, List.append_nil]
  | @cons step piece steps pieces hstep hsteps ih =>
    intro blob hroom
    rw [List.flatten_cons, List.length_append] at hroom
    rw [calls, hstep blob (by omega), List.flatten_cons, ← List.append_assoc]
    apply ih
    rw [List.length_append]
    omega

theorem writes_tag {fieldNumber : Nat} (type : WireType) (hlow : 0 < fieldNumber)
    (hhigh : fieldNumber < 2 ^ 29)
    (htype : type.code ≤ 5 ∧ type ≠ .startGroup ∧ type ≠ .endGroup) :
    Writes (tag fieldNumber type.code) (Writer.tag fieldNumber type) := by
  intro blob hroom
  have hcode : type.code ≠ 3 ∧ type.code ≠ 4 := by
    obtain ⟨-, hstart, hend⟩ := htype
    cases type <;> simp_all [WireType.code]
  have hwritten : tag fieldNumber type.code blob =
      varint (fieldNumber <<< 3 ||| type.code) blob := by
    unfold tag
    rw [if_neg (by omega)]
  -- the piece is the one a call that succeeds has appended
  have hraw : fieldNumber <<< 3 ||| type.code = rawTag fieldNumber type := by
    rw [← Nat.shiftLeft_add_eq_or_of_lt type.code_lt, Nat.shiftLeft_eq]
    unfold rawTag
    omega
  rw [hwritten, hraw]
  exact writes_append _ blob hroom

theorem writes_varintField {fieldNumber : Nat} (value : UInt64) (hlow : 0 < fieldNumber)
    (hhigh : fieldNumber < 2 ^ 29) :
    Writes (varintField fieldNumber value) (Writer.varint fieldNumber value) := by
  have h : Writes (varintField fieldNumber value)
      [Writer.tag fieldNumber .varint, varintBytes value.toNat].flatten :=
    writes_calls (.cons (writes_tag .varint hlow hhigh (by decide)) (.cons (writes_append _) .nil))
  simpa [Writer.varint, Writer.appendVarint] using h

theorem writes_messageField {fieldNumber : Nat} {nested : List Step} {pieces : List Bytes}
    (hlow : 0 < fieldNumber) (hhigh : fieldNumber < 2 ^ 29)
    (h : List.Forall₂ Writes nested pieces) :
    Writes (messageField fieldNumber nested) (Writer.message fieldNumber pieces.flatten) := by
  intro blob hroom
  have hcontent : Writes (lengthDelimited fieldNumber pieces.flatten)
      [Writer.tag fieldNumber .lengthDelimited, varintBytes pieces.flatten.length,
        pieces.flatten].flatten :=
    writes_calls (.cons (writes_tag .lengthDelimited hlow hhigh (by decide))
      (.cons (writes_append _) (.cons (writes_append _) .nil)))
  have hpiece : [Writer.tag fieldNumber .lengthDelimited, varintBytes pieces.flatten.length,
      pieces.flatten].flatten = Writer.message fieldNumber pieces.flatten := by
    simp [Writer.message, Writer.bytes, Writer.appendVarint]
  rw [hpiece] at hcontent
  have hnested : writeAll nested = .ok pieces.flatten := by
    have hlength : pieces.flatten.length ≤ (Writer.message fieldNumber pieces.flatten).length := by
      rw [Writer.message, Writer.bytes, List.length_append]
      omega
    exact writes_calls h [] (by rw [List.length_nil]; omega)
  unfold messageField
  rw [hnested]
  exact hcontent blob hroom

/-! The shared messages, as the host's types have them. -/

def Vector2State.toHost (value : Vector2State) : Vector2 := ⟨value.x, value.y⟩

def Vector3State.toHost (value : Vector3State) : Vector3 := ⟨value.x, value.y, value.z⟩

def PoseState.toHost (value : PoseState) : Pose where
  position := value.position.toHost
  orientation :=
    ⟨value.orientation.x, value.orientation.y, value.orientation.z, value.orientation.w⟩

def PointFieldDatatype.toHost : PointFieldDatatype → PointField.Datatype
  | unknown => .unknown
  | int8 => .int8
  | uint8 => .uint8
  | int16 => .int16
  | uint16 => .uint16
  | int32 => .int32
  | uint32 => .uint32
  | float32 => .float32
  | float64 => .float64

def PointFieldState.toHost (field : PointFieldState) : PointField :=
  ⟨field.name, field.offset, field.datatype.toHost, field.count⟩

theorem secondsAndNanos_eq (timestampNs : Int64) :
    secondsAndNanos timestampNs =
      ((splitTimestamp timestampNs).seconds, (splitTimestamp timestampNs).nanos) := by
  have hbillion : nanosecondsPerSecond.toInt32 = 1000000000 := by decide
  unfold secondsAndNanos splitTimestamp
  rw [hbillion]
  unfold nanosecondsPerSecond
  dsimp only
  by_cases hnanos : (timestampNs % 1000000000).toInt32 < 0
  · rw [if_pos hnanos, if_pos hnanos]
  · rw [if_neg hnanos, if_neg hnanos]

theorem appends_writeTimestamp (timestampNs : Int64) :
    Appends (writeTimestamp timestampNs)
      (Writer.message 1 (PlotJugglerSdk.writeTimestamp timestampNs)) := by
  have h := appends_messageField 1 (.cons
    (appends_varintField 1 (splitTimestamp timestampNs).seconds.toUInt64) (.cons
      (appends_varintField 2 (splitTimestamp timestampNs).nanos.toUInt32.toUInt64) .nil))
  unfold writeTimestamp
  rw [secondsAndNanos_eq]
  simpa [PlotJugglerSdk.writeTimestamp] using h

theorem appends_writeVector2 (field : Nat) (value : Vector2State) :
    Appends (writeVector2 field value)
      (Writer.message field (PlotJugglerSdk.writeVector2 value.toHost)) := by
  have h := appends_messageField field (.cons (appends_doubleField 1 value.x)
    (.cons (appends_doubleField 2 value.y) .nil))
  unfold writeVector2
  simpa [PlotJugglerSdk.writeVector2, Vector2State.toHost] using h

theorem appends_writeVector3 (field : Nat) (value : Vector3State) :
    Appends (writeVector3 field value)
      (Writer.message field (PlotJugglerSdk.writeVector3 value.toHost)) := by
  have h := appends_messageField field (.cons (appends_doubleField 1 value.x)
    (.cons (appends_doubleField 2 value.y) (.cons (appends_doubleField 3 value.z) .nil)))
  unfold writeVector3
  simpa [PlotJugglerSdk.writeVector3, Vector3State.toHost] using h

theorem appends_writePose (field : Nat) (value : PoseState) :
    Appends (writePose field value)
      (Writer.message field (PlotJugglerSdk.writePose value.toHost)) := by
  have h := appends_messageField field (.cons (appends_writeVector3 1 value.position)
    (.cons (appends_messageField 2 (.cons (appends_doubleField 1 value.orientation.x)
      (.cons (appends_doubleField 2 value.orientation.y)
        (.cons (appends_doubleField 3 value.orientation.z)
          (.cons (appends_doubleField 4 value.orientation.w) .nil))))) .nil))
  unfold writePose
  simpa [PlotJugglerSdk.writePose, PoseState.toHost, writeQuaternion] using h

/-- The four doubles of a colour, as they stand on the wire. -/
def colorPiece (value : ColorState) : Bytes :=
  Writer.doubleField 1 value.r ++ Writer.doubleField 2 value.g ++ Writer.doubleField 3 value.b ++
    Writer.doubleField 4 value.a

theorem appends_writeColor (field : Nat) (value : ColorState) :
    Appends (writeColor field value) (Writer.message field (colorPiece value)) := by
  have h := appends_messageField field (.cons (appends_doubleField 1 value.r)
    (.cons (appends_doubleField 2 value.g) (.cons (appends_doubleField 3 value.b)
      (.cons (appends_doubleField 4 value.a) .nil))))
  unfold writeColor
  simpa [colorPiece] using h

theorem appends_writePointField (fieldNumber : Nat) (field : PointFieldState) :
    Appends (writePointField fieldNumber field)
      (Writer.message fieldNumber (PlotJugglerSdk.writePointField field.toHost)) := by
  have hdatatype : pointFieldDatatypeToWire field.datatype.toHost = field.datatype.code := by
    cases field.datatype <;> rfl
  have h := appends_messageField fieldNumber (.cons (appends_stringField 1 field.name)
    (.cons (appends_varintField 2 field.offset.toUInt64)
      (.cons (appends_varintField 3 field.datatype.code.toUInt64)
        (.cons (appends_varintField 4 field.count.toUInt64) .nil))))
  unfold writePointField
  simpa [PlotJugglerSdk.writePointField, PointFieldState.toHost, hdatatype] using h

theorem appends_writePackedDoubles (field : Nat) (values : List F64) :
    Appends (writePackedDoubles field values)
      (Writer.bytes field (values.flatMap Writer.appendFixed64)) := by
  have hraw : Appends (forEach values rawFixed64) (values.flatMap Writer.appendFixed64) :=
    appends_forEach values fun value => appends_append _
  have h := appends_messageField field (.cons hraw .nil)
  unfold writePackedDoubles
  simpa [Writer.message] using h

end PlotJugglerSdk.ParserModule
