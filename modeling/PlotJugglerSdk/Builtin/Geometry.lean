import PlotJugglerSdk.Builtin.Objects
import PlotJugglerSdk.Builtin.FieldLoops

/-!
# Shared messages of the builtin codecs

The messages several object types nest: timestamps, vectors, poses, colours and
point fields, each with its writer, its decoder and the round trip
`decode… (write… value) out = (true, value)`.

Two handlers read a varint before they look at its field number
(`timestampHandler`, `pointFieldHandler`); their `Follows` lemmas say that this
is all that sets them apart from a `switch` over declared fields.
-/

namespace PlotJugglerSdk

open Wire

variable {α : Type}

/-! ## Timestamp -/

def nanosecondsPerSecond : Int64 := 1000000000

structure TimestampParts where
  seconds : Int64 := 0
  nanos : Int32 := 0
  deriving DecidableEq

def splitTimestamp (timestampNs : Timestamp) : TimestampParts :=
  let seconds := timestampNs / nanosecondsPerSecond
  let nanos := (timestampNs % nanosecondsPerSecond).toInt32
  if nanos < 0 then ⟨seconds - 1, nanos + nanosecondsPerSecond.toInt32⟩ else ⟨seconds, nanos⟩

/-- Checked `seconds * 1e9 + nanos`; `nanos` must be in `[0, 1e9)`. -/
def combineSecondsAndNanos (seconds nanos : Int64) : Option Int64 :=
  if nanos < 0 ∨ nanosecondsPerSecond ≤ nanos then none
  else if seconds < 0 then
    -- rebased toward zero, so that the product fits whenever the sum does
    let seconds := seconds + 1
    let nanos := nanos - nanosecondsPerSecond
    if seconds < (Int64.minValue - nanos) / nanosecondsPerSecond then none
    else some (seconds * nanosecondsPerSecond + nanos)
  else if (Int64.maxValue - nanos) / nanosecondsPerSecond < seconds then none
  else some (seconds * nanosecondsPerSecond + nanos)

def combineTimestamp (parts : TimestampParts) : Option Timestamp :=
  combineSecondsAndNanos parts.seconds parts.nanos.toInt64

def writeTimestamp (timestampNs : Timestamp) : Bytes :=
  let parts := splitTimestamp timestampNs
  Writer.varint 1 parts.seconds.toUInt64 ++ Writer.varint 2 parts.nanos.toUInt32.toUInt64

def timestampFields : List (FieldDecl TimestampParts) :=
  [.varint 1 fun value parts => { parts with seconds := value.toInt64 },
   .varint 2 fun value parts => { parts with nanos := value.toUInt32.toInt32 }]

/-- Reads the value of a varint, then asks for its field number: `assign` knows
the numbers it takes. -/
def readVarintFirst (assign : Nat → Option (UInt64 → α → α)) (tag : Tag) (reader : Bytes)
    (out : α) : Bool × α × Bytes :=
  if tag.type ≠ .varint then (false, out, reader)
  else
    match Reader.readVarint reader with
    | (none, reader) => (false, out, reader)
    | (some value, reader) =>
      match assign tag.number with
      | some set => (true, set value out, reader)
      | none => (false, out, reader)

theorem readVarintFirst_steady (assign : Nat → Option (UInt64 → α → α)) (tag : Tag)
    (reader : Bytes) (out out' : α) :
    (readVarintFirst assign tag reader out).1 = (readVarintFirst assign tag reader out').1 ∧
      (readVarintFirst assign tag reader out).2.2 =
        (readVarintFirst assign tag reader out').2.2 := by
  rw [readVarintFirst, readVarintFirst]
  by_cases htype : tag.type = .varint
  · simp only [htype, ne_eq, not_true_eq_false, if_false]
    rcases Reader.readVarint reader with ⟨value, rest⟩
    cases value with
    | none => exact ⟨rfl, rfl⟩
    | some value => cases assign tag.number <;> exact ⟨rfl, rfl⟩
  · simp [htype]

theorem readVarintFirst_shrinks (assign : Nat → Option (UInt64 → α → α)) (tag : Tag)
    (reader : Bytes) (out : α) :
    (readVarintFirst assign tag reader out).2.2.length ≤ reader.length := by
  have hlen := Reader.readVarint_length reader
  rw [readVarintFirst]
  by_cases htype : tag.type = .varint
  · simp only [htype, ne_eq, not_true_eq_false, if_false]
    rcases hread : Reader.readVarint reader with ⟨value, rest⟩
    rw [hread] at hlen
    cases value with
    | none => exact hlen
    | some value => cases assign tag.number <;> exact hlen
  · simp [htype]

/-- On a varint whose number it takes, that is the read of a declared field. -/
theorem readVarintFirst_taken (assign : Nat → Option (UInt64 → α → α)) (number : Nat)
    {set : UInt64 → α → α} (hassign : assign number = some set) (reader : Bytes) (out : α) :
    readVarintFirst assign ⟨number, .varint⟩ reader out =
      readDeclared (.varint number set) reader out := by
  rw [readVarintFirst, readDeclared]
  simp only [hassign, ne_eq, not_true_eq_false, if_false, FieldDecl.varint, Reader.readPayload]
  rcases Reader.readVarint reader with ⟨value, rest⟩
  cases value <;> rfl

/-- A varint whose number it does not take is read all the same. -/
theorem readVarintFirst_refused {assign : Nat → Option (UInt64 → α → α)} {tag : Tag}
    (htype : tag.type = .varint) (hassign : assign tag.number = none) (reader : Bytes) (out : α) :
    (readVarintFirst assign tag reader out).1 = false ∧
      (readVarintFirst assign tag reader out).2.2 = (Reader.readVarint reader).2 := by
  rw [readVarintFirst]
  simp only [htype, hassign, ne_eq, not_true_eq_false, if_false]
  rcases Reader.readVarint reader with ⟨value, rest⟩
  cases value <;> exact ⟨rfl, rfl⟩

def assignTimestamp : Nat → Option (UInt64 → TimestampParts → TimestampParts)
  | 1 => some fun value parts => { parts with seconds := value.toInt64 }
  | 2 => some fun value parts => { parts with nanos := value.toUInt32.toInt32 }
  | _ => none

def timestampHandler : Handler TimestampParts where
  run := readVarintFirst assignTimestamp
  steady := readVarintFirst_steady _
  shrinks := readVarintFirst_shrinks _

theorem follows_timestampHandler : Follows timestampHandler timestampFields
    fun tag => tag.type = .varint && tag.number ≠ 1 && tag.number ≠ 2 where
  same tag reader parts hreads := by
    obtain ⟨number, type⟩ := tag
    by_cases htype : type = .varint
    · subst htype
      obtain rfl | rfl : number = 1 ∨ number = 2 := by
        simp at hreads
        omega
      · exact readVarintFirst_taken assignTimestamp 1 rfl reader parts
      · exact readVarintFirst_taken assignTimestamp 2 rfl reader parts
    · have hdecl : declared timestampFields ⟨number, type⟩ = none :=
        declared_eq_none (by simp [timestampFields, FieldDecl.varint, htype])
      simp [tableHandler, hdecl, timestampHandler, readVarintFirst, htype]
  refused tag reader parts hreads := by
    simp only [ne_eq, decide_not, Bool.and_eq_true, decide_eq_true_eq, Bool.not_eq_true',
      decide_eq_false_iff_not] at hreads
    obtain ⟨⟨htype, h1⟩, h2⟩ := hreads
    exact readVarintFirst_refused htype (by simp [assignTimestamp]) reader parts
  varint tag hreads := by
    simp at hreads
    exact hreads.1.1
  undeclared tag hreads := by
    simp only [ne_eq, decide_not, Bool.and_eq_true, decide_eq_true_eq, Bool.not_eq_true',
      decide_eq_false_iff_not] at hreads
    rw [lookup_eq_none]
    simpa [timestampFields, FieldDecl.varint, eq_comm] using ⟨hreads.1.2, hreads.2⟩

def timestampLoop : FieldLoop TimestampParts := .ofHandler follows_timestampHandler

def decodeTimestamp : Decoder Timestamp := timestampLoop.finish {} combineTimestamp

/-! The split is exact, for every 64-bit timestamp. -/

/-- C's division truncates; `Int`'s rounds down. -/
theorem tdiv_tmod_billion (a : Int) :
    (0 ≤ a → a.tdiv 1000000000 = a / 1000000000 ∧ a.tmod 1000000000 = a % 1000000000) ∧
    (a < 0 → a % 1000000000 = 0 → a.tdiv 1000000000 = a / 1000000000 ∧ a.tmod 1000000000 = 0) ∧
    (a < 0 → a % 1000000000 ≠ 0 → a.tdiv 1000000000 = a / 1000000000 + 1 ∧
      a.tmod 1000000000 = a % 1000000000 - 1000000000) := by
  rw [Int.tdiv_eq_ediv, Int.tmod_eq_emod]
  refine ⟨fun h => by simp [h], fun h hdvd => ?_, fun h hdvd => ?_⟩
  · rw [← Int.dvd_iff_emod_eq_zero] at hdvd
    simp [hdvd, Int.dvd_iff_emod_eq_zero.mp hdvd]
  · rw [ne_eq, ← Int.dvd_iff_emod_eq_zero] at hdvd
    simp [hdvd, not_le.mpr h]

theorem toInt_splitTimestamp (timestampNs : Timestamp) :
    (splitTimestamp timestampNs).seconds.toInt = timestampNs.toInt / 1000000000 ∧
      (splitTimestamp timestampNs).nanos.toInt = timestampNs.toInt % 1000000000 := by
  have hlow := timestampNs.le_toInt
  have hhigh := timestampNs.toInt_lt
  have hdiv : (timestampNs / nanosecondsPerSecond).toInt = timestampNs.toInt.tdiv 1000000000 := by
    rw [Int64.toInt_div_of_ne_right _ _ (by decide)]
    rfl
  have hmod : (timestampNs % nanosecondsPerSecond).toInt = timestampNs.toInt.tmod 1000000000 := by
    rw [Int64.toInt_mod]
    rfl
  have hfacts := tdiv_tmod_billion timestampNs.toInt
  have hnanos : (timestampNs % nanosecondsPerSecond).toInt32.toInt =
      timestampNs.toInt.tmod 1000000000 := by
    rw [Int64.toInt_toInt32, hmod, Int.bmod_eq_of_le (by omega) (by omega)]
  have hzero : (0 : Int32).toInt = 0 := rfl
  have hone : (1 : Int64).toInt = 1 := rfl
  have hbillion : nanosecondsPerSecond.toInt32.toInt = 1000000000 := rfl
  rw [splitTimestamp]
  simp only [Int32.lt_iff_toInt_lt, hnanos, hzero]
  split
  · simp only [Int64.toInt_sub, Int32.toInt_add, hdiv, hnanos]
    rw [hone, hbillion, Int.bmod_eq_of_le (by omega) (by omega),
      Int.bmod_eq_of_le (by omega) (by omega)]
    omega
  · simp only [hdiv, hnanos]
    omega

/-- The checks of `combineSecondsAndNanos` are exact: it answers whenever the
nanoseconds are in range and the sum is a 64-bit timestamp. -/
theorem combineSecondsAndNanos_eq (seconds nanos : Int64) :
    combineSecondsAndNanos seconds nanos =
      if 0 ≤ nanos.toInt ∧ nanos.toInt < 1000000000 ∧
          -2 ^ 63 ≤ seconds.toInt * 1000000000 + nanos.toInt ∧
          seconds.toInt * 1000000000 + nanos.toInt < 2 ^ 63 then
        some (Int64.ofInt (seconds.toInt * 1000000000 + nanos.toInt))
      else none := by
  have hlow := seconds.le_toInt
  have hhigh := seconds.toInt_lt
  have hbillion : nanosecondsPerSecond.toInt = 1000000000 := rfl
  have hzero : (0 : Int64).toInt = 0 := rfl
  have hone : (1 : Int64).toInt = 1 := rfl
  rw [combineSecondsAndNanos]
  simp only [Int64.lt_iff_toInt_lt, Int64.le_iff_toInt_le, hbillion, hzero]
  by_cases hrange : nanos.toInt < 0 ∨ 1000000000 ≤ nanos.toInt
  · rw [if_pos hrange, if_neg (by omega)]
  rw [if_neg hrange]
  -- negative seconds are moved by one towards zero before the product
  by_cases hneg : seconds.toInt < 0
  · have hsec : (seconds + 1).toInt = seconds.toInt + 1 := by
      rw [Int64.toInt_add, hone, Int.bmod_eq_of_le (by omega) (by omega)]
    have hnan : (nanos - nanosecondsPerSecond).toInt = nanos.toInt - 1000000000 := by
      rw [Int64.toInt_sub, hbillion, Int.bmod_eq_of_le (by omega) (by omega)]
    have hsub : (Int64.minValue - (nanos - nanosecondsPerSecond)).toInt =
        -2 ^ 63 - (nanos.toInt - 1000000000) := by
      rw [Int64.toInt_sub, hnan, Int64.toInt_minValue, Int.bmod_eq_of_le (by omega) (by omega)]
    have hdiv : ((Int64.minValue - (nanos - nanosecondsPerSecond)) / nanosecondsPerSecond).toInt =
        (-2 ^ 63 - (nanos.toInt - 1000000000)).tdiv 1000000000 := by
      rw [Int64.toInt_div_of_ne_right _ _ (by decide), hsub, hbillion]
    -- the quotient of the guard decides whether the product and the sum fit
    have hfacts := tdiv_tmod_billion (-2 ^ 63 - (nanos.toInt - 1000000000))
    rw [if_pos hneg, hdiv, hsec]
    split
    · rw [if_neg (by omega)]
    · rw [if_pos (by omega)]
      have hmul : ((seconds + 1) * nanosecondsPerSecond).toInt =
          (seconds.toInt + 1) * 1000000000 := by
        rw [Int64.toInt_mul, hsec, hbillion, Int.bmod_eq_of_le (by omega) (by omega)]
      have hsum : ((seconds + 1) * nanosecondsPerSecond + (nanos - nanosecondsPerSecond)).toInt =
          seconds.toInt * 1000000000 + nanos.toInt := by
        rw [Int64.toInt_add, hmul, hnan, Int.bmod_eq_of_le (by omega) (by omega)]
        omega
      rw [← hsum, Int64.ofInt_toInt]
  · have hsub : (Int64.maxValue - nanos).toInt = 2 ^ 63 - 1 - nanos.toInt := by
      rw [Int64.toInt_sub, Int64.toInt_maxValue, Int.bmod_eq_of_le (by omega) (by omega)]
    have hdiv : ((Int64.maxValue - nanos) / nanosecondsPerSecond).toInt =
        (2 ^ 63 - 1 - nanos.toInt).tdiv 1000000000 := by
      rw [Int64.toInt_div_of_ne_right _ _ (by decide), hsub, hbillion]
    have hfacts := tdiv_tmod_billion (2 ^ 63 - 1 - nanos.toInt)
    rw [if_neg hneg, hdiv]
    split
    · rw [if_neg (by omega)]
    · rw [if_pos (by omega)]
      have hmul : (seconds * nanosecondsPerSecond).toInt = seconds.toInt * 1000000000 := by
        rw [Int64.toInt_mul, hbillion, Int.bmod_eq_of_le (by omega) (by omega)]
      have hsum : (seconds * nanosecondsPerSecond + nanos).toInt =
          seconds.toInt * 1000000000 + nanos.toInt := by
        rw [Int64.toInt_add, hmul, Int.bmod_eq_of_le (by omega) (by omega)]
      rw [← hsum, Int64.ofInt_toInt]

theorem combineTimestamp_splitTimestamp (timestampNs : Timestamp) :
    combineTimestamp (splitTimestamp timestampNs) = some timestampNs := by
  obtain ⟨hseconds, hnanos⟩ := toInt_splitTimestamp timestampNs
  have hlow := timestampNs.le_toInt
  have hhigh := timestampNs.toInt_lt
  have hsum : timestampNs.toInt / 1000000000 * 1000000000 + timestampNs.toInt % 1000000000 =
      timestampNs.toInt := by omega
  rw [combineTimestamp, combineSecondsAndNanos_eq, Int32.toInt_toInt64, hseconds, hnanos, hsum,
    Int64.ofInt_toInt, if_pos (by omega)]

theorem rebuilds_timestampParts (parts out : TimestampParts) :
    Rebuilds timestampFields
      (Writer.varint 1 parts.seconds.toUInt64 ++ Writer.varint 2 parts.nanos.toUInt32.toUInt64)
      out parts := by
  apply Rebuilds.append
  · exact .varint (by decide) rfl rfl
  · refine .varint (by decide) rfl ?_
    simp only [Int64.toInt64_toUInt64, UInt32.toUInt32_toUInt64, Int32.toInt32_toUInt32]

theorem decodeTimestamp_writeTimestamp {timestampNs : Timestamp} (out : Timestamp)
    (hlen : (writeTimestamp timestampNs).length < 2 ^ 64) :
    decodeTimestamp (writeTimestamp timestampNs) out = (true, timestampNs) := by
  have hdecode : timestampLoop.decode (writeTimestamp timestampNs) {} =
      (true, splitTimestamp timestampNs) :=
    Rebuilds.decode (rebuilds_timestampParts (splitTimestamp timestampNs) {}) hlen
  rw [decodeTimestamp]
  exact FieldLoop.finish_of_decode out hdecode (combineTimestamp_splitTimestamp timestampNs)

/-! ## Vectors -/

def writeVector2 (v : Vector2) : Bytes := Writer.doubleField 1 v.x ++ Writer.doubleField 2 v.y

def vector2Fields : List (FieldDecl Vector2) :=
  [.fixed64 1 fun x v => { v with x },
   .fixed64 2 fun y v => { v with y }]

def vector2Loop : FieldLoop Vector2 := .lenient vector2Fields

def decodeVector2 : Decoder Vector2 := vector2Loop.decode

theorem decodeVector2_writeVector2 {v : Vector2} (out : Vector2)
    (hlen : (writeVector2 v).length < 2 ^ 64) :
    decodeVector2 (writeVector2 v) out = (true, v) := by
  have hbuild : Rebuilds vector2Fields (writeVector2 v) out v := by
    apply Rebuilds.append
    · exact .fixed64 (by decide) rfl rfl
    · exact .fixed64 (by decide) rfl rfl
  exact Rebuilds.decode hbuild hlen

def writeVector3 (v : Vector3) : Bytes :=
  Writer.doubleField 1 v.x ++ Writer.doubleField 2 v.y ++ Writer.doubleField 3 v.z

def vector3Fields : List (FieldDecl Vector3) :=
  [.fixed64 1 fun x v => { v with x },
   .fixed64 2 fun y v => { v with y },
   .fixed64 3 fun z v => { v with z }]

def vector3Loop : FieldLoop Vector3 := .lenient vector3Fields

def decodeVector3 : Decoder Vector3 := vector3Loop.decode

theorem decodeVector3_writeVector3 {v : Vector3} (out : Vector3)
    (hlen : (writeVector3 v).length < 2 ^ 64) :
    decodeVector3 (writeVector3 v) out = (true, v) := by
  have hbuild : Rebuilds vector3Fields (writeVector3 v) out v := by
    iterate 2 apply Rebuilds.append
    · exact .fixed64 (by decide) rfl rfl
    · exact .fixed64 (by decide) rfl rfl
    · exact .fixed64 (by decide) rfl rfl
  exact Rebuilds.decode hbuild hlen

/-- Same wire shape as `Vector3`. -/
def writePoint3 (p : Point3) : Bytes :=
  Writer.doubleField 1 p.x ++ Writer.doubleField 2 p.y ++ Writer.doubleField 3 p.z

def point3Fields : List (FieldDecl Point3) :=
  [.fixed64 1 fun x p => { p with x },
   .fixed64 2 fun y p => { p with y },
   .fixed64 3 fun z p => { p with z }]

def point3Loop : FieldLoop Point3 := .lenient point3Fields

def decodePoint3 : Decoder Point3 := point3Loop.decode

theorem decodePoint3_writePoint3 {p : Point3} (out : Point3)
    (hlen : (writePoint3 p).length < 2 ^ 64) :
    decodePoint3 (writePoint3 p) out = (true, p) := by
  have hbuild : Rebuilds point3Fields (writePoint3 p) out p := by
    iterate 2 apply Rebuilds.append
    · exact .fixed64 (by decide) rfl rfl
    · exact .fixed64 (by decide) rfl rfl
    · exact .fixed64 (by decide) rfl rfl
  exact Rebuilds.decode hbuild hlen

def writeQuaternion (q : Quaternion) : Bytes :=
  Writer.doubleField 1 q.x ++ Writer.doubleField 2 q.y ++ Writer.doubleField 3 q.z ++
    Writer.doubleField 4 q.w

def quaternionFields : List (FieldDecl Quaternion) :=
  [.fixed64 1 fun x q => { q with x },
   .fixed64 2 fun y q => { q with y },
   .fixed64 3 fun z q => { q with z },
   .fixed64 4 fun w q => { q with w }]

def quaternionLoop : FieldLoop Quaternion := .lenient quaternionFields

def decodeQuaternion : Decoder Quaternion := quaternionLoop.decode

theorem decodeQuaternion_writeQuaternion {q : Quaternion} (out : Quaternion)
    (hlen : (writeQuaternion q).length < 2 ^ 64) :
    decodeQuaternion (writeQuaternion q) out = (true, q) := by
  have hbuild : Rebuilds quaternionFields (writeQuaternion q) out q := by
    iterate 3 apply Rebuilds.append
    · exact .fixed64 (by decide) rfl rfl
    · exact .fixed64 (by decide) rfl rfl
    · exact .fixed64 (by decide) rfl rfl
    · exact .fixed64 (by decide) rfl rfl
  exact Rebuilds.decode hbuild hlen

/-! ## Pose -/

def writePose (p : Pose) : Bytes :=
  Writer.message 1 (writeVector3 p.position) ++ Writer.message 2 (writeQuaternion p.orientation)

def poseFields : List (FieldDecl Pose) :=
  [.message 1 decodeVector3 (·.position) fun position p => { p with position },
   .message 2 decodeQuaternion (·.orientation) fun orientation p => { p with orientation }]

def poseLoop : FieldLoop Pose := .lenient poseFields

def decodePose : Decoder Pose := poseLoop.decode

theorem decodePose_writePose {p : Pose} (out : Pose) (hlen : (writePose p).length < 2 ^ 64) :
    decodePose (writePose p) out = (true, p) := by
  have hbuild : Rebuilds poseFields (writePose p) out p := by
    apply Rebuilds.append
    · exact .message (by decide) rfl (decodeVector3_writeVector3 _) rfl
    · exact .message (by decide) rfl (decodeQuaternion_writeQuaternion _) rfl
  exact Rebuilds.decode hbuild hlen

/-! ## Color -/

section Color

variable [FloatOps]

open FloatOps

def writeColor (color : ColorRGBA) : Bytes :=
  Writer.doubleField 1 (byteToNormalized color.r) ++
    Writer.doubleField 2 (byteToNormalized color.g) ++
    Writer.doubleField 3 (byteToNormalized color.b) ++
    Writer.doubleField 4 (byteToNormalized color.a)

/-- The four channels as the decoders accumulate them. -/
structure ColorParts where
  r : F64 := .zero
  g : F64 := .zero
  b : F64 := .zero
  a : F64 := .zero
  deriving DecidableEq

def ColorParts.color (parts : ColorParts) : ColorRGBA :=
  ⟨normalizedToByte parts.r, normalizedToByte parts.g, normalizedToByte parts.b,
    normalizedToByte parts.a⟩

def colorFields : List (FieldDecl ColorParts) :=
  [.fixed64 1 fun r parts => { parts with r },
   .fixed64 2 fun g parts => { parts with g },
   .fixed64 3 fun b parts => { parts with b },
   .fixed64 4 fun a parts => { parts with a }]

def colorLoop : FieldLoop ColorParts := .lenient colorFields

def decodeColor : Decoder ColorRGBA := colorLoop.finish {} fun parts => some parts.color

theorem rebuilds_writeColor (color : ColorRGBA) (parts : ColorParts) :
    Rebuilds colorFields (writeColor color) parts ⟨byteToNormalized color.r,
      byteToNormalized color.g, byteToNormalized color.b, byteToNormalized color.a⟩ := by
  iterate 3 apply Rebuilds.append
  · exact .fixed64 (by decide) rfl rfl
  · exact .fixed64 (by decide) rfl rfl
  · exact .fixed64 (by decide) rfl rfl
  · exact .fixed64 (by decide) rfl rfl

theorem ColorParts.color_byteToNormalized (hexact : ColorExact) (color : ColorRGBA) :
    ColorParts.color ⟨byteToNormalized color.r, byteToNormalized color.g,
      byteToNormalized color.b, byteToNormalized color.a⟩ = color := by
  simp only [ColorParts.color, hexact color.r, hexact color.g, hexact color.b, hexact color.a]

theorem decodeColor_writeColor (hexact : ColorExact) {color : ColorRGBA} (out : ColorRGBA)
    (hlen : (writeColor color).length < 2 ^ 64) :
    decodeColor (writeColor color) out = (true, color) :=
  FieldLoop.finish_of_decode out (Rebuilds.decode (rebuilds_writeColor color {}) hlen)
    (congrArg some (ColorParts.color_byteToNormalized hexact color))

end Color

/-! ## PointField -/

open PointField in
def pointFieldDatatypeToWire : Datatype → UInt32
  | .unknown => 0
  | .int8 => 1
  | .uint8 => 2
  | .int16 => 3
  | .uint16 => 4
  | .int32 => 5
  | .uint32 => 6
  | .float32 => 7
  | .float64 => 8

/-- Unknown numbers become `unknown`. -/
def pointFieldDatatypeFromWire (value : UInt64) : PointField.Datatype :=
  match value.toNat with
  | 1 => .int8
  | 2 => .uint8
  | 3 => .int16
  | 4 => .uint16
  | 5 => .int32
  | 6 => .uint32
  | 7 => .float32
  | 8 => .float64
  | _ => .unknown

theorem pointFieldDatatypeFromWire_toWire (datatype : PointField.Datatype) :
    pointFieldDatatypeFromWire (pointFieldDatatypeToWire datatype).toUInt64 = datatype := by
  cases datatype <;> rfl

def writePointField (field : PointField) : Bytes :=
  Writer.string 1 field.name ++ Writer.varint 2 field.offset.toUInt64 ++
    Writer.varint 3 (pointFieldDatatypeToWire field.datatype).toUInt64 ++
    Writer.varint 4 field.count.toUInt64

def pointFieldFields : List (FieldDecl PointField) :=
  [.bytes 1 fun name field => { field with name },
   .varint 2 fun v field => { field with offset := v.toUInt32 },
   .varint 3 fun v field => { field with datatype := pointFieldDatatypeFromWire v },
   .varint 4 fun v field => { field with count := v.toUInt32 }]

def assignPointField : Nat → Option (UInt64 → PointField → PointField)
  | 2 => some fun v field => { field with offset := v.toUInt32 }
  | 3 => some fun v field => { field with datatype := pointFieldDatatypeFromWire v }
  | 4 => some fun v field => { field with count := v.toUInt32 }
  | _ => none

/-- The timestamp's handler again, but for the name. -/
def pointFieldHandler : Handler PointField where
  run tag reader out :=
    if tag.number = 1 then
      if tag.type = .lengthDelimited then
        readDeclared (.bytes 1 fun name field => { field with name }) reader out
      else (false, out, reader)
    else
      readVarintFirst assignPointField tag reader out
  steady tag reader out out' := by
    by_cases hnumber : tag.number = 1
    · by_cases htype : tag.type = .lengthDelimited
      · simp only [hnumber, htype, if_true]
        exact readDeclared_steady _ reader out out'
      · simp [hnumber, htype]
    · simp only [hnumber, if_false]
      exact readVarintFirst_steady _ tag reader out out'
  shrinks tag reader out := by
    by_cases hnumber : tag.number = 1
    · by_cases htype : tag.type = .lengthDelimited
      · simp only [hnumber, htype, if_true]
        exact readDeclared_shrinks _ reader out
      · simp [hnumber, htype]
    · simp only [hnumber, if_false]
      exact readVarintFirst_shrinks _ tag reader out

theorem follows_pointFieldHandler : Follows pointFieldHandler pointFieldFields
    fun tag => tag.type = .varint && (tag.number = 0 || 4 < tag.number) where
  same tag reader out hreads := by
    obtain ⟨number, type⟩ := tag
    by_cases hnumber : number = 1
    · -- the name is the one field that is read by its wire type first
      subst hnumber
      by_cases htype : type = .lengthDelimited
      · subst htype
        rfl
      · have hdecl : declared pointFieldFields ⟨1, type⟩ = none :=
          declared_eq_none (by simp [pointFieldFields, FieldDecl.varint, FieldDecl.bytes, htype])
        simp [tableHandler, hdecl, pointFieldHandler, htype]
    · by_cases htype : type = .varint
      · subst htype
        obtain rfl | rfl | rfl : number = 2 ∨ number = 3 ∨ number = 4 := by
          simp at hreads
          omega
        · exact readVarintFirst_taken assignPointField 2 rfl reader out
        · exact readVarintFirst_taken assignPointField 3 rfl reader out
        · exact readVarintFirst_taken assignPointField 4 rfl reader out
      · have hdecl : declared pointFieldFields ⟨number, type⟩ = none :=
          declared_eq_none (by
            simp [pointFieldFields, FieldDecl.varint, FieldDecl.bytes, htype, Ne.symm hnumber])
        simp [tableHandler, hdecl, pointFieldHandler, readVarintFirst, htype, hnumber]
  refused tag reader out hreads := by
    simp only [Bool.and_eq_true, Bool.or_eq_true, decide_eq_true_eq] at hreads
    obtain ⟨htype, hnumber⟩ := hreads
    have hone : tag.number ≠ 1 := by omega
    simp only [pointFieldHandler, hone, if_false]
    -- any other number is read as a varint and then turned down
    refine readVarintFirst_refused htype ?_ reader out
    rw [assignPointField] <;> omega
  varint tag hreads := by
    simp at hreads
    exact hreads.1
  undeclared tag hreads := by
    simp only [Bool.and_eq_true, Bool.or_eq_true, decide_eq_true_eq] at hreads
    rw [lookup_eq_none]
    simp [pointFieldFields, FieldDecl.varint, FieldDecl.bytes]
    omega

def pointFieldLoop : FieldLoop PointField := .ofHandler follows_pointFieldHandler

def decodePointField : Decoder PointField := pointFieldLoop.decode

theorem decodePointField_writePointField {field : PointField} (out : PointField)
    (hlen : (writePointField field).length < 2 ^ 64) :
    decodePointField (writePointField field) out = (true, field) := by
  have hbuild : Rebuilds pointFieldFields (writePointField field) out field := by
    iterate 3 apply Rebuilds.append
    · exact .bytes (by decide) rfl rfl
    · exact .varint (by decide) rfl rfl
    · exact .varint (by decide) rfl rfl
    · refine .varint (by decide) rfl ?_
      simp only [pointFieldDatatypeFromWire_toWire, UInt32.toUInt32_toUInt64]
  exact Rebuilds.decode hbuild hlen

end PlotJugglerSdk
