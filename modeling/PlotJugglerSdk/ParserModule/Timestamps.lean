import PlotJugglerSdk.Builtin.TimeMath
import PlotJugglerSdk.ParserModule.ProtoScan
import PlotJugglerSdk.ParserModule.WireWriter
import PlotJugglerSdk.Wire.Spans

/-!
# Timestamps of parser modules

The two readers of ROS and protobuf times, and the way of a timestamp through a module's
writer: split, written as the host writes it, found again by `ProtoReader` and joined to what
it was (`timestamp_survives`).
-/

namespace PlotJugglerSdk.ParserModule

open Wire Scan Signed

/-! ## Reading -/

/-- `detail::combineSecondsAndNanos`. -/
def combineSecondsAndNanos (seconds : Int64) (nanos : Int32) : Except String Int64 :=
  let combined := PlotJugglerSdk.combineSecondsAndNanos seconds nanos.toInt64
  if nanos < 0 ∨ (1000000000 : Int64) ≤ nanos.toInt64 then
    .error "timestamp nanoseconds are outside [0, 1000000000)"
  else
    match combined with
    | none => .error "timestamp is outside the int64 nanosecond range"
    | some timestampNs => .ok timestampNs

def readRosTime (seconds : Int32) (nanoseconds : UInt32) : Except String Int64 :=
  if (1000000000 : UInt32) ≤ nanoseconds then
    .error "ROS time nanoseconds are outside [0, 1000000000)"
  else combineSecondsAndNanos seconds.toInt64 nanoseconds.toInt32

def readProtoTimestamp (seconds : Int64) (nanoseconds : Int32) : Except String Int64 :=
  combineSecondsAndNanos seconds nanoseconds

/-- The two errors name the two ways to be out of range. -/
theorem combineSecondsAndNanos_ok_iff {seconds : Int64} {nanos : Int32} {timestampNs : Int64} :
    combineSecondsAndNanos seconds nanos = .ok timestampNs ↔
      PlotJugglerSdk.combineSecondsAndNanos seconds nanos.toInt64 = some timestampNs := by
  have hzero : (0 : Int32).toInt = 0 := rfl
  have hbillion : (1000000000 : Int64).toInt = 1000000000 := rfl
  unfold combineSecondsAndNanos
  by_cases hrange : nanos < 0 ∨ (1000000000 : Int64) ≤ nanos.toInt64
  · rw [combineSecondsAndNanos_eq, if_pos hrange]
    rw [Int32.lt_iff_toInt_lt, Int64.le_iff_toInt_le, Int32.toInt_toInt64, hzero,
      hbillion] at hrange
    rw [Int32.toInt_toInt64, if_neg (by omega)]
    exact ⟨nofun, nofun⟩
  · rw [if_neg hrange]
    cases PlotJugglerSdk.combineSecondsAndNanos seconds nanos.toInt64 with
    | none => exact ⟨nofun, nofun⟩
    | some joined =>
      constructor
      · intro h
        exact congrArg some (Except.ok.inj h)
      · intro h
        exact congrArg Except.ok (Option.some.inj h)

/-- A ROS time has an instant whenever its nanoseconds are in range. -/
theorem readRosTime_eq (seconds : Int32) (nanoseconds : UInt32) :
    readRosTime seconds nanoseconds =
      if nanoseconds.toNat < 1000000000 then
        .ok (Int64.ofInt (seconds.toInt * 1000000000 + nanoseconds.toNat))
      else .error "ROS time nanoseconds are outside [0, 1000000000)" := by
  have hlow := seconds.le_toInt
  have hhigh := seconds.toInt_lt
  have hbillion : (1000000000 : UInt32).toNat = 1000000000 := rfl
  have hguard : (1000000000 : UInt32) ≤ nanoseconds ↔ 1000000000 ≤ nanoseconds.toNat := by
    rw [UInt32.le_iff_toNat_le, hbillion]
  unfold readRosTime
  by_cases hrange : nanoseconds.toNat < 1000000000
  · have hcast : nanoseconds.toInt32.toInt = nanoseconds.toNat := by
      have hcond : nanoseconds.toInt32.toInt =
          if 2 * nanoseconds.toNat < 2 ^ 32 then (nanoseconds.toNat : Int)
          else (nanoseconds.toNat : Int) - (2 ^ 32 : Nat) := BitVec.toInt_eq_toNat_cond _
      rw [hcond, if_pos (by omega)]
    rw [if_neg (by rw [hguard]; omega), if_pos hrange, combineSecondsAndNanos_ok_iff,
      combineSecondsAndNanos_eq, Int32.toInt_toInt64, Int32.toInt_toInt64, hcast,
      if_pos (by omega)]
  · rw [if_pos (by rw [hguard]; omega), if_neg hrange]

/-! ## Writing -/

/-- The calls on the nested writer of a timestamp. -/
def timestampCalls (timestampNs : Int64) : List Step :=
  [WireWriter.varintField 1 (secondsAndNanos timestampNs).1.toUInt64,
   WireWriter.varintField 2 (secondsAndNanos timestampNs).2.toUInt32.toUInt64]

theorem writes_timestampCalls (timestampNs : Int64) :
    List.Forall₂ Writes (timestampCalls timestampNs)
      [Writer.varint 1 (splitTimestamp timestampNs).seconds.toUInt64,
       Writer.varint 2 (splitTimestamp timestampNs).nanos.toUInt32.toUInt64] := by
  unfold timestampCalls
  rw [secondsAndNanos_eq]
  exact .cons (writes_varintField _ (by decide) (by decide))
    (.cons (writes_varintField _ (by decide) (by decide)) .nil)

theorem varintGroups_length_le (groups value : Nat) :
    (varintGroups groups value).length ≤ groups + 1 := by
  induction groups generalizing value with
  | zero => exact le_rfl
  | succ groups ih =>
    rw [varintGroups]
    split
    · exact Nat.le_add_left 1 _
    · rw [List.length_cons]
      have hrest := ih (value / 128)
      omega

theorem writeTimestamp_length (timestampNs : Int64) :
    (PlotJugglerSdk.writeTimestamp timestampNs).length ≤ 40 := by
  have hlength : ∀ value, (varintBytes value).length ≤ 10 := varintGroups_length_le 9
  rw [PlotJugglerSdk.writeTimestamp]
  simp only [Writer.varint, Writer.tag, Writer.appendVarint, List.length_append]
  have h1 := hlength (rawTag 1 .varint)
  have h2 := hlength (splitTimestamp timestampNs).seconds.toUInt64.toNat
  have h3 := hlength (rawTag 2 .varint)
  have h4 := hlength (splitTimestamp timestampNs).nanos.toUInt32.toUInt64.toNat
  omega

/-- The payload is the host's. -/
theorem timestampCalls_payload (timestampNs : Int64) :
    writeAll (timestampCalls timestampNs) = .ok (PlotJugglerSdk.writeTimestamp timestampNs) := by
  have hwrites := writes_calls (writes_timestampCalls timestampNs)
  have hpayload : [Writer.varint 1 (splitTimestamp timestampNs).seconds.toUInt64,
      Writer.varint 2 (splitTimestamp timestampNs).nanos.toUInt32.toUInt64].flatten =
        PlotJugglerSdk.writeTimestamp timestampNs := by
    simp [PlotJugglerSdk.writeTimestamp]
  have hlength := writeTimestamp_length timestampNs
  rw [hpayload] at hwrites
  exact hwrites [] (by rw [List.length_nil]; omega)

theorem writes_writeTimestamp (timestampNs : Int64) :
    Writes (writeTimestamp timestampNs)
      (Writer.message 1 (PlotJugglerSdk.writeTimestamp timestampNs)) := by
  have hlow : 0 < 1 := by decide
  have hhigh : 1 < 2 ^ 29 := by decide
  have hwrites := writes_messageField hlow hhigh (writes_timestampCalls timestampNs)
  have hpayload : [Writer.varint 1 (splitTimestamp timestampNs).seconds.toUInt64,
      Writer.varint 2 (splitTimestamp timestampNs).nanos.toUInt32.toUInt64].flatten =
        PlotJugglerSdk.writeTimestamp timestampNs := by
    simp [PlotJugglerSdk.writeTimestamp]
  rw [hpayload] at hwrites
  exact hwrites

/-! ## Finding the parts again -/

namespace ProtoReader

/-- A varint field that is written in a message stands there. -/
theorem fieldAt_written {number : Nat} (value : UInt64) (hlow : 0 < number)
    (hhigh : number < 2 ^ 29) (front rest : Bytes) (levels : Nat) :
    ∃ first, FieldAt (front ++ (Writer.varint number value ++ rest)) levels front.length
        ⟨number, .varint, first, front.length + (Writer.varint number value).length⟩
        (front.length + (Writer.varint number value).length) ∧
      fieldOf (front ++ (Writer.varint number value ++ rest))
          ⟨number, .varint, first, front.length + (Writer.varint number value).length⟩ =
        { number := .ofNat number, wireType := .varint, integer := value } := by
  have hraw : rawTag number .varint = number * 8 := Nat.add_zero _
  have hfits : rawTag number .varint < 2 ^ 64 := by
    rw [hraw]
    omega
  -- the tag and the value behind it are two varints in a row
  have htag := varintAt_written front (varintBytes value.toNat ++ rest) hfits
  have hvalue := varintAt_written (front ++ varintBytes (rawTag number .varint)) rest value.toNat_lt
  have hmessage : front ++ (Writer.varint number value ++ rest) =
      front ++ (varintBytes (rawTag number .varint) ++ (varintBytes value.toNat ++ rest)) := by
    simp [Writer.varint, Writer.tag, Writer.appendVarint]
  have hmessage' : front ++ varintBytes (rawTag number .varint) ++
      (varintBytes value.toNat ++ rest) =
      front ++ (varintBytes (rawTag number .varint) ++ (varintBytes value.toNat ++ rest)) :=
    List.append_assoc _ _ _
  have hstop : front.length + (Writer.varint number value).length =
      (front ++ varintBytes (rawTag number .varint)).length + (varintBytes value.toNat).length := by
    simp only [Writer.varint, Writer.tag, Writer.appendVarint, List.length_append]
    omega
  rw [hmessage'] at hvalue
  rw [hmessage, hstop]
  have hat : TagAt _ front.length ⟨number, .varint⟩ _ :=
    tagAt_iff.mpr ⟨_, htag, strictTag_eq_some_iff.mpr
      ⟨by rw [hraw]; exact Nat.mul_div_cancel number (by decide),
        WireType.ofRaw_code number .varint, hlow, hhigh⟩⟩
  rw [List.length_append] at hvalue ⊢
  refine ⟨_, .value hat (.varint hvalue), ?_⟩
  rw [fieldOf_varint hvalue, UInt64.ofNat_toNat]

/-- A lookup finds the one varint field of its number. -/
theorem varint_of_kept {reader : ProtoReader} {number : UInt32} {value : UInt64}
    {occurrences : List Occurrence} (hnumber : ValidNumber number)
    (hspells : reader.Spells occurrences)
    (hkept : kept reader.message number occurrences =
      [{ number, wireType := .varint, integer := value }]) :
    reader.varint number = .ok value := by
  have hmatching : reader.matching number =
      .ok
        { fields := [{ number, wireType := .varint, integer := value }]
          bounded := by rw [List.length_singleton]; decide } :=
    matching_iff.mpr ⟨hnumber, occurrences, hspells, hkept.symm⟩
  unfold varint last
  rw [hmatching]
  rfl

theorem varint_writeTimestamp (timestampNs : Int64) :
    varint { message := PlotJugglerSdk.writeTimestamp timestampNs } 1 =
        .ok (splitTimestamp timestampNs).seconds.toUInt64 ∧
      varint { message := PlotJugglerSdk.writeTimestamp timestampNs } 2 =
        .ok (splitTimestamp timestampNs).nanos.toUInt32.toUInt64 := by
  generalize hseconds : (splitTimestamp timestampNs).seconds.toUInt64 = seconds
  generalize hnanos : (splitTimestamp timestampNs).nanos.toUInt32.toUInt64 = nanos
  have hmessage : PlotJugglerSdk.writeTimestamp timestampNs =
      Writer.varint 1 seconds ++ Writer.varint 2 nanos := by
    rw [PlotJugglerSdk.writeTimestamp, hseconds, hnanos]
  rw [hmessage]
  have hone : 0 < 1 := by decide
  have htwo : 0 < 2 := by decide
  obtain ⟨first, hfirst, hfirstOf⟩ := fieldAt_written seconds hone (by decide)
    [] (Writer.varint 2 nanos) kMaxRecursionDepth
  obtain ⟨second, hsecond, hsecondOf⟩ := fieldAt_written nanos htwo (by decide)
    (Writer.varint 1 seconds) [] kMaxRecursionDepth
  rw [List.nil_append, List.length_nil, Nat.zero_add] at hfirst hfirstOf
  rw [List.append_nil, ← List.length_append] at hsecond hsecondOf
  have hspells := hfirst.cons (hsecond.cons .nil)
  constructor
  · refine varint_of_kept ⟨by decide, by decide⟩ hspells ?_
    exact congrArg (fun field => [field]) hfirstOf
  · refine varint_of_kept ⟨by decide, by decide⟩ hspells ?_
    exact congrArg (fun field => [field]) hsecondOf

end ProtoReader

/-! ## The whole way -/

theorem readProtoTimestamp_splitTimestamp (timestampNs : Int64) :
    readProtoTimestamp (splitTimestamp timestampNs).seconds (splitTimestamp timestampNs).nanos =
      .ok timestampNs :=
  combineSecondsAndNanos_ok_iff.mpr (combineTimestamp_splitTimestamp timestampNs)

/-- The split is inverse to the join, the join is exact and never overflows on the way, both
writers write the same payload, and what it carries is read as the timestamp it was. -/
theorem timestamp_survives :
    (∀ timestampNs : Int64,
      0 ≤ (splitTimestamp timestampNs).nanos.toInt ∧
        (splitTimestamp timestampNs).nanos.toInt < 1000000000 ∧
        PlotJugglerSdk.combineSecondsAndNanos (splitTimestamp timestampNs).seconds
          (splitTimestamp timestampNs).nanos.toInt64 = some timestampNs) ∧
    (∀ seconds nanos : Int64,
      ((PlotJugglerSdk.combineSecondsAndNanos seconds nanos).isSome ↔
        0 ≤ nanos.toInt ∧ nanos.toInt < 1000000000 ∧
          Fits (seconds.toInt * 1000000000 + nanos.toInt)) ∧
      (∀ timestampNs, PlotJugglerSdk.combineSecondsAndNanos seconds nanos = some timestampNs →
        timestampNs.toInt = seconds.toInt * 1000000000 + nanos.toInt) ∧
      combineSecondsAndNanosChecked seconds nanos =
        some (PlotJugglerSdk.combineSecondsAndNanos seconds nanos)) ∧
    (∀ timestampNs : Int64,
      writeAll (timestampCalls timestampNs) = .ok (PlotJugglerSdk.writeTimestamp timestampNs) ∧
        Writes (writeTimestamp timestampNs)
          (Writer.message 1 (PlotJugglerSdk.writeTimestamp timestampNs))) ∧
    (∀ timestampNs : Int64, ∃ seconds nanos : UInt64,
      ProtoReader.varint { message := PlotJugglerSdk.writeTimestamp timestampNs } 1 = .ok seconds ∧
        ProtoReader.varint { message := PlotJugglerSdk.writeTimestamp timestampNs } 2 = .ok nanos ∧
        readProtoTimestamp seconds.toInt64 nanos.toUInt32.toInt32 = .ok timestampNs) := by
  refine ⟨?_, ?_, ?_, ?_⟩
  · intro timestampNs
    obtain ⟨-, hnanos⟩ := toInt_splitTimestamp timestampNs
    exact ⟨by omega, by omega, combineTimestamp_splitTimestamp timestampNs⟩
  · intro seconds nanos
    have hexact := combineSecondsAndNanos_eq seconds nanos
    refine ⟨?_, ?_, combineSecondsAndNanos_defined seconds nanos⟩
    · rw [hexact]
      unfold Fits
      split
      · next hrange => exact ⟨fun _ => hrange, fun _ => rfl⟩
      · next hrange => exact ⟨nofun, fun h => absurd h hrange⟩
    · intro timestampNs h
      rw [hexact] at h
      split at h
      · next hrange =>
        obtain rfl := Option.some.inj h
        exact toInt_ofInt ⟨hrange.2.2.1, hrange.2.2.2⟩
      · cases h
  · intro timestampNs
    exact ⟨timestampCalls_payload timestampNs, writes_writeTimestamp timestampNs⟩
  · intro timestampNs
    -- the reader widens the nanoseconds and narrows them back
    obtain ⟨hseconds, hnanos⟩ := ProtoReader.varint_writeTimestamp timestampNs
    refine ⟨_, _, hseconds, hnanos, ?_⟩
    rw [Int64.toInt64_toUInt64, UInt32.toUInt32_toUInt64, Int32.toInt32_toUInt32]
    exact readProtoTimestamp_splitTimestamp timestampNs

end PlotJugglerSdk.ParserModule
