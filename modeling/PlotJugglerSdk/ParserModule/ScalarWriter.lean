import Mathlib.Data.List.Induction
import PlotJugglerSdk.ParserModule.Readers

/-!
# ScalarWriter

The authoring kit's builder of scalar outputs: calls collect a timestamp and
named values, `finish` lays them out as one output descriptor.

* `ScalarWriter.run_status_ok` — what the builder holds after any calls is what
  the calls gave it;
* `ScalarWriter.finish_ok` — a finished descriptor is the one the host's writer
  makes of the same record;
* `ScalarWriter.readOutputDescriptorV1_finish` — so the host reads back what the
  calls gave.
-/

namespace PlotJugglerSdk.ParserModule

open Wire

/-- `appendLittle`: the low `width` bytes of a number. -/
def appendLittle (value width : Nat) : Bytes := leBytes width value

structure ScalarWriter where
  hasTimestamp : Bool := false
  timestampNs : Int64 := 0
  fields : List (ScalarFieldV1 Bytes) := []
  status : Option String := none

namespace ScalarWriter

/-! ## Calls -/

def setTimestamp (timestampNs : Int64) (writer : ScalarWriter) : ScalarWriter :=
  { writer with hasTimestamp := true, timestampNs }

def fail (message : String) (writer : ScalarWriter) : ScalarWriter :=
  { writer with status := writer.status.or (some message) }

/-- `allocated` is false when the copies of the name and the value throw. -/
def add (name : Bytes) (value : ScalarValueV1 Bytes) (allocated : Bool) (writer : ScalarWriter) :
    ScalarWriter :=
  if writer.status.isSome then writer
  else if allocated then { writer with fields := writer.fields ++ [⟨name, value⟩] }
  else writer.fail "ScalarWriter allocation failed"

inductive Call where
  | setTimestamp (timestampNs : Int64)
  | add (name : Bytes) (value : ScalarValueV1 Bytes) (allocated : Bool)

def step (writer : ScalarWriter) : Call → ScalarWriter
  | .setTimestamp timestampNs => writer.setTimestamp timestampNs
  | .add name value allocated => writer.add name value allocated

def run (calls : List Call) : ScalarWriter := calls.foldl step {}

/-- The timestamp set last. -/
def givenTimestamp (calls : List Call) : Option Int64 :=
  calls.foldl (fun given call =>
    match call with
    | .setTimestamp timestampNs => some timestampNs
    | .add .. => given) none

def givenFields (calls : List Call) : List (ScalarFieldV1 Bytes) :=
  calls.filterMap fun
    | .setTimestamp _ => none
    | .add name value _ => some ⟨name, value⟩

theorem run_append (calls : List Call) (call : Call) :
    run (calls ++ [call]) = (run calls).step call := by
  rw [run, List.foldl_append]
  rfl

/-- A builder that has not failed holds what it was given, in order. -/
theorem run_status_ok {calls : List Call} (h : (run calls).status = none) :
    (run calls).hasTimestamp = (givenTimestamp calls).isSome ∧
      (run calls).timestampNs = (givenTimestamp calls).getD 0 ∧
      (run calls).fields = givenFields calls := by
  induction calls using List.reverseRecOn with
  | nil => exact ⟨rfl, rfl, rfl⟩
  | append_singleton calls call ih =>
    rw [run_append] at h ⊢
    unfold givenTimestamp givenFields
    rw [List.foldl_append, List.filterMap_append]
    cases call with
    | setTimestamp timestampNs =>
      obtain ⟨-, -, hfields⟩ := ih h
      refine ⟨rfl, rfl, ?_⟩
      show (run calls).fields = givenFields calls ++ []
      rw [hfields, List.append_nil]
    | add name value allocated =>
      have hstep : (run calls).step (.add name value allocated) =
          (run calls).add name value allocated := rfl
      rw [hstep] at h ⊢
      unfold add at h ⊢
      -- the status is sticky, so the calls before this one have not failed either
      by_cases hstatus : (run calls).status = none
      · obtain ⟨hhas, htimestamp, hfields⟩ := ih hstatus
        cases allocated with
        | true =>
          simp only [hstatus, Option.isSome_none, Bool.false_eq_true, if_false, if_true]
          exact ⟨hhas, htimestamp, by rw [hfields]; rfl⟩
        | false => simp [hstatus, fail] at h
      · rw [if_pos (Option.isSome_iff_ne_none.mpr hstatus)] at h
        exact absurd h hstatus

/-! ## finish -/

def valueSize : ScalarValueV1 Bytes → Except String Nat
  | .bool _ => .ok 1
  | .string text =>
    if uint32Max < text.length then .error "scalar string exceeds the descriptor length range"
    else .ok (4 + text.length)
  | _ => .ok 8

/-- The first loop: where the values end. -/
def namesOffset : List (ScalarFieldV1 Bytes) → Nat → Except String Nat
  | [], offset => .ok offset
  | field :: fields, offset =>
    match valueSize field.value with
    | .error e => .error e
    | .ok size =>
      if 2 ^ 64 - 1 - 9 - size < offset then .error "scalar output descriptor size overflow"
      else namesOffset fields (offset + 9 + size)

/-- The second loop: where the names end. -/
def totalSize : List (ScalarFieldV1 Bytes) → Nat → Except String Nat
  | [], total => .ok total
  | field :: fields, total =>
    if uint32Max < field.name.length ∨ 2 ^ 64 - 1 - total < field.name.length then
      .error "scalar field names exceed the descriptor offset range"
    else totalSize fields (total + field.name.length)

def writeValue : ScalarValueV1 Bytes → Bytes
  | .float64 bits => [0] ++ appendLittle bits.toNat 8
  | .int64 value => [1] ++ appendLittle value.toUInt64.toNat 8
  | .uint64 value => [2] ++ appendLittle value.toNat 8
  | .bool value => [3] ++ [if value then 1 else 0]
  | .string text => [4] ++ appendLittle text.length 4 ++ text

/-- The third loop; `currentName` is where the next name goes. -/
def writeFields : List (ScalarFieldV1 Bytes) → (currentName : Nat) → Bytes
  | [], _ => []
  | field :: fields, currentName =>
    appendLittle currentName 4 ++ appendLittle field.name.length 4 ++ writeValue field.value ++
      writeFields fields (currentName + field.name.length)

def writeHead (writer : ScalarWriter) : Bytes :=
  appendLittle 1 2 ++ [1] ++ [0] ++ [if writer.hasTimestamp then 1 else 0] ++
    List.replicate 7 0 ++ appendLittle writer.timestampNs.toUInt64.toNat 8 ++
    appendLittle writer.fields.length 4

def finish (writer : ScalarWriter) : Except String Bytes :=
  match writer.status with
  | some message => .error message
  | none =>
    -- the head takes 24 bytes; the names stand behind the entries
    match namesOffset writer.fields 24 with
    | .error e => .error e
    | .ok offset =>
      match totalSize writer.fields offset with
      | .error e => .error e
      | .ok total =>
        if uint32Max < total ∨ uint32Max < writer.fields.length then
          .error "scalar output descriptor exceeds the v1 offset range"
        else
          .ok (writer.writeHead ++ writeFields writer.fields offset ++
            (writer.fields.map (·.name)).flatten)

/-! ## The host's writer does the same -/

theorem u32_ofNat {value : Nat} (h : value < 2 ^ 32) :
    ByteWriter.u32 (UInt32.ofNat value) = appendLittle value 4 := by
  unfold ByteWriter.u32 appendLittle
  rw [UInt32.toNat_ofNat', Nat.mod_eq_of_lt h]

theorem totalSize_ok {fields : List (ScalarFieldV1 Bytes)} {start total : Nat}
    (h : totalSize fields start = .ok total) :
    total = start + (fields.map (·.name)).flatten.length ∧
      ∀ field ∈ fields, field.name.length ≤ uint32Max := by
  induction fields generalizing start with
  | nil =>
    obtain rfl := Except.ok.inj h
    simp
  | cons field fields ih =>
    unfold totalSize at h
    split at h
    · exact absurd h (by simp)
    · next hname =>
      obtain ⟨rfl, hnames⟩ := ih h
      refine ⟨?_, List.forall_mem_cons.mpr ⟨by omega, hnames⟩⟩
      rw [List.map_cons, List.flatten_cons, List.length_append]
      omega

theorem scalarValueSize_of_valueSize {value : ScalarValueV1 Bytes} {size : Nat}
    (h : valueSize value = .ok size) : scalarValueSize value = .ok size := by
  cases value with
  | string text =>
    unfold valueSize at h
    unfold scalarValueSize
    dsimp only at h ⊢
    split at h
    · exact absurd h (by simp)
    · next hle =>
      obtain rfl := Except.ok.inj h
      unfold checkedAdd
      rw [uint32Max] at hle
      rw [if_neg (by rw [uint32Max]; omega), if_neg (by omega)]
  | _ => exact h

theorem valueSize_lt {value : ScalarValueV1 Bytes} {size : Nat} (h : valueSize value = .ok size) :
    size < 2 ^ 33 := by
  cases value with
  | string text =>
    unfold valueSize at h
    dsimp only at h
    split at h
    · exact absurd h (by simp)
    · next hle =>
      obtain rfl := Except.ok.inj h
      rw [uint32Max] at hle
      omega
  | _ =>
    obtain rfl := Except.ok.inj h
    omega

theorem scalarValuesEnd_of_namesOffset {fields : List (ScalarFieldV1 Bytes)} {start offset : Nat}
    (h : namesOffset fields start = .ok offset)
    (hnames : ∀ field ∈ fields, field.name.length ≤ uint32Max) :
    scalarValuesEnd fields start = .ok offset := by
  induction fields generalizing start with
  | nil => exact h
  | cons field fields ih =>
    obtain ⟨hname, hnames⟩ := List.forall_mem_cons.mp hnames
    unfold namesOffset at h
    unfold scalarValuesEnd
    cases hsize : valueSize field.value with
    | error e => simp [hsize] at h
    | ok size =>
      simp only [hsize] at h
      split at h
      · exact absurd h (by simp)
      · next hroom =>
        have hsmall := valueSize_lt hsize
        have hnine : checkedAdd start 9 = some (start + 9) := by
          unfold checkedAdd
          rw [if_neg (by omega)]
        have hvalue : checkedAdd (start + 9) size = some (start + 9 + size) := by
          unfold checkedAdd
          rw [if_neg (by omega)]
        simp only [scalarValueSize_of_valueSize hsize, hnine, Option.bind_some, hvalue]
        rw [if_neg (by omega)]
        exact ih h hnames

theorem scalarNameLayout_of_totalSize {fields : List (ScalarFieldV1 Bytes)} {start : Nat}
    (hfits : start + (fields.map (·.name)).flatten.length ≤ uint32Max) :
    scalarNameLayout fields start = .ok (layout start (fields.map (·.name))) := by
  induction fields generalizing start with
  | nil => rfl
  | cons field fields ih =>
    rw [List.map_cons, List.flatten_cons, List.length_append] at hfits
    have hrest := @ih (start + field.name.length) (by omega)
    have hnext : checkedAdd start field.name.length = some (start + field.name.length) := by
      unfold checkedAdd
      rw [uint32Max] at hfits
      rw [if_neg (by omega)]
    unfold scalarNameLayout
    simp only [hnext, hrest]
    rw [if_neg (by omega), if_neg (by omega)]
    rfl

theorem writeScalarValue_eq {value : ScalarValueV1 Bytes} {size : Nat}
    (h : valueSize value = .ok size) : writeScalarValue value = writeValue value := by
  cases value with
  | string text =>
    have htext := (scalarValueSize_ok (scalarValueSize_of_valueSize h)).2 text rfl
    show ByteWriter.u8 4 ++ ByteWriter.u32 (UInt32.ofNat text.length) ++ text = _
    rw [u32_ofNat htext]
    rfl
  | _ => rfl

theorem writeScalarFields_eq {fields : List (ScalarFieldV1 Bytes)} {start offset current : Nat}
    (h : namesOffset fields start = .ok offset)
    (hfits : current + (fields.map (·.name)).flatten.length ≤ uint32Max) :
    writeScalarFields fields (layout current (fields.map (·.name))) =
      writeFields fields current := by
  induction fields generalizing start current with
  | nil => rfl
  | cons field fields ih =>
    unfold namesOffset at h
    rw [List.map_cons, List.flatten_cons, List.length_append] at hfits
    cases hsize : valueSize field.value with
    | error e => simp [hsize] at h
    | ok size =>
      simp only [hsize] at h
      split at h
      · exact absurd h (by simp)
      · have hrest := @ih _ (current + field.name.length) h (by omega)
        rw [uint32Max] at hfits
        rw [List.map_cons, layout, writeScalarFields, writeFields, hrest,
          writeScalarValue_eq hsize]
        unfold writeRange
        dsimp only
        have hcurrent : current < 2 ^ 32 := by omega
        have hname : field.name.length < 2 ^ 32 := by omega
        rw [u32_ofNat hcurrent, u32_ofNat hname]

/-- The kit writes the bytes the host's writer makes of the same record. -/
theorem finish_ok {writer : ScalarWriter} {block : Bytes} (h : writer.finish = .ok block) :
    writer.status = none ∧
      writeOutputDescriptorV1 (.scalar ⟨writer.hasTimestamp, writer.timestampNs, writer.fields⟩) =
        .ok block := by
  unfold finish at h
  cases hstatus : writer.status with
  | some message => simp [hstatus] at h
  | none =>
    simp only [hstatus] at h
    cases hoffset : namesOffset writer.fields 24 with
    | error e => simp [hoffset] at h
    | ok offset =>
      cases htotal : totalSize writer.fields offset with
      | error e => simp [hoffset, htotal] at h
      | ok total =>
        simp only [hoffset, htotal] at h
        split at h
        · exact absurd h (by simp)
        · next hrange =>
          obtain ⟨rfl, hnames⟩ := totalSize_ok htotal
          -- the writer lays the names out behind the values, as the host's writer does
          have hfits : offset + (writer.fields.map (·.name)).flatten.length ≤ uint32Max := by omega
          have hcount : writer.fields.length < 2 ^ 32 := by
            rw [uint32Max] at hrange
            omega
          refine ⟨rfl, ?_⟩
          unfold writeOutputDescriptorV1
          dsimp only
          rw [if_neg (by omega)]
          simp only [scalarValuesEnd_of_namesOffset hoffset hnames,
            scalarNameLayout_of_totalSize hfits, writeScalarFields_eq hoffset hfits]
          rw [← h]
          unfold scalarOutputHead writeHead
          dsimp only
          rw [u32_ofNat hcount]
          rfl

/-- The host reads the timestamp and the fields the calls gave. -/
theorem readOutputDescriptorV1_finish {calls : List Call} {block : Bytes}
    (h : (run calls).finish = .ok block) :
    ∃ view, readOutputDescriptorV1 block = .ok view ∧
      view.map (slice block) = .scalar ⟨(givenTimestamp calls).isSome,
        (givenTimestamp calls).getD 0, givenFields calls⟩ := by
  obtain ⟨hstatus, hwrite⟩ := finish_ok h
  obtain ⟨hhas, htimestamp, hfields⟩ := run_status_ok hstatus
  rw [hhas, htimestamp, hfields] at hwrite
  exact readOutputDescriptorV1_write hwrite

end ScalarWriter

end PlotJugglerSdk.ParserModule
