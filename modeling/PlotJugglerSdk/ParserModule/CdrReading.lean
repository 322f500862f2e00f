import PlotJugglerSdk.ParserModule.CdrMessage
import PlotJugglerSdk.ParserModule.CdrNesting

/-!
# Values, walked and read

The traversal of a value and the reading of it go side by side: they stand at the same byte
behind it, and fail together. Where the traversal notes the value, the note gives what was
read. A count that the traversal refuses before it comes to the elements is one that the
reading would not get through.

* `walkScalar_agrees_leaf`                       — values that are no structs
* `walkBytes_agrees`                             — blocks of bytes
* `walkElements_agrees`, `readElements_le`       — loops, and the guard in front of them
* `walkFixedArray_agrees`, `walkSequence_agrees` — containers
-/

namespace PlotJugglerSdk.ParserModule.CdrTraversalPlan

open Depth Wire Scan CdrFieldLocator CdrReader CdrMessage

/-- The cursor of a reading, which notes nothing. -/
abbrev Reading : Type := CdrCursor Unit

variable {input : CdrInput} {s : Cursor} {t : Reading}

/-! ## Primitives -/

/-- The two stand at the same byte, and nothing was noted since `s`. -/
def Beside (s s' : Cursor) (t' : Reading) : Prop :=
  s'.position = t'.position ∧ s'.cachedFields = s.cachedFields

theorem remaining_congr (h : s.position = t.position) : remaining input s = remaining input t := by
  unfold remaining
  rw [h]

theorem fail_agrees {α β : Type} {related : α → Cursor → β → Reading → Prop}
    (message message' : String) :
    Alike related ((fail message : Walk α) s) ((fail message' : CdrScan Unit β) t) :=
  trivial

theorem skip_agrees (h : s.position = t.position) (size : Nat) :
    Alike (fun _ s' _ t' => Beside s s' t') ((skip size : Walk Unit) s) (skip size t) := by
  refine ⟨?_, rfl⟩
  show s.position + size = t.position + size
  rw [h]

theorem align_agrees (h : s.position = t.position) (alignment : Nat) :
    Alike (fun _ s' _ t' => Beside s s' t') ((align input alignment : Walk Unit) s)
      (align input alignment t) := by
  unfold align
  refine Alike.get (Alike.ite Iff.rfl (fun _ => fail_agrees _ _) ?_)
  intro _
  rw [h]
  refine Alike.ite (by rw [remaining_congr h]) (fun _ => fail_agrees _ _) ?_
  intro _
  exact skip_agrees h _

theorem readUnsigned_agrees (h : s.position = t.position) (width : Nat) :
    Alike (fun value s' value' t' => value = value' ∧ Beside s s' t')
      ((readUnsigned input width : Walk UInt64) s) (readUnsigned input width t) := by
  unfold readUnsigned
  refine (align_agrees h width).bind ?_
  intro _ s' _ t' _ _ hbeside
  refine Alike.get (Alike.ite (by rw [remaining_congr hbeside.1]) (fun _ => fail_agrees _ _) ?_)
  intro _
  refine (skip_agrees hbeside.1 width).bind ?_
  intro _ s'' _ t'' _ _ hbeside'
  refine ⟨?_, hbeside'.1, hbeside'.2.trans hbeside.2⟩
  rw [hbeside.1]

theorem readU32_agrees (h : s.position = t.position) :
    Alike (fun value s' value' t' => value = value' ∧ Beside s s' t')
      ((readU32 input : Walk UInt32) s) (readU32 input t) := by
  unfold readU32
  refine (readUnsigned_agrees h 4).bind ?_
  intro value s' value' t' _ _ hrelated
  refine ⟨?_, hrelated.2⟩
  rw [hrelated.1]

/-! ## Notes -/

/-- The value that a note stands for. -/
def noteValue (input : CdrInput) (entry : CachedField CachedKind) : Option CdrValue :=
  let bits := unsignedAt input entry.offset
  match entry.kind with
  | .unknown => none
  | .bool => if bits 1 > 1 then none else some (.bool (bits 1 != 0))
  | .i8 => some (.i8 (bits 1).toUInt8.toInt8)
  | .u8 => some (.u8 (bits 1).toUInt8)
  | .i16 => some (.i16 (bits 2).toUInt16.toInt16)
  | .u16 => some (.u16 (bits 2).toUInt16)
  | .i32 => some (.i32 (bits 4).toUInt32.toInt32)
  | .u32 => some (.u32 (bits 4).toUInt32)
  | .i64 => some (.i64 (bits 8).toInt64)
  | .u64 => some (.u64 (bits 8))
  | .f32 => some (.f32 (bits 4).toUInt32)
  | .f64 => some (.f64 (bits 8))
  | .string => some (.string { offset := entry.offset, size := entry.size })
  | .bytes => some (.bytes { offset := entry.offset, size := entry.size })

/-- A note of a kind, that stands for a value. -/
def Holds (input : CdrInput) (kind : CachedKind) (value : CdrValue)
    (entry : CachedField CachedKind) : Prop :=
  entry.located = true ∧ entry.kind = kind ∧ noteValue input entry = some value

/-- The fields with a note under a number, if there is one. -/
def noted (requestedId : Option Nat) (entry : CachedField CachedKind)
    (fields : List (CachedField CachedKind)) : List (CachedField CachedKind) :=
  match requestedId with
  | none => fields
  | some id => fields.set id entry

theorem note_run (requestedId : Option Nat) (entry : CachedField CachedKind) (s : Cursor) :
    note requestedId entry s =
      .ok () { s with cachedFields := noted requestedId entry s.cachedFields } := by
  cases requestedId with
  | none => rfl
  | some id => rfl

/-- The two stand at the same byte, and the traversal has noted the value that was read, under
the number that it was given. -/
def Leaves (input : CdrInput) (kind : CachedKind) (requestedId : Option Nat) (s s' : Cursor)
    (value : CdrValue) (t' : Reading) : Prop :=
  s'.position = t'.position ∧ ∃ entry, Holds input kind value entry ∧
    s'.cachedFields = noted requestedId entry s.cachedFields

/-- The last step of a value: it is stepped over and noted on one side, and stepped over on the
other. -/
theorem skip_note_agrees {kind : CachedKind} {requestedId : Option Nat} {value : CdrValue}
    {entry : CachedField CachedKind} {s₀ : Cursor} (h : s.position = t.position)
    (hnotes : s.cachedFields = s₀.cachedFields) (hholds : Holds input kind value entry)
    (size : Nat) :
    Alike (fun _ s' value' t' => Leaves input kind requestedId s₀ s' value' t')
      ((skip size >>= fun _ => note requestedId entry : Walk Unit) s)
      ((skip size >>= fun _ => pure value : CdrScan Unit CdrValue) t) := by
  refine (skip_agrees h size).bind ?_
  intro _ s' _ t' _ _ hbeside
  rw [note_run]
  refine ⟨hbeside.1, entry, hholds, ?_⟩
  rw [← hnotes, ← hbeside.2]

/-! ## Scalars -/

/-- The value of a kind that is a number, from its bits. -/
def ofBits (kind : CdrValueKind) (bits : UInt64) : CdrValue :=
  match kind with
  | .bool => .bool (bits.toUInt8 != 0)
  | .i8 => .i8 bits.toUInt8.toInt8
  | .u8 => .u8 bits.toUInt8
  | .i16 => .i16 bits.toUInt16.toInt16
  | .u16 => .u16 bits.toUInt16
  | .i32 => .i32 bits.toUInt32.toInt32
  | .u32 => .u32 bits.toUInt32
  | .i64 => .i64 bits.toInt64
  | .u64 => .u64 bits
  | .f32 => .f32 bits.toUInt32
  | .f64 => .f64 bits
  | .string | .struct => .struct []

variable {readNested : Nat → CdrScan Unit CdrValue}

theorem readScalar_number {type : CdrSchemaType} (hbool : type.kind ≠ .bool)
    (hstring : type.kind ≠ .string) (hstruct : type.kind ≠ .struct) :
    readScalar input readNested type =
      readUnsigned input (primitiveSize type.kind) >>= fun bits =>
        pure (ofBits type.kind bits) := by
  unfold readScalar
  cases hkind : type.kind with
  | bool => exact absurd hkind hbool
  | string => exact absurd hkind hstring
  | struct => exact absurd hkind hstruct
  | i8 => simp only [readI8, readU8, bind_assoc, pure_bind]; rfl
  | u8 => simp only [readU8, bind_assoc, pure_bind]; rfl
  | i16 => simp only [readI16, readU16, bind_assoc, pure_bind]; rfl
  | u16 => simp only [readU16, bind_assoc, pure_bind]; rfl
  | i32 => simp only [readI32, readU32, bind_assoc, pure_bind]; rfl
  | u32 => simp only [readU32, bind_assoc, pure_bind]; rfl
  | i64 => simp only [readI64, readU64, bind_assoc, pure_bind]; rfl
  | u64 => simp only [readU64]; rfl
  | f32 => simp only [readF32, readU32, bind_assoc, pure_bind]; rfl
  | f64 => simp only [readF64, readU64]; rfl

theorem ofBits_holds {type : CdrSchemaType} (hscalar : type.container = .scalar)
    (hbool : type.kind ≠ .bool) (hstring : type.kind ≠ .string) (hstruct : type.kind ≠ .struct)
    (offset : Nat) :
    Holds input (cachedKind type)
      (ofBits type.kind (unsignedAt input offset (primitiveSize type.kind)))
      { kind := cachedKind type, offset, size := primitiveSize type.kind, located := true } := by
  refine ⟨rfl, rfl, ?_⟩
  have hkind : cachedKind type = (cachedKind { type with container := .scalar }) := by
    rw [← hscalar]
  unfold noteValue
  dsimp only
  rw [hkind]
  unfold cachedKind
  rw [if_neg (fun h => h rfl)]
  cases hkind : type.kind with
  | bool => exact absurd hkind hbool
  | string => exact absurd hkind hstring
  | struct => exact absurd hkind hstruct
  | _ => rfl

/-- The byte that a traversal refuses a truth value for. -/
def RefusedAt (input : CdrInput) (type : CdrSchemaType) (offset : Nat) : Prop :=
  type.kind = .bool ∧ input.payload.getD offset 0 > 1

/-- A number of a width, on the reading's side finished by any step that fails where the
traversal refuses the byte, and elsewhere gives the value of the note. -/
theorem walkPrimitive_agrees_finish {type : CdrSchemaType}
    {finish : UInt64 → CdrScan Unit CdrValue} (requestedId : Option Nat)
    (h : s.position = t.position)
    (hrefused : ∀ offset, offset + primitiveSize type.kind ≤ input.payload.length →
      RefusedAt input type offset →
      ∃ message, finish (unsignedAt input offset (primitiveSize type.kind)) =
        CdrReader.fail message)
    (hvalue : ∀ offset, offset + primitiveSize type.kind ≤ input.payload.length →
      ¬ RefusedAt input type offset →
      ∃ value, finish (unsignedAt input offset (primitiveSize type.kind)) = pure value ∧
        Holds input (cachedKind type) value
          { kind := cachedKind type, offset, size := primitiveSize type.kind, located := true })
    (hs : inside input s) :
    Alike (fun _ s' value t' => Leaves input (cachedKind type) requestedId s s' value t')
      (walkPrimitive input type requestedId s)
      ((readUnsigned input (primitiveSize type.kind) >>= finish) t) := by
  unfold walkPrimitive readUnsigned
  rw [bind_assoc]
  refine (align_agrees h (primitiveSize type.kind)).bind ?_
  intro _ s' _ t' hrun _ hbeside
  have hinside : inside input s' := ((align_advances _).of_ok hs hrun).1
  rw [bind_assoc]
  refine Alike.get ?_
  -- the two sides look at the same number of bytes
  by_cases hroom : primitiveSize type.kind > remaining input s'
  · have hroom' : primitiveSize type.kind > remaining input t' := by
      rw [← remaining_congr hbeside.1]
      exact hroom
    rw [if_pos hroom, if_pos hroom',
      run_bind_error (show (fail "truncated CDR primitive" : CdrScan Unit UInt64) t' =
        .error (.status "truncated CDR primitive") t' from rfl)]
    trivial
  · have hroom' : ¬ primitiveSize type.kind > remaining input t' := by
      rw [← remaining_congr hbeside.1]
      exact hroom
    rw [if_neg hroom, if_neg hroom', bind_assoc]
    have hfits : s'.position + primitiveSize type.kind ≤ input.payload.length := by
      have hpos := hinside.1
      unfold remaining at hroom
      omega
    -- a byte that is no truth value is refused before it is noted, and after it is read
    by_cases hrefuse : RefusedAt input type s'.position
    · rw [if_pos (show _ ∧ _ from hrefuse)]
      obtain ⟨message, hfinish⟩ := hrefused s'.position hfits hrefuse
      rw [run_bind_ok
        (show (skip (primitiveSize type.kind) : CdrScan Unit Unit) t' = .ok () _ from rfl),
        pure_bind, ← hbeside.1, hfinish]
      trivial
    · rw [if_neg (show ¬ (_ ∧ _) from hrefuse)]
      obtain ⟨value, hfinish, hholds⟩ := hvalue s'.position hfits hrefuse
      rw [← hbeside.1]
      have hpure : (skip (primitiveSize type.kind) >>= fun _ =>
          pure (unsignedAt input s'.position (primitiveSize type.kind)) >>= finish :
          CdrScan Unit CdrValue) = skip (primitiveSize type.kind) >>= fun _ => pure value := by
        rw [pure_bind, hfinish]
      rw [hpure]
      exact skip_note_agrees hbeside.1 hbeside.2 hholds _

/-- One byte is the same in both byte orders. -/
theorem unsignedAt_one {offset : Nat} (h : offset < input.payload.length) :
    unsignedAt input offset 1 = (input.payload.getD offset 0).toUInt64 := by
  have hbyte : (input.payload.drop offset).take 1 = [input.payload.getD offset 0] := by
    rw [List.drop_eq_getElem_cons h, List.getD_eq_getElem _ _ h]
    rfl
  unfold unsignedAt
  rw [hbyte]
  by_cases horder : input.littleEndian
  · rw [if_pos horder]
    show 0 ||| (input.payload.getD offset 0).toUInt64 <<< UInt64.ofNat (0 * 8) = _
    simp
  · rw [if_neg horder]
    show (0 : UInt64) <<< 8 ||| (input.payload.getD offset 0).toUInt64 = _
    simp

/-- A byte that is a truth value is one as a wider number too. -/
theorem wide_of_byte {byte : UInt8} (h : ¬ byte > 1) :
    ¬ byte.toUInt64 > 1 ∧ (byte.toUInt64 != 0) = (byte != 0) := by
  have hbyte : byte = 0 ∨ byte = 1 := by
    have hnat : ¬ 1 < byte.toNat := h
    obtain hzero | hone : byte.toNat = 0 ∨ byte.toNat = 1 := by omega
    · exact Or.inl (UInt8.toNat_inj.mp hzero)
    · exact Or.inr (UInt8.toNat_inj.mp hone)
  obtain rfl | rfl := hbyte
  · decide
  · decide

theorem readScalar_bool {type : CdrSchemaType} (hbool : type.kind = .bool) :
    readScalar input readNested type =
      readUnsigned input (primitiveSize type.kind) >>= fun bits =>
        if bits.toUInt8 > 1 then CdrReader.fail "CDR bool is not 0 or 1"
        else pure (.bool (bits.toUInt8 != 0)) := by
  unfold readScalar
  rw [hbool]
  simp only [readBool, readU8, bind_assoc, pure_bind]
  refine congrArg _ (funext fun bits => ?_)
  by_cases hbits : bits.toUInt8 > 1
  · rw [if_pos hbits, if_pos hbits]
    rfl
  · rw [if_neg hbits, if_neg hbits, pure_bind]

/-- The traversal looks at the maximum of a string first, and the reading at its terminator. -/
theorem walkString_agrees {type : CdrSchemaType} (requestedId : Option Nat)
    (h : s.position = t.position) :
    Alike (fun _ s' value t' => Leaves input .string requestedId s s' value t')
      (walkString input type requestedId s)
      (readBoundedString input type.maximumStringLength t) := by
  unfold walkString readBoundedString readString
  rw [bind_assoc]
  refine (readU32_agrees h).bind ?_
  intro length s' length' t' _ _ hrelated
  obtain ⟨rfl, hbeside⟩ := hrelated
  rw [bind_assoc]
  refine Alike.get ?_
  have hremaining : remaining input s' = remaining input t' := remaining_congr hbeside.1
  -- the checks come one after the other on one side and in pairs on the other
  by_cases hzero : length = 0
  · rw [if_pos (Or.inl hzero), if_pos hzero]
    trivial
  rw [if_neg hzero]
  by_cases hroom : length.toNat > remaining input s'
  · rw [if_pos (Or.inr hroom), if_pos (hremaining ▸ hroom)]
    trivial
  have hroom' : ¬ length.toNat > remaining input t' := by
    rw [← hremaining]
    exact hroom
  have hlength : ¬ (length = 0 ∨ length.toNat > remaining input s') := by
    rintro (hbad | hbad)
    · exact hzero hbad
    · exact hroom hbad
  rw [if_neg hroom', if_neg hlength, ← hbeside.1]
  -- a string without terminator fails on both sides, whatever its maximum is
  by_cases hnul : input.payload[s'.position + length.toNat - 1]? ≠ some 0
  · rw [if_pos hnul, if_pos hnul]
    by_cases hmaximum : type.maximumStringLength ≠ 0 ∧ length.toNat - 1 > type.maximumStringLength
    · rw [if_pos hmaximum]
      trivial
    · rw [if_neg hmaximum]
      trivial
  · rw [if_neg hnul, if_neg hnul, bind_assoc]
    by_cases hmaximum : type.maximumStringLength ≠ 0 ∧ length.toNat - 1 > type.maximumStringLength
    · rw [if_pos hmaximum,
        run_bind_ok (show (skip length.toNat : CdrScan Unit Unit) t' = .ok () _ from rfl),
          pure_bind,
        if_pos hmaximum]
      trivial
    · have hpure : (skip length.toNat >>= fun _ =>
          pure ({ offset := s'.position, size := length.toNat - 1 } : ByteView) >>= fun view =>
          if type.maximumStringLength ≠ 0 ∧ view.size > type.maximumStringLength then
            CdrReader.fail "CDR bounded-string length exceeds its schema maximum"
          else pure (CdrValue.string view) : CdrScan Unit CdrValue) =
          skip length.toNat >>= fun _ =>
            pure (.string { offset := s'.position, size := length.toNat - 1 }) := by
        rw [pure_bind, if_neg hmaximum]
      rw [if_neg hmaximum, hpure]
      exact skip_note_agrees hbeside.1 hbeside.2 ⟨rfl, rfl, rfl⟩ length.toNat

variable {walkNested : Nat → Walk Unit}

/-- A value that is no struct and no container. -/
theorem walkScalar_agrees_leaf {type : CdrSchemaType} (hscalar : type.container = .scalar)
    (hstruct : type.kind ≠ .struct) (requestedId : Option Nat) (h : s.position = t.position)
    (hs : inside input s) :
    Alike (fun _ s' value t' => Leaves input (cachedKind type) requestedId s s' value t')
      (walkScalar input walkNested type requestedId s) (readScalar input readNested type t) := by
  by_cases hstring : type.kind = .string
  · have hkind : cachedKind type = .string := by
      unfold cachedKind
      rw [if_neg fun h => h hscalar, hstring]
    have hwalk : walkScalar input walkNested type requestedId =
        walkString input type requestedId := by
      unfold walkScalar
      rw [hstring]
    have hread : readScalar input readNested type =
        readBoundedString input type.maximumStringLength := by
      unfold readScalar
      rw [hstring]
    rw [hwalk, hread, hkind]
    exact walkString_agrees requestedId h
  have hwalk : walkScalar input walkNested type requestedId =
      walkPrimitive input type requestedId := by
    unfold walkScalar
    cases hkind : type.kind with
    | struct => exact absurd hkind hstruct
    | string => exact absurd hkind hstring
    | _ => rfl
  rw [hwalk]
  -- the truth value is read as a byte by one side and as a wide number by the other
  by_cases hbool : type.kind = .bool
  · rw [readScalar_bool hbool]
    have hkind : cachedKind type = .bool := by
      unfold cachedKind
      rw [if_neg fun h => h hscalar, hbool]
    have hwidth : primitiveSize type.kind = 1 := by
      rw [hbool]
      rfl
    refine walkPrimitive_agrees_finish requestedId h ?_ ?_ hs
    · intro offset hfits hrefused
      rw [hwidth] at hfits ⊢
      rw [unsignedAt_one hfits, UInt8.toUInt8_toUInt64, if_pos hrefused.2]
      exact ⟨_, rfl⟩
    · intro offset hfits hrefused
      rw [hwidth] at hfits ⊢
      have hbyte : ¬ input.payload.getD offset 0 > 1 := fun hbyte => hrefused ⟨hbool, hbyte⟩
      rw [unsignedAt_one hfits, UInt8.toUInt8_toUInt64, if_neg hbyte]
      refine ⟨_, rfl, rfl, rfl, ?_⟩
      unfold noteValue
      rw [hkind]
      dsimp only
      obtain ⟨hwide, htruth⟩ := wide_of_byte hbyte
      rw [unsignedAt_one hfits, if_neg hwide, htruth]
  · rw [readScalar_number hbool hstring hstruct]
    refine walkPrimitive_agrees_finish requestedId h ?_ ?_ hs
    · intro offset _ hrefused
      exact absurd hrefused.1 hbool
    · intro offset _ _
      exact ⟨_, rfl, ofBits_holds hscalar hbool hstring hstruct offset⟩

/-! ## Containers -/

/-- Bytes are not aligned. -/
theorem align_one (t : Reading) : align input 1 t = .ok () t := by
  unfold align
  rw [run_bind_ok (show (get : CdrScan Unit Reading) t = .ok t t from rfl), if_neg (by decide)]
  have hpadding : (1 - ((t.position - dataOrigin) &&& (1 - 1))) &&& (1 - 1) = 0 := Nat.and_zero _
  rw [hpadding, if_neg (Nat.not_lt_zero _)]
  rfl

theorem readScalar_u8_run {type : CdrSchemaType} (hbytes : type.kind = .u8) (t : Reading) :
    readScalar input readNested type t =
      if 1 > remaining input t then .error (.status "truncated CDR primitive") t
      else .ok (.u8 (unsignedAt input t.position 1).toUInt8)
        { t with position := t.position + 1 } := by
  rw [readScalar_number (by rw [hbytes]; decide) (by rw [hbytes]; decide) (by rw [hbytes]; decide),
    hbytes, show primitiveSize .u8 = 1 from rfl]
  unfold readUnsigned
  rw [bind_assoc, run_bind_ok (align_one t), bind_assoc,
    run_bind_ok (show (get : CdrScan Unit Reading) t = .ok t t from rfl)]
  by_cases hroom : 1 > remaining input t
  · rw [if_pos hroom, if_pos hroom]
    rfl
  · rw [if_neg hroom, if_neg hroom]
    rfl

/-- Bytes that are there are read one by one, and no others. -/
theorem readElements_bytes {type : CdrSchemaType} (hbytes : type.kind = .u8) :
    ∀ (count : Nat) (t : Reading),
      (count ≤ remaining input t → ∃ values,
        readElements (readScalar input readNested type) count t =
          .ok values { t with position := t.position + count }) ∧
      (count > remaining input t → ∃ e t',
        readElements (readScalar input readNested type) count t = .error e t') := by
  intro count
  induction count with
  | zero =>
    intro t
    constructor
    · exact fun _ => ⟨[], rfl⟩
    · exact fun h => absurd h (Nat.not_lt_zero _)
  | succ count ih =>
    intro t
    have hstep := @readScalar_u8_run input readNested type hbytes t
    by_cases hroom : 1 > remaining input t
    · rw [if_pos hroom] at hstep
      constructor
      · intro hle
        omega
      · intro _
        exact ⟨_, _, run_bind_error hstep⟩
    · rw [if_neg hroom] at hstep
      -- one byte less remains for the elements that follow
      have hnext := ih { t with position := t.position + 1 }
      have hremaining : remaining input { t with position := t.position + 1 } + 1 =
          remaining input t := by
        unfold remaining at hroom ⊢
        show input.payload.length - (t.position + 1) + 1 = _
        omega
      constructor
      · intro hle
        obtain ⟨values, hrest⟩ := hnext.1 (by omega)
        refine ⟨.u8 (unsignedAt input t.position 1).toUInt8 :: values, ?_⟩
        unfold readElements
        rw [run_bind_ok hstep, run_bind_ok hrest]
        show EStateM.Result.ok _ { t with position := t.position + 1 + count } = _
        rw [Nat.add_assoc, Nat.add_comm 1 count]
      · intro hgt
        obtain ⟨e, t', hrest⟩ := hnext.2 (by omega)
        refine ⟨e, t', ?_⟩
        unfold readElements
        rw [run_bind_ok hstep, run_bind_error hrest]

/-- A block of bytes is stepped over at once on one side, and byte by byte on the other. -/
theorem walkBytes_agrees {type : CdrSchemaType} (hbytes : type.kind = .u8) {s₀ : Cursor}
    (h : s.position = t.position) (hnotes : s.cachedFields = s₀.cachedFields)
    (size : Nat) (requestedId : Option Nat) (message : String) :
    Alike (fun _ s' value t' => Leaves input .bytes requestedId s₀ s' value t')
      (walkBytes input size requestedId message s)
        (readContainer input readNested type size t) := by
  unfold walkBytes readContainer
  refine Alike.get ?_
  obtain ⟨hread, hrefused⟩ := @readElements_bytes input readNested type hbytes size t
  rw [← remaining_congr h] at hread hrefused
  by_cases hroom : size > remaining input s
  · obtain ⟨e, t', hrun⟩ := hrefused hroom
    rw [if_pos hroom, run_bind_error hrun]
    trivial
  · obtain ⟨values, hrun⟩ := hread (Nat.le_of_not_lt hroom)
    rw [if_neg hroom, run_bind_ok hrun, if_pos hbytes]
    have hholds : Holds input .bytes (.bytes { offset := t.position, size })
        { kind := .bytes, offset := s.position, size, located := true } := by
      rw [h]
      exact ⟨rfl, rfl, rfl⟩
    exact skip_note_agrees h hnotes hholds size

/-- The elements of a loop, one by one on both sides. -/
theorem walkElements_agrees {walkElement : Walk Unit} {readElement : CdrScan Unit CdrValue}
    {minimum : Nat} {notes : List (CachedField CachedKind)}
    (hadvances : Advances (track input) minimum walkElement) (hpositive : minimum ≠ 0)
    (helement : ∀ (s : Cursor) (t : Reading), s.position = t.position → inside input s →
      s.cachedFields = notes →
      Alike (fun _ s' _ t' => Beside s s' t') (walkElement s) (readElement t)) (message : String) :
    ∀ (rounds count : Nat) (s : Cursor) (t : Reading), s.position = t.position → inside input s →
      s.cachedFields = notes → remaining input s < rounds →
      Alike (fun _ s' _ t' => Beside s s' t') (walkElements walkElement message rounds count s)
        (readElements readElement count t) := by
  intro rounds
  induction rounds with
  | zero =>
    intro count s t _ _ _ hrounds
    exact absurd hrounds (Nat.not_lt_zero _)
  | succ rounds ih =>
    intro count s t h hs hnotes hrounds
    cases count with
    | zero => exact ⟨h, rfl⟩
    | succ count =>
      unfold walkElements readElements
      rw [run_bind_ok (show (get : Walk Cursor) s = .ok s s from rfl)]
      refine (helement s t h hs hnotes).bind ?_
      intro _ s' value t' hrun _ hbeside
      obtain ⟨hs', hforward⟩ := hadvances.of_ok hs hrun
      -- an element takes something, so the guard of the loop is never met
      have hmoved : s.position + minimum ≤ s'.position := hforward
      have hbound := hs'.1
      rw [run_bind_ok (show (get : Walk Cursor) s' = .ok s' s' from rfl), if_neg (by omega)]
      have hfewer : remaining input s' < rounds := by
        unfold remaining at hrounds ⊢
        omega
      have hrest := ih count s' t' hbeside.1 hs' (hbeside.2.trans hnotes) hfewer
      rw [← bind_pure (walkElements walkElement message rounds count)]
      refine hrest.bind ?_
      intro _ s'' values t'' _ _ hbeside'
      exact ⟨hbeside'.1, hbeside'.2.trans hbeside.2⟩

/-- The guard of a sequence refuses no count of elements that could be read. -/
theorem readElements_le {walkElement : Walk Unit} {readElement : CdrScan Unit CdrValue}
    {minimum : Nat} (hadvances : Advances (track input) minimum walkElement)
    (hpositive : minimum ≠ 0)
    (helement : ∀ (s' : Cursor) (t : Reading), s'.position = t.position → inside input s' →
      s'.cachedFields = s.cachedFields →
      Alike (fun _ s'' _ t' => Beside s' s'' t') (walkElement s') (readElement t))
    (h : s.position = t.position) (hs : inside input s) {count : Nat} {values : List CdrValue}
    {t' : Reading} (hread : readElements readElement count t = .ok values t') :
    count ≤ remaining input s / minimum := by
  have hagrees :=
    walkElements_agrees hadvances hpositive helement "" (roundsLeft input s) count s t h
    hs rfl (Nat.lt_succ_self _)
  obtain ⟨_, s', hwalk⟩ := hagrees.ok_iff.mpr ⟨values, t', hread⟩
  have hend :=
    walkElements_advances hadvances "" (roundsLeft input s) count s hs (Nat.lt_succ_self _)
  unfold AdvancesFrom at hend
  rw [hwalk] at hend
  obtain ⟨hs', hmoved⟩ := hend
  have hmoved' : s.position + count * minimum ≤ s'.position := hmoved
  have hbound := hs'.1
  rw [Nat.le_div_iff_mul_le (Nat.pos_of_ne_zero hpositive)]
  unfold remaining
  omega

variable {structs : List CdrSchemaStruct}

/-- A container whose elements take something: neither guard gets in the way of a reading. -/
def Sized (structs : List CdrSchemaStruct) (type : CdrSchemaType) : Prop :=
  type.container ≠ .scalar →
    ∃ minimum, minimumSize structs kMaxTraversalDepth type = .ok minimum ∧ minimum ≠ 0

/-- The walk of an element goes with the reading of it, and notes nothing. -/
def ElementsAgree (input : CdrInput) (walkElement : Walk Unit) (readElement : CdrScan Unit CdrValue)
    (notes : List (CachedField CachedKind)) : Prop :=
  ∀ (s : Cursor) (t : Reading), s.position = t.position → inside input s → s.cachedFields = notes →
    Alike (fun _ s' _ t' => Beside s s' t') (walkElement s) (readElement t)

theorem readContainer_elements {type : CdrSchemaType} (hbytes : type.kind ≠ .u8) (count : Nat) :
    readContainer input readNested type count =
      readElements (readScalar input readNested type) count >>= fun values =>
        (pure (.elements values) : CdrScan Unit CdrValue) := by
  unfold readContainer
  refine funext fun t => ?_
  rw [run_bind_ok (show (get : CdrScan Unit Reading) t = .ok t t from rfl)]
  refine congrFun (congrArg _ (funext fun values => ?_)) t
  rw [if_neg hbytes]

/-- A loop that is entered, and the reading of as many elements. -/
theorem walkLoop_agrees {type : CdrSchemaType} {minimum : Nat} {s₀ : Cursor}
    (hbytes : type.kind ≠ .u8)
    (hadvances : Advances (track input) minimum (walkScalar input walkNested (elementType type) none))
    (hpositive : minimum ≠ 0)
    (helement : ElementsAgree input (walkScalar input walkNested (elementType type) none)
      (readScalar input readNested type) s.cachedFields)
    (h : s.position = t.position) (hs : inside input s) (hnotes : s.cachedFields = s₀.cachedFields)
    (message : String) (count : Nat) :
    Alike (fun _ s' _ t' => Beside s₀ s' t')
      (walkElements (walkScalar input walkNested (elementType type) none) message
        (roundsLeft input s) count s)
      (readContainer input readNested type count t) := by
  rw [readContainer_elements hbytes, ← bind_pure (walkElements _ message _ count)]
  refine (walkElements_agrees hadvances hpositive helement message _ count s t h hs rfl
    (Nat.lt_succ_self _)).bind ?_
  intro _ s' _ t' _ _ hbeside
  exact ⟨hbeside.1, hbeside.2.trans hnotes⟩

theorem walkFixedArray_agrees {type : CdrSchemaType} (hbytes : type.kind ≠ .u8)
    (hnested : NestedAdvances structs input walkNested)
    (hsized : ∃ minimum, minimumSize structs kMaxTraversalDepth type = .ok minimum ∧ minimum ≠ 0)
    (helement : ElementsAgree input (walkScalar input walkNested (elementType type) none)
      (readScalar input readNested type) s.cachedFields)
    (h : s.position = t.position) (hs : inside input s) (requestedId : Option Nat) :
    Alike (fun _ s' _ t' => Beside s s' t')
      (walkFixedArray structs input walkNested type requestedId s)
      (readContainer input readNested type type.fixedCount t) := by
  obtain ⟨minimum, hminimum, hpositive⟩ := hsized
  have hadvances : Advances (track input) minimum
      (walkScalar input walkNested (elementType type) none) :=
    walkScalar_advances hnested
      (Or.inr ⟨_, (minimumSize_elementType kMaxTraversalDepth type).trans hminimum⟩) none
  have hcount : fixedArrayCount structs (elementType type) s = .ok type.fixedCount s := by
    unfold fixedArrayCount
    rw [minimumSize_elementType, hminimum]
    dsimp only
    rw [if_neg fun hzero => hpositive hzero.2]
    rfl
  unfold walkFixedArray
  rw [if_neg hbytes, run_bind_ok hcount,
    run_bind_ok (show (get : Walk Cursor) s = .ok s s from rfl)]
  exact walkLoop_agrees hbytes hadvances hpositive helement h hs rfl _ _

/-- A sequence of anything but bytes. -/
theorem walkSequence_agrees {type : CdrSchemaType} (hbytes : type.kind ≠ .u8)
    (hnested : NestedAdvances structs input walkNested)
    (hsized : ∃ minimum, minimumSize structs kMaxTraversalDepth type = .ok minimum ∧ minimum ≠ 0)
    (helement : ElementsAgree input (walkScalar input walkNested (elementType type) none)
      (readScalar input readNested type) s.cachedFields)
    (hsequence : type.container = .sequence) (h : s.position = t.position) (hs : inside input s)
    (requestedId : Option Nat) :
    Alike (fun _ s' _ t' => Beside s s' t')
      (walkSequence structs input walkNested type requestedId s)
      (readValue input readNested type t) := by
  obtain ⟨minimum, hminimum, hpositive⟩ := hsized
  have hadvances : Advances (track input) minimum
      (walkScalar input walkNested (elementType type) none) :=
    walkScalar_advances hnested
      (Or.inr ⟨_, (minimumSize_elementType kMaxTraversalDepth type).trans hminimum⟩) none
  unfold walkSequence readValue
  rw [hsequence]
  refine (readU32_agrees h).bind ?_
  intro count s' count' t' hrun _ hrelated
  obtain ⟨rfl, hbeside⟩ := hrelated
  have hs' : inside input s' := (readU32_advances.of_ok hs hrun).1
  have helement' : ElementsAgree input (walkScalar input walkNested (elementType type) none)
      (readScalar input readNested type) s'.cachedFields := by
    rw [hbeside.2]
    exact helement
  refine Alike.ite Iff.rfl (fun _ => fail_agrees _ _) ?_
  intro _
  rw [if_neg hbytes]
  have hcount : sequenceCount structs input type count s' =
      if count.toNat > remaining input s' / minimum then
        .error (.status "CDR sequence length exceeds the remaining payload") s'
      else .ok count.toNat s' := by
    unfold sequenceCount
    rw [run_bind_ok (show (get : Walk Cursor) s' = .ok s' s' from rfl), hminimum]
    dsimp only
    rw [if_neg fun hzero => hpositive hzero.2]
    by_cases hroom : count.toNat > remaining input s' / minimum
    · rw [if_pos hroom, if_pos ⟨hpositive, hroom⟩]
      rfl
    · rw [if_neg hroom, if_neg fun hboth => hroom hboth.2]
      rfl
  by_cases hroom : count.toNat > remaining input s' / minimum
  · rw [if_pos hroom] at hcount
    rw [run_bind_error hcount, readContainer_elements hbytes]
    -- the reading would have to go through as many elements as the guard refuses
    cases hread : readElements (readScalar input readNested type) count.toNat t' with
    | error e t'' =>
      rw [run_bind_error hread]
      trivial
    | ok values t'' =>
      have hle := readElements_le hadvances hpositive helement' hbeside.1 hs' hread
      omega
  · rw [if_neg hroom] at hcount
    rw [run_bind_ok hcount, run_bind_ok (show (get : Walk Cursor) s' = .ok s' s' from rfl)]
    exact walkLoop_agrees hbytes hadvances hpositive helement' hbeside.1 hs' hbeside.2 _ _

/-- A block of bytes, with its length in front of it. -/
theorem walkSequence_agrees_bytes {type : CdrSchemaType} (hbytes : type.kind = .u8)
    (hsequence : type.container = .sequence) (h : s.position = t.position)
    (requestedId : Option Nat) :
    Alike (fun _ s' value t' => Leaves input .bytes requestedId s s' value t')
      (walkSequence structs input walkNested type requestedId s)
      (readValue input readNested type t) := by
  unfold walkSequence readValue
  rw [hsequence]
  refine (readU32_agrees h).bind ?_
  intro count s' count' t' hrun _ hrelated
  obtain ⟨rfl, hbeside⟩ := hrelated
  refine Alike.ite Iff.rfl (fun _ => fail_agrees _ _) ?_
  intro _
  rw [if_pos hbytes]
  exact walkBytes_agrees hbytes hbeside.1 hbeside.2 count.toNat requestedId _

end PlotJugglerSdk.ParserModule.CdrTraversalPlan
