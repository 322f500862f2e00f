import PlotJugglerSdk.ParserModule.CdrTraversal
import PlotJugglerSdk.Scan.Folds
import PlotJugglerSdk.Scan.Steps

/-!
# A traversal is safe

Whatever the payload says, the traversal of a message stays inside it and comes to an end.
What keeps the loops short is that an element is never smaller than the size that
`minimumSize` promises for its type, and that a loop is not entered where it promises none.

* `walkScalar_advances`, `walkValue_advances`  — a value takes what its type promises
* `walkStruct_advances`                        — the same of a struct, by levels
* `sequenceCount_ok`, `fixedArrayCount_ok`     — the guards in front of the loops
* `traversal_safe`                             — all of it, of every plan and payload
-/

namespace PlotJugglerSdk.ParserModule.CdrTraversalPlan

open Wire Scan CdrFieldLocator CdrReader

/-- The cursor is inside the payload, and so is every field that was noted. -/
def inside (input : CdrInput) (cursor : Cursor) : Prop :=
  cursor.position ≤ input.payload.length ∧
    ∀ cached ∈ cursor.cachedFields, cached.located = true →
      cached.offset + cached.size ≤ input.payload.length

/-- What a step of the traversal is measured by. -/
def track (input : CdrInput) : Track Cursor := ⟨inside input, CdrCursor.position⟩

variable {input : CdrInput}

/-! ## Primitives -/

theorem fail_advances {α : Type} (n : Nat) (message : String) :
    Advances (track input) n (fail message : Walk α) :=
  Advances.fail n message

theorem skip_advances {s : Cursor} {size : Nat} (hs : inside input s)
    (hle : ¬ size > remaining input s) : AdvancesFrom (track input) s size (skip size) := by
  have hroom : s.position + size ≤ input.payload.length := by
    have hpos := hs.1
    unfold remaining at hle
    omega
  show inside input { s with position := s.position + size } ∧ s.position + size ≤ s.position + size
  exact ⟨⟨hroom, hs.2⟩, Nat.le_refl _⟩

theorem note_advances (requestedId : Option Nat) {cached : CachedField CachedKind}
    (hcached : cached.offset + cached.size ≤ input.payload.length) :
    Advances (track input) 0 (note requestedId cached) := by
  intro s hs
  cases requestedId with
  | none => exact Advances.pure () s hs
  | some id =>
    refine ⟨⟨hs.1, ?_⟩, Nat.le_refl _⟩
    intro other hmem hlocated
    -- a field of the list is the new one or an old one
    cases List.mem_or_eq_of_mem_set hmem with
    | inl hold => exact hs.2 other hold hlocated
    | inr hnew =>
      rw [hnew]
      exact hcached

theorem align_advances (alignment : Nat) : Advances (track input) 0 (align input alignment) := by
  unfold align
  refine Advances.get ?_
  intro s hs
  refine AdvancesFrom.ite (fun _ => fail_advances 0 _ s hs) ?_
  intro _
  refine AdvancesFrom.ite (fun _ => fail_advances 0 _ s hs) ?_
  intro hroom
  exact (skip_advances hs hroom).mono (Nat.zero_le _)

theorem readUnsigned_advances (width : Nat) :
    Advances (track input) width (readUnsigned input width) := by
  unfold readUnsigned
  refine ((align_advances width).bind (m := width) ?_).mono (by omega)
  intro _
  refine Advances.get ?_
  intro s hs
  refine AdvancesFrom.ite (fun _ => fail_advances width _ s hs) ?_
  intro hroom
  exact (skip_advances hs hroom).bind fun _ s' _ hs' => Advances.pure _ s' hs'

theorem readU32_advances : Advances (track input) 4 (readU32 input) := by
  unfold readU32
  exact (readUnsigned_advances 4).bind fun _ => Advances.pure _

theorem walkBytes_advances (size : Nat) (requestedId : Option Nat) (message : String) :
    Advances (track input) size (walkBytes input size requestedId message) := by
  unfold walkBytes
  refine Advances.get ?_
  intro s hs
  refine AdvancesFrom.ite (fun _ => fail_advances size _ s hs) ?_
  intro hroom
  have hfits : s.position + size ≤ input.payload.length := by
    have hpos := hs.1
    unfold remaining at hroom
    omega
  exact (skip_advances hs hroom).bind fun _ s' _ hs' => note_advances requestedId hfits s' hs'

/-- A string takes its length and its terminator. -/
theorem walkString_advances (type : CdrSchemaType) (requestedId : Option Nat) :
    Advances (track input) 5 (walkString input type requestedId) := by
  unfold walkString
  refine readU32_advances.bind (m := 1) ?_
  intro length
  refine Advances.get ?_
  intro s hs
  refine AdvancesFrom.ite (fun _ => fail_advances 1 _ s hs) ?_
  intro hlength
  refine AdvancesFrom.ite (fun _ => fail_advances 1 _ s hs) ?_
  intro _
  refine AdvancesFrom.ite (fun _ => fail_advances 1 _ s hs) ?_
  intro _
  have hpositive : 1 ≤ length.toNat := by
    have hne : length ≠ 0 := fun h => hlength (Or.inl h)
    have hnat : length.toNat ≠ 0 := fun h => hne (UInt32.toNat_inj.mp h)
    omega
  have hroom : ¬ length.toNat > remaining input s := fun h => hlength (Or.inr h)
  have hfits : s.position + (length.toNat - 1) ≤ input.payload.length := by
    have hpos := hs.1
    unfold remaining at hroom
    omega
  exact ((skip_advances hs hroom).bind fun _ s' _ hs' =>
    note_advances requestedId hfits s' hs').mono
    hpositive

theorem walkPrimitive_advances (type : CdrSchemaType) (requestedId : Option Nat) :
    Advances (track input) (primitiveSize type.kind) (walkPrimitive input type requestedId) := by
  unfold walkPrimitive
  refine ((align_advances _).bind (m := primitiveSize type.kind) ?_).mono (by omega)
  intro _
  refine Advances.get ?_
  intro s hs
  refine AdvancesFrom.ite (fun _ => fail_advances _ _ s hs) ?_
  intro hroom
  refine AdvancesFrom.ite (fun _ => fail_advances _ _ s hs) ?_
  intro _
  have hfits : s.position + primitiveSize type.kind ≤ input.payload.length := by
    have hpos := hs.1
    unfold remaining at hroom
    omega
  exact (skip_advances hs hroom).bind fun _ s' _ hs' => note_advances requestedId hfits s' hs'

/-! ## Minimum sizes -/

/-- What a type promises of its elements, at any number of levels; nothing is always promised. -/
def Promises (structs : List CdrSchemaStruct) (type : CdrSchemaType) (n : Nat) : Prop :=
  n = 0 ∨ ∃ levels, minimumSize structs levels type = .ok n

/-- What a value takes, given the minimum of its type: a fixed array that of every element, a
sequence the four bytes of its length. -/
def leastBytes (type : CdrSchemaType) (minimum : Nat) : Nat :=
  match type.container with
  | .scalar => minimum
  | .fixedArray => type.fixedCount * minimum
  | .sequence => 4

/-- What a field of the type promises, container and all. -/
def FieldPromises (structs : List CdrSchemaStruct) (type : CdrSchemaType) (n : Nat) : Prop :=
  n = 0 ∨ ∃ levels minimum, minimumSize structs levels type = .ok minimum ∧
    n = leastBytes type minimum

/-- What a field adds to the sum of its struct. -/
def addMinimum (structs : List CdrSchemaStruct) (levels total : Nat) (field : CdrSchemaField) :
    Except String Nat := do
  let minimum ← minimumSize structs levels field.type
  let fieldMinimum ← fieldMinimum field.type minimum
  if fieldMinimum > sizeMax - total then
    .error "CDR schema minimum size overflows the host size type"
  else return total + fieldMinimum

variable {structs : List CdrSchemaStruct}

theorem minimumSize_string {type : CdrSchemaType} (h : type.kind = .string) (levels : Nat) :
    minimumSize structs levels type = .ok 5 := by
  unfold minimumSize
  rw [h]

theorem minimumSize_primitive {type : CdrSchemaType} (hstring : type.kind ≠ .string)
    (hstruct : type.kind ≠ .struct) (levels : Nat) :
    minimumSize structs levels type = .ok (primitiveSize type.kind) := by
  unfold minimumSize
  cases hkind : type.kind with
  | string => exact absurd hkind hstring
  | struct => exact absurd hkind hstruct
  | _ => rfl

theorem minimumSize_struct_zero {type : CdrSchemaType} (h : type.kind = .struct) :
    minimumSize structs 0 type = .error "CDR schema nesting depth exceeds 64" := by
  unfold minimumSize
  rw [h]

theorem minimumSize_struct {type : CdrSchemaType} (h : type.kind = .struct) (levels : Nat) :
    minimumSize structs (levels + 1) type =
      (structAt structs type.nestedIndex).fields.foldlM (addMinimum structs levels) 0 := by
  conv => lhs; unfold minimumSize
  rw [h]
  rfl

/-- The container of a type does not matter to the size of its elements. -/
theorem minimumSize_elementType (levels : Nat) (type : CdrSchemaType) :
    minimumSize structs levels (elementType type) = minimumSize structs levels type := by
  unfold minimumSize
  rfl

theorem fieldMinimum_ok {type : CdrSchemaType} {minimum n : Nat}
    (h : fieldMinimum type minimum = .ok n) : n = leastBytes type minimum := by
  unfold fieldMinimum at h
  unfold leastBytes
  cases hcontainer : type.container with
  | scalar =>
    rw [hcontainer] at h
    exact (Except.ok.inj h).symm
  | sequence =>
    rw [hcontainer] at h
    exact (Except.ok.inj h).symm
  | fixedArray =>
    rw [hcontainer] at h
    dsimp only at h ⊢
    split at h
    · exact nomatch h
    · rw [← Except.ok.inj h, Nat.mul_comm]

theorem addMinimum_ok {levels total total' : Nat} {field : CdrSchemaField}
    (h : addMinimum structs levels total field = .ok total') :
    ∃ n, FieldPromises structs field.type n ∧ total' = total + n := by
  unfold addMinimum at h
  cases hminimum : minimumSize structs levels field.type with
  | error e =>
    rw [hminimum] at h
    exact nomatch h
  | ok minimum =>
    rw [hminimum] at h
    replace h : (fieldMinimum field.type minimum >>= fun n =>
        if n > sizeMax - total then
          Except.error "CDR schema minimum size overflows the host size type"
        else Except.ok (total + n)) = .ok total' := h
    cases hfield : fieldMinimum field.type minimum with
    | error e =>
      rw [hfield] at h
      exact nomatch h
    | ok n =>
      rw [hfield] at h
      replace h : (if n > sizeMax - total then
          Except.error "CDR schema minimum size overflows the host size type"
        else Except.ok (total + n)) = .ok total' := h
      refine ⟨n, Or.inr ⟨levels, minimum, hminimum, fieldMinimum_ok hfield⟩, ?_⟩
      split at h
      · exact nomatch h
      · exact (Except.ok.inj h).symm

/-! ## Values -/

/-- The structs inside a value take what they promise. -/
def NestedAdvances (structs : List CdrSchemaStruct) (input : CdrInput)
    (walkNested : Nat → Walk Unit) : Prop :=
  ∀ type n, type.kind = CdrValueKind.struct → Promises structs type n →
    Advances (track input) n (walkNested type.nestedIndex)

variable {walkNested : Nat → Walk Unit}

theorem walkScalar_advances (hnested : NestedAdvances structs input walkNested)
    {type : CdrSchemaType} {n : Nat} (hpromise : Promises structs type n)
    (requestedId : Option Nat) :
    Advances (track input) n (walkScalar input walkNested type requestedId) := by
  by_cases hstruct : type.kind = .struct
  · have hwalk : walkScalar input walkNested type requestedId = walkNested type.nestedIndex := by
      unfold walkScalar
      rw [hstruct]
    rw [hwalk]
    exact hnested type n hstruct hpromise
  by_cases hstring : type.kind = .string
  · have hwalk : walkScalar input walkNested type requestedId =
      walkString input type requestedId := by
      unfold walkScalar
      rw [hstring]
    rw [hwalk]
    refine (walkString_advances type requestedId).mono ?_
    obtain rfl | ⟨levels, hminimum⟩ := hpromise
    · exact Nat.zero_le _
    · rw [minimumSize_string hstring] at hminimum
      exact Nat.le_of_eq (Except.ok.inj hminimum).symm
  · have hwalk : walkScalar input walkNested type requestedId =
        walkPrimitive input type requestedId := by
      unfold walkScalar
      cases hkind : type.kind with
      | struct => exact absurd hkind hstruct
      | string => exact absurd hkind hstring
      | _ => rfl
    rw [hwalk]
    refine (walkPrimitive_advances type requestedId).mono ?_
    obtain rfl | ⟨levels, hminimum⟩ := hpromise
    · exact Nat.zero_le _
    · rw [minimumSize_primitive hstring hstruct] at hminimum
      exact Nat.le_of_eq (Except.ok.inj hminimum).symm

/-- The loop ends before its rounds do: an element that takes nothing ends it with an error,
and every other leaves fewer bytes. -/
theorem walkElements_advances {walkElement : Walk Unit} {m : Nat}
    (helement : Advances (track input) m walkElement) (message : String) :
    ∀ (rounds count : Nat) (s : Cursor), inside input s → remaining input s < rounds →
      AdvancesFrom (track input) s (count * m) (walkElements walkElement message rounds count) := by
  intro rounds
  induction rounds with
  | zero =>
    intro count s _ hrounds
    exact absurd hrounds (Nat.not_lt_zero _)
  | succ rounds ih =>
    intro count s hs hrounds
    cases count with
    | zero =>
      rw [Nat.zero_mul]
      exact Advances.pure () s hs
    | succ count =>
      rw [show (count + 1) * m = m + count * m by rw [Nat.add_mul, Nat.one_mul, Nat.add_comm]]
      refine (helement s hs).bind ?_
      intro _ s' _ hs'
      -- what the second look at the cursor sees is the cursor behind the element
      show AdvancesFrom (track input) s' (count * m)
        (if s'.position ≤ s.position then fail message
          else walkElements walkElement message rounds count)
      refine AdvancesFrom.ite (fun _ => fail_advances _ message s' hs') ?_
      intro hforward
      refine ih count s' hs' ?_
      have hbound := hs'.1
      unfold remaining at hrounds ⊢
      omega

theorem sequenceCount_advances (type : CdrSchemaType) (count : UInt32) :
    Advances (track input) 0 (sequenceCount structs input type count) := by
  unfold sequenceCount
  refine Advances.get ?_
  intro s hs
  cases minimumSize structs kMaxTraversalDepth type with
  | error e => exact fail_advances 0 e s hs
  | ok minimum =>
    refine AdvancesFrom.ite (fun _ => fail_advances 0 _ s hs) ?_
    intro _
    exact AdvancesFrom.ite (fun _ => fail_advances 0 _ s hs) fun _ => Advances.pure _ s hs

theorem fixedArrayCount_advances (type : CdrSchemaType) :
    Advances (track input) 0 (fixedArrayCount structs type) := by
  unfold fixedArrayCount
  cases minimumSize structs kMaxTraversalDepth type with
  | error e => exact fail_advances 0 e
  | ok minimum => exact Advances.ite (fun _ => fail_advances 0 _) fun _ => Advances.pure _

/-- More rounds than enough change nothing. -/
theorem walkElements_rounds {walkElement : Walk Unit}
    (helement : Advances (track input) 0 walkElement) (message : String) :
    ∀ (rounds more count : Nat) (s : Cursor), inside input s → remaining input s < rounds →
      walkElements walkElement message (rounds + more) count s =
        walkElements walkElement message rounds count s := by
  intro rounds
  induction rounds with
  | zero =>
    intro more count s _ hrounds
    exact absurd hrounds (Nat.not_lt_zero _)
  | succ rounds ih =>
    intro more count s hs hrounds
    rw [show rounds + 1 + more = (rounds + more) + 1 by omega]
    cases count with
    | zero => rfl
    | succ count =>
      have hrun (fewer : Nat) : walkElements walkElement message (fewer + 1) (count + 1) s =
          (walkElement >>= fun _ => get >>= fun cursor : Cursor =>
            if cursor.position ≤ s.position then fail message
            else walkElements walkElement message fewer count) s := rfl
      rw [hrun, hrun]
      cases hstep : walkElement s with
      | error e s' => rw [run_bind_error hstep, run_bind_error hstep]
      | ok _ s' =>
        rw [run_bind_ok hstep, run_bind_ok hstep]
        obtain ⟨hs', -⟩ := helement.of_ok hs hstep
        show (if s'.position ≤ s.position then CdrReader.fail message
            else walkElements walkElement message (rounds + more) count) s' =
          (if s'.position ≤ s.position then CdrReader.fail message
            else walkElements walkElement message rounds count) s'
        -- a round that does not move fails, so those that go on leave less behind
        by_cases hforward : s'.position ≤ s.position
        · rw [if_pos hforward, if_pos hforward]
        · rw [if_neg hforward, if_neg hforward]
          refine ih more count s' hs' ?_
          have hbound := hs'.1
          unfold remaining at hrounds ⊢
          omega

/-- Behind its guard a loop has elements that promise something, or no elements. -/
theorem sequenceCount_ok {type : CdrSchemaType} {count : UInt32} {elements : Nat} {s s' : Cursor}
    (h : sequenceCount structs input type count s = .ok elements s') :
    elements = count.toNat ∧ s' = s ∧ (elements ≠ 0 →
      ∃ minimum, minimumSize structs kMaxTraversalDepth type = .ok minimum ∧ 1 ≤ minimum ∧
        elements ≤ remaining input s / minimum) := by
  unfold sequenceCount at h
  rw [run_bind_ok (show (get : Walk Cursor) s = .ok s s from rfl)] at h
  cases hminimum : minimumSize structs kMaxTraversalDepth type with
  | error e =>
    rw [hminimum] at h
    exact nomatch h
  | ok minimum =>
    rw [hminimum] at h
    dsimp only at h
    by_cases hzero : count ≠ 0 ∧ minimum = 0
    · rw [if_pos hzero] at h
      exact nomatch h
    rw [if_neg hzero] at h
    by_cases hroom : minimum ≠ 0 ∧ count.toNat > remaining input s / minimum
    · rw [if_pos hroom] at h
      exact nomatch h
    rw [if_neg hroom] at h
    -- both guards are passed: the count is what was read
    have hresult : EStateM.Result.ok count.toNat s =
        EStateM.Result.ok (ε := ScanError) elements s' := h
    injection hresult with helements hs
    refine ⟨helements.symm, hs.symm, ?_⟩
    intro hne
    have hcount : count ≠ 0 := by
      rintro rfl
      exact hne helements.symm
    have hminimum : minimum ≠ 0 := fun h => hzero ⟨hcount, h⟩
    refine ⟨minimum, rfl, by omega, ?_⟩
    have hle : ¬ count.toNat > remaining input s / minimum := fun h => hroom ⟨hminimum, h⟩
    omega

theorem fixedArrayCount_ok {type : CdrSchemaType} {elements : Nat} {s s' : Cursor}
    (h : fixedArrayCount structs type s = .ok elements s') :
    elements = type.fixedCount ∧ s' = s ∧ (elements ≠ 0 →
      ∃ minimum, minimumSize structs kMaxTraversalDepth type = .ok minimum ∧ 1 ≤ minimum) := by
  unfold fixedArrayCount at h
  cases hminimum : minimumSize structs kMaxTraversalDepth type with
  | error e =>
    rw [hminimum] at h
    exact nomatch h
  | ok minimum =>
    rw [hminimum] at h
    dsimp only at h
    by_cases hzero : type.fixedCount ≠ 0 ∧ minimum = 0
    · rw [if_pos hzero] at h
      exact nomatch h
    rw [if_neg hzero] at h
    have hresult : EStateM.Result.ok type.fixedCount s =
        EStateM.Result.ok (ε := ScanError) elements s' := h
    injection hresult with helements hs
    refine ⟨helements.symm, hs.symm, ?_⟩
    intro hne
    have hminimum : minimum ≠ 0 := fun h => hzero ⟨by omega, h⟩
    exact ⟨minimum, rfl, by omega⟩

theorem walkSequence_advances (hnested : NestedAdvances structs input walkNested)
    (type : CdrSchemaType) (requestedId : Option Nat) :
    Advances (track input) 4 (walkSequence structs input walkNested type requestedId) := by
  unfold walkSequence
  refine readU32_advances.bind (m := 0) ?_
  intro count
  refine Advances.ite (fun _ => fail_advances 0 _) ?_
  intro _
  refine Advances.ite (fun _ => (walkBytes_advances _ requestedId _).mono (Nat.zero_le _)) ?_
  intro _
  refine (sequenceCount_advances type count).bind (m := 0) ?_
  intro count
  refine Advances.get ?_
  intro s hs
  exact walkElements_advances (walkScalar_advances hnested (Or.inl rfl) none) _ _ count s hs
    (Nat.lt_succ_self _)

theorem walkFixedArray_advances (hnested : NestedAdvances structs input walkNested)
    {type : CdrSchemaType} {levels minimum n : Nat}
    (hminimum : minimumSize structs levels type = .ok minimum) (hn : n ≤ type.fixedCount * minimum)
    (requestedId : Option Nat) :
    Advances (track input) n (walkFixedArray structs input walkNested type requestedId) := by
  unfold walkFixedArray
  by_cases hbytes : type.kind = .u8
  · rw [if_pos hbytes]
    refine (walkBytes_advances type.fixedCount requestedId _).mono ?_
    rw [minimumSize_primitive (by rw [hbytes]; decide) (by rw [hbytes]; decide), hbytes] at hminimum
    have hone : (1 : Nat) = minimum := Except.ok.inj hminimum
    rw [← hone] at hn
    omega
  · rw [if_neg hbytes]
    have helement : Promises structs (elementType type) minimum :=
      Or.inr ⟨levels, (minimumSize_elementType levels type).trans hminimum⟩
    refine Advances.mono (n := 0 + type.fixedCount * minimum) ?_ (by omega)
    intro s hs
    refine (fixedArrayCount_advances _ s hs).bind ?_
    intro count s' hcount hs'
    obtain ⟨rfl, -⟩ := fixedArrayCount_ok hcount
    exact walkElements_advances (walkScalar_advances hnested helement none) _ _ _ s' hs'
      (Nat.lt_succ_self _)

/-- A fixed array of which nothing is promised. -/
theorem walkFixedArray_advances_zero (hnested : NestedAdvances structs input walkNested)
    (type : CdrSchemaType) (requestedId : Option Nat) :
    Advances (track input) 0 (walkFixedArray structs input walkNested type requestedId) := by
  unfold walkFixedArray
  refine Advances.ite (fun _ => (walkBytes_advances _ requestedId _).mono (Nat.zero_le _)) ?_
  intro _
  refine (fixedArrayCount_advances _).bind (m := 0) ?_
  intro count
  refine Advances.get ?_
  intro s hs
  exact walkElements_advances (walkScalar_advances hnested (Or.inl rfl) none) _ _ count s hs
    (Nat.lt_succ_self _)

theorem walkValue_advances (hnested : NestedAdvances structs input walkNested)
    {type : CdrSchemaType} {n : Nat} (hpromise : FieldPromises structs type n)
    (requestedId : Option Nat) (hasDescendant : Bool) :
    Advances (track input) n
      (walkValue structs input walkNested type requestedId hasDescendant) := by
  unfold walkValue
  refine Advances.ite (fun _ => fail_advances n _) ?_
  intro _
  cases hcontainer : type.container with
  | sequence =>
    refine (walkSequence_advances hnested type requestedId).mono ?_
    obtain rfl | ⟨_, minimum, -, rfl⟩ := hpromise
    · exact Nat.zero_le _
    · unfold leastBytes
      rw [hcontainer]
  | fixedArray =>
    obtain rfl | ⟨levels, minimum, hminimum, rfl⟩ := hpromise
    · exact walkFixedArray_advances_zero hnested type requestedId
    · refine walkFixedArray_advances hnested hminimum ?_ requestedId
      unfold leastBytes
      rw [hcontainer]
  | scalar =>
    refine walkScalar_advances hnested ?_ requestedId
    obtain rfl | ⟨levels, minimum, hminimum, rfl⟩ := hpromise
    · exact Or.inl rfl
    · unfold leastBytes
      rw [hcontainer]
      exact Or.inr ⟨levels, hminimum⟩

/-! ## Structs -/

theorem walkFields_advances_zero {walkField : Nat → CdrSchemaField → Walk Unit}
    (hfield : ∀ index field, Advances (track input) 0 (walkField index field)) :
    ∀ (fields : List CdrSchemaField) (index : Nat),
      Advances (track input) 0 (walkFields walkField index fields) := by
  intro fields
  induction fields with
  | nil => exact fun _ => Advances.pure ()
  | cons field fields ih =>
    intro index
    exact (hfield index field).bind fun _ => ih (index + 1)

/-- The fields of a struct take what their minimums add up to. -/
theorem walkFields_advances {walkField : Nat → CdrSchemaField → Walk Unit}
    (hfield : ∀ index field n, FieldPromises structs field.type n →
      Advances (track input) n (walkField index field)) {levels : Nat} :
    ∀ (fields : List CdrSchemaField) (index total total' : Nat),
      fields.foldlM (addMinimum structs levels) total = .ok total' →
      ∃ n, total' = total + n ∧ Advances (track input) n (walkFields walkField index fields) := by
  intro fields
  induction fields with
  | nil =>
    intro index total total' h
    have htotal : total = total' := Except.ok.inj h
    exact ⟨0, htotal.symm, Advances.pure ()⟩
  | cons field fields ih =>
    intro index total total' h
    rw [List.foldlM_cons] at h
    obtain ⟨between, hadd, hrest⟩ := bind_eq_ok.mp h
    obtain ⟨n, hpromise, rfl⟩ := addMinimum_ok hadd
    obtain ⟨m, rfl, hwalk⟩ := ih (index + 1) _ _ hrest
    refine ⟨n + m, by omega, ?_⟩
    exact (hfield index field n hpromise).bind fun _ => hwalk

/-- A struct, by the levels that are left: every level hands the one below it the walker that
it was given. -/
theorem walkStruct_advances (plan : CdrTraversalPlan) (input : CdrInput) :
    ∀ (levels : Nat) (path : List Nat), NestedAdvances plan.structs input fun structIndex =>
      walkStruct plan input levels structIndex path := by
  intro levels
  induction levels with
  | zero =>
    intro path type n _ _
    exact fail_advances n _
  | succ levels ih =>
    intro path type n hstruct hpromise
    have hfield : ∀ (index : Nat) (field : CdrSchemaField) (n : Nat), FieldPromises plan.structs
        field.type n →
        Advances (track input) n
          (walkValue plan.structs input
            (fun nestedIndex => walkStruct plan input levels nestedIndex (path ++ [index]))
            field.type (requestedAt plan.requested (path ++ [index]))
            (hasDescendant plan.requested (path ++ [index]))) :=
      fun index field n hn => walkValue_advances (ih (path ++ [index])) hn _ _
    obtain rfl | ⟨levels', hminimum⟩ := hpromise
    · exact walkFields_advances_zero (fun index field => hfield index field 0 (Or.inl rfl)) _ 0
    · cases levels' with
      | zero =>
        rw [minimumSize_struct_zero hstruct] at hminimum
        exact nomatch hminimum
      | succ levels' =>
        rw [minimumSize_struct hstruct] at hminimum
        obtain ⟨m, rfl, hwalk⟩ := walkFields_advances hfield _ 0 0 n hminimum
        rw [Nat.zero_add]
        exact hwalk

theorem locateAll_advances (plan : CdrTraversalPlan) (input : CdrInput) :
    Advances (track input) 0 (plan.locateAll input) := by
  unfold locateAll
  have hroot : Advances (track input) 0 (walkStruct plan input kMaxTraversalDepth 0 []) :=
    walkStruct_advances plan input kMaxTraversalDepth [] { kind := .struct, nestedIndex := 0 } 0 rfl
      (Or.inl rfl)
  refine hroot.bind (m := 0) ?_
  intro _
  refine Advances.get ?_
  intro s hs
  exact AdvancesFrom.ite (fun _ => Advances.pure () s hs) fun _ => fail_advances 0 _ s hs

/-! ## Safety -/

/-- The walk of a value whose structs are at a depth and at a path. -/
def walkAt (plan : CdrTraversalPlan) (input : CdrInput) (levels : Nat) (path : List Nat)
    (type : CdrSchemaType) (requestedId : Option Nat) (hasDescendant : Bool) : Walk Unit :=
  walkValue plan.structs input (fun structIndex => walkStruct plan input levels structIndex path)
    type requestedId hasDescendant

/-- The same of an element of a container of the type. -/
def elementAt (plan : CdrTraversalPlan) (input : CdrInput) (levels : Nat) (path : List Nat)
    (type : CdrSchemaType) : Walk Unit :=
  walkScalar input (fun structIndex => walkStruct plan input levels structIndex path)
    (elementType type) none

/-- A loop over `count` elements of a type, from a cursor on: each of them takes at least a
minimum that is not zero, and a round for every byte that is left, and one more, are enough. -/
structure LoopEnds (plan : CdrTraversalPlan) (input : CdrInput) (levels : Nat) (path : List Nat)
    (type : CdrSchemaType) (count : Nat) (s : Cursor) : Prop where
  element : count ≠ 0 → ∃ minimum, 1 ≤ minimum ∧
    minimumSize plan.structs kMaxTraversalDepth (elementType type) = .ok minimum ∧
    Advances (track input) minimum (elementAt plan input levels path type)
  rounds : ∀ message more,
    walkElements (elementAt plan input levels path type) message (roundsLeft input s + more)
      count s =
      walkElements (elementAt plan input levels path type) message (roundsLeft input s) count s

/-- A traversal that is safe on a payload. -/
structure Safe (plan : CdrTraversalPlan) (input : CdrInput) : Prop where
  whole : Advances (track input) 0 (plan.locateAll input)
  value : ∀ levels path type requestedId hasDescendant,
    Advances (track input) 0 (walkAt plan input levels path type requestedId hasDescendant)
  minimum : ∀ levels path type requestedId hasDescendant minimum,
    minimumSize plan.structs kMaxTraversalDepth type = .ok minimum →
    Advances (track input) (leastBytes type minimum)
      (walkAt plan input levels path type requestedId hasDescendant)
  sequence : ∀ levels path type length count s s', inside input s →
    sequenceCount plan.structs input type length s = .ok count s' →
    LoopEnds plan input levels path type count s'
  fixedArray : ∀ levels path type count s s', inside input s →
    fixedArrayCount plan.structs (elementType type) s = .ok count s' →
    LoopEnds plan input levels path type count s'

theorem walkAt_advances (plan : CdrTraversalPlan) (input : CdrInput) (levels : Nat)
    (path : List Nat) {type : CdrSchemaType} {n : Nat} (h : FieldPromises plan.structs type n)
    (requestedId : Option Nat) (hasDescendant : Bool) :
    Advances (track input) n (walkAt plan input levels path type requestedId hasDescendant) :=
  walkValue_advances (walkStruct_advances plan input levels path) h requestedId hasDescendant

theorem elementAt_advances (plan : CdrTraversalPlan) (input : CdrInput) (levels : Nat)
    (path : List Nat) {type : CdrSchemaType} {n : Nat}
    (h : Promises plan.structs (elementType type) n) :
    Advances (track input) n (elementAt plan input levels path type) :=
  walkScalar_advances (walkStruct_advances plan input levels path) h none

theorem loopEnds_of_guard {plan : CdrTraversalPlan} (levels : Nat) (path : List Nat)
    {type : CdrSchemaType} {count : Nat} {s : Cursor} (hs : inside input s)
    (hguard : count ≠ 0 → ∃ minimum,
      minimumSize plan.structs kMaxTraversalDepth type = .ok minimum ∧ 1 ≤ minimum) :
    LoopEnds plan input levels path type count s := by
  constructor
  · intro hcount
    obtain ⟨minimum, hminimum, hpositive⟩ := hguard hcount
    rw [← minimumSize_elementType] at hminimum
    exact ⟨minimum, hpositive, hminimum,
      elementAt_advances plan input levels path (Or.inr ⟨_, hminimum⟩)⟩
  · intro message more
    exact walkElements_rounds (elementAt_advances plan input levels path (Or.inl rfl)) message
      _ more
      count s hs (Nat.lt_succ_self _)

/-- Every traversal is safe, of any plan and on any payload; the reader that begins one is in
order. -/
theorem traversal_safe (plan : CdrTraversalPlan) (input : CdrInput) :
    Safe plan input ∧ (initializeReader input.payload = .ok input →
      inside input (CdrReader.create input.payload plan).cursor) := by
  refine ⟨⟨locateAll_advances plan input, ?_, ?_, ?_, ?_⟩, ?_⟩
  · intro levels path type requestedId hasDescendant
    exact walkAt_advances plan input levels path (Or.inl rfl) requestedId hasDescendant
  · intro levels path type requestedId hasDescendant minimum hminimum
    exact walkAt_advances plan input levels path (Or.inr ⟨_, minimum, hminimum, rfl⟩) requestedId
      hasDescendant
  · intro levels path type length count s s' hs hcount
    obtain ⟨-, rfl, hguard⟩ := sequenceCount_ok hcount
    refine loopEnds_of_guard levels path hs ?_
    -- only a loop that is entered needs a minimum of its elements
    intro hne
    obtain ⟨minimum, hminimum, hpositive, -⟩ := hguard hne
    exact ⟨minimum, hminimum, hpositive⟩
  · intro levels path type count s s' hs hcount
    obtain ⟨-, rfl, hguard⟩ := fixedArrayCount_ok hcount
    refine loopEnds_of_guard levels path hs ?_
    intro hne
    obtain ⟨minimum, hminimum, hpositive⟩ := hguard hne
    exact ⟨minimum, (minimumSize_elementType _ type).symm.trans hminimum, hpositive⟩
  · intro hheader
    unfold CdrReader.create
    rw [hheader]
    constructor
    · -- the header that was read is four bytes long
      show 4 ≤ input.payload.length
      unfold initializeReader at hheader
      split at hheader
      · rename_i hpayload
        rw [hpayload]
        show 4 ≤ List.length _ + 1 + 1 + 1 + 1
        omega
      · exact nomatch hheader
    · intro cached hmem hlocated
      rw [List.eq_of_mem_replicate hmem] at hlocated
      exact nomatch hlocated

/-- An empty sequence of doubles takes its length, and no double. -/
theorem sequence_below_minimum :
    ¬ ∀ schema structs paths plan payload input, parse schema = .ok structs →
      locate structs paths = .ok plan → initializeReader payload = .ok input →
      ∀ field ∈ (structAt structs 0).fields, ∀ minimum s s', inside input s →
        minimumSize structs kMaxTraversalDepth field.type = .ok minimum →
        walkAt plan input 63 [0] field.type none false s = .ok () s' →
        s.position + minimum ≤ s'.position := by
  intro h
  have hbelow := h "float64[] values\nuint8 id".toList
    [⟨[], [⟨"values".toList, { kind := .f64, container := .sequence }⟩, ⟨"id".toList, {}⟩]⟩]
    ["id".toList]
    ⟨[⟨[], [⟨"values".toList, { kind := .f64, container := .sequence }⟩, ⟨"id".toList, {}⟩]⟩],
      [⟨"id".toList, [1], .u8⟩]⟩
    [0, 1, 0, 0, 0, 0, 0, 0] ⟨[0, 1, 0, 0, 0, 0, 0, 0], true⟩ (by decide +kernel)
    (by decide +kernel) rfl _ List.mem_cons_self 8 ⟨4, []⟩ ⟨8, []⟩
    ⟨by decide, fun _ hmem => nomatch hmem⟩ rfl (by rfl)
  exact absurd hbelow (by decide)

end PlotJugglerSdk.ParserModule.CdrTraversalPlan
