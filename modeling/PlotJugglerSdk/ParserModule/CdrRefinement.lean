import PlotJugglerSdk.ParserModule.CdrPaths
import PlotJugglerSdk.ParserModule.CdrReading

/-!
# A plan refines the reading

What a reader with a plan answers is what is found at the paths of the plan in the message as
a whole. While the traversal is at a path, it notes the value for the one request that ends
there, and nothing for any other.

* `Noted`                 — what the notes are worth behind a value
* `walkStruct_agrees`     — a struct, walked and read
* `plan_refines_reading`  — all questions, in any order
-/

namespace PlotJugglerSdk.ParserModule.CdrTraversalPlan

open Depth Wire Scan CdrFieldLocator CdrReader CdrMessage

variable {structs : List CdrSchemaStruct} {requested : List CdrRequestedField} {input : CdrInput}
  {s : Cursor} {t : Reading}

/-! ## Requests -/

/-- What a request is behind a path: it leads on from a struct. -/
def ReachesFrom (structs : List CdrSchemaStruct) (structIndex : Nat) (path : List Nat)
    (request : CdrRequestedField) : Prop :=
  Reaches structs structIndex ((names request).drop path.length) (request.steps.drop path.length)
    request.cachedKind

theorem requestedAt_some {path : List Nat} {id : Nat} (h : requestedAt requested path = some id) :
    ∃ request, requested[id]? = some request ∧ request.steps = path := by
  unfold requestedAt at h
  obtain ⟨indexed, hlast, rfl⟩ := Option.map_eq_some_iff.mp h
  obtain ⟨hmem, hpath⟩ := List.mem_filter.mp (List.mem_of_getLast? hlast)
  exact ⟨indexed.1, List.mem_zipIdx_iff_getElem?.mp hmem, of_decide_eq_true hpath⟩

/-- The request that ends at a path is found there. -/
theorem requestedAt_eq (h : Compiled structs requested) {path : List Nat} {id : Nat}
    {request : CdrRequestedField} (hrequest : requested[id]? = some request)
    (hpath : request.steps = path) : requestedAt requested path = some id := by
  cases hat : requestedAt requested path with
  | some id' =>
    obtain ⟨request', hrequest', hpath'⟩ := requestedAt_some hat
    rw [h.distinct id id' request request' hrequest hrequest' (hpath.trans hpath'.symm)]
  | none =>
    unfold requestedAt at hat
    rw [Option.map_eq_none_iff, List.getLast?_eq_none_iff] at hat
    have hmem : (request, id) ∈ requested.zipIdx.filter fun indexed => indexed.1.steps = path :=
      List.mem_filter.mpr ⟨List.mem_zipIdx_iff_getElem?.mpr hrequest, decide_eq_true hpath⟩
    rw [hat] at hmem
    exact nomatch hmem

theorem hasDescendant_iff {path : List Nat} : hasDescendant requested path = true ↔
    ∃ request ∈ requested, path <+: request.steps ∧ path ≠ request.steps := by
  unfold hasDescendant
  rw [List.any_eq_true]
  constructor
  · rintro ⟨request, hmem, hrequest⟩
    rw [Bool.and_eq_true, List.isPrefixOf_iff_prefix, decide_eq_true_eq] at hrequest
    refine ⟨request, hmem, hrequest.1, ?_⟩
    rintro rfl
    exact Nat.lt_irrefl _ hrequest.2
  · rintro ⟨request, hmem, hbegins, hne⟩
    refine ⟨request, hmem, ?_⟩
    rw [Bool.and_eq_true, List.isPrefixOf_iff_prefix, decide_eq_true_eq]
    refine ⟨hbegins, Nat.lt_of_le_of_ne hbegins.length_le ?_⟩
    exact fun hlength => hne (hbegins.eq_of_length hlength)

/-- What a request is to a field of a type that stands at a path: it ends there, or it goes on
in the struct that the field is. -/
def Meets (structs : List CdrSchemaStruct) (type : CdrSchemaType) (path : List Nat)
    (request : CdrRequestedField) : Prop :=
  (request.steps = path ∧ request.cachedKind = cachedKind type ∧ request.cachedKind ≠ .unknown) ∨
    (type.kind = .struct ∧ type.container = .scalar ∧
      ReachesFrom structs type.nestedIndex path request)

/-- A step of a request that leads on from a struct. -/
theorem ReachesFrom.step {structIndex step : Nat} {path : List Nat} {request : CdrRequestedField}
    (h : ReachesFrom structs structIndex path request) (hstep : path ++ [step] <+: request.steps) :
    ∃ field, (structAt structs structIndex).fields[step]? = some field ∧
      (structAt structs structIndex).fields.findIdx? (fun other => other.name = field.name) =
        some step ∧
      (names request).drop path.length = field.name :: (names request).drop (path.length + 1) ∧
      Meets structs field.type (path ++ [step]) request := by
  obtain ⟨rest, hsteps⟩ := hstep
  rw [List.append_assoc, List.singleton_append] at hsteps
  have hdrop : request.steps.drop path.length = step :: rest := by
    rw [← hsteps, List.drop_left]
  have hlength : (path ++ [step]).length = path.length + 1 := List.length_append
  unfold ReachesFrom at h
  rw [hdrop] at h
  -- what is behind the first name is what is behind the path and one name
  have htail : ∀ name rest', (names request).drop path.length = name :: rest' →
      (names request).drop (path.length + 1) = rest' := by
    intro name rest' hnames
    rw [← List.drop_drop, hnames]
    rfl
  generalize hnames : (names request).drop path.length = behind at h
  generalize hkind : request.cachedKind = kind at h
  cases h with
  | @field _ _ field hfield hfirst hne =>
    refine ⟨field, hfield, hfirst, ?_, Or.inl ⟨hsteps.symm, hkind, ?_⟩⟩
    · rw [htail _ _ hnames]
    · rw [hkind]
      exact hne
  | @nested _ _ field names' _ _ hfield hfirst hstruct hscalar hrest =>
    have hnames' := htail _ _ hnames
    refine ⟨field, hfield, hfirst, ?_, Or.inr ⟨hstruct, hscalar, ?_⟩⟩
    · rw [hnames']
    · unfold ReachesFrom
      rw [hlength, hnames', ← List.drop_drop, hdrop, hkind]
      exact hrest

/-! ## Notes behind a value -/

/-- Behind a value that `depth` names lead to, a request has found what its other names lead
to in the value. -/
def Found (input : CdrInput) (request : CdrRequestedField) (depth : Nat) (value : CdrValue)
    (entry : Option (CachedField CachedKind)) : Prop :=
  ∃ leaf cached, value.named ((names request).drop depth) = some leaf ∧ entry = some cached ∧
    Holds input request.cachedKind leaf cached

/-- The notes behind a value at a path: every request for something in it has found that, and
the others are as they were. -/
def Noted (input : CdrInput) (requested : List CdrRequestedField) (path : List Nat)
    (value : CdrValue) (before after : List (CachedField CachedKind)) : Prop :=
  after.length = before.length ∧ ∀ (id : Nat) request, requested[id]? = some request →
    (path <+: request.steps → Found input request path.length value after[id]?) ∧
    (¬ path <+: request.steps → after[id]? = before[id]?)

/-- Nothing is noted where nothing was asked for. -/
theorem Noted.of_none {path : List Nat} {value : CdrValue} {fields : List (CachedField CachedKind)}
    (h : ∀ request ∈ requested, ¬ path <+: request.steps) :
    Noted input requested path value fields fields := by
  refine ⟨rfl, ?_⟩
  intro id request hrequest
  exact ⟨fun hpath => absurd hpath (h request (List.mem_of_getElem? hrequest)), fun _ => rfl⟩

theorem Noted.eq_of_none {path : List Nat} {value : CdrValue}
    {before after : List (CachedField CachedKind)}
    (hnoted : Noted input requested path value before after)
    (hlength : before.length = requested.length)
    (h : ∀ request ∈ requested, ¬ path <+: request.steps) : after = before := by
  refine List.ext_getElem? fun id => ?_
  by_cases hid : id < requested.length
  · have hrequest : requested[id]? = some requested[id] := List.getElem?_eq_getElem hid
    exact (hnoted.2 id _ hrequest).2 (h _ (List.getElem_mem hid))
  · rw [List.getElem?_eq_none (by rw [hnoted.1]; omega), List.getElem?_eq_none (by omega)]

/-- A value that was noted for the request that ends at its path. -/
theorem Leaves.noted (hcompiled : Compiled structs requested) {kind : CachedKind} {path : List Nat}
    {s s' : Cursor} {value : CdrValue} {t' : Reading}
    (h : Leaves input kind (requestedAt requested path) s s' value t')
    (hlength : s.cachedFields.length = requested.length)
    (hends : ∀ request ∈ requested, path <+: request.steps →
      request.steps = path ∧ request.cachedKind = kind) :
    Noted input requested path value s.cachedFields s'.cachedFields := by
  obtain ⟨-, entry, hholds, hfields⟩ := h
  rw [hfields]
  refine ⟨?_, ?_⟩
  · cases requestedAt requested path with
    | none => rfl
    | some id => exact List.length_set
  · intro id request hrequest
    have hmem := List.mem_of_getElem? hrequest
    constructor
    · intro hpath
      obtain ⟨hsteps, hkind⟩ := hends request hmem hpath
      have hat := requestedAt_eq hcompiled hrequest hsteps
      have hid : id < requested.length := (List.getElem?_eq_some_iff.mp hrequest).1
      -- the path ends at this value: nothing is left to descend to
      have hbehind : (names request).drop path.length = [] := by
        rw [List.drop_eq_nil_iff, hcompiled.length_eq hmem, hsteps]
      refine ⟨value, entry, ?_, ?_, ?_⟩
      · rw [hbehind]
        rfl
      · rw [hat]
        exact List.getElem?_set_self (by omega)
      · rw [hkind]
        exact hholds
    · intro hpath
      cases hat : requestedAt requested path with
      | none => rfl
      | some id' =>
        obtain ⟨request', hrequest', hsteps'⟩ := requestedAt_some hat
        -- another request has its note in another place
        refine List.getElem?_set_ne ?_
        rintro rfl
        obtain rfl := Option.some.inj (hrequest.symm.trans hrequest')
        exact hpath (hsteps' ▸ List.prefix_refl _)

/-! ## Fields -/

/-- The two stand at the same byte behind a value at a path, and the notes are right. -/
def Follows (input : CdrInput) (requested : List CdrRequestedField) (path : List Nat)
    (s s' : Cursor) (value : CdrValue) (t' : Reading) : Prop :=
  s'.position = t'.position ∧ Noted input requested path value s.cachedFields s'.cachedFields

/-- A step of the traversal and one of the reading, for a value at a path, from wherever both
stand. -/
def ValuesAgree (input : CdrInput) (requested : List CdrRequestedField) (path : List Nat)
    (walk : Walk Unit) (read : CdrScan Unit CdrValue) : Prop :=
  ∀ (s : Cursor) (t : Reading), s.position = t.position → inside input s →
    s.cachedFields.length = requested.length →
    Alike (fun _ s' value t' => Follows input requested path s s' value t') (walk s) (read t)

variable {walkNested : Nat → Walk Unit} {readNested : Nat → CdrScan Unit CdrValue}

theorem ValuesAgree.of_leaves (hcompiled : Compiled structs requested) {kind : CachedKind}
    {path : List Nat} {walk : Walk Unit} {read : CdrScan Unit CdrValue}
    (h : ∀ (s : Cursor) (t : Reading), s.position = t.position → inside input s →
      Alike (fun _ s' value t' => Leaves input kind (requestedAt requested path) s s' value t')
        (walk s) (read t))
    (hends : ∀ request ∈ requested, path <+: request.steps →
      request.steps = path ∧ request.cachedKind = kind) :
    ValuesAgree input requested path walk read := by
  intro s t hposition hs hlength
  refine (h s t hposition hs).mono ?_
  intro _ s' value t' hleaves
  exact ⟨hleaves.1, hleaves.noted hcompiled hlength hends⟩

theorem ValuesAgree.of_beside {path : List Nat} {walk : Walk Unit} {read : CdrScan Unit CdrValue}
    (h : ∀ (s : Cursor) (t : Reading), s.position = t.position → inside input s →
      s.cachedFields.length = requested.length →
      Alike (fun _ s' _ t' => Beside s s' t') (walk s) (read t))
    (hnone : ∀ request ∈ requested, ¬ path <+: request.steps) :
    ValuesAgree input requested path walk read := by
  intro s t hposition hs hlength
  refine (h s t hposition hs hlength).mono ?_
  intro _ s' value t' hbeside
  refine ⟨hbeside.1, ?_⟩
  rw [hbeside.2]
  exact Noted.of_none hnone

/-- The elements of a container that nothing can be asked of. -/
theorem elementsAgree_of_none {type : CdrSchemaType} {path : List Nat}
    (hnested : type.kind = .struct →
      ValuesAgree input requested path (walkNested type.nestedIndex) (readNested type.nestedIndex))
    (hnone : ∀ request ∈ requested, ¬ path <+: request.steps)
    {notes : List (CachedField CachedKind)} (hlength : notes.length = requested.length) :
    ElementsAgree input (walkScalar input walkNested (elementType type) none)
      (readScalar input readNested type) notes := by
  intro s t hposition hs hnotes
  by_cases hstruct : type.kind = .struct
  · have hwalk : walkScalar input walkNested (elementType type) none =
      walkNested type.nestedIndex := by
      unfold walkScalar
      rw [show (elementType type).kind = .struct from hstruct]
      rfl
    have hread : readScalar input readNested type = readNested type.nestedIndex := by
      unfold readScalar
      rw [hstruct]
    rw [hwalk, hread]
    have hlength' : s.cachedFields.length = requested.length := by
      rw [hnotes]
      exact hlength
    refine (hnested hstruct s t hposition hs hlength').mono ?_
    intro _ s' value t' hfollows
    exact ⟨hfollows.1, hfollows.2.eq_of_none hlength' hnone⟩
  · have hleaf := @walkScalar_agrees_leaf input s t readNested walkNested (elementType type) rfl
      hstruct none hposition hs
    refine hleaf.mono ?_
    rintro _ s' value t' ⟨hposition', entry, -, hfields⟩
    exact ⟨hposition', hfields⟩

/-- A field at a path, when every request that comes to it meets its type. -/
theorem walkValue_agrees (hcompiled : Compiled structs requested) {type : CdrSchemaType}
    {path : List Nat} (hmeets : ∀ request ∈ requested, path <+: request.steps →
      Meets structs type path request)
    (hadvances : NestedAdvances structs input walkNested) (hsized : Sized structs type)
    (hnested : type.kind = .struct →
      (∀ request ∈ requested, path <+: request.steps →
        ReachesFrom structs type.nestedIndex path request) →
      ValuesAgree input requested path (walkNested type.nestedIndex)
        (readNested type.nestedIndex)) :
    ValuesAgree input requested path
      (walkValue structs input walkNested type (requestedAt requested path)
        (hasDescendant requested path))
      (readValue input readNested type) := by
  -- a request that goes on does so in a struct
  have hdescendant : ¬ (hasDescendant requested path = true ∧
      (type.kind ≠ .struct ∨ type.container ≠ .scalar)) := by
    rintro ⟨hdescendant, hplain⟩
    obtain ⟨request, hmem, hpath, hne⟩ := hasDescendant_iff.mp hdescendant
    obtain ⟨hsteps, -⟩ | ⟨hstruct, hscalar, -⟩ := hmeets request hmem hpath
    · exact hne hsteps.symm
    · obtain hplain | hplain := hplain
      · exact hplain hstruct
      · exact hplain hscalar
  by_cases hscalar : type.container = .scalar
  · have hwalk : walkValue structs input walkNested type (requestedAt requested path)
        (hasDescendant requested path) =
          walkScalar input walkNested type (requestedAt requested path) := by
      unfold walkValue
      rw [if_neg hdescendant, hscalar]
    have hread : readValue input readNested type = readScalar input readNested type := by
      unfold readValue
      rw [hscalar]
    rw [hwalk, hread]
    by_cases hstruct : type.kind = .struct
    · have hwalk' : walkScalar input walkNested type (requestedAt requested path) =
          walkNested type.nestedIndex := by
        unfold walkScalar
        rw [hstruct]
      have hread' : readScalar input readNested type = readNested type.nestedIndex := by
        unfold readScalar
        rw [hstruct]
      rw [hwalk', hread']
      refine hnested hstruct ?_
      intro request hmem hpath
      obtain ⟨-, hkind, hne⟩ | ⟨-, -, hrest⟩ := hmeets request hmem hpath
      · -- structs cannot be asked for
        refine absurd ?_ hne
        rw [hkind]
        unfold cachedKind
        rw [if_neg fun h => h hscalar, hstruct]
      · exact hrest
    · refine ValuesAgree.of_leaves hcompiled
        (fun s t hposition hs => walkScalar_agrees_leaf hscalar hstruct _ hposition hs) ?_
      intro request hmem hpath
      obtain ⟨hsteps, hkind, -⟩ | ⟨hstruct', -, -⟩ := hmeets request hmem hpath
      · exact ⟨hsteps, hkind⟩
      · exact absurd hstruct' hstruct
  by_cases hbytes : type.kind = .u8
  · have hkind : cachedKind type = .bytes := by
      unfold cachedKind
      rw [if_pos hscalar, if_pos hbytes]
    have hends : ∀ request ∈ requested, path <+: request.steps →
        request.steps = path ∧ request.cachedKind = .bytes := by
      intro request hmem hpath
      obtain ⟨hsteps, hrequest, -⟩ | ⟨-, hscalar', -⟩ := hmeets request hmem hpath
      · exact ⟨hsteps, hrequest.trans hkind⟩
      · exact absurd hscalar' hscalar
    refine ValuesAgree.of_leaves hcompiled ?_ hends
    intro s t hposition hs
    unfold walkValue
    rw [if_neg hdescendant]
    cases hcontainer : type.container with
    | scalar => exact absurd hcontainer hscalar
    | sequence => exact walkSequence_agrees_bytes hbytes hcontainer hposition _
    | fixedArray =>
      unfold walkFixedArray readValue
      rw [hcontainer, if_pos hbytes]
      exact walkBytes_agrees hbytes hposition rfl type.fixedCount _ _
  · have hkind : cachedKind type = .unknown := by
      unfold cachedKind
      rw [if_pos hscalar, if_neg hbytes]
    have hnone : ∀ request ∈ requested, ¬ path <+: request.steps := by
      intro request hmem hpath
      obtain ⟨-, hrequest, hne⟩ | ⟨-, hscalar', -⟩ := hmeets request hmem hpath
      · exact hne (hrequest.trans hkind)
      · exact hscalar hscalar'
    have hvacuous : ∀ request ∈ requested, path <+: request.steps →
        ReachesFrom structs type.nestedIndex path request :=
      fun request hmem hpath => absurd hpath (hnone request hmem)
    refine ValuesAgree.of_beside ?_ hnone
    intro s t hposition hs hlength
    have helement := @elementsAgree_of_none requested input walkNested readNested type path
      (fun hstruct => hnested hstruct hvacuous) hnone s.cachedFields hlength
    unfold walkValue
    rw [if_neg hdescendant]
    cases hcontainer : type.container with
    | scalar => exact absurd hcontainer hscalar
    | sequence =>
      exact walkSequence_agrees hbytes hadvances (hsized hscalar) helement hcontainer hposition hs _
    | fixedArray =>
      unfold readValue
      rw [hcontainer]
      exact walkFixedArray_agrees hbytes hadvances (hsized hscalar) helement hposition hs _

/-! ## Structs -/

/-- The notes behind the fields of a struct from the `first` on. -/
structure FieldsNoted (input : CdrInput) (requested : List CdrRequestedField) (path : List Nat)
    (first : Nat) (fields : List CdrSchemaField) (values : List (Text × CdrValue))
    (before after : List (CachedField CachedKind)) : Prop where
  fieldNames : values.map (·.1) = fields.map (·.name)
  length : after.length = before.length
  found : ∀ (id : Nat) request, requested[id]? = some request → ∀ (index : Nat) named,
    values[index]? = some named → path ++ [first + index] <+: request.steps →
    Found input request (path.length + 1) named.2 after[id]?
  kept : ∀ (id : Nat) request, requested[id]? = some request →
    (∀ index < values.length, ¬ path ++ [first + index] <+: request.steps) →
    after[id]? = before[id]?

theorem step_inj {path steps : List Nat} {step step' : Nat} (h : path ++ [step] <+: steps)
    (h' : path ++ [step'] <+: steps) : step = step' := by
  obtain ⟨rest, rfl⟩ := h
  obtain ⟨rest', heq⟩ := h'
  rw [List.append_assoc, List.append_assoc] at heq
  exact (List.cons.inj (List.append_cancel_left heq)).1.symm

/-- The fields of a struct, one by one on both sides: what a field is asked for it has found
when its turn is over, and the fields behind it leave it alone. -/
theorem walkFields_agrees {path : List Nat} {walkField : Nat → CdrSchemaField → Walk Unit}
    {readField : CdrSchemaType → CdrScan Unit CdrValue} {all : List CdrSchemaField}
    (hadvances : ∀ index field, Advances (track input) 0 (walkField index field))
    (hfield : ∀ (index : Nat) field, all[index]? = some field →
      ValuesAgree input requested (path ++ [index]) (walkField index field)
        (readField field.type)) :
    ∀ (fields : List CdrSchemaField) (first : Nat),
      (∀ index : Nat, fields[index]? = all[first + index]?) →
      ∀ (s : Cursor) (t : Reading), s.position = t.position → inside input s →
        s.cachedFields.length = requested.length →
        Alike (fun _ s' values t' => s'.position = t'.position ∧
            FieldsNoted input requested path first fields values s.cachedFields s'.cachedFields)
          (walkFields walkField first fields s) (readStructFields readField fields t) := by
  intro fields
  induction fields with
  | nil =>
    intro first _ s t hposition _ _
    refine ⟨hposition, rfl, rfl, ?_, fun _ _ _ _ => rfl⟩
    intro id request _ index named hnamed
    exact nomatch hnamed
  | cons field fields ih =>
    intro first hall s t hposition hs hlength
    unfold walkFields readStructFields
    have hhere : all[first]? = some field := (hall 0).symm
    refine (hfield first field hhere s t hposition hs hlength).bind ?_
    intro _ s' value t' hrun _ hfollows
    obtain ⟨hposition', hnoted⟩ := hfollows
    have hs' := ((hadvances first field).of_ok hs hrun).1
    have hall' : ∀ index : Nat, fields[index]? = all[first + 1 + index]? := by
      intro index
      have hnext := hall (index + 1)
      rw [List.getElem?_cons_succ] at hnext
      rw [hnext, Nat.add_assoc, Nat.add_comm 1 index]
    rw [← bind_pure (walkFields walkField (first + 1) fields)]
    refine (ih (first + 1) hall' s' t' hposition' hs' (hnoted.1.trans hlength)).bind ?_
    rintro _ s'' values t'' - - ⟨hposition'', hrest⟩
    refine ⟨hposition'', ?_, hrest.length.trans hnoted.1, ?_, ?_⟩
    · rw [List.map_cons, List.map_cons, hrest.fieldNames]
    · intro id request hrequest index named hnamed hpath
      cases index with
      | zero =>
        -- found in its turn, and not touched again
        obtain rfl : (field.name, value) = named := Option.some.inj hnamed
        have hlater : ∀ index < values.length, ¬ path ++ [first + 1 + index] <+: request.steps := by
          intro index _ hother
          have hsame := step_inj hpath hother
          omega
        have hfound := (hnoted.2 id request hrequest).1 hpath
        rw [List.length_append, List.length_singleton] at hfound
        rw [hrest.kept id request hrequest hlater]
        exact hfound
      | succ index =>
        rw [List.getElem?_cons_succ] at hnamed
        refine hrest.found id request hrequest index named hnamed ?_
        rw [Nat.add_assoc, Nat.add_comm 1 index]
        exact hpath
    · intro id request hrequest hnone
      have hlater : ∀ index < values.length, ¬ path ++ [first + 1 + index] <+: request.steps := by
        intro index hindex
        have hnot := hnone (index + 1) (Nat.succ_lt_succ hindex)
        rw [Nat.add_assoc, Nat.add_comm 1 index]
        exact hnot
      have hhere := hnone 0 (Nat.succ_pos _)
      rw [hrest.kept id request hrequest hlater]
      exact (hnoted.2 id request hrequest).2 hhere

/-- The first field of a name is the one that the name leads to. -/
theorem named_struct {values : List (Text × CdrValue)} {fields : List CdrSchemaField}
    (hnames : values.map (·.1) = fields.map (·.name)) {name : Text} {index : Nat}
    (hfirst : fields.findIdx? (fun other => other.name = name) = some index) (rest : List Text) :
    ∃ named, values[index]? = some named ∧
      (CdrValue.struct values).named (name :: rest) = named.2.named rest := by
  induction fields generalizing values index with
  | nil => exact nomatch hfirst
  | cons field fields ih =>
    cases values with
    | nil => exact nomatch hnames
    | cons named values =>
      obtain ⟨hname, hnames⟩ := List.cons.inj hnames
      rw [List.findIdx?_cons] at hfirst
      by_cases hhere : field.name = name
      · rw [if_pos (decide_eq_true hhere)] at hfirst
        obtain rfl := Option.some.inj hfirst
        refine ⟨named, rfl, ?_⟩
        have htrue : decide (named.1 = name) = true := decide_eq_true (hname.trans hhere)
        rw [CdrValue.named_cons, List.find?_cons, htrue]
        rfl
      · rw [if_neg fun h => hhere (of_decide_eq_true h)] at hfirst
        obtain ⟨index', hindex', rfl⟩ := Option.map_eq_some_iff.mp hfirst
        obtain ⟨other, hother, hnamed⟩ := ih hnames hindex'
        refine ⟨other, hother, ?_⟩
        have hfalse : decide (named.1 = name) = false :=
          decide_eq_false fun h => hhere (hname.symm.trans h)
        rw [← hnamed, CdrValue.named_cons, CdrValue.named_cons, List.find?_cons, hfalse]

/-- The notes behind the fields of a struct are those behind the struct. -/
theorem FieldsNoted.noted {structIndex : Nat} {path : List Nat}
    (hreaches : ∀ request ∈ requested, path <+: request.steps →
      ReachesFrom structs structIndex path request)
    {values : List (Text × CdrValue)} {before after : List (CachedField CachedKind)}
    (h : FieldsNoted input requested path 0 (structAt structs structIndex).fields values before after) :
    Noted input requested path (.struct values) before after := by
  refine ⟨h.length, ?_⟩
  intro id request hrequest
  have hmem := List.mem_of_getElem? hrequest
  constructor
  · intro hpath
    have hfrom := hreaches request hmem hpath
    -- a request for something in a struct takes a step from it
    obtain ⟨step, hstep⟩ : ∃ step, path ++ [step] <+: request.steps := by
      obtain ⟨rest, hsteps⟩ := hpath
      cases rest with
      | nil =>
        refine absurd ?_ (Reaches.ne_nil hfrom)
        rw [← hsteps, List.append_nil, List.drop_length]
      | cons step rest =>
        refine ⟨step, rest, ?_⟩
        rw [List.append_assoc]
        exact hsteps
    obtain ⟨field, -, hfirst, hnames, -⟩ := hfrom.step hstep
    obtain ⟨named, hnamed, hvalue⟩ :=
      named_struct h.fieldNames hfirst ((names request).drop (path.length + 1))
    obtain ⟨leaf, cached, hleaf, hentry, hholds⟩ :=
      h.found id request hrequest step named hnamed (by rw [Nat.zero_add]; exact hstep)
    refine ⟨leaf, cached, ?_, hentry, hholds⟩
    rw [hnames, hvalue]
    exact hleaf
  · intro hpath
    refine h.kept id request hrequest ?_
    intro index _ hstep
    exact hpath ((List.prefix_append path _).trans hstep)

/-- A struct, walked and read, each with as many levels as it is deep. -/
theorem walkStruct_agrees {plan : CdrTraversalPlan}
    (hcompiled : Compiled plan.structs plan.requested)
    (hsized : ∀ structIndex, ∀ field ∈ (structAt plan.structs structIndex).fields,
      Sized plan.structs field.type) :
    ∀ {levels levels' structIndex : Nat} {path : List Nat},
      Within (Nests plan.structs) levels structIndex →
        Within (Nests plan.structs) levels' structIndex →
      (∀ request ∈ plan.requested, path <+: request.steps →
        ReachesFrom plan.structs structIndex path request) →
      ValuesAgree input plan.requested path (walkStruct plan input levels structIndex path)
        (readStruct plan.structs input levels' structIndex) := by
  intro levels
  induction levels with
  | zero =>
    intro levels' structIndex path hwithin
    exact False.elim hwithin
  | succ levels ih =>
    intro levels' structIndex path hwithin hwithin' hreaches s t hposition hs hlength
    -- the walk and the reading count their levels on their own
    cases levels' with
    | zero => exact False.elim hwithin'
    | succ levels' =>
      have hadvances (path' : List Nat) := walkStruct_advances plan input levels path'
      unfold walkStruct readStruct
      rw [← bind_pure (walkFields _ 0 _)]
      have hfields := @walkFields_agrees plan.requested input path
        (fun fieldIndex field =>
          walkValue plan.structs input
            (fun nestedIndex => walkStruct plan input levels nestedIndex (path ++ [fieldIndex]))
            field.type (requestedAt plan.requested (path ++ [fieldIndex]))
            (hasDescendant plan.requested (path ++ [fieldIndex])))
        (readValue input (readStruct plan.structs input levels'))
        (structAt plan.structs structIndex).fields
        (fun index field => walkValue_advances (hadvances (path ++ [index])) (Or.inl rfl) _ _)
        (by
          intro index field hfield
          have hmem := List.mem_of_getElem? hfield
          refine walkValue_agrees hcompiled ?_ (hadvances (path ++ [index]))
            (hsized structIndex field hmem) ?_
          · intro request hrequest hpath
            have hfrom := hreaches request hrequest ((List.prefix_append path _).trans hpath)
            obtain ⟨field', hfield', -, -, hmeets⟩ := hfrom.step hpath
            obtain rfl := Option.some.inj (hfield.symm.trans hfield')
            exact hmeets
          · intro hstruct hfrom
            -- a field of a struct type has a level less on both sides
            have hnests : Nests plan.structs structIndex field.type.nestedIndex :=
              List.mem_map.mpr ⟨field, List.mem_filter.mpr ⟨hmem, decide_eq_true hstruct⟩, rfl⟩
            exact ih (hwithin _ hnests) (hwithin' _ hnests) hfrom)
        (structAt plan.structs structIndex).fields 0
        (fun index => by rw [Nat.zero_add]) s t hposition hs hlength
      refine hfields.bind ?_
      rintro _ s' values t' - - ⟨hposition', hnoted⟩
      exact ⟨hposition', hnoted.noted hreaches⟩

/-! ## The whole message -/

/-- Behind a message that went through, every request has found what its path leads to. -/
theorem locateAll_agrees {plan : CdrTraversalPlan}
    (hcompiled : Compiled plan.structs plan.requested)
    (hsized : ∀ structIndex, ∀ field ∈ (structAt plan.structs structIndex).fields,
      Sized plan.structs field.type)
    {levels : Nat} (hwithin : Within (Nests plan.structs) kMaxTraversalDepth 0)
    (hlevels : Within (Nests plan.structs) levels 0) (h : s.position = t.position)
    (hs : inside input s) (hlength : s.cachedFields.length = plan.requested.length) :
    Alike (fun _ s' value _ => ∀ (id : Nat) request, plan.requested[id]? = some request →
        Found input request 0 value s'.cachedFields[id]?)
      (plan.locateAll input s) (readStruct plan.structs input levels 0 t) := by
  have hreaches : ∀ request ∈ plan.requested, [] <+: request.steps →
      ReachesFrom plan.structs 0 [] request :=
    fun request hmem _ => hcompiled.reaches request hmem
  unfold locateAll
  rw [← bind_pure (readStruct plan.structs input levels 0)]
  refine (walkStruct_agrees hcompiled hsized hwithin hlevels hreaches s t h hs hlength).bind ?_
  rintro _ s' value t' - - ⟨-, hnoted⟩
  have hfound : ∀ (id : Nat) request, plan.requested[id]? = some request →
      Found input request 0 value s'.cachedFields[id]? :=
    fun id request hrequest => (hnoted.2 id request hrequest).1 List.nil_prefix
  rw [run_bind_ok (show (get : Walk Cursor) s' = .ok s' s' from rfl), if_pos]
  · exact hfound
  · rw [List.all_eq_true]
    intro cached hcached
    -- a note stands under the number of a request, and was found
    obtain ⟨id, hid⟩ := List.mem_iff_getElem?.mp hcached
    have hlt : id < plan.requested.length := by
      have hbound := (List.getElem?_eq_some_iff.mp hid).1
      rw [hnoted.1, hlength] at hbound
      exact hbound
    obtain ⟨_, other, -, hother, hholds⟩ := hfound id _ (List.getElem?_eq_getElem hlt)
    obtain rfl := Option.some.inj (hid.symm.trans hother)
    exact hholds.1

end PlotJugglerSdk.ParserModule.CdrTraversalPlan

namespace PlotJugglerSdk.ParserModule.CdrReader

open Wire Scan CdrTraversalPlan

theorem initializeReader_payload {payload : Bytes} {input : CdrInput}
    (h : initializeReader payload = .ok input) : input.payload = payload := by
  unfold initializeReader at h
  split at h
  · dsimp only at h
    split at h
    · exact nomatch h
    · rw [← Except.ok.inj h]
  · exact nomatch h

/-- The cursor that a traversal begins with. -/
def atStart (plan : CdrTraversalPlan) : Cursor :=
  { position := dataOrigin
    cachedFields := List.replicate plan.requested.length { kind := .unknown } }

theorem atStart_inside {input : CdrInput} (plan : CdrTraversalPlan)
    (h : initializeReader input.payload = .ok input) : inside input (atStart plan) := by
  have hinside := (traversal_safe plan input).2 h
  unfold create at hinside
  rw [h] at hinside
  exact hinside

/-! ## Answers -/

/-- The reader behind a traversal. -/
def traversed (plan : CdrTraversalPlan) (input : CdrInput) (cursor : Cursor)
    (status : Option ScanError) : CdrReader :=
  { plan, input, cursor, status, traversalCount := 1 }

theorem ensurePlannedFields_ok {plan : CdrTraversalPlan} {input : CdrInput} {cursor : Cursor}
    (h : plan.locateAll input (atStart plan) = .ok () cursor) :
    ensurePlannedFields { plan, input, cursor := atStart plan } =
      (.ok (), traversed plan input cursor none) := by
  unfold ensurePlannedFields
  dsimp only
  rw [if_pos rfl,
    show ({ atStart plan with position := dataOrigin } : Cursor) = atStart plan from rfl, h]
  rfl

theorem ensurePlannedFields_error {plan : CdrTraversalPlan} {input : CdrInput} {cursor : Cursor}
    {e : ScanError} (h : plan.locateAll input (atStart plan) = .error e cursor) :
    ensurePlannedFields { plan, input, cursor := atStart plan } =
      (.error e, traversed plan input cursor (some e)) := by
  unfold ensurePlannedFields
  dsimp only
  rw [if_pos rfl,
    show ({ atStart plan with position := dataOrigin } : Cursor) = atStart plan from rfl, h]
  rfl

/-- What an accessor makes of a note, or of the failure to come by one. -/
def finish (accessor : CdrAccessor)
    (result : Except ScanError (CachedField CachedKind) × CdrReader) :
    Except ScanError CdrValue × CdrReader :=
  match result.1 with
  | .error e => (.error e, result.2)
  | .ok entry =>
    match noteValue result.2.input { entry with kind := accessor.kind } with
    | some value => (.ok value, result.2)
    | none => result.2.failed (.status "CDR bool is not 0 or 1")

/-- The accessors differ in what they make of a note. -/
theorem ask_eq (reader : CdrReader) (accessor : CdrAccessor) (field : Nat) :
    reader.ask accessor field = finish accessor (reader.cached field accessor.kind) := by
  cases accessor with
  | boolean =>
    show _ = finish .boolean (reader.cached field .bool)
    unfold ask boolean cachedUnsigned finish
    obtain ⟨result, reader'⟩ := reader.cached field .bool
    cases result with
    | error e => rfl
    | ok entry =>
      show (Except.map CdrValue.bool (if unsignedAt reader'.input entry.offset 1 > 1 then
          reader'.failed (.status "CDR bool is not 0 or 1")
        else (.ok (unsignedAt reader'.input entry.offset 1 != 0), reader')).1,
        (if unsignedAt reader'.input entry.offset 1 > 1 then
          reader'.failed (.status "CDR bool is not 0 or 1")
        else (.ok (unsignedAt reader'.input entry.offset 1 != 0), reader')).2) = _
      unfold noteValue
      dsimp only
      -- the only accessor that may fail after the lookup
      by_cases hrange : unsignedAt reader'.input entry.offset 1 > 1
      · rw [if_pos hrange, if_pos hrange]
        rfl
      · rw [if_neg hrange, if_neg hrange]
        rfl
  | i8 =>
    show _ = finish .i8 (reader.cached field .i8)
    unfold ask i8 cachedUnsigned finish
    obtain ⟨result | result, reader'⟩ := reader.cached field .i8 <;> rfl
  | u8 =>
    show _ = finish .u8 (reader.cached field .u8)
    unfold ask u8 cachedUnsigned finish
    obtain ⟨result | result, reader'⟩ := reader.cached field .u8 <;> rfl
  | i16 =>
    show _ = finish .i16 (reader.cached field .i16)
    unfold ask i16 cachedUnsigned finish
    obtain ⟨result | result, reader'⟩ := reader.cached field .i16 <;> rfl
  | u16 =>
    show _ = finish .u16 (reader.cached field .u16)
    unfold ask u16 cachedUnsigned finish
    obtain ⟨result | result, reader'⟩ := reader.cached field .u16 <;> rfl
  | i32 =>
    show _ = finish .i32 (reader.cached field .i32)
    unfold ask i32 cachedUnsigned finish
    obtain ⟨result | result, reader'⟩ := reader.cached field .i32 <;> rfl
  | u32 =>
    show _ = finish .u32 (reader.cached field .u32)
    unfold ask u32 cachedUnsigned finish
    obtain ⟨result | result, reader'⟩ := reader.cached field .u32 <;> rfl
  | i64 =>
    show _ = finish .i64 (reader.cached field .i64)
    unfold ask i64 cachedUnsigned finish
    obtain ⟨result | result, reader'⟩ := reader.cached field .i64 <;> rfl
  | u64 =>
    show _ = finish .u64 (reader.cached field .u64)
    unfold ask u64 cachedUnsigned finish
    obtain ⟨result | result, reader'⟩ := reader.cached field .u64 <;> rfl
  | f32 =>
    show _ = finish .f32 (reader.cached field .f32)
    unfold ask f32 cachedUnsigned finish
    obtain ⟨result | result, reader'⟩ := reader.cached field .f32 <;> rfl
  | f64 =>
    show _ = finish .f64 (reader.cached field .f64)
    unfold ask f64 cachedUnsigned finish
    obtain ⟨result | result, reader'⟩ := reader.cached field .f64 <;> rfl
  | string =>
    show _ = finish .string (reader.cached field .string)
    unfold ask string finish
    obtain ⟨result | result, reader'⟩ := reader.cached field .string <;> rfl
  | bytes =>
    show _ = finish .bytes (reader.cached field .bytes)
    unfold ask bytes finish
    obtain ⟨result | result, reader'⟩ := reader.cached field .bytes <;> rfl
  | spanRef =>
    show _ = finish .spanRef (reader.cached field .bytes)
    unfold ask spanRef finish
    obtain ⟨result | result, reader'⟩ := reader.cached field .bytes <;> rfl

/-- A question is answered from behind the traversal. -/
theorem ask_traversed {reader reader' : CdrReader} {result : Except ScanError Unit}
    (h : reader.ensurePlannedFields = (result, reader'))
    (h' : reader'.ensurePlannedFields = (result, reader')) (accessor : CdrAccessor) (field : Nat) :
    reader.ask accessor field = reader'.ask accessor field := by
  rw [ask_eq, ask_eq]
  unfold cached
  rw [h, h']

/-- A reader whose traversal failed answers nothing. -/
theorem ask_error {reader : CdrReader} {e : ScanError}
    (h : reader.ensurePlannedFields = (.error e, reader)) (accessor : CdrAccessor) (field : Nat) :
    reader.ask accessor field = (.error e, reader) := by
  rw [ask_eq]
  unfold cached
  rw [h]
  rfl

/-- A field that was found is what its accessor answers. -/
theorem ask_found {reader : CdrReader} (h : reader.ensurePlannedFields = (.ok (), reader))
    {accessor : CdrAccessor} {field : Nat} {entry : CachedField CachedKind} {value : CdrValue}
    (hentry : reader.cursor.cachedFields[field]? = some entry)
    (hholds : Holds reader.input accessor.kind value entry) :
    reader.ask accessor field = (.ok value, reader) := by
  obtain ⟨hlocated, hkind, hvalue⟩ := hholds
  have hcached : reader.cached field accessor.kind = (.ok entry, reader) := by
    unfold cached
    rw [h]
    dsimp only
    rw [hentry]
    dsimp only
    rw [if_neg]
    rintro (hbad | hbad)
    · exact hbad hlocated
    · exact hbad hkind
  rw [ask_eq, hcached]
  unfold finish
  dsimp only
  rw [← hkind, hvalue]

/-- All questions to a reader that found what it was asked for. -/
theorem answers_found {reader : CdrReader} (h : reader.ensurePlannedFields = (.ok (), reader))
    {related : CdrAccessor × Nat → Except ScanError CdrValue → Prop} :
    ∀ (questions : List (CdrAccessor × Nat)),
      (∀ question ∈ questions, ∃ value entry, reader.cursor.cachedFields[question.2]? = some entry ∧
        Holds reader.input question.1.kind value entry ∧ related question (.ok value)) →
      List.Forall₂ related questions (reader.answers questions) := by
  intro questions
  induction questions with
  | nil => exact fun _ => .nil
  | cons question questions ih =>
    intro hquestions
    obtain ⟨value, entry, hentry, hholds, hrelated⟩ := hquestions question List.mem_cons_self
    unfold answers
    rw [ask_found h hentry hholds]
    exact .cons hrelated
      (ih fun other hother => hquestions other (List.mem_cons_of_mem question hother))

theorem answers_error {reader : CdrReader} {e : ScanError}
    (h : reader.ensurePlannedFields = (.error e, reader)) (questions : List (CdrAccessor × Nat)) :
    ∀ answer ∈ reader.answers questions, answer = .error e := by
  induction questions with
  | nil => exact fun answer hanswer => nomatch hanswer
  | cons question questions ih =>
    unfold answers
    rw [ask_error h]
    intro answer hanswer
    obtain rfl | hanswer := List.mem_cons.mp hanswer
    · rfl
    · exact ih answer hanswer

/-- The first question makes the traversal, and the others stand behind it. -/
theorem answers_traversed {reader reader' : CdrReader} {result : Except ScanError Unit}
    (h : reader.ensurePlannedFields = (result, reader'))
    (h' : reader'.ensurePlannedFields = (result, reader')) (questions : List (CdrAccessor × Nat)) :
    reader.answers questions = reader'.answers questions := by
  cases questions with
  | nil => rfl
  | cons question questions =>
    unfold answers
    rw [ask_traversed h h']

end PlotJugglerSdk.ParserModule.CdrReader

namespace PlotJugglerSdk.ParserModule.CdrFieldLocator

open Depth Wire Scan CdrTraversalPlan CdrReader CdrMessage

/-! ## Refinement -/

/-- A question that a plan was made for: the accessor is the one for the field's kind. -/
def Planned (plan : CdrTraversalPlan) (question : CdrAccessor × Nat) : Prop :=
  ∃ request, plan.requested[question.2]? = some request ∧ question.1.kind = request.cachedKind

/-- The answer that a message has for a question about one of the paths. -/
def AnsweredBy (message : CdrValue) (paths : List Text) (question : CdrAccessor × Nat)
    (answer : Except ScanError CdrValue) : Prop :=
  ∃ path value, paths[question.2]? = some path ∧ message.named (path.splitOn '.') = some value ∧
    answer = .ok value

theorem answers_of_found {plan : CdrTraversalPlan} {structs : List CdrSchemaStruct}
    {paths : List Text} (hplan : PlanOf structs paths plan) {input : CdrInput} {cursor : Cursor}
    {message : CdrValue}
    (hfound : ∀ (id : Nat) request, plan.requested[id]? = some request →
      Found input request 0 message cursor.cachedFields[id]?)
    {questions : List (CdrAccessor × Nat)}
    (hquestions : ∀ question ∈ questions, Planned plan question) :
    List.Forall₂ (AnsweredBy message paths) questions 
      ((traversed plan input cursor none).answers questions) := by
  refine answers_found rfl questions ?_
  intro question hquestion
  obtain ⟨request, hrequest, hkind⟩ := hquestions question hquestion
  obtain ⟨leaf, entry, hleaf, hentry, hholds⟩ := hfound question.2 request hrequest
  refine ⟨leaf, entry, hentry, ?_, request.path, leaf, ?_, hleaf, rfl⟩
  · rw [hkind]
    exact hholds
  · rw [← hplan.inOrder, List.getElem?_map, hrequest]
    rfl

/-- A reader with a plan answers what is found in the message as a whole, and it answers nothing
where the message cannot be read as a whole. -/
theorem plan_refines_reading {structs : List CdrSchemaStruct} {paths : List Text}
    {plan : CdrTraversalPlan} (hlocate : locate structs paths = .ok plan)
    (hnesting : Within (Nests structs) kMaxTraversalDepth 0)
    (hsized : ∀ structure_ ∈ structs, ∀ field ∈ structure_.fields, Sized structs field.type)
    (payload : Bytes) {levels : Nat} (hlevels : kMaxTraversalDepth ≤ levels)
    {questions : List (CdrAccessor × Nat)}
    (hquestions : ∀ question ∈ questions, Planned plan question) :
    (∀ message, readMessage structs levels payload = .ok message →
      List.Forall₂ (AnsweredBy message paths) questions
        ((CdrReader.create payload plan).answers questions)) ∧
    (∀ e, readMessage structs levels payload = .error e →
      ∀ answer ∈ (CdrReader.create payload plan).answers questions, ∃ e', answer = .error e') := by
  have hplan := locate_planOf hlocate
  obtain rfl : plan.structs = structs := hplan.table
  unfold readMessage CdrReader.create
  cases hheader : initializeReader payload with
  | error e =>
    constructor
    · intro message hmessage
      exact nomatch hmessage
    · intro _ _ answer hanswer
      exact ⟨e, answers_error rfl questions answer hanswer⟩
  | ok input =>
    dsimp only
    have hsized' : ∀ structIndex, ∀ field ∈ (structAt plan.structs structIndex).fields,
        Sized plan.structs field.type := by
      intro structIndex field hfield
      by_cases hrange : structIndex < plan.structs.length
      · have hat : structAt plan.structs structIndex = plan.structs[structIndex] :=
          List.getD_eq_getElem plan.structs ⟨[], []⟩ hrange
        rw [hat] at hfield
        exact hsized _ (List.getElem_mem hrange) field hfield
      · unfold structAt at hfield
        rw [List.getD_eq_default plan.structs ⟨[], []⟩ (Nat.le_of_not_lt hrange)] at hfield
        exact nomatch hfield
    obtain rfl := initializeReader_payload hheader
    have hagrees := @locateAll_agrees input (atStart plan) { position := dataOrigin } plan
      hplan.compiled hsized' levels hnesting (hnesting.mono hlevels) rfl
        (atStart_inside plan hheader)
      List.length_replicate
    -- the first question makes the traversal, which goes the way of the reading
    cases hwalk : plan.locateAll input (atStart plan) with
    | ok _ cursor =>
      rw [hwalk] at hagrees
      cases hread : readStruct plan.structs input levels 0
        ({ position := dataOrigin } : Reading) with
      | error e t' =>
        rw [hread] at hagrees
        exact False.elim hagrees
      | ok message t' =>
        rw [hread] at hagrees
        constructor
        · intro message' hmessage
          obtain rfl : message = message' := Except.ok.inj hmessage
          have htraversed := answers_traversed (ensurePlannedFields_ok hwalk) rfl questions
          exact htraversed ▸ answers_of_found hplan hagrees hquestions
        · intro e he
          exact nomatch he
    | error e cursor =>
      rw [hwalk] at hagrees
      cases hread : readStruct plan.structs input levels 0
        ({ position := dataOrigin } : Reading) with
      | ok message t' =>
        rw [hread] at hagrees
        exact False.elim hagrees
      | error e' t' =>
        constructor
        · intro message hmessage
          exact nomatch hmessage
        · intro _ _ answer hanswer
          have htraversed := answers_traversed (ensurePlannedFields_error hwalk) rfl questions
          have hanswer' : answer ∈ (traversed plan input cursor (some e)).answers questions :=
            htraversed ▸ hanswer
          have hagain : (traversed plan input cursor (some e)).ensurePlannedFields =
              (.error e, traversed plan input cursor (some e)) := rfl
          exact ⟨e, answers_error hagain questions answer hanswer'⟩

/-- The same of a number behind a sequence. -/
theorem plan_refines_reading_u8 :
    (∀ message, readMessage [⟨[], [⟨"v".toList, { kind := .f64, container := .sequence }⟩,
        ⟨"x".toList, {}⟩]⟩] 64 [0, 1, 0, 0, 0, 0, 0, 0, 7] = .ok message →
      List.Forall₂ (AnsweredBy message ["x".toList]) [(.u8, 0)]
        ((CdrReader.create [0, 1, 0, 0, 0, 0, 0, 0, 7]
          ⟨[⟨[], [⟨"v".toList, { kind := .f64, container := .sequence }⟩, ⟨"x".toList, {}⟩]⟩],
            [⟨"x".toList, [1], .u8⟩]⟩).answers [(.u8, 0)])) ∧
    (∀ e, readMessage [⟨[], [⟨"v".toList, { kind := .f64, container := .sequence }⟩,
        ⟨"x".toList, {}⟩]⟩] 64 [0, 1, 0, 0, 0, 0, 0, 0, 7] = .error e →
      ∀ answer ∈ (CdrReader.create [0, 1, 0, 0, 0, 0, 0, 0, 7]
          ⟨[⟨[], [⟨"v".toList, { kind := .f64, container := .sequence }⟩, ⟨"x".toList, {}⟩]⟩],
            [⟨"x".toList, [1], .u8⟩]⟩).answers [(.u8, 0)], ∃ e', answer = .error e') := by
  refine plan_refines_reading (by decide +kernel) ?_ ?_ _ (Nat.le_refl 64) ?_
  · intro nested hnested
    exact nomatch hnested
  · intro structure_ hstructure field hfield hcontainer
    obtain rfl := List.mem_singleton.mp hstructure
    obtain rfl | hfield := List.mem_cons.mp hfield
    · exact ⟨8, rfl, by decide⟩
    · obtain rfl := List.mem_singleton.mp hfield
      exact absurd rfl hcontainer
  · intro question hquestion
    obtain rfl := List.mem_singleton.mp hquestion
    exact ⟨_, rfl, rfl⟩

end PlotJugglerSdk.ParserModule.CdrFieldLocator
