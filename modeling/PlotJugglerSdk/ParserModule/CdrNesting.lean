import PlotJugglerSdk.Order.Depth
import PlotJugglerSdk.ParserModule.CdrGrammar
import PlotJugglerSdk.ParserModule.CdrSafety

/-!
# The nesting of an accepted schema

`validateSchemaGraph` goes over every struct once, and counts the levels on the way it came
first. A struct that it comes back to is not gone into again, so what is behind such a struct
is only as deep as it was there.

* `validateSchemaGraph_within`  — every struct it finishes is of some depth: no cycles
* `Revisits`, `RevisitsFit`     — where the search comes back, and that the levels suffice there
* `walkStruct_throws`           — a traversal with enough levels does not run out of them
* `depth_covered_iff`           — an accepted schema is not too deep just when they suffice
-/

namespace PlotJugglerSdk.ParserModule.CdrFieldLocator

open Depth Scan

/-- A struct that is the type, or the element type, of a field of another one. -/
def Nests (structs : List CdrSchemaStruct) (structIndex nestedIndex : Nat) : Prop :=
  nestedIndex ∈ nestedIndices (structAt structs structIndex)

variable {structs : List CdrSchemaStruct}

/-! ## The search -/

/-- The calls for the structs nested in a struct, one after the other. -/
def validateNested (structs : List CdrSchemaStruct) (levels : Nat) (nested : List Nat)
    (visitState : List VisitState) : Except String (List VisitState) :=
  nested.foldlM
    (fun visitState nestedIndex => validateSchemaGraph structs levels nestedIndex visitState)
    visitState

theorem validateSchemaGraph_fresh {levels structIndex : Nat} {visitState : List VisitState}
    (hfresh : visitState.getD structIndex .fresh = .fresh) :
    validateSchemaGraph structs (levels + 1) structIndex visitState =
      (validateNested structs levels (nestedIndices (structAt structs structIndex))
        (visitState.set structIndex .active)).map fun visitState =>
          visitState.set structIndex .done := by
  conv => lhs; unfold validateSchemaGraph
  rw [hfresh]
  show (validateNested structs levels _ _ >>= fun visitState =>
    Except.ok (visitState.set structIndex .done)) = _
  cases validateNested structs levels (nestedIndices (structAt structs structIndex))
      (visitState.set structIndex .active) with
  | error e => rfl
  | ok visitState' => rfl

/-- The ways a call can go through: the struct was finished before, or it is finished now. -/
theorem validateSchemaGraph_ok {levels structIndex : Nat} {visitState visitState' : List VisitState}
    (h : validateSchemaGraph structs levels structIndex visitState = .ok visitState') :
    ∃ fewer, levels = fewer + 1 ∧
      ((visitState.getD structIndex .fresh = .done ∧ visitState' = visitState) ∨
      (visitState.getD structIndex .fresh = .fresh ∧ ∃ below,
        validateNested structs fewer (nestedIndices (structAt structs structIndex))
          (visitState.set structIndex .active) = .ok below ∧
        visitState' = below.set structIndex .done)) := by
  cases levels with
  | zero =>
    unfold validateSchemaGraph at h
    exact nomatch h
  | succ levels =>
    refine ⟨levels, rfl, ?_⟩
    cases hstate : visitState.getD structIndex .fresh with
    -- the struct is being visited further up: a cycle
    | active =>
      unfold validateSchemaGraph at h
      rw [hstate] at h
      exact nomatch h
    | done =>
      unfold validateSchemaGraph at h
      rw [hstate] at h
      exact Or.inl ⟨rfl, (Except.ok.inj h).symm⟩
    | fresh =>
      rw [validateSchemaGraph_fresh hstate] at h
      cases hbelow : validateNested structs levels (nestedIndices (structAt structs structIndex))
          (visitState.set structIndex .active) with
      | error e =>
        rw [hbelow] at h
        exact nomatch h
      | ok below =>
        rw [hbelow] at h
        exact Or.inr ⟨rfl, below, rfl, (Except.ok.inj h).symm⟩

/-! ## No cycles -/

/-- Whatever is finished is of some depth. -/
def FinishedWithin (structs : List CdrSchemaStruct) (visitState : List VisitState) : Prop :=
  ∀ structIndex, visitState.getD structIndex .fresh = .done →
    ∃ n, Within (Nests structs) n structIndex

theorem getD_set_ne {visitState : List VisitState} {structIndex other : Nat} {state : VisitState}
    (hne : other ≠ structIndex) :
    (visitState.set structIndex state).getD other .fresh = visitState.getD other .fresh := by
  rw [List.getD_eq_getElem?_getD, List.getD_eq_getElem?_getD, List.getElem?_set_ne hne.symm]

/-- Taking up a struct finishes none. -/
theorem FinishedWithin.set_active {visitState : List VisitState}
    (h : FinishedWithin structs visitState)
    (structIndex : Nat) : FinishedWithin structs (visitState.set structIndex .active) := by
  intro other hdone
  by_cases hother : other = structIndex
  · subst hother
    rw [List.getD_eq_getElem?_getD, List.getElem?_set_self'] at hdone
    cases hold : visitState[other]? with
    | none =>
      rw [hold] at hdone
      exact nomatch hdone
    | some old =>
      rw [hold] at hdone
      exact nomatch hdone
  · rw [getD_set_ne hother] at hdone
    exact h other hdone

theorem FinishedWithin.set_done {visitState : List VisitState}
    (h : FinishedWithin structs visitState)
    {structIndex : Nat} (hwithin : ∃ n, Within (Nests structs) n structIndex) :
    FinishedWithin structs (visitState.set structIndex .done) := by
  intro other hdone
  by_cases hother : other = structIndex
  · rw [hother]
    exact hwithin
  · rw [getD_set_ne hother] at hdone
    exact h other hdone

/-- A struct that a call went through for is of some depth: either it was before, or all
that is nested in it is, by the calls for these. -/
theorem validateSchemaGraph_within :
    ∀ {levels structIndex : Nat} {visitState visitState' : List VisitState},
      FinishedWithin structs visitState →
      validateSchemaGraph structs levels structIndex visitState = .ok visitState' →
      FinishedWithin structs visitState' ∧ ∃ n, Within (Nests structs) n structIndex := by
  intro levels
  induction levels with
  | zero =>
    intro structIndex visitState visitState' _ h
    obtain ⟨_, hlevels, -⟩ := validateSchemaGraph_ok h
    exact nomatch hlevels
  | succ levels ih =>
    intro structIndex visitState visitState' hfinished h
    obtain ⟨fewer, hlevels, hcases⟩ := validateSchemaGraph_ok h
    obtain rfl : levels = fewer := Nat.succ.inj hlevels
    obtain ⟨hdone, rfl⟩ | ⟨_, below, hbelow, rfl⟩ := hcases
    · exact ⟨hfinished, hfinished structIndex hdone⟩
    · have hactive := hfinished.set_active structIndex
      have hnested : ∀ nestedIndex ∈ nestedIndices (structAt structs structIndex),
          ∃ n, Within (Nests structs) n nestedIndex := by
        intro nestedIndex hmem
        obtain ⟨before, after, mid, next, -, hmid, hnext⟩ := foldlM_at hbelow hmem
        -- what was finished before a nested struct stays finished while it is visited
        have hfinishedMid : FinishedWithin structs mid :=
          foldlM_invariant (FinishedWithin structs) (fun _ _ _ _ hs hstep => (ih hs hstep).1)
            hactive hmid
        exact (ih hfinishedMid hnext).2
      -- the nested structs have bounds, and the largest of them is one below this one
      have hwithin := exists_within (fun _ hb => hb) hnested
      refine ⟨FinishedWithin.set_done ?_ hwithin, hwithin⟩
      exact foldlM_invariant (FinishedWithin structs) (fun _ _ _ _ hs hstep => (ih hs hstep).1)
        hactive hbelow

/-- A struct that is in no list has no fields. -/
theorem not_nests_of_length_le {structIndex : Nat} (h : structs.length ≤ structIndex)
    (nestedIndex : Nat) : ¬ Nests structs structIndex nestedIndex := by
  intro hnests
  unfold Nests structAt at hnests
  rw [List.getD_eq_default structs ⟨[], []⟩ h] at hnests
  exact nomatch hnests

theorem validateStructs_within {visitState : List VisitState}
    (h : validateStructs structs = .ok visitState) (structIndex : Nat) :
    ∃ n, Within (Nests structs) n structIndex := by
  by_cases hrange : structIndex < structs.length
  · obtain ⟨before, after, mid, next, -, hmid, hnext⟩ :=
      foldlM_at h (List.mem_range.mpr hrange)
    have hfresh : FinishedWithin structs (List.replicate structs.length .fresh) := by
      intro other hdone
      rw [List.getD_eq_getElem?_getD, List.getElem?_replicate] at hdone
      split at hdone
      · exact nomatch hdone
      · exact nomatch hdone
    have hfinished : FinishedWithin structs mid :=
      foldlM_invariant (FinishedWithin structs)
        (fun _ _ _ _ hs hstep => (validateSchemaGraph_within hs hstep).1) hfresh hmid
    exact (validateSchemaGraph_within hfinished hnext).2
  · refine ⟨1, ?_⟩
    intro nestedIndex hnests
    exact absurd hnests (not_nests_of_length_le (Nat.le_of_not_lt hrange) nestedIndex)

/-! ## Depth -/

/-- A call comes back to a finished struct, itself or below it, with so many levels left. -/
inductive Revisits (structs : List CdrSchemaStruct) :
    (levels structIndex : Nat) → List VisitState → (left revisited : Nat) → Prop where
  | here {levels structIndex : Nat} {visitState : List VisitState}
      (hdone : visitState.getD structIndex .fresh = .done) :
      Revisits structs (levels + 1) structIndex visitState (levels + 1) structIndex
  | nested {levels structIndex nestedIndex left revisited : Nat} {visitState mid : List VisitState}
      {before after : List Nat} (hfresh : visitState.getD structIndex .fresh = .fresh)
      (hnested : nestedIndices (structAt structs structIndex) = before ++ nestedIndex :: after)
      (hmid : validateNested structs levels before (visitState.set structIndex .active) = .ok mid)
      (hrevisits : Revisits structs levels nestedIndex mid left revisited) :
      Revisits structs (levels + 1) structIndex visitState left revisited

/-- Wherever the search of a schema comes back to a finished struct, this struct and what is
nested in it fit into the levels that are left there. -/
def RevisitsFit (structs : List CdrSchemaStruct) : Prop :=
  ∀ before structIndex after visitState,
    List.range structs.length = before ++ structIndex :: after →
    validateNested structs kMaxTraversalDepth before (List.replicate structs.length .fresh) =
      .ok visitState →
    ∀ left revisited, Revisits structs kMaxTraversalDepth structIndex visitState left revisited →
      Within (Nests structs) left revisited

/-- A call that goes through, and where every struct it comes back to fits, is for a struct
that fits. -/
theorem within_of_revisits :
    ∀ {levels structIndex : Nat} {visitState visitState' : List VisitState},
      validateSchemaGraph structs levels structIndex visitState = .ok visitState' →
      (∀ left revisited, Revisits structs levels structIndex visitState left revisited →
        Within (Nests structs) left revisited) →
      Within (Nests structs) levels structIndex := by
  intro levels
  induction levels with
  | zero =>
    intro structIndex visitState visitState' h _
    obtain ⟨_, hlevels, -⟩ := validateSchemaGraph_ok h
    exact nomatch hlevels
  | succ levels ih =>
    intro structIndex visitState visitState' h hfit
    obtain ⟨fewer, hlevels, hcases⟩ := validateSchemaGraph_ok h
    obtain rfl : levels = fewer := Nat.succ.inj hlevels
    obtain ⟨hdone, -⟩ | ⟨hfresh, below, hbelow, -⟩ := hcases
    · exact hfit _ _ (.here hdone)
    · intro nestedIndex hnests
      obtain ⟨before, after, mid, next, hlist, hmid, hnext⟩ := foldlM_at hbelow hnests
      exact ih hnext fun left revisited hrevisits => hfit _ _ (.nested hfresh hlist hmid hrevisits)

/-- What fits as a whole fits wherever the search comes back to a part of it. -/
theorem Revisits.within {levels structIndex left revisited : Nat} {visitState : List VisitState}
    (h : Revisits structs levels structIndex visitState left revisited)
    (hwithin : Within (Nests structs) levels structIndex) :
    Within (Nests structs) left revisited := by
  induction h with
  | here _ => exact hwithin
  | nested _ hnested _ _ ih =>
    refine ih (hwithin _ ?_)
    unfold Nests
    rw [hnested]
    exact List.mem_append_right _ List.mem_cons_self

theorem within_iff_revisitsFit {visitState : List VisitState}
    (h : validateStructs structs = .ok visitState) :
    (∀ structIndex, Within (Nests structs) kMaxTraversalDepth structIndex) ↔
      RevisitsFit structs := by
  constructor
  · intro hwithin before structIndex after visitState _ _ left revisited hrevisits
    exact hrevisits.within (hwithin structIndex)
  · intro hfit structIndex
    by_cases hrange : structIndex < structs.length
    · obtain ⟨before, after, mid, next, hlist, hmid, hnext⟩ :=
        foldlM_at h (List.mem_range.mpr hrange)
      exact within_of_revisits hnext (hfit before structIndex after mid hlist hmid)
    · intro nestedIndex hnests
      exact absurd hnests (not_nests_of_length_le (Nat.le_of_not_lt hrange) nestedIndex)

end PlotJugglerSdk.ParserModule.CdrFieldLocator

namespace PlotJugglerSdk.ParserModule.CdrTraversalPlan

open Depth Scan CdrFieldLocator CdrReader

/-! ## Traversals -/

/-- The errors that are not about the depth. -/
def NotDepth (e : ScanError) : Prop :=
  e ≠ .status "CDR traversal depth exceeds 64" ∧ e ≠ .status "CDR schema nesting depth exceeds 64"

instance (e : ScanError) : Decidable (NotDepth e) := by unfold NotDepth; infer_instance

variable {structs : List CdrSchemaStruct} {input : CdrInput}

theorem fail_throws {α : Type} {message : String} (h : NotDepth (.status message)) :
    Throws NotDepth (fail message : Walk α) :=
  Throws.throw h

theorem note_throws (requestedId : Option Nat) (cached : CachedField CachedKind) :
    Throws NotDepth (note requestedId cached) := by
  cases requestedId with
  | none => exact Throws.pure ()
  | some id => exact Throws.modify _

theorem skip_throws (size : Nat) : Throws NotDepth (skip size : Walk Unit) := Throws.modify _

theorem align_throws (alignment : Nat) : Throws NotDepth (align input alignment : Walk Unit) := by
  unfold align
  refine Throws.get.bind ?_
  intro cursor
  refine Throws.ite (fun _ => fail_throws (by decide)) ?_
  intro _
  exact Throws.ite (fun _ => fail_throws (by decide)) fun _ => skip_throws _

theorem readU32_throws : Throws NotDepth (readU32 input : Walk UInt32) := by
  unfold readU32 readUnsigned
  refine Throws.bind ?_ fun _ => Throws.pure _
  refine (align_throws 4).bind fun _ => Throws.get.bind ?_
  intro cursor
  exact Throws.ite (fun _ => fail_throws (by decide)) fun _ => (skip_throws 4).bind fun _ =>
    Throws.pure _

theorem walkBytes_throws (size : Nat) (requestedId : Option Nat) {message : String}
    (h : NotDepth (.status message)) :
    Throws NotDepth (walkBytes input size requestedId message) := by
  unfold walkBytes
  refine Throws.get.bind ?_
  intro cursor
  exact Throws.ite (fun _ => fail_throws h) fun _ =>
    (skip_throws size).bind fun _ => note_throws requestedId _

theorem walkString_throws (type : CdrSchemaType) (requestedId : Option Nat) :
    Throws NotDepth (walkString input type requestedId) := by
  unfold walkString
  refine readU32_throws.bind fun length => Throws.get.bind ?_
  intro cursor
  refine Throws.ite (fun _ => fail_throws (by decide)) ?_
  intro _
  refine Throws.ite (fun _ => fail_throws (by decide)) ?_
  intro _
  exact Throws.ite (fun _ => fail_throws (by decide)) fun _ =>
    (skip_throws length.toNat).bind fun _ => note_throws requestedId _

theorem walkPrimitive_throws (type : CdrSchemaType) (requestedId : Option Nat) :
    Throws NotDepth (walkPrimitive input type requestedId) := by
  unfold walkPrimitive
  refine (align_throws _).bind fun _ => Throws.get.bind ?_
  intro cursor
  refine Throws.ite (fun _ => fail_throws (by decide)) ?_
  intro _
  exact Throws.ite (fun _ => fail_throws (by decide)) fun _ =>
    (skip_throws _).bind fun _ => note_throws requestedId _

variable {walkNested : Nat → Walk Unit}

theorem walkScalar_throws {type : CdrSchemaType}
    (hnested : type.kind = .struct → Throws NotDepth (walkNested type.nestedIndex))
    (requestedId : Option Nat) :
    Throws NotDepth (walkScalar input walkNested type requestedId) := by
  unfold walkScalar
  cases hkind : type.kind with
  | struct => exact hnested hkind
  | string => exact walkString_throws type requestedId
  | _ => exact walkPrimitive_throws type requestedId

theorem walkElements_throws {walkElement : Walk Unit} (helement : Throws NotDepth walkElement)
    {message : String} (h : NotDepth (.status message)) (rounds count : Nat) :
    Throws NotDepth (walkElements walkElement message rounds count) := by
  induction rounds generalizing count with
  | zero =>
    cases count with
    | zero => exact Throws.pure ()
    | succ count => exact Throws.throw (by decide)
  | succ rounds ih =>
    cases count with
    | zero => exact Throws.pure ()
    | succ count =>
      refine Throws.get.bind fun before => helement.bind fun _ => Throws.get.bind ?_
      intro cursor
      exact Throws.ite (fun _ => fail_throws h) fun _ => ih count

theorem overflow_notDepth :
    NotDepth (.status "CDR schema minimum size overflows the host size type") := by decide

/-- A container is too large, or it has a minimum. -/
theorem fieldMinimum_error {type : CdrSchemaType} {minimum : Nat} {e : String}
    (h : fieldMinimum type minimum = .error e) : NotDepth (.status e) := by
  unfold fieldMinimum at h
  split at h
  · exact nomatch h
  · split at h
    · rw [← Except.error.inj h]
      exact overflow_notDepth
    · exact nomatch h
  · exact nomatch h

/-- A field adds to the total what its type takes, or one of the three steps fails. -/
theorem addMinimum_error {levels total : Nat} {field : CdrSchemaField} {e : String}
    (hminimum : ∀ e, minimumSize structs levels field.type = .error e → NotDepth (.status e))
    (h : addMinimum structs levels total field = .error e) : NotDepth (.status e) := by
  unfold addMinimum at h
  cases htype : minimumSize structs levels field.type with
  | error e' =>
    rw [htype] at h
    obtain rfl : e' = e := Except.error.inj h
    exact hminimum e' htype
  | ok minimum =>
    rw [htype] at h
    replace h : (fieldMinimum field.type minimum >>= fun n =>
        if n > sizeMax - total then
          Except.error "CDR schema minimum size overflows the host size type"
        else Except.ok (total + n)) = .error e := h
    cases hcontainer : fieldMinimum field.type minimum with
    | error e' =>
      rw [hcontainer] at h
      obtain rfl : e' = e := Except.error.inj h
      exact fieldMinimum_error hcontainer
    | ok n =>
      rw [hcontainer] at h
      replace h : (if n > sizeMax - total then
          Except.error "CDR schema minimum size overflows the host size type"
        else Except.ok (total + n)) = .error e := h
      split at h
      · rw [← Except.error.inj h]
        exact overflow_notDepth
      · exact nomatch h

/-- With enough levels the minimum of a type fails only where it is too large. -/
theorem minimumSize_error :
    ∀ {levels : Nat} {type : CdrSchemaType} {e : String},
      (type.kind = .struct → Within (Nests structs) levels type.nestedIndex) →
      minimumSize structs levels type = .error e → NotDepth (.status e) := by
  intro levels
  induction levels with
  | zero =>
    intro type e hwithin h
    by_cases hstruct : type.kind = .struct
    · exact False.elim (hwithin hstruct)
    · by_cases hstring : type.kind = .string
      · rw [minimumSize_string hstring] at h
        exact nomatch h
      · rw [minimumSize_primitive hstring hstruct] at h
        exact nomatch h
  | succ levels ih =>
    intro type e hwithin h
    by_cases hstruct : type.kind = .struct
    · rw [minimumSize_struct hstruct] at h
      refine foldlM_errors (fun e => NotDepth (.status e)) ?_ h
      intro field hfield total e hadd
      refine addMinimum_error (fun e hminimum => ih ?_ hminimum) hadd
      -- a field of a struct type is nested in it, so it has a level less
      intro hkind
      refine hwithin hstruct _ (List.mem_map.mpr ⟨field, List.mem_filter.mpr ⟨hfield, ?_⟩, rfl⟩)
      exact decide_eq_true hkind
    · by_cases hstring : type.kind = .string
      · rw [minimumSize_string hstring] at h
        exact nomatch h
      · rw [minimumSize_primitive hstring hstruct] at h
        exact nomatch h

theorem sequenceCount_throws {type : CdrSchemaType}
    (hwithin : type.kind = .struct → Within (Nests structs) kMaxTraversalDepth type.nestedIndex)
    (count : UInt32) : Throws NotDepth (sequenceCount structs input type count) := by
  unfold sequenceCount
  refine Throws.get.bind ?_
  intro cursor
  cases hminimum : minimumSize structs kMaxTraversalDepth type with
  | error e => exact fail_throws (minimumSize_error hwithin hminimum)
  | ok minimum =>
    refine Throws.ite (fun _ => fail_throws (by decide)) ?_
    intro _
    exact Throws.ite (fun _ => fail_throws (by decide)) fun _ => Throws.pure _

theorem fixedArrayCount_throws {type : CdrSchemaType}
    (hwithin : type.kind = .struct → Within (Nests structs) kMaxTraversalDepth type.nestedIndex) :
    Throws NotDepth (fixedArrayCount structs type) := by
  unfold fixedArrayCount
  cases hminimum : minimumSize structs kMaxTraversalDepth type with
  | error e => exact fail_throws (minimumSize_error hwithin hminimum)
  | ok minimum => exact Throws.ite (fun _ => fail_throws (by decide)) fun _ => Throws.pure _

theorem walkValue_throws {type : CdrSchemaType}
    (hwithin : type.kind = .struct → Within (Nests structs) kMaxTraversalDepth type.nestedIndex)
    (hnested : type.kind = .struct → Throws NotDepth (walkNested type.nestedIndex))
    (requestedId : Option Nat) (hasDescendant : Bool) :
    Throws NotDepth (walkValue structs input walkNested type requestedId hasDescendant) := by
  have helement : Throws NotDepth (walkScalar input walkNested (elementType type) none) :=
    walkScalar_throws hnested none
  unfold walkValue
  refine Throws.ite (fun _ => fail_throws (by decide)) ?_
  intro _
  -- none of the messages on the way is the one about the depth
  cases type.container with
  | scalar => exact walkScalar_throws hnested requestedId
  | sequence =>
    unfold walkSequence
    refine readU32_throws.bind ?_
    intro count
    refine Throws.ite (fun _ => fail_throws (by decide)) ?_
    intro _
    refine Throws.ite (fun _ => walkBytes_throws _ requestedId (by decide)) ?_
    intro _
    refine (sequenceCount_throws hwithin count).bind fun elements => Throws.get.bind ?_
    intro cursor
    exact walkElements_throws helement (by decide) _ _
  | fixedArray =>
    unfold walkFixedArray
    refine Throws.ite (fun _ => walkBytes_throws _ requestedId (by decide)) ?_
    intro _
    have hcount : Throws NotDepth (fixedArrayCount structs (elementType type)) :=
      fixedArrayCount_throws hwithin
    refine hcount.bind fun elements => Throws.get.bind ?_
    intro cursor
    exact walkElements_throws helement (by decide) _ _

theorem walkFields_throws {walkField : Nat → CdrSchemaField → Walk Unit} :
    ∀ {fields : List CdrSchemaField} {fieldIndex : Nat},
      (∀ index, ∀ field ∈ fields, Throws NotDepth (walkField index field)) →
      Throws NotDepth (walkFields walkField fieldIndex fields) := by
  intro fields
  induction fields with
  | nil => exact fun _ => Throws.pure ()
  | cons field fields ih =>
    intro fieldIndex hfields
    exact (hfields fieldIndex field List.mem_cons_self).bind fun _ =>
      ih fun index other hother => hfields index other (List.mem_cons_of_mem field hother)

/-- A struct that fits into the levels that are left, in a schema that is not too deep. -/
theorem walkStruct_throws {plan : CdrTraversalPlan}
    (hall : ∀ structIndex, Within (Nests plan.structs) kMaxTraversalDepth structIndex) :
    ∀ {levels structIndex : Nat} {path : List Nat}, Within (Nests plan.structs) levels structIndex →
      Throws NotDepth (walkStruct plan input levels structIndex path) := by
  intro levels
  induction levels with
  | zero =>
    intro structIndex path hwithin
    exact False.elim hwithin
  | succ levels ih =>
    intro structIndex path hwithin
    refine walkFields_throws ?_
    intro index field hfield
    refine walkValue_throws (fun _ => hall _) ?_ _ _
    intro hkind
    refine ih (hwithin _ (List.mem_map.mpr ⟨field, List.mem_filter.mpr ⟨hfield, ?_⟩, rfl⟩))
    exact decide_eq_true hkind

theorem locateAll_throws {plan : CdrTraversalPlan}
    (hall : ∀ structIndex, Within (Nests plan.structs) kMaxTraversalDepth structIndex) :
    Throws NotDepth (plan.locateAll input) := by
  unfold locateAll
  refine (walkStruct_throws hall (hall 0)).bind fun _ => Throws.get.bind ?_
  intro cursor
  exact Throws.ite (fun _ => Throws.pure ()) fun _ => fail_throws (by decide)

end PlotJugglerSdk.ParserModule.CdrTraversalPlan

namespace PlotJugglerSdk.ParserModule.CdrFieldLocator

open Depth Scan CdrTraversalPlan

/-! ## Accepted schemas -/

/-- The depth of a schema is covered: no chain of nested structs is longer than a traversal
goes, and no payload is refused for its depth. -/
structure DepthCovered (structs : List CdrSchemaStruct) : Prop where
  chains : ∀ chain : List Nat, List.IsChain (Nests structs) chain →
    chain.length ≤ kMaxTraversalDepth
  payloads : ∀ paths plan payload e, locate structs paths = .ok plan →
    (CdrReader.create payload plan).ensurePlannedFields.1 = .error e → NotDepth e

theorem addPath_structs {plan plan' : CdrTraversalPlan} {path : Text}
    (h : addPath plan path = .ok plan') : plan'.structs = plan.structs := by
  unfold addPath at h
  obtain ⟨request, -, h⟩ := bind_eq_ok.mp h
  split at h
  · exact nomatch h
  · rw [← Except.ok.inj h]

theorem locate_structs {structs : List CdrSchemaStruct} {paths : List Text}
    {plan : CdrTraversalPlan}
    (h : locate structs paths = .ok plan) : plan.structs = structs := by
  unfold locate at h
  obtain ⟨compiled, hcompiled, h⟩ := bind_eq_ok.mp h
  have hstructs : compiled.structs = structs :=
    foldlM_invariant (fun plan : CdrTraversalPlan => plan.structs = structs)
      (fun _ _ _ _ hs hstep => (addPath_structs hstep).trans hs) rfl hcompiled
  split at h
  · exact nomatch h
  · rw [← Except.ok.inj h]
    exact hstructs

theorem initializeReader_error {payload : Wire.Bytes} {e : ScanError}
    (h : CdrReader.initializeReader payload = .error e) : NotDepth e := by
  unfold CdrReader.initializeReader at h
  split at h
  · dsimp only at h
    split at h
    · rw [← Except.error.inj h]
      decide
    · exact nomatch h
  · rw [← Except.error.inj h]
    decide

theorem depthCovered_iff_within {structs : List CdrSchemaStruct} :
    DepthCovered structs ↔
      ∀ structIndex, Within (Nests structs) kMaxTraversalDepth structIndex := by
  constructor
  · intro hcovered structIndex
    rw [within_iff]
    intro chain hchain
    exact hcovered.chains (structIndex :: chain) hchain
  · intro hall
    constructor
    · intro chain hchain
      cases chain with
      | nil => exact Nat.zero_le _
      | cons structIndex chain => exact within_iff.mp (hall structIndex) chain hchain
    · intro paths plan payload e hlocate herror
      have hplan : ∀ structIndex, Within (Nests plan.structs) kMaxTraversalDepth structIndex := by
        rw [locate_structs hlocate]
        exact hall
      unfold CdrReader.create at herror
      cases hheader : CdrReader.initializeReader payload with
      | error e' =>
        rw [hheader] at herror
        obtain rfl : e' = e := Except.error.inj herror
        exact initializeReader_error hheader
      | ok input =>
        rw [hheader] at herror
        have hend := @locateAll_throws input plan hplan
          { position := CdrReader.dataOrigin
            cachedFields := List.replicate plan.requested.length { kind := .unknown } }
        unfold CdrReader.ensurePlannedFields at herror
        dsimp only at herror
        rw [if_pos rfl] at herror
        cases hrun : plan.locateAll input
            { position := CdrReader.dataOrigin
              cachedFields := List.replicate plan.requested.length { kind := .unknown } } with
        | ok _ cursor =>
          rw [hrun] at herror
          exact nomatch herror
        | error e' cursor =>
          rw [hrun] at herror hend
          obtain rfl : e' = e := Except.error.inj herror
          exact hend

/-- An accepted schema has no cycles, and its depth is covered just when everything that the
search came back to fitted into the levels that were left there. -/
theorem depth_covered_iff {schema : Text} {structs : List CdrSchemaStruct}
    (h : parse schema = .ok structs) :
    (∀ structIndex, ¬ Relation.TransGen (Nests structs) structIndex structIndex) ∧
      (DepthCovered structs ↔ RevisitsFit structs) := by
  obtain ⟨-, -, -, visitState, hvisit⟩ := parse_ok h
  constructor
  · intro structIndex
    obtain ⟨n, hwithin⟩ := validateStructs_within hvisit structIndex
    exact hwithin.not_cyclic
  · rw [depthCovered_iff_within]
    exact within_iff_revisitsFit hvisit

/-- The same of a schema of one field. -/
theorem depth_covered_one :
    (∀ structIndex, ¬ Relation.TransGen (Nests [⟨[], [⟨"x".toList, {}⟩]⟩]) structIndex structIndex) ∧
      (DepthCovered [⟨[], [⟨"x".toList, {}⟩]⟩] ↔ RevisitsFit [⟨[], [⟨"x".toList, {}⟩]⟩]) :=
  @depth_covered_iff "uint8 x".toList _ (by decide +kernel)

/-- The names of a chain of structs: `Aa`, …, `Av`, `Ba`, …, `Cv`. -/
def chainNames : List Text :=
  ['A', 'B', 'C'].flatMap fun family =>
    (List.range 22).map fun letter => [family, Char.ofNat ('a'.toNat + letter)]

/-- A bundle in which every struct of the chain holds the next one. The root holds the last
third of the chain first, and then all of it. -/
def deepSchema : Text :=
  "uint8 x\nCa c\nAa a".toList ++
    (chainNames.zip (chainNames.tail ++ ["uint8".toList])).flatMap fun names =>
      "\n===\nMSG: ".toList ++ names.1 ++ '\n' :: names.2 ++ " n".toList

/-- The bundle is accepted, and a payload of it is too deep for the traversal. -/
theorem deep_schema_accepted :
    ∃ structs plan, parse deepSchema = .ok structs ∧ locate structs ["x".toList] = .ok plan ∧
      (CdrReader.create [0, 1, 0, 0, 7, 8] plan).ensurePlannedFields.1 =
        .error (.status "CDR traversal depth exceeds 64") := by
  have hrun : (parse deepSchema >>= fun structs => locate structs ["x".toList] >>= fun plan =>
      Except.ok (CdrReader.create [0, 1, 0, 0, 7, 8] plan).ensurePlannedFields.1) =
        .ok (.error (.status "CDR traversal depth exceeds 64")) := by
    decide +kernel
  obtain ⟨structs, hparse, hrun⟩ := bind_eq_ok.mp hrun
  obtain ⟨plan, hlocate, hrun⟩ := bind_eq_ok.mp hrun
  exact ⟨structs, plan, hparse, hlocate, Except.ok.inj hrun⟩

end PlotJugglerSdk.ParserModule.CdrFieldLocator
