import PlotJugglerSdk.ParserModule.CdrTraversal
import PlotJugglerSdk.Scan.Folds

/-!
# The paths of a plan

A path is compiled to steps, field by field from the root of the table; names and steps lead
to the same field (`Reaches`). The requests of a plan are for different paths, so they are for
different fields.

* `compileSteps_reaches`          — a path and its steps
* `locate_planOf`                 — the requests of a plan, in the order of its paths
* `PlanOf.compiled`               — no two of them have the same steps
-/

namespace PlotJugglerSdk.ParserModule.CdrFieldLocator

open Scan

variable {structs : List CdrSchemaStruct} {requested : List CdrRequestedField}

/-! ## Names and steps -/

/-- From a struct, names and steps lead to the same field, of a kind that can be noted. -/
inductive Reaches (structs : List CdrSchemaStruct) :
    (structIndex : Nat) → List Text → List Nat → CachedKind → Prop where
  | field {structIndex step : Nat} {field : CdrSchemaField}
      (hfield : (structAt structs structIndex).fields[step]? = some field)
      (hfirst : (structAt structs structIndex).fields.findIdx?
        (fun other => other.name = field.name) =
        some step)
      (hkind : cachedKind field.type ≠ .unknown) :
      Reaches structs structIndex [field.name] [step] (cachedKind field.type)
  | nested {structIndex step : Nat} {field : CdrSchemaField} {names : List Text} {steps : List Nat}
      {kind : CachedKind} (hfield : (structAt structs structIndex).fields[step]? = some field)
      (hfirst : (structAt structs structIndex).fields.findIdx?
        (fun other => other.name = field.name) =
        some step)
      (hstruct : field.type.kind = .struct) (hscalar : field.type.container = .scalar)
      (hrest : Reaches structs field.type.nestedIndex names steps kind) :
      Reaches structs structIndex (field.name :: names) (step :: steps) kind

theorem Reaches.length_eq {structIndex : Nat} {names : List Text} {steps : List Nat}
    {kind : CachedKind} (h : Reaches structs structIndex names steps kind) :
    names.length = steps.length := by
  induction h with
  | field _ _ _ => rfl
  | nested _ _ _ _ _ ih =>
    rw [List.length_cons, List.length_cons, ih]

theorem Reaches.ne_nil {structIndex : Nat} {names : List Text} {steps : List Nat}
    {kind : CachedKind} (h : Reaches structs structIndex names steps kind) : steps ≠ [] := by
  cases h with
  | field _ _ _ => exact List.cons_ne_nil _ _
  | nested _ _ _ _ _ => exact List.cons_ne_nil _ _

/-- The names are those of the steps. -/
theorem Reaches.names_eq {structIndex : Nat} {names names' : List Text} {steps : List Nat}
    {kind kind' : CachedKind} (h : Reaches structs structIndex names steps kind)
    (h' : Reaches structs structIndex names' steps kind') : names = names' := by
  induction h generalizing names' with
  | field hfield _ _ =>
    cases h' with
    | field hfield' _ _ =>
      obtain rfl := Option.some.inj (hfield.symm.trans hfield')
      rfl
    | nested _ _ _ _ hrest => exact absurd rfl hrest.ne_nil
  | nested hfield _ _ _ hrest ih =>
    cases h' with
    | field _ _ _ => exact absurd rfl hrest.ne_nil
    | nested hfield' _ _ _ hrest' =>
      obtain rfl := Option.some.inj (hfield.symm.trans hfield')
      rw [ih hrest']

/-- The names of a request's path. -/
def names (request : CdrRequestedField) : List Text := request.path.splitOn '.'

/-- The requests of a plan lead somewhere, and no two of them to the same field. -/
structure Compiled (structs : List CdrSchemaStruct) (requested : List CdrRequestedField) :
    Prop where
  reaches : ∀ request ∈ requested,
    Reaches structs 0 (names request) request.steps request.cachedKind
  distinct : ∀ (id id' : Nat) request request', requested[id]? = some request →
    requested[id']? = some request' → request.steps = request'.steps → id = id'

theorem Compiled.length_eq (h : Compiled structs requested) {request : CdrRequestedField}
    (hrequest : request ∈ requested) : (names request).length = request.steps.length :=
  (h.reaches request hrequest).length_eq

/-! ## Compiled paths -/

/-- The steps that a path is compiled to are those of its names. -/
theorem compileSteps_reaches {structs : List CdrSchemaStruct} :
    ∀ {components : List Text} {structIndex : Nat} {steps steps' : List Nat} {kind : CachedKind},
      compileSteps structs components structIndex steps = .ok (steps', kind) →
      ∃ more, steps' = steps ++ more ∧ Reaches structs structIndex components more kind := by
  intro components
  induction components with
  | nil =>
    intro structIndex steps steps' kind h
    exact nomatch h
  | cons component more ih =>
    intro structIndex steps steps' kind h
    unfold compileSteps at h
    split at h
    · exact nomatch h
    dsimp only at h
    cases hindex : (structAt structs structIndex).fields.findIdx? fun field => field.name =
      component with
    | none =>
      rw [hindex] at h
      exact nomatch h
    | some fieldIndex =>
      rw [hindex] at h
      dsimp only at h
      obtain ⟨hlt, hname, -⟩ := List.findIdx?_eq_some_iff_getElem.mp hindex
      -- the first field of that name is the one that is compiled
      generalize hfield : (structAt structs structIndex).fields[fieldIndex] = field at hname
      have hget : (structAt structs structIndex).fields[fieldIndex]? = some field := by
        rw [← hfield]
        exact List.getElem?_eq_getElem hlt
      have hgetD : (structAt structs structIndex).fields.getD fieldIndex ⟨[], {}⟩ = field := by
        rw [List.getD_eq_getElem?_getD, hget]
        rfl
      rw [hgetD] at h
      obtain rfl : field.name = component := of_decide_eq_true hname
      split at h
      · next hlast =>
        split at h
        · exact nomatch h
        · next hkind =>
          obtain ⟨rfl, rfl⟩ := Prod.mk.inj (Except.ok.inj h)
          rw [hlast]
          exact ⟨[fieldIndex], rfl, .field hget hindex hkind⟩
      · split at h
        · exact nomatch h
        · next hdescends =>
          split at h
          · exact nomatch h
          · obtain ⟨rest, rfl, hrest⟩ := ih h
            -- the guard lets a plain struct through and nothing else
            have hstruct : field.type.kind = .struct := by
              by_contra hne
              exact hdescends (Or.inl hne)
            have hscalar : field.type.container = .scalar := by
              by_contra hne
              exact hdescends (Or.inr hne)
            refine ⟨fieldIndex :: rest, ?_, .nested hget hindex hstruct hscalar hrest⟩
            rw [List.append_assoc]
            rfl

theorem compilePath_reaches {structs : List CdrSchemaStruct} {path : Text}
    {request : CdrRequestedField} (h : compilePath structs path = .ok request) :
    request.path = path ∧
      Reaches structs 0 (names request) request.steps request.cachedKind := by
  unfold compilePath at h
  split at h
  · exact nomatch h
  · obtain ⟨compiled, hcompiled, h⟩ := bind_eq_ok.mp h
    obtain rfl := Except.ok.inj h
    obtain ⟨more, hsteps, hreaches⟩ := compileSteps_reaches hcompiled
    refine ⟨rfl, ?_⟩
    show Reaches structs 0 (path.splitOn '.') compiled.1 compiled.2
    rw [hsteps]
    exact hreaches

/-- What every plan is on its way to being complete. -/
structure PlanOf (structs : List CdrSchemaStruct) (paths : List Text) (plan : CdrTraversalPlan) :
    Prop where
  table : plan.structs = structs
  inOrder : plan.requested.map (·.path) = paths
  distinct : paths.Nodup
  reaches : ∀ request ∈ plan.requested,
    Reaches structs 0 (names request) request.steps request.cachedKind

theorem addPath_planOf {structs : List CdrSchemaStruct} {paths : List Text} {path : Text}
    {plan plan' : CdrTraversalPlan} (hplan : PlanOf structs paths plan)
    (h : addPath plan path = .ok plan') : PlanOf structs (paths ++ [path]) plan' := by
  unfold addPath at h
  obtain ⟨request, hrequest, h⟩ := bind_eq_ok.mp h
  obtain ⟨hpath, hreaches⟩ := compilePath_reaches hrequest
  split at h
  · exact nomatch h
  · next hfresh =>
    obtain rfl := Except.ok.inj h
    refine ⟨hplan.table, ?_, ?_, ?_⟩
    · rw [List.map_append, hplan.inOrder, List.map_singleton, hpath]
    · rw [List.nodup_append]
      refine ⟨hplan.distinct, List.nodup_cons.mpr ⟨List.not_mem_nil, List.nodup_nil⟩, ?_⟩
      intro other hother last hlast hsame
      obtain rfl := List.mem_singleton.mp hlast
      rw [← hplan.inOrder] at hother
      obtain ⟨existing, hmem, rfl⟩ := List.mem_map.mp hother
      refine hfresh (List.any_eq_true.mpr ⟨existing, hmem, decide_eq_true ?_⟩)
      rw [hpath]
      exact hsame
    · intro other hother
      obtain hother | hother := List.mem_append.mp hother
      · exact hplan.reaches other hother
      · obtain rfl := List.mem_singleton.mp hother
        rw [← hplan.table]
        exact hreaches

theorem addPaths_planOf {structs : List CdrSchemaStruct} {done paths : List Text}
    {plan plan' : CdrTraversalPlan} (hplan : PlanOf structs done plan)
    (h : paths.foldlM addPath plan = .ok plan') : PlanOf structs (done ++ paths) plan' := by
  induction paths generalizing done plan with
  | nil =>
    obtain rfl := Except.ok.inj h
    rw [List.append_nil]
    exact hplan
  | cons path paths ih =>
    rw [List.foldlM_cons] at h
    obtain ⟨next, hnext, h⟩ := bind_eq_ok.mp h
    have hrest := ih (addPath_planOf hplan hnext) h
    rw [List.append_assoc] at hrest
    exact hrest

theorem locate_planOf {structs : List CdrSchemaStruct} {paths : List Text} {plan : CdrTraversalPlan}
    (h : locate structs paths = .ok plan) : PlanOf structs paths plan := by
  unfold locate at h
  obtain ⟨compiled, hcompiled, h⟩ := bind_eq_ok.mp h
  split at h
  · exact nomatch h
  · obtain rfl := Except.ok.inj h
    have hnone : PlanOf structs [] { structs, requested := [] } :=
      ⟨rfl, rfl, List.nodup_nil, fun request hrequest => nomatch hrequest⟩
    exact addPaths_planOf hnone hcompiled

/-- Paths are told apart by their names, and these by their steps. -/
theorem PlanOf.compiled {structs : List CdrSchemaStruct} {paths : List Text}
    {plan : CdrTraversalPlan} (h : PlanOf structs paths plan) :
    Compiled plan.structs plan.requested := by
  refine ⟨?_, ?_⟩
  · rw [h.table]
    exact h.reaches
  · intro id id' request request' hrequest hrequest' hsteps
    have hreaches := h.reaches request (List.mem_of_getElem? hrequest)
    have hreaches' := h.reaches request' (List.mem_of_getElem? hrequest')
    rw [← hsteps] at hreaches'
    have hnames : request.path.splitOn '.' = request'.path.splitOn '.' :=
      hreaches.names_eq hreaches'
    have hjoin : ∀ path : Text, ['.'].intercalate (path.splitOn '.') = path :=
      fun path => List.intercalate_splitOn '.'
    have hpath : request.path = request'.path := by
      rw [← hjoin request.path, hnames, hjoin]
    have hget : ∀ {id : Nat} {request : CdrRequestedField}, plan.requested[id]? = some request →
        paths[id]? = some request.path := by
      intro id request hrequest
      rw [← h.inOrder, List.getElem?_map, hrequest]
      rfl
    have hid := hget hrequest
    have hid' := hget hrequest'
    rw [← hpath] at hid'
    exact (List.getElem?_inj (List.getElem?_eq_some_iff.mp hid).1 h.distinct).mp
      (hid.trans hid'.symm)

end PlotJugglerSdk.ParserModule.CdrFieldLocator
