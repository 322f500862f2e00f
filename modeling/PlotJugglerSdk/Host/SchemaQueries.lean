import PlotJugglerSdk.Host.MessageParserHandle

/-!
# Queries between the bindings and the parses

A handle is bound to a schema, asked to classify schemas, and parses. The type a parse may
emit is meant to be the one the binding was classified as.

* `Alike.step`       — handles that accept the same types answer alike
* `Undisturbed`      — the queries of a run leave no trace in it
* `undisturbed_iff`  — the runs in which they leave none
-/

namespace PlotJugglerSdk.MessageParserHandle

open Wire Calls

variable {Plugin Field : Type}

inductive Operation where
  | bindSchema (typeName : String) (schema : Bytes)
  | classifySchema (typeName : String) (schema : Bytes)
  | parseObject (timestampNs : Int64) (payload : Bytes)

inductive Answer where
  | bound (result : Except String Unit)
  | classified (objectType : UInt16)
  | parsed (result : Except String ObjectRecord)

/-- The operations that are no queries. -/
def withoutQueries (operations : List Operation) : List Operation :=
  operations.filter fun
    | .classifySchema .. => false
    | _ => true

/-- Two expectations let the same types through. -/
def SameTypes (expected expected' : Option UInt16) : Prop :=
  ∀ objectType, validateExpectedObjectType expected objectType =
    validateExpectedObjectType expected' objectType

theorem withoutQueries_append (first more : List Operation) :
    withoutQueries (first ++ more) = withoutQueries first ++ withoutQueries more :=
  List.filter_append first more

section Runs

variable [FloatOps]

/-- The handle after a parse: the plugin's functions may have changed the plugin. -/
def parsed (handle : MessageParserHandle Plugin Field) (timestampNs : Int64) (payload : Bytes) :
    MessageParserHandle Plugin Field :=
  match handle.objectExchange timestampNs payload with
  | none => handle
  | some exchange => { handle with ctx := exchange.result.2 }

def step (handle : MessageParserHandle Plugin Field) :
    Operation → Answer × MessageParserHandle Plugin Field
  | .bindSchema typeName schema =>
    let (result, handle) := handle.bindSchema typeName schema
    (.bound result, handle)
  | .classifySchema typeName schema =>
    let (objectType, handle) := handle.classifySchema typeName schema
    (.classified objectType, handle)
  | .parseObject timestampNs payload =>
    (.parsed (handle.parseObjectFunctional timestampNs payload), handle.parsed timestampNs payload)

def after (handle : MessageParserHandle Plugin Field) (operations : List Operation) :
    MessageParserHandle Plugin Field :=
  operations.foldl (fun handle operation => (handle.step operation).2) handle

/-- What the plugin reports for a schema. -/
def reported (handle : MessageParserHandle Plugin Field) (typeName : String) (schema : Bytes) :
    Option UInt16 :=
  handle.vt.classifySchema.bind fun classify => classify handle.ctx typeName schema

/-- The queries of a run leave no trace: at every point of it a parse accepts the types it
would accept had there been none, and every operation answers as it would have. -/
structure Undisturbed (handle : MessageParserHandle Plugin Field) (operations : List Operation) :
    Prop where
  types : ∀ first more, operations = first ++ more →
    SameTypes (handle.after first).expectedObjectType
      (handle.after (withoutQueries first)).expectedObjectType
  answers : ∀ first operation more, operations = first ++ operation :: more →
    ((handle.after first).step operation).1 =
      ((handle.after (withoutQueries first)).step operation).1

/-- Every query of the run that the plugin answers reports a type that lets through what the
binding before it does. -/
def QueriesAgree (handle : MessageParserHandle Plugin Field) (operations : List Operation) : Prop :=
  ∀ first typeName schema more, operations = first ++ .classifySchema typeName schema :: more →
    ∀ objectType, (handle.after first).reported typeName schema = some objectType →
      SameTypes (some objectType) (handle.after (withoutQueries first)).expectedObjectType

/-! ## Handles that accept the same types -/

/-- One plugin in one state, and expectations that let the same types through. -/
structure Alike (handle handle' : MessageParserHandle Plugin Field) : Prop where
  vt : handle.vt = handle'.vt
  ctx : handle.ctx = handle'.ctx
  types : SameTypes handle.expectedObjectType handle'.expectedObjectType

theorem acceptedObject_congr {payload : Bytes} {expected expected' : Option UInt16}
    (h : SameTypes expected expected') (call : SinkCall) :
    acceptedObject payload expected call = acceptedObject payload expected' call := by
  cases call with
  | acceptObject hasTimestamp timestampNs objectType canonicalWire =>
    simp only [acceptedObject, h objectType]
  | acceptObjectSpliced hasTimestamp timestampNs objectType canonicalWire number offset length =>
    simp only [acceptedObject, h objectType]

/-- Two states of the object callback that only differ in the expectation. -/
def SinksAlike (state state' : ObjectSinkState) : Prop :=
  state.record = state'.record ∧ state.callCount = state'.callCount ∧
    state.inputPayload = state'.inputPayload ∧
    SameTypes state.expectedObjectType state'.expectedObjectType

theorem SinksAlike.accept {state state' : ObjectSinkState} (h : SinksAlike state state')
    (call : SinkCall) :
    (state.accept call).1 = (state'.accept call).1 ∧
      SinksAlike (state.accept call).2 (state'.accept call).2 := by
  obtain ⟨record, payload, expected, callCount⟩ := state
  obtain ⟨record', payload', expected', callCount'⟩ := state'
  obtain ⟨rfl, rfl, rfl, htypes⟩ := h
  unfold ObjectSinkState.accept
  dsimp only
  rw [acceptedObject_congr htypes call]
  split
  · exact ⟨rfl, rfl, rfl, rfl, htypes⟩
  · cases acceptedObject payload expected' call with
    | error e => exact ⟨rfl, rfl, rfl, rfl, htypes⟩
    | ok object => exact ⟨rfl, rfl, rfl, rfl, htypes⟩

/-- A plugin cannot tell the two handles apart, so it does the same in both exchanges. -/
theorem Alike.exchange {handle handle' : MessageParserHandle Plugin Field}
    (h : Alike handle handle')
    (timestampNs : Int64) (payload : Bytes) :
    (handle.objectExchange timestampNs payload).map
        (fun exchange => (exchange.state.callCount, exchange.state.record, exchange.result)) =
      (handle'.objectExchange timestampNs payload).map
        fun exchange => (exchange.state.callCount, exchange.state.record, exchange.result) := by
  obtain ⟨vt, ctx, expected⟩ := handle
  obtain ⟨vt', ctx', expected'⟩ := handle'
  obtain ⟨rfl, rfl, htypes⟩ := h
  unfold objectExchange
  -- the table of functions does not depend on the expectation
  have hextensions : functionalExtensions ⟨vt, ctx, expected⟩ =
      functionalExtensions ⟨vt, ctx, expected'⟩ := rfl
  rw [hextensions]
  cases functionalExtensions ⟨vt, ctx, expected'⟩ with
  | none => rfl
  | some extension =>
    have hsinks : SinksAlike { inputPayload := payload, expectedObjectType := expected }
        { inputPayload := payload, expectedObjectType := expected' } := ⟨rfl, rfl, rfl, htypes⟩
    have hstep : ∀ state state' call, SinksAlike state state' →
        (state.accept call).1 = (state'.accept call).1 ∧
          SinksAlike (state.accept call).2 (state'.accept call).2 :=
      fun state state' call h => h.accept call
    obtain ⟨-, hresult, hrecord, hcount, -⟩ :=
      against_congr hstep (extension.parseObject ctx timestampNs payload) hsinks
    simp only [Option.map_some, hresult, hrecord, hcount]

theorem Alike.step {handle handle' : MessageParserHandle Plugin Field} (h : Alike handle handle')
    (operation : Operation) :
    (handle.step operation).1 = (handle'.step operation).1 ∧
      Alike (handle.step operation).2 (handle'.step operation).2 := by
  cases operation with
  | bindSchema typeName schema =>
    obtain ⟨vt, ctx, expected⟩ := handle
    obtain ⟨vt', ctx', expected'⟩ := handle'
    obtain ⟨rfl, rfl, -⟩ := h
    -- a binding forgets the expectation first
    exact ⟨rfl, rfl, rfl, fun _ => rfl⟩
  | classifySchema typeName schema =>
    obtain ⟨vt, ctx, expected⟩ := handle
    obtain ⟨vt', ctx', expected'⟩ := handle'
    obtain ⟨rfl, rfl, htypes⟩ := h
    unfold MessageParserHandle.step classifySchema
    dsimp only
    cases vt.classifySchema with
    | none => exact ⟨rfl, rfl, rfl, htypes⟩
    | some classify =>
      dsimp only
      cases classify ctx typeName schema with
      | none => exact ⟨rfl, rfl, rfl, htypes⟩
      | some objectType => exact ⟨rfl, rfl, rfl, fun _ => rfl⟩
  | parseObject timestampNs payload =>
    have hexchange := h.exchange timestampNs payload
    unfold MessageParserHandle.step parseObjectFunctional parsed
    dsimp only
    cases hone : handle.objectExchange timestampNs payload with
    | none =>
      cases hother : handle'.objectExchange timestampNs payload with
      | none => exact ⟨rfl, h⟩
      | some exchange' => simp [hone, hother] at hexchange
    | some exchange =>
      cases hother : handle'.objectExchange timestampNs payload with
      | none => simp [hone, hother] at hexchange
      | some exchange' =>
        rw [hone, hother, Option.map_some, Option.map_some, Option.some.injEq, Prod.mk.injEq,
          Prod.mk.injEq] at hexchange
        obtain ⟨hcount, hrecord, hresult⟩ := hexchange
        dsimp only
        rw [hresult, hcount, hrecord]
        exact ⟨rfl, ⟨h.vt, rfl, h.types⟩⟩

/-! ## Runs -/

theorem after_append (handle : MessageParserHandle Plugin Field) (first more : List Operation) :
    handle.after (first ++ more) = (handle.after first).after more :=
  List.foldl_append

/-- The expectation after a query: what was reported, if anything was. -/
theorem classifySchema_expected (handle : MessageParserHandle Plugin Field) (typeName : String)
    (schema : Bytes) :
    (handle.step (.classifySchema typeName schema)).2 =
      { handle with
        expectedObjectType := (handle.reported typeName schema).or handle.expectedObjectType } := by
  unfold MessageParserHandle.step classifySchema reported
  dsimp only
  cases handle.vt.classifySchema with
  | none => rfl
  | some classify =>
    dsimp only [Option.bind_some]
    cases classify handle.ctx typeName schema <;> rfl

/-- As long as the queries agree with the bindings, the handle is like one that was not
asked. -/
theorem QueriesAgree.alike {handle : MessageParserHandle Plugin Field} {operations : List Operation}
    (h : QueriesAgree handle operations) :
    Alike (handle.after operations) (handle.after (withoutQueries operations)) := by
  induction operations using List.reverseRecOn with
  | nil => exact ⟨rfl, rfl, fun _ => rfl⟩
  | append_singleton first operation ih =>
    have hfirst : QueriesAgree handle first := by
      intro front typeName schema more heq
      exact h front typeName schema (more ++ [operation]) (by rw [heq, List.append_assoc]; rfl)
    have halike := ih hfirst
    rw [withoutQueries_append, after_append, after_append]
    cases operation with
    | bindSchema typeName schema => exact (halike.step _).2
    | parseObject timestampNs payload => exact (halike.step _).2
    | classifySchema typeName schema =>
      show Alike ((handle.after first).step (.classifySchema typeName schema)).2
        (handle.after (withoutQueries first))
      rw [classifySchema_expected]
      refine ⟨halike.vt, halike.ctx, ?_⟩
      cases hreported : (handle.after first).reported typeName schema with
      | none => exact halike.types
      | some objectType => exact h first typeName schema [] rfl objectType hreported

theorem Undisturbed.queriesAgree {handle : MessageParserHandle Plugin Field}
    {operations : List Operation} (h : Undisturbed handle operations) :
    QueriesAgree handle operations := by
  intro first typeName schema more heq objectType hreported
  have htypes := h.types (first ++ [.classifySchema typeName schema]) more
    (by rw [heq, List.append_assoc]; rfl)
  -- the point after the query, where only the query tells the two runs apart
  have hquery : handle.after (first ++ [.classifySchema typeName schema]) =
      ((handle.after first).step (.classifySchema typeName schema)).2 := by
    rw [after_append]; rfl
  rw [hquery, classifySchema_expected, hreported, withoutQueries_append] at htypes
  have hnone : withoutQueries [.classifySchema typeName schema] = [] := rfl
  rwa [hnone, List.append_nil] at htypes

/-- For every plugin and every run of a handle: the queries leave no trace in it exactly when
each of them that is answered reports what the last binding lets through. -/
theorem undisturbed_iff (handle : MessageParserHandle Plugin Field) (operations : List Operation) :
    Undisturbed handle operations ↔ QueriesAgree handle operations := by
  refine ⟨Undisturbed.queriesAgree, fun h => ⟨?_, ?_⟩⟩
  · intro first more heq
    have hfirst : QueriesAgree handle first := by
      intro front typeName schema back hfront
      exact h front typeName schema (back ++ more) (by rw [heq, hfront, List.append_assoc]; rfl)
    exact hfirst.alike.types
  · intro first operation more heq
    have hfirst : QueriesAgree handle first := by
      intro front typeName schema back hfront
      exact h front typeName schema (back ++ operation :: more)
        (by rw [heq, hfront, List.append_assoc]; rfl)
    exact (hfirst.alike.step operation).1

end Runs

/-- A plugin that classifies its schemas as images or as point clouds. -/
def imagePlugin : MessageParserHandle Unit Unit where
  vt :=
    { bindSchema := fun plugin _ _ => (.ok (), plugin)
      getPluginExtension := none
      classifySchema :=
        some fun _ typeName _ => some (if typeName = "example/Image" then 1 else 3) }
  ctx := ()

/-- Bound to point clouds and asked about images, it is left to emit images. -/
theorem query_disturbs :
    ¬ @Undisturbed Unit Unit binary64 imagePlugin
        [.bindSchema "example/PointCloud" [], .classifySchema "example/Image" []] := by
  intro h
  have htypes := @Undisturbed.types _ _ binary64 _ _ h
    [.bindSchema "example/PointCloud" [], .classifySchema "example/Image" []] [] rfl 1
  exact absurd htypes (by decide)

end PlotJugglerSdk.MessageParserHandle
