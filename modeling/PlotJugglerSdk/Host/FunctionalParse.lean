import PlotJugglerSdk.Host.MessageParserHandle

/-!
# What a functional parse answers for

The plugin may call back any number of times, be refused and still report success. The
callback for scalars keeps a counter and nothing of its answer, the one for objects a counter
and the record; a success is decided by what is kept.

* `scalarExchange_kept`, `objectExchange_kept` — what the callbacks keep of an exchange
* `FitScalars`, `FitObjects`                   — the plugins it is enough for
* `functional_parse_exact_iff`                 — against these, and against no others, a
  success stands for one accepted record
-/

namespace PlotJugglerSdk.MessageParserHandle

open Wire Calls

variable {Plugin Field : Type}

/-! ## Scalars -/

theorem acceptScalarRecord_callCount (sink : ScalarRecordSink Field) (state : ScalarSinkState Field)
    (call : ScalarCall Field) :
    (acceptScalarRecord sink state call).2.callCount = state.callCount + 1 := by
  unfold acceptScalarRecord
  dsimp only
  split
  · rfl
  · cases call.record <;> rfl

/-- The host's sink is given the records of the calls that find the counter at zero. -/
theorem acceptScalarRecord_delivered (sink : ScalarRecordSink Field) (state : ScalarSinkState Field)
    (call : ScalarCall Field) :
    (acceptScalarRecord sink state call).2.delivered =
      if state.callCount + 1 = 1 then state.delivered ++ call.record.toList
      else state.delivered := by
  unfold acceptScalarRecord
  dsimp only
  by_cases hcount : state.callCount + 1 = 1
  · rw [if_neg (not_not_intro hcount), if_pos hcount]
    cases call.record <;> simp
  · rw [if_pos hcount, if_neg hcount]

/-- What is left of an exchange: how many calls there were, and the records that were passed
on. -/
theorem scalarExchange_kept {handle : MessageParserHandle Plugin Field} {timestampNs : Int64}
    {payload : Bytes} {sink : ScalarRecordSink Field}
    {exchange : Exchange (ScalarCall Field) (ScalarSinkState Field) (Except String Unit × Plugin)}
    (h : handle.scalarExchange timestampNs payload sink = some exchange) :
    exchange.state.callCount = UInt32.ofNat exchange.calls.length ∧
      exchange.state.delivered = (turns exchange.calls).filterMap ScalarCall.record := by
  unfold scalarExchange at h
  obtain ⟨extension, -, rfl⟩ := Option.map_eq_some_iff.mp h
  rw [against_state]
  generalize ((extension.parseScalars handle.ctx timestampNs payload).against
    (acceptScalarRecord sink) {}).calls = calls
  refine ⟨foldl_counter (acceptScalarRecord_callCount sink) rfl calls, ?_⟩
  induction calls using List.reverseRecOn with
  | nil => rfl
  | append_singleton calls call ih =>
    have hcount : (calls.foldl (fun state call => (acceptScalarRecord sink state call).2)
        {}).callCount = UInt32.ofNat calls.length :=
      foldl_counter (acceptScalarRecord_callCount sink) rfl calls
    rw [List.foldl_append, List.foldl_cons, List.foldl_nil, acceptScalarRecord_delivered,
      hcount, ih,
      turns_append_singleton]
    simp only [ofNat_add_one_eq_one_iff]
    split
    · rw [List.filterMap_append]
      cases hrecord : call.record <;> simp [hrecord]
    · rfl

/-- A parse of scalars is worth its success: the plugin returned true, it had called back
once, and the host's sink took that record; and in no case is the sink given two. -/
structure ScalarsExact (handle : MessageParserHandle Plugin Field) (timestampNs : Int64)
    (payload : Bytes) (sink : Option (ScalarRecordSink Field)) : Prop where
  one : handle.parseScalarsFunctional timestampNs payload sink = .ok () →
    ∃ sink' exchange call record, sink = some sink' ∧
      handle.scalarExchange timestampNs payload sink' = some exchange ∧
      exchange.result.1 = .ok () ∧ exchange.calls = [call] ∧
      call.record = some record ∧ sink' [] record = .ok
  once : ∀ sink' exchange, sink = some sink' →
    handle.scalarExchange timestampNs payload sink' = some exchange →
    exchange.state.delivered.length ≤ 1

/-- The plugin does not return true after its one call was refused, nor after so many calls
that the counter reads one again, and at most one of the calls that find the counter at zero
has fields to read. -/
structure FitScalars (sink : ScalarRecordSink Field)
    (exchange : Exchange (ScalarCall Field) (ScalarSinkState Field) (Except String Unit × Plugin)) :
    Prop where
  accepted : exchange.result.1 = .ok () → ∀ call, exchange.calls = [call] →
    ∃ record, call.record = some record ∧ sink [] record = .ok
  unwrapped : exchange.result.1 = .ok () → exchange.calls.length % 2 ^ 32 = 1 →
    exchange.calls.length = 1
  readable : ((turns exchange.calls).filterMap ScalarCall.record).length ≤ 1

/-- When the parse succeeds: the plugin returned true, and the counter reads one. -/
theorem parseScalarsFunctional_ok_iff {handle : MessageParserHandle Plugin Field}
    {timestampNs : Int64} {payload : Bytes} {sink : Option (ScalarRecordSink Field)} :
    handle.parseScalarsFunctional timestampNs payload sink = .ok () ↔
      ∃ sink' exchange, sink = some sink' ∧
        handle.scalarExchange timestampNs payload sink' = some exchange ∧
        exchange.result.1 = .ok () ∧ exchange.calls.length % 2 ^ 32 = 1 := by
  unfold parseScalarsFunctional
  cases sink with
  | none => split <;> simp
  | some sink =>
    cases hexchange : handle.scalarExchange timestampNs payload sink with
    | none => split <;> simp [hexchange]
    | some exchange =>
      obtain ⟨hcount, -⟩ := scalarExchange_kept hexchange
      have hsome : handle.functionalExtensions.isNone = false := by
        unfold scalarExchange at hexchange
        obtain ⟨extension, hextension, -⟩ := Option.map_eq_some_iff.mp hexchange
        rw [hextension]
        rfl
      simp only [hsome, hexchange, hcount, Bool.false_eq_true, if_false, ne_eq, ofNat_eq_one_iff]
      cases hresult : exchange.result.1 with
      | error e => simp [hexchange, hresult]
      | ok done => simp [hexchange, hresult]

theorem scalarsExact_iff {handle : MessageParserHandle Plugin Field} {timestampNs : Int64}
    {payload : Bytes} {sink : Option (ScalarRecordSink Field)} :
    ScalarsExact handle timestampNs payload sink ↔
      ∀ sink' exchange, sink = some sink' →
        handle.scalarExchange timestampNs payload sink' = some exchange →
        FitScalars sink' exchange := by
  constructor
  · intro h sink' exchange hsink hexchange
    -- a parse that succeeds with one call wrapped accepts that call
    have hone : exchange.result.1 = .ok () → exchange.calls.length % 2 ^ 32 = 1 →
        ∃ call record, exchange.calls = [call] ∧ call.record = some record ∧
          sink' [] record = .ok := by
      intro hresult hlength
      obtain ⟨sink'', exchange', call, record, hsink', hexchange', -, hcall⟩ :=
        h.one (parseScalarsFunctional_ok_iff.mpr ⟨sink', exchange, hsink, hexchange, hresult,
          hlength⟩)
      obtain rfl := Option.some.inj (hsink.symm.trans hsink')
      obtain rfl := Option.some.inj (hexchange.symm.trans hexchange')
      exact ⟨call, record, hcall⟩
    refine ⟨?_, ?_, ?_⟩
    · intro hresult call hcall
      obtain ⟨call', record, hcall', hrecord⟩ := hone hresult (by rw [hcall]; rfl)
      obtain ⟨rfl, -⟩ := List.cons.inj (hcall.symm.trans hcall')
      exact ⟨record, hrecord⟩
    · intro hresult hlength
      obtain ⟨call, -, hcall, -⟩ := hone hresult hlength
      rw [hcall]
      rfl
    · rw [← (scalarExchange_kept hexchange).2]
      exact h.once sink' exchange hsink hexchange
  · intro h
    constructor
    · intro hok
      obtain ⟨sink', exchange, hsink, hexchange, hresult, hlength⟩ :=
        parseScalarsFunctional_ok_iff.mp hok
      -- the number of calls is compared modulo 2^32, so one may stand for many
      have hfit := h sink' exchange hsink hexchange
      obtain ⟨call, hcall⟩ := List.length_eq_one_iff.mp (hfit.unwrapped hresult hlength)
      obtain ⟨record, hrecord⟩ := hfit.accepted hresult call hcall
      exact ⟨sink', exchange, call, record, hsink, hexchange, hresult, hcall, hrecord⟩
    · intro sink' exchange hsink hexchange
      rw [(scalarExchange_kept hexchange).2]
      exact (h sink' exchange hsink hexchange).readable

/-! ## Objects -/

section Objects

variable [FloatOps]

/-- The record that an accepted call leaves. -/
def recordOf (payload : Bytes) (expected : Option UInt16) (call : SinkCall) : Option ObjectRecord :=
  (acceptedObject payload expected call).toOption.map fun object => ⟨call.timestamp, object⟩

theorem recordOf_eq_some_iff {payload : Bytes} {expected : Option UInt16} {call : SinkCall}
    {record : ObjectRecord} :
    recordOf payload expected call = some record ↔
      acceptedObject payload expected call = .ok record.object ∧ record.ts = call.timestamp := by
  unfold recordOf
  obtain ⟨ts, object⟩ := record
  cases acceptedObject payload expected call with
  | error e => simp [Except.toOption]
  | ok object' =>
    simp only [Except.toOption, Option.map_some, Option.some.injEq, ObjectRecord.mk.injEq,
      Except.ok.injEq]
    exact ⟨fun h => ⟨h.2, h.1.symm⟩, fun h => ⟨h.2.symm, h.1⟩⟩

theorem accept_callCount (state : ObjectSinkState) (call : SinkCall) :
    (state.accept call).2.callCount = state.callCount + 1 := by
  unfold ObjectSinkState.accept
  dsimp only
  split
  · rfl
  · split <;> rfl

/-- A callback leaves alone what it compares with, and replaces the record when it accepts. -/
theorem accept_kept (state : ObjectSinkState) (call : SinkCall) :
    (state.accept call).2.inputPayload = state.inputPayload ∧
      (state.accept call).2.expectedObjectType = state.expectedObjectType ∧
      (state.accept call).2.record =
        if state.callCount + 1 = 1 then
          (recordOf state.inputPayload state.expectedObjectType call).or state.record
        else state.record := by
  unfold ObjectSinkState.accept recordOf
  dsimp only
  by_cases hcount : state.callCount + 1 = 1
  · rw [if_neg (not_not_intro hcount), if_pos hcount]
    cases acceptedObject state.inputPayload state.expectedObjectType call <;>
      exact ⟨rfl, rfl, rfl⟩
  · rw [if_pos hcount, if_neg hcount]
    exact ⟨rfl, rfl, rfl⟩

/-- What is left of an exchange: how many calls there were, and the record of the last one
that was accepted. -/
theorem objectExchange_kept {handle : MessageParserHandle Plugin Field} {timestampNs : Int64}
    {payload : Bytes}
    {exchange : Exchange SinkCall ObjectSinkState (Except String Unit × Plugin)}
    (h : handle.objectExchange timestampNs payload = some exchange) :
    exchange.state.callCount = UInt32.ofNat exchange.calls.length ∧
      exchange.state.record =
        ((turns exchange.calls).filterMap (recordOf payload handle.expectedObjectType)).getLast? := by
  unfold objectExchange at h
  obtain ⟨extension, -, rfl⟩ := Option.map_eq_some_iff.mp h
  rw [against_state]
  generalize ((extension.parseObject handle.ctx timestampNs payload).against ObjectSinkState.accept
    { inputPayload := payload, expectedObjectType := handle.expectedObjectType }).calls = calls
  refine ⟨foldl_counter accept_callCount rfl calls, ?_⟩
  -- the payload and the expected type stay, so every call is compared with the same ones
  suffices hall : ∀ state, state = calls.foldl (fun state call => (state.accept call).2)
      ({ inputPayload := payload, expectedObjectType := handle.expectedObjectType } :
        ObjectSinkState) →
      state.inputPayload = payload ∧ state.expectedObjectType = handle.expectedObjectType ∧
        state.record =
          ((turns calls).filterMap (recordOf payload handle.expectedObjectType)).getLast? from
    (hall _ rfl).2.2
  induction calls using List.reverseRecOn with
  | nil => rintro _ rfl; exact ⟨rfl, rfl, rfl⟩
  | append_singleton calls call ih =>
    rintro _ rfl
    have hcount : (calls.foldl (fun state call => (state.accept call).2)
        ({ inputPayload := payload, expectedObjectType := handle.expectedObjectType } :
          ObjectSinkState)).callCount = UInt32.ofNat calls.length :=
      foldl_counter accept_callCount rfl calls
    rw [List.foldl_append, List.foldl_cons, List.foldl_nil, turns_append_singleton]
    obtain ⟨hpayload, hexpected, hrecord⟩ := ih _ rfl
    obtain ⟨hpayload', hexpected', hrecord'⟩ := accept_kept (calls.foldl
      (fun state call => (state.accept call).2)
      { inputPayload := payload, expectedObjectType := handle.expectedObjectType }) call
    refine ⟨hpayload'.trans hpayload, hexpected'.trans hexpected, ?_⟩
    rw [hrecord', hcount, hpayload, hexpected, hrecord]
    simp only [ofNat_add_one_eq_one_iff]
    split
    · rw [List.filterMap_append]
      cases hlast : recordOf payload handle.expectedObjectType call <;> simp [hlast]
    · rfl

/-- A parse of an object is worth its success: the plugin returned true, it had called back
once, and the object is the one decoded from that call. -/
def ObjectsExact (handle : MessageParserHandle Plugin Field) (timestampNs : Int64)
    (payload : Bytes) : Prop :=
  ∀ record, handle.parseObjectFunctional timestampNs payload = .ok record →
    ∃ exchange call, handle.objectExchange timestampNs payload = some exchange ∧
      exchange.result.1 = .ok () ∧ exchange.calls = [call] ∧
      acceptedObject payload handle.expectedObjectType call = .ok record.object ∧
      record.ts = call.timestamp

/-- The plugin does not return true after so many calls that the counter reads one again, one
of those that find it at zero accepted. -/
def FitObjects (payload : Bytes) (expected : Option UInt16)
    (exchange : Exchange SinkCall ObjectSinkState (Except String Unit × Plugin)) : Prop :=
  exchange.result.1 = .ok () → exchange.calls.length % 2 ^ 32 = 1 →
    (∃ call ∈ turns exchange.calls, ∃ object, acceptedObject payload expected call = .ok object) →
    exchange.calls.length = 1

theorem parseObjectFunctional_ok_iff {handle : MessageParserHandle Plugin Field}
    {timestampNs : Int64} {payload : Bytes} {record : ObjectRecord} :
    handle.parseObjectFunctional timestampNs payload = .ok record ↔
      ∃ exchange, handle.objectExchange timestampNs payload = some exchange ∧
        exchange.result.1 = .ok () ∧ exchange.calls.length % 2 ^ 32 = 1 ∧
        exchange.state.record = some record := by
  unfold parseObjectFunctional
  cases hexchange : handle.objectExchange timestampNs payload with
  | none => simp
  | some exchange =>
    obtain ⟨hcount, -⟩ := objectExchange_kept hexchange
    simp only [hcount, ne_eq, ofNat_eq_one_iff, Option.some.injEq, exists_eq_left']
    cases exchange.result.1 with
    | error e => simp
    | ok done =>
      by_cases hlength : exchange.calls.length % 2 ^ 32 = 1
      · rw [if_neg (not_not_intro hlength)]
        cases exchange.state.record with
        | none => simp
        | some record' => simpa using fun _ => hlength
      · rw [if_pos hlength]
        simpa using fun h => absurd h hlength

theorem objectsExact_iff {handle : MessageParserHandle Plugin Field} {timestampNs : Int64}
    {payload : Bytes} :
    ObjectsExact handle timestampNs payload ↔
      ∀ exchange, handle.objectExchange timestampNs payload = some exchange →
        FitObjects payload handle.expectedObjectType exchange := by
  constructor
  · rintro h exchange hexchange hresult hlength ⟨call, hturn, object, hobject⟩
    -- a record is left, since a call that counts as the first one was accepted
    obtain ⟨record, hrecord⟩ : ∃ record, exchange.state.record = some record := by
      rw [(objectExchange_kept hexchange).2, ← Option.isSome_iff_exists, List.getLast?_isSome]
      have hmem : ⟨call.timestamp, object⟩ ∈
          (turns exchange.calls).filterMap (recordOf payload handle.expectedObjectType) :=
        List.mem_filterMap.mpr ⟨call, hturn, recordOf_eq_some_iff.mpr ⟨hobject, rfl⟩⟩
      exact List.ne_nil_of_mem hmem
    obtain ⟨exchange', call', hexchange', -, hcall, -⟩ :=
      h record (parseObjectFunctional_ok_iff.mpr ⟨exchange, hexchange, hresult, hlength, hrecord⟩)
    obtain rfl := Option.some.inj (hexchange.symm.trans hexchange')
    rw [hcall]
    rfl
  · intro h record hok
    obtain ⟨exchange, hexchange, hresult, hlength, hrecord⟩ := parseObjectFunctional_ok_iff.mp hok
    rw [(objectExchange_kept hexchange).2] at hrecord
    have hmem := List.mem_of_getLast? hrecord
    obtain ⟨call, hturn, hcall⟩ := List.mem_filterMap.mp hmem
    obtain ⟨hobject, -⟩ := recordOf_eq_some_iff.mp hcall
    obtain ⟨call', hcall'⟩ := List.length_eq_one_iff.mp
      (h exchange hexchange hresult hlength ⟨call, hturn, record.object, hobject⟩)
    rw [hcall', turns_singleton, List.mem_singleton] at hturn
    subst hturn
    exact ⟨exchange, call, hexchange, hresult, hcall', recordOf_eq_some_iff.mp hcall⟩

/-! ## Both routes -/

/-- Whatever the plugin does, with whichever revision of its functions: a success stands for
one accepted record exactly when the plugin is one that what the callbacks keep is enough
for. -/
theorem functional_parse_exact_iff (handle : MessageParserHandle Plugin Field)
    (timestampNs : Int64) (payload : Bytes) :
    (∀ sink, ScalarsExact handle timestampNs payload sink ↔
      ∀ sink' exchange, sink = some sink' →
        handle.scalarExchange timestampNs payload sink' = some exchange →
        FitScalars sink' exchange) ∧
    (ObjectsExact handle timestampNs payload ↔
      ∀ exchange, handle.objectExchange timestampNs payload = some exchange →
        FitObjects payload handle.expectedObjectType exchange) :=
  ⟨fun _ => scalarsExact_iff, objectsExact_iff⟩

end Objects

/-- A plugin of the first revision that claims a field at a null pointer, and reports success
when it is refused. -/
def refusedPlugin : MessageParserHandle Unit Unit where
  vt :=
    { bindSchema := fun plugin _ _ => (.ok (), plugin)
      getPluginExtension := some
        { functionalV2 := fun _ => none
          functionalV1 := fun _ => some
            { structSize := 24
              parseScalars := some fun plugin _ _ =>
                .call ⟨false, 0, .null 1⟩ fun _ => .finish (.ok (), plugin)
              parseObject := some fun plugin _ _ => .finish (.ok (), plugin) } }
      classifySchema := none }
  ctx := ()

/-- Its parse succeeds, and no record was accepted. -/
theorem refused_record_reported :
    ¬ ScalarsExact refusedPlugin 0 [] (some fun _ _ => .ok) := by
  intro h
  obtain ⟨sink, exchange, call, record, -, hexchange, -, hcall, hrecord, -⟩ := h.one rfl
  obtain rfl := Option.some.inj hexchange
  obtain ⟨rfl, -⟩ := List.cons.inj hcall
  exact absurd hrecord (by simp [ScalarCall.record, FieldsView.read])

end PlotJugglerSdk.MessageParserHandle
