import PlotJugglerSdk.Host.FunctionalParse
import PlotJugglerSdk.Host.SchemaQueries
import PlotJugglerSdk.Plugin.MessageParser

/-!
# The functional route, end to end

A host's handle on a plugin of the SDK: what leaves a handler on one side arrives in the
host's sink, or as the host's object, on the other, and nothing else does.

* `HostCall`, `hosted`    — the runs of a host, and what they leave
* `scalars_delivered_iff` — the rows that arrive
* `objects_delivered_iff` — the objects that arrive
-/

namespace PlotJugglerSdk

/-- The value, where there is one. -/
def Outcome.toOption {α : Type} : Outcome α → Option α
  | .ok value => some value
  | _ => none

theorem Outcome.toOption_eq_some_iff {α : Type} {outcome : Outcome α} {value : α} :
    outcome.toOption = some value ↔ outcome = .ok value := by
  cases outcome <;> simp [Outcome.toOption]

end PlotJugglerSdk

namespace PlotJugglerSdk.MessageParserInstance

open Wire Calls MessageParserHandle FloatOps

variable {Own Field : Type}

/-! ## The handlers -/

/-- The row a schema's handler makes of a payload, where it has the route and succeeds. -/
def rowOf (self : MessageParserInstance Own Field) (typeName : String) (own : Own)
    (timestampNs : Int64) (payload : Bytes) : Option (ScalarRecord Field) := do
  let handler ← self.findSchemaHandler typeName
  let parse ← handler.parseScalars
  (parse own timestampNs payload).1.toOption

/-- The object it makes of it. -/
def objectOf (self : MessageParserInstance Own Field) (typeName : String) (own : Own)
    (timestampNs : Int64) (payload : Bytes) : Option ObjectRecord := do
  let handler ← self.findSchemaHandler typeName
  let parse ← handler.parseObject
  (parse own timestampNs payload).1.toOption

theorem parseScalars_ok_iff {self : MessageParserInstance Own Field} {timestampNs : Int64}
    {payload : Bytes} {record : ScalarRecord Field} :
    (self.parseScalars timestampNs payload).1 = .ok record ↔
      self.rowOf self.boundTypeName self.own timestampNs payload = some record := by
  unfold parseScalars rowOf
  cases self.findSchemaHandler self.boundTypeName with
  | none => simp
  | some handler =>
    cases hparse : handler.parseScalars <;> simp [hparse, Outcome.toOption_eq_some_iff]

/-- A parse changes nothing but what the plugin keeps for itself. -/
theorem parseScalars_keeps (self : MessageParserInstance Own Field) (timestampNs : Int64)
    (payload : Bytes) :
    (self.parseScalars timestampNs payload).2 =
      { self with own := (self.parseScalars timestampNs payload).2.own } := by
  unfold parseScalars
  split
  · rfl
  · split <;> rfl

theorem parseObject_keeps (self : MessageParserInstance Own Field) (timestampNs : Int64)
    (payload : Bytes) :
    (self.parseObject timestampNs payload).2 =
      { self with own := (self.parseObject timestampNs payload).2.own } := by
  unfold parseObject
  split
  · rfl
  · split <;> rfl

/-- A schema with a handler has its route advertised, whether a schema is bound or not. -/
theorem functionalRouteAvailable_of_find {self : MessageParserInstance Own Field}
    {handler : SchemaHandler Own Field}
    (h : self.findSchemaHandler self.boundTypeName = some handler) :
    self.functionalRouteAvailable = true := by
  unfold functionalRouteAvailable
  split
  · -- the handler is one of those that are counted
    cases hentries : self.handlers.entries with
    | nil =>
      have hempty : self.handlers = ∅ := AList.ext hentries
      rw [findSchemaHandler, hempty] at h
      exact absurd h (by simp)
    | cons entry entries => simp
  · rw [h, Option.isSome_some]

/-- Where the route is not there, the bound schema has no handler either. -/
theorem findSchemaHandler_of_not_available {self : MessageParserInstance Own Field}
    (h : self.functionalRouteAvailable = false) :
    self.findSchemaHandler self.boundTypeName = none := by
  rw [← Option.not_isSome_iff_eq_none, Option.isSome_iff_exists]
  rintro ⟨handler, hhandler⟩
  rw [functionalRouteAvailable_of_find hhandler] at h
  exact absurd h (by simp)

/-! ## What crosses the boundary -/

/-- The record as the callback gets it. -/
def scalarCall (record : ScalarRecord Field) : ScalarCall Field where
  hasTimestamp := record.timestamp.isSome
  timestampNs := record.timestamp.getD 0
  fields := .fields record.fields

/-- A timestamp that is not there is not taken for the zero that stands in its place. -/
theorem scalarCall_record (record : ScalarRecord Field) :
    (scalarCall record).record = some record := by
  obtain ⟨timestamp, fields⟩ := record
  cases timestamp <;> rfl

/-- From a host's arguments only the handler decides. -/
theorem readScalars_of_host (self : MessageParserInstance Own Field) (timestampNs : Int64)
    (payload : Bytes) :
    (∃ record, (self.parseScalars timestampNs payload).1 = .ok record ∧
        self.readScalars timestampNs (.bytes payload) (hostSink sinkV1MinSize 1) =
          (.ok (scalarCall record), (self.parseScalars timestampNs payload).2)) ∨
      (∀ record, (self.parseScalars timestampNs payload).1 ≠ .ok record) ∧
        ∃ failure, self.readScalars timestampNs (.bytes payload) (hostSink sinkV1MinSize 1) =
          (.error failure, (self.parseScalars timestampNs payload).2) := by
  have husable : SinkTable.usable sinkV1MinSize (hostSink sinkV1MinSize 1) = true := rfl
  simp only [readScalars, husable, Bool.not_true, Bool.false_eq_true, if_false, BytesView.read]
  obtain ⟨outcome, after⟩ := self.parseScalars timestampNs payload
  cases outcome with
  | ok record => exact .inl ⟨record, rfl, rfl⟩
  | error message => exact .inr ⟨by simp, _, rfl⟩
  | exception what => cases what <;> exact .inr ⟨by simp, _, rfl⟩

/-- An object as the callback gets it: its type and its canonical wire. -/
def objectCall [FloatOps] (record : ObjectRecord) (wire : Bytes) : ObjectCall where
  hasTimestamp := record.ts.isSome
  timestampNs := record.ts.getD 0
  objectType := (typeOf record.object).code
  canonicalWire := .bytes wire

/-- As for scalars, with the serialization between the handler and the callback. -/
theorem readObject_of_host [FloatOps] (self : MessageParserInstance Own Field)
    (timestampNs : Int64) (payload : Bytes) (badSink : String) :
    (∃ record wire, (self.parseObject timestampNs payload).1 = .ok record ∧
        serializeBuiltinObject record.object = .ok wire ∧
        readObject PJ_PARSER_OBJECT_SINK_V2_MIN_SIZE badSink self timestampNs (.bytes payload)
            .empty (hostSink PJ_PARSER_OBJECT_SINK_V2_MIN_SIZE 2) =
          (.ok (objectCall record wire), (self.parseObject timestampNs payload).2)) ∨
      (∀ record wire, (self.parseObject timestampNs payload).1 = .ok record →
          serializeBuiltinObject record.object ≠ .ok wire) ∧
        ∃ failure, readObject PJ_PARSER_OBJECT_SINK_V2_MIN_SIZE badSink self timestampNs
            (.bytes payload) .empty (hostSink PJ_PARSER_OBJECT_SINK_V2_MIN_SIZE 2) =
          (.error failure, (self.parseObject timestampNs payload).2) := by
  have husable : SinkTable.usable PJ_PARSER_OBJECT_SINK_V2_MIN_SIZE
      (hostSink PJ_PARSER_OBJECT_SINK_V2_MIN_SIZE 2) = true := rfl
  simp only [readObject, husable, Bool.not_true, Bool.false_eq_true, if_false, BytesView.read,
    reduceCtorEq]
  obtain ⟨outcome, after⟩ := self.parseObject timestampNs payload
  cases outcome with
  | ok record =>
    cases hwire : serializeBuiltinObject record.object with
    | ok wire => exact .inl ⟨record, wire, rfl, hwire, by simp [hwire, objectCall]⟩
    | error message =>
      -- an object of no type has no wire
      refine .inr ⟨?_, contractViolation 1 message, by simp [hwire]⟩
      rintro _ wire ⟨⟩
      simp [hwire]
  | error message => exact .inr ⟨by simp, _, rfl⟩
  | exception what => cases what <;> exact .inr ⟨by simp, _, rfl⟩

/-- What a host reads of a failure on the plugin's side. -/
def failureText (failure : Failure) : String := errorToString (functionalV2.store failure)

/-- What a refused plugin tells its host. -/
def refusalText (e : SinkError) : String :=
  errorToString (functionalV2.rejected (sinkBlock e))

/-- Both callbacks for objects are served by one trampoline. -/
theorem carryOut_mapCall {Call Call' : Type} (f : Call → Call')
    (read : Except Failure Call × MessageParserInstance Own Field) :
    (carryOut functionalV2 read).mapCall f = carryOut functionalV2 (read.1.map f, read.2) := by
  obtain ⟨verdict, self⟩ := read
  cases verdict with
  | error failure => rfl
  | ok call =>
    simp only [carryOut, Client.mapCall, Except.map, Client.call.injEq, true_and]
    funext answer
    cases answer <;> rfl

theorem asHostCalls_failure {State Call : Type}
    (accept : State → Call → Except SinkError Unit × State) (failure : Failure)
    (self : MessageParserInstance Own Field) (state : State) :
    (asHostCalls (carryOut functionalV2 (.error failure, self))).against accept state =
      { calls := [], state, result := (.error (failureText failure), self) } := rfl

theorem asHostCalls_call {State Call : Type}
    (accept : State → Call → Except SinkError Unit × State) (call : Call)
    (self : MessageParserInstance Own Field) (state : State) :
    (asHostCalls (carryOut functionalV2 (.ok call, self))).against accept state =
      { calls := [call]
        state := (accept state call).2
        result := ((accept state call).1.mapError refusalText, self) } := by
  rw [asHostCalls, against_mapResult, carryOut]
  cases h : (accept state call).1 with
  | ok u => simp [Client.against, h, Except.mapError]
  | error e => simp [Client.against, h, Except.mapError, refusalText]

/-! ## The calls of a host -/

/-- What a host does with a parser. -/
inductive HostCall (Field : Type) where
  | operation (operation : Operation)
  | parseScalars (timestampNs : Int64) (payload : Bytes) (sink : ScalarRecordSink Field)

def HostCall.bound : HostCall Field → Option String
  | .operation (.bindSchema typeName _) => some typeName
  | _ => none

def HostCall.asked : HostCall Field → Option String
  | .operation (.bindSchema typeName _) => some typeName
  | .operation (.classifySchema typeName _) => some typeName
  | _ => none

/-- What the last of some calls named, if one of them named anything. -/
def lastNamed (name : HostCall Field → Option String) (calls : List (HostCall Field)) :
    Option String :=
  (calls.filterMap name).getLast?

theorem lastNamed_append_singleton (name : HostCall Field → Option String)
    (calls : List (HostCall Field)) (call : HostCall Field) :
    lastNamed name (calls ++ [call]) = (name call).or (lastNamed name calls) := by
  unfold lastNamed
  rw [List.filterMap_append]
  cases h : name call with
  | none => simp [h]
  | some typeName => simp [h]

/-! ## One parse -/

section Parse

variable [FloatOps] {cls : PluginClass Own Field} {self : MessageParserInstance Own Field}
  {expected : Option UInt16} {timestampNs : Int64} {payload : Bytes}

/-- A host's handle on an instance of a class. -/
def hostHandle (cls : PluginClass Own Field) (self : MessageParserInstance Own Field)
    (expected : Option UInt16) : MessageParserHandle (MessageParserInstance Own Field) Field where
  vt := vtableWithCreate cls
  ctx := self
  expectedObjectType := expected

/-- The functions a host calls where the route is there: those of the second revision. -/
def functionalExtension :
    FunctionalExtension (MessageParserInstance Own Field) Field SinkCall where
  parseScalars self timestampNs payload :=
    asHostCalls (self.trampolineParseScalarsFunctionalV2 timestampNs (.bytes payload)
      (hostSink sinkV1MinSize 1))
  parseObject self timestampNs payload :=
    asHostCalls (self.trampolineParseObjectFunctionalV2 timestampNs (.bytes payload) .empty
      (hostSink PJ_PARSER_OBJECT_SINK_V2_MIN_SIZE 2))

theorem functionalExtensions_of_available (h : self.functionalRouteAvailable = true) :
    (hostHandle cls self expected).functionalExtensions = some functionalExtension := by
  simp only [functionalExtensions, hostHandle, vtableWithCreate, trampolineGetPluginExtension,
    h, if_true, Option.bind_some]
  rfl

/-- The one callback of a parse whose handler returned a record. -/
theorem scalarExchange_of_ok (cls : PluginClass Own Field) (expected : Option UInt16)
    (sink : ScalarRecordSink Field) {record : ScalarRecord Field}
    (hroute : self.functionalRouteAvailable = true)
    (h : (self.parseScalars timestampNs payload).1 = .ok record) :
    (hostHandle cls self expected).scalarExchange timestampNs payload sink =
      some
        { calls := [scalarCall record]
          state := { callCount := 1, delivered := [record] }
          result := ((sink [] record).answer.mapError refusalText,
            (self.parseScalars timestampNs payload).2) } := by
  obtain ⟨record', hrecord', hread⟩ | ⟨hnone, -⟩ :=
    self.readScalars_of_host timestampNs payload
  · obtain rfl : record = record' := Outcome.ok.inj (h.symm.trans hrecord')
    have haccept : acceptScalarRecord sink {} (scalarCall record) =
        ((sink [] record).answer, { callCount := 1, delivered := [record] }) := by
      unfold acceptScalarRecord
      rw [scalarCall_record]
      rfl
    unfold scalarExchange
    rw [functionalExtensions_of_available hroute, Option.map_some]
    simp only [functionalExtension, trampolineParseScalarsFunctionalV2, hostHandle, hread,
      asHostCalls_call, haccept]
  · exact absurd h (hnone record)

/-- A handler that returns no record makes no callback. -/
theorem scalarExchange_of_not_ok (cls : PluginClass Own Field) (expected : Option UInt16)
    (sink : ScalarRecordSink Field)
    (hroute : self.functionalRouteAvailable = true)
    (h : ∀ record, (self.parseScalars timestampNs payload).1 ≠ .ok record) :
    ∃ text, (hostHandle cls self expected).scalarExchange timestampNs payload sink =
      some
        { calls := [], state := {}
          result := (.error text, (self.parseScalars timestampNs payload).2) } := by
  obtain ⟨record, hrecord, -⟩ | ⟨-, failure, hread⟩ :=
    self.readScalars_of_host timestampNs payload
  · exact absurd hrecord (h record)
  · refine ⟨failureText failure, ?_⟩
    unfold scalarExchange
    rw [functionalExtensions_of_available hroute, Option.map_some]
    simp only [functionalExtension, trampolineParseScalarsFunctionalV2, hostHandle, hread,
      asHostCalls_failure]

theorem parseScalars_delivered_iff {sink : ScalarRecordSink Field}
    (hroute : self.functionalRouteAvailable = true) :
    (hostHandle cls self expected).parseScalarsFunctional timestampNs payload (some sink) =
        .ok () ↔
      ∃ record, (self.parseScalars timestampNs payload).1 = .ok record ∧
        sink [] record = .ok := by
  rw [parseScalarsFunctional_ok_iff]
  by_cases hok : ∃ record, (self.parseScalars timestampNs payload).1 = .ok record
  · obtain ⟨record, hrecord⟩ := hok
    have hexchange := scalarExchange_of_ok cls expected sink hroute hrecord
    constructor
    · rintro ⟨sink', exchange, hsink, hexchange', hresult, -⟩
      obtain rfl := Option.some.inj hsink
      obtain rfl := Option.some.inj (hexchange.symm.trans hexchange')
      refine ⟨record, hrecord, ?_⟩
      cases hsaid : sink [] record with
      | ok => rfl
      | error message => simp [hsaid, SinkOutcome.answer, Except.mapError] at hresult
      | exception what =>
        cases what <;> simp [hsaid, SinkOutcome.answer, Except.mapError] at hresult
    · rintro ⟨record', hrecord', hsaid⟩
      obtain rfl : record = record' := Outcome.ok.inj (hrecord.symm.trans hrecord')
      refine ⟨sink, _, rfl, hexchange, ?_, rfl⟩
      simp [hsaid, SinkOutcome.answer, Except.mapError]
  · have hnone : ∀ record, (self.parseScalars timestampNs payload).1 ≠ .ok record :=
      fun record hrecord => hok ⟨record, hrecord⟩
    obtain ⟨text, hexchange⟩ := scalarExchange_of_not_ok cls expected sink hroute hnone
    constructor
    · rintro ⟨sink', exchange, hsink, hexchange', hresult, -⟩
      obtain rfl := Option.some.inj hsink
      obtain rfl := Option.some.inj (hexchange.symm.trans hexchange')
      exact absurd hresult (by simp)
    · rintro ⟨record, hrecord, -⟩
      exact absurd hrecord (hnone record)

/-- Where the route is not there, a class that adds no functions of its own has none. -/
theorem functionalExtensions_base (h : self.functionalRouteAvailable = false) :
    (hostHandle .base self expected).functionalExtensions = none := by
  simp only [functionalExtensions, hostHandle, vtableWithCreate, trampolineGetPluginExtension, h,
    Bool.false_eq_true, if_false, PluginClass.base, Option.bind_none, Option.map_none]

/-- A parse leaves the handle on the same table, bound to the same schema. -/
theorem parsed_base (self : MessageParserInstance Own Field) (expected : Option UInt16)
    (timestampNs : Int64) (payload : Bytes) :
    ∃ own, (hostHandle .base self expected).parsed timestampNs payload =
      hostHandle .base { self with own } expected := by
  cases hroute : self.functionalRouteAvailable with
  | false =>
    refine ⟨self.own, ?_⟩
    unfold parsed objectExchange
    rw [functionalExtensions_base hroute]
    rfl
  | true =>
    refine ⟨(self.parseObject timestampNs payload).2.own, ?_⟩
    rw [← parseObject_keeps]
    unfold parsed objectExchange
    rw [functionalExtensions_of_available hroute, Option.map_some]
    simp only [functionalExtension, trampolineParseObjectFunctionalV2, carryOut_mapCall, hostHandle]
    obtain ⟨record, wire, -, -, hread⟩ | ⟨-, failure, hread⟩ := self.readObject_of_host
      timestampNs payload "parse_object called with invalid v2 object sink"
    · simp only [hread, Except.map, asHostCalls_call]
    · simp only [hread, Except.map, asHostCalls_failure]

/-- The handle after a parse of scalars. -/
def scalarsParsed {Plugin : Type} (handle : MessageParserHandle Plugin Field)
    (timestampNs : Int64) (payload : Bytes) (sink : ScalarRecordSink Field) :
    MessageParserHandle Plugin Field :=
  match handle.scalarExchange timestampNs payload sink with
  | none => handle
  | some exchange => { handle with ctx := exchange.result.2 }

theorem scalarsParsed_base (self : MessageParserInstance Own Field) (expected : Option UInt16)
    (timestampNs : Int64) (payload : Bytes) (sink : ScalarRecordSink Field) :
    ∃ own, scalarsParsed (hostHandle .base self expected) timestampNs payload sink =
      hostHandle .base { self with own } expected := by
  cases hroute : self.functionalRouteAvailable with
  | false =>
    refine ⟨self.own, ?_⟩
    unfold scalarsParsed scalarExchange
    rw [functionalExtensions_base hroute]
    rfl
  | true =>
    refine ⟨(self.parseScalars timestampNs payload).2.own, ?_⟩
    rw [← parseScalars_keeps]
    unfold scalarsParsed
    by_cases hok : ∃ record, (self.parseScalars timestampNs payload).1 = .ok record
    · obtain ⟨record, hrecord⟩ := hok
      rw [scalarExchange_of_ok _ _ _ hroute hrecord]
      rfl
    · obtain ⟨text, hexchange⟩ := scalarExchange_of_not_ok .base expected sink hroute
        fun record hrecord => hok ⟨record, hrecord⟩
      rw [hexchange]
      rfl

/-! ## Runs of a host -/

def HostCall.step {Plugin : Type} (handle : MessageParserHandle Plugin Field) :
    HostCall Field → MessageParserHandle Plugin Field
  | .operation made => (handle.step made).2
  | .parseScalars timestampNs payload sink => scalarsParsed handle timestampNs payload sink

def hosted {Plugin : Type} (handle : MessageParserHandle Plugin Field)
    (calls : List (HostCall Field)) : MessageParserHandle Plugin Field :=
  calls.foldl HostCall.step handle

/-- After any run: the table as it was, the schema bound last, and the expectation of the one
asked about last. -/
theorem hosted_base (self : MessageParserInstance Own Field) (calls : List (HostCall Field)) :
    ∃ own, hosted (hostHandle .base self none) calls =
      hostHandle .base
        { self with boundTypeName := (lastNamed HostCall.bound calls).getD self.boundTypeName, own }
        ((lastNamed HostCall.asked calls).map fun typeName =>
          (self.classifySchema typeName).code) := by
  induction calls using List.reverseRecOn with
  | nil => exact ⟨self.own, rfl⟩
  | append_singleton calls call ih =>
    obtain ⟨own, hbefore⟩ := ih
    unfold hosted at hbefore ⊢
    rw [List.foldl_append, hbefore, List.foldl_cons, List.foldl_nil, lastNamed_append_singleton,
      lastNamed_append_singleton]
    cases call with
    | parseScalars timestampNs payload sink =>
      exact scalarsParsed_base _ _ timestampNs payload sink
    | operation operation =>
      cases operation with
      | bindSchema typeName schema => exact ⟨own, rfl⟩
      | classifySchema typeName schema => exact ⟨own, rfl⟩
      | parseObject timestampNs payload => exact parsed_base _ _ timestampNs payload

/-! ## What arrives -/

theorem scalars_base (self : MessageParserInstance Own Field) (expected : Option UInt16)
    (timestampNs : Int64) (payload : Bytes) (sink : ScalarRecordSink Field) :
    ((hostHandle .base self expected).parseScalarsFunctional timestampNs payload (some sink) =
        .ok () ↔
      ∃ record, self.rowOf self.boundTypeName self.own timestampNs payload = some record ∧
        sink [] record = .ok) ∧
    ∀ exchange,
      (hostHandle .base self expected).scalarExchange timestampNs payload sink = some exchange →
        exchange.state.delivered =
          (self.rowOf self.boundTypeName self.own timestampNs payload).toList := by
  cases hroute : self.functionalRouteAvailable with
  | true =>
    refine ⟨?_, ?_⟩
    · rw [parseScalars_delivered_iff hroute]
      simp only [parseScalars_ok_iff]
    · intro exchange hexchange
      cases hmade : self.rowOf self.boundTypeName self.own timestampNs payload with
      | some record =>
        rw [scalarExchange_of_ok _ _ _ hroute (parseScalars_ok_iff.mpr hmade)] at hexchange
        obtain rfl := Option.some.inj hexchange
        rfl
      | none =>
        have hnone : ∀ record, (self.parseScalars timestampNs payload).1 ≠ .ok record := by
          intro record hrecord
          rw [parseScalars_ok_iff.mp hrecord] at hmade
          exact absurd hmade (by simp)
        obtain ⟨text, hexchange'⟩ := scalarExchange_of_not_ok .base expected sink hroute hnone
        obtain rfl := Option.some.inj (hexchange'.symm.trans hexchange)
        rfl
  | false =>
    have hnone : self.rowOf self.boundTypeName self.own timestampNs payload = none := by
      simp [rowOf, findSchemaHandler_of_not_available hroute]
    have hexchange : (hostHandle .base self expected).scalarExchange timestampNs payload sink =
        none := by
      unfold scalarExchange
      rw [functionalExtensions_base hroute, Option.map_none]
    rw [hnone, parseScalarsFunctional_ok_iff]
    refine ⟨iff_of_false ?_ (by simp), by simp [hexchange]⟩
    rintro ⟨sink', exchange, hsink, hsome, -⟩
    obtain rfl := Option.some.inj hsink
    rw [hexchange] at hsome
    exact absurd hsome (by simp)

/-- After any run of a host: a parse of scalars succeeds exactly when the handler of the schema
bound last makes a row of the payload and the sink takes it, and that row, if any, is all the
sink is given. -/
theorem scalars_delivered_iff (self : MessageParserInstance Own Field)
    (calls : List (HostCall Field)) (timestampNs : Int64) (payload : Bytes)
    (sink : ScalarRecordSink Field) :
    let handle := hosted (hostHandle .base self none) calls
    let typeName := (lastNamed HostCall.bound calls).getD self.boundTypeName
    let row := self.rowOf typeName handle.ctx.own timestampNs payload
    (handle.parseScalarsFunctional timestampNs payload (some sink) = .ok () ↔
        ∃ record, row = some record ∧ sink [] record = .ok) ∧
      ∀ exchange, handle.scalarExchange timestampNs payload sink = some exchange →
        exchange.state.delivered = row.toList := by
  intro handle typeName row
  obtain ⟨own, hhandle⟩ := hosted_base self calls
  have hrow : row = self.rowOf typeName own timestampNs payload := by
    simp only [row, handle, hhandle]
    rfl
  rw [hrow, show handle = _ from hhandle]
  exact scalars_base _ _ timestampNs payload sink

end Parse

/-- A parser of one schema, whose messages are all alike. -/
def logParser : MessageParserInstance Unit Unit :=
  ({ own := () } : MessageParserInstance Unit Unit).registerSchemaHandler "Log"
    { objectType := .log
      parseObject := some fun own _ _ => (.ok ⟨some 7, .log {}⟩, own) }

end PlotJugglerSdk.MessageParserInstance
