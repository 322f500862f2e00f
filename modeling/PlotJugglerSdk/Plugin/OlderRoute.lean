import PlotJugglerSdk.Plugin.FunctionalRoute

/-!
# The older route and the functional one

A parser used to write its rows itself; a host that asks for them now may do with them what the
parser did. After any run, for any table and any write host, the two succeed on the same
messages, write the same rows and leave the plugin in the same state.

* `writeSink`     — the host's sink that writes as the older route does
* `routes_agree`  — the two routes
-/

namespace PlotJugglerSdk.MessageParserInstance

open Wire Calls MessageParserHandle

variable {Own Field : Type}

/-- The row a record is written as: a record without fields is none. -/
def rowWritten (timestampNs : Int64) (record : ScalarRecord Field) : Option (Int64 × List Field) :=
  if record.fields = [] then none else some (record.timestamp.getD timestampNs, record.fields)

/-- A sink that writes to a host as the older route does. -/
def writeSink (appendRecord : ParserWriteHost Field) (timestampNs : Int64) :
    ScalarRecordSink Field :=
  fun _ record =>
    match rowWritten timestampNs record with
    | none => .ok
    | some (ts, fields) =>
      match appendRecord ts fields with
      | .ok () => .ok
      | .error message => .error message

/-- The older route asks the same handler. -/
theorem parse_of_ok {self : MessageParserInstance Own Field} {timestampNs : Int64}
    {payload : Bytes} {record : ScalarRecord Field} (appendRecord : ParserWriteHost Field)
    (h : (self.parseScalars timestampNs payload).1 = .ok record) :
    ((self.parse (some appendRecord) timestampNs payload).1 = .ok () ↔
        writeSink appendRecord timestampNs [] record = .ok) ∧
      (self.parse (some appendRecord) timestampNs payload).2 =
        ((rowWritten timestampNs record).toList, (self.parseScalars timestampNs payload).2) := by
  simp only [parse, h, writeSink, rowWritten]
  by_cases hfields : record.fields = []
  · simp [hfields]
  · simp only [hfields, if_false]
    cases appendRecord (record.timestamp.getD timestampNs) record.fields <;> simp

theorem parse_of_not_ok {self : MessageParserInstance Own Field} {timestampNs : Int64}
    {payload : Bytes} (appendRecord : ParserWriteHost Field)
    (h : ∀ record, (self.parseScalars timestampNs payload).1 ≠ .ok record) :
    (self.parse (some appendRecord) timestampNs payload).1 ≠ .ok () ∧
      (self.parse (some appendRecord) timestampNs payload).2 =
        ([], (self.parseScalars timestampNs payload).2) := by
  cases houtcome : (self.parseScalars timestampNs payload).1 with
  | ok record => exact absurd houtcome (h record)
  | error message => simp [parse, houtcome]
  | exception what => simp [parse, houtcome]

/-- A parse that finds no handler leaves the plugin as it was. -/
theorem parseScalars_of_find_none {self : MessageParserInstance Own Field} {timestampNs : Int64}
    {payload : Bytes} (h : self.findSchemaHandler self.boundTypeName = none) :
    self.parseScalars timestampNs payload = (.error (noHandler self.boundTypeName), self) := by
  simp [parseScalars, h]

variable [FloatOps]

/-- What the functional route writes through a sink that writes. -/
def rowsWritten (handle : MessageParserHandle (MessageParserInstance Own Field) Field)
    (timestampNs : Int64) (payload : Bytes) (sink : ScalarRecordSink Field) :
    List (Int64 × List Field) :=
  match handle.scalarExchange timestampNs payload sink with
  | none => []
  | some exchange => exchange.state.delivered.filterMap (rowWritten timestampNs)

theorem routes_agree_base (self : MessageParserInstance Own Field) (expected : Option UInt16)
    (timestampNs : Int64) (payload : Bytes) (appendRecord : ParserWriteHost Field) :
    let handle := hostHandle .base self expected
    let sink := writeSink appendRecord timestampNs
    let older := self.parse (some appendRecord) timestampNs payload
    (handle.parseScalarsFunctional timestampNs payload (some sink) = .ok () ↔ older.1 = .ok ()) ∧
      rowsWritten handle timestampNs payload sink = older.2.1 ∧
      (scalarsParsed handle timestampNs payload sink).ctx = older.2.2 := by
  intro handle sink older
  have hsuccess := (scalars_base self expected timestampNs payload sink).1
  simp only [← parseScalars_ok_iff] at hsuccess
  by_cases hok : ∃ record, (self.parseScalars timestampNs payload).1 = .ok record
  · obtain ⟨record, hrecord⟩ := hok
    obtain ⟨holder, hafter⟩ := parse_of_ok appendRecord hrecord
    -- a record came from a handler, so the route is there
    have hroute : self.functionalRouteAvailable = true := by
      by_contra hnone
      have hfind := findSchemaHandler_of_not_available (Bool.not_eq_true _ ▸ hnone)
      rw [parseScalars_of_find_none hfind] at hrecord
      exact absurd hrecord (by simp)
    have hexchange := scalarExchange_of_ok .base expected sink hroute hrecord
    refine ⟨hsuccess.trans ?_, ?_, ?_⟩
    · rw [holder]
      constructor
      · rintro ⟨record', hrecord', hsaid⟩
        obtain rfl := Outcome.ok.inj (hrecord.symm.trans hrecord')
        exact hsaid
      · exact fun hsaid => ⟨record, hrecord, hsaid⟩
    · unfold rowsWritten
      rw [hexchange, hafter]
      cases hrow : rowWritten timestampNs record <;> simp [hrow]
    · unfold scalarsParsed
      rw [hexchange, hafter]
  · have hnone : ∀ record, (self.parseScalars timestampNs payload).1 ≠ .ok record :=
      fun record hrecord => hok ⟨record, hrecord⟩
    obtain ⟨holder, hafter⟩ := parse_of_not_ok appendRecord hnone
    refine ⟨hsuccess.trans (iff_of_false ?_ holder), ?_⟩
    · rintro ⟨record, hrecord, -⟩
      exact hnone record hrecord
    · unfold rowsWritten scalarsParsed
      rw [hafter]
      cases hroute : self.functionalRouteAvailable with
      | true =>
        obtain ⟨text, hexchange⟩ := scalarExchange_of_not_ok .base expected sink hroute hnone
        rw [hexchange]
        exact ⟨rfl, rfl⟩
      | false =>
        have hexchange : handle.scalarExchange timestampNs payload sink = none := by
          unfold scalarExchange
          rw [functionalExtensions_base hroute, Option.map_none]
        rw [hexchange, parseScalars_of_find_none (findSchemaHandler_of_not_available hroute)]
        exact ⟨rfl, rfl⟩

/-- After any run of a host: handing a message to the functional route with a sink that writes,
and handing it to the older route, succeed alike, write the same rows and leave the plugin
alike. -/
theorem routes_agree (self : MessageParserInstance Own Field) (calls : List (HostCall Field))
    (timestampNs : Int64) (payload : Bytes) (appendRecord : ParserWriteHost Field) :
    let handle := hosted (hostHandle .base self none) calls
    let sink := writeSink appendRecord timestampNs
    let older := handle.ctx.parse (some appendRecord) timestampNs payload
    (handle.parseScalarsFunctional timestampNs payload (some sink) = .ok () ↔ older.1 = .ok ()) ∧
      rowsWritten handle timestampNs payload sink = older.2.1 ∧
      (scalarsParsed handle timestampNs payload sink).ctx = older.2.2 := by
  intro handle sink older
  obtain ⟨own, hhandle⟩ := hosted_base self calls
  simp only [older, show handle = _ from hhandle]
  exact routes_agree_base _ _ timestampNs payload appendRecord

end PlotJugglerSdk.MessageParserInstance
