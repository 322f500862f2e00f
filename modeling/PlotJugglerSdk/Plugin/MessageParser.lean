import PlotJugglerSdk.Host.MessageParserHandle
import PlotJugglerSdk.Plugin.ErrorBlock
import Mathlib.Data.List.AList

/-!
# The schema handlers of a message parser plugin

The plugin's side of the boundary: a table of handlers by schema, the schema the instance is
bound to, and the functions of the C interface, which look a handler up, call it, and deliver
what it returns through the caller's callback.

* `registerSchemaHandler`, `findSchemaHandler` — the table
* `parseScalars`, `parseObject`, `parse`       — the routes of the bound schema
* `trampolineParseScalarsFunctional` and its siblings — the same behind the C interface
* `vtableWithCreate`                           — the plugin as a host sees it
-/

namespace PlotJugglerSdk

open Wire Calls MessageParserHandle

/-- A missing function is a null one. The functions of all handlers share what the plugin
keeps for itself. -/
structure SchemaHandler (Own Field : Type) where
  objectType : BuiltinObjectType := .none
  parseScalars : Option (Own → Int64 → Bytes → Outcome (ScalarRecord Field) × Own) := none
  parseObject : Option (Own → Int64 → Bytes → Outcome ObjectRecord × Own) := none

/-- The part of `MessageParserPluginBase` that parses. -/
structure MessageParserInstance (Own Field : Type) where
  boundTypeName : String := ""
  handlers : AList fun _ : String => SchemaHandler Own Field := ∅
  own : Own

namespace MessageParserInstance

variable {Own Field : Type}

/-! ## The table -/

/-- A second handler for a schema replaces the first. -/
def registerSchemaHandler (self : MessageParserInstance Own Field) (typeName : String)
    (handler : SchemaHandler Own Field) : MessageParserInstance Own Field :=
  { self with handlers := self.handlers.insert typeName handler }

def findSchemaHandler (self : MessageParserInstance Own Field) (typeName : String) :
    Option (SchemaHandler Own Field) :=
  self.handlers.lookup typeName

/-- Asked for any schema, bound or not. -/
def classifySchema (self : MessageParserInstance Own Field) (typeName : String) :
    BuiltinObjectType :=
  match self.findSchemaHandler typeName with
  | some handler => handler.objectType
  | none => .none

/-! ## The routes of the bound schema -/

def noHandler (typeName : String) : String := "parser does not register schema: " ++ typeName

def parseScalars (self : MessageParserInstance Own Field) (timestampNs : Int64)
    (payload : Bytes) : Outcome (ScalarRecord Field) × MessageParserInstance Own Field :=
  match self.findSchemaHandler self.boundTypeName with
  | none => (.error (noHandler self.boundTypeName), self)
  | some handler =>
    match handler.parseScalars with
    | none => (.error ("registered handler has no parse_scalars: " ++ self.boundTypeName), self)
    | some parse =>
      let (record, own) := parse self.own timestampNs payload
      (record, { self with own })

def parseObject (self : MessageParserInstance Own Field) (timestampNs : Int64)
    (payload : Bytes) : Outcome ObjectRecord × MessageParserInstance Own Field :=
  match self.findSchemaHandler self.boundTypeName with
  | none => (.error (noHandler self.boundTypeName), self)
  | some handler =>
    match handler.parseObject with
    | none => (.error ("registered handler has no parse_object: " ++ self.boundTypeName), self)
    | some parse =>
      let (record, own) := parse self.own timestampNs payload
      (record, { self with own })

/-- The write host of the older route: what it answers to a row. -/
abbrev ParserWriteHost (Field : Type) : Type := Int64 → List Field → Except String Unit

/-- The older route, which writes the row itself. The rows it hands to the host are told. -/
def parse (self : MessageParserInstance Own Field)
    (writeHost : Option (ParserWriteHost Field)) (timestampNs : Int64) (payload : Bytes) :
    Outcome Unit × List (Int64 × List Field) × MessageParserInstance Own Field :=
  match writeHost with
  | none => (.error "write host not bound", [], self)
  | some appendRecord =>
    let (record, self) := self.parseScalars timestampNs payload
    match record with
    | .error message => (.error message, [], self)
    | .exception what => (.exception what, [], self)
    | .ok record =>
      -- a message without fields leaves no row
      if record.fields = [] then (.ok (), [], self)
      else
        let ts := record.timestamp.getD timestampNs
        match appendRecord ts record.fields with
        | .error message => (.error message, [(ts, record.fields)], self)
        | .ok () => (.ok (), [(ts, record.fields)], self)

/-! ## The C interface -/

def PJ_PARSER_ERROR_KIND_DATA_ERROR : String := "pj.parser.data_error"

def PJ_PARSER_ERROR_KIND_SINK_REJECTED : String := "pj.parser.sink_rejected"

def PJ_PARSER_ERROR_KIND_CONTRACT_VIOLATION : String := "pj.parser.contract_violation"

/-- A failure on the plugin's side. -/
structure Failure where
  code : Int32
  message : String
  kind : String

def dataError (message : String) : Failure := ⟨1, message, PJ_PARSER_ERROR_KIND_DATA_ERROR⟩

def contractViolation (code : Int32) (message : String) : Failure :=
  ⟨code, message, PJ_PARSER_ERROR_KIND_CONTRACT_VIOLATION⟩

/-- The revisions of the functional table differ in what a failure leaves in the block. -/
structure Revision where
  store : Failure → PJError
  /-- The block after the caller's callback refused. -/
  rejected : PJError → PJError

def functionalV1 : Revision where
  store failure := fillError failure.code "plugin" failure.message
  rejected err := err

def functionalV2 : Revision where
  store failure :=
    setExtended (fillError failure.code "plugin" failure.message) failure.kind
  rejected err :=
    -- a caller that blames the plugin's contract is left its word
    if err.extendedKind ≠ PJ_PARSER_ERROR_KIND_CONTRACT_VIOLATION then
      setExtended err PJ_PARSER_ERROR_KIND_SINK_REJECTED
    else err

/-- A sink as the plugin is handed it: null, or of a size, each of its functions there or
not. -/
structure SinkTable where
  structSize : UInt32
  functions : List Bool

def SinkTable.usable (minSize : UInt32) (sink : Option SinkTable) : Bool :=
  sink.any fun sink => !(sink.structSize < minSize) && sink.functions.all id

/-- `PJ_PARSER_SCALAR_SINK_V1_MIN_SIZE`; the object sink of the first revision has the same. -/
def sinkV1MinSize : UInt32 := 24

def PJ_PARSER_OBJECT_SINK_V2_MIN_SIZE : UInt32 := 32

/-- The anchor that keeps a payload alive: it may be missing, or wrongly have nothing that
releases it. -/
inductive PayloadAnchor where
  | empty
  | owned
  | unreleasable
  deriving DecidableEq

/-- What a callback left in the block it was given. -/
def sinkBlock (e : SinkError) : PJError :=
  let err := fillError (Int32.ofNat e.code) "host" e.message
  if e.contractViolation then setExtended err PJ_PARSER_ERROR_KIND_CONTRACT_VIOLATION else err

/-- A plugin's function, with the block its failure leaves. -/
abbrev Trampoline (Own Field Call : Type) : Type :=
  Client Call (Except SinkError Unit) (Except PJError Unit × MessageParserInstance Own Field)

/-- A failure is stored; a call is made, and the caller's answer is the plugin's. -/
def carryOut {Call : Type} (revision : Revision) :
    Except Failure Call × MessageParserInstance Own Field → Trampoline Own Field Call
  | (.error failure, self) => .finish (.error (revision.store failure), self)
  | (.ok call, self) =>
    .call call fun
      | .ok () => .finish (.ok (), self)
      | .error e => .finish (.error (revision.rejected (sinkBlock e)), self)

/-- What comes of a call for scalars before the caller's callback has its say. -/
def readScalars (self : MessageParserInstance Own Field) (timestampNs : Int64)
    (payload : BytesView) (sink : Option SinkTable) :
    Except Failure (ScalarCall Field) × MessageParserInstance Own Field :=
  if !SinkTable.usable sinkV1MinSize sink then
    (.error (contractViolation 2 "parse_scalars called with invalid scalar sink"), self)
  else
    match payload.read with
    | none => (.error (contractViolation 2 "parse_scalars called with invalid payload"), self)
    | some bytes =>
      let (record, self) := self.parseScalars timestampNs bytes
      match record with
      | .error message => (.error (dataError message), self)
      | .exception (some what) =>
        (.error (contractViolation 1 ("parse_scalars threw: " ++ what)), self)
      | .exception none =>
        (.error (contractViolation 1 "unknown exception in parse_scalars"), self)
      | .ok record =>
        (.ok
          { hasTimestamp := record.timestamp.isSome
            timestampNs := record.timestamp.getD 0
            fields := .fields record.fields }, self)

def trampolineParseScalarsFunctional (self : MessageParserInstance Own Field)
    (timestampNs : Int64) (payload : BytesView) (sink : Option SinkTable) :
    Trampoline Own Field (ScalarCall Field) :=
  carryOut functionalV1 (self.readScalars timestampNs payload sink)

def trampolineParseScalarsFunctionalV2 (self : MessageParserInstance Own Field)
    (timestampNs : Int64) (payload : BytesView) (sink : Option SinkTable) :
    Trampoline Own Field (ScalarCall Field) :=
  carryOut functionalV2 (self.readScalars timestampNs payload sink)

section Objects

variable [FloatOps]

/-- The revisions differ in the sink they need. -/
def readObject (minSize : UInt32) (badSink : String) (self : MessageParserInstance Own Field)
    (timestampNs : Int64) (payload : BytesView) (anchor : PayloadAnchor)
    (sink : Option SinkTable) : Except Failure ObjectCall × MessageParserInstance Own Field :=
  -- nothing could release the reference, so it is not taken over
  if anchor = .unreleasable then
    (.error (contractViolation 2
      "parse_object payload anchor has context without release callback"), self)
  else if !SinkTable.usable minSize sink then (.error (contractViolation 2 badSink), self)
  else
    match payload.read with
    | none => (.error (contractViolation 2 "parse_object called with invalid payload"), self)
    | some bytes =>
      let (record, self) := self.parseObject timestampNs bytes
      match record with
      | .error message => (.error (dataError message), self)
      | .exception (some what) =>
        (.error (contractViolation 1 ("parse_object threw: " ++ what)), self)
      | .exception none =>
        (.error (contractViolation 1 "unknown exception in parse_object"), self)
      | .ok record =>
        -- no object crosses the boundary, only its canonical wire
        match serializeBuiltinObject record.object with
        | .error message => (.error (contractViolation 1 message), self)
        | .ok canonicalWire =>
          (.ok
            { hasTimestamp := record.ts.isSome
              timestampNs := record.ts.getD 0
              objectType := (typeOf record.object).code
              canonicalWire := .bytes canonicalWire }, self)

def trampolineParseObjectFunctional (self : MessageParserInstance Own Field)
    (timestampNs : Int64) (payload : BytesView) (anchor : PayloadAnchor)
    (sink : Option SinkTable) : Trampoline Own Field ObjectCall :=
  carryOut functionalV1
    (readObject sinkV1MinSize "parse_object called with invalid object sink" self timestampNs
      payload anchor sink)

/-- The whole wire is delivered here too: nothing is spliced. -/
def trampolineParseObjectFunctionalV2 (self : MessageParserInstance Own Field)
    (timestampNs : Int64) (payload : BytesView) (anchor : PayloadAnchor)
    (sink : Option SinkTable) : Trampoline Own Field SinkCall :=
  (carryOut functionalV2
    (readObject PJ_PARSER_OBJECT_SINK_V2_MIN_SIZE
      "parse_object called with invalid v2 object sink" self timestampNs payload anchor
      sink)).mapCall ObjectCall.toSinkCall

end Objects

def trampolineClassifySchema (self : MessageParserInstance Own Field) (typeName : String)
    (_schema : Bytes) : Option UInt16 :=
  some (self.classifySchema typeName).code

/-! ## A plugin's class -/

/-- What a subclass overrides. -/
structure PluginClass (Own Field : Type) where
  bindSchema : MessageParserInstance Own Field → String → Bytes →
    Outcome Unit × MessageParserInstance Own Field
  /-- What the subclass answers for the two functional ids. -/
  pluginExtension : PluginExtensions (MessageParserInstance Own Field) Field

/-- A class that overrides neither. -/
def PluginClass.base : PluginClass Own Field where
  bindSchema self typeName _schema := (.ok (), { self with boundTypeName := typeName })
  pluginExtension := ⟨fun _ => none, fun _ => none⟩

def trampolineBindSchema (cls : PluginClass Own Field) (self : MessageParserInstance Own Field)
    (typeName : String) (schema : Bytes) :
    Except String Unit × MessageParserInstance Own Field :=
  let (status, self) := cls.bindSchema self typeName schema
  let failed := fun message => (.error (errorToString (fillError 1 "plugin" message)), self)
  match status with
  | .ok () => (.ok (), self)
  | .error message => failed message
  | .exception (some what) => failed ("bind_schema threw: " ++ what)
  | .exception none => failed "unknown exception in bind_schema"

/-- A bound schema is asked for its own handler; before any is bound, any handler will do. -/
def functionalRouteAvailable (self : MessageParserInstance Own Field) : Bool :=
  if self.boundTypeName = "" then !self.handlers.entries.isEmpty
  else (self.findSchemaHandler self.boundTypeName).isSome

section Vtable

variable [FloatOps]

/-- The host's sinks as it hands them over. -/
def hostSink (structSize : UInt32) (functions : Nat) : Option SinkTable :=
  some ⟨structSize, List.replicate functions true⟩

/-- A function of the plugin as the host calls it: the block is read as a text. -/
def asHostCalls {Call : Type} (trampoline : Trampoline Own Field Call) :
    PluginClient (MessageParserInstance Own Field) Call :=
  trampoline.mapResult fun (result, self) => (result.mapError errorToString, self)

def functionalTableV1 :
    FunctionalTable (MessageParserInstance Own Field) Field ObjectCall where
  structSize := functionalMinSize
  parseScalars := some fun self timestampNs payload =>
    asHostCalls (self.trampolineParseScalarsFunctional timestampNs (.bytes payload)
      (hostSink sinkV1MinSize 1))
  parseObject := some fun self timestampNs payload =>
    asHostCalls (self.trampolineParseObjectFunctional timestampNs (.bytes payload) .empty
      (hostSink sinkV1MinSize 1))

def functionalTableV2 :
    FunctionalTable (MessageParserInstance Own Field) Field SinkCall where
  structSize := functionalMinSize
  parseScalars := some fun self timestampNs payload =>
    asHostCalls (self.trampolineParseScalarsFunctionalV2 timestampNs (.bytes payload)
      (hostSink sinkV1MinSize 1))
  parseObject := some fun self timestampNs payload =>
    asHostCalls (self.trampolineParseObjectFunctionalV2 timestampNs (.bytes payload) .empty
      (hostSink PJ_PARSER_OBJECT_SINK_V2_MIN_SIZE 2))

/-- The two functional ids; where the route is not there the subclass is asked. -/
def trampolineGetPluginExtension (cls : PluginClass Own Field) :
    PluginExtensions (MessageParserInstance Own Field) Field where
  functionalV2 self :=
    if self.functionalRouteAvailable then some functionalTableV2
    else cls.pluginExtension.functionalV2 self
  functionalV1 self :=
    if self.functionalRouteAvailable then some functionalTableV1
    else cls.pluginExtension.functionalV1 self

def vtableWithCreate (cls : PluginClass Own Field) :
    Vtable (MessageParserInstance Own Field) Field where
  bindSchema := trampolineBindSchema cls
  getPluginExtension := some (trampolineGetPluginExtension cls)
  classifySchema := some trampolineClassifySchema

end Vtable

end MessageParserInstance

end PlotJugglerSdk
