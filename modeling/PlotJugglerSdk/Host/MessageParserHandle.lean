import PlotJugglerSdk.Calls.Client
import PlotJugglerSdk.Host.ObjectOutput

/-!
# The handle of a message parser

The host's side of a message parser plugin: the schema it binds, the classification it asks
for, and the two functional parses, in which the plugin delivers through callbacks of the
host. The plugin is foreign: it is whatever its table of functions does, and its callbacks
are a client's.

* `parseScalarsFunctional`, `parseObjectFunctional` — the two parses
* `bindSchema`, `classifySchema`                    — the two writers of the expected type
-/

namespace PlotJugglerSdk.MessageParserHandle

open Wire Calls

/-! ## The plugin -/

/-- The fields a plugin points at: a null pointer may claim a count. -/
inductive FieldsView (Field : Type) where
  | null (count : UInt64)
  | fields (content : List Field)

def FieldsView.read {Field : Type} : FieldsView Field → Option (List Field)
  | .null count => if count ≠ 0 then none else some []
  | .fields content => some content

/-- The arguments of `accept_record`. -/
structure ScalarCall (Field : Type) where
  hasTimestamp : Bool
  timestampNs : Int64
  fields : FieldsView Field

/-- The arguments of `accept_object`, the one callback of the first revision. -/
structure ObjectCall where
  hasTimestamp : Bool
  timestampNs : Int64
  objectType : UInt16
  canonicalWire : BytesView

def ObjectCall.toSinkCall (call : ObjectCall) : SinkCall :=
  .acceptObject call.hasTimestamp call.timestampNs call.objectType call.canonicalWire

/-- A function of the plugin that is given a callback: it returns an error or not, and may
change the plugin. -/
abbrev PluginClient (Plugin Call : Type) : Type :=
  Client Call (Except SinkError Unit) (Except String Unit × Plugin)

/-- A table as the plugin returns it; a function pointer of it may be null. -/
structure FunctionalTable (Plugin Field ObjectCall : Type) where
  structSize : UInt32
  parseScalars : Option (Plugin → Int64 → Bytes → PluginClient Plugin (ScalarCall Field))
  parseObject : Option (Plugin → Int64 → Bytes → PluginClient Plugin ObjectCall)

/-- `PJ_PARSER_FUNCTIONAL_V1_MIN_SIZE`, and that of the second revision. -/
def functionalMinSize : UInt32 := 24

/-- A table that passed the checks of `functionalExtensions`. -/
structure FunctionalExtension (Plugin Field ObjectCall : Type) where
  parseScalars : Plugin → Int64 → Bytes → PluginClient Plugin (ScalarCall Field)
  parseObject : Plugin → Int64 → Bytes → PluginClient Plugin ObjectCall

def FunctionalTable.checked {Plugin Field ObjectCall : Type}
    (table : FunctionalTable Plugin Field ObjectCall) :
    Option (FunctionalExtension Plugin Field ObjectCall) :=
  if table.structSize < functionalMinSize then none
  else
    match table.parseScalars, table.parseObject with
    | some parseScalars, some parseObject => some { parseScalars, parseObject }
    | _, _ => none

/-- What `get_plugin_extension` answers for the two ids. -/
structure PluginExtensions (Plugin Field : Type) where
  functionalV2 : Plugin → Option (FunctionalTable Plugin Field SinkCall)
  functionalV1 : Plugin → Option (FunctionalTable Plugin Field ObjectCall)

/-- The functions of a plugin that the handle uses here. A tail slot may be absent;
`classify_schema` has no effects, as its contract says, and fails with `none`. -/
structure Vtable (Plugin Field : Type) where
  bindSchema : Plugin → String → Bytes → Except String Unit × Plugin
  getPluginExtension : Option (PluginExtensions Plugin Field)
  classifySchema : Option (Plugin → String → Bytes → Option UInt16)

end PlotJugglerSdk.MessageParserHandle

namespace PlotJugglerSdk

open Wire Calls MessageParserHandle

structure MessageParserHandle (Plugin Field : Type) where
  vt : Vtable Plugin Field
  ctx : Plugin
  expectedObjectType : Option UInt16 := none

namespace MessageParserHandle

variable {Plugin Field : Type}

/-- The first revision's functions, seen as ones that may splice. -/
def FunctionalExtension.withSplices (extension : FunctionalExtension Plugin Field ObjectCall) :
    FunctionalExtension Plugin Field SinkCall where
  parseScalars := extension.parseScalars
  parseObject plugin timestampNs payload :=
    (extension.parseObject plugin timestampNs payload).mapCall ObjectCall.toSinkCall

/-- The functions a parse uses: those of the second revision where the plugin has them. -/
def functionalExtensions (handle : MessageParserHandle Plugin Field) :
    Option (FunctionalExtension Plugin Field SinkCall) :=
  match handle.vt.getPluginExtension with
  | none => none
  | some extensions =>
    match (extensions.functionalV2 handle.ctx).bind FunctionalTable.checked with
    | some v2 => some v2
    | none =>
      ((extensions.functionalV1 handle.ctx).bind FunctionalTable.checked).map
        FunctionalExtension.withSplices

def noFunctionalExtension : String :=
  "message parser does not expose pj.parser_functional.v2 or pj.parser_functional.v1"

/-! ## Scalars -/

/-- What the host's own sink is given. -/
structure ScalarRecord (Field : Type) where
  timestamp : Option Int64
  fields : List Field

def ScalarCall.record (call : ScalarCall Field) : Option (ScalarRecord Field) :=
  call.fields.read.map fun fields =>
    { timestamp := if call.hasTimestamp then some call.timestampNs else none, fields }

inductive SinkOutcome where
  | ok
  | error (message : String)
  | exception (what : Option String)
  deriving DecidableEq

/-- The host's sink may remember the records it was given before. -/
abbrev ScalarRecordSink (Field : Type) : Type :=
  List (ScalarRecord Field) → ScalarRecord Field → SinkOutcome

structure ScalarSinkState (Field : Type) where
  callCount : UInt32 := 0
  delivered : List (ScalarRecord Field) := []

/-- What a callback answers for what the sink did. -/
def SinkOutcome.answer : SinkOutcome → Except SinkError Unit
  | .ok => .ok ()
  | .error message => .error { code := 1, message, contractViolation := false }
  | .exception (some what) =>
    .error { code := 1, message := "scalar sink threw: " ++ what, contractViolation := false }
  | .exception none =>
    .error { code := 1, message := "unknown exception in scalar sink", contractViolation := false }

def acceptScalarRecord (sink : ScalarRecordSink Field) (state : ScalarSinkState Field)
    (call : ScalarCall Field) : Except SinkError Unit × ScalarSinkState Field :=
  let state := { state with callCount := state.callCount + 1 }
  -- a second call is refused, whatever came of the first
  if state.callCount ≠ 1 then
    (.error { message := "functional parser emitted more than one scalar record"
              contractViolation := false }, state)
  else
    match call.record with
    | none =>
      (.error { message := "scalar callback received invalid fields", contractViolation := false },
        state)
    | some record =>
      -- what the sink answers is what the plugin gets to see
      ((sink state.delivered record).answer,
        { state with delivered := state.delivered ++ [record] })

/-- What the plugin and the callback have to do with each other in one parse. -/
def scalarExchange (handle : MessageParserHandle Plugin Field) (timestampNs : Int64)
    (payload : Bytes)
    (sink : ScalarRecordSink Field) :
    Option (Exchange (ScalarCall Field) (ScalarSinkState Field) (Except String Unit × Plugin)) :=
  handle.functionalExtensions.map fun extension =>
    (extension.parseScalars handle.ctx timestampNs payload).against (acceptScalarRecord sink) {}

def parseScalarsFunctional (handle : MessageParserHandle Plugin Field) (timestampNs : Int64)
    (payload : Bytes) (sink : Option (ScalarRecordSink Field)) : Except String Unit :=
  if handle.functionalExtensions.isNone then .error noFunctionalExtension
  else
    match sink with
    | none => .error "scalar record sink is empty"
    | some sink =>
      match handle.scalarExchange timestampNs payload sink with
      | none => .error noFunctionalExtension
      | some exchange =>
        match exchange.result.1 with
        | .error e => .error e
        | .ok () =>
          -- calls are counted, not records: a refused call counts
          if exchange.state.callCount ≠ 1 then
            .error "functional parser returned success without exactly one scalar record"
          else .ok ()

/-! ## Objects -/

section Objects

variable [FloatOps]

def objectExchange (handle : MessageParserHandle Plugin Field) (timestampNs : Int64)
    (payload : Bytes) :
    Option (Exchange SinkCall ObjectSinkState (Except String Unit × Plugin)) :=
  handle.functionalExtensions.map fun extension =>
    (extension.parseObject handle.ctx timestampNs payload).against ObjectSinkState.accept
      { inputPayload := payload, expectedObjectType := handle.expectedObjectType }

def parseObjectFunctional (handle : MessageParserHandle Plugin Field) (timestampNs : Int64)
    (payload : Bytes) : Except String ObjectRecord :=
  match handle.objectExchange timestampNs payload with
  | none => .error noFunctionalExtension
  | some exchange =>
    match exchange.result.1 with
    | .error e => .error e
    | .ok () =>
      if exchange.state.callCount ≠ 1 then
        .error "functional parser returned success without exactly one canonical object"
      else
        match exchange.state.record with
        | none => .error "functional parser returned success without exactly one canonical object"
        | some record => .ok record

end Objects

/-! ## The expected type -/

def bindSchema (handle : MessageParserHandle Plugin Field) (typeName : String) (schema : Bytes) :
    Except String Unit × MessageParserHandle Plugin Field :=
  let (bound, ctx) := handle.vt.bindSchema handle.ctx typeName schema
  let handle := { handle with ctx, expectedObjectType := none }
  match bound with
  | .error e => (.error e, handle)
  | .ok () =>
    match handle.vt.classifySchema with
    | none => (.ok (), handle)
    | some classify =>
      match classify handle.ctx typeName schema with
      | none => (.ok (), handle)
      | some objectType => (.ok (), { handle with expectedObjectType := some objectType })

/-- The type a query reports; `kNone` where the plugin has no answer. -/
def classifySchema (handle : MessageParserHandle Plugin Field) (typeName : String)
    (schema : Bytes) :
    UInt16 × MessageParserHandle Plugin Field :=
  match handle.vt.classifySchema with
  | none => (0, handle)
  | some classify =>
    match classify handle.ctx typeName schema with
    | none => (0, handle)
    | some objectType => (objectType, { handle with expectedObjectType := some objectType })

end MessageParserHandle

end PlotJugglerSdk
