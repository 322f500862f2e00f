import PlotJugglerSdk.Concurrency.Runs
import PlotJugglerSdk.Json.Value
import PlotJugglerSdk.Scan.Steps

/-!
# Services and the plugins that keep them

A host offers services under names; a plugin's base looks up those that it needs in each `bind`
and keeps a view of each. Some services are mandatory, the others are kept where they are offered.

* `ServiceRegistry.get`, `ServiceRegistry.require` — a lookup
* `ServiceRegistryBuilder`   — the registry of a host
* `….bind`                   — what the four bases keep of a registry
* `PluginBase.Faithful`      — after every call the views are those of the last bind that succeeded
* `bindings_iff`             — exactly which calls keep that
-/

namespace PlotJugglerSdk

open Json Wire

/-! ## Services -/

/-- `PJ_service_t`; a null pointer is 0. -/
structure Service where
  ctx : UInt64 := 0
  vtable : UInt64 := 0
  deriving DecidableEq

def Service.valid (service : Service) : Bool := service.ctx ≠ 0 && service.vtable ≠ 0

theorem Service.valid_iff {service : Service} :
    service.valid = true ↔ ¬ (service.ctx = 0 ∨ service.vtable = 0) := by
  unfold Service.valid
  rw [Bool.and_eq_true_iff, decide_eq_true_iff, decide_eq_true_iff, not_or]

structure ServiceError where
  code : Int32
  domain : Bytes
  message : Bytes

/-- A registry of a host; one without its functions is not bound. -/
structure ServiceRegistry where
  getService : Option (Bytes → UInt32 → Except ServiceError Service) := none

structure ServiceTraits where
  kName : Bytes
  kMinVersion : UInt32

namespace ServiceRegistry

variable (services : ServiceRegistry) (traits : ServiceTraits)

def lookup : Except ServiceError Service :=
  match services.getService with
  | none =>
    .error { code := 1, domain := text "registry", message := text "service registry not bound" }
  | some getService => getService traits.kName traits.kMinVersion

def get : Option Service :=
  match services.lookup traits with
  | .error _ => none
  | .ok service => if service.valid then some service else none

def require : Except Bytes Service :=
  match services.lookup traits with
  | .error err =>
    .error (text "service unavailable: " ++ traits.kName ++
      if err.message = [] then [] else text " (" ++ err.message ++ text ")")
  | .ok service =>
    if service.valid then .ok service
    else .error (text "service returned invalid fat pointer: " ++ traits.kName)

/-- Both lookups find the same. -/
theorem require_of_get {view : Service} (h : services.get traits = some view) :
    services.require traits = .ok view := by
  unfold get at h
  unfold require
  cases hlookup : services.lookup traits with
  | error err =>
    rw [hlookup] at h
    cases h
  | ok service =>
    rw [hlookup] at h
    dsimp only at h ⊢
    split at h
    · next hvalid =>
      rw [if_pos hvalid, Option.some.inj h]
    · cases h

theorem require_of_none (h : services.get traits = none) :
    ∃ reason, services.require traits = .error reason := by
  unfold get at h
  unfold require
  cases hlookup : services.lookup traits with
  | error err => exact ⟨_, rfl⟩
  | ok service =>
    rw [hlookup] at h
    dsimp only at h ⊢
    split at h
    · cases h
    · next hvalid => exact ⟨_, if_neg hvalid⟩

end ServiceRegistry

/-! ## The registry of a host -/

structure ServiceEntry where
  protocolVersion : UInt32
  service : Service
  deriving DecidableEq

structure ServiceRegistryBuilder where
  entries : List (Bytes × ServiceEntry) := []
  deriving DecidableEq

namespace ServiceRegistryBuilder

def tryRegisterService (builder : ServiceRegistryBuilder) (name : Bytes) (protocolVersion : UInt32)
    (service : Service) : Except Bytes ServiceRegistryBuilder :=
  if service.ctx = 0 ∨ service.vtable = 0 then
    .error (text "registerService: null ctx or vtable for '" ++ name ++ text "'")
  else if (builder.entries.lookup name).isSome then
    .error (text "registerService: duplicate name '" ++ name ++ text "'")
  else .ok { entries := (name, { protocolVersion, service }) :: builder.entries }

def makeError (code : Int32) (message : String) : ServiceError :=
  { code, domain := text "registry", message := text message }

def dispatchGetService (builder : ServiceRegistryBuilder) (name : Bytes) (minVersion : UInt32) :
    Except ServiceError Service :=
  match builder.entries.lookup name with
  | none => .error (makeError 1 "unknown service name")
  | some entry =>
    if entry.protocolVersion < minVersion then
      .error (makeError 2 "registered service version is lower than requested minimum")
    else if entry.service.ctx = 0 ∨ entry.service.vtable = 0 then
      .error (makeError 4 "registered service has null ctx or vtable")
    else .ok entry.service

def view (builder : ServiceRegistryBuilder) : ServiceRegistry where
  getService := some builder.dispatchGetService

/-- A host offers what is registered with pointers and in a version that will do. -/
theorem get_view {builder : ServiceRegistryBuilder} {traits : ServiceTraits} {service : Service} :
    builder.view.get traits = some service ↔
      ∃ version, builder.entries.lookup traits.kName =
        some { protocolVersion := version, service } ∧
        traits.kMinVersion ≤ version ∧ service.valid = true := by
  unfold ServiceRegistry.get ServiceRegistry.lookup view dispatchGetService
  dsimp only
  cases builder.entries.lookup traits.kName with
  | none =>
    constructor
    · intro h
      cases h
    · rintro ⟨version, h, -⟩
      cases h
  | some entry =>
    obtain ⟨version, other⟩ := entry
    dsimp only
    -- an older version is refused as if the service were not there
    by_cases hversion : version < traits.kMinVersion
    · rw [if_pos hversion]
      constructor
      · intro h
        cases h
      · rintro ⟨_, ⟨⟩, hle, -⟩
        exact absurd hversion (UInt32.not_lt.mpr hle)
    · rw [if_neg hversion]
      -- a service without an implementation likewise
      by_cases hvalid : other.valid = true
      · rw [if_neg (Service.valid_iff.mp hvalid)]
        dsimp only
        rw [if_pos hvalid]
        constructor
        · rintro ⟨⟩
          exact ⟨version, rfl, UInt32.not_lt.mp hversion, hvalid⟩
        · rintro ⟨_, ⟨⟩, -, -⟩
          rfl
      · rw [if_pos (not_not.mp (mt Service.valid_iff.mpr hvalid))]
        constructor
        · intro h
          cases h
        · rintro ⟨_, ⟨⟩, -, hother⟩
          exact absurd hother hvalid

/-- What is registered is offered to those that ask for no later version. -/
theorem get_of_register {builder registered : ServiceRegistryBuilder} {traits : ServiceTraits}
    {version : UInt32}
    {service : Service}
    (h : builder.tryRegisterService traits.kName version service = .ok registered)
    (hversion : traits.kMinVersion ≤ version) : registered.view.get traits = some service := by
  unfold tryRegisterService at h
  split at h
  · cases h
  · next hvalid =>
    split at h
    · cases h
    · obtain rfl := Except.ok.inj h
      refine get_view.mpr ⟨version, ?_, hversion, Service.valid_iff.mpr hvalid⟩
      rw [List.lookup_cons, beq_self_eq_true]

end ServiceRegistryBuilder

/-! ## What a base keeps -/

section Keeping

variable {Base : Type} (services : ServiceRegistry) (traits : ServiceTraits)
    (keep : Service → Base → Base)

/-- A mandatory service: without it the bind ends. -/
def fetch : EStateM Bytes Base Unit :=
  match services.require traits with
  | .ok view => modify (keep view)
  | .error reason => throw reason

/-- An optional service: without it the view stays as it is. -/
def fetchOptional : EStateM Bytes Base Unit :=
  match services.get traits with
  | some view => modify (keep view)
  | none => pure ()

variable {services traits}

theorem fetch_of_get {view : Service} (h : services.get traits = some view) (base : Base) :
    fetch services traits keep base = .ok () (keep view base) := by
  unfold fetch
  rw [services.require_of_get traits h]
  rfl

theorem fetch_of_none (h : services.get traits = none) (base : Base) :
    ∃ reason, fetch services traits keep base = .error reason base := by
  obtain ⟨reason, hreason⟩ := services.require_of_none traits h
  refine ⟨reason, ?_⟩
  unfold fetch
  rw [hreason]
  rfl

theorem fetchOptional_eq (base : Base) :
    fetchOptional services traits keep base =
      .ok () ((services.get traits).elim base fun view => keep view base) := by
  unfold fetchOptional
  cases services.get traits <;> rfl

end Keeping

def SourceWriteHostService : ServiceTraits :=
  { kName := text "pj.source_write.v1", kMinVersion := 1 }

def DataSourceRuntimeHostService : ServiceTraits :=
  { kName := text "pj.runtime.v1", kMinVersion := 1 }

def SourceObjectWriteHostService : ServiceTraits :=
  { kName := text "pj.source_object_write.v1", kMinVersion := 1 }

structure DataSourcePluginBase where
  serviceRegistry : ServiceRegistry := {}
  writeHostView : Service := {}
  objectWriteHostView : Service := {}
  runtimeHostView : Service := {}

def DataSourcePluginBase.bind (services : ServiceRegistry) :
    EStateM Bytes DataSourcePluginBase Unit := do
  fetch services SourceWriteHostService fun view base => { base with writeHostView := view }
  fetch services DataSourceRuntimeHostService fun view base => { base with runtimeHostView := view }
  fetchOptional services SourceObjectWriteHostService fun view base =>
    { base with objectWriteHostView := view }
  modify fun base => { base with serviceRegistry := services }

def ParserWriteHostService : ServiceTraits :=
  { kName := text "pj.parser_write.v1", kMinVersion := 1 }

def ParserObjectWriteHostService : ServiceTraits :=
  { kName := text "pj.parser_object_write.v1", kMinVersion := 1 }

def ParserRuntimeHostService : ServiceTraits :=
  { kName := text "pj.parser_runtime.v1", kMinVersion := 1 }

structure MessageParserPluginBase where
  serviceRegistry : ServiceRegistry := {}
  writeHostView : Service := {}
  objectWriteHostView : Service := {}
  parserRuntimeHostView : Service := {}

/-- The runtime's view is the only one that a bind clears. -/
def MessageParserPluginBase.bind (services : ServiceRegistry) :
    EStateM Bytes MessageParserPluginBase Unit := do
  fetch services ParserWriteHostService fun view base => { base with writeHostView := view }
  fetchOptional services ParserObjectWriteHostService fun view base =>
    { base with objectWriteHostView := view }
  modify fun base => { base with parserRuntimeHostView := {} }
  fetchOptional services ParserRuntimeHostService fun view base =>
    { base with parserRuntimeHostView := view }
  modify fun base => { base with serviceRegistry := services }

def ToolboxHostService : ServiceTraits := { kName := text "pj.toolbox_write.v1", kMinVersion := 1 }

def ToolboxRuntimeHostService : ServiceTraits :=
  { kName := text "pj.toolbox_runtime.v1", kMinVersion := 1 }

def ColorMapRegistryService : ServiceTraits := { kName := text "pj.colormap.v1", kMinVersion := 1 }

def ToolboxObjectReadHostService : ServiceTraits :=
  { kName := text "pj.toolbox_object_read.v1", kMinVersion := 1 }

structure ToolboxPluginBase where
  serviceRegistry : ServiceRegistry := {}
  toolboxHostView : Service := {}
  runtimeHostView : Service := {}
  colormapView : Service := {}
  objectReadHostView : Service := {}

def ToolboxPluginBase.bind (services : ServiceRegistry) : EStateM Bytes ToolboxPluginBase Unit := do
  fetch services ToolboxHostService fun view base => { base with toolboxHostView := view }
  fetch services ToolboxRuntimeHostService fun view base => { base with runtimeHostView := view }
  fetchOptional services ColorMapRegistryService fun view base => { base with colormapView := view }
  fetchOptional services ToolboxObjectReadHostService fun view base =>
    { base with objectReadHostView := view }
  modify fun base => { base with serviceRegistry := services }

def WidgetHostService : ServiceTraits := { kName := text "pj.widget_host.v1", kMinVersion := 1 }

structure WidgetPluginBase where
  serviceRegistry : ServiceRegistry := {}
  hostView : Service := {}

def WidgetPluginBase.bind (services : ServiceRegistry) : EStateM Bytes WidgetPluginBase Unit := do
  fetch services WidgetHostService fun view base => { base with hostView := view }
  modify fun base => { base with serviceRegistry := services }

/-! ## Binds one after the other -/

/-- A base, and the view that it keeps of each service. -/
structure PluginBase (Base : Type) where
  initial : Base
  bind : ServiceRegistry → EStateM Bytes Base Unit
  views : List (ServiceTraits × (Base → Service))

/-- A base after some calls, with the registry of the last that returned ok. -/
structure Bound (Base : Type) where
  base : Base
  last : Option ServiceRegistry := none

/-- What a registry offers; a service that it does not offer is a null pointer. -/
def offered (traits : ServiceTraits) (last : Option ServiceRegistry) : Service :=
  (last.bind fun services => services.get traits).getD {}

namespace PluginBase

variable {Base : Type} (plugin : PluginBase Base)

def call (services : ServiceRegistry) (state : Bound Base) : Bound Base :=
  match plugin.bind services state.base with
  | .ok _ base => { base, last := some services }
  | .error _ base => { state with base }

/-- Every view is what the registry of the last successful bind offers. -/
def Serves (state : Bound Base) : Prop :=
  ∀ view ∈ plugin.views, view.2 state.base = offered view.1 state.last

/-- A bind that fails changes no view. -/
def KeepsOnError (services : ServiceRegistry) (state : Bound Base) : Prop :=
  ∀ reason base, plugin.bind services state.base = .error reason base →
    ∀ view ∈ plugin.views, view.2 base = view.2 state.base

def fresh : Bound Base := { base := plugin.initial }

/-- Every call of a run satisfies `P`. -/
def Calls (P : ServiceRegistry → Bound Base → Prop) (calls : List ServiceRegistry) : Prop :=
  Runs.Taken (fun services state => some (plugin.call services state)) P calls plugin.fresh

/-- After every call the views are those of the last successful bind. -/
def Faithful (calls : List ServiceRegistry) : Prop :=
  plugin.Calls (fun services state => plugin.Serves (plugin.call services state) ∧
    plugin.KeepsOnError services state)
    calls

variable {plugin}

theorem faithful_iff {condition : ServiceRegistry → Base → Prop}
    (hfresh : plugin.Serves plugin.fresh)
    (hcall : ∀ services state, plugin.Serves state →
      (plugin.Serves (plugin.call services state) ∧ plugin.KeepsOnError services state ↔
        condition services state.base)) (calls : List ServiceRegistry) :
    plugin.Faithful calls ↔
      plugin.Calls (fun services state => condition services state.base) calls := by
  refine Runs.taken_congr plugin.Serves hcall ?_ hfresh
  rintro services state _ - ⟨hserves, -⟩ ⟨⟩
  exact hserves

/-! What a call comes to. -/

variable {services : ServiceRegistry} {state : Bound Base} {base : Base}

theorem call_of_ok (h : plugin.bind services state.base = .ok () base) :
    plugin.call services state = { base, last := some services } ∧
      plugin.KeepsOnError services state := by
  constructor
  · unfold call
    rw [h]
  · intro reason other herror
    rw [h] at herror
    cases herror

/-- After a failed call the views serve as before exactly where they are the same. -/
theorem kept_of_error {reason : Bytes} (h : plugin.bind services state.base = .error reason base)
    (hserves : plugin.Serves state) :
    plugin.Serves (plugin.call services state) ∧ plugin.KeepsOnError services state ↔
      ∀ view ∈ plugin.views, view.2 base = view.2 state.base := by
  have hcall : plugin.call services state = { state with base } := by
    unfold call
    rw [h]
  constructor
  · rintro ⟨-, hkeeps⟩
    exact hkeeps reason base h
  · intro hsame
    refine ⟨?_, ?_⟩
    · rw [hcall]
      intro view hview
      exact (hsame view hview).trans (hserves view hview)
    · intro _ other herror
      rw [h] at herror
      obtain ⟨-, rfl⟩ := EStateM.Result.error.inj herror
      exact hsame

theorem untouched {reason : Bytes} (h : plugin.bind services state.base = .error reason state.base)
    (hserves : plugin.Serves state) :
    plugin.Serves (plugin.call services state) ∧ plugin.KeepsOnError services state :=
  (kept_of_error h hserves).mpr fun _ _ => rfl

end PluginBase

/-! ## The four bases -/

/-- An optional view is as offered, unless one that is not offered was kept. -/
theorem getD_eq_getD_iff {offer : Option Service} {kept other : Service} :
    offer.getD kept = offer.getD other ↔ (offer = none → kept = other) := by
  cases offer with
  | none => exact ⟨fun h _ => h, fun h => h rfl⟩
  | some view =>
    refine iff_of_true rfl ?_
    intro h
    cases h

theorem offered_of_get {services : ServiceRegistry} {traits : ServiceTraits} {view : Service}
    (h : services.get traits = some view) : offered traits (some services) = view := by
  show (services.get traits).getD {} = view
  rw [h]
  rfl

theorem ne_none_of_get {services : ServiceRegistry} {traits : ServiceTraits} {view : Service}
    (h : services.get traits = some view) : services.get traits ≠ none := by
  rw [h]
  exact Option.some_ne_none view

section DataSource

def dataSource : PluginBase DataSourcePluginBase where
  initial := {}
  bind := DataSourcePluginBase.bind
  views :=
    [(SourceWriteHostService, DataSourcePluginBase.writeHostView),
      (DataSourceRuntimeHostService, DataSourcePluginBase.runtimeHostView),
      (SourceObjectWriteHostService, DataSourcePluginBase.objectWriteHostView)]

/-- The calls that leave no view behind: where the runtime is missing, the write service is the one that is
kept, and where the object service is missing, none is kept. -/
structure DataSourcePluginBase.Safe (services : ServiceRegistry) (base : DataSourcePluginBase) :
    Prop where
  write : ∀ view, services.get SourceWriteHostService = some view →
    services.get DataSourceRuntimeHostService = none → base.writeHostView = view
  objectWrite : services.get SourceWriteHostService ≠ none →
    services.get DataSourceRuntimeHostService ≠ none →
    services.get SourceObjectWriteHostService = none → base.objectWriteHostView = {}

theorem DataSourcePluginBase.bind_ok {services : ServiceRegistry} {write runtime : Service}
    (hwrite : services.get SourceWriteHostService = some write)
    (hruntime : services.get DataSourceRuntimeHostService = some runtime)
    (base : DataSourcePluginBase) :
    DataSourcePluginBase.bind services base = .ok ()
      { serviceRegistry := services
        writeHostView := write
        runtimeHostView := runtime
        objectWriteHostView :=
          (services.get SourceObjectWriteHostService).getD base.objectWriteHostView } := by
  unfold DataSourcePluginBase.bind
  rw [Scan.run_bind_ok (fetch_of_get _ hwrite base), Scan.run_bind_ok (fetch_of_get _ hruntime _),
    Scan.run_bind_ok (fetchOptional_eq _ _)]
  cases services.get SourceObjectWriteHostService <;> rfl

theorem serves_dataSource {state : Bound DataSourcePluginBase} :
    dataSource.Serves state ↔
      state.base.writeHostView = offered SourceWriteHostService state.last ∧
        state.base.runtimeHostView = offered DataSourceRuntimeHostService state.last ∧
        state.base.objectWriteHostView = offered SourceObjectWriteHostService state.last := by
  unfold PluginBase.Serves dataSource
  simp only [List.forall_mem_cons, List.not_mem_nil, IsEmpty.forall_iff, implies_true, and_true]

theorem dataSource_call (services : ServiceRegistry) (state : Bound DataSourcePluginBase)
    (hserves : dataSource.Serves state) :
    dataSource.Serves (dataSource.call services state) ∧ dataSource.KeepsOnError services state ↔
      DataSourcePluginBase.Safe services state.base := by
  cases hwrite : services.get SourceWriteHostService with
  | none =>
    obtain ⟨reason, hfetch⟩ :=
      fetch_of_none (fun view base => { base with writeHostView := view }) hwrite state.base
    have hbind : dataSource.bind services state.base = .error reason state.base :=
      Scan.run_bind_error hfetch
    refine iff_of_true (PluginBase.untouched hbind hserves) ⟨fun view hview => ?_,
      fun hsome => absurd hwrite hsome⟩
    exact absurd hwrite (ne_none_of_get hview)
  | some write =>
    cases hruntime : services.get DataSourceRuntimeHostService with
    | none =>
      -- the write service has been replaced already
      obtain ⟨reason, hfetch⟩ :=
        fetch_of_none (fun view base => { base with runtimeHostView := view }) hruntime
        { state.base with writeHostView := write }
      have hbind : dataSource.bind services state.base =
          .error reason { state.base with writeHostView := write } :=
        (Scan.run_bind_ok (fetch_of_get _ hwrite state.base)).trans (Scan.run_bind_error hfetch)
      rw [PluginBase.kept_of_error hbind hserves]
      constructor
      · intro hsame
        refine ⟨fun view hview _ => ?_, fun _ hsome => absurd hruntime hsome⟩
        have hkept : write = state.base.writeHostView := hsame _ List.mem_cons_self
        rw [← hkept]
        exact Option.some.inj (hwrite.symm.trans hview)
      · intro hsafe
        have hbase : { state.base with writeHostView := write } = state.base := by
          rw [← hsafe.write write hwrite hruntime]
        rw [hbase]
        exact fun _ _ => rfl
    | some runtime =>
      have hbind : dataSource.bind services state.base = _ :=
        DataSourcePluginBase.bind_ok hwrite hruntime state.base
      obtain ⟨hcall, hkeeps⟩ := PluginBase.call_of_ok hbind
      rw [and_iff_left hkeeps, hcall, serves_dataSource, offered_of_get hwrite,
        offered_of_get hruntime]
      constructor
      · rintro ⟨-, -, hobject⟩
        exact ⟨fun _ _ hnone => absurd hnone (ne_none_of_get hruntime), fun _ _ => getD_eq_getD_iff.mp hobject⟩
      · intro hsafe
        refine ⟨rfl, rfl, getD_eq_getD_iff.mpr ?_⟩
        exact hsafe.objectWrite (ne_none_of_get hwrite) (ne_none_of_get hruntime)

end DataSource

section MessageParser

def messageParser : PluginBase MessageParserPluginBase where
  initial := {}
  bind := MessageParserPluginBase.bind
  views :=
    [(ParserWriteHostService, MessageParserPluginBase.writeHostView),
      (ParserObjectWriteHostService, MessageParserPluginBase.objectWriteHostView),
      (ParserRuntimeHostService, MessageParserPluginBase.parserRuntimeHostView)]

/-- Where the object service is missing, none is kept; the runtime's view is cleared by every bind. -/
def MessageParserPluginBase.Safe (services : ServiceRegistry) (base : MessageParserPluginBase) :
    Prop :=
  services.get ParserWriteHostService ≠ none → services.get ParserObjectWriteHostService = none →
    base.objectWriteHostView = {}

theorem MessageParserPluginBase.bind_ok {services : ServiceRegistry} {write : Service}
    (hwrite : services.get ParserWriteHostService = some write) (base : MessageParserPluginBase) :
    MessageParserPluginBase.bind services base = .ok ()
      { serviceRegistry := services
        writeHostView := write
        objectWriteHostView :=
          (services.get ParserObjectWriteHostService).getD base.objectWriteHostView
        parserRuntimeHostView := (services.get ParserRuntimeHostService).getD {} } := by
  unfold MessageParserPluginBase.bind
  rw [Scan.run_bind_ok (fetch_of_get _ hwrite base), Scan.run_bind_ok (fetchOptional_eq _ _)]
  refine (Scan.run_bind_ok rfl).trans ((Scan.run_bind_ok (fetchOptional_eq _ _)).trans ?_)
  cases services.get ParserObjectWriteHostService <;> cases services.get
    ParserRuntimeHostService <;> rfl

theorem serves_messageParser {state : Bound MessageParserPluginBase} :
    messageParser.Serves state ↔
      state.base.writeHostView = offered ParserWriteHostService state.last ∧
        state.base.objectWriteHostView = offered ParserObjectWriteHostService state.last ∧
        state.base.parserRuntimeHostView = offered ParserRuntimeHostService state.last := by
  unfold PluginBase.Serves messageParser
  simp only [List.forall_mem_cons, List.not_mem_nil, IsEmpty.forall_iff, implies_true, and_true]

theorem messageParser_call (services : ServiceRegistry) (state : Bound MessageParserPluginBase)
    (hserves : messageParser.Serves state) :
    messageParser.Serves (messageParser.call services state) ∧
      messageParser.KeepsOnError services state ↔
      MessageParserPluginBase.Safe services state.base := by
  cases hwrite : services.get ParserWriteHostService with
  | none =>
    obtain ⟨reason, hfetch⟩ :=
      fetch_of_none (fun view base => { base with writeHostView := view }) hwrite state.base
    have hbind : messageParser.bind services state.base = .error reason state.base :=
      Scan.run_bind_error hfetch
    exact iff_of_true (PluginBase.untouched hbind hserves) fun hsome => absurd hwrite hsome
  | some write =>
    have hbind : messageParser.bind services state.base = _ :=
      MessageParserPluginBase.bind_ok hwrite state.base
    obtain ⟨hcall, hkeeps⟩ := PluginBase.call_of_ok hbind
    rw [and_iff_left hkeeps, hcall, serves_messageParser, offered_of_get hwrite]
    constructor
    · rintro ⟨-, hobject, -⟩
      exact fun _ => getD_eq_getD_iff.mp hobject
    · intro hsafe
      exact ⟨rfl, getD_eq_getD_iff.mpr (hsafe (ne_none_of_get hwrite)), rfl⟩

end MessageParser

section Toolbox

def toolbox : PluginBase ToolboxPluginBase where
  initial := {}
  bind := ToolboxPluginBase.bind
  views :=
    [(ToolboxHostService, ToolboxPluginBase.toolboxHostView),
      (ToolboxRuntimeHostService, ToolboxPluginBase.runtimeHostView),
      (ColorMapRegistryService, ToolboxPluginBase.colormapView),
      (ToolboxObjectReadHostService, ToolboxPluginBase.objectReadHostView)]

/-- As of a data source, with two optional services. -/
structure ToolboxPluginBase.Safe (services : ServiceRegistry) (base : ToolboxPluginBase) :
    Prop where
  host : ∀ view, services.get ToolboxHostService = some view →
    services.get ToolboxRuntimeHostService = none → base.toolboxHostView = view
  colormap : services.get ToolboxHostService ≠ none →
    services.get ToolboxRuntimeHostService ≠ none →
    services.get ColorMapRegistryService = none → base.colormapView = {}
  objectRead : services.get ToolboxHostService ≠ none →
    services.get ToolboxRuntimeHostService ≠ none →
    services.get ToolboxObjectReadHostService = none → base.objectReadHostView = {}

theorem ToolboxPluginBase.bind_ok {services : ServiceRegistry} {host runtime : Service}
    (hhost : services.get ToolboxHostService = some host)
    (hruntime : services.get ToolboxRuntimeHostService = some runtime) (base : ToolboxPluginBase) :
    ToolboxPluginBase.bind services base = .ok ()
      { serviceRegistry := services
        toolboxHostView := host
        runtimeHostView := runtime
        colormapView := (services.get ColorMapRegistryService).getD base.colormapView
        objectReadHostView :=
          (services.get ToolboxObjectReadHostService).getD base.objectReadHostView } := by
  unfold ToolboxPluginBase.bind
  rw [Scan.run_bind_ok (fetch_of_get _ hhost base), Scan.run_bind_ok (fetch_of_get _ hruntime _),
    Scan.run_bind_ok (fetchOptional_eq _ _), Scan.run_bind_ok (fetchOptional_eq _ _)]
  cases services.get ColorMapRegistryService <;> cases services.get
    ToolboxObjectReadHostService <;> rfl

theorem serves_toolbox {state : Bound ToolboxPluginBase} :
    toolbox.Serves state ↔
      state.base.toolboxHostView = offered ToolboxHostService state.last ∧
        state.base.runtimeHostView = offered ToolboxRuntimeHostService state.last ∧
        state.base.colormapView = offered ColorMapRegistryService state.last ∧
        state.base.objectReadHostView = offered ToolboxObjectReadHostService state.last := by
  unfold PluginBase.Serves toolbox
  simp only [List.forall_mem_cons, List.not_mem_nil, IsEmpty.forall_iff, implies_true, and_true]

theorem toolbox_call (services : ServiceRegistry) (state : Bound ToolboxPluginBase)
    (hserves : toolbox.Serves state) :
    toolbox.Serves (toolbox.call services state) ∧ toolbox.KeepsOnError services state ↔
      ToolboxPluginBase.Safe services state.base := by
  cases hhost : services.get ToolboxHostService with
  -- no host: the binding ends before it has stored anything
  | none =>
    obtain ⟨reason, hfetch⟩ :=
      fetch_of_none (fun view base => { base with toolboxHostView := view }) hhost state.base
    have hbind : toolbox.bind services state.base = .error reason state.base :=
      Scan.run_bind_error hfetch
    refine iff_of_true (PluginBase.untouched hbind hserves)
      ⟨fun view hview => ?_, fun hsome => absurd hhost hsome, fun hsome => absurd hhost hsome⟩
    exact absurd hhost (ne_none_of_get hview)
  | some host =>
    cases hruntime : services.get ToolboxRuntimeHostService with
    -- no runtime: the host is stored already, which is kept only where it was the same one
    | none =>
      obtain ⟨reason, hfetch⟩ :=
        fetch_of_none (fun view base => { base with runtimeHostView := view }) hruntime
        { state.base with toolboxHostView := host }
      have hbind : toolbox.bind services state.base =
          .error reason { state.base with toolboxHostView := host } :=
        (Scan.run_bind_ok (fetch_of_get _ hhost state.base)).trans (Scan.run_bind_error hfetch)
      rw [PluginBase.kept_of_error hbind hserves]
      constructor
      · intro hsame
        refine ⟨fun view hview _ => ?_,
          fun _ hsome => absurd hruntime hsome, fun _ hsome => absurd hruntime hsome⟩
        have hkept : host = state.base.toolboxHostView := hsame _ List.mem_cons_self
        rw [← hkept]
        exact Option.some.inj (hhost.symm.trans hview)
      · intro hsafe
        have hbase : { state.base with toolboxHostView := host } = state.base := by
          rw [← hsafe.host host hhost hruntime]
        rw [hbase]
        exact fun _ _ => rfl
    | some runtime =>
      -- both required services are there, and the optional ones overwrite only what is offered
      have hbind : toolbox.bind services state.base = _ :=
        ToolboxPluginBase.bind_ok hhost hruntime state.base
      obtain ⟨hcall, hkeeps⟩ := PluginBase.call_of_ok hbind
      rw [and_iff_left hkeeps, hcall, serves_toolbox, offered_of_get hhost, offered_of_get hruntime]
      constructor
      · rintro ⟨-, -, hcolormap, hobject⟩
        exact ⟨fun _ _ hnone => absurd hnone (ne_none_of_get hruntime),
          fun _ _ => getD_eq_getD_iff.mp hcolormap, fun _ _ => getD_eq_getD_iff.mp hobject⟩
      · intro hsafe
        have hsome := ne_none_of_get hhost
        have hsome' := ne_none_of_get hruntime
        exact ⟨rfl, rfl, getD_eq_getD_iff.mpr (hsafe.colormap hsome hsome'),
          getD_eq_getD_iff.mpr (hsafe.objectRead hsome hsome')⟩

end Toolbox

section Widget

def widget : PluginBase WidgetPluginBase where
  initial := {}
  bind := WidgetPluginBase.bind
  views := [(WidgetHostService, WidgetPluginBase.hostView)]

/-- With one service, which is mandatory, there is nothing to leave behind. -/
theorem widget_call (services : ServiceRegistry) (state : Bound WidgetPluginBase)
    (hserves : widget.Serves state) :
    widget.Serves (widget.call services state) ∧ widget.KeepsOnError services state := by
  cases hhost : services.get WidgetHostService with
  | none =>
    obtain ⟨reason, hfetch⟩ :=
      fetch_of_none (fun view base => { base with hostView := view }) hhost state.base
    have hbind : widget.bind services state.base = .error reason state.base :=
      Scan.run_bind_error hfetch
    exact PluginBase.untouched hbind hserves
  | some host =>
    have hbind : widget.bind services state.base =
        .ok () { serviceRegistry := services, hostView := host } :=
      Scan.run_bind_ok (fetch_of_get _ hhost state.base)
    obtain ⟨hcall, hkeeps⟩ := PluginBase.call_of_ok hbind
    refine ⟨?_, hkeeps⟩
    rw [hcall]
    exact List.forall_mem_singleton.mpr (offered_of_get hhost).symm

end Widget

/-! ## All of them -/

/-- The views are those of the last successful bind, in exactly those runs of which every call is safe; those of
a widget in every run. -/
theorem bindings_iff (calls : List ServiceRegistry) :
    (dataSource.Faithful calls ↔
        dataSource.Calls (fun services state => DataSourcePluginBase.Safe services state.base)
          calls) ∧
      (messageParser.Faithful calls ↔
        messageParser.Calls (fun services state => MessageParserPluginBase.Safe services state.base)
          calls) ∧
      (toolbox.Faithful calls ↔
        toolbox.Calls (fun services state => ToolboxPluginBase.Safe services state.base) calls) ∧
      widget.Faithful calls := by
  have hdataSource : dataSource.Serves dataSource.fresh := serves_dataSource.mpr ⟨rfl, rfl, rfl⟩
  have hmessageParser : messageParser.Serves messageParser.fresh :=
    serves_messageParser.mpr ⟨rfl, rfl, rfl⟩
  have htoolbox : toolbox.Serves toolbox.fresh := serves_toolbox.mpr ⟨rfl, rfl, rfl, rfl⟩
  have hwidget : widget.Serves widget.fresh := List.forall_mem_singleton.mpr rfl
  refine ⟨PluginBase.faithful_iff hdataSource dataSource_call calls,
    PluginBase.faithful_iff hmessageParser messageParser_call calls,
    PluginBase.faithful_iff htoolbox toolbox_call calls, ?_⟩
  refine Runs.taken_of_inv widget.Serves widget_call ?_ hwidget
  rintro services state _ hserves ⟨⟩
  exact (widget_call services state hserves).1

/-- A host that offers a parser an object service for its first topic, and none for its second. -/
def firstHost : ServiceRegistryBuilder :=
  { entries :=
      [(ParserWriteHostService.kName, { protocolVersion := 1, service := { ctx := 1, vtable := 2 } }),
        (ParserObjectWriteHostService.kName,
          { protocolVersion := 1, service := { ctx := 3, vtable := 4 } })] }

def secondHost : ServiceRegistryBuilder :=
  { entries := [(ParserWriteHostService.kName, { protocolVersion := 1, service := { ctx := 5, vtable := 6 } })] }

/-- The parser keeps the object service of the first. -/
theorem stale_object_service :
    ¬ ((∀ calls, dataSource.Faithful calls) ∧ (∀ calls, messageParser.Faithful calls) ∧
      (∀ calls, toolbox.Faithful calls) ∧ ∀ calls, widget.Faithful calls) := by
  rintro ⟨-, hparser, -, -⟩
  obtain ⟨-, ⟨hserves, -⟩, -⟩ := hparser [firstHost.view, secondHost.view]
  have hobject := (serves_messageParser.mp hserves).2.1
  revert hobject
  decide

end PlotJugglerSdk
