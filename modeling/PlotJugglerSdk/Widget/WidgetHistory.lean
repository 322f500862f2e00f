import PlotJugglerSdk.Calls.Client
import PlotJugglerSdk.Plugin.ErrorBlock

/-!
# The history of a wire

A widget asks its host for the samples of a wire. Three parties are in the call: the plugin's
callback, which takes the samples, may want no more of them and may throw; the bridge, which
stands between it and the host's function; and that function, which offers samples as it likes.

* `stopped_run`      — once the callback has stopped, it is not called again
* `queryHistory_run` — a query is a loop over what the host offers, left at a stop or a throw
-/

namespace PlotJugglerSdk

open Calls

/-- One call of the plugin's callback; one that returns nothing always goes on. -/
inductive Delivered where
  | returned (goOn : Bool)
  | threw (what : Option String)

/-- A callback with a state of its own. -/
abbrev OnValue (State Value : Type) := State → Value → Delivered × State

structure WidgetHistoryQuery where
  input : UInt32 := 0
  slot : UInt32 := 0
  fromBits : UInt64 := 0
  toBits : UInt64 := 0
  maxSamples : UInt32 := 0
  deriving DecidableEq

variable {State Value : Type}

/-! ## The plugin's end -/

structure Delivery (State : Type) where
  callback : State
  thrown : Option String := none

/-- The function the plugin's view hands over: nothing is thrown through the host. -/
def sink (onValue : OnValue State Value) (target : Delivery State) (value : Value) :
    Bool × Delivery State :=
  match onValue target.callback value with
  | (.returned goOn, callback) => (goOn, { target with callback })
  | (.threw (some what), callback) => (false, { callback, thrown := some what })
  | (.threw none, callback) => (false, { callback, thrown := some "" })

/-! ## The bridge -/

/-- The host's function offers values and sees what the bridge answers to each. -/
structure WidgetHostBridge (Value : Type) where
  history : Option (WidgetHistoryQuery → Client Value Bool (Outcome UInt32))

namespace WidgetHostBridge

structure Bridged (State : Type) where
  stopped : Bool := false
  user : Delivery State

def bridgedSink (onValue : OnValue State Value) (bridged : Bridged State) (value : Value) :
    Bool × Bridged State :=
  -- a host that does not heed the answer goes on calling, but not the plugin
  if bridged.stopped then (false, bridged)
  else
    let (goOn, user) := sink onValue bridged.user value
    (goOn, { stopped := !goOn, user })

def answered : Outcome UInt32 → Except PJError UInt32
  | .ok total => .ok total
  | .error message => .error (fillError 1 "widget_host" message)
  | .exception (some what) => .error (fillError 1 "widget_host" ("history threw: " ++ what))
  | .exception none => .error (fillError 1 "widget_host" "history threw")

def queryHistory (self : WidgetHostBridge Value) (query : WidgetHistoryQuery)
    (onValue : OnValue State Value) (user : Delivery State) :
    Exchange Value (Bridged State) (Except PJError UInt32) :=
  match self.history with
  | none =>
    { calls := [], state := { user }
      result := .error (fillError 1 "widget_host" "history is not available") }
  | some history => ((history query).mapResult answered).against (bridgedSink onValue) { user }

end WidgetHostBridge

/-! ## The plugin's view -/

def thrownText (what : String) : String :=
  if what = "" then "history callback threw" else "history callback threw: " ++ what

/-- A view that is not bound has no bridge. -/
def queryHistoryView (host : Option (WidgetHostBridge Value)) (query : WidgetHistoryQuery)
    (onValue : OnValue State Value) (callback : State) : Except String UInt32 × State :=
  match host with
  | none => (.error "widget host does not provide query_history", callback)
  | some bridge =>
    let exchange := bridge.queryHistory query onValue { callback }
    let delivery := exchange.state.user
    match exchange.result with
    | .error err => (.error (errorToString err), delivery.callback)
    | .ok total =>
      match delivery.thrown with
      | some what => (.error (thrownText what), delivery.callback)
      | none => (.ok total, delivery.callback)

/-! ## What a query comes to -/

/-- A loop over the values that is left where the callback stops or throws. -/
def deliver (onValue : OnValue State Value) : State → List Value → Delivery State
  | callback, [] => { callback }
  | callback, value :: values =>
    match onValue callback value with
    | (.returned true, callback) => deliver onValue callback values
    | (.returned false, callback) => { callback }
    | (.threw what, callback) => { callback, thrown := some (what.getD "") }

namespace WidgetHostBridge

variable {onValue : OnValue State Value} {Result : Type}

/-- Once it has stopped, nothing the host does reaches the callback. -/
theorem stopped_run (client : Client Value Bool Result) {bridged : Bridged State}
    (h : bridged.stopped = true) :
    (client.against (bridgedSink onValue) bridged).state = bridged := by
  induction client with
  | finish result => rfl
  | call value next ih =>
    have hsame : bridgedSink onValue bridged value = (false, bridged) := by
      simp [bridgedSink, h]
    unfold Client.against
    rw [hsame]
    exact ih false

theorem against_deliver (client : Client Value Bool Result) (callback : State) :
    (client.against (bridgedSink onValue) { user := { callback } }).state.user =
      deliver onValue callback
        (client.against (bridgedSink onValue) { user := { callback } }).calls := by
  induction client generalizing callback with
  | finish result => rfl
  | call value next ih =>
    unfold Client.against
    simp only [bridgedSink, Bool.false_eq_true, if_false, sink]
    rw [deliver]
    rcases hdelivered : onValue callback value with ⟨(_ | _) | (_ | what), after⟩
    · exact congrArg Bridged.user (stopped_run (next false) rfl)
    · exact ih true after
    · exact congrArg Bridged.user (stopped_run (next false) rfl)
    · exact congrArg Bridged.user (stopped_run (next false) rfl)

end WidgetHostBridge

/-- Whatever the host's function does: the plugin's callback is called on the values offered, in
their order, up to the first at which it stops or throws and on none after it; the plugin is told
what it threw if the host's function returned a number, else what became of that function. -/
theorem queryHistory_run (history : WidgetHistoryQuery → Client Value Bool (Outcome UInt32))
    (query : WidgetHistoryQuery) (onValue : OnValue State Value) (callback : State) :
    let offered := (history query).against (WidgetHostBridge.bridgedSink onValue)
      { user := { callback } }
    let taken := deliver onValue callback offered.calls
    queryHistoryView (some { history := some history }) query onValue callback =
      (match offered.result, taken.thrown with
        | .ok total, none => .ok total
        | .ok _, some what => .error (thrownText what)
        | .error message, _ => .error (errorToString (fillError 1 "widget_host" message))
        | .exception what, _ =>
          .error (errorToString (fillError 1 "widget_host"
            (what.elim "history threw" ("history threw: " ++ ·)))),
        taken.callback) := by
  intro offered taken
  have htaken : offered.state.user = taken := WidgetHostBridge.against_deliver _ _
  have hquery : WidgetHostBridge.queryHistory { history := some history } query onValue
      { callback } =
        { calls := offered.calls, state := offered.state
          result := WidgetHostBridge.answered offered.result } :=
    against_mapResult _ _ _ _
  unfold queryHistoryView
  dsimp only
  rw [hquery, ← htaken]
  cases offered.result with
  | ok total =>
    rcases offered.state.user.thrown with _ | what
    · rfl
    · rfl
  | error message => rfl
  | exception what => cases what <;> rfl

end PlotJugglerSdk
