import Mathlib.Data.List.Basic

/-!
# The life cycle of a data source

The two base classes keep the state machine for the plugins written on them. What a
derived hook does is one of three things; what the base class does about it, and what it
tells the host, is modelled call by call, the trampoline's included.

* `FileSourceBase.…`, `StreamSourceBase.…` — the assignments to the state
* `Lawful`                                 — the documented state machine, over a run
* `Meets`                                  — the calls that are made in a state fit for them
* `lawful_iff`                             — a run is lawful exactly when its calls are such
-/

namespace PlotJugglerSdk.Source.Lifecycle

inductive DataSourceState where
  | idle
  | configuring
  | starting
  | running
  | paused
  | stopping
  | stopped
  | failed
  deriving DecidableEq

/-- Both are documented as terminal: a new instance is created to restart. -/
def DataSourceState.Terminal (state : DataSourceState) : Prop :=
  state = .stopped ∨ state = .failed

instance (state : DataSourceState) : Decidable state.Terminal :=
  inferInstanceAs (Decidable (_ ∨ _))

/-- What `importData`, `onStart` or `onPoll` does. -/
inductive HookResult where
  | success
  | error
  | exception
  deriving DecidableEq

/-- The calls of the runtime host that the base classes make. -/
inductive HostCall where
  | notifyState (state : DataSourceState)
  | progressFinish
  | requestStop (terminalState : DataSourceState) (reason : String)
  deriving DecidableEq

/-- A source: its state, what it told the host, and how often `importData` or `onStart`
was run. -/
structure SourceBase where
  state : DataSourceState := .idle
  hostCalls : List HostCall := []
  hookRuns : Nat := 0

namespace SourceBase

def assign (state : DataSourceState) (source : SourceBase) : SourceBase := { source with state }

def host (hostCall : HostCall) (source : SourceBase) : SourceBase :=
  { source with hostCalls := source.hostCalls ++ [hostCall] }

/-- `runtimeHost().notifyState(state_)` -/
def notifyState (source : SourceBase) : SourceBase := source.host (.notifyState source.state)

def runHook (source : SourceBase) : SourceBase := { source with hookRuns := source.hookRuns + 1 }

/-- The state last notified; a source that has notified none is idle. -/
def lastNotified (source : SourceBase) : DataSourceState :=
  (source.hostCalls.filterMap fun
    | .notifyState state => some state
    | _ => none).getLastD .idle

end SourceBase

/-- How a virtual function is left. -/
inductive Outcome where
  | returned (status : Bool)
  | threw
  deriving DecidableEq

/-- A trampoline reports an error, and an exception as one. -/
def Outcome.reported : Outcome → Bool
  | returned status => status
  | threw => false

/-! ## The base classes -/

namespace FileSourceBase

def start (importData : HookResult) (source : SourceBase) : Outcome × SourceBase :=
  let source := ((source.assign .starting).notifyState).runHook
  match importData with
  | .exception => (.threw, source)
  | .error => (.returned false, ((source.host .progressFinish).assign .failed).notifyState)
  | .success =>
    (.returned true,
      (((source.host .progressFinish).assign .stopped).notifyState).host
        (.requestStop .stopped "import complete"))

/-- The default of the base class. -/
def poll (source : SourceBase) : Outcome × SourceBase := (.returned true, source)

def stop (source : SourceBase) : Outcome × SourceBase := (.returned true, source.assign .stopped)

end FileSourceBase

namespace StreamSourceBase

def start (onStart : HookResult) (source : SourceBase) : Outcome × SourceBase :=
  let source := ((source.assign .starting).notifyState).runHook
  match onStart with
  | .exception => (.threw, source)
  | .error => (.returned false, (source.assign .failed).notifyState)
  | .success => (.returned true, (source.assign .running).notifyState)

def poll (onPoll : HookResult) (source : SourceBase) : Outcome × SourceBase :=
  match onPoll with
  | .exception => (.threw, source)
  | .error => (.returned false, source)
  | .success => (.returned true, source)

def stop (onStopThrows : Bool) (source : SourceBase) : Outcome × SourceBase :=
  if onStopThrows then (.threw, source) else (.returned true, (source.assign .stopped).notifyState)

end StreamSourceBase

/-! ## Runs -/

inductive Pattern where
  | file
  | stream
  deriving DecidableEq

/-- A call through the ABI, with what the derived hook does in it. -/
inductive Call where
  | start (hook : HookResult)
  | poll (hook : HookResult)
  | stop (hookThrows : Bool)
  deriving DecidableEq

/-- What a trampoline returns, and the source after it. -/
def call (pattern : Pattern) (source : SourceBase) (c : Call) : Bool × SourceBase :=
  let (outcome, source) :=
    match pattern, c with
    | .file, .start importData => FileSourceBase.start importData source
    | .file, .poll _ => FileSourceBase.poll source
    | .file, .stop _ => FileSourceBase.stop source
    | .stream, .start onStart => StreamSourceBase.start onStart source
    | .stream, .poll onPoll => StreamSourceBase.poll onPoll source
    | .stream, .stop onStopThrows => StreamSourceBase.stop onStopThrows source
  (outcome.reported, source)

def after (pattern : Pattern) (source : SourceBase) (calls : List Call) : SourceBase :=
  calls.foldl (fun source c => (call pattern source c).2) source

/-- A run from `source` obeys the documented state machine: after any first part of it in
which the state has become terminal, no more calls change the state or run the hook; a
start that reports a failure leaves the state failed; what the host was told last is the
state. -/
structure Lawful (pattern : Pattern) (source : SourceBase) (calls : List Call) : Prop where
  terminal : ∀ first more, calls = first ++ more → (after pattern source first).state.Terminal →
    (after pattern source calls).state = (after pattern source first).state ∧
      (after pattern source calls).hookRuns = (after pattern source first).hookRuns
  started : ∀ first hook more, calls = first ++ .start hook :: more →
    (call pattern (after pattern source first) (.start hook)).1 = false →
      (call pattern (after pattern source first) (.start hook)).2.state = .failed
  notified : ∀ first c more, calls = first ++ c :: more →
    (after pattern source (first ++ [c])).lastNotified = (after pattern source (first ++ [c])).state

/-- What the base classes ask of a call, in the state it finds: a start is the first one and
its hook does not throw, a file source is stopped only when it has stopped itself, and the
stop of a failed stream does not get past `onStop`. -/
def Meets : Pattern → DataSourceState → Call → Prop
  | _, state, .start hook => ¬ state.Terminal ∧ hook ≠ .exception
  | _, _, .poll _ => True
  | .file, state, .stop _ => state = .stopped
  | .stream, state, .stop onStopThrows => state = .failed → onStopThrows = true

/-! ## One call -/

namespace SourceBase

@[simp] theorem assign_state (state : DataSourceState) (source : SourceBase) :
    (source.assign state).state = state := rfl

@[simp] theorem assign_hookRuns (state : DataSourceState) (source : SourceBase) :
    (source.assign state).hookRuns = source.hookRuns := rfl

@[simp] theorem lastNotified_assign (state : DataSourceState) (source : SourceBase) :
    (source.assign state).lastNotified = source.lastNotified := rfl

@[simp] theorem host_state (hostCall : HostCall) (source : SourceBase) :
    (source.host hostCall).state = source.state := rfl

@[simp] theorem host_hookRuns (hostCall : HostCall) (source : SourceBase) :
    (source.host hostCall).hookRuns = source.hookRuns := rfl

@[simp] theorem lastNotified_host (hostCall : HostCall) (source : SourceBase) :
    (source.host hostCall).lastNotified =
      match hostCall with
      | .notifyState state => state
      | _ => source.lastNotified := by
  unfold lastNotified host
  cases hostCall <;> simp

@[simp] theorem notifyState_state (source : SourceBase) :
    source.notifyState.state = source.state := rfl

@[simp] theorem notifyState_hookRuns (source : SourceBase) :
    source.notifyState.hookRuns = source.hookRuns := rfl

@[simp] theorem lastNotified_notifyState (source : SourceBase) :
    source.notifyState.lastNotified = source.state := by
  simp [notifyState]

@[simp] theorem runHook_state (source : SourceBase) : source.runHook.state = source.state := rfl

@[simp] theorem runHook_hookRuns (source : SourceBase) :
    source.runHook.hookRuns = source.hookRuns + 1 := rfl

@[simp] theorem lastNotified_runHook (source : SourceBase) :
    source.runHook.lastNotified = source.lastNotified := rfl

end SourceBase

/-- Every start runs the hook, whatever state it finds. -/
theorem start_hookRuns (pattern : Pattern) (source : SourceBase) (hook : HookResult) :
    (call pattern source (.start hook)).2.hookRuns = source.hookRuns + 1 := by
  cases pattern <;> cases hook <;>
    simp [call, FileSourceBase.start, StreamSourceBase.start]

theorem hookRuns_le_call (pattern : Pattern) (source : SourceBase) (c : Call) :
    source.hookRuns ≤ (call pattern source c).2.hookRuns := by
  cases c with
  | start hook => rw [start_hookRuns]; omega
  | poll hook => cases pattern <;> cases hook <;> exact Nat.le_refl _
  | stop throws => cases pattern <;> cases throws <;> exact Nat.le_refl _

/-- A call made in a fit state keeps a terminal state, and does not start anything in it. -/
theorem Meets.terminal {pattern : Pattern} {source : SourceBase} {c : Call}
    (h : Meets pattern source.state c) (hterminal : source.state.Terminal) :
    (call pattern source c).2.state = source.state ∧
      (call pattern source c).2.hookRuns = source.hookRuns := by
  cases c with
  | start hook => exact absurd hterminal h.1
  | poll hook => cases pattern <;> cases hook <;> exact ⟨rfl, rfl⟩
  | stop throws =>
    cases pattern with
    | file =>
      have hstopped : source.state = .stopped := h
      exact ⟨hstopped.symm, rfl⟩
    | stream =>
      cases throws with
      | true => exact ⟨rfl, rfl⟩
      | false =>
        obtain hstopped | hfailed := hterminal
        · exact ⟨hstopped.symm, rfl⟩
        · exact absurd (h hfailed) (by decide)

theorem Meets.started {pattern : Pattern} {source : SourceBase} {hook : HookResult}
    (h : Meets pattern source.state (.start hook))
    (hfalse : (call pattern source (.start hook)).1 = false) :
    (call pattern source (.start hook)).2.state = .failed := by
  obtain ⟨-, hthrow⟩ := h
  cases hook with
  | success => cases pattern <;> exact Bool.noConfusion hfalse
  | error => cases pattern <;> rfl
  | exception => exact absurd rfl hthrow

/-- It leaves the host informed, when the host was. -/
theorem Meets.notified {pattern : Pattern} {source : SourceBase} {c : Call}
    (h : Meets pattern source.state c) (hsource : source.lastNotified = source.state) :
    (call pattern source c).2.lastNotified = (call pattern source c).2.state := by
  cases c with
  | start hook =>
    obtain ⟨-, hthrow⟩ := h
    cases hook with
    | success => cases pattern <;> simp [call, FileSourceBase.start, StreamSourceBase.start]
    | error => cases pattern <;> simp [call, FileSourceBase.start, StreamSourceBase.start]
    | exception => exact absurd rfl hthrow
  | poll hook => cases pattern <;> cases hook <;> exact hsource
  | stop throws =>
    cases pattern with
    | file =>
      have hstopped : source.state = .stopped := h
      show source.lastNotified = .stopped
      rw [hsource, hstopped]
    | stream =>
      cases throws with
      | true => exact hsource
      | false => simp [call, StreamSourceBase.stop]

/-! ## Whole runs -/

theorem after_append (pattern : Pattern) (source : SourceBase) (first more : List Call) :
    after pattern source (first ++ more) = after pattern (after pattern source first) more :=
  List.foldl_append

theorem after_singleton (pattern : Pattern) (source : SourceBase) (c : Call) :
    after pattern source [c] = (call pattern source c).2 := rfl

theorem hookRuns_le_after (pattern : Pattern) (source : SourceBase) (calls : List Call) :
    source.hookRuns ≤ (after pattern source calls).hookRuns := by
  induction calls generalizing source with
  | nil => exact Nat.le_refl _
  | cons c calls ih => exact Nat.le_trans (hookRuns_le_call pattern source c) (ih _)

/-- Every call of the run finds a state fit for it. -/
def AllMeet (pattern : Pattern) (source : SourceBase) (calls : List Call) : Prop :=
  ∀ first c more, calls = first ++ c :: more → Meets pattern (after pattern source first).state c

theorem AllMeet.tail {pattern : Pattern} {source : SourceBase} {c : Call} {calls : List Call}
    (h : AllMeet pattern source (c :: calls)) :
    Meets pattern source.state c ∧ AllMeet pattern (call pattern source c).2 calls := by
  refine ⟨h [] c calls rfl, ?_⟩
  intro first d more heq
  exact h (c :: first) d more (by rw [heq]; rfl)

theorem AllMeet.append {pattern : Pattern} {source : SourceBase} {first more : List Call}
    (h : AllMeet pattern source (first ++ more)) :
    AllMeet pattern (after pattern source first) more := by
  intro second c last heq
  rw [← after_append]
  exact h (first ++ second) c last (by rw [heq, List.append_assoc])

theorem AllMeet.terminal {pattern : Pattern} {source : SourceBase} {calls : List Call}
    (h : AllMeet pattern source calls) (hterminal : source.state.Terminal) :
    (after pattern source calls).state = source.state ∧
      (after pattern source calls).hookRuns = source.hookRuns := by
  induction calls generalizing source with
  | nil => exact ⟨rfl, rfl⟩
  | cons c calls ih =>
    obtain ⟨hfirst, hrest⟩ := h.tail
    obtain ⟨hstate, hruns⟩ := hfirst.terminal hterminal
    -- the call did not leave the terminal state, so the rest starts from it
    have hrest' := ih hrest (hstate ▸ hterminal)
    rw [hstate, hruns] at hrest'
    exact hrest'

theorem AllMeet.notified {pattern : Pattern} {source : SourceBase} {calls : List Call}
    (h : AllMeet pattern source calls) (hsource : source.lastNotified = source.state) :
    (after pattern source calls).lastNotified = (after pattern source calls).state := by
  induction calls generalizing source with
  | nil => exact hsource
  | cons c calls ih =>
    obtain ⟨hfirst, hrest⟩ := h.tail
    exact ih hrest (hfirst.notified hsource)

/-- In a lawful run the host knows the state before every call. -/
theorem Lawful.informed {pattern : Pattern} {source : SourceBase} {calls first more : List Call}
    (h : Lawful pattern source calls) (hsource : source.lastNotified = source.state)
    (heq : calls = first ++ more) :
    (after pattern source first).lastNotified = (after pattern source first).state := by
  obtain rfl | ⟨front, last, rfl⟩ := List.eq_nil_or_concat first
  · exact hsource
  · rw [List.concat_eq_append] at heq ⊢
    exact h.notified front last more (by rw [heq, List.append_assoc]; rfl)

theorem Lawful.meets {pattern : Pattern} {source : SourceBase} {calls : List Call}
    (h : Lawful pattern source calls) (hsource : source.lastNotified = source.state) :
    AllMeet pattern source calls := by
  intro first c more heq
  have hinformed := h.informed hsource heq
  have hnotified := h.notified first c more heq
  rw [after_append, after_singleton] at hnotified
  have hcalls : after pattern source calls =
      after pattern (call pattern (after pattern source first) c).2 more := by
    rw [heq, after_append]; rfl
  have hterminal := h.terminal first (c :: more) heq
  cases c with
  | start hook =>
    constructor
    · intro hstate
      -- the hook ran once more, and no later call can take that back
      obtain ⟨-, hruns⟩ := hterminal hstate
      have hle := hookRuns_le_after pattern
          (call pattern (after pattern source first) (.start hook)).2 more
      rw [← hcalls, hruns, start_hookRuns] at hle
      omega
    · rintro rfl
      have hfailed := h.started first .exception more heq (by cases pattern <;> rfl)
      cases pattern <;> exact absurd hfailed
        (by simp [call, FileSourceBase.start, StreamSourceBase.start])
  | poll hook => cases pattern <;> exact True.intro
  | stop throws =>
    cases pattern with
    | file =>
      -- the base class assigns the state without telling the host
      exact (hinformed.symm.trans hnotified : _ = DataSourceState.stopped)
    | stream =>
      intro hfailed
      cases throws with
      | true => rfl
      | false =>
        -- the failed source is stopped, which is another terminal state
        obtain ⟨hend, -⟩ := hterminal (.inr hfailed)
        obtain ⟨hstopped, -⟩ := h.terminal (first ++ [.stop false]) more
          (by rw [heq, List.append_assoc]; rfl) (by rw [after_append]; exact .inl rfl)
        rw [hend, hfailed, after_append] at hstopped
        exact DataSourceState.noConfusion hstopped

/-- The base classes keep the documented state machine in the runs in which every call finds
a state fit for it, and in no others. -/
theorem lawful_iff (pattern : Pattern) (calls : List Call) :
    Lawful pattern {} calls ↔
      ∀ first c more, calls = first ++ c :: more →
        Meets pattern (after pattern {} first).state c := by
  have hsource : ({} : SourceBase).lastNotified = ({} : SourceBase).state := rfl
  refine ⟨fun h => h.meets hsource, fun (h : AllMeet pattern {} calls) => ⟨?_, ?_, ?_⟩⟩
  · intro first more heq hterminal
    subst heq
    rw [after_append]
    exact h.append.terminal hterminal
  · intro first hook more heq hfalse
    exact (h first (.start hook) more heq).started hfalse
  · intro first c more heq
    subst heq
    rw [after_append]
    have hfirst : AllMeet pattern {} first := by
      intro front d back hfront
      exact h front d (back ++ c :: more) (by rw [hfront, List.append_assoc]; rfl)
    exact (h first c more rfl).notified (hfirst.notified hsource)

/-- A stream that failed to start is stopped: it leaves the terminal state. -/
theorem failed_then_stopped : ¬ Lawful .stream {} [.start .error, .stop false] := by
  intro h
  obtain ⟨hstate, -⟩ := h.terminal [.start .error] [.stop false] rfl (by decide)
  exact absurd hstate (by decide)

end PlotJugglerSdk.Source.Lifecycle
