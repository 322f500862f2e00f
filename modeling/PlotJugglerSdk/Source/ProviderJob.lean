import PlotJugglerSdk.Concurrency.Runs
import Mathlib.Tactic.Ring

/-!
# Provider jobs

`startJob` runs a provider's body on a worker thread behind a gate. While it runs,
any thread may ask it to cancel, the body may register a cancel hook, report its
dataset and arm a watchdog, and the watchdog's `on_expire` and the hook may call
back into the job. The worker ends with `on_terminal`.

A step is one atomic operation or one section under a mutex. A call of the job's
functions is an entry of `calls`, which says who made it and how far it is; whoever
waits for a call (the body, `on_expire`, the hook) is over only when its calls are.
`log` is the list of everything of the host's and the provider's that was started.

* `Lawful`            — what holds between the flags, the threads and the calls
* `Lawful.step`       — every step keeps it
* `terminal_protocol` — exactly once, last, and nothing after it
-/

namespace PlotJugglerSdk

namespace ProviderJob

open Runs

/-! ## The state -/

/-- Who makes a call. -/
inductive Origin where
  /-- Any thread, through the job's cancel slot. -/
  | external
  /-- The body, on its own thread or on one it waits for. -/
  | body
  /-- `on_expire`, on the watchdog's thread. -/
  | expiry
  /-- The cancel hook, on the thread that runs it. -/
  | hook
  deriving DecidableEq

/-- How far a call is. -/
inductive CallPhase where
  -- `requestCancel`
  | cancelRequested
  | cancelFlagged
  | cancelTaken (hook : Nat)
  | cancelInHook
  | cancelHookOver
  -- `onCancel`
  | registering (hook : Nat)
  | registerTaken (hook : Nat)
  | registerInHook
  -- `notifyDataset`
  | notifying
  | notifyTaken
  | inDataset
  | done
  deriving DecidableEq

namespace CallPhase

/-- Of `requestCancel`, or over. -/
def ofCancel : CallPhase → Bool
  | cancelRequested | cancelFlagged | cancelTaken _ | cancelInHook | cancelHookOver | done => true
  | _ => false

/-- Between taking the hook and leaving it, where `disarmHook` waits for it. -/
def tracked : CallPhase → Bool
  | cancelTaken _ | cancelInHook | cancelHookOver => true
  | _ => false

/-- The same in `onCancel`, which `disarmHook` does not know of. -/
def untracked : CallPhase → Bool
  | registerTaken _ | registerInHook => true
  | _ => false

/-- Took the hook and has not started it. -/
def pendingHook : CallPhase → Bool
  | cancelTaken _ | registerTaken _ => true
  | _ => false

def inHook : CallPhase → Bool
  | cancelInHook | registerInHook => true
  | _ => false

def pendingDataset : CallPhase → Bool
  | notifyTaken => true
  | _ => false

end CallPhase

structure Call where
  origin : Origin
  phase : CallPhase
  deriving DecidableEq

inductive StartPhase where
  | spawned
  | ctxSet
  | populated
  | returned
  deriving DecidableEq

/-- The steps of `armWatchdog`. -/
inductive ArmPhase where
  | stopping
  | joining
  | resetting
  | spawning
  | awaiting
  deriving DecidableEq

inductive WorkerPhase where
  | gated
  | starting
  | inBody (arming : Option ArmPhase)
  | disarming
  | disarmed
  | stopping
  | joining
  | firing
  | terminalTaken
  | inTerminal
  | completed
  deriving DecidableEq

/-- The body is running. -/
def WorkerPhase.hasBody : WorkerPhase → Bool
  | inBody _ => true
  | _ => false

/-- How far the worker is. -/
def WorkerPhase.rank : WorkerPhase → Nat
  | gated => 0
  | starting => 1
  | inBody _ => 2
  | disarming => 3
  | disarmed => 4
  | stopping => 5
  | joining => 6
  | firing => 7
  | terminalTaken => 8
  | inTerminal => 9
  | completed => 10

/-- The watchdog was joined and no other started. -/
def WorkerPhase.noWatchdog : WorkerPhase → Bool
  | inBody (some .resetting) | inBody (some .spawning) => true
  | firing | terminalTaken | inTerminal | completed => true
  | _ => false

inductive WatchdogPhase where
  | spawned
  | waiting
  /-- Timed out, `on_expire` not called yet. -/
  | expiring
  | inExpire
  | exited
  deriving DecidableEq

/-- Something of the host's or the provider's that was started. -/
inductive Fired where
  | hook (hook : Nat)
  | expire
  | dataset
  | terminal
  deriving DecidableEq

structure JobState where
  /-- The host gave an `on_dataset`. -/
  onDataset : Bool := false
  start : StartPhase := .spawned
  startGate : Bool := false
  worker : WorkerPhase := .gated
  cancelled : Bool := false
  datasetNotified : Bool := false
  terminalFired : Bool := false
  cancelHook : Option Nat := none
  hookFired : Bool := false
  hookRunning : Bool := false
  watchdogStop : Bool := false
  watchdog : Option WatchdogPhase := none
  calls : List Call := []
  log : List Fired := []
  deriving DecidableEq

/-- `PJ_descriptor_import_callbacks_v1_t`: which slots are not null. -/
structure Callbacks where
  structSize : UInt32
  onDataset : Bool
  onTerminal : Bool

def fieldCovered (structSize : UInt32) (offset size : Nat) : Bool :=
  offset + size ≤ structSize.toNat

/-- `startJob` up to the worker's spawn, which may fail. -/
def startJob (outJob body : Bool) (callbacks : Option Callbacks) (spawned : Bool) :
    Except String JobState :=
  if !outJob then .error "null out_job"
  else if !body then .error "a job body is required"
  else
    match callbacks with
    | none => .error "on_terminal callback is required"
    | some callbacks =>
      if !fieldCovered callbacks.structSize 16 8 || !callbacks.onTerminal then
        .error "on_terminal callback is required"
      else if !spawned then .error "could not start the import worker thread"
      else .ok { onDataset := fieldCovered callbacks.structSize 8 8 && callbacks.onDataset }

namespace JobState

/-- Nobody of that origin is in a call. -/
def idle (origin : Origin) (s : JobState) : Bool :=
  s.calls.all fun call => call.origin ≠ origin || call.phase = .done

def addCall (origin : Origin) (phase : CallPhase) (s : JobState) : JobState :=
  { s with calls := s.calls ++ [{ origin, phase }] }

def moveCall (index : Nat) (origin : Origin) (phase : CallPhase) (s : JobState) : JobState :=
  { s with calls := s.calls.set index { origin, phase } }

def fire (fired : Fired) (s : JobState) : JobState := { s with log := s.log ++ [fired] }

end JobState

/-! ## The steps -/

/-- The next step of a call. -/
def callStep (index : Nat) (call : Call) (s : JobState) : Option JobState :=
  let move := JobState.moveCall index call.origin
  match call.phase with
  -- `requestCancel`: the flag, then the hook if there is one and it has not fired
  | .cancelRequested => some (move .cancelFlagged { s with cancelled := true })
  | .cancelFlagged =>
    match s.hookFired, s.cancelHook with
    | false, some hook =>
      some (move (.cancelTaken hook)
        { s with hookFired := true, hookRunning := true, cancelHook := none })
    | _, _ => some (move .done s)
  | .cancelTaken hook => some (move .cancelInHook (s.fire (.hook hook)))
  -- the call is inside the hook as long as the hook's own calls go on
  | .cancelInHook => if s.idle .hook then some (move .cancelHookOver s) else none
  | .cancelHookOver => some (move .done { s with hookRunning := false })
  -- `onCancel`: a hook that comes after the flag is fired at once, outside the lock
  | .registering hook =>
    if !s.cancelled then some (move .done { s with cancelHook := some hook })
    else if s.hookFired then some (move .done s)
    else some (move (.registerTaken hook) { s with hookFired := true })
  | .registerTaken hook => some (move .registerInHook (s.fire (.hook hook)))
  | .registerInHook => if s.idle .hook then some (move .done s) else none
  -- `notifyDataset`: the exchange of the flag lets one call through
  | .notifying =>
    if s.datasetNotified then some (move .done s)
    else
      some (move (if s.onDataset then .notifyTaken else .done) { s with datasetNotified := true })
  | .notifyTaken => some (move .inDataset (s.fire .dataset))
  | .inDataset => some (move .done s)
  | .done => none

/-- The watchdog that `stopWatchdog` joins is over, or there is none. -/
def watchdogJoined (s : JobState) : Bool := s.watchdog = none || s.watchdog = some .exited

/-- The next step of the worker, where it has one of its own. -/
def workerStep (s : JobState) : Option JobState :=
  match s.worker with
  -- the first action of the thread is `start_gate.acquire`
  | .gated => if s.startGate then some { s with startGate := false, worker := .starting } else none
  | .starting => some { s with worker := if s.cancelled then .disarming else .inBody none }
  -- the body's own steps are its calls, and its return is an event
  | .inBody none => none
  -- `armWatchdog` stops the watchdog that runs, and spawns another
  | .inBody (some .stopping) =>
    some { s with watchdogStop := true, worker := .inBody (some .joining) }
  | .inBody (some .joining) =>
    if watchdogJoined s then
      some { s with watchdog := none, worker := .inBody (some .resetting) }
    else none
  | .inBody (some .resetting) =>
    some { s with watchdogStop := false, worker := .inBody (some .spawning) }
  | .inBody (some .spawning) =>
    some { s with watchdog := some .spawned, worker := .inBody (some .awaiting) }
  | .inBody (some .awaiting) =>
    -- it returns once the new thread has its lock
    if s.watchdog = some .spawned then none else some { s with worker := .inBody none }
  -- the body is over: the hook is disarmed, and one in flight is waited out
  | .disarming => some { s with cancelHook := none, hookFired := true, worker := .disarmed }
  | .disarmed => if s.hookRunning then none else some { s with worker := .stopping }
  -- then the watchdog, so that it cannot fire after the terminal
  | .stopping => some { s with watchdogStop := true, worker := .joining }
  | .joining =>
    if watchdogJoined s then some { s with watchdog := none, worker := .firing } else none
  -- and the terminal, at most once
  | .firing =>
    if s.terminalFired then some { s with worker := .completed }
    else some { s with terminalFired := true, worker := .terminalTaken }
  | .terminalTaken => some { s.fire .terminal with worker := .inTerminal }
  | .inTerminal => some { s with worker := .completed }
  | .completed => none

/-- The next step of the watchdog's thread. -/
def watchdogStep (s : JobState) : Option JobState :=
  match s.watchdog with
  | some .spawned => some { s with watchdog := some .waiting }
  | some .waiting => if s.watchdogStop then some { s with watchdog := some .exited } else none
  | some .expiring => some { s.fire .expire with watchdog := some .inExpire }
  | some .inExpire => if s.idle .expiry then some { s with watchdog := some .exited } else none
  | some .exited | none => none

inductive Event where
  /-- `startJob` after the spawn. -/
  | start
  | worker
  /-- The body returns or throws. -/
  | bodyEnds
  | arm
  /-- The watchdog's thread cannot be started. -/
  | armFails
  | watchdog
  /-- The watchdog's wait times out. -/
  | timeout
  | requestCancel (origin : Origin)
  | onCancel (origin : Origin) (hook : Nat)
  | notifyDataset (origin : Origin)
  | call (index : Nat)

/-- Who can be calling: the body while it runs, `on_expire` and the hook likewise. -/
def calling (s : JobState) : Origin → Bool
  | .external => false
  | .body => s.worker.hasBody
  | .expiry => s.watchdog = some .inExpire
  | .hook => s.calls.any fun call => call.phase.inHook

def step : Event → JobState → Option JobState
  | .start, s =>
    match s.start with
    | .spawned => some { s with start := .ctxSet }
    | .ctxSet => some { s with start := .populated }
    -- the gate is released last, with `out_job` populated
    | .populated => some { s with start := .returned, startGate := true }
    | .returned => none
  | .worker, s => workerStep s
  | .bodyEnds, s =>
    if s.worker = .inBody none && s.idle .body then some { s with worker := .disarming } else none
  | .arm, s =>
    if s.worker = .inBody none then some { s with worker := .inBody (some .stopping) } else none
  | .armFails, s =>
    if s.worker = .inBody (some .spawning) then some { s with worker := .inBody none } else none
  | .watchdog, s => watchdogStep s
  -- the predicate is looked at once more when the wait times out
  | .timeout, s =>
    if s.watchdog = some .waiting then
      some { s with watchdog := some (if s.watchdogStop then .exited else .expiring) }
    else none
  -- the host may cancel at any time
  | .requestCancel origin, s =>
    if origin = .external || calling s origin then some (s.addCall origin .cancelRequested)
    else none
  -- the rest takes a `JobControl`, which the body alone is given
  | .onCancel origin hook, s =>
    if calling s origin then some (s.addCall origin (.registering hook)) else none
  | .notifyDataset origin, s =>
    if calling s origin then some (s.addCall origin .notifying) else none
  | .call index, s =>
    match s.calls[index]? with
    | some call => callStep index call s
    | none => none

/-! ## What holds -/

namespace JobState

/-- The number of calls in one of those phases. -/
def count (p : CallPhase → Bool) (s : JobState) : Nat := s.calls.countP fun call => p call.phase

end JobState

def Fired.isHook : Fired → Bool
  | hook _ => true
  | _ => false

/-- Whoever made the call and waits for it is still there. -/
def Placed (s : JobState) (call : Call) : Prop :=
  match call.origin with
  | .external => call.phase.ofCancel = true
  | .body => call.phase = .done ∨ s.worker.hasBody = true
  | .expiry => call.phase = .done ∨ s.watchdog = some .inExpire
  | .hook => call.phase = .done ∨ 0 < s.count CallPhase.inHook ∧ call.phase.untracked = false

/-- The terminal callback is the last that was started, from its rank on. -/
structure Ended (rank : Nat) (log : List Fired) : Prop where
  before : rank < 9 → .terminal ∉ log
  after : 9 ≤ rank → ∃ earlier, log = earlier ++ [.terminal] ∧ .terminal ∉ earlier

structure Lawful (s : JobState) : Prop where
  placed : ∀ call ∈ s.calls, Placed s call
  tracked : s.count CallPhase.tracked = s.hookRunning.toNat
  /-- One call at most has a hook to run. -/
  runners : s.count CallPhase.tracked + s.count CallPhase.untracked ≤ s.hookFired.toNat
  hooks : s.log.countP Fired.isHook + s.count CallPhase.pendingHook ≤ s.hookFired.toNat
  datasets : s.log.count .dataset + s.count CallPhase.pendingDataset ≤ s.datasetNotified.toNat
  gated : s.worker = .gated →
    s.log = [] ∧ s.cancelHook = none ∧ s.hookFired = false ∧ s.watchdog = none
  started : s.startGate = true ∨ s.worker ≠ .gated → s.start = .returned
  disarmed : 4 ≤ s.worker.rank → s.hookFired = true
  settled : 5 ≤ s.worker.rank → s.hookRunning = false
  joined : s.worker.noWatchdog = true → s.watchdog = none
  fired : s.terminalFired = true ↔ 8 ≤ s.worker.rank
  ended : Ended s.worker.rank s.log

/-- Past the gate, and the last watchdog not joined. -/
def Live (s : JobState) : Prop := 0 < s.worker.rank ∧ s.worker.rank < 7

theorem rank_pos {phase : WorkerPhase} (h : phase ≠ .gated) : 0 < phase.rank := by
  cases phase with
  | gated => exact absurd rfl h
  | starting | inBody _ | disarming | disarmed | stopping | joining | firing | terminalTaken
    | inTerminal | completed => exact Nat.succ_pos _

theorem rank_eq_two {phase : WorkerPhase} (h : phase.hasBody = true) : phase.rank = 2 := by
  cases phase with
  | inBody arming => rfl
  | gated | starting | disarming | disarmed | stopping | joining | firing | terminalTaken
    | inTerminal | completed => exact absurd h (by decide)

theorem noWatchdog_of_rank {phase : WorkerPhase} (h : 7 ≤ phase.rank) :
    phase.noWatchdog = true := by
  cases phase with
  | firing | terminalTaken | inTerminal | completed => rfl
  | gated | starting | inBody _ | disarming | disarmed | stopping | joining =>
    exact absurd h (by simp [WorkerPhase.rank])

/-! ## Who is alive -/

section Live

variable {s : JobState}

theorem count_pos {p : CallPhase → Bool} {call : Call} (hcall : call ∈ s.calls)
    (h : p call.phase = true) : 0 < s.count p :=
  List.countP_pos_iff.mpr ⟨call, hcall, h⟩

/-- Whoever has a hook to run has marked it as fired. -/
theorem Lawful.live_of_fired (h : Lawful s) (hfired : s.hookFired = true)
    (hjoined : s.worker.rank < 7) : Live s := by
  refine ⟨rank_pos ?_, hjoined⟩
  intro hgated
  have hnot := (h.gated hgated).2.2.1
  rw [hfired] at hnot
  exact absurd hnot (by decide)

theorem live_of_body (hbody : s.worker.hasBody = true) : Live s := by
  have hrank := rank_eq_two hbody
  unfold Live
  omega

theorem Lawful.live_of_watchdog (h : Lawful s) (hwatchdog : s.watchdog ≠ none) : Live s := by
  refine ⟨rank_pos ?_, ?_⟩
  · intro hgated
    exact hwatchdog (h.gated hgated).2.2.2
  · by_cases hrank : s.worker.rank < 7
    · exact hrank
    · exact absurd (h.joined (noWatchdog_of_rank (by omega))) hwatchdog

theorem Lawful.live_of_tracked (h : Lawful s) (htracked : 0 < s.count CallPhase.tracked) :
    Live s := by
  have hrunning := h.tracked
  have hrunners := h.runners
  refine h.live_of_fired ?_ ?_
  · cases hfired : s.hookFired with
    | true => rfl
    | false =>
      rw [hfired, Bool.toNat_false] at hrunners
      omega
  · by_cases hrank : s.worker.rank < 5
    · omega
    · have hsettled := h.settled (by omega)
      rw [hsettled, Bool.toNat_false] at hrunning
      omega

theorem tracked_or_untracked {phase : CallPhase} (h : phase.inHook = true) :
    phase.tracked = true ∨ phase.untracked = true := by
  cases phase with
  | cancelInHook => exact .inl rfl
  | registerInHook => exact .inr rfl
  | cancelRequested | cancelFlagged | cancelTaken _ | cancelHookOver | registering _
    | registerTaken _ | notifying | notifyTaken | inDataset | done =>
    exact absurd h (by simp [CallPhase.inHook])

theorem Lawful.fired_of_inHook (h : Lawful s) (hin : 0 < s.count CallPhase.inHook) :
    s.hookFired = true := by
  obtain ⟨call, hcall, hphase⟩ := List.countP_pos_iff.mp hin
  have hrunners := h.runners
  have hle := Bool.toNat_le s.hookFired
  have hone : s.hookFired.toNat = 1 := by
    rcases tracked_or_untracked hphase with htracked | huntracked
    · have hcount := count_pos hcall htracked
      omega
    · have hcount := count_pos hcall huntracked
      omega
  exact Bool.toNat_eq_one.mp hone

/-- A hook of `onCancel` was registered by the body or by `on_expire`. -/
theorem Lawful.live_of_untracked (h : Lawful s) {call : Call} (hcall : call ∈ s.calls)
    (huntracked : call.phase.untracked = true) : Live s := by
  have hplaced := h.placed call hcall
  have hactive : call.phase ≠ .done := by
    intro hdone
    rw [hdone] at huntracked
    exact absurd huntracked (by decide)
  unfold Placed at hplaced
  split at hplaced
  next =>
    generalize call.phase = phase at huntracked hplaced
    cases phase <;> exact absurd huntracked (by simp_all [CallPhase.ofCancel, CallPhase.untracked])
  next => exact live_of_body (hplaced.resolve_left hactive)
  next =>
    refine h.live_of_watchdog ?_
    rw [hplaced.resolve_left hactive]
    simp
  next =>
    have hnot := (hplaced.resolve_left hactive).2
    rw [huntracked] at hnot
    exact absurd hnot (by decide)

theorem Lawful.live_of_inHook (h : Lawful s) (hin : 0 < s.count CallPhase.inHook) : Live s := by
  obtain ⟨call, hcall, hphase⟩ := List.countP_pos_iff.mp hin
  rcases tracked_or_untracked hphase with htracked | huntracked
  · exact h.live_of_tracked (count_pos hcall htracked)
  · exact h.live_of_untracked hcall huntracked

/-- Every call but a `requestCancel` has somebody waiting for it. -/
theorem Lawful.live_of_call (h : Lawful s) {call : Call} (hcall : call ∈ s.calls)
    (hphase : call.phase.ofCancel = false) : Live s := by
  have hplaced := h.placed call hcall
  have hactive : call.phase ≠ .done := by
    intro hdone
    rw [hdone] at hphase
    exact absurd hphase (by decide)
  unfold Placed at hplaced
  split at hplaced
  next =>
    rw [hphase] at hplaced
    exact absurd hplaced (by decide)
  next => exact live_of_body (hplaced.resolve_left hactive)
  next =>
    refine h.live_of_watchdog ?_
    rw [hplaced.resolve_left hactive]
    simp
  next => exact h.live_of_inHook (hplaced.resolve_left hactive).1

end Live

/-! ## The steps keep it: the worker and the watchdog -/

section Step

variable {s s' : JobState}

theorem done_of_idle {origin : Origin} (h : s.idle origin = true) {call : Call}
    (hcall : call ∈ s.calls) (horigin : call.origin = origin) : call.phase = .done := by
  have hall := List.all_eq_true.mp h call hcall
  simpa [horigin] using hall

/-- The calls stay placed when nobody leaves whom they keep waiting. -/
theorem placed_kept (h : ∀ call ∈ s.calls, Placed s call) (hcalls : s'.calls = s.calls)
    (hbody : s.worker.hasBody = true → s'.worker.hasBody = true ∨ s.idle .body = true)
    (hexpiry : s.watchdog = some .inExpire →
      s'.watchdog = some .inExpire ∨ s.idle .expiry = true) :
    ∀ call ∈ s'.calls, Placed s' call := by
  intro call hcall
  rw [hcalls] at hcall
  have hplaced := h call hcall
  have hcount : s'.count CallPhase.inHook = s.count CallPhase.inHook := by
    unfold JobState.count
    rw [hcalls]
  obtain ⟨origin, phase⟩ := call
  -- only the place of a call may have moved: its thread, or the hook it is made from
  cases origin with
  | external => exact hplaced
  | body =>
    rcases hplaced with hdone | hthere
    · exact .inl hdone
    · rcases hbody hthere with hstays | hidle
      · exact .inr hstays
      · exact .inl (done_of_idle hidle hcall rfl)
  | expiry =>
    rcases hplaced with hdone | hthere
    · exact .inl hdone
    · rcases hexpiry hthere with hstays | hidle
      · exact .inr hstays
      · exact .inl (done_of_idle hidle hcall rfl)
  | hook =>
    rcases hplaced with hdone | ⟨hin, huntracked⟩
    · exact .inl hdone
    · refine .inr ⟨?_, huntracked⟩
      rw [hcount]
      exact hin

theorem Ended.moved {rank rank' : Nat} {log : List Fired} (h : Ended rank log)
    (hrank : 9 ≤ rank ↔ 9 ≤ rank') : Ended rank' log := by
  refine ⟨fun hlt => h.before ?_, fun hle => h.after (hrank.mpr hle)⟩
  omega

theorem Ended.fire {rank : Nat} {log : List Fired} (h : Ended rank log) (hrank : rank < 7)
    (fired : Fired) (hfired : fired ≠ .terminal) : Ended rank (log ++ [fired]) := by
  refine ⟨fun hlt hmem => ?_, fun hle => by omega⟩
  rcases List.mem_append.mp hmem with hmem | hmem
  · exact h.before hlt hmem
  · exact hfired (List.mem_singleton.mp hmem).symm

/-- The worker moves on, and nothing else. -/
theorem Lawful.moveWorker (h : Lawful s) {phase : WorkerPhase} (next : WorkerPhase)
    (hworker : s.worker = phase) (hstart : s.start = .returned) (hnext : next ≠ .gated)
    (hbody : phase.hasBody = true → next.hasBody = true ∨ s.idle .body = true)
    (hdisarmed : 4 ≤ next.rank → s.hookFired = true)
    (hsettled : 5 ≤ next.rank → s.hookRunning = false)
    (hjoined : next.noWatchdog = true → s.watchdog = none)
    (hfired : 8 ≤ phase.rank ↔ 8 ≤ next.rank)
    (hended : 9 ≤ phase.rank ↔ 9 ≤ next.rank) : Lawful { s with worker := next } := by
  subst hworker
  exact
    { h with
      placed := placed_kept h.placed rfl hbody .inl
      gated := fun hgated => absurd hgated hnext
      started := fun _ => hstart
      disarmed := hdisarmed
      settled := hsettled
      joined := hjoined
      fired := h.fired.trans hfired
      ended := h.ended.moved hended }

/-- The same while the worker has not begun to take the job down. -/
theorem Lawful.moveEarly (h : Lawful s) {phase : WorkerPhase} (next : WorkerPhase)
    (hworker : s.worker = phase) (hstart : s.start = .returned) (hphase : phase.rank < 4)
    (hnext : 0 < next.rank ∧ next.rank < 4)
    (hjoined : next.noWatchdog = true → s.watchdog = none)
    (hbody : phase.hasBody = true → next.hasBody = true ∨ s.idle .body = true) :
    Lawful { s with worker := next } := by
  refine h.moveWorker next hworker hstart ?_ hbody ?_ ?_ hjoined ?_ ?_
  · rintro rfl
    exact absurd hnext.1 (by decide)
  · omega
  · omega
  · omega
  · omega

theorem Lawful.setWatchdog (h : Lawful s) {watchdog : Option WatchdogPhase}
    (hthere : s.worker = .gated ∨ s.worker.noWatchdog = true → watchdog = none)
    (hexpiry : s.watchdog = some .inExpire →
      watchdog = some .inExpire ∨ s.idle .expiry = true) :
    Lawful { s with watchdog := watchdog } := by
  refine
    { h with
      placed := placed_kept h.placed rfl .inl hexpiry
      gated := fun hgated => ?_
      joined := fun hno => hthere (.inr hno) }
  obtain ⟨hlog, hhook, hfired, -⟩ := h.gated hgated
  exact ⟨hlog, hhook, hfired, hthere (.inl hgated)⟩

theorem watchdogJoined_expiry (h : watchdogJoined s = true)
    (hexpire : s.watchdog = some .inExpire) : False := by
  unfold watchdogJoined at h
  rw [hexpire] at h
  exact absurd h (by decide)

theorem Lawful.worker (h : Lawful s) (hstep : workerStep s = some s') : Lawful s' := by
  have hstart : s.worker ≠ .gated → s.start = .returned := fun hne => h.started (.inr hne)
  unfold workerStep at hstep
  split at hstep
  next hworker =>
    -- the gate, which `startJob` opens last
    split at hstep
    next hgate =>
      obtain rfl := Option.some.inj hstep
      have hreturned := h.started (.inl hgate)
      have hmoved : Lawful { s with worker := .starting } :=
        h.moveEarly _ hworker hreturned (by decide) (by decide) (fun hno => absurd hno (by decide))
          fun hbody => absurd hbody (by decide)
      exact { hmoved with started := fun _ => hreturned }
    next => exact absurd hstep (by simp)
  next hworker =>
    obtain rfl := Option.some.inj hstep
    have hreturned := hstart (by rw [hworker]; decide)
    refine h.moveEarly _ hworker hreturned (by decide) ?_ (fun hno => ?_) fun hbody => ?_
    · split <;> decide
    · exact absurd hno (by split <;> decide)
    · exact absurd hbody (by decide)
  next => exact absurd hstep (by simp)
  next hworker =>
    -- `armWatchdog`, which runs within the body
    obtain rfl := Option.some.inj hstep
    have hreturned := hstart (by rw [hworker]; decide)
    have hstopped : Lawful { s with watchdogStop := true } := { h with }
    exact hstopped.moveEarly _ hworker hreturned (by decide) (by decide)
      (fun hno => absurd hno (by decide)) fun _ => .inl rfl
  next hworker =>
    split at hstep
    next hjoined =>
      obtain rfl := Option.some.inj hstep
      have hreturned := hstart (by rw [hworker]; decide)
      have hnone : Lawful { s with watchdog := none } :=
        h.setWatchdog (fun _ => rfl) fun hexpire => (watchdogJoined_expiry hjoined hexpire).elim
      exact hnone.moveEarly _ hworker hreturned (by decide) (by decide) (fun _ => rfl)
        fun _ => .inl rfl
    next => exact absurd hstep (by simp)
  next hworker =>
    obtain rfl := Option.some.inj hstep
    have hreturned := hstart (by rw [hworker]; decide)
    have hreset : Lawful { s with watchdogStop := false } := { h with }
    have hnone := h.joined (by rw [hworker]; rfl)
    exact hreset.moveEarly _ hworker hreturned (by decide) (by decide) (fun _ => hnone)
      fun _ => .inl rfl
  next hworker =>
    -- the previous watchdog was joined, so no `on_expire` loses its thread
    obtain rfl := Option.some.inj hstep
    have hreturned := hstart (by rw [hworker]; decide)
    have hnone := h.joined (by rw [hworker]; rfl)
    have hmoved : Lawful { s with worker := .inBody (some .awaiting) } :=
      h.moveEarly _ hworker hreturned (by decide) (by decide) (fun _ => hnone) fun _ => .inl rfl
    refine hmoved.setWatchdog (fun hthere => ?_) fun hexpire => ?_
    · exact absurd hthere (by simp [WorkerPhase.noWatchdog])
    · have hexpire' : s.watchdog = some .inExpire := hexpire
      rw [hnone] at hexpire'
      exact absurd hexpire' (by simp)
  next hworker =>
    split at hstep
    next => exact absurd hstep (by simp)
    next =>
      obtain rfl := Option.some.inj hstep
      have hreturned := hstart (by rw [hworker]; decide)
      exact h.moveEarly _ hworker hreturned (by decide) (by decide)
        (fun hno => absurd hno (by decide)) fun _ => .inl rfl
  next hworker =>
    -- `disarmHook`: whoever comes for the hook from now on finds it fired
    obtain rfl := Option.some.inj hstep
    have hreturned := hstart (by rw [hworker]; decide)
    have hdisarmed : Lawful { s with cancelHook := none, hookFired := true } :=
      { h with
        runners := h.runners.trans (Bool.toNat_le _)
        hooks := h.hooks.trans (Bool.toNat_le _)
        gated := fun hgated => absurd (hworker.symm.trans hgated) (by decide)
        disarmed := fun _ => rfl }
    refine hdisarmed.moveWorker _ hworker hreturned (by decide) (fun hbody => ?_) (fun _ => rfl)
      (fun hrank => ?_) (fun hno => ?_) (by decide) (by decide)
    · exact absurd hbody (by decide)
    · exact absurd hrank (by decide)
    · exact absurd hno (by decide)
  next hworker =>
    split at hstep
    next => exact absurd hstep (by simp)
    next hrunning =>
      obtain rfl := Option.some.inj hstep
      have hreturned := hstart (by rw [hworker]; decide)
      have hfired := h.disarmed (by rw [hworker]; decide)
      refine h.moveWorker _ hworker hreturned (by decide) (fun hbody => ?_) (fun _ => hfired)
        (fun _ => Bool.eq_false_iff.mpr hrunning) (fun hno => ?_) (by decide) (by decide)
      · exact absurd hbody (by decide)
      · exact absurd hno (by decide)
  next hworker =>
    obtain rfl := Option.some.inj hstep
    have hreturned := hstart (by rw [hworker]; decide)
    have hfired := h.disarmed (by rw [hworker]; decide)
    have hsettled := h.settled (by rw [hworker]; decide)
    have hstopped : Lawful { s with watchdogStop := true } := { h with }
    refine hstopped.moveWorker _ hworker hreturned (by decide) (fun hbody => ?_) (fun _ => hfired)
      (fun _ => hsettled) (fun hno => ?_) (by decide) (by decide)
    · exact absurd hbody (by decide)
    · exact absurd hno (by decide)
  next hworker =>
    split at hstep
    next hjoined =>
      obtain rfl := Option.some.inj hstep
      have hreturned := hstart (by rw [hworker]; decide)
      have hfired := h.disarmed (by rw [hworker]; decide)
      have hsettled := h.settled (by rw [hworker]; decide)
      have hnone : Lawful { s with watchdog := none } :=
        h.setWatchdog (fun _ => rfl) fun hexpire => (watchdogJoined_expiry hjoined hexpire).elim
      refine hnone.moveWorker _ hworker hreturned (by decide) (fun hbody => ?_) (fun _ => hfired)
        (fun _ => hsettled) (fun _ => rfl) (by decide) (by decide)
      exact absurd hbody (by decide)
    next => exact absurd hstep (by simp)
  next hworker =>
    split at hstep
    next hfired =>
      -- the defensive test never finds it fired
      have hrank := h.fired.mp hfired
      rw [hworker] at hrank
      exact absurd hrank (by decide)
    next =>
      obtain rfl := Option.some.inj hstep
      have hreturned := hstart (by rw [hworker]; decide)
      have hrank : s.worker.rank = 7 := by rw [hworker]; rfl
      refine
        { h with
          placed := placed_kept h.placed rfl
            (fun hbody => absurd (rank_eq_two hbody) (by omega)) .inl
          gated := fun hgated => ?_
          started := fun _ => hreturned
          disarmed := fun _ => h.disarmed (by omega)
          settled := fun _ => h.settled (by omega)
          joined := fun _ => h.joined (by rw [hworker]; rfl)
          fired := ?_
          ended := h.ended.moved ?_ }
      · exact WorkerPhase.noConfusion hgated
      · show true = true ↔ 8 ≤ WorkerPhase.terminalTaken.rank
        decide
      · rw [hrank]
        show 9 ≤ 7 ↔ 9 ≤ WorkerPhase.terminalTaken.rank
        decide
  next hworker =>
    -- `on_terminal`: the first of its kind in the log, and its last entry
    obtain rfl := Option.some.inj hstep
    have hreturned := hstart (by rw [hworker]; decide)
    have hrank : s.worker.rank = 8 := by rw [hworker]; rfl
    have hfirst := h.ended.before (by omega)
    refine
      { h with
        placed := placed_kept h.placed rfl
          (fun hbody => absurd (rank_eq_two hbody) (by omega)) .inl
        hooks := ?_
        datasets := ?_
        gated := fun hgated => ?_
        started := fun _ => hreturned
        disarmed := fun _ => h.disarmed (by omega)
        settled := fun _ => h.settled (by omega)
        joined := fun _ => h.joined (by rw [hworker]; rfl)
        fired := h.fired.trans ?_
        ended := ⟨fun hlt => ?_, fun _ => ⟨s.log, rfl, hfirst⟩⟩ }
    · show (s.log ++ [Fired.terminal]).countP _ + _ ≤ _
      rw [countP_snoc]
      exact h.hooks
    · show (s.log ++ [Fired.terminal]).count _ + _ ≤ _
      rw [List.count_append]
      exact h.datasets
    · exact WorkerPhase.noConfusion hgated
    · rw [hrank]
      show 8 ≤ 8 ↔ 8 ≤ WorkerPhase.inTerminal.rank
      decide
    · have hno : WorkerPhase.inTerminal.rank < 9 := hlt
      exact absurd hno (by decide)
  next hworker =>
    obtain rfl := Option.some.inj hstep
    have hreturned := hstart (by rw [hworker]; decide)
    have hfired := h.disarmed (by rw [hworker]; decide)
    have hsettled := h.settled (by rw [hworker]; decide)
    have hjoined := h.joined (by rw [hworker]; rfl)
    refine h.moveWorker _ hworker hreturned (by decide) (fun hbody => ?_) (fun _ => hfired)
      (fun _ => hsettled) (fun _ => hjoined) (by decide) (by decide)
    exact absurd hbody (by decide)
  next => exact absurd hstep (by simp)

/-- A watchdog that is there moves on. -/
theorem Lawful.moveWatchdog (h : Lawful s) {phase next : WatchdogPhase}
    (hwatchdog : s.watchdog = some phase)
    (hexpiry : phase = .inExpire → s.idle .expiry = true) :
    Lawful { s with watchdog := some next } := by
  refine h.setWatchdog (fun hthere => ?_) fun hexpire => ?_
  · -- before the gate and after the join there is none
    have hnone : s.watchdog = none := by
      rcases hthere with hgated | hno
      · exact (h.gated hgated).2.2.2
      · exact h.joined hno
    rw [hwatchdog] at hnone
    exact absurd hnone (by simp)
  · rw [hwatchdog] at hexpire
    exact .inr (hexpiry (Option.some.inj hexpire))

/-- Whatever is started before the last watchdog is joined, but a hook or the dataset's
callback, which are counted. -/
theorem Lawful.fireExpire (h : Lawful s) (hlive : Live s) : Lawful (s.fire .expire) := by
  refine
    { h with
      hooks := ?_
      datasets := ?_
      gated := fun hgated => ?_
      ended := h.ended.fire hlive.2 .expire (by decide) }
  · show (s.log ++ [Fired.expire]).countP _ + _ ≤ _
    rw [countP_snoc]
    exact h.hooks
  · show (s.log ++ [Fired.expire]).count _ + _ ≤ _
    rw [List.count_append]
    exact h.datasets
  · have hpos := hlive.1
    have hworker : s.worker = .gated := hgated
    rw [hworker] at hpos
    exact absurd hpos (by decide)

theorem Lawful.watchdogMoves (h : Lawful s) (hstep : watchdogStep s = some s') : Lawful s' := by
  unfold watchdogStep at hstep
  split at hstep
  next hwatchdog =>
    obtain rfl := Option.some.inj hstep
    exact h.moveWatchdog hwatchdog fun hexpire => absurd hexpire (by decide)
  next hwatchdog =>
    split at hstep
    next =>
      obtain rfl := Option.some.inj hstep
      exact h.moveWatchdog hwatchdog fun hexpire => absurd hexpire (by decide)
    next => exact absurd hstep (by simp)
  next hwatchdog =>
    obtain rfl := Option.some.inj hstep
    have hlive := h.live_of_watchdog (by rw [hwatchdog]; simp)
    exact (h.fireExpire hlive).moveWatchdog hwatchdog fun hexpire => absurd hexpire (by decide)
  next hwatchdog =>
    split at hstep
    next hidle =>
      obtain rfl := Option.some.inj hstep
      exact h.moveWatchdog hwatchdog fun _ => hidle
    next => exact absurd hstep (by simp)
  next => exact absurd hstep (by simp)
  next => exact absurd hstep (by simp)

/-! ## The steps keep it: the calls -/

theorem count_move {index : Nat} {origin : Origin} {before : CallPhase}
    (hfound : s.calls[index]? = some { origin, phase := before }) (after : CallPhase)
    (p : CallPhase → Bool) :
    (s.moveCall index origin after).count p + (p before).toNat = s.count p + (p after).toNat := by
  have hset := countP_set hfound { origin, phase := after } fun call => p call.phase
  have hnat (b : Bool) : b.toNat = if b = true then 1 else 0 := by cases b <;> rfl
  rw [hnat, hnat]
  exact hset

/-- A call moves on; if it leaves a hook then the hook's own calls are over. -/
theorem placed_moved (h : ∀ call ∈ s.calls, Placed s call) {index : Nat} {origin : Origin}
    {before after : CallPhase} (hfound : s.calls[index]? = some { origin, phase := before })
    (hcalls : s'.calls = s.calls.set index { origin, phase := after })
    (hworker : s'.worker = s.worker) (hwatchdog : s'.watchdog = s.watchdog)
    (hactive : before ≠ .done) (hcancel : before.ofCancel = true → after.ofCancel = true)
    (huntracked : origin = .hook → after.untracked = false)
    (hin : s.idle .hook = true ∨
      (0 < s.count CallPhase.inHook → 0 < s'.count CallPhase.inHook)) :
    ∀ call ∈ s'.calls, Placed s' call := by
  -- the calls that are there as they were
  have hkept : ∀ call ∈ s.calls, Placed s' call := by
    intro call hcall
    have hplaced := h call hcall
    obtain ⟨from_, phase⟩ := call
    cases from_ with
    | external => exact hplaced
    | body =>
      refine hplaced.imp_right fun hthere => ?_
      rw [hworker]
      exact hthere
    | expiry =>
      refine hplaced.imp_right fun hthere => ?_
      rw [hwatchdog]
      exact hthere
    | hook =>
      rcases hplaced with hdone | ⟨hpos, hnot⟩
      · exact .inl hdone
      · rcases hin with hidle | hin
        · exact .inl (done_of_idle hidle hcall rfl)
        · exact .inr ⟨hin hpos, hnot⟩
  intro call hcall
  rw [hcalls] at hcall
  rcases List.mem_or_eq_of_mem_set hcall with hcall | rfl
  · exact hkept call hcall
  · have hplaced := hkept _ (List.mem_of_getElem? hfound)
    cases origin with
    | external => exact hcancel hplaced
    | body => exact .inr (hplaced.resolve_left hactive)
    | expiry => exact .inr (hplaced.resolve_left hactive)
    | hook => exact .inr ⟨(hplaced.resolve_left hactive).1, huntracked rfl⟩

section Move

variable {index : Nat} {origin : Origin} {before after : CallPhase}

/-- A call moves on, and the flags and the log with it: what the call stops or
begins to count as is what they lose or gain. -/
theorem Lawful.move (h : Lawful s)
    (hfound : s.calls[index]? = some { origin, phase := before }) (hactive : before ≠ .done)
    (hcancel : before.ofCancel = true → after.ofCancel = true)
    (huntracked : origin = .hook → after.untracked = false)
    (hin : s.idle .hook = true ∨ (before.inHook = true → after.inHook = true))
    {cancelled datasetNotified hookFired hookRunning : Bool} {cancelHook : Option Nat}
    {log : List Fired}
    (htracked : s.hookRunning.toNat + after.tracked.toNat =
      hookRunning.toNat + before.tracked.toNat)
    (hrunners : s.hookFired.toNat + (after.tracked.toNat + after.untracked.toNat) ≤
      hookFired.toNat + (before.tracked.toNat + before.untracked.toNat))
    (hhooks : log.countP Fired.isHook + after.pendingHook.toNat + s.hookFired.toNat ≤
      s.log.countP Fired.isHook + before.pendingHook.toNat + hookFired.toNat)
    (hdatasets : log.count .dataset + after.pendingDataset.toNat + s.datasetNotified.toNat ≤
      s.log.count .dataset + before.pendingDataset.toNat + datasetNotified.toNat)
    (hgated : s.worker = .gated → log = [] ∧ cancelHook = none ∧ hookFired = false)
    (hdisarmed : 4 ≤ s.worker.rank → hookFired = true)
    (hsettled : 5 ≤ s.worker.rank → hookRunning = false)
    (hended : Ended s.worker.rank log) :
    Lawful (({ s with cancelled, datasetNotified, hookFired, hookRunning, cancelHook, log }).moveCall
      index origin after) := by
  -- every count changes by what the two phases of this call count as
  let moved := s.moveCall index origin after
  have hcount : ∀ p, moved.count p + (p before).toNat = s.count p + (p after).toNat :=
    count_move hfound after
  have hinHook := hcount CallPhase.inHook
  have hmovedTracked := hcount CallPhase.tracked
  have hmovedUntracked := hcount CallPhase.untracked
  have hmovedHook := hcount CallPhase.pendingHook
  have hmovedDataset := hcount CallPhase.pendingDataset
  have hold := h.tracked
  refine
    { h with
      placed := placed_moved h.placed hfound rfl rfl rfl hactive hcancel huntracked
        (hin.imp_right fun hstays hpos => ?_)
      tracked := ?_
      runners := ?_
      hooks := ?_
      datasets := ?_
      gated := fun hworker => ?_
      disarmed := hdisarmed
      settled := hsettled
      ended := hended }
  · show 0 < moved.count CallPhase.inHook
    have hle : before.inHook.toNat ≤ after.inHook.toNat := by
      cases hbefore : before.inHook with
      | false => exact Nat.zero_le _
      | true => rw [hstays hbefore]
    omega
  · show moved.count CallPhase.tracked = hookRunning.toNat
    omega
  · have hcounted := h.runners
    show moved.count CallPhase.tracked + moved.count CallPhase.untracked ≤ hookFired.toNat
    omega
  · have hcounted := h.hooks
    show log.countP Fired.isHook + moved.count CallPhase.pendingHook ≤ hookFired.toNat
    omega
  · have hcounted := h.datasets
    show log.count .dataset + moved.count CallPhase.pendingDataset ≤ datasetNotified.toNat
    omega
  · obtain ⟨hlog, hhook, hfired⟩ := hgated hworker
    exact ⟨hlog, hhook, hfired, (h.gated hworker).2.2.2⟩

theorem not_gated (hlive : Live s) : s.worker ≠ .gated := by
  intro hgated
  have hpos := hlive.1
  rw [hgated] at hpos
  exact absurd hpos (by decide)

/-- A move that neither takes nor leaves a hook, nor takes the dataset's callback. -/
theorem Lawful.quietMove (h : Lawful s)
    (hfound : s.calls[index]? = some { origin, phase := before }) (hactive : before ≠ .done)
    (hcancel : before.ofCancel = true → after.ofCancel = true)
    (hsame : ∀ p ∈ [CallPhase.tracked, CallPhase.untracked, CallPhase.pendingHook,
      CallPhase.inHook, CallPhase.pendingDataset], p before = false ∧ p after = false) :
    Lawful (s.moveCall index origin after) := by
  have htracked := hsame CallPhase.tracked (by simp)
  have huntracked := hsame CallPhase.untracked (by simp)
  have hhook := hsame CallPhase.pendingHook (by simp)
  have hdataset := hsame CallPhase.pendingDataset (by simp)
  refine h.move hfound hactive hcancel (fun _ => huntracked.2) (.inr fun hin => ?_) ?_ ?_ ?_ ?_
    (fun hgated => ?_) h.disarmed h.settled h.ended
  · exact absurd (hsame CallPhase.inHook (by simp)).1 (by simp [hin])
  · rw [htracked.1, htracked.2]
  · rw [htracked.1, htracked.2, huntracked.1, huntracked.2]
  · rw [hhook.1, hhook.2]
  · rw [hdataset.1, hdataset.2]
  · obtain ⟨hlog, hnone, hfired, -⟩ := h.gated hgated
    exact ⟨hlog, hnone, hfired⟩

variable {hook : Nat}

/-- `requestCancel` takes the hook: the one test of `hook_fired` decides who runs it. -/
theorem Lawful.cancelTakes (h : Lawful s)
    (hfound : s.calls[index]? = some { origin, phase := .cancelFlagged })
    (hfired : s.hookFired = false) (hhook : s.cancelHook = some hook) :
    Lawful (({ s with hookFired := true, hookRunning := true, cancelHook := none }).moveCall
      index origin (.cancelTaken hook)) := by
  have hidle : s.hookRunning.toNat = 0 := by
    have htracked := h.tracked
    have hrunners := h.runners
    rw [hfired, Bool.toNat_false] at hrunners
    omega
  refine h.move hfound (by simp) (fun _ => rfl) (fun _ => rfl) (.inr fun hin => ?_) ?_ ?_ ?_
    (Nat.le_refl _) (fun hgated => ?_) (fun _ => rfl) (fun hrank => ?_) h.ended
  · exact absurd hin (by decide)
  · rw [hidle]
    rfl
  · rw [hfired]
    exact Nat.le_refl _
  · rw [hfired]
    exact Nat.le_refl _
  · -- before the gate there is no hook to take
    have hnone := (h.gated hgated).2.1
    rw [hhook] at hnone
    exact absurd hnone (by simp)
  · have hgone := h.disarmed (Nat.le_of_succ_le hrank)
    rw [hfired] at hgone
    exact absurd hgone (by decide)

/-- `onCancel` after the cancellation takes the hook it was given. -/
theorem Lawful.registerTakes (h : Lawful s)
    (hfound : s.calls[index]? = some { origin, phase := .registering hook })
    (hfired : s.hookFired = false) :
    Lawful (({ s with hookFired := true }).moveCall index origin (.registerTaken hook)) := by
  have hmem := List.mem_of_getElem? hfound
  have hlive := h.live_of_call hmem rfl
  refine h.move hfound (by simp) (fun hcancel => ?_) (fun horigin => ?_) (.inr fun hin => ?_) rfl
    ?_ ?_ (Nat.le_refl _) (fun hgated => absurd hgated (not_gated hlive)) (fun _ => rfl) h.settled
    h.ended
  · exact absurd hcancel (by simp [CallPhase.ofCancel])
  · -- a hook cannot register another: it was fired itself
    subst horigin
    have hpos := ((h.placed _ hmem).resolve_left (by simp)).1
    have hgone := h.fired_of_inHook hpos
    rw [hfired] at hgone
    exact absurd hgone (by decide)
  · exact absurd hin (by simp [CallPhase.inHook])
  · rw [hfired]
    exact Nat.le_refl _
  · rw [hfired]
    exact Nat.le_refl _

/-- A hook that was taken is started. -/
theorem Lawful.hookStarts (h : Lawful s)
    (hfound : s.calls[index]? = some { origin, phase := before })
    (hmoves : before = .cancelTaken hook ∧ after = .cancelInHook ∨
      before = .registerTaken hook ∧ after = .registerInHook) :
    Lawful ((s.fire (.hook hook)).moveCall index origin after) := by
  have hmem := List.mem_of_getElem? hfound
  have hplaced := h.placed _ hmem
  -- whoever holds a taken hook keeps the job from ending
  have hlive : Live s := by
    rcases hmoves with ⟨rfl, -⟩ | ⟨rfl, -⟩
    · exact h.live_of_tracked (count_pos hmem rfl)
    · exact h.live_of_untracked hmem rfl
  have hlog : (s.log ++ [Fired.hook hook]).countP Fired.isHook = s.log.countP Fired.isHook + 1 :=
    countP_snoc _ _ _
  have hdatasets : (s.log ++ [Fired.hook hook]).count .dataset = s.log.count .dataset := by
    rw [List.count_append]
    rfl
  have hended := h.ended.fire hlive.2 (.hook hook) (by simp)
  have hgated : s.worker ≠ .gated := not_gated hlive
  rcases hmoves with ⟨rfl, rfl⟩ | ⟨rfl, rfl⟩
  · refine h.move hfound (by simp) (fun _ => rfl) (fun _ => rfl) (.inr fun _ => rfl) rfl
      (Nat.le_refl _) ?_ ?_ (fun hworker => absurd hworker hgated) h.disarmed h.settled hended
    · rw [hlog]
      exact Nat.le_refl _
    · rw [hdatasets]
      exact Nat.le_refl _
  · refine h.move hfound (by simp) (fun hcancel => absurd hcancel (by simp [CallPhase.ofCancel]))
      (fun horigin => ?_) (.inr fun _ => rfl) rfl
      (Nat.le_refl _) ?_ ?_ (fun hworker => absurd hworker hgated) h.disarmed h.settled hended
    · -- a hook makes no call that is not tracked
      subst horigin
      exact absurd (hplaced.resolve_left (by simp)).2 (by simp [CallPhase.untracked])
    · rw [hlog]
      exact Nat.le_refl _
    · rw [hdatasets]
      exact Nat.le_refl _

theorem Lawful.callMoves (h : Lawful s) {call : Call} (hfound : s.calls[index]? = some call)
    (hstep : callStep index call s = some s') : Lawful s' := by
  obtain ⟨origin, phase⟩ := call
  have hmem := List.mem_of_getElem? hfound
  have hgated : s.worker = .gated → s.log = [] ∧ s.cancelHook = none ∧ s.hookFired = false := by
    intro hworker
    obtain ⟨hlog, hnone, hfired, -⟩ := h.gated hworker
    exact ⟨hlog, hnone, hfired⟩
  cases phase with
  | cancelRequested =>
    obtain rfl := Option.some.inj hstep
    have hflagged : Lawful { s with cancelled := true } := { h with }
    exact hflagged.quietMove hfound (by simp) (fun _ => rfl) (by decide)
  | cancelFlagged =>
    simp only [callStep] at hstep
    split at hstep
    next hook hfired hhook =>
      obtain rfl := Option.some.inj hstep
      exact h.cancelTakes hfound hfired hhook
    next =>
      obtain rfl := Option.some.inj hstep
      exact h.quietMove hfound (by simp) (fun _ => rfl) (by decide)
  | cancelTaken hook =>
    obtain rfl := Option.some.inj hstep
    exact h.hookStarts hfound (.inl ⟨rfl, rfl⟩)
  | cancelInHook =>
    simp only [callStep] at hstep
    split at hstep
    next hidle =>
      obtain rfl := Option.some.inj hstep
      exact h.move hfound (by simp) (fun _ => rfl) (fun _ => rfl) (.inl hidle) rfl (Nat.le_refl _)
        (Nat.le_refl _) (Nat.le_refl _) hgated h.disarmed h.settled h.ended
    next => exact absurd hstep (by simp)
  | cancelHookOver =>
    obtain rfl := Option.some.inj hstep
    -- this call is the one that `hook_running` stands for
    have hrunning : s.hookRunning = true := by
      have hpos : 0 < s.count CallPhase.tracked := count_pos hmem rfl
      rw [h.tracked] at hpos
      cases hrunning : s.hookRunning with
      | true => rfl
      | false =>
        rw [hrunning] at hpos
        exact absurd hpos (by decide)
    refine h.move hfound (by simp) (fun _ => rfl) (fun _ => rfl)
      (.inr fun hin => absurd hin (by decide)) ?_ ?_ (Nat.le_refl _) (Nat.le_refl _) hgated
      h.disarmed (fun _ => rfl) h.ended
    · rw [hrunning]
      rfl
    · exact Nat.add_le_add_left (Nat.zero_le _) _
  | registering hook =>
    have hlive := h.live_of_call hmem rfl
    have hquiet {s : JobState} (h : Lawful s)
        (hfound : s.calls[index]? = some { origin, phase := .registering hook }) :
        Lawful (s.moveCall index origin .done) :=
      h.quietMove hfound (by simp) (fun _ => rfl) (by simp [CallPhase.tracked,
        CallPhase.untracked, CallPhase.pendingHook, CallPhase.inHook, CallPhase.pendingDataset])
    simp only [callStep] at hstep
    split at hstep
    next =>
      obtain rfl := Option.some.inj hstep
      have hregistered : Lawful { s with cancelHook := some hook } :=
        { h with gated := fun hworker => absurd hworker (not_gated hlive) }
      exact hquiet hregistered hfound
    next =>
      split at hstep
      next =>
        obtain rfl := Option.some.inj hstep
        exact hquiet h hfound
      next hfired =>
        obtain rfl := Option.some.inj hstep
        exact h.registerTakes hfound (Bool.eq_false_iff.mpr hfired)
  | registerTaken hook =>
    obtain rfl := Option.some.inj hstep
    exact h.hookStarts hfound (.inr ⟨rfl, rfl⟩)
  | registerInHook =>
    simp only [callStep] at hstep
    split at hstep
    next hidle =>
      obtain rfl := Option.some.inj hstep
      exact h.move hfound (by simp) (fun _ => rfl) (fun _ => rfl) (.inl hidle) rfl
        (Nat.add_le_add_left (Nat.zero_le _) _) (Nat.le_refl _) (Nat.le_refl _) hgated h.disarmed
        h.settled h.ended
    next => exact absurd hstep (by simp)
  | notifying =>
    have hlive := h.live_of_call hmem rfl
    simp only [callStep] at hstep
    split at hstep
    next =>
      obtain rfl := Option.some.inj hstep
      exact h.quietMove hfound (by simp) (fun _ => rfl) (by decide)
    next hnotified =>
      obtain rfl := Option.some.inj hstep
      have hfirst : s.datasetNotified = false := Bool.eq_false_iff.mpr hnotified
      -- the exchange decides who calls `on_dataset`, where there is one
      split
      next =>
        refine h.move hfound (by simp) (fun hcancel => absurd hcancel (by decide)) (fun _ => rfl)
          (.inr fun hin => absurd hin (by decide)) rfl (Nat.le_refl _) (Nat.le_refl _) ?_ hgated
          h.disarmed h.settled h.ended
        rw [hfirst]
        exact Nat.le_refl _
      next =>
        refine h.move hfound (by simp) (fun _ => rfl) (fun _ => rfl)
          (.inr fun hin => absurd hin (by decide)) rfl (Nat.le_refl _) (Nat.le_refl _) ?_ hgated
          h.disarmed h.settled h.ended
        rw [hfirst]
        exact Nat.le_add_right _ _
  | notifyTaken =>
    obtain rfl := Option.some.inj hstep
    have hlive := h.live_of_call hmem rfl
    have hlog : (s.log ++ [Fired.dataset]).countP Fired.isHook = s.log.countP Fired.isHook :=
      countP_snoc _ _ _
    have hdatasets : (s.log ++ [Fired.dataset]).count .dataset = s.log.count .dataset + 1 := by
      rw [List.count_append]
      rfl
    refine h.move hfound (by simp) (fun hcancel => absurd hcancel (by decide)) (fun _ => rfl)
      (.inr fun hin => absurd hin (by decide)) rfl (Nat.le_refl _) ?_ ?_
      (fun hworker => absurd hworker (not_gated hlive)) h.disarmed h.settled
      (h.ended.fire hlive.2 .dataset (by decide))
    · rw [hlog]
      exact Nat.le_refl _
    · rw [hdatasets]
      exact Nat.le_refl _
  | inDataset =>
    obtain rfl := Option.some.inj hstep
    exact h.quietMove hfound (by simp) (fun _ => rfl) (by decide)
  | done => exact absurd hstep (by simp [callStep])

/-- A new call, by somebody who is there. -/
theorem Lawful.addCall (h : Lawful s) {phase : CallPhase}
    (hplaced : Placed s { origin, phase })
    (hfresh : ∀ p ∈ [CallPhase.tracked, CallPhase.untracked, CallPhase.pendingHook,
      CallPhase.inHook, CallPhase.pendingDataset], p phase = false) :
    Lawful (s.addCall origin phase) := by
  have hcount : ∀ p ∈ [CallPhase.tracked, CallPhase.untracked, CallPhase.pendingHook,
      CallPhase.inHook, CallPhase.pendingDataset],
      (s.addCall origin phase).count p = s.count p := by
    intro p hp
    have hsnoc := countP_snoc s.calls { origin, phase } fun call => p call.phase
    dsimp only at hsnoc
    rw [hfresh p hp] at hsnoc
    exact hsnoc
  -- whether a call is placed depends on the others by the hooks only
  have hplaced' : ∀ call, Placed s call → Placed (s.addCall origin phase) call := by
    intro call hcall
    obtain ⟨origin', phase'⟩ := call
    cases origin' with
    | external | body | expiry => exact hcall
    | hook =>
      refine hcall.imp_right fun hthere => ⟨?_, hthere.2⟩
      rw [hcount _ (by simp)]
      exact hthere.1
  refine
    { h with
      placed := fun call hcall => ?_
      tracked := ?_
      runners := ?_
      hooks := ?_
      datasets := ?_ }
  · rcases List.mem_append.mp hcall with hcall | hcall
    · exact hplaced' call (h.placed call hcall)
    · rw [List.mem_singleton.mp hcall]
      exact hplaced' _ hplaced
  · rw [hcount _ (by simp)]
    exact h.tracked
  · rw [hcount _ (by simp), hcount _ (by simp)]
    exact h.runners
  · rw [hcount _ (by simp)]
    exact h.hooks
  · rw [hcount _ (by simp)]
    exact h.datasets

end Move

theorem placed_new {origin : Origin} {phase : CallPhase} (hcalling : calling s origin = true)
    (huntracked : phase.untracked = false) : Placed s { origin, phase } := by
  cases origin with
  | external => exact absurd hcalling (by simp [calling])
  | body => exact .inr hcalling
  | expiry => exact .inr (of_decide_eq_true hcalling)
  | hook =>
    obtain ⟨call, hcall, hphase⟩ := List.any_eq_true.mp hcalling
    exact .inr ⟨count_pos hcall hphase, huntracked⟩

/-- A step that a test lets pass. -/
theorem of_guard {p : Prop} [Decidable p] {next : JobState}
    (hstep : (if p then some next else none) = some s') : p ∧ s' = next := by
  split at hstep
  next hp => exact ⟨hp, (Option.some.inj hstep).symm⟩
  next => exact nomatch hstep

theorem Lawful.step {event : Event} (h : Lawful s) (hstep : step event s = some s') :
    Lawful s' := by
  -- what the worker does in its body, it does after `startJob` has returned
  have hreturned {arming : Option ArmPhase} (hbody : s.worker = .inBody arming) :
      s.start = .returned := h.started (.inr (by rw [hbody]; exact WorkerPhase.noConfusion))
  cases event with
  | start =>
    simp only [ProviderJob.step] at hstep
    split at hstep
    next hstart =>
      obtain rfl := Option.some.inj hstep
      exact { h with started := fun hgate => absurd ((h.started hgate).symm.trans hstart) (by decide) }
    next hstart =>
      obtain rfl := Option.some.inj hstep
      exact { h with started := fun hgate => absurd ((h.started hgate).symm.trans hstart) (by decide) }
    next =>
      obtain rfl := Option.some.inj hstep
      exact { h with started := fun _ => rfl }
    next => exact absurd hstep (by simp)
  | worker => exact h.worker hstep
  | bodyEnds =>
    obtain ⟨hover, rfl⟩ := of_guard hstep
    obtain ⟨hworker, hidle⟩ := Bool.and_eq_true_iff.mp hover
    have hbody := of_decide_eq_true hworker
    exact h.moveEarly _ hbody (hreturned hbody) (by decide) (by decide)
      (fun hno => absurd hno (by decide)) fun _ => .inr hidle
  | arm =>
    obtain ⟨hbody, rfl⟩ := of_guard hstep
    exact h.moveEarly _ hbody (hreturned hbody) (by decide) (by decide)
      (fun hno => absurd hno (by decide)) fun _ => .inl rfl
  | armFails =>
    obtain ⟨hbody, rfl⟩ := of_guard hstep
    exact h.moveEarly _ hbody (hreturned hbody) (by decide) (by decide)
      (fun hno => absurd hno (by decide)) fun _ => .inl rfl
  | watchdog => exact h.watchdogMoves hstep
  | timeout =>
    obtain ⟨hwaiting, rfl⟩ := of_guard hstep
    exact h.moveWatchdog hwaiting fun hexpire => absurd hexpire (by decide)
  | requestCancel origin =>
    obtain ⟨hthere, rfl⟩ := of_guard hstep
    refine h.addCall ?_ (by decide)
    rcases Bool.or_eq_true_iff.mp hthere with hexternal | hcalling
    · rw [of_decide_eq_true hexternal]
      rfl
    · exact placed_new hcalling rfl
  | onCancel origin hook =>
    obtain ⟨hcalling, rfl⟩ := of_guard hstep
    exact h.addCall (placed_new hcalling rfl) (by simp [CallPhase.tracked, CallPhase.untracked,
      CallPhase.pendingHook, CallPhase.inHook, CallPhase.pendingDataset])
  | notifyDataset origin =>
    obtain ⟨hcalling, rfl⟩ := of_guard hstep
    exact h.addCall (placed_new hcalling rfl) (by decide)
  | call index =>
    simp only [ProviderJob.step] at hstep
    split at hstep
    next call hfound => exact h.callMoves hfound hstep
    next => exact absurd hstep (by simp)

end Step

/-! ## The protocol -/

theorem lawful_initial (onDataset : Bool) : Lawful { onDataset } where
  placed := by simp
  tracked := rfl
  runners := Nat.le_refl _
  hooks := Nat.le_refl _
  datasets := Nat.le_refl _
  gated := fun _ => ⟨rfl, rfl, rfl, rfl⟩
  started := by simp
  disarmed := by simp [WorkerPhase.rank]
  settled := by simp
  joined := by simp [WorkerPhase.noWatchdog]
  fired := by simp [WorkerPhase.rank]
  ended := ⟨by simp, by simp [WorkerPhase.rank]⟩

theorem startJob_lawful {outJob body spawned : Bool} {callbacks : Option Callbacks} {s : JobState}
    (h : startJob outJob body callbacks spawned = .ok s) : Lawful s := by
  unfold startJob at h
  split at h
  next => exact absurd h (by simp)
  next =>
    split at h
    next => exact absurd h (by simp)
    next =>
      split at h
      next => exact absurd h (by simp)
      next =>
        split at h
        next => exact absurd h (by simp)
        next =>
          split at h
          next => exact absurd h (by simp)
          next =>
            obtain rfl := Except.ok.inj h
            exact lawful_initial _

/-- A hook or `on_expire` is running, or somebody is on the way into one. -/
def userCodeRunning (s : JobState) : Bool :=
  (s.calls.any fun call => call.phase.inHook || call.phase.pendingHook) ||
    s.watchdog = some .expiring || s.watchdog = some .inExpire

theorem live_of_userCode {s : JobState} (h : Lawful s) (hrunning : userCodeRunning s = true) :
    Live s := by
  unfold userCodeRunning at hrunning
  rcases Bool.or_eq_true_iff.mp hrunning with hrunning | hexpire
  · rcases Bool.or_eq_true_iff.mp hrunning with hhook | hexpiring
    · obtain ⟨call, hcall, hphase⟩ := List.any_eq_true.mp hhook
      rcases Bool.or_eq_true_iff.mp hphase with hin | hpending
      · exact h.live_of_inHook (count_pos hcall hin)
      · have htaken : call.phase.tracked = true ∨ call.phase.untracked = true := by
          generalize call.phase = phase at hpending
          cases phase with
          | cancelTaken _ => exact .inl rfl
          | registerTaken _ => exact .inr rfl
          | cancelRequested | cancelFlagged | cancelInHook | cancelHookOver | registering _
            | registerInHook | notifying | notifyTaken | inDataset | done =>
            exact absurd hpending (by simp [CallPhase.pendingHook])
        rcases htaken with htracked | huntracked
        · exact h.live_of_tracked (count_pos hcall htracked)
        · exact h.live_of_untracked hcall huntracked
    · exact h.live_of_watchdog (by rw [of_decide_eq_true hexpiring]; simp)
  · exact h.live_of_watchdog (by rw [of_decide_eq_true hexpire]; simp)

/-- In every state of every run of a job: once it is completed `on_terminal` was called,
exactly once; `on_dataset` was called at most once and one hook at most was run, once;
when `on_terminal` was called then nothing was started after it and no hook and no
`on_expire` is running; and nothing was called before `out_job` was populated. -/
theorem terminal_protocol {outJob body spawned : Bool} {callbacks : Option Callbacks}
    {initial s : JobState} {events : List Event}
    (hstart : startJob outJob body callbacks spawned = .ok initial)
    (hrun : run step events initial = some s) :
    (s.worker = .completed → s.log.count .terminal = 1) ∧
    s.log.count .terminal ≤ 1 ∧ s.log.count .dataset ≤ 1 ∧ s.log.countP Fired.isHook ≤ 1 ∧
    (.terminal ∈ s.log →
      (∃ earlier, s.log = earlier ++ [.terminal]) ∧ userCodeRunning s = false) ∧
    (s.log ≠ [] → s.start = .returned) := by
  have hlawful : Lawful s :=
    run_keeps Lawful (fun _ _ _ h hstep => h.step hstep) (startJob_lawful hstart) hrun
  have hhooks := hlawful.hooks
  have hdatasets := hlawful.datasets
  have hfired := Bool.toNat_le s.hookFired
  have hnotified := Bool.toNat_le s.datasetNotified
  have hlate : .terminal ∈ s.log → 9 ≤ s.worker.rank := by
    intro hmem
    by_cases hrank : s.worker.rank < 9
    · exact absurd hmem (hlawful.ended.before hrank)
    · omega
  have hone : 9 ≤ s.worker.rank → s.log.count .terminal = 1 := by
    intro hrank
    obtain ⟨earlier, hlog, hfirst⟩ := hlawful.ended.after hrank
    rw [hlog, List.count_append, List.count_eq_zero.mpr hfirst]
    rfl
  refine ⟨fun hcompleted => hone ?_, ?_, by omega, by omega, fun hmem => ⟨?_, ?_⟩, fun hlog => ?_⟩
  · rw [hcompleted]
    decide
  · by_cases hmem : .terminal ∈ s.log
    · exact Nat.le_of_eq (hone (hlate hmem))
    · rw [List.count_eq_zero.mpr hmem]
      exact Nat.zero_le 1
  · obtain ⟨earlier, hlast, -⟩ := hlawful.ended.after (hlate hmem)
    exact ⟨earlier, hlast⟩
  · cases hrunning : userCodeRunning s with
    | false => rfl
    | true =>
      have hlive := live_of_userCode hlawful hrunning
      have hrank := hlate hmem
      have hlt := hlive.2
      omega
  · refine hlawful.started (.inr fun hgated => hlog ?_)
    exact (hlawful.gated hgated).1

/-- The body registers a hook and reports its dataset; a cancellation from outside runs
the hook while the body returns. -/
def cancelledRun : List Event :=
  [.start, .requestCancel .external, .start, .start, .worker, .worker, .onCancel .body 7, .call 1,
    .notifyDataset .body, .call 2, .call 2, .call 2, .call 0, .arm, .worker, .worker, .worker,
    .worker, .watchdog, .worker, .bodyEnds, .call 0, .worker, .call 0, .call 0, .call 0, .timeout,
    .watchdog, .watchdog, .worker, .worker, .worker, .worker, .worker, .worker]

def cancelledJob : JobState where
  onDataset := true
  start := .returned
  worker := .completed
  cancelled := true
  datasetNotified := true
  terminalFired := true
  hookFired := true
  watchdogStop := true
  calls := [⟨.external, .done⟩, ⟨.body, .done⟩, ⟨.body, .done⟩]
  log := [.dataset, .hook 7, .expire, .terminal]

theorem terminal_protocol_cancelled :
    run step cancelledRun { onDataset := true } = some cancelledJob ∧
      cancelledJob.log.count .terminal = 1 ∧ userCodeRunning cancelledJob = false := by
  have hprotocol := @terminal_protocol true true true (some ⟨24, true, true⟩) { onDataset := true }
    cancelledJob cancelledRun rfl (by decide)
  exact ⟨by decide, hprotocol.1 rfl, (hprotocol.2.2.2.2.1 (by decide)).2⟩

end ProviderJob

end PlotJugglerSdk
