import PlotJugglerSdk.Source.ProviderJob

/-!
# Cancel hooks

What becomes of a cancel hook. `requestCancel` stores the flag first and takes the hook
out of its slot later, under the mutex; `onCancel` tests the flag under the mutex, and
either stores its hook or runs it. One flag, `hookFired`, says of all hooks together that
one was taken, and with it set the next is dropped.

A section under the mutex is one step, at the moment it reads the flag: what it does to the
slot is seen under the mutex only.

* `Spent.step`     — a taken hook leaves the slot empty
* `Due.step`       — a hook that was asked for stays in its slot until it is taken
* `Joined.step`    — a hook that came late is run by its own call
* `cancel_notLost` — where no hook is lost
-/

namespace PlotJugglerSdk

namespace ProviderJob

open Runs

/-! ## What a step does to the hooks -/

/-- Of `onCancel`, before its turn under the mutex. -/
def CallPhase.registers : CallPhase → Bool
  | registering _ => true
  | _ => false

/-- A call that an event makes. -/
def Made (event : Event) (call : Call) : Prop :=
  call.phase ≠ .cancelFlagged ∧
    (call.phase.registers = true → ∃ hook, event = .onCancel call.origin hook)

/-- A step that leaves the slot and the flags alone. -/
structure Aside (event : Event) (s s' : JobState) : Prop where
  cancelled : s'.cancelled = s.cancelled
  cancelHook : s'.cancelHook = s.cancelHook
  hookFired : s'.hookFired = s.hookFired
  calls : ∃ more, s'.calls = s.calls ++ more ∧ ∀ call ∈ more, Made event call
  log : ∃ more, s'.log = s.log ++ more
  /-- A body that is over does not run again. -/
  late : 4 ≤ s.worker.rank → 4 ≤ s'.worker.rank

/-- What a step is to the hooks: a call moves, the hooks are disarmed, or neither. -/
inductive HookStep (event : Event) (s s' : JobState) : Prop where
  | call (index : Nat) (call : Call) (hevent : event = .call index)
      (hfound : s.calls[index]? = some call) (hstep : callStep index call s = some s')
  | disarm (hevent : event = .worker) (hworker : s.worker = .disarming)
      (hnext : s' = { s with cancelHook := none, hookFired := true, worker := .disarmed })
  | aside (h : Aside event s s')

variable {event : Event} {s s' : JobState}

theorem Aside.of_call {call : Call} (hcalls : s'.calls = s.calls ++ [call])
    (hlog : s'.log = s.log) (hcancelled : s'.cancelled = s.cancelled)
    (hslot : s'.cancelHook = s.cancelHook) (hfired : s'.hookFired = s.hookFired)
    (hworker : s'.worker = s.worker) (hmade : Made event call) : Aside event s s' := by
  refine ⟨hcancelled, hslot, hfired, ⟨[call], hcalls, ?_⟩,
    ⟨[], hlog.trans (List.append_nil _).symm⟩,
    fun hover => hworker ▸ hover⟩
  intro made hmem
  obtain rfl := List.mem_singleton.mp hmem
  exact hmade

theorem Aside.of_log {log : List Fired} (hlog : s'.log = s.log ++ log) (hcalls : s'.calls = s.calls)
    (hcancelled : s'.cancelled = s.cancelled) (hslot : s'.cancelHook = s.cancelHook)
    (hfired : s'.hookFired = s.hookFired) (hover : 4 ≤ s.worker.rank → 4 ≤ s'.worker.rank) :
    Aside event s s' :=
  ⟨hcancelled, hslot, hfired, ⟨[], hcalls.trans (List.append_nil _).symm, by simp⟩, ⟨log, hlog⟩,
    hover⟩

/-- The worker moves on. -/
theorem Aside.of_worker {phase : WorkerPhase} (hworker : s.worker = phase)
    (hrank : phase.rank < 4 ∨ 4 ≤ s'.worker.rank) (hlog : s'.log = s.log)
    (hcalls : s'.calls = s.calls) (hcancelled : s'.cancelled = s.cancelled)
    (hslot : s'.cancelHook = s.cancelHook) (hfired : s'.hookFired = s.hookFired) :
    Aside event s s' := by
  refine .of_log (hlog.trans (List.append_nil _).symm) hcalls hcancelled hslot hfired ?_
  rw [hworker]
  omega

/-- Something else moves on. -/
theorem Aside.of_kept (hworker : s'.worker = s.worker) (hlog : s'.log = s.log)
    (hcalls : s'.calls = s.calls) (hcancelled : s'.cancelled = s.cancelled)
    (hslot : s'.cancelHook = s.cancelHook) (hfired : s'.hookFired = s.hookFired) :
    Aside event s s' :=
  .of_log (hlog.trans (List.append_nil _).symm) hcalls hcancelled hslot hfired
    fun hover => hworker ▸ hover

theorem aside_worker (hstep : workerStep s = some s') (hworker : s.worker ≠ .disarming) :
    Aside event s s' := by
  unfold workerStep at hstep
  -- but for the disarming, the worker moves on and the hooks stay as they are
  split at hstep
  next hgated =>
    split at hstep
    · obtain rfl := Option.some.inj hstep
      exact .of_worker hgated (.inl (by decide)) rfl rfl rfl rfl rfl
    · exact nomatch hstep
  next hstarting =>
    obtain rfl := Option.some.inj hstep
    exact .of_worker hstarting (.inl (by decide)) rfl rfl rfl rfl rfl
  next => exact nomatch hstep
  next hbody =>
    obtain rfl := Option.some.inj hstep
    exact .of_worker hbody (.inl (by decide)) rfl rfl rfl rfl rfl
  next hbody =>
    split at hstep
    · obtain rfl := Option.some.inj hstep
      exact .of_worker hbody (.inl (by decide)) rfl rfl rfl rfl rfl
    · exact nomatch hstep
  next hbody =>
    obtain rfl := Option.some.inj hstep
    exact .of_worker hbody (.inl (by decide)) rfl rfl rfl rfl rfl
  next hbody =>
    obtain rfl := Option.some.inj hstep
    exact .of_worker hbody (.inl (by decide)) rfl rfl rfl rfl rfl
  next hbody =>
    split at hstep
    · exact nomatch hstep
    · obtain rfl := Option.some.inj hstep
      exact .of_worker hbody (.inl (by decide)) rfl rfl rfl rfl rfl
  next hdisarming => exact absurd hdisarming hworker
  next hdisarmed =>
    split at hstep
    · exact nomatch hstep
    · obtain rfl := Option.some.inj hstep
      exact .of_worker hdisarmed (.inr (by simp [WorkerPhase.rank])) rfl rfl rfl rfl rfl
  next hstopping =>
    obtain rfl := Option.some.inj hstep
    exact .of_worker hstopping (.inr (by simp [WorkerPhase.rank])) rfl rfl rfl rfl rfl
  next hjoining =>
    split at hstep
    · obtain rfl := Option.some.inj hstep
      exact .of_worker hjoining (.inr (by simp [WorkerPhase.rank])) rfl rfl rfl rfl rfl
    · exact nomatch hstep
  next hfiring =>
    split at hstep
    · obtain rfl := Option.some.inj hstep
      exact .of_worker hfiring (.inr (by simp [WorkerPhase.rank])) rfl rfl rfl rfl rfl
    · obtain rfl := Option.some.inj hstep
      exact .of_worker hfiring (.inr (by simp [WorkerPhase.rank])) rfl rfl rfl rfl rfl
  next hterminal =>
    obtain rfl := Option.some.inj hstep
    exact .of_log rfl rfl rfl rfl rfl fun _ => by simp [WorkerPhase.rank]
  next hterminal =>
    obtain rfl := Option.some.inj hstep
    exact .of_worker hterminal (.inr (by simp [WorkerPhase.rank])) rfl rfl rfl rfl rfl
  next => exact nomatch hstep

theorem aside_watchdog (hstep : watchdogStep s = some s') : Aside event s s' := by
  unfold watchdogStep at hstep
  split at hstep
  next =>
    obtain rfl := Option.some.inj hstep
    exact .of_kept rfl rfl rfl rfl rfl rfl
  next =>
    split at hstep
    · obtain rfl := Option.some.inj hstep
      exact .of_kept rfl rfl rfl rfl rfl rfl
    · exact nomatch hstep
  next =>
    obtain rfl := Option.some.inj hstep
    exact .of_log rfl rfl rfl rfl rfl id
  next =>
    split at hstep
    · obtain rfl := Option.some.inj hstep
      exact .of_kept rfl rfl rfl rfl rfl rfl
    · exact nomatch hstep
  next => exact nomatch hstep
  next => exact nomatch hstep

theorem hookStep_of_step (hstep : step event s = some s') :
    HookStep event s s' := by
  cases event with
  | start =>
    apply HookStep.aside
    simp only [step] at hstep
    split at hstep
    · obtain rfl := Option.some.inj hstep
      exact .of_kept rfl rfl rfl rfl rfl rfl
    · obtain rfl := Option.some.inj hstep
      exact .of_kept rfl rfl rfl rfl rfl rfl
    · obtain rfl := Option.some.inj hstep
      exact .of_kept rfl rfl rfl rfl rfl rfl
    · cases hstep
  | worker =>
    -- `disarmHook` is the one step of the worker that is about a hook
    by_cases hworker : s.worker = .disarming
    · refine .disarm rfl hworker ?_
      simp only [step, workerStep, hworker] at hstep
      exact (Option.some.inj hstep).symm
    · exact .aside (aside_worker hstep hworker)
  | bodyEnds =>
    obtain ⟨hover, rfl⟩ := of_guard hstep
    have hbody := of_decide_eq_true (Bool.and_eq_true_iff.mp hover).1
    exact .aside (.of_worker hbody (.inl (by decide)) rfl rfl rfl rfl rfl)
  | arm =>
    obtain ⟨hbody, rfl⟩ := of_guard hstep
    exact .aside (.of_worker hbody (.inl (by decide)) rfl rfl rfl rfl rfl)
  | armFails =>
    obtain ⟨hbody, rfl⟩ := of_guard hstep
    exact .aside (.of_worker hbody (.inl (by decide)) rfl rfl rfl rfl rfl)
  | watchdog => exact .aside (aside_watchdog hstep)
  | timeout =>
    obtain ⟨-, rfl⟩ := of_guard hstep
    exact .aside (.of_kept rfl rfl rfl rfl rfl rfl)
  | requestCancel origin =>
    obtain ⟨-, rfl⟩ := of_guard hstep
    exact .aside (.of_call rfl rfl rfl rfl rfl rfl
      ⟨by simp, fun hregisters => absurd hregisters Bool.false_ne_true⟩)
  | onCancel origin hook =>
    obtain ⟨-, rfl⟩ := of_guard hstep
    exact .aside (.of_call rfl rfl rfl rfl rfl rfl ⟨by simp, fun _ => ⟨hook, rfl⟩⟩)
  | notifyDataset origin =>
    obtain ⟨-, rfl⟩ := of_guard hstep
    exact .aside (.of_call rfl rfl rfl rfl rfl rfl
      ⟨by simp, fun hregisters => absurd hregisters Bool.false_ne_true⟩)
  | call index =>
    simp only [step] at hstep
    split at hstep
    next call hfound => exact .call index call rfl hfound hstep
    next => cases hstep

/-! ## What a call does to the hooks -/

/-- A phase between which and the hooks there is nothing. -/
def CallPhase.plain : CallPhase → Bool
  | cancelInHook | cancelHookOver | registerInHook | notifying | notifyTaken | inDataset
    | done => true
  | _ => false

/-- The next step of a call in a phase: the phase after it, and the state. -/
inductive HookChange (s s' : JobState) : CallPhase → CallPhase → Prop where
  /-- The flag is stored. -/
  | flag (hcancelled : s'.cancelled = true) (hslot : s'.cancelHook = s.cancelHook)
      (hfired : s'.hookFired = s.hookFired) (hlog : s'.log = s.log) :
      HookChange s s' .cancelRequested .cancelFlagged
  /-- The request takes the hook out of its slot. -/
  | take (hook : Nat) (hheld : s.cancelHook = some hook) (hunfired : s.hookFired = false)
      (hcancelled : s'.cancelled = s.cancelled) (hslot : s'.cancelHook = none)
      (hlog : s'.log = s.log) :
      HookChange s s' .cancelFlagged (.cancelTaken hook)
  /-- The request finds a hook fired, or none. -/
  | miss (hmissed : s.hookFired = true ∨ s.cancelHook = none)
      (hcancelled : s'.cancelled = s.cancelled) (hslot : s'.cancelHook = s.cancelHook)
      (hfired : s'.hookFired = s.hookFired) (hlog : s'.log = s.log) :
      HookChange s s' .cancelFlagged .done
  | run (hook : Nat) (hcancelled : s'.cancelled = s.cancelled)
      (hslot : s'.cancelHook = s.cancelHook) (hfired : s'.hookFired = s.hookFired)
      (hlog : s'.log = s.log ++ [.hook hook]) :
      HookChange s s' (.cancelTaken hook) .cancelInHook
  /-- The hook waits for a cancellation. -/
  | store (hook : Nat) (hearly : s.cancelled = false) (hcancelled : s'.cancelled = s.cancelled)
      (hfired : s'.hookFired = s.hookFired) (hlog : s'.log = s.log) :
      HookChange s s' (.registering hook) .done
  /-- A hook that comes late is run at once. -/
  | join (hook : Nat) (hlate : s.cancelled = true) (hunfired : s.hookFired = false)
      (hcancelled : s'.cancelled = s.cancelled) (hslot : s'.cancelHook = s.cancelHook)
      (hlog : s'.log = s.log) :
      HookChange s s' (.registering hook) (.registerTaken hook)
  /-- A hook that comes after one was taken is dropped. -/
  | drop (hook : Nat) (hlate : s.cancelled = true) (hwas : s.hookFired = true)
      (hcancelled : s'.cancelled = s.cancelled) (hslot : s'.cancelHook = s.cancelHook)
      (hfired : s'.hookFired = s.hookFired) (hlog : s'.log = s.log) :
      HookChange s s' (.registering hook) .done
  | runJoined (hook : Nat) (hcancelled : s'.cancelled = s.cancelled)
      (hslot : s'.cancelHook = s.cancelHook) (hfired : s'.hookFired = s.hookFired)
      (hlog : s'.log = s.log ++ [.hook hook]) :
      HookChange s s' (.registerTaken hook) .registerInHook
  | other {phase next : CallPhase} (hplain : phase.plain = true) (hnext : next.plain = true)
      (hcancelled : s'.cancelled = s.cancelled) (hslot : s'.cancelHook = s.cancelHook)
      (hfired : s'.hookFired = s.hookFired) (hlog : ∃ more, s'.log = s.log ++ more) :
      HookChange s s' phase next

theorem HookChange.grows {phase next : CallPhase} (h : HookChange s s' phase next) :
    ∃ more, s'.log = s.log ++ more := by
  cases h with
  | flag _ _ _ hlog | take _ _ _ _ _ hlog | miss _ _ _ _ hlog | store _ _ _ _ hlog
    | join _ _ _ _ _ hlog | drop _ _ _ _ _ _ hlog =>
    exact ⟨[], hlog.trans (List.append_nil _).symm⟩
  | run hook _ _ _ hlog | runJoined hook _ _ _ hlog => exact ⟨[.hook hook], hlog⟩
  | other _ _ _ _ _ hlog => exact hlog

theorem HookChange.stays {phase next : CallPhase} (h : HookChange s s' phase next)
    (hcancelled : s.cancelled = true) : s'.cancelled = true := by
  cases h with
  | flag hnow => exact hnow
  | take _ _ _ hsame | miss _ hsame | run _ hsame | store _ _ hsame | join _ _ _ hsame
    | drop _ _ _ hsame | runJoined _ hsame | other _ _ hsame => exact hsame.trans hcancelled

/-- A call moves, alone, and what that is to the hooks. -/
theorem callStep_change {index : Nat} {call : Call} (hstep : callStep index call s = some s') :
    ∃ next, s'.calls = s.calls.set index { call with phase := next } ∧ s'.worker = s.worker ∧
      HookChange s s' call.phase next := by
  obtain ⟨origin, phase⟩ := call
  cases phase with
  | cancelRequested =>
    obtain rfl := Option.some.inj hstep
    exact ⟨.cancelFlagged, rfl, rfl, .flag rfl rfl rfl rfl⟩
  | cancelFlagged =>
    simp only [callStep] at hstep
    split at hstep
    next hook hunfired hheld =>
      obtain rfl := Option.some.inj hstep
      exact ⟨.cancelTaken hook, rfl, rfl, .take hook hheld hunfired rfl rfl rfl⟩
    next hmissed =>
      obtain rfl := Option.some.inj hstep
      refine ⟨.done, rfl, rfl, .miss ?_ rfl rfl rfl rfl⟩
      cases hfired : s.hookFired with
      | true => exact .inl rfl
      | false =>
        cases hheld : s.cancelHook with
        | none => exact .inr rfl
        | some hook => exact (hmissed hook hfired hheld).elim
  | cancelTaken hook =>
    obtain rfl := Option.some.inj hstep
    exact ⟨.cancelInHook, rfl, rfl, .run hook rfl rfl rfl rfl⟩
  | cancelInHook =>
    obtain ⟨-, rfl⟩ := of_guard hstep
    exact ⟨.cancelHookOver, rfl, rfl, .other rfl rfl rfl rfl rfl ⟨[], (List.append_nil _).symm⟩⟩
  | cancelHookOver =>
    obtain rfl := Option.some.inj hstep
    exact ⟨.done, rfl, rfl, .other rfl rfl rfl rfl rfl ⟨[], (List.append_nil _).symm⟩⟩
  | registering hook =>
    simp only [callStep] at hstep
    split at hstep
    next hearly =>
      obtain rfl := Option.some.inj hstep
      exact ⟨.done, rfl, rfl, .store hook (by simpa using hearly) rfl rfl rfl⟩
    next hlate =>
      have hcancelled : s.cancelled = true := by simpa using hlate
      split at hstep
      next hfired =>
        obtain rfl := Option.some.inj hstep
        exact ⟨.done, rfl, rfl, .drop hook hcancelled hfired rfl rfl rfl rfl⟩
      next hfired =>
        obtain rfl := Option.some.inj hstep
        exact ⟨.registerTaken hook, rfl, rfl,
          .join hook hcancelled (Bool.eq_false_iff.mpr hfired) rfl rfl rfl⟩
  | registerTaken hook =>
    obtain rfl := Option.some.inj hstep
    exact ⟨.registerInHook, rfl, rfl, .runJoined hook rfl rfl rfl rfl⟩
  | registerInHook =>
    obtain ⟨-, rfl⟩ := of_guard hstep
    exact ⟨.done, rfl, rfl, .other rfl rfl rfl rfl rfl ⟨[], (List.append_nil _).symm⟩⟩
  | notifying =>
    simp only [callStep] at hstep
    split at hstep
    next =>
      obtain rfl := Option.some.inj hstep
      exact ⟨.done, rfl, rfl, .other rfl rfl rfl rfl rfl ⟨[], (List.append_nil _).symm⟩⟩
    next =>
      obtain rfl := Option.some.inj hstep
      refine ⟨_, rfl, rfl, .other rfl ?_ rfl rfl rfl ⟨[], (List.append_nil _).symm⟩⟩
      split <;> rfl
  | notifyTaken =>
    obtain rfl := Option.some.inj hstep
    exact ⟨.inDataset, rfl, rfl, .other rfl rfl rfl rfl rfl ⟨[.dataset], rfl⟩⟩
  | inDataset =>
    obtain rfl := Option.some.inj hstep
    exact ⟨.done, rfl, rfl, .other rfl rfl rfl rfl rfl ⟨[], (List.append_nil _).symm⟩⟩
  | done => cases hstep

/-! ## Where no hook is lost -/

/-- A turn of `onCancel` after the cancellation finds no hook, waiting or taken; and the body
does not end between a request's flag and its look at a hook that waits. -/
def Clear : Event → JobState → Prop
  | .call index, s =>
    s.cancelled = true → ∀ call ∈ s.calls[index]?, call.phase.registers = true →
      s.cancelHook = none ∧ s.hookFired = false
  | .worker, s => s.worker = .disarming → s.cancelled = true → s.cancelHook = none
  | _, _ => True

instance : (event : Event) → DecidablePred (Clear event)
  | .call _, _ => inferInstanceAs (Decidable (_ → _))
  | .worker, _ => inferInstanceAs (Decidable (_ → _))
  | .start, _ | .bodyEnds, _ | .arm, _ | .armFails, _ | .watchdog, _ | .timeout, _
    | .requestCancel _, _ | .onCancel _ _, _ | .notifyDataset _, _ => isTrue trivial

/-- Hooks are registered by the body. -/
def Event.fromBody : Event → Bool
  | .onCancel origin _ => origin = .body
  | _ => true

/-- What holds of the hooks where none is lost. -/
structure Spent (s : JobState) : Prop where
  /-- A hook that was taken leaves the slot empty. -/
  slot : s.hookFired = true → s.cancelHook = none
  early : s.hookFired = true → s.cancelled = true ∨ 4 ≤ s.worker.rank
  body : ∀ call ∈ s.calls, call.phase.registers = true → call.origin = .body
  flagged : ∀ call ∈ s.calls, call.phase = .cancelFlagged → s.cancelled = true

theorem startJob_initial {outJob body spawned : Bool} {callbacks : Option Callbacks}
    (h : startJob outJob body callbacks spawned = .ok s) : ∃ onDataset, s = { onDataset } := by
  unfold startJob at h
  split at h
  · exact nomatch h
  split at h
  · exact nomatch h
  split at h
  · exact nomatch h
  split at h
  · exact nomatch h
  split at h
  · exact nomatch h
  · exact ⟨_, (Except.ok.inj h).symm⟩

theorem spent_initial (onDataset : Bool) : Spent { onDataset } :=
  ⟨fun _ => rfl, by simp, by simp, by simp⟩

/-- A call that is not over is where it was, unless it moves itself. -/
theorem mem_moved {index : Nat} {call next : Call} (hmem : next ∈ s.calls.set index call) :
    next ∈ s.calls ∨ next = call := by
  rcases List.mem_or_eq_of_mem_set hmem with hmem | rfl
  · exact .inl hmem
  · exact .inr rfl

/-- A hook of the body comes while the body runs. -/
theorem Lawful.registering_early (h : Lawful s) {call : Call} (hmem : call ∈ s.calls)
    (hregisters : call.phase.registers = true) (hbody : call.origin = .body) :
    s.worker.rank = 2 := by
  have hplaced := h.placed call hmem
  unfold Placed at hplaced
  rw [hbody] at hplaced
  rcases hplaced with hdone | hruns
  · rw [hdone] at hregisters
    exact nomatch hregisters
  · exact rank_eq_two hruns

theorem registers_of_plain {phase : CallPhase} (h : phase.plain = true) :
    phase.registers = false := by
  cases phase with
  | registering hook => exact nomatch h
  | cancelRequested | cancelFlagged | cancelTaken _ | cancelInHook | cancelHookOver
    | registerTaken _ | registerInHook | notifying | notifyTaken | inDataset | done => rfl

theorem Spent.callMoves (h : Spent s) (hlawful : Lawful s) {index : Nat} {call : Call}
    (hfound : s.calls[index]? = some call) (hclear : Clear (.call index) s) {next : CallPhase}
    (hcalls : s'.calls = s.calls.set index { call with phase := next })
    (hworker : s'.worker = s.worker) (hchange : HookChange s s' call.phase next) : Spent s' := by
  have hmem := List.mem_of_getElem? hfound
  generalize hphase : call.phase = phase at hchange
  -- no call begins to register, and one becomes flagged with the flag
  have hregisters : next.registers = false := by
    cases hchange with
    | other _ hnext => exact registers_of_plain hnext
    | flag | take | miss | run | store | join | drop | runJoined => rfl
  have hflag : next = .cancelFlagged → s'.cancelled = true := by
    intro hnext
    cases hchange with
    | flag hcancelled => exact hcancelled
    | other _ hplain =>
      rw [hnext] at hplain
      exact nomatch hplain
    | take | miss | run | store | join | drop | runJoined => exact nomatch hnext
  have hbody : ∀ call ∈ s'.calls, call.phase.registers = true → call.origin = .body := by
    intro other hother hphase
    rw [hcalls] at hother
    rcases mem_moved hother with hother | rfl
    · exact h.body other hother hphase
    · rw [hregisters] at hphase
      exact nomatch hphase
  have hflagged : ∀ call ∈ s'.calls, call.phase = .cancelFlagged → s'.cancelled = true := by
    intro other hother hphase
    rw [hcalls] at hother
    rcases mem_moved hother with hother | rfl
    · exact hchange.stays (h.flagged other hother hphase)
    · exact hflag hphase
  have hkept (hslot : s'.cancelHook = s.cancelHook) (hfired : s'.hookFired = s.hookFired) :
      Spent s' := by
    refine ⟨?_, ?_, hbody, hflagged⟩
    · intro hnow
      rw [hslot]
      exact h.slot (hfired ▸ hnow)
    · intro hnow
      rw [hworker]
      exact (h.early (hfired ▸ hnow)).imp_left hchange.stays
  cases hchange with
  | flag _ hslot hfired => exact hkept hslot hfired
  | miss _ _ hslot hfired => exact hkept hslot hfired
  | run _ _ hslot hfired => exact hkept hslot hfired
  | drop _ _ _ _ hslot hfired => exact hkept hslot hfired
  | runJoined _ _ hslot hfired => exact hkept hslot hfired
  | other _ _ _ hslot hfired => exact hkept hslot hfired
  | take hook _ _ hcancelled hslot =>
    refine ⟨fun _ => hslot, fun _ => .inl ?_, hbody, hflagged⟩
    exact hcancelled.trans (h.flagged call hmem hphase)
  | join hook hlate _ hcancelled hslot =>
    refine ⟨fun _ => ?_, fun _ => .inl (hcancelled.trans hlate), hbody, hflagged⟩
    rw [hslot]
    exact (hclear hlate call hfound (by rw [hphase]; rfl)).1
  | store hook hearly hcancelled hfired =>
    -- before the cancellation nothing was taken, and the body runs
    have hunfired : s.hookFired = false := by
      cases hwas : s.hookFired with
      | false => rfl
      | true =>
        have hregistering : call.phase.registers = true := by rw [hphase]; rfl
        have hrank := hlawful.registering_early hmem hregistering (h.body call hmem hregistering)
        rcases h.early hwas with hcancelled | hover
        · rw [hearly] at hcancelled
          exact nomatch hcancelled
        · omega
    refine ⟨?_, ?_, hbody, hflagged⟩
    · intro hnow
      rw [hfired, hunfired] at hnow
      exact nomatch hnow
    · intro hnow
      rw [hfired, hunfired] at hnow
      exact nomatch hnow

theorem Spent.step (h : Spent s) (hlawful : Lawful s) (hfrom : event.fromBody = true)
    (hclear : Clear event s) (hstep : ProviderJob.step event s = some s') : Spent s' := by
  cases hookStep_of_step hstep with
  | call index call hevent hfound hmoved =>
    subst hevent
    obtain ⟨next, hcalls, hworker, hchange⟩ := callStep_change hmoved
    exact h.callMoves hlawful hfound hclear hcalls hworker hchange
  | disarm _ _ hnext =>
    subst hnext
    exact ⟨fun _ => rfl, fun _ => .inr (by simp [WorkerPhase.rank]), h.body, h.flagged⟩
  | aside haside =>
    obtain ⟨hcancelled, hslot, hfired, ⟨more, hcalls, hmade⟩, -, hover⟩ := haside
    refine ⟨?_, ?_, ?_, ?_⟩
    · intro hnow
      rw [hslot]
      exact h.slot (hfired ▸ hnow)
    · intro hnow
      rw [hcancelled]
      exact (h.early (hfired ▸ hnow)).imp_right hover
    · intro call hmem hphase
      rw [hcalls] at hmem
      rcases List.mem_append.mp hmem with hmem | hmem
      · exact h.body call hmem hphase
      · obtain ⟨hook, rfl⟩ := (hmade call hmem).2 hphase
        exact of_decide_eq_true hfrom
    · intro call hmem hphase
      rw [hcalls] at hmem
      rw [hcancelled]
      rcases List.mem_append.mp hmem with hmem | hmem
      · exact h.flagged call hmem hphase
      · exact absurd hphase (hmade call hmem).1

/-! ## Delivery -/

/-- The hook was started after the first `n` entries of the log, or a thread has taken it and
starts it with its next step. -/
def RunsAfter (n hook : Nat) (s : JobState) : Prop :=
  .hook hook ∈ s.log.drop n ∨ ∃ call ∈ s.calls, call.phase = .cancelTaken hook

theorem mem_drop_append {fired : Fired} {n : Nat} {log more : List Fired}
    (h : fired ∈ log.drop n) : fired ∈ (log ++ more).drop n := by
  rw [List.drop_append]
  exact List.mem_append_left _ h

theorem mem_drop_last {fired : Fired} {n : Nat} {log : List Fired} (h : n ≤ log.length) :
    fired ∈ (log ++ [fired]).drop n := by
  rw [List.drop_append_of_le_length h]
  simp

/-- A thread that has taken a hook runs it, whatever else happens. -/
theorem RunsAfter.step {n hook : Nat} (h : RunsAfter n hook s) (hlength : n ≤ s.log.length)
    (hstep : ProviderJob.step event s = some s') : RunsAfter n hook s' := by
  cases hookStep_of_step hstep with
  | call index call hevent hfound hmoved =>
    obtain ⟨next, hcalls, -, hchange⟩ := callStep_change hmoved
    rcases h with hrun | ⟨taker, htaker, hphase⟩
    · obtain ⟨more, hlog⟩ := hchange.grows
      rw [RunsAfter, hlog]
      exact .inl (mem_drop_append hrun)
    · obtain ⟨j, hj⟩ := List.getElem?_of_mem htaker
      -- the call that holds the hook moves, and then it runs it, or another one does
      by_cases hsame : index = j
      · subst hsame
        obtain rfl : call = taker := Option.some.inj (hfound.symm.trans hj)
        rw [hphase] at hchange
        cases hchange with
        | run _ _ _ _ hlog =>
          rw [RunsAfter, hlog]
          exact .inl (mem_drop_last hlength)
        | other hplain => exact nomatch hplain
      · refine .inr ⟨taker, ?_, hphase⟩
        rw [hcalls]
        exact List.mem_of_getElem? ((List.getElem?_set_ne hsame).trans hj)
  | disarm _ _ hnext =>
    subst hnext
    exact h
  | aside haside =>
    obtain ⟨-, -, -, ⟨calls, hcalls, -⟩, ⟨more, hlog⟩, -⟩ := haside
    rw [RunsAfter, hlog, hcalls]
    refine h.imp mem_drop_append ?_
    rintro ⟨taker, htaker, hphase⟩
    exact ⟨taker, List.mem_append_left _ htaker, hphase⟩

/-- The thread that has taken a hook can always start it. -/
theorem taker_starts {index hook : Nat} {call : Call} (hfound : s.calls[index]? = some call)
    (hphase : call.phase = .cancelTaken hook) :
    ∃ s', ProviderJob.step (.call index) s = some s' ∧ s'.log = s.log ++ [.hook hook] := by
  refine ⟨(s.fire (.hook hook)).moveCall index call.origin .cancelInHook, ?_, rfl⟩
  simp only [ProviderJob.step, hfound, callStep, hphase]

/-- When every call is over the hook was run. -/
theorem RunsAfter.ran {n hook : Nat} (h : RunsAfter n hook s)
    (hover : ∀ call ∈ s.calls, call.phase = .done) : .hook hook ∈ s.log.drop n := by
  rcases h with hrun | ⟨call, hmem, hphase⟩
  · exact hrun
  · rw [hover call hmem] at hphase
    exact nomatch hphase

/-- The log only grows, and the flag stays. -/
theorem step_grows (hstep : ProviderJob.step event s = some s') :
    s.log.length ≤ s'.log.length ∧ (s.cancelled = true → s'.cancelled = true) := by
  cases hookStep_of_step hstep with
  | call index call hevent hfound hmoved =>
    obtain ⟨next, -, -, hchange⟩ := callStep_change hmoved
    obtain ⟨more, hlog⟩ := hchange.grows
    rw [hlog, List.length_append]
    exact ⟨Nat.le_add_right _ _, hchange.stays⟩
  | disarm _ _ hnext =>
    subst hnext
    exact ⟨Nat.le_refl _, id⟩
  | aside haside =>
    obtain ⟨more, hlog⟩ := haside.log
    rw [hlog, List.length_append, haside.cancelled]
    exact ⟨Nat.le_add_right _ _, id⟩

theorem found_moved {index : Nat} {call moved : Call} (hfound : s.calls[index]? = some call)
    (hcalls : s'.calls = s.calls.set index moved) : s'.calls[index]? = some moved := by
  rw [hcalls]
  exact List.getElem?_set_self (List.getElem?_eq_some_iff.mp hfound).1

/-- Where the call is after another has moved. -/
theorem found_other {index j : Nat} {call moved : Call} (hne : j ≠ index)
    (hfound : s.calls[index]? = some call) (hcalls : s'.calls = s.calls.set j moved) :
    s'.calls[index]? = some call := by
  rw [hcalls, List.getElem?_set_ne hne]
  exact hfound

theorem found_append {index : Nat} {call : Call} {more : List Call}
    (hfound : s.calls[index]? = some call) (hcalls : s'.calls = s.calls ++ more) :
    s'.calls[index]? = some call := by
  obtain ⟨hlt, -⟩ := List.getElem?_eq_some_iff.mp hfound
  rw [hcalls, List.getElem?_append_left hlt]
  exact hfound

/-- A hook that the request of that index found in its slot: it is still there, and the request
has yet to look, or it is run. -/
structure Due (index n hook : Nat) (s : JobState) : Prop where
  cancelled : s.cancelled = true
  length : n ≤ s.log.length
  due : (s.cancelHook = some hook ∧ s.hookFired = false ∧
      ∃ call, s.calls[index]? = some call ∧ call.phase = .cancelFlagged) ∨ RunsAfter n hook s

theorem Due.step {index n hook : Nat} (h : Due index n hook s) (hclear : Clear event s)
    (hstep : ProviderJob.step event s = some s') : Due index n hook s' := by
  obtain ⟨hcancelled, hlength, hdue⟩ := h
  obtain ⟨hgrows, hstays⟩ := step_grows hstep
  refine ⟨hstays hcancelled, hlength.trans hgrows, ?_⟩
  rcases hdue with ⟨hheld, hunfired, request, hrequest, hflagged⟩ | hruns
  · cases hookStep_of_step hstep with
    | call j call hevent hfound hmoved =>
      subst hevent
      obtain ⟨next, hcalls, -, hchange⟩ := callStep_change hmoved
      by_cases hsame : j = index
      · -- the request looks, and takes the hook
        subst hsame
        obtain rfl : call = request := Option.some.inj (hfound.symm.trans hrequest)
        rw [hflagged] at hchange
        cases hchange with
        | take taken htaken =>
          obtain rfl : hook = taken := Option.some.inj (hheld.symm.trans htaken)
          exact .inr (.inr ⟨_, List.mem_of_getElem? (found_moved hfound hcalls), rfl⟩)
        | miss hmissed =>
          rcases hmissed with hfired | hempty
          · rw [hunfired] at hfired
            exact nomatch hfired
          · rw [hheld] at hempty
            exact nomatch hempty
        | other hplain => exact nomatch hplain
      · have hrequest' := found_other hsame hrequest hcalls
        have hwaits (hslot : s'.cancelHook = s.cancelHook) (hfired : s'.hookFired = s.hookFired) :
            s'.cancelHook = some hook ∧ s'.hookFired = false ∧
              ∃ call, s'.calls[index]? = some call ∧ call.phase = .cancelFlagged :=
          ⟨hslot.trans hheld, hfired.trans hunfired, request, hrequest', hflagged⟩
        -- a hook that is registered now is late, and none may be
        have hlate {late : Nat} (hphase : call.phase = .registering late) : False := by
          have hempty := (hclear hcancelled call hfound (by rw [hphase]; rfl)).1
          rw [hheld] at hempty
          exact nomatch hempty
        generalize hphase : call.phase = phase at hchange
        cases hchange with
        | flag _ hslot hfired => exact .inl (hwaits hslot hfired)
        | miss _ _ hslot hfired => exact .inl (hwaits hslot hfired)
        | run _ _ hslot hfired => exact .inl (hwaits hslot hfired)
        | runJoined _ _ hslot hfired => exact .inl (hwaits hslot hfired)
        | other _ _ _ hslot hfired => exact .inl (hwaits hslot hfired)
        | take taken htaken =>
          obtain rfl : hook = taken := Option.some.inj (hheld.symm.trans htaken)
          exact .inr (.inr ⟨_, List.mem_of_getElem? (found_moved hfound hcalls), rfl⟩)
        | store late | join late | drop late => exact (hlate hphase).elim
    | disarm hevent hworker _ =>
      subst hevent
      have hempty := hclear hworker hcancelled
      rw [hheld] at hempty
      exact nomatch hempty
    | aside haside =>
      obtain ⟨-, hslot, hfired, ⟨more, hcalls, -⟩, -, -⟩ := haside
      exact .inl ⟨hslot.trans hheld, hfired.trans hunfired, request, found_append hrequest hcalls,
        hflagged⟩
  · exact .inr (hruns.step hlength hstep)

/-- A hook whose call came after the cancellation: the call has its turn before it, is about to
run the hook, or has run it. -/
structure Joined (index n hook : Nat) (s : JobState) : Prop where
  cancelled : s.cancelled = true
  length : n ≤ s.log.length
  there : ∃ call, s.calls[index]? = some call ∧
    (call.phase = .registering hook ∨ call.phase = .registerTaken hook ∨
      .hook hook ∈ s.log.drop n)

theorem Joined.step {index n hook : Nat} (h : Joined index n hook s) (hclear : Clear event s)
    (hstep : ProviderJob.step event s = some s') : Joined index n hook s' := by
  obtain ⟨hcancelled, hlength, request, hrequest, hthere⟩ := h
  obtain ⟨hgrows, hstays⟩ := step_grows hstep
  refine ⟨hstays hcancelled, hlength.trans hgrows, ?_⟩
  cases hookStep_of_step hstep with
  | call j call hevent hfound hmoved =>
    subst hevent
    obtain ⟨next, hcalls, -, hchange⟩ := callStep_change hmoved
    obtain ⟨more, hlog⟩ := hchange.grows
    by_cases hsame : j = index
    · subst hsame
      obtain rfl : call = request := Option.some.inj (hfound.symm.trans hrequest)
      refine ⟨{ call with phase := next }, found_moved hfound hcalls, ?_⟩
      rcases hthere with hphase | hphase | hrun
      · -- its turn: the job is cancelled, and no hook was taken
        have hunfired := (hclear hcancelled call hfound (by rw [hphase]; rfl)).2
        rw [hphase] at hchange
        cases hchange with
        | store _ hearly =>
          rw [hcancelled] at hearly
          exact nomatch hearly
        | join => exact .inr (.inl rfl)
        | drop _ _ hfired =>
          rw [hunfired] at hfired
          exact nomatch hfired
        | other hplain => exact nomatch hplain
      · rw [hphase] at hchange
        cases hchange with
        | runJoined _ _ _ _ hstarted =>
          rw [hstarted]
          exact .inr (.inr (mem_drop_last hlength))
        | other hplain => exact nomatch hplain
      · rw [hlog]
        exact .inr (.inr (mem_drop_append hrun))
    · refine ⟨request, found_other hsame hrequest hcalls, ?_⟩
      rw [hlog]
      exact hthere.imp_right fun hthere => hthere.imp_right mem_drop_append
  | disarm _ _ hnext =>
    subst hnext
    exact ⟨request, hrequest, hthere⟩
  | aside haside =>
    obtain ⟨-, -, -, ⟨more, hcalls, -⟩, ⟨log, hlog⟩, -⟩ := haside
    refine ⟨request, found_append hrequest hcalls, ?_⟩
    rw [hlog]
    exact hthere.imp_right fun hthere => hthere.imp_right mem_drop_append

/-! ## Every run -/

/-- A request that comes with this event, of that call, and the hook it finds registered. -/
def Requests (event : Event) (index hook : Nat) (s : JobState) : Prop :=
  event = .call index ∧ s.cancelHook = some hook ∧
    ∃ call, s.calls[index]? = some call ∧ call.phase = .cancelRequested

/-- The hook is passed to `onCancel` with this event, or has its turn with it. -/
def Registers (event : Event) (index hook : Nat) (s : JobState) : Prop :=
  event = .onCancel .body hook ∧ index = s.calls.length ∨
    event = .call index ∧ ∃ call, s.calls[index]? = some call ∧ call.phase = .registering hook

/-- The call has returned. -/
def Returned (index : Nat) (s : JobState) : Prop :=
  ∃ call, s.calls[index]? = some call ∧ call.phase = .done

theorem due_of_requests (h : Spent s) {index hook : Nat} (hrequests : Requests event index hook s)
    (hstep : ProviderJob.step event s = some s') : Due index s.log.length hook s' := by
  obtain ⟨rfl, hheld, call, hfound, hphase⟩ := hrequests
  have hmoved : callStep index call s = some s' := by
    have hmoved := hstep
    simp only [ProviderJob.step, hfound] at hmoved
    exact hmoved
  obtain ⟨next, hcalls, -, hchange⟩ := callStep_change hmoved
  rw [hphase] at hchange
  cases hchange with
  | flag hcancelled hslot hfired hlog =>
    have hunfired : s.hookFired = false := by
      cases hwas : s.hookFired with
      | false => rfl
      | true =>
        have hempty := h.slot hwas
        rw [hheld] at hempty
        cases hempty
    exact ⟨hcancelled, (step_grows hstep).1, .inl ⟨hslot.trans hheld, hfired.trans hunfired, _,
      found_moved hfound hcalls, rfl⟩⟩
  | other hplain => cases hplain

theorem joined_of_registers {index hook : Nat} (hcancelled : s.cancelled = true)
    (hregisters : Registers event index hook s) (hclear : Clear event s)
    (hstep : ProviderJob.step event s = some s') : Joined index s.log.length hook s' := by
  rcases hregisters with ⟨rfl, rfl⟩ | ⟨rfl, call, hfound, hphase⟩
  · obtain ⟨-, rfl⟩ := of_guard hstep
    refine ⟨hcancelled, Nat.le_refl _, { origin := .body, phase := .registering hook }, ?_,
      .inl rfl⟩
    exact List.getElem?_concat_length
  · have hjoined : Joined index s.log.length hook s :=
      ⟨hcancelled, Nat.le_refl _, call, hfound, .inl hphase⟩
    exact hjoined.step hclear hstep

/-- In a run without a turn of `onCancel` or an end of the body that comes badly, no hook is
lost: the one that a request found registered is run, and so is every one that was passed to
`onCancel` after the cancellation, or had its turn after it, before that `onCancel` returns. -/
theorem cancel_notLost {outJob body spawned : Bool} {callbacks : Option Callbacks}
    {initial s s₁ s₂ : JobState} {earlier later : List Event} {event : Event}
    (hstart : startJob outJob body callbacks spawned = .ok initial)
    (hfrom : ∀ e ∈ earlier ++ event :: later, e.fromBody = true)
    (hclear : Taken step Clear (earlier ++ event :: later) initial)
    (hearlier : run step earlier initial = some s) (hevent : step event s = some s₁)
    (hlater : run step later s₁ = some s₂) (index hook : Nat) :
    (Requests event index hook s → Returned index s₂ → RunsAfter s.log.length hook s₂) ∧
    (s.cancelled = true → Registers event index hook s → Returned index s₂ →
      .hook hook ∈ s₂.log.drop s.log.length) := by
  obtain ⟨hbefore, hafter⟩ := (hclear.and_mem hfrom).append hearlier
  -- what holds when the event comes
  have hnow : Lawful s ∧ Spent s := by
    refine run_keeps_taken (fun s => Lawful s ∧ Spent s) ?_ hbefore ?_ hearlier
    · intro e s s' hinv htaken hstep
      exact ⟨hinv.1.step hstep, hinv.2.step hinv.1 htaken.1 htaken.2 hstep⟩
    · refine ⟨startJob_lawful hstart, ?_⟩
      obtain ⟨onDataset, rfl⟩ := startJob_initial hstart
      exact spent_initial onDataset
  have hrest := hafter.next hevent
  refine ⟨?_, ?_⟩
  · intro hrequests hreturned
    have hdue : Due index s.log.length hook s₂ :=
      run_keeps_taken (Due index s.log.length hook)
        (fun e s s' hinv htaken hstep => hinv.step htaken.2 hstep) hrest
        (due_of_requests hnow.2 hrequests hevent) hlater
    obtain ⟨call, hfound, hdone⟩ := hreturned
    rcases hdue.due with ⟨-, -, request, hrequest, hflagged⟩ | hruns
    · obtain rfl : call = request := Option.some.inj (hfound.symm.trans hrequest)
      rw [hdone] at hflagged
      exact nomatch hflagged
    · exact hruns
  · intro hcancelled hregisters hreturned
    have hjoined : Joined index s.log.length hook s₂ :=
      run_keeps_taken (Joined index s.log.length hook)
        (fun e s s' hinv htaken hstep => hinv.step htaken.2 hstep) hrest
        (joined_of_registers hcancelled hregisters hafter.1.2 hevent) hlater
    obtain ⟨call, hfound, hdone⟩ := hreturned
    obtain ⟨request, hrequest, hthere⟩ := hjoined.there
    obtain rfl : call = request := Option.some.inj (hfound.symm.trans hrequest)
    rcases hthere with hphase | hphase | hrun
    · rw [hdone] at hphase
      exact nomatch hphase
    · rw [hdone] at hphase
      exact nomatch hphase
    · exact hrun

/-! A body that runs, a hook that is cancelled, and a hook that comes after the cancellation. -/

def opening : List Event := [.start, .start, .start, .worker, .worker]

/-- Hook 7 is registered and a request comes. -/
def registered : List Event :=
  opening ++ [.onCancel .body 7, .call 0, .requestCancel .external]

/-- A request comes and finds none. -/
def calm : List Event := opening ++ [.requestCancel .external, .call 0, .call 0]

def startable : Option Callbacks := some ⟨24, false, true⟩

/-- The request finds hook 7, and runs it; in another run hook 8 comes late and first. -/
theorem cancel_notLost_delivered :
    (∃ s s₁ s₂, run step registered {} = some s ∧ step (.call 1) s = some s₁ ∧
      run step [.call 1, .call 1, .call 1, .call 1] s₁ = some s₂ ∧
      RunsAfter s.log.length 7 s₂) ∧
    ∃ s s₁ s₂, run step calm {} = some s ∧
      step (.onCancel .body 8) s = some s₁ ∧ run step [.call 1, .call 1, .call 1] s₁ = some s₂ ∧
      .hook 8 ∈ s₂.log.drop s.log.length := by
  have hstart : startJob true true startable true = .ok {} := rfl
  have hclear : Taken step Clear
      (registered ++ .call 1 :: [.call 1, .call 1, .call 1, .call 1]) {} := by decide
  have hclear' : Taken step Clear
      (calm ++ .onCancel .body 8 :: [.call 1, .call 1, .call 1]) {} := by decide
  refine ⟨⟨_, _, _, rfl, rfl, rfl, ?_⟩, ⟨_, _, _, rfl, rfl, rfl, ?_⟩⟩
  · exact (cancel_notLost hstart (by decide) hclear rfl rfl rfl 1 7).1
      ⟨rfl, rfl, _, rfl, rfl⟩ ⟨_, rfl, rfl⟩
  · exact (cancel_notLost hstart (by decide) hclear' rfl rfl rfl 1 8).2 rfl
      (.inl ⟨rfl, rfl⟩) ⟨_, rfl, rfl⟩

/-- After hook 7 was run, hook 8 is passed to `onCancel` of the cancelled job, which returns
without running it. And where the request has stored its flag and hook 8 comes before it looks,
hook 7 is the one that is lost. -/
theorem cancel_lost :
    (∃ s s₁ s₂, run step (registered ++ [.call 1, .call 1, .call 1, .call 1, .call 1]) {} = some s ∧
      s.cancelled = true ∧ step (.onCancel .body 8) s = some s₁ ∧
      run step [.call 2] s₁ = some s₂ ∧ Returned 2 s₂ ∧ .hook 8 ∉ s₂.log) ∧
    ∃ s s₁ s₂, run step registered {} = some s ∧ Requests (.call 1) 1 7 s ∧
      step (.call 1) s = some s₁ ∧
      run step [.onCancel .body 8, .call 2, .call 2, .call 2, .call 1] s₁ = some s₂ ∧
      (∀ call ∈ s₂.calls, call.phase = .done) ∧ .hook 7 ∉ s₂.log := by
  refine ⟨⟨_, _, _, rfl, rfl, rfl, rfl, ⟨_, rfl, rfl⟩, by decide⟩, ?_⟩
  exact ⟨_, _, _, rfl, ⟨rfl, rfl, _, rfl, rfl⟩, rfl, rfl, by decide, by decide⟩

end ProviderJob

end PlotJugglerSdk
