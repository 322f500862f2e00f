import Mathlib.Data.List.Basic
import Mathlib.Data.List.Infix
import PlotJugglerSdk.Concurrency.Runs

/-!
# The poller of the stop button

A thread asks the host, again and again, whether the user wants an ingest to stop, and cancels
it once he does. Its owner stops and joins it before the context of the ingest is released. The
two share a mutex, a flag and a condition variable; the thread may be woken for no reason, and
its wait may time out at any moment.

* `Sound.step`      — what every step keeps
* `rank_step`       — what a step of the thread costs it once it is stopped
* `poller_protocol` — one cancellation, only if asked for; nothing after a join; and a join that
  does not wait for a timeout
-/

namespace PlotJugglerSdk

open Runs

namespace StopPoller

/-- Where the thread is. It has the mutex while it tests the flag of its loop and the predicate
of its wait. -/
inductive Phase where
  | locking
  | testing
  | unlocked
  | checking
  | requested
  | acting
  | relocking
  | predicate
  | waiting (notified : Bool)
  | waking (timedOut : Bool)
  | returned
  deriving DecidableEq

def Phase.hasMutex : Phase → Bool
  | .testing | .predicate => true
  | _ => false

/-- Where the owner is in `stopAndJoin`. -/
inductive OwnerPhase where
  | outside
  | notifying
  | joining
  deriving DecidableEq

inductive Act where
  | checkStarts
  | checkEnds (requested : Bool)
  | cancelStarts
  | cancelEnds
  | stops
  | joined
  deriving DecidableEq

/-- The thread's own acts are its calls of the two actions. -/
def Act.ofThread : Act → Bool
  | .stops | .joined => false
  | _ => true

structure Poller where
  stopped : Bool := false
  phase : Phase := .locking
  joinable : Bool := true
  owner : OwnerPhase := .outside
  log : List Act := []
  deriving DecidableEq

/-- The constructor starts the thread. -/
def construct (isStopRequested cancel : Bool) (periodMs : Int64) : Except String Poller :=
  if !isStopRequested || !cancel || periodMs ≤ 0 then
    .error "StopPoller needs both actions and a positive period"
  else .ok {}

/-- `run` is the next step of the thread, with what a check returns that ends there. -/
inductive Event where
  | run (requested : Bool)
  | timeout
  | spurious
  | stopAndJoin
  | notify
  | join
  deriving DecidableEq

def Event.ofThread : Event → Bool
  | .run _ | .timeout | .spurious => true
  | _ => false

def runThread (requested : Bool) (s : Poller) : Option Poller :=
  match s.phase with
  | .locking => some { s with phase := .testing }
  | .testing => some { s with phase := if s.stopped then .returned else .unlocked }
  | .unlocked => some { s with phase := .checking, log := s.log ++ [.checkStarts] }
  | .checking =>
    some
      { s with
        phase := if requested then .requested else .relocking
        log := s.log ++ [.checkEnds requested] }
  | .requested => some { s with phase := .acting, log := s.log ++ [.cancelStarts] }
  | .acting => some { s with phase := .returned, log := s.log ++ [.cancelEnds] }
  | .relocking => some { s with phase := .predicate }
  -- the mutex is given back and the wait begun in one step
  | .predicate => some { s with phase := if s.stopped then .testing else .waiting false }
  | .waiting notified => if notified then some { s with phase := .waking false } else none
  -- a wait that timed out looks at its predicate, and returns whatever it says
  | .waking timedOut => some { s with phase := if timedOut then .testing else .predicate }
  | .returned => none

def step : Event → Poller → Option Poller
  | .run requested, s => runThread requested s
  | .timeout, s =>
    match s.phase with
    | .waiting _ => some { s with phase := .waking true }
    | _ => none
  | .spurious, s =>
    match s.phase with
    | .waiting _ => some { s with phase := .waking false }
    | _ => none
  | .stopAndJoin, s =>
    if s.owner = .outside ∧ s.phase.hasMutex = false then
      some { s with stopped := true, owner := .notifying, log := s.log ++ [.stops] }
    else none
  | .notify, s =>
    if s.owner = .notifying then
      some
        { s with
          phase := match s.phase with
            | .waiting _ => .waiting true
            | phase => phase
          owner := .joining }
    else none
  | .join, s =>
    -- a thread that was joined before is not joinable
    if s.owner = .joining ∧ (s.joinable = true → s.phase = .returned) then
      some { s with joinable := false, owner := .outside, log := s.log ++ [.joined] }
    else none

/-! ## What the thread has done -/

def acts (log : List Act) : List Act := log.filter Act.ofThread

@[simp] theorem acts_append (log log' : List Act) : acts (log ++ log') = acts log ++ acts log' := by
  simp [acts]

/-- Checks that were answered no. -/
def polls (count : Nat) : List Act :=
  (List.replicate count [.checkStarts, .checkEnds false]).flatten

theorem polls_succ (count : Nat) :
    polls (count + 1) = polls count ++ [.checkStarts, .checkEnds false] := by
  simp [polls, List.replicate_succ']

/-- What stands after the last answer of no. -/
def Phase.tail : Phase → List Act → Prop
  | .checking, tail => tail = [.checkStarts]
  | .requested, tail => tail = [.checkStarts, .checkEnds true]
  | .acting, tail => tail = [.checkStarts, .checkEnds true, .cancelStarts]
  | .returned, tail =>
    tail = [] ∨ tail = [.checkStarts, .checkEnds true, .cancelStarts, .cancelEnds]
  | _, tail => tail = []

/-! ## What every step keeps -/

structure Sound (s : Poller) : Prop where
  told : ∃ count tail, acts s.log = polls count ++ tail ∧ s.phase.tail tail
  stopping : s.owner ≠ .outside → s.stopped = true
  notified : s.owner = .joining → ∀ notified, s.phase = .waiting notified → notified = true
  joined : s.joinable = false → s.phase = .returned
  last : ∀ front back, s.log = front ++ .joined :: back → s.joinable = false ∧ acts back = []
  after : ∀ front back, s.log = front ++ .stops :: back →
    s.stopped = true ∧ back.count .checkStarts ≤ 1 ∧
      (s.phase = .unlocked → back.count .checkStarts = 0)

theorem sound_initial : Sound {} where
  told := ⟨0, [], rfl, rfl⟩
  stopping h := absurd rfl h
  notified h := nomatch h
  joined h := nomatch h
  last front back h := absurd (congrArg List.length h) (by simp)
  after front back h := absurd (congrArg List.length h) (by simp)

end StopPoller

namespace StopPoller

variable {s s' : Poller}

/-- The thread moves on without a call of an action. -/
theorem Sound.move (h : Sound s) {phase : Phase} (hrunning : s.phase ≠ .returned)
    (htail : ∀ tail, s.phase.tail tail → phase.tail tail)
    (hnotified : s.owner = .joining → ∀ notified, phase = .waiting notified → notified = true)
    (hunlocked : phase = .unlocked → s.stopped = false) : Sound { s with phase } where
  told := by
    obtain ⟨count, tail, hacts, hsaid⟩ := h.told
    exact ⟨count, tail, hacts, htail tail hsaid⟩
  stopping := h.stopping
  notified := hnotified
  joined hjoined := absurd (h.joined hjoined) hrunning
  last := h.last
  after front back hlog := by
    obtain ⟨hstopped, hcount, -⟩ := h.after front back hlog
    refine ⟨hstopped, hcount, fun hphase => ?_⟩
    exact absurd (hstopped.symm.trans (hunlocked hphase)) (by simp)

/-- The thread calls an action, or one returns. -/
theorem Sound.act (h : Sound s) {phase : Phase} {act : Act} (hrunning : s.phase ≠ .returned)
    (hact : act.ofThread = true)
    (htold : ∃ count tail, acts s.log ++ [act] = polls count ++ tail ∧ phase.tail tail)
    (hwaiting : ∀ notified, phase ≠ .waiting notified) (hunlocked : phase ≠ .unlocked)
    (hchecks : act = .checkStarts → s.phase = .unlocked) :
    Sound { s with phase, log := s.log ++ [act] } where
  told := by
    obtain ⟨count, tail, hacts, hsaid⟩ := htold
    refine ⟨count, tail, ?_, hsaid⟩
    rw [acts_append, ← hacts]
    simp [acts, hact]
  stopping := h.stopping
  notified _ notified hphase := absurd hphase (hwaiting notified)
  joined hjoined := absurd (h.joined hjoined) hrunning
  last front back hlog := by
    obtain ⟨rfl, -, -⟩ | ⟨earlier, -, hbefore⟩ := split_snoc hlog
    · simp [Act.ofThread] at hact
    · exact absurd (h.joined (h.last front earlier hbefore).1) hrunning
  after front back hlog := by
    obtain ⟨rfl, -, -⟩ | ⟨earlier, rfl, hbefore⟩ := split_snoc hlog
    · simp [Act.ofThread] at hact
    · obtain ⟨hstopped, hcount, hnone⟩ := h.after front earlier hbefore
      refine ⟨hstopped, ?_, fun hphase => absurd hphase hunlocked⟩
      rw [List.count_append]
      by_cases hstarts : act = .checkStarts
      · -- the check that was about to start when the flag was set
        rw [hnone (hchecks hstarts), hstarts]
        decide
      · rw [List.count_singleton, beq_false_of_ne hstarts]
        simpa using hcount

theorem Sound.runThread (h : Sound s) {requested : Bool}
    (hstep : StopPoller.runThread requested s = some s') : Sound s' := by
  obtain ⟨count, tail, hacts, hsaid⟩ := h.told
  unfold StopPoller.runThread at hstep
  cases hphase : s.phase with
  | locking =>
    simp only [hphase, Option.some.injEq] at hstep
    subst hstep
    exact h.move (by simp [hphase]) (by simp [hphase, Phase.tail]) (by simp) (by simp)
  | testing =>
    simp only [hphase, Option.some.injEq] at hstep
    subst hstep
    by_cases hstopped : s.stopped = true
    · rw [if_pos hstopped]
      exact h.move (by simp [hphase]) (by simp [hphase, Phase.tail]) (by simp) (by simp)
    · rw [if_neg hstopped]
      exact h.move (by simp [hphase]) (by simp [hphase, Phase.tail]) (by simp)
        fun _ => Bool.eq_false_iff.mpr hstopped
  | unlocked =>
    simp only [hphase, Option.some.injEq] at hstep
    subst hstep
    rw [hphase] at hsaid
    obtain rfl : tail = [] := hsaid
    exact h.act (by simp [hphase]) rfl ⟨count, [.checkStarts], by simp [hacts], rfl⟩ (by simp)
      (by simp) fun _ => hphase
  | checking =>
    simp only [hphase, Option.some.injEq] at hstep
    subst hstep
    rw [hphase] at hsaid
    obtain rfl : tail = [.checkStarts] := hsaid
    cases requested with
    | true =>
      exact h.act (by simp [hphase]) rfl
        ⟨count, [.checkStarts, .checkEnds true], by simp [hacts], rfl⟩ (by simp) (by simp) (by simp)
    | false =>
      exact h.act (by simp [hphase]) rfl
        ⟨count + 1, [], by simp [hacts, polls_succ], rfl⟩ (by simp) (by simp) (by simp)
  | requested =>
    simp only [hphase, Option.some.injEq] at hstep
    subst hstep
    rw [hphase] at hsaid
    obtain rfl : tail = [.checkStarts, .checkEnds true] := hsaid
    exact h.act (by simp [hphase]) rfl
      ⟨count, [.checkStarts, .checkEnds true, .cancelStarts], by simp [hacts], rfl⟩
      (by simp) (by simp) (by simp)
  | acting =>
    simp only [hphase, Option.some.injEq] at hstep
    subst hstep
    rw [hphase] at hsaid
    obtain rfl : tail = [.checkStarts, .checkEnds true, .cancelStarts] := hsaid
    exact h.act (by simp [hphase]) rfl
      ⟨count, [.checkStarts, .checkEnds true, .cancelStarts, .cancelEnds], by simp [hacts],
        .inr rfl⟩
      (by simp) (by simp) (by simp)
  | relocking =>
    simp only [hphase, Option.some.injEq] at hstep
    subst hstep
    exact h.move (by simp [hphase]) (by simp [hphase, Phase.tail]) (by simp) (by simp)
  | predicate =>
    simp only [hphase, Option.some.injEq] at hstep
    subst hstep
    by_cases hstopped : s.stopped = true
    · rw [if_pos hstopped]
      exact h.move (by simp [hphase]) (by simp [hphase, Phase.tail]) (by simp) (by simp)
    · rw [if_neg hstopped]
      refine h.move (by simp [hphase]) (by simp [hphase, Phase.tail]) (fun howner => ?_) (by simp)
      -- an owner that joins has set the flag before
      exact absurd (h.stopping (by simp [howner])) hstopped
  | waiting notified =>
    cases notified with
    | true =>
      simp only [hphase, if_true, Option.some.injEq] at hstep
      subst hstep
      exact h.move (by simp [hphase]) (by simp [hphase, Phase.tail]) (by simp) (by simp)
    | false => simp [hphase] at hstep
  | waking timedOut =>
    simp only [hphase, Option.some.injEq] at hstep
    subst hstep
    cases timedOut <;>
      exact h.move (by simp [hphase]) (by simp [hphase, Phase.tail]) (by simp) (by simp)
  | returned => simp [hphase] at hstep

/-- A wait that ends by itself. -/
theorem Sound.wakes (h : Sound s) {notified timedOut : Bool} (hphase : s.phase = .waiting notified) :
    Sound { s with phase := .waking timedOut } :=
  h.move (by simp [hphase]) (by simp [hphase, Phase.tail]) (by simp) (by simp)

theorem Sound.step (h : Sound s) {event : Event} (hstep : StopPoller.step event s = some s') :
    Sound s' := by
  cases event with
  | run requested => exact h.runThread hstep
  | timeout =>
    simp only [StopPoller.step] at hstep
    split at hstep
    · rename_i hphase
      obtain rfl := Option.some.inj hstep
      exact h.wakes hphase
    · cases hstep
  | spurious =>
    simp only [StopPoller.step] at hstep
    split at hstep
    · rename_i hphase
      obtain rfl := Option.some.inj hstep
      exact h.wakes hphase
    · cases hstep
  | stopAndJoin =>
    simp only [StopPoller.step] at hstep
    split at hstep
    · rename_i hfree
      obtain rfl := Option.some.inj hstep
      exact
        { told := by simpa [acts, Act.ofThread] using h.told
          stopping := fun _ => rfl
          notified := fun howner => nomatch howner
          joined := h.joined
          last := fun front back hlog => by
            obtain ⟨heq, -, -⟩ | ⟨earlier, rfl, hbefore⟩ := split_snoc hlog
            · cases heq
            · obtain ⟨hjoined, hacts⟩ := h.last front earlier hbefore
              exact ⟨hjoined, by simpa [acts, Act.ofThread] using hacts⟩
          after := fun front back hlog => by
            obtain ⟨-, -, rfl⟩ | ⟨earlier, rfl, hbefore⟩ := split_snoc hlog
            · exact ⟨rfl, by simp, by simp⟩
            · obtain ⟨-, hcount, hnone⟩ := h.after front earlier hbefore
              exact ⟨rfl, by simpa using hcount, by simpa using hnone⟩ }
    · cases hstep
  | notify =>
    simp only [StopPoller.step] at hstep
    split at hstep
    · rename_i howner
      obtain rfl := Option.some.inj hstep
      have hstopped := h.stopping (by simp [howner])
      have hsame : ∀ phase, (∀ notified, phase ≠ .waiting notified) →
          (match s.phase with | .waiting _ => Phase.waiting true | phase => phase) = phase →
            s.phase = phase := by
        intro phase hnot heq
        cases hphase : s.phase <;> simp_all
      exact
        { told := by
            obtain ⟨count, tail, hacts, hsaid⟩ := h.told
            refine ⟨count, tail, hacts, ?_⟩
            cases hphase : s.phase <;> simp_all [Phase.tail]
          stopping := fun _ => hstopped
          notified := fun _ notified hphase => by
            dsimp only at hphase
            split at hphase
            · exact (Phase.waiting.inj hphase).symm
            · rename_i hnot
              exact absurd hphase (hnot notified)
          joined := fun hjoined => by
            have hreturned := h.joined hjoined
            simp [hreturned]
          last := h.last
          after := fun front back hlog => by
            obtain ⟨-, hcount, hnone⟩ := h.after front back hlog
            exact ⟨hstopped, hcount, fun hphase => hnone (hsame _ (by simp) hphase)⟩ }
    · cases hstep
  | join =>
    simp only [StopPoller.step] at hstep
    split at hstep
    · rename_i hready
      obtain ⟨howner, hreturned⟩ := hready
      obtain rfl := Option.some.inj hstep
      have hover : s.phase = .returned := by
        cases hjoinable : s.joinable with
        | true => exact hreturned hjoinable
        | false => exact h.joined hjoinable
      exact
        { told := by simpa [acts, Act.ofThread] using h.told
          stopping := fun hout => absurd rfl hout
          notified := fun howner => nomatch howner
          joined := fun _ => hover
          last := fun front back hlog => by
            obtain ⟨-, -, rfl⟩ | ⟨earlier, rfl, hbefore⟩ := split_snoc hlog
            · exact ⟨rfl, rfl⟩
            · exact ⟨rfl, by simpa [acts, Act.ofThread] using (h.last front earlier hbefore).2⟩
          after := fun front back hlog => by
            obtain ⟨heq, -, -⟩ | ⟨earlier, rfl, hbefore⟩ := split_snoc hlog
            · cases heq
            · obtain ⟨hstopped, hcount, hnone⟩ := h.after front earlier hbefore
              exact ⟨hstopped, by simpa using hcount, by simpa using hnone⟩ }
    · cases hstep

/-! ## How long a stop takes -/

/-- How many steps a stopped thread has left, at most, whatever wakes it. -/
def Phase.rank : Phase → Nat
  | .unlocked => 5
  | .checking | .waiting _ => 4
  | .relocking | .waking _ => 3
  | .locking | .predicate | .requested => 2
  | .testing | .acting => 1
  | .returned => 0

theorem rank_le (phase : Phase) : phase.rank ≤ 5 := by
  cases phase <;> simp [Phase.rank]

/-- Once it is stopped, each step of the thread brings it nearer to its end, and nothing else
takes it back. -/
theorem rank_step (hstopped : s.stopped = true) {event : Event} (hstep : step event s = some s') :
    s'.stopped = true ∧ s'.phase.rank + (if event.ofThread then 1 else 0) ≤ s.phase.rank := by
  cases event with
  | run requested =>
    simp only [step, runThread] at hstep
    cases hphase : s.phase <;> simp only [hphase, hstopped, if_true, Option.some.injEq] at hstep
    case checking =>
      subst hstep
      cases requested <;> simp [Phase.rank, Event.ofThread]
    case waiting notified =>
      cases notified with
      | true =>
        obtain rfl := Option.some.inj hstep
        simp [Phase.rank, Event.ofThread]
      | false => simp at hstep
    case waking timedOut =>
      subst hstep
      cases timedOut <;> simp [Phase.rank, Event.ofThread]
    case returned => cases hstep
    all_goals
      subst hstep
      simp [Phase.rank, Event.ofThread]
  | timeout =>
    simp only [step] at hstep
    split at hstep
    · rename_i hphase
      obtain rfl := Option.some.inj hstep
      simp [hstopped, hphase, Phase.rank, Event.ofThread]
    · cases hstep
  | spurious =>
    simp only [step] at hstep
    split at hstep
    · rename_i hphase
      obtain rfl := Option.some.inj hstep
      simp [hstopped, hphase, Phase.rank, Event.ofThread]
    · cases hstep
  | stopAndJoin =>
    simp only [step] at hstep
    split at hstep
    · obtain rfl := Option.some.inj hstep
      simp [Event.ofThread]
    · cases hstep
  | notify =>
    simp only [step] at hstep
    split at hstep
    · obtain rfl := Option.some.inj hstep
      cases hphase : s.phase <;> simp [hstopped, Phase.rank, Event.ofThread]
    · cases hstep
  | join =>
    simp only [step] at hstep
    split at hstep
    · obtain rfl := Option.some.inj hstep
      simp [hstopped, Event.ofThread]
    · cases hstep

theorem rank_run {events : List Event} (hstopped : s.stopped = true)
    (hrun : run step events s = some s') :
    s'.phase.rank + events.countP Event.ofThread ≤ s.phase.rank := by
  induction events generalizing s with
  | nil =>
    obtain rfl := Option.some.inj hrun
    simp
  | cons event events ih =>
    obtain ⟨next, hstep, hrest⟩ := run_cons hrun
    obtain ⟨hstill, hrank⟩ := rank_step hstopped hstep
    have hlater := ih hstill hrest
    rw [List.countP_cons]
    omega

/-- An owner that joins does not wait for a timeout: until the thread has returned, it can take
its next step. -/
theorem Sound.progress (h : Sound s) (howner : s.owner = .joining) (hrunning : s.phase ≠ .returned)
    (requested : Bool) : (StopPoller.step (.run requested) s).isSome := by
  simp only [StopPoller.step, StopPoller.runThread]
  cases hphase : s.phase with
  | waiting notified => simp [h.notified howner notified hphase]
  | returned => exact absurd hphase hrunning
  | _ => rfl

/-- Over every interleaving of the thread, its wakings and its owner: the thread's calls are
checks answered no, then at most one answered yes and the one cancellation; at most one check
starts after the flag is set; no action runs once `stopAndJoin` has returned; and an owner that
joins waits for at most five steps of the thread, each of which can be taken without a timeout. -/
theorem poller_protocol {isStopRequested cancel : Bool} {periodMs : Int64} {initial : Poller}
    {events : List Event} (hstart : construct isStopRequested cancel periodMs = .ok initial)
    (hrun : run step events initial = some s) :
    (∃ count, acts s.log <+:
        polls count ++ [.checkStarts, .checkEnds true, .cancelStarts, .cancelEnds]) ∧
      (∀ front back, s.log = front ++ .stops :: back → back.count .checkStarts ≤ 1) ∧
      (∀ front back, s.log = front ++ .joined :: back → acts back = []) ∧
      (s.owner = .joining →
        (s.phase ≠ .returned → ∀ requested, (step (.run requested) s).isSome) ∧
          ∀ later s', run step later s = some s' → later.countP Event.ofThread ≤ 5) := by
  have hinitial : initial = {} := by
    unfold construct at hstart
    split at hstart
    · cases hstart
    · exact (Except.ok.inj hstart).symm
  subst hinitial
  have hsound : Sound s :=
    run_keeps Sound (fun _ _ _ h hstep => h.step hstep) sound_initial hrun
  refine ⟨?_, fun front back hlog => (hsound.after front back hlog).2.1,
    fun front back hlog => (hsound.last front back hlog).2, fun howner => ⟨?_, ?_⟩⟩
  · obtain ⟨count, tail, hacts, hsaid⟩ := hsound.told
    refine ⟨count, hacts ▸ (List.prefix_append_right_inj _).mpr ?_⟩
    cases hphase : s.phase <;> simp only [hphase, Phase.tail] at hsaid
    case returned =>
      obtain rfl | rfl := hsaid
      · exact List.nil_prefix
      · exact List.prefix_rfl
    all_goals
      subst hsaid
      simp
  · exact hsound.progress howner
  · intro later s' hlater
    have hranks := rank_run (hsound.stopping (by simp [howner])) hlater
    have hle := rank_le s.phase
    omega

/-- One check, then the user stops, and the owner joins a thread that has cancelled. -/
def cancelledRun : List Event :=
  [.run false, .run false, .run false, .run false, .run false, .run false, .timeout, .run false,
    .run false, .stopAndJoin, .run false, .notify, .run true, .run false, .run false]

def cancelledPoller : Poller where
  stopped := true
  phase := .returned
  owner := .joining
  log := [.checkStarts, .checkEnds false, .stops, .checkStarts, .checkEnds true, .cancelStarts,
    .cancelEnds]

theorem poller_protocol_cancelled :
    run step cancelledRun {} = some cancelledPoller ∧
      ∃ count, acts cancelledPoller.log <+:
        polls count ++ [.checkStarts, .checkEnds true, .cancelStarts, .cancelEnds] := by
  have hstart : construct true true 50 = .ok {} := rfl
  have hrun : run step cancelledRun {} = some cancelledPoller := by decide
  exact ⟨hrun, (poller_protocol hstart hrun).1⟩

end StopPoller

end PlotJugglerSdk
