import Mathlib.Data.List.Basic
import PlotJugglerSdk.Concurrency.Locks

/-!
# A latch that is settled once

The result of a step that ends elsewhere: whoever ends it settles the latch, from any thread and
maybe twice, and whoever needs the result waits, until it is settled or until his own question
whether to give up is answered yes. All share a mutex and a condition variable; a wait may be
woken for no reason, and its time may be up at any moment.

* `Sound.step`     — what every step keeps
* `rank_run`       — what a settled latch still costs who waits
* `latch_protocol` — one settlement, which everybody sees alike; and no wait that misses it
-/

namespace PlotJugglerSdk

open Runs Locks

namespace SettlementLatch

inductive SettlePhase where
  | locking
  | holding
  | notifying
  | returned
  deriving DecidableEq

inductive WaitPhase where
  | locking
  | testing
  /-- In the waiter's own `cancelled`, which is called with the mutex held. -/
  | asking
  | asleep (notified : Bool)
  | returned (answer : Bool)
  deriving DecidableEq

/-- A call of `settle`, or one of `wait`, with a `cancelled` or without. -/
inductive Thread where
  | settle (ok : Bool) (detail : String) (phase : SettlePhase)
  | wait (cancellable : Bool) (phase : WaitPhase)
  deriving DecidableEq

def Thread.held : Thread → Option (Unit × Mode)
  | .settle _ _ .holding | .wait _ .testing | .wait _ .asking => some ((), .exclusive)
  | _ => none

def Thread.notify : Thread → Thread
  | .wait cancellable (.asleep _) => .wait cancellable (.asleep true)
  | thread => thread

/-- What the threads do to the latch, and what they learn of it. -/
inductive Act where
  | settles (ok : Bool) (detail : String)
  | ignored (ok : Bool) (detail : String)
  | waited (answer : Bool)
  | settledIs (answer : Bool)
  | okIs (answer : Bool)
  | detailIs (answer : String)
  deriving DecidableEq

structure Latch where
  settled : Bool := false
  ok : Bool := false
  detail : String := ""
  threads : List Thread := []
  log : List Act := []
  deriving DecidableEq

inductive Getter where
  | settled
  | ok
  | detail
  deriving DecidableEq

def Getter.read (getter : Getter) (s : Latch) : Act :=
  match getter with
  | .settled => .settledIs s.settled
  | .ok => .okIs s.ok
  | .detail => .detailIs s.detail

/-- `run` is the next step of a thread, with what a `cancelled` returns that ends there; `wakes`
ends a wait whose time is up, or for no reason. -/
inductive Event where
  | settle (ok : Bool) (detail : String)
  | wait (cancellable : Bool)
  | get (getter : Getter)
  | run (index : Nat) (cancelled : Bool)
  | wakes (index : Nat)
  deriving DecidableEq

def Event.ofThread (index : Nat) : Event → Bool
  | .run index' _ | .wakes index' => index' = index
  | _ => false

namespace Latch

def free (s : Latch) : Bool := canLock Thread.held () .exclusive s.threads

def move (index : Nat) (thread : Thread) (s : Latch) : Latch :=
  { s with threads := s.threads.set index thread }

end Latch

def runThread (index : Nat) (cancelled : Bool) (s : Latch) : Thread → Option Latch
  | .settle ok detail .locking =>
    if s.free then some (s.move index (.settle ok detail .holding)) else none
  | .settle ok detail .holding =>
    if s.settled then
      some { s.move index (.settle ok detail .returned) with log := s.log ++ [.ignored ok detail] }
    else
      some
        { s.move index (.settle ok detail .notifying) with
          settled := true, ok, detail, log := s.log ++ [.settles ok detail] }
  | .settle ok detail .notifying =>
    -- all that sleep now, whatever they were told before
    let s := s.move index (.settle ok detail .returned)
    some { s with threads := s.threads.map Thread.notify }
  | .settle _ _ .returned => none
  | .wait cancellable .locking =>
    if s.free then some (s.move index (.wait cancellable .testing)) else none
  | .wait cancellable .testing =>
    if s.settled then
      some
        { s.move index (.wait cancellable (.returned true)) with log := s.log ++ [.waited true] }
    else if cancellable then some (s.move index (.wait cancellable .asking))
    else some (s.move index (.wait cancellable (.asleep false)))
  | .wait cancellable .asking =>
    if cancelled then
      some
        { s.move index (.wait cancellable (.returned false)) with log := s.log ++ [.waited false] }
    -- the mutex is given back and the sleep begun in one step
    else some (s.move index (.wait cancellable (.asleep false)))
  | .wait cancellable (.asleep notified) =>
    if notified then some (s.move index (.wait cancellable .locking)) else none
  | .wait _ (.returned _) => none

def step : Event → Latch → Option Latch
  | .settle ok detail, s => some { s with threads := s.threads ++ [.settle ok detail .locking] }
  | .wait cancellable, s => some { s with threads := s.threads ++ [.wait cancellable .locking] }
  | .get getter, s => if s.free then some { s with log := s.log ++ [getter.read s] } else none
  | .run index cancelled, s => (s.threads[index]?).bind (runThread index cancelled s)
  | .wakes index, s =>
    match s.threads[index]? with
    | some (.wait cancellable (.asleep _)) => some (s.move index (.wait cancellable .locking))
    | _ => none

/-! ## What the log tells -/

/-- What can be done and learned while nobody has settled. -/
def Act.isBefore : Act → Prop
  | .waited answer => answer = false
  | .settledIs answer => answer = false
  | .okIs answer => answer = false
  | .detailIs answer => answer = ""
  | .settles _ _ | .ignored _ _ => False

/-- And once somebody has settled with these. -/
def Act.isAfter (ok : Bool) (detail : String) : Act → Prop
  | .waited answer => answer = true
  | .settledIs answer => answer = true
  | .okIs answer => answer = ok
  | .detailIs answer => answer = detail
  | .ignored _ _ => True
  | .settles _ _ => False

def Unsettled (log : List Act) : Prop := ∀ act ∈ log, act.isBefore

def Settled (log : List Act) (ok : Bool) (detail : String) : Prop :=
  ∃ front back, log = front ++ .settles ok detail :: back ∧ Unsettled front ∧
    ∀ act ∈ back, act.isAfter ok detail

theorem Unsettled.snoc {log : List Act} {act : Act} (h : Unsettled log) (hact : act.isBefore) :
    Unsettled (log ++ [act]) := by
  intro found hfound
  rcases List.mem_append.mp hfound with hfound | hfound
  · exact h found hfound
  · rwa [List.mem_singleton.mp hfound]

theorem Settled.snoc {log : List Act} {act : Act} {ok : Bool} {detail : String}
    (h : Settled log ok detail) (hact : act.isAfter ok detail) :
    Settled (log ++ [act]) ok detail := by
  obtain ⟨front, back, rfl, hfront, hback⟩ := h
  refine ⟨front, back ++ [act], by simp, hfront, fun found hfound => ?_⟩
  rcases List.mem_append.mp hfound with hfound | hfound
  · exact hback found hfound
  · rwa [List.mem_singleton.mp hfound]

/-! ## What every step keeps -/

structure Sound (s : Latch) : Prop where
  locked : Excluding Thread.held s.threads
  fresh : s.settled = false → s.ok = false ∧ s.detail = "" ∧ Unsettled s.log
  told : s.settled = true → Settled s.log s.ok s.detail
  /-- Who asks whether to give up holds the mutex since he saw that nobody has settled. -/
  asking : ∀ cancellable, Thread.wait cancellable .asking ∈ s.threads → s.settled = false
  /-- Nobody sleeps through a settlement, unless who settled has yet to notify. -/
  missed : s.settled = true → (∃ ok detail, Thread.settle ok detail .notifying ∈ s.threads) ∨
    ∀ cancellable, Thread.wait cancellable (.asleep false) ∉ s.threads

theorem sound_initial : Sound {} where
  locked := excluding_nil
  fresh _ := ⟨rfl, rfl, nofun⟩
  told h := nomatch h
  asking _ _ := rfl
  missed h := nomatch h

end SettlementLatch

namespace SettlementLatch

variable {s s' : Latch}

theorem mem_set_of_ne {threads : List Thread} {index : Nat} {a b c : Thread}
    (hfound : threads[index]? = some a) (hc : c ∈ threads) (hne : c ≠ a) :
    c ∈ threads.set index b := by
  obtain ⟨j, hj⟩ := List.mem_iff_getElem?.mp hc
  have hij : index ≠ j := by
    rintro rfl
    exact hne (Option.some.inj (hj.symm.trans hfound))
  exact List.mem_iff_getElem?.mpr ⟨j, (List.getElem?_set_ne hij).trans hj⟩

/-- A thread moves on, and nothing else. -/
theorem Sound.move (h : Sound s) {index : Nat} {a b : Thread} (hfound : s.threads[index]? = some a)
    (hlocked : Excluding Thread.held (s.threads.set index b))
    (hasking : ∀ cancellable, b = .wait cancellable .asking → s.settled = false)
    (hasleep : ∀ cancellable, b = .wait cancellable (.asleep false) → s.settled = false)
    (hnotifying : ∀ ok detail, Thread.settle ok detail .notifying ≠ a) :
    Sound (s.move index b) where
  locked := hlocked
  fresh := h.fresh
  told := h.told
  asking cancellable hmem := by
    rcases List.mem_or_eq_of_mem_set hmem with hmem | rfl
    · exact h.asking cancellable hmem
    · exact hasking cancellable rfl
  missed hsettled := by
    rcases h.missed hsettled with ⟨ok, detail, hmem⟩ | hnone
    · exact .inl ⟨ok, detail, mem_set_of_ne hfound hmem (hnotifying ok detail)⟩
    · refine .inr fun cancellable hmem => ?_
      rcases List.mem_or_eq_of_mem_set hmem with hmem | rfl
      · exact hnone cancellable hmem
      · exact absurd (hsettled.symm.trans (hasleep cancellable rfl)) (by simp)

/-- A thread learns what is so. -/
theorem Sound.learns (h : Sound s) {act : Act} (hbefore : s.settled = false → act.isBefore)
    (hafter : s.settled = true → act.isAfter s.ok s.detail) :
    Sound { s with log := s.log ++ [act] } where
  locked := h.locked
  fresh hfresh := by
    obtain ⟨hok, hdetail, hlog⟩ := h.fresh hfresh
    exact ⟨hok, hdetail, hlog.snoc (hbefore hfresh)⟩
  told hsettled := (h.told hsettled).snoc (hafter hsettled)
  asking := h.asking
  missed := h.missed

/-- A call begins. -/
theorem Sound.called (h : Sound s) {thread : Thread} (hheld : thread.held = none)
    (hasleep : ∀ cancellable, Thread.wait cancellable (.asleep false) ≠ thread)
    (hasking : ∀ cancellable, Thread.wait cancellable .asking ≠ thread) :
    Sound { s with threads := s.threads ++ [thread] } where
  locked := h.locked.snoc hheld
  fresh := h.fresh
  told := h.told
  asking cancellable hmem := by
    rcases List.mem_append.mp hmem with hmem | hmem
    · exact h.asking cancellable hmem
    · exact absurd (List.mem_singleton.mp hmem) (hasking cancellable)
  missed hsettled := by
    rcases h.missed hsettled with ⟨ok, detail, hmem⟩ | hnone
    · exact .inl ⟨ok, detail, List.mem_append_left _ hmem⟩
    · refine .inr fun cancellable hmem => ?_
      rcases List.mem_append.mp hmem with hmem | hmem
      · exact hnone cancellable hmem
      · exact absurd (List.mem_singleton.mp hmem) (hasleep cancellable)

/-- Who holds the mutex is the only one who asks. -/
theorem Sound.not_asking (h : Sound s) {index : Nat} {a : Thread}
    (hfound : s.threads[index]? = some a) (hheld : a.held = some ((), .exclusive))
    (hne : ∀ cancellable, a ≠ .wait cancellable .asking) (cancellable : Bool) :
    Thread.wait cancellable .asking ∉ s.threads := by
  intro hmem
  obtain ⟨j, hj⟩ := List.mem_iff_getElem?.mp hmem
  obtain rfl := h.locked.alone hfound hj hheld rfl
  exact hne cancellable (Option.some.inj (hfound.symm.trans hj))

theorem Sound.settles (h : Sound s) {index : Nat} {ok : Bool} {detail : String}
    (hfound : s.threads[index]? = some (.settle ok detail .holding))
    (hfresh : s.settled = false) :
    Sound
      { s.move index (.settle ok detail .notifying) with
        settled := true, ok, detail, log := s.log ++ [.settles ok detail] } where
  locked := h.locked.set_kept hfound (.inr rfl)
  fresh hno := nomatch hno
  told _ := ⟨s.log, [], rfl, (h.fresh hfresh).2.2, nofun⟩
  asking cancellable hmem := by
    rcases List.mem_or_eq_of_mem_set hmem with hmem | heq
    · exact absurd hmem (h.not_asking hfound rfl (by simp) cancellable)
    · simp at heq
  missed _ := by
    obtain ⟨hlt, -⟩ := List.getElem?_eq_some_iff.mp hfound
    exact .inl ⟨ok, detail, List.mem_iff_getElem?.mpr ⟨index, List.getElem?_set_self hlt⟩⟩

@[simp] theorem held_notify (thread : Thread) : thread.notify.held = thread.held := by
  rcases thread with _ | ⟨cancellable, _ | _ | _ | _ | _⟩ <;> rfl

theorem notify_eq_asking {thread : Thread} {cancellable : Bool}
    (h : thread.notify = .wait cancellable .asking) : thread = .wait cancellable .asking := by
  rcases thread with _ | ⟨cancellable', _ | _ | _ | _ | _⟩ <;> simp_all [Thread.notify]

theorem notify_ne_asleep (thread : Thread) (cancellable : Bool) :
    thread.notify ≠ .wait cancellable (.asleep false) := by
  rcases thread with _ | ⟨cancellable', _ | _ | _ | _ | _⟩ <;> simp [Thread.notify]

theorem Sound.notifies (h : Sound s) {index : Nat} {ok : Bool} {detail : String}
    (hfound : s.threads[index]? = some (.settle ok detail .notifying)) :
    Sound
      { s.move index (.settle ok detail .returned) with
        threads := (s.threads.set index (.settle ok detail .returned)).map Thread.notify } where
  locked := (h.locked.set_kept hfound (.inr rfl)).map held_notify
  fresh := h.fresh
  told := h.told
  asking cancellable hmem := by
    obtain ⟨thread, hthread, hnotify⟩ := List.mem_map.mp hmem
    rw [notify_eq_asking hnotify] at hthread
    rcases List.mem_or_eq_of_mem_set hthread with hmem | heq
    · exact h.asking cancellable hmem
    · simp at heq
  missed _ := by
    refine .inr fun cancellable hmem => ?_
    obtain ⟨thread, -, hnotify⟩ := List.mem_map.mp hmem
    exact notify_ne_asleep thread cancellable hnotify

theorem Sound.runThread (h : Sound s) {index : Nat} {cancelled : Bool} {thread : Thread}
    (hfound : s.threads[index]? = some thread)
    (hstep : SettlementLatch.runThread index cancelled s thread = some s') : Sound s' := by
  rcases thread with ⟨ok, detail, _ | _ | _ | _⟩ | ⟨cancellable, _ | _ | _ | notified | answer⟩
  · -- a call of `settle` takes the mutex
    simp only [SettlementLatch.runThread, Option.ite_none_right_eq_some, Option.some.injEq] at hstep
    obtain ⟨hfree, rfl⟩ := hstep
    exact h.move hfound (h.locked.set_taken hfree rfl) (by simp) (by simp) (by simp)
  · -- it is the first, or it comes too late
    simp only [SettlementLatch.runThread] at hstep
    split at hstep
    next hsettled =>
      obtain rfl := Option.some.inj hstep
      have hmoved : Sound (s.move index (.settle ok detail .returned)) :=
        h.move hfound (h.locked.set_kept hfound (.inr rfl)) (by simp) (by simp) (by simp)
      exact hmoved.learns (fun hfresh => absurd (hsettled.symm.trans hfresh) (by simp))
        fun _ => trivial
    next hfresh =>
      obtain rfl := Option.some.inj hstep
      exact h.settles hfound (Bool.eq_false_iff.mpr hfresh)
  · obtain rfl := Option.some.inj hstep
    exact h.notifies hfound
  · cases hstep
  · -- a call of `wait` takes the mutex
    simp only [SettlementLatch.runThread, Option.ite_none_right_eq_some, Option.some.injEq] at hstep
    obtain ⟨hfree, rfl⟩ := hstep
    exact h.move hfound (h.locked.set_taken hfree rfl) (by simp) (by simp) (by simp)
  · -- it tests the flag
    simp only [SettlementLatch.runThread] at hstep
    split at hstep
    next hsettled =>
      obtain rfl := Option.some.inj hstep
      have hmoved : Sound (s.move index (.wait cancellable (.returned true))) :=
        h.move hfound (h.locked.set_kept hfound (.inr rfl)) (by simp) (by simp) (by simp)
      exact hmoved.learns (fun hfresh => absurd (hsettled.symm.trans hfresh) (by simp)) fun _ => rfl
    next hfresh =>
      have hunsettled := Bool.eq_false_iff.mpr hfresh
      split at hstep
      · obtain rfl := Option.some.inj hstep
        exact h.move hfound (h.locked.set_kept hfound (.inl rfl)) (fun _ _ => hunsettled)
          (by simp) (by simp)
      · obtain rfl := Option.some.inj hstep
        exact h.move hfound (h.locked.set_kept hfound (.inr rfl)) (by simp)
          (fun _ _ => hunsettled) (by simp)
  · -- its own question is answered, and nobody has settled meanwhile
    have hunsettled := h.asking cancellable (List.mem_of_getElem? hfound)
    simp only [SettlementLatch.runThread] at hstep
    split at hstep
    · obtain rfl := Option.some.inj hstep
      have hmoved : Sound (s.move index (.wait cancellable (.returned false))) :=
        h.move hfound (h.locked.set_kept hfound (.inr rfl)) (by simp) (by simp) (by simp)
      exact hmoved.learns (fun _ => rfl) fun hsettled =>
        absurd (hsettled.symm.trans hunsettled) (by simp)
    · obtain rfl := Option.some.inj hstep
      exact h.move hfound (h.locked.set_kept hfound (.inr rfl)) (by simp)
        (fun _ _ => hunsettled) (by simp)
  · simp only [SettlementLatch.runThread, Option.ite_none_right_eq_some, Option.some.injEq] at hstep
    obtain ⟨-, rfl⟩ := hstep
    exact h.move hfound (h.locked.set_kept hfound (.inl rfl)) (by simp) (by simp) (by simp)
  · cases hstep

theorem Sound.step (h : Sound s) {event : Event} (hstep : SettlementLatch.step event s = some s') :
    Sound s' := by
  cases event with
  | settle ok detail =>
    obtain rfl := Option.some.inj hstep
    exact h.called rfl (by simp) (by simp)
  | wait cancellable =>
    obtain rfl := Option.some.inj hstep
    exact h.called rfl (by simp) (by simp)
  | get getter =>
    simp only [SettlementLatch.step, Option.ite_none_right_eq_some, Option.some.injEq] at hstep
    obtain ⟨-, rfl⟩ := hstep
    refine h.learns (fun hfresh => ?_) fun hsettled => ?_
    · obtain ⟨hok, hdetail, -⟩ := h.fresh hfresh
      cases getter
      exacts [hfresh, hok, hdetail]
    · cases getter
      exacts [hsettled, rfl, rfl]
  | run index cancelled =>
    obtain ⟨thread, hfound, hrun⟩ := Option.bind_eq_some_iff.mp hstep
    exact h.runThread hfound hrun
  | wakes index =>
    simp only [SettlementLatch.step] at hstep
    split at hstep
    next hfound =>
      obtain rfl := Option.some.inj hstep
      exact h.move hfound (h.locked.set_kept hfound (.inl rfl)) (by simp) (by simp) (by simp)
    next => cases hstep

end SettlementLatch

namespace SettlementLatch

variable {s s' : Latch}

/-! ## A settled latch -/

def Thread.returned : Thread → Bool
  | .settle _ _ .returned | .wait _ (.returned _) => true
  | _ => false

/-- What a thread has to do yet, where the latch is settled. -/
def Thread.rank : Thread → Nat
  | .settle _ _ .locking => 3
  | .settle _ _ .holding => 2
  | .settle _ _ .notifying => 1
  | .settle _ _ .returned => 0
  | .wait _ .asking => 4
  | .wait _ (.asleep _) => 3
  | .wait _ .locking => 2
  | .wait _ .testing => 1
  | .wait _ (.returned _) => 0

@[simp] theorem rank_notify (thread : Thread) : thread.notify.rank = thread.rank := by
  rcases thread with _ | ⟨cancellable, _ | _ | _ | _ | _⟩ <;> rfl

theorem rank_set {threads : List Thread} {index other : Nat} {a b thread : Thread}
    (hfound : threads[index]? = some a) (hrank : b.rank + 1 ≤ a.rank)
    (hthread : threads[other]? = some thread) :
    ∃ thread', (threads.set index b)[other]? = some thread' ∧
      thread'.rank + (if index = other then 1 else 0) ≤ thread.rank := by
  by_cases hsame : index = other
  · subst hsame
    obtain ⟨hlt, -⟩ := List.getElem?_eq_some_iff.mp hfound
    obtain rfl : a = thread := Option.some.inj (hfound.symm.trans hthread)
    exact ⟨b, List.getElem?_set_self hlt, by simpa using hrank⟩
  · exact ⟨thread, (List.getElem?_set_ne hsame).trans hthread, by simp [hsame]⟩

/-- Where the latch is settled, each step of a thread brings it nearer to its end, and nothing
else takes it back. -/
theorem Sound.rank_step (h : Sound s) (hsettled : s.settled = true) {event : Event}
    (hstep : SettlementLatch.step event s = some s') :
    s'.settled = true ∧ ∀ index thread, s.threads[index]? = some thread →
      ∃ thread', s'.threads[index]? = some thread' ∧
        thread'.rank + (if event.ofThread index then 1 else 0) ≤ thread.rank := by
  have harrived (arrived : Thread) (index : Nat) (thread : Thread)
      (hthread : s.threads[index]? = some thread) :
      ∃ thread', (s.threads ++ [arrived])[index]? = some thread' ∧
        thread'.rank + 0 ≤ thread.rank := by
    obtain ⟨hlt, -⟩ := List.getElem?_eq_some_iff.mp hthread
    exact ⟨thread, (List.getElem?_append_left hlt).trans hthread, Nat.le_refl _⟩
  cases event with
  | settle ok detail =>
    obtain rfl := Option.some.inj hstep
    exact ⟨hsettled, harrived _⟩
  | wait cancellable =>
    obtain rfl := Option.some.inj hstep
    exact ⟨hsettled, harrived _⟩
  | get getter =>
    simp only [SettlementLatch.step, Option.ite_none_right_eq_some, Option.some.injEq] at hstep
    obtain ⟨-, rfl⟩ := hstep
    exact ⟨hsettled, fun index thread hthread => ⟨thread, hthread, Nat.le_refl _⟩⟩
  | wakes index =>
    simp only [SettlementLatch.step] at hstep
    split at hstep
    next hfound =>
      obtain rfl := Option.some.inj hstep
      refine ⟨hsettled, fun other thread hthread => ?_⟩
      simpa [Event.ofThread, Latch.move] using
        rank_set (b := .wait _ .locking) hfound (Nat.le_refl 3) hthread
    next => cases hstep
  | run index cancelled =>
    obtain ⟨a, hfound, hrun⟩ := Option.bind_eq_some_iff.mp hstep
    have hmoved (b : Thread) (hrank : b.rank + 1 ≤ a.rank) (other : Nat) (thread : Thread)
        (hthread : s.threads[other]? = some thread) :
        ∃ thread', (s.threads.set index b)[other]? = some thread' ∧ thread'.rank +
          (if (Event.run index cancelled).ofThread other then 1 else 0) ≤ thread.rank := by
      simpa [Event.ofThread] using rank_set hfound hrank hthread
    rcases a with ⟨ok, detail, _ | _ | _ | _⟩ | ⟨cancellable, _ | _ | _ | notified | answer⟩
    · simp only [SettlementLatch.runThread, Option.ite_none_right_eq_some,
        Option.some.injEq] at hrun
      obtain ⟨-, rfl⟩ := hrun
      exact ⟨hsettled, hmoved _ (Nat.le_refl 3)⟩
    · simp only [SettlementLatch.runThread, hsettled, if_true, Option.some.injEq] at hrun
      subst hrun
      exact ⟨hsettled, hmoved _ (by decide : 0 + 1 ≤ 2)⟩
    · -- who sleeps is told, and sleeps on until it runs
      obtain rfl := Option.some.inj hrun
      refine ⟨hsettled, fun other thread hthread => ?_⟩
      obtain ⟨thread', hthread', hrank⟩ :=
        hmoved (.settle ok detail .returned) (Nat.le_refl 1) other thread hthread
      refine ⟨thread'.notify, ?_, by rwa [rank_notify]⟩
      show ((s.threads.set index _).map Thread.notify)[other]? = _
      rw [List.getElem?_map, hthread']
      rfl
    · cases hrun
    · simp only [SettlementLatch.runThread, Option.ite_none_right_eq_some,
        Option.some.injEq] at hrun
      obtain ⟨-, rfl⟩ := hrun
      exact ⟨hsettled, hmoved _ (Nat.le_refl 2)⟩
    · simp only [SettlementLatch.runThread, hsettled, if_true, Option.some.injEq] at hrun
      subst hrun
      exact ⟨hsettled, hmoved _ (Nat.le_refl 1)⟩
    · have hunsettled := h.asking cancellable (List.mem_of_getElem? hfound)
      exact absurd (hsettled.symm.trans hunsettled) (by simp)
    · simp only [SettlementLatch.runThread, Option.ite_none_right_eq_some,
        Option.some.injEq] at hrun
      obtain ⟨-, rfl⟩ := hrun
      exact ⟨hsettled, hmoved _ (Nat.le_refl 3)⟩
    · cases hrun

theorem Sound.rank_run (h : Sound s) (hsettled : s.settled = true) {events : List Event}
    (hrun : run SettlementLatch.step events s = some s') {index : Nat} {thread : Thread}
    (hthread : s.threads[index]? = some thread) :
    ∃ thread', s'.threads[index]? = some thread' ∧
      thread'.rank + events.countP (Event.ofThread index) ≤ thread.rank := by
  induction events generalizing s thread with
  | nil =>
    obtain rfl := Option.some.inj hrun
    exact ⟨thread, hthread, by simp⟩
  | cons event events ih =>
    obtain ⟨next, hstep, hrest⟩ := run_cons hrun
    obtain ⟨hstill, hranks⟩ := h.rank_step hsettled hstep
    obtain ⟨middle, hmiddle, hfirst⟩ := hranks index thread hthread
    obtain ⟨thread', hthread', hlater⟩ := ih (h.step hstep) hstill hrest hmiddle
    refine ⟨thread', hthread', ?_⟩
    rw [List.countP_cons]
    omega

/-- Who holds the mutex can go on. -/
theorem runs_of_held {index : Nat} {thread : Thread} (hheld : thread.held ≠ none)
    (cancelled : Bool) : (runThread index cancelled s thread).isSome := by
  rcases thread with ⟨ok, detail, _ | _ | _ | _⟩ | ⟨cancellable, _ | _ | _ | _ | _⟩ <;>
    first
      | exact absurd rfl hheld
      | simp only [runThread]
        split_ifs <;> rfl

/-- Until all have returned, somebody can go on, and needs no time to be up. -/
theorem Sound.progress (h : Sound s) (hsettled : s.settled = true) {thread : Thread}
    (hthread : thread ∈ s.threads) (hreturned : thread.returned = false) (cancelled : Bool) :
    ∃ index, (SettlementLatch.step (.run index cancelled) s).isSome := by
  have hgoes {runner : Thread} (hrunner : runner ∈ s.threads)
      (hruns : ∀ index, (SettlementLatch.runThread index cancelled s runner).isSome) :
      ∃ index, (SettlementLatch.step (.run index cancelled) s).isSome := by
    obtain ⟨index, hindex⟩ := List.mem_iff_getElem?.mp hrunner
    refine ⟨index, ?_⟩
    simp only [SettlementLatch.step, hindex, Option.bind_some]
    exact hruns index
  by_cases hfree : s.free = true
  · rcases thread with ⟨ok, detail, _ | _ | _ | _⟩ | ⟨cancellable, _ | _ | _ | notified | answer⟩
    · exact hgoes hthread fun index => by simp [SettlementLatch.runThread, hfree]
    · exact hgoes hthread fun index => runs_of_held (by simp [Thread.held]) cancelled
    · exact hgoes hthread fun index => rfl
    · cases hreturned
    · exact hgoes hthread fun index => by simp [SettlementLatch.runThread, hfree]
    · exact hgoes hthread fun index => runs_of_held (by simp [Thread.held]) cancelled
    · exact hgoes hthread fun index => runs_of_held (by simp [Thread.held]) cancelled
    · cases notified with
      | true => exact hgoes hthread fun index => rfl
      | false =>
        -- it was not told, so who settled has yet to tell
        rcases h.missed hsettled with ⟨ok, detail, hnotifying⟩ | hnone
        · exact hgoes hnotifying fun index => rfl
        · exact absurd hthread (hnone cancellable)
    · cases hreturned
  · -- somebody holds the mutex
    obtain ⟨holder, hholder, hadmits⟩ : ∃ holder ∈ s.threads,
        ¬admits () .exclusive holder.held = true := by
      simpa [Latch.free, canLock] using hfree
    refine hgoes hholder fun index => runs_of_held (fun hnone => hadmits ?_) cancelled
    rw [hnone]
    rfl

theorem Sound.rank_le (h : Sound s) (hsettled : s.settled = true) {thread : Thread}
    (hthread : thread ∈ s.threads) : thread.rank ≤ 3 := by
  rcases thread with ⟨ok, detail, _ | _ | _ | _⟩ | ⟨cancellable, _ | _ | _ | _ | _⟩ <;>
    try simp [Thread.rank]
  exact absurd (hsettled.symm.trans (h.asking cancellable hthread)) (by simp)

end SettlementLatch

end PlotJugglerSdk
