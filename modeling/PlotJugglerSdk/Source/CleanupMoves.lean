import PlotJugglerSdk.Source.RequestCache

/-!
# What a cleanup does at a step

The operations of `sweepStep` and `evictStep`, each told once: what it has found, which
phase comes next and what becomes of the directory. What holds of a cleanup is shown of
these.

* `SweepMove`, `EvictMove`             — the operations
* `sweepStep_moves`, `evictStep_moves` — a step is one of them
-/

namespace PlotJugglerSdk

namespace RequestCache

open Locks

variable {Digest : Type} [DecidableEq Digest] {cleanup : Cleanup Digest} {os : Answer}
  {s : State Digest} {phase : Phase Digest} {root : Root Digest}

theorem tryLock_free {digest : Digest} {mode : Mode} (h : tryLock digest mode os s = true) :
    canLock heldBy digest mode s.parties = true :=
  (Bool.and_eq_true_iff.mp h).2

/-! ## Old partials -/

section Sweep

/-- What an operation on an old partial does. -/
inductive SweepMove (cleanup : Cleanup Digest) (s : State Digest) (stale : StalePartial Digest)
    (rest : List (StalePartial Digest)) : SweepPoint → Phase Digest → Root Digest → Prop
  | locks (free : canLock heldBy stale.digest .exclusive s.parties = true) :
      SweepMove cleanup s stale rest .locking (.sweeping cleanup (stale :: rest) .finding) s.root
  /-- Somebody holds the lock. -/
  | passes (ok : Bool) :
      SweepMove cleanup s stale rest .locking
        (.sweeping (cleanup.noteUnless ok) rest .locking) s.root
  | goesOn {point next : SweepPoint} (held : point ≠ .locking) (holds : next ≠ .locking) :
      SweepMove cleanup s stale rest point (.sweeping cleanup (stale :: rest) next) s.root
  | leaves {point : SweepPoint} (held : point ≠ .locking) (ok : Bool) :
      SweepMove cleanup s stale rest point
        (.sweeping (cleanup.noteUnless ok) (stale :: rest) .unlocking) s.root
  /-- What was removed is counted where its size is known. -/
  | removes {size : Option UInt64} {next : Cleanup Digest}
      (counted : next = cleanup ∨ ∃ size, next = cleanup.reclaim size) :
      SweepMove cleanup s stale rest (.removing size)
        (.sweeping next (stale :: rest) .unlocking)
        (s.root.setPartial stale.digest stale.pid none)
  | unlocks : SweepMove cleanup s stale rest .unlocking (.sweeping cleanup rest .locking) s.root

variable {stale : StalePartial Digest} {rest : List (StalePartial Digest)} {point : SweepPoint}

omit [DecidableEq Digest] in
theorem heldBy_sweeping (h : point ≠ .locking) {pid : Nat} :
    heldBy { pid, phase := .sweeping cleanup (stale :: rest) point } =
      some (stale.digest, .exclusive) := by
  cases point with
  | locking => exact absurd rfl h
  | finding | aging | sizing | removing | unlocking => rfl

theorem sweepStep_moves (hstep : sweepStep cleanup os s stale rest point = (phase, root)) :
    SweepMove cleanup s stale rest point phase root := by
  cases point with
  | locking =>
    simp only [sweepStep] at hstep
    split at hstep
    next hlock =>
      obtain ⟨rfl, rfl⟩ := Prod.mk.inj hstep
      exact .locks (tryLock_free hlock)
    next =>
      obtain ⟨rfl, rfl⟩ := Prod.mk.inj hstep
      exact .passes _
  | finding =>
    simp only [sweepStep] at hstep
    split at hstep
    · obtain ⟨rfl, rfl⟩ := Prod.mk.inj hstep
      exact .goesOn (by decide) (by decide)
    · obtain ⟨rfl, rfl⟩ := Prod.mk.inj hstep
      exact .leaves (by decide) _
  | aging =>
    simp only [sweepStep] at hstep
    split at hstep
    · split at hstep
      · obtain ⟨rfl, rfl⟩ := Prod.mk.inj hstep
        exact .goesOn (by decide) (by decide)
      · obtain ⟨rfl, rfl⟩ := Prod.mk.inj hstep
        exact .goesOn (by decide) (by decide)
    · obtain ⟨rfl, rfl⟩ := Prod.mk.inj hstep
      exact .leaves (by decide) _
  | sizing =>
    obtain ⟨rfl, rfl⟩ := Prod.mk.inj hstep
    exact .goesOn (by decide) SweepPoint.noConfusion
  | removing size =>
    simp only [sweepStep] at hstep
    split at hstep
    · obtain ⟨rfl, rfl⟩ := Prod.mk.inj hstep
      exact .removes (.inr ⟨_, rfl⟩)
    · obtain ⟨rfl, rfl⟩ := Prod.mk.inj hstep
      exact .removes (.inl rfl)
    · obtain ⟨rfl, rfl⟩ := Prod.mk.inj hstep
      exact .leaves SweepPoint.noConfusion false
  | unlocking =>
    obtain ⟨rfl, rfl⟩ := Prod.mk.inj hstep
    exact .unlocks

end Sweep

/-! ## Victims -/

section Evict

/-- What an operation on a victim does. -/
inductive EvictMove (cleanup : Cleanup Digest) (os : Answer) (s : State Digest)
    (victim : EvictionCandidate Digest) (rest : List (EvictionCandidate Digest)) :
    EvictPoint → Phase Digest → Root Digest → Prop
  | ends : EvictMove cleanup os s victim rest .locking (.cleaned cleanup.finish) s.root
  | locks (above : cleanup.bytesOverTarget ≠ 0)
      (free : canLock heldBy victim.digest .exclusive s.parties = true) :
      EvictMove cleanup os s victim rest .locking (.evicting cleanup (victim :: rest) .finding)
        s.root
  /-- Somebody holds the lock. -/
  | passes (ok : Bool) :
      EvictMove cleanup os s victim rest .locking
        (.evicting (cleanup.noteUnless ok) rest .locking) s.root
  | finds :
      EvictMove cleanup os s victim rest .finding (.evicting cleanup (victim :: rest) .sizing) s.root
  | sizes (file : CacheFile) (found : s.root.artifact victim.digest = some file)
      (same : file.size = victim.size) :
      EvictMove cleanup os s victim rest .sizing (.evicting cleanup (victim :: rest) .stamping)
        s.root
  | stamps (same : s.root.readLruStamp victim.digest = some victim.stamp) :
      EvictMove cleanup os s victim rest .stamping (.evicting cleanup (victim :: rest) .removing)
        s.root
  /-- Something is not as it was scanned, or could not be done. -/
  | leaves {point : EvictPoint} (held : point ≠ .locking) (ok : Bool)
      (kept : point = .removing → ∀ file, os.succeeds = true →
        s.root.artifact victim.digest = some file → False) :
      EvictMove cleanup os s victim rest point
        (.evicting (cleanup.noteUnless ok) (victim :: rest) .unlocking) s.root
  | removes (succeeds : os.succeeds = true) (file : CacheFile)
      (found : s.root.artifact victim.digest = some file) :
      EvictMove cleanup os s victim rest .removing
        (.evicting (cleanup.evicted victim.size) (victim :: rest) .untouching)
        (s.root.setArtifact victim.digest none)
  | untouches :
      EvictMove cleanup os s victim rest .untouching
        (.evicting cleanup (victim :: rest) .unlocking) (s.root.removeTouch victim.digest)
  | unlocks :
      EvictMove cleanup os s victim rest .unlocking (.evicting cleanup rest .locking) s.root

variable {victim : EvictionCandidate Digest} {rest : List (EvictionCandidate Digest)}
  {point : EvictPoint}

omit [DecidableEq Digest] in
theorem heldBy_evicting (h : point ≠ .locking) {pid : Nat} :
    heldBy { pid, phase := .evicting cleanup (victim :: rest) point } =
      some (victim.digest, .exclusive) := by
  cases point with
  | locking => exact absurd rfl h
  | finding | sizing | stamping | removing | untouching | unlocking => rfl

theorem evictStep_moves (hstep : evictStep cleanup os s victim rest point = (phase, root)) :
    EvictMove cleanup os s victim rest point phase root := by
  cases point with
  | locking =>
    simp only [evictStep] at hstep
    split at hstep
    next =>
      obtain ⟨rfl, rfl⟩ := Prod.mk.inj hstep
      exact .ends
    next hover =>
      split at hstep
      next hlock =>
        obtain ⟨rfl, rfl⟩ := Prod.mk.inj hstep
        exact .locks hover (tryLock_free hlock)
      next =>
        obtain ⟨rfl, rfl⟩ := Prod.mk.inj hstep
        exact .passes _
  | finding =>
    simp only [evictStep] at hstep
    split at hstep
    · obtain ⟨rfl, rfl⟩ := Prod.mk.inj hstep
      exact .finds
    · obtain ⟨rfl, rfl⟩ := Prod.mk.inj hstep
      exact .leaves (by decide) _ nofun
  | sizing =>
    simp only [evictStep] at hstep
    split at hstep
    next file _ hfile =>
      split at hstep
      next =>
        obtain ⟨rfl, rfl⟩ := Prod.mk.inj hstep
        exact .leaves (by decide) true nofun
      next hsame =>
        obtain ⟨rfl, rfl⟩ := Prod.mk.inj hstep
        exact .sizes file hfile (not_not.mp hsame)
    next =>
      obtain ⟨rfl, rfl⟩ := Prod.mk.inj hstep
      exact .leaves (by decide) _ nofun
  | stamping =>
    simp only [evictStep] at hstep
    split at hstep
    next stamp _ hstamp =>
      split at hstep
      next =>
        obtain ⟨rfl, rfl⟩ := Prod.mk.inj hstep
        exact .leaves (by decide) true nofun
      next hsame =>
        obtain ⟨rfl, rfl⟩ := Prod.mk.inj hstep
        rw [not_not.mp hsame] at hstamp
        exact .stamps hstamp
    next =>
      obtain ⟨rfl, rfl⟩ := Prod.mk.inj hstep
      exact .leaves (by decide) _ nofun
  | removing =>
    simp only [evictStep] at hstep
    split at hstep
    next file hsucceeds hfile =>
      obtain ⟨rfl, rfl⟩ := Prod.mk.inj hstep
      exact .removes hsucceeds file hfile
    next hmissed =>
      obtain ⟨rfl, rfl⟩ := Prod.mk.inj hstep
      exact .leaves (by decide) _ fun _ => hmissed
  | untouching =>
    simp only [evictStep] at hstep
    split at hstep
    · obtain ⟨rfl, rfl⟩ := Prod.mk.inj hstep
      exact .untouches
    · obtain ⟨rfl, rfl⟩ := Prod.mk.inj hstep
      exact .leaves (by decide) false nofun
  | unlocking =>
    obtain ⟨rfl, rfl⟩ := Prod.mk.inj hstep
    exact .unlocks

end Evict

end RequestCache

end PlotJugglerSdk
