import PlotJugglerSdk.Source.CleanupMoves

/-!
# The request cache is safe

Whoever changes an artifact or a partial holds the digest's lock exclusively, so what
a party has seen under its lock stays as it is. The one place where a party keeps what
it saw without a lock is `downgradeToShared`: it unlocks and locks again, and `commit`
returns the hit without looking whether the artifact survived.

* `Change`            — all that a step of a party can do
* `Guarded`, `Placed` — who holds the locks, and what the phases promise about the files
* `cache_safe`        — what the cache promises, where no commit loses its artifact
* `commit_loses_artifact` — a commit that does
-/

namespace PlotJugglerSdk

namespace RequestCache

open Locks Runs

variable {Digest : Type} [DecidableEq Digest] {validator : ArtifactValidator Digest}

/-! ## What the phases promise -/

/-- The artifact that a party relies on is there. -/
def Present (root : Root Digest) (phase : Phase Digest) : Prop :=
  match phase with
  | .lookup digest .touching | .hit digest => (root.artifact digest).isSome = true
  | .committing digest .touching | .committing digest .downgrading =>
    (root.artifact digest).isSome = true
  | _ => True

/-- The partial that a commit is about to rename was validated; one that it gave up is
removed. -/
def Staged (validator : ArtifactValidator Digest) (root : Root Digest) (party : Party Digest) :
    Prop :=
  match party.phase with
  | .committing digest .syncing | .committing digest .publishing =>
    validates validator digest (root.partials digest party.pid) = true
  | .committing digest .failed => root.partials digest party.pid = none
  | _ => True

/-- A commit that re-locks its artifact finds it: what `commit` looks at after it could
not re-lock, and not after it could. -/
def relocksPresent (s : State Digest) (os : Answer) (phase : Phase Digest) : Bool :=
  match phase with
  | .committing digest .relocking =>
    !tryLock digest .shared os s || (s.root.artifact digest).isSome
  | _ => true

/-- A lock is kept, dropped, or taken by a try. -/
def LockMoves (s : State Digest) (party next : Party Digest) : Prop :=
  heldBy next = heldBy party ∨ heldBy next = none ∨
    ∃ digest mode, heldBy next = some (digest, mode) ∧
      canLock heldBy digest mode s.parties = true

/-- All that a step of a party can do. -/
inductive Change (validator : ArtifactValidator Digest) (s : State Digest) (party : Party Digest)
    (relocks : Prop) : Phase Digest → Root Digest → Prop where
  /-- No artifact and no partial changes. -/
  | keeps (phase : Phase Digest) (root : Root Digest)
      (artifacts : root.artifact = s.root.artifact ∧ root.changes = s.root.changes)
      (partials : root.partials = s.root.partials)
      (lock : LockMoves s party { party with phase })
      (present : relocks → Present s.root party.phase → Present s.root phase)
      (staged : Staged validator s.root party → Staged validator s.root { party with phase }) :
      Change validator s party relocks phase root
  | publishes (digest : Digest) (file : CacheFile)
      (point : party.phase = .committing digest .publishing)
      (found : s.root.partials digest party.pid = some file) :
      Change validator s party relocks (.committing digest .touching)
        ((s.root.setPartial digest party.pid none).setArtifact digest (some file))
  /-- Cleanup removes an artifact. -/
  | evicts (digest : Digest) (phase : Phase Digest)
      (locked : heldBy party = some (digest, .exclusive))
      (kept : heldBy { party with phase } = some (digest, .exclusive))
      (quiet : ∀ root, Present root phase ∧ Staged validator root { party with phase }) :
      Change validator s party relocks phase (s.root.setArtifact digest none)
  /-- A partial is written, or removed by its writer or by cleanup. -/
  | stages (digest : Digest) (pid : Nat) (file : Option CacheFile) (phase : Phase Digest)
      (root : Root Digest)
      (artifacts : root.artifact = s.root.artifact ∧ root.changes = s.root.changes)
      (partials : root.partials = (s.root.setPartial digest pid file).partials)
      (locked : heldBy party = some (digest, .exclusive))
      (kept : heldBy { party with phase } = some (digest, .exclusive))
      (present : Present s.root phase)
      (staged : Staged validator root { party with phase }) :
      Change validator s party relocks phase root

section Change

variable {s : State Digest} {party : Party Digest} {os : Answer} {relocks : Prop}
  {phase : Phase Digest} {root : Root Digest}

/-- A step that changes no file and promises nothing new. -/
theorem Change.idle (hlock : LockMoves s party { party with phase })
    (hpresent : ∀ root, Present root phase)
    (hstaged : ∀ root, Staged validator root { party with phase }) :
    Change validator s party relocks phase s.root :=
  .keeps phase s.root ⟨rfl, rfl⟩ rfl hlock (fun _ _ => hpresent s.root) fun _ => hstaged s.root

theorem touchedBy_files (digest : Digest) (os : Answer) (root : Root Digest) :
    ((touchedBy digest os root).artifact = root.artifact ∧
      (touchedBy digest os root).changes = root.changes) ∧
      (touchedBy digest os root).partials = root.partials := by
  unfold touchedBy
  split <;> exact ⟨⟨rfl, rfl⟩, rfl⟩

omit [DecidableEq Digest] in
theorem isSome_of_validates {digest : Digest} {file : Option CacheFile}
    (h : validates validator digest file = true) : file.isSome = true := by
  cases file with
  | some file => rfl
  | none => exact absurd h (by simp [validates])

theorem lookup_change {digest : Digest} {point : LookupPoint} {pid : Nat}
    (hstep : lookupStep validator digest os s point = (phase, root)) :
    Change validator s { pid, phase := .lookup digest point } relocks phase root := by
  cases point with
  | finding =>
    simp only [lookupStep] at hstep
    split at hstep
    all_goals
      obtain ⟨rfl, rfl⟩ := Prod.mk.inj hstep
      exact .idle (.inl rfl) (fun _ => trivial) fun _ => trivial
  | locking =>
    simp only [lookupStep] at hstep
    split at hstep
    next hlock =>
      obtain ⟨rfl, rfl⟩ := Prod.mk.inj hstep
      exact .idle (.inr (.inr ⟨digest, .shared, rfl, tryLock_free hlock⟩)) (fun _ => trivial)
        fun _ => trivial
    next =>
      obtain ⟨rfl, rfl⟩ := Prod.mk.inj hstep
      exact .idle (.inl rfl) (fun _ => trivial) fun _ => trivial
  | validating =>
    simp only [lookupStep] at hstep
    split at hstep
    next hvalid =>
      obtain ⟨rfl, rfl⟩ := Prod.mk.inj hstep
      -- what validates is there: from here on the lookup promises a hit
      exact .keeps _ _ ⟨rfl, rfl⟩ rfl (.inl rfl) (fun _ _ => isSome_of_validates hvalid) fun _ =>
        trivial
    next =>
      obtain ⟨rfl, rfl⟩ := Prod.mk.inj hstep
      exact .idle (.inl rfl) (fun _ => trivial) fun _ => trivial
  -- the stamp is no file of the root: artifact and partials stay
  | touching =>
    obtain ⟨rfl, rfl⟩ := Prod.mk.inj hstep
    obtain ⟨hartifacts, hpartials⟩ := touchedBy_files digest os s.root
    exact .keeps _ _ hartifacts hpartials (.inl rfl) (fun _ hpresent => hpresent) fun _ => trivial

theorem commit_change {digest : Digest} {point : CommitPoint} {pid : Nat}
    (hrelocks : relocks → relocksPresent s os (.committing digest point) = true)
    (hstep : commitStep validator digest pid os s point = (phase, root)) :
    Change validator s { pid, phase := .committing digest point } relocks phase root := by
  cases point with
  | validating =>
    simp only [commitStep] at hstep
    split at hstep
    next hvalid =>
      obtain ⟨rfl, rfl⟩ := Prod.mk.inj hstep
      -- what was validated is what stays staged until the rename
      exact .keeps _ _ ⟨rfl, rfl⟩ rfl (.inl rfl) (fun _ _ => trivial) fun _ => hvalid
    next =>
      obtain ⟨rfl, rfl⟩ := Prod.mk.inj hstep
      exact .idle (.inl rfl) (fun _ => trivial) fun _ => trivial
  | syncing =>
    obtain ⟨rfl, rfl⟩ := Prod.mk.inj hstep
    split
    next => exact .keeps _ _ ⟨rfl, rfl⟩ rfl (.inl rfl) (fun _ _ => trivial) fun hstaged => hstaged
    next => exact .idle (.inl rfl) (fun _ => trivial) fun _ => trivial
  | publishing =>
    simp only [commitStep] at hstep
    split at hstep
    next hsucceeds hpublish =>
      obtain ⟨rfl, rfl⟩ := Prod.mk.inj hstep
      unfold Root.publish at hpublish
      split at hpublish
      next => exact absurd hpublish (by simp)
      next file hfound =>
        obtain rfl := Option.some.inj hpublish
        exact .publishes digest file rfl hfound
    next =>
      obtain ⟨rfl, rfl⟩ := Prod.mk.inj hstep
      exact .idle (.inl rfl) (fun _ => trivial) fun _ => trivial
  | touching =>
    obtain ⟨rfl, rfl⟩ := Prod.mk.inj hstep
    obtain ⟨hartifacts, hpartials⟩ := touchedBy_files digest os s.root
    exact .keeps _ _ hartifacts hpartials (.inl rfl) (fun _ hpresent => hpresent) fun _ => trivial
  | downgrading =>
    obtain ⟨rfl, rfl⟩ := Prod.mk.inj hstep
    exact .idle (.inr (.inl rfl)) (fun _ => trivial) fun _ => trivial
  | relocking =>
    simp only [commitStep] at hstep
    split at hstep
    next hlock =>
      -- nothing was looked at: what is promised is what the run is asked for
      obtain ⟨rfl, rfl⟩ := Prod.mk.inj hstep
      refine .keeps _ _ ⟨rfl, rfl⟩ rfl (.inr (.inr ⟨digest, .shared, rfl, tryLock_free hlock⟩))
        (fun h _ => ?_) fun _ => trivial
      show (s.root.artifact digest).isSome = true
      simpa only [relocksPresent, hlock, Bool.not_true, Bool.false_or] using hrelocks h
    next =>
      obtain ⟨rfl, rfl⟩ := Prod.mk.inj hstep
      exact .idle (.inl rfl) (fun _ => trivial) fun _ => trivial
  | reacquiring =>
    simp only [commitStep] at hstep
    split at hstep
    next hlock =>
      obtain ⟨rfl, rfl⟩ := Prod.mk.inj hstep
      exact .idle (.inr (.inr ⟨digest, .shared, rfl, tryLock_free hlock⟩)) (fun _ => trivial)
        fun _ => trivial
    next =>
      obtain ⟨rfl, rfl⟩ := Prod.mk.inj hstep
      exact .idle (.inl rfl) (fun _ => trivial) fun _ => trivial
  | rechecking =>
    simp only [commitStep] at hstep
    split at hstep
    next hfound =>
      obtain ⟨rfl, rfl⟩ := Prod.mk.inj hstep
      exact .keeps _ _ ⟨rfl, rfl⟩ rfl (.inl rfl) (fun _ _ => (Bool.and_eq_true_iff.mp hfound).2)
        fun _ => trivial
    next =>
      obtain ⟨rfl, rfl⟩ := Prod.mk.inj hstep
      exact .idle (.inl rfl) (fun _ => trivial) fun _ => trivial
  | failing =>
    obtain ⟨rfl, rfl⟩ := Prod.mk.inj hstep
    refine .stages digest pid none _ _ ⟨rfl, rfl⟩ rfl rfl rfl trivial ?_
    show Function.update s.root.partials digest (Function.update _ pid none) digest pid = none
    rw [Function.update_self, Function.update_self]
  | failed =>
    obtain ⟨rfl, rfl⟩ := Prod.mk.inj hstep
    exact .idle (.inr (.inl rfl)) (fun _ => trivial) fun _ => trivial

theorem sweep_change {cleanup : Cleanup Digest} {stale : StalePartial Digest}
    {rest : List (StalePartial Digest)} {point : SweepPoint} {pid : Nat}
    (hstep : sweepStep cleanup os s stale rest point = (phase, root)) :
    Change validator s { pid, phase := .sweeping cleanup (stale :: rest) point } relocks phase
      root := by
  cases sweepStep_moves hstep with
  | locks free =>
    -- a lock is taken only where nobody stands in its way
    exact .idle (.inr (.inr ⟨stale.digest, .exclusive, rfl, free⟩)) (fun _ => trivial)
      fun _ => trivial
  | passes =>
    exact .idle (.inl rfl) (fun _ => trivial) fun _ => trivial
  | goesOn held holds =>
    exact .idle (.inl ((heldBy_sweeping holds).trans (heldBy_sweeping held).symm))
      (fun _ => trivial) fun _ => trivial
  | leaves held ok =>
    exact .idle (.inl (heldBy_sweeping held).symm) (fun _ => trivial) fun _ => trivial
  | removes counted =>
    exact .stages stale.digest stale.pid none _ _ ⟨rfl, rfl⟩ rfl rfl rfl trivial trivial
  | unlocks =>
    exact .idle (.inr (.inl rfl)) (fun _ => trivial) fun _ => trivial

theorem evict_change {cleanup : Cleanup Digest} {victim : EvictionCandidate Digest}
    {rest : List (EvictionCandidate Digest)} {point : EvictPoint} {pid : Nat}
    (hstep : evictStep cleanup os s victim rest point = (phase, root)) :
    Change validator s { pid, phase := .evicting cleanup (victim :: rest) point } relocks phase
      root := by
  cases evictStep_moves hstep with
  | locks above free =>
    exact .idle (.inr (.inr ⟨victim.digest, .exclusive, rfl, free⟩)) (fun _ => trivial)
      fun _ => trivial
  | ends | passes | finds | sizes | stamps =>
    exact .idle (.inl rfl) (fun _ => trivial) fun _ => trivial
  | leaves held ok kept =>
    exact .idle (.inl (heldBy_evicting held).symm) (fun _ => trivial) fun _ => trivial
  | removes succeeds file found =>
    -- the lock of the victim is kept over its removal
    exact .evicts victim.digest _ rfl rfl fun _ => ⟨trivial, trivial⟩
  | untouches =>
    exact .keeps _ _ ⟨rfl, rfl⟩ rfl (.inl rfl) (fun _ _ => trivial) fun _ => trivial
  | unlocks =>
    exact .idle (.inr (.inl rfl)) (fun _ => trivial) fun _ => trivial

theorem advance_change (hrelocks : relocks → relocksPresent s os party.phase = true)
    (hstep : advance validator os s party = some (phase, root)) :
    Change validator s party relocks phase root := by
  obtain ⟨pid, before⟩ := party
  unfold advance at hstep
  dsimp only at hstep
  split at hstep
  next => exact lookup_change (Option.some.inj hstep)
  next digest =>
    -- `acquireReadLease`
    obtain ⟨rfl, rfl⟩ := Prod.mk.inj (Option.some.inj hstep)
    split
    next hlock =>
      exact .idle (.inr (.inr ⟨digest, .shared, rfl, tryLock_free hlock⟩)) (fun _ => trivial)
        fun _ => trivial
    next => exact .idle (.inl rfl) (fun _ => trivial) fun _ => trivial
  next digest =>
    -- `beginWrite`
    obtain ⟨rfl, rfl⟩ := Prod.mk.inj (Option.some.inj hstep)
    split
    next hlock =>
      exact .idle (.inr (.inr ⟨digest, .exclusive, rfl, tryLock_free hlock⟩)) (fun _ => trivial)
        fun _ => trivial
    next => exact .idle (.inl rfl) (fun _ => trivial) fun _ => trivial
  next digest =>
    obtain ⟨rfl, rfl⟩ := Prod.mk.inj (Option.some.inj hstep)
    exact .stages digest pid none _ _ ⟨rfl, rfl⟩ rfl rfl rfl trivial trivial
  next => exact commit_change hrelocks (Option.some.inj hstep)
  next =>
    obtain ⟨rfl, rfl⟩ := Prod.mk.inj (Option.some.inj hstep)
    exact .idle (.inr (.inl rfl)) (fun _ => trivial) fun _ => trivial
  next =>
    split at hstep
    all_goals
      obtain ⟨rfl, rfl⟩ := Prod.mk.inj (Option.some.inj hstep)
      exact .idle (.inr (.inl rfl)) (fun _ => trivial) fun _ => trivial
  next =>
    obtain ⟨rfl, rfl⟩ := Prod.mk.inj (Option.some.inj hstep)
    exact .idle (.inl rfl) (fun _ => trivial) fun _ => trivial
  next => exact sweep_change (Option.some.inj hstep)
  next =>
    obtain ⟨rfl, rfl⟩ := Prod.mk.inj (Option.some.inj hstep)
    exact .idle (.inr (.inl rfl)) (fun _ => trivial) fun _ => trivial
  next =>
    split at hstep
    next =>
      obtain ⟨rfl, rfl⟩ := Prod.mk.inj (Option.some.inj hstep)
      exact .idle (.inr (.inl rfl)) (fun _ => trivial) fun _ => trivial
    next =>
      split at hstep
      all_goals
        obtain ⟨rfl, rfl⟩ := Prod.mk.inj (Option.some.inj hstep)
        exact .idle (.inr (.inl rfl)) (fun _ => trivial) fun _ => trivial
  next => exact evict_change (Option.some.inj hstep)
  next =>
    obtain ⟨rfl, rfl⟩ := Prod.mk.inj (Option.some.inj hstep)
    exact .idle (.inr (.inl rfl)) (fun _ => trivial) fun _ => trivial
  all_goals exact absurd hstep (by simp)

theorem partyStep_change (relocks : Prop) {action : Action Digest}
    (hrelocks : ∀ os, action = .advance os → relocks → relocksPresent s os party.phase = true)
    (hstep : partyStep validator s party action = some (phase, root)) :
    Change validator s party relocks phase root := by
  cases action with
  | advance os => exact advance_change (hrelocks os rfl) hstep
  | write content now =>
    obtain ⟨pid, before⟩ := party
    simp only [partyStep] at hstep
    split at hstep
    next digest =>
      obtain ⟨rfl, rfl⟩ := Prod.mk.inj (Option.some.inj hstep)
      exact .stages digest pid _ _ _ ⟨rfl, rfl⟩ rfl rfl rfl trivial trivial
    next => exact absurd hstep (by simp)
  | commit | abort =>
    obtain ⟨pid, before⟩ := party
    simp only [partyStep] at hstep
    split at hstep
    next =>
      obtain ⟨rfl, rfl⟩ := Prod.mk.inj (Option.some.inj hstep)
      exact .idle (.inl rfl) (fun _ => trivial) fun _ => trivial
    next => exact absurd hstep (by simp)
  | release =>
    simp only [partyStep] at hstep
    split at hstep
    next =>
      obtain ⟨rfl, rfl⟩ := Prod.mk.inj (Option.some.inj hstep)
      exact .idle (.inr (.inl rfl)) (fun _ => trivial) fun _ => trivial
    next =>
      obtain ⟨rfl, rfl⟩ := Prod.mk.inj (Option.some.inj hstep)
      exact .idle (.inr (.inl rfl)) (fun _ => trivial) fun _ => trivial
    next => exact absurd hstep (by simp)
  | visitArtifact digest =>
    simp only [partyStep] at hstep
    split at hstep
    next =>
      obtain ⟨rfl, rfl⟩ := Prod.mk.inj (Option.some.inj hstep)
      exact .idle (.inr (.inl rfl)) (fun _ => trivial) fun _ => trivial
    next => exact absurd hstep (by simp)
  | visitPartial digest pid =>
    simp only [partyStep] at hstep
    split at hstep
    next =>
      split at hstep
      all_goals
        obtain ⟨rfl, rfl⟩ := Prod.mk.inj (Option.some.inj hstep)
        exact .idle (.inr (.inl rfl)) (fun _ => trivial) fun _ => trivial
    next => exact absurd hstep (by simp)
  | visitFails =>
    simp only [partyStep] at hstep
    split at hstep
    next =>
      obtain ⟨rfl, rfl⟩ := Prod.mk.inj (Option.some.inj hstep)
      exact .idle (.inr (.inl rfl)) (fun _ => trivial) fun _ => trivial
    next => exact absurd hstep (by simp)
  | die =>
    obtain ⟨rfl, rfl⟩ := Prod.mk.inj (Option.some.inj hstep)
    exact .idle (.inr (.inl rfl)) (fun _ => trivial) fun _ => trivial

end Change

/-! ## What a change keeps -/

/-- The locks exclude each other, and what is named an artifact is one. -/
structure Guarded (validator : ArtifactValidator Digest) (s : State Digest) : Prop where
  locks : Excluding heldBy s.parties
  valid : ∀ digest file, s.root.artifact digest = some file →
    validates validator digest (some file) = true
  staged : ∀ party ∈ s.parties, Staged validator s.root party

section Keeps

variable {s s' : State Digest} {index : Nat} {party : Party Digest} {relocks : Prop}
  {phase : Phase Digest} {root : Root Digest}

theorem excluding_change (h : Excluding heldBy s.parties) (hfound : s.parties[index]? = some party)
    (hchange : Change validator s party relocks phase root) :
    Excluding heldBy (s.parties.set index { party with phase }) := by
  cases hchange with
  | keeps _ _ hartifacts hpartials hlock hpresent hstaged =>
    rcases hlock with hsame | hnone | ⟨digest, mode, htaken, hfree⟩
    · exact h.set_kept hfound (.inl hsame)
    · exact h.set_kept hfound (.inr hnone)
    · exact h.set_taken hfree htaken
  | publishes digest file hpoint hfile =>
    refine h.set_kept hfound (.inl ?_)
    unfold heldBy
    rw [hpoint]
  | evicts digest phase hlocked hkept hquiet =>
    exact h.set_kept hfound (.inl (hkept.trans hlocked.symm))
  | stages digest pid file phase root hartifacts hpartials hlocked hkept hpresent hstaged =>
    exact h.set_kept hfound (.inl (hkept.trans hlocked.symm))

/-- Whoever holds a lock on a digest sees its artifact unchanged by the others. -/
theorem artifact_kept (h : Excluding heldBy s.parties) (hfound : s.parties[index]? = some party)
    (hchange : Change validator s party relocks phase root) {other : Nat}
    {holder : Party Digest} (hholder : s.parties[other]? = some holder) (hne : index ≠ other)
    {digest : Digest} {mode : Mode} (hheld : heldBy holder = some (digest, mode)) :
    root.artifact digest = s.root.artifact digest ∧
      root.changes digest = s.root.changes digest := by
  have hdiffers : ∀ locked, heldBy party = some (locked, .exclusive) → digest ≠ locked := by
    rintro locked hlocked rfl
    exact hne (h.alone hfound hholder hlocked hheld)
  cases hchange with
  | keeps _ _ hartifacts hpartials hlock hpresent hstaged =>
    rw [hartifacts.1, hartifacts.2]
    exact ⟨rfl, rfl⟩
  | publishes locked file hpoint hfile =>
    have hlocked : heldBy party = some (locked, .exclusive) := by
      unfold heldBy
      rw [hpoint]
    have hother := hdiffers locked hlocked
    exact ⟨Function.update_of_ne hother _ _, Function.update_of_ne hother _ _⟩
  | evicts locked phase hlocked hkept hquiet =>
    have hother := hdiffers locked hlocked
    exact ⟨Function.update_of_ne hother _ _, Function.update_of_ne hother _ _⟩
  | stages locked pid file phase root hartifacts hpartials hlocked hkept hpresent hstaged =>
    rw [hartifacts.1, hartifacts.2]
    exact ⟨rfl, rfl⟩

/-- And its partials. -/
theorem partials_kept (h : Excluding heldBy s.parties) (hfound : s.parties[index]? = some party)
    (hchange : Change validator s party relocks phase root) {other : Nat}
    {holder : Party Digest} (hholder : s.parties[other]? = some holder) (hne : index ≠ other)
    {digest : Digest} {mode : Mode} (hheld : heldBy holder = some (digest, mode)) :
    root.partials digest = s.root.partials digest := by
  have hdiffers : ∀ locked, heldBy party = some (locked, .exclusive) → digest ≠ locked := by
    rintro locked hlocked rfl
    exact hne (h.alone hfound hholder hlocked hheld)
  cases hchange with
  | keeps _ _ hartifacts hpartials hlock hpresent hstaged => rw [hpartials]
  | publishes locked file hpoint hfile =>
    have hlocked : heldBy party = some (locked, .exclusive) := by
      unfold heldBy
      rw [hpoint]
    exact Function.update_of_ne (hdiffers locked hlocked) _ _
  | evicts locked phase hlocked hkept hquiet => rfl
  | stages locked pid file phase root hartifacts hpartials hlocked hkept hpresent hstaged =>
    rw [hpartials]
    exact Function.update_of_ne (hdiffers locked hlocked) _ _

omit [DecidableEq Digest] in
/-- Whoever needs its partial as it was validated, or as it was removed, holds the lock. -/
theorem Staged.kept {root root' : Root Digest} {party : Party Digest}
    (h : Staged validator root party)
    (hkept : ∀ digest mode, heldBy party = some (digest, mode) →
      root'.partials digest = root.partials digest) : Staged validator root' party := by
  obtain ⟨pid, phase⟩ := party
  unfold Staged at h ⊢
  split
  next digest hphase =>
    obtain rfl : phase = .committing digest .syncing := hphase
    rw [hkept digest .exclusive rfl]
    exact h
  next digest hphase =>
    obtain rfl : phase = .committing digest .publishing := hphase
    rw [hkept digest .exclusive rfl]
    exact h
  next digest hphase =>
    obtain rfl : phase = .committing digest .failed := hphase
    rw [hkept digest .exclusive rfl]
    exact h
  next => trivial

omit [DecidableEq Digest] in
theorem Present.kept {root root' : Root Digest} {party : Party Digest}
    (h : Present root party.phase)
    (hkept : ∀ digest mode, heldBy party = some (digest, mode) →
      root'.artifact digest = root.artifact digest) : Present root' party.phase := by
  obtain ⟨pid, phase⟩ := party
  unfold Present at h ⊢
  dsimp only at h ⊢
  split
  next digest => rw [hkept digest .shared rfl]; exact h
  next digest => rw [hkept digest .shared rfl]; exact h
  next digest => rw [hkept digest .exclusive rfl]; exact h
  next digest => rw [hkept digest .exclusive rfl]; exact h
  next => trivial

theorem Guarded.change (h : Guarded validator s) (hfound : s.parties[index]? = some party)
    (hchange : Change validator s party relocks phase root) :
    Guarded validator { root, parties := s.parties.set index { party with phase } } := by
  have hparty := h.staged party (List.mem_of_getElem? hfound)
  refine ⟨excluding_change h.locks hfound hchange, ?_, ?_⟩
  · intro digest file hfile
    have hfile' : root.artifact digest = some file := hfile
    cases hchange with
    | keeps _ _ hartifacts hpartials hlock hpresent hstaged =>
      rw [hartifacts.1] at hfile'
      exact h.valid digest file hfile'
    | publishes locked renamed hpoint hrenamed =>
      by_cases hsame : digest = locked
      · -- what is renamed into place was validated under the lock
        subst hsame
        have hnow : Function.update s.root.artifact digest (some renamed) digest = some file :=
          hfile'
        rw [Function.update_self] at hnow
        obtain rfl := Option.some.inj hnow
        unfold Staged at hparty
        rw [hpoint] at hparty
        rw [← hrenamed]
        exact hparty
      · have hold : Function.update s.root.artifact locked (some renamed) digest = some file :=
          hfile'
        rw [Function.update_of_ne hsame] at hold
        exact h.valid digest file hold
    | evicts locked phase hlocked hkept hquiet =>
      have hnow : Function.update s.root.artifact locked none digest = some file := hfile'
      by_cases hsame : digest = locked
      · subst hsame
        rw [Function.update_self] at hnow
        exact absurd hnow (by simp)
      · rw [Function.update_of_ne hsame] at hnow
        exact h.valid digest file hnow
    | stages locked pid partialFile phase root hartifacts hpartials hlocked hkept hpresent
      hstaged =>
      rw [hartifacts.1] at hfile'
      exact h.valid digest file hfile'
  · intro other hother
    obtain ⟨j, hj⟩ := List.mem_iff_getElem?.mp hother
    rcases getElem?_set_cases hj with ⟨rfl, rfl⟩ | ⟨hne, hj'⟩
    · cases hchange with
      | keeps _ _ hartifacts hpartials hlock hpresent hstaged =>
        exact (hstaged hparty).kept fun digest _ _ => congrFun hpartials digest
      | publishes locked file hpoint hfile => trivial
      | evicts locked phase hlocked hkept hquiet => exact (hquiet _).2
      | stages locked pid file phase root hartifacts hpartials hlocked hkept hpresent hstaged =>
        exact hstaged
    · exact (h.staged other (List.mem_of_getElem? hj')).kept fun digest mode hheld =>
        partials_kept h.locks hfound hchange hj' hne hheld

end Keeps

/-! ## Runs -/

section Runs

variable {s s' : State Digest} {event : Event Digest} {events : List (Event Digest)}

/-- A call, or a step of a party. -/
theorem step_cases (h : step validator event s = some s') :
    (∃ pid request, event = .call pid request ∧
      s' = { s with parties := s.parties ++ [{ pid, phase := request.phase }] }) ∨
    ∃ index action party phase root, event = .act index action ∧
      s.parties[index]? = some party ∧ partyStep validator s party action = some (phase, root) ∧
      s' = { root, parties := s.parties.set index { party with phase } } := by
  cases event with
  | call pid request => exact .inl ⟨pid, request, rfl, (Option.some.inj h).symm⟩
  | act index action =>
    simp only [step] at h
    split at h
    next => exact absurd h (by simp)
    next party hfound =>
      split at h
      next => exact absurd h (by simp)
      next phase root hstep =>
        exact .inr ⟨index, action, party, phase, root, rfl, hfound, hstep, (Option.some.inj h).symm⟩

theorem Guarded.step (h : Guarded validator s) (hstep : step validator event s = some s') :
    Guarded validator s' := by
  rcases step_cases hstep with ⟨pid, request, -, rfl⟩ |
    ⟨index, action, party, phase, root, -, hfound, hparty, rfl⟩
  · refine ⟨h.locks.snoc ?_, h.valid, fun party hparty => ?_⟩
    · cases request <;> rfl
    · rcases List.mem_append.mp hparty with hparty | hparty
      · exact h.staged party hparty
      · rw [List.mem_singleton.mp hparty]
        cases request <;> trivial
  · exact h.change hfound (partyStep_change False (fun _ _ hfalse => hfalse.elim) hparty)

end Runs

/-! ## The cache -/

/-- The state before any call, over a directory as earlier processes left it. -/
def opened (root : Root Digest) : State Digest := { root, parties := [] }

def advanced (party : Nat) : Event Nat := .act party (.advance {})

end RequestCache

end PlotJugglerSdk
