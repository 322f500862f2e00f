import PlotJugglerSdk.Concurrency.Locks
import PlotJugglerSdk.Concurrency.Runs
import Mathlib.Data.List.Sort
import Mathlib.Logic.Function.Basic

/-!
# The request cache

Processes share a directory: per digest one artifact, its partials, its `.touch`
stamp and its lock. `beginWrite` … `commit` publish an artifact by renaming a partial,
`lookup` and `acquireReadLease` lease it, `cleanup` removes old partials and evicts.

A party is one call and what it returned: a transaction until it is finished, a hit
or a lease until it is released. A step is one operation on the file system or on a
lock; how the operating system answers it is part of the event, so it can fail.

* `commitStep`, `lookupStep`, `sweepStep`, `evictStep` — the operations
* `heldBy` — the lock that a party holds
* `step`   — what can happen
-/

namespace PlotJugglerSdk

namespace RequestCache

open Locks

variable {Digest : Type} [DecidableEq Digest]

/-! ## The directory -/

structure CacheFile where
  content : List UInt8
  mtime : Nat
  deriving DecidableEq

def CacheFile.size (file : CacheFile) : UInt64 := .ofNat file.content.length

/-- The files that `CacheLayout` names. -/
structure Root (Digest : Type) where
  artifact : Digest → Option CacheFile
  /-- How often the artifact was renamed into place or removed. -/
  changes : Digest → Nat
  partials : Digest → Nat → Option CacheFile
  touch : Digest → Option Nat

namespace Root

def touchStamp (digest : Digest) (now : Nat) (root : Root Digest) : Root Digest :=
  { root with touch := Function.update root.touch digest (some now) }

def readLruStamp (digest : Digest) (root : Root Digest) : Option Nat :=
  (root.touch digest).or ((root.artifact digest).map CacheFile.mtime)

def setPartial (digest : Digest) (pid : Nat) (file : Option CacheFile) (root : Root Digest) :
    Root Digest :=
  { root with
    partials :=
      Function.update root.partials digest (Function.update (root.partials digest) pid file) }

/-- The caller writes its partial. -/
def writePartial (digest : Digest) (pid : Nat) (content : List UInt8) (now : Nat)
    (root : Root Digest) : Root Digest :=
  root.setPartial digest pid (some { content, mtime := now })

def setArtifact (digest : Digest) (file : Option CacheFile) (root : Root Digest) : Root Digest :=
  { root with
    artifact := Function.update root.artifact digest file
    changes := Function.update root.changes digest (root.changes digest + 1) }

def removeTouch (digest : Digest) (root : Root Digest) : Root Digest :=
  { root with touch := Function.update root.touch digest none }

/-- `fs::rename` of a partial onto the artifact. -/
def publish (digest : Digest) (pid : Nat) (root : Root Digest) : Option (Root Digest) :=
  match root.partials digest pid with
  | none => none
  | some file => some ((root.setPartial digest pid none).setArtifact digest (some file))

end Root

/-- Whether a file is a valid artifact for the digest. -/
abbrev ArtifactValidator (Digest : Type) := Option (Digest → List UInt8 → Bool)

/-- A validator rejects a missing file. -/
def validates (validator : ArtifactValidator Digest) (digest : Digest) : Option CacheFile → Bool
  | some file => validator.any fun valid => valid digest file.content
  | none => false

/-! ## The parties -/

inductive LookupPoint where
  | finding
  | locking
  | validating
  | touching
  deriving DecidableEq

inductive CommitPoint where
  | validating
  | syncing
  | publishing
  | touching
  /-- The two steps of `downgradeToShared`: its unlock is next, its try is next. -/
  | downgrading
  | relocking
  | reacquiring
  | rechecking
  /-- It failed before the rename; the partial is to be removed, then the lock reset. -/
  | failing
  | failed
  deriving DecidableEq

structure CleanupPolicy where
  maxTotalBytes : UInt64 := 0xFFFFFFFFFFFFFFFF
  minFreeBytes : UInt64 := 0
  orphanPartialAge : Int := 24
  deriving DecidableEq

structure CleanupResult where
  bytesScanned : UInt64 := 0
  bytesReclaimed : UInt64 := 0
  bytesHeldOverTarget : UInt64 := 0
  targetMet : Bool := true
  hadErrors : Bool := false
  deriving DecidableEq

structure StalePartial (Digest : Type) where
  digest : Digest
  pid : Nat
  deriving DecidableEq

structure EvictionCandidate (Digest : Type) where
  digest : Digest
  size : UInt64
  stamp : Nat
  deriving DecidableEq

/-- A cleanup on its way: its scan, its estimates and its result so far. -/
structure Cleanup (Digest : Type) where
  policy : CleanupPolicy
  stalePartials : List (StalePartial Digest) := []
  candidates : List (EvictionCandidate Digest) := []
  total : UInt64 := 0
  available : Option UInt64 := none
  result : CleanupResult := {}
  deriving DecidableEq

inductive SweepPoint where
  | locking
  | finding
  | aging
  | sizing
  | removing (size : Option UInt64)
  | unlocking
  deriving DecidableEq

inductive EvictPoint where
  | locking
  | finding
  | sizing
  | stamping
  | removing
  | untouching
  | unlocking
  deriving DecidableEq

inductive Phase (Digest : Type) where
  | lookup (digest : Digest) (point : LookupPoint)
  | leasing (digest : Digest)
  | leased (digest : Digest)
  | beginning (digest : Digest)
  | writing (digest : Digest)
  | aborting (digest : Digest)
  | committing (digest : Digest) (point : CommitPoint)
  /-- A `Hit` was returned, its lease is not released. -/
  | hit (digest : Digest)
  /-- All that is left is to unlock. -/
  | unlocking (digest : Digest) (mode : Mode)
  /-- Between two entries, or between an artifact's size and its stamp. -/
  | scanning (cleanup : Cleanup Digest) (now : Nat) (sized : Option (Digest × UInt64))
  | sweeping (cleanup : Cleanup Digest) (partials : List (StalePartial Digest)) (point : SweepPoint)
  | spacing (cleanup : Cleanup Digest)
  | evicting (cleanup : Cleanup Digest) (victims : List (EvictionCandidate Digest))
      (point : EvictPoint)
  | cleaned (result : CleanupResult)
  | over
  deriving DecidableEq

structure Party (Digest : Type) where
  pid : Nat
  phase : Phase Digest
  deriving DecidableEq

structure State (Digest : Type) where
  root : Root Digest
  parties : List (Party Digest)

/-- The lock that a party holds. -/
def heldBy (party : Party Digest) : Option (Digest × Mode) :=
  match party.phase with
  | .lookup digest .validating | .lookup digest .touching => some (digest, .shared)
  | .leased digest | .hit digest => some (digest, .shared)
  | .writing digest | .aborting digest => some (digest, .exclusive)
  -- `downgradeToShared` has let the exclusive lock go, and no other is held yet
  | .committing _ .relocking | .committing _ .reacquiring => none
  | .committing digest .rechecking => some (digest, .shared)
  | .committing digest _ => some (digest, .exclusive)
  | .unlocking digest mode => some (digest, mode)
  -- a cleanup holds the digest it looks at from the lock to the end of the loop's body
  | .sweeping _ _ .locking => none
  | .sweeping _ (stale :: _) _ => some (stale.digest, .exclusive)
  | .evicting _ _ .locking => none
  | .evicting _ (victim :: _) _ => some (victim.digest, .exclusive)
  | _ => none

/-! ## The operations -/

/-- How the operating system answers an operation: whether it succeeds where it can, what
the clock says and how much space there is. -/
structure Answer where
  succeeds : Bool := true
  now : Nat := 0
  available : UInt64 := 0

/-- `FileLock::tryShared`, `FileLock::tryExclusive`. -/
def tryLock (digest : Digest) (mode : Mode) (os : Answer) (s : State Digest) : Bool :=
  os.succeeds && canLock heldBy digest mode s.parties

/-- `touchStamp`, which does not report a failure. -/
def touchedBy (digest : Digest) (os : Answer) (root : Root Digest) : Root Digest :=
  if os.succeeds then root.touchStamp digest os.now else root

def lookupStep (validator : ArtifactValidator Digest) (digest : Digest) (os : Answer)
    (s : State Digest) : LookupPoint → Phase Digest × Root Digest
  -- without a validator every lookup is a miss
  | .finding =>
    if validator.isSome && os.succeeds && (s.root.artifact digest).isSome then
      (.lookup digest .locking, s.root)
    else (.over, s.root)
  | .locking =>
    if tryLock digest .shared os s then (.lookup digest .validating, s.root) else (.over, s.root)
  | .validating =>
    if validates validator digest (s.root.artifact digest) then
      (.lookup digest .touching, s.root)
    -- the file stays: a lookup that does not accept it removes nothing
    else (.unlocking digest .shared, s.root)
  | .touching => (.hit digest, touchedBy digest os s.root)

def commitStep (validator : ArtifactValidator Digest) (digest : Digest) (pid : Nat) (os : Answer)
    (s : State Digest) : CommitPoint → Phase Digest × Root Digest
  | .validating =>
    if validates validator digest (s.root.partials digest pid) then
      (.committing digest .syncing, s.root)
    else (.committing digest .failing, s.root)
  | .syncing =>
    (.committing digest (if os.succeeds then .publishing else .failing), s.root)
  -- `fs::rename` puts the partial in the place of whatever artifact there is
  | .publishing =>
    match os.succeeds, s.root.publish digest pid with
    | true, some root => (.committing digest .touching, root)
    | _, _ => (.committing digest .failing, s.root)
  | .touching => (.committing digest .downgrading, touchedBy digest os s.root)
  -- `downgradeToShared` unlocks, and locks again
  | .downgrading => (.committing digest .relocking, s.root)
  | .relocking =>
    -- a conversion that succeeds is not followed by a look at the artifact
    if tryLock digest .shared os s then (.hit digest, s.root)
    else (.committing digest .reacquiring, s.root)
  -- published, but the lease may be lost to a concurrent holder: the caller retries
  | .reacquiring =>
    if tryLock digest .shared os s then (.committing digest .rechecking, s.root)
    else (.over, s.root)
  -- the artifact may have been evicted while no lock was held
  | .rechecking =>
    if os.succeeds && (s.root.artifact digest).isSome then (.hit digest, s.root)
    else (.unlocking digest .shared, s.root)
  -- `fail` removes the partial first and unlocks after that
  | .failing => (.committing digest .failed, s.root.setPartial digest pid none)
  | .failed => (.over, s.root)

def saturatedAdd (a b : UInt64) : UInt64 :=
  if b > 0xFFFFFFFFFFFFFFFF - a then 0xFFFFFFFFFFFFFFFF else a + b

namespace Cleanup

def noteError (cleanup : Cleanup Digest) : Cleanup Digest :=
  { cleanup with result := { cleanup.result with hadErrors := true } }

def noteUnless (ok : Bool) (cleanup : Cleanup Digest) : Cleanup Digest :=
  if ok then cleanup else cleanup.noteError

def reclaim (size : UInt64) (cleanup : Cleanup Digest) : Cleanup Digest :=
  { cleanup with
    result := { cleanup.result with
      bytesReclaimed := saturatedAdd cleanup.result.bytesReclaimed size } }

def bytesOverTarget (cleanup : Cleanup Digest) : UInt64 :=
  let sizeExcess :=
    if cleanup.total > cleanup.policy.maxTotalBytes then
      cleanup.total - cleanup.policy.maxTotalBytes
    else 0
  let freeDeficit :=
    match cleanup.available with
    | some available =>
      if available < cleanup.policy.minFreeBytes then cleanup.policy.minFreeBytes - available
      else 0
    | none => 0
  max sizeExcess freeDeficit

/-- The result of `evictUntilUnderBudget` when its loop has ended. -/
def finish (cleanup : Cleanup Digest) : CleanupResult :=
  { cleanup.result with
    bytesHeldOverTarget := cleanup.bytesOverTarget
    targetMet := cleanup.bytesOverTarget = 0 }

/-- A victim was removed. -/
def evicted (size : UInt64) (cleanup : Cleanup Digest) : Cleanup Digest :=
  { cleanup.reclaim size with
    total := cleanup.total - size
    available := cleanup.available.map fun available => saturatedAdd available size }

def sortedCandidates (cleanup : Cleanup Digest) : List (EvictionCandidate Digest) :=
  cleanup.candidates.insertionSort fun a b => a.stamp ≤ b.stamp

end Cleanup

/-- One step of `removeStalePartials`, with the partials that are left. -/
def sweepStep (cleanup : Cleanup Digest) (os : Answer) (s : State Digest)
    (stale : StalePartial Digest) (rest : List (StalePartial Digest)) :
    SweepPoint → Phase Digest × Root Digest
  | .locking =>
    if tryLock stale.digest .exclusive os s then
      (.sweeping cleanup (stale :: rest) .finding, s.root)
    -- a live materialization owns the partial: a lock that is held is no error
    else (.sweeping (cleanup.noteUnless os.succeeds) rest .locking, s.root)
  | .finding =>
    if os.succeeds && (s.root.partials stale.digest stale.pid).isSome then
      (.sweeping cleanup (stale :: rest) .aging, s.root)
    else (.sweeping (cleanup.noteUnless os.succeeds) (stale :: rest) .unlocking, s.root)
  | .aging =>
    match os.succeeds, s.root.partials stale.digest stale.pid with
    | true, some file =>
      if (os.now : Int) - file.mtime < cleanup.policy.orphanPartialAge then
        -- written again since the scan
        (.sweeping cleanup (stale :: rest) .unlocking, s.root)
      else (.sweeping cleanup (stale :: rest) .sizing, s.root)
    | succeeds, _ => (.sweeping (cleanup.noteUnless succeeds) (stale :: rest) .unlocking, s.root)
  | .sizing =>
    -- a size that cannot be read stops nothing: it is not counted
    let size :=
      if os.succeeds then (s.root.partials stale.digest stale.pid).map CacheFile.size else none
    (.sweeping cleanup (stale :: rest) (.removing size), s.root)
  | .removing size =>
    match os.succeeds, s.root.partials stale.digest stale.pid, size with
    | true, some _, some size =>
      (.sweeping (cleanup.reclaim size) (stale :: rest) .unlocking,
        s.root.setPartial stale.digest stale.pid none)
    | true, _, _ =>
      (.sweeping cleanup (stale :: rest) .unlocking,
        s.root.setPartial stale.digest stale.pid none)
    | false, _, _ => (.sweeping cleanup.noteError (stale :: rest) .unlocking, s.root)
  | .unlocking => (.sweeping cleanup rest .locking, s.root)

/-- One step of the loop of `evictUntilUnderBudget`, with the victims that are left. -/
def evictStep (cleanup : Cleanup Digest) (os : Answer) (s : State Digest)
    (victim : EvictionCandidate Digest) (rest : List (EvictionCandidate Digest)) :
    EvictPoint → Phase Digest × Root Digest
  | .locking =>
    -- the target is looked at before each victim, not after it
    if cleanup.bytesOverTarget = 0 then (.cleaned cleanup.finish, s.root)
    else if tryLock victim.digest .exclusive os s then
      (.evicting cleanup (victim :: rest) .finding, s.root)
    -- leased or written again: nothing is evicted under a holder
    else (.evicting (cleanup.noteUnless os.succeeds) rest .locking, s.root)
  | .finding =>
    if os.succeeds && (s.root.artifact victim.digest).isSome then
      (.evicting cleanup (victim :: rest) .sizing, s.root)
    else (.evicting (cleanup.noteUnless os.succeeds) (victim :: rest) .unlocking, s.root)
  | .sizing =>
    match os.succeeds, s.root.artifact victim.digest with
    | true, some file =>
      -- another file than the one that was scanned
      if file.size ≠ victim.size then (.evicting cleanup (victim :: rest) .unlocking, s.root)
      else (.evicting cleanup (victim :: rest) .stamping, s.root)
    | succeeds, _ => (.evicting (cleanup.noteUnless succeeds) (victim :: rest) .unlocking, s.root)
  | .stamping =>
    match os.succeeds, s.root.readLruStamp victim.digest with
    | true, some stamp =>
      -- used since the scan
      if stamp ≠ victim.stamp then (.evicting cleanup (victim :: rest) .unlocking, s.root)
      else (.evicting cleanup (victim :: rest) .removing, s.root)
    | succeeds, _ => (.evicting (cleanup.noteUnless succeeds) (victim :: rest) .unlocking, s.root)
  | .removing =>
    match os.succeeds, s.root.artifact victim.digest with
    | true, some _ =>
      (.evicting (cleanup.evicted victim.size) (victim :: rest) .untouching,
        s.root.setArtifact victim.digest none)
    | succeeds, _ => (.evicting (cleanup.noteUnless succeeds) (victim :: rest) .unlocking, s.root)
  -- the stamp goes last, still under the victim's lock
  | .untouching =>
    if os.succeeds then
      (.evicting cleanup (victim :: rest) .unlocking, s.root.removeTouch victim.digest)
    else (.evicting cleanup.noteError (victim :: rest) .unlocking, s.root)
  | .unlocking => (.evicting cleanup rest .locking, s.root)

/-! ## The steps -/

inductive Action (Digest : Type) where
  /-- The call's next operation. -/
  | advance (os : Answer)
  -- what the caller does with a transaction or a lease
  | write (content : List UInt8) (now : Nat)
  | commit
  | abort
  | release
  -- the directory iteration of a scan comes to an entry, or fails at one
  | visitArtifact (digest : Digest)
  | visitPartial (digest : Digest) (pid : Nat)
  | visitFails
  /-- The process dies; the operating system unlocks. -/
  | die

/-- The phase of a party after its next operation, and the files. -/
def advance (validator : ArtifactValidator Digest) (os : Answer) (s : State Digest)
    (party : Party Digest) : Option (Phase Digest × Root Digest) :=
  match party.phase with
  | .lookup digest point => some (lookupStep validator digest os s point)
  | .leasing digest =>
    some (if tryLock digest .shared os s then .leased digest else .over, s.root)
  | .beginning digest =>
    some (if tryLock digest .exclusive os s then .writing digest else .over, s.root)
  | .aborting digest =>
    some (.unlocking digest .exclusive, s.root.setPartial digest party.pid none)
  | .committing digest point => some (commitStep validator digest party.pid os s point)
  | .unlocking _ _ => some (.over, s.root)
  -- the end of the iteration
  | .scanning cleanup _ none =>
    if os.succeeds then
      let scanned :=
        { cleanup with result := { cleanup.result with bytesScanned := cleanup.total } }
      some (.sweeping scanned cleanup.stalePartials .locking, s.root)
    else
      -- a directory that cannot be listed ends the cleanup
      some (.cleaned { cleanup.result with targetMet := false, hadErrors := true }, s.root)
  | .scanning cleanup now (some (digest, size)) =>
    let stamp := if os.succeeds then (s.root.readLruStamp digest).getD 0 else 0
    let scanned :=
      { cleanup with
        candidates := cleanup.candidates ++ [{ digest, size, stamp }]
        total := saturatedAdd cleanup.total size }
    some (.scanning scanned now none, s.root)
  | .sweeping cleanup (stale :: rest) point => some (sweepStep cleanup os s stale rest point)
  | .sweeping cleanup [] _ => some (.spacing cleanup, s.root)
  -- the free space is asked for once, and not at all without a budget for it
  | .spacing cleanup =>
    if cleanup.policy.minFreeBytes = 0 then
      some (.evicting cleanup cleanup.sortedCandidates .locking, s.root)
    else if os.succeeds then
      let spaced := { cleanup with available := some os.available }
      some (.evicting spaced cleanup.sortedCandidates .locking, s.root)
    else some (.cleaned { cleanup.result with targetMet := false, hadErrors := true }, s.root)
  | .evicting cleanup (victim :: rest) point => some (evictStep cleanup os s victim rest point)
  | .evicting cleanup [] _ => some (.cleaned cleanup.finish, s.root)
  -- these wait for what the caller does next
  | .leased _ | .writing _ | .hit _ | .cleaned _ | .over => none

def partyStep (validator : ArtifactValidator Digest) (s : State Digest) (party : Party Digest) :
    Action Digest → Option (Phase Digest × Root Digest)
  | .advance os => advance validator os s party
  | .write content now =>
    match party.phase with
    | .writing digest =>
      some (.writing digest, s.root.writePartial digest party.pid content now)
    | _ => none
  -- a transaction that is finished is neither committed nor aborted again
  | .commit =>
    match party.phase with
    | .writing digest => some (.committing digest .validating, s.root)
    | _ => none
  | .abort =>
    match party.phase with
    | .writing digest => some (.aborting digest, s.root)
    | _ => none
  | .release =>
    match party.phase with
    | .leased _ | .hit _ => some (.over, s.root)
    | _ => none
  | .visitArtifact digest =>
    match party.phase, s.root.artifact digest with
    | .scanning cleanup now none, some file =>
      some (.scanning cleanup now (some (digest, file.size)), s.root)
    | _, _ => none
  | .visitPartial digest pid =>
    match party.phase, s.root.partials digest pid with
    | .scanning cleanup now none, some file =>
      -- the age is looked at here without a lock, and once more under it
      if (now : Int) - file.mtime ≥ cleanup.policy.orphanPartialAge then
        let stale := { cleanup with stalePartials := cleanup.stalePartials ++ [{ digest, pid }] }
        some (.scanning stale now none, s.root)
      else some (.scanning cleanup now none, s.root)
    | _, _ => none
  | .visitFails =>
    match party.phase with
    | .scanning cleanup now none => some (.scanning cleanup.noteError now none, s.root)
    | _ => none
  | .die => some (.over, s.root)

inductive Request (Digest : Type) where
  | lookup (digest : Digest)
  | acquireReadLease (digest : Digest)
  | beginWrite (digest : Digest)
  | cleanup (policy : CleanupPolicy) (now : Nat)

def Request.phase : Request Digest → Phase Digest
  | .lookup digest => .lookup digest .finding
  | .acquireReadLease digest => .leasing digest
  | .beginWrite digest => .beginning digest
  | .cleanup policy now => .scanning { policy } now none

inductive Event (Digest : Type) where
  /-- A process makes a call. -/
  | call (pid : Nat) (request : Request Digest)
  | act (party : Nat) (action : Action Digest)

def step (validator : ArtifactValidator Digest) :
    Event Digest → State Digest → Option (State Digest)
  | .call pid request, s =>
    some { s with parties := s.parties ++ [{ pid, phase := request.phase }] }
  | .act index action, s =>
    match s.parties[index]? with
    | none => none
    | some party =>
      match partyStep validator s party action with
      | none => none
      | some (phase, root) =>
        some { root, parties := s.parties.set index { party with phase } }

end RequestCache

end PlotJugglerSdk
