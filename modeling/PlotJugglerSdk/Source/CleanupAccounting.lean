import PlotJugglerSdk.Concurrency.Runs
import PlotJugglerSdk.Source.CleanupMoves
import Mathlib.Algebra.BigOperators.Group.List.Basic
import Mathlib.Algebra.Ring.Nat

/-!
# What a cleanup accounts for

One cleanup against everybody else: between any two of its steps the directory and the
locks of the others may become whatever they like, but for the artifact that the cleanup
holds exclusively. Nobody locks that one, and it may vanish but not change.

* `scanning_step`, `course_step` — what the scan and the eviction keep
* `eviction_accounts`            — what is removed, in which order, and what is reported
* `query_fails`                  — an eviction that reports a target it does not know
-/

namespace PlotJugglerSdk

namespace RequestCache

open Locks Runs

variable {Digest : Type} [DecidableEq Digest]

/-! ## One cleanup -/

/-- The artifact that the party's next operation removes. -/
def removal (root : Root Digest) (party : Party Digest) :
    Action Digest → Option (EvictionCandidate Digest)
  | .advance os =>
    match party.phase with
    | .evicting _ (victim :: _) .removing =>
      if os.succeeds && (root.artifact victim.digest).isSome then some victim else none
    | _ => none
  | _ => none

/-- The free space that the party's next operation is told. -/
def query (party : Party Digest) : Action Digest → Option UInt64
  | .advance os =>
    match party.phase with
    | .spacing cleanup =>
      if cleanup.policy.minFreeBytes ≠ 0 ∧ os.succeeds then some os.available else none
    | _ => none
  | _ => none

/-- What a party has removed and been told. -/
structure Ledger (Digest : Type) where
  removed : List (EvictionCandidate Digest) := []
  queried : Option UInt64 := none

def Ledger.after (root : Root Digest) (party : Party Digest) (action : Action Digest)
    (ledger : Ledger Digest) : Ledger Digest :=
  { removed := ledger.removed ++ (removal root party action).toList
    queried := ledger.queried.or (query party action) }

/-- A party among others. -/
structure Watched (Digest : Type) where
  root : Root Digest
  others : List (Party Digest)
  self : Party Digest
  ledger : Ledger Digest := {}

inductive Move (Digest : Type) where
  | own (action : Action Digest)
  /-- The others have moved: the directory and their locks are now these. -/
  | other (root : Root Digest) (others : List (Party Digest))

def watchedStep (validator : ArtifactValidator Digest) :
    Move Digest → Watched Digest → Option (Watched Digest)
  | .own action, w =>
    match partyStep validator { root := w.root, parties := w.others } w.self action with
    | none => none
    | some (phase, root) =>
      some { w with
        root
        self := { w.self with phase }
        ledger := w.ledger.after w.root w.self action }
  | .other root others, w => some { w with root, others }

/-- The others leave alone what the party holds exclusively. -/
def Respects : Move Digest → Watched Digest → Prop
  | .own _, _ => True
  | .other root others, w =>
    ∀ digest, heldBy w.self = some (digest, .exclusive) →
      canLock heldBy digest .exclusive others = true ∧
        ∀ file, root.artifact digest = some file →
          w.root.artifact digest = some file ∧
            root.readLruStamp digest = w.root.readLruStamp digest

theorem taken_own {validator : ArtifactValidator Digest} {actions : List (Action Digest)}
    {w : Watched Digest} : Taken (watchedStep validator) Respects (actions.map .own) w := by
  induction actions generalizing w with
  | nil => trivial
  | cons action actions ih =>
    refine ⟨trivial, ?_⟩
    cases watchedStep validator (.own action) w with
    | none => trivial
    | some w' => exact ih

/-- A cleanup that has not begun. -/
def cleaning (policy : CleanupPolicy) (now pid : Nat) (root : Root Digest)
    (others : List (Party Digest)) : Watched Digest :=
  { root, others, self := { pid, phase := (Request.cleanup policy now).phase } }

/-! ## Sizes -/

def sizes (candidates : List (EvictionCandidate Digest)) : Nat :=
  (candidates.map fun candidate => candidate.size.toNat).sum

/-- The largest `uintmax_t`. -/
def kMaxBytes : Nat := 0xFFFFFFFFFFFFFFFF

omit [DecidableEq Digest] in
theorem sizes_append (l l' : List (EvictionCandidate Digest)) :
    sizes (l ++ l') = sizes l + sizes l' := by
  unfold sizes
  rw [List.map_append, List.sum_append]

omit [DecidableEq Digest] in
theorem sizes_singleton (candidate : EvictionCandidate Digest) :
    sizes [candidate] = candidate.size.toNat := by
  simp [sizes]

omit [DecidableEq Digest] in
theorem sizes_le {l l' : List (EvictionCandidate Digest)} (h : l.Sublist l') :
    sizes l ≤ sizes l' := by
  induction h with
  | slnil => exact Nat.le_refl _
  | cons a _ ih =>
    show _ ≤ sizes ([a] ++ _)
    rw [sizes_append]
    omega
  | cons_cons a _ ih =>
    show sizes ([a] ++ _) ≤ sizes ([a] ++ _)
    rw [sizes_append, sizes_append]
    omega

theorem saturatedAdd_toNat (a b : UInt64) :
    (saturatedAdd a b).toNat = min (a.toNat + b.toNat) kMaxBytes := by
  have hmax : (0xFFFFFFFFFFFFFFFF : UInt64).toNat = kMaxBytes := rfl
  have ha : a.toNat ≤ kMaxBytes := Nat.le_sub_one_of_lt a.toNat_lt
  have hle : a ≤ 0xFFFFFFFFFFFFFFFF := UInt64.le_iff_toNat_le.mpr ha
  have hrest : ((0xFFFFFFFFFFFFFFFF : UInt64) - a).toNat = kMaxBytes - a.toNat := by
    rw [UInt64.toNat_sub_of_le _ _ hle, hmax]
  unfold saturatedAdd
  split
  next hover =>
    have hlt := UInt64.lt_iff_toNat_lt.mp hover
    rw [hrest] at hlt
    rw [hmax]
    omega
  next hfits =>
    have hge := Nat.not_lt.mp fun hlt => hfits (UInt64.lt_iff_toNat_lt.mpr hlt)
    rw [hrest] at hge
    have hsmall : a.toNat + b.toNat < 2 ^ 64 := by
      unfold kMaxBytes at ha hge
      omega
    rw [UInt64.toNat_add, Nat.mod_eq_of_lt hsmall]
    omega

omit [DecidableEq Digest] in
theorem sizes_perm {l l' : List (EvictionCandidate Digest)} (h : l.Perm l') :
    sizes l = sizes l' := (h.map _).sum_eq

omit [DecidableEq Digest] in
theorem sortedCandidates_perm (cleanup : Cleanup Digest) :
    cleanup.sortedCandidates.Perm cleanup.candidates := List.perm_insertionSort _ _

omit [DecidableEq Digest] in
theorem sortedCandidates_sorted (cleanup : Cleanup Digest) :
    cleanup.sortedCandidates.Pairwise fun a b => a.stamp ≤ b.stamp := by
  have : IsTrans (EvictionCandidate Digest) fun a b => a.stamp ≤ b.stamp :=
    ⟨fun _ _ _ hab hbc => hab.trans hbc⟩
  have : Std.Total fun a b : EvictionCandidate Digest => a.stamp ≤ b.stamp :=
    ⟨fun a b => Nat.le_total a.stamp b.stamp⟩
  exact List.pairwise_insertionSort _ _

/-! ## The target -/

/-- How much the estimates are over the budgets. -/
def overTarget (policy : CleanupPolicy) (total : Nat) (available : Option Nat) : Int :=
  max (max ((total : Int) - policy.maxTotalBytes.toNat)
    (available.elim 0 fun available => (policy.minFreeBytes.toNat : Int) - available)) 0

theorem excess_toNat (a b : UInt64) : (if a > b then a - b else 0).toNat = a.toNat - b.toNat := by
  split
  next hover =>
    rw [UInt64.toNat_sub_of_le _ _ (UInt64.le_of_lt hover)]
  next hfits =>
    have hle := Nat.not_lt.mp fun hlt => hfits (UInt64.lt_iff_toNat_lt.mpr hlt)
    rw [Nat.sub_eq_zero_of_le hle]
    rfl

theorem max_toNat (a b : UInt64) : (max a b).toNat = max a.toNat b.toNat := by
  show (if a ≤ b then b else a).toNat = _
  split
  next hle => rw [Nat.max_eq_right (UInt64.le_iff_toNat_le.mp hle)]
  next hnot =>
    have hle := Nat.le_of_lt (Nat.not_le.mp fun hle => hnot (UInt64.le_iff_toNat_le.mpr hle))
    rw [Nat.max_eq_left hle]

omit [DecidableEq Digest] in
theorem bytesOverTarget_eq (cleanup : Cleanup Digest) :
    (cleanup.bytesOverTarget.toNat : Int) =
      overTarget cleanup.policy cleanup.total.toNat (cleanup.available.map UInt64.toNat) := by
  unfold Cleanup.bytesOverTarget overTarget
  rw [max_toNat, excess_toNat]
  cases cleanup.available with
  | none =>
    show ((max _ (0 : UInt64).toNat : Nat) : Int) = max (max _ 0) 0
    rw [UInt64.toNat_zero]
    omega
  | some available =>
    have hdeficit := excess_toNat cleanup.policy.minFreeBytes available
    dsimp only
    show ((max _ (if cleanup.policy.minFreeBytes > available then _ else _ : UInt64).toNat : Nat) : Int) =
      max (max _ ((cleanup.policy.minFreeBytes.toNat : Int) - available.toNat)) 0
    rw [hdeficit]
    omega

omit [DecidableEq Digest] in
theorem bytesOverTarget_eq_zero {cleanup : Cleanup Digest} :
    cleanup.bytesOverTarget = 0 ↔
      overTarget cleanup.policy cleanup.total.toNat (cleanup.available.map UInt64.toNat) = 0 := by
  rw [← bytesOverTarget_eq, ← UInt64.toNat_inj, UInt64.toNat_zero]
  omega

/-! ## What a removal adds -/

omit [DecidableEq Digest] in
theorem reclaim_keeps (size : UInt64) (cleanup : Cleanup Digest) :
    (cleanup.reclaim size).policy = cleanup.policy ∧
      (cleanup.reclaim size).candidates = cleanup.candidates ∧
      (cleanup.reclaim size).total = cleanup.total ∧
      (cleanup.reclaim size).available = cleanup.available := by
  -- field by field: as whole records the two differ in a saturated sum
  obtain ⟨policy, stalePartials, candidates, total, available, result⟩ := cleanup
  exact ⟨rfl, rfl, rfl, rfl⟩

omit [DecidableEq Digest] in
theorem evicted_keeps (size : UInt64) (cleanup : Cleanup Digest) :
    (cleanup.evicted size).policy = cleanup.policy ∧
      (cleanup.evicted size).candidates = cleanup.candidates := by
  obtain ⟨policy, stalePartials, candidates, total, available, result⟩ := cleanup
  exact ⟨rfl, rfl⟩

omit [DecidableEq Digest] in
theorem evicted_counts (size : UInt64) (cleanup : Cleanup Digest) :
    (cleanup.evicted size).total = cleanup.total - size ∧
      (cleanup.evicted size).available =
        cleanup.available.map (fun available => saturatedAdd available size) ∧
      (cleanup.evicted size).result.bytesReclaimed =
        saturatedAdd cleanup.result.bytesReclaimed size := by
  obtain ⟨policy, stalePartials, candidates, total, available, result⟩ := cleanup
  exact ⟨rfl, rfl, rfl⟩

/-! ## The scan -/

/-- A cleanup that has not begun to evict. -/
structure Scanned (policy : CleanupPolicy) (cleanup : Cleanup Digest)
    (ledger : Ledger Digest) : Prop where
  policy : cleanup.policy = policy
  total : cleanup.total.toNat = min (sizes cleanup.candidates) kMaxBytes
  available : cleanup.available = none
  ledger : ledger = {}

/-- What holds up to the query of the free space. -/
def Scanning (policy : CleanupPolicy) (w : Watched Digest) : Prop :=
  match w.self.phase with
  | .scanning cleanup _ _ | .sweeping cleanup _ _ | .spacing cleanup =>
    Scanned policy cleanup w.ledger
  | .evicting _ _ _ | .cleaned _ | .over => True
  | _ => False

/-- Only the result has changed. -/
structure OnlyResult (cleanup next : Cleanup Digest) : Prop where
  policy : next.policy = cleanup.policy
  candidates : next.candidates = cleanup.candidates
  total : next.total = cleanup.total
  available : next.available = cleanup.available

omit [DecidableEq Digest] in
theorem OnlyResult.refl (cleanup : Cleanup Digest) : OnlyResult cleanup cleanup :=
  ⟨rfl, rfl, rfl, rfl⟩

omit [DecidableEq Digest] in
theorem noteUnless_onlyResult (ok : Bool) (cleanup : Cleanup Digest) :
    OnlyResult cleanup (cleanup.noteUnless ok) := by
  unfold Cleanup.noteUnless
  split
  · exact .refl cleanup
  · exact ⟨rfl, rfl, rfl, rfl⟩

omit [DecidableEq Digest] in
theorem reclaim_onlyResult (size : UInt64) (cleanup : Cleanup Digest) :
    OnlyResult cleanup (cleanup.reclaim size) := by
  obtain ⟨hpolicy, hcandidates, htotal, havailable⟩ := reclaim_keeps size cleanup
  exact ⟨hpolicy, hcandidates, htotal, havailable⟩

omit [DecidableEq Digest] in
theorem Scanned.of_result {policy : CleanupPolicy} {cleanup next : Cleanup Digest}
    {ledger : Ledger Digest} (h : Scanned policy cleanup ledger)
    (honly : OnlyResult cleanup next) : Scanned policy next ledger := by
  refine ⟨honly.policy.trans h.policy, ?_, honly.available.trans h.available, h.ledger⟩
  rw [honly.total, honly.candidates]
  exact h.total

/-- A partial that is looked at changes the result and no artifact. -/
theorem sweepStep_only (cleanup : Cleanup Digest) (os : Answer) (s : State Digest)
    (stale : StalePartial Digest) (rest : List (StalePartial Digest)) (point : SweepPoint) :
    ∃ next partials point' root,
      sweepStep cleanup os s stale rest point = (.sweeping next partials point', root) ∧
      OnlyResult cleanup next ∧ root.artifact = s.root.artifact := by
  obtain ⟨⟨phase, root⟩, hstep⟩ :
      ∃ result, sweepStep cleanup os s stale rest point = result := ⟨_, rfl⟩
  rw [hstep]
  cases sweepStep_moves hstep with
  | locks | goesOn | unlocks => exact ⟨_, _, _, _, rfl, .refl cleanup, rfl⟩
  | passes ok | leaves _ ok => exact ⟨_, _, _, _, rfl, noteUnless_onlyResult ok cleanup, rfl⟩
  | removes counted =>
    -- the partial goes, and the artifacts are no partials
    rcases counted with rfl | ⟨size, rfl⟩
    · exact ⟨_, _, _, _, rfl, .refl _, rfl⟩
    · exact ⟨_, _, _, _, rfl, reclaim_onlyResult size cleanup, rfl⟩

omit [DecidableEq Digest] in
/-- The size of an entry is counted with its candidate. -/
theorem Scanned.addCandidate {policy : CleanupPolicy} {cleanup : Cleanup Digest}
    {ledger : Ledger Digest} (h : Scanned policy cleanup ledger)
    (candidate : EvictionCandidate Digest) :
    Scanned policy
      { cleanup with
        candidates := cleanup.candidates ++ [candidate]
        total := saturatedAdd cleanup.total candidate.size } ledger := by
  refine ⟨h.policy, ?_, h.available, h.ledger⟩
  show (saturatedAdd cleanup.total candidate.size).toNat = min (sizes (_ ++ _)) kMaxBytes
  rw [saturatedAdd_toNat, h.total, sizes_append, sizes_singleton]
  omega

section Step

variable {validator : ArtifactValidator Digest} {policy : CleanupPolicy} {w w' : Watched Digest}

/-- A step of the cleanup is one of its operations, or the others'. -/
theorem watched_cases {move : Move Digest} (h : watchedStep validator move w = some w') :
    (∃ action phase root, move = .own action ∧
      partyStep validator { root := w.root, parties := w.others } w.self action =
        some (phase, root) ∧
      w' = { w with
        root
        self := { w.self with phase }
        ledger := w.ledger.after w.root w.self action }) ∨
    ∃ root others, move = .other root others ∧ w' = { w with root, others } := by
  cases move with
  | own action =>
    simp only [watchedStep] at h
    split at h
    next => exact nomatch h
    next phase root hstep => exact .inl ⟨action, phase, root, rfl, hstep, (Option.some.inj h).symm⟩
  | other root others => exact .inr ⟨root, others, rfl, (Option.some.inj h).symm⟩

omit [DecidableEq Digest] in
/-- Nothing is removed but by an eviction. -/
theorem removal_none {root : Root Digest} {party : Party Digest} {action : Action Digest}
    (h : ∀ cleanup victims, party.phase ≠ .evicting cleanup victims .removing) :
    removal root party action = none := by
  unfold removal
  split
  · split
    next hphase => exact absurd hphase (h _ _)
    next => rfl
  · rfl

omit [DecidableEq Digest] in
theorem removal_found {root : Root Digest} {cleanup : Cleanup Digest}
    {victim : EvictionCandidate Digest} {rest : List (EvictionCandidate Digest)} {os : Answer}
    {pid : Nat} {file : CacheFile} (hsucceeds : os.succeeds = true)
    (hfile : root.artifact victim.digest = some file) :
    removal root { pid, phase := .evicting cleanup (victim :: rest) .removing } (.advance os) =
      some victim := by
  unfold removal
  dsimp only
  rw [hsucceeds, hfile]
  rfl

omit [DecidableEq Digest] in
/-- Only `removing` takes an artifact away, where it is there and its removal succeeds. -/
theorem removal_left {root : Root Digest} {cleanup : Cleanup Digest}
    {victim : EvictionCandidate Digest} {rest : List (EvictionCandidate Digest)} {os : Answer}
    {point : EvictPoint} {pid : Nat}
    (hkept : point = .removing → ∀ file, os.succeeds = true →
      root.artifact victim.digest = some file → False) :
    removal root { pid, phase := .evicting cleanup (victim :: rest) point } (.advance os) =
      none := by
  by_cases hpoint : point = .removing
  · subst hpoint
    unfold removal
    dsimp only
    refine if_neg ?_
    intro hboth
    obtain ⟨hsucceeds, hsome⟩ := Bool.and_eq_true_iff.mp hboth
    obtain ⟨file, hfile⟩ := Option.isSome_iff_exists.mp hsome
    exact hkept rfl file hsucceeds hfile
  · exact removal_none fun _ _ hphase => hpoint (Phase.evicting.inj hphase).2.2

omit [DecidableEq Digest] in
theorem query_none {party : Party Digest} {action : Action Digest}
    (h : ∀ cleanup, party.phase ≠ .spacing cleanup) : query party action = none := by
  unfold query
  split
  · split
    next hphase => exact absurd hphase (h _)
    next => rfl
  · rfl

omit [DecidableEq Digest] in
theorem after_quiet {root : Root Digest} {party : Party Digest} {action : Action Digest}
    {ledger : Ledger Digest}
    (hremoving : ∀ cleanup victims, party.phase ≠ .evicting cleanup victims .removing)
    (hspacing : ∀ cleanup, party.phase ≠ .spacing cleanup) :
    ledger.after root party action = ledger := by
  unfold Ledger.after
  rw [removal_none hremoving, query_none hspacing, Option.toList_none, List.append_nil,
    Option.or_none]

/-- An eviction goes on or ends. -/
theorem evictStep_phase {cleanup : Cleanup Digest} {os : Answer} {s : State Digest}
    {victim : EvictionCandidate Digest} {rest : List (EvictionCandidate Digest)}
    {point : EvictPoint} {phase : Phase Digest} {root : Root Digest}
    (hstep : evictStep cleanup os s victim rest point = (phase, root)) :
    (∃ next victims point', phase = .evicting next victims point') ∨
      phase = .cleaned cleanup.finish := by
  cases evictStep_moves hstep with
  | ends => exact .inr rfl
  | locks | passes | finds | sizes | stamps | leaves | removes | untouches | unlocks =>
    exact .inl ⟨_, _, _, rfl⟩

/-- The steps of a cleanup, up to the query of the free space. -/
theorem scanning_own {action : Action Digest} {phase : Phase Digest} {root : Root Digest}
    (h : Scanning policy w)
    (hstep : partyStep validator { root := w.root, parties := w.others } w.self action =
      some (phase, root)) :
    Scanning policy
      { w with
        root
        self := { w.self with phase }
        ledger := w.ledger.after w.root w.self action } := by
  obtain ⟨root₀, others, ⟨pid, before⟩, ledger⟩ := w
  cases before with
  | lookup | leasing | leased | beginning | writing | aborting | committing | hit | unlocking =>
    exact h.elim
  | scanning cleanup now sized =>
    -- nothing is queried or removed before the eviction
    have hquiet : ledger.after root₀ { pid, phase := .scanning cleanup now sized } action =
        ledger :=
      after_quiet (fun _ _ hphase => nomatch hphase) fun _ hphase => nomatch hphase
    rw [hquiet]
    have hscanned : Scanned policy cleanup ledger := h
    cases action with
    | advance os =>
      cases sized with
      | none =>
        simp only [partyStep, advance] at hstep
        split at hstep
        · obtain ⟨rfl, rfl⟩ := Prod.mk.inj (Option.some.inj hstep)
          -- a scan that ends short is noted in the result and nowhere else
          exact hscanned.of_result ⟨rfl, rfl, rfl, rfl⟩
        · obtain ⟨rfl, rfl⟩ := Prod.mk.inj (Option.some.inj hstep)
          trivial
      | some sized =>
        obtain ⟨rfl, rfl⟩ := Prod.mk.inj (Option.some.inj hstep)
        -- the size that was read goes into the estimate with its candidate
        exact hscanned.addCandidate _
    | write | commit | abort | release => exact nomatch hstep
    | visitArtifact digest =>
      simp only [partyStep] at hstep
      split at hstep
      next hphase _ =>
        obtain ⟨rfl, rfl⟩ := Prod.mk.inj (Option.some.inj hstep)
        obtain ⟨rfl, rfl, -⟩ := Phase.scanning.inj hphase
        exact hscanned
      · exact nomatch hstep
    | visitPartial digest partialPid =>
      simp only [partyStep] at hstep
      split at hstep
      next hphase _ =>
        obtain ⟨rfl, rfl, -⟩ := Phase.scanning.inj hphase
        split at hstep
        · obtain ⟨rfl, rfl⟩ := Prod.mk.inj (Option.some.inj hstep)
          exact hscanned.of_result ⟨rfl, rfl, rfl, rfl⟩
        · obtain ⟨rfl, rfl⟩ := Prod.mk.inj (Option.some.inj hstep)
          exact hscanned
      · exact nomatch hstep
    | visitFails =>
      simp only [partyStep] at hstep
      split at hstep
      next hphase =>
        obtain ⟨rfl, rfl, -⟩ := Phase.scanning.inj hphase
        obtain ⟨rfl, rfl⟩ := Prod.mk.inj (Option.some.inj hstep)
        exact hscanned.of_result ⟨rfl, rfl, rfl, rfl⟩
      · exact nomatch hstep
    | die =>
      obtain ⟨rfl, rfl⟩ := Prod.mk.inj (Option.some.inj hstep)
      trivial
  | sweeping cleanup partials point =>
    have hquiet : ledger.after root₀ { pid, phase := .sweeping cleanup partials point } action =
        ledger :=
      after_quiet (fun _ _ hphase => nomatch hphase) fun _ hphase => nomatch hphase
    rw [hquiet]
    have hscanned : Scanned policy cleanup ledger := h
    cases action with
    | advance os =>
      cases partials with
      | nil =>
        obtain ⟨rfl, rfl⟩ := Prod.mk.inj (Option.some.inj hstep)
        exact hscanned
      | cons stale rest =>
        -- whatever the sweep does to the root, it changes the result alone
        obtain ⟨next, partials, point', root', hsweep, honly, -⟩ :=
          sweepStep_only cleanup os { root := root₀, parties := others } stale rest point
        obtain ⟨rfl, rfl⟩ := Prod.mk.inj (hsweep.symm.trans (Option.some.inj hstep))
        exact hscanned.of_result honly
    | write | commit | abort | release | visitArtifact | visitPartial | visitFails =>
      exact nomatch hstep
    | die =>
      obtain ⟨rfl, rfl⟩ := Prod.mk.inj (Option.some.inj hstep)
      trivial
  -- from the query on, `Course` says what there is to say
  | spacing cleanup =>
    cases action with
    | advance os =>
      simp only [partyStep, advance] at hstep
      split at hstep
      · obtain ⟨rfl, rfl⟩ := Prod.mk.inj (Option.some.inj hstep)
        trivial
      · split at hstep
        · obtain ⟨rfl, rfl⟩ := Prod.mk.inj (Option.some.inj hstep)
          trivial
        · obtain ⟨rfl, rfl⟩ := Prod.mk.inj (Option.some.inj hstep)
          trivial
    | write | commit | abort | release | visitArtifact | visitPartial | visitFails =>
      exact nomatch hstep
    | die =>
      obtain ⟨rfl, rfl⟩ := Prod.mk.inj (Option.some.inj hstep)
      trivial
  | evicting cleanup victims point =>
    cases action with
    | advance os =>
      cases victims with
      | nil =>
        obtain ⟨rfl, rfl⟩ := Prod.mk.inj (Option.some.inj hstep)
        trivial
      | cons victim rest =>
        obtain ⟨next, victims, point', rfl⟩ | rfl := evictStep_phase (Option.some.inj hstep)
        · trivial
        · trivial
    | write | commit | abort | release | visitArtifact | visitPartial | visitFails =>
      exact nomatch hstep
    | die =>
      obtain ⟨rfl, rfl⟩ := Prod.mk.inj (Option.some.inj hstep)
      trivial
  -- a cleanup that has ended
  | _ =>
    cases action with
    | advance | write | commit | abort | release | visitArtifact | visitPartial | visitFails =>
      exact nomatch hstep
    | die =>
      obtain ⟨rfl, rfl⟩ := Prod.mk.inj (Option.some.inj hstep)
      trivial

theorem scanning_step {move : Move Digest} (h : Scanning policy w)
    (hstep : watchedStep validator move w = some w') : Scanning policy w' := by
  rcases watched_cases hstep with ⟨action, phase, root, -, hparty, rfl⟩ | ⟨root, others, -, rfl⟩
  · exact scanning_own h hparty
  · exact h

end Step

/-! ## The eviction -/

/-- The victims that are still to be looked at. -/
def pending : EvictPoint → List (EvictionCandidate Digest) → List (EvictionCandidate Digest)
  | .untouching, victims | .unlocking, victims => victims.tail
  | _, victims => victims

/-- The victim is locked and has not been removed. -/
def EvictPoint.checks : EvictPoint → Bool
  | .finding | .sizing | .stamping | .removing => true
  | _ => false

omit [DecidableEq Digest] in
/-- A victim that is checked is still to be removed. -/
theorem pending_checks {point : EvictPoint} (h : point.checks = true)
    {victims : List (EvictionCandidate Digest)} : pending point victims = victims := by
  cases point with
  | locking | finding | sizing | stamping | removing => rfl
  | untouching | unlocking => exact nomatch h

/-- What the checks so far have found, if the artifact is there. -/
def Checked (root : Root Digest) (victim : EvictionCandidate Digest) : EvictPoint → Prop
  | .stamping =>
    ∀ file, root.artifact victim.digest = some file → file.size = victim.size
  | .removing =>
    ∀ file, root.artifact victim.digest = some file →
      file.size = victim.size ∧ root.readLruStamp victim.digest = some victim.stamp
  | _ => True

/-- The estimates and the result of an eviction that began with `before` and the queried free
space, after it has removed some artifacts. -/
structure Account (before : Cleanup Digest) (queried : Option UInt64) (now : Cleanup Digest)
    (removed : List (EvictionCandidate Digest)) : Prop where
  policy : now.policy = before.policy
  total : now.total.toNat + sizes removed = sizes before.candidates
  available : now.available.map UInt64.toNat =
    queried.map fun available => min (available.toNat + sizes removed) kMaxBytes
  reclaimed : now.result.bytesReclaimed.toNat =
    min (before.result.bytesReclaimed.toNat + sizes removed) kMaxBytes

structure Evicting (before : Cleanup Digest) (queried : Option UInt64) (cleanup : Cleanup Digest)
    (victims : List (EvictionCandidate Digest)) (point : EvictPoint) (root : Root Digest)
    (others : List (Party Digest)) (removed : List (EvictionCandidate Digest)) : Prop where
  account : Account before queried cleanup removed
  order : (removed ++ pending point victims).Sublist before.sortedCandidates
  above : point.checks = true → cleanup.bytesOverTarget ≠ 0
  locked : point ≠ .locking → ∀ victim ∈ victims.head?,
    canLock heldBy victim.digest .exclusive others = true
  checked : ∀ victim ∈ victims.head?, Checked root victim point

section Evicting

variable {before cleanup : Cleanup Digest} {queried : Option UInt64} {root : Root Digest}
  {others : List (Party Digest)} {removed : List (EvictionCandidate Digest)}
  {victim : EvictionCandidate Digest} {rest : List (EvictionCandidate Digest)}

omit [DecidableEq Digest] in
theorem noteUnless_reclaimed (ok : Bool) (cleanup : Cleanup Digest) :
    (cleanup.noteUnless ok).result.bytesReclaimed = cleanup.result.bytesReclaimed := by
  unfold Cleanup.noteUnless
  split
  · rfl
  · rfl

omit [DecidableEq Digest] in
theorem Account.noteUnless (h : Account before queried cleanup removed) (ok : Bool) :
    Account before queried (cleanup.noteUnless ok) removed := by
  have honly := noteUnless_onlyResult ok cleanup
  refine ⟨honly.policy.trans h.policy, ?_, ?_, ?_⟩
  · rw [honly.total]
    exact h.total
  · rw [honly.available]
    exact h.available
  · rw [noteUnless_reclaimed]
    exact h.reclaimed

omit [DecidableEq Digest] in
/-- A victim that is yet to be removed is counted in the estimate. -/
theorem Account.size_le (h : Account before queried cleanup removed)
    (horder : (removed ++ victim :: rest).Sublist before.sortedCandidates) :
    victim.size.toNat ≤ cleanup.total.toNat := by
  have hle := sizes_le horder
  have htotal := h.total
  rw [sizes_perm (sortedCandidates_perm before), sizes_append] at hle
  have hcons : sizes (victim :: rest) = victim.size.toNat + sizes rest := by
    show sizes ([victim] ++ rest) = _
    rw [sizes_append, sizes_singleton]
  omega

omit [DecidableEq Digest] in
theorem Account.evicted (h : Account before queried cleanup removed)
    (horder : (removed ++ victim :: rest).Sublist before.sortedCandidates) :
    Account before queried (cleanup.evicted victim.size) (removed ++ [victim]) := by
  -- so that the subtraction from the estimate does not wrap
  have hle := h.size_le horder
  obtain ⟨hpolicy, -⟩ := evicted_keeps victim.size cleanup
  obtain ⟨htotal, havailable, hreclaimed⟩ := evicted_counts victim.size cleanup
  have hsum : sizes (removed ++ [victim]) = sizes removed + victim.size.toNat := by
    rw [sizes_append, sizes_singleton]
  refine ⟨hpolicy.trans h.policy, ?_, ?_, ?_⟩
  · have hold := h.total
    rw [htotal, UInt64.toNat_sub_of_le _ _ (UInt64.le_iff_toNat_le.mpr hle), hsum]
    omega
  · have hold := h.available
    rw [havailable, hsum]
    cases hnow : cleanup.available with
    | none =>
      cases queried with
      | none => rfl
      | some queried =>
        rw [hnow] at hold
        exact nomatch hold
    | some available =>
      cases queried with
      | none =>
        rw [hnow] at hold
        exact nomatch hold
      | some queried =>
        rw [hnow] at hold
        have heq : available.toNat = min (queried.toNat + sizes removed) kMaxBytes :=
          Option.some.inj hold
        show some (saturatedAdd available victim.size).toNat =
          some (min (queried.toNat + (sizes removed + victim.size.toNat)) kMaxBytes)
        -- adding one after the other saturates where the sum does
        rw [saturatedAdd_toNat, heq]
        congr 1
        omega
  · rw [hreclaimed, saturatedAdd_toNat, h.reclaimed, hsum]
    omega

/-- A victim that is left where it is. -/
theorem Evicting.leaves {point : EvictPoint}
    (h : Evicting before queried cleanup (victim :: rest) point root others removed)
    (hpoint : point ≠ .locking) (ok : Bool) :
    Evicting before queried (cleanup.noteUnless ok) (victim :: rest) .unlocking root others
      removed := by
  refine ⟨h.account.noteUnless ok, ?_, (fun hchecks => nomatch hchecks), fun _ => h.locked hpoint,
    fun _ _ => trivial⟩
  have hsub : (pending .unlocking (victim :: rest)).Sublist (pending point (victim :: rest)) := by
    cases point with
    | untouching | unlocking => exact List.Sublist.refl _
    | locking | finding | sizing | stamping | removing => exact List.sublist_cons_self victim rest
  exact (hsub.append_left removed).trans h.order

/-- The next check of a victim that is locked. -/
theorem Evicting.advances {point next : EvictPoint}
    (h : Evicting before queried cleanup (victim :: rest) point root others removed)
    (hpoint : point.checks = true) (hnext : next.checks = true)
    (hchecked : Checked root victim next) :
    Evicting before queried cleanup (victim :: rest) next root others removed := by
  refine ⟨h.account, ?_, fun _ => h.above hpoint, fun _ => h.locked ?_, ?_⟩
  · have horder := h.order
    rw [pending_checks hpoint] at horder
    rw [pending_checks hnext]
    exact horder
  · rintro rfl
    exact nomatch hpoint
  · intro head hhead
    obtain rfl : victim = head := by simpa using hhead
    exact hchecked

/-- One operation of the eviction: it goes on, having removed what `removal` says, or it has
met its target. -/
theorem Evicting.step {point : EvictPoint}
    (h : Evicting before queried cleanup (victim :: rest) point root others removed) (pid : Nat)
    (os : Answer)
    {phase : Phase Digest} {root' : Root Digest}
    (hstep : evictStep cleanup os { root, parties := others } victim rest point = (phase, root')) :
    (∃ next victims point', phase = .evicting next victims point' ∧
      Evicting before queried next victims point' root' others (removed ++
        (removal root { pid, phase := .evicting cleanup (victim :: rest) point }
          (.advance os)).toList)) ∨
    phase = .cleaned cleanup.finish ∧ removal root
      { pid, phase := .evicting cleanup (victim :: rest) point } (.advance os) = none := by
  have hquiet (hpoint : point ≠ .removing) : removal root
      { pid, phase := .evicting cleanup (victim :: rest) point } (.advance os) = none :=
    removal_left fun hremoving => absurd hremoving hpoint
  cases evictStep_moves hstep with
  | ends =>
    -- nothing is over the budgets any more: the loop breaks
    exact .inr ⟨rfl, hquiet (by decide)⟩
  | locks above free =>
    rw [hquiet (by decide), Option.toList_none, List.append_nil]
    refine .inl ⟨_, _, _, rfl, h.account, h.order, fun _ => above, fun _ head hhead => ?_,
      fun _ _ => trivial⟩
    obtain rfl : victim = head := by simpa using hhead
    exact free
  | passes ok =>
    rw [hquiet (by decide), Option.toList_none, List.append_nil]
    -- somebody holds the victim: it is passed over, and what is left is a sublist
    have hskipped := h.order
    refine .inl ⟨_, _, _, rfl, h.account.noteUnless ok, ?_, (fun hchecks => nomatch hchecks),
      fun hne => absurd rfl hne, fun _ _ => trivial⟩
    exact ((List.sublist_cons_self victim rest).append_left removed).trans hskipped
  | finds =>
    rw [hquiet (by decide), Option.toList_none, List.append_nil]
    exact .inl ⟨_, _, _, rfl, h.advances rfl rfl trivial⟩
  | sizes file found same =>
    rw [hquiet (by decide), Option.toList_none, List.append_nil]
    refine .inl ⟨_, _, _, rfl, h.advances rfl rfl ?_⟩
    intro file' hfile
    obtain rfl : file = file' := Option.some.inj (found.symm.trans hfile)
    -- an artifact of another size would have been left
    exact same
  | stamps same =>
    rw [hquiet (by decide), Option.toList_none, List.append_nil]
    -- the size has been compared one step earlier
    have hsize : Checked root victim .stamping := h.checked victim rfl
    refine .inl ⟨_, _, _, rfl, h.advances rfl rfl ?_⟩
    intro file hfile
    exact ⟨hsize file hfile, same⟩
  | leaves held ok kept =>
    -- it could not be removed, or somebody has done so already
    rw [removal_left kept, Option.toList_none, List.append_nil]
    exact .inl ⟨_, _, _, rfl, h.leaves held ok⟩
  | removes succeeds file found =>
    -- the victim moves from what is pending to what is removed
    rw [removal_found succeeds found]
    refine .inl ⟨_, _, _, rfl, h.account.evicted h.order, ?_, (fun hchecks => nomatch hchecks),
      fun _ => h.locked (by decide), fun _ _ => trivial⟩
    show (removed ++ [victim] ++ rest).Sublist _
    rw [List.append_assoc]
    exact h.order
  | untouches =>
    rw [hquiet (by decide), Option.toList_none, List.append_nil]
    exact .inl ⟨_, _, _, rfl, h.account, h.order, (fun hchecks => nomatch hchecks),
      fun _ => h.locked (by decide), fun _ _ => trivial⟩
  | unlocks =>
    rw [hquiet (by decide), Option.toList_none, List.append_nil]
    exact .inl ⟨_, _, _, rfl, h.account, h.order, (fun hchecks => nomatch hchecks),
      fun hne => absurd rfl hne, fun _ _ => trivial⟩

/-- The others may do anything but touch the victim that is locked. -/
theorem Evicting.respected {point : EvictPoint} {victims : List (EvictionCandidate Digest)}
    {root' : Root Digest} {others' : List (Party Digest)}
    (h : Evicting before queried cleanup victims point root others removed)
    (hrespects : ∀ victim ∈ victims.head?, point ≠ .locking →
      canLock heldBy victim.digest .exclusive others' = true ∧
        ∀ file, root'.artifact victim.digest = some file →
          root.artifact victim.digest = some file ∧
            root'.readLruStamp victim.digest = root.readLruStamp victim.digest) :
    Evicting before queried cleanup victims point root' others' removed := by
  refine ⟨h.account, h.order, h.above, fun hpoint victim hhead => (hrespects victim hhead hpoint).1,
    ?_⟩
  intro victim hhead
  have hchecked := h.checked victim hhead
  -- only two points remember something about the file
  cases point with
  | locking | finding | sizing | untouching | unlocking => trivial
  | stamping =>
    intro file hfile
    exact hchecked file ((hrespects victim hhead (by decide)).2 file hfile).1
  | removing =>
    intro file hfile
    obtain ⟨hfile', hstamp⟩ := (hrespects victim hhead (by decide)).2 file hfile
    rw [hstamp]
    exact hchecked file hfile'

end Evicting

/-! ## The course of an eviction -/

/-- Where an eviction is that began with `before`. -/
inductive Course (before : Cleanup Digest) (root : Root Digest) (others : List (Party Digest))
    (ledger : Ledger Digest) : Phase Digest → Prop
  | spacing (unspent : ledger = {}) : Course before root others ledger (.spacing before)
  | evicting {cleanup : Cleanup Digest} {victims : List (EvictionCandidate Digest)}
      {point : EvictPoint} (queried : ledger.queried.isSome ↔ before.policy.minFreeBytes ≠ 0)
      (inside : Evicting before ledger.queried cleanup victims point root others ledger.removed) :
      Course before root others ledger (.evicting cleanup victims point)
  /-- The query of the free space has failed. -/
  | unspaced (budget : before.policy.minFreeBytes ≠ 0) (unspent : ledger = {}) :
      Course before root others ledger
        (.cleaned { before.result with targetMet := false, hadErrors := true })
  | finished {cleanup : Cleanup Digest}
      (queried : ledger.queried.isSome ↔ before.policy.minFreeBytes ≠ 0)
      (account : Account before ledger.queried cleanup ledger.removed)
      (order : ledger.removed.Sublist before.sortedCandidates) :
      Course before root others ledger (.cleaned cleanup.finish)
  | died (order : ledger.removed.Sublist before.sortedCandidates) :
      Course before root others ledger .over

section Course

variable {validator : ArtifactValidator Digest} {policy : CleanupPolicy} {before : Cleanup Digest}

theorem Course.order {root : Root Digest} {others : List (Party Digest)} {ledger : Ledger Digest}
    {phase : Phase Digest} (h : Course before root others ledger phase) :
    ledger.removed.Sublist before.sortedCandidates := by
  cases h with
  | spacing unspent | unspaced _ unspent =>
    rw [unspent]
    exact List.nil_sublist _
  | evicting _ inside => exact (List.sublist_append_left _ _).trans inside.order
  | finished _ _ order | died order => exact order

/-- The query of the free space, where there is a budget for it. -/
theorem spacing_advance (hscanned : Scanned policy before ({} : Ledger Digest))
    (hsizes : sizes before.candidates < 2 ^ 64) {root : Root Digest} {others : List (Party Digest)}
    {pid : Nat} {os : Answer} {phase : Phase Digest} {root' : Root Digest}
    (hstep : advance validator os { root, parties := others } { pid, phase := .spacing before } =
      some (phase, root')) :
    Course before root' others
      (Ledger.after root { pid, phase := .spacing before } (.advance os) {}) phase := by
  -- the estimate saturates, and the sizes are small enough that it has not
  have htotal : before.total.toNat = sizes before.candidates := by
    have h := hscanned.total
    unfold kMaxBytes at h
    omega
  have hunspent : Ledger.after root { pid, phase := .spacing before } (.advance os) {} =
      { queried := query { pid, phase := .spacing before } (.advance os) } := rfl
  -- both ways into the eviction begin it with nothing removed
  have hnothing (next : Cleanup Digest) (queried : Option UInt64)
      (hpolicy : next.policy = before.policy) (hsame : next.total = before.total)
      (havailable : next.available = queried) (hresult : next.result = before.result) :
      Evicting before queried next before.sortedCandidates .locking root others [] := by
    refine ⟨⟨hpolicy, ?_, ?_, ?_⟩, List.Sublist.refl _, (fun hchecks => nomatch hchecks),
      fun hne => absurd rfl hne, fun _ _ => trivial⟩
    · rw [hsame]
      exact htotal
    · rw [havailable]
      cases queried with
      | none => rfl
      | some queried =>
        have hfits : queried.toNat ≤ kMaxBytes := Nat.le_sub_one_of_lt queried.toNat_lt
        show some queried.toNat = some (min queried.toNat kMaxBytes)
        rw [Nat.min_eq_left hfits]
    · have hfits : before.result.bytesReclaimed.toNat ≤ kMaxBytes :=
        Nat.le_sub_one_of_lt before.result.bytesReclaimed.toNat_lt
      rw [hresult]
      show _ = min before.result.bytesReclaimed.toNat kMaxBytes
      rw [Nat.min_eq_left hfits]
  rw [hunspent]
  simp only [advance] at hstep
  split at hstep
  next hbudget =>
    obtain ⟨rfl, rfl⟩ := Prod.mk.inj (Option.some.inj hstep)
    -- no budget for the free space: it is not queried
    have hquery : query { pid, phase := .spacing before } (.advance os) = none :=
      if_neg fun hboth => hboth.1 hbudget
    rw [hquery]
    refine .evicting ?_ (hnothing before none rfl rfl hscanned.available rfl)
    simp [hbudget]
  next hbudget =>
    split at hstep
    next hsucceeds =>
      obtain ⟨rfl, rfl⟩ := Prod.mk.inj (Option.some.inj hstep)
      have hquery : query { pid, phase := .spacing before } (.advance os) = some os.available :=
        if_pos ⟨hbudget, hsucceeds⟩
      rw [hquery]
      refine .evicting ?_ (hnothing _ (some os.available) rfl rfl rfl rfl)
      simp [hbudget]
    next hfails =>
      obtain ⟨rfl, rfl⟩ := Prod.mk.inj (Option.some.inj hstep)
      -- the query was made and failed: nothing is evicted at all
      have hquery : query { pid, phase := .spacing before } (.advance os) = none :=
        if_neg fun hboth => hfails hboth.2
      rw [hquery]
      exact .unspaced hbudget rfl

theorem course_own (hscanned : Scanned policy before ({} : Ledger Digest))
    (hsizes : sizes before.candidates < 2 ^ 64) {root : Root Digest} {others : List (Party Digest)}
    {self : Party Digest} {ledger : Ledger Digest} {action : Action Digest} {phase : Phase Digest}
    {root' : Root Digest} (h : Course before root others ledger self.phase)
    (hstep : partyStep validator { root, parties := others } self action = some (phase, root')) :
    Course before root' others (ledger.after root self action) phase := by
  obtain ⟨pid, current⟩ := self
  cases action with
  | advance os =>
    cases h with
    | spacing unspent =>
      have hadvance : advance validator os { root, parties := others }
          { pid, phase := .spacing before } = some (phase, root') := hstep
      rw [unspent]
      exact spacing_advance hscanned hsizes hadvance
    | @evicting cleanup victims point queried inside =>
      -- the free space is queried once, before the loop
      have hquery : query { pid, phase := .evicting cleanup victims point } (.advance os) = none :=
        query_none fun _ hphase => nomatch hphase
      have hqueried : (ledger.after root { pid, phase := .evicting cleanup victims point }
          (.advance os)).queried = ledger.queried := by
        show ledger.queried.or _ = _
        rw [hquery, Option.or_none]
      cases victims with
      -- the victims are used up
      | nil =>
        obtain ⟨rfl, rfl⟩ := Prod.mk.inj (Option.some.inj hstep)
        have hremoved : (ledger.after root { pid, phase := .evicting cleanup [] point }
            (.advance os)).removed = ledger.removed := List.append_nil _
        refine .finished ?_ ?_ ?_
        · rw [hqueried]
          exact queried
        · rw [hqueried, hremoved]
          exact inside.account
        · rw [hremoved]
          exact (List.sublist_append_left _ _).trans inside.order
      | cons victim rest =>
        rcases inside.step pid os (Option.some.inj hstep) with
          ⟨next, victims, point', rfl, hnext⟩ | ⟨rfl, hnone⟩
        · refine .evicting ?_ ?_
          · rw [hqueried]
            exact queried
          · rw [hqueried]
            exact hnext
        · -- the target was met in the middle of the list
          have hremoved :
            (ledger.after root { pid, phase := .evicting cleanup (victim :: rest) point }
              (.advance os)).removed = ledger.removed := by
            show ledger.removed ++ (removal _ _ _).toList = _
            rw [hnone, Option.toList_none, List.append_nil]
          refine .finished ?_ ?_ ?_
          · rw [hqueried]
            exact queried
          · rw [hqueried, hremoved]
            exact inside.account
          · rw [hremoved]
            exact (List.sublist_append_left _ _).trans inside.order
    | unspaced | finished | died => exact nomatch hstep
  | write | commit | abort | release | visitArtifact | visitPartial | visitFails =>
    cases h <;> exact nomatch hstep
  | die =>
    obtain ⟨rfl, rfl⟩ := Prod.mk.inj (Option.some.inj hstep)
    have hremoved : (ledger.after root { pid, phase := current } .die).removed = ledger.removed :=
      List.append_nil _
    refine .died ?_
    rw [hremoved]
    exact h.order

/-- What the others do keeps the course, if they leave the locked victim alone. -/
theorem course_other {root root' : Root Digest} {others others' : List (Party Digest)}
    {self : Party Digest} {ledger : Ledger Digest}
    (h : Course before root others ledger self.phase)
    (hrespects : Respects (.other root' others') { root, others, self, ledger }) :
    Course before root' others' ledger self.phase := by
  obtain ⟨pid, current⟩ := self
  cases h with
  | spacing unspent => exact .spacing unspent
  | @evicting cleanup victims point queried inside =>
    refine .evicting queried (inside.respected ?_)
    intro victim hhead hpoint
    refine hrespects victim.digest ?_
    -- at every other point the first victim is locked
    cases victims with
    | nil => exact nomatch hhead
    | cons first rest =>
      obtain rfl : first = victim := by simpa using hhead
      cases point with
      | locking => exact absurd rfl hpoint
      | finding | sizing | stamping | removing | untouching | unlocking => rfl
  | unspaced budget unspent => exact .unspaced budget unspent
  | finished queried account order => exact .finished queried account order
  | died order => exact .died order

theorem course_step (hscanned : Scanned policy before ({} : Ledger Digest))
    (hsizes : sizes before.candidates < 2 ^ 64) {move : Move Digest} {w w' : Watched Digest}
    (h : Course before w.root w.others w.ledger w.self.phase) (hrespects : Respects move w)
    (hstep : watchedStep validator move w = some w') :
    Course before w'.root w'.others w'.ledger w'.self.phase := by
  rcases watched_cases hstep with ⟨action, phase, root, rfl, hparty, rfl⟩ | ⟨root, others, rfl, rfl⟩
  · exact course_own hscanned hsizes h hparty
  · exact course_other h hrespects

end Course

/-! ## The account of an eviction -/

/-- How much is over the budgets for the estimates, after what was removed. -/
def estimatedOver (before : Cleanup Digest) (ledger : Ledger Digest) : Int :=
  overTarget before.policy (sizes before.candidates - sizes ledger.removed)
    (ledger.queried.map fun available => min (available.toNat + sizes ledger.removed) kMaxBytes)

/-- What an artifact is that an eviction removes. -/
structure Removable (before : Cleanup Digest) (w : Watched Digest)
    (victim : EvictionCandidate Digest) : Prop where
  scanned : victim ∈ before.candidates
  locked : heldBy w.self = some (victim.digest, .exclusive)
  alone : canLock heldBy victim.digest .exclusive w.others = true
  size : (w.root.artifact victim.digest).map CacheFile.size = some victim.size
  stamp : w.root.readLruStamp victim.digest = some victim.stamp
  oldest : ∀ earlier ∈ w.ledger.removed, earlier.stamp ≤ victim.stamp
  needed : 0 < estimatedOver before w.ledger
  fits : sizes w.ledger.removed + victim.size.toNat ≤ sizes before.candidates

/-- What an eviction reports at its end. -/
structure Reported (before : Cleanup Digest) (ledger : Ledger Digest) (result : CleanupResult) :
    Prop where
  reclaimed : result.bytesReclaimed.toNat =
    min (before.result.bytesReclaimed.toNat + sizes ledger.removed) kMaxBytes
  held : (result.bytesHeldOverTarget.toNat : Int) = estimatedOver before ledger
  met : result.targetMet = true ↔ result.bytesHeldOverTarget = 0

section Account

variable {validator : ArtifactValidator Digest} {before cleanup : Cleanup Digest}

omit [DecidableEq Digest] in
theorem Account.over_eq {ledger : Ledger Digest}
    (h : Account before ledger.queried cleanup ledger.removed) :
    (cleanup.bytesOverTarget.toNat : Int) = estimatedOver before ledger := by
  have htotal := h.total
  have hrest : cleanup.total.toNat = sizes before.candidates - sizes ledger.removed := by omega
  rw [bytesOverTarget_eq, h.policy, h.available, hrest]
  rfl

omit [DecidableEq Digest] in
theorem Account.reported {ledger : Ledger Digest}
    (h : Account before ledger.queried cleanup ledger.removed) :
    Reported before ledger cleanup.finish := by
  refine ⟨h.reclaimed, h.over_eq, ?_⟩
  show decide (cleanup.bytesOverTarget = 0) = true ↔ cleanup.bytesOverTarget = 0
  exact decide_eq_true_iff

theorem Course.removable {w : Watched Digest} {os : Answer} {victim : EvictionCandidate Digest}
    (h : Course before w.root w.others w.ledger w.self.phase)
    (hremoval : removal w.root w.self (.advance os) = some victim) :
    Removable before w victim := by
  obtain ⟨root, others, ⟨pid, phase⟩, ledger⟩ := w
  cases h with
  | spacing | unspaced | finished | died => exact nomatch hremoval
  | @evicting cleanup victims point queried inside =>
    cases victims with
    | nil => exact nomatch hremoval
    | cons first rest =>
      cases point with
      -- every other point leaves the artifacts alone
      | locking | finding | sizing | stamping | untouching | unlocking => exact nomatch hremoval
      | removing =>
        simp only [removal] at hremoval
        split at hremoval
        next hpresent =>
          obtain rfl : first = victim := Option.some.inj hremoval
          obtain ⟨file, hfile⟩ := Option.isSome_iff_exists.mp (Bool.and_eq_true_iff.mp hpresent).2
          have hchecked : ∀ file, root.artifact first.digest = some file →
              file.size = first.size ∧ root.readLruStamp first.digest = some first.stamp :=
            inside.checked first rfl
          obtain ⟨hsize, hstamp⟩ := hchecked file hfile
          have horder : (ledger.removed ++ first :: rest).Sublist before.sortedCandidates :=
            inside.order
          have hover : cleanup.bytesOverTarget ≠ 0 := inside.above rfl
          refine ⟨?_, rfl, inside.locked (by decide) first rfl, ?_, hstamp, ?_, ?_, ?_⟩
          · -- a victim is one of the sorted candidates, hence one that was scanned
            have hmem : first ∈ before.sortedCandidates := horder.subset (by simp)
            exact (sortedCandidates_perm before).subset hmem
          · show (root.artifact first.digest).map CacheFile.size = _
            rw [hfile, ← hsize]
            rfl
          · -- what was removed stands before it in the sorted list
            intro earlier hearlier
            have hsorted := (sortedCandidates_sorted before).sublist horder
            exact (List.pairwise_append.mp hsorted).2.2 earlier hearlier first (by simp)
          · have heq : (cleanup.bytesOverTarget.toNat : Int) = estimatedOver before ledger :=
              inside.account.over_eq
            have hpos : cleanup.bytesOverTarget.toNat ≠ 0 := fun hzero =>
              hover (UInt64.toNat_inj.mp hzero)
            show 0 < estimatedOver before ledger
            omega
          · have hle := inside.account.size_le horder
            have htotal : cleanup.total.toNat + sizes ledger.removed = sizes before.candidates :=
              inside.account.total
            show sizes ledger.removed + first.size.toNat ≤ sizes before.candidates
            omega
        next => exact nomatch hremoval

/-- What one cleanup removes and reports, whatever the others do. -/
theorem eviction_accounts {policy : CleanupPolicy} {now pid : Nat} {root : Root Digest}
    {others : List (Party Digest)} {earlier later : List (Move Digest)} {start w : Watched Digest}
    (hrespects : Taken (watchedStep validator) Respects (earlier ++ later)
      (cleaning policy now pid root others))
    (hscan : run (watchedStep validator) earlier (cleaning policy now pid root others) = some start)
    (hphase : start.self.phase = .spacing before)
    (hsizes : sizes before.candidates < 2 ^ 64)
    (hevict : run (watchedStep validator) later start = some w) :
    before.policy = policy ∧
      (∀ os victim, removal w.root w.self (.advance os) = some victim →
        Removable before w victim) ∧
      w.ledger.removed.Pairwise (fun a b => a.stamp ≤ b.stamp) ∧
      (∀ cleanup victims point, w.self.phase = .evicting cleanup victims point →
        Account before w.ledger.queried cleanup w.ledger.removed) ∧
      ∀ result, w.self.phase = .cleaned result →
        if before.policy.minFreeBytes ≠ 0 ∧ w.ledger.queried = none then
          w.ledger.removed = [] ∧
            result = { before.result with targetMet := false, hadErrors := true }
        else Reported before w.ledger result := by
  obtain ⟨-, hlater⟩ := hrespects.append hscan
  -- the scan establishes `Scanned`, the eviction keeps `Course` from there
  have hopened : Scanning policy (cleaning policy now pid root others) :=
    show Scanned policy { policy } _ from ⟨rfl, rfl, rfl, rfl⟩
  have hscanning : Scanning policy start :=
    run_keeps (Scanning policy) (fun _ _ _ h hstep => scanning_step h hstep) hopened hscan
  have hscanned : Scanned policy before start.ledger := by
    unfold Scanning at hscanning
    rw [hphase] at hscanning
    exact hscanning
  have hfresh : Scanned policy before ({} : Ledger Digest) := by
    rw [← hscanned.ledger]
    exact hscanned
  have hbegin : Course before start.root start.others start.ledger start.self.phase := by
    rw [hphase]
    exact .spacing hscanned.ledger
  have hcourse : Course before w.root w.others w.ledger w.self.phase :=
    run_keeps_taken (fun w => Course before w.root w.others w.ledger w.self.phase)
      (fun _ _ _ h hrespects hstep => course_step hfresh hsizes h hrespects hstep) hlater hbegin
      hevict
  refine ⟨hscanned.policy, fun os victim hremoval => hcourse.removable hremoval,
    (sortedCandidates_sorted before).sublist hcourse.order, ?_, ?_⟩
  · intro cleanup victims point hevicting
    rw [hevicting] at hcourse
    cases hcourse with
    | evicting _ inside => exact inside.account
  · intro result hcleaned
    rw [hcleaned] at hcourse
    -- the ledger is an index of `Course`; as a variable it can be matched
    generalize hledger : w.ledger = ledger at hcourse
    cases hcourse with
    | unspaced budget unspent =>
      rw [unspent, if_pos ⟨budget, rfl⟩]
      exact ⟨rfl, rfl⟩
    | finished queried account order =>
      rw [if_neg ?_]
      · exact account.reported
      · -- a cleanup that finished has its answer whenever it had to ask
        rintro ⟨hbudget, hnone⟩
        rw [hnone] at queried
        exact nomatch queried.mpr hbudget

/-! Two artifacts are scanned, the older one vanishes and the other is removed. -/

def storedRoot : Root Nat where
  artifact digest :=
    if digest < 2 then some { content := List.replicate (digest + 1) 0, mtime := digest } else none
  changes _ := 0
  partials _ _ := none
  touch _ := none

def scansBoth : List (Action Nat) :=
  [.visitArtifact 0, .advance {}, .visitArtifact 1, .advance {}, .advance {}, .advance {}]

def evictsAll : List (Action Nat) := List.replicate 12 (.advance {})

def oldestVanishes : Move Nat := .other (storedRoot.setArtifact 0 none) []

theorem eviction_accounts_vanished :
    ∃ start before w result,
      run (watchedStep none) (scansBoth.map .own)
        (cleaning { maxTotalBytes := 0 } 0 1 storedRoot []) = some start ∧
      start.self.phase = .spacing before ∧
      run (watchedStep none) (oldestVanishes :: evictsAll.map .own) start = some w ∧
      w.self.phase = .cleaned result ∧ w.ledger.removed = [⟨1, 2, 1⟩] ∧
      Reported before w.ledger result := by
  refine ⟨_, _, _, _, rfl, rfl, rfl, rfl, rfl, ?_⟩
  -- nobody is respected while nothing is locked
  have hrespects : Taken (watchedStep none) Respects
      (scansBoth.map .own ++ oldestVanishes :: evictsAll.map .own)
      (cleaning { maxTotalBytes := 0 } 0 1 storedRoot []) := by
    refine taken_own.join fun start hstart => ?_
    obtain rfl := Option.some.inj hstart
    exact .cons (fun _ hheld => nomatch hheld) rfl taken_own
  exact (eviction_accounts hrespects rfl rfl (by decide) rfl).2.2.2.2 _ rfl

/-- An eviction that cannot query the free space misses its target by nothing. -/
theorem query_fails :
    ∃ start before w result,
      run (watchedStep none) (scansBoth.map .own)
        (cleaning { minFreeBytes := 1 } 0 1 storedRoot []) = some start ∧
      start.self.phase = .spacing before ∧ sizes before.candidates < 2 ^ 64 ∧
      run (watchedStep none) [.own (.advance { succeeds := false })] start = some w ∧
      w.self.phase = .cleaned result ∧ result.bytesHeldOverTarget = 0 ∧
      result.targetMet = false :=
  ⟨_, _, _, _, rfl, rfl, by decide, rfl, rfl, rfl, rfl⟩

end Account

end RequestCache

end PlotJugglerSdk
