import PlotJugglerSdk.Source.CacheSafety
import PlotJugglerSdk.Source.CleanupAccounting

/-!
# A cleanup among the parties of the cache

What a cleanup is assumed to see of the others is what the cache lets it see: every run
of the cache is, for each of its parties, a run of that party among others, who leave
alone what it holds exclusively.

* `party_stamps`   — a stamp is changed by a holder of its lock
* `seen_step`      — a step of the cache, as one party sees it
* `cleanup_in_run` — a run of the cache, as one party sees it
-/

namespace PlotJugglerSdk

namespace RequestCache

open Locks Runs

variable {Digest : Type} [DecidableEq Digest] {validator : ArtifactValidator Digest}

/-! ## Stamps -/

/-- Only the stamp of a digest that the party has locked may differ. -/
def StampsKept (party : Party Digest) (root root' : Root Digest) : Prop :=
  ∀ digest, (∃ mode, heldBy party = some (digest, mode)) ∨ root'.touch digest = root.touch digest

section Stamps

variable {s : State Digest} {party : Party Digest} {os : Answer} {phase : Phase Digest}
  {root : Root Digest}

omit [DecidableEq Digest] in
theorem StampsKept.of_eq {root' : Root Digest} (h : root'.touch = root.touch) :
    StampsKept party root root' := by
  intro digest
  exact .inr (congrFun h digest)

theorem StampsKept.of_update {digest : Digest} {mode : Mode} {stamp : Option Nat}
    {root' : Root Digest} (hheld : heldBy party = some (digest, mode))
    (h : root'.touch = Function.update root.touch digest stamp) :
    StampsKept party root root' := by
  intro other
  by_cases hsame : other = digest
  · rw [hsame]
    exact .inl ⟨mode, hheld⟩
  · rw [h]
    exact .inr (Function.update_of_ne hsame _ _)

theorem StampsKept.touchedBy {digest : Digest} {mode : Mode}
    (hheld : heldBy party = some (digest, mode)) (os : Answer) :
    StampsKept party root (RequestCache.touchedBy digest os root) := by
  unfold RequestCache.touchedBy
  split
  · exact .of_update hheld rfl
  · exact .of_eq rfl

theorem commit_stamps {digest : Digest} {point : CommitPoint} {pid : Nat}
    (hstep : commitStep validator digest pid os s point = (phase, root)) :
    StampsKept { pid, phase := .committing digest point } s.root root := by
  cases point with
  | touching =>
    obtain ⟨rfl, rfl⟩ := Prod.mk.inj hstep
    exact .touchedBy rfl os
  | publishing =>
    simp only [commitStep] at hstep
    split at hstep
    next root' _ hpublish =>
      obtain ⟨rfl, rfl⟩ := Prod.mk.inj hstep
      unfold Root.publish at hpublish
      split at hpublish
      next => cases hpublish
      next =>
        obtain rfl := Option.some.inj hpublish
        exact .of_eq rfl
    next =>
      obtain ⟨rfl, rfl⟩ := Prod.mk.inj hstep
      exact .of_eq rfl
  | syncing | downgrading | failing | failed =>
    obtain ⟨rfl, rfl⟩ := Prod.mk.inj hstep
    exact .of_eq rfl
  | validating | relocking | reacquiring | rechecking =>
    simp only [commitStep] at hstep
    split at hstep
    all_goals
      obtain ⟨rfl, rfl⟩ := Prod.mk.inj hstep
      exact .of_eq rfl

theorem lookup_stamps {digest : Digest} {point : LookupPoint} {pid : Nat}
    (hstep : lookupStep validator digest os s point = (phase, root)) :
    StampsKept { pid, phase := .lookup digest point } s.root root := by
  cases point with
  | touching =>
    obtain ⟨rfl, rfl⟩ := Prod.mk.inj hstep
    exact .touchedBy rfl os
  | finding | locking | validating =>
    simp only [lookupStep] at hstep
    split at hstep
    all_goals
      obtain ⟨rfl, rfl⟩ := Prod.mk.inj hstep
      exact .of_eq rfl

theorem sweep_stamps {cleanup : Cleanup Digest} {stale : StalePartial Digest}
    {rest : List (StalePartial Digest)} {point : SweepPoint}
    (hstep : sweepStep cleanup os s stale rest point = (phase, root)) :
    StampsKept party s.root root := by
  cases sweepStep_moves hstep with
  | locks | passes | goesOn | leaves | removes | unlocks => exact .of_eq rfl

theorem evict_stamps {cleanup : Cleanup Digest} {victim : EvictionCandidate Digest}
    {rest : List (EvictionCandidate Digest)} {point : EvictPoint} {pid : Nat}
    (hstep : evictStep cleanup os s victim rest point = (phase, root)) :
    StampsKept { pid, phase := .evicting cleanup (victim :: rest) point } s.root root := by
  cases evictStep_moves hstep with
  | untouches =>
    -- the one operation that changes a stamp, under the lock of its digest
    have hheld : heldBy { pid, phase := .evicting cleanup (victim :: rest) .untouching } =
        some (victim.digest, .exclusive) := rfl
    exact .of_update hheld rfl
  | ends | locks | passes | finds | sizes | stamps | leaves | removes | unlocks =>
    exact .of_eq rfl

theorem advance_stamps (hstep : advance validator os s party = some (phase, root)) :
    StampsKept party s.root root := by
  obtain ⟨pid, before⟩ := party
  cases before with
  | lookup digest point => exact lookup_stamps (Option.some.inj hstep)
  | committing digest point => exact commit_stamps (Option.some.inj hstep)
  -- the other operations write no stamp at all
  | leasing | beginning | aborting | unlocking =>
    obtain ⟨rfl, rfl⟩ := Prod.mk.inj (Option.some.inj hstep)
    exact .of_eq rfl
  | scanning cleanup now sized =>
    cases sized with
    | none =>
      simp only [advance] at hstep
      split at hstep
      all_goals
        obtain ⟨rfl, rfl⟩ := Prod.mk.inj (Option.some.inj hstep)
        exact .of_eq rfl
    | some sized =>
      obtain ⟨rfl, rfl⟩ := Prod.mk.inj (Option.some.inj hstep)
      exact .of_eq rfl
  | sweeping cleanup partials point =>
    cases partials with
    | nil =>
      obtain ⟨rfl, rfl⟩ := Prod.mk.inj (Option.some.inj hstep)
      exact .of_eq rfl
    | cons stale rest => exact sweep_stamps (Option.some.inj hstep)
  | spacing cleanup =>
    simp only [advance] at hstep
    split at hstep
    · obtain ⟨rfl, rfl⟩ := Prod.mk.inj (Option.some.inj hstep)
      exact .of_eq rfl
    · split at hstep
      all_goals
        obtain ⟨rfl, rfl⟩ := Prod.mk.inj (Option.some.inj hstep)
        exact .of_eq rfl
  | evicting cleanup victims point =>
    cases victims with
    | nil =>
      obtain ⟨rfl, rfl⟩ := Prod.mk.inj (Option.some.inj hstep)
      exact .of_eq rfl
    | cons victim rest => exact evict_stamps (Option.some.inj hstep)
  | _ => cases hstep

/-- A stamp is changed by a party that holds its digest. -/
theorem party_stamps {action : Action Digest}
    (hstep : partyStep validator s party action = some (phase, root)) :
    StampsKept party s.root root := by
  cases action with
  | advance os => exact advance_stamps hstep
  | die =>
    obtain ⟨rfl, rfl⟩ := Prod.mk.inj (Option.some.inj hstep)
    exact .of_eq rfl
  | write | commit | abort | visitArtifact | visitFails =>
    simp only [partyStep] at hstep
    split at hstep
    · obtain ⟨rfl, rfl⟩ := Prod.mk.inj (Option.some.inj hstep)
      exact .of_eq rfl
    · cases hstep
  | release =>
    simp only [partyStep] at hstep
    split at hstep
    · obtain ⟨rfl, rfl⟩ := Prod.mk.inj (Option.some.inj hstep)
      exact .of_eq rfl
    · obtain ⟨rfl, rfl⟩ := Prod.mk.inj (Option.some.inj hstep)
      exact .of_eq rfl
    · cases hstep
  | visitPartial =>
    simp only [partyStep] at hstep
    split at hstep
    · split at hstep
      all_goals
        obtain ⟨rfl, rfl⟩ := Prod.mk.inj (Option.some.inj hstep)
        exact .of_eq rfl
    · cases hstep

end Stamps

/-! ## Its own steps -/

section Own

variable {s : State Digest} {index : Nat} {self : Party Digest}

def withoutParty (index : Nat) (s : State Digest) : State Digest :=
  { s with parties := s.parties.eraseIdx index }

/-- A party that holds nothing is not in its own way. -/
theorem tryLock_others (hfound : s.parties[index]? = some self) (hnone : heldBy self = none)
    (digest : Digest) (mode : Mode) (os : Answer) :
    tryLock digest mode os s = tryLock digest mode os (withoutParty index s) := by
  unfold tryLock withoutParty
  rw [canLock_others hfound hnone]

/-- What a party does is the same when only the others are looked at. -/
theorem partyStep_others (hfound : s.parties[index]? = some self) (action : Action Digest) :
    partyStep validator s self action =
      partyStep validator (withoutParty index s) self action := by
  obtain ⟨pid, phase⟩ := self
  cases action with
  | advance os =>
    -- only the lock operations look at the other parties
    have hlock := fun hnone => tryLock_others hfound hnone
    cases phase with
    | lookup digest point =>
      cases point with
      | locking =>
        have htry := hlock rfl digest .shared os
        simp only [partyStep, advance, lookupStep, htry]
        rfl
      | finding | validating | touching => rfl
    | leasing digest =>
      have htry := hlock rfl digest .shared os
      simp only [partyStep, advance, htry]
      rfl
    | beginning digest =>
      have htry := hlock rfl digest .exclusive os
      simp only [partyStep, advance, htry]
      rfl
    | committing digest point =>
      cases point with
      | relocking | reacquiring =>
        have htry := hlock rfl digest .shared os
        simp only [partyStep, advance, commitStep, htry]
        rfl
      | validating | syncing | publishing | touching | downgrading | rechecking | failing |
        failed => rfl
    | scanning _ _ sized => cases sized <;> rfl
    | sweeping cleanup partials point =>
      cases partials with
      | nil => rfl
      | cons stale rest =>
        cases point with
        | locking =>
          have htry := hlock rfl stale.digest .exclusive os
          simp only [partyStep, advance, sweepStep, htry]
          rfl
        | finding | aging | sizing | removing | unlocking => rfl
    | evicting cleanup victims point =>
      cases victims with
      | nil => rfl
      | cons victim rest =>
        cases point with
        | locking =>
          have htry := hlock rfl victim.digest .exclusive os
          simp only [partyStep, advance, evictStep, htry]
          rfl
        | finding | sizing | stamping | removing | untouching | unlocking => rfl
    | _ => rfl
  | write | commit | abort | release | visitArtifact | visitPartial | visitFails | die => rfl

end Own

/-! ## Runs of the cache -/

section Seen

variable {s s' : State Digest} {index : Nat} {self : Party Digest}

/-- The cache as the party at `index` sees it. -/
def seenBy (index : Nat) (self : Party Digest) (ledger : Ledger Digest) (s : State Digest) :
    Watched Digest :=
  { root := s.root, others := s.parties.eraseIdx index, self, ledger }

/-- The others leave alone what the party holds. -/
theorem seen_respects (h : Guarded validator s) (hfound : s.parties[index]? = some self)
    {event : Event Digest} (hstep : step validator event s = some s')
    (hother : ∀ action, event ≠ .act index action) (ledger : Ledger Digest) :
    s'.parties[index]? = some self ∧
      Respects (.other s'.root (s'.parties.eraseIdx index)) (seenBy index self ledger s) := by
  -- the locks exclude each other after the step too
  have hnext := h.step hstep
  have hlt := (List.getElem?_eq_some_iff.mp hfound).1
  rcases step_cases hstep with ⟨pid, request, -, rfl⟩ |
    ⟨acting, action, party, phase, root, rfl, hacting, hparty, rfl⟩
  · -- a call adds a party that holds nothing and touches nothing
    have hself : (s.parties ++ [{ pid, phase := request.phase }])[index]? = some self := by
      rw [List.getElem?_append_left hlt]
      exact hfound
    refine ⟨hself, fun digest hheld => ⟨hnext.locks.canLock_others hself hheld, ?_⟩⟩
    intro file hfile
    exact ⟨hfile, rfl⟩
  · have hne : acting ≠ index := by
      rintro rfl
      exact hother action rfl
    have hself : (s.parties.set acting { party with phase })[index]? = some self := by
      rw [List.getElem?_set_ne hne]
      exact hfound
    refine ⟨hself, fun digest hheld => ⟨hnext.locks.canLock_others hself hheld, ?_⟩⟩
    have hchange : Change validator s party False phase root :=
      partyStep_change False (fun _ _ hfalse => hfalse.elim) hparty
    -- an exclusive lock on the digest would be in the way of both changes
    have hartifact := (artifact_kept h.locks hacting hchange hfound hne hheld).1
    have htouch : root.touch digest = s.root.touch digest := by
      rcases party_stamps hparty digest with ⟨mode, hlocked⟩ | hkept
      · exact absurd (h.locks.alone hfound hacting hheld hlocked).symm hne
      · exact hkept
    intro file hfile
    refine ⟨hartifact.symm.trans hfile, ?_⟩
    show (root.touch digest).or ((root.artifact digest).map _) = _
    rw [hartifact, htouch]
    rfl

/-- A step of the cache is a step of the party, or one of the others. -/
theorem seen_step (h : Guarded validator s) (hfound : s.parties[index]? = some self)
    {event : Event Digest} (hstep : step validator event s = some s') (ledger : Ledger Digest) :
    ∃ move self' ledger', s'.parties[index]? = some self' ∧
      Respects move (seenBy index self ledger s) ∧
      watchedStep validator move (seenBy index self ledger s) =
        some (seenBy index self' ledger' s') := by
  -- its own step is looked at among the others, any other step is theirs
  by_cases hown : ∃ action, event = .act index action
  · obtain ⟨action, rfl⟩ := hown
    rcases step_cases hstep with ⟨pid, request, hcall, -⟩ |
      ⟨acting, action', party, phase, root, hact, hacting, hparty, rfl⟩
    · exact nomatch hcall
    · obtain ⟨rfl, rfl⟩ := Event.act.inj hact
      obtain rfl : self = party := Option.some.inj (hfound.symm.trans hacting)
      have hlt := (List.getElem?_eq_some_iff.mp hfound).1
      rw [partyStep_others hfound] at hparty
      refine ⟨.own action, { self with phase }, ledger.after s.root self action,
        List.getElem?_set_self hlt, trivial, ?_⟩
      simp only [watchedStep, seenBy]
      replace hparty : partyStep validator
          { root := s.root, parties := s.parties.eraseIdx index } self action =
          some (phase, root) := hparty
      rw [hparty, List.eraseIdx_set_eq]
  · have hother : ∀ action, event ≠ .act index action := fun action hact => hown ⟨action, hact⟩
    obtain ⟨hself, hrespects⟩ := seen_respects h hfound hstep hother ledger
    exact ⟨_, self, ledger, hself, hrespects, rfl⟩

/-- A run of the cache is a run of each of its parties among the others. -/
theorem cleanup_in_run {events : List (Event Digest)} (h : Guarded validator s)
    (hfound : s.parties[index]? = some self) (hrun : run (step validator) events s = some s')
    (ledger : Ledger Digest) :
    ∃ moves self' ledger', s'.parties[index]? = some self' ∧
      Taken (watchedStep validator) Respects moves (seenBy index self ledger s) ∧
      run (watchedStep validator) moves (seenBy index self ledger s) =
        some (seenBy index self' ledger' s') := by
  -- the ledger grows with its own steps, so it is generalized
  induction events generalizing s self ledger with
  | nil =>
    obtain rfl := Option.some.inj hrun
    exact ⟨[], self, ledger, hfound, trivial, rfl⟩
  | cons event events ih =>
    obtain ⟨t, hstep, hrest⟩ := run_cons hrun
    obtain ⟨move, next, ledger', hnext, hrespects, hmove⟩ := seen_step h hfound hstep ledger
    obtain ⟨moves, self', ledger'', hself, htaken, hmoves⟩ := ih (h.step hstep) hnext hrest ledger'
    refine ⟨move :: moves, self', ledger'', hself, .cons hrespects hmove htaken, ?_⟩
    show (watchedStep validator move _).bind _ = _
    rw [hmove]
    exact hmoves

end Seen

end RequestCache

end PlotJugglerSdk
