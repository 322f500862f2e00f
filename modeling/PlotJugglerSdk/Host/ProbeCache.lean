import PlotJugglerSdk.Host.RouteResolver

/-!
# The probe cache is transparent

The resolver remembers what a probe answered under everything it takes the answer
to depend on (`CacheKey`, in the cache of its route). When the answers are in fact
a function of that, a resolve with a cache that any history has filled returns what
it would with an empty one.

* `resolveLoop_verdict` — the loop agrees with the loop that asks every provider
* `cache_transparent`   — the same, for every history
-/

namespace PlotJugglerSdk

open Wire Json

namespace ParserRouteResolver

variable {ι : Type}

/-! ## Histories -/

inductive ResolverCall (ι : Type) where
  | resolve (request : ParserRouteRequest) (catalog : ParserClaimCatalog)
      (pins : ParserRoutePins) (providerConfig : Option ParserProviderConfigLookup)
      (probe : Option (ParserProbeCallback ι))
  | invalidateCatalog
  | invalidatePins
  | invalidateProviderConfig (providerId : Bytes)

def ResolverCall.step (resolver : ParserRouteResolver ι) :
    ResolverCall ι → ParserRouteResolver ι
  | .resolve request catalog pins providerConfig probe =>
    (resolver.resolve request catalog pins providerConfig probe).2.2
  | .invalidateCatalog => resolver.invalidateCatalog
  | .invalidatePins => resolver.invalidatePins
  | .invalidateProviderConfig providerId => resolver.invalidateProviderConfig providerId

def run (history : List (ResolverCall ι)) : ParserRouteResolver ι :=
  history.foldl ResolverCall.step {}

/-! ## Probing by the key -/

variable (answer : ParserRoute → CacheKey → ParserProbeOutcome)

/-- Every probe the search may make is answered by the key of its decision. -/
def Search.Keyed (search : Search ι) : Prop :=
  ∀ candidate ∈ search.candidates, ∀ config, search.config candidate = .ok config →
    (probeDecision search.probe (Search.probeRequest candidate config)).outcome =
      answer search.request.route (search.key candidate config)

/-- Every probe a call may make is. -/
def ResolverCall.Keyed : ResolverCall ι → Prop
  | .resolve request catalog pins providerConfig (some probe) =>
    ∀ normalizedType candidates,
      normalizeParserTypeName request.encoding request.typeName = .ok normalizedType →
      orderedCandidates request catalog pins = .ok candidates →
        Search.Keyed answer
          { request, normalizedType, pin := pins.forRoute request.route, candidates,
            providerConfig, probe }
  | _ => True

/-- The cache holds answers of that function. -/
def CacheOk (resolver : ParserRouteResolver ι) : Prop :=
  ∀ route, ∀ entry ∈ resolver.probeCache route,
    entry.decision.outcome = answer route entry.key

variable {answer}

theorem CacheOk.empty : CacheOk answer ({} : ParserRouteResolver ι) := by
  intro route entry hmem
  cases route <;> exact absurd hmem (by simp [probeCache])

theorem CacheOk.remember {resolver : ParserRouteResolver ι} (h : CacheOk answer resolver)
    {route : ParserRoute} {entry : CacheEntry ι}
    (hentry : entry.decision.outcome = answer route entry.key) :
    CacheOk answer (resolver.remember route entry) := by
  intro route' entry' hmem
  have hold := h route' entry'
  cases route <;> cases route' <;> dsimp only [ParserRouteResolver.remember,
    probeCache] at hmem hold
  · rcases List.mem_append.mp hmem with hmem | hmem
    · exact hold hmem
    · obtain rfl : entry' = entry := by simpa using hmem
      exact hentry
  · exact hold hmem
  · exact hold hmem
  · rcases List.mem_append.mp hmem with hmem | hmem
    · exact hold hmem
    · obtain rfl : entry' = entry := by simpa using hmem
      exact hentry

theorem CacheOk.invalidateProviderConfig {resolver : ParserRouteResolver ι}
    (h : CacheOk answer resolver) (providerId : Bytes) :
    CacheOk answer (resolver.invalidateProviderConfig providerId) := by
  intro route entry hmem
  refine h route entry ?_
  cases route <;> exact List.mem_of_mem_filter hmem

/-! ## Without a cache -/

/-- What a caller gets to know of a resolution. -/
structure Verdict where
  status : ParserRouteResolutionStatus
  winner : Option ParserClaimIdentity
  winningClaim : Option ParserClaim
  orderedCandidates : List ParserClaimIdentity

def verdict (resolution : ParserRouteResolution ι) : Verdict where
  status := resolution.status
  winner := resolution.winner
  winningClaim := resolution.winningClaim
  orderedCandidates := resolution.orderedCandidates

namespace Search

variable (search : Search ι)

/-- The provider of a candidate is configured and accepts. -/
def accepts (candidate : ParserRouteCandidate) : Bool :=
  match search.config candidate with
  | .error _ => false
  | .ok config => (probeDecision search.probe (probeRequest candidate config)).outcome = .accept

/-- The verdict on a winner, or on none. -/
def verdictOn (winner : Option ParserRouteCandidate) : Verdict where
  status := if winner.isSome then .selected else search.exhaustedStatus
  winner := winner.map (identityOf ·.claim)
  winningClaim := winner.map (·.claim)
  orderedCandidates := search.candidates.map (identityOf ·.claim)

/-- Ask every provider, up to the first that accepts. -/
def firstAccepting : List ParserRouteCandidate → Except Bytes (Option ParserRouteCandidate)
  | [] => .ok none
  | candidate :: candidates =>
    match search.config candidate with
    | .error what =>
      .error (text "provider config lookup failed for provider " ++ candidate.claim.providerId ++
        match what with
        | some what => text ": " ++ what
        | none => [])
    | .ok _ => if search.accepts candidate then .ok (some candidate) else firstAccepting candidates

theorem firstAccepting_cons {candidate : ParserRouteCandidate} {config : ParserProviderConfig}
    (hconfig : search.config candidate = .ok config) (candidates : List ParserRouteCandidate) :
    search.firstAccepting (candidate :: candidates) =
      if (probeDecision search.probe (probeRequest candidate config)).outcome = .accept then
        .ok (some candidate)
      else search.firstAccepting candidates := by
  have haccepts : search.accepts candidate =
      decide ((probeDecision search.probe (probeRequest candidate config)).outcome = .accept) := by
    unfold accepts
    rw [hconfig]
  rw [firstAccepting, hconfig]
  dsimp only
  rw [haccepts]
  simp only [decide_eq_true_eq]

theorem firstAccepting_ok {candidates : List ParserRouteCandidate}
    {winner : Option ParserRouteCandidate} (h : search.firstAccepting candidates = .ok winner) :
    winner = candidates.find? search.accepts := by
  induction candidates with
  | nil => exact (Except.ok.inj h).symm
  | cons candidate candidates ih =>
    unfold firstAccepting at h
    split at h
    · exact absurd h (by simp)
    · split at h
      next haccepts =>
        rw [List.find?_cons_of_pos haccepts]
        exact (Except.ok.inj h).symm
      next hnot =>
        rw [List.find?_cons_of_neg hnot]
        exact ih h

/-- A probe is never answered by a value outside the enumeration. -/
theorem probeDecision_valid (probe : ParserProbeCallback ι) (request : ParserProbeRequest)
    (value : UInt8) : (probeDecision probe request).outcome ≠ .invalid value := by
  unfold probeDecision
  split
  · simp
  · simp
  · split
    next h => rw [h]; simp
    next h => dsimp only; rw [h]; simp
    next h => dsimp only; rw [h]; simp
    next h => simp

variable {search}

/-- A decision is the answer under its key, and leaves the cache in order. -/
theorem decision_answer {candidate : ParserRouteCandidate} {config : ParserProviderConfig}
    {progress : Progress ι} (hcache : CacheOk answer progress.resolver)
    (hkeyed : (probeDecision search.probe (probeRequest candidate config)).outcome =
      answer search.request.route (search.key candidate config)) :
    (search.decision candidate config progress).1.outcome =
        answer search.request.route (search.key candidate config) ∧
      CacheOk answer (search.decision candidate config progress).2.2.resolver := by
  unfold decision
  dsimp only
  split
  next entry hfind =>
    have hkey : entry.key = search.key candidate config := by
      simpa using List.find?_some hfind
    refine ⟨?_, hcache⟩
    rw [← hkey]
    exact hcache _ entry (List.mem_of_find?_eq_some hfind)
  next hfind => exact ⟨hkeyed, hcache.remember hkeyed⟩

theorem exhausted_verdict (progress : Progress ι) :
    verdict (search.exhausted progress).1 = search.verdictOn none ∧
      (search.exhausted progress).2.resolver = progress.resolver := by
  have hrefused := search.exhausted_refused progress
  refine ⟨?_, ?_⟩
  · unfold verdict verdictOn
    rw [hrefused.status, hrefused.winner, hrefused.winningClaim, hrefused.orderedCandidates]
    rfl
  · unfold exhausted
    split <;> simp

theorem CacheOk.of_probeCache {resolver next : ParserRouteResolver ι}
    (h : CacheOk answer resolver)
    (hsame : ∀ route, next.probeCache route = resolver.probeCache route) :
    CacheOk answer next := by
  intro route entry hmem
  rw [hsame] at hmem
  exact h route entry hmem

theorem select_probeCache (winner : ParserRouteCandidate) (decision : ParserProbeDecision ι)
    (progress : Progress ι) (route : ParserRoute) :
    (search.select winner decision progress).2.resolver.probeCache route =
      progress.resolver.probeCache route := by
  unfold select
  dsimp only
  rw [Progress.add_resolver, breakTie_probeCache, Progress.reportDeclines_resolver,
    Progress.add_resolver]

/-- The loop with a cache of the answers is the loop without one. -/
theorem resolveLoop_verdict (candidates : List ParserRouteCandidate)
    (hkeyed : ∀ candidate ∈ candidates, ∀ config, search.config candidate = .ok config →
      (probeDecision search.probe (probeRequest candidate config)).outcome =
        answer search.request.route (search.key candidate config))
    {progress : Progress ι} (hcache : CacheOk answer progress.resolver) :
    (search.resolveLoop candidates progress).1.map verdict =
        (search.firstAccepting candidates).map search.verdictOn ∧
      CacheOk answer (search.resolveLoop candidates progress).2.resolver := by
  induction candidates generalizing progress with
  | nil =>
    obtain ⟨hverdict, hresolver⟩ := search.exhausted_verdict progress
    refine ⟨congrArg Except.ok hverdict, ?_⟩
    show CacheOk answer (search.exhausted progress).2.resolver
    rw [hresolver]
    exact hcache
  | cons candidate candidates ih =>
    have hrest := fun c hc => hkeyed c (List.mem_cons_of_mem candidate hc)
    have hlooked : CacheOk answer (search.lookedUp candidate progress).resolver := by
      rw [lookedUp_resolver]
      exact hcache
    cases hconfig : search.config candidate with
    | error what =>
      unfold resolveLoop firstAccepting
      rw [hconfig]
      exact ⟨rfl, hlooked⟩
    | ok config =>
      have hprobe := hkeyed candidate (by simp) config hconfig
      have hvalid := probeDecision_valid search.probe (probeRequest candidate config)
      obtain ⟨houtcome, hnext⟩ := decision_answer hlooked hprobe
      rw [← hprobe] at houtcome
      rw [firstAccepting_cons search hconfig]
      unfold resolveLoop
      rw [hconfig]
      dsimp only
      -- cached or probed, the outcome is the answer of the key
      generalize (probeDecision search.probe (probeRequest candidate config)).outcome = outcome
        at houtcome hvalid ⊢
      generalize search.decision candidate config (search.lookedUp candidate progress) = answered
        at houtcome hnext ⊢
      obtain ⟨decision, cacheHit, progress'⟩ := answered
      dsimp only at houtcome hnext ⊢
      subst houtcome
      cases hdecision : decision.outcome with
      -- the first candidate that accepts is the winner
      | accept =>
        refine ⟨rfl, CacheOk.of_probeCache hnext ?_⟩
        exact search.select_probeCache candidate decision progress'
      | invalid value => exact absurd hdecision (hvalid value)
      | decline =>
        have hnot : ParserProbeOutcome.decline ≠ .accept := by simp
        rw [if_neg hnot]
        apply ih hrest
        split
        · exact hnext
        · exact hnext
      | error =>
        have hnot : ParserProbeOutcome.error ≠ .accept := by simp
        rw [if_neg hnot]
        apply ih hrest
        split
        · exact hnext
        · exact hnext

end Search

/-- What a resolve returns when every provider is asked. -/
def expected (request : ParserRouteRequest) (catalog : ParserClaimCatalog)
    (pins : ParserRoutePins) (providerConfig : Option ParserProviderConfigLookup)
    (probe : Option (ParserProbeCallback ι)) : Except Bytes Verdict :=
  match probe with
  | none => .error (text "parser probe callback is empty")
  | some probe =>
    match normalizeParserTypeName request.encoding request.typeName with
    | .error e => .error e
    | .ok normalizedType =>
      match orderedCandidates request catalog pins with
      | .error e => .error e
      | .ok candidates =>
        let search : Search ι :=
          { request, normalizedType, pin := pins.forRoute request.route, candidates,
            providerConfig, probe }
        if candidates = [] then
          .ok { search.verdictOn none with
            status := if search.pin.isSome then .pinnedProviderUnavailable else .noCandidates }
        else (search.firstAccepting candidates).map search.verdictOn

/-- The winner is the first candidate in policy order that accepts. -/
theorem expected_ok {request : ParserRouteRequest} {catalog : ParserClaimCatalog}
    {pins : ParserRoutePins} {providerConfig : Option ParserProviderConfigLookup}
    {probe : Option (ParserProbeCallback ι)} {v : Verdict}
    (h : expected request catalog pins providerConfig probe = .ok v) :
    ∃ search : Search ι, search.request = request ∧ some search.probe = probe ∧
      search.providerConfig = providerConfig ∧
      orderedCandidates request catalog pins = .ok search.candidates ∧
      v.winner = (search.candidates.find? search.accepts).map (identityOf ·.claim) ∧
      v.winningClaim = (search.candidates.find? search.accepts).map (·.claim) ∧
      (v.status = .selected ↔ v.winner.isSome) := by
  unfold expected at h
  split at h
  · exact absurd h (by simp)
  next probe =>
  split at h
  · exact absurd h (by simp)
  next normalizedType _ =>
  split at h
  · exact absurd h (by simp)
  next candidates hordered =>
  -- the search that `resolve` itself starts
  let search : Search ι :=
    { request, normalizedType, pin := pins.forRoute request.route, candidates, providerConfig,
      probe }
  refine ⟨search, rfl, rfl, rfl, hordered, ?_⟩
  split at h
  next hnil =>
    obtain rfl := Except.ok.inj h
    have hfind : search.candidates.find? search.accepts = none := by
      show candidates.find? _ = none
      rw [hnil]
      rfl
    rw [hfind]
    refine ⟨rfl, rfl, ?_⟩
    show (if search.pin.isSome then _ else _) = _ ↔ (none : Option ParserClaimIdentity).isSome
    split <;> simp
  next hne =>
    replace h : (search.firstAccepting candidates).map search.verdictOn = .ok v := h
    cases hfirst : search.firstAccepting candidates with
    | error e =>
      rw [hfirst] at h
      exact absurd h (by simp [Except.map])
    | ok winner =>
      rw [hfirst] at h
      obtain rfl := Except.ok.inj h
      rw [← search.firstAccepting_ok hfirst]
      refine ⟨rfl, rfl, ?_⟩
      cases winner with
      | none =>
        show search.exhaustedStatus = .selected ↔ _
        unfold Search.exhaustedStatus
        split <;> simp [Search.verdictOn]
      | some winner => exact ⟨fun _ => rfl, fun _ => rfl⟩

/-! ## Every history -/

section Histories

variable {answer : ParserRoute → CacheKey → ParserProbeOutcome}

theorem noCandidates_verdict (search : Search ι) (progress : Progress ι) :
    verdict (noCandidates search progress).1 =
        { search.verdictOn none with
          status := if search.pin.isSome then .pinnedProviderUnavailable else .noCandidates } ∧
      (noCandidates search progress).2.resolver = progress.resolver := by
  unfold noCandidates
  cases search.pin with
  | some pin => exact ⟨rfl, rfl⟩
  | none => exact ⟨rfl, rfl⟩

/-- A resolve with a cache of the answers returns the expected verdict. -/
theorem resolve_expected {request : ParserRouteRequest} {catalog : ParserClaimCatalog}
    {pins : ParserRoutePins} {providerConfig : Option ParserProviderConfigLookup}
    {probe : Option (ParserProbeCallback ι)}
    (hkeyed : ResolverCall.Keyed answer (.resolve request catalog pins providerConfig probe))
    {resolver : ParserRouteResolver ι} (hcache : CacheOk answer resolver) :
    (resolver.resolve request catalog pins providerConfig probe).1.map verdict =
        expected request catalog pins providerConfig probe ∧
      CacheOk answer (resolver.resolve request catalog pins providerConfig probe).2.2 := by
  unfold resolve expected
  cases probe with
  | none => exact ⟨rfl, hcache⟩
  | some probe =>
    dsimp only
    cases htype : normalizeParserTypeName request.encoding request.typeName with
    | error e => exact ⟨rfl, hcache⟩
    | ok normalizedType =>
      dsimp only
      cases hordered : orderedCandidates request catalog pins with
      | error e => exact ⟨rfl, hcache⟩
      | ok candidates =>
        dsimp only
        -- the answers of the probes are those of their keys
        have hsearch := hkeyed normalizedType candidates htype hordered
        by_cases hnil : candidates = []
        · rw [if_pos hnil, if_pos hnil]
          obtain ⟨hverdict, hresolver⟩ := noCandidates_verdict
            { request, normalizedType, pin := pins.forRoute request.route, candidates,
              providerConfig, probe }
            { resolver, trace := candidates.map candidateTrace }
          refine ⟨congrArg Except.ok hverdict, ?_⟩
          dsimp only
          rw [hresolver]
          exact hcache
        · rw [if_neg hnil, if_neg hnil]
          exact Search.resolveLoop_verdict candidates hsearch hcache

theorem run_cacheOk {history : List (ResolverCall ι)}
    (hkeyed : ∀ call ∈ history, call.Keyed answer) : CacheOk answer (run history) := by
  have hsteps (calls : List (ResolverCall ι)) (hcalls : ∀ call ∈ calls, call.Keyed answer)
      (resolver : ParserRouteResolver ι) (hcache : CacheOk answer resolver) :
      CacheOk answer (calls.foldl ResolverCall.step resolver) := by
    induction calls generalizing resolver with
    | nil => exact hcache
    | cons call calls ih =>
      apply ih fun c hc => hcalls c (List.mem_cons_of_mem _ hc)
      have hcall := hcalls call (by simp)
      cases call with
      | resolve request catalog pins providerConfig probe =>
        exact (resolve_expected hcall hcache).2
      | invalidateCatalog => exact .empty
      | invalidatePins => exact .empty
      | invalidateProviderConfig providerId => exact hcache.invalidateProviderConfig providerId
  exact hsteps history hkeyed {} .empty

/-- After every history, a resolve returns what it would with an empty cache: the
first candidate in policy order that accepts. -/
theorem cache_transparent {history : List (ResolverCall ι)}
    (hhistory : ∀ call ∈ history, call.Keyed answer) {request : ParserRouteRequest}
    {catalog : ParserClaimCatalog} {pins : ParserRoutePins}
    {providerConfig : Option ParserProviderConfigLookup} {probe : Option (ParserProbeCallback ι)}
    (hcall : ResolverCall.Keyed answer (.resolve request catalog pins providerConfig probe)) :
    (((run history).resolve request catalog pins providerConfig probe).1.map verdict =
      (({} : ParserRouteResolver ι).resolve request catalog pins providerConfig probe).1.map
        verdict) ∧
    ∀ resolution,
      ((run history).resolve request catalog pins providerConfig probe).1 = .ok resolution →
        ∃ search : Search ι, search.request = request ∧ some search.probe = probe ∧
          search.providerConfig = providerConfig ∧
          orderedCandidates request catalog pins = .ok search.candidates ∧
          resolution.winner =
            (search.candidates.find? search.accepts).map (identityOf ·.claim) ∧
          resolution.winningClaim = (search.candidates.find? search.accepts).map (·.claim) ∧
          (resolution.status = .selected ↔ resolution.winner.isSome) := by
  have hcached := (resolve_expected hcall (run_cacheOk hhistory)).1
  have hempty := (resolve_expected hcall CacheOk.empty).1
  refine ⟨hcached.trans hempty.symm, ?_⟩
  intro resolution hresolution
  rw [hresolution] at hcached
  obtain ⟨search, hrequest, hprobe, hconfig, hordered, hwinner, hclaim, hstatus⟩ :=
    expected_ok hcached.symm
  exact ⟨search, hrequest, hprobe, hconfig, hordered, hwinner, hclaim, hstatus⟩

end Histories

/-- The two claims' probe, as a function of the key. -/
def wildcardAccepts (_ : ParserRoute) (key : CacheKey) : ParserProbeOutcome :=
  if key.claimId = text "wildcard" then .accept else .decline

def resolveTwoClaims : ResolverCall Unit :=
  .resolve jsonRequest twoClaims pinP none (some declineExact)

theorem cache_transparent_twoClaims :
    ((run [resolveTwoClaims, .invalidateProviderConfig (text "q")]).resolve jsonRequest twoClaims
        pinP none (some declineExact)).1.map verdict =
      (({} : ParserRouteResolver Unit).resolve jsonRequest twoClaims pinP none
        (some declineExact)).1.map verdict := by
  have hkeyed : resolveTwoClaims.Keyed wildcardAccepts := by
    intro normalizedType candidates _ hordered candidate hmem config _
    obtain rfl := Except.ok.inj (orderedCandidates_twoClaims.symm.trans hordered)
    simp only [List.mem_cons, List.not_mem_nil, or_false] at hmem
    rcases hmem with rfl | rfl <;> rfl
  have hhistory : ∀ call ∈ [resolveTwoClaims, .invalidateProviderConfig (text "q")],
      call.Keyed wildcardAccepts := by
    intro call hmem
    simp only [List.mem_cons, List.not_mem_nil, or_false] at hmem
    rcases hmem with rfl | rfl
    · exact hkeyed
    · trivial
  exact (cache_transparent hhistory hkeyed).1

end ParserRouteResolver

end PlotJugglerSdk
