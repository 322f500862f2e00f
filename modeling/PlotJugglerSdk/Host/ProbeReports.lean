import PlotJugglerSdk.Host.ProbeCache

/-!
# What a resolve reports of its probes

A probe that the resolver executes and that does not accept is told to the host's diagnostic
sink: one that fails at once, those that decline in one summary when the loop is over. Answers
are cached as they come, and a cached one is not reported again.

* `Accounted`          — each such probe of a resolve is told once, and no other
* `LosesDecline`       — a configuration lookup ends the loop with declines not yet told
* `resolve_reports_iff` — when a resolve accounts for its probes
-/

namespace PlotJugglerSdk

open Wire Json Ranking

namespace ParserRouteResolver

variable {ι : Type}

/-! ## Diagnostics -/

def Effect.request? : Effect → Option ParserProbeRequest
  | .probe request => some request
  | _ => none

def Effect.diagnostic? : Effect → Option Diagnostic
  | .report diagnostic => some diagnostic
  | _ => none

/-- The probes of a resolve that came to an outcome. -/
def probesWith (probe : ParserProbeCallback ι) (outcome : ParserProbeOutcome)
    (effects : List Effect) :
    List ParserProbeRequest :=
  (effects.filterMap Effect.request?).filter fun request =>
    (probeDecision probe request).outcome = outcome

/-- The diagnostic is about a probe, and not about a pin or a tie. -/
def tellsOfProbe (diagnostic : Diagnostic) : Bool :=
  (text "parser probe ").isPrefixOf diagnostic.message

/-- The diagnostics that a resolve reports of probes. -/
def told (effects : List Effect) : List Diagnostic :=
  (effects.filterMap Effect.diagnostic?).filter tellsOfProbe

def failureDiagnostic (probe : ParserProbeCallback ι) (request : ParserProbeRequest) :
    Diagnostic where
  level := .error
  id := request.claim.providerId
  message :=
    text "parser probe error: " ++
      outcomeDetail (probeDecision probe request) "provider probe failed"

def declineText (probe : ParserProbeCallback ι) (request : ParserProbeRequest) : Bytes :=
  claimIdentity request.claim ++ text ": " ++
    outcomeDetail (probeDecision probe request) "provider declined during probe"

/-- One diagnostic for all probes that declined, with a text for each. -/
def declineSummary (declined : List Bytes) : List Diagnostic :=
  if declined = [] then []
  else
    [{ level := .info
       id := []
       message := text "parser probe declined for " ++ decimal declined.length ++
         text " candidate(s): " ++ (text "; ").intercalate declined }]

/-- Each probe that failed has its diagnostic, each that declined its text in the summary, and
nothing else is told of probes. -/
def Accounted (probe : ParserProbeCallback ι) (effects : List Effect) : Prop :=
  told effects = (probesWith probe .error effects).map (failureDiagnostic probe) ++
    declineSummary ((probesWith probe .decline effects).map (declineText probe))

/-! ## A lookup that fails -/

def Refuses (outcome : ParserProbeOutcome) : Prop := outcome = .decline ∨ outcome = .error

/-- Behind candidates that are not accepted, the configuration of one cannot be had, with a
decline that is not cached before it. -/
inductive DeclineLost (search : Search ι) :
    List (CacheEntry ι) → Bool → List ParserRouteCandidate → Prop
  | lookup {cache : List (CacheEntry ι)} {candidate : ParserRouteCandidate}
    {candidates : List ParserRouteCandidate} {what : Option Bytes}
    (hconfig : search.config candidate = .error what) :
    DeclineLost search cache true (candidate :: candidates)
  | cached {cache : List (CacheEntry ι)} {declined : Bool} {candidate : ParserRouteCandidate}
    {candidates : List ParserRouteCandidate} {config : ParserProviderConfig} {entry : CacheEntry ι}
    (hconfig : search.config candidate = .ok config)
    (hcached : cache.find? (·.key = search.key candidate config) = some entry)
    (hrefuses : Refuses entry.decision.outcome)
    (hlater : DeclineLost search cache declined candidates) :
    DeclineLost search cache declined (candidate :: candidates)
  | probed {cache : List (CacheEntry ι)} {declined : Bool} {candidate : ParserRouteCandidate}
    {candidates : List ParserRouteCandidate} {config : ParserProviderConfig}
    {decision : ParserProbeDecision ι} (hconfig : search.config candidate = .ok config)
    (hcached : cache.find? (·.key = search.key candidate config) = none)
    (hdecision : probeDecision search.probe (Search.probeRequest candidate config) = decision)
    (hrefuses : Refuses decision.outcome)
    (hlater : DeclineLost search (cache ++ [{ key := search.key candidate config, decision }])
      (declined || decision.outcome = .decline) candidates) :
    DeclineLost search cache declined (candidate :: candidates)

/-- A resolve that goes wrong in this way. -/
def LosesDecline (resolver : ParserRouteResolver ι) (request : ParserRouteRequest)
    (catalog : ParserClaimCatalog) (pins : ParserRoutePins)
    (providerConfig : Option ParserProviderConfigLookup) (probe : ParserProbeCallback ι) : Prop :=
  ∃ normalizedType candidates,
    normalizeParserTypeName request.encoding request.typeName = .ok normalizedType ∧
      orderedCandidates request catalog pins = .ok candidates ∧
        DeclineLost
          { request, normalizedType, pin := pins.forRoute request.route, candidates, providerConfig,
            probe : Search ι }
          (resolver.probeCache request.route) false candidates

/-! ## The loop -/

/-- What a resolve has told so far, with the declines still on its account. -/
structure Accounts (probe : ParserProbeCallback ι) (progress : Progress ι) : Prop where
  failures : told progress.effects =
    (probesWith probe .error progress.effects).map (failureDiagnostic probe)
  declines : progress.declinedProbes =
    (probesWith probe .decline progress.effects).map (declineText probe)

section Effects

variable {probe : ParserProbeCallback ι} {effects : List Effect}

theorem probesWith_append (outcome : ParserProbeOutcome) (more : List Effect) :
    probesWith probe outcome (effects ++ more) =
      probesWith probe outcome effects ++ probesWith probe outcome more := by
  rw [probesWith, List.filterMap_append, List.filter_append]
  rfl

theorem told_append (more : List Effect) : told (effects ++ more) = told effects ++ told more := by
  rw [told, List.filterMap_append, List.filter_append]
  rfl

theorem probesWith_report (outcome : ParserProbeOutcome) (diagnostic : Diagnostic) :
    probesWith probe outcome (effects ++ [.report diagnostic]) =
      probesWith probe outcome effects := by
  rw [probesWith_append]
  exact List.append_nil _

theorem told_report {diagnostic : Diagnostic} (h : tellsOfProbe diagnostic = true) :
    told (effects ++ [.report diagnostic]) = told effects ++ [diagnostic] := by
  rw [told_append]
  exact congrArg _ (List.filter_cons_of_pos h)

theorem told_other {diagnostic : Diagnostic} (h : tellsOfProbe diagnostic = false) :
    told (effects ++ [.report diagnostic]) = told effects := by
  rw [told_append]
  refine Eq.trans (congrArg _ (List.filter_cons_of_neg ?_)) (List.append_nil _)
  rw [h]
  exact Bool.false_ne_true

theorem probesWith_probe (outcome : ParserProbeOutcome) (request : ParserProbeRequest) :
    probesWith probe outcome (effects ++ [.probe request]) =
      probesWith probe outcome effects ++
        if (probeDecision probe request).outcome = outcome then [request] else [] := by
  rw [probesWith_append]
  congr 1
  show List.filter _ [request] = _
  rw [List.filter_cons, List.filter_nil]
  by_cases h : (probeDecision probe request).outcome = outcome
  · rw [if_pos (decide_eq_true h), if_pos h]
  · rw [if_neg (fun hdecide => h (of_decide_eq_true hdecide)), if_neg h]

end Effects

section Loop

variable {search : Search ι} {probe : ParserProbeCallback ι} {progress : Progress ι}

theorem Accounted.other {effects : List Effect} (h : Accounted probe effects)
    {diagnostic : Diagnostic}
    (hother : tellsOfProbe diagnostic = false) :
    Accounted probe (effects ++ [.report diagnostic]) := by
  unfold Accounted
  rw [told_other hother, probesWith_report, probesWith_report]
  exact h

theorem Accounts.reportDeclines (h : Accounts probe progress) :
    Accounted probe progress.reportDeclines.effects := by
  unfold Accounted
  rw [Progress.reportDeclines, h.declines]
  by_cases hnone : (probesWith probe .decline progress.effects).map (declineText probe) = []
  · rw [if_pos hnone, h.failures, hnone]
    exact (List.append_nil _).symm
  · rw [if_neg hnone, Progress.report_effects, told_report rfl, probesWith_report,
      probesWith_report,
      h.failures, declineSummary, if_neg hnone]

/-- Where the loop breaks off, what is told is all but the declines. -/
theorem Accounts.accounted_iff (h : Accounts probe progress) :
    Accounted probe progress.effects ↔ progress.declinedProbes = [] := by
  unfold Accounted
  rw [h.failures, h.declines, List.self_eq_append_right, declineSummary]
  split
  · next hnone => exact iff_of_true rfl hnone
  · next hsome => exact iff_of_false (List.cons_ne_nil _ _) hsome

theorem Accounts.add (h : Accounts probe progress) (kind : ParserSelectionTraceKind)
    (claim : ParserClaimIdentity) (detail : Bytes) :
    Accounts probe (progress.add kind claim detail) :=
  ⟨h.failures, h.declines⟩

theorem Accounts.lookedUp (search : Search ι) (h : Accounts probe progress)
    (candidate : ParserRouteCandidate) : Accounts probe (search.lookedUp candidate progress) := by
  unfold Search.lookedUp
  cases search.providerConfig with
  | none => exact h
  | some lookup =>
    refine ⟨?_, ?_⟩
    · rw [Progress.perform_effects, told_append, probesWith_append]
      show told progress.effects ++ [] = (probesWith probe .error progress.effects ++ []).map _
      rw [List.append_nil, List.append_nil, h.failures]
    · rw [Progress.perform_effects, probesWith_append]
      show progress.declinedProbes = (probesWith probe .decline progress.effects ++ []).map _
      rw [List.append_nil, h.declines]

theorem lookedUp_declinedProbes (search : Search ι) (candidate : ParserRouteCandidate)
    (progress : Progress ι) :
    (search.lookedUp candidate progress).declinedProbes = progress.declinedProbes := by
  unfold Search.lookedUp
  cases search.providerConfig <;> rfl

/-- A selection tells of all that declined before it. -/
theorem Accounts.select (h : Accounts probe progress) (winner : ParserRouteCandidate)
    (decision : ParserProbeDecision ι) :
    Accounted probe (search.select winner decision progress).2.effects := by
  have hdeclines := (h.add .probeAccept (identityOf winner.claim)
    (text "provider accepted during probe")).reportDeclines
  show Accounted probe (search.breakTie winner _).effects
  unfold Search.breakTie
  dsimp only
  split
  · exact hdeclines.other rfl
  · exact hdeclines

theorem Accounts.exhausted (h : Accounts probe progress) :
    Accounted probe (search.exhausted progress).2.effects := by
  unfold Search.exhausted
  cases search.pin with
  | none => exact (h.add _ _ _).reportDeclines
  | some pin => exact (h.add _ _ _).reportDeclines.other rfl

/-- A probe that declines is put on the account. -/
theorem Accounts.decline (h : Accounts probe progress) (resolver : ParserRouteResolver ι)
    {request : ParserProbeRequest} (houtcome : (probeDecision probe request).outcome = .decline) :
    Accounts probe
      { progress.perform (.probe request) with
        resolver
        declinedProbes := progress.declinedProbes ++ [declineText probe request] } := by
  have hnot : ¬ (probeDecision probe request).outcome = .error := by
    rw [houtcome]
    exact nofun
  refine ⟨?_, ?_⟩
  · rw [Progress.perform_effects, probesWith_probe, if_neg hnot, told_append, List.append_nil,
      h.failures]
    exact List.append_nil _
  · rw [Progress.perform_effects, probesWith_probe, if_pos houtcome, List.map_append, h.declines]
    rfl

/-- An accepted probe is not told. -/
theorem Accounts.pass (h : Accounts probe progress) (resolver : ParserRouteResolver ι)
    {request : ParserProbeRequest} (hdecline : (probeDecision probe request).outcome ≠ .decline)
    (herror : (probeDecision probe request).outcome ≠ .error) :
    Accounts probe { progress.perform (.probe request) with resolver } := by
  refine ⟨?_, ?_⟩
  · rw [Progress.perform_effects, probesWith_probe, if_neg herror, told_append, List.append_nil,
      h.failures]
    exact List.append_nil _
  · rw [Progress.perform_effects, probesWith_probe, if_neg hdecline, List.append_nil]
    exact h.declines

/-- A probe that fails is told at once. -/
theorem Accounts.fail (h : Accounts probe progress) (resolver : ParserRouteResolver ι)
    {request : ParserProbeRequest} (houtcome : (probeDecision probe request).outcome = .error)
    {diagnostic : Diagnostic} (hdiagnostic : diagnostic = failureDiagnostic probe request) :
    Accounts probe
      { progress with
        resolver
        effects := (progress.effects ++ [.probe request]) ++ [.report diagnostic] } := by
  have hnot : ¬ (probeDecision probe request).outcome = .decline := by
    rw [houtcome]
    exact nofun
  subst hdiagnostic
  refine ⟨?_, ?_⟩
  · rw [told_report rfl, probesWith_report, probesWith_probe, if_pos houtcome, told_append,
      List.map_append, h.failures]
    show _ ++ [] ++ _ = _
    rw [List.append_nil]
    rfl
  · rw [probesWith_report, probesWith_probe, if_neg hnot, List.append_nil, h.declines]

/-! ### The steps of the loop -/

theorem not_declineLost_nil {cache : List (CacheEntry ι)} {declined : Bool} :
    ¬ DeclineLost search cache declined [] := nofun

theorem declineLost_lookup {cache : List (CacheEntry ι)} {declined : Bool}
    {candidate : ParserRouteCandidate} {candidates : List ParserRouteCandidate}
    {what : Option Bytes}
    (hconfig : search.config candidate = .error what) :
    DeclineLost search cache declined (candidate :: candidates) ↔ declined = true := by
  constructor
  · intro h
    cases h with
    | lookup => rfl
    | cached hconfig' | probed hconfig' => cases hconfig.symm.trans hconfig'
  · rintro rfl
    exact .lookup hconfig

theorem declineLost_cached {cache : List (CacheEntry ι)} {declined : Bool}
    {candidate : ParserRouteCandidate} {candidates : List ParserRouteCandidate}
    {config : ParserProviderConfig} {entry : CacheEntry ι}
    (hconfig : search.config candidate = .ok config)
    (hcached : cache.find? (·.key = search.key candidate config) = some entry) :
    DeclineLost search cache declined (candidate :: candidates) ↔
      Refuses entry.decision.outcome ∧ DeclineLost search cache declined candidates := by
  constructor
  · intro h
    cases h with
    | lookup hconfig' => cases hconfig.symm.trans hconfig'
    | cached hconfig' hcached' hrefuses hlater =>
      obtain rfl := Except.ok.inj (hconfig.symm.trans hconfig')
      obtain rfl := Option.some.inj (hcached.symm.trans hcached')
      exact ⟨hrefuses, hlater⟩
    | probed hconfig' hcached' =>
      obtain rfl := Except.ok.inj (hconfig.symm.trans hconfig')
      cases hcached.symm.trans hcached'
  · rintro ⟨hrefuses, hlater⟩
    exact .cached hconfig hcached hrefuses hlater

theorem declineLost_probed {cache : List (CacheEntry ι)} {declined : Bool}
    {candidate : ParserRouteCandidate} {candidates : List ParserRouteCandidate}
    {config : ParserProviderConfig} {decision : ParserProbeDecision ι}
    (hconfig : search.config candidate = .ok config)
    (hcached : cache.find? (·.key = search.key candidate config) = none)
    (hdecision : probeDecision search.probe (Search.probeRequest candidate config) = decision) :
    DeclineLost search cache declined (candidate :: candidates) ↔
      Refuses decision.outcome ∧
        DeclineLost search (cache ++ [{ key := search.key candidate config, decision }])
          (declined || decision.outcome = .decline) candidates := by
  constructor
  · intro h
    cases h with
    | lookup hconfig' => cases hconfig.symm.trans hconfig'
    | cached hconfig' hcached' =>
      obtain rfl := Except.ok.inj (hconfig.symm.trans hconfig')
      cases hcached.symm.trans hcached'
    | probed hconfig' hcached' hdecision' hrefuses hlater =>
      obtain rfl := Except.ok.inj (hconfig.symm.trans hconfig')
      obtain rfl := hdecision.symm.trans hdecision'
      exact ⟨hrefuses, hlater⟩
  · rintro ⟨hrefuses, hlater⟩
    exact .probed hconfig hcached hdecision hrefuses hlater

theorem decision_cached {candidate : ParserRouteCandidate} {config : ParserProviderConfig}
    {entry : CacheEntry ι}
    (hcached : (progress.resolver.probeCache search.request.route).find?
      (·.key = search.key candidate config) = some entry) :
    search.decision candidate config progress =
      (entry.decision, true,
        progress.add .cacheHit (identityOf candidate.claim) (text "probe result reused")) := by
  unfold Search.decision
  dsimp only
  rw [hcached]

/-- The answer of a probe is cached before the loop looks at it. -/
theorem decision_probed {candidate : ParserRouteCandidate} {config : ParserProviderConfig}
    (hcached : (progress.resolver.probeCache search.request.route).find?
      (·.key = search.key candidate config) = none) :
    ∃ resolver,
      search.decision candidate config progress =
        (probeDecision search.probe (Search.probeRequest candidate config), false,
          { progress.perform (.probe (Search.probeRequest candidate config)) with resolver }) ∧
      resolver.probeCache search.request.route =
        progress.resolver.probeCache search.request.route ++
          [{ key := search.key candidate config
             decision := probeDecision search.probe (Search.probeRequest candidate config) }] := by
  refine ⟨progress.resolver.remember search.request.route
    { key := search.key candidate config
      decision := probeDecision search.probe (Search.probeRequest candidate config) }, ?_, ?_⟩
  · unfold Search.decision
    dsimp only
    rw [hcached]
    rfl
  · cases search.request.route <;> rfl

/-- The end of the loop accounts for its probes, unless a lookup has ended it. -/
theorem resolveLoop_accounted_iff (search : Search ι) (candidates : List ParserRouteCandidate)
    {progress : Progress ι} (h : Accounts search.probe progress) :
    Accounted search.probe (search.resolveLoop candidates progress).2.effects ↔
      ¬ DeclineLost search (progress.resolver.probeCache search.request.route)
        (decide (progress.declinedProbes ≠ [])) candidates := by
  induction candidates generalizing progress with
  | nil => exact iff_of_true h.exhausted not_declineLost_nil
  | cons candidate candidates ih =>
    have hlooked := h.lookedUp search candidate
    have hdeclined := lookedUp_declinedProbes search candidate progress
    rw [← search.lookedUp_resolver candidate progress, ← hdeclined]
    unfold Search.resolveLoop
    dsimp only
    clear h hdeclined
    -- from here on the progress with its lookup is all that matters
    generalize search.lookedUp candidate progress = progress at hlooked ⊢
    cases hconfig : search.config candidate with
    | error what =>
      rw [declineLost_lookup hconfig, decide_eq_true_iff, not_not]
      exact hlooked.accounted_iff
    | ok config =>
      dsimp only
      cases hcached : (progress.resolver.probeCache search.request.route).find?
          (·.key = search.key candidate config) with
      | some entry =>
        -- a cached answer is not probed again, and a cached decline was told when it was made
        have hadd := hlooked.add .cacheHit (identityOf candidate.claim) (text "probe result reused")
        rw [decision_cached hcached, declineLost_cached hconfig hcached]
        dsimp only
        cases houtcome : entry.decision.outcome with
        -- the search ends here, and no decline is lost by an acceptance
        | accept | invalid value =>
          refine iff_of_true (hadd.select candidate entry.decision) ?_
          rintro ⟨hrefuses, -⟩
          exact absurd hrefuses (by simp [Refuses])
        | decline =>
          rw [and_iff_right (.inl rfl), if_pos rfl]
          exact ih (hadd.add _ _ _)
        | error =>
          rw [and_iff_right (.inr rfl), if_pos rfl]
          exact ih (hadd.add _ _ _)
      | none =>
        obtain ⟨resolver, hdecision, hcache⟩ := decision_probed hcached
        rw [hdecision, declineLost_probed hconfig hcached rfl, ← hcache]
        generalize hrequest : Search.probeRequest candidate config = request
        dsimp only
        cases houtcome : (probeDecision search.probe request).outcome with
        | accept | invalid value =>
          have hpass :=
            hlooked.pass resolver (houtcome.trans_ne (by simp)) (houtcome.trans_ne (by simp))
          refine iff_of_true (hpass.select candidate (probeDecision search.probe request)) ?_
          rintro ⟨hrefuses, -⟩
          exact absurd hrefuses (by simp [Refuses])
        | decline =>
          -- a decline adds to the probes that are to be told
          have hloop := ih ((hlooked.decline resolver houtcome).add .probeDecline
            (identityOf candidate.claim)
            (outcomeDetail (probeDecision search.probe request) "provider declined during probe"))
          rw [and_iff_right (.inl rfl), if_neg Bool.false_ne_true]
          subst hrequest
          refine hloop.trans (not_congr (iff_of_eq ?_))
          congr 1
          rw [decide_eq_true rfl, Bool.or_true]
          exact decide_eq_true (List.append_ne_nil_of_right_ne_nil _ (List.cons_ne_nil _ _))
        | error =>
          -- an error is told at once and adds nothing
          have hloop := ih ((hlooked.fail resolver houtcome rfl).add .probeError
            (identityOf candidate.claim)
            (outcomeDetail (probeDecision search.probe request) "provider probe failed"))
          rw [and_iff_right (.inr rfl), if_neg Bool.false_ne_true]
          subst hrequest
          refine hloop.trans (not_congr (iff_of_eq ?_))
          congr 1
          exact (Bool.or_false _).symm

end Loop

/-! ## Whole resolves -/

theorem accounted_nil (probe : ParserProbeCallback ι) : Accounted probe [] := rfl

theorem noCandidates_accounted (search : Search ι) {progress : Progress ι}
    (h : Accounted search.probe progress.effects) :
    Accounted search.probe (noCandidates search progress).2.effects := by
  unfold noCandidates
  cases search.pin with
  | none => exact h
  | some pin => exact h.other rfl

theorem losesDecline_iff {resolver : ParserRouteResolver ι} {request : ParserRouteRequest}
    {catalog : ParserClaimCatalog} {pins : ParserRoutePins}
    {providerConfig : Option ParserProviderConfigLookup} {probe : ParserProbeCallback ι}
    {normalizedType : Bytes} {candidates : List ParserRouteCandidate}
    (htype : normalizeParserTypeName request.encoding request.typeName = .ok normalizedType)
    (hordered : orderedCandidates request catalog pins = .ok candidates) :
    LosesDecline resolver request catalog pins providerConfig probe ↔
      DeclineLost
        { request, normalizedType, pin := pins.forRoute request.route, candidates, providerConfig,
          probe : Search ι }
        (resolver.probeCache request.route) false candidates := by
  constructor
  · rintro ⟨_, _, htype', hordered', hlost⟩
    obtain rfl := Except.ok.inj (htype.symm.trans htype')
    obtain rfl := Except.ok.inj (hordered.symm.trans hordered')
    exact hlost
  · intro hlost
    exact ⟨normalizedType, candidates, htype, hordered, hlost⟩

/-- A resolve accounts for its probes, unless it loses a decline. -/
theorem resolve_accounted_iff (resolver : ParserRouteResolver ι) (request : ParserRouteRequest)
    (catalog : ParserClaimCatalog) (pins : ParserRoutePins)
    (providerConfig : Option ParserProviderConfigLookup) (probe : ParserProbeCallback ι) :
    Accounted probe (resolver.resolve request catalog pins providerConfig (some probe)).2.1 ↔
      ¬ LosesDecline resolver request catalog pins providerConfig probe := by
  cases htype : normalizeParserTypeName request.encoding request.typeName with
  | error e =>
    unfold resolve
    rw [htype]
    refine iff_of_true (accounted_nil probe) ?_
    rintro ⟨_, _, hok, -⟩
    cases htype.symm.trans hok
  | ok normalizedType =>
    cases hordered : orderedCandidates request catalog pins with
    | error e =>
      unfold resolve
      rw [htype]
      dsimp only
      rw [hordered]
      refine iff_of_true (accounted_nil probe) ?_
      rintro ⟨_, _, -, hok, -⟩
      cases hordered.symm.trans hok
    | ok candidates =>
      rw [losesDecline_iff htype hordered]
      unfold resolve
      rw [htype]
      dsimp only
      rw [hordered]
      dsimp only
      -- nothing was probed before the loop
      have hstart : Accounts probe
          { resolver, trace := candidates.map candidateTrace : Progress ι } := ⟨rfl, rfl⟩
      split
      · next hnone =>
        subst hnone
        exact iff_of_true (noCandidates_accounted _ (accounted_nil probe)) not_declineLost_nil
      · exact resolveLoop_accounted_iff _ candidates hstart

/-! ## Runs -/

/-- The probes of a resolve are accounted for. -/
def ResolverCall.Reports (resolver : ParserRouteResolver ι) : ResolverCall ι → Prop
  | .resolve request catalog pins providerConfig (some probe) =>
    Accounted probe (resolver.resolve request catalog pins providerConfig (some probe)).2.1
  | .resolve request catalog pins providerConfig none =>
    (resolver.resolve request catalog pins providerConfig none).2.1 = []
  | _ => True

def ResolverCall.Loses (resolver : ParserRouteResolver ι) : ResolverCall ι → Prop
  | .resolve request catalog pins providerConfig (some probe) =>
    LosesDecline resolver request catalog pins providerConfig probe
  | _ => False

/-- In a run, the resolves that account for their probes are those that lose no decline. -/
theorem resolve_reports_iff (before : List (ResolverCall ι)) (call : ResolverCall ι) :
    call.Reports (run before) ↔ ¬ call.Loses (run before) := by
  cases call with
  | resolve request catalog pins providerConfig probe =>
    cases probe with
    | none => exact iff_of_true rfl not_false
    | some probe => exact resolve_accounted_iff (run before) request catalog pins providerConfig probe
  | invalidateCatalog | invalidatePins | invalidateProviderConfig => exact iff_of_true trivial not_false

/-! The configuration of the second provider cannot be had, when the first has declined. -/

def wildcardQ : ParserClaim := { wildcardJson with providerId := text "q" }

def twoProviders : ParserClaimCatalog :=
  { claims := [{ claim := exactJson }, { claim := wildcardQ }], generation := 1 }

def lookupQFails : ParserProviderConfigLookup := fun providerId =>
  if providerId = text "q" then .error (some (text "settings are locked")) else .ok {}

def resolveTwoProviders (providerConfig : Option ParserProviderConfigLookup) : ResolverCall Unit :=
  .resolve jsonRequest twoProviders {} providerConfig (some declineExact)

theorem orderedCandidates_twoProviders :
    orderedCandidates jsonRequest twoProviders {} =
      .ok [{ claim := exactJson }, { claim := wildcardQ }] := by
  have hsorted : [({ claim := exactJson } : ParserRouteCandidate), { claim := wildcardQ }] =
      sortBy candidateLess [{ claim := exactJson }, { claim := wildcardQ }] :=
    eq_sortBy candidateLess_ranked (by decide) (List.Perm.refl _) (by decide)
  have hmatching : twoProviders.claims.filter
      (isCandidate jsonRequest (text "T") none ·.claim) = twoProviders.claims := by
    decide
  have htype : normalizeParserTypeName jsonRequest.encoding jsonRequest.typeName =
      .ok (text "T") := by decide
  have hencoding : isRegisteredParserEncoding jsonRequest.encoding = true := by decide
  have hpin : ({} : ParserRoutePins).forRoute jsonRequest.route = none := rfl
  unfold orderedCandidates
  rw [htype, hencoding]
  dsimp only
  rw [hpin, hmatching, hsorted]
  rfl

/-- The first provider's reason is told neither by the resolve that fails nor by the next, which
finds the answer in the cache. -/
theorem lookup_failure_loses_decline :
    (({} : ParserRouteResolver Unit).resolve jsonRequest twoProviders {} (some lookupQFails)
      (some declineExact)).2.1 =
        [.lookup (text "p"), .probe { claim := exactJson }, .lookup (text "q")] ∧
      ¬ (resolveTwoProviders (some lookupQFails)).Reports (run []) ∧
      told ((run [resolveTwoProviders (some lookupQFails)]).resolve jsonRequest twoProviders {} none
        (some declineExact)).2.1 = [] := by
  have htype : normalizeParserTypeName jsonRequest.encoding jsonRequest.typeName =
      .ok (text "T") := by decide
  have heffects : (({} : ParserRouteResolver Unit).resolve jsonRequest twoProviders {}
      (some lookupQFails) (some declineExact)).2.1 =
        [.lookup (text "p"), .probe { claim := exactJson }, .lookup (text "q")] := by
    unfold resolve
    simp only [htype, orderedCandidates_twoProviders]
    rfl
  refine ⟨heffects, ?_, ?_⟩
  · intro hreports
    have haccounted : Accounted declineExact (({} : ParserRouteResolver Unit).resolve jsonRequest
        twoProviders {} (some lookupQFails) (some declineExact)).2.1 := hreports
    rw [heffects] at haccounted
    revert haccounted
    unfold Accounted
    decide
  · have hnext : run [resolveTwoProviders (some lookupQFails)] =
        (({} : ParserRouteResolver Unit).resolve jsonRequest twoProviders {} (some lookupQFails)
          (some declineExact)).2.2 := rfl
    rw [hnext]
    unfold resolve
    simp only [htype, orderedCandidates_twoProviders]
    rfl

end ParserRouteResolver

end PlotJugglerSdk
