import PlotJugglerSdk.Calls.Agreement
import PlotJugglerSdk.Host.RouteResolver

/-!
# Spellings

A type name has several spellings, and so has a schema digest, whose hex digits may be of either
case. Type names are rewritten to one spelling, of a claim when it is admitted and of a request
when it is resolved; digests are compared as they were written.

* `run_alike`                — respelling the calls respells the digests of the catalog
* `resolution_respelled_iff` — when two spellings find the same candidates
-/

namespace PlotJugglerSdk

open Wire Json Agreement Ranking

/-! ## Digests -/

/-- What a hex digit stands for. -/
def hexDigit (value : UInt8) : Nat :=
  if value ≤ 0x39 then value.toNat - 0x30
  else if value ≤ 0x46 then value.toNat - 0x41 + 10
  else value.toNat - 0x61 + 10

/-- The number that the digits after `sha256:` denote. -/
def digestValue (digest : Bytes) : Nat :=
  (digest.drop 7).foldl (fun value c => 16 * value + hexDigit c) 0

/-- Two spellings of one digest. -/
def SameDigest (digest digest' : Bytes) : Prop :=
  digest = digest' ∨
    isSchemaDigest digest = true ∧ isSchemaDigest digest' = true ∧
      digestValue digest = digestValue digest'

theorem SameDigest.isSchemaDigest {digest digest' : Bytes} (h : SameDigest digest digest') :
    isSchemaDigest digest = isSchemaDigest digest' := by
  rcases h with rfl | ⟨hdigest, hdigest', -⟩
  · rfl
  · rw [hdigest, hdigest']

/-- Allow lists of the same digests. -/
def SameDigests (digests digests' : Finset Bytes) : Prop :=
  (∀ digest ∈ digests, ∃ digest' ∈ digests', SameDigest digest digest') ∧
    ∀ digest' ∈ digests', ∃ digest ∈ digests, SameDigest digest digest'

theorem SameDigests.refl (digests : Finset Bytes) : SameDigests digests digests :=
  ⟨fun digest hmem => ⟨digest, hmem, .inl rfl⟩, fun digest hmem => ⟨digest, hmem, .inl rfl⟩⟩

theorem SameDigests.empty_iff {digests digests' : Finset Bytes} (h : SameDigests digests digests') :
    digests = ∅ ↔ digests' = ∅ := by
  constructor
  · rintro rfl
    rw [Finset.eq_empty_iff_forall_notMem]
    intro digest' hmem
    obtain ⟨digest, hdigest, -⟩ := h.2 digest' hmem
    exact absurd hdigest (Finset.notMem_empty digest)
  · rintro rfl
    rw [Finset.eq_empty_iff_forall_notMem]
    intro digest hmem
    obtain ⟨digest', hdigest', -⟩ := h.1 digest hmem
    exact absurd hdigest' (Finset.notMem_empty digest')

/-- Malformed digests are in both lists or in neither. -/
theorem SameDigests.malformed_iff {digests digests' : Finset Bytes}
    (h : SameDigests digests digests') :
    (∃ digest ∈ digests, ¬isSchemaDigest digest) ↔
      ∃ digest' ∈ digests', ¬isSchemaDigest digest' := by
  constructor
  · rintro ⟨digest, hmem, hbad⟩
    obtain ⟨digest', hmem', hsame⟩ := h.1 digest hmem
    exact ⟨digest', hmem', hsame.isSchemaDigest ▸ hbad⟩
  · rintro ⟨digest', hmem', hbad⟩
    obtain ⟨digest, hmem, hsame⟩ := h.2 digest' hmem'
    exact ⟨digest, hmem, hsame.isSchemaDigest.symm ▸ hbad⟩

/-! ## Claims -/

/-- Claims that differ in their digests' spelling only. -/
structure ParserClaim.Alike (claim claim' : ParserClaim) : Prop where
  digests : SameDigests claim.schemaDigests claim'.schemaDigests
  rest : claim' = { claim with schemaDigests := claim'.schemaDigests }

/-- Claims that differ in spelling only, in that of their type name too. -/
structure ParserClaim.Respelled (claim claim' : ParserClaim) : Prop where
  typeName : normalizeParserTypeName claim.encoding claim.typeName =
    normalizeParserTypeName claim.encoding claim'.typeName
  digests : SameDigests claim.schemaDigests claim'.schemaDigests
  rest : claim' =
    { claim with typeName := claim'.typeName, schemaDigests := claim'.schemaDigests }

namespace ParserClaim

theorem Alike.refl (claim : ParserClaim) : Alike claim claim := ⟨.refl _, rfl⟩

theorem Alike.identity {claim claim' : ParserClaim} (h : Alike claim claim') :
    identityOf claim = identityOf claim' := by
  rw [h.rest]
  rfl

theorem Alike.respelled {claim claim' : ParserClaim} (h : Alike claim claim') :
    Respelled claim claim' := by
  refine ⟨?_, h.digests, ?_⟩
  · rw [h.rest]
  · have htype : claim'.typeName = claim.typeName := by rw [h.rest]
    rw [htype]
    exact h.rest

/-- The checks see the normal type name, and of the digests only whether they are well formed. -/
theorem Respelled.normalizeAndValidateClaim {claim claim' : ParserClaim}
    (h : Respelled claim claim') :
    Agree Alike (normalizeAndValidateClaim claim) (normalizeAndValidateClaim claim') := by
  obtain ⟨htype, hdigests, hrest⟩ := h
  generalize htype' : claim'.typeName = typeName' at htype hrest
  generalize hdigests' : claim'.schemaDigests = digests' at hdigests hrest
  subst hrest
  unfold PlotJugglerSdk.normalizeAndValidateClaim
  refine .guard Iff.rfl (.guard Iff.rfl (.guard Iff.rfl (.guard Iff.rfl ?_)))
  dsimp only
  rw [← htype]
  cases normalizeParserTypeName claim.encoding claim.typeName with
  | error e => exact .error e e
  | ok typeName =>
    dsimp only
    refine .guard Iff.rfl (.guard Iff.rfl (.guard Iff.rfl (.guard Iff.rfl (.guard Iff.rfl ?_))))
    refine .guard hdigests.malformed_iff (.ok ⟨hdigests, rfl⟩)

end ParserClaim

/-! ## Catalogs -/

/-- Entries that differ in their digests' spelling only. -/
def ParserClaimEntry.Alike (entry entry' : ParserClaimEntry) : Prop :=
  ParserClaim.Alike entry.claim entry'.claim ∧
    entry.providerGeneration = entry'.providerGeneration

theorem ParserClaimEntry.Alike.identity {entry entry' : ParserClaimEntry}
    (h : Alike entry entry') : entry.identity = entry'.identity := h.1.identity

theorem identities_alike {claims claims' : List ParserClaim}
    (h : List.Forall₂ ParserClaim.Alike claims claims') :
    claims.map identityOf = claims'.map identityOf := by
  induction h with
  | nil => rfl
  | cons hhead _ ih => rw [List.map_cons, List.map_cons, hhead.identity, ih]

theorem heldIdentities_alike {entries entries' : List ParserClaimEntry}
    (h : List.Forall₂ ParserClaimEntry.Alike entries entries') :
    entries.map ParserClaimEntry.identity = entries'.map ParserClaimEntry.identity := by
  induction h with
  | nil => rfl
  | cons hhead _ ih => rw [List.map_cons, List.map_cons, hhead.identity, ih]

namespace ParserClaimCatalog

/-- Catalogs that differ in the spelling of digests only. -/
structure Alike (catalog catalog' : ParserClaimCatalog) : Prop where
  claims : List.Forall₂ ParserClaimEntry.Alike catalog.claims catalog'.claims
  generation : catalog.generation = catalog'.generation

theorem checkBatch_alike {held held' : List ParserClaimEntry}
    (hheld : List.Forall₂ ParserClaimEntry.Alike held held') (provenance : ParserClaimProvenance)
    {claims claims' : List ParserClaim} (h : List.Forall₂ ParserClaim.Respelled claims claims')
    {validated validated' : List ParserClaim}
    (hvalidated : List.Forall₂ ParserClaim.Alike validated validated') :
    Agree (List.Forall₂ ParserClaim.Alike) (checkBatch held provenance validated claims)
      (checkBatch held' provenance validated' claims') := by
  -- the claims that have passed stay alike through the loop
  induction h generalizing validated validated' with
  | nil => exact .ok hvalidated
  | @cons claim claim' _ _ hclaim _ ih =>
    obtain ⟨htype, hdigests, hrest⟩ := hclaim
    have hprovenance : ParserClaim.Respelled { claim with provenance } { claim' with provenance } :=
      ⟨by rw [hrest] at htype ⊢; exact htype, hdigests, by rw [hrest]⟩
    have hchecked := hprovenance.normalizeAndValidateClaim
    unfold checkBatch
    generalize normalizeAndValidateClaim { claim with provenance } = normal at hchecked ⊢
    generalize normalizeAndValidateClaim { claim' with provenance } = normal' at hchecked ⊢
    cases hchecked with
    | error e e' => exact .error _ _
    | @ok normal normal' hnormal =>
      dsimp only
      rw [identities_alike hvalidated, heldIdentities_alike hheld, hnormal.identity]
      exact .guard Iff.rfl (ih (List.rel_append hvalidated (.cons hnormal .nil)))

theorem admitClaims_alike {catalog catalog' : ParserClaimCatalog}
    (hcatalog : Alike catalog catalog')
    {claims claims' : List ParserClaim} (h : List.Forall₂ ParserClaim.Respelled claims claims')
    (provenance : ParserClaimProvenance) (providerGeneration : UInt64) :
    Alike (catalog.admitClaims claims provenance providerGeneration).2.2
      (catalog'.admitClaims claims' provenance providerGeneration).2.2 := by
  have hbatch := checkBatch_alike hcatalog.claims provenance h .nil
  unfold admitClaims
  generalize checkBatch catalog.claims provenance [] claims = passed at hbatch ⊢
  generalize checkBatch catalog'.claims provenance [] claims' = passed' at hbatch ⊢
  cases hbatch with
  | error e e' => exact hcatalog
  | ok hpassed =>
    cases hpassed with
    | nil => exact hcatalog
    | cons hclaim hclaims =>
      refine ⟨List.rel_append hcatalog.claims ?_, congrArg (· + 1) hcatalog.generation⟩
      rw [List.forall₂_map_left_iff, List.forall₂_map_right_iff]
      exact (List.Forall₂.cons hclaim hclaims).imp fun _ _ halike => ⟨halike, rfl⟩

theorem removeProvider_alike {catalog catalog' : ParserClaimCatalog}
    (h : Alike catalog catalog') (providerId : Bytes) :
    Alike (catalog.removeProvider providerId).2 (catalog'.removeProvider providerId).2 := by
  have hkept : List.Forall₂ ParserClaimEntry.Alike
      (catalog.claims.filter fun entry => entry.claim.providerId ≠ providerId)
      (catalog'.claims.filter fun entry => entry.claim.providerId ≠ providerId) := by
    apply forall₂_filter
    refine h.claims.imp ?_
    intro entry entry' halike
    refine ⟨halike, ?_⟩
    rw [halike.1.rest]
  unfold removeProvider
  dsimp only
  rw [hkept.length_eq, h.claims.length_eq]
  split
  · exact h
  · exact ⟨hkept, congrArg (· + 1) h.generation⟩

theorem clear_alike {catalog catalog' : ParserClaimCatalog} (h : Alike catalog catalog') :
    Alike catalog.clear catalog'.clear := by
  have hempty : catalog.claims = [] ↔ catalog'.claims = [] := by
    rw [← List.length_eq_zero_iff, ← List.length_eq_zero_iff, h.claims.length_eq]
  unfold clear
  by_cases hnil : catalog.claims = []
  · rw [if_pos hnil, if_pos (hempty.mp hnil)]
    exact h
  · rw [if_neg hnil, if_neg fun hnil' => hnil (hempty.mpr hnil')]
    exact ⟨.nil, congrArg (· + 1) h.generation⟩

end ParserClaimCatalog

/-! ## Parser plugins -/

/-- Classified types that differ in spelling only. -/
structure ParserPluginExactClaim.Respelled (exact exact' : ParserPluginExactClaim) : Prop where
  typeName : normalizeParserTypeName exact.encoding exact.typeName =
    normalizeParserTypeName exact.encoding exact'.typeName
  digests : SameDigests exact.schemaDigests exact'.schemaDigests
  rest : exact' =
    { exact with typeName := exact'.typeName, schemaDigests := exact'.schemaDigests }

/-- Only the wildcard has the wildcard's normal form. -/
theorem eq_any_of_normal {encoding typeName : Bytes}
    (h : normalizeParserTypeName encoding typeName = .ok kAnyType) : typeName = kAnyType := by
  unfold normalizeParserTypeName at h
  split at h
  · exact absurd h (by simp)
  split at h
  · exact absurd h (by simp)
  split at h
  next hany => exact hany
  split at h
  · obtain ⟨package, name, hslashes, -⟩ := normalizeRos2TypeName_ok h
    have hslash : kSlash ∈ kAnyType := by
      rw [hslashes]
      simp
    exact absurd hslash (by decide)
  split at h
  · exact absurd rfl (normalizeProtobufTypeName_ok h).2.1
  · exact Except.ok.inj h

/-- The wildcard is its own normal form in every encoding there is. -/
theorem normalizeParserTypeName_any {encoding : Bytes}
    (h : isRegisteredParserEncoding encoding = true) :
    normalizeParserTypeName encoding kAnyType = .ok kAnyType := by
  have hne : kAnyType ≠ [] := by decide
  unfold normalizeParserTypeName
  rw [if_neg (by simp [h]), if_neg hne, if_pos rfl]

theorem normalizeParserTypeName_registered {encoding typeName normal : Bytes}
    (h : normalizeParserTypeName encoding typeName = .ok normal) :
    isRegisteredParserEncoding encoding = true := by
  unfold normalizeParserTypeName at h
  split at h
  · exact absurd h (by simp)
  next hencoding => simpa using hencoding

theorem exactClaim_alike (providerId : Bytes) (provenance : ParserClaimProvenance)
    (encodings : List Bytes) {exact exact' : ParserPluginExactClaim}
    (h : ParserPluginExactClaim.Respelled exact exact') :
    Agree (Option.Rel ParserClaim.Alike) (exactClaim providerId provenance encodings exact)
      (exactClaim providerId provenance encodings exact') := by
  obtain ⟨htype, hdigests, hrest⟩ := h
  generalize htype' : exact'.typeName = typeName' at htype hrest
  generalize hdigests' : exact'.schemaDigests = digests' at hdigests hrest
  subst hrest
  unfold exactClaim
  dsimp only
  refine .guard Iff.rfl (.guard Iff.rfl ?_)
  by_cases hdeclined : exact.classification.status = PJ_PARSER_ROUTE_STATUS_DECLINED_V1
  · rw [if_pos hdeclined, if_pos hdeclined]
    exact .guard Iff.rfl (.ok .none)
  · rw [if_neg hdeclined, if_neg hdeclined]
    refine .guard Iff.rfl ?_
    rw [← htype]
    cases hnormal : normalizeParserTypeName exact.encoding exact.typeName with
    | error e =>
      -- without a normal form both fail, whichever check comes first
      exact .of_fails (.guard (.guard ⟨e, rfl⟩)) (.guard (.guard ⟨e, rfl⟩))
    | ok normal =>
      have hany : exact.typeName = kAnyType ↔ typeName' = kAnyType := by
        have hself := normalizeParserTypeName_any (normalizeParserTypeName_registered hnormal)
        constructor
        · intro hname
          rw [hname, hself] at htype
          exact eq_any_of_normal htype.symm
        · intro hname
          rw [hname, hself] at htype
          exact eq_any_of_normal htype
      refine .guard hany (.guard Iff.rfl ?_)
      show Agree _ (normalizeAndValidateClaim _ >>= _) (normalizeAndValidateClaim _ >>= _)
      refine Agree.bind (ParserClaim.Respelled.normalizeAndValidateClaim ⟨rfl, hdigests, rfl⟩) ?_
      intro claim claim' halike
      exact .ok (.some halike)

theorem exactClaims_alike (providerId : Bytes) (provenance : ParserClaimProvenance)
    (encodings : List Bytes) {exact exact' : List ParserPluginExactClaim}
    (h : List.Forall₂ ParserPluginExactClaim.Respelled exact exact')
    {claims claims' : List ParserClaim} (hclaims : List.Forall₂ ParserClaim.Alike claims claims') :
    Agree (List.Forall₂ ParserClaim.Alike)
      (exactClaims providerId provenance encodings claims exact)
      (exactClaims providerId provenance encodings claims' exact') := by
  induction h generalizing claims claims' with
  | nil => exact .ok hclaims
  | @cons exact exact' _ _ hexact _ ih =>
    unfold exactClaims
    apply Agree.bind (exactClaim_alike providerId provenance encodings hexact)
    intro claim claim' halike
    cases halike with
    | none => exact ih hclaims
    | some halike =>
      dsimp only
      rw [identities_alike hclaims, halike.identity]
      exact .guard Iff.rfl (ih (List.rel_append hclaims (.cons halike .nil)))

theorem synthesizeParserPluginClaims_alike (providerId : Bytes) (manifestEncodings : List Bytes)
    {exact exact' : List ParserPluginExactClaim}
    (h : List.Forall₂ ParserPluginExactClaim.Respelled exact exact')
    (provenance : ParserClaimProvenance) :
    Agree (List.Forall₂ ParserClaim.Alike)
      (synthesizeParserPluginClaims providerId manifestEncodings exact provenance)
      (synthesizeParserPluginClaims providerId manifestEncodings exact' provenance) := by
  unfold synthesizeParserPluginClaims
  refine .guard Iff.rfl ?_
  cases wildcardClaims providerId provenance [] manifestEncodings with
  | error e => exact .error e e
  | ok claims =>
    exact exactClaims_alike providerId provenance manifestEncodings h
      (List.forall₂_same.mpr fun claim _ => .refl claim)

/-! ## Runs -/

section Runs

variable (parseJson : Bytes → Except Bytes Value)

namespace CatalogCall

/-- Calls that differ in spelling only. A manifest is judged by the claims it declares. -/
inductive Respelled : CatalogCall → CatalogCall → Prop where
  | admitClaims {claims claims' : List ParserClaim} (provenance : ParserClaimProvenance)
      (providerGeneration : UInt64) (h : List.Forall₂ ParserClaim.Respelled claims claims') :
      Respelled (.admitClaims claims provenance providerGeneration)
        (.admitClaims claims' provenance providerGeneration)
  | ingestModuleManifest {manifestJson manifestJson' : Bytes} (provenance : ParserClaimProvenance)
      (providerGeneration : UInt64)
      (h : Agree (fun manifest manifest' : ParserModuleManifest =>
          List.Forall₂ ParserClaim.Respelled manifest.claims manifest'.claims)
        (decodeParserModuleManifest parseJson manifestJson provenance)
        (decodeParserModuleManifest parseJson manifestJson' provenance)) :
      Respelled (.ingestModuleManifest manifestJson provenance providerGeneration)
        (.ingestModuleManifest manifestJson' provenance providerGeneration)
  | admitParserPlugin (providerId : Bytes) (manifestEncodings : List Bytes)
      {exact exact' : List ParserPluginExactClaim} (provenance : ParserClaimProvenance)
      (providerGeneration : UInt64)
      (h : List.Forall₂ ParserPluginExactClaim.Respelled exact exact') :
      Respelled (.admitParserPlugin providerId manifestEncodings exact provenance
        providerGeneration)
        (.admitParserPlugin providerId manifestEncodings exact' provenance providerGeneration)
  | removeProvider (providerId : Bytes) :
      Respelled (.removeProvider providerId) (.removeProvider providerId)
  | clear : Respelled .clear .clear

theorem step_alike {call call' : CatalogCall} (h : Respelled parseJson call call')
    {catalog catalog' : ParserClaimCatalog} (hcatalog : catalog.Alike catalog') :
    (step parseJson call catalog).2.Alike (step parseJson call' catalog').2 := by
  cases h with
  | admitClaims provenance providerGeneration h =>
    exact ParserClaimCatalog.admitClaims_alike hcatalog h provenance providerGeneration
  | @ingestModuleManifest manifestJson manifestJson' provenance providerGeneration h =>
    show ParserClaimCatalog.Alike
      (catalog.ingestModuleManifest parseJson manifestJson provenance providerGeneration).2.2
      (catalog'.ingestModuleManifest parseJson manifestJson' provenance providerGeneration).2.2
    unfold ParserClaimCatalog.ingestModuleManifest
    generalize decodeParserModuleManifest parseJson manifestJson provenance = decoded at h ⊢
    generalize decodeParserModuleManifest parseJson manifestJson' provenance = decoded' at h ⊢
    cases h with
    | error e e' => exact hcatalog
    | @ok manifest manifest' h =>
      have hadmitted :=
        ParserClaimCatalog.admitClaims_alike hcatalog h provenance providerGeneration
      dsimp only
      -- the catalog is the admission's, accepted or not
      generalize catalog.admitClaims manifest.claims provenance providerGeneration = admission
        at hadmitted ⊢
      generalize catalog'.admitClaims manifest'.claims provenance providerGeneration = admission'
        at hadmitted ⊢
      obtain ⟨answer, reports, next⟩ := admission
      obtain ⟨answer', reports', next'⟩ := admission'
      cases answer with
      | error e =>
        cases answer' with
        | error e' => exact hadmitted
        | ok => exact hadmitted
      | ok =>
        cases answer' with
        | error e' => exact hadmitted
        | ok => exact hadmitted
  | @admitParserPlugin providerId manifestEncodings exact exact' provenance providerGeneration h =>
    have hclaims := synthesizeParserPluginClaims_alike providerId manifestEncodings h provenance
    show ParserClaimCatalog.Alike
      (catalog.admitParserPlugin providerId manifestEncodings exact provenance
        providerGeneration).2.2
      (catalog'.admitParserPlugin providerId manifestEncodings exact' provenance
        providerGeneration).2.2
    unfold ParserClaimCatalog.admitParserPlugin
    generalize synthesizeParserPluginClaims providerId manifestEncodings exact provenance = claims
      at hclaims ⊢
    generalize synthesizeParserPluginClaims providerId manifestEncodings exact' provenance = claims'
      at hclaims ⊢
    cases hclaims with
    | error e e' => exact hcatalog
    | ok hclaims =>
      exact ParserClaimCatalog.admitClaims_alike hcatalog
        (hclaims.imp fun _ _ halike => halike.respelled) provenance providerGeneration
  | removeProvider providerId => exact ParserClaimCatalog.removeProvider_alike hcatalog providerId
  | clear => exact ParserClaimCatalog.clear_alike hcatalog

/-- Respelling the calls respells the digests of the catalog, and nothing else. -/
theorem run_alike {calls calls' : List CatalogCall}
    (h : List.Forall₂ (Respelled parseJson) calls calls') {catalog catalog' : ParserClaimCatalog}
    (hcatalog : catalog.Alike catalog') :
    (run parseJson calls catalog).Alike (run parseJson calls' catalog') := by
  induction h generalizing catalog catalog' with
  | nil => exact hcatalog
  | cons hcall _ ih => exact ih (step_alike parseJson hcall hcatalog)

end CatalogCall

end Runs

/-! ## Resolution -/

/-- Requests that differ in spelling only. -/
structure ParserRouteRequest.Respelled (request request' : ParserRouteRequest) : Prop where
  encoding : request.encoding = request'.encoding
  typeName : normalizeParserTypeName request.encoding request.typeName =
    normalizeParserTypeName request.encoding request'.typeName
  schemaDigest : SameDigest request.schemaDigest request'.schemaDigest
  route : request.route = request'.route

/-- One claim of one generation of its provider, up to the spelling of its digests. -/
def ParserRouteCandidate.Alike (candidate candidate' : ParserRouteCandidate) : Prop :=
  ParserClaim.Alike candidate.claim candidate'.claim ∧
    candidate.providerGeneration = candidate'.providerGeneration

/-- Everything that makes a claim a candidate but the digest. -/
def isAbout (request : ParserRouteRequest) (normalizedType : Bytes) (pin : Option Bytes)
    (claim : ParserClaim) : Prop :=
  claim.encoding = request.encoding ∧ claim.routeFlags &&& request.route.flag ≠ 0 ∧
    (claim.typeName = kAnyType ∨ claim.typeName = normalizedType) ∧
    pin.all (claim.providerId = ·) = true

/-- Claims that list the digests of their requests, as spelled, or both do not. -/
def ListedAlike (request request' : ParserRouteRequest) (pins : ParserRoutePins)
    (entry entry' : ParserClaimEntry) : Prop :=
  ∀ normalizedType,
    normalizeParserTypeName request.encoding request.typeName = .ok normalizedType →
      isAbout request normalizedType (pins.forRoute request.route) entry.claim →
        (request.schemaDigest ∈ entry.claim.schemaDigests ↔
          request'.schemaDigest ∈ entry'.claim.schemaDigests)

theorem isCandidate_iff {request : ParserRouteRequest} {normalizedType : Bytes}
    {pin : Option Bytes} {claim : ParserClaim} :
    isCandidate request normalizedType pin claim = true ↔
      isAbout request normalizedType pin claim ∧
        (claim.schemaDigests = ∅ ∨ request.schemaDigest ∈ claim.schemaDigests) := by
  unfold isCandidate isAbout
  rw [decide_eq_true_iff]
  constructor
  · rintro ⟨hencoding, hroute, htype, hdigest, hpin⟩
    exact ⟨⟨hencoding, hroute, htype, hpin⟩, hdigest⟩
  · rintro ⟨⟨hencoding, hroute, htype, hpin⟩, hdigest⟩
    exact ⟨hencoding, hroute, htype, hdigest, hpin⟩

theorem isAbout_alike {request request' : ParserRouteRequest} (h : request.Respelled request')
    {claim claim' : ParserClaim} (hclaim : claim.Alike claim') (normalizedType : Bytes)
    (pin : Option Bytes) :
    isAbout request normalizedType pin claim ↔ isAbout request' normalizedType pin claim' := by
  unfold isAbout
  rw [hclaim.rest, h.encoding, h.route]

theorem candidateLess_alike (lhs lhs' rhs rhs' : ParserRouteCandidate) (hl : lhs.Alike lhs')
    (hr : rhs.Alike rhs') : candidateLess lhs rhs = candidateLess lhs' rhs' := by
  unfold candidateLess isExact
  rw [hl.1.rest, hr.1.rest]

section Request

variable {request request' : ParserRouteRequest} {catalog catalog' : ParserClaimCatalog}

/-- Where every claim is matched alike, the candidates are alike and in the same order. -/
theorem orderedCandidates_alike (hrequest : request.Respelled request')
    (hcatalog : catalog.Alike catalog') (pins : ParserRoutePins)
    (hlisted : List.Forall₂ (ListedAlike request request' pins) catalog.claims catalog'.claims) :
    Agree (List.Forall₂ ParserRouteCandidate.Alike) (orderedCandidates request catalog pins)
      (orderedCandidates request' catalog' pins) := by
  unfold orderedCandidates
  rw [← hrequest.encoding, ← hrequest.route, ← hrequest.typeName]
  refine .guard Iff.rfl ?_
  cases hnormal : normalizeParserTypeName request.encoding request.typeName with
  | error e => exact .error e e
  | ok normalizedType =>
    refine .ok (forall₂_sortBy candidateLess_alike ?_)
    rw [List.forall₂_map_left_iff, List.forall₂_map_right_iff]
    apply forall₂_filter
    refine List.Forall₂.mp ?_ hcatalog.claims hlisted
    intro entry entry' halike hlist
    refine ⟨halike, ?_⟩
    rw [Bool.eq_iff_iff, isCandidate_iff, isCandidate_iff, halike.1.digests.empty_iff,
      isAbout_alike hrequest halike.1]
    apply and_congr_right
    intro habout
    rw [hlist normalizedType hnormal ((isAbout_alike hrequest halike.1 _ _).mpr habout)]

/-- The answer to a request whose type name has a normal form. -/
theorem orderedCandidates_eq {request : ParserRouteRequest} {normalizedType : Bytes}
    (hnormal : normalizeParserTypeName request.encoding request.typeName = .ok normalizedType)
    (catalog : ParserClaimCatalog) (pins : ParserRoutePins) :
    orderedCandidates request catalog pins =
      .ok (sortBy candidateLess ((catalog.claims.filter
        (isCandidate request normalizedType (pins.forRoute request.route) ·.claim)).map
          fun entry => { entry with : ParserRouteCandidate })) := by
  unfold orderedCandidates
  rw [if_neg (by simp [normalizeParserTypeName_registered hnormal]), hnormal]

theorem mem_orderedCandidates_iff {request : ParserRouteRequest} {catalog : ParserClaimCatalog}
    {pins : ParserRoutePins} {normalizedType : Bytes}
    (hnormal : normalizeParserTypeName request.encoding request.typeName = .ok normalizedType)
    {candidates : List ParserRouteCandidate}
    (h : orderedCandidates request catalog pins = .ok candidates)
    {candidate : ParserRouteCandidate} :
    candidate ∈ candidates ↔
      ∃ entry ∈ catalog.claims,
        isCandidate request normalizedType (pins.forRoute request.route) entry.claim = true ∧
          { entry with : ParserRouteCandidate } = candidate := by
  rw [orderedCandidates_eq hnormal] at h
  obtain rfl := Except.ok.inj h
  rw [mem_sortBy, List.mem_map]
  constructor
  · rintro ⟨entry, hentry, heq⟩
    rw [List.mem_filter] at hentry
    exact ⟨entry, hentry.1, hentry.2, heq⟩
  · rintro ⟨entry, hmem, hcandidate, heq⟩
    exact ⟨entry, List.mem_filter.mpr ⟨hmem, hcandidate⟩, heq⟩

/-- In a catalog an identity belongs to one entry. -/
theorem Lawful.eq_of_identity {catalog : ParserClaimCatalog} (h : Lawful catalog)
    {entry entry' : ParserClaimEntry} (hentry : entry ∈ catalog.claims)
    (hentry' : entry' ∈ catalog.claims) (heq : entry.identity = entry'.identity) :
    entry = entry' :=
  List.inj_on_of_nodup_map h.distinct hentry hentry' heq

/-- Candidates that are alike come from claims that were matched alike. -/
theorem listedAlike_of_candidates (hrequest : request.Respelled request')
    (hlawful : Lawful catalog) (hlawful' : Lawful catalog') (hcatalog : catalog.Alike catalog')
    {pins : ParserRoutePins}
    (h : Agree (List.Forall₂ ParserRouteCandidate.Alike) (orderedCandidates request catalog pins)
      (orderedCandidates request' catalog' pins)) :
    List.Forall₂ (ListedAlike request request' pins) catalog.claims catalog'.claims := by
  obtain ⟨pairs, hfst, hsnd, hpairs⟩ := pairs_of_forall₂ hcatalog.claims
  rw [hfst, hsnd]
  apply forall₂_of_pairs
  intro pair hpair normalizedType hnormal habout
  have halike := hpairs pair hpair
  have hmem : pair.1 ∈ catalog.claims := hfst ▸ List.mem_map_of_mem hpair
  have hmem' : pair.2 ∈ catalog'.claims := hsnd ▸ List.mem_map_of_mem hpair
  have hnormal' : normalizeParserTypeName request'.encoding request'.typeName =
      .ok normalizedType := by
    rw [← hrequest.encoding, ← hrequest.typeName]
    exact hnormal
  have habout' := (isAbout_alike hrequest halike.1 _ _).mp habout
  rw [hrequest.route] at habout'
  cases hordered : orderedCandidates request catalog pins with
  | error e =>
    -- a type name with a normal form is not refused
    rw [orderedCandidates_eq hnormal] at hordered
    exact nomatch hordered
  | ok candidates =>
    rw [hordered] at h
    generalize hordered' : orderedCandidates request' catalog' pins = answer' at h
    cases h with
    | @ok _ candidates' hcandidates =>
      constructor
      · intro hlisted
        have hcandidate := (mem_orderedCandidates_iff hnormal hordered).mpr
          ⟨pair.1, hmem, isCandidate_iff.mpr ⟨habout, .inr hlisted⟩, rfl⟩
        obtain ⟨candidate', hcandidate', hsame⟩ := exists_of_mem_left hcandidates hcandidate
        obtain ⟨entry', hentry', hmatched, rfl⟩ :=
          (mem_orderedCandidates_iff hnormal' hordered').mp hcandidate'
        have hidentity : pair.2.identity = entry'.identity :=
          halike.identity.symm.trans hsame.1.identity
        obtain rfl := hlawful'.eq_of_identity hmem' hentry' hidentity
        rcases (isCandidate_iff.mp hmatched).2 with hempty | hlisted'
        · rw [halike.1.digests.empty_iff.mpr hempty] at hlisted
          exact absurd hlisted (Finset.notMem_empty _)
        · exact hlisted'
      · intro hlisted'
        have hcandidate' := (mem_orderedCandidates_iff hnormal' hordered').mpr
          ⟨pair.2, hmem', isCandidate_iff.mpr ⟨habout', .inr hlisted'⟩, rfl⟩
        obtain ⟨candidate, hcandidate, hsame⟩ := exists_of_mem_right hcandidates hcandidate'
        obtain ⟨entry, hentry, hmatched, rfl⟩ :=
          (mem_orderedCandidates_iff hnormal hordered).mp hcandidate
        have hidentity : entry.identity = pair.1.identity :=
          hsame.1.identity.trans halike.identity.symm
        obtain rfl := hlawful.eq_of_identity hentry hmem hidentity
        rcases (isCandidate_iff.mp hmatched).2 with hempty | hlisted
        · rw [halike.1.digests.empty_iff.mp hempty] at hlisted'
          exact absurd hlisted' (Finset.notMem_empty _)
        · exact hlisted

end Request

/-- Two spellings of the calls and of the request find the same candidates in the same order
where they match every claim alike; the type names never matter. -/
theorem resolution_respelled_iff (parseJson : Bytes → Except Bytes Value)
    {calls calls' : List CatalogCall}
    (hcalls : List.Forall₂ (CatalogCall.Respelled parseJson) calls calls')
    {request request' : ParserRouteRequest} (hrequest : request.Respelled request')
    (pins : ParserRoutePins) :
    let catalog := CatalogCall.run parseJson calls {}
    let catalog' := CatalogCall.run parseJson calls' {}
    (∀ encoding typeName normal, normalizeParserTypeName encoding typeName = .ok normal →
      normalizeParserTypeName encoding normal = .ok normal) ∧
    (Agree (List.Forall₂ ParserRouteCandidate.Alike) (orderedCandidates request catalog pins)
        (orderedCandidates request' catalog' pins) ↔
      List.Forall₂ (ListedAlike request request' pins) catalog.claims catalog'.claims) := by
  intro catalog catalog'
  have hempty : Lawful {} := ⟨List.nodup_nil, by simp⟩
  have hlawful : Lawful catalog := CatalogCall.run_lawful parseJson calls hempty
  have hlawful' : Lawful catalog' := CatalogCall.run_lawful parseJson calls' hempty
  have hcatalog : catalog.Alike catalog' :=
    CatalogCall.run_alike parseJson hcalls ⟨.nil, rfl⟩
  refine ⟨fun _ _ _ => normalizeParserTypeName_normal, ?_⟩
  constructor
  · exact listedAlike_of_candidates hrequest hlawful hlawful' hcatalog
  · exact orderedCandidates_alike hrequest hcatalog pins

/-! A claim of one schema, spelled in two ways. -/

def lowerDigest : Bytes := text "sha256:" ++ List.replicate 64 0x61

def upperDigest : Bytes := text "sha256:" ++ List.replicate 64 0x41

/-- A claim for the type `p/T`. -/
def digestClaim (typeName digest : Bytes) : ParserClaim :=
  { encoding := text "ros2msg", typeName, routeFlags := kRouteFlagScalar
    schemaDigests := {digest}, providerId := text "p", claimId := text "c" }

def digestRequest (typeName digest : Bytes) : ParserRouteRequest :=
  { encoding := text "ros2msg", typeName, schemaDigest := digest }

def shortName : Bytes := text "p/T"

def longName : Bytes := text "p/msg/T"

theorem normalize_shortName :
    normalizeParserTypeName (text "ros2msg") shortName = .ok longName := by
  decide

theorem normalize_longName : normalizeParserTypeName (text "ros2msg") longName = .ok longName := by
  decide

theorem sameDigest_upper_lower : SameDigest upperDigest lowerDigest := by
  refine .inr ⟨by decide, by decide, by decide⟩

theorem digestRequest_respelled {digest digest' : Bytes} (h : SameDigest digest digest') :
    (digestRequest shortName digest).Respelled (digestRequest longName digest') :=
  ⟨rfl, normalize_shortName.trans normalize_longName.symm, h, rfl⟩

theorem digestClaim_respelled {digest digest' : Bytes} (h : SameDigest digest digest') :
    (digestClaim shortName digest).Respelled (digestClaim longName digest') := by
  refine ⟨normalize_shortName.trans normalize_longName.symm, ⟨?_, ?_⟩, rfl⟩
  · intro d hmem
    obtain rfl : d = digest := Finset.mem_singleton.mp hmem
    exact ⟨digest', Finset.mem_singleton_self digest', h⟩
  · intro d hmem
    obtain rfl : d = digest' := Finset.mem_singleton.mp hmem
    exact ⟨digest, Finset.mem_singleton_self digest, h⟩

/-- The catalog of one admitted claim. -/
def digestCalls (claim : ParserClaim) : List CatalogCall := [.admitClaims [claim] .bundled 1]

theorem run_digestCalls (parseJson : Bytes → Except Bytes Value) {typeName digest : Bytes}
    (h : normalizeAndValidateClaim { digestClaim typeName digest with provenance := .bundled } =
      .ok { digestClaim longName digest with provenance := .bundled }) :
    (CatalogCall.run parseJson (digestCalls (digestClaim typeName digest)) {}).claims =
      [{ claim := { digestClaim longName digest with provenance := .bundled }
         providerGeneration := 1 }] := by
  show (ParserClaimCatalog.admitClaims [digestClaim typeName digest] .bundled 1 {}).2.2.claims = _
  unfold ParserClaimCatalog.admitClaims ParserClaimCatalog.checkBatch
  rw [h]
  rfl

/-- No manifest is read here. -/
def noJson : Bytes → Except Bytes Value := fun _ => .error []

theorem resolution_respelled_names :
    let calls := digestCalls (digestClaim shortName lowerDigest)
    let calls' := digestCalls (digestClaim longName lowerDigest)
    List.Forall₂ (CatalogCall.Respelled noJson) calls calls' ∧
      (digestRequest shortName lowerDigest).Respelled (digestRequest longName lowerDigest) ∧
      Agree (List.Forall₂ ParserRouteCandidate.Alike)
        (orderedCandidates (digestRequest shortName lowerDigest)
          (CatalogCall.run noJson calls {}) {})
        (orderedCandidates (digestRequest longName lowerDigest)
          (CatalogCall.run noJson calls' {}) {}) := by
  intro calls calls'
  have hcalls : List.Forall₂ (CatalogCall.Respelled noJson) calls calls' :=
    .cons (.admitClaims .bundled 1 (.cons (digestClaim_respelled (.inl rfl)) .nil)) .nil
  have hrequest := @digestRequest_respelled lowerDigest lowerDigest (.inl rfl)
  refine ⟨hcalls, hrequest, (resolution_respelled_iff noJson hcalls hrequest {}).2.mpr ?_⟩
  rw [run_digestCalls noJson (by decide), run_digestCalls noJson (by decide)]
  refine .cons ?_ .nil
  intro normalizedType _ _
  exact Iff.rfl

/-- A claim for a digest that is written in upper case is not found in lower case. -/
theorem upperCase_missed :
    let calls := digestCalls (digestClaim longName upperDigest)
    let catalog := CatalogCall.run noJson calls {}
    (digestRequest longName upperDigest).Respelled (digestRequest longName lowerDigest) ∧
      catalog.claims.length = 1 ∧
      (orderedCandidates (digestRequest longName upperDigest) catalog {}).map List.length = .ok 1 ∧
      orderedCandidates (digestRequest longName lowerDigest) catalog {} = .ok [] ∧
      ¬Agree (List.Forall₂ ParserRouteCandidate.Alike)
        (orderedCandidates (digestRequest longName upperDigest) catalog {})
        (orderedCandidates (digestRequest longName lowerDigest) catalog {}) := by
  intro calls catalog
  have hclaims := @run_digestCalls noJson longName upperDigest (by decide)
  have hordered (digest : Bytes) :=
    @orderedCandidates_eq (digestRequest longName digest) longName normalize_longName catalog {}
  -- the digest as the claim spells it is found
  have hupper : (orderedCandidates (digestRequest longName upperDigest) catalog {}).map
      List.length = .ok 1 := by
    rw [hordered]
    show Except.ok (sortBy candidateLess _).length = _
    rw [(sortBy_perm_self _ _).length_eq, hclaims]
    decide
  -- the same digest in the other case is not
  have hlower : orderedCandidates (digestRequest longName lowerDigest) catalog {} = .ok [] := by
    have hnone : catalog.claims.filter
        (isCandidate (digestRequest longName lowerDigest) longName none ·.claim) = [] := by
      rw [hclaims]
      decide
    have hnil : sortBy candidateLess [] = [] := List.mergeSort_nil
    rw [hordered]
    show Except.ok (sortBy candidateLess ((catalog.claims.filter
      (isCandidate (digestRequest longName lowerDigest) longName none ·.claim)).map _)) = _
    rw [hnone, List.map_nil, hnil]
  refine ⟨⟨rfl, rfl, sameDigest_upper_lower, rfl⟩, ?_, hupper, hlower, ?_⟩
  · rw [hclaims]
    rfl
  · intro hagree
    rw [hlower] at hagree
    generalize orderedCandidates (digestRequest longName upperDigest) catalog {} = answer
      at hupper hagree
    cases hagree with
    | ok hcandidates =>
      rw [List.forall₂_nil_right_iff] at hcandidates
      rw [hcandidates] at hupper
      exact absurd hupper (by decide)

end PlotJugglerSdk
