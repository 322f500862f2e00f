import PlotJugglerSdk.Host.ModuleManifest
import Mathlib.Tactic.Ring

/-!
# The claim catalog

The host's one list of admitted claims. A batch is checked claim by claim,
against the batch and against the catalog, before anything of it is appended;
the generation counts the changes of the list, in 64 bits.

* `step_change`             — all that a call can do to the catalog
* `Lawful.step`             — distinct identities, validated claims
* `catalog_runs`            — what holds after every run of calls
* `generation_wraps`        — the change after which the generation is 0 again
-/

namespace PlotJugglerSdk

open Wire Json

inductive DiagnosticLevel where
  | info
  | warning
  | error
  deriving DecidableEq

/-- What a component tells the host's diagnostic sink. -/
structure Diagnostic where
  level : DiagnosticLevel
  id : Bytes
  message : Bytes
  deriving DecidableEq

structure ParserClaimEntry where
  claim : ParserClaim
  providerGeneration : UInt64 := 0
  deriving DecidableEq

/-- The identity of an entry's claim. -/
def ParserClaimEntry.identity (entry : ParserClaimEntry) : ParserClaimIdentity :=
  identityOf entry.claim

structure ParserClaimCatalog where
  claims : List ParserClaimEntry := []
  generation : UInt64 := 0
  deriving DecidableEq

namespace ParserClaimCatalog

/-! ## The operations -/

/-- The loop over a batch; `validated` are the claims that have passed. -/
def checkBatch (held : List ParserClaimEntry) (provenance : ParserClaimProvenance) :
    List ParserClaim → List ParserClaim → Except Diagnostic (List ParserClaim)
  | validated, [] => .ok validated
  | validated, claim :: claims =>
    match normalizeAndValidateClaim { claim with provenance } with
    | .error e => .error { level := .error, id := [], message := e }
    | .ok claim =>
      if identityOf claim ∈ validated.map identityOf ∨
          identityOf claim ∈ held.map ParserClaimEntry.identity then
        .error { level := .error, id := claim.providerId, message := duplicateIdentity claim }
      else checkBatch held provenance (validated ++ [claim]) claims

def admitClaims (claims : List ParserClaim) (provenance : ParserClaimProvenance)
    (providerGeneration : UInt64) (catalog : ParserClaimCatalog) :
    Except Bytes Unit × List Diagnostic × ParserClaimCatalog :=
  match checkBatch catalog.claims provenance [] claims with
  | .error report => (.error report.message, [report], catalog)
  | .ok [] => (.ok (), [], catalog)
  | .ok (claim :: claims) =>
    (.ok (), [],
      { claims := catalog.claims ++ (claim :: claims).map ({ claim := ·, providerGeneration })
        generation := catalog.generation + 1 })

def ingestModuleManifest (parseJson : Bytes → Except Bytes Value) (manifestJson : Bytes)
    (provenance : ParserClaimProvenance) (providerGeneration : UInt64)
    (catalog : ParserClaimCatalog) :
    Except Bytes ParserModuleManifest × List Diagnostic × ParserClaimCatalog :=
  match decodeParserModuleManifest parseJson manifestJson provenance with
  | .error e => (.error e, [{ level := .error, id := [], message := e }], catalog)
  | .ok manifest =>
    match admitClaims manifest.claims provenance providerGeneration catalog with
    | (.error e, reports, catalog) => (.error e, reports, catalog)
    | (.ok (), reports, catalog) => (.ok manifest, reports, catalog)

def admitParserPlugin (providerId : Bytes) (manifestEncodings : List Bytes)
    (exact : List ParserPluginExactClaim) (provenance : ParserClaimProvenance)
    (providerGeneration : UInt64) (catalog : ParserClaimCatalog) :
    Except Bytes Unit × List Diagnostic × ParserClaimCatalog :=
  match synthesizeParserPluginClaims providerId manifestEncodings exact provenance with
  | .error e => (.error e, [{ level := .error, id := providerId, message := e }], catalog)
  | .ok claims => admitClaims claims provenance providerGeneration catalog

def removeProvider (providerId : Bytes) (catalog : ParserClaimCatalog) :
    Bool × ParserClaimCatalog :=
  let claims := catalog.claims.filter fun entry => entry.claim.providerId ≠ providerId
  if claims.length = catalog.claims.length then (false, catalog)
  else (true, { claims, generation := catalog.generation + 1 })

def clear (catalog : ParserClaimCatalog) : ParserClaimCatalog :=
  if catalog.claims = [] then catalog
  else { claims := [], generation := catalog.generation + 1 }

end ParserClaimCatalog

/-! ## Calls -/

inductive CatalogCall where
  | admitClaims (claims : List ParserClaim) (provenance : ParserClaimProvenance)
      (providerGeneration : UInt64)
  | ingestModuleManifest (manifestJson : Bytes) (provenance : ParserClaimProvenance)
      (providerGeneration : UInt64)
  | admitParserPlugin (providerId : Bytes) (manifestEncodings : List Bytes)
      (exact : List ParserPluginExactClaim) (provenance : ParserClaimProvenance)
      (providerGeneration : UInt64)
  | removeProvider (providerId : Bytes)
  | clear

namespace CatalogCall

variable (parseJson : Bytes → Except Bytes Value)

/-- The answer to a call, and the catalog after it. -/
def step (call : CatalogCall) (catalog : ParserClaimCatalog) :
    Except Bytes Unit × ParserClaimCatalog :=
  match call with
  | admitClaims claims provenance providerGeneration =>
    let (answer, _, catalog) := catalog.admitClaims claims provenance providerGeneration
    (answer, catalog)
  | ingestModuleManifest manifestJson provenance providerGeneration =>
    let (answer, _, catalog) :=
      catalog.ingestModuleManifest parseJson manifestJson provenance providerGeneration
    (answer.map fun _ => (), catalog)
  | admitParserPlugin providerId manifestEncodings exact provenance providerGeneration =>
    let (answer, _, catalog) :=
      catalog.admitParserPlugin providerId manifestEncodings exact provenance providerGeneration
    (answer, catalog)
  -- these two cannot fail
  | removeProvider providerId => (.ok (), (catalog.removeProvider providerId).2)
  | clear => (.ok (), catalog.clear)

def run (calls : List CatalogCall) (catalog : ParserClaimCatalog) : ParserClaimCatalog :=
  calls.foldl (fun catalog call => (step parseJson call catalog).2) catalog

end CatalogCall

/-! ## What a call can do -/

/-- A list that may be appended to the held claims. -/
structure Admissible (held admitted : List ParserClaimEntry) : Prop where
  distinct : (admitted.map ParserClaimEntry.identity).Nodup
  fresh : ∀ entry ∈ admitted, entry.identity ∉ held.map ParserClaimEntry.identity
  validated : ∀ entry ∈ admitted, Validated entry.claim

/-- All that a call can do to the catalog. -/
inductive Change (catalog : ParserClaimCatalog) : ParserClaimCatalog → Prop where
  | none : Change catalog catalog
  | append (admitted : List ParserClaimEntry) (nonempty : admitted ≠ [])
      (admissible : Admissible catalog.claims admitted) :
      Change catalog
        { claims := catalog.claims ++ admitted, generation := catalog.generation + 1 }
  | remove (keep : ParserClaimEntry → Bool)
      (shorter : (catalog.claims.filter keep).length < catalog.claims.length) :
      Change catalog
        { claims := catalog.claims.filter keep, generation := catalog.generation + 1 }

namespace ParserClaimCatalog

/-- What has passed the loop is distinct, validated and not held yet. -/
theorem checkBatch_ok {held : List ParserClaimEntry} {provenance : ParserClaimProvenance}
    (claims : List ParserClaim) {validated passed : List ParserClaim}
    (h : checkBatch held provenance validated claims = .ok passed)
    (hdistinct : (validated.map identityOf).Nodup)
    (hfresh : ∀ claim ∈ validated, identityOf claim ∉ held.map ParserClaimEntry.identity)
    (hvalidated : ∀ claim ∈ validated, Validated claim) :
    (passed.map identityOf).Nodup ∧
      (∀ claim ∈ passed, identityOf claim ∉ held.map ParserClaimEntry.identity) ∧
      ∀ claim ∈ passed, Validated claim := by
  -- `validated` carries the three facts through the loop
  induction claims generalizing validated with
  | nil =>
    obtain rfl := Except.ok.inj h
    exact ⟨hdistinct, hfresh, hvalidated⟩
  | cons claim claims ih =>
    unfold checkBatch at h
    split at h
    · exact absurd h (by simp)
    next normal hnormal =>
      split at h
      · exact absurd h (by simp)
      next hnew =>
        rw [not_or] at hnew
        refine ih h ?_ ?_ ?_
        · rw [List.map_append, List.nodup_append]
          refine ⟨hdistinct, by simp, ?_⟩
          intro identity hmem last hlast
          obtain rfl : last = identityOf normal := by simpa using hlast
          exact fun heq => hnew.1 (heq ▸ hmem)
        · intro claim hmem
          rcases List.mem_append.mp hmem with hmem | hmem
          · exact hfresh claim hmem
          · obtain rfl : claim = normal := by simpa using hmem
            exact hnew.2
        · intro claim hmem
          rcases List.mem_append.mp hmem with hmem | hmem
          · exact hvalidated claim hmem
          · obtain rfl : claim = normal := by simpa using hmem
            exact normalizeAndValidateClaim_validated hnormal

/-- An admission makes one change; a rejected one makes none and reports its error. -/
def Transactional {α : Type} (catalog : ParserClaimCatalog)
    (admission : Except Bytes α × List Diagnostic × ParserClaimCatalog) : Prop :=
  Change catalog admission.2.2 ∧
    ∀ e, admission.1 = .error e →
      admission.2.2 = catalog ∧ admission.2.1.map Diagnostic.message = [e]

theorem transactional_reject {α : Type} (catalog : ParserClaimCatalog) (level : DiagnosticLevel)
    (id e : Bytes) :
    @Transactional α catalog (.error e, [{ level, id, message := e }], catalog) := by
  refine ⟨.none, ?_⟩
  intro e' he
  obtain rfl := Except.error.inj he
  exact ⟨rfl, rfl⟩

theorem admitClaims_transactional (claims : List ParserClaim) (provenance : ParserClaimProvenance)
    (providerGeneration : UInt64) (catalog : ParserClaimCatalog) :
    Transactional catalog (catalog.admitClaims claims provenance providerGeneration) := by
  unfold admitClaims
  cases hcheck : checkBatch catalog.claims provenance [] claims with
  | error report => exact transactional_reject catalog report.level report.id report.message
  | ok passed =>
    obtain ⟨hdistinct, hfresh, hvalidated⟩ :=
      checkBatch_ok claims hcheck (by simp) (by simp) (by simp)
    cases passed with
    | nil => exact ⟨.none, by simp⟩
    | cons claim rest =>
      refine ⟨.append _ (by simp) ?_, by simp⟩
      have hidentity : ParserClaimEntry.identity ∘ ({ claim := ·, providerGeneration }) =
          identityOf := rfl
      refine ⟨?_, ?_, ?_⟩
      · rw [List.map_map, hidentity]
        exact hdistinct
      · intro entry hmem
        obtain ⟨claim, hclaim, rfl⟩ := List.mem_map.mp hmem
        exact hfresh claim hclaim
      · intro entry hmem
        obtain ⟨claim, hclaim, rfl⟩ := List.mem_map.mp hmem
        exact hvalidated claim hclaim

theorem ingestModuleManifest_transactional (parseJson : Bytes → Except Bytes Value)
    (manifestJson : Bytes) (provenance : ParserClaimProvenance) (providerGeneration : UInt64)
    (catalog : ParserClaimCatalog) :
    Transactional catalog
      (catalog.ingestModuleManifest parseJson manifestJson provenance providerGeneration) := by
  unfold ingestModuleManifest
  cases decodeParserModuleManifest parseJson manifestJson provenance with
  | error e => exact transactional_reject catalog .error [] e
  | ok manifest =>
    have hbatch := admitClaims_transactional manifest.claims provenance providerGeneration catalog
    dsimp only
    split
    next e reports next heq =>
      rw [heq] at hbatch
      refine ⟨hbatch.1, ?_⟩
      intro e' he
      obtain rfl : e = e' := Except.error.inj he
      exact hbatch.2 e rfl
    next reports next heq =>
      rw [heq] at hbatch
      exact ⟨hbatch.1, by simp⟩

theorem admitParserPlugin_transactional (providerId : Bytes) (manifestEncodings : List Bytes)
    (exact : List ParserPluginExactClaim) (provenance : ParserClaimProvenance)
    (providerGeneration : UInt64) (catalog : ParserClaimCatalog) :
    Transactional catalog
      (catalog.admitParserPlugin providerId manifestEncodings exact provenance
        providerGeneration) := by
  unfold admitParserPlugin
  cases synthesizeParserPluginClaims providerId manifestEncodings exact provenance with
  | error e => exact transactional_reject catalog .error providerId e
  | ok claims => exact admitClaims_transactional claims provenance providerGeneration catalog

theorem removeProvider_change (providerId : Bytes) (catalog : ParserClaimCatalog) :
    Change catalog (catalog.removeProvider providerId).2 := by
  unfold removeProvider
  dsimp only
  split
  · exact .none
  next hne =>
    refine .remove _ (lt_of_le_of_ne (List.length_filter_le _ _) hne)

theorem clear_change (catalog : ParserClaimCatalog) : Change catalog catalog.clear := by
  unfold clear
  split
  · exact .none
  next hne =>
    have hnil : catalog.claims.filter (fun _ => false) = [] := by simp
    have hchange := @Change.remove catalog (fun _ => false) (by
      rw [hnil]
      exact List.length_pos_iff.mpr hne)
    rw [hnil] at hchange
    exact hchange

end ParserClaimCatalog

section Runs

variable (parseJson : Bytes → Except Bytes Value)

namespace CatalogCall

theorem step_change (call : CatalogCall) (catalog : ParserClaimCatalog) :
    Change catalog (step parseJson call catalog).2 := by
  cases call with
  | admitClaims claims provenance providerGeneration =>
    exact (catalog.admitClaims_transactional claims provenance providerGeneration).1
  | ingestModuleManifest manifestJson provenance providerGeneration =>
    exact (catalog.ingestModuleManifest_transactional parseJson manifestJson provenance
      providerGeneration).1
  | admitParserPlugin providerId manifestEncodings exact provenance providerGeneration =>
    exact (catalog.admitParserPlugin_transactional providerId manifestEncodings exact provenance
      providerGeneration).1
  | removeProvider providerId => exact catalog.removeProvider_change providerId
  | clear => exact catalog.clear_change

/-- A call that is answered by an error leaves the catalog as it was. -/
theorem step_error {call : CatalogCall} {catalog : ParserClaimCatalog} {e : Bytes}
    (h : (step parseJson call catalog).1 = .error e) :
    (step parseJson call catalog).2 = catalog := by
  cases call with
  | admitClaims claims provenance providerGeneration =>
    exact ((catalog.admitClaims_transactional claims provenance providerGeneration).2 e h).1
  | ingestModuleManifest manifestJson provenance providerGeneration =>
    have hspec := (catalog.ingestModuleManifest_transactional parseJson manifestJson provenance
      providerGeneration).2
    -- the answer's error is the manifest's
    cases hanswer : (catalog.ingestModuleManifest parseJson manifestJson provenance
        providerGeneration).1 with
    | error e' => exact (hspec e' hanswer).1
    | ok manifest =>
      have hmap : Except.map (fun _ => ()) (catalog.ingestModuleManifest parseJson manifestJson
          provenance providerGeneration).1 = .error e := h
      rw [hanswer] at hmap
      exact absurd hmap (by simp [Except.map])
  | admitParserPlugin providerId manifestEncodings exact provenance providerGeneration =>
    exact ((catalog.admitParserPlugin_transactional providerId manifestEncodings exact provenance
      providerGeneration).2 e h).1
  | removeProvider providerId => exact absurd h (by simp [step])
  | clear => exact absurd h (by simp [step])

/-- The number of calls that change the claim list. -/
def changes (catalog : ParserClaimCatalog) : List CatalogCall → Nat
  | [] => 0
  | call :: calls =>
    let next := (step parseJson call catalog).2
    (if next.claims = catalog.claims then 0 else 1) + changes next calls

end CatalogCall

/-! ## Runs -/

/-- What the catalog holds. -/
structure Lawful (catalog : ParserClaimCatalog) : Prop where
  distinct : (catalog.claims.map ParserClaimEntry.identity).Nodup
  validated : ∀ entry ∈ catalog.claims, Validated entry.claim

theorem Lawful.change {catalog next : ParserClaimCatalog} (h : Lawful catalog)
    (hchange : Change catalog next) : Lawful next := by
  cases hchange with
  | none => exact h
  | append admitted _ hadmitted =>
    refine ⟨?_, ?_⟩
    · rw [List.map_append, List.nodup_append]
      refine ⟨h.distinct, hadmitted.distinct, ?_⟩
      intro identity hheld identity' hnew
      obtain ⟨entry, hentry, rfl⟩ := List.mem_map.mp hnew
      exact fun heq => hadmitted.fresh entry hentry (heq ▸ hheld)
    · intro entry hmem
      rcases List.mem_append.mp hmem with hmem | hmem
      · exact h.validated entry hmem
      · exact hadmitted.validated entry hmem
  | remove keep _ =>
    refine ⟨?_, ?_⟩
    · exact h.distinct.sublist (List.filter_sublist.map ParserClaimEntry.identity)
    · intro entry hmem
      exact h.validated entry (List.mem_of_mem_filter hmem)

/-- The generation moves with the list, and only with it. -/
theorem Change.generation {catalog next : ParserClaimCatalog} (h : Change catalog next) :
    (next.claims = catalog.claims → next.generation = catalog.generation) ∧
      (next.claims ≠ catalog.claims → next.generation = catalog.generation + 1) := by
  cases h with
  | none => exact ⟨fun _ => rfl, fun hne => absurd rfl hne⟩
  | append admitted hnonempty _ =>
    refine ⟨?_, fun _ => rfl⟩
    intro hsame
    exact absurd (List.append_right_eq_self.mp hsame) hnonempty
  | remove keep hshorter =>
    refine ⟨?_, fun _ => rfl⟩
    intro hsame
    have hlength := congrArg List.length hsame
    dsimp only at hlength
    omega

namespace CatalogCall

theorem run_lawful (calls : List CatalogCall) {catalog : ParserClaimCatalog} (h : Lawful catalog) :
    Lawful (run parseJson calls catalog) := by
  induction calls generalizing catalog with
  | nil => exact h
  | cons call calls ih => exact ih (h.change (step_change parseJson call catalog))

theorem changes_append (calls : List CatalogCall) (call : CatalogCall)
    (catalog : ParserClaimCatalog) :
    changes parseJson catalog (calls ++ [call]) =
      changes parseJson catalog calls + changes parseJson (run parseJson calls catalog) [call] := by
  induction calls generalizing catalog with
  | nil =>
    show _ = 0 + _
    rw [Nat.zero_add]
    rfl
  | cons first calls ih =>
    rw [List.cons_append, changes, changes, ih, Nat.add_assoc]
    rfl

/-- The generation is the number of changes, modulo 2^64. -/
theorem run_generation (calls : List CatalogCall) (catalog : ParserClaimCatalog) :
    (run parseJson calls catalog).generation =
      catalog.generation + UInt64.ofNat (changes parseJson catalog calls) := by
  induction calls generalizing catalog with
  | nil => exact (UInt64.add_zero _).symm
  | cons call calls ih =>
    obtain ⟨hsame, hnew⟩ := (step_change parseJson call catalog).generation
    show (run parseJson calls (step parseJson call catalog).2).generation = _
    rw [ih]
    rw [changes, UInt64.ofNat_add, ← UInt64.add_assoc]
    by_cases hclaims : (step parseJson call catalog).2.claims = catalog.claims
    · rw [if_pos hclaims, hsame hclaims]
      exact congrArg (· + _) (UInt64.add_zero _).symm
    · rw [if_neg hclaims, hnew hclaims]
      rfl

/-- After every run, the next call: what it does to the list and the generation. -/
theorem catalog_runs (calls : List CatalogCall) :
    Lawful (run parseJson calls {}) ∧
      ∀ call : CatalogCall,
        let catalog := run parseJson calls {}
        let next := (step parseJson call catalog).2
        (∀ e, (step parseJson call catalog).1 = .error e →
          next.claims = catalog.claims ∧ next.generation = catalog.generation) ∧
        (next.claims = catalog.claims → next.generation = catalog.generation) ∧
        (next.claims ≠ catalog.claims → next.generation = catalog.generation + 1) ∧
        (changes parseJson {} (calls ++ [call]) < 2 ^ 64 →
          (catalog.generation < next.generation ↔ next.claims ≠ catalog.claims)) := by
  have hempty : Lawful {} := ⟨List.nodup_nil, by simp⟩
  refine ⟨run_lawful parseJson calls hempty, ?_⟩
  intro call catalog next
  obtain ⟨hsame, hnew⟩ := (step_change parseJson call catalog).generation
  refine ⟨?_, hsame, hnew, ?_⟩
  · intro e he
    have hkept : next = catalog := step_error parseJson he
    rw [hkept]
    exact ⟨rfl, rfl⟩
  · intro hfew
    constructor
    · intro hlt heq
      rw [hsame heq] at hlt
      exact UInt64.lt_irrefl _ hlt
    · intro hne
      -- the changes so far are below 2^64 - 1, and the generation is their number
      have hcount : changes parseJson catalog [call] = 1 := if_neg hne
      rw [changes_append, hcount] at hfew
      have hgeneration : catalog.generation = 0 + UInt64.ofNat (changes parseJson {} calls) :=
        run_generation parseJson calls {}
      have htoNat : catalog.generation.toNat = changes parseJson {} calls := by
        rw [hgeneration, UInt64.zero_add]
        exact UInt64.toNat_ofNat_of_lt' (lt_of_lt_of_le (Nat.lt_succ_self _) hfew.le)
      have hnext : next.generation = catalog.generation + 1 := hnew hne
      rw [hnext, UInt64.lt_iff_toNat_lt, UInt64.toNat_add, htoNat, UInt64.toNat_one]
      omega

/-! ### Admissions in another order -/

def isAdmission : CatalogCall → Bool
  | admitClaims .. | ingestModuleManifest .. | admitParserPlugin .. => true
  | removeProvider _ | clear => false

/-- Every call is answered by OK. -/
def AllAdmitted : List CatalogCall → ParserClaimCatalog → Prop
  | [], _ => True
  | call :: calls, catalog =>
    (step parseJson call catalog).1 = .ok () ∧
      AllAdmitted calls (step parseJson call catalog).2

theorem checkBatch_validated {held : List ParserClaimEntry} {provenance : ParserClaimProvenance}
    (claims : List ParserClaim) {validated passed : List ParserClaim}
    (h : ParserClaimCatalog.checkBatch held provenance validated claims = .ok passed) :
    ∀ claim ∈ validated, claim ∈ passed := by
  induction claims generalizing validated with
  | nil =>
    obtain rfl := Except.ok.inj h
    exact fun _ hmem => hmem
  | cons claim claims ih =>
    unfold ParserClaimCatalog.checkBatch at h
    split at h
    · exact absurd h (by simp)
    next normal _ =>
      split at h
      · exact absurd h (by simp)
      · intro claim hmem
        exact ih h claim (List.mem_append_left _ hmem)

/-- A batch passes wherever none of its claims is held. -/
theorem checkBatch_anywhere {held held' : List ParserClaimEntry}
    {provenance : ParserClaimProvenance} (claims : List ParserClaim)
    {validated passed : List ParserClaim}
    (h : ParserClaimCatalog.checkBatch held provenance validated claims = .ok passed)
    (hfresh : ∀ claim ∈ passed, identityOf claim ∉ held'.map ParserClaimEntry.identity) :
    ParserClaimCatalog.checkBatch held' provenance validated claims = .ok passed := by
  induction claims generalizing validated with
  | nil => exact h
  | cons claim claims ih =>
    unfold ParserClaimCatalog.checkBatch at h ⊢
    split at h
    · exact absurd h (by simp)
    next normal _ =>
      split at h
      · exact absurd h (by simp)
      next hnew =>
        rw [not_or] at hnew
        have hpassed : normal ∈ passed :=
          checkBatch_validated claims h normal (by simp)
        rw [if_neg (not_or.mpr ⟨hnew.1, hfresh normal hpassed⟩)]
        exact ih h

/-- What an accepted admission appends, and that it is accepted wherever none of
that is held. -/
def Appends (call : CatalogCall) (catalog : ParserClaimCatalog)
    (admitted : List ParserClaimEntry) : Prop :=
  (step parseJson call catalog).2.claims = catalog.claims ++ admitted ∧
    (∀ entry ∈ admitted, entry.identity ∉ catalog.claims.map ParserClaimEntry.identity) ∧
    ∀ other : ParserClaimCatalog,
      (∀ entry ∈ admitted, entry.identity ∉ other.claims.map ParserClaimEntry.identity) →
        (step parseJson call other).1 = .ok () ∧
          (step parseJson call other).2.claims = other.claims ++ admitted

theorem admitClaims_appends {claims : List ParserClaim} {provenance : ParserClaimProvenance}
    {providerGeneration : UInt64} {catalog : ParserClaimCatalog}
    (h : (catalog.admitClaims claims provenance providerGeneration).1 = .ok ()) :
    ∃ admitted, Appends parseJson (.admitClaims claims provenance providerGeneration) catalog
      admitted := by
  have hstep (passed : List ParserClaim) (other : ParserClaimCatalog)
      (hcheck : ParserClaimCatalog.checkBatch other.claims provenance [] claims = .ok passed) :
      (other.admitClaims claims provenance providerGeneration).1 = .ok () ∧
        (other.admitClaims claims provenance providerGeneration).2.2.claims =
          other.claims ++ passed.map ({ claim := ·, providerGeneration }) := by
    unfold ParserClaimCatalog.admitClaims
    rw [hcheck]
    cases passed with
    | nil => exact ⟨rfl, (List.append_nil _).symm⟩
    | cons claim rest => exact ⟨rfl, rfl⟩
  cases hcheck : ParserClaimCatalog.checkBatch catalog.claims provenance [] claims with
  | error report =>
    unfold ParserClaimCatalog.admitClaims at h
    rw [hcheck] at h
    exact absurd h (by simp)
  | ok passed =>
    obtain ⟨-, hfresh, -⟩ :=
      ParserClaimCatalog.checkBatch_ok claims hcheck (by simp) (by simp) (by simp)
    refine ⟨passed.map ({ claim := ·, providerGeneration }), (hstep passed catalog hcheck).2, ?_,
      ?_⟩
    · intro entry hmem
      obtain ⟨claim, hclaim, rfl⟩ := List.mem_map.mp hmem
      exact hfresh claim hclaim
    · intro other hother
      refine hstep passed other (checkBatch_anywhere claims hcheck ?_)
      intro claim hclaim
      exact hother _ (List.mem_map_of_mem hclaim)

theorem admission_appends {call : CatalogCall} {catalog : ParserClaimCatalog}
    (hadmission : call.isAdmission = true) (h : (step parseJson call catalog).1 = .ok ()) :
    ∃ admitted, Appends parseJson call catalog admitted := by
  cases call with
  | admitClaims claims provenance providerGeneration => exact admitClaims_appends parseJson h
  | ingestModuleManifest manifestJson provenance providerGeneration =>
    cases hdecode : decodeParserModuleManifest parseJson manifestJson provenance with
    | error e =>
      unfold step ParserClaimCatalog.ingestModuleManifest at h
      simp only [hdecode] at h
      exact absurd h (by simp [Except.map])
    | ok manifest =>
      -- the manifest's claims are admitted as a batch
      have hstep (other : ParserClaimCatalog) :
          step parseJson (.ingestModuleManifest manifestJson provenance providerGeneration) other =
            step parseJson (.admitClaims manifest.claims provenance providerGeneration) other := by
        show (Except.map _ (ParserClaimCatalog.ingestModuleManifest parseJson manifestJson
            provenance providerGeneration other).1, _) = _
        unfold ParserClaimCatalog.ingestModuleManifest step
        rw [hdecode]
        dsimp only
        split
        next heq => rw [heq]; rfl
        next heq => rw [heq]; rfl
      rw [hstep] at h
      obtain ⟨admitted, hadmitted⟩ := admitClaims_appends parseJson h
      unfold Appends at hadmitted ⊢
      simp only [hstep]
      exact ⟨admitted, hadmitted⟩
  | admitParserPlugin providerId manifestEncodings exact provenance providerGeneration =>
    cases hsynthesize :
        synthesizeParserPluginClaims providerId manifestEncodings exact provenance with
    | error e =>
      unfold step ParserClaimCatalog.admitParserPlugin at h
      simp only [hsynthesize] at h
      exact absurd h (by simp)
    | ok claims =>
      have hstep (other : ParserClaimCatalog) :
          step parseJson (.admitParserPlugin providerId manifestEncodings exact provenance
            providerGeneration) other =
              step parseJson (.admitClaims claims provenance providerGeneration) other := by
        unfold step ParserClaimCatalog.admitParserPlugin
        simp only [hsynthesize]
      rw [hstep] at h
      obtain ⟨admitted, hadmitted⟩ := admitClaims_appends parseJson h
      unfold Appends at hadmitted ⊢
      simp only [hstep]
      exact ⟨admitted, hadmitted⟩
  | removeProvider providerId => exact absurd hadmission (by simp [isAdmission])
  | clear => exact absurd hadmission (by simp [isAdmission])

theorem identities_perm {claims claims' : List ParserClaimEntry} (h : claims.Perm claims')
    {identity : ParserClaimIdentity} (hnot : identity ∉ claims.map ParserClaimEntry.identity) :
    identity ∉ claims'.map ParserClaimEntry.identity := by
  intro hmem
  exact hnot ((h.map ParserClaimEntry.identity).mem_iff.mpr hmem)

theorem step_congr {call : CatalogCall} (hadmission : call.isAdmission = true)
    {catalog catalog' : ParserClaimCatalog} (hclaims : catalog.claims.Perm catalog'.claims)
    (hok : (step parseJson call catalog).1 = .ok ()) :
    (step parseJson call catalog').1 = .ok () ∧
      (step parseJson call catalog).2.claims.Perm (step parseJson call catalog').2.claims := by
  obtain ⟨admitted, happend, hfresh, hanywhere⟩ := admission_appends parseJson hadmission hok
  obtain ⟨hok', happend'⟩ :=
    hanywhere catalog' fun entry hentry => identities_perm hclaims (hfresh entry hentry)
  rw [happend, happend']
  exact ⟨hok', hclaims.append_right admitted⟩

/-- The order of what is held makes no difference. -/
theorem admitted_congr (calls : List CatalogCall)
    (hadmissions : ∀ call ∈ calls, call.isAdmission = true)
    {catalog catalog' : ParserClaimCatalog} (hclaims : catalog.claims.Perm catalog'.claims)
    (hall : AllAdmitted parseJson calls catalog) :
    AllAdmitted parseJson calls catalog' ∧
      (run parseJson calls catalog).claims.Perm (run parseJson calls catalog').claims := by
  induction calls generalizing catalog catalog' with
  | nil => exact ⟨trivial, hclaims⟩
  | cons call calls ih =>
    obtain ⟨hok, hrest⟩ := hall
    obtain ⟨hok', hnext⟩ := step_congr parseJson (hadmissions call (by simp)) hclaims hok
    obtain ⟨hrest', hrun⟩ := ih (fun c hc => hadmissions c (List.mem_cons_of_mem _ hc)) hnext hrest
    exact ⟨⟨hok', hrest'⟩, hrun⟩

/-- Admissions that are all accepted are so in every order, and fill the catalog
with the same claims. -/
theorem admissions_perm {calls calls' : List CatalogCall} (h : calls.Perm calls')
    (hadmissions : ∀ call ∈ calls, call.isAdmission = true)
    {catalog catalog' : ParserClaimCatalog} (hclaims : catalog.claims.Perm catalog'.claims)
    (hall : AllAdmitted parseJson calls catalog) :
    AllAdmitted parseJson calls' catalog' ∧
      (run parseJson calls catalog).claims.Perm (run parseJson calls' catalog').claims := by
  induction h generalizing catalog catalog' with
  | nil => exact ⟨trivial, hclaims⟩
  | cons call _ ih =>
    obtain ⟨hok, hrest⟩ := hall
    obtain ⟨hok', hnext⟩ := step_congr parseJson (hadmissions call (by simp)) hclaims hok
    obtain ⟨hrest', hrun⟩ := ih (fun c hc => hadmissions c (List.mem_cons_of_mem _ hc)) hnext hrest
    exact ⟨⟨hok', hrest'⟩, hrun⟩
  | swap second first calls =>
    -- `first` and then `second`: what the second appends is not in what the first did
    obtain ⟨hfirst, hsecond, hrest⟩ := hall
    obtain ⟨admitted₁, happend₁, hfresh₁, hanywhere₁⟩ :=
      admission_appends parseJson (hadmissions first (by simp)) hfirst
    obtain ⟨admitted₂, happend₂, hfresh₂, hanywhere₂⟩ :=
      admission_appends parseJson (hadmissions second (by simp)) hsecond
    rw [happend₁] at happend₂ hfresh₂
    have hnew₂ : ∀ entry ∈ admitted₂,
        entry.identity ∉ catalog'.claims.map ParserClaimEntry.identity := by
      intro entry hentry hmem
      have hnot := hfresh₂ entry hentry
      rw [List.map_append, List.mem_append, not_or] at hnot
      exact identities_perm hclaims hnot.1 hmem
    obtain ⟨hok₂, hnext₂⟩ := hanywhere₂ catalog' hnew₂
    have hnew₁ : ∀ entry ∈ admitted₁, entry.identity ∉
        (step parseJson second catalog').2.claims.map ParserClaimEntry.identity := by
      intro entry hentry hmem
      rw [hnext₂, List.map_append, List.mem_append] at hmem
      rcases hmem with hmem | hmem
      · exact identities_perm hclaims (hfresh₁ entry hentry) hmem
      · obtain ⟨entry', hentry', hsame⟩ := List.mem_map.mp hmem
        have hnot := hfresh₂ entry' hentry'
        rw [List.map_append, List.mem_append, not_or] at hnot
        exact hnot.2 (hsame ▸ List.mem_map_of_mem hentry)
    obtain ⟨hok₁, hnext₁⟩ := hanywhere₁ (step parseJson second catalog').2 hnew₁
    have hnext : (step parseJson second (step parseJson first catalog).2).2.claims.Perm
        (step parseJson first (step parseJson second catalog').2).2.claims := by
      rw [happend₂, hnext₁, hnext₂, List.append_assoc, List.append_assoc]
      exact hclaims.append List.perm_append_comm
    have hsame := admitted_congr parseJson calls
      (fun c hc => hadmissions c (by simp [hc])) hnext hrest
    exact ⟨⟨hok₂, hok₁, hsame.1⟩, hsame.2⟩
  | trans hfirst _ ihfirst ihsecond =>
    obtain ⟨hall', hrun'⟩ := ihfirst hadmissions (List.Perm.refl _) hall
    obtain ⟨hall'', hrun''⟩ := ihsecond
      (fun c hc => hadmissions c (hfirst.mem_iff.mpr hc)) hclaims hall'
    exact ⟨hall'', hrun'.trans hrun''⟩

end CatalogCall

end Runs

/-! ## The generation is 64 bits -/

namespace CatalogCall

def jsonClaim : ParserClaim :=
  { encoding := text "json", typeName := kAnyType, routeFlags := kRouteFlagScalar,
    providerId := text "p", claimId := text "c" }

def admitJson : CatalogCall := .admitClaims [jsonClaim] .folderDrop 0

/-- The claim is admitted and cleared again, `n` times. -/
def admitAndClear : Nat → List CatalogCall
  | 0 => []
  | n + 1 => admitJson :: .clear :: admitAndClear n

def noJson : Bytes → Except Bytes Value := fun _ => .error []

theorem step_admitJson (generation : UInt64) :
    (step noJson admitJson { generation }).2 =
      { claims := [{ claim := jsonClaim }], generation := generation + 1 } := by
  have hcheck : ParserClaimCatalog.checkBatch [] .folderDrop [] [jsonClaim] = .ok [jsonClaim] := by
    decide
  show (ParserClaimCatalog.admitClaims [jsonClaim] .folderDrop 0 { generation }).2.2 = _
  unfold ParserClaimCatalog.admitClaims
  rw [hcheck]
  rfl

theorem run_admitAndClear (n : Nat) (generation : UInt64) :
    run noJson (admitAndClear n) { generation } =
      { generation := generation + UInt64.ofNat (2 * n) } := by
  induction n generalizing generation with
  | zero => simp [admitAndClear, run]
  | succ n ih =>
    have hclear : (step noJson .clear
        (ParserClaimCatalog.mk [{ claim := jsonClaim }] (generation + 1))).2 =
          { generation := generation + 1 + 1 } := rfl
    show run noJson (admitAndClear n) (step noJson .clear (step noJson admitJson _).2).2 = _
    rw [step_admitJson, hclear, ih]
    have hadd : generation + 1 + 1 + UInt64.ofNat (2 * n) =
        generation + UInt64.ofNat (2 * (n + 1)) := by
      have htwo : (1 : UInt64) + 1 = UInt64.ofNat 2 := rfl
      rw [Nat.mul_succ, UInt64.ofNat_add, UInt64.add_assoc generation, htwo, UInt64.add_assoc,
        UInt64.add_comm (UInt64.ofNat (2 * n))]
    rw [hadd]

/-- Change number 2^64 takes the generation from 2^64 - 1 to 0. -/
theorem generation_wraps :
    ¬∀ (calls : List CatalogCall) (call : CatalogCall),
      let catalog := run noJson calls {}
      let next := (step noJson call catalog).2
      next.claims ≠ catalog.claims → catalog.generation < next.generation := by
  intro h
  obtain ⟨n, hn⟩ : ∃ n, UInt64.ofNat (2 * n) + 1 = 0xFFFFFFFFFFFFFFFF := ⟨2 ^ 63 - 1, by decide⟩
  have hrun : run noJson (admitAndClear n ++ [admitJson]) {} =
      { claims := [{ claim := jsonClaim }], generation := 0xFFFFFFFFFFFFFFFF } := by
    unfold run
    rw [List.foldl_append]
    show (step noJson admitJson (run noJson (admitAndClear n) { generation := 0 })).2 = _
    rw [run_admitAndClear, step_admitJson, UInt64.zero_add, hn]
  have hlast := h (admitAndClear n ++ [admitJson]) .clear
  rw [hrun] at hlast
  exact absurd (hlast (by decide)) (by decide)

end CatalogCall

end PlotJugglerSdk
