import PlotJugglerSdk.Source.CacheSafety
import PlotJugglerSdk.Source.CleanupAccounting
import Mathlib.Algebra.Order.BigOperators.Group.Finset

/-!
# Cleanups beside each other

Every cleanup estimates what is on disk by what it scanned less what it removed. An
artifact of its scan that another cleanup removes is found missing and passed over: it
stays in the estimate.

* `Racing.step`     — every estimate is a scan less what its cleanup removed
* `disk_add_lost`   — an estimate against the disk
* `overEvicts_iff`  — when an artifact is removed from a directory that fits the budget
* `lost_overEvicts` — two cleanups, of which the second empties a directory that fits
-/

namespace PlotJugglerSdk

namespace RequestCache

open Runs

variable {Digest : Type} [DecidableEq Digest]

/-! ## Who removes what -/

/-- The state, and who has removed an artifact. -/
structure Recorded (Digest : Type) where
  state : State Digest
  remover : Digest → Option Nat := fun _ => none

/-- The artifact that the event removes, and the party that does. -/
def evicts : Event Digest → State Digest → Option (Nat × EvictionCandidate Digest)
  | .call _ _, _ => none
  | .act index action, s =>
    match s.parties[index]? with
    | none => none
    | some party => (removal s.root party action).map fun victim => (index, victim)

def noteRemoval (remover : Digest → Option Nat) :
    Option (Nat × EvictionCandidate Digest) → Digest → Option Nat
  | none => remover
  | some (index, victim) => Function.update remover victim.digest (some index)

def recordedStep (validator : ArtifactValidator Digest) (event : Event Digest)
    (r : Recorded Digest) : Option (Recorded Digest) :=
  match step validator event r.state with
  | none => none
  | some state => some { state, remover := noteRemoval r.remover (evicts event r.state) }

/-- Cleanups with one size budget, whose directory iterations come to no entry twice. -/
def cleans (budget : UInt64) : Event Digest → Recorded Digest → Bool
  | .call _ (.cleanup policy _), _ => policy.maxTotalBytes = budget && policy.minFreeBytes = 0
  | .call _ _, _ => false
  | .act index (.visitArtifact digest), r =>
    match r.state.parties[index]? with
    | some ⟨_, .scanning cleanup _ none⟩ =>
      cleanup.candidates.all fun candidate => candidate.digest ≠ digest
    | _ => true
  | .act _ _, _ => true

/-! ## The bytes -/

def artifactBytes (root : Root Digest) (digest : Digest) : Nat :=
  (root.artifact digest).elim 0 fun file => file.content.length

/-- The artifacts still on disk. -/
def diskBytes (files : Finset Digest) (root : Root Digest) : Nat :=
  files.sum (artifactBytes root)

/-- The artifacts of a scan that other parties have removed. -/
def lostBytes (index : Nat) (remover : Digest → Option Nat) (cleanup : Cleanup Digest) : Nat :=
  sizes (cleanup.candidates.filter fun candidate =>
    (remover candidate.digest).any fun other => other ≠ index)

def scannedDigests (cleanup : Cleanup Digest) : List Digest :=
  cleanup.candidates.map fun candidate => candidate.digest

/-- The artifacts on disk that a scan did not come to. -/
def unseenBytes (files : Finset Digest) (root : Root Digest) (cleanup : Cleanup Digest) : Nat :=
  (files.filter fun digest => digest ∉ scannedDigests cleanup).sum (artifactBytes root)

/-! ## What an estimate is made of -/

/-- A candidate is as the directory was when nothing had been removed. -/
def Genuine (opening : Root Digest) (digest : Digest) (size : UInt64) : Prop :=
  ∃ file, opening.artifact digest = some file ∧ size.toNat = file.content.length

/-- The estimate of a cleanup among others: its scan less what it has removed itself. -/
structure Tidy (budget : UInt64) (opening : Root Digest) (index : Nat)
    (remover : Digest → Option Nat) (cleanup : Cleanup Digest) : Prop where
  budget : cleanup.policy.maxTotalBytes = budget
  space : cleanup.policy.minFreeBytes = 0
  available : cleanup.available = none
  once : (scannedDigests cleanup).Nodup
  genuine : ∀ candidate ∈ cleanup.candidates, Genuine opening candidate.digest candidate.size
  account : cleanup.total.toNat +
    sizes (cleanup.candidates.filter fun candidate => remover candidate.digest = some index) =
      sizes cleanup.candidates

def TidyPhase (budget : UInt64) (opening : Root Digest) (index : Nat)
    (remover : Digest → Option Nat) : Phase Digest → Prop
  | .scanning cleanup _ none =>
    Tidy budget opening index remover cleanup ∧ ∀ digest, remover digest ≠ some index
  | .scanning cleanup _ (some (digest, size)) =>
    (Tidy budget opening index remover cleanup ∧ ∀ digest, remover digest ≠ some index) ∧
      digest ∉ scannedDigests cleanup ∧ Genuine opening digest size
  | .sweeping cleanup _ _ | .spacing cleanup =>
    Tidy budget opening index remover cleanup ∧ ∀ digest, remover digest ≠ some index
  | .evicting cleanup victims point =>
    Tidy budget opening index remover cleanup ∧ victims ⊆ cleanup.candidates ∧
      (point.checks = true → budget < cleanup.total)
  | .cleaned _ | .over => True
  | _ => False

/-- The directory is as it was, but for what was removed. -/
structure Racing (budget : UInt64) (opening : Root Digest) (r : Recorded Digest) : Prop where
  disk : ∀ digest, r.state.root.artifact digest =
    if r.remover digest = none then opening.artifact digest else none
  known : ∀ digest index, r.remover digest = some index → index < r.state.parties.length
  parties : ∀ (index : Nat) (party : Party Digest), r.state.parties[index]? = some party →
    TidyPhase budget opening index r.remover party.phase

section Bytes

variable {budget : UInt64} {opening root : Root Digest} {index : Nat}
  {remover : Digest → Option Nat} {cleanup : Cleanup Digest} {files : Finset Digest}

omit [DecidableEq Digest] in
theorem sizes_cons (candidate : EvictionCandidate Digest) (l : List (EvictionCandidate Digest)) :
    sizes (candidate :: l) = candidate.size.toNat + sizes l := by
  show sizes ([candidate] ++ l) = _
  rw [sizes_append, sizes_singleton]

omit [DecidableEq Digest] in
theorem sizes_filter_cons (p : EvictionCandidate Digest → Bool)
    (candidate : EvictionCandidate Digest) (l : List (EvictionCandidate Digest)) :
    sizes ((candidate :: l).filter p) =
      (if p candidate then candidate.size.toNat else 0) + sizes (l.filter p) := by
  rw [List.filter_cons]
  split
  · rw [sizes_cons]
  · rw [Nat.zero_add]

omit [DecidableEq Digest] in
/-- What a scan came to is there still, or it removed it, or another did. -/
theorem sizes_removers (remover : Digest → Option Nat) (index : Nat)
    (candidates : List (EvictionCandidate Digest)) :
    sizes candidates =
      sizes (candidates.filter fun candidate => remover candidate.digest = none) +
      sizes (candidates.filter fun candidate => remover candidate.digest = some index) +
      sizes (candidates.filter fun candidate =>
        (remover candidate.digest).any fun other => other ≠ index) := by
  induction candidates with
  | nil => rfl
  | cons candidate rest ih =>
    rw [sizes_filter_cons, sizes_filter_cons, sizes_filter_cons, sizes_cons, ih]
    -- the candidate is in one of the three
    have hone : (if decide (remover candidate.digest = none) then candidate.size.toNat else 0) +
        (if decide (remover candidate.digest = some index) then candidate.size.toNat else 0) +
        (if (remover candidate.digest).any (fun other => other ≠ index) then
          candidate.size.toNat else 0) = candidate.size.toNat := by
      cases remover candidate.digest with
      | none => simp
      | some other =>
        by_cases hown : other = index
        · simp [hown]
        · simp [hown]
    omega

omit [DecidableEq Digest] in
/-- A genuine candidate counts what is on disk, or nothing when it was removed. -/
theorem sizes_present (hdisk : ∀ digest, root.artifact digest =
      if remover digest = none then opening.artifact digest else none)
    {candidates : List (EvictionCandidate Digest)}
    (hgenuine : ∀ candidate ∈ candidates, Genuine opening candidate.digest candidate.size) :
    sizes (candidates.filter fun candidate => remover candidate.digest = none) =
      ((candidates.map fun candidate => candidate.digest).map (artifactBytes root)).sum := by
  induction candidates with
  | nil => rfl
  | cons candidate rest ih =>
    have hrest := ih fun later hlater => hgenuine later (List.mem_cons_of_mem _ hlater)
    rw [sizes_filter_cons, hrest, List.map_cons, List.map_cons, List.sum_cons]
    congr 1
    unfold artifactBytes
    rw [hdisk candidate.digest]
    by_cases hnone : remover candidate.digest = none
    · obtain ⟨file, hfile, hsize⟩ := hgenuine candidate (by simp)
      rw [if_pos hnone, hfile, if_pos (decide_eq_true hnone)]
      exact hsize
    · rw [if_neg hnone, if_neg (by simpa using hnone)]
      rfl

/-- A scan that came to no entry twice counts no more than there is. -/
theorem sizes_genuine_le (hfiles : ∀ digest, digest ∉ files → opening.artifact digest = none)
    {candidates : List (EvictionCandidate Digest)}
    (honce : (candidates.map fun candidate => candidate.digest).Nodup)
    (hgenuine : ∀ candidate ∈ candidates, Genuine opening candidate.digest candidate.size) :
    sizes candidates ≤ diskBytes files opening := by
  have hall : sizes candidates =
      ((candidates.map fun candidate => candidate.digest).map (artifactBytes opening)).sum := by
    have hdisk : ∀ digest, opening.artifact digest =
        if (none : Option Nat) = none then opening.artifact digest else none := fun _ => rfl
    have hpresent := sizes_present hdisk hgenuine
    rw [← hpresent]
    simp
  rw [hall, ← List.sum_toFinset _ honce]
  refine Finset.sum_le_sum_of_subset fun digest hdigest => ?_
  obtain ⟨candidate, hcandidate, rfl⟩ := List.mem_map.mp (List.mem_toFinset.mp hdigest)
  obtain ⟨file, hfile, -⟩ := hgenuine candidate hcandidate
  by_contra hout
  rw [hfiles _ hout] at hfile
  exact nomatch hfile

/-- A directory of less than 2^64 bytes has no file whose size is cut. -/
theorem genuine_size (hfiles : ∀ digest, digest ∉ files → opening.artifact digest = none)
    (hbytes : diskBytes files opening < 2 ^ 64) {digest : Digest} {file : CacheFile}
    (hfile : opening.artifact digest = some file) : Genuine opening digest file.size := by
  refine ⟨file, hfile, UInt64.toNat_ofNat_of_lt' ?_⟩
  have hmem : digest ∈ files := by
    by_contra hout
    rw [hfiles _ hout] at hfile
    exact nomatch hfile
  have hle : artifactBytes opening digest ≤ diskBytes files opening :=
    Finset.single_le_sum (fun _ _ => Nat.zero_le _) hmem
  have heq : artifactBytes opening digest = file.content.length := by
    unfold artifactBytes
    rw [hfile]
    rfl
  rw [← heq]
  exact Nat.lt_of_le_of_lt hle hbytes

/-- The disk and what others removed are the estimate and what the scan did not come to. -/
theorem disk_add_lost (hfiles : ∀ digest, digest ∉ files → opening.artifact digest = none)
    (hdisk : ∀ digest, root.artifact digest =
      if remover digest = none then opening.artifact digest else none)
    (h : Tidy budget opening index remover cleanup) :
    diskBytes files root + lostBytes index remover cleanup =
      cleanup.total.toNat + unseenBytes files root cleanup := by
  have hthree := sizes_removers remover index cleanup.candidates
  have hpresent := sizes_present hdisk h.genuine
  have haccount := h.account
  -- the files on disk are those it scanned and those it did not come to
  have hsplit : (files.filter fun digest => digest ∈ scannedDigests cleanup).sum
      (artifactBytes root) + unseenBytes files root cleanup = diskBytes files root :=
    Finset.sum_filter_add_sum_filter_not files _ _
  -- every digest that was scanned is one of the files
  have hscanned : (files.filter fun digest => digest ∈ scannedDigests cleanup) =
      (scannedDigests cleanup).toFinset := by
    ext digest
    rw [Finset.mem_filter, List.mem_toFinset]
    refine ⟨fun hboth => hboth.2, fun hdigest => ⟨?_, hdigest⟩⟩
    obtain ⟨candidate, hcandidate, rfl⟩ := List.mem_map.mp hdigest
    obtain ⟨file, hfile, -⟩ := h.genuine candidate hcandidate
    by_contra hout
    rw [hfiles _ hout] at hfile
    exact nomatch hfile
  rw [hscanned, List.sum_toFinset _ h.once] at hsplit
  -- of those that were scanned, what nobody has removed is still there
  have hseen : ((scannedDigests cleanup).map (artifactBytes root)).sum =
      sizes (cleanup.candidates.filter fun candidate => remover candidate.digest = none) :=
    hpresent.symm
  unfold lostBytes
  omega

end Bytes

/-! ## What a step keeps -/

section Tidy

variable {budget : UInt64} {opening root : Root Digest} {index : Nat}
  {remover : Digest → Option Nat} {cleanup next : Cleanup Digest} {files : Finset Digest}
  {victim : EvictionCandidate Digest}

omit [DecidableEq Digest] in
theorem Tidy.of_result (h : Tidy budget opening index remover cleanup)
    (honly : OnlyResult cleanup next) : Tidy budget opening index remover next := by
  obtain ⟨hpolicy, hcandidates, htotal, havailable⟩ := honly
  refine ⟨?_, ?_, havailable.trans h.available, ?_, ?_, ?_⟩
  · rw [hpolicy]
    exact h.budget
  · rw [hpolicy]
    exact h.space
  · unfold scannedDigests
    rw [hcandidates]
    exact h.once
  · rw [hcandidates]
    exact h.genuine
  · rw [hcandidates, htotal]
    exact h.account

omit [DecidableEq Digest] in
/-- A cleanup that goes on removing is over its budget. -/
theorem Tidy.above (h : Tidy budget opening index remover cleanup)
    (hover : cleanup.bytesOverTarget ≠ 0) : budget < cleanup.total := by
  rw [UInt64.lt_iff_toNat_lt]
  by_contra hfits
  refine hover (bytesOverTarget_eq_zero.mpr ?_)
  rw [h.available]
  show max (max ((cleanup.total.toNat : Int) - cleanup.policy.maxTotalBytes.toNat) 0) 0 = 0
  rw [h.budget]
  omega

/-- The scan counts an entry that it has not come to. -/
theorem Tidy.addCandidate (h : Tidy budget opening index remover cleanup)
    (hfiles : ∀ digest, digest ∉ files → opening.artifact digest = none)
    (hbytes : diskBytes files opening < 2 ^ 64) (hquiet : ∀ digest, remover digest ≠ some index)
    {candidate : EvictionCandidate Digest} (hfresh : candidate.digest ∉ scannedDigests cleanup)
    (hgenuine : Genuine opening candidate.digest candidate.size) :
    Tidy budget opening index remover
      { cleanup with
        candidates := cleanup.candidates ++ [candidate]
        total := saturatedAdd cleanup.total candidate.size } := by
  -- no digest is counted twice, so the sum stays within what was on the disk
  have honce :
      ((cleanup.candidates ++ [candidate]).map fun candidate => candidate.digest).Nodup := by
    rw [List.map_append]
    refine List.Nodup.append h.once (List.nodup_singleton _) ?_
    intro digest hscanned hnew
    obtain rfl := List.mem_singleton.mp hnew
    exact hfresh hscanned
  have hall : ∀ entry ∈ cleanup.candidates ++ [candidate],
      Genuine opening entry.digest entry.size := by
    intro entry hentry
    rcases List.mem_append.mp hentry with hold | hnew
    · exact h.genuine entry hold
    · obtain rfl := List.mem_singleton.mp hnew
      exact hgenuine
  -- nothing of its own has been removed while it scans
  have hnothing (l : List (EvictionCandidate Digest)) :
      l.filter (fun candidate => remover candidate.digest = some index) = [] := by
    refine List.filter_eq_nil_iff.mpr fun entry _ => ?_
    simpa using hquiet entry.digest
  refine ⟨h.budget, h.space, h.available, honce, hall, ?_⟩
  -- hence the addition to the estimate does not saturate
  have hle := sizes_genuine_le hfiles honce hall
  have haccount := h.account
  rw [hnothing] at haccount
  show (saturatedAdd _ _).toNat + sizes ((cleanup.candidates ++ [candidate]).filter _) = sizes _
  rw [hnothing, saturatedAdd_toNat, sizes_append, sizes_singleton]
  rw [sizes_append, sizes_singleton] at hle
  have hempty : sizes ([] : List (EvictionCandidate Digest)) = 0 := rfl
  unfold kMaxBytes
  omega

/-- What another party removes is not taken off the estimate. -/
theorem Tidy.lost (h : Tidy budget opening index remover cleanup) {other : Nat}
    (hother : other ≠ index) (hthere : remover victim.digest = none) :
    Tidy budget opening index (Function.update remover victim.digest (some other)) cleanup := by
  refine ⟨h.budget, h.space, h.available, h.once, h.genuine, ?_⟩
  have hsame : cleanup.candidates.filter (fun candidate =>
        Function.update remover victim.digest (some other) candidate.digest = some index) =
      cleanup.candidates.filter fun candidate => remover candidate.digest = some index := by
    refine List.filter_congr fun candidate _ => ?_
    by_cases hvictim : candidate.digest = victim.digest
    · rw [hvictim, Function.update_self, hthere]
      simp [hother]
    · rw [Function.update_of_ne hvictim]
  rw [hsame]
  exact h.account

/-- What is removed of a list that names it once. -/
theorem sizes_updated (hthere : remover victim.digest = none)
    {candidates : List (EvictionCandidate Digest)}
    (honce : (candidates.map fun candidate => candidate.digest).Nodup)
    (hmem : victim ∈ candidates) :
    sizes (candidates.filter fun candidate =>
        Function.update remover victim.digest (some index) candidate.digest = some index) =
      sizes (candidates.filter fun candidate => remover candidate.digest = some index) +
        victim.size.toNat := by
  induction candidates with
  | nil => exact nomatch hmem
  | cons candidate rest ih =>
    rw [List.map_cons, List.nodup_cons] at honce
    rw [sizes_filter_cons, sizes_filter_cons]
    rcases List.mem_cons.mp hmem with rfl | hrest
    · -- the digest is not named again
      have hsame : rest.filter (fun candidate =>
            Function.update remover victim.digest (some index) candidate.digest = some index) =
          rest.filter fun candidate => remover candidate.digest = some index := by
        refine List.filter_congr fun later hlater => ?_
        have hne : later.digest ≠ victim.digest := fun heq =>
          honce.1 (heq ▸ List.mem_map_of_mem hlater)
        rw [Function.update_of_ne hne]
      rw [hsame, Function.update_self, hthere]
      simp
      omega
    · have hne : candidate.digest ≠ victim.digest := fun heq =>
        honce.1 (heq ▸ List.mem_map_of_mem hrest)
      rw [ih honce.2 hrest, Function.update_of_ne hne]
      omega

/-- What the party removes itself is. -/
theorem Tidy.evicted (h : Tidy budget opening index remover cleanup)
    (hthere : remover victim.digest = none) (hmem : victim ∈ cleanup.candidates) :
    Tidy budget opening index (Function.update remover victim.digest (some index))
      (cleanup.evicted victim.size) := by
  obtain ⟨hpolicy, hcandidates⟩ := evicted_keeps victim.size cleanup
  obtain ⟨htotal, havailable, -⟩ := evicted_counts victim.size cleanup
  have haccount := h.account
  have hthree := sizes_removers remover index cleanup.candidates
  have hkept : victim.size.toNat ≤
      sizes (cleanup.candidates.filter fun candidate => remover candidate.digest = none) := by
    rw [← sizes_singleton victim]
    refine sizes_le (List.singleton_sublist.mpr (List.mem_filter.mpr ⟨hmem, ?_⟩))
    exact decide_eq_true hthere
  have hle : victim.size ≤ cleanup.total := by
    rw [UInt64.le_iff_toNat_le]
    omega
  refine ⟨?_, ?_, ?_, ?_, ?_, ?_⟩
  · rw [hpolicy]
    exact h.budget
  · rw [hpolicy]
    exact h.space
  · rw [havailable, h.available]
    rfl
  · unfold scannedDigests
    rw [hcandidates]
    exact h.once
  · rw [hcandidates]
    exact h.genuine
  · rw [hcandidates, htotal, UInt64.toNat_sub_of_le _ _ hle,
      sizes_updated hthere h.once hmem]
    have hlt := UInt64.le_iff_toNat_le.mp hle
    omega

end Tidy

/-! ## The steps of one cleanup -/

/-- What one operation of an eviction does. -/
inductive EvictChange (cleanup : Cleanup Digest) (root : Root Digest)
    (victim : EvictionCandidate Digest) (rest : List (EvictionCandidate Digest))
    (point : EvictPoint) : Option (EvictionCandidate Digest) → Phase Digest → Root Digest → Prop
  | ends : EvictChange cleanup root victim rest point none (.cleaned cleanup.finish) root
  | passes (next : Cleanup Digest) (victims : List (EvictionCandidate Digest))
      (point' : EvictPoint) (root' : Root Digest) (only : OnlyResult cleanup next)
      (left : victims ⊆ victim :: rest)
      (above : point'.checks = true → point.checks = true ∨ cleanup.bytesOverTarget ≠ 0)
      (kept : root'.artifact = root.artifact) :
      EvictChange cleanup root victim rest point none (.evicting next victims point') root'
  | removes (checked : point.checks = true) (file : CacheFile)
      (found : root.artifact victim.digest = some file) :
      EvictChange cleanup root victim rest point (some victim)
        (.evicting (cleanup.evicted victim.size) (victim :: rest) .untouching)
        (root.setArtifact victim.digest none)

section Phases

variable {validator : ArtifactValidator Digest} {budget : UInt64} {opening : Root Digest}
  {index : Nat} {remover : Digest → Option Nat} {files : Finset Digest} {s : State Digest}
  {phase : Phase Digest} {root : Root Digest}

/-- A victim that is left, where it was checked or not. -/
theorem EvictChange.leaves {cleanup : Cleanup Digest} {victim : EvictionCandidate Digest}
    {rest : List (EvictionCandidate Digest)} {point : EvictPoint} (ok : Bool) :
    EvictChange cleanup root victim rest point none
      (.evicting (cleanup.noteUnless ok) (victim :: rest) .unlocking) root :=
  .passes _ _ _ _ (noteUnless_onlyResult ok cleanup) (List.Subset.refl _)
    (fun hchecks => nomatch hchecks) rfl

/-- The next check of a victim. -/
theorem EvictChange.advances {cleanup : Cleanup Digest} {victim : EvictionCandidate Digest}
    {rest : List (EvictionCandidate Digest)} {point next : EvictPoint}
    (hpoint : point.checks = true ∨ cleanup.bytesOverTarget ≠ 0) :
    EvictChange cleanup root victim rest point none (.evicting cleanup (victim :: rest) next)
      root :=
  .passes _ _ _ _ (.refl cleanup) (List.Subset.refl _) (fun _ => hpoint) rfl

theorem evict_cases {cleanup : Cleanup Digest} {os : Answer} {victim : EvictionCandidate Digest}
    {rest : List (EvictionCandidate Digest)} {point : EvictPoint} (pid : Nat)
    (hstep : evictStep cleanup os s victim rest point = (phase, root)) :
    EvictChange cleanup s.root victim rest point
      (removal s.root { pid, phase := .evicting cleanup (victim :: rest) point } (.advance os))
      phase root := by
  have hquiet (hpoint : point ≠ .removing) : removal s.root
      { pid, phase := .evicting cleanup (victim :: rest) point } (.advance os) = none :=
    removal_left fun hremoving => absurd hremoving hpoint
  cases evictStep_moves hstep with
  | ends =>
    rw [hquiet (by decide)]
    -- under the target: the loop breaks
    exact .ends
  | locks above free =>
    rw [hquiet (by decide)]
    exact .advances (.inr above)
  | finds | sizes | stamps =>
    rw [hquiet (by decide)]
    exact .advances (.inl rfl)
  | passes ok =>
    rw [hquiet (by decide)]
    exact .passes _ _ _ _ (noteUnless_onlyResult ok cleanup) (List.subset_cons_self victim rest)
      (fun hchecks => absurd hchecks Bool.false_ne_true) rfl
  | leaves held ok kept =>
    rw [removal_left kept]
    exact .leaves ok
  | removes succeeds file found =>
    -- the artifact is there, and its removal succeeds
    rw [removal_found succeeds found]
    exact .removes rfl file found
  | untouches =>
    rw [hquiet (by decide)]
    exact .passes _ _ _ _ (.refl cleanup) (List.Subset.refl _)
      (fun hchecks => absurd hchecks Bool.false_ne_true) rfl
  | unlocks =>
    rw [hquiet (by decide)]
    exact .passes _ _ _ _ (.refl cleanup) (List.subset_cons_self victim rest)
      (fun hchecks => absurd hchecks Bool.false_ne_true) rfl

/-- A step of a cleanup removes nothing, or an artifact that nobody has removed. -/
theorem tidy_own {party : Party Digest} {action : Action Digest}
    (hfiles : ∀ digest, digest ∉ files → opening.artifact digest = none)
    (hbytes : diskBytes files opening < 2 ^ 64)
    (hdisk : ∀ digest, s.root.artifact digest =
      if remover digest = none then opening.artifact digest else none)
    (hfresh : ∀ digest cleanup now, action = .visitArtifact digest →
      party.phase = .scanning cleanup now none → digest ∉ scannedDigests cleanup)
    (h : TidyPhase budget opening index remover party.phase)
    (hstep : partyStep validator s party action = some (phase, root)) :
    (removal s.root party action = none ∧ root.artifact = s.root.artifact ∧
      TidyPhase budget opening index remover phase) ∨
    ∃ victim, removal s.root party action = some victim ∧ remover victim.digest = none ∧
      root.artifact = Function.update s.root.artifact victim.digest none ∧
      TidyPhase budget opening index (Function.update remover victim.digest (some index))
        phase := by
  obtain ⟨pid, before⟩ := party
  cases action with
  | die =>
    obtain ⟨rfl, rfl⟩ := Prod.mk.inj (Option.some.inj hstep)
    exact .inl ⟨rfl, rfl, trivial⟩
  | write | commit | abort =>
    cases before with
    | writing => exact h.elim
    | _ => cases hstep
  | release =>
    cases before with
    | leased | hit => exact h.elim
    | _ => cases hstep
  | visitFails =>
    simp only [partyStep] at hstep
    split at hstep
    next cleanup now hphase =>
      obtain ⟨rfl, rfl⟩ := Prod.mk.inj (Option.some.inj hstep)
      exact .inl ⟨rfl, rfl, h.1.of_result ⟨rfl, rfl, rfl, rfl⟩, h.2⟩
    · cases hstep
  | visitPartial digest partialPid =>
    simp only [partyStep] at hstep
    split at hstep
    next cleanup now file hphase _ =>
      split at hstep
      · obtain ⟨rfl, rfl⟩ := Prod.mk.inj (Option.some.inj hstep)
        exact .inl ⟨rfl, rfl, h.1.of_result ⟨rfl, rfl, rfl, rfl⟩, h.2⟩
      · obtain ⟨rfl, rfl⟩ := Prod.mk.inj (Option.some.inj hstep)
        exact .inl ⟨rfl, rfl, h⟩
    · cases hstep
  | visitArtifact digest =>
    simp only [partyStep] at hstep
    split at hstep
    next _ _ cleanup now file hfile =>
      obtain ⟨rfl, rfl⟩ := Prod.mk.inj (Option.some.inj hstep)
      refine .inl ⟨rfl, rfl, h, hfresh digest cleanup now rfl rfl, ?_⟩
      rw [hdisk] at hfile
      split at hfile
      · exact genuine_size hfiles hbytes hfile
      · cases hfile
    · cases hstep
  | advance os =>
    cases before with
    | lookup | leasing | leased | beginning | writing | aborting | committing | hit | unlocking =>
      exact h.elim
    | scanning cleanup now sized =>
      cases sized with
      | none =>
        simp only [partyStep, advance] at hstep
        split at hstep
        · obtain ⟨rfl, rfl⟩ := Prod.mk.inj (Option.some.inj hstep)
          exact .inl ⟨rfl, rfl, h.1.of_result ⟨rfl, rfl, rfl, rfl⟩, h.2⟩
        · obtain ⟨rfl, rfl⟩ := Prod.mk.inj (Option.some.inj hstep)
          exact .inl ⟨rfl, rfl, trivial⟩
      | some sized =>
        obtain ⟨rfl, rfl⟩ := Prod.mk.inj (Option.some.inj hstep)
        obtain ⟨⟨htidy, hquiet⟩, hnew, hgenuine⟩ := h
        exact .inl ⟨rfl, rfl, htidy.addCandidate hfiles hbytes hquiet hnew hgenuine, hquiet⟩
    | sweeping cleanup partials point =>
      cases partials with
      | nil =>
        obtain ⟨rfl, rfl⟩ := Prod.mk.inj (Option.some.inj hstep)
        exact .inl ⟨rfl, rfl, h⟩
      | cons stale rest =>
        obtain ⟨next, partials, point', root', hsweep, honly, hartifact⟩ :=
          sweepStep_only cleanup os s stale rest point
        obtain ⟨rfl, rfl⟩ := Prod.mk.inj (hsweep.symm.trans (Option.some.inj hstep))
        exact .inl ⟨rfl, hartifact, h.1.of_result honly, h.2⟩
    | spacing cleanup =>
      -- there is no budget for the free space
      obtain ⟨htidy, -⟩ := h
      simp only [partyStep, advance] at hstep
      rw [if_pos htidy.space] at hstep
      obtain ⟨rfl, rfl⟩ := Prod.mk.inj (Option.some.inj hstep)
      exact .inl ⟨rfl, rfl, htidy, (sortedCandidates_perm cleanup).subset,
        fun hchecks => absurd hchecks Bool.false_ne_true⟩
    | evicting cleanup victims point =>
      obtain ⟨htidy, hvictims, habove⟩ := h
      cases victims with
      | nil =>
        obtain ⟨rfl, rfl⟩ := Prod.mk.inj (Option.some.inj hstep)
        exact .inl ⟨rfl, rfl, trivial⟩
      | cons victim rest =>
        have hchange := evict_cases pid (Option.some.inj hstep)
        generalize removal s.root _ _ = removed at hchange
        cases hchange with
        | ends => exact .inl ⟨rfl, rfl, trivial⟩
        | passes next victims point' root' only left above kept =>
          refine .inl ⟨rfl, kept, htidy.of_result only, ?_, fun hchecks => ?_⟩
          · rw [only.candidates]
            exact List.Subset.trans left hvictims
          · rw [only.total]
            rcases above hchecks with hpoint | hover
            · exact habove hpoint
            · exact htidy.above hover
        | removes checked file found =>
          have hthere : remover victim.digest = none := by
            rw [hdisk] at found
            split at found
            next hnone => exact hnone
            next => cases found
          refine .inr ⟨victim, rfl, hthere, rfl, htidy.evicted hthere (hvictims (by simp)), ?_,
            fun hchecks => absurd hchecks Bool.false_ne_true⟩
          rw [(evicted_keeps victim.size cleanup).2]
          exact hvictims
    | _ => cases hstep

end Phases

/-! ## The race -/

section Race

variable {validator : ArtifactValidator Digest} {budget : UInt64} {opening : Root Digest}
  {files : Finset Digest} {r r' : Recorded Digest}

theorem recorded_cases {event : Event Digest} (h : recordedStep validator event r = some r') :
    ∃ state, step validator event r.state = some state ∧
      r' = { state, remover := noteRemoval r.remover (evicts event r.state) } := by
  unfold recordedStep at h
  split at h
  next => exact nomatch h
  next state hstep => exact ⟨state, hstep, (Option.some.inj h).symm⟩

theorem TidyPhase.lost {index other : Nat} {remover : Digest → Option Nat} {phase : Phase Digest}
    {victim : EvictionCandidate Digest} (h : TidyPhase budget opening index remover phase)
    (hother : other ≠ index) (hthere : remover victim.digest = none) :
    TidyPhase budget opening index (Function.update remover victim.digest (some other)) phase := by
  have hquiet (hold : ∀ digest, remover digest ≠ some index) (digest : Digest) :
      Function.update remover victim.digest (some other) digest ≠ some index := by
    by_cases hvictim : digest = victim.digest
    · rw [hvictim, Function.update_self]
      exact fun heq => hother (Option.some.inj heq)
    · rw [Function.update_of_ne hvictim]
      exact hold digest
  cases phase with
  | scanning cleanup now sized =>
    cases sized with
    | none => exact ⟨h.1.lost hother hthere, hquiet h.2⟩
    | some sized => exact ⟨⟨h.1.1.lost hother hthere, hquiet h.1.2⟩, h.2⟩
  | sweeping | spacing => exact ⟨h.1.lost hother hthere, hquiet h.2⟩
  | evicting => exact ⟨h.1.lost hother hthere, h.2⟩
  | lookup | leasing | leased | beginning | writing | aborting | committing | hit | unlocking =>
    exact h.elim
  | _ => trivial

theorem Racing.step (hfiles : ∀ digest, digest ∉ files → opening.artifact digest = none)
    (hbytes : diskBytes files opening < 2 ^ 64) (h : Racing budget opening r)
    {event : Event Digest} (hcleans : cleans budget event r = true)
    (hstep : recordedStep validator event r = some r') : Racing budget opening r' := by
  obtain ⟨state, hstate, rfl⟩ := recorded_cases hstep
  rcases step_cases hstate with ⟨pid, request, rfl, rfl⟩ |
    ⟨index, action, party, phase, root, rfl, hfound, hparty, rfl⟩
  · -- a cleanup begins
    refine ⟨h.disk, fun digest index hremover => ?_, fun index party hfound => ?_⟩
    · rw [List.length_append]
      exact Nat.lt_add_right _ (h.known digest index hremover)
    · by_cases hlt : index < r.state.parties.length
      · rw [List.getElem?_append_left hlt] at hfound
        exact h.parties index party hfound
      · have hquiet (digest : Digest) : r.remover digest ≠ some index := fun hremover =>
          hlt (h.known digest index hremover)
        cases request with
        | lookup | acquireReadLease | beginWrite => exact nomatch hcleans
        | cleanup policy now =>
          obtain ⟨hbudget, hspace⟩ := Bool.and_eq_true_iff.mp hcleans
          rcases getElem?_snoc_cases hfound with hold | rfl
          · exact absurd (List.getElem?_eq_some_iff.mp hold).1 hlt
          · exact ⟨⟨of_decide_eq_true hbudget, of_decide_eq_true hspace, rfl, List.nodup_nil,
              (fun _ hmem => nomatch hmem), rfl⟩, hquiet⟩
  · have hfresh : ∀ digest cleanup now, action = .visitArtifact digest →
        party.phase = .scanning cleanup now none → digest ∉ scannedDigests cleanup := by
      rintro digest cleanup now rfl hphase hscanned
      obtain ⟨pid, before⟩ := party
      obtain rfl : before = .scanning cleanup now none := hphase
      obtain ⟨candidate, hcandidate, rfl⟩ := List.mem_map.mp hscanned
      simp only [cleans, hfound] at hcleans
      exact of_decide_eq_true (List.all_eq_true.mp hcleans candidate hcandidate) rfl
    have hevicts : evicts (.act index action) r.state =
        (removal r.state.root party action).map fun victim => (index, victim) := by
      simp only [evicts, hfound]
    rw [hevicts]
    rcases tidy_own hfiles hbytes h.disk hfresh (h.parties index party hfound) hparty with
      ⟨hnone, hkept, htidy⟩ | ⟨victim, hsome, hthere, hgone, htidy⟩
    · rw [hnone]
      refine ⟨fun digest => ?_, fun digest other hremover => ?_, fun other found hother => ?_⟩
      · show root.artifact digest = _
        rw [hkept]
        exact h.disk digest
      · rw [List.length_set]
        exact h.known digest other hremover
      · rcases getElem?_set_cases hother with ⟨rfl, rfl⟩ | ⟨-, hold⟩
        · exact htidy
        · exact h.parties other found hold
    · rw [hsome]
      refine ⟨fun digest => ?_, fun digest other hremover => ?_, fun other found hother => ?_⟩
      · show root.artifact digest =
          if Function.update r.remover victim.digest (some index) digest = none then _ else none
        rw [hgone]
        by_cases hvictim : digest = victim.digest
        · rw [hvictim, Function.update_self, Function.update_self]
          rfl
        · rw [Function.update_of_ne hvictim, Function.update_of_ne hvictim]
          exact h.disk digest
      · rw [List.length_set]
        by_cases hvictim : digest = victim.digest
        · have hindex : Function.update r.remover victim.digest (some index) digest =
              some other := hremover
          rw [hvictim, Function.update_self] at hindex
          obtain rfl := Option.some.inj hindex
          exact (List.getElem?_eq_some_iff.mp hfound).1
        · have hold : Function.update r.remover victim.digest (some index) digest =
              some other := hremover
          rw [Function.update_of_ne hvictim] at hold
          exact h.known digest other hold
      · rcases getElem?_set_cases hother with ⟨rfl, rfl⟩ | ⟨hne, hold⟩
        · exact htidy
        · exact (h.parties other found hold).lost hne hthere

/-- The cache before any cleanup. -/
def recorded (opening : Root Digest) : Recorded Digest := { state := opened opening }

/-- A cleanup removes an artifact from a directory that is over the budget exactly if what
others have removed of its scan is less than what it is over the budget by its estimate, and
what there is that it did not come to. -/
theorem overEvicts_iff {events : List (Event Digest)}
    (hfiles : ∀ digest, digest ∉ files → opening.artifact digest = none)
    (hbytes : diskBytes files opening < 2 ^ 64)
    (hcleans : Taken (recordedStep validator) (fun event r => cleans budget event r = true) events
      (recorded opening))
    (hrun : run (recordedStep validator) events (recorded opening) = some r)
    {index pid : Nat} {cleanup : Cleanup Digest} {victims : List (EvictionCandidate Digest)}
    {point : EvictPoint} {action : Action Digest} {victim : EvictionCandidate Digest}
    (hparty : r.state.parties[index]? = some ⟨pid, .evicting cleanup victims point⟩)
    (hevicts : evicts (.act index action) r.state = some (index, victim)) :
    (budget.toNat < diskBytes files r.state.root ↔
      budget.toNat + lostBytes index r.remover cleanup <
        cleanup.total.toNat + unseenBytes files r.state.root cleanup) ∧
    (lostBytes index r.remover cleanup = 0 → budget.toNat < diskBytes files r.state.root) := by
  -- `Racing` holds at the start, and every step that is a clean one keeps it
  have hopened : Racing budget opening (recorded opening) :=
    ⟨fun _ => rfl, (fun _ _ hremover => nomatch hremover), fun _ _ hfound => nomatch hfound⟩
  have hracing : Racing budget opening r :=
    run_keeps_taken (Racing budget opening)
      (fun _ _ _ h hcleans hstep => h.step hfiles hbytes hcleans hstep) hcleans hopened hrun
  obtain ⟨htidy, -, habove⟩ := hracing.parties index _ hparty
  have haccount := disk_add_lost hfiles hracing.disk htidy
  refine ⟨by omega, fun hlost => ?_⟩
  -- a removal happens at a point that has checked the estimate
  have hchecks : point.checks = true := by
    have hremoval : (removal r.state.root ⟨pid, .evicting cleanup victims point⟩ action).map
        (fun victim => (index, victim)) = some (index, victim) := by
      simpa only [evicts, hparty] using hevicts
    by_contra hunchecked
    rw [removal_none] at hremoval
    · exact nomatch hremoval
    · intro other left hphase
      obtain ⟨-, -, rfl⟩ := Phase.evicting.inj hphase
      exact hunchecked rfl
  have hover := UInt64.lt_iff_toNat_lt.mp (habove hchecks)
  omega

end Race

/-! Two cleanups with a budget of two bytes scan artifacts of one and of two. -/

def scansStored (party : Nat) : List (Event Nat) :=
  [.act party (.visitArtifact 0), advanced party, .act party (.visitArtifact 1), advanced party,
    advanced party, advanced party, advanced party]

def bothScan : List (Event Nat) :=
  [.call 1 (.cleanup { maxTotalBytes := 2 } 0), .call 2 (.cleanup { maxTotalBytes := 2 } 0)] ++
    scansStored 0 ++ scansStored 1

/-- The first is about to remove the older artifact. -/
def firstRemoves : List (Event Nat) := bothScan ++ List.replicate 4 (advanced 0)

/-- It has removed it, and the second is about to remove the other. -/
def secondRemoves : List (Event Nat) :=
  bothScan ++ List.replicate 7 (advanced 0) ++ List.replicate 7 (advanced 1)

theorem storedRoot_files (digest : Nat) (h : digest ∉ Finset.range 2) :
    storedRoot.artifact digest = none :=
  if_neg fun hlt => h (Finset.mem_range.mpr hlt)

/-- A cleanup that has come to both. -/
def scannedBoth : Cleanup Nat where
  policy := { maxTotalBytes := 2 }
  candidates := [⟨0, 1, 0⟩, ⟨1, 2, 1⟩]
  total := 3
  result := { bytesScanned := 3 }

theorem overEvicts_iff_first :
    ∃ r, run (recordedStep none) firstRemoves (recorded storedRoot) = some r ∧
      evicts (advanced 0) r.state = some (0, ⟨0, 1, 0⟩) ∧
      2 < diskBytes (Finset.range 2) r.state.root := by
  have hcleans : Taken (recordedStep none) (fun event r => cleans 2 event r = true) firstRemoves
      (recorded storedRoot) := by decide
  have hreached : ∃ r, run (recordedStep none) firstRemoves (recorded storedRoot) = some r ∧
      r.state.parties[0]? =
        some ⟨1, .evicting scannedBoth scannedBoth.sortedCandidates .removing⟩ ∧
      evicts (advanced 0) r.state = some (0, ⟨0, 1, 0⟩) ∧
      lostBytes 0 r.remover scannedBoth = 0 := ⟨_, rfl, rfl, rfl, rfl⟩
  obtain ⟨r, hrun, hparty, hevicts, hlost⟩ := hreached
  exact ⟨r, hrun, hevicts,
    (overEvicts_iff storedRoot_files (by decide) hcleans hrun hparty hevicts).2 hlost⟩

/-- The second empties the directory, which fits the budget since the first removed an
artifact of its scan. -/
theorem lost_overEvicts :
    ∃ r, run (recordedStep none) secondRemoves (recorded storedRoot) = some r ∧
      Taken (recordedStep none) (fun event r => cleans 2 event r = true) secondRemoves
        (recorded storedRoot) ∧
      evicts (advanced 1) r.state = some (1, ⟨1, 2, 1⟩) ∧
      diskBytes (Finset.range 2) r.state.root = 2 :=
  ⟨_, rfl, by decide, rfl, rfl⟩

end RequestCache

end PlotJugglerSdk
