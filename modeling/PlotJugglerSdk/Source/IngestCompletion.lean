import Mathlib.Data.List.Induction
import PlotJugglerSdk.Host.ObjectOutput
import PlotJugglerSdk.Json.Reading
import PlotJugglerSdk.Order.SortedMap
import PlotJugglerSdk.Scan.Folds

/-!
# The end of an ingest

A finite ingest is asked for a set of topics. A ledger keeps how each of them went, and what is
reported at the end is computed from it: completed, only if every topic went well. The report
crosses to the host as a struct that borrows its names; the host checks it and copies it, and
what it cannot check it does not believe.

* `copyIngestCompletion_ok_iff` — which structs the host takes, and what it then has
* `computeCompletion_run`       — the ledger goes by what was recorded last of each topic
* `reports_arrive`              — what a host has after any run of reports
-/

namespace PlotJugglerSdk

open Wire Json

inductive TopicOutcome where
  | kPending
  | kOk
  | kEmptyOk
  | kFailed
  deriving DecidableEq

inductive IngestOutcome where
  | kFailed
  | kCancelled
  | kCompleted
  deriving DecidableEq

def PJ_INGEST_FAILED : Int32 := 0

def PJ_INGEST_CANCELLED : Int32 := 1

def PJ_INGEST_COMPLETED : Int32 := 2

def IngestOutcome.code : IngestOutcome → Int32
  | .kFailed => PJ_INGEST_FAILED
  | .kCancelled => PJ_INGEST_CANCELLED
  | .kCompleted => PJ_INGEST_COMPLETED

def IngestOutcome.ofCode (code : Int32) : Option IngestOutcome :=
  if code = PJ_INGEST_FAILED then some .kFailed
  else if code = PJ_INGEST_CANCELLED then some .kCancelled
  else if code = PJ_INGEST_COMPLETED then some .kCompleted
  else none

def PJ_INGEST_COMPLETION_FLAG_NONE : UInt64 := 0

def PJ_INGEST_COMPLETION_FLAG_ATTESTS_EMPTY_TOPICS : UInt64 := (1 : UInt64) <<< 0

def PJ_INGEST_COMPLETION_FLAGS_V1_MASK : UInt64 := PJ_INGEST_COMPLETION_FLAG_ATTESTS_EMPTY_TOPICS

/-! ## The ledger -/

def topicLess (a b : Bytes) : Bool := decide (a < b)

/-- The topics asked for, each once, and how each of them went. -/
structure IngestOutcomeLedger where
  outcomes : List (Bytes × TopicOutcome)
  ascending : SortedMap.Ascending topicLess outcomes

structure IngestCompletion where
  outcome : IngestOutcome := .kFailed
  flags : UInt64 := PJ_INGEST_COMPLETION_FLAG_NONE
  deriving DecidableEq

namespace IngestOutcomeLedger

def declare (ledger : IngestOutcomeLedger) (topic : Bytes) : IngestOutcomeLedger where
  outcomes := SortedMap.emplace topicLess topic .kPending ledger.outcomes
  ascending := SortedMap.ascending_emplace Ranking.decisive_bytes ledger.ascending

def ofRequested (requestedTopics : List Bytes) : IngestOutcomeLedger :=
  requestedTopics.foldl declare { outcomes := [], ascending := List.Pairwise.nil }

def record (ledger : IngestOutcomeLedger) (topic : Bytes) (topicOutcome : TopicOutcome) :
    Bool × IngestOutcomeLedger :=
  -- a topic that was not declared does not become part of the request
  if (ledger.outcomes.lookup topic).isNone then (false, ledger)
  else
    (true,
      { outcomes := SortedMap.insert topicLess topic topicOutcome ledger.outcomes
        ascending := SortedMap.ascending_insert Ranking.decisive_bytes ledger.ascending })

def outcome (ledger : IngestOutcomeLedger) (topic : Bytes) : TopicOutcome :=
  (ledger.outcomes.lookup topic).getD .kPending

/-- The flags after one more topic; `none` is the early return. -/
def completionFlags (flags : UInt64) (entry : Bytes × TopicOutcome) : Option UInt64 :=
  match entry.2 with
  | .kOk => some flags
  | .kEmptyOk => some (flags ||| PJ_INGEST_COMPLETION_FLAG_ATTESTS_EMPTY_TOPICS)
  | .kPending | .kFailed => none

def computeCompletion (ledger : IngestOutcomeLedger) (cancelled : Bool) : IngestCompletion :=
  if cancelled then
    { outcome := .kCancelled, flags := PJ_INGEST_COMPLETION_FLAG_NONE }
  else
    match ledger.outcomes.foldlM completionFlags PJ_INGEST_COMPLETION_FLAG_NONE with
    | none => {}
    | some flags => { outcome := .kCompleted, flags }

end IngestOutcomeLedger

/-! ## What crosses to the host -/

/-- The names are borrowed: as many as the count says, unless their pointer is null. -/
structure PJ_ingest_completion_t where
  structSize : UInt32
  outcome : Int32
  flags : UInt64
  requestedTopics : Option (List BytesView)
  requestedTopicCount : Nat
  borrowed : ∀ names ∈ requestedTopics, names.length = requestedTopicCount

def kIngestCompletionSize : UInt32 := 32

structure IngestCompletionRecord where
  outcome : IngestOutcome := .kFailed
  flags : UInt64 := PJ_INGEST_COMPLETION_FLAG_NONE
  requestedTopics : List Bytes := []
  deriving DecidableEq

def IngestCompletionRecord.attestsEmptyTopics (record : IngestCompletionRecord) : Bool :=
  record.flags &&& PJ_INGEST_COMPLETION_FLAG_ATTESTS_EMPTY_TOPICS ≠ 0

def kMaxIngestCompletionTopics : Nat := 100000

def kMaxIngestCompletionTopicNameBytes : Nat := 4096

def kMaxIngestCompletionTotalNameBytes : Nat := 4 <<< 20

structure CopiedTopics where
  requestedTopics : List Bytes := []
  seen : List Bytes := []
  totalNameBytes : Nat := 0

def copyTopic (copied : CopiedTopics) (name : BytesView) : Except Bytes CopiedTopics :=
  match name with
  | .null _ => .error (text "empty topic name in the requested set")
  | .bytes view =>
    if view.length = 0 then .error (text "empty topic name in the requested set")
    else if view.length > kMaxIngestCompletionTopicNameBytes then
      .error (text "topic name exceeds the structural byte bound")
    else
      -- bounded name by name, so the sum does not overflow within the bound on their count
      let totalNameBytes := copied.totalNameBytes + view.length
      if totalNameBytes > kMaxIngestCompletionTotalNameBytes then
        .error (text "requested topic set exceeds the structural byte bound")
      else if copied.seen.contains view then
        .error (text "duplicate topic name in the requested set: " ++ view)
      else
        .ok
          { requestedTopics := copied.requestedTopics ++ [view]
            seen := view :: copied.seen
            totalNameBytes }

def copyIngestCompletion (completion : Option PJ_ingest_completion_t) :
    Except Bytes IngestCompletionRecord :=
  match completion with
  | none => .error (text "completion is null")
  | some completion =>
    if completion.structSize < kIngestCompletionSize then
      .error (text "completion struct_size is smaller than the v1 layout")
    else
      match IngestOutcome.ofCode completion.outcome with
      | none => .error (text "unknown ingest outcome")
      | some outcome =>
        if completion.flags &&& ~~~PJ_INGEST_COMPLETION_FLAGS_V1_MASK ≠ 0 then
          .error (text "unknown completion flags")
        else if completion.flags &&& PJ_INGEST_COMPLETION_FLAG_ATTESTS_EMPTY_TOPICS ≠ 0 ∧
            completion.outcome ≠ PJ_INGEST_COMPLETED then
          .error (text "empty-topic attestation requires a COMPLETED outcome")
        else if completion.requestedTopics.isNone ∧ completion.requestedTopicCount ≠ 0 then
          .error (text "null topic list with nonzero count")
        else if completion.requestedTopicCount > kMaxIngestCompletionTopics then
          .error (text "requested topic count exceeds the structural bound")
        else
          match (completion.requestedTopics.getD []).foldlM copyTopic {} with
          | .error e => .error e
          | .ok copied =>
            .ok { outcome, flags := completion.flags, requestedTopics := copied.requestedTopics }

/-! ## The two ends of the call -/

/-- The host of a delegated ingest, as far as the end of the ingest concerns it. -/
structure DelegatedIngestFixture where
  exposesCompleteIngest : Bool := true
  completions : List IngestCompletionRecord := []
  deriving DecidableEq

/-- The host's callback. -/
def DelegatedIngestFixture.completeIngest (self : DelegatedIngestFixture)
    (completion : PJ_ingest_completion_t) : Except Bytes Unit × DelegatedIngestFixture :=
  match copyIngestCompletion (some completion) with
  | .error e => (.error (text "delegated_ingest_fixture: " ++ e), self)
  | .ok copied => (.ok (), { self with completions := self.completions ++ [copied] })

/-- What a plugin's view makes of a report. -/
def abiCompletion (outcome : IngestOutcome) (requestedTopics : List Bytes) (flags : UInt64) :
    PJ_ingest_completion_t where
  structSize := kIngestCompletionSize
  outcome := outcome.code
  flags
  requestedTopics := some (requestedTopics.map .bytes)
  requestedTopicCount := requestedTopics.length
  borrowed names hnames := by
    obtain rfl := Option.some.inj hnames
    exact List.length_map _

/-- The plugin's side. -/
def DelegatedIngestFixture.completeIngestView (host : DelegatedIngestFixture)
    (outcome : IngestOutcome) (requestedTopics : List Bytes) (flags : UInt64) :
    Except Bytes Unit × DelegatedIngestFixture :=
  if !host.exposesCompleteIngest then
    (.error (text "runtime host does not expose complete_ingest"), host)
  else host.completeIngest (abiCompletion outcome requestedTopics flags)

/-! ## Which structs the host takes -/

/-- Topics that a host is willing to copy. -/
structure WellFormedTopics (topics : List Bytes) : Prop where
  count : topics.length ≤ kMaxIngestCompletionTopics
  named : ∀ topic ∈ topics, topic ≠ [] ∧ topic.length ≤ kMaxIngestCompletionTopicNameBytes
  total : (topics.map List.length).sum ≤ kMaxIngestCompletionTotalNameBytes
  distinct : topics.Nodup

instance : DecidablePred WellFormedTopics := fun topics =>
  decidable_of_iff
    (topics.length ≤ kMaxIngestCompletionTopics ∧
      (∀ topic ∈ topics, topic ≠ [] ∧ topic.length ≤ kMaxIngestCompletionTopicNameBytes) ∧
      (topics.map List.length).sum ≤ kMaxIngestCompletionTotalNameBytes ∧ topics.Nodup)
    ⟨fun ⟨count, named, total, distinct⟩ => { count, named, total, distinct },
      fun h => ⟨h.count, h.named, h.total, h.distinct⟩⟩

/-- Where the loop stands once it has copied these topics. -/
def copiedOf (topics : List Bytes) : CopiedTopics where
  requestedTopics := topics
  seen := topics.reverse
  totalNameBytes := (topics.map List.length).sum

theorem copyTopic_ok_iff {topics : List Bytes} {name : BytesView} {copied : CopiedTopics} :
    copyTopic (copiedOf topics) name = .ok copied ↔
      ∃ view, name = .bytes view ∧
        (view ≠ [] ∧ view.length ≤ kMaxIngestCompletionTopicNameBytes) ∧
        ((topics ++ [view]).map List.length).sum ≤ kMaxIngestCompletionTotalNameBytes ∧
        view ∉ topics ∧ copied = copiedOf (topics ++ [view]) := by
  cases name with
  | null size => simp [copyTopic]
  | bytes view =>
    have hsum : ((topics ++ [view]).map List.length).sum =
        (copiedOf topics).totalNameBytes + view.length := by simp [copiedOf]
    have hafter : copiedOf (topics ++ [view]) =
        { requestedTopics := (copiedOf topics).requestedTopics ++ [view]
          seen := view :: (copiedOf topics).seen
          totalNameBytes := (copiedOf topics).totalNameBytes + view.length } := by
      simp [copiedOf]
    have hseen : (copiedOf topics).seen.contains view = true ↔ view ∈ topics := by
      simp [copiedOf]
    simp only [copyTopic, BytesView.bytes.injEq, exists_eq_left', hsum, hafter, hseen, ne_eq,
      ← List.length_eq_zero_iff (l := view)]
    split_ifs <;> simp_all [eq_comm]

theorem copyTopics_ok_iff {topics : List Bytes} {names : List BytesView} {copied : CopiedTopics}
    (hdistinct : topics.Nodup)
    (htotal : (topics.map List.length).sum ≤ kMaxIngestCompletionTotalNameBytes) :
    names.foldlM copyTopic (copiedOf topics) = .ok copied ↔
      ∃ views, names = views.map .bytes ∧
        (∀ view ∈ views, view ≠ [] ∧ view.length ≤ kMaxIngestCompletionTopicNameBytes) ∧
        ((topics ++ views).map List.length).sum ≤ kMaxIngestCompletionTotalNameBytes ∧
        (topics ++ views).Nodup ∧ copied = copiedOf (topics ++ views) := by
  induction names generalizing topics with
  | nil =>
    rw [List.foldlM_nil]
    constructor
    · intro h
      obtain rfl := Except.ok.inj h
      exact ⟨[], rfl, nofun, by simpa using htotal, by simpa using hdistinct, by simp⟩
    · rintro ⟨views, hviews, -, -, -, rfl⟩
      obtain rfl := List.map_eq_nil_iff.mp hviews.symm
      rw [List.append_nil]
      rfl
  | cons name names ih =>
    rw [List.foldlM_cons, Scan.bind_eq_ok]
    constructor
    · rintro ⟨next, hnext, hrest⟩
      obtain ⟨view, rfl, hview, hsum, hnew, rfl⟩ := copyTopic_ok_iff.mp hnext
      have hfresh : (topics ++ [view]).Nodup := by
        simp only [List.nodup_append, List.nodup_cons, List.not_mem_nil, not_false_eq_true,
          List.nodup_nil, and_true, List.mem_singleton, forall_eq, true_and, hdistinct]
        exact fun topic htopic heq => hnew (heq ▸ htopic)
      obtain ⟨views, rfl, hviews, hall, hnodup, rfl⟩ := (ih hfresh hsum).mp hrest
      rw [List.append_assoc, List.singleton_append] at hall hnodup
      refine ⟨view :: views, rfl, List.forall_mem_cons.mpr ⟨hview, hviews⟩, hall, hnodup, ?_⟩
      rw [List.append_assoc, List.singleton_append]
    · rintro ⟨views, hnames, hviews, hall, hnodup, rfl⟩
      obtain ⟨view, views, rfl, rfl, rfl⟩ := List.map_eq_cons_iff.mp hnames.symm
      obtain ⟨hview, hviews⟩ := List.forall_mem_cons.mp hviews
      rw [List.append_cons] at hall hnodup
      have hfresh := hnodup.of_append_left
      have hsum : ((topics ++ [view]).map List.length).sum ≤ kMaxIngestCompletionTotalNameBytes := by
        rw [List.map_append, List.sum_append] at hall
        omega
      refine ⟨_, copyTopic_ok_iff.mpr ⟨view, rfl, hview, hsum, ?_, rfl⟩,
        (ih hfresh hsum).mpr ⟨views, rfl, hviews, hall, hnodup, by rw [List.append_cons]⟩⟩
      exact fun hmem => (List.nodup_append.mp hfresh).2.2 view hmem view (by simp) rfl

theorem ofCode_eq_some_iff {code : Int32} {outcome : IngestOutcome} :
    IngestOutcome.ofCode code = some outcome ↔ code = outcome.code := by
  unfold IngestOutcome.ofCode
  constructor
  · intro h
    split_ifs at h with hfailed hcancelled hcompleted
    all_goals
      obtain rfl := Option.some.inj h
      assumption
  · rintro rfl
    cases outcome <;> decide

/-- No flag but the one known, and that one only for a completed ingest. -/
def KnownFlags (outcome : IngestOutcome) (flags : UInt64) : Prop :=
  flags = PJ_INGEST_COMPLETION_FLAG_NONE ∨
    flags = PJ_INGEST_COMPLETION_FLAG_ATTESTS_EMPTY_TOPICS ∧ outcome = .kCompleted

theorem masked_flags_iff (flags : UInt64) :
    flags &&& ~~~PJ_INGEST_COMPLETION_FLAGS_V1_MASK = 0 ↔
      flags = PJ_INGEST_COMPLETION_FLAG_NONE ∨
        flags = PJ_INGEST_COMPLETION_FLAG_ATTESTS_EMPTY_TOPICS := by
  constructor
  · intro h
    have hbits : flags.toNat < 2 ^ 1 := by
      refine Nat.lt_pow_two_of_testBit _ fun i hi => ?_
      by_cases hwide : i < 64
      · have hbit : (flags.toBitVec &&& ~~~1#64).getLsbD i = false := by
          rw [show flags.toBitVec &&& ~~~1#64 = 0#64 from congrArg UInt64.toBitVec h]
          exact BitVec.getLsbD_zero
        have hlater : i ≠ 0 := by omega
        rw [BitVec.getLsbD_and, BitVec.getLsbD_not, BitVec.getLsbD_one] at hbit
        simp only [hwide, hlater, decide_true, decide_false, Bool.and_false, Bool.not_false,
          Bool.and_true] at hbit
        exact hbit
      · exact Nat.testBit_lt_two_pow
          (flags.toNat_lt.trans_le (Nat.pow_le_pow_right (by decide) (by omega)))
    obtain hzero | hone : flags.toNat = 0 ∨ flags.toNat = 1 := by omega
    · exact .inl (UInt64.toNat_inj.mp hzero)
    · exact .inr (UInt64.toNat_inj.mp hone)
  · rintro (rfl | rfl) <;> decide

/-- What is checked of the flags. -/
theorem knownFlags_iff {outcome : IngestOutcome} {flags : UInt64} :
    KnownFlags outcome flags ↔
      flags &&& ~~~PJ_INGEST_COMPLETION_FLAGS_V1_MASK = 0 ∧
        ¬(flags &&& PJ_INGEST_COMPLETION_FLAG_ATTESTS_EMPTY_TOPICS ≠ 0 ∧
          outcome.code ≠ PJ_INGEST_COMPLETED) := by
  have hcode : outcome.code = PJ_INGEST_COMPLETED ↔ outcome = .kCompleted := by
    cases outcome <;> decide
  rw [masked_flags_iff, ne_eq (a := outcome.code), hcode]
  constructor
  · rintro (rfl | ⟨rfl, rfl⟩)
    · exact ⟨.inl rfl, fun h => h.1 (by decide)⟩
    · exact ⟨.inr rfl, fun h => h.2 rfl⟩
  · rintro ⟨rfl | rfl, hattests⟩
    · exact .inl rfl
    · exact .inr ⟨rfl, by_contra fun hnot => hattests ⟨by decide, hnot⟩⟩

theorem copyNames_ok_iff {names : List BytesView} {topics : List Bytes} :
    (∃ copied, names.foldlM copyTopic {} = .ok copied ∧ copied.requestedTopics = topics) ↔
      names = topics.map .bytes ∧
        (∀ topic ∈ topics, topic ≠ [] ∧ topic.length ≤ kMaxIngestCompletionTopicNameBytes) ∧
        (topics.map List.length).sum ≤ kMaxIngestCompletionTotalNameBytes ∧ topics.Nodup := by
  have hloop (copied : CopiedTopics) : names.foldlM copyTopic {} = .ok copied ↔ _ :=
    @copyTopics_ok_iff [] names copied List.nodup_nil (Nat.zero_le _)
  constructor
  · rintro ⟨copied, hcopied, rfl⟩
    obtain ⟨views, hnames, hviews, hsum, hnodup, rfl⟩ := (hloop copied).mp hcopied
    exact ⟨hnames, hviews, hsum, hnodup⟩
  · rintro ⟨hnames, hviews, hsum, hnodup⟩
    exact ⟨copiedOf topics, (hloop _).mpr ⟨topics, hnames, hviews, hsum, hnodup, rfl⟩, rfl⟩

/-- The host takes a struct that is large enough, of a known outcome and known flags, whose topics
are well formed, and then has just what the struct says. -/
theorem copyIngestCompletion_ok_iff (completion : PJ_ingest_completion_t)
    (record : IngestCompletionRecord) :
    copyIngestCompletion (some completion) = .ok record ↔
      kIngestCompletionSize ≤ completion.structSize ∧
        completion.outcome = record.outcome.code ∧
        completion.flags = record.flags ∧ KnownFlags record.outcome record.flags ∧
        completion.requestedTopicCount = record.requestedTopics.length ∧
        completion.requestedTopics.getD [] = record.requestedTopics.map .bytes ∧
        WellFormedTopics record.requestedTopics := by
  have hcount : ¬(completion.requestedTopics.isNone ∧ completion.requestedTopicCount ≠ 0) ↔
      (completion.requestedTopics.getD []).length = completion.requestedTopicCount := by
    cases hnames : completion.requestedTopics with
    | none => simp [eq_comm]
    | some names => simp [completion.borrowed names hnames]
  unfold copyIngestCompletion
  constructor
  · intro h
    dsimp only at h
    split at h
    · cases h
    rename_i hsize
    cases houtcome : IngestOutcome.ofCode completion.outcome with
    | none => simp [houtcome] at h
    | some outcome =>
      rw [houtcome] at h
      dsimp only at h
      split at h
      · cases h
      rename_i hmask
      split at h
      · cases h
      rename_i hattests
      split at h
      · cases h
      rename_i hnull
      split at h
      · cases h
      rename_i hbound
      cases hcopied : (completion.requestedTopics.getD []).foldlM copyTopic {} with
      | error e => simp [hcopied] at h
      | ok copied =>
        rw [hcopied] at h
        obtain rfl := Except.ok.inj h
        obtain ⟨hnames, hviews, hsum, hnodup⟩ := copyNames_ok_iff.mp ⟨copied, hcopied, rfl⟩
        have hcode := ofCode_eq_some_iff.mp houtcome
        have hlength := hcount.mp hnull
        rw [hnames, List.length_map] at hlength
        exact ⟨UInt32.not_lt.mp hsize, hcode, rfl,
          knownFlags_iff.mpr ⟨not_not.mp hmask, hcode ▸ hattests⟩, hlength.symm, hnames,
          { count := hlength ▸ Nat.not_lt.mp hbound, named := hviews, total := hsum
            distinct := hnodup }⟩
  · rintro ⟨hsize, hcode, hflags, hknown, hlength, hnames, hformed⟩
    obtain ⟨hmask, hattests⟩ := knownFlags_iff.mp hknown
    rw [← hflags] at hmask hattests
    rw [← hcode] at hattests
    obtain ⟨copied, hcopied, htopics⟩ := copyNames_ok_iff.mpr
      ⟨hnames, hformed.named, hformed.total, hformed.distinct⟩
    have hnull := hcount.mpr (by rw [hnames, List.length_map, hlength])
    have hbound : ¬completion.requestedTopicCount > kMaxIngestCompletionTopics :=
      Nat.not_lt.mpr (hlength ▸ hformed.count)
    dsimp only
    rw [if_neg (UInt32.not_lt.mpr hsize), ofCode_eq_some_iff.mpr hcode]
    dsimp only
    rw [if_neg (not_not.mpr hmask), if_neg hattests, if_neg hnull, if_neg hbound, hcopied]
    simp [htopics, hflags]

/-! ## What the ledger says -/

namespace IngestOutcomeLedger

def recordAll (ledger : IngestOutcomeLedger) (records : List (Bytes × TopicOutcome)) :
    IngestOutcomeLedger :=
  records.foldl (fun ledger made => (ledger.record made.1 made.2).2) ledger

/-- What was recorded last of a topic. -/
def lastOutcome (records : List (Bytes × TopicOutcome)) (topic : Bytes) : TopicOutcome :=
  (records.filterMap fun made => if made.1 = topic then some made.2 else none).getLast?.getD
    .kPending

/-- What is to be reported of topics that went so. -/
def reported (topics : List Bytes) (outcomeOf : Bytes → TopicOutcome) (cancelled : Bool) :
    IngestCompletion :=
  if cancelled then { outcome := .kCancelled }
  else if ∀ topic ∈ topics, outcomeOf topic = .kOk ∨ outcomeOf topic = .kEmptyOk then
    { outcome := .kCompleted
      flags :=
        if ∃ topic ∈ topics, outcomeOf topic = .kEmptyOk then
          PJ_INGEST_COMPLETION_FLAG_ATTESTS_EMPTY_TOPICS
        else PJ_INGEST_COMPLETION_FLAG_NONE }
  else { outcome := .kFailed }

theorem lookup_ofRequested (topics : List Bytes) (topic : Bytes) :
    (ofRequested topics).outcomes.lookup topic =
      if topic ∈ topics then some .kPending else none := by
  induction topics using List.reverseRecOn with
  | nil => simp [ofRequested]
  | append_singleton topics declared ih =>
    unfold ofRequested at ih ⊢
    rw [List.foldl_append, List.foldl_cons, List.foldl_nil, declare, SortedMap.lookup_emplace]
    by_cases hsame : topic = declared
    · subst hsame
      -- a topic that is named twice is there already, and pending
      by_cases hbefore : topic ∈ topics <;> simp [ih, hbefore]
    · simp [ih, hsame]

@[simp] theorem lastOutcome_append_singleton (records : List (Bytes × TopicOutcome))
    (made : Bytes × TopicOutcome) (topic : Bytes) :
    lastOutcome (records ++ [made]) topic =
      if made.1 = topic then made.2 else lastOutcome records topic := by
  by_cases hsame : made.1 = topic <;> simp [lastOutcome, hsame]

theorem lookup_recordAll (topics : List Bytes) (records : List (Bytes × TopicOutcome))
    (topic : Bytes) :
    ((ofRequested topics).recordAll records).outcomes.lookup topic =
      if topic ∈ topics then some (lastOutcome records topic) else none := by
  induction records using List.reverseRecOn generalizing topic with
  | nil => simpa [lastOutcome, recordAll] using lookup_ofRequested topics topic
  | append_singleton records made ih =>
    unfold recordAll at ih ⊢
    rw [List.foldl_append, List.foldl_cons, List.foldl_nil, lastOutcome_append_singleton, record]
    by_cases hdeclared : made.1 ∈ topics
    · rw [ih, if_pos hdeclared, if_neg (by simp), SortedMap.lookup_insert, ih]
      by_cases hsame : topic = made.1
      · simp [hsame, hdeclared]
      · simp [hsame, Ne.symm hsame]
    · rw [ih, if_neg hdeclared, if_pos (by simp), ih]
      by_cases hsame : made.1 = topic
      · simp [← hsame, hdeclared]
      · simp [hsame]

theorem foldlM_completionFlags (entries : List (Bytes × TopicOutcome)) (flags : UInt64) :
    entries.foldlM completionFlags flags =
      if ∀ entry ∈ entries, entry.2 = .kOk ∨ entry.2 = .kEmptyOk then
        some
          (if ∃ entry ∈ entries, entry.2 = .kEmptyOk then
            flags ||| PJ_INGEST_COMPLETION_FLAG_ATTESTS_EMPTY_TOPICS
          else flags)
      else none := by
  induction entries generalizing flags with
  | nil => simp
  | cons entry entries ih =>
    rw [List.foldlM_cons]
    cases houtcome : entry.2 with
    | kPending => simp [completionFlags, houtcome]
    | kFailed => simp [completionFlags, houtcome]
    | kOk =>
      simp only [completionFlags, houtcome, Option.bind_eq_bind, Option.bind_some, ih,
        List.forall_mem_cons, List.exists_mem_cons_iff, reduceCtorEq, or_false, true_and, false_or]
    | kEmptyOk =>
      simp only [completionFlags, houtcome, Option.bind_eq_bind, Option.bind_some, ih,
        List.forall_mem_cons, List.exists_mem_cons_iff, reduceCtorEq, or_true, true_and, true_or,
        if_true, UInt64.or_assoc, UInt64.or_self, ite_self]

/-- After any run of records the report goes by what was recorded last of each topic asked for:
what was recorded of other topics, and what was recorded before, is of no account. -/
theorem computeCompletion_run (topics : List Bytes) (records : List (Bytes × TopicOutcome))
    (cancelled : Bool) :
    ((ofRequested topics).recordAll records).computeCompletion cancelled =
      reported topics (lastOutcome records) cancelled := by
  have hentries (entry : Bytes × TopicOutcome) :
      entry ∈ ((ofRequested topics).recordAll records).outcomes ↔
        entry.1 ∈ topics ∧ entry.2 = lastOutcome records entry.1 := by
    rw [← SortedMap.Ascending.lookup_iff Ranking.decisive_bytes (IngestOutcomeLedger.ascending _),
      lookup_recordAll]
    split <;> simp_all [eq_comm]
  have hall : (∀ entry ∈ ((ofRequested topics).recordAll records).outcomes,
      entry.2 = .kOk ∨ entry.2 = .kEmptyOk) ↔
        ∀ topic ∈ topics, lastOutcome records topic = .kOk ∨
          lastOutcome records topic = .kEmptyOk := by
    simp only [hentries]
    exact ⟨fun h topic htopic => h (topic, _) ⟨htopic, rfl⟩,
      fun h entry hentry => hentry.2 ▸ h entry.1 hentry.1⟩
  have hany : (∃ entry ∈ ((ofRequested topics).recordAll records).outcomes,
      entry.2 = .kEmptyOk) ↔ ∃ topic ∈ topics, lastOutcome records topic = .kEmptyOk := by
    simp only [hentries]
    exact ⟨fun ⟨entry, hentry, hempty⟩ => ⟨entry.1, hentry.1, hentry.2 ▸ hempty⟩,
      fun ⟨topic, htopic, hempty⟩ => ⟨(topic, _), ⟨htopic, rfl⟩, hempty⟩⟩
  unfold computeCompletion reported
  cases cancelled with
  | true => rfl
  | false =>
    rw [foldlM_completionFlags, if_neg Bool.false_ne_true, if_neg Bool.false_ne_true]
    by_cases hwell : ∀ topic ∈ topics, lastOutcome records topic = .kOk ∨
        lastOutcome records topic = .kEmptyOk
    · rw [if_pos (hall.mpr hwell), if_pos hwell]
      by_cases hempty : ∃ topic ∈ topics, lastOutcome records topic = .kEmptyOk
      · rw [if_pos (hany.mpr hempty), if_pos hempty]
        rfl
      · rw [if_neg fun h => hempty (hany.mp h), if_neg hempty]
    · rw [if_neg fun h => hwell (hall.mp h), if_neg hwell]

end IngestOutcomeLedger

/-! ## Reports to one host -/

/-- An ingest from its request to its report. -/
structure Ingest where
  requestedTopics : List Bytes
  records : List (Bytes × TopicOutcome)
  cancelled : Bool

namespace Ingest

def completion (ingest : Ingest) : IngestCompletion :=
  ((IngestOutcomeLedger.ofRequested ingest.requestedTopics).recordAll
    ingest.records).computeCompletion ingest.cancelled

def reportTo (ingest : Ingest) (host : DelegatedIngestFixture) :
    Except Bytes Unit × DelegatedIngestFixture :=
  host.completeIngestView ingest.completion.outcome ingest.requestedTopics ingest.completion.flags

/-- What the host is to have of an ingest. -/
def recordOf (ingest : Ingest) : IngestCompletionRecord :=
  let reported := IngestOutcomeLedger.reported ingest.requestedTopics
    (IngestOutcomeLedger.lastOutcome ingest.records) ingest.cancelled
  { outcome := reported.outcome
    flags := reported.flags
    requestedTopics := ingest.requestedTopics }

theorem knownFlags_reported (topics : List Bytes) (outcomeOf : Bytes → TopicOutcome)
    (cancelled : Bool) :
    KnownFlags (IngestOutcomeLedger.reported topics outcomeOf cancelled).outcome
      (IngestOutcomeLedger.reported topics outcomeOf cancelled).flags := by
  unfold IngestOutcomeLedger.reported
  split_ifs
  · exact .inl rfl
  · exact .inr ⟨rfl, rfl⟩
  · exact .inl rfl
  · exact .inl rfl

theorem copy_report (ingest : Ingest) (record : IngestCompletionRecord) :
    copyIngestCompletion (some (abiCompletion ingest.completion.outcome ingest.requestedTopics
        ingest.completion.flags)) = .ok record ↔
      WellFormedTopics ingest.requestedTopics ∧ record = ingest.recordOf := by
  have hbytes {views topics : List Bytes} :
      views.map BytesView.bytes = topics.map .bytes ↔ views = topics :=
    List.map_inj_right fun _ _ heq => BytesView.bytes.inj heq
  have hcode {outcome outcome' : IngestOutcome} : outcome.code = outcome'.code ↔
      outcome = outcome' := by
    rw [← ofCode_eq_some_iff, ofCode_eq_some_iff.mpr rfl, Option.some.injEq]
  rw [copyIngestCompletion_ok_iff, completion, IngestOutcomeLedger.computeCompletion_run]
  simp only [abiCompletion, Option.getD_some, hbytes, hcode]
  constructor
  · rintro ⟨-, houtcome, hflags, -, -, htopics, hformed⟩
    refine ⟨htopics ▸ hformed, ?_⟩
    unfold recordOf
    dsimp only
    rw [houtcome, hflags, htopics]
  · rintro ⟨hformed, rfl⟩
    exact ⟨UInt32.le_refl _, rfl, rfl, knownFlags_reported _ _ _, rfl, rfl, hformed⟩

theorem not_wellFormed_of_refused {ingest : Ingest} {e : Bytes}
    (h : copyIngestCompletion (some (abiCompletion ingest.completion.outcome
      ingest.requestedTopics ingest.completion.flags)) = .error e) :
    ¬WellFormedTopics ingest.requestedTopics := by
  intro hformed
  have htaken := (ingest.copy_report ingest.recordOf).mpr ⟨hformed, rfl⟩
  rw [h] at htaken
  exact absurd htaken (by simp)

theorem reportTo_host (ingest : Ingest) (host : DelegatedIngestFixture) :
    (ingest.reportTo host).2 =
      { host with
        completions :=
          if host.exposesCompleteIngest ∧ WellFormedTopics ingest.requestedTopics then
            host.completions ++ [ingest.recordOf]
          else host.completions } := by
  unfold reportTo DelegatedIngestFixture.completeIngestView DelegatedIngestFixture.completeIngest
  obtain ⟨exposes, completions⟩ := host
  cases exposes with
  | false => simp
  | true =>
    cases hcopied : copyIngestCompletion (some (abiCompletion ingest.completion.outcome
        ingest.requestedTopics ingest.completion.flags)) with
    | error e =>
      simp [not_wellFormed_of_refused hcopied]
    | ok record =>
      obtain ⟨hformed, rfl⟩ := (ingest.copy_report record).mp hcopied
      simp [hformed]

/-- The plugin is told whether the host took its report. -/
theorem reportTo_answer (ingest : Ingest) (host : DelegatedIngestFixture) :
    (ingest.reportTo host).1 = .ok () ↔
      host.exposesCompleteIngest = true ∧ WellFormedTopics ingest.requestedTopics := by
  unfold reportTo DelegatedIngestFixture.completeIngestView DelegatedIngestFixture.completeIngest
  cases hexposes : host.exposesCompleteIngest with
  | false => simp
  | true =>
    cases hcopied : copyIngestCompletion (some (abiCompletion ingest.completion.outcome
        ingest.requestedTopics ingest.completion.flags)) with
    | error e =>
      simp [not_wellFormed_of_refused hcopied]
    | ok record => simp [((ingest.copy_report record).mp hcopied).1]

/-- Over any run of ingests reported to one host: it has a record of just those whose topics are
well formed, in their order, each with all its topics and as it went by what was recorded last;
and the plugin of the next one is told whether its report is among them. -/
theorem reports_arrive (host : DelegatedIngestFixture) (ingests : List Ingest) (next : Ingest) :
    let after := ingests.foldl (fun host ingest => (ingest.reportTo host).2) host
    after.completions =
        host.completions ++
          (ingests.filter fun ingest =>
            host.exposesCompleteIngest ∧ WellFormedTopics ingest.requestedTopics).map recordOf ∧
      ((next.reportTo after).1 = .ok () ↔
        host.exposesCompleteIngest = true ∧ WellFormedTopics next.requestedTopics) := by
  induction ingests generalizing host with
  | nil => exact ⟨by simp, next.reportTo_answer host⟩
  | cons ingest ingests ih =>
    obtain ⟨hcompletions, hanswer⟩ := ih (ingest.reportTo host).2
    have hexposes : (ingest.reportTo host).2.exposesCompleteIngest = host.exposesCompleteIngest := by
      rw [reportTo_host]
    rw [hexposes] at hcompletions hanswer
    refine ⟨?_, hanswer⟩
    rw [List.foldl_cons, hcompletions, reportTo_host]
    by_cases htaken : host.exposesCompleteIngest ∧ WellFormedTopics ingest.requestedTopics
    · simp [htaken]
    · rw [if_neg htaken, List.filter_cons_of_neg (by simpa using htaken)]

end Ingest

end PlotJugglerSdk
