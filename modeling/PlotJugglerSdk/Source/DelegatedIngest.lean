import Mathlib.Data.List.AList
import Mathlib.Data.List.Induction
import Mathlib.Data.List.Infix
import PlotJugglerSdk.Concurrency.Runs
import PlotJugglerSdk.Concurrency.SharedCells
import PlotJugglerSdk.Wire.Numbers

/-!
# Delegated ingest

A source hands raw messages to its host, which parses them. The bytes of a message are not
copied: the host gets a function that fetches them, and may fetch now, later, more than once or
never; what it fetched it releases when it likes. Bindings of parsers are asked for once a key.

* `payload_ownership` — the bytes are there as long as anyone may read them, and freed once
* `cache_run`         — where a message goes, and how often a binding is asked for
-/

namespace PlotJugglerSdk

open Wire Runs SharedCells

/-! ## The bytes of a message -/

namespace PayloadOwnership

/-- What a call of the fetcher has made: a copy of the pointer that is on its way, and then an
anchor that the host has and releases. -/
inductive Fetched where
  | inFlight
  | held
  | released
  deriving DecidableEq

/-- A message that was handed to the host. The local pointer of `push`, the closure and every
anchor that was not released own the bytes. -/
structure PushedMessage where
  payload : Bytes
  cell : Cell
  pushing : Bool := true
  fetcher : Bool := true
  fetches : List Fetched := []
  reads : List (Option Bytes) := []
  deriving DecidableEq

/-- The pointer is made, and copied into the closure. -/
def pushed (payload : Bytes) : PushedMessage where
  payload
  cell := Cell.make.share

/-- What a host does with a message, from any thread, and the return of the call that handed it
over. -/
inductive HostAct where
  | beginFetch
  | endFetch (fetch : Nat)
  | read (fetch : Nat)
  | releaseFetcher
  | releaseAnchor (fetch : Nat)
  | pushReturns
  deriving DecidableEq

/-- The guards are the contract: the fetcher is released once, when it is no longer needed, and
each anchor once. -/
def hostStep (act : HostAct) (message : PushedMessage) : Option PushedMessage :=
  match act with
  | .beginFetch =>
    if message.fetcher then
      some { message with cell := message.cell.share, fetches := message.fetches ++ [.inFlight] }
    else none
  | .endFetch fetch =>
    if message.fetches[fetch]? = some .inFlight then
      some { message with fetches := message.fetches.set fetch .held }
    else none
  | .read fetch =>
    if message.fetches[fetch]? = some .held then
      -- bytes that were freed are read as nothing
      let bytes := if message.cell.alive then some message.payload else none
      some { message with reads := message.reads ++ [bytes] }
    else none
  | .releaseFetcher =>
    if message.fetcher ∧ .inFlight ∉ message.fetches then
      some { message with cell := message.cell.drop, fetcher := false }
    else none
  | .releaseAnchor fetch =>
    if message.fetches[fetch]? = some .held then
      some
        { message with
          cell := message.cell.drop
          fetches := message.fetches.set fetch .released }
    else none
  | .pushReturns =>
    if message.pushing then some { message with cell := message.cell.drop, pushing := false }
    else none

/-- A source pushes messages, and the host has many at a time. -/
inductive Event where
  | push (payload : Bytes)
  | host (index : Nat) (act : HostAct)
  deriving DecidableEq

def step : Event → List PushedMessage → Option (List PushedMessage)
  | .push payload, messages => some (messages ++ [pushed payload])
  | .host index act, messages =>
    (messages[index]?).bind fun message => (hostStep act message).map fun after =>
      messages.set index after

def Fetched.owns (fetched : Fetched) : Bool := fetched ≠ .released

/-- The owners of a message's bytes. -/
def ownersOf (message : PushedMessage) : Nat :=
  message.fetches.countP Fetched.owns + (if message.fetcher then 1 else 0) +
    if message.pushing then 1 else 0

structure Owned (message : PushedMessage) : Prop where
  held : HeldBy message.cell (ownersOf message)
  reads : ∀ bytes ∈ message.reads, bytes = some message.payload

theorem owned_pushed (payload : Bytes) : Owned (pushed payload) where
  held := HeldBy.make.share (by decide)
  reads bytes h := nomatch h

/-- A fetch moves on. -/
theorem countP_moved {fetches : List Fetched} {fetch : Nat} {before : Fetched}
    (h : fetches[fetch]? = some before) (hbefore : before.owns = true) (after : Fetched) :
    (fetches.set fetch after).countP Fetched.owns + 1 =
      fetches.countP Fetched.owns + if after.owns then 1 else 0 := by
  have hset := countP_set h after Fetched.owns
  rwa [if_pos hbefore] at hset

theorem Owned.step {message after : PushedMessage} (h : Owned message) {act : HostAct}
    (hstep : hostStep act message = some after) : Owned after := by
  unfold hostStep at hstep
  cases act with
  | beginFetch =>
    dsimp only at hstep
    split at hstep
    · rename_i hfetcher
      obtain rfl := Option.some.inj hstep
      have hpos : 0 < ownersOf message := by
        simp only [ownersOf, hfetcher, if_true]
        omega
      refine ⟨?_, h.reads⟩
      have hmore : ownersOf { message with
          cell := message.cell.share, fetches := message.fetches ++ [.inFlight] } =
            ownersOf message + 1 := by
        simp only [ownersOf, countP_snoc]
        simp only [Fetched.owns, ne_eq, reduceCtorEq, not_false_eq_true, decide_true, if_true]
        omega
      rw [hmore]
      exact h.held.share hpos
    · cases hstep
  | endFetch fetch =>
    dsimp only at hstep
    split at hstep
    · rename_i hfetch
      obtain rfl := Option.some.inj hstep
      have hsame := countP_moved hfetch rfl .held
      have howners : ownersOf { message with fetches := message.fetches.set fetch .held } =
          ownersOf message := by
        simp only [ownersOf]
        simp only [Fetched.owns, ne_eq, reduceCtorEq, not_false_eq_true, decide_true,
          if_true] at hsame
        omega
      refine ⟨?_, h.reads⟩
      rw [howners]
      exact h.held
    · cases hstep
  | read fetch =>
    dsimp only at hstep
    split at hstep
    · rename_i hfetch
      obtain rfl := Option.some.inj hstep
      have hsome : 0 < message.fetches.countP Fetched.owns :=
        List.countP_pos_iff.mpr ⟨.held, List.mem_of_getElem? hfetch, rfl⟩
      have halive : message.cell.alive = true :=
        h.held.alive_iff.mpr (by unfold ownersOf; omega)
      refine ⟨h.held, fun bytes hbytes => ?_⟩
      rw [List.mem_append, List.mem_singleton, if_pos halive] at hbytes
      exact hbytes.elim (h.reads bytes) id
    · cases hstep
  | releaseFetcher =>
    dsimp only at hstep
    split at hstep
    · rename_i hready
      obtain rfl := Option.some.inj hstep
      refine ⟨HeldBy.drop ?_, h.reads⟩
      have hbefore := h.held
      simp only [ownersOf, hready.1, if_true] at hbefore
      simpa [ownersOf, Nat.add_right_comm] using hbefore
    · cases hstep
  | releaseAnchor fetch =>
    dsimp only at hstep
    split at hstep
    · rename_i hfetch
      obtain rfl := Option.some.inj hstep
      have hless := countP_moved hfetch rfl .released
      refine ⟨HeldBy.drop ?_, h.reads⟩
      have howners : ownersOf message = ownersOf { message with
          cell := message.cell.drop
          fetches := message.fetches.set fetch .released } + 1 := by
        simp only [ownersOf]
        simp only [Fetched.owns, ne_eq, not_true_eq_false, decide_false, Bool.false_eq_true,
          if_false] at hless
        omega
      rw [← howners]
      exact h.held
    · cases hstep
  | pushReturns =>
    dsimp only at hstep
    split at hstep
    · rename_i hpushing
      obtain rfl := Option.some.inj hstep
      refine ⟨HeldBy.drop ?_, h.reads⟩
      have hbefore := h.held
      simp only [ownersOf, hpushing, if_true] at hbefore
      simpa [ownersOf] using hbefore
    · cases hstep

/-- Whatever a host does within its contract, with any number of messages and in any order: all
it reads are the bytes that were pushed; and they are freed once, when the push has returned,
the fetcher and every anchor were released, and not before. -/
theorem payload_ownership {events : List Event} {messages : List PushedMessage}
    (hrun : run step events [] = some messages) (message : PushedMessage)
    (hmessage : message ∈ messages) :
    (∀ bytes ∈ message.reads, bytes = some message.payload) ∧
      message.cell.frees ≤ 1 ∧
      (message.cell.frees = 1 ↔ message.pushing = false ∧ message.fetcher = false ∧
        ∀ fetched ∈ message.fetches, fetched = .released) := by
  have hall : ∀ message ∈ messages, Owned message := by
    refine run_keeps (fun messages => ∀ message ∈ messages, Owned message) ?_ (by simp) hrun
    intro event messages messages' hbefore hstep
    cases event with
    | push payload =>
      obtain rfl := Option.some.inj hstep
      intro message hmessage
      obtain hmessage | hmessage := List.mem_append.mp hmessage
      · exact hbefore message hmessage
      · rw [List.mem_singleton.mp hmessage]
        exact owned_pushed payload
    | host index act =>
      obtain ⟨before, hindex, hact⟩ := Option.bind_eq_some_iff.mp hstep
      obtain ⟨after, hafter, rfl⟩ := Option.map_eq_some_iff.mp hact
      have howned := (hbefore before (List.mem_of_getElem? hindex)).step hafter
      intro message hmessage
      obtain hmessage | rfl := List.mem_or_eq_of_mem_set hmessage
      · exact hbefore message hmessage
      · exact howned
  obtain ⟨hheld, hreads⟩ := hall message hmessage
  refine ⟨hreads, hheld.frees_le_one, hheld.freed_iff.trans ?_⟩
  have hnone : message.fetches.countP Fetched.owns = 0 ↔
      ∀ fetched ∈ message.fetches, fetched = .released := by
    simp [List.countP_eq_zero, Fetched.owns]
  rw [← hnone]
  unfold ownersOf
  cases message.fetcher <;> cases message.pushing <;> simp

/-- A host that fetches, lets the push return, releases the fetcher and reads after it. -/
def lateRead : List Event :=
  [.push [1, 2], .host 0 .beginFetch, .host 0 (.endFetch 0), .host 0 .pushReturns,
    .host 0 .releaseFetcher, .host 0 (.read 0), .host 0 (.releaseAnchor 0)]

theorem payload_ownership_late :
    ∃ message, run step lateRead [] = some [message] ∧ message.cell.frees = 1 ∧
      ∀ bytes ∈ message.reads, bytes = some message.payload := by
  have hrun : run step lateRead [] =
      some [{ payload := [1, 2], cell := ⟨0, 1⟩, pushing := false, fetcher := false
              fetches := [.released], reads := [some [1, 2]] }] := by decide
  exact ⟨_, hrun, rfl, (payload_ownership hrun _ (by simp)).1⟩

end PayloadOwnership

/-! ## Where a message goes -/

structure ParserBindingHandle where
  id : UInt32
  deriving DecidableEq

structure ParserBindingRequest where
  topic_name : Bytes
  parser_encoding : Bytes
  type_name : Bytes
  schema : Bytes
  parser_config_json : Bytes
  deriving DecidableEq

/-- What a source can call, with a state of all its hosts that the calls change as they like. -/
structure DataSourceRuntimeHostView (World : Type) where
  ensureParserBinding :
    ParserBindingRequest → World → Except String ParserBindingHandle × World
  pushMessage : ParserBindingHandle → Int64 → Bytes → World → Except String Unit × World

inductive DelegatedIngestDisposition where
  | kPushed
  | kBindingUnavailable
  deriving DecidableEq

structure DelegatedIngestCache where
  bindings : AList fun _ : Bytes => ParserBindingHandle := ∅

namespace DelegatedIngestCache

structure Message where
  cache_key : Bytes
  timestamp : Int64
  payload : Bytes
  deriving DecidableEq

/-- What a cache has asked of the hosts, and what it told the source. -/
inductive Entry where
  | ensured (key : Bytes) (request : ParserBindingRequest)
      (answer : Except String ParserBindingHandle)
  | pushed (handle : ParserBindingHandle) (message : Message) (status : Except String Unit)
  | answered (message : Message) (answer : Except String DelegatedIngestDisposition)
  | cleared

/-- A cache among its hosts, and the log of their calls. -/
structure Ingest (World : Type) where
  cache : DelegatedIngestCache := {}
  world : World
  log : List Entry := []

inductive Operation (World : Type) where
  | push (host : DataSourceRuntimeHostView World) (request : ParserBindingRequest)
      (message : Message)
  | clear

variable {World : Type}

/-- The binding of a key, asked for where there is none. -/
def bindingFor (host : DataSourceRuntimeHostView World) (cache_key : Bytes)
    (request : ParserBindingRequest) (s : Ingest World) :
    Option ParserBindingHandle × Ingest World :=
  match s.cache.bindings.lookup cache_key with
  | some binding => (some binding, s)
  | none =>
    let (created, world) := host.ensureParserBinding request s.world
    let log := s.log ++ [.ensured cache_key request created]
    match created with
    | .ok handle =>
      (some handle, { cache := ⟨s.cache.bindings.insert cache_key handle⟩, world, log })
    -- the text of the refusal goes no further
    | .error _ => (none, { s with world, log })

def push (host : DataSourceRuntimeHostView World) (request : ParserBindingRequest)
    (message : Message) (s : Ingest World) :
    Except String DelegatedIngestDisposition × Ingest World :=
  match bindingFor host message.cache_key request s with
  | (none, s) => (.ok .kBindingUnavailable, s)
  | (some binding, s) =>
    let (status, world) := host.pushMessage binding message.timestamp message.payload s.world
    (status.map fun _ => .kPushed,
      { s with world, log := s.log ++ [.pushed binding message status] })

def perform : Operation World → Ingest World → Ingest World
  | .push host request message, s =>
    let (answer, s) := push host request message s
    { s with log := s.log ++ [.answered message answer] }
  | .clear, s => { s with cache := {}, log := s.log ++ [.cleared] }

def performAll (operations : List (Operation World)) (s : Ingest World) : Ingest World :=
  operations.foldl (fun s operation => perform operation s) s

/-! ### What the log says -/

/-- The binding of a key was got, and nothing was cleared since. -/
def Live (log : List Entry) (key : Bytes) (handle : ParserBindingHandle) : Prop :=
  ∃ front request back, log = front ++ .ensured key request (.ok handle) :: back ∧
    Entry.cleared ∉ back

/-- The messages of the source, in their order. -/
def Operation.message? : Operation World → Option Message
  | .push _ _ message => some message
  | .clear => none

def Entry.answered? : Entry → Option Message
  | .answered message _ => some message
  | _ => none

/-- A message that a host was given, with the answer this makes. -/
def Entry.handed? : Entry → Option (Message × Except String DelegatedIngestDisposition)
  | .pushed _ message status => some (message, status.map fun _ => .kPushed)
  | _ => none

/-- A message whose answer is not that there is no binding for it. -/
def Entry.delivered? : Entry → Option (Message × Except String DelegatedIngestDisposition)
  | .answered _ (.ok .kBindingUnavailable) => none
  | .answered message answer => some (message, answer)
  | _ => none

/-- What an entry says of the log before it: a binding is asked for where there is none, a message
goes to the binding of its key, and there is none for it where one was just refused. -/
def Entry.Right (log : List Entry) : Entry → Prop
  | .ensured key _ _ => ∀ handle, ¬Live log key handle
  | .pushed handle message _ => Live log message.cache_key handle
  | .answered message (.ok .kBindingUnavailable) =>
    ∃ earlier request error, log = earlier ++ [.ensured message.cache_key request (.error error)]
  | _ => True

theorem live_snoc {log : List Entry} {entry : Entry} {key : Bytes} {handle : ParserBindingHandle} :
    Live (log ++ [entry]) key handle ↔
      (∃ request, entry = .ensured key request (.ok handle)) ∨
        Live log key handle ∧ entry ≠ .cleared := by
  constructor
  · rintro ⟨front, request, back, hlog, hback⟩
    obtain ⟨rfl, -, -⟩ | ⟨earlier, rfl, rfl⟩ := split_snoc hlog
    · exact .inl ⟨request, rfl⟩
    · rw [List.mem_append, List.mem_singleton, not_or] at hback
      exact .inr ⟨⟨front, request, earlier, rfl, hback.1⟩, Ne.symm hback.2⟩
  · rintro (⟨request, rfl⟩ | ⟨⟨front, request, back, rfl, hback⟩, hentry⟩)
    · exact ⟨log, request, [], rfl, List.not_mem_nil⟩
    · refine ⟨front, request, back ++ [entry], by simp, ?_⟩
      rw [List.mem_append, List.mem_singleton, not_or]
      exact ⟨hback, hentry.symm⟩

/-- The cache has the bindings that are live, and the log is right. -/
structure Told (cache : DelegatedIngestCache) (log : List Entry) : Prop where
  bound : ∀ key handle, cache.bindings.lookup key = some handle ↔ Live log key handle
  right : ∀ front entry back, log = front ++ entry :: back → entry.Right front

theorem told_initial : Told {} [] where
  bound key handle := by simp [Live]
  right front entry back h := by simp at h

theorem right_snoc {log : List Entry} {entry : Entry}
    (h : ∀ front entry back, log = front ++ entry :: back → entry.Right front)
    (hentry : entry.Right log) (front : List Entry) (found : Entry) (back : List Entry)
    (hlog : log ++ [entry] = front ++ found :: back) : found.Right front := by
  obtain ⟨rfl, rfl, -⟩ | ⟨earlier, -, hearlier⟩ := split_snoc hlog
  · exact hentry
  · exact h front found earlier hearlier

namespace Told

variable {cache : DelegatedIngestCache} {log : List Entry} (h : Told cache log)
include h

/-- An entry that neither binds nor clears leaves the bindings alone. -/
theorem snoc (entry : Entry) (hright : entry.Right log) (hclear : entry ≠ .cleared)
    (hbind : ∀ key request handle, entry ≠ .ensured key request (.ok handle)) :
    Told cache (log ++ [entry]) where
  bound key handle := by
    rw [h.bound key handle, live_snoc]
    refine ⟨fun hlive => .inr ⟨hlive, hclear⟩, ?_⟩
    rintro (⟨request, hentry⟩ | ⟨hlive, -⟩)
    · exact absurd hentry (hbind key request handle)
    · exact hlive
  right := right_snoc h.right hright

theorem none_live {key : Bytes} (hlookup : cache.bindings.lookup key = none)
    (handle : ParserBindingHandle) : ¬Live log key handle := by
  intro hlive
  rw [← h.bound key handle, hlookup] at hlive
  cases hlive

theorem bind {key : Bytes} (hlookup : cache.bindings.lookup key = none)
    (request : ParserBindingRequest) (handle : ParserBindingHandle) :
    Told ⟨cache.bindings.insert key handle⟩ (log ++ [.ensured key request (.ok handle)]) where
  bound key' handle' := by
    rw [live_snoc]
    by_cases hkey : key' = key
    · subst hkey
      rw [AList.lookup_insert]
      refine ⟨?_, ?_⟩
      · rintro ⟨⟩
        exact .inl ⟨request, rfl⟩
      · rintro (⟨request', hentry⟩ | ⟨hlive, -⟩)
        · have hsame : request = request' ∧ handle = handle' := by simpa using hentry
          exact congrArg some hsame.2
        · exact absurd hlive (h.none_live hlookup handle')
    · rw [AList.lookup_insert_ne hkey, h.bound key' handle']
      refine ⟨fun hlive => .inr ⟨hlive, by simp⟩, ?_⟩
      rintro (⟨request', hentry⟩ | ⟨hlive, -⟩)
      · have hsame : key = key' ∧ request = request' ∧ handle = handle' := by simpa using hentry
        exact absurd hsame.1.symm hkey
      · exact hlive
  right := right_snoc h.right (h.none_live hlookup)

theorem clear : Told {} (log ++ [.cleared]) where
  bound key handle := by
    rw [live_snoc]
    simp
  right := right_snoc h.right trivial

end Told

/-- What a push can do, and say. -/
theorem push_cases (host : DataSourceRuntimeHostView World) (request : ParserBindingRequest)
    (message : Message) (s : Ingest World) :
    (∃ handle status world, s.cache.bindings.lookup message.cache_key = some handle ∧
      push host request message s = (status.map fun _ => .kPushed,
        { s with world, log := s.log ++ [.pushed handle message status] })) ∨
    (∃ handle status world, s.cache.bindings.lookup message.cache_key = none ∧
      push host request message s = (status.map fun _ => .kPushed,
        { cache := ⟨s.cache.bindings.insert message.cache_key handle⟩
          world
          log := s.log ++ [.ensured message.cache_key request (.ok handle)] ++
            [.pushed handle message status] })) ∨
    ∃ error world, s.cache.bindings.lookup message.cache_key = none ∧
      push host request message s = (.ok .kBindingUnavailable,
        { s with world, log := s.log ++ [.ensured message.cache_key request (.error error)] }) := by
  unfold push bindingFor
  cases hlookup : s.cache.bindings.lookup message.cache_key with
  | some binding => exact .inl ⟨binding, _, _, rfl, rfl⟩
  | none =>
    rcases hcreated : host.ensureParserBinding request s.world with ⟨_ | handle, world⟩
    · exact .inr (.inr ⟨_, world, rfl, rfl⟩)
    · exact .inr (.inl ⟨handle, _, _, rfl, rfl⟩)

/-- A run of operations has the log that they should have. -/
structure Performed (operations : List (Operation World)) (s : Ingest World) : Prop where
  told : Told s.cache s.log
  answered : s.log.filterMap Entry.answered? = operations.filterMap Operation.message?
  handed : s.log.filterMap Entry.handed? = s.log.filterMap Entry.delivered?

@[simp] theorem delivered_ensured (key : Bytes) (request : ParserBindingRequest)
    (answer : Except String ParserBindingHandle) :
    Entry.delivered? (.ensured key request answer) = none := rfl

@[simp] theorem delivered_pushed (handle : ParserBindingHandle) (message : Message)
    (status : Except String Unit) : Entry.delivered? (.pushed handle message status) = none := rfl

@[simp] theorem delivered_of_status (message : Message) (status : Except String Unit) :
    Entry.delivered? (.answered message (status.map fun _ => .kPushed)) =
      some (message, status.map fun _ => .kPushed) := by
  cases status <;> rfl

theorem right_of_status (log : List Entry) (message : Message) (status : Except String Unit) :
    Entry.Right log (.answered message (status.map fun _ => .kPushed)) := by
  cases status <;> trivial

theorem perform_push {host : DataSourceRuntimeHostView World} {request : ParserBindingRequest}
    {message : Message} {s s' : Ingest World} {answer : Except String DelegatedIngestDisposition}
    (h : push host request message s = (answer, s')) :
    perform (.push host request message) s =
      { s' with log := s'.log ++ [.answered message answer] } := by
  simp only [perform, h]

theorem Performed.perform {operations : List (Operation World)} {s : Ingest World}
    (h : Performed operations s) (operation : Operation World) :
    Performed (operations ++ [operation]) (perform operation s) := by
  cases operation with
  | clear =>
    refine ⟨h.told.clear, ?_, ?_⟩
    · simp [DelegatedIngestCache.perform, List.filterMap_cons, h.answered, Entry.answered?,
        Operation.message?]
    · simp [DelegatedIngestCache.perform, List.filterMap_cons, h.handed, Entry.handed?,
        Entry.delivered?]
  | push host request message =>
    obtain ⟨handle, status, world, hlookup, hpush⟩ | ⟨handle, status, world, hlookup, hpush⟩ |
      ⟨error, world, hlookup, hpush⟩ := push_cases host request message s
    · -- the key had its binding
      have hpushed := h.told.snoc (.pushed handle message status)
        ((h.told.bound _ _).mp hlookup) (by simp) (by simp)
      rw [perform_push hpush]
      refine ⟨hpushed.snoc _ (right_of_status _ message status) (by simp) (by simp), ?_, ?_⟩
      · simp [List.filterMap_cons, h.answered, Entry.answered?, Operation.message?]
      · simp [List.filterMap_cons, h.handed, Entry.handed?]
    · -- it gets one, and is bound from then on
      have hbound := h.told.bind hlookup request handle
      have hpushed := hbound.snoc (.pushed handle message status)
        (live_snoc.mpr (.inl ⟨request, rfl⟩)) (by simp) (by simp)
      rw [perform_push hpush]
      refine ⟨hpushed.snoc _ (right_of_status _ message status) (by simp) (by simp), ?_, ?_⟩
      · simp [List.filterMap_cons, h.answered, Entry.answered?, Operation.message?]
      · simp [List.filterMap_cons, h.handed, Entry.handed?]
    · -- it is refused one, and the next message asks again
      have hrefused := h.told.snoc (.ensured message.cache_key request (.error error))
        (h.told.none_live hlookup) (by simp) (by simp)
      rw [perform_push hpush]
      refine ⟨hrefused.snoc _ ⟨s.log, request, error, rfl⟩ (by simp) (by simp), ?_, ?_⟩
      · simp [List.filterMap_cons, h.answered, Entry.answered?, Operation.message?]
      · simp [List.filterMap_cons, h.handed, Entry.handed?, Entry.delivered?]

/-- Whatever a source pushes and clears, through any hosts: each message is answered once, in
order; those that are not answered "no binding" are the ones that a host was given, once each and
in order, and the answer is the host's; a message goes to the binding that was got for its key
since the last clear; and a binding is asked for only where there is none, and again after a
refusal. -/
theorem cache_run (operations : List (Operation World)) (world : World) :
    let log := (performAll operations { world }).log
    log.filterMap Entry.answered? = operations.filterMap Operation.message? ∧
      log.filterMap Entry.handed? = log.filterMap Entry.delivered? ∧
      ∀ front entry back, log = front ++ entry :: back → entry.Right front := by
  have hall : ∀ operations : List (Operation World),
      Performed operations (performAll operations { world }) := by
    intro operations
    induction operations using List.reverseRecOn with
    | nil => exact ⟨told_initial, rfl, rfl⟩
    | append_singleton operations operation ih =>
      have hone := ih.perform operation
      unfold performAll at hone ⊢
      rwa [List.foldl_append, List.foldl_cons, List.foldl_nil]
  obtain ⟨htold, hanswered, hhanded⟩ := hall operations
  exact ⟨hanswered, hhanded, htold.right⟩

end DelegatedIngestCache

end PlotJugglerSdk
