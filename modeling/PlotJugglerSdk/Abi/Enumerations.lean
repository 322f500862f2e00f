import Mathlib.Data.List.TakeDrop

/-!
# Count, then fill

A slot that enumerates strings is called twice: with no buffer for the count, then with a
buffer of that size. The list belongs to the host and may be another one by the second call.
Three functions of the SDK do this, each in its own words.

* `fill`, `copyOut`  — the two halves of the slot contract, entry by entry
* `Safe`             — what is wanted of an enumeration
* `enumerations_iff` — which of the three is safe when
-/

namespace PlotJugglerSdk.Abi

variable {Host : Type}

/-- A slot of the host, called with a capacity: it reports an error, or the list as it is. -/
abbrev Slot (Host : Type) : Type := Host → Nat → Except String (List String) × Host

/-- An entry is the view the host put there, or the empty one the vector was made with. -/
abbrev Buffer : Type := List (Option String)

/-- The first `min(capacity, count)` entries are filled. -/
def fill (list : List String) (buffer : Buffer) : Buffer :=
  (list.take buffer.length).map some ++ buffer.drop list.length

/-- The loop that copies entries out; `none` when it reads one that nobody filled. -/
def copyOut (buffer : Buffer) (count : Nat) : Option (List String) :=
  (List.range count).mapM fun i => (buffer[i]?).join

inductive Listing where
  | beyond
  | failed (message : String)
  | listed (strings : List String)
  deriving DecidableEq

def Listing.ofCopy : Option (List String) → Listing
  | none => .beyond
  | some strings => .listed strings

/-- The host, and the lists it answered with so far. -/
structure Session (Host : Type) where
  host : Host
  answers : List (List String) := []

def Session.call (slot : Slot Host) (session : Session Host) (capacity : Nat) :
    Except String (List String) × Session Host :=
  match slot session.host capacity with
  | (.error e, host) => (.error e, { session with host })
  | (.ok list, host) => (.ok list, { host, answers := session.answers ++ [list] })

/-! ## The three functions -/

def listBorrowedStrings (slot : Slot Host) (session : Session Host) : Listing × Session Host :=
  match session.call slot 0 with
  | (.error e, session) => (.failed e, session)
  | (.ok counted, session) =>
    let borrowed : Buffer := List.replicate counted.length none
    if counted.length = 0 then (.ofCopy (copyOut borrowed 0), session)
    else
      match session.call slot borrowed.length with
      | (.error e, session) => (.failed e, session)
      | (.ok list, session) =>
        if list.length > borrowed.length then
          (.failed "host string list grew during enumeration; retry the call", session)
        else (.ofCopy (copyOut (fill list borrowed) list.length), session)

def DataProcessorsHostView.list (slot : Option (Slot Host)) (session : Session Host) :
    Listing × Session Host :=
  match slot with
  | none => (.failed "data processors host is not bound", session)
  | some slot =>
    match session.call slot 0 with
    | (.error e, session) => (.failed e, session)
    | (.ok counted, session) =>
      let borrowed : Buffer := List.replicate counted.length none
      -- nothing to copy: there is no second call
      if counted.length = 0 then (.ofCopy (copyOut borrowed 0), session)
      else
        match session.call slot borrowed.length with
        | (.error e, session) => (.failed e, session)
        -- as many are copied as the second call reports, whatever the buffer holds
        | (.ok list, session) => (.ofCopy (copyOut (fill list borrowed) list.length), session)

def PlotTabHostView.list (slot : Option (Slot Host)) (session : Session Host) :
    Listing × Session Host :=
  match slot with
  | none => (.failed "plot tab host is not bound", session)
  | some slot => listBorrowedStrings slot session

/-- `declared_outputs == 0 ? 8 : declared_outputs` -/
def resolvedCapacity (declaredOutputs : Nat) : Nat :=
  if declaredOutputs = 0 then 8 else declaredOutputs

/-- The first call already has a buffer. -/
def collectResolvedTopics (declaredOutputs : Nat) (slot : Slot Host) (session : Session Host) :
    Listing × Session Host :=
  let capacity := resolvedCapacity declaredOutputs
  let resolved : Buffer := List.replicate capacity none
  match session.call slot resolved.length with
  | (.error e, session) => (.failed e, session)
  | (.ok first, session) =>
    -- too many for the guess: one retry with the count that was reported
    if first.length > capacity then
      let resolved : Buffer := List.replicate first.length none
      match session.call slot resolved.length with
      | (.error e, session) => (.failed e, session)
      | (.ok list, session) =>
        let resolved := fill list resolved
        (.ofCopy (copyOut resolved (min list.length resolved.length)), session)
    else
      let resolved := fill first resolved
      (.ofCopy (copyOut resolved (min first.length resolved.length)), session)

def DataProcessorsHostView.create (slot : Option (Slot Host)) (outputs : List String)
    (session : Session Host) : Listing × Session Host :=
  match slot with
  | none => (.failed "data processors host is not bound", session)
  | some slot => collectResolvedTopics outputs.length slot session

def DataProcessorsHostView.createV2 (slot : Option (Slot Host)) (outputs : List String)
    (session : Session Host) : Listing × Session Host :=
  match slot with
  | none => (.failed "data processors host does not support create_data_processor_v2", session)
  | some slot => collectResolvedTopics outputs.length slot session

/-! ## Buffers -/

theorem length_fill (list : List String) (buffer : Buffer) :
    (fill list buffer).length = buffer.length := by
  unfold fill
  rw [List.length_append, List.length_map, List.length_take, List.length_drop]
  omega

theorem getElem?_fill {list : List String} {buffer : Buffer} {i : Nat} (hi : i < buffer.length)
    (hlist : i < list.length) : ((fill list buffer)[i]?).join = list[i]? := by
  unfold fill
  rw [List.getElem?_append_left (by rw [List.length_map, List.length_take]; omega),
    List.getElem?_map,
    List.getElem?_take_of_lt hi, List.getElem?_eq_getElem hlist]
  rfl

/-- Entries that were filled are copied. -/
theorem copyOut_fill {list : List String} {buffer : Buffer} {count : Nat}
    (hbuffer : count ≤ buffer.length) (hlist : count ≤ list.length) :
    copyOut (fill list buffer) count = some (list.take count) := by
  unfold copyOut
  induction count with
  | zero => rfl
  | succ count ih =>
    have hcount : count < list.length := by omega
    have hentry : ((fill list buffer)[count]?).join = some list[count] :=
      (getElem?_fill (by omega) hcount).trans (List.getElem?_eq_getElem hcount)
    rw [List.range_succ, List.mapM_append, ih (by omega) (by omega), List.mapM_cons, hentry,
      List.take_succ_eq_append_getElem hcount]
    rfl

/-- The entry after the last one is no entry. -/
theorem copyOut_beyond {buffer : Buffer} {count : Nat} (h : buffer.length < count) :
    copyOut buffer count = none := by
  unfold copyOut
  obtain ⟨more, rfl⟩ : ∃ more, count = buffer.length + 1 + more :=
    ⟨count - (buffer.length + 1), by omega⟩
  rw [List.range_add, List.mapM_append, List.range_succ, List.mapM_append]
  simp

/-- A list that fits the buffer of a call is copied whole. -/
theorem copyOut_whole {list : List String} {capacity : Nat} (h : list.length ≤ capacity) :
    copyOut (fill list (List.replicate capacity none)) list.length = some list := by
  rw [copyOut_fill (by rw [List.length_replicate]; exact h) (Nat.le_refl _), List.take_length]

/-- One that does not fit, read to its end: the read runs off the buffer. -/
theorem copyOut_longer {list : List String} {capacity : Nat} (h : capacity < list.length) :
    copyOut (fill list (List.replicate capacity none)) list.length = none :=
  copyOut_beyond (by rw [length_fill, List.length_replicate]; exact h)

/-- Read to the end of the buffer: the list is cut there. -/
theorem copyOut_cut (list : List String) (capacity : Nat) :
    copyOut (fill list (List.replicate capacity none))
        (min list.length (fill list (List.replicate capacity none)).length) =
      some (list.take capacity) := by
  rw [length_fill, List.length_replicate,
    copyOut_fill (by rw [List.length_replicate]; omega) (by omega), Nat.min_comm,
      ← List.take_eq_take_min]

/-! ## Safe enumerations -/

/-- No entry is read that was not filled, and a list that is returned is the host's, as of
the last call. -/
structure Safe (outcome : Listing × Session Host) : Prop where
  within : outcome.1 ≠ .beyond
  complete : ∀ strings, outcome.1 = .listed strings → outcome.2.answers.getLast? = some strings

theorem safe_failed (message : String) (session : Session Host) :
    Safe (.failed message, session) :=
  ⟨Listing.noConfusion, fun _ h => Listing.noConfusion h⟩

theorem safe_listed_iff {strings list : List String} {session : Session Host}
    (h : session.answers.getLast? = some list) :
    Safe (.listed strings, session) ↔ strings = list := by
  constructor
  · intro hsafe
    exact Option.some.inj ((hsafe.complete strings rfl).symm.trans h)
  · rintro rfl
    refine ⟨Listing.noConfusion, fun strings' h' => ?_⟩
    rw [← Listing.listed.inj h']
    exact h

theorem not_safe_beyond (session : Session Host) : ¬ Safe (.beyond, session) :=
  fun h => h.within rfl

theorem Session.call_ok {slot : Slot Host} {session session' : Session Host} {capacity : Nat}
    {list : List String} (h : session.call slot capacity = (.ok list, session')) :
    session'.answers.getLast? = some list := by
  unfold Session.call at h
  split at h
  · exact nomatch (Prod.mk.inj h).1
  · obtain ⟨hlist, rfl⟩ := Prod.mk.inj h
    rw [← Except.ok.inj hlist]
    exact List.getLast?_concat

/-- A list that needed a second call, because there was not enough room in the first one, has
not grown by then. -/
def StaysWithin (slot : Slot Host) (session : Session Host) (capacity : Nat) : Prop :=
  ∀ counted session' list session'', session.call slot capacity = (.ok counted, session') →
    capacity < counted.length →
    session'.call slot counted.length = (.ok list, session'') → list.length ≤ counted.length

theorem safe_listBorrowedStrings (slot : Slot Host) (session : Session Host) :
    Safe (listBorrowedStrings slot session) := by
  unfold listBorrowedStrings
  cases hcount : session.call slot 0 with
  | mk answer session' =>
    cases answer with
    | error e => exact safe_failed e session'
    | ok counted =>
      dsimp only
      split
      · next hnone =>
        obtain rfl := List.length_eq_zero_iff.mp hnone
        exact (safe_listed_iff (Session.call_ok hcount)).mpr rfl
      · rw [List.length_replicate]
        cases hfill : session'.call slot counted.length with
        | mk answer session'' =>
          cases answer with
          | error e => exact safe_failed e session''
          | ok list =>
            dsimp only
            split
            · exact safe_failed _ session''
            · rw [copyOut_whole (by omega)]
              exact (safe_listed_iff (Session.call_ok hfill)).mpr rfl

theorem staysWithin_of_error {slot : Slot Host} {session session' : Session Host} {capacity : Nat}
    {e : String} (h : session.call slot capacity = (.error e, session')) :
    StaysWithin slot session capacity := by
  intro counted _ list _ hcounted
  exact nomatch (Prod.mk.inj (h.symm.trans hcounted)).1

theorem staysWithin_iff {slot : Slot Host} {session session' : Session Host} {capacity : Nat}
    {counted : List String} (h : session.call slot capacity = (.ok counted, session')) :
    StaysWithin slot session capacity ↔
      (capacity < counted.length → ∀ list session'',
        session'.call slot counted.length = (.ok list, session'') →
          list.length ≤ counted.length) := by
  constructor
  · intro hwithin hlt list session'' hlist
    exact hwithin counted session' list session'' h hlt hlist
  · intro hwithin counted' session₁ list session'' hcounted hlt hlist
    obtain ⟨hsame, rfl⟩ := Prod.mk.inj (h.symm.trans hcounted)
    obtain rfl := Except.ok.inj hsame
    exact hwithin hlt list session'' hlist

/-- The copy that does not compare the two counts. -/
theorem safe_list_iff (slot : Slot Host) (session : Session Host) :
    Safe (DataProcessorsHostView.list (some slot) session) ↔ StaysWithin slot session 0 := by
  unfold DataProcessorsHostView.list
  dsimp only
  rcases hcount : session.call slot 0 with ⟨e | counted, session'⟩
  · exact iff_of_true (safe_failed e session') (staysWithin_of_error hcount)
  · rw [staysWithin_iff hcount]
    dsimp only
    rw [List.length_replicate]
    split
    · next hnone =>
      obtain rfl := List.length_eq_zero_iff.mp hnone
      exact iff_of_true ((safe_listed_iff (Session.call_ok hcount)).mpr rfl)
        fun hlt => absurd hlt (Nat.lt_irrefl 0)
    · next hsome =>
      rcases hfill : session'.call slot counted.length with ⟨e | list, session''⟩
      · exact iff_of_true (safe_failed e session'') fun _ _ _ h => nomatch (Prod.mk.inj h).1
      · dsimp only
        by_cases hlist : list.length ≤ counted.length
        · rw [copyOut_whole hlist]
          refine iff_of_true ((safe_listed_iff (Session.call_ok hfill)).mpr rfl) ?_
          intro _ list' _ h
          rw [← Except.ok.inj (Prod.mk.inj h).1]
          exact hlist
        · -- the second list is longer than the buffer, and read to its end
          rw [copyOut_longer (by omega)]
          exact iff_of_false (not_safe_beyond session'')
            fun h => hlist (h (by omega) list session'' rfl)

/-- The copy that stops at the end of the buffer: it never reads beyond, and returns what fits. -/
theorem safe_collectResolvedTopics_iff (declaredOutputs : Nat) (slot : Slot Host)
    (session : Session Host) :
    Safe (collectResolvedTopics declaredOutputs slot session) ↔
      StaysWithin slot session (resolvedCapacity declaredOutputs) := by
  unfold collectResolvedTopics
  dsimp only
  rw [List.length_replicate]
  generalize resolvedCapacity declaredOutputs = capacity
  rcases hfirst : session.call slot capacity with ⟨e | counted, session'⟩
  · exact iff_of_true (safe_failed e session') (staysWithin_of_error hfirst)
  · rw [staysWithin_iff hfirst]
    dsimp only
    split
    · next hlt =>
      rw [List.length_replicate]
      rcases hsecond : session'.call slot counted.length with ⟨e | list, session''⟩
      · exact iff_of_true (safe_failed e session'') fun _ _ _ h => nomatch (Prod.mk.inj h).1
      · dsimp only
        rw [copyOut_cut]
        refine (safe_listed_iff (Session.call_ok hsecond)).trans ?_
        rw [List.take_eq_self_iff]
        constructor
        · intro hlist _ list' _ h
          rw [← Except.ok.inj (Prod.mk.inj h).1]
          exact hlist
        · intro h
          exact h hlt list session'' rfl
    · next hfits =>
      rw [copyOut_cut, List.take_of_length_le (by omega)]
      exact iff_of_true ((safe_listed_iff (Session.call_ok hfirst)).mpr rfl)
        fun hlt => absurd hlt hfits

/-- What is safe against a host whose list changes between the calls: listing the tabs always;
listing the data processors, and the topics a `create` resolved, exactly when a list that did
not fit the first call has not grown by the second. -/
theorem enumerations_iff (slot : Option (Slot Host)) (session : Session Host) :
    Safe (PlotTabHostView.list slot session) ∧
      (Safe (DataProcessorsHostView.list slot session) ↔
        ∀ slot', slot = some slot' → StaysWithin slot' session 0) ∧
      ∀ outputs,
        (Safe (DataProcessorsHostView.create slot outputs session) ↔
          ∀ slot', slot = some slot' →
            StaysWithin slot' session (resolvedCapacity outputs.length)) ∧
        (Safe (DataProcessorsHostView.createV2 slot outputs session) ↔
          ∀ slot', slot = some slot' →
            StaysWithin slot' session (resolvedCapacity outputs.length)) := by
  cases slot with
  | none =>
    refine ⟨safe_failed _ session, ?_, fun outputs => ⟨?_, ?_⟩⟩ <;>
      exact iff_of_true (safe_failed _ session) fun _ h => nomatch h
  | some slot =>
    simp only [Option.some.injEq, forall_eq']
    exact ⟨safe_listBorrowedStrings slot session, safe_list_iff slot session, fun outputs =>
      ⟨safe_collectResolvedTopics_iff outputs.length slot session,
        safe_collectResolvedTopics_iff outputs.length slot session⟩⟩

/-- A host that gains a second data processor after the count was taken. -/
def growingSlot : Slot Nat := fun calls _ => (.ok (["a", "b"].take (calls + 1)), calls + 1)

/-- The buffer has room for one id, and the second one is read. -/
theorem list_reads_beyond :
    ¬ Safe (DataProcessorsHostView.list (some growingSlot) { host := 0 }) := by
  intro h
  exact h.within (by decide)

end PlotJugglerSdk.Abi
