import PlotJugglerSdk.Concurrency.Runs
import Mathlib.Tactic.Ring

/-!
# Quiescing a job's callbacks

A job's callbacks reach the host's closures through thunks that share one atomic
word with `quiesce`: bit 31 says that the closures are disabled, the bits below it
count the dispatches in flight. A thunk counts itself in and looks at the word it
found; `quiesce` sets the bit and waits for the count to be zero. All of these are
read-modify-write steps and loads of that one word, so their order is a run.

* `Counted`       — the word is the bit and the count
* `quiesce_joins` — after `quiesce` has returned, the closures are done and stay so
-/

namespace PlotJugglerSdk

open Runs

/-- Where one call of a thunk stands. -/
inductive DispatchPhase where
  /-- Counted in, the closures enabled. -/
  | entered
  /-- In the closure's body. -/
  | running
  /-- The body has returned or thrown. -/
  | finished
  /-- Counted in, the closures disabled. -/
  | backingOut
  /-- Counted out; `ran` says whether the closure's body was run. -/
  | left (ran : Bool)
  deriving DecidableEq

namespace DispatchPhase

/-- Counted in and not out. -/
def inFlight : DispatchPhase → Bool
  | entered | running | finished | backingOut => true
  | left _ => false

/-- On the way into the closure's body, in it, or just out of it. -/
def dispatching : DispatchPhase → Bool
  | entered | running | finished => true
  | backingOut | left _ => false

/-- Counted in while the closures were enabled. -/
def accepted : DispatchPhase → Bool
  | entered | running | finished | left true => true
  | backingOut | left false => false

end DispatchPhase

inductive QuiescePhase where
  | idle
  /-- The bit is set, the loop waits. -/
  | waiting
  | returned
  deriving DecidableEq

/-- The word, and what the threads are doing with it. -/
structure CallbackContext where
  dispatchState : UInt32 := 0
  dispatches : List DispatchPhase := []
  quiesce : QuiescePhase := .idle
  deriving DecidableEq

namespace CallbackContext

def kDisabledBit : UInt32 := 0x80000000

inductive Event where
  /-- A thunk's `fetch_add(1)`. -/
  | enter
  | start (dispatch : Nat)
  | finish (dispatch : Nat)
  /-- The thunk's `fetch_sub(1)`, after the body or on backing out. -/
  | leave (dispatch : Nat)
  /-- The `fetch_or(kDisabledBit)` of `quiesce`. -/
  | disable
  /-- A load in the loop of `quiesce`. -/
  | poll

def moveTo (dispatch : Nat) (phase : DispatchPhase) (ctx : CallbackContext) : CallbackContext :=
  { ctx with dispatches := ctx.dispatches.set dispatch phase }

def step : Event → CallbackContext → Option CallbackContext
  | .enter, ctx =>
    let prev := ctx.dispatchState
    let phase := if prev &&& kDisabledBit ≠ 0 then .backingOut else .entered
    some { ctx with dispatchState := prev + 1, dispatches := ctx.dispatches ++ [phase] }
  | .start dispatch, ctx =>
    match ctx.dispatches[dispatch]? with
    | some .entered => some (ctx.moveTo dispatch .running)
    | _ => none
  | .finish dispatch, ctx =>
    match ctx.dispatches[dispatch]? with
    | some .running => some (ctx.moveTo dispatch .finished)
    | _ => none
  | .leave dispatch, ctx =>
    match ctx.dispatches[dispatch]? with
    | some .finished =>
      some { ctx.moveTo dispatch (.left true) with dispatchState := ctx.dispatchState - 1 }
    | some .backingOut =>
      some { ctx.moveTo dispatch (.left false) with dispatchState := ctx.dispatchState - 1 }
    | _ => none
  | .disable, ctx =>
    match ctx.quiesce with
    | .idle =>
      some { ctx with dispatchState := ctx.dispatchState ||| kDisabledBit, quiesce := .waiting }
    | _ => none
  | .poll, ctx =>
    match ctx.quiesce with
    | .waiting =>
      if ctx.dispatchState &&& ~~~kDisabledBit ≠ 0 then some ctx
      else some { ctx with quiesce := .returned }
    | _ => none

/-- The number of dispatches in flight. -/
def inFlight (ctx : CallbackContext) : Nat := ctx.dispatches.countP DispatchPhase.inFlight

/-- The count does not reach the bit. -/
def FewInFlight (ctx : CallbackContext) : Prop := ctx.inFlight < 2 ^ 31

instance : DecidablePred FewInFlight := fun ctx =>
  inferInstanceAs (Decidable (ctx.inFlight < 2 ^ 31))

/-! ## The word -/

theorem disabled_iff (word : UInt32) : word &&& kDisabledBit ≠ 0 ↔ 2 ^ 31 ≤ word.toNat := by
  have hlt := word.toNat_lt
  have hand : (word &&& kDisabledBit).toNat = word.toNat &&& 2 ^ 31 := UInt32.toNat_and _ _
  -- what the mask leaves is bit 31, which is the quotient
  have hquotient : (word.toNat &&& 2 ^ 31) / 2 ^ 31 = word.toNat / 2 ^ 31 := by
    have hbit : word.toNat / 2 ^ 31 < 2 := by omega
    rw [Nat.and_div_two_pow, Nat.div_self (Nat.two_pow_pos 31)]
    exact (Nat.and_two_pow_sub_one_eq_mod _ 1).trans (Nat.mod_eq_of_lt hbit)
  have hrest : (word.toNat &&& 2 ^ 31) % 2 ^ 31 = 0 := by
    rw [Nat.and_mod_two_pow, Nat.mod_self, Nat.and_zero]
  rw [Ne, ← UInt32.toNat_inj, hand, UInt32.toNat_zero]
  omega

theorem count_eq (word : UInt32) : (word &&& ~~~kDisabledBit).toNat = word.toNat % 2 ^ 31 := by
  rw [UInt32.toNat_and]
  exact Nat.and_two_pow_sub_one_eq_mod word.toNat 31

theorem disable_eq {word : UInt32} (h : word.toNat < 2 ^ 31) :
    (word ||| kDisabledBit).toNat = word.toNat + 2 ^ 31 := by
  rw [UInt32.toNat_or]
  exact (Nat.or_comm _ _).trans ((Nat.two_pow_add_eq_or_of_lt h 1).symm.trans (Nat.add_comm _ _))

/-! ## What a step can do -/

/-- All that a step can do. -/
inductive Change (ctx : CallbackContext) : CallbackContext → Prop where
  | enter (phase : DispatchPhase)
      (phase_eq : phase = if 2 ^ 31 ≤ ctx.dispatchState.toNat then .backingOut else .entered) :
      Change ctx
        { ctx with
          dispatchState := ctx.dispatchState + 1
          dispatches := ctx.dispatches ++ [phase] }
  /-- Into the body or out of it; only an admitted dispatch gets there. -/
  | body (dispatch : Nat) (before after : DispatchPhase)
      (found : ctx.dispatches[dispatch]? = some before)
      (moves : before = .entered ∧ after = .running ∨ before = .running ∧ after = .finished) :
      Change ctx (ctx.moveTo dispatch after)
  | leave (dispatch : Nat) (before after : DispatchPhase)
      (found : ctx.dispatches[dispatch]? = some before)
      (moves : before = .finished ∧ after = .left true ∨
        before = .backingOut ∧ after = .left false) :
      Change ctx { ctx.moveTo dispatch after with dispatchState := ctx.dispatchState - 1 }
  | disable (idle : ctx.quiesce = .idle) :
      Change ctx
        { ctx with dispatchState := ctx.dispatchState ||| kDisabledBit, quiesce := .waiting }
  | wait (waiting : ctx.quiesce = .waiting) : Change ctx ctx
  | pass (waiting : ctx.quiesce = .waiting) (zero : ctx.dispatchState.toNat % 2 ^ 31 = 0) :
      Change ctx { ctx with quiesce := .returned }

theorem step_change {event : Event} {ctx next : CallbackContext} (h : step event ctx = some next) :
    Change ctx next := by
  cases event with
  | enter =>
    obtain rfl := Option.some.inj h
    refine .enter _ ?_
    simp only [disabled_iff]
  | start dispatch =>
    simp only [step] at h
    split at h
    next hfound =>
      obtain rfl := Option.some.inj h
      exact .body dispatch .entered .running hfound (.inl ⟨rfl, rfl⟩)
    next => exact absurd h (by simp)
  | finish dispatch =>
    simp only [step] at h
    split at h
    next hfound =>
      obtain rfl := Option.some.inj h
      exact .body dispatch .running .finished hfound (.inr ⟨rfl, rfl⟩)
    next => exact absurd h (by simp)
  | leave dispatch =>
    simp only [step] at h
    split at h
    next hfound =>
      obtain rfl := Option.some.inj h
      exact .leave dispatch .finished (.left true) hfound (.inl ⟨rfl, rfl⟩)
    next hfound =>
      obtain rfl := Option.some.inj h
      exact .leave dispatch .backingOut (.left false) hfound (.inr ⟨rfl, rfl⟩)
    next => exact absurd h (by simp)
  | disable =>
    simp only [step] at h
    split at h
    next hidle =>
      obtain rfl := Option.some.inj h
      exact .disable hidle
    next => exact absurd h (by simp)
  | poll =>
    simp only [step] at h
    split at h
    next hwaiting =>
      split at h
      next =>
        obtain rfl := Option.some.inj h
        exact .wait hwaiting
      next hzero =>
        obtain rfl := Option.some.inj h
        rw [not_not, ← UInt32.toNat_inj, count_eq] at hzero
        exact .pass hwaiting hzero
    next => exact absurd h (by simp)

/-! ## The count -/

/-- The word is the bit and the count; while the closures are enabled every
dispatch is admitted, and once `quiesce` has returned none is on its way. -/
structure Counted (ctx : CallbackContext) : Prop where
  word : ctx.dispatchState.toNat = ctx.inFlight + if ctx.quiesce = .idle then 0 else 2 ^ 31
  enabled : ctx.quiesce = .idle → ∀ phase ∈ ctx.dispatches, phase.accepted = true
  quiet : ctx.quiesce = .returned → ctx.dispatches.countP DispatchPhase.dispatching = 0

theorem counted_initial : Counted {} := ⟨rfl, by simp, by simp⟩

theorem inFlight_moveTo {dispatch : Nat} {before : DispatchPhase} {ctx : CallbackContext}
    (after : DispatchPhase)
    (hfound : ctx.dispatches[dispatch]? = some before) :
    (ctx.moveTo dispatch after).inFlight + (if before.inFlight then 1 else 0) =
      ctx.inFlight + if after.inFlight then 1 else 0 :=
  countP_set hfound after DispatchPhase.inFlight

theorem dispatching_moveTo {dispatch : Nat} {before : DispatchPhase} {ctx : CallbackContext}
    (after : DispatchPhase)
    (hfound : ctx.dispatches[dispatch]? = some before) :
    (ctx.moveTo dispatch after).dispatches.countP DispatchPhase.dispatching +
        (if before.dispatching then 1 else 0) =
      ctx.dispatches.countP DispatchPhase.dispatching + if after.dispatching then 1 else 0 :=
  countP_set hfound after DispatchPhase.dispatching

/-- A move keeps an admitted dispatch admitted. -/
theorem accepted_moveTo {dispatch : Nat} {before after : DispatchPhase} {ctx : CallbackContext}
    (hfound : ctx.dispatches[dispatch]? = some before)
    (haccepted : before.accepted = true → after.accepted = true)
    (h : ∀ phase ∈ ctx.dispatches, phase.accepted = true) :
    ∀ phase ∈ (ctx.moveTo dispatch after).dispatches, phase.accepted = true := by
  intro phase hmem
  rcases List.mem_or_eq_of_mem_set hmem with hmem | rfl
  · exact h phase hmem
  · exact haccepted (h before (List.mem_of_getElem? hfound))

/-- The one place that needs the bound is a thunk's `fetch_add`. -/
theorem Counted.change {ctx next : CallbackContext} (h : Counted ctx) (hchange : Change ctx next)
    (hfew : FewInFlight next) : Counted next := by
  have hword := h.word
  cases hchange with
  | enter phase hphase =>
    have hcount : ctx.inFlight + 1 < 2 ^ 31 := by
      have hnew : (ctx.dispatches ++ [phase]).countP DispatchPhase.inFlight =
          ctx.inFlight + 1 := by
        rw [countP_snoc, hphase]
        split <;> rfl
      exact hnew ▸ hfew
    have hflight : phase.inFlight = true := by
      rw [hphase]
      split <;> rfl
    have hlt : ctx.dispatchState.toNat + 1 < 2 ^ 32 := by
      rw [hword]
      split <;> omega
    refine ⟨?_, ?_, ?_⟩
    · show (ctx.dispatchState + 1).toNat = (ctx.dispatches ++ [phase]).countP _ + _
      rw [countP_snoc, hflight, UInt32.toNat_add, UInt32.toNat_one, Nat.mod_eq_of_lt hlt, hword]
      show ctx.inFlight + _ + 1 = ctx.inFlight + 1 + if ctx.quiesce = .idle then 0 else 2 ^ 31
      omega
    · intro hidle phase' hmem
      rcases List.mem_append.mp hmem with hmem | hmem
      · exact h.enabled hidle phase' hmem
      · -- the count alone does not reach the bit
        have hsmall : ¬2 ^ 31 ≤ ctx.dispatchState.toNat := by
          rw [hword, if_pos hidle]
          omega
        rw [if_neg hsmall] at hphase
        rw [List.mem_singleton.mp hmem, hphase]
        rfl
    · intro hreturned
      have hlarge : 2 ^ 31 ≤ ctx.dispatchState.toNat := by
        rw [hword, if_neg (by rw [hreturned]; simp)]
        omega
      rw [if_pos hlarge] at hphase
      show (ctx.dispatches ++ [phase]).countP _ = 0
      rw [countP_snoc, h.quiet hreturned, hphase]
      rfl
  | body dispatch before after hfound hmoves =>
    have hflight := inFlight_moveTo after hfound
    have hdispatching := dispatching_moveTo after hfound
    rcases hmoves with ⟨rfl, rfl⟩ | ⟨rfl, rfl⟩
    all_goals
      simp only [DispatchPhase.inFlight, DispatchPhase.dispatching, if_true] at hflight hdispatching
      refine ⟨?_, fun hidle => accepted_moveTo hfound (fun _ => rfl) (h.enabled hidle), ?_⟩
      · show ctx.dispatchState.toNat = _
        rw [hword, Nat.add_right_cancel hflight]
        rfl
      · intro hreturned
        rw [Nat.add_right_cancel hdispatching]
        exact h.quiet hreturned
  | leave dispatch before after hfound hmoves =>
    have hflight := inFlight_moveTo after hfound
    have hdispatching := dispatching_moveTo after hfound
    have hbefore : before.inFlight = true ∧ after.inFlight = false ∧ after.dispatching = false := by
      rcases hmoves with ⟨rfl, rfl⟩ | ⟨rfl, rfl⟩ <;> exact ⟨rfl, rfl, rfl⟩
    rw [hbefore.1, hbefore.2.1, if_pos rfl, if_neg (by simp)] at hflight
    refine ⟨?_, ?_, ?_⟩
    · -- at least this dispatch is counted, so the subtraction does not wrap
      have hone : (1 : UInt32) ≤ ctx.dispatchState := by
        rw [UInt32.le_iff_toNat_le, UInt32.toNat_one, hword]
        omega
      show (ctx.dispatchState - 1).toNat =
        (ctx.moveTo dispatch after).inFlight + if ctx.quiesce = .idle then 0 else 2 ^ 31
      rw [UInt32.toNat_sub_of_le _ _ hone, UInt32.toNat_one, hword]
      omega
    · intro hidle
      have haccepted := h.enabled hidle before (List.mem_of_getElem? hfound)
      refine accepted_moveTo hfound (fun _ => ?_) (h.enabled hidle)
      rcases hmoves with ⟨rfl, rfl⟩ | ⟨rfl, rfl⟩
      · rfl
      · exact absurd haccepted (by decide)
    · intro hreturned
      have hquiet := h.quiet hreturned
      show (ctx.moveTo dispatch after).dispatches.countP DispatchPhase.dispatching = 0
      rw [hbefore.2.2, if_neg Bool.false_ne_true] at hdispatching
      omega
  | disable hidle =>
    rw [if_pos hidle, Nat.add_zero] at hword
    refine ⟨?_, by simp, by simp⟩
    show (ctx.dispatchState ||| kDisabledBit).toNat = ctx.inFlight + 2 ^ 31
    rw [disable_eq (hword ▸ hfew), hword]
  | wait hwaiting => exact h
  | pass hwaiting hzero =>
    have hnotIdle : ctx.quiesce ≠ .idle := by
      rw [hwaiting]
      simp
    rw [if_neg hnotIdle] at hword
    refine ⟨?_, by simp, ?_⟩
    · show ctx.dispatchState.toNat = ctx.inFlight + 2 ^ 31
      exact hword
    · intro _
      -- the count is zero, and who dispatches is in flight
      have hcount : ctx.inFlight = 0 := by
        have hsmall : ctx.inFlight < 2 ^ 31 := hfew
        rw [hword] at hzero
        omega
      refine List.countP_eq_zero.mpr ?_
      intro phase hmem hdispatching
      have hnot := countP_eq_zero hcount hmem
      cases phase <;> simp_all [DispatchPhase.inFlight, DispatchPhase.dispatching]

theorem run_counted {events : List Event} {ctx next : CallbackContext} (h : Counted ctx)
    (hrun : run step events ctx = some next) (hfew : Along step FewInFlight events ctx) :
    Counted next :=
  run_keeps_along Counted
    (fun _ _ _ hcounted hnext hstep => hcounted.change (step_change hstep) hnext)
    hfew h hrun

/-! ## Quiesced -/

/-- A dispatch that was admitted stays so. -/
theorem Change.accepted {ctx next : CallbackContext} (h : Change ctx next) {dispatch : Nat}
    {phase : DispatchPhase} (hfound : ctx.dispatches[dispatch]? = some phase)
    (haccepted : phase.accepted = true) :
    ∃ phase', next.dispatches[dispatch]? = some phase' ∧ phase'.accepted = true := by
  -- every change moves one dispatch at most, and moves no accepted one back
  have hmove (moved : Nat) (before after : DispatchPhase)
      (hmoved : ctx.dispatches[moved]? = some before)
      (hkeeps : before.accepted = true → after.accepted = true) :
      ∃ phase', (ctx.dispatches.set moved after)[dispatch]? = some phase' ∧
        phase'.accepted = true := by
    by_cases hsame : moved = dispatch
    · subst hsame
      obtain ⟨hlt, -⟩ := List.getElem?_eq_some_iff.mp hmoved
      obtain rfl : before = phase := Option.some.inj (hmoved.symm.trans hfound)
      exact ⟨after, List.getElem?_set_self hlt, hkeeps haccepted⟩
    · exact ⟨phase, (List.getElem?_set_ne hsame).trans hfound, haccepted⟩
  cases h with
  | enter phase' _ =>
    obtain ⟨hlt, -⟩ := List.getElem?_eq_some_iff.mp hfound
    exact ⟨phase, (List.getElem?_append_left hlt).trans hfound, haccepted⟩
  | body moved before after hmoved hmoves =>
    refine hmove moved before after hmoved ?_
    rcases hmoves with ⟨rfl, rfl⟩ | ⟨rfl, rfl⟩ <;> exact fun _ => rfl
  | leave moved before after hmoved hmoves =>
    refine hmove moved before after hmoved ?_
    rcases hmoves with ⟨rfl, rfl⟩ | ⟨rfl, rfl⟩
    · exact fun _ => rfl
    · intro h
      exact absurd h (by decide)
  | disable _ => exact ⟨phase, hfound, haccepted⟩
  | wait _ => exact ⟨phase, hfound, haccepted⟩
  | pass _ _ => exact ⟨phase, hfound, haccepted⟩

theorem Change.returned {ctx next : CallbackContext} (h : Change ctx next)
    (hreturned : ctx.quiesce = .returned) : next.quiesce = .returned := by
  cases h with
  | disable hidle => rw [hreturned] at hidle; exact absurd hidle (by simp)
  | pass _ _ => rfl
  | _ => exact hreturned

/-- Every dispatch that was counted in before `quiesce` has run its closure's body to
the end when `quiesce` returns; from then on no body is running and none starts. -/
theorem quiesce_joins {before during : List Event} {ctx ctx' : CallbackContext}
    (hbefore : run step before {} = some ctx) (hidle : ctx.quiesce = .idle)
    (hduring : run step during ctx = some ctx') (hreturned : ctx'.quiesce = .returned)
    (hfew : Along step FewInFlight (before ++ during) {}) :
    (∀ dispatch < ctx.dispatches.length, ctx'.dispatches[dispatch]? = some (.left true)) ∧
      ∀ (later : List Event) (ctx'' : CallbackContext), run step later ctx' = some ctx'' →
        Along step FewInFlight later ctx' →
          ctx''.quiesce = .returned ∧
            (∀ phase ∈ ctx''.dispatches, phase ≠ .entered ∧ phase ≠ .running) ∧
              ∀ dispatch, step (.start dispatch) ctx'' = none := by
  obtain ⟨hfewBefore, hfewDuring⟩ := hfew.append hbefore
  have hcounted := run_counted counted_initial hbefore hfewBefore
  have hcounted' := run_counted hcounted hduring hfewDuring
  refine ⟨?_, ?_⟩
  · intro dispatch hlt
    have hfound : ctx.dispatches[dispatch]? = some ctx.dispatches[dispatch] :=
      List.getElem?_eq_getElem hlt
    have haccepted := hcounted.enabled hidle _ (List.getElem_mem hlt)
    obtain ⟨phase, hphase, haccepted'⟩ :
        ∃ phase, ctx'.dispatches[dispatch]? = some phase ∧ phase.accepted = true :=
      run_keeps (fun c : CallbackContext =>
          ∃ phase, c.dispatches[dispatch]? = some phase ∧ phase.accepted = true)
        (fun _ _ _ ⟨_, hphase, haccepted⟩ hstep =>
          (step_change hstep).accepted hphase haccepted)
        ⟨_, hfound, haccepted⟩ hduring
    have hquiet := countP_eq_zero (hcounted'.quiet hreturned) (List.mem_of_getElem? hphase)
    rw [hphase]
    -- admitted and no longer on its way: it has left
    cases phase with
    | left ran => cases ran <;> simp_all [DispatchPhase.accepted]
    | _ => simp_all [DispatchPhase.accepted, DispatchPhase.dispatching]
  · intro later ctx'' hlater hfewLater
    have hcounted'' := run_counted hcounted' hlater hfewLater
    have hreturned'' : ctx''.quiesce = .returned :=
      run_keeps (fun c : CallbackContext => c.quiesce = .returned)
        (fun _ _ _ h hstep => (step_change hstep).returned h) hreturned hlater
    have hnone : ∀ phase ∈ ctx''.dispatches, phase ≠ .entered ∧ phase ≠ .running := by
      intro phase hmem
      have hquiet := countP_eq_zero (hcounted''.quiet hreturned'') hmem
      refine ⟨?_, ?_⟩
      · rintro rfl
        exact absurd hquiet (by decide)
      · rintro rfl
        exact absurd hquiet (by decide)
    refine ⟨hreturned'', hnone, ?_⟩
    intro dispatch
    simp only [step]
    split
    next hfound => exact absurd rfl (hnone _ (List.mem_of_getElem? hfound)).1
    next => rfl

/-- One dispatch is in its body when `quiesce` sets the bit, one comes after. -/
theorem quiesce_joins_two :
    run step [.enter, .start 0] {} = some { dispatchState := 1, dispatches := [.running] } ∧
      run step [.disable, .enter, .poll, .finish 0, .leave 0, .leave 1, .poll]
          { dispatchState := 1, dispatches := [.running] } =
        some (CallbackContext.mk 0x80000000 [.left true, .left false] .returned) ∧
      ∀ dispatch < 1, [DispatchPhase.left true, .left false][dispatch]? = some (.left true) := by
  have hbefore : run step [.enter, .start 0] {} =
      some { dispatchState := 1, dispatches := [.running] } := by decide
  have hduring : run step [.disable, .enter, .poll, .finish 0, .leave 0, .leave 1, .poll]
      { dispatchState := 1, dispatches := [.running] } =
        some (CallbackContext.mk 0x80000000 [.left true, .left false] .returned) := by decide
  have hfew : Along step FewInFlight ([.enter, .start 0] ++
      [.disable, .enter, .poll, .finish 0, .leave 0, .leave 1, .poll]) {} := by decide
  exact ⟨hbefore, hduring, (quiesce_joins hbefore rfl hduring rfl hfew).1⟩

end CallbackContext

end PlotJugglerSdk
