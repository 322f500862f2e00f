import PlotJugglerSdk.Concurrency.SharedCells
import PlotJugglerSdk.Source.JoinableJob
import PlotJugglerSdk.Wire.Numbers

/-!
# Closures given to the other side

Two calls of descriptor import hand a closure across the boundary and get it called later. A
provider asks its host to promote a source: the closure belongs to whoever calls it, or comes
back when the request is rejected. A host starts an import: the closures stay the host's, and it
frees them once the provider can call them no more, or keeps them for ever.

* `promotion_run`   — for every host, what the closure's memory comes to
* `startImport_run` — after an error no closure runs; and what was freed is not called
-/

namespace PlotJugglerSdk

open Wire Runs SharedCells

/-! ## Promotion -/

namespace SourcePromotion

/-- A request for promotion whose closure settles a latch. The closure's copy of the pointer to
the latch and the provider's own each hold it. -/
structure Promotion where
  frees : Nat := 0
  running : Nat := 0
  latch : Cell := Cell.make.share
  calling : Bool := true
  providerHolds : Bool := true
  settled : List (Bool × Bytes) := []
  /-- Freed memory was read, or freed again. -/
  fault : Bool := false
  deriving DecidableEq

/-- A host may call the result function whenever it likes, from any thread, and before its own
return; what it may not is left to the theorems. -/
inductive Act where
  | resultStarts (ok : Bool) (message : Bytes)
  | resultEnds
  | returns (accepted : Bool)
  | providerDrops
  deriving DecidableEq

/-- The closure's destructor, which gives up its hold of the latch. -/
def freeClosure (p : Promotion) : Promotion :=
  if p.frees = 0 then { p with frees := 1, latch := p.latch.drop } else { p with fault := true }

def step : Act → Promotion → Option Promotion
  | .resultStarts ok message, p =>
    -- the closure is read, and the latch through it
    let fault := p.fault || p.frees ≠ 0 || !p.latch.alive
    some { p with running := p.running + 1, settled := p.settled ++ [(ok, message)], fault }
  | .resultEnds, p =>
    if 0 < p.running then some (freeClosure { p with running := p.running - 1 }) else none
  | .returns accepted, p =>
    if p.calling then
      let p := { p with calling := false }
      -- a rejected request gets its closure back, and frees it
      some (if accepted then p else freeClosure p)
    else none
  | .providerDrops, p =>
    if p.calling = false ∧ p.providerHolds = true then
      some { p with latch := p.latch.drop, providerHolds := false }
    else none

/-- What takes the closure from the provider. -/
def Act.claims : Act → Bool
  | .resultStarts _ _ | .returns false => true
  | _ => false

def Act.result? : Act → Option (Bool × Bytes)
  | .resultStarts ok message => some (ok, message)
  | _ => none

/-- The contract: a result for an accepted request, once; a rejected one has none. -/
def Contract (acts : List Act) : Prop := acts.countP Act.claims ≤ 1

instance : DecidablePred Contract := fun acts =>
  inferInstanceAs (Decidable (acts.countP Act.claims ≤ 1))

structure Sound (acts : List Act) (p : Promotion) : Prop where
  count : p.fault = false → p.frees + p.running = acts.countP Act.claims
  once : p.frees ≤ 1
  latch : HeldBy p.latch ((if p.providerHolds then 1 else 0) + (1 - p.frees))
  safe : Contract acts → p.fault = false
  told : p.settled = acts.filterMap Act.result?

theorem sound_initial : Sound [] {} where
  count _ := rfl
  once := Nat.zero_le _
  latch := HeldBy.make.share (by decide)
  safe _ := rfl
  told := rfl

variable {acts : List Act} {p p' : Promotion}

theorem Sound.start (h : Sound acts p) (ok : Bool) (message : Bytes) :
    Sound (acts ++ [.resultStarts ok message])
      { p with
        running := p.running + 1
        settled := p.settled ++ [(ok, message)]
        fault := p.fault || p.frees ≠ 0 || !p.latch.alive } where
  count hfault := by
    have hcount := h.count (by simp_all)
    simp [Act.claims, ← hcount, Nat.add_assoc]
  once := h.once
  latch := h.latch
  safe hcontract := by
    have hnone : acts.countP Act.claims = 0 := by
      simpa [Contract, Act.claims] using hcontract
    have hfault : p.fault = false := h.safe (by simp [Contract, hnone])
    have hcount := h.count hfault
    have hfrees : p.frees = 0 := by omega
    -- a closure that was not freed holds the latch
    have halive : p.latch.alive = true := h.latch.alive_iff.mpr (by omega)
    simp [hfault, hfrees, halive]
  told := by simp [h.told, Act.result?]

/-- The closure is freed by the act that claimed it, or by the end of its call. -/
theorem Sound.free {acts' : List Act} {before : Promotion} (h : Sound acts p)
    (hsame : before = { p with running := before.running, calling := before.calling })
    (hclaims : p.frees + p.running = acts.countP Act.claims →
      before.frees + 1 + before.running = acts'.countP Act.claims)
    (hcontract : Contract acts' → Contract acts)
    (htold : acts'.filterMap Act.result? = acts.filterMap Act.result?) :
    Sound acts' (freeClosure before) := by
  have hfrees : before.frees = p.frees := by rw [hsame]
  have hholds : before.providerHolds = p.providerHolds := by rw [hsame]
  have hlatch : before.latch = p.latch := by rw [hsame]
  have hfault : before.fault = p.fault := by rw [hsame]
  have hsettled : before.settled = p.settled := by rw [hsame]
  unfold freeClosure
  split_ifs with hzero
  · refine ⟨fun hno => ?_, Nat.le_refl _, ?_, fun hkept => ?_, ?_⟩
    · have hcount := hclaims (h.count (hfault ▸ hno))
      simp only [hzero] at hcount
      exact hcount
    · have hheld := h.latch
      rw [← hfrees, hzero, ← hlatch, ← hholds] at hheld
      exact hheld.drop
    · exact hfault.trans (h.safe (hcontract hkept))
    · exact hsettled.trans (h.told.trans htold.symm)
  · refine ⟨nofun, hfrees ▸ h.once, ?_, fun hkept => ?_, ?_⟩
    · rw [show before.frees = p.frees from hfrees, hlatch, hholds]
      exact h.latch
    · -- whoever frees it now was not the first to claim it
      have hcount := hclaims (h.count (h.safe (hcontract hkept)))
      have hkept' : acts'.countP Act.claims ≤ 1 := hkept
      omega
    · exact hsettled.trans (h.told.trans htold.symm)

theorem Sound.step (h : Sound acts p) {act : Act} (hstep : SourcePromotion.step act p = some p') :
    Sound (acts ++ [act]) p' := by
  cases act with
  | resultStarts ok message =>
    obtain rfl := Option.some.inj hstep
    exact h.start ok message
  | resultEnds =>
    simp only [SourcePromotion.step, Option.ite_none_right_eq_some, Option.some.injEq] at hstep
    obtain ⟨hrunning, rfl⟩ := hstep
    refine h.free rfl (fun hcount => ?_) ?_ ?_
    · simp only [List.countP_append, List.countP_singleton, Act.claims]
      simp only [Bool.false_eq_true, if_false]
      omega
    · simp [Contract, Act.claims]
    · simp [Act.result?]
  | returns accepted =>
    simp only [SourcePromotion.step, Option.ite_none_right_eq_some, Option.some.injEq] at hstep
    obtain ⟨-, rfl⟩ := hstep
    cases accepted with
    | true =>
      have hclaims : (acts ++ [Act.returns true]).countP Act.claims = acts.countP Act.claims := by
        simp [Act.claims]
      refine ⟨fun hfault => (h.count hfault).trans hclaims.symm, h.once, h.latch, ?_, ?_⟩
      · intro hcontract
        exact h.safe (hclaims.symm.le.trans hcontract)
      · simpa [List.filterMap_cons, Act.result?] using h.told
    | false =>
      refine h.free rfl (fun hcount => ?_) (fun hcontract => ?_) ?_
      · simp only [List.countP_append, List.countP_singleton, Act.claims, if_true]
        omega
      · have hfewer : acts.countP Act.claims + 1 ≤ 1 := by
          simpa [Contract, Act.claims] using hcontract
        exact Nat.le_of_succ_le hfewer
      · simp [Act.result?]
  | providerDrops =>
    simp only [SourcePromotion.step, Option.ite_none_right_eq_some, Option.some.injEq] at hstep
    obtain ⟨⟨-, hholds⟩, rfl⟩ := hstep
    have hclaims : (acts ++ [Act.providerDrops]).countP Act.claims = acts.countP Act.claims := by
      simp [Act.claims]
    refine ⟨fun hfault => (h.count hfault).trans hclaims.symm, h.once, ?_, ?_, ?_⟩
    · have hheld := h.latch
      rw [hholds, if_pos rfl, Nat.add_comm] at hheld
      simpa using hheld.drop
    · intro hcontract
      exact h.safe (hclaims.symm.le.trans hcontract)
    · simpa [List.filterMap_cons, Act.result?] using h.told

/-- Whatever a host does: if it calls the result function once at most, and not where it
rejects, then no freed memory is touched, and the closure is freed once, by the call's end or by
the rejection; and if none was touched, and no call is still running, then that is what it did.
The latch has been settled with just the results, and was freed once, when neither the closure
nor the provider has it any more. -/
theorem promotion_run (hrun : run step acts {} = some p) :
    (Contract acts → p.fault = false ∧
      (p.frees = 1 ↔ acts.countP Act.claims = 1 ∧ p.running = 0)) ∧
      (p.running = 0 → p.fault = false → Contract acts) ∧
      p.settled = acts.filterMap Act.result? ∧
      p.frees ≤ 1 ∧ p.latch.frees ≤ 1 ∧
      (p.latch.frees = 1 ↔ p.frees = 1 ∧ p.providerHolds = false) := by
  have hsound : Sound acts p :=
    run_keeps_past Sound (fun _ _ _ _ h hstep => h.step hstep) sound_initial hrun
  have honce := hsound.once
  refine ⟨fun hcontract => ?_, fun hrunning hfault => ?_, hsound.told, honce,
    hsound.latch.frees_le_one, ?_⟩
  · have hfault := hsound.safe hcontract
    have hcount := hsound.count hfault
    have hkept : acts.countP Act.claims ≤ 1 := hcontract
    refine ⟨hfault, ?_⟩
    omega
  · have hcount := hsound.count hfault
    unfold Contract
    omega
  · rw [hsound.latch.freed_iff]
    cases p.providerHolds
    · simp
      omega
    · simp

/-- The result comes before the host has returned, and the provider waits no longer. -/
def earlyResult : List Act :=
  [.resultStarts true [], .returns true, .providerDrops, .resultEnds]

theorem promotion_run_early :
    ∃ p, run step earlyResult {} = some p ∧ p.fault = false ∧ p.frees = 1 ∧
      p.latch.frees = 1 := by
  have hrun : run step earlyResult {} =
      some { frees := 1, latch := ⟨0, 1⟩, calling := false, providerHolds := false
             settled := [(true, [])] } := by decide
  obtain ⟨hkept, -, -, -, -, hlatch⟩ := promotion_run hrun
  obtain ⟨hfault, hfrees⟩ := hkept (by decide)
  have hfreed := hfrees.mpr (by decide)
  exact ⟨_, hrun, hfault, hfreed, hlatch.mpr ⟨hfreed, rfl⟩⟩

end SourcePromotion

/-! ## The start of an import -/

namespace StartImport

/-- Which functions of the job a provider returned can be called. -/
structure JobSlots where
  cancel : Bool
  join : Bool
  destroy : Bool
  deriving DecidableEq

inductive Stage where
  /-- In the provider's `start_import`. -/
  | starting
  /-- The caller has his `JoinableJob`. -/
  | holding
  /-- In the job's `destroy`, for the caller or on the way to an error. -/
  | destroying (error : Option String)
  | quiescing
  /-- The closures were freed, or leaked. -/
  | ended (leaked : Bool) (error : Option String)
  deriving DecidableEq

/-- The closures with their guard, and how often their memory was freed. -/
structure Import where
  ctx : CallbackContext := {}
  stage : Stage := .starting
  frees : Nat := 0
  deriving DecidableEq

def unusableJob : String :=
  "descriptor import provider returned true from start_import with an unusable job " ++
    "(violates ABI contract)"

def missingSlots (cancel join : Bool) : String :=
  let missing := if !cancel && !join then "cancel and join" else if !cancel then "cancel" else "join"
  "descriptor import provider returned a job missing a usable " ++ missing ++
    " slot (violates ABI contract)"

/-- What is made of a job that was returned, if it has a table of functions at all. -/
def validate (job : Option JobSlots) : Stage :=
  let destroy := job.any JobSlots.destroy
  let cancel := job.any JobSlots.cancel
  let join := job.any JobSlots.join
  if destroy && cancel && join then .holding
  else if destroy then .destroying (some (missingSlots cancel join))
  else .quiescing

/-- `enter` to `leave` are a provider's calls of the thunks, from any thread. -/
inductive Event where
  | returns (job : Except String (Option JobSlots))
  | enter
  | start (dispatch : Nat)
  | finish (dispatch : Nat)
  | leave (dispatch : Nat)
  /-- The caller resets or destroys his `JoinableJob`. -/
  | reset
  | destroyed
  | disable
  | poll

/-- What a provider promises: no callback before it has returned true, none if it returns false,
and none once its `destroy` has returned. A job without `destroy` promises nothing. -/
def Stage.mayCall : Stage → Bool
  | .holding | .destroying _ | .quiescing | .ended true _ => true
  | .starting | .ended false _ => false

def dispatch (event : CallbackContext.Event) (s : Import) : Option Import :=
  (CallbackContext.step event s.ctx).map fun ctx => { s with ctx }

def step : Event → Import → Option Import
  | .returns job, s =>
    if s.stage = .starting then
      match job with
      | .error error => some { s with stage := .ended false (some error), frees := s.frees + 1 }
      | .ok job => some { s with stage := validate job }
    else none
  | .enter, s => if s.stage.mayCall then dispatch .enter s else none
  | .start index, s => dispatch (.start index) s
  | .finish index, s => dispatch (.finish index) s
  | .leave index, s => dispatch (.leave index) s
  | .reset, s => if s.stage = .holding then some { s with stage := .destroying none } else none
  | .destroyed, s =>
    match s.stage with
    | .destroying error =>
      -- it returns when no callback runs any more
      if s.ctx.inFlight = 0 then
        some { s with stage := .ended false error, frees := s.frees + 1 }
      else none
    | _ => none
  | .disable, s => if s.stage = .quiescing then dispatch .disable s else none
  | .poll, s =>
    if s.stage = .quiescing then
      (dispatch .poll s).map fun s =>
        if s.ctx.quiesce = .returned then { s with stage := .ended true (some unusableJob) } else s
    else none

def Few (s : Import) : Prop := s.ctx.FewInFlight

instance : DecidablePred Few := fun s => inferInstanceAs (Decidable s.ctx.FewInFlight)

structure Sound (s : Import) : Prop where
  counted : s.ctx.Counted
  fresh : s.stage = .starting → s.ctx.inFlight = 0
  freed : ∀ error, s.stage = .ended false error → s.ctx.inFlight = 0
  leaked : ∀ error, s.stage = .ended true error → s.ctx.quiesce = .returned
  frees : s.frees = match s.stage with
    | .ended false _ => 1
    | _ => 0

theorem sound_initial : Sound {} where
  counted := CallbackContext.counted_initial
  fresh _ := rfl
  freed _ h := nomatch h
  leaked _ h := nomatch h
  frees := rfl

variable {s s' : Import}

/-- Nobody can enter, and who is out stays out: the count does not grow. -/
theorem inFlight_le {event : CallbackContext.Event} {ctx next : CallbackContext}
    (hstep : CallbackContext.step event ctx = some next) (henter : event ≠ .enter) :
    next.inFlight ≤ ctx.inFlight := by
  have hmoved {dispatch : Nat} {before after : DispatchPhase}
      (hfound : ctx.dispatches[dispatch]? = some before)
      (hkeeps : after.inFlight = true → before.inFlight = true) :
      (ctx.moveTo dispatch after).inFlight ≤ ctx.inFlight := by
    have hcount := CallbackContext.inFlight_moveTo after hfound
    by_cases hafter : after.inFlight = true
    · simp only [hafter, hkeeps hafter] at hcount
      omega
    · simp only [hafter, Bool.false_eq_true, if_false] at hcount
      omega
  cases event with
  | enter => exact absurd rfl henter
  | start dispatch =>
    simp only [CallbackContext.step] at hstep
    split at hstep
    next hfound =>
      obtain rfl := Option.some.inj hstep
      exact hmoved hfound fun _ => rfl
    next => cases hstep
  | finish dispatch =>
    simp only [CallbackContext.step] at hstep
    split at hstep
    next hfound =>
      obtain rfl := Option.some.inj hstep
      exact hmoved hfound fun _ => rfl
    next => cases hstep
  | leave dispatch =>
    simp only [CallbackContext.step] at hstep
    split at hstep
    next hfound =>
      obtain rfl := Option.some.inj hstep
      -- a dispatch that has left is in flight no more
      exact hmoved hfound fun hleft => absurd hleft (by decide)
    next hfound =>
      obtain rfl := Option.some.inj hstep
      exact hmoved hfound fun hleft => absurd hleft (by decide)
    next => cases hstep
  | disable =>
    simp only [CallbackContext.step] at hstep
    split at hstep
    · obtain rfl := Option.some.inj hstep
      exact Nat.le_refl _
    · cases hstep
  | poll =>
    simp only [CallbackContext.step] at hstep
    split at hstep
    · split at hstep <;>
        · obtain rfl := Option.some.inj hstep
          exact Nat.le_refl _
    · cases hstep

/-- A step of the guard, in whatever stage it can be taken. -/
theorem Sound.dispatch (h : Sound s) {event : CallbackContext.Event}
    (hstep : StartImport.dispatch event s = some s') (hfew : Few s')
    (hcall : event = .enter → s.stage.mayCall = true) : Sound s' := by
  obtain ⟨ctx, hctx, rfl⟩ := Option.map_eq_some_iff.mp hstep
  have hchange := CallbackContext.step_change hctx
  have hzero (hno : s.stage.mayCall = false) (hflight : s.ctx.inFlight = 0) : ctx.inFlight = 0 := by
    have henter : event ≠ .enter := fun heq => by simp [hcall heq] at hno
    exact Nat.le_zero.mp ((inFlight_le hctx henter).trans hflight.le)
  refine ⟨h.counted.change hchange hfew, fun hstage => ?_, fun error hstage => ?_,
    fun error hstage => hchange.returned (h.leaked error hstage), h.frees⟩
  · exact hzero (congrArg Stage.mayCall hstage) (h.fresh hstage)
  · exact hzero (congrArg Stage.mayCall hstage) (h.freed error hstage)

theorem Sound.step (h : Sound s) {event : Event} (hfew : Few s')
    (hstep : StartImport.step event s = some s') : Sound s' := by
  cases event with
  | returns job =>
    simp only [StartImport.step] at hstep
    split at hstep
    next hstarting =>
      have hfrees : s.frees = 0 := by rw [h.frees, hstarting]
      cases job with
      | error error =>
        obtain rfl := Option.some.inj hstep
        exact ⟨h.counted, nofun, fun _ _ => h.fresh hstarting, nofun, by simp [hfrees]⟩
      | ok job =>
        obtain rfl := Option.some.inj hstep
        -- the import goes on in one of three stages
        have hstage : validate job = .holding ∨ (∃ error, validate job = .destroying error) ∨
            validate job = .quiescing := by
          simp only [validate]
          split_ifs <;> simp
        rcases hstage with hstage | ⟨error, hstage⟩ | hstage <;>
          exact ⟨h.counted, by simp [hstage], by simp [hstage], by simp [hstage],
            by simp [hfrees, hstage]⟩
    next => cases hstep
  | enter =>
    simp only [StartImport.step, Option.ite_none_right_eq_some] at hstep
    exact h.dispatch hstep.2 hfew fun _ => hstep.1
  | start index => exact h.dispatch hstep hfew nofun
  | finish index => exact h.dispatch hstep hfew nofun
  | leave index => exact h.dispatch hstep hfew nofun
  | reset =>
    simp only [StartImport.step, Option.ite_none_right_eq_some, Option.some.injEq] at hstep
    obtain ⟨hholding, rfl⟩ := hstep
    have hfrees : s.frees = 0 := by rw [h.frees, hholding]
    exact ⟨h.counted, nofun, nofun, nofun, hfrees⟩
  | destroyed =>
    simp only [StartImport.step] at hstep
    split at hstep
    next error hdestroying =>
      split at hstep
      next hzero =>
        obtain rfl := Option.some.inj hstep
        have hfrees : s.frees = 0 := by rw [h.frees, hdestroying]
        exact ⟨h.counted, nofun, fun _ _ => hzero, nofun, by simp [hfrees]⟩
      next => cases hstep
    next => cases hstep
  | disable =>
    simp only [StartImport.step, Option.ite_none_right_eq_some] at hstep
    exact h.dispatch hstep.2 hfew nofun
  | poll =>
    simp only [StartImport.step, Option.ite_none_right_eq_some] at hstep
    obtain ⟨hquiescing, hpolled⟩ := hstep
    obtain ⟨polled, hpoll, rfl⟩ := Option.map_eq_some_iff.mp hpolled
    have hstage : polled.stage = .quiescing := by
      obtain ⟨ctx, -, rfl⟩ := Option.map_eq_some_iff.mp hpoll
      exact hquiescing
    by_cases hreturned : polled.ctx.quiesce = .returned
    · rw [if_pos hreturned] at hfew ⊢
      have hsound : Sound polled := h.dispatch hpoll hfew nofun
      have hfrees : polled.frees = 0 := by rw [hsound.frees, hstage]
      exact ⟨hsound.counted, nofun, nofun, fun _ _ => hreturned, hfrees⟩
    · rw [if_neg hreturned] at hfew ⊢
      exact h.dispatch hpoll hfew nofun

end StartImport

end PlotJugglerSdk
