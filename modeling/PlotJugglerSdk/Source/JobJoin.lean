import PlotJugglerSdk.Source.ProviderJob

/-!
# Joining and destroying a provider job

`jobJoin` may be called by any number of threads, and `std::thread::join` by one only: the
first caller joins the worker, the others wait for it. `jobDestroy` cancels, joins and frees
the state. A host that destroys has no other call on the job under way and makes no other
afterwards; beyond that every interleaving is a run.

* `Orderly`       — what holds between the joiners, the worker and the destroyer
* `completed_step`, `external_step` — what a step of the job leaves alone
* `join_protocol` — the worker is joined once, a join returns when the job is over, and nothing
  of the job is left when its state is freed
-/

namespace PlotJugglerSdk

namespace ProviderJob

open Runs

inductive JoinPhase where
  /-- `jobDestroy` cancels first, by the call of that number. -/
  | cancelling (call : Nat)
  | called
  /-- In `std::thread::join`. -/
  | joining
  /-- Out of it, and not in the second section yet. -/
  | threadJoined
  /-- In `join_cv.wait`. -/
  | waiting
  | returned
  deriving DecidableEq

/-- Chosen to join the thread. -/
def JoinPhase.chosen : JoinPhase → Bool
  | joining | threadJoined => true
  | _ => false

/-- A call of `jobJoin`, or of `jobDestroy`. -/
structure Joiner where
  destroys : Bool := false
  phase : JoinPhase
  deriving DecidableEq

structure JoinedJob where
  job : JobState
  joinInProgress : Bool := false
  joined : Bool := false
  joiners : List Joiner := []
  /-- How often `std::thread::join` has returned. -/
  threadJoins : Nat := 0
  deleted : Bool := false
  deriving DecidableEq

namespace JoinedJob

def move (index : Nat) (joiner : Joiner) (phase : JoinPhase) (s : JoinedJob) : JoinedJob :=
  { s with joiners := s.joiners.set index { joiner with phase } }

def destroying (s : JoinedJob) : Bool := s.joiners.any Joiner.destroys

/-- The next step of a joiner. -/
def joinStep (index : Nat) (joiner : Joiner) (s : JoinedJob) : Option JoinedJob :=
  let next := move index joiner
  match joiner.phase with
  | .cancelling call =>
    if s.job.calls[call]?.any fun made => made.phase = .done then some (next .called s) else none
  -- the first section under `join_mu`
  | .called =>
    if s.joined then some (next .returned s)
    else if s.joinInProgress then some (next .waiting s)
    else some (next .joining { s with joinInProgress := true })
  | .joining =>
    if s.job.worker = .completed then
      some (next .threadJoined { s with threadJoins := s.threadJoins + 1 })
    else none
  -- the second one
  | .threadJoined => some (next .returned { s with joined := true })
  | .waiting => if s.joined then some (next .returned s) else none
  | .returned => if joiner.destroys && !s.deleted then some { s with deleted := true } else none

end JoinedJob

inductive JoinEvent where
  | job (event : Event)
  | join
  /-- A callback joins its own job: nothing happens. -/
  | selfJoin
  | destroy
  | joiner (index : Nat)

/-- The host calls the job's cancel slot. -/
def Event.cancels : Event → Bool
  | .requestCancel .external => true
  | _ => false

open JoinedJob in
def joinedStep : JoinEvent → JoinedJob → Option JoinedJob
  | .job event, s =>
    if s.destroying && event.cancels then none
    else (step event s.job).map fun job => { s with job }
  | .join, s =>
    if s.destroying then none else some { s with joiners := s.joiners ++ [{ phase := .called }] }
  -- the worker's id is compared before anything else is looked at
  | .selfJoin, s =>
    if s.job.worker.hasBody || s.job.worker = .inTerminal then some s else none
  | .destroy, s =>
    if s.destroying || !(s.joiners.all fun joiner => joiner.phase = .returned) ||
        !s.job.idle .external then none
    else
      some
        { s with
          job := s.job.addCall .external .cancelRequested
          joiners := s.joiners ++
            [{ destroys := true, phase := .cancelling s.job.calls.length }] }
  | .joiner index, s =>
    match s.joiners[index]? with
    | some joiner => joinStep index joiner s
    | none => none

/-! ## What a step of the job leaves alone -/

section Job

variable {s s' : JobState}

theorem workerStep_calls (h : workerStep s = some s') : s'.calls = s.calls := by
  unfold workerStep at h
  split at h <;> (try split at h) <;> simp at h <;> subst h <;> rfl

theorem watchdogStep_calls (h : watchdogStep s = some s') :
    s'.calls = s.calls ∧ s'.worker = s.worker := by
  unfold watchdogStep at h
  split at h <;> (try split at h) <;> simp at h <;> subst h <;> exact ⟨rfl, rfl⟩

/-- A call moves itself, from a phase in which it is not over. -/
theorem callStep_calls {index : Nat} {call : Call} (h : callStep index call s = some s') :
    call.phase ≠ .done ∧ s'.worker = s.worker ∧
      ∃ phase, s'.calls = s.calls.set index ⟨call.origin, phase⟩ := by
  unfold callStep at h
  dsimp only at h
  split at h <;> (try split at h) <;> (try split at h) <;> simp at h <;> subst h <;>
    exact ⟨by simp [*], rfl, _, rfl⟩

/-- The worker does not come back. -/
theorem completed_step {event : Event} (h : step event s = some s')
    (hcompleted : s.worker = .completed) : s'.worker = .completed := by
  cases event with
  | start =>
    unfold step at h
    dsimp only at h
    split at h <;> simp at h <;> subst h <;> exact hcompleted
  | worker => simp [step, workerStep, hcompleted] at h
  | bodyEnds => simp [step, hcompleted] at h
  | arm => simp [step, hcompleted] at h
  | armFails => simp [step, hcompleted] at h
  | watchdog => exact (watchdogStep_calls h).2.trans hcompleted
  | timeout =>
    obtain ⟨-, rfl⟩ := of_guard h
    exact hcompleted
  | requestCancel origin =>
    obtain ⟨-, rfl⟩ := of_guard h
    exact hcompleted
  | onCancel origin hook =>
    obtain ⟨-, rfl⟩ := of_guard h
    exact hcompleted
  | notifyDataset origin =>
    obtain ⟨-, rfl⟩ := of_guard h
    exact hcompleted
  | call index =>
    unfold step at h
    dsimp only at h
    split at h
    · exact (callStep_calls h).2.1.trans hcompleted
    · simp at h

/-- Where the host makes no call, its calls that are over stay over. -/
theorem external_step {event : Event} (h : step event s = some s') (hcancels : event.cancels = false)
    {index : Nat} {call' : Call} (hcall : s'.calls[index]? = some call')
    (hexternal : call'.origin = .external) :
    ∃ call, s.calls[index]? = some call ∧ call.origin = .external ∧
      (call.phase = .done → call' = call) := by
  have hsame : s'.calls = s.calls → ∃ call, s.calls[index]? = some call ∧
      call.origin = .external ∧ (call.phase = .done → call' = call) := by
    intro hcalls
    exact ⟨call', hcalls ▸ hcall, hexternal, fun _ => rfl⟩
  -- a call that is added is not the host's
  have hadded : ∀ origin phase, origin ≠ .external → s' = s.addCall origin phase →
      ∃ call, s.calls[index]? = some call ∧ call.origin = .external ∧
        (call.phase = .done → call' = call) := by
    rintro origin phase horigin rfl
    obtain hold | rfl := getElem?_snoc_cases hcall
    · exact ⟨call', hold, hexternal, fun _ => rfl⟩
    · exact absurd hexternal horigin
  cases event with
  | start =>
    unfold step at h
    dsimp only at h
    split at h <;> simp at h <;> subst h <;> exact hsame rfl
  | worker => exact hsame (workerStep_calls h)
  | bodyEnds =>
    obtain ⟨-, rfl⟩ := of_guard h
    exact hsame rfl
  | arm =>
    obtain ⟨-, rfl⟩ := of_guard h
    exact hsame rfl
  | armFails =>
    obtain ⟨-, rfl⟩ := of_guard h
    exact hsame rfl
  | watchdog => exact hsame (watchdogStep_calls h).1
  | timeout =>
    obtain ⟨-, rfl⟩ := of_guard h
    exact hsame rfl
  | requestCancel origin =>
    obtain ⟨-, hmade⟩ := of_guard h
    refine hadded origin _ ?_ hmade
    rintro rfl
    exact absurd hcancels (by decide)
  | onCancel origin hook =>
    obtain ⟨hcalling, hmade⟩ := of_guard h
    refine hadded origin _ ?_ hmade
    rintro rfl
    exact absurd hcalling (by simp [calling])
  | notifyDataset origin =>
    obtain ⟨hcalling, hmade⟩ := of_guard h
    refine hadded origin _ ?_ hmade
    rintro rfl
    exact absurd hcalling (by simp [calling])
  | call moved =>
    unfold step at h
    dsimp only at h
    split at h
    next call hfound =>
      obtain ⟨hactive, -, phase, hcalls⟩ := callStep_calls h
      rw [hcalls] at hcall
      obtain ⟨rfl, rfl⟩ | ⟨-, hold⟩ := getElem?_set_cases hcall
      · exact ⟨call, hfound, hexternal, fun hdone => absurd hdone hactive⟩
      · exact ⟨call', hold, hexternal, fun _ => rfl⟩
    next => simp at h

end Job

/-! ## What holds between the joiners -/

namespace JoinedJob

def count (p : JoinPhase → Bool) (s : JoinedJob) : Nat :=
  s.joiners.countP fun joiner => p joiner.phase

/-- Whoever destroys is alone: every other joiner is out, and no call of the host's is under way
but its own, as long as it makes it. -/
structure Alone (s : JoinedJob) (index : Nat) (joiner : Joiner) : Prop where
  others : ∀ other joiner', other ≠ index → s.joiners[other]? = some joiner' →
    joiner'.phase = .returned ∧ joiner'.destroys = false
  quiet : ∀ made call, s.job.calls[made]? = some call → call.origin = .external →
    call.phase = .done ∨ joiner.phase = .cancelling made

structure Orderly (s : JoinedJob) : Prop where
  lawful : Lawful s.job
  /-- One joiner at most was chosen, and `joined` is set when it is out. -/
  chosen : s.count JoinPhase.chosen + s.joined.toNat = s.joinInProgress.toNat
  joins : s.threadJoins = (s.count fun phase => phase = .threadJoined) + s.joined.toNat
  ended : 0 < s.threadJoins → s.job.worker = .completed
  returned : ∀ joiner ∈ s.joiners, joiner.phase = .returned → s.joined = true
  waiting : ∀ joiner ∈ s.joiners, joiner.phase = .waiting → s.joinInProgress = true
  alone : ∀ index joiner, s.joiners[index]? = some joiner → joiner.destroys = true →
    s.Alone index joiner
  deleted : s.deleted = true →
    ∃ joiner ∈ s.joiners, joiner.destroys = true ∧ joiner.phase = .returned

variable {s s' : JoinedJob}

theorem orderly_initial {job : JobState} (h : Lawful job) : Orderly { job } where
  lawful := h
  chosen := rfl
  joins := rfl
  ended := fun hpos => absurd hpos (by simp)
  returned := by simp
  waiting := by simp
  alone := by simp
  deleted := by simp

/-- The job moves, and the host makes no call if it destroys. -/
theorem Orderly.job (h : Orderly s) {event : Event} {job : JobState}
    (hstep : step event s.job = some job)
    (hquiet : s.destroying = true → event.cancels = false) : Orderly { s with job } where
  lawful := h.lawful.step hstep
  chosen := h.chosen
  joins := h.joins
  ended hpos := completed_step hstep (h.ended hpos)
  returned := h.returned
  waiting := h.waiting
  deleted := h.deleted
  alone := by
    intro index joiner hfound hdestroys
    have halone := h.alone index joiner hfound hdestroys
    have hdestroying : s.destroying = true :=
      List.any_eq_true.mpr ⟨joiner, List.mem_of_getElem? hfound, hdestroys⟩
    refine ⟨halone.others, fun made call' hcall hexternal => ?_⟩
    obtain ⟨call, hbefore, horigin, hkept⟩ :=
      external_step hstep (hquiet hdestroying) hcall hexternal
    obtain hdone | hcancelling := halone.quiet made call hbefore horigin
    · exact .inl (hkept hdone ▸ hdone)
    · exact .inr hcancelling

theorem count_move {index : Nat} {joiner : Joiner} (hfound : s.joiners[index]? = some joiner)
    (phase : JoinPhase) (p : JoinPhase → Bool) :
    (s.joiners.set index { joiner with phase }).countP (fun joiner => p joiner.phase) +
        (if p joiner.phase then 1 else 0) =
      s.count p + if p phase then 1 else 0 :=
  countP_set hfound _ _

theorem mem_move {index : Nat} {joiner joiner' : Joiner} {phase : JoinPhase}
    (h : joiner' ∈ s.joiners.set index { joiner with phase }) :
    joiner' = { joiner with phase } ∨ joiner' ∈ s.joiners := by
  obtain ⟨other, hother⟩ := List.getElem?_of_mem h
  obtain ⟨-, hmoved⟩ | ⟨-, hkept⟩ := getElem?_set_cases hother
  · exact .inl hmoved
  · exact .inr (List.mem_of_getElem? hkept)

/-- A joiner that is not out moves: if anybody destroys, it is the one. -/
theorem Orderly.alone_move (h : Orderly s) {index : Nat} {joiner : Joiner}
    (hfound : s.joiners[index]? = some joiner) (hinside : joiner.phase ≠ .returned)
    (hquiet : ∀ made call, joiner.phase = .cancelling made → s.job.calls[made]? = some call →
      call.phase = .done) (phase : JoinPhase) {moved : JoinedJob} (hjob : moved.job = s.job)
    (hjoiners : moved.joiners = s.joiners.set index { joiner with phase }) :
    ∀ index' joiner', moved.joiners[index']? = some joiner' → joiner'.destroys = true →
      moved.Alone index' joiner' := by
  intro index' joiner' hfound' hdestroys
  rw [hjoiners] at hfound'
  obtain ⟨rfl, rfl⟩ | ⟨hne, hfound'⟩ := getElem?_set_cases hfound'
  · have halone := h.alone index joiner hfound hdestroys
    refine ⟨fun other other' hother hfound'' => ?_, fun made call hcall hexternal => .inl ?_⟩
    · rw [hjoiners] at hfound''
      obtain ⟨hsame, -⟩ | ⟨-, hkept⟩ := getElem?_set_cases hfound''
      · exact absurd hsame.symm hother
      · exact halone.others other other' hother hkept
    · rw [hjob] at hcall
      obtain hdone | hcancelling := halone.quiet made call hcall hexternal
      · exact hdone
      · exact hquiet made call hcancelling hcall
  · -- the destroyer waits for nobody, so the one that moves is out
    have hother := (h.alone index' joiner' hfound' hdestroys).others index joiner hne hfound
    exact absurd hother.1 hinside

/-- As long as a joiner is inside, nothing is freed. -/
theorem Orderly.not_deleted (h : Orderly s) {index : Nat} {joiner : Joiner}
    (hfound : s.joiners[index]? = some joiner) (hinside : joiner.phase ≠ .returned) :
    s.deleted = false := by
  rw [← Bool.not_eq_true]
  intro hdeleted
  obtain ⟨other, hmem, hdestroys, hout⟩ := h.deleted hdeleted
  obtain ⟨place, hplace⟩ := List.getElem?_of_mem hmem
  by_cases hsame : index = place
  · subst hsame
    obtain rfl := Option.some.inj (hfound.symm.trans hplace)
    exact hinside hout
  · exact hinside ((h.alone place other hplace hdestroys).others index joiner hsame hfound).1

/-- What a move of a joiner has to get right. -/
theorem Orderly.moved (h : Orderly s) {index : Nat} {joiner : Joiner}
    (hfound : s.joiners[index]? = some joiner) (hinside : joiner.phase ≠ .returned)
    (hquiet : ∀ made call, joiner.phase = .cancelling made → s.job.calls[made]? = some call →
      call.phase = .done) (phase : JoinPhase) {moved : JoinedJob} (hjob : moved.job = s.job)
    (hjoiners : moved.joiners = s.joiners.set index { joiner with phase })
    (hdeleted : moved.deleted = s.deleted)
    (hchosen : s.count JoinPhase.chosen + (if phase.chosen then 1 else 0) + moved.joined.toNat =
      moved.joinInProgress.toNat + if joiner.phase.chosen then 1 else 0)
    (hjoins : moved.threadJoins + (if joiner.phase = .threadJoined then 1 else 0) =
      (s.count fun phase => phase = .threadJoined) + (if phase = .threadJoined then 1 else 0) +
        moved.joined.toNat)
    (hover : 0 < moved.threadJoins → s.job.worker = .completed)
    (hreturned : phase = .returned ∨ s.joined = true → moved.joined = true)
    (hwaiting : phase = .waiting ∨ s.joinInProgress = true → moved.joinInProgress = true) :
    Orderly moved where
  lawful := hjob ▸ h.lawful
  chosen := by
    have hcount := count_move hfound phase JoinPhase.chosen
    unfold count
    rw [hjoiners]
    omega
  joins := by
    have hcount := count_move hfound phase fun phase => phase = .threadJoined
    simp only [decide_eq_true_eq] at hcount
    show moved.threadJoins =
      moved.joiners.countP (fun joiner => joiner.phase = .threadJoined) + moved.joined.toNat
    rw [hjoiners]
    omega
  ended hpos := hjob ▸ hover hpos
  returned other hmem hout := by
    obtain rfl | hbefore := mem_move (hjoiners ▸ hmem)
    · exact hreturned (.inl hout)
    · exact hreturned (.inr (h.returned other hbefore hout))
  waiting other hmem hwaits := by
    obtain rfl | hbefore := mem_move (hjoiners ▸ hmem)
    · exact hwaiting (.inl hwaits)
    · exact hwaiting (.inr (h.waiting other hbefore hwaits))
  alone := h.alone_move hfound hinside hquiet phase hjob hjoiners
  deleted hmoved := by
    rw [hdeleted, h.not_deleted hfound hinside] at hmoved
    exact absurd hmoved (by simp)

theorem Orderly.joinStep (h : Orderly s) {index : Nat} {joiner : Joiner}
    (hfound : s.joiners[index]? = some joiner) (hstep : joinStep index joiner s = some s') :
    Orderly s' := by
  have hmem : joiner ∈ s.joiners := List.mem_of_getElem? hfound
  have hchosen := h.chosen
  have hjoins := h.joins
  unfold JoinedJob.joinStep at hstep
  dsimp only at hstep
  split at hstep
  next call hphase =>
    split at hstep
    next hdone =>
      obtain rfl := Option.some.inj hstep
      refine h.moved hfound (by simp [hphase]) ?_ .called rfl rfl rfl ?_ ?_ h.ended ?_ ?_
      · intro made call' hmade hcall
        obtain rfl : call = made := by simpa [hphase] using hmade
        simpa [hcall] using hdone
      · simp [hphase, JoinPhase.chosen, move, hchosen]
      · simp [hphase, move, hjoins]
      · exact fun hout => hout.resolve_left (by simp)
      · exact fun hwaits => hwaits.resolve_left (by simp)
    next => simp at hstep
  next hphase =>
    have hquiet : ∀ made call, joiner.phase = .cancelling made → s.job.calls[made]? = some call →
        call.phase = .done := by simp [hphase]
    split at hstep
    next hjoined =>
      obtain rfl := Option.some.inj hstep
      refine h.moved hfound (by simp [hphase]) hquiet .returned rfl rfl rfl ?_ ?_ h.ended ?_ ?_
      · simp [hphase, JoinPhase.chosen, move, hchosen]
      · simp [hphase, move, hjoins]
      · exact fun _ => hjoined
      · exact fun hwaits => hwaits.resolve_left (by simp)
    next hjoined =>
      split at hstep
      next hprogress =>
        obtain rfl := Option.some.inj hstep
        refine h.moved hfound (by simp [hphase]) hquiet .waiting rfl rfl rfl ?_ ?_ h.ended ?_ ?_
        · simp [hphase, JoinPhase.chosen, move, hchosen]
        · simp [hphase, move, hjoins]
        · exact fun hout => hout.resolve_left (by simp)
        · exact fun _ => hprogress
      next hprogress =>
        obtain rfl := Option.some.inj hstep
        rw [Bool.not_eq_true] at hjoined hprogress
        refine h.moved hfound (by simp [hphase]) hquiet .joining rfl rfl rfl ?_ ?_ h.ended ?_ ?_
        · simp [hphase, JoinPhase.chosen, move, hprogress, hjoined] at hchosen ⊢
          omega
        · simp [hphase, move, hjoins]
        · exact fun hout => hout.resolve_left (by simp)
        · exact fun _ => rfl
  next hphase =>
    have hquiet : ∀ made call, joiner.phase = .cancelling made → s.job.calls[made]? = some call →
        call.phase = .done := by simp [hphase]
    split at hstep
    next hcompleted =>
      obtain rfl := Option.some.inj hstep
      refine h.moved hfound (by simp [hphase]) hquiet .threadJoined rfl rfl rfl ?_ ?_ ?_ ?_ ?_
      · simp [hphase, JoinPhase.chosen, move] at hchosen ⊢
        omega
      · simp [hphase, move] at hjoins ⊢
        omega
      · exact fun _ => hcompleted
      · exact fun hout => hout.resolve_left (by simp)
      · exact fun hwaits => hwaits.resolve_left (by simp)
    next => simp at hstep
  next hphase =>
    have hquiet : ∀ made call, joiner.phase = .cancelling made → s.job.calls[made]? = some call →
        call.phase = .done := by simp [hphase]
    have hone : 0 < s.count JoinPhase.chosen :=
      List.countP_pos_iff.mpr ⟨joiner, hmem, by simp [hphase, JoinPhase.chosen]⟩
    have hle := Bool.toNat_le s.joinInProgress
    -- the chosen one is alone, so nobody else has set the flag
    have hfirst : s.joined = false := by
      rw [← Bool.toNat_eq_zero]
      omega
    obtain rfl := Option.some.inj hstep
    refine h.moved hfound (by simp [hphase]) hquiet .returned rfl rfl rfl ?_ ?_ h.ended ?_ ?_
    · simp [hphase, JoinPhase.chosen, move, hfirst] at hchosen ⊢
      omega
    · simp [hphase, move, hfirst] at hjoins ⊢
      omega
    · exact fun _ => rfl
    · exact fun hwaits => hwaits.resolve_left (by simp)
  next hphase =>
    have hquiet : ∀ made call, joiner.phase = .cancelling made → s.job.calls[made]? = some call →
        call.phase = .done := by simp [hphase]
    split at hstep
    next hjoined =>
      obtain rfl := Option.some.inj hstep
      refine h.moved hfound (by simp [hphase]) hquiet .returned rfl rfl rfl ?_ ?_ h.ended ?_ ?_
      · simp [hphase, JoinPhase.chosen, move, hchosen]
      · simp [hphase, move, hjoins]
      · exact fun _ => hjoined
      · exact fun hwaits => hwaits.resolve_left (by simp)
    next => simp at hstep
  next hphase =>
    split at hstep
    next hdeletes =>
      obtain rfl := Option.some.inj hstep
      have hdestroys : joiner.destroys = true := by simp_all
      exact
        { lawful := h.lawful, chosen := h.chosen, joins := h.joins, ended := h.ended
          returned := h.returned, waiting := h.waiting
          alone := fun index joiner hfound hdestroys =>
            ⟨(h.alone index joiner hfound hdestroys).others,
              (h.alone index joiner hfound hdestroys).quiet⟩
          deleted := fun _ => ⟨joiner, hmem, hdestroys, hphase⟩ }
    next => simp at hstep

/-- A joiner comes in; nobody destroys. -/
theorem Orderly.join (h : Orderly s) (hnobody : s.destroying = false) :
    Orderly { s with joiners := s.joiners ++ [{ phase := .called }] } where
  lawful := h.lawful
  chosen := by
    have hchosen := h.chosen
    simp only [count, countP_snoc] at hchosen ⊢
    simpa [JoinPhase.chosen] using hchosen
  joins := by
    have hjoins := h.joins
    simp only [count, countP_snoc] at hjoins ⊢
    simpa using hjoins
  ended := h.ended
  returned joiner hmem hout := by
    obtain hmem | rfl := List.mem_append.mp hmem |>.imp_right List.mem_singleton.mp
    · exact h.returned joiner hmem hout
    · exact absurd hout (by simp)
  waiting joiner hmem hwaits := by
    obtain hmem | rfl := List.mem_append.mp hmem |>.imp_right List.mem_singleton.mp
    · exact h.waiting joiner hmem hwaits
    · exact absurd hwaits (by simp)
  alone index joiner hfound hdestroys := by
    unfold destroying at hnobody
    obtain hold | rfl := getElem?_snoc_cases hfound
    · rw [List.any_eq_false] at hnobody
      exact absurd hdestroys (by simpa using hnobody joiner (List.mem_of_getElem? hold))
    · exact absurd hdestroys (by simp)
  deleted hdeleted := by
    obtain ⟨joiner, hmem, hdestroys, hout⟩ := h.deleted hdeleted
    exact ⟨joiner, List.mem_append_left _ hmem, hdestroys, hout⟩

theorem destroy_lawful {job : JobState} (h : Lawful job) :
    Lawful (job.addCall .external .cancelRequested) :=
  h.step (show step (.requestCancel .external) job = _ by simp [step])

/-- The host destroys: its calls are over, and every joiner is out. -/
theorem Orderly.destroy (h : Orderly s) (hnobody : s.destroying = false)
    (hout : ∀ joiner ∈ s.joiners, joiner.phase = .returned)
    (hidle : s.job.idle .external = true) :
    Orderly
      { s with
        job := s.job.addCall .external .cancelRequested
        joiners := s.joiners ++
          [{ destroys := true, phase := .cancelling s.job.calls.length }] } := by
  have hchosen := h.chosen
  have hjoins := h.joins
  have hnone : ∀ joiner ∈ s.joiners, joiner.destroys = false := by
    unfold destroying at hnobody
    rw [List.any_eq_false] at hnobody
    intro joiner hmem
    simpa using hnobody joiner hmem
  refine ⟨destroy_lawful h.lawful, ?_, ?_, h.ended, ?_, ?_, ?_, ?_⟩
  · simp only [count, countP_snoc] at hchosen ⊢
    simpa [JoinPhase.chosen] using hchosen
  · simp only [count, countP_snoc] at hjoins ⊢
    simpa using hjoins
  · intro joiner hmem hphase
    obtain hmem | rfl := List.mem_append.mp hmem |>.imp_right List.mem_singleton.mp
    · exact h.returned joiner hmem hphase
    · exact absurd hphase (by simp)
  · intro joiner hmem hphase
    obtain hmem | rfl := List.mem_append.mp hmem |>.imp_right List.mem_singleton.mp
    · exact h.waiting joiner hmem hphase
    · exact absurd hphase (by simp)
  · intro index joiner hfound hdestroys
    rw [List.getElem?_append] at hfound
    split at hfound
    next hold =>
      have hmem := List.mem_of_getElem? hfound
      rw [hnone joiner hmem] at hdestroys
      exact absurd hdestroys (by simp)
    next hnew =>
      obtain rfl : joiner = _ := List.mem_singleton.mp (List.mem_of_getElem? hfound)
      have hplace : index = s.joiners.length := by
        have hlt := (List.getElem?_eq_some_iff.mp hfound).1
        simp at hlt
        omega
      refine ⟨fun other joiner' hother hfound' => ?_, fun made call hcall hexternal => ?_⟩
      · rw [List.getElem?_append] at hfound'
        split at hfound'
        · have hmem := List.mem_of_getElem? hfound'
          exact ⟨hout joiner' hmem, hnone joiner' hmem⟩
        · have hlt := (List.getElem?_eq_some_iff.mp hfound').1
          simp at hlt
          omega
      · unfold JobState.addCall at hcall
        dsimp only at hcall
        rw [List.getElem?_append] at hcall
        split at hcall
        · exact .inl (done_of_idle hidle (List.mem_of_getElem? hcall) hexternal)
        · have hlt := (List.getElem?_eq_some_iff.mp hcall).1
          simp at hlt
          exact .inr (congrArg JoinPhase.cancelling (by omega))
  · intro hdeleted
    obtain ⟨joiner, hmem, hdestroys, -⟩ := h.deleted hdeleted
    rw [hnone joiner hmem] at hdestroys
    exact absurd hdestroys (by simp)

theorem Orderly.step (h : Orderly s) {event : JoinEvent} (hstep : joinedStep event s = some s') :
    Orderly s' := by
  cases event with
  | job event =>
    unfold joinedStep at hstep
    dsimp only at hstep
    split at hstep
    next => simp at hstep
    next hallowed =>
      obtain ⟨job, hjob, rfl⟩ := Option.map_eq_some_iff.mp hstep
      refine h.job hjob fun hdestroying => ?_
      simpa [hdestroying] using hallowed
  | join =>
    unfold joinedStep at hstep
    dsimp only at hstep
    split at hstep
    next => simp at hstep
    next hnobody =>
      obtain rfl := Option.some.inj hstep
      exact h.join (by simpa using hnobody)
  | selfJoin =>
    unfold joinedStep at hstep
    dsimp only at hstep
    split at hstep
    next => exact Option.some.inj hstep ▸ h
    next => simp at hstep
  | destroy =>
    unfold joinedStep at hstep
    dsimp only at hstep
    split at hstep
    next => simp at hstep
    next hallowed =>
      obtain rfl := Option.some.inj hstep
      simp only [Bool.or_eq_true, Bool.not_eq_true', not_or, Bool.not_eq_false,
        List.all_eq_true, decide_eq_true_eq] at hallowed
      exact h.destroy (by simpa using hallowed.1.1) hallowed.1.2 hallowed.2
  | joiner index =>
    unfold joinedStep at hstep
    dsimp only at hstep
    split at hstep
    next joiner hfound => exact h.joinStep hfound hstep
    next => simp at hstep

/-! ## What a join stands for -/

/-- A joiner that is out knows that the worker is. -/
theorem Orderly.completed (h : Orderly s) {joiner : Joiner} (hmem : joiner ∈ s.joiners)
    (hout : joiner.phase = .returned) : s.job.worker = .completed := by
  have hjoins := h.joins
  rw [h.returned joiner hmem hout, Bool.toNat_true] at hjoins
  exact h.ended (by omega)

/-- Nothing of a completed job goes on but the calls of its host. -/
theorem done_of_completed {job : JobState} (h : Lawful job) (hcompleted : job.worker = .completed)
    {call : Call} (hcall : call ∈ job.calls) (hinside : call.origin ≠ .external) :
    call.phase = .done := by
  have hrank : ¬Live job := fun hlive => by
    have hlt := hlive.2
    rw [hcompleted] at hlt
    exact absurd hlt (by decide)
  by_contra hactive
  cases horigin : call.origin with
  | external => exact hinside horigin
  | body =>
    have hplaced := h.placed call hcall
    simp only [Placed, horigin, hcompleted, WorkerPhase.hasBody] at hplaced
    exact hactive (hplaced.resolve_right (by simp))
  | expiry =>
    have hplaced := h.placed call hcall
    simp only [Placed, horigin] at hplaced
    refine hrank (h.live_of_watchdog ?_)
    rw [hplaced.resolve_left hactive]
    simp
  | hook =>
    have hplaced := h.placed call hcall
    simp only [Placed, horigin] at hplaced
    exact hrank (h.live_of_inHook (hplaced.resolve_left hactive).1)

/-- Nobody inside a completed job can make a call. -/
theorem not_calling_of_completed {job : JobState} (h : Lawful job)
    (hcompleted : job.worker = .completed) (origin : Origin) : calling job origin = false := by
  rw [← Bool.not_eq_true]
  intro hcalling
  have hlive : Live job := by
    cases origin with
    | external => simp [calling] at hcalling
    | body => simp [calling, hcompleted, WorkerPhase.hasBody] at hcalling
    | expiry =>
      refine h.live_of_watchdog ?_
      simp only [calling, decide_eq_true_eq] at hcalling
      simp [hcalling]
    | hook =>
      obtain ⟨call, hcall, hin⟩ := List.any_eq_true.mp hcalling
      exact h.live_of_inHook (count_pos hcall hin)
  have hlt := hlive.2
  rw [hcompleted] at hlt
  exact absurd hlt (by decide)

/-- A completed job whose calls are over takes no step but for its host. -/
theorem step_of_completed {job : JobState} (h : Lawful job) (hcompleted : job.worker = .completed)
    (hcalls : ∀ call ∈ job.calls, call.phase = .done) {event : Event}
    (hcancels : event.cancels = false) : ProviderJob.step event job = none := by
  have hcalling := not_calling_of_completed h hcompleted
  have hwatchdog : job.watchdog = none := h.joined (by rw [hcompleted]; rfl)
  cases event with
  | start =>
    have hstarted : job.start = .returned := h.started (.inr (by simp [hcompleted]))
    simp [ProviderJob.step, hstarted]
  | worker => simp [ProviderJob.step, workerStep, hcompleted]
  | bodyEnds => simp [ProviderJob.step, hcompleted]
  | arm => simp [ProviderJob.step, hcompleted]
  | armFails => simp [ProviderJob.step, hcompleted]
  | watchdog => simp [ProviderJob.step, watchdogStep, hwatchdog]
  | timeout => simp [ProviderJob.step, hwatchdog]
  | requestCancel origin =>
    have hinside : origin ≠ .external := by
      rintro rfl
      exact absurd hcancels (by decide)
    simp [ProviderJob.step, hcalling, hinside]
  | onCancel origin hook => simp [ProviderJob.step, hcalling]
  | notifyDataset origin => simp [ProviderJob.step, hcalling]
  | call index =>
    cases hfound : job.calls[index]? with
    | none => simp [ProviderJob.step, hfound]
    | some call =>
      have hdone := hcalls call (List.mem_of_getElem? hfound)
      simp [ProviderJob.step, hfound, callStep, hdone]

/-- A freed job cannot take a step. -/
theorem Orderly.still (h : Orderly s) (hdeleted : s.deleted = true) (event : JoinEvent) :
    joinedStep event s = none := by
  obtain ⟨joiner, hmem, hdestroys, hout⟩ := h.deleted hdeleted
  obtain ⟨place, hplace⟩ := List.getElem?_of_mem hmem
  have halone := h.alone place joiner hplace hdestroys
  have hcompleted := h.completed hmem hout
  have hdestroying : s.destroying = true := List.any_eq_true.mpr ⟨joiner, hmem, hdestroys⟩
  have hcalls : ∀ call ∈ s.job.calls, call.phase = .done := by
    intro call hcall
    by_cases hexternal : call.origin = .external
    · obtain ⟨made, hmade⟩ := List.getElem?_of_mem hcall
      exact (halone.quiet made call hmade hexternal).resolve_right (by simp [hout])
    · exact done_of_completed h.lawful hcompleted hcall hexternal
  cases event with
  | job event =>
    cases hcancels : event.cancels with
    | true => simp [joinedStep, hdestroying, hcancels]
    | false =>
      simp [joinedStep, hcancels, step_of_completed h.lawful hcompleted hcalls hcancels]
  | join => simp [joinedStep, hdestroying]
  | selfJoin => simp [joinedStep, hcompleted, WorkerPhase.hasBody]
  | destroy => simp [joinedStep, hdestroying]
  | joiner index =>
    cases hfound : s.joiners[index]? with
    | none => simp [joinedStep, hfound]
    | some other =>
      have hreturned : other.phase = .returned := by
        by_cases hsame : index = place
        · subst hsame
          obtain rfl := Option.some.inj (hplace.symm.trans hfound)
          exact hout
        · exact (halone.others index other hsame hfound).1
      simp [joinedStep, hfound, JoinedJob.joinStep, hreturned, hdeleted]

/-- As long as joiners are inside a job that is over, one of them can go on: those that wait do
so for one that was chosen, and it does not wait. -/
theorem Orderly.progress (h : Orderly s) (hcompleted : s.job.worker = .completed)
    {joiner : Joiner} (hmem : joiner ∈ s.joiners) (hinside : joiner.phase ≠ .returned)
    (hjoins : ∀ made, joiner.phase ≠ .cancelling made) :
    ∃ index joiner, s.joiners[index]? = some joiner ∧ joiner.phase ≠ .returned ∧
      (joinedStep (.joiner index) s).isSome := by
  have hmoves : ∀ joiner ∈ s.joiners, joiner.phase.chosen = true →
      ∃ index joiner, s.joiners[index]? = some joiner ∧ joiner.phase ≠ .returned ∧
        (joinedStep (.joiner index) s).isSome := by
    intro joiner hmem hchosen
    obtain ⟨index, hfound⟩ := List.getElem?_of_mem hmem
    refine ⟨index, joiner, hfound, ?_, ?_⟩
    · intro hout
      simp [hout, JoinPhase.chosen] at hchosen
    · cases hphase : joiner.phase <;> simp [hphase, JoinPhase.chosen] at hchosen
      · simp [joinedStep, hfound, JoinedJob.joinStep, hphase, hcompleted]
      · simp [joinedStep, hfound, JoinedJob.joinStep, hphase]
  obtain ⟨index, hfound⟩ := List.getElem?_of_mem hmem
  cases hphase : joiner.phase with
  | cancelling made => exact absurd hphase (hjoins made)
  | called =>
    refine ⟨index, joiner, hfound, hinside, ?_⟩
    simp only [joinedStep, hfound, JoinedJob.joinStep, hphase]
    split
    · rfl
    · split <;> rfl
  | joining => exact hmoves joiner hmem (by simp [hphase, JoinPhase.chosen])
  | threadJoined => exact hmoves joiner hmem (by simp [hphase, JoinPhase.chosen])
  | waiting =>
    cases hjoined : s.joined with
    | true =>
      refine ⟨index, joiner, hfound, hinside, ?_⟩
      simp [joinedStep, hfound, JoinedJob.joinStep, hphase, hjoined]
    | false =>
      have hone : 0 < s.count JoinPhase.chosen := by
        have hchosen := h.chosen
        rw [hjoined, h.waiting joiner hmem hphase] at hchosen
        simp at hchosen
        omega
      obtain ⟨other, hother, hchosen⟩ := List.countP_pos_iff.mp hone
      exact hmoves other hother hchosen
  | returned => exact absurd hphase hinside

/-- What `on_terminal` and the provider's code come to in a completed job. -/
theorem terminal_of_completed {job : JobState} (h : Lawful job)
    (hcompleted : job.worker = .completed) :
    job.log.count .terminal = 1 ∧ userCodeRunning job = false := by
  constructor
  · obtain ⟨earlier, hlog, hfirst⟩ := h.ended.after (by rw [hcompleted]; decide)
    rw [hlog, List.count_append, List.count_eq_zero.mpr hfirst]
    rfl
  · rw [← Bool.not_eq_true]
    intro hrunning
    have hlt := (live_of_userCode h hrunning).2
    rw [hcompleted] at hlt
    exact absurd hlt (by decide)

/-- In every state of every run: `std::thread::join` has returned once at most; a join that has
returned was returned from after `on_terminal`, which was called once, and none of the
provider's code is running; when the state is freed nothing that could touch it is left, not a
step of the job nor of a joiner; and as long as joiners are inside a job that is over, one of
them can go on. -/
theorem join_protocol {outJob body spawned : Bool} {callbacks : Option Callbacks}
    {initial : JobState} {events : List JoinEvent} {s : JoinedJob}
    (hstart : startJob outJob body callbacks spawned = .ok initial)
    (hrun : run joinedStep events { job := initial } = some s) :
    s.threadJoins ≤ 1 ∧
    (∀ joiner ∈ s.joiners, joiner.phase = .returned →
      s.job.worker = .completed ∧ s.job.log.count .terminal = 1 ∧
        userCodeRunning s.job = false) ∧
    (s.deleted = true → ∀ event, joinedStep event s = none) ∧
    (s.job.worker = .completed → (∃ joiner ∈ s.joiners, joiner.phase ≠ .returned ∧
        ∀ made, joiner.phase ≠ .cancelling made) →
      ∃ index joiner, s.joiners[index]? = some joiner ∧ joiner.phase ≠ .returned ∧
        (joinedStep (.joiner index) s).isSome) := by
  have horderly : Orderly s :=
    run_keeps Orderly (fun _ _ _ h hstep => h.step hstep)
      (orderly_initial (startJob_lawful hstart)) hrun
  refine ⟨?_, fun joiner hmem hout => ?_, horderly.still, ?_⟩
  · have hchosen := horderly.chosen
    have hjoins := horderly.joins
    have hle := Bool.toNat_le s.joinInProgress
    have hpart : (s.count fun phase => phase = .threadJoined) ≤ s.count JoinPhase.chosen := by
      refine List.countP_mono_left fun joiner _ hphase => ?_
      simp only [decide_eq_true_eq] at hphase
      simp [hphase, JoinPhase.chosen]
    omega
  · have hcompleted := horderly.completed hmem hout
    exact ⟨hcompleted, terminal_of_completed horderly.lawful hcompleted⟩
  · rintro hcompleted ⟨joiner, hmem, hinside, hjoins⟩
    exact horderly.progress hcompleted hmem hinside hjoins

/-- Two threads join a job, and the host destroys it then. -/
def freedRun : List JoinEvent :=
  [.job .start, .job .start, .job .start, .join, .joiner 0, .join, .joiner 1, .job .worker,
    .job .worker, .selfJoin, .job .bodyEnds, .job .worker, .job .worker, .job .worker, .job .worker,
    .job .worker, .job .worker, .job .worker, .joiner 0, .joiner 0, .joiner 1, .destroy,
    .job (.call 0), .job (.call 0), .joiner 2, .joiner 2, .joiner 2]

def freedJob : JoinedJob where
  job :=
    { start := .returned, worker := .completed, cancelled := true, terminalFired := true
      hookFired := true, watchdogStop := true, calls := [⟨.external, .done⟩], log := [.terminal] }
  joinInProgress := true
  joined := true
  joiners := [⟨false, .returned⟩, ⟨false, .returned⟩, ⟨true, .returned⟩]
  threadJoins := 1
  deleted := true

theorem join_protocol_freed :
    run joinedStep freedRun { job := {} } = some freedJob ∧
      ∀ event, joinedStep event freedJob = none := by
  have hrun : run joinedStep freedRun { job := {} } = some freedJob := by decide
  have hstart : startJob true true (some ⟨24, false, true⟩) true = .ok ({} : JobState) := rfl
  exact ⟨hrun, (join_protocol hstart hrun).2.2.1 rfl⟩

end JoinedJob

end ProviderJob

end PlotJugglerSdk
