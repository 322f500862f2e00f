import Mathlib.Data.List.AList
import Mathlib.Data.List.Induction
import PlotJugglerSdk.Concurrency.Runs
import PlotJugglerSdk.Host.ModuleInstance

/-!
# Strikes against the claims of a module

A host counts what a claim of a parser module does against its contract. Three such faults put
the claim in quarantine; a claim that was created anew has three more, and is then disabled for
good. Faults of the data are of no account, and no claim is charged with another's.

* `state_run`      — a claim is told by the marks made of it alone
* `health_run`     — when it is in quarantine, and when it is disabled
-/

namespace PlotJugglerSdk

open Wire

structure ParserModuleClaimKey where
  moduleId : Bytes
  claimId : Bytes
  deriving DecidableEq

inductive ParserModuleClaimHealth where
  | active
  | quarantined
  | disabled
  deriving DecidableEq

structure ParserModuleStrikeState where
  health : ParserModuleClaimHealth := .active
  strikes : UInt8 := 0
  quarantineCount : UInt8 := 0
  deriving DecidableEq

/-- The order of the map is not looked at. -/
structure ParserModuleStrikeTracker where
  states : AList fun _ : ParserModuleClaimKey => ParserModuleStrikeState := ∅

/-- One more strike against a claim. -/
def ParserModuleStrikeState.strike (state : ParserModuleStrikeState) : ParserModuleStrikeState :=
  let strikes := state.strikes + 1
  if strikes = 3 then
    let quarantineCount := state.quarantineCount + 1
    { health := if quarantineCount = 1 then .quarantined else .disabled
      strikes := 0
      quarantineCount }
  else { state with strikes }

namespace ParserModuleStrikeTracker

def state (self : ParserModuleStrikeTracker) (key : ParserModuleClaimKey) :
    ParserModuleStrikeState :=
  (self.states.lookup key).getD {}

def recordFault (self : ParserModuleStrikeTracker) (key : ParserModuleClaimKey)
    (fault : ParserModuleFaultKind) : ParserModuleStrikeState × ParserModuleStrikeTracker :=
  -- a key that is new is put in before the fault is looked at
  let state := (self.states.lookup key).getD {}
  let after :=
    if fault ≠ .contractViolation ∨ state.health ≠ .active then state else state.strike
  (after, { states := self.states.insert key after })

def markRecreated (self : ParserModuleStrikeTracker) (key : ParserModuleClaimKey) :
    Bool × ParserModuleStrikeTracker :=
  match self.states.lookup key with
  | none => (false, self)
  | some state =>
    if state.health ≠ .quarantined then (false, self)
    else (true, { states := self.states.insert key { state with health := .active } })

/-! ## Runs of a host -/

inductive Event where
  | recordFault (key : ParserModuleClaimKey) (fault : ParserModuleFaultKind)
  | markRecreated (key : ParserModuleClaimKey)

def step (self : ParserModuleStrikeTracker) : Event → ParserModuleStrikeTracker
  | .recordFault key fault => (self.recordFault key fault).2
  | .markRecreated key => (self.markRecreated key).2

/-- What counts for one claim. -/
inductive Mark where
  | violation
  | recreated
  deriving DecidableEq

def Event.mark (key : ParserModuleClaimKey) : Event → Option Mark
  | .recordFault key' fault =>
    if key' = key ∧ fault = .contractViolation then some .violation else none
  | .markRecreated key' => if key' = key then some .recreated else none

/-- A claim under its marks. -/
def marked (state : ParserModuleStrikeState) : Mark → ParserModuleStrikeState
  | .violation => if state.health = .active then state.strike else state
  | .recreated =>
    if state.health = .quarantined then { state with health := .active } else state

theorem state_insert (self : ParserModuleStrikeTracker) (key key' : ParserModuleClaimKey)
    (after : ParserModuleStrikeState) :
    ({ states := self.states.insert key' after } : ParserModuleStrikeTracker).state key =
      if key = key' then after else self.state key := by
  unfold state
  by_cases h : key = key'
  · rw [h, AList.lookup_insert, if_pos rfl, Option.getD_some]
  · rw [AList.lookup_insert_ne h, if_neg h]

/-- One event, as a claim sees it. -/
theorem state_step (self : ParserModuleStrikeTracker) (event : Event) (key : ParserModuleClaimKey) :
    (self.step event).state key = (event.mark key).elim (self.state key) (marked (self.state key)) := by
  cases event with
  | recordFault key' fault =>
    simp only [step, recordFault, state_insert, Event.mark]
    by_cases hkey : key = key'
    · subst hkey
      by_cases hfault : fault = .contractViolation
      · by_cases hactive : (self.state key).health = .active <;>
          simp_all [state, marked]
      · simp [hfault, state]
    · simp [hkey, Ne.symm hkey]
  | markRecreated key' =>
    simp only [step, markRecreated, Event.mark]
    by_cases hkey : key = key'
    · subst hkey
      cases hlookup : self.states.lookup key with
      | none => simp [state, hlookup, marked]
      | some held =>
        have hheld : self.state key = held := by simp [state, hlookup]
        by_cases hhealth : held.health = .quarantined
        · simp [hhealth, state_insert, hheld, marked]
        · simp [hhealth, hheld, marked]
    · cases hlookup : self.states.lookup key' with
      | none => simp [Ne.symm hkey]
      | some held =>
        by_cases hhealth : held.health = .quarantined
        · simp [hhealth, state_insert, hkey, Ne.symm hkey]
        · simp [hhealth, Ne.symm hkey]

/-- After any run, a claim is what its own marks make of a claim without any. -/
theorem state_run (events : List Event) (key : ParserModuleClaimKey) :
    (events.foldl step {}).state key = (events.filterMap (Event.mark key)).foldl marked {} := by
  induction events using List.reverseRecOn with
  | nil => rfl
  | append_singleton events event ih =>
    rw [List.foldl_append, List.foldl_cons, List.foldl_nil, state_step, ih, List.filterMap_append,
      List.foldl_append]
    cases hmark : event.mark key <;> simp [hmark]

/-! ## When a claim is out -/

/-- Three violations, a new creation, and three more. -/
def StruckOut (marks : List Mark) : Prop :=
  ∃ front back, marks = front ++ .recreated :: back ∧
    3 ≤ front.count .violation ∧ 3 ≤ back.count .violation

/-- Three violations, and no new creation since. -/
def Waiting (marks : List Mark) : Prop :=
  3 ≤ marks.count .violation ∧
    ∀ front back, marks = front ++ .recreated :: back → front.count .violation < 3

/-- Where a claim stands after some marks. -/
inductive Stands : List Mark → ParserModuleStrikeState → Prop
  | fresh {marks : List Mark} (h : marks.count .violation < 3) :
    Stands marks ⟨.active, UInt8.ofNat (marks.count .violation), 0⟩
  | quarantined {marks : List Mark} (h : Waiting marks) : Stands marks ⟨.quarantined, 0, 1⟩
  | recreated {front back : List Mark} (hfront : Waiting front)
    (h : back.count .violation < 3) :
    Stands (front ++ .recreated :: back) ⟨.active, UInt8.ofNat (back.count .violation), 1⟩
  | disabled {marks : List Mark} (h : StruckOut marks) : Stands marks ⟨.disabled, 0, 2⟩

theorem strike_of_lt {count : Nat} (h : count < 2) (quarantineCount : UInt8) :
    (ParserModuleStrikeState.mk .active (UInt8.ofNat count) quarantineCount).strike =
      ⟨.active, UInt8.ofNat (count + 1), quarantineCount⟩ := by
  obtain rfl | rfl : count = 0 ∨ count = 1 := by omega
  · rfl
  · rfl

theorem StruckOut.snoc {marks : List Mark} (h : StruckOut marks) (mark : Mark) :
    StruckOut (marks ++ [mark]) := by
  obtain ⟨front, back, rfl, hfront, hback⟩ := h
  refine ⟨front, back ++ [mark], by simp, hfront, ?_⟩
  rw [List.count_append]
  omega

/-- A violation makes no new creation. -/
theorem Waiting.snoc {marks : List Mark} (h : Waiting marks) : Waiting (marks ++ [.violation]) := by
  refine ⟨?_, fun front back hsplit => ?_⟩
  · rw [List.count_append]
    have hcount := h.1
    omega
  · obtain ⟨heq, -, -⟩ | ⟨earlier, -, hbefore⟩ := Runs.split_snoc hsplit
    · cases heq
    · exact h.2 front earlier hbefore

/-- The third violation, before which there were two. -/
theorem waiting_third {marks : List Mark} (h : marks.count .violation = 2) :
    Waiting (marks ++ [.violation]) := by
  refine ⟨by simp [h], fun front back hsplit => ?_⟩
  obtain ⟨heq, -, -⟩ | ⟨earlier, -, rfl⟩ := Runs.split_snoc hsplit
  · cases heq
  · rw [List.count_append] at h
    omega

theorem Stands.step {marks : List Mark} {state : ParserModuleStrikeState} (h : Stands marks state)
    (mark : Mark) : Stands (marks ++ [mark]) (marked state mark) := by
  cases h with
  | fresh hcount =>
    cases mark with
    | violation =>
      by_cases hthird : marks.count .violation = 2
      · have hstruck : marked ⟨.active, UInt8.ofNat (marks.count .violation), 0⟩ .violation =
            ⟨.quarantined, 0, 1⟩ := by
          rw [hthird]
          decide
        rw [hstruck]
        exact .quarantined (waiting_third hthird)
      · have hafter : (marks ++ [Mark.violation]).count .violation =
            marks.count .violation + 1 := by simp
        have hstrike := strike_of_lt (show marks.count .violation < 2 by omega) 0
        rw [marked, if_pos rfl, hstrike, ← hafter]
        exact .fresh (by omega)
    | recreated =>
      have hafter : (marks ++ [Mark.recreated]).count .violation = marks.count .violation := by
        simp
      rw [marked, if_neg (by simp), ← hafter]
      exact .fresh (by omega)
  | quarantined hwaiting =>
    cases mark with
    | violation => exact .quarantined hwaiting.snoc
    | recreated => exact .recreated hwaiting (show [].count Mark.violation < 3 by simp)
  | @recreated front back hfront hcount =>
    rw [List.append_assoc, List.cons_append]
    cases mark with
    | violation =>
      by_cases hthird : back.count .violation = 2
      · have hstruck : marked ⟨.active, UInt8.ofNat (back.count .violation), 1⟩ .violation =
            ⟨.disabled, 0, 2⟩ := by
          rw [hthird]
          decide
        rw [hstruck]
        exact .disabled ⟨front, back ++ [.violation], rfl, hfront.1, by simp [hthird]⟩
      · have hafter : (back ++ [Mark.violation]).count .violation =
            back.count .violation + 1 := by simp
        have hstrike := strike_of_lt (show back.count .violation < 2 by omega) 1
        rw [marked, if_pos rfl, hstrike, ← hafter]
        exact .recreated hfront (by omega)
    | recreated =>
      have hafter : (back ++ [Mark.recreated]).count .violation = back.count .violation := by
        simp
      rw [marked, if_neg (by simp), ← hafter]
      exact .recreated hfront (by omega)
  | disabled hout =>
    cases mark with
    | violation => exact .disabled (hout.snoc _)
    | recreated => exact .disabled (hout.snoc _)

theorem stands_run (marks : List Mark) : Stands marks (marks.foldl marked {}) := by
  induction marks using List.reverseRecOn with
  | nil => exact .fresh (show [].count Mark.violation < 3 by simp)
  | append_singleton marks mark ih =>
    rw [List.foldl_append]
    exact ih.step mark

/-- What comes after a new creation of a claim that waits for one: less than three more, and it
is neither out nor waiting. -/
theorem not_out_of_recreated {front back : List Mark} (hfront : Waiting front)
    (hback : back.count .violation < 3) :
    ¬StruckOut (front ++ .recreated :: back) ∧ ¬Waiting (front ++ .recreated :: back) := by
  refine ⟨?_, fun hwaiting => absurd hfront.1 (Nat.not_le.mpr (hwaiting.2 front back rfl))⟩
  rintro ⟨front', back', hsplit, hbefore, hafter⟩
  -- the creations after three violations begin with this one
  obtain ⟨between, rfl, hrest⟩ | ⟨between, rfl, hrest⟩ := List.append_eq_append_iff.mp hsplit
  · cases between with
    | nil =>
      obtain ⟨-, rfl⟩ := List.cons.inj hrest
      omega
    | cons next between =>
      have hsuffix : back = between ++ .recreated :: back' := (List.cons.inj hrest).2
      rw [hsuffix, List.count_append, List.count_cons_of_ne (by decide)] at hback
      omega
  · cases between with
    | nil =>
      obtain ⟨-, rfl⟩ := List.cons.inj hrest
      omega
    | cons next between =>
      obtain ⟨rfl, -⟩ := List.cons.inj hrest
      exact absurd hbefore (Nat.not_le.mpr (hfront.2 front' between rfl))

/-- After any run of a host: a claim is disabled exactly if three violations, a new creation and
three more are among its marks, in this order, and in quarantine exactly if there were three and
it was not created anew since. -/
theorem health_run (events : List Event) (key : ParserModuleClaimKey) :
    let health := ((events.foldl step {}).state key).health
    let marks := events.filterMap (Event.mark key)
    (health = .disabled ↔ StruckOut marks) ∧ (health = .quarantined ↔ Waiting marks) := by
  intro health marks
  have hstands : Stands marks ((events.foldl step {}).state key) := by
    rw [state_run]
    exact stands_run marks
  have hexcludes : StruckOut marks → ¬Waiting marks := by
    rintro ⟨front, back, hsplit, hfront, -⟩ hwaiting
    exact absurd hfront (Nat.not_le.mpr (hwaiting.2 front back hsplit))
  have hhealth : health = ((events.foldl step {}).state key).health := rfl
  rw [hhealth]
  generalize (events.foldl step {}).state key = state at hstands
  clear_value marks
  cases hstands with
  | fresh hcount =>
    refine ⟨iff_of_false (by simp) ?_, iff_of_false (by simp) fun h => ?_⟩
    · rintro ⟨front, back, rfl, hfront, -⟩
      rw [List.count_append] at hcount
      omega
    · exact absurd h.1 (Nat.not_le.mpr hcount)
  | quarantined hwaiting =>
    exact ⟨iff_of_false (by simp) fun h => hexcludes h hwaiting, iff_of_true rfl hwaiting⟩
  | recreated hfront hcount =>
    obtain ⟨hout, hwaiting⟩ := not_out_of_recreated hfront hcount
    exact ⟨iff_of_false (by simp) hout, iff_of_false (by simp) hwaiting⟩
  | disabled hout =>
    exact ⟨iff_of_true rfl hout, iff_of_false (by simp) (hexcludes hout)⟩

end ParserModuleStrikeTracker

end PlotJugglerSdk
