import Mathlib.Algebra.Group.Nat.Defs
import Mathlib.Data.List.Induction
import Mathlib.Tactic.SplitIfs

/-!
# Clients of a callback

Foreign code that is handed a callback calls it as often as it likes, sees every answer, and
returns. Such a client is a tree; what it does against a handler with a state of its own is
one exchange.

* `Client.against`        — the exchange with a handler
* `against_mapResult`     — the same exchange under another reading of its end
* `against_state`         — the handler's state only depends on the calls that were made
* `against_congr`         — handlers that answer alike are not told apart
* `foldl_counter`         — a counter of 32 bits, and `turns`, the calls that find it at zero
-/

namespace Calls

variable {Call Call' Answer Result Result' State State' : Type}

inductive Client (Call Answer Result : Type) where
  | finish (result : Result)
  | call (c : Call) (next : Answer → Client Call Answer Result)

/-- What happened: the calls in their order, the handler's state after them, and what the
client returned. -/
structure Exchange (Call State Result : Type) where
  calls : List Call
  state : State
  result : Result

namespace Client

def against (handle : State → Call → Answer × State) :
    Client Call Answer Result → State → Exchange Call State Result
  | .finish result, state => ⟨[], state, result⟩
  | .call c next, state =>
    let rest := (next (handle state c).1).against handle (handle state c).2
    { rest with calls := c :: rest.calls }

/-- A client of a poorer callback, seen as one of a richer. -/
def mapCall (f : Call → Call') : Client Call Answer Result → Client Call' Answer Result
  | .finish result => .finish result
  | .call c next => .call (f c) fun answer => (next answer).mapCall f

/-- A client whose result is read off. -/
def mapResult (f : Result → Result') : Client Call Answer Result → Client Call Answer Result'
  | .finish result => .finish (f result)
  | .call c next => .call c fun answer => (next answer).mapResult f

end Client

/-- Reading the result off does not change what the client does. -/
theorem against_mapResult (handle : State → Call → Answer × State) (f : Result → Result')
    (client : Client Call Answer Result) (state : State) :
    (client.mapResult f).against handle state =
      { calls := (client.against handle state).calls
        state := (client.against handle state).state
        result := f (client.against handle state).result } := by
  induction client generalizing state with
  | finish result => rfl
  | call c next ih => simp only [Client.mapResult, Client.against, ih]

theorem against_state (handle : State → Call → Answer × State) (client : Client Call Answer Result)
    (state : State) :
    (client.against handle state).state =
      (client.against handle state).calls.foldl (fun state c => (handle state c).2) state := by
  induction client generalizing state with
  | finish result => rfl
  | call c next ih => exact ih (handle state c).1 (handle state c).2

/-- Two handlers whose states stay related and that give the same answers have the same
exchange with a client. -/
theorem against_congr {handle : State → Call → Answer × State}
    {handle' : State' → Call → Answer × State'} {Related : State → State' → Prop}
    (hstep : ∀ state state' c, Related state state' →
      (handle state c).1 = (handle' state' c).1 ∧
        Related (handle state c).2 (handle' state' c).2)
    (client : Client Call Answer Result) {state : State} {state' : State'}
    (h : Related state state') :
    (client.against handle state).calls = (client.against handle' state').calls ∧
      (client.against handle state).result = (client.against handle' state').result ∧
      Related (client.against handle state).state (client.against handle' state').state := by
  induction client generalizing state state' with
  | finish result => exact ⟨rfl, rfl, h⟩
  | call c next ih =>
    obtain ⟨hanswer, hrelated⟩ := hstep state state' c h
    obtain ⟨hcalls, hresult, hstate⟩ := ih (handle' state' c).1 hrelated
    -- the same answer, so the client goes on the same way
    unfold Client.against
    rw [hanswer]
    exact ⟨congrArg (c :: ·) hcalls, hresult, hstate⟩

/-! ## Counted calls -/

/-- The calls that a handler counting its calls in 32 bits takes for the first one. -/
def turns (calls : List Call) : List Call :=
  (calls.zipIdx.filter fun numbered => numbered.2 % 2 ^ 32 = 0).map Prod.fst

theorem turns_append_singleton (calls : List Call) (c : Call) :
    turns (calls ++ [c]) =
      if calls.length % 2 ^ 32 = 0 then turns calls ++ [c] else turns calls := by
  unfold turns
  rw [List.zipIdx_append, List.filter_append, List.map_append]
  rw [List.zipIdx_singleton, Nat.zero_add]
  split_ifs with h
  · rw [List.filter_cons_of_pos (by simpa only [decide_eq_true_eq] using h)]
    rfl
  · rw [List.filter_cons_of_neg (by simpa only [decide_eq_true_eq] using h)]
    exact List.append_nil _

theorem turns_singleton (c : Call) : turns [c] = [c] := rfl

theorem ofNat_add_one_eq_one_iff (n : Nat) : UInt32.ofNat n + 1 = 1 ↔ n % 2 ^ 32 = 0 := by
  rw [← UInt32.toNat_inj, UInt32.toNat_add, UInt32.toNat_ofNat', UInt32.toNat_one]
  omega

theorem ofNat_eq_one_iff (n : Nat) : UInt32.ofNat n = 1 ↔ n % 2 ^ 32 = 1 := by
  rw [← UInt32.toNat_inj, UInt32.toNat_ofNat', UInt32.toNat_one]

theorem foldl_counter {count : State → UInt32} {step : State → Call → State}
    (hstep : ∀ state c, count (step state c) = count state + 1) {state : State}
    (hstate : count state = 0) (calls : List Call) :
    count (calls.foldl step state) = UInt32.ofNat calls.length := by
  induction calls using List.reverseRecOn with
  | nil => exact hstate
  | append_singleton calls c ih =>
    rw [List.foldl_append, List.foldl_cons, List.foldl_nil, hstep, ih, List.length_append]
    exact (UInt32.ofNat_add calls.length 1).symm

end Calls
