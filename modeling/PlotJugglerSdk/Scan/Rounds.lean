/-!
# Loops with rounds

A scanner's loop runs while there is input. As a function it takes a number of rounds
and says `unfinished` when those run out, which is no failure of the scanner's own. That
a scan `Finishes` whenever it has as many rounds as there are bytes is what its
termination comes to.

* `ScanError`, `fail`          — how a scan can fail
* `bind_ok`, `Finishes.bind`   — a scan step by step
* `Avoids`                     — a failure that is not one with a certain text
-/

namespace Scan

/-- Why a scan fails: for the reason the source gives, or for want of rounds. -/
inductive ScanError where
  | status (message : String)
  | unfinished
  deriving DecidableEq

def fail {α : Type} (message : String) : Except ScanError α := .error (.status message)

theorem toOption_eq_some {α : Type} {result : Except ScanError α} {value : α} :
    result.toOption = some value ↔ result = .ok value := by
  cases result with
  | error e =>
    constructor
    · intro h
      cases h
    · intro h
      cases h
  | ok other =>
    constructor
    · intro h
      rw [Option.some.inj h]
    · intro h
      rw [Except.ok.inj h]
      rfl

/-! ## Scans that finish -/

/-- The scan did not run out of rounds. -/
def Finishes {α : Type} (result : Except ScanError α) : Prop := result ≠ .error .unfinished

theorem finishes_ok {α : Type} (value : α) : Finishes (.ok value) := by
  intro h
  cases h

theorem finishes_fail {α : Type} (message : String) :
    Finishes (fail message : Except ScanError α) := by
  intro h
  cases h

theorem Finishes.bind {α β : Type} {result : Except ScanError α} {next : α → Except ScanError β}
    (h : Finishes result) (hnext : ∀ value, result = .ok value → Finishes (next value)) :
    Finishes (result >>= next) := by
  cases result with
  | error e =>
    intro hfail
    exact h (congrArg Except.error (Except.error.inj hfail))
  | ok value => exact hnext value rfl

/-! ## Scans that fail for other reasons -/

/-- The scan did not fail with this text. -/
def Avoids {α : Type} (message : String) (result : Except ScanError α) : Prop :=
  result ≠ .error (.status message)

theorem avoids_ok {α : Type} (message : String) (value : α) : Avoids message (.ok value) := by
  intro h
  cases h

theorem avoids_fail {α : Type} {message other : String} (h : other ≠ message) :
    Avoids message (fail other : Except ScanError α) := by
  intro hfail
  exact h (ScanError.status.inj (Except.error.inj hfail))

theorem Avoids.bind {α β : Type} {message : String} {result : Except ScanError α}
    {next : α → Except ScanError β} (h : Avoids message result)
    (hnext : ∀ value, Avoids message (next value)) : Avoids message (result >>= next) := by
  cases result with
  | error e =>
    intro hfail
    exact h (congrArg Except.error (Except.error.inj hfail))
  | ok value => exact hnext value

/-! ## Step by step -/

theorem bind_ok {α β : Type} {result : Except ScanError α} {next : α → Except ScanError β}
    {value : β} (h : (result >>= next) = .ok value) :
    ∃ first, result = .ok first ∧ next first = .ok value := by
  cases result with
  | error e => cases h
  | ok first => exact ⟨first, rfl, h⟩

end Scan
