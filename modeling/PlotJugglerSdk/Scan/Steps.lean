import PlotJugglerSdk.Scan.Rounds

/-!
# Steps of a scanner

A scanner with a cursor: a step changes the cursor and may fail, and leaves the cursor where
it stands when it does. What holds of a step is said once for success and once for failure.

* `Ends`, `Ends.bind`          — what a result satisfies, and two steps
* `Throws`                     — the errors of a step
* `Advances`                   — a step that moves on inside the input, and finishes
* `Alike`                      — two steps that succeed together
-/

namespace Scan

variable {ε σ τ α β γ δ : Type}

/-! ## Results -/

def Ends (result : EStateM.Result ε σ α) (post : α → σ → Prop) (error : ε → σ → Prop) : Prop :=
  match result with
  | .ok a s => post a s
  | .error e s => error e s

theorem Ends.mono {result : EStateM.Result ε σ α} {post post' : α → σ → Prop}
    {error error' : ε → σ → Prop} (h : Ends result post error)
    (hpost : ∀ a s, post a s → post' a s) (herror : ∀ e s, error e s → error' e s) :
    Ends result post' error' := by
  cases result with
  | ok a s => exact hpost a s h
  | error e s => exact herror e s h

theorem Ends.bind {x : EStateM ε σ α} {next : α → EStateM ε σ β} {s : σ} {mid : α → σ → Prop}
    {post : β → σ → Prop} {error error' : ε → σ → Prop} (h : Ends (x s) mid error)
    (hnext : ∀ a s', mid a s' → Ends (next a s') post error')
    (herror : ∀ e s', error e s' → error' e s') : Ends ((x >>= next) s) post error' := by
  cases hx : x s with
  | ok a s' =>
    rw [hx] at h
    have hrun : (x >>= next) s = next a s' := by
      show EStateM.bind x next s = _
      unfold EStateM.bind
      rw [hx]
    rw [hrun]
    exact hnext a s' h
  | error e s' =>
    rw [hx] at h
    have hrun : (x >>= next) s = .error e s' := by
      show EStateM.bind x next s = _
      unfold EStateM.bind
      rw [hx]
    rw [hrun]
    exact herror e s' h

theorem run_bind_ok {x : EStateM ε σ α} {next : α → EStateM ε σ β} {s s' : σ} {a : α}
    (h : x s = .ok a s') : (x >>= next) s = next a s' := by
  show EStateM.bind x next s = _
  unfold EStateM.bind
  rw [h]

theorem run_bind_error {x : EStateM ε σ α} {next : α → EStateM ε σ β} {s s' : σ} {e : ε}
    (h : x s = .error e s') : (x >>= next) s = .error e s' := by
  show EStateM.bind x next s = _
  unfold EStateM.bind
  rw [h]

/-! ## Errors -/

/-- Whenever the step fails, it is with such an error. -/
def Throws (error : ε → Prop) (x : EStateM ε σ α) : Prop :=
  ∀ s, Ends (x s) (fun _ _ => True) fun e _ => error e

variable {error : ε → Prop}

theorem Throws.pure (a : α) : Throws error (pure a : EStateM ε σ α) := fun _ => trivial

theorem Throws.get : Throws error (get : EStateM ε σ σ) := fun _ => trivial

theorem Throws.modify (f : σ → σ) : Throws error (modify f : EStateM ε σ PUnit) := fun _ => trivial

theorem Throws.throw {e : ε} (h : error e) : Throws error (throw e : EStateM ε σ α) := fun _ => h

theorem Throws.bind {x : EStateM ε σ α} {next : α → EStateM ε σ β} (h : Throws error x)
    (hnext : ∀ a, Throws error (next a)) : Throws error (x >>= next) :=
  fun s => (h s).bind (fun a s' _ => hnext a s') fun _ _ he => he

theorem Throws.ite {c : Prop} [Decidable c] {x y : EStateM ε σ α} (hx : c → Throws error x)
    (hy : ¬ c → Throws error y) : Throws error (if c then x else y) := by
  by_cases hc : c
  · rw [if_pos hc]
    exact hx hc
  · rw [if_neg hc]
    exact hy hc

/-! ## Advancing -/

/-- A measured cursor, and where it is in order. -/
structure Track (σ : Type) where
  inside : σ → Prop
  position : σ → Nat

variable {track : Track σ}

/-- From `s` on, the step stays in order and does not go back; it goes at least `n` on where
it succeeds, and does not run out of rounds. -/
def AdvancesFrom (track : Track σ) (s : σ) (n : Nat) (x : EStateM ScanError σ α) : Prop :=
  Ends (x s) (fun _ s' => track.inside s' ∧ track.position s + n ≤ track.position s')
    fun e s' => track.inside s' ∧ track.position s ≤ track.position s' ∧ e ≠ .unfinished

def Advances (track : Track σ) (n : Nat) (x : EStateM ScanError σ α) : Prop :=
  ∀ s, track.inside s → AdvancesFrom track s n x

theorem AdvancesFrom.bind {x : EStateM ScanError σ α} {next : α → EStateM ScanError σ β} {s : σ}
    {n m : Nat} (h : AdvancesFrom track s n x)
    (hnext : ∀ a s', x s = .ok a s' → track.inside s' → AdvancesFrom track s' m (next a)) :
    AdvancesFrom track s (n + m) (x >>= next) := by
  unfold AdvancesFrom at h ⊢
  cases hx : x s with
  | ok a s' =>
    rw [hx] at h
    obtain ⟨hinside, hle⟩ := h
    rw [run_bind_ok hx]
    refine Ends.mono (hnext a s' hx hinside) ?_ ?_
    · rintro b s'' ⟨hinside', hle'⟩
      exact ⟨hinside', by omega⟩
    · rintro e s'' ⟨hinside', hle', hfinishes⟩
      exact ⟨hinside', by omega, hfinishes⟩
  | error e s' =>
    rw [hx] at h
    rw [run_bind_error hx]
    exact h

theorem Advances.bind {x : EStateM ScanError σ α} {next : α → EStateM ScanError σ β} {n m : Nat}
    (h : Advances track n x) (hnext : ∀ a, Advances track m (next a)) :
    Advances track (n + m) (x >>= next) :=
  fun s hs => (h s hs).bind fun a s' _ hs' => hnext a s' hs'

theorem AdvancesFrom.mono {x : EStateM ScanError σ α} {s : σ} {n m : Nat}
    (h : AdvancesFrom track s n x) (hle : m ≤ n) : AdvancesFrom track s m x :=
  Ends.mono h (fun _ _ h => ⟨h.1, by omega⟩) fun _ _ h => h

theorem Advances.mono {x : EStateM ScanError σ α} {n m : Nat} (h : Advances track n x)
    (hle : m ≤ n) : Advances track m x :=
  fun s hs => (h s hs).mono hle

theorem Advances.pure (a : α) : Advances track 0 (pure a : EStateM ScanError σ α) :=
  fun _ hs => ⟨hs, Nat.le_refl _⟩

/-- A failure for a reason of the source's own advances as far as one likes. -/
theorem Advances.fail (n : Nat) (message : String) :
    Advances track n (throw (.status message) : EStateM ScanError σ α) :=
  fun _ hs => ⟨hs, Nat.le_refl _, ScanError.noConfusion⟩

/-- A step that looks at the cursor first is judged by what it does from there. -/
theorem Advances.get {next : σ → EStateM ScanError σ β} {n : Nat}
    (h : ∀ s, track.inside s → AdvancesFrom track s n (next s)) :
    Advances track n (get >>= next) :=
  fun s hs => h s hs

theorem AdvancesFrom.ite {c : Prop} [Decidable c] {x y : EStateM ScanError σ α} {s : σ} {n : Nat}
    (hx : c → AdvancesFrom track s n x) (hy : ¬ c → AdvancesFrom track s n y) :
    AdvancesFrom track s n (if c then x else y) := by
  by_cases hc : c
  · rw [if_pos hc]
    exact hx hc
  · rw [if_neg hc]
    exact hy hc

theorem Advances.ite {c : Prop} [Decidable c] {x y : EStateM ScanError σ α} {n : Nat}
    (hx : c → Advances track n x) (hy : ¬ c → Advances track n y) :
    Advances track n (if c then x else y) :=
  fun s hs => AdvancesFrom.ite (fun hc => hx hc s hs) fun hc => hy hc s hs

theorem Advances.of_ok {x : EStateM ScanError σ α} {n : Nat} {s s' : σ} {a : α}
    (h : Advances track n x) (hs : track.inside s) (hrun : x s = .ok a s') :
    track.inside s' ∧ track.position s + n ≤ track.position s' := by
  have hend := h s hs
  unfold AdvancesFrom at hend
  rw [hrun] at hend
  exact hend

/-! ## Side by side -/

/-- Two results that are both successes, related ones, or both failures. -/
def Alike (related : α → σ → β → τ → Prop) (x : EStateM.Result ε σ α) (y : EStateM.Result ε τ β) :
    Prop :=
  match x, y with
  | .ok a s, .ok b t => related a s b t
  | .error _ _, .error _ _ => True
  | _, _ => False

theorem Alike.mono {related related' : α → σ → β → τ → Prop} {x : EStateM.Result ε σ α}
    {y : EStateM.Result ε τ β} (h : Alike related x y)
    (himp : ∀ a s b t, related a s b t → related' a s b t) : Alike related' x y := by
  cases x with
  | ok a s =>
    cases y with
    | ok b t => exact himp a s b t h
    | error e t => exact h
  | error e s =>
    cases y with
    | ok b t => exact h
    | error e t => exact h

theorem Alike.bind {x : EStateM ε σ α} {y : EStateM ε τ β} {next : α → EStateM ε σ γ}
    {next' : β → EStateM ε τ δ} {s : σ} {t : τ} {related : α → σ → β → τ → Prop}
    {related' : γ → σ → δ → τ → Prop} (h : Alike related (x s) (y t))
    (hnext : ∀ a s' b t', x s = .ok a s' → y t = .ok b t' → related a s' b t' →
      Alike related' (next a s') (next' b t')) :
    Alike related' ((x >>= next) s) ((y >>= next') t) := by
  cases hx : x s with
  | ok a s' =>
    cases hy : y t with
    | ok b t' =>
      rw [hx, hy] at h
      rw [run_bind_ok hx, run_bind_ok hy]
      exact hnext a s' b t' hx hy h
    | error e t' =>
      rw [hx, hy] at h
      exact False.elim h
  | error e s' =>
    cases hy : y t with
    | ok b t' =>
      rw [hx, hy] at h
      exact False.elim h
    | error e' t' =>
      rw [run_bind_error hx, run_bind_error hy]
      trivial

theorem Alike.ite {c c' : Prop} [Decidable c] [Decidable c'] {x x' : EStateM ε σ α}
    {y y' : EStateM ε τ β} {s : σ} {t : τ} {related : α → σ → β → τ → Prop} (hc : c ↔ c')
    (h : c → Alike related (x s) (y t)) (h' : ¬ c → Alike related (x' s) (y' t)) :
    Alike related ((if c then x else x') s) ((if c' then y else y') t) := by
  by_cases hc' : c
  · rw [if_pos hc', if_pos (hc.mp hc')]
    exact h hc'
  · rw [if_neg hc', if_neg fun hother => hc' (hc.mpr hother)]
    exact h' hc'

/-- Steps that look at their cursors first are judged by what they do from there. -/
theorem Alike.get {next : σ → EStateM ε σ γ} {next' : τ → EStateM ε τ δ} {s : σ} {t : τ}
    {related : γ → σ → δ → τ → Prop} (h : Alike related (next s s) (next' t t)) :
    Alike related ((get >>= next) s) ((get >>= next') t) :=
  h

theorem Alike.ok_iff {related : α → σ → β → τ → Prop} {x : EStateM.Result ε σ α}
    {y : EStateM.Result ε τ β} (h : Alike related x y) :
    (∃ a s, x = .ok a s) ↔ ∃ b t, y = .ok b t := by
  cases x with
  | ok a s =>
    cases y with
    | ok b t => exact ⟨fun _ => ⟨b, t, rfl⟩, fun _ => ⟨a, s, rfl⟩⟩
    | error e t => exact False.elim h
  | error e s =>
    cases y with
    | ok b t => exact False.elim h
    | error e' t =>
      constructor
      · rintro ⟨_, _, h⟩
        exact nomatch h
      · rintro ⟨_, _, h⟩
        exact nomatch h

end Scan
