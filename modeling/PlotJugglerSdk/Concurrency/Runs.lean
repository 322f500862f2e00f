import Mathlib.Data.List.Basic

/-!
# Runs of a step function

A concurrent component is a state and a step function: an event names a party and
the atomic step it takes, and the step is possible in a state or not. A run is a
list of events, so a statement about every run is one about every interleaving.

* `run_keeps`, `run_keeps_past`, `run_keeps_along`, `run_keeps_taken` — what every step keeps
  holds after every run
* `taken_congr` — restrictions of the steps that agree along a run
* `countP_set` — one party of a list takes a step
* `split_snoc` — a log with one more entry
-/

namespace Runs

variable {σ ε : Type} (step : ε → σ → Option σ)

def run : List ε → σ → Option σ
  | [], s => some s
  | e :: es, s => (step e s).bind (run es)

/-- Every state of a run satisfies `P`. -/
def Along (P : σ → Prop) : List ε → σ → Prop
  | [], s => P s
  | e :: es, s => P s ∧ (step e s).elim True (Along P es)

instance decidableElim {Q : σ → Prop} [DecidablePred Q] :
    (s : Option σ) → Decidable (s.elim True Q)
  | none => isTrue trivial
  | some s => inferInstanceAs (Decidable (Q s))

instance decidableAlong {P : σ → Prop} [DecidablePred P] :
    (es : List ε) → DecidablePred (Along step P es)
  | [], s => inferInstanceAs (Decidable (P s))
  | e :: es, s =>
    @instDecidableAnd _ _ (inferInstanceAs (Decidable (P s)))
      (@decidableElim σ (Along step P es) (decidableAlong es) (step e s))

variable {step}

theorem run_cons {e : ε} {es : List ε} {s s'' : σ} (h : run step (e :: es) s = some s'') :
    ∃ s', step e s = some s' ∧ run step es s' = some s'' :=
  Option.bind_eq_some_iff.mp h

/-- What every step keeps, every run keeps. -/
theorem run_keeps (Inv : σ → Prop)
    (hstep : ∀ e s s', Inv s → step e s = some s' → Inv s') {es : List ε} {s s' : σ}
    (hinv : Inv s) (h : run step es s = some s') : Inv s' := by
  induction es generalizing s with
  | nil =>
    obtain rfl := Option.some.inj h
    exact hinv
  | cons e es ih =>
    obtain ⟨t, ht, hrest⟩ := run_cons h
    exact ih (hstep e s t hinv ht) hrest

/-- What every step keeps of the events so far and the state, every run keeps. -/
theorem run_keeps_past (Inv : List ε → σ → Prop)
    (hstep : ∀ past e s s', Inv past s → step e s = some s' → Inv (past ++ [e]) s')
    {past es : List ε} {s s' : σ} (hinv : Inv past s) (h : run step es s = some s') :
    Inv (past ++ es) s' := by
  induction es generalizing past s with
  | nil =>
    obtain rfl := Option.some.inj h
    simpa using hinv
  | cons e es ih =>
    obtain ⟨t, ht, hrest⟩ := run_cons h
    have hlater := ih (hstep past e s t hinv ht) hrest
    rwa [List.append_assoc] at hlater

theorem Along.next {P : σ → Prop} {e : ε} {es : List ε} {s s' : σ} (h : Along step P (e :: es) s)
    (hstep : step e s = some s') : Along step P es s' := by
  have hrest := h.2
  rw [hstep] at hrest
  exact hrest

theorem Along.head {P : σ → Prop} {es : List ε} {s : σ} (h : Along step P es s) : P s := by
  cases es with
  | nil => exact h
  | cons e es => exact h.1

/-- The same, where the steps keep it only between states that satisfy `P`. -/
theorem run_keeps_along {P : σ → Prop} (Inv : σ → Prop)
    (hstep : ∀ e s s', Inv s → P s' → step e s = some s' → Inv s') {es : List ε} {s s' : σ}
    (halong : Along step P es s) (hinv : Inv s) (h : run step es s = some s') : Inv s' := by
  induction es generalizing s with
  | nil =>
    obtain rfl := Option.some.inj h
    exact hinv
  | cons e es ih =>
    obtain ⟨t, ht, hrest⟩ := run_cons h
    have hnext := halong.next ht
    exact ih hnext (hstep e s t hinv hnext.head ht) hrest

theorem Along.append {P : σ → Prop} {es es' : List ε} {s s' : σ}
    (h : Along step P (es ++ es') s) (hrun : run step es s = some s') :
    Along step P es s ∧ Along step P es' s' := by
  induction es generalizing s with
  | nil =>
    obtain rfl := Option.some.inj hrun
    exact ⟨h.head, h⟩
  | cons e es ih =>
    obtain ⟨t, ht, hrest⟩ := run_cons hrun
    obtain ⟨hfirst, hsecond⟩ := ih (h.next ht) hrest
    refine ⟨⟨h.1, ?_⟩, hsecond⟩
    rw [ht]
    exact hfirst

/-! ## Runs whose steps are restricted -/

variable (step) in
/-- Every step that a run takes satisfies `P`. -/
def Taken (P : ε → σ → Prop) : List ε → σ → Prop
  | [], _ => True
  | e :: es, s => P e s ∧ (step e s).elim True (Taken P es)

instance decidableTaken {P : ε → σ → Prop} [∀ e, DecidablePred (P e)] :
    (es : List ε) → DecidablePred (Taken step P es)
  | [], _ => isTrue trivial
  | e :: es, s =>
    @instDecidableAnd _ _ (inferInstanceAs (Decidable (P e s)))
      (@decidableElim σ (Taken step P es) (decidableTaken es) (step e s))

theorem Taken.next {P : ε → σ → Prop} {e : ε} {es : List ε} {s s' : σ}
    (h : Taken step P (e :: es) s) (hstep : step e s = some s') : Taken step P es s' := by
  have hrest := h.2
  rw [hstep] at hrest
  exact hrest

theorem Taken.cons {P : ε → σ → Prop} {e : ε} {es : List ε} {s s' : σ} (h : P e s)
    (hstep : step e s = some s') (hrest : Taken step P es s') : Taken step P (e :: es) s := by
  refine ⟨h, ?_⟩
  rw [hstep]
  exact hrest

theorem run_keeps_taken {P : ε → σ → Prop} (Inv : σ → Prop)
    (hstep : ∀ e s s', Inv s → P e s → step e s = some s' → Inv s') {es : List ε} {s s' : σ}
    (htaken : Taken step P es s) (hinv : Inv s) (h : run step es s = some s') : Inv s' := by
  induction es generalizing s with
  | nil =>
    obtain rfl := Option.some.inj h
    exact hinv
  | cons e es ih =>
    obtain ⟨t, ht, hrest⟩ := run_cons h
    exact ih (htaken.next ht) (hstep e s t hinv htaken.1 ht) hrest

theorem Taken.append {P : ε → σ → Prop} {es es' : List ε} {s s' : σ}
    (h : Taken step P (es ++ es') s) (hrun : run step es s = some s') :
    Taken step P es s ∧ Taken step P es' s' := by
  induction es generalizing s with
  | nil =>
    obtain rfl := Option.some.inj hrun
    exact ⟨trivial, h⟩
  | cons e es ih =>
    obtain ⟨t, ht, hrest⟩ := run_cons hrun
    obtain ⟨hfirst, hsecond⟩ := ih (h.next ht) hrest
    refine ⟨⟨h.1, ?_⟩, hsecond⟩
    rw [ht]
    exact hfirst

theorem Taken.join {P : ε → σ → Prop} {es es' : List ε} {s : σ} (h : Taken step P es s)
    (hlater : ∀ s', run step es s = some s' → Taken step P es' s') :
    Taken step P (es ++ es') s := by
  induction es generalizing s with
  | nil => exact hlater s rfl
  | cons e es ih =>
    refine ⟨h.1, ?_⟩
    cases hstep : step e s with
    | none => trivial
    | some t =>
      refine ih (h.next hstep) fun s' hrun => hlater s' ?_
      show (step e s).bind _ = _
      rw [hstep]
      exact hrun

/-- What every event of a run satisfies, every step of it does. -/
theorem Taken.and_mem {P : ε → σ → Prop} {Q : ε → Prop} {es : List ε} {s : σ}
    (h : Taken step P es s) (hmem : ∀ e ∈ es, Q e) :
    Taken step (fun e s => Q e ∧ P e s) es s := by
  induction es generalizing s with
  | nil => trivial
  | cons e es ih =>
    refine ⟨⟨hmem e (by simp), h.1⟩, ?_⟩
    cases hstep : step e s with
    | none => trivial
    | some t => exact ih (h.next hstep) fun e' he' => hmem e' (List.mem_cons_of_mem _ he')

theorem taken_of_inv {P : ε → σ → Prop} (Inv : σ → Prop) (h : ∀ e s, Inv s → P e s)
    (hstep : ∀ e s s', Inv s → step e s = some s' → Inv s') {es : List ε} {s : σ} (hinv : Inv s) :
    Taken step P es s := by
  induction es generalizing s with
  | nil => trivial
  | cons e es ih =>
    refine ⟨h e s hinv, ?_⟩
    cases hs : step e s with
    | none => trivial
    | some t => exact ih (hstep e s t hinv hs)

/-- Two restrictions of a step that agree where an invariant holds are one for the runs that keep it. -/
theorem taken_congr {P Q : ε → σ → Prop} (Inv : σ → Prop) (hiff : ∀ e s, Inv s → (P e s ↔ Q e s))
    (hstep : ∀ e s s', Inv s → P e s → step e s = some s' → Inv s') {es : List ε} {s : σ}
    (hinv : Inv s) :
    Taken step P es s ↔ Taken step Q es s := by
  induction es generalizing s with
  | nil => exact Iff.rfl
  | cons e es ih =>
    unfold Taken
    rw [← hiff e s hinv]
    refine and_congr_right fun h => ?_
    cases hs : step e s with
    | none => exact Iff.rfl
    | some t => exact ih (hstep e s t hinv h hs)

/-! ## Parties in a list -/

variable {α : Type}

/-- Who stands where, after one of them has moved to `b`. -/
theorem getElem?_set_cases {l : List α} {i j : Nat} {b c : α} (h : (l.set i b)[j]? = some c) :
    i = j ∧ c = b ∨ i ≠ j ∧ l[j]? = some c := by
  by_cases hij : i = j
  · subst hij
    have hlt := (List.getElem?_eq_some_iff.mp h).1
    rw [List.length_set] at hlt
    rw [List.getElem?_set_self hlt] at h
    exact .inl ⟨rfl, (Option.some.inj h).symm⟩
  · rw [List.getElem?_set_ne hij] at h
    exact .inr ⟨hij, h⟩

/-- The same, after another has come. -/
theorem getElem?_snoc_cases {l : List α} {j : Nat} {b c : α} (h : (l ++ [b])[j]? = some c) :
    l[j]? = some c ∨ c = b := by
  rw [List.getElem?_append] at h
  split at h
  next => exact .inl h
  next => exact .inr (List.mem_singleton.mp (List.mem_of_getElem? h))

/-- The parties with a property, after one of them has moved from `a` to `b`. -/
theorem countP_set {l : List α} {i : Nat} {a : α} (h : l[i]? = some a) (b : α) (p : α → Bool) :
    (l.set i b).countP p + (if p a then 1 else 0) = l.countP p + (if p b then 1 else 0) := by
  obtain ⟨hi, rfl⟩ := List.getElem?_eq_some_iff.mp h
  have hpos : p l[i] = true → 0 < l.countP p := by
    intro hp
    exact List.countP_pos_iff.mpr ⟨l[i], List.getElem_mem hi, hp⟩
  rw [List.countP_set hi]
  by_cases hp : p l[i] = true
  · have hcount := hpos hp
    rw [if_pos hp]
    omega
  · rw [if_neg hp]
    omega

theorem countP_snoc (l : List α) (b : α) (p : α → Bool) :
    (l ++ [b]).countP p = l.countP p + (if p b then 1 else 0) := by
  rw [List.countP_append, List.countP_singleton]

theorem countP_eq_zero {l : List α} {p : α → Bool} (h : l.countP p = 0) {a : α} (ha : a ∈ l) :
    p a = false := by
  have hnot := List.countP_eq_zero.mp h a ha
  simpa using hnot

/-! ## Logs -/

/-- Where an entry of a log stands that has one more entry at its end. -/
theorem split_snoc {log front back : List α} {a b : α} (h : log ++ [b] = front ++ a :: back) :
    (a = b ∧ log = front ∧ back = []) ∨ ∃ earlier, back = earlier ++ [b] ∧
      log = front ++ a :: earlier := by
  rcases List.eq_nil_or_concat back with rfl | ⟨earlier, last, rfl⟩
  · obtain ⟨hlog, hlast⟩ := List.append_inj' h rfl
    exact .inl ⟨(List.singleton_inj.mp hlast).symm, hlog, rfl⟩
  · rw [List.concat_eq_append, ← List.cons_append, ← List.append_assoc] at h
    obtain ⟨hlog, hlast⟩ := List.append_inj' h rfl
    obtain rfl := List.singleton_inj.mp hlast
    exact .inr ⟨earlier, List.concat_eq_append, hlog⟩

end Runs
