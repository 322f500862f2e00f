import PlotJugglerSdk.Order.Ranking
import Mathlib.Data.List.Forall2

/-!
# Two computations side by side

The same computation on related inputs: it fails on both or gives related results on both
(`Agree`), and lists stay related element by element when they are filtered by tests that agree
(`forall₂_filter`) or sorted by one order (`forall₂_sortBy`).
-/

namespace Agreement

open Ranking

variable {ε α α' β β' : Type}

/-- Both fail, or both succeed with related results. -/
inductive Agree (related : α → α' → Prop) : Except ε α → Except ε α' → Prop where
  | error (e e' : ε) : Agree related (.error e) (.error e')
  | ok {a : α} {a' : α'} (h : related a a') : Agree related (.ok a) (.ok a')

theorem Agree.bind {related : α → α' → Prop} {then_related : β → β' → Prop} {x : Except ε α}
    {x' : Except ε α'} {f : α → Except ε β} {f' : α' → Except ε β'} (h : Agree related x x')
    (hf : ∀ a a', related a a' → Agree then_related (f a) (f' a')) :
    Agree then_related (x >>= f) (x' >>= f') := by
  cases h with
  | error e e' => exact .error e e'
  | ok h => exact hf _ _ h

/-- A test that fails on both, or neither. -/
theorem Agree.guard {related : α → α' → Prop} {p p' : Prop} [Decidable p] [Decidable p']
    (hp : p ↔ p') {e e' : ε} {x : Except ε α} {x' : Except ε α'} (h : Agree related x x') :
    Agree related (if p then .error e else x) (if p' then .error e' else x') := by
  by_cases hp' : p
  · rw [if_pos hp', if_pos (hp.mp hp')]
    exact .error e e'
  · rw [if_neg hp', if_neg fun hq => hp' (hp.mpr hq)]
    exact h

/-- A computation that fails. -/
def Fails (x : Except ε α) : Prop := ∃ e, x = .error e

theorem Fails.guard {p : Prop} [Decidable p] {e : ε} {x : Except ε α} (h : Fails x) :
    Fails (if p then .error e else x) := by
  by_cases hp : p
  · exact ⟨e, if_pos hp⟩
  · rw [if_neg hp]
    exact h

theorem Agree.of_fails {related : α → α' → Prop} {x : Except ε α} {x' : Except ε α'}
    (h : Fails x) (h' : Fails x') : Agree related x x' := by
  obtain ⟨e, rfl⟩ := h
  obtain ⟨e', rfl⟩ := h'
  exact .error e e'

/-! ## Related lists -/

variable {related : α → α' → Prop}

theorem forall₂_of_pairs (pairs : List (α × α')) (h : ∀ pair ∈ pairs, related pair.1 pair.2) :
    List.Forall₂ related (pairs.map Prod.fst) (pairs.map Prod.snd) := by
  induction pairs with
  | nil => exact .nil
  | cons pair pairs ih =>
    refine .cons (h pair (by simp)) (ih ?_)
    intro pair hmem
    exact h pair (List.mem_cons_of_mem _ hmem)

theorem pairs_of_forall₂ {l : List α} {l' : List α'} (h : List.Forall₂ related l l') :
    ∃ pairs : List (α × α'), l = pairs.map Prod.fst ∧ l' = pairs.map Prod.snd ∧
      ∀ pair ∈ pairs, related pair.1 pair.2 := by
  induction h with
  | nil => exact ⟨[], rfl, rfl, by simp⟩
  | @cons a a' _ _ hhead _ ih =>
    obtain ⟨pairs, rfl, rfl, hpairs⟩ := ih
    refine ⟨(a, a') :: pairs, rfl, rfl, ?_⟩
    intro pair hmem
    rcases List.mem_cons.mp hmem with rfl | hmem
    · exact hhead
    · exact hpairs pair hmem

theorem exists_of_mem_left {l : List α} {l' : List α'} (h : List.Forall₂ related l l') {a : α}
    (ha : a ∈ l) : ∃ a' ∈ l', related a a' := by
  obtain ⟨pairs, rfl, rfl, hpairs⟩ := pairs_of_forall₂ h
  obtain ⟨pair, hpair, rfl⟩ := List.mem_map.mp ha
  exact ⟨pair.2, List.mem_map_of_mem hpair, hpairs pair hpair⟩

theorem exists_of_mem_right {l : List α} {l' : List α'} (h : List.Forall₂ related l l') {a' : α'}
    (ha : a' ∈ l') : ∃ a ∈ l, related a a' := by
  obtain ⟨pairs, rfl, rfl, hpairs⟩ := pairs_of_forall₂ h
  obtain ⟨pair, hpair, rfl⟩ := List.mem_map.mp ha
  exact ⟨pair.1, List.mem_map_of_mem hpair, hpairs pair hpair⟩

/-- Tests that agree on related elements keep related lists related. -/
theorem forall₂_filter {p : α → Bool} {q : α' → Bool} {l : List α} {l' : List α'}
    (h : List.Forall₂ (fun a a' => related a a' ∧ p a = q a') l l') :
    List.Forall₂ related (l.filter p) (l'.filter q) := by
  induction h with
  | nil => exact .nil
  | @cons a a' _ _ hhead _ ih =>
    obtain ⟨hrelated, hsame⟩ := hhead
    rw [List.filter_cons, List.filter_cons, hsame]
    by_cases hq : q a' = true
    · rw [if_pos hq, if_pos hq]
      exact .cons hrelated ih
    · rw [if_neg hq, if_neg hq]
      exact ih

/-- Related lists are sorted alike by an order that does not see the difference. -/
theorem forall₂_sortBy {related : α → α → Prop} {less : α → α → Bool}
    (hless : ∀ a a' b b', related a a' → related b b' → less a b = less a' b') {l l' : List α}
    (h : List.Forall₂ related l l') : List.Forall₂ related (sortBy less l) (sortBy less l') := by
  obtain ⟨pairs, rfl, rfl, hpairs⟩ := pairs_of_forall₂ h
  -- the pairs are sorted, by their first components, which is by their second
  have hfst : (sortBy (fun p q : α × α => less p.1 q.1) pairs).map Prod.fst =
      sortBy less (pairs.map Prod.fst) := by
    unfold sortBy
    rw [List.map_mergeSort]
    intro p _ q _
    rfl
  have hsnd : (sortBy (fun p q : α × α => less p.1 q.1) pairs).map Prod.snd =
      sortBy less (pairs.map Prod.snd) := by
    unfold sortBy
    rw [List.map_mergeSort]
    intro p hp q hq
    show (!less q.1 p.1) = _
    rw [hless q.1 q.2 p.1 p.2 (hpairs q hq) (hpairs p hp)]
  rw [← hfst, ← hsnd]
  apply forall₂_of_pairs
  intro pair hmem
  exact hpairs pair (mem_sortBy.mp hmem)

end Agreement
