import Mathlib.Data.List.Chain
import Mathlib.Logic.Relation

/-!
# Depth

How deep a relation goes below an element: `Within n a` when no chain from `a` on has more
than `n` elements. What is within some depth is on no cycle.

* `within_iff`              — in terms of chains
* `Within.not_cyclic`       — depth excludes cycles
* `exists_within`           — an element above finitely many
-/

namespace Depth

variable {α : Type} {below : α → α → Prop}

/-- The chains from an element on have at most `n` elements, itself included. -/
def Within (below : α → α → Prop) : Nat → α → Prop
  | 0, _ => False
  | n + 1, a => ∀ b, below a b → Within below n b

theorem Within.succ {n : Nat} {a : α} (h : Within below n a) : Within below (n + 1) a := by
  induction n generalizing a with
  | zero => exact False.elim h
  | succ n ih =>
    intro b hb
    exact ih (h b hb)

theorem Within.mono {n m : Nat} {a : α} (h : Within below n a) (hle : n ≤ m) :
    Within below m a := by
  induction hle with
  | refl => exact h
  | step _ ih => exact ih.succ

theorem within_iff {n : Nat} {a : α} :
    Within below n a ↔ ∀ chain, List.IsChain below (a :: chain) → chain.length < n := by
  induction n generalizing a with
  | zero =>
    constructor
    · exact fun h => False.elim h
    · intro h
      exact absurd (h [] (List.isChain_singleton a)) (Nat.not_lt_zero _)
  | succ n ih =>
    constructor
    · intro h chain hchain
      cases chain with
      | nil => exact Nat.succ_pos n
      | cons b chain =>
        rw [List.isChain_cons_cons] at hchain
        have hlength := ih.mp (h b hchain.1) chain hchain.2
        exact Nat.succ_lt_succ hlength
    · intro h b hb
      refine ih.mpr ?_
      intro chain hchain
      have hlength := h (b :: chain) (List.isChain_cons_cons.mpr ⟨hb, hchain⟩)
      exact Nat.lt_of_succ_lt_succ hlength

/-- What lies below an element is less deep. -/
theorem Within.lower {n : Nat} {a b : α} (h : Within below n a)
    (hab : Relation.TransGen below a b) :
    ∃ m, m < n ∧ Within below m b := by
  induction hab with
  | single hab =>
    cases n with
    | zero => exact False.elim h
    | succ n => exact ⟨n, Nat.lt_succ_self n, h _ hab⟩
  | tail _ hbc ih =>
    obtain ⟨m, hm, hb⟩ := ih
    cases m with
    | zero => exact False.elim hb
    | succ m => exact ⟨m, Nat.lt_of_succ_lt hm, hb _ hbc⟩

theorem Within.not_cyclic {n : Nat} {a : α} (h : Within below n a) :
    ¬ Relation.TransGen below a a := by
  intro hcycle
  induction n using Nat.strong_induction_on with
  | _ n ih =>
    obtain ⟨m, hm, hlower⟩ := h.lower hcycle
    exact ih m hm hlower

/-- An element is within some depth when everything below it is, and that is finitely much. -/
theorem exists_within {list : List α} {a : α} (hlist : ∀ b, below a b → b ∈ list)
    (h : ∀ b ∈ list, ∃ n, Within below n b) : ∃ n, Within below n a := by
  have hbound : ∃ n, ∀ b ∈ list, Within below n b := by
    clear hlist
    induction list with
    | nil => exact ⟨0, fun b hb => nomatch hb⟩
    | cons c list ih =>
      obtain ⟨n, hn⟩ := ih fun b hb => h b (List.mem_cons_of_mem c hb)
      obtain ⟨m, hm⟩ := h c List.mem_cons_self
      refine ⟨max n m, ?_⟩
      intro b hb
      obtain rfl | hb := List.mem_cons.mp hb
      · exact hm.mono (Nat.le_max_right n m)
      · exact (hn b hb).mono (Nat.le_max_left n m)
  obtain ⟨n, hn⟩ := hbound
  exact ⟨n + 1, fun b hb => hn b (hlist b hb)⟩

end Depth
