import Mathlib.Order.Compare
import Mathlib.Order.WithBot
import Mathlib.Data.Prod.Lex
import Mathlib.Data.Sum.Order
import Mathlib.Data.List.Lex

/-!
# Three-way comparisons

A comparison function agrees with an order through keys: `(f a b).Compares (key a) (key b)`.
Keys are put together from pairs, sums and lists, and the comparison along with them.

* `Compares.then_pair`, `Compares.then_cons` — the first difference decides
* `compares_keys_*`                          — what a comparison by keys satisfies
-/

namespace Compared

open Ordering

variable {α β : Type} [LinearOrder α] [LinearOrder β]

theorem compares_of_lt {a b : α} (h : a < b) : lt.Compares a b := h

theorem compares_of_gt {a b : α} (h : b < a) : gt.Compares a b := h

theorem compares_of_eq {a b : α} (h : a = b) : eq.Compares a b := h

/-! ## Keys put together -/

/-- Pairs: the second components count where the first are equal. -/
theorem then_pair {o o' : Ordering} {a a' : α} {b b' : β} (h : o.Compares a a')
    (h' : o'.Compares b b') : (o.then o').Compares (toLex (a, b)) (toLex (a', b')) := by
  cases o with
  | lt => exact Prod.Lex.toLex_lt_toLex.mpr (.inl h)
  | gt => exact Prod.Lex.toLex_lt_toLex.mpr (.inl h)
  | eq =>
    obtain rfl : a = a' := h
    cases o' with
    | lt => exact Prod.Lex.toLex_lt_toLex.mpr (.inr ⟨rfl, h'⟩)
    | gt => exact Prod.Lex.toLex_lt_toLex.mpr (.inr ⟨rfl, h'⟩)
    | eq =>
      obtain rfl : b = b' := h'
      rfl

/-- Lists: the rests count where the heads are equal. -/
theorem then_cons {o o' : Ordering} {a a' : α} {list list' : List α} (h : o.Compares a a')
    (h' : o'.Compares list list') : (o.then o').Compares (a :: list) (a' :: list') := by
  cases o with
  | lt => exact List.cons_lt_cons_iff.mpr (.inl h)
  | gt => exact List.cons_lt_cons_iff.mpr (.inl h)
  | eq =>
    obtain rfl : a = a' := h
    cases o' with
    | lt => exact List.cons_lt_cons_iff.mpr (.inr ⟨rfl, h'⟩)
    | gt => exact List.cons_lt_cons_iff.mpr (.inr ⟨rfl, h'⟩)
    | eq =>
      obtain rfl : list = list' := h'
      rfl

theorem compares_inl {o : Ordering} {a a' : α} (h : o.Compares a a') :
    o.Compares (toLex (.inl a : α ⊕ β)) (toLex (.inl a')) := by
  cases o with
  | lt => exact Sum.Lex.inl_lt_inl_iff.mpr h
  | gt => exact Sum.Lex.inl_lt_inl_iff.mpr h
  | eq =>
    obtain rfl : a = a' := h
    rfl

theorem compares_inr {o : Ordering} {b b' : β} (h : o.Compares b b') :
    o.Compares (toLex (.inr b : α ⊕ β)) (toLex (.inr b')) := by
  cases o with
  | lt => exact Sum.Lex.inr_lt_inr_iff.mpr h
  | gt => exact Sum.Lex.inr_lt_inr_iff.mpr h
  | eq =>
    obtain rfl : b = b' := h
    rfl

theorem compares_coe {o : Ordering} {a a' : α} (h : o.Compares a a') :
    o.Compares (a : WithTop α) (a' : WithTop α) := by
  cases o with
  | lt => exact WithTop.coe_lt_coe.mpr h
  | gt => exact WithTop.coe_lt_coe.mpr h
  | eq =>
    obtain rfl : a = a' := h
    rfl

/-- Lists are compared as their images are, where the elements are. -/
theorem map_lt_map {σ : Type} [LT σ] {f : σ → α} {list list' : List σ}
    (h : ∀ x ∈ list, ∀ y ∈ list', x < y → f x < f y) (hlt : list < list') :
    list.map f < list'.map f := by
  induction list generalizing list' with
  | nil =>
    cases list' with
    | nil => exact absurd hlt (by simp)
    | cons y list' => exact List.nil_lt_cons _ _
  | cons x list ih =>
    cases list' with
    | nil => exact absurd hlt (by simp)
    | cons y list' =>
      rw [List.map_cons, List.map_cons, List.cons_lt_cons_iff]
      rcases List.cons_lt_cons_iff.mp hlt with hxy | ⟨rfl, hrest⟩
      · exact .inl (h x List.mem_cons_self y List.mem_cons_self hxy)
      · exact .inr ⟨rfl, ih (fun x hx y hy => h x (List.mem_cons_of_mem _ hx) y
          (List.mem_cons_of_mem _ hy)) hrest⟩

/-! ## Comparisons by keys -/

section Keys

variable {σ : Type} {key : σ → α} {f : σ → σ → Ordering} {a b c : σ}

theorem compares_keys_swap (h : (f a b).Compares (key a) (key b))
    (h' : (f b a).Compares (key b) (key a)) : f b a = (f a b).swap :=
  h'.inj h.swap

theorem compares_keys_trans (hab : (f a b).Compares (key a) (key b))
    (hbc : (f b c).Compares (key b) (key c)) (hac : (f a c).Compares (key a) (key c))
    (h : f a b ≠ .gt) (h' : f b c ≠ .gt) : f a c ≠ .gt :=
  hac.ne_gt.mpr (le_trans (hab.ne_gt.mp h) (hbc.ne_gt.mp h'))

theorem compares_keys_trans_lt (hab : (f a b).Compares (key a) (key b))
    (hbc : (f b c).Compares (key b) (key c)) (hac : (f a c).Compares (key a) (key c))
    (h : f a b = .lt) (h' : f b c ≠ .gt) : f a c = .lt :=
  hac.eq_lt.mpr (lt_of_lt_of_le (hab.eq_lt.mp h) (hbc.ne_gt.mp h'))

theorem compares_keys_lt_trans (hab : (f a b).Compares (key a) (key b))
    (hbc : (f b c).Compares (key b) (key c)) (hac : (f a c).Compares (key a) (key c))
    (h : f a b ≠ .gt) (h' : f b c = .lt) : f a c = .lt :=
  hac.eq_lt.mpr (lt_of_le_of_lt (hab.ne_gt.mp h) (hbc.eq_lt.mp h'))

end Keys

end Compared
