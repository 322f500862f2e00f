import Mathlib.Data.List.DropRight

/-!
# Trimmed lists

A list without its first and last elements of a kind, and what of a longer list is left when
it is trimmed.

* `trimmed`               — both ends
* `trimmed_around`        — a part between two elements that stay
-/

namespace Lexing

variable {α : Type} {p : α → Bool}

def trimmed (p : α → Bool) (list : List α) : List α := (list.dropWhile p).rdropWhile p

theorem drop_length_takeWhile (list : List α) :
    list.drop (list.takeWhile p).length = list.dropWhile p := by
  induction list with
  | nil => rfl
  | cons x list ih =>
    by_cases hx : p x
    · rw [List.takeWhile_cons_of_pos hx, List.dropWhile_cons_of_pos hx, List.length_cons,
        List.drop_succ_cons, ih]
    · rw [List.takeWhile_cons_of_neg hx, List.dropWhile_cons_of_neg hx]
      rfl

theorem dropWhile_append_all {first : List α} (h : ∀ x ∈ first, p x) (more : List α) :
    (first ++ more).dropWhile p = more.dropWhile p :=
  List.dropWhile_append_of_pos h

theorem dropWhile_of_head {list : List α} (h : ∀ x, list.head? = some x → ¬ p x) :
    list.dropWhile p = list := by
  cases list with
  | nil => rfl
  | cons x list => exact List.dropWhile_cons_of_neg (h x rfl)

theorem rdropWhile_append_all (first : List α) {more : List α} (h : ∀ x ∈ more, p x) :
    (first ++ more).rdropWhile p = first.rdropWhile p := by
  induction more using List.reverseRecOn with
  | nil => rw [List.append_nil]
  | append_singleton more x ih =>
    rw [← List.append_assoc, List.rdropWhile_concat_pos p (first ++ more) x (h x (by simp)),
      ih fun y hy => h y (by simp [hy])]

/-- Trimming at the end stops at an element that stays. -/
theorem rdropWhile_append_of_ne_nil (first : List α) {more : List α} (h : more.rdropWhile p ≠ []) :
    (first ++ more).rdropWhile p = first ++ more.rdropWhile p := by
  induction more using List.reverseRecOn with
  | nil => exact absurd (List.rdropWhile_nil p) h
  | append_singleton more x ih =>
    by_cases hx : p x
    · rw [List.rdropWhile_concat_pos p more x hx] at h ⊢
      rw [← List.append_assoc, List.rdropWhile_concat_pos p _ x hx, ih h]
    · rw [List.rdropWhile_concat_neg p more x hx, ← List.append_assoc,
        List.rdropWhile_concat_neg p _ x hx]

theorem rdropWhile_append_of_last (first : List α) {last : α} (hlast : ¬ p last) (more : List α) :
    (first ++ [last] ++ more).rdropWhile p = first ++ [last] ++ more.rdropWhile p := by
  by_cases h : more.rdropWhile p = []
  · rw [h, List.append_nil, rdropWhile_append_all _ (List.rdropWhile_eq_nil_iff.mp h),
      List.rdropWhile_concat_neg p first last hlast]
  · exact rdropWhile_append_of_ne_nil _ h

theorem mem_dropWhile_iff {x : α} (hx : ¬ p x) {list : List α} :
    x ∈ list.dropWhile p ↔ x ∈ list := by
  constructor
  · exact fun h => (List.dropWhile_suffix p).subset h
  · intro h
    rw [← List.takeWhile_append_dropWhile (p := p) (l := list), List.mem_append] at h
    exact h.resolve_left fun htaken => hx (List.mem_takeWhile_imp htaken)

theorem trimmed_append_all_left {first : List α} (h : ∀ x ∈ first, p x) (more : List α) :
    trimmed p (first ++ more) = trimmed p more := by
  unfold trimmed
  rw [dropWhile_append_all h]

theorem trimmed_append_all_right (first : List α) {more : List α} (h : ∀ x ∈ more, p x) :
    trimmed p (first ++ more) = trimmed p first := by
  unfold trimmed
  by_cases hfirst : first.dropWhile p = []
  · rw [dropWhile_append_all (List.dropWhile_eq_nil_iff.mp hfirst), hfirst, List.rdropWhile_nil,
      List.rdropWhile_eq_nil_iff]
    exact fun x hx => h x ((List.dropWhile_suffix p).subset hx)
  · rw [List.dropWhile_append, if_neg (by simpa using hfirst), rdropWhile_append_all _ h]

/-- What stands between an element that stays and the end is trimmed at the end only. -/
theorem trimmed_around {first middle : List α} (hfirst : ∀ x ∈ first, p x)
    (hhead : ∀ x, middle.head? = some x → ¬ p x) {last : α} (hlast : middle.getLast? = some last)
    (hstays : ¬ p last) (more : List α) :
    trimmed p (first ++ middle ++ more) = middle ++ more.rdropWhile p := by
  obtain ⟨front, rfl⟩ := List.getLast?_eq_some_iff.mp hlast
  rw [List.append_assoc, trimmed_append_all_left hfirst]
  unfold trimmed
  rw [dropWhile_of_head]
  · exact rdropWhile_append_of_last front hstays more
  · intro x hx
    refine hhead x ?_
    rw [List.append_assoc] at hx
    cases front with
    | nil => exact hx
    | cons y front => exact hx

/-- Trimming at the end is part of trimming. -/
theorem trimmed_rdropWhile (list : List α) : trimmed p (list.rdropWhile p) = trimmed p list := by
  have hsplit : list.rdropWhile p ++ list.rtakeWhile p = list := List.rdropWhile_append_rtakeWhile
  calc trimmed p (list.rdropWhile p)
      = trimmed p (list.rdropWhile p ++ list.rtakeWhile p) :=
        (trimmed_append_all_right _ fun _ hx => List.mem_rtakeWhile_imp hx).symm
    _ = trimmed p list := by rw [hsplit]

theorem head_eq_of_begins {list list' : List α} (h : list <+: list') (hne : list ≠ []) :
    list.head? = list'.head? := by
  obtain ⟨rest, rfl⟩ := h
  exact (List.head?_append_of_ne_nil list hne).symm

theorem trimmed_eq_nil_iff {list : List α} : trimmed p list = [] ↔ ∀ x ∈ list, p x := by
  unfold trimmed
  rw [List.rdropWhile_eq_nil_iff]
  constructor
  · intro h x hx
    by_contra hstays
    exact hstays (h x ((mem_dropWhile_iff hstays).mpr hx))
  · exact fun h x hx => h x ((List.dropWhile_suffix p).subset hx)

end Lexing
