import Mathlib.Data.List.Basic

/-!
# Texts cut at separators

A text is cut at the first occurrence of an element, or into the pieces between all of them.

* `cut_eq_iff`          — the two sides of the first separator
* `cutAt_append`, `cutAt_eq_some`      — the two sides of the first occurrence of a word
* `cutLast_append`, `cutLast_eq_some`  — the two sides of the last separator
* `splitOn_eq_iff`      — the pieces, and the text that they make
-/

namespace Lexing

variable {α : Type}

section Cut

variable [DecidableEq α]

/-- What stands before the first separator, and what behind it, if there is one. -/
def cut (sep : α) : List α → List α × Option (List α)
  | [] => ([], none)
  | x :: rest => if x = sep then ([], some rest) else (x :: (cut sep rest).1, (cut sep rest).2)

/-- A first part, and a separator before the second. -/
def rejoined (sep : α) : List α × Option (List α) → List α
  | (first, none) => first
  | (first, some rest) => first ++ sep :: rest

theorem cut_of_notMem {sep : α} {list : List α} (h : sep ∉ list) : cut sep list = (list, none) := by
  induction list with
  | nil => rfl
  | cons x rest ih =>
    rw [List.mem_cons, not_or] at h
    rw [cut, if_neg (Ne.symm h.1), ih h.2]

theorem cut_append {sep : α} {first : List α} (h : sep ∉ first) (rest : List α) :
    cut sep (first ++ sep :: rest) = (first, some rest) := by
  induction first with
  | nil => rw [List.nil_append, cut, if_pos rfl]
  | cons x first ih =>
    rw [List.mem_cons, not_or] at h
    rw [List.cons_append, cut, if_neg (Ne.symm h.1), ih h.2]

theorem cut_rejoined {sep : α} {parts : List α × Option (List α)} (h : sep ∉ parts.1) :
    cut sep (rejoined sep parts) = parts := by
  obtain ⟨first, rest⟩ := parts
  cases rest with
  | none => exact cut_of_notMem h
  | some rest => exact cut_append h rest

theorem rejoined_cut (sep : α) (list : List α) : rejoined sep (cut sep list) = list := by
  induction list with
  | nil => rfl
  | cons x rest ih =>
    unfold cut
    split
    · next heq => rw [heq, rejoined, List.nil_append]
    · -- one more element before the separator, whether there is one or not
      cases hcut : cut sep rest with
      | mk first tail =>
        rw [hcut] at ih
        cases tail <;> exact congrArg (x :: ·) ih

theorem notMem_cut (sep : α) (list : List α) : sep ∉ (cut sep list).1 := by
  induction list with
  | nil => exact List.not_mem_nil
  | cons x rest ih =>
    unfold cut
    split
    · exact List.not_mem_nil
    · next hne =>
      intro hmem
      rcases List.mem_cons.mp hmem with heq | hmem
      · exact hne heq.symm
      · exact ih hmem

theorem cut_eq_iff {sep : α} {list : List α} {parts : List α × Option (List α)} :
    cut sep list = parts ↔ sep ∉ parts.1 ∧ rejoined sep parts = list := by
  constructor
  · rintro rfl
    exact ⟨notMem_cut sep list, rejoined_cut sep list⟩
  · rintro ⟨hnot, rfl⟩
    exact cut_rejoined hnot

/-! ## All the pieces -/

theorem notMem_splitOn (sep : α) (list : List α) : ∀ part ∈ list.splitOn sep, sep ∉ part := by
  induction list with
  | nil =>
    intro part hmem
    rw [List.splitOn_nil, List.mem_singleton] at hmem
    rw [hmem]
    exact List.not_mem_nil
  | cons x rest ih =>
    rw [List.splitOn_cons_eq_if_modifyHead]
    split
    · intro part hmem
      rcases List.mem_cons.mp hmem with rfl | hmem
      · exact List.not_mem_nil
      · exact ih part hmem
    · next hne =>
      intro part hmem
      -- the first piece of the rest grows by an element that is no separator
      cases hsplit : rest.splitOn sep with
      | nil => exact absurd hsplit (List.splitOn_ne_nil sep rest)
      | cons first more =>
        rw [hsplit] at hmem ih
        rcases List.mem_cons.mp hmem with rfl | hmem
        · intro hsep
          rcases List.mem_cons.mp hsep with heq | hsep
          · exact hne (beq_iff_eq.mpr heq.symm)
          · exact ih first List.mem_cons_self hsep
        · exact ih part (List.mem_cons_of_mem first hmem)

theorem splitOn_eq_iff {sep : α} {list : List α} {parts : List (List α)} :
    list.splitOn sep = parts ↔
      parts ≠ [] ∧ (∀ part ∈ parts, sep ∉ part) ∧ [sep].intercalate parts = list := by
  constructor
  · rintro rfl
    exact ⟨List.splitOn_ne_nil sep list, notMem_splitOn sep list, List.intercalate_splitOn sep⟩
  · rintro ⟨hne, hnot, rfl⟩
    exact List.splitOn_intercalate sep hnot hne

end Cut

/-- What holds of the separator and of the elements of the pieces holds of the whole text. -/
theorem forall_mem_intercalate {sep : α} {holds : α → Prop} (hsep : holds sep)
    {parts : List (List α)} (h : ∀ part ∈ parts, ∀ x ∈ part, holds x) :
    ∀ x ∈ [sep].intercalate parts, holds x := by
  induction parts with
  | nil => exact fun x hmem => absurd hmem List.not_mem_nil
  | cons part parts ih =>
    cases parts with
    | nil =>
      rw [List.intercalate_singleton]
      exact h part List.mem_cons_self
    | cons next parts =>
      rw [List.intercalate_cons_cons]
      intro x hmem
      rw [List.mem_append, List.mem_append, List.mem_singleton] at hmem
      rcases hmem with (hmem | rfl) | hmem
      · exact h part List.mem_cons_self x hmem
      · exact hsep
      · exact ih (fun part hpart => h part (List.mem_cons_of_mem _ hpart)) x hmem

theorem intercalate_ne_nil {sep : α} {parts : List (List α)} (hne : parts ≠ [])
    (h : ∀ part ∈ parts, part ≠ []) : [sep].intercalate parts ≠ [] := by
  cases parts with
  | nil => exact absurd rfl hne
  | cons part parts =>
    cases parts with
    | nil =>
      rw [List.intercalate_singleton]
      exact h part List.mem_cons_self
    | cons next parts =>
      rw [List.intercalate_cons_cons]
      exact fun hnil => h part List.mem_cons_self (List.append_eq_nil_iff.mp
        (List.append_eq_nil_iff.mp hnil).1).1

/-! ## The first occurrence of a word, and the last of an element -/

section CutAt

variable [DecidableEq α]

/-- What stands before the first occurrence of a word, and what behind it. -/
def cutAt (word : List α) : List α → Option (List α × List α)
  | [] => if word = [] then some ([], []) else none
  | x :: rest =>
    if word.isPrefixOf (x :: rest) then some ([], (x :: rest).drop word.length)
    else (cutAt word rest).map fun parts => (x :: parts.1, parts.2)

/-- What stands before the last occurrence of an element, and what behind it. -/
def cutLast (sep : α) : List α → Option (List α × List α)
  | [] => none
  | x :: rest =>
    match cutLast sep rest with
    | some parts => some (x :: parts.1, parts.2)
    | none => if x = sep then some ([], rest) else none

theorem cutAt_append {word first : List α} (h : ¬ word <:+: first ++ word.dropLast)
    (rest : List α) :
    cutAt word (first ++ word ++ rest) = some (first, rest) := by
  induction first with
  | nil =>
    rw [List.nil_append]
    cases word with
    | nil => exact absurd List.infix_rfl h
    | cons x word =>
      rw [List.cons_append, cutAt, if_pos, ← List.cons_append, List.drop_left]
      exact List.isPrefixOf_iff_prefix.mpr (List.prefix_append (x :: word) rest)
  | cons x first ih =>
    rw [List.cons_append, List.infix_cons_iff, not_or] at h
    rw [List.cons_append, List.cons_append, cutAt, if_neg, ih h.2, Option.map_some]
    -- an occurrence here would end before the one that is behind
    intro hbegins
    have hwhole := List.isPrefixOf_iff_prefix.mp hbegins
    have hfront : x :: (first ++ word.dropLast) <+: x :: (first ++ word ++ rest) := by
      rw [List.cons_prefix_cons, List.append_assoc]
      exact ⟨rfl, List.prefix_append_right_inj first |>.mpr
        ((List.dropLast_prefix word).trans (List.prefix_append word rest))⟩
    refine h.1 (List.prefix_of_prefix_length_le hwhole hfront ?_)
    rw [List.length_cons, List.length_append, List.length_dropLast]
    omega

theorem cutAt_eq_some {word list first rest : List α} (h : cutAt word list = some (first, rest)) :
    list = first ++ word ++ rest ∧ (word ≠ [] → ¬ word <:+: first ++ word.dropLast) := by
  induction list generalizing first with
  | nil =>
    rw [cutAt] at h
    split at h
    · next hnil =>
      obtain ⟨rfl, rfl⟩ := Prod.mk.inj (Option.some.inj h)
      exact ⟨by rw [hnil]; rfl, fun hne => absurd hnil hne⟩
    · cases h
  | cons x list ih =>
    rw [cutAt] at h
    split at h
    · next hbegins =>
      obtain ⟨rfl, rfl⟩ := Prod.mk.inj (Option.some.inj h)
      obtain ⟨tail, htail⟩ := List.isPrefixOf_iff_prefix.mp hbegins
      refine ⟨by rw [← htail, List.drop_left, List.nil_append], fun hne hinfix => ?_⟩
      -- nothing stands before the word, and a part of it is too short for it
      have hlength := hinfix.length_le
      rw [List.nil_append, List.length_dropLast] at hlength
      have hpos := List.length_pos_iff.mpr hne
      omega
    · next hbegins =>
      obtain ⟨⟨front, tail⟩, hcut, hparts⟩ := Option.map_eq_some_iff.mp h
      obtain ⟨rfl, rfl⟩ := Prod.mk.inj hparts
      obtain ⟨hlist, hno⟩ := ih hcut
      refine ⟨by rw [hlist]; rfl, fun hne hinfix => ?_⟩
      -- an earlier occurrence would start here, where the word does not, or further on
      rw [List.cons_append] at hinfix
      cases List.infix_cons_iff.mp hinfix with
      | inr hbehind => exact hno hne hbehind
      | inl hhere =>
        apply hbegins
        rw [List.isPrefixOf_iff_prefix, hlist]
        refine hhere.trans ?_
        rw [List.cons_prefix_cons, List.append_assoc]
        exact ⟨rfl, (List.prefix_append_right_inj front).mpr
          ((List.dropLast_prefix word).trans (List.prefix_append word tail))⟩

theorem cutLast_eq_none_iff {sep : α} {list : List α} : cutLast sep list = none ↔ sep ∉ list := by
  induction list with
  | nil => exact ⟨fun _ => List.not_mem_nil, fun _ => rfl⟩
  | cons x rest ih =>
    rw [cutLast, List.mem_cons, not_or, ← ih]
    cases cutLast sep rest with
    | some parts => exact ⟨fun h => (by cases h), fun h => (by cases h.2)⟩
    | none =>
      dsimp only
      split
      · next heq => exact ⟨fun h => (by cases h), fun h => absurd heq.symm h.1⟩
      · next hne => exact ⟨fun _ => ⟨Ne.symm hne, rfl⟩, fun _ => rfl⟩

theorem cutLast_append {sep : α} {rest : List α} (first : List α) (h : sep ∉ rest) :
    cutLast sep (first ++ sep :: rest) = some (first, rest) := by
  induction first with
  | nil =>
    rw [List.nil_append, cutLast, cutLast_eq_none_iff.mpr h]
    exact if_pos rfl
  | cons x first ih => rw [List.cons_append, cutLast, ih]

theorem cutLast_eq_some {sep : α} {list first rest : List α}
    (h : cutLast sep list = some (first, rest)) :
    list = first ++ sep :: rest ∧ sep ∉ rest := by
  induction list generalizing first with
  | nil => cases h
  | cons x list ih =>
    rw [cutLast] at h
    split at h
    · next parts hcut =>
      obtain ⟨rfl, rfl⟩ := Prod.mk.inj (Option.some.inj h)
      obtain ⟨hlist, hnot⟩ := ih hcut
      exact ⟨by rw [hlist]; rfl, hnot⟩
    · next hnone =>
      split at h
      · next heq =>
        obtain ⟨rfl, rfl⟩ := Prod.mk.inj (Option.some.inj h)
        exact ⟨by rw [heq]; rfl, cutLast_eq_none_iff.mp hnone⟩
      · cases h

end CutAt

end Lexing
