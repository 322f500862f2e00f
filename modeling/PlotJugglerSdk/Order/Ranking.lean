import Mathlib.Data.List.Sort

/-!
# Sorting by a ranking

Comparison functions of the kind a sort is given: a chain of keys, each deciding
where the ones before it are equal. Such a function ranks (`Ranked`) as soon as
every key is decisive (`Ranked.rankBy`), and where no two elements of a list tie,
there is one sorted arrangement of it, whatever order it came in
(`eq_sortBy`, `sortBy_perm`). A sorted list has a key twice only where two
neighbours have it (`nodup_of_sorted`).
-/

namespace Ranking

variable {α κ : Type}

/-- A strict total order, as a test. -/
structure Decisive (before : κ → κ → Bool) : Prop where
  asymm : ∀ {a b}, before a b = true → before b a = false
  trans : ∀ {a b c}, before a b = true → before b c = true → before a c = true
  total : ∀ {a b}, a ≠ b → before a b = true ∨ before b a = true

/-- A strict weak order, as a test. -/
structure Ranked (less : α → α → Bool) : Prop where
  asymm : ∀ {a b}, less a b = true → less b a = false
  negTrans : ∀ {a b c}, less a b = false → less b c = false → less a c = false

/-- Compare by a key, and by `rest` where it is equal. -/
def rankBy [DecidableEq κ] (key : α → κ) (before : κ → κ → Bool) (rest : α → α → Bool)
    (a b : α) : Bool :=
  if key a ≠ key b then before (key a) (key b) else rest a b

theorem ranked_none : Ranked (fun _ _ : α => false) :=
  ⟨fun h => by simp at h, fun _ _ => rfl⟩

theorem Decisive.not_before {before : κ → κ → Bool} (h : Decisive before) {a b : κ}
    (hne : a ≠ b) (hnot : before a b = false) : before b a = true := by
  rcases h.total hne with hab | hba
  · rw [hab] at hnot
    exact absurd hnot (by simp)
  · exact hba

theorem Ranked.rankBy [DecidableEq κ] {key : α → κ} {before : κ → κ → Bool}
    {rest : α → α → Bool} (hkey : Decisive before) (hrest : Ranked rest) :
    Ranked (rankBy key before rest) := by
  refine ⟨?_, ?_⟩
  · intro a b hab
    unfold Ranking.rankBy at hab ⊢
    by_cases heq : key a = key b
    · rw [if_neg (not_not.mpr heq)] at hab
      rw [if_neg (not_not.mpr heq.symm)]
      exact hrest.asymm hab
    · rw [if_pos heq] at hab
      rw [if_pos (Ne.symm heq)]
      exact hkey.asymm hab
  · intro a b c hab hbc
    unfold Ranking.rankBy at hab hbc ⊢
    by_cases hkab : key a = key b
    · rw [if_neg (not_not.mpr hkab)] at hab
      rw [hkab]
      by_cases hkbc : key b = key c
      · rw [if_neg (not_not.mpr hkbc)] at hbc ⊢
        exact hrest.negTrans hab hbc
      · rw [if_pos hkbc] at hbc ⊢
        exact hbc
    · rw [if_pos hkab] at hab
      have hba := hkey.not_before hkab hab
      by_cases hkbc : key b = key c
      · rw [hkbc] at hkab hab
        rw [if_pos hkab]
        exact hab
      · rw [if_pos hkbc] at hbc
        -- `c` comes before `b` and `b` before `a`
        have hca := hkey.trans (hkey.not_before hkbc hbc) hba
        have hkac : key a ≠ key c := by
          intro heq
          rw [heq] at hca
          exact absurd (hkey.asymm hca) (by simp [hca])
        rw [if_pos hkac]
        exact hkey.asymm hca

/-- A tie is a tie in the key and in the rest. -/
theorem rankBy_tie [DecidableEq κ] {key : α → κ} {before : κ → κ → Bool} {rest : α → α → Bool}
    (hkey : Decisive before) {a b : α} (hab : rankBy key before rest a b = false)
    (hba : rankBy key before rest b a = false) :
    key a = key b ∧ rest a b = false ∧ rest b a = false := by
  unfold rankBy at hab hba
  by_cases heq : key a = key b
  · rw [if_neg (not_not.mpr heq)] at hab
    rw [if_neg (not_not.mpr heq.symm)] at hba
    exact ⟨heq, hab, hba⟩
  · rw [if_pos heq] at hab
    rw [if_pos (Ne.symm heq), hkey.not_before heq hab] at hba
    exact absurd hba (by simp)

/-- Sorted by `less`. -/
def sortBy (less : α → α → Bool) (l : List α) : List α := l.mergeSort fun a b => !less b a

theorem sortBy_perm_self (less : α → α → Bool) (l : List α) : (sortBy less l).Perm l :=
  List.mergeSort_perm l _

theorem mem_sortBy {less : α → α → Bool} {l : List α} {a : α} : a ∈ sortBy less l ↔ a ∈ l :=
  (sortBy_perm_self less l).mem_iff

theorem sortBy_pairwise {less : α → α → Bool} (h : Ranked less) (l : List α) :
    (sortBy less l).Pairwise fun a b => less b a = false := by
  have hsorted : (sortBy less l).Pairwise fun a b => (!less b a) = true := by
    apply List.pairwise_mergeSort
    · intro a b c hab hbc
      rw [Bool.not_eq_true'] at hab hbc ⊢
      exact h.negTrans hbc hab
    · intro a b
      cases hba : less b a with
      | false => rfl
      | true => simp [h.asymm hba]
  exact hsorted.imp fun hab => by simpa using hab

/-- Every sorted arrangement of a list without ties is `sortBy`'s. -/
theorem eq_sortBy {less : α → α → Bool} (h : Ranked less) {l sorted : List α}
    (hties : ∀ a ∈ l, ∀ b ∈ l, less a b = false → less b a = false → a = b)
    (hperm : sorted.Perm l) (hsorted : sorted.Pairwise fun a b => less b a = false) :
    sorted = sortBy less l := by
  refine List.Perm.eq_of_pairwise ?_ hsorted (sortBy_pairwise h l)
    (hperm.trans (sortBy_perm_self less l).symm)
  intro a b ha hb hba hab
  exact hties a (hperm.mem_iff.mp ha) b (mem_sortBy.mp hb) hab hba

theorem sortBy_perm {less : α → α → Bool} (h : Ranked less) {l l' : List α}
    (hties : ∀ a ∈ l, ∀ b ∈ l, less a b = false → less b a = false → a = b)
    (hperm : l'.Perm l) : sortBy less l' = sortBy less l :=
  eq_sortBy h hties ((sortBy_perm_self less l').trans hperm) (sortBy_pairwise h l')

/-! ## Keys that stand once -/

theorem decisive_bytes : Decisive fun a b : List UInt8 => decide (a < b) := by
  refine ⟨?_, ?_, ?_⟩
  · intro a b hab
    simp only [decide_eq_true_eq, decide_eq_false_iff_not] at hab ⊢
    exact fun hba => List.lt_irrefl _ (List.lt_trans hab hba)
  · intro a b c hab hbc
    simp only [decide_eq_true_eq] at hab hbc ⊢
    exact List.lt_trans hab hbc
  · intro a b hne
    simp only [decide_eq_true_eq]
    by_contra hnot
    rw [not_or] at hnot
    exact hne (List.le_antisymm (List.not_lt.mp hnot.2) (List.not_lt.mp hnot.1))

theorem decisive_uint32 : Decisive fun a b : UInt32 => decide (a < b) := by
  refine ⟨?_, ?_, ?_⟩
  · intro a b hab
    simp only [decide_eq_true_eq, decide_eq_false_iff_not] at hab ⊢
    exact fun hba => UInt32.lt_irrefl _ (UInt32.lt_trans hab hba)
  · intro a b c hab hbc
    simp only [decide_eq_true_eq] at hab hbc ⊢
    exact UInt32.lt_trans hab hbc
  · intro a b hne
    simp only [decide_eq_true_eq]
    exact UInt32.lt_or_lt_of_ne hne

theorem Decisive.ranked {before : κ → κ → Bool} (h : Decisive before) (key : α → κ) :
    Ranked fun a b => before (key a) (key b) := by
  refine ⟨h.asymm, ?_⟩
  intro a b c hab hbc
  by_cases heq : key a = key b
  · rw [heq]
    exact hbc
  by_cases heq' : key b = key c
  · rw [← heq']
    exact hab
  exact h.asymm (h.trans (h.not_before heq' hbc) (h.not_before heq hab))

/-- Some two neighbours have one key. -/
def equalNeighbours [DecidableEq κ] (key : α → κ) : List α → Bool
  | first :: second :: more => key first = key second || equalNeighbours key (second :: more)
  | _ => false

theorem nodup_of_sorted [DecidableEq κ] {key : α → κ} {before : κ → κ → Bool}
    (h : Decisive before) {l : List α}
    (hsorted : l.Pairwise fun a b => before (key b) (key a) = false)
    (hneighbours : equalNeighbours key l = false) : (l.map key).Nodup := by
  induction l with
  | nil => exact List.nodup_nil
  | cons first l ih =>
    cases l with
    | nil => exact List.nodup_singleton _
    | cons second more =>
      rw [equalNeighbours, Bool.or_eq_false_iff, decide_eq_false_iff_not] at hneighbours
      obtain ⟨hfirst, hrest⟩ := List.pairwise_cons.mp hsorted
      refine List.nodup_cons.mpr ⟨?_, ih hrest hneighbours.2⟩
      intro hmem
      obtain ⟨other, hother, heq⟩ := List.mem_map.mp hmem
      have hlt : before (key first) (key second) = true :=
        h.not_before (Ne.symm hneighbours.1) (hfirst second List.mem_cons_self)
      -- whatever has the first key would have to come before the second
      obtain rfl | hmore := List.mem_cons.mp hother
      · exact hneighbours.1 heq.symm
      · have hnot : before (key other) (key second) = false :=
          (List.pairwise_cons.mp hrest).1 other hmore
        rw [heq, hlt] at hnot
        exact nomatch hnot

end Ranking
