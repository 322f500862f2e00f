import PlotJugglerSdk.Concurrency.Runs

/-!
# Shared and exclusive locks

The parties of a list hold locks by key. A lock is taken by a try: an exclusive
one fails while anybody holds the key, a shared one while somebody holds it
exclusively. Who holds what is read off the parties by `held`, so a party that
moves on may keep, drop or take a lock by moving.

* `Compatible`           — what two parties can hold at a time
* `Excluding`            — the parties hold compatible locks, two by two
* `Excluding.set_kept`, `Excluding.set_taken` — a party moves
* `Excluding.alone`      — nobody else holds what one holds exclusively
* `canLock_others`       — a party without a lock does not stand in its own way
-/

namespace Locks

inductive Mode where
  | shared
  | exclusive
  deriving DecidableEq

variable {κ α : Type}

/-- What one party holds and what another can hold at the same time. -/
def Compatible : Option (κ × Mode) → Option (κ × Mode) → Prop
  | some (key, mode), some (key', mode') => key = key' → mode = .shared ∧ mode' = .shared
  | _, _ => True

theorem Compatible.symm {a b : Option (κ × Mode)} (h : Compatible a b) : Compatible b a := by
  cases a with
  | none => cases b <;> trivial
  | some a =>
    cases b with
    | none => trivial
    | some b =>
      intro hkey
      exact (h hkey.symm).symm

theorem compatible_none (a : Option (κ × Mode)) : Compatible a none := by
  cases a <;> trivial

variable [DecidableEq κ]

/-- A try for the key in that mode succeeds beside a party that holds `lock`. -/
def admits (key : κ) (mode : Mode) (lock : Option (κ × Mode)) : Bool :=
  match mode with
  | .shared => lock ≠ some (key, .exclusive)
  | .exclusive => lock ≠ some (key, .exclusive) && lock ≠ some (key, .shared)

theorem admits_iff {key : κ} {mode : Mode} {lock : Option (κ × Mode)} :
    admits key mode lock = true ↔ Compatible (some (key, mode)) lock := by
  cases lock with
  | none => cases mode <;> simp [admits, Compatible]
  | some lock =>
    obtain ⟨key', mode'⟩ := lock
    by_cases hkey : key = key'
    · subst hkey
      cases mode <;> cases mode' <;> simp [admits, Compatible]
    · have hkey' : ¬key' = key := fun h => hkey h.symm
      cases mode <;> simp [admits, Compatible, hkey, hkey']

variable (held : α → Option (κ × Mode))

/-- A try for the key in that mode succeeds. -/
def canLock (key : κ) (mode : Mode) (parties : List α) : Bool :=
  parties.all fun party => admits key mode (held party)

def Excluding (parties : List α) : Prop :=
  ∀ (i j : Nat) (a b : α), parties[i]? = some a → parties[j]? = some b → i ≠ j →
    Compatible (held a) (held b)

omit [DecidableEq κ]

variable {held}

theorem excluding_nil : Excluding held [] := by
  intro i j a b hi
  exact absurd hi (by simp)

/-- A party moves to something that is compatible with what the others hold. -/
theorem Excluding.set_of {parties : List α} {i : Nat} (h : Excluding held parties) (b : α)
    (hother : ∀ (j : Nat) (c : α), parties[j]? = some c → i ≠ j → Compatible (held b) (held c)) :
    Excluding held (parties.set i b) := by
  intro j k c d hj hk hjk
  rcases Runs.getElem?_set_cases hj with ⟨rfl, rfl⟩ | ⟨hij, hj'⟩
  · rcases Runs.getElem?_set_cases hk with ⟨rfl, -⟩ | ⟨hik, hk'⟩
    · exact absurd rfl hjk
    · exact hother k d hk' hik
  · rcases Runs.getElem?_set_cases hk with ⟨rfl, rfl⟩ | ⟨hik, hk'⟩
    · exact (hother j c hj' hij).symm
    · exact h j k c d hj' hk' hjk

/-- A party that keeps its lock or drops it. -/
theorem Excluding.set_kept {parties : List α} {i : Nat} {a b : α} (h : Excluding held parties)
    (hfound : parties[i]? = some a) (hkept : held b = held a ∨ held b = none) :
    Excluding held (parties.set i b) := by
  refine h.set_of b fun j c hj hij => ?_
  rcases hkept with hsame | hdropped
  · rw [hsame]
    exact h i j a c hfound hj hij
  · rw [hdropped]
    trivial

/-- A party whose try succeeded. -/
theorem Excluding.set_taken [DecidableEq κ] {parties : List α} {i : Nat} {b : α} {key : κ}
    {mode : Mode}
    (h : Excluding held parties) (hfree : canLock held key mode parties = true)
    (htaken : held b = some (key, mode)) : Excluding held (parties.set i b) := by
  refine h.set_of b fun j c hj _ => ?_
  rw [htaken]
  exact admits_iff.mp (List.all_eq_true.mp hfree c (List.mem_of_getElem? hj))

theorem Excluding.snoc {parties : List α} (h : Excluding held parties) {b : α}
    (hnew : held b = none) : Excluding held (parties ++ [b]) := by
  intro i j c d hi hj hij
  rcases Runs.getElem?_snoc_cases hi with hi | rfl
  · rcases Runs.getElem?_snoc_cases hj with hj | rfl
    · exact h i j c d hi hj hij
    · rw [hnew]
      exact compatible_none _
  · rw [hnew]
    trivial

/-- All parties move, and keep what they hold. -/
theorem Excluding.map {parties : List α} (h : Excluding held parties) {f : α → α}
    (hkept : ∀ a, held (f a) = held a) : Excluding held (parties.map f) := by
  intro i j a b hi hj hij
  rw [List.getElem?_map] at hi hj
  obtain ⟨a, ha, rfl⟩ := Option.map_eq_some_iff.mp hi
  obtain ⟨b, hb, rfl⟩ := Option.map_eq_some_iff.mp hj
  rw [hkept, hkept]
  exact h i j a b ha hb hij

/-- Nobody else holds what one party holds exclusively. -/
theorem Excluding.alone {parties : List α} (h : Excluding held parties) {i j : Nat} {a b : α}
    (hi : parties[i]? = some a) (hj : parties[j]? = some b) {key : κ} {mode : Mode}
    (hexclusive : held a = some (key, .exclusive)) (hheld : held b = some (key, mode)) : i = j := by
  by_cases hij : i = j
  · exact hij
  · have hcompatible := h i j a b hi hj hij
    rw [hexclusive, hheld] at hcompatible
    exact absurd (hcompatible rfl).1 (by decide)

/-- What a party holds, it could lock if the others were asked. -/
theorem Excluding.canLock_others [DecidableEq κ] {parties : List α} {i : Nat} {a : α}
    (h : Excluding held parties) (hi : parties[i]? = some a) {key : κ} {mode : Mode}
    (hheld : held a = some (key, mode)) : canLock held key mode (parties.eraseIdx i) = true := by
  refine List.all_eq_true.mpr fun b hb => ?_
  obtain ⟨j, hj, hij, rfl⟩ := List.mem_eraseIdx_iff_getElem.mp hb
  have hcompatible := h i j a parties[j] hi (List.getElem?_eq_getElem hj) (Ne.symm hij)
  rw [hheld] at hcompatible
  exact admits_iff.mpr hcompatible

theorem canLock_others [DecidableEq κ] {parties : List α} {i : Nat} {a : α}
    (hi : parties[i]? = some a) (hnone : held a = none) (key : κ) (mode : Mode) :
    canLock held key mode parties = canLock held key mode (parties.eraseIdx i) := by
  obtain ⟨hlt, rfl⟩ := List.getElem?_eq_some_iff.mp hi
  have hself : admits key mode (held parties[i]) = true := by
    rw [hnone]
    cases mode <;> rfl
  unfold canLock
  rw [List.eraseIdx_eq_take_drop_succ]
  conv_lhs => rw [← List.take_append_drop i parties, List.drop_eq_getElem_cons hlt]
  rw [List.all_append, List.all_append, List.all_cons, hself, Bool.true_and]

end Locks
