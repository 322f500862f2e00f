import Mathlib.Data.List.Forall2

/-!
# Loops that may fail

A loop over a list that stops at the first failure, and what holds after one that went
through.

* `bind_eq_ok`          — two steps
* `mapError_ok_iff`     — an error that is told in other words
* `mapM_ok_iff`, `mapM_some_iff` — element by element
* `foldlM_ok_iff`       — with an accumulator that each element has its part in
* `foldlM_invariant`    — with an accumulator
* `foldlM_appends`      — with a list that grows
* `foldlM_distinct_iff` — with a list of items that differ
* `foldlM_errors`       — how such a loop fails
* `foldlM_at`           — where it stands before one of its elements
* `Fails`               — errors of one kind only
-/

namespace Scan

variable {ε α β σ : Type}

theorem bind_eq_ok {result : Except ε α} {next : α → Except ε β} {value : β} :
    (result >>= next) = .ok value ↔ ∃ first, result = .ok first ∧ next first = .ok value := by
  cases result with
  | error e =>
    constructor
    · intro h
      cases h
    · rintro ⟨first, h, -⟩
      cases h
  | ok first =>
    constructor
    · intro h
      exact ⟨first, rfl, h⟩
    · rintro ⟨other, hother, h⟩
      rw [Except.ok.inj hother]
      exact h

section MapError

variable {ε' : Type} {rename : ε → ε'} {result : Except ε α}

theorem mapError_ok_iff {value : α} : result.mapError rename = .ok value ↔ result = .ok value := by
  cases result with
  | error e => exact ⟨nofun, nofun⟩
  | ok a =>
    show Except.ok a = .ok value ↔ Except.ok a = .ok value
    rw [Except.ok.injEq, Except.ok.injEq]

theorem mapError_error_iff {e : ε'} :
    result.mapError rename = .error e ↔ ∃ cause, result = .error cause ∧ e = rename cause := by
  cases result with
  | error cause =>
    constructor
    · intro h
      exact ⟨cause, rfl, (Except.error.inj h).symm⟩
    · rintro ⟨_, h, rfl⟩
      rw [Except.error.inj h]
      rfl
  | ok a =>
    constructor
    · intro h
      cases h
    · rintro ⟨_, h, -⟩
      cases h

end MapError

theorem mapM_ok_iff {f : α → Except ε β} {list : List α} {list' : List β} :
    list.mapM f = .ok list' ↔ List.Forall₂ (fun a b => f a = .ok b) list list' := by
  induction list generalizing list' with
  | nil =>
    rw [List.mapM_nil, List.forall₂_nil_left_iff]
    constructor
    · intro h
      exact (Except.ok.inj h).symm
    · rintro rfl
      rfl
  | cons a list ih =>
    rw [List.mapM_cons, bind_eq_ok, List.forall₂_cons_left_iff]
    constructor
    · rintro ⟨b, hb, hrest⟩
      obtain ⟨rest, hlist, hcons⟩ := bind_eq_ok.mp hrest
      exact ⟨b, rest, hb, ih.mp hlist, (Except.ok.inj hcons).symm⟩
    · rintro ⟨b, rest, hb, hrest, rfl⟩
      exact ⟨b, hb, bind_eq_ok.mpr ⟨rest, ih.mpr hrest, rfl⟩⟩

/-- The same by what is read of each element. -/
theorem mapM_related_iff {f : α → Except ε β} {related : α → β → Prop} {list : List α}
    (h : ∀ a ∈ list, ∀ b, f a = .ok b ↔ related a b) {list' : List β} :
    list.mapM f = .ok list' ↔ List.Forall₂ related list list' := by
  rw [mapM_ok_iff, List.forall₂_iff_zip, List.forall₂_iff_zip]
  exact and_congr_right fun _ => forall₂_congr fun a b => forall_congr' fun hmem =>
    h a (List.of_mem_zip hmem).1 b

/-- The same of a loop that gives no reason. -/
theorem mapM_some_iff {f : α → Option β} {list : List α} {list' : List β} :
    list.mapM f = some list' ↔ List.Forall₂ (fun a b => f a = some b) list list' := by
  induction list generalizing list' with
  | nil =>
    rw [List.mapM_nil, List.forall₂_nil_left_iff]
    constructor
    · intro h
      exact (Option.some.inj h).symm
    · rintro rfl
      rfl
  | cons a list ih =>
    rw [List.mapM_cons, List.forall₂_cons_left_iff]
    constructor
    · intro h
      obtain ⟨b, hb, hrest⟩ := Option.bind_eq_some_iff.mp h
      obtain ⟨rest, hlist, hcons⟩ := Option.bind_eq_some_iff.mp hrest
      exact ⟨b, rest, hb, ih.mp hlist, (Option.some.inj hcons).symm⟩
    · rintro ⟨b, rest, hb, hrest, rfl⟩
      exact Option.bind_eq_some_iff.mpr
        ⟨b, hb, Option.bind_eq_some_iff.mpr ⟨rest, ih.mpr hrest, rfl⟩⟩

theorem exists_of_forall₂_right {related : α → β → Prop} {list : List α} {list' : List β}
    (h : List.Forall₂ related list list') {b : β} (hb : b ∈ list') : ∃ a ∈ list, related a b := by
  induction h with
  | nil => exact nomatch hb
  | cons hone _ ih =>
    obtain rfl | hb := List.mem_cons.mp hb
    · exact ⟨_, List.mem_cons_self, hone⟩
    · obtain ⟨a, ha, hrelated⟩ := ih hb
      exact ⟨a, List.mem_cons_of_mem _ ha, hrelated⟩

/-- Every element has an image exactly where there is a list of images. -/
theorem exists_forall₂_iff {related : α → β → Prop} {list : List α} :
    (∃ list', List.Forall₂ related list list') ↔ ∀ a ∈ list, ∃ b, related a b := by
  induction list with
  | nil => exact ⟨fun _ => nofun, fun _ => ⟨[], .nil⟩⟩
  | cons a list ih =>
    rw [List.forall_mem_cons, ← ih]
    constructor
    · rintro ⟨list', h⟩
      obtain ⟨b, rest, hone, hrest, -⟩ := List.forall₂_cons_left_iff.mp h
      exact ⟨⟨b, hone⟩, rest, hrest⟩
    · rintro ⟨⟨b, hone⟩, rest, hrest⟩
      exact ⟨b :: rest, .cons hone hrest⟩

theorem exists_of_forall₂_left {related : α → β → Prop} {list : List α} {list' : List β}
    (h : List.Forall₂ related list list') {a : α} (ha : a ∈ list) : ∃ b ∈ list', related a b :=
  exists_of_forall₂_right (List.Forall₂.flip h) ha

/-- A loop that reads something of each element, and puts it into its state. -/
theorem foldlM_ok_iff {f : σ → α → Except ε σ} {put : σ → β → σ} {related : α → β → Prop}
    {list : List α}
    (hstep : ∀ a ∈ list, ∀ state state', f state a = .ok state' ↔ ∃ b, related a b ∧ state' = put state b)
    {state state' : σ} :
    list.foldlM f state = .ok state' ↔
      ∃ list', List.Forall₂ related list list' ∧ state' = list'.foldl put state := by
  induction list generalizing state with
  | nil =>
    rw [List.foldlM_nil]
    constructor
    · intro h
      exact ⟨[], .nil, (Except.ok.inj h).symm⟩
    · rintro ⟨list', hrelated, rfl⟩
      cases hrelated
      rfl
  | cons a list ih =>
    have ih' := fun state => @ih (fun b hb => hstep b (List.mem_cons_of_mem a hb)) state
    rw [List.foldlM_cons, bind_eq_ok]
    constructor
    · rintro ⟨next, hnext, hrest⟩
      obtain ⟨b, hb, rfl⟩ := (hstep a List.mem_cons_self state next).mp hnext
      obtain ⟨list', hrelated, rfl⟩ := (ih' _).mp hrest
      exact ⟨b :: list', .cons hb hrelated, rfl⟩
    · rintro ⟨list', hrelated, rfl⟩
      cases hrelated with
      | cons hb hrest =>
        exact ⟨_, (hstep a List.mem_cons_self state _).mpr ⟨_, hb, rfl⟩,
          (ih' _).mpr ⟨_, hrest, rfl⟩⟩

/-- A loop that goes through keeps what every step of it keeps. -/
theorem foldlM_invariant {f : σ → α → Except ε σ} (holds : σ → Prop) {list : List α}
    (hstep : ∀ a ∈ list, ∀ state state', holds state → f state a = .ok state' → holds state')
    {state state' : σ} (hstate : holds state) (h : list.foldlM f state = .ok state') :
    holds state' := by
  induction list generalizing state with
  | nil =>
    rw [List.foldlM_nil] at h
    rw [← Except.ok.inj h]
    exact hstate
  | cons a list ih =>
    rw [List.foldlM_cons] at h
    obtain ⟨next, hnext, hrest⟩ := bind_eq_ok.mp h
    exact ih (fun b hb => hstep b (List.mem_cons_of_mem a hb))
      (hstep a List.mem_cons_self state next hstate hnext) hrest

/-- A loop that appends at every step appends what its elements stand for. -/
theorem foldlM_appends {f : List β → α → Except ε (List β)} {part : α → List β → Prop}
    {list : List α}
    (hstep : ∀ a ∈ list, ∀ state state', f state a = .ok state' →
      ∃ more, part a more ∧ state' = state ++ more)
    {state state' : List β} (h : list.foldlM f state = .ok state') :
    ∃ parts, List.Forall₂ part list parts ∧ state' = state ++ parts.flatten := by
  induction list generalizing state with
  | nil =>
    rw [List.foldlM_nil] at h
    refine ⟨[], .nil, ?_⟩
    rw [← Except.ok.inj h, List.flatten_nil, List.append_nil]
  | cons a list ih =>
    rw [List.foldlM_cons] at h
    obtain ⟨next, hnext, hrest⟩ := bind_eq_ok.mp h
    obtain ⟨more, hmore, rfl⟩ := hstep a List.mem_cons_self state next hnext
    obtain ⟨parts, hparts, rfl⟩ :=
      ih (fun b hb => hstep b (List.mem_cons_of_mem a hb)) hrest
    refine ⟨more :: parts, .cons hmore hparts, ?_⟩
    rw [List.flatten_cons, List.append_assoc]

/-- A loop that appends one item for each element, and none with the key of one before it. -/
theorem foldlM_distinct_iff {κ : Type} {f : List β → α → Except ε (List β)} {key : β → κ}
    {related : α → β → Prop} {list : List α}
    (hstep : ∀ a ∈ list, ∀ state state', f state a = .ok state' ↔
      ∃ b, related a b ∧ key b ∉ state.map key ∧ state' = state ++ [b])
    {state state' : List β} (hstate : (state.map key).Nodup) :
    list.foldlM f state = .ok state' ↔
      ∃ more, List.Forall₂ related list more ∧ ((state ++ more).map key).Nodup ∧
        state' = state ++ more := by
  induction list generalizing state with
  | nil =>
    rw [List.foldlM_nil]
    constructor
    · intro h
      refine ⟨[], .nil, ?_, ?_⟩
      · rwa [List.append_nil]
      · rw [List.append_nil, Except.ok.inj h]
    · rintro ⟨more, hrelated, -, rfl⟩
      cases hrelated
      rw [List.append_nil]
      rfl
  | cons a list ih =>
    have ih' := fun state => @ih (fun b hb => hstep b (List.mem_cons_of_mem a hb)) state
    rw [List.foldlM_cons, bind_eq_ok]
    constructor
    · rintro ⟨next, hnext, hrest⟩
      obtain ⟨b, hb, hnew, rfl⟩ := (hstep a List.mem_cons_self state next).mp hnext
      have hnext' : ((state ++ [b]).map key).Nodup := by
        rw [List.map_append, List.map_singleton, List.nodup_append]
        refine ⟨hstate, List.pairwise_singleton _ _, fun x hx y hy => ?_⟩
        rw [List.mem_singleton.mp hy]
        exact fun heq => hnew (heq ▸ hx)
      obtain ⟨more, hrelated, hnodup, rfl⟩ := (ih' _ hnext').mp hrest
      rw [List.append_assoc] at hnodup ⊢
      exact ⟨b :: more, .cons hb hrelated, hnodup, rfl⟩
    · rintro ⟨more, hrelated, hnodup, rfl⟩
      rcases hrelated with _ | @⟨_, b, _, rest, hb, hrest⟩
      have heq : state ++ b :: rest = state ++ [b] ++ rest := by
        rw [List.append_assoc, List.singleton_append]
      rw [heq] at hnodup
      -- the keys up to this element are a part of all keys
      have hnext : ((state ++ [b]).map key).Nodup := by
        rw [List.map_append, List.nodup_append] at hnodup
        exact hnodup.1
      have hnew : key b ∉ state.map key := by
        rw [List.map_append, List.nodup_append] at hnext
        exact fun hmem => hnext.2.2 _ hmem _ (List.mem_singleton_self _) rfl
      exact ⟨state ++ [b], (hstep a List.mem_cons_self state _).mpr ⟨b, hb, hnew, rfl⟩,
        (ih' _ hnext).mpr ⟨rest, hrest, hnodup, heq⟩⟩

/-- A loop fails the way one of its steps fails. -/
theorem foldlM_errors {f : σ → α → Except ε σ} (error : ε → Prop) {list : List α}
    (hstep : ∀ a ∈ list, ∀ state e, f state a = .error e → error e) {state : σ} {e : ε}
    (h : list.foldlM f state = .error e) : error e := by
  induction list generalizing state with
  | nil =>
    rw [List.foldlM_nil] at h
    exact nomatch h
  | cons a list ih =>
    rw [List.foldlM_cons] at h
    cases hnext : f state a with
    | error e' =>
      rw [hnext] at h
      obtain rfl : e' = e := Except.error.inj h
      exact hstep a List.mem_cons_self state e' hnext
    | ok next =>
      rw [hnext] at h
      exact ih (fun b hb => hstep b (List.mem_cons_of_mem a hb)) h

/-- Errors of one kind only. -/
def Fails (error : ε → Prop) (x : Except ε α) : Prop := ∀ e, x = .error e → error e

section Fails

variable {kind : ε → Prop}

theorem Fails.ok (a : α) : Fails kind (.ok a) := fun _ h => nomatch h

theorem Fails.error {e : ε} (h : kind e) : Fails kind (.error e : Except ε α) := by
  intro e' he
  rw [← Except.error.inj he]
  exact h

theorem Fails.bind {x : Except ε α} {next : α → Except ε β} (h : Fails kind x)
    (hnext : ∀ a, x = .ok a → Fails kind (next a)) : Fails kind (x >>= next) := by
  cases x with
  | error e =>
    intro e' he
    rw [← Except.error.inj he]
    exact h e rfl
  | ok a => exact hnext a rfl

theorem Fails.ite {c : Prop} [Decidable c] {x y : Except ε α} (hx : c → Fails kind x)
    (hy : ¬c → Fails kind y) : Fails kind (if c then x else y) := by
  split
  · next hc => exact hx hc
  · next hc => exact hy hc

theorem Fails.foldlM {f : σ → α → Except ε σ} {list : List α}
    (hstep : ∀ a ∈ list, ∀ state, Fails kind (f state a)) (state : σ) :
    Fails kind (list.foldlM f state) :=
  fun _ h => foldlM_errors kind (fun a ha state e he => hstep a ha state e he) h

theorem Fails.mapM {f : α → Except ε β} {list : List α} (h : ∀ a ∈ list, Fails kind (f a)) :
    Fails kind (list.mapM f) := by
  induction list with
  | nil => exact Fails.ok []
  | cons a list ih =>
    rw [List.mapM_cons]
    refine (h a List.mem_cons_self).bind fun b _ => ?_
    exact (ih fun c hc => h c (List.mem_cons_of_mem a hc)).bind fun rest _ => Fails.ok (b :: rest)

end Fails

/-- A loop that goes through comes to each of its elements, and behind it. -/
theorem foldlM_at {f : σ → α → Except ε σ} {list : List α} {state state' : σ}
    (h : list.foldlM f state = .ok state') {a : α} (ha : a ∈ list) :
    ∃ before after mid next, list = before ++ a :: after ∧ before.foldlM f state = .ok mid ∧
      f mid a = .ok next := by
  obtain ⟨before, after, rfl⟩ := List.append_of_mem ha
  rw [List.foldlM_append] at h
  obtain ⟨mid, hmid, hrest⟩ := bind_eq_ok.mp h
  rw [List.foldlM_cons] at hrest
  obtain ⟨next, hnext, -⟩ := bind_eq_ok.mp hrest
  exact ⟨before, after, mid, next, rfl, hmid, hnext⟩

/-- Two tests, one of them the weaker, that count alike on a list agree on it. -/
theorem all_of_countP_eq {p q : α → Bool} {list : List α} (himp : ∀ x ∈ list, p x → q x)
    (h : list.countP p = list.countP q) : ∀ x ∈ list, q x → p x := by
  induction list with
  | nil => exact fun x hx => nomatch hx
  | cons y list ih =>
    have himp' : ∀ x ∈ list, p x → q x := fun x hx => himp x (List.mem_cons_of_mem y hx)
    have hle : list.countP p ≤ list.countP q := List.countP_mono_left himp'
    rw [List.countP_cons, List.countP_cons] at h
    by_cases hp : p y
    · have hq := himp y List.mem_cons_self hp
      rw [if_pos hp, if_pos hq] at h
      intro x hx hqx
      obtain rfl | hx := List.mem_cons.mp hx
      · exact hp
      · exact ih himp' (by omega) x hx hqx
    · rw [if_neg hp] at h
      by_cases hq : q y
      · rw [if_pos hq] at h
        omega
      · rw [if_neg hq] at h
        intro x hx hqx
        obtain rfl | hx := List.mem_cons.mp hx
        · exact absurd hqx hq
        · exact ih himp' (by omega) x hx hqx

end Scan
