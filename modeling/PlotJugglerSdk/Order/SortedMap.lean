import PlotJugglerSdk.Order.Ranking

/-!
# Sorted maps

A map as the list of its entries, each put in front of those with greater keys. Setting a key
replaces what stands under it, `emplace` does so only where nothing does. What an operation
does to a map is said by its lookups (`lookup_insert`, `lookup_erase`, `lookup_emplace`), which
do not depend on the order. Where the keys have a strict order (`Decisive`), the operations keep
the entries ascending, and a map is told by its entries (`Ascending.ext`).
-/

namespace SortedMap

variable {κ ν : Type} [DecidableEq κ]

/-- Set a key; `before` is the order of the keys. -/
def insert (before : κ → κ → Bool) (key : κ) (value : ν) : List (κ × ν) → List (κ × ν)
  | [] => [(key, value)]
  | (other, old) :: entries =>
    if key = other then (key, value) :: entries
    else if before key other then (key, value) :: (other, old) :: entries
    else (other, old) :: insert before key value entries

def erase (key : κ) (entries : List (κ × ν)) : List (κ × ν) :=
  entries.filter fun entry => entry.1 ≠ key

/-! ## Entries -/

theorem mem_insert {before : κ → κ → Bool} {key : κ} {value : ν} {entries : List (κ × ν)}
    {entry : κ × ν} (h : entry ∈ insert before key value entries) :
    entry = (key, value) ∨ entry ∈ entries := by
  induction entries with
  | nil => exact .inl (List.mem_singleton.mp h)
  | cons first entries ih =>
    obtain ⟨other, old⟩ := first
    rw [insert] at h
    split at h
    · obtain h | h := List.mem_cons.mp h
      · exact .inl h
      · exact .inr (List.mem_cons_of_mem _ h)
    · split at h
      · exact List.mem_cons.mp h
      · obtain rfl | h := List.mem_cons.mp h
        · exact .inr List.mem_cons_self
        · obtain h | h := ih h
          · exact .inl h
          · exact .inr (List.mem_cons_of_mem _ h)

theorem mem_erase {key : κ} {entries : List (κ × ν)} {entry : κ × ν}
    (h : entry ∈ erase key entries) : entry ∈ entries := List.mem_of_mem_filter h

/-! ## Lookups -/

section Lookups

variable [BEq κ] [LawfulBEq κ]

def emplace (before : κ → κ → Bool) (key : κ) (value : ν) (entries : List (κ × ν)) :
    List (κ × ν) :=
  if (entries.lookup key).isSome then entries else insert before key value entries

variable {before : κ → κ → Bool} {key : κ} {value : ν} {entries : List (κ × ν)}

theorem lookup_cons (key other : κ) (value : ν) (entries : List (κ × ν)) :
    ((other, value) :: entries).lookup key =
      if key = other then some value else entries.lookup key := by
  rw [List.lookup_cons]
  by_cases h : key = other
  · rw [if_pos h, h, beq_self_eq_true]
  · rw [if_neg h, beq_false_of_ne h]

theorem lookup_insert (wanted : κ) :
    (insert before key value entries).lookup wanted =
      if wanted = key then some value else entries.lookup wanted := by
  induction entries with
  | nil => rw [insert, lookup_cons]
  | cons entry entries ih =>
    obtain ⟨other, old⟩ := entry
    rw [insert]
    by_cases hsame : key = other
    · rw [if_pos hsame, lookup_cons, lookup_cons, ← hsame]
      by_cases hwanted : wanted = key
      · rw [if_pos hwanted, if_pos hwanted]
      · rw [if_neg hwanted, if_neg hwanted, if_neg hwanted]
    · rw [if_neg hsame]
      by_cases hbefore : before key other
      · rw [if_pos hbefore, lookup_cons]
      · rw [if_neg hbefore, lookup_cons, ih, lookup_cons]
        by_cases hother : wanted = other
        · rw [if_pos hother, if_neg, if_pos hother]
          rw [hother]
          exact Ne.symm hsame
        · rw [if_neg hother, if_neg hother]

theorem lookup_erase (wanted : κ) :
    (erase key entries).lookup wanted = if wanted = key then none else entries.lookup wanted := by
  unfold erase
  induction entries with
  | nil =>
    rw [List.filter_nil, List.lookup_nil]
    split
    · rfl
    · rfl
  | cons entry entries ih =>
    obtain ⟨other, old⟩ := entry
    rw [List.filter_cons, lookup_cons]
    by_cases hother : other = key
    · rw [if_neg (by simp [hother]), ih]
      by_cases hwanted : wanted = key
      · rw [if_pos hwanted, if_pos hwanted]
      · rw [if_neg hwanted, if_neg hwanted, if_neg]
        rw [hother]
        exact hwanted
    · rw [if_pos (by simp [hother]), lookup_cons, ih]
      by_cases hwanted : wanted = other
      · rw [if_pos hwanted, if_pos hwanted, if_neg]
        rw [hwanted]
        exact hother
      · rw [if_neg hwanted, if_neg hwanted]

theorem lookup_emplace (wanted : κ) :
    (emplace before key value entries).lookup wanted =
      if wanted = key then some ((entries.lookup key).getD value) else entries.lookup wanted := by
  unfold emplace
  cases hkey : entries.lookup key with
  | none =>
    rw [if_neg (by simp), lookup_insert]
    rfl
  | some old =>
    rw [if_pos (by simp)]
    by_cases hwanted : wanted = key
    · rw [if_pos hwanted, hwanted, hkey]
      rfl
    · rw [if_neg hwanted]

omit [DecidableEq κ] in
/-- What is looked up is an entry. -/
theorem mem_of_lookup {key : κ} {value : ν} {entries : List (κ × ν)}
    (h : entries.lookup key = some value) : (key, value) ∈ entries := by
  obtain ⟨front, rest, rfl, -⟩ := List.lookup_eq_some_iff.mp h
  exact List.mem_append_right _ List.mem_cons_self

end Lookups

/-! ## Order -/

/-- The entries stand in the order of their keys, each key once. -/
def Ascending (before : κ → κ → Bool) (entries : List (κ × ν)) : Prop :=
  entries.Pairwise fun a b => before a.1 b.1 = true

section Order

variable {before : κ → κ → Bool} (horder : Ranking.Decisive before) {key : κ} {value : ν}
  {entries entries' : List (κ × ν)}

include horder

theorem ascending_insert (h : Ascending before entries) :
    Ascending before (insert before key value entries) := by
  induction entries with
  | nil => exact List.pairwise_singleton _ _
  | cons entry entries ih =>
    obtain ⟨other, old⟩ := entry
    obtain ⟨hfirst, hrest⟩ := List.pairwise_cons.mp h
    rw [insert]
    split
    · rename_i hsame
      rw [hsame]
      exact List.pairwise_cons.mpr ⟨hfirst, hrest⟩
    · rename_i hother
      split
      · rename_i hbefore
        refine List.pairwise_cons.mpr ⟨fun next hnext => ?_, h⟩
        obtain rfl | hnext := List.mem_cons.mp hnext
        · exact hbefore
        · exact horder.trans hbefore (hfirst next hnext)
      · rename_i hbefore
        refine List.pairwise_cons.mpr ⟨fun next hnext => ?_, ih hrest⟩
        obtain rfl | hnext := mem_insert hnext
        · exact horder.not_before hother (Bool.eq_false_iff.mpr hbefore)
        · exact hfirst next hnext

omit [DecidableEq κ] in
/-- No key stands twice. -/
theorem Ascending.eq_of_key (h : Ascending before entries) {old : ν} (hmem : (key, value) ∈ entries)
    (hold : (key, old) ∈ entries) : value = old := by
  induction entries with
  | nil => exact nomatch hmem
  | cons entry entries ih =>
    obtain ⟨hfirst, hrest⟩ := List.pairwise_cons.mp h
    have hno (entry' : ν) (hlater : (key, entry') ∈ entries) : entry.1 ≠ key := by
      intro heq
      have hbefore := hfirst _ hlater
      rw [heq] at hbefore
      exact Bool.false_ne_true ((horder.asymm hbefore).symm.trans hbefore)
    rcases List.mem_cons.mp hmem with rfl | hlater
    · rcases List.mem_cons.mp hold with heq | hlater
      · exact (Prod.mk.inj heq).2.symm
      · exact absurd rfl (hno old hlater)
    · rcases List.mem_cons.mp hold with rfl | hlater'
      · exact absurd rfl (hno value hlater)
      · exact ih hrest hlater hlater'

omit [DecidableEq κ] in
/-- A map is told by its entries. -/
theorem Ascending.ext (h : Ascending before entries) (h' : Ascending before entries')
    (hmem : ∀ entry, entry ∈ entries ↔ entry ∈ entries') : entries = entries' := by
  have hperm : entries.Perm entries' :=
    (List.perm_ext_iff_of_nodup (h.imp fun hbefore heq => ?_)
      (h'.imp fun hbefore heq => ?_)).mpr hmem
  · refine hperm.eq_of_pairwise (fun a b _ _ hab hba => ?_) h h'
    exact absurd ((horder.asymm hab).symm.trans hba) Bool.false_ne_true
  all_goals
    rw [heq] at hbefore
    exact Bool.false_ne_true ((horder.asymm hbefore).symm.trans hbefore)

omit [DecidableEq κ] in
theorem Ascending.lookup_iff [BEq κ] [LawfulBEq κ] (h : Ascending before entries) :
    entries.lookup key = some value ↔ (key, value) ∈ entries := by
  refine ⟨mem_of_lookup, fun hmem => ?_⟩
  cases hlookup : entries.lookup key with
  | none => exact absurd rfl (List.lookup_eq_none_iff.mp hlookup (key, value) hmem |> bne_iff_ne.mp)
  | some old => rw [h.eq_of_key horder (mem_of_lookup hlookup) hmem]

theorem ascending_emplace [BEq κ] [LawfulBEq κ] (h : Ascending before entries) :
    Ascending before (emplace before key value entries) := by
  unfold emplace
  split
  · exact h
  · exact ascending_insert horder h

/-- What comes in the order of the keys is put last. -/
theorem insert_last (h : ∀ entry ∈ entries, before entry.1 key = true) :
    insert before key value entries = entries ++ [(key, value)] := by
  induction entries with
  | nil => rfl
  | cons entry entries ih =>
    obtain ⟨other, old⟩ := entry
    have hother : before other key = true := h (other, old) List.mem_cons_self
    have hne : key ≠ other := by
      rintro rfl
      exact Bool.false_ne_true ((horder.asymm hother).symm.trans hother)
    have hnot : ¬ before key other = true := Bool.eq_false_iff.mp (horder.asymm hother)
    rw [insert, if_neg hne, if_neg hnot,
      ih fun later hlater => h later (List.mem_cons_of_mem _ hlater)]
    rfl

theorem emplace_last [BEq κ] [LawfulBEq κ] (h : ∀ entry ∈ entries, before entry.1 key = true) :
    emplace before key value entries = entries ++ [(key, value)] := by
  have hnone : entries.lookup key = none := by
    refine List.lookup_eq_none_iff.mpr fun entry hentry => bne_iff_ne.mpr ?_
    rintro rfl
    have hbefore := h entry hentry
    exact Bool.false_ne_true ((horder.asymm hbefore).symm.trans hbefore)
  rw [emplace, hnone]
  exact insert_last horder h

/-- Entries that come in order are the map. -/
theorem foldl_emplace [BEq κ] [LawfulBEq κ] (h : Ascending before (entries ++ entries')) :
    entries'.foldl (fun map entry => emplace before entry.1 entry.2 map) entries = entries ++
      entries' := by
  induction entries' generalizing entries with
  | nil => exact (List.append_nil entries).symm
  | cons entry entries' ih =>
    have hlast : ∀ earlier ∈ entries, before earlier.1 entry.1 = true := by
      intro earlier hearlier
      exact (List.pairwise_append.mp h).2.2 earlier hearlier entry List.mem_cons_self
    rw [List.append_cons] at h ⊢
    rw [List.foldl_cons, emplace_last horder hlast, ih h]

end Order

end SortedMap
