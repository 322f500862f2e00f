import Mathlib.Data.List.Nodup
import PlotJugglerSdk.Wire.Numbers

/-!
# The instance table of a parser module

A module hands out tokens for its instances. A token names a slot and the
generation the slot had when the token was issued; destroying the instance moves
the slot to the next generation, and a generation that wraps to zero retires the
slot.

`History` is what the table is for: the tokens issued so far and, for those not
yet destroyed, what they were issued for. `Keeps` is the invariant that ties
slots, generations and tokens together. It survives `create` (`Keeps.create`),
`destroy` (`Keeps.destroy`) and a change of an instance in place
(`Keeps.update`), and it makes tokens resolve as the history says
(`Keeps.find_iff`).
-/

namespace PlotJugglerSdk.ParserModule.ModuleExports

/-! ## Slots and tokens -/

structure Slot (ι : Type) where
  inst : Option ι := none
  generation : UInt32 := 1

structure Table (ι : Type) where
  slots : List (Slot ι) := []
  capacity : Nat := 0

def tokenFor (index : Nat) (generation : UInt32) : UInt64 :=
  generation.toUInt64 <<< 32 ||| UInt64.ofNat (index + 1)

theorem toNat_tokenFor {index : Nat} (generation : UInt32) (hindex : index + 1 < 2 ^ 32) :
    (tokenFor index generation).toNat = generation.toNat * 2 ^ 32 + (index + 1) := by
  have hgeneration := generation.toNat_lt
  have hhigh : (generation.toUInt64 <<< 32).toNat = generation.toNat <<< 32 := by
    have hshift : UInt64.toNat 32 % 64 = 32 := rfl
    rw [UInt64.toNat_shiftLeft, UInt32.toNat_toUInt64, hshift, Nat.shiftLeft_eq]
    exact Nat.mod_eq_of_lt (by omega)
  have hlow : (UInt64.ofNat (index + 1)).toNat = index + 1 := by
    rw [UInt64.toNat_ofNat', Nat.mod_eq_of_lt (by omega)]
  unfold tokenFor
  rw [UInt64.toNat_or, hhigh, hlow, ← Nat.shiftLeft_add_eq_or_of_lt hindex, Nat.shiftLeft_eq]

theorem toUInt32_tokenFor {index : Nat} (generation : UInt32) (hindex : index + 1 < 2 ^ 32) :
    (tokenFor index generation).toUInt32.toNat = index + 1 := by
  rw [UInt64.toNat_toUInt32, toNat_tokenFor generation hindex]
  omega

theorem shiftRight_tokenFor {index : Nat} (generation : UInt32) (hindex : index + 1 < 2 ^ 32) :
    (tokenFor index generation >>> 32).toUInt32 = generation := by
  have hgeneration := generation.toNat_lt
  apply UInt32.toNat_inj.mp
  rw [UInt64.toNat_toUInt32, UInt64.toNat_shiftRight, toNat_tokenFor generation hindex,
    Nat.shiftRight_eq_div_pow]
  have hshift : UInt64.toNat 32 % 64 = 32 := rfl
  rw [hshift]
  omega

/-- Slots are distinguished by the index, the generations of a slot by the upper half. -/
theorem tokenFor_inj {index index' : Nat} {generation generation' : UInt32}
    (hindex : index + 1 < 2 ^ 32) (hindex' : index' + 1 < 2 ^ 32)
    (h : tokenFor index generation = tokenFor index' generation') :
    index = index' ∧ generation = generation' := by
  have hlow := toUInt32_tokenFor generation hindex
  have hhigh := shiftRight_tokenFor generation hindex
  rw [h, toUInt32_tokenFor generation' hindex'] at hlow
  rw [h, shiftRight_tokenFor generation' hindex'] at hhigh
  exact ⟨by omega, hhigh.symm⟩

variable {ι κ : Type}

namespace Table

/-! ## Operations -/

/-- `allocated` is false when the larger array cannot be had. -/
def grow (allocated : Bool) (table : Table ι) : Option (Table ι) :=
  let nextCapacity := if table.capacity = 0 then 8 else table.capacity * 2
  if nextCapacity < table.capacity ∨ 2 ^ 32 - 1 < nextCapacity then none
  else if allocated then some { table with capacity := nextCapacity }
  else none

/-- The first slot that is empty and not retired. -/
def freeSlot (table : Table ι) : Nat :=
  table.slots.findIdx fun slot => slot.inst.isNone && slot.generation != 0

/-- `create` under the lock, for an instance already made. -/
def create (inst : ι) (allocated : Bool) (table : Table ι) : Except String UInt64 × Table ι :=
  let slotIndex := table.freeSlot
  match table.slots[slotIndex]? with
  -- a slot that is used again keeps the generation its last destroy gave it
  | some slot =>
    (.ok (tokenFor slotIndex slot.generation),
      { table with slots := table.slots.set slotIndex { slot with inst := some inst } })
  | none =>
    -- no slot is free: the table grows, doubling where it is full
    match if table.slots.length = table.capacity then table.grow allocated else some table with
    | none => (.error "parser-module instance-table allocation failed", table)
    | some table =>
      -- the index no longer fits into a token; the slot has been appended already
      if 2 ^ 32 - 1 ≤ slotIndex then
        (.error "parser-module instance table is full", { table with slots := table.slots ++ [{}] })
      else
        (.ok (tokenFor slotIndex 1), { table with slots := table.slots ++ [{ inst := some inst }] })

/-- `findSlotLocked`: where the token's instance is. -/
def findSlot (token : UInt64) (table : Table ι) : Option Nat :=
  let encodedIndex := token.toUInt32
  let generation := (token >>> 32).toUInt32
  if encodedIndex = 0 ∨ generation = 0 then none
  else
    match table.slots[encodedIndex.toNat - 1]? with
    | none => none
    | some slot =>
      if slot.inst.isSome ∧ slot.generation = generation then
        some (encodedIndex.toNat - 1) else none

def find (token : UInt64) (table : Table ι) : Option ι :=
  (table.findSlot token).bind fun index => (table.slots[index]?).bind (·.inst)

/-- `destroy` under the lock; a stale or unknown token changes nothing. -/
def destroy (token : UInt64) (table : Table ι) : Table ι :=
  match table.findSlot token with
  | none => table
  | some index =>
    { table with
      slots := table.slots.modify index fun slot =>
        { inst := none, generation := slot.generation + 1 } }

/-- A call on a live instance changes it where it is. -/
def update (token : UInt64) (f : ι → ι) (table : Table ι) : Table ι :=
  match table.findSlot token with
  | none => table
  | some index =>
    { table with slots := table.slots.modify index fun slot => { slot with inst := slot.inst.map f } }

end Table

/-! ## What the table is for -/

structure History (κ : Type) where
  issued : List UInt64 := []
  live : List (UInt64 × κ) := []

namespace History

def issue (token : UInt64) (name : κ) (history : History κ) : History κ where
  issued := history.issued ++ [token]
  live := history.live ++ [(token, name)]

def retire (token : UInt64) (history : History κ) : History κ :=
  { history with live := history.live.filter fun entry => entry.1 != token }

end History

/-- A generation the slot has issued a token for. -/
def Slot.Spent (slot : Slot ι) (generation : UInt32) : Prop :=
  generation ≠ 0 ∧ (slot.generation = 0 ∨ generation < slot.generation ∨
    (generation = slot.generation ∧ slot.inst.isSome))

/-- The invariant. `name` is what stays of an instance when it changes. -/
structure Keeps (name : ι → κ) (table : Table ι) (history : History κ) : Prop where
  fits : table.slots.length ≤ table.capacity ∧ table.capacity < 2 ^ 32
  occupied : ∀ (i : Nat) (slot : Slot ι), table.slots[i]? = some slot → slot.inst.isSome →
    slot.generation ≠ 0
  nodup : history.issued.Nodup
  spent : ∀ token ∈ history.issued, ∃ (i : Nat) (slot : Slot ι) (generation : UInt32),
    table.slots[i]? = some slot ∧ slot.Spent generation ∧ token = tokenFor i generation
  live : ∀ token n, (token, n) ∈ history.live ↔ ∃ (i : Nat) (slot : Slot ι) (inst : ι),
    table.slots[i]? = some slot ∧ slot.inst = some inst ∧ name inst = n ∧
      token = tokenFor i slot.generation

theorem Keeps.index_lt {name : ι → κ} {table : Table ι} {history : History κ} {i : Nat}
    {slot : Slot ι} (h : Keeps name table history) (hslot : table.slots[i]? = some slot) :
    i + 1 < 2 ^ 32 := by
  have hlt : i < table.slots.length := (List.getElem?_eq_some_iff.mp hslot).1
  have hfits := h.fits
  omega

theorem keeps_empty (name : ι → κ) : Keeps name {} {} where
  fits := by simp
  occupied := by simp
  nodup := List.nodup_nil
  spent := by simp
  live := by simp

/-! ## Finding -/

theorem findSlot_eq_some {token : UInt64} {table : Table ι} {index : Nat} :
    table.findSlot token = some index ↔ ∃ slot, table.slots[index]? = some slot ∧
      slot.inst.isSome ∧ token.toUInt32.toNat = index + 1 ∧
        (token >>> 32).toUInt32 = slot.generation ∧ slot.generation ≠ 0 := by
  unfold Table.findSlot
  dsimp only
  by_cases hzero : token.toUInt32 = 0 ∨ (token >>> 32).toUInt32 = 0
  · rw [if_pos hzero]
    simp only [reduceCtorEq, false_iff]
    rintro ⟨slot, -, -, hindex, hgeneration, hne⟩
    rcases hzero with hzero | hzero
    · rw [hzero] at hindex
      exact absurd hindex (by simp)
    · exact hne (hgeneration.symm.trans hzero)
  · rw [if_neg hzero]
    obtain ⟨hindex, hgeneration⟩ := not_or.mp hzero
    -- the index is stored one higher, so that zero is no slot
    have hpos : token.toUInt32.toNat ≠ 0 := fun hnat => hindex (UInt32.toNat_inj.mp hnat)
    constructor
    · intro h
      cases hslot : table.slots[token.toUInt32.toNat - 1]? with
      | none => simp only [hslot, reduceCtorEq] at h
      | some slot =>
        simp only [hslot] at h
        split at h
        · next hfound =>
          obtain rfl := Option.some.inj h
          exact ⟨slot, hslot,
            hfound.1, by omega, hfound.2.symm, by rw [hfound.2]; exact hgeneration⟩
        · exact absurd h (by simp)
    · rintro ⟨slot, hslot, hsome, hnat, hsame, -⟩
      have hminus : token.toUInt32.toNat - 1 = index := by omega
      rw [hminus, hslot]
      simp only
      rw [if_pos ⟨hsome, hsame.symm⟩]

/-- A token that is found names its slot and the slot's generation. -/
theorem Keeps.findSlot_token {name : ι → κ} {table : Table ι} {history : History κ}
    (h : Keeps name table history) {token : UInt64} {index : Nat} {slot : Slot ι}
    (hfound : table.findSlot token = some index)
    (hslot : table.slots[index]? = some slot) : token = tokenFor index slot.generation := by
  obtain ⟨slot', hslot', -, hindex, hgeneration, -⟩ := findSlot_eq_some.mp hfound
  obtain rfl := Option.some.inj (hslot.symm.trans hslot')
  apply UInt64.toNat_inj.mp
  rw [toNat_tokenFor _ (h.index_lt hslot), ← hgeneration, UInt64.toNat_toUInt32,
    UInt64.toNat_shiftRight, Nat.shiftRight_eq_div_pow]
  have hshift : UInt64.toNat 32 % 64 = 32 := rfl
  have htoken := token.toNat_lt
  rw [UInt64.toNat_toUInt32] at hindex
  rw [hshift]
  omega

/-- Tokens resolve as the history says. -/
theorem Keeps.find_iff {name : ι → κ} {table : Table ι} {history : History κ}
    (h : Keeps name table history) {token : UInt64} {n : κ} :
    (token, n) ∈ history.live ↔ ∃ inst, table.find token = some inst ∧ name inst = n := by
  rw [h.live]
  constructor
  · rintro ⟨i, slot, inst, hslot, hinst, hname, rfl⟩
    have hindex := h.index_lt hslot
    have hfound : table.findSlot (tokenFor i slot.generation) = some i :=
      findSlot_eq_some.mpr ⟨slot, hslot, by rw [hinst]; rfl, toUInt32_tokenFor _ hindex,
        shiftRight_tokenFor _ hindex, h.occupied i slot hslot (by rw [hinst]; rfl)⟩
    refine ⟨inst, ?_, hname⟩
    unfold Table.find
    rw [hfound, Option.bind_some, hslot, Option.bind_some, hinst]
  · rintro ⟨inst, hfind, hname⟩
    unfold Table.find at hfind
    obtain ⟨i, hfound, hinst⟩ := Option.bind_eq_some_iff.mp hfind
    obtain ⟨slot, hslot, -⟩ := findSlot_eq_some.mp hfound
    rw [hslot, Option.bind_some] at hinst
    exact ⟨i, slot, inst, hslot, hinst, hname, h.findSlot_token hfound hslot⟩

/-! ## One slot changed -/

/-- A table that differs from another at one index at most. -/
def ChangedAt (table : Table ι) (index : Nat) (slot : Slot ι) (table' : Table ι) : Prop :=
  ∀ j, table'.slots[j]? = if j = index then some slot else table.slots[j]?

theorem changedAt_set {table : Table ι} {index : Nat} {slot : Slot ι}
    (hindex : index < table.slots.length) :
    ChangedAt table index slot { table with slots := table.slots.set index slot } := by
  intro j
  by_cases hj : j = index
  · subst hj
    simp [hindex]
  · simp [hj, List.getElem?_set_ne (Ne.symm hj)]

theorem changedAt_append {table : Table ι} {slot : Slot ι} {capacity : Nat} :
    ChangedAt table table.slots.length slot ⟨table.slots ++ [slot], capacity⟩ := by
  intro j
  by_cases hj : j = table.slots.length
  · subst hj
    simp
  · rw [if_neg hj]
    rcases Nat.lt_or_gt_of_ne hj with hlt | hgt
    · exact List.getElem?_append_left hlt
    · rw [List.getElem?_eq_none (by simp; omega), List.getElem?_eq_none (by omega)]

theorem changedAt_modify {table : Table ι} {index : Nat} {slot : Slot ι} (f : Slot ι → Slot ι)
    (hslot : table.slots[index]? = some slot) :
    ChangedAt table index (f slot) { table with slots := table.slots.modify index f } := by
  intro j
  by_cases hj : j = index
  · subst hj
    simp [hslot]
  · simp [hj, Ne.symm hj]

theorem ChangedAt.here {table table' : Table ι} {index : Nat} {slot : Slot ι}
    (h : ChangedAt table index slot table') : table'.slots[index]? = some slot := by
  rw [h index, if_pos rfl]

theorem ChangedAt.elsewhere {table table' : Table ι} {index j : Nat} {slot : Slot ι}
    (h : ChangedAt table index slot table') (hj : j ≠ index) :
    table'.slots[j]? = table.slots[j]? := by
  rw [h j, if_neg hj]

/-! ## create -/

theorem grow_ok {table grown : Table ι} {allocated : Bool} (h : table.grow allocated = some grown) :
    grown.slots = table.slots ∧ table.capacity + 1 ≤ grown.capacity ∧ grown.capacity < 2 ^ 32 := by
  unfold Table.grow at h
  dsimp only at h
  by_cases hbound : (if table.capacity = 0 then 8 else table.capacity * 2) < table.capacity ∨
      2 ^ 32 - 1 < (if table.capacity = 0 then 8 else table.capacity * 2)
  · rw [if_pos hbound] at h
    exact absurd h (by simp)
  · rw [if_neg hbound] at h
    cases allocated with
    | false => exact absurd h (by simp)
    | true =>
      obtain rfl := Option.some.inj h
      refine ⟨rfl, ?_⟩
      dsimp only
      by_cases hempty : table.capacity = 0
      · rw [if_pos hempty]
        omega
      · rw [if_neg hempty] at hbound ⊢
        omega

/-- What `create` does: it fails and leaves the table alone, or it fills a slot
that is empty and not retired, an old one or a new one. -/
theorem create_cases {table : Table ι} (inst : ι) (allocated : Bool)
    (hfits : table.slots.length ≤ table.capacity ∧ table.capacity < 2 ^ 32) :
    ((∃ message, table.create inst allocated = (.error message, table)) ∨
      ∃ index generation table', table.create inst allocated =
          (.ok (tokenFor index generation), table') ∧
        generation ≠ 0 ∧
        (∀ slot, table.slots[index]? = some slot →
          slot.inst = none ∧ slot.generation = generation) ∧
        (index < table.slots.length ∨ (index = table.slots.length ∧ generation = 1)) ∧
        ChangedAt table index { inst := some inst, generation } table' ∧
        table'.slots.length ≤ table'.capacity ∧ table'.capacity < 2 ^ 32) := by
  unfold Table.create
  dsimp only
  cases hslot : table.slots[table.freeSlot]? with
  | some slot =>
    right
    have hlt : table.freeSlot < table.slots.length := (List.getElem?_eq_some_iff.mp hslot).1
    -- the search stops at a slot that is empty and not retired
    unfold Table.freeSlot at hslot
    have hfree := List.findIdx_of_getElem?_eq_some hslot
    simp only [Bool.and_eq_true, Option.isNone_iff_eq_none, bne_iff_ne] at hfree
    refine ⟨_, _, _, rfl, hfree.2, ?_, Or.inl hlt, changedAt_set hlt, ?_, hfits.2⟩
    · intro slot' hslot'
      obtain rfl := Option.some.inj (hslot.symm.trans hslot')
      exact ⟨hfree.1, rfl⟩
    · rw [List.length_set]
      exact hfits.1
  | none =>
    have hindex : table.freeSlot = table.slots.length :=
      le_antisymm List.findIdx_le_length (List.getElem?_eq_none_iff.mp hslot)
    dsimp only
    cases hgrown : (if table.slots.length = table.capacity then table.grow allocated
        else some table) with
    | none => exact Or.inl ⟨_, rfl⟩
    | some grown =>
      right
      -- the array has room now, and is no longer than the generation of tokens allows
      have hroom : grown.slots = table.slots ∧ table.slots.length + 1 ≤ grown.capacity ∧
          grown.capacity < 2 ^ 32 := by
        split at hgrown
        · next hfull =>
          rw [hfull]
          exact grow_ok hgrown
        · next hfree =>
          obtain rfl := Option.some.inj hgrown
          exact ⟨rfl, by omega, hfits.2⟩
      obtain ⟨hslots, hcapacity, hsmall⟩ := hroom
      dsimp only
      rw [if_neg (by omega), hindex, hslots]
      refine ⟨_, _, _, rfl, by decide, ?_, Or.inr ⟨rfl, rfl⟩, changedAt_append, ?_, hsmall⟩
      · intro slot' hslot'
        rw [List.getElem?_eq_none le_rfl] at hslot'
        exact absurd hslot' (by simp)
      · rw [List.length_append]
        exact hcapacity

section Keeps

variable {name : ι → κ} {table table' : Table ι} {history : History κ}

theorem ChangedAt.index_lt {index : Nat} {slot : Slot ι} (h : ChangedAt table index slot table')
    (hfits : table'.slots.length ≤ table'.capacity ∧ table'.capacity < 2 ^ 32) :
    index + 1 < 2 ^ 32 := by
  have hlt : index < table'.slots.length := (List.getElem?_eq_some_iff.mp h.here).1
  omega

theorem Keeps.create (h : Keeps name table history) {inst : ι} {allocated : Bool} {token : UInt64}
    (hcreate : table.create inst allocated = (.ok token, table')) :
    Keeps name table' (history.issue token (name inst)) := by
  obtain ⟨message, hfailed⟩ | ⟨index, generation, table'', hcreated, hne, hfree, -, hchanged,
    hfits⟩ :=
    create_cases inst allocated h.fits
  · rw [hcreate] at hfailed
    exact absurd (Prod.mk.inj hfailed).1 (by simp)
  · rw [hcreate] at hcreated
    obtain ⟨hok, rfl⟩ := Prod.mk.inj hcreated
    obtain rfl := Except.ok.inj hok
    have hindex := hchanged.index_lt hfits
    refine ⟨hfits, ?_, ?_, ?_, ?_⟩
    · intro i slot hslot hsome
      by_cases hi : i = index
      · subst hi
        obtain rfl := Option.some.inj (hchanged.here.symm.trans hslot)
        exact hne
      · exact h.occupied i slot ((hchanged.elsewhere hi).symm.trans hslot) hsome
    · refine List.Nodup.append h.nodup (List.nodup_singleton _) ?_
      intro token hissued hnew
      rw [List.mem_singleton] at hnew
      obtain ⟨i, slot, spent, hslot, hspent, htoken⟩ := h.spent token hissued
      -- an empty slot has not issued a token of the generation it is at
      obtain ⟨rfl, rfl⟩ := tokenFor_inj hindex (h.index_lt hslot) (hnew.symm.trans htoken)
      obtain ⟨hempty, hgeneration⟩ := hfree slot hslot
      obtain ⟨-, hzero | hlt | ⟨-, hsome⟩⟩ := hspent
      · exact hne (hgeneration.symm.trans hzero)
      · rw [hgeneration] at hlt
        exact UInt32.lt_irrefl _ hlt
      · simp [hempty] at hsome
    · intro token hissued
      rcases List.mem_append.mp hissued with hold | hnew
      · obtain ⟨i, slot, spent, hslot, ⟨hzero, hspent⟩, htoken⟩ := h.spent token hold
        by_cases hi : i = index
        · subst hi
          obtain ⟨hempty, hgeneration⟩ := hfree slot hslot
          refine ⟨i, _, spent, hchanged.here, ⟨hzero, ?_⟩, htoken⟩
          rw [hgeneration] at hspent
          exact hspent.imp_right (Or.imp_right fun hspent => ⟨hspent.1, rfl⟩)
        · exact ⟨i, slot, spent, (hchanged.elsewhere hi).trans hslot, ⟨hzero, hspent⟩, htoken⟩
      · rw [List.mem_singleton] at hnew
        exact ⟨index, _, generation, hchanged.here, ⟨hne, Or.inr (Or.inr ⟨rfl, rfl⟩)⟩, hnew⟩
    · intro token n
      have hlive : (token, n) ∈ (history.issue (tokenFor index generation) (name inst)).live ↔
          (token, n) ∈ history.live ∨ token = tokenFor index generation ∧ n = name inst := by
        unfold History.issue
        simp
      rw [hlive, h.live]
      constructor
      · rintro (⟨i, slot, inst', hslot, hinst, hname, htoken⟩ | ⟨rfl, rfl⟩)
        · have hi : i ≠ index := by
            rintro rfl
            rw [(hfree slot hslot).1] at hinst
            exact absurd hinst (by simp)
          exact ⟨i, slot, inst', (hchanged.elsewhere hi).trans hslot, hinst, hname, htoken⟩
        · exact ⟨index, _, inst, hchanged.here, rfl, rfl, rfl⟩
      · rintro ⟨i, slot, inst', hslot, hinst, hname, htoken⟩
        by_cases hi : i = index
        · subst hi
          obtain rfl := Option.some.inj (hchanged.here.symm.trans hslot)
          obtain rfl := Option.some.inj hinst
          exact Or.inr ⟨htoken, hname.symm⟩
        · exact Or.inl ⟨i, slot, inst', (hchanged.elsewhere hi).symm.trans hslot, hinst, hname,
            htoken⟩

/-! ## destroy -/

theorem Keeps.not_live (h : Keeps name table history) {token : UInt64}
    (hfound : table.findSlot token = none) : token ∉ history.live.map (·.1) := by
  intro hmem
  obtain ⟨⟨token', n⟩, hlive, rfl⟩ := List.mem_map.mp hmem
  obtain ⟨inst, hfind, -⟩ := h.find_iff.mp hlive
  unfold Table.find at hfind
  dsimp only at hfound
  rw [hfound] at hfind
  exact absurd hfind (by simp)

theorem spent_next {slot : Slot ι} {generation : UInt32} (hne : slot.generation ≠ 0)
    (h : slot.Spent generation) :
    (⟨none, slot.generation + 1⟩ : Slot ι).Spent generation := by
  obtain ⟨hzero, hspent⟩ := h
  refine ⟨hzero, ?_⟩
  dsimp only
  have hle : generation.toNat ≤ slot.generation.toNat := by
    rcases hspent with hretired | hlt | ⟨rfl, -⟩
    · exact absurd hretired hne
    · exact le_of_lt (UInt32.lt_iff_toNat_lt.mp hlt)
    · exact le_rfl
  -- the next generation is larger, or it wrapped and the slot is retired
  by_cases hlast : slot.generation.toNat = 2 ^ 32 - 1
  · left
    apply UInt32.toNat_inj.mp
    rw [UInt32.toNat_add, hlast]
    rfl
  · right
    left
    have hbound := slot.generation.toNat_lt
    have hone : UInt32.toNat 1 = 1 := rfl
    rw [UInt32.lt_iff_toNat_lt, UInt32.toNat_add, hone, Nat.mod_eq_of_lt (by omega)]
    omega

theorem Keeps.destroy (h : Keeps name table history) (token : UInt64) :
    Keeps name (table.destroy token) (history.retire token) := by
  unfold Table.destroy
  cases hfound : table.findSlot token with
  | none =>
    -- a token that is not found is not live: nothing is retired
    have hkept : history.retire token = history := by
      unfold History.retire
      have hall : ∀ entry ∈ history.live, (entry.1 != token) = true := by
        intro entry hmem
        rw [bne_iff_ne]
        rintro rfl
        exact h.not_live hfound (List.mem_map_of_mem hmem)
      rw [List.filter_eq_self.mpr hall]
    rw [hkept]
    exact h
  | some index =>
    obtain ⟨slot, hslot, -, -, -, hne⟩ := findSlot_eq_some.mp hfound
    have hindex := h.index_lt hslot
    have htoken := h.findSlot_token hfound hslot
    -- one slot is emptied and its generation goes up, the others stay
    have hchanged := changedAt_modify (fun slot => ⟨none, slot.generation + 1⟩) hslot
    dsimp only at hchanged ⊢
    refine ⟨by rw [List.length_modify]; exact h.fits, ?_, h.nodup, ?_, ?_⟩
    · intro i slot' hslot' hsome
      by_cases hi : i = index
      · subst hi
        obtain rfl := Option.some.inj (hchanged.here.symm.trans hslot')
        exact absurd hsome (by simp)
      · exact h.occupied i slot' ((hchanged.elsewhere hi).symm.trans hslot') hsome
    · intro token' hissued
      obtain ⟨i, slot', spent, hslot', hspent, htoken'⟩ := h.spent token' hissued
      by_cases hi : i = index
      · subst hi
        obtain rfl := Option.some.inj (hslot.symm.trans hslot')
        exact ⟨i, _, spent, hchanged.here, spent_next hne hspent, htoken'⟩
      · exact ⟨i, slot', spent, (hchanged.elsewhere hi).trans hslot', hspent, htoken'⟩
    · intro token' n
      have hlive : (token', n) ∈ (history.retire token).live ↔
          (token', n) ∈ history.live ∧ token' ≠ token := by
        unfold History.retire
        simp
      rw [hlive, h.live]
      constructor
      · rintro ⟨⟨i, slot', inst, hslot', hinst, hname, htoken'⟩, hother⟩
        have hi : i ≠ index := by
          rintro rfl
          obtain rfl := Option.some.inj (hslot.symm.trans hslot')
          exact hother (htoken'.trans htoken.symm)
        exact ⟨i, slot', inst, (hchanged.elsewhere hi).trans hslot', hinst, hname, htoken'⟩
      · rintro ⟨i, slot', inst, hslot', hinst, hname, htoken'⟩
        by_cases hi : i = index
        · subst hi
          obtain rfl := Option.some.inj (hchanged.here.symm.trans hslot')
          exact absurd hinst (by simp)
        · have hold := (hchanged.elsewhere hi).symm.trans hslot'
          refine ⟨⟨i, slot', inst, hold, hinst, hname, htoken'⟩, ?_⟩
          -- two live tokens of one value would name one slot
          intro hsame
          rw [htoken', htoken] at hsame
          exact hi (tokenFor_inj (h.index_lt hold) hindex hsame).1

/-! ## update -/

/-- Changes of an instance in place change no token. -/
theorem Keeps.update (h : Keeps name table history) (token : UInt64) {f : ι → ι}
    (hname : ∀ inst, name (f inst) = name inst) : Keeps name (table.update token f) history := by
  unfold Table.update
  cases hfound : table.findSlot token with
  | none => exact h
  | some index =>
    obtain ⟨slot, hslot, hsome, -, -, hne⟩ := findSlot_eq_some.mp hfound
    -- the instance of one slot changes, and neither its generation nor its name
    have hchanged :=
      changedAt_modify (fun slot : Slot ι => { slot with inst := slot.inst.map f }) hslot
    dsimp only at hchanged ⊢
    refine ⟨by rw [List.length_modify]; exact h.fits, ?_, h.nodup, ?_, ?_⟩
    · intro i slot' hslot' hsome'
      by_cases hi : i = index
      · subst hi
        obtain rfl := Option.some.inj (hchanged.here.symm.trans hslot')
        exact hne
      · exact h.occupied i slot' ((hchanged.elsewhere hi).symm.trans hslot') hsome'
    · intro token' hissued
      obtain ⟨i, slot', spent, hslot', hspent, htoken'⟩ := h.spent token' hissued
      by_cases hi : i = index
      · subst hi
        obtain rfl := Option.some.inj (hslot.symm.trans hslot')
        refine ⟨i, _, spent, hchanged.here, ⟨hspent.1, ?_⟩, htoken'⟩
        exact hspent.2.imp_right (Or.imp_right fun hlast => ⟨hlast.1, by simpa using hlast.2⟩)
      · exact ⟨i, slot', spent, (hchanged.elsewhere hi).trans hslot', hspent, htoken'⟩
    · intro token' n
      rw [h.live]
      constructor
      · rintro ⟨i, slot', inst, hslot', hinst, hn, htoken'⟩
        by_cases hi : i = index
        · subst hi
          obtain rfl := Option.some.inj (hslot.symm.trans hslot')
          exact ⟨i, _, f inst, hchanged.here, by rw [hinst]; rfl, (hname inst).trans hn, htoken'⟩
        · exact ⟨i, slot', inst, (hchanged.elsewhere hi).trans hslot', hinst, hn, htoken'⟩
      · rintro ⟨i, slot', inst, hslot', hinst, hn, htoken'⟩
        by_cases hi : i = index
        · subst hi
          obtain rfl := Option.some.inj (hchanged.here.symm.trans hslot')
          obtain ⟨inst', hinst', rfl⟩ := Option.map_eq_some_iff.mp hinst
          exact ⟨i, slot, inst', hslot, hinst', (hname inst').symm.trans hn, htoken'⟩
        · exact ⟨i, slot', inst, (hchanged.elsewhere hi).symm.trans hslot', hinst, hn, htoken'⟩

end Keeps

/-- A live token resolves to the changed instance afterwards. -/
theorem find_update {table : Table ι} {token : UInt64} {inst : ι} (f : ι → ι)
    (h : table.find token = some inst) : (table.update token f).find token = some (f inst) := by
  unfold Table.find at h
  obtain ⟨index, hfound, hinst⟩ := Option.bind_eq_some_iff.mp h
  obtain ⟨slot, hslot, hsome, hindex, hgeneration, hne⟩ := findSlot_eq_some.mp hfound
  rw [hslot, Option.bind_some] at hinst
  have hchanged :=
    changedAt_modify (fun slot : Slot ι => { slot with inst := slot.inst.map f }) hslot
  have hupdate : table.update token f =
      { table with
        slots := table.slots.modify index fun slot => { slot with inst := slot.inst.map f } } := by
    unfold Table.update
    rw [hfound]
  rw [hupdate]
  have hfound' :=
    findSlot_eq_some.mpr ⟨_, hchanged.here, by simpa using hsome, hindex, hgeneration, hne⟩
  unfold Table.find
  rw [hfound', Option.bind_some, hchanged.here, Option.bind_some, hinst]
  rfl

end PlotJugglerSdk.ParserModule.ModuleExports
