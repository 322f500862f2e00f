import Mathlib.Tactic.SplitIfs

/-!
# Shared allocations

An allocation that counts its owners: it is made with one, an owner may share it, and the last
owner that drops it frees it. `HeldBy` ties the count to the owners there are; a development
that says who they are then has by its rules that the allocation is alive as long as there is
one, and freed once.

* `HeldBy.make`, `HeldBy.share`, `HeldBy.drop` — the rules
* `HeldBy.alive_iff`, `HeldBy.frees_le_one`    — what they are for
-/

namespace SharedCells

structure Cell where
  owners : Nat
  frees : Nat := 0
  deriving DecidableEq

namespace Cell

def make : Cell := { owners := 1 }

def share (cell : Cell) : Cell := { cell with owners := cell.owners + 1 }

def drop (cell : Cell) : Cell where
  owners := cell.owners - 1
  frees := if cell.owners = 1 then cell.frees + 1 else cell.frees

def alive (cell : Cell) : Bool := cell.frees = 0

end Cell

/-- The count is that of the owners there are. -/
structure HeldBy (cell : Cell) (count : Nat) : Prop where
  owners : cell.owners = count
  frees : cell.frees = if count = 0 then 1 else 0

namespace HeldBy

variable {cell : Cell} {count : Nat}

theorem make : HeldBy .make 1 := ⟨rfl, rfl⟩

/-- Only an owner can share. -/
theorem share (h : HeldBy cell count) (hpos : 0 < count) : HeldBy cell.share (count + 1) := by
  have hfrees := h.frees
  rw [if_neg (by omega)] at hfrees
  refine ⟨congrArg (· + 1) h.owners, ?_⟩
  rw [if_neg (Nat.succ_ne_zero _)]
  exact hfrees

theorem drop (h : HeldBy cell (count + 1)) : HeldBy cell.drop count := by
  have hfrees : cell.frees = 0 := h.frees
  refine ⟨by simp [Cell.drop, h.owners], ?_⟩
  -- the count was one exactly where no owner is left
  by_cases hlast : count = 0
  · simp [Cell.drop, h.owners, hfrees, hlast]
  · simp [Cell.drop, h.owners, hfrees, hlast]

theorem alive_iff (h : HeldBy cell count) : cell.alive = true ↔ 0 < count := by
  by_cases hzero : count = 0
  · simp [Cell.alive, h.frees, hzero]
  · simp [Cell.alive, h.frees, hzero, Nat.pos_of_ne_zero hzero]

theorem frees_le_one (h : HeldBy cell count) : cell.frees ≤ 1 := by
  rw [h.frees]
  split_ifs
  · exact Nat.le_refl _
  · exact Nat.zero_le _

theorem freed_iff (h : HeldBy cell count) : cell.frees = 1 ↔ count = 0 := by
  rw [h.frees]
  split_ifs
  · simpa
  · simpa

end HeldBy

end SharedCells
