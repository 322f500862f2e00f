import Mathlib.Algebra.GroupWithZero.Nat
import Mathlib.Data.List.Lex
import Mathlib.Data.List.Flatten

/-!
# Depth-first enumeration

A branching type: what a node branches into, in order, and which nodes are leaves. The leaves
below a node, each at the position that the branches taken on the way to it make.

* `enumerated_leaves`  — depth first, every leaf is listed once, in the order of positions
* `length_leaves`      — a count that adds up over the branches is the number of leaves
-/

namespace Trees

/-- What every node branches into. Branches are smaller, and a leaf has none. -/
structure Branching (ν : Type) where
  branches : ν → List ν
  isLeaf : ν → Bool
  size : ν → Nat
  size_lt : ∀ v, ∀ b ∈ branches v, size b < size v
  leaf_nil : ∀ v, isLeaf v = true → branches v = []

namespace Branching

variable {ν : Type} (tree : Branching ν)

/-- The leaves below a node, depth first. -/
def leaves (v : ν) : List ν :=
  if tree.isLeaf v then [v] else (tree.branches v).attach.flatMap fun b => leaves b.1
termination_by tree.size v
decreasing_by exact tree.size_lt v b.1 b.2

theorem leaves_of_leaf {v : ν} (h : tree.isLeaf v = true) : tree.leaves v = [v] := by
  rw [leaves, if_pos h]

theorem leaves_of_branches {v : ν} (h : tree.isLeaf v = false) :
    tree.leaves v = (tree.branches v).flatMap tree.leaves := by
  rw [leaves, if_neg (by rw [h]; exact Bool.false_ne_true),
    List.flatMap_subtype (g := tree.leaves) fun _ _ => rfl, List.unattach_attach]

/-- What holds of a node if it holds of its branches holds of every node. -/
theorem induction {holds : ν → Prop} (h : ∀ v, (∀ b ∈ tree.branches v, holds b) → holds v) (v : ν) :
    holds v := by
  induction hsize : tree.size v using Nat.strongRecOn generalizing v with
  | ind size ih => exact h v fun b hmem => ih (tree.size b) (hsize ▸ tree.size_lt v b hmem) b rfl

/-- A leaf below a node, and the branches on the way to it. -/
inductive LeafAt : ν → List Nat → ν → Prop
  | here {v : ν} (h : tree.isLeaf v = true) : LeafAt v [] v
  | branch {v b leaf : ν} {i : Nat} {position : List Nat} (hbranch : (tree.branches v)[i]? = some b)
    (h : LeafAt b position leaf) : LeafAt v (i :: position) leaf

/-- A leaf below one of several nodes, counted from a number on. -/
def LeafAmong (start : Nat) (nodes : List ν) (position : List Nat) (leaf : ν) : Prop :=
  ∃ i b rest, position = (start + i) :: rest ∧ nodes[i]? = some b ∧ tree.LeafAt b rest leaf

/-- Every leaf with its position, in the order of positions. -/
def Enumerated (found : List Nat → ν → Prop) (leaves : List ν) : Prop :=
  ∃ fields : List (List Nat × ν), fields.map Prod.snd = leaves ∧
    fields.Pairwise (fun a b => a.1 < b.1) ∧ ∀ position leaf, (position, leaf) ∈ fields ↔
      found position leaf

variable {tree}

theorem leafAmong_cons {start : Nat} {node : ν} {nodes : List ν} {position : List Nat} {leaf : ν} :
    tree.LeafAmong start (node :: nodes) position leaf ↔
      (∃ rest, position = start :: rest ∧ tree.LeafAt node rest leaf) ∨
        tree.LeafAmong (start + 1) nodes position leaf := by
  constructor
  · rintro ⟨i, b, rest, hposition, hnode, hleaf⟩
    cases i with
    | zero =>
      obtain rfl := Option.some.inj hnode
      exact .inl ⟨rest, hposition, hleaf⟩
    | succ i =>
      refine .inr ⟨i, b, rest, ?_, hnode, hleaf⟩
      rw [hposition, Nat.add_right_comm, Nat.add_assoc]
  · rintro (⟨rest, hposition, hleaf⟩ | ⟨i, b, rest, hposition, hnode, hleaf⟩)
    · exact ⟨0, node, rest, hposition, rfl, hleaf⟩
    · refine ⟨i + 1, b, rest, ?_, hnode, hleaf⟩
      rw [hposition, Nat.add_right_comm, Nat.add_assoc]

/-- The leaves of several nodes, one node after the other. -/
theorem enumerated_flatMap {nodes : List ν}
    (h : ∀ node ∈ nodes, Enumerated (tree.LeafAt node) (tree.leaves node)) (start : Nat) :
    Enumerated (tree.LeafAmong start nodes) (nodes.flatMap tree.leaves) := by
  induction nodes generalizing start with
  | nil =>
    refine ⟨[], rfl, List.Pairwise.nil, fun position leaf => ⟨fun hmem => (by cases hmem), ?_⟩⟩
    rintro ⟨i, b, rest, -, hnode, -⟩
    cases hnode
  | cons node nodes ih =>
    obtain ⟨first, hleaves, hsorted, hfirst⟩ := h node List.mem_cons_self
    obtain ⟨behind, hleaves', hsorted', hbehind⟩ :=
      ih (fun node hmem => h node (List.mem_cons_of_mem _ hmem)) (start + 1)
    refine ⟨first.map (fun field => (start :: field.1, field.2)) ++ behind, ?_, ?_, ?_⟩
    · rw [List.map_append, List.map_map, List.flatMap_cons, ← hleaves, ← hleaves']
      rfl
    · rw [List.pairwise_append, List.pairwise_map]
      refine ⟨hsorted.imp fun hlt => List.cons_lt_cons_iff.mpr (.inr ⟨rfl, hlt⟩), hsorted', ?_⟩
      intro field hmem field' hmem'
      obtain ⟨inner, -, rfl⟩ := List.mem_map.mp hmem
      -- behind the first node every position begins with a larger number
      obtain ⟨i, b, rest, hposition, -, -⟩ := (hbehind field'.1 field'.2).mp hmem'
      rw [hposition]
      exact List.cons_lt_cons_iff.mpr (.inl (by omega))
    · intro position leaf
      rw [leafAmong_cons, List.mem_append, hbehind, List.mem_map]
      constructor
      · rintro (⟨inner, hmem, hfield⟩ | hmem)
        · obtain ⟨rfl, rfl⟩ := Prod.mk.inj hfield
          exact .inl ⟨inner.1, rfl, (hfirst inner.1 inner.2).mp hmem⟩
        · exact .inr hmem
      · rintro (⟨rest, rfl, hleaf⟩ | hmem)
        · exact .inl ⟨(rest, leaf), (hfirst rest leaf).mpr hleaf, rfl⟩
        · exact .inr hmem

theorem leafAt_iff_of_branches {v leaf : ν} {position : List Nat} (h : tree.isLeaf v = false) :
    tree.LeafAt v position leaf ↔ tree.LeafAmong 0 (tree.branches v) position leaf := by
  constructor
  · intro hleaf
    cases hleaf with
    | here htrue =>
      rw [h] at htrue
      cases htrue
    | branch hbranch hleaf => exact ⟨_, _, _, by rw [Nat.zero_add], hbranch, hleaf⟩
  · rintro ⟨i, b, rest, rfl, hbranch, hleaf⟩
    rw [Nat.zero_add]
    exact .branch hbranch hleaf

theorem enumerated_leaves (v : ν) : Enumerated (tree.LeafAt v) (tree.leaves v) := by
  induction v using tree.induction with
  | h v ih =>
    cases hleaf : tree.isLeaf v with
    | true =>
      rw [tree.leaves_of_leaf hleaf]
      refine ⟨[([], v)], rfl, List.pairwise_singleton _ _, fun position leaf => ?_⟩
      rw [List.mem_singleton, Prod.mk.injEq]
      constructor
      · rintro ⟨rfl, rfl⟩
        exact .here hleaf
      · intro hat
        cases hat with
        | here _ => exact ⟨rfl, rfl⟩
        | branch hbranch _ =>
          rw [tree.leaf_nil v hleaf] at hbranch
          cases hbranch
    | false =>
      rw [tree.leaves_of_branches hleaf]
      obtain ⟨fields, hleaves, hsorted, hmem⟩ := enumerated_flatMap ih 0
      refine ⟨fields, hleaves, hsorted, fun position leaf => ?_⟩
      rw [hmem, leafAt_iff_of_branches hleaf]

/-- A count that is one for a leaf and adds up over branches. -/
theorem length_leaves (count : ν → Nat) (hleaf : ∀ v, tree.isLeaf v = true → count v = 1)
    (hbranches : ∀ v, tree.isLeaf v = false → count v = ((tree.branches v).map count).sum) (v : ν) :
    (tree.leaves v).length = count v := by
  induction v using tree.induction with
  | h v ih =>
    cases hcase : tree.isLeaf v with
    | true => rw [tree.leaves_of_leaf hcase, hleaf v hcase, List.length_singleton]
    | false =>
      rw [tree.leaves_of_branches hcase, hbranches v hcase, List.length_flatMap]
      exact congrArg List.sum (List.map_congr_left ih)

end Branching

end Trees
