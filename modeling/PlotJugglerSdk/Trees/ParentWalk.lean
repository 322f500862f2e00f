import Mathlib.Data.List.Basic
import Mathlib.Logic.Relation

/-!
# Walking up the parents

Nodes are numbers, and each has one parent or is a root. From every node the parents are
walked up until a root or a node that was seen before; marks tell the nodes of the walk
that is under way from those of finished walks. A walk that comes back to its own path has
found a cycle.

* `cycle_of_findCycle` — what is reported lies on a cycle
* `findCycle_none_iff` — nothing is reported where every node has a root above it
-/

namespace Trees

inductive Mark where
  | unseen
  | onPath
  | done
  deriving DecidableEq

/-- The marks of the nodes, the nodes of this walk, and where it stands. -/
structure Walk where
  marks : List Mark
  path : List Nat
  current : Nat

variable (parent : Nat → Option Nat)

/-- Walk up to a root or to a node that is marked. -/
def climb (walk : Walk) : Walk :=
  if walk.marks[walk.current]? = some .unseen then
    match parent walk.current with
    | none =>
      { marks := walk.marks.set walk.current .onPath, path := walk.path ++ [walk.current],
        current := walk.current }
    | some next =>
      climb
        { marks := walk.marks.set walk.current .onPath, path := walk.path ++ [walk.current],
          current := next }
  else walk
termination_by walk.marks.count .unseen
decreasing_by
  rename_i h
  obtain ⟨hlt, hmark⟩ := List.getElem?_eq_some_iff.mp h
  have hpos : 0 < walk.marks.count .unseen :=
    List.count_pos_iff.mpr (hmark ▸ List.getElem_mem hlt)
  rw [List.count_set hlt, hmark]
  simp only [beq_self_eq_true, if_true, show (Mark.onPath == Mark.unseen) = false by decide]
  exact Nat.sub_lt hpos Nat.one_pos

/-- The nodes of a walk that is over. -/
def finish (path : List Nat) (marks : List Mark) : List Mark :=
  path.foldl (fun marks node => marks.set node .done) marks

/-- The first walk from these nodes that comes back to its path, and where. -/
def firstCycle : List Nat → List Mark → Option Nat
  | [], _ => none
  | start :: starts, marks =>
    if marks[start]? = some .done then firstCycle starts marks
    else
      let walk := climb parent { marks, path := [], current := start }
      if walk.marks[walk.current]? = some .onPath ∧ (parent walk.current).isSome = true then
        some walk.current
      else firstCycle starts (finish walk.path walk.marks)

def findCycle (n : Nat) : Option Nat :=
  firstCycle parent (List.range n) (List.replicate n .unseen)

/-! ## What a walk does -/

/-- One node is the parent of the other. -/
def Below (child node : Nat) : Prop := parent child = some node

/-- There is a root above the node, or it is one. -/
def Grounded (node : Nat) : Prop :=
  ∃ root, Relation.ReflTransGen (Below parent) node root ∧ parent root = none

/-- What holds of a walk that ended, of where it began. -/
structure Climbed (walk stop : Walk) : Prop where
  marked : ∀ i : Nat, stop.marks[i]? = some .onPath → i ∈ stop.path
  up : ∀ i ∈ stop.path, Relation.ReflTransGen (Below parent) i stop.current
  strictly : parent stop.current = none ∨
    ∀ i ∈ stop.path, Relation.TransGen (Below parent) i stop.current
  done : ∀ i : Nat, stop.marks[i]? = some .done ↔ walk.marks[i]? = some .done
  length : stop.marks.length = walk.marks.length
  kept : ∀ i ∈ walk.path, i ∈ stop.path
  seen : stop.marks[stop.current]? ≠ some .unseen
  first : walk.marks[walk.current]? = some .unseen → walk.current ∈ stop.path
  inside : stop.current = walk.current ∨ ∃ child, parent child = some stop.current

variable {parent}

theorem set_onPath_done {marks : List Mark} {node : Nat} (h : marks[node]? = some .unseen)
    (i : Nat) :
    (marks.set node .onPath)[i]? = some .done ↔ marks[i]? = some .done := by
  rw [List.getElem?_set]
  by_cases hi : node = i
  · obtain ⟨hlt, -⟩ := List.getElem?_eq_some_iff.mp h
    rw [if_pos hi, if_pos hlt, ← hi, h]
    exact ⟨nofun, nofun⟩
  · rw [if_neg hi]

theorem set_onPath_marked {marks : List Mark} {path : List Nat} {node : Nat}
    (h : ∀ i : Nat, marks[i]? = some .onPath → i ∈ path) (i : Nat)
    (hi : (marks.set node .onPath)[i]? = some .onPath) : i ∈ path ++ [node] := by
  rw [List.getElem?_set] at hi
  by_cases heq : node = i
  · exact List.mem_append_right _ (List.mem_singleton.mpr heq.symm)
  · rw [if_neg heq] at hi
    exact List.mem_append_left _ (h i hi)

/-- The walk and where it ends; the induction is on the walk. -/
theorem climb_climbed (walk : Walk)
    (hmarked : ∀ i : Nat, walk.marks[i]? = some .onPath → i ∈ walk.path)
    (hup : ∀ i ∈ walk.path, Relation.TransGen (Below parent) i walk.current) :
    Climbed parent walk (climb parent walk) := by
  induction walk using climb.induct parent with
  | case1 walk hunseen hroot =>
    -- a root: the node itself joins the path, and the walk stays there
    rw [climb, if_pos hunseen, hroot]
    obtain ⟨hlt, -⟩ := List.getElem?_eq_some_iff.mp hunseen
    refine ⟨fun i => set_onPath_marked hmarked i, ?_, .inl hroot, set_onPath_done hunseen,
      List.length_set, fun i hi => List.mem_append_left _ hi, ?_, fun _ => ?_, .inl rfl⟩
    · intro i hi
      rcases List.mem_append.mp hi with hi | hi
      · exact (hup i hi).to_reflTransGen
      · rw [List.mem_singleton.mp hi]
    · show (walk.marks.set walk.current .onPath)[walk.current]? ≠ some .unseen
      rw [List.getElem?_set, if_pos rfl, if_pos hlt]
      exact nofun
    · exact List.mem_append_right _ (List.mem_singleton.mpr rfl)
  | case2 walk hunseen next hnext ih =>
    rw [climb, if_pos hunseen, hnext]
    have hchain : ∀ i ∈ walk.path ++ [walk.current], Relation.TransGen (Below parent) i next := by
      intro i hi
      rcases List.mem_append.mp hi with hi | hi
      · exact (hup i hi).tail hnext
      · rw [List.mem_singleton.mp hi]
        exact .single hnext
    have hclimbed := ih (fun i => set_onPath_marked hmarked i) hchain
    refine ⟨hclimbed.marked, hclimbed.up, hclimbed.strictly,
      fun i => (hclimbed.done i).trans (set_onPath_done hunseen i),
      hclimbed.length.trans List.length_set,
      fun i hi => hclimbed.kept i (List.mem_append_left _ hi), hclimbed.seen, fun _ => ?_, ?_⟩
    · exact hclimbed.kept walk.current (List.mem_append_right _ (List.mem_singleton.mpr rfl))
    · rcases hclimbed.inside with heq | hchild
      · exact .inr ⟨walk.current, hnext.trans (congrArg some heq.symm)⟩
      · exact .inr hchild
  | case3 walk hseen =>
    rw [climb, if_neg hseen]
    exact ⟨hmarked, fun i hi => (hup i hi).to_reflTransGen, .inr hup, fun _ => Iff.rfl, rfl,
      fun _ hi => hi, hseen, fun h => absurd h hseen, .inl rfl⟩

theorem count_marked {marks : List Mark} {node : Nat} (h : marks[node]? = some .unseen) :
    (marks.set node .onPath).count .unseen + 1 = marks.count .unseen := by
  obtain ⟨hlt, hmark⟩ := List.getElem?_eq_some_iff.mp h
  have hpos : 0 < marks.count .unseen := List.count_pos_iff.mpr (hmark ▸ List.getElem_mem hlt)
  rw [List.count_set hlt, hmark]
  simp only [beq_self_eq_true, if_true, show (Mark.onPath == Mark.unseen) = false by decide]
  exact Nat.sub_add_cancel hpos

/-- A walk takes one step for each unseen node it meets. -/
theorem climb_length_from (walk : Walk) :
    (climb parent walk).path.length ≤ walk.path.length + walk.marks.count .unseen := by
  induction walk using climb.induct parent with
  | case1 walk hunseen hroot =>
    rw [climb, if_pos hunseen, hroot]
    have hcount := count_marked hunseen
    rw [List.length_append, List.length_singleton]
    omega
  | case2 walk hunseen next hnext ih =>
    rw [climb, if_pos hunseen, hnext]
    have hcount := count_marked hunseen
    rw [List.length_append, List.length_singleton] at ih
    refine Nat.le_trans ih ?_
    show walk.path.length + 1 + (walk.marks.set walk.current .onPath).count .unseen ≤ _
    omega
  | case3 walk hseen =>
    rw [climb, if_neg hseen]
    exact Nat.le_add_right _ _

theorem climb_length {marks : List Mark} (start : Nat) :
    (climb parent { marks, path := [], current := start }).path.length ≤ marks.count .unseen :=
  Nat.le_trans (climb_length_from _) (Nat.le_of_eq (Nat.zero_add _))

theorem getElem?_finish (path : List Nat) (marks : List Mark) (i : Nat) :
    (finish path marks)[i]? = if i ∈ path then marks[i]?.map fun _ => .done else marks[i]? := by
  unfold finish
  induction path generalizing marks with
  | nil => rw [List.foldl_nil, if_neg List.not_mem_nil]
  | cons node path ih =>
    rw [List.foldl_cons, ih, List.getElem?_set]
    by_cases hnode : node = i
    · rw [if_pos hnode, if_pos (List.mem_cons.mpr (.inl hnode.symm)), ← hnode]
      by_cases hlt : node < marks.length
      · rw [if_pos hlt, List.getElem?_eq_getElem hlt]
        exact ite_self _
      · rw [if_neg hlt, List.getElem?_eq_none (Nat.le_of_not_lt hlt)]
        exact ite_self _
    · rw [if_neg hnode]
      by_cases hi : i ∈ path
      · rw [if_pos hi, if_pos (List.mem_cons_of_mem _ hi)]
      · rw [if_neg hi, if_neg fun h => (List.mem_cons.mp h).elim (Ne.symm hnode) hi]

/-- Between two walks no node is on a path. -/
theorem finish_marked {walk stop : Walk} (h : Climbed parent walk stop) (i : Nat) :
    (finish stop.path stop.marks)[i]? ≠ some .onPath := by
  rw [getElem?_finish]
  split
  · intro heq
    obtain ⟨mark, -, hmark⟩ := Option.map_eq_some_iff.mp heq
    exact nomatch hmark
  · intro heq
    exact absurd (h.marked i heq) ‹_›

/-- A walk begins with an empty path. -/
theorem climbed_start {marks : List Mark} (hmarks : ∀ i : Nat, marks[i]? ≠ some .onPath)
    (start : Nat) :
    Climbed parent { marks, path := [], current := start }
      (climb parent { marks, path := [], current := start }) :=
  climb_climbed _ (fun i hi => absurd hi (hmarks i)) fun _ hi => nomatch hi

/-! ## What is reported -/

theorem cycle_of_firstCycle {starts : List Nat} {marks : List Mark} {node : Nat}
    (hmarks : ∀ i : Nat, marks[i]? ≠ some .onPath)
    (h : firstCycle parent starts marks = some node) :
    Relation.TransGen (Below parent) node node := by
  induction starts generalizing marks with
  | nil => exact nomatch h
  | cons start starts ih =>
    rw [firstCycle] at h
    split at h
    · exact ih hmarks h
    · have hclimbed := @climbed_start parent marks hmarks start
      dsimp only at h
      split at h
      · -- the walk stands on its own path, below itself
        rename_i hback
        obtain rfl := Option.some.inj h
        rcases hclimbed.strictly with hroot | hstrict
        · rw [hroot] at hback
          exact absurd hback.2 Bool.false_ne_true
        · exact hstrict _ (hclimbed.marked _ hback.1)
      · exact ih (finish_marked hclimbed) h

/-- What is reported lies on a cycle. -/
theorem cycle_of_findCycle {n node : Nat} (h : findCycle parent n = some node) :
    Relation.TransGen (Below parent) node node := by
  refine cycle_of_firstCycle (fun i hi => ?_) h
  exact nomatch List.eq_of_mem_replicate (List.mem_of_getElem? hi)

theorem grounded_of_up {node above : Nat} (h : Relation.ReflTransGen (Below parent) node above)
    (habove : Grounded parent above) : Grounded parent node := by
  obtain ⟨root, hroot, hnone⟩ := habove
  exact ⟨root, h.trans hroot, hnone⟩

/-- The nodes of finished walks have roots above them; so have those of a walk that did not
come back to its path. -/
theorem grounded_of_firstCycle {starts : List Nat} {marks : List Mark}
    (hclosed : ∀ i j, parent i = some j → j < marks.length)
    (hmarks : ∀ i : Nat, marks[i]? ≠ some .onPath)
    (hdone : ∀ i : Nat, marks[i]? = some .done → Grounded parent i)
    (hstarts : ∀ start ∈ starts, start < marks.length)
    (h : firstCycle parent starts marks = none) : ∀ start ∈ starts, Grounded parent start := by
  induction starts generalizing marks with
  | nil => exact fun start hstart => nomatch hstart
  | cons start starts ih =>
    rw [List.forall_mem_cons] at hstarts ⊢
    rw [firstCycle] at h
    split at h
    · rename_i hfinished
      exact ⟨hdone start hfinished, ih hclosed hmarks hdone hstarts.2 h⟩
    · rename_i hfresh
      have hclimbed := @climbed_start parent marks hmarks start
      dsimp only at h
      split at h
      · exact nomatch h
      · rename_i hback
        generalize climb parent { marks, path := [], current := start } = stop at hclimbed hback h
        have hinside : stop.current < stop.marks.length := by
          rw [hclimbed.length]
          rcases hclimbed.inside with heq | ⟨child, hchild⟩
          · rw [heq]
            exact hstarts.1
          · exact hclosed child _ hchild
        -- where the walk ends there is a root above
        have hcurrent : Grounded parent stop.current := by
          cases hparent : parent stop.current with
          | none => exact ⟨stop.current, .refl, hparent⟩
          | some next =>
            have hmark := List.getElem?_eq_getElem hinside
            cases hvalue : stop.marks[stop.current] with
            | unseen => exact absurd (hmark.trans (congrArg some hvalue)) hclimbed.seen
            | onPath =>
              refine absurd ⟨hmark.trans (congrArg some hvalue), ?_⟩ hback
              rw [hparent]
              rfl
            | done =>
              exact hdone _ ((hclimbed.done _).mp (hmark.trans (congrArg some hvalue)))
        have hpath : ∀ i ∈ stop.path, Grounded parent i := fun i hi =>
          grounded_of_up (hclimbed.up i hi) hcurrent
        have hlength : (finish stop.path stop.marks).length = marks.length := by
          rw [← hclimbed.length]
          unfold finish
          generalize stop.path = path
          generalize stop.marks = later
          induction path generalizing later with
          | nil => rfl
          | cons node path ih => rw [List.foldl_cons, ih, List.length_set]
        have hunseen : marks[start]? = some .unseen := by
          have hmark := List.getElem?_eq_getElem hstarts.1
          cases hvalue : marks[start] with
          | unseen => exact hmark.trans (congrArg some hvalue)
          | onPath => exact absurd (hmark.trans (congrArg some hvalue)) (hmarks start)
          | done => exact absurd (hmark.trans (congrArg some hvalue)) hfresh
        refine ⟨hpath start (hclimbed.first hunseen), ih ?_ (finish_marked hclimbed) ?_ ?_ h⟩
        · rw [hlength]
          exact hclosed
        · intro i hi
          rw [getElem?_finish] at hi
          split at hi
          · exact hpath i ‹_›
          · exact hdone i ((hclimbed.done i).mp hi)
        · rw [hlength]
          exact hstarts.2

/-- A node with a root above it lies on no cycle. -/
theorem Grounded.not_cycle {node : Nat} (h : Grounded parent node) :
    ¬ Relation.TransGen (Below parent) node node := by
  obtain ⟨root, hup, hroot⟩ := h
  induction hup using Relation.ReflTransGen.head_induction_on with
  | refl =>
    intro hcycle
    obtain ⟨next, hnext, -⟩ := Relation.TransGen.head'_iff.mp hcycle
    exact nomatch hroot.symm.trans hnext
  | head hstep _ ih =>
    -- the cycle can be entered one step later
    intro hcycle
    obtain ⟨next, hnext, hrest⟩ := Relation.TransGen.head'_iff.mp hcycle
    obtain rfl := Option.some.inj (hstep.symm.trans hnext)
    exact ih (Relation.TransGen.tail' hrest hstep)

/-- Nothing is reported where every node has a root above it, and only there. -/
theorem findCycle_none_iff {n : Nat} (hclosed : ∀ i j, parent i = some j → j < n) :
    findCycle parent n = none ↔ ∀ i < n, Grounded parent i := by
  have hmarks : ∀ i : Nat, (List.replicate n Mark.unseen)[i]? ≠ some .onPath := fun i hi =>
    nomatch List.eq_of_mem_replicate (List.mem_of_getElem? hi)
  constructor
  · intro h i hi
    refine grounded_of_firstCycle ?_ hmarks ?_ ?_ h i (List.mem_range.mpr hi)
    · rw [List.length_replicate]
      exact hclosed
    · exact fun i hi => nomatch List.eq_of_mem_replicate (List.mem_of_getElem? hi)
    · rw [List.length_replicate]
      exact fun start hstart => List.mem_range.mp hstart
  · intro h
    cases hfound : findCycle parent n with
    | none => rfl
    | some node =>
      have hcycle := cycle_of_findCycle hfound
      -- the node has a child on the cycle, so it is one of the nodes
      obtain ⟨child, -, hchild⟩ := Relation.TransGen.tail'_iff.mp hcycle
      exact absurd hcycle (h node (hclosed child node hchild)).not_cycle

end Trees
