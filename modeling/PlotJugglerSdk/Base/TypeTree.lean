import PlotJugglerSdk.Lexing.Padded
import PlotJugglerSdk.Lexing.Split
import PlotJugglerSdk.Trees.DepthFirst

/-!
# Type trees

The type of a topic as a tree of structs, arrays and leaves. A tree is flattened into the paths
of its fields: names with dots between them, and an index behind the name of an array of fixed
size.

* `flattenFieldPaths_faithful` — the paths of a tree, their number and their order
-/

namespace PlotJugglerSdk

open Wire Json Lexing Trees

inductive TypeKind where
  | primitive
  | struct
  | array
  | enum
  deriving DecidableEq

/-- A node in its kind: a struct has children, an array an element and, if it is fixed, a size. -/
structure TypeTreeNode where
  name : Bytes
  kind : TypeKind
  children : List TypeTreeNode := []
  elementType : Option TypeTreeNode := none
  fixedArraySize : Option UInt32 := none

def dot : UInt8 := 0x2e

def openBracket : UInt8 := 0x5b

def closeBracket : UInt8 := 0x5d

def joinPath (parent name : Bytes) : Bytes := if parent = [] then name else parent ++ dot :: name

def indexText (idx : Nat) : Bytes := openBracket :: decimalText idx ++ [closeBracket]

mutual

def flattenImpl (parent : Bytes) : TypeTreeNode → List Bytes
  | ⟨name, kind, children, elementType, fixedArraySize⟩ =>
    let currentPath := joinPath parent name
    match kind with
    | .struct => flattenChildren currentPath children
    | .array => flattenElements currentPath fixedArraySize elementType
    -- a leaf
    | .primitive | .enum => [currentPath]

/-- The loop over the children of a struct. -/
def flattenChildren (currentPath : Bytes) : List TypeTreeNode → List Bytes
  | [] => []
  | child :: children => flattenImpl currentPath child ++ flattenChildren currentPath children

/-- The loop over the elements of an array. A dynamic array has no path. -/
def flattenElements (currentPath : Bytes) (fixedArraySize : Option UInt32) :
    Option TypeTreeNode → List Bytes
  | none => []
  | some element =>
    match fixedArraySize with
    | none => []
    | some size =>
      (List.range size.toNat).flatMap fun idx => flattenImpl (currentPath ++ indexText idx) element

end

mutual

def countLeafFieldsImpl : TypeTreeNode → UInt64
  | ⟨_, kind, children, elementType, fixedArraySize⟩ =>
    match kind with
    | .struct => countChildren children
    | .array => countElements fixedArraySize elementType
    | .primitive | .enum => 1

def countChildren : List TypeTreeNode → UInt64
  | [] => 0
  | child :: children => countLeafFieldsImpl child + countChildren children

def countElements (fixedArraySize : Option UInt32) : Option TypeTreeNode → UInt64
  | none => 0
  | some element =>
    match fixedArraySize with
    | none => 0
    | some size => size.toUInt64 * countLeafFieldsImpl element

end

/-- The root's own name is skipped. -/
def flattenFieldPaths (root : TypeTreeNode) : List Bytes :=
  if root.kind ≠ .struct then [root.name] else flattenChildren [] root.children

def countLeafFields (root : TypeTreeNode) : UInt64 := countLeafFieldsImpl root

mutual

/-- The same count without a bound. -/
def leafCount : TypeTreeNode → Nat
  | ⟨_, kind, children, elementType, fixedArraySize⟩ =>
    match kind with
    | .struct => leafCountChildren children
    | .array => leafCountElements fixedArraySize elementType
    | .primitive | .enum => 1

def leafCountChildren : List TypeTreeNode → Nat
  | [] => 0
  | child :: children => leafCount child + leafCountChildren children

def leafCountElements (fixedArraySize : Option UInt32) : Option TypeTreeNode → Nat
  | none => 0
  | some element =>
    match fixedArraySize with
    | none => 0
    | some size => size.toNat * leafCount element

end

/-! ## The fields of a tree -/

/-- A node under the path of its parent. -/
abbrev TypeField := Bytes × TypeTreeNode

namespace TypeField

def path (field : TypeField) : Bytes := joinPath field.1 field.2.name

def isLeaf (field : TypeField) : Bool := field.2.kind = .primitive || field.2.kind = .enum

/-- The elements of an array, each under its index. -/
def elements (currentPath : Bytes) : Option UInt32 → Option TypeTreeNode → List TypeField
  | some size, some element =>
    (List.range size.toNat).map fun idx => (currentPath ++ indexText idx, element)
  | _, _ => []

def branches (field : TypeField) : List TypeField :=
  match field.2.kind with
  | .struct => field.2.children.map fun child => (field.path, child)
  | .array => elements field.path field.2.fixedArraySize field.2.elementType
  | _ => []

theorem mem_elements {currentPath : Bytes} {fixedArraySize : Option UInt32}
    {elementType : Option TypeTreeNode} {field : TypeField}
    (h : field ∈ elements currentPath fixedArraySize elementType) : elementType = some field.2 := by
  unfold elements at h
  split at h
  · obtain ⟨idx, -, rfl⟩ := List.mem_map.mp h
    rfl
  · cases h

theorem sizeOf_lt {field b : TypeField} (h : b ∈ field.branches) : sizeOf b.2 < sizeOf field.2 := by
  obtain ⟨parent, name, kind, children, elementType, fixedArraySize⟩ := field
  unfold branches at h
  split at h
  · obtain ⟨child, hmem, rfl⟩ := List.mem_map.mp h
    have hlt := List.sizeOf_lt_of_mem hmem
    simp only [TypeTreeNode.mk.sizeOf_spec] at *
    omega
  · have heq := mem_elements h
    dsimp only at heq
    simp only [TypeTreeNode.mk.sizeOf_spec, heq, Option.some.sizeOf_spec]
    omega
  · cases h

/-- The fields of a tree branch into the fields of children and of elements. -/
noncomputable def tree : Branching TypeField where
  branches := branches
  isLeaf := isLeaf
  size field := sizeOf field.2
  size_lt _ _ h := sizeOf_lt h
  leaf_nil field h := by
    unfold isLeaf at h
    unfold branches
    cases hkind : field.2.kind <;> rw [hkind] at h <;> first | rfl | cases h

end TypeField

/-! ## Paths and counts -/

theorem flattenChildren_eq (currentPath : Bytes) (children : List TypeTreeNode) :
    flattenChildren currentPath children = children.flatMap (flattenImpl currentPath) := by
  induction children with
  | nil => rfl
  | cons child children ih => rw [flattenChildren, ih, List.flatMap_cons]

theorem leafCountChildren_eq (children : List TypeTreeNode) :
    leafCountChildren children = (children.map leafCount).sum := by
  induction children with
  | nil => rfl
  | cons child children ih => rw [leafCountChildren, ih, List.map_cons, List.sum_cons]

namespace TypeField

variable {field : TypeField}

/-- A field that is no leaf is flattened into what its branches are flattened into. -/
theorem flattenImpl_branches (h : field.isLeaf = false) :
    flattenImpl field.1 field.2 = field.branches.flatMap fun b => flattenImpl b.1 b.2 := by
  obtain ⟨parent, name, kind, children, elementType, fixedArraySize⟩ := field
  unfold branches path
  cases kind with
  | primitive => cases h
  | enum => cases h
  | struct =>
    dsimp only
    rw [flattenImpl, flattenChildren_eq, List.flatMap_map]
  | array =>
    dsimp only
    rw [flattenImpl]
    cases elementType with
    | none =>
      rw [flattenElements]
      cases fixedArraySize <;> rfl
    | some element =>
      cases fixedArraySize with
      | none =>
        rw [flattenElements]
        rfl
      | some size =>
        rw [flattenElements]
        dsimp only [elements]
        rw [List.flatMap_map]

theorem flattenImpl_leaf (h : field.isLeaf = true) :
    flattenImpl field.1 field.2 = [field.path] := by
  obtain ⟨parent, name, kind, children, elementType, fixedArraySize⟩ := field
  cases kind with
  | primitive => rw [flattenImpl]; rfl
  | enum => rw [flattenImpl]; rfl
  | struct => cases h
  | array => cases h

/-- The paths of a field are those of the leaves below it. -/
theorem flattenImpl_eq (field : TypeField) :
    flattenImpl field.1 field.2 = (tree.leaves field).map path := by
  induction field using tree.induction with
  | h field ih =>
    cases hleaf : field.isLeaf with
    | true => rw [flattenImpl_leaf hleaf, tree.leaves_of_leaf hleaf, List.map_singleton]
    | false =>
      rw [flattenImpl_branches hleaf, tree.leaves_of_branches hleaf, List.map_flatMap]
      exact List.flatMap_congr fun b hmem => ih b hmem

end TypeField

theorem leafCount_branches {field : TypeField} (h : field.isLeaf = false) :
    leafCount field.2 = (field.branches.map fun b => leafCount b.2).sum := by
  obtain ⟨parent, name, kind, children, elementType, fixedArraySize⟩ := field
  unfold TypeField.branches
  cases kind with
  | primitive => cases h
  | enum => cases h
  | struct =>
    dsimp only
    rw [leafCount, leafCountChildren_eq, List.map_map]
    rfl
  | array =>
    dsimp only
    rw [leafCount]
    cases elementType with
    | none =>
      rw [leafCountElements]
      cases fixedArraySize <;> rfl
    | some element =>
      cases fixedArraySize with
      | none =>
        rw [leafCountElements]
        rfl
      | some size =>
        -- as many times the leaves of the element as the array has elements
        have hconst : ∀ indices : List Nat,
            ((indices.map fun _ => leafCount element)).sum =
              indices.length * leafCount element := by
          intro indices
          rw [List.map_const', List.sum_replicate_nat]
        rw [leafCountElements]
        dsimp only [TypeField.elements]
        rw [List.map_map]
        show _ = ((List.range size.toNat).map fun _ => leafCount element).sum
        rw [hconst, List.length_range]

theorem leafCount_leaf {field : TypeField} (h : field.isLeaf = true) : leafCount field.2 = 1 := by
  obtain ⟨parent, name, kind, children, elementType, fixedArraySize⟩ := field
  cases kind with
  | primitive => rw [leafCount]
  | enum => rw [leafCount]
  | struct => cases h
  | array => cases h

/-- A node is flattened into as many paths as it has leaves. -/
theorem length_flattenImpl (parent : Bytes) (node : TypeTreeNode) :
    (flattenImpl parent node).length = leafCount node := by
  rw [TypeField.flattenImpl_eq (parent, node), List.length_map]
  exact Branching.length_leaves (fun field : TypeField => leafCount field.2)
    (fun _ h => leafCount_leaf h) (fun _ h => leafCount_branches h) (parent, node)

mutual

/-- The count of the source is the unbounded one in the numbers of its type. -/
theorem countLeafFieldsImpl_eq (node : TypeTreeNode) :
    countLeafFieldsImpl node = UInt64.ofNat (leafCount node) := by
  match node with
  | ⟨_, .struct, children, _, _⟩ =>
    rw [countLeafFieldsImpl, leafCount]
    exact countChildren_eq children
  | ⟨_, .array, _, elementType, fixedArraySize⟩ =>
    rw [countLeafFieldsImpl, leafCount]
    exact countElements_eq fixedArraySize elementType
  | ⟨_, .primitive, _, _, _⟩ | ⟨_, .enum, _, _, _⟩ =>
    rw [countLeafFieldsImpl, leafCount]
    rfl

theorem countChildren_eq (children : List TypeTreeNode) :
    countChildren children = UInt64.ofNat (leafCountChildren children) := by
  match children with
  | [] => rfl
  | child :: children =>
    rw [countChildren, leafCountChildren, UInt64.ofNat_add, countLeafFieldsImpl_eq child,
      countChildren_eq children]

theorem countElements_eq (fixedArraySize : Option UInt32) (elementType : Option TypeTreeNode) :
    countElements fixedArraySize elementType =
      UInt64.ofNat (leafCountElements fixedArraySize elementType) := by
  match elementType with
  | none =>
    rw [countElements, leafCountElements]
    rfl
  | some element =>
    match fixedArraySize with
    | none =>
      rw [countElements, leafCountElements]
      rfl
    | some size =>
      have hsize : size.toUInt64 = UInt64.ofNat size.toNat := (UInt64.ofNat_uInt32ToNat size).symm
      rw [countElements, leafCountElements, UInt64.ofNat_mul, countLeafFieldsImpl_eq element, hsize]

end

theorem length_flattenFieldPaths {root : TypeTreeNode} (h : root.kind = .struct) :
    (flattenFieldPaths root).length = leafCount root := by
  obtain ⟨name, kind, children, elementType, fixedArraySize⟩ := root
  obtain rfl : kind = .struct := h
  unfold flattenFieldPaths
  rw [if_neg (fun hne => hne rfl), leafCount, leafCountChildren_eq, flattenChildren_eq,
    List.length_flatMap]
  exact congrArg List.sum (List.map_congr_left fun child _ => length_flattenImpl [] child)

/-! ## The order of paths -/

/-- The fields directly below a root. -/
def rootFields (root : TypeTreeNode) : List TypeField := root.children.map fun child => ([], child)

theorem flattenFieldPaths_eq {root : TypeTreeNode} (h : root.kind = .struct) :
    flattenFieldPaths root = ((rootFields root).flatMap TypeField.tree.leaves).map
      TypeField.path := by
  unfold flattenFieldPaths rootFields
  rw [if_neg (fun hne => hne h), flattenChildren_eq, List.flatMap_map, List.map_flatMap]
  exact List.flatMap_congr fun child _ => TypeField.flattenImpl_eq ([], child)

/-! ## Names -/

/-- A name that nothing in a path can be taken for. -/
def ValidName (name : Bytes) : Prop :=
  name ≠ [] ∧ dot ∉ name ∧ openBracket ∉ name ∧ closeBracket ∉ name

/-- Valid names everywhere, and different ones for the children of a struct. -/
inductive WellNamed : TypeTreeNode → Prop
  | intro {node : TypeTreeNode} (name : ValidName node.name)
    (siblings : node.kind = .struct → (node.children.map fun child => child.name).Nodup)
    (children : node.kind = .struct → ∀ child ∈ node.children, WellNamed child)
    (element : node.kind = .array → ∀ element, node.elementType = some element → WellNamed element) :
    WellNamed node

/-- What may stand behind a name in a path. -/
def Behind (tail : Bytes) : Prop :=
  tail = [] ∨ ∃ c rest, tail = c :: rest ∧ (c = dot ∨ c = openBracket)

theorem WellNamed.name {node : TypeTreeNode} (h : WellNamed node) : ValidName node.name := by
  cases h with
  | intro name => exact name

/-- The name that a text begins with is what stands before the first separator. -/
theorem name_append_inj {name name' tail tail' : Bytes} (hname : ValidName name)
    (hname' : ValidName name')
    (htail : Behind tail) (htail' : Behind tail') (h : name ++ tail = name' ++ tail') :
    name = name' := by
  have htake : ∀ name tail : Bytes, ValidName name → Behind tail →
      (name ++ tail).takeWhile (fun c => c != dot && c != openBracket) = name := by
    intro name tail hvalid hbehind
    rw [List.takeWhile_append_of_pos]
    · rcases hbehind with rfl | ⟨c, rest, rfl, rfl | rfl⟩
      · rw [List.takeWhile_nil, List.append_nil]
      · rw [List.takeWhile_cons_of_neg (by decide), List.append_nil]
      · rw [List.takeWhile_cons_of_neg (by decide), List.append_nil]
    · intro c hmem
      have hdot : c ≠ dot := fun heq => hvalid.2.1 (heq ▸ hmem)
      have hbracket : c ≠ openBracket := fun heq => hvalid.2.2.1 (heq ▸ hmem)
      rw [bne_iff_ne.mpr hdot, bne_iff_ne.mpr hbracket, Bool.and_true]
  rw [← htake name tail hname htail, h, htake name' tail' hname' htail']

theorem joinPath_append_inj {parent name name' tail tail' : Bytes} (hname : ValidName name)
    (hname' : ValidName name') (htail : Behind tail) (htail' : Behind tail')
    (h : joinPath parent name ++ tail = joinPath parent name' ++ tail') : name = name' := by
  apply name_append_inj hname hname' htail htail'
  unfold joinPath at h
  split at h
  · exact h
  · rw [List.append_assoc, List.append_assoc] at h
    exact (List.cons.inj (List.append_cancel_left h)).2

theorem indexText_append_inj {idx idx' : Nat} {rest rest' : Bytes}
    (h : indexText idx ++ rest = indexText idx' ++ rest') : idx = idx' := by
  have hclose : ∀ n : Nat, closeBracket ∉ decimalText n := by
    intro n hmem
    rw [decimalText_natCast] at hmem
    exact absurd (digit_of_digitsFrom (digitsFrom_printed n) closeBracket hmem) (by decide)
  unfold indexText at h
  rw [List.cons_append, List.cons_append, List.cons_append, List.cons_append, List.append_assoc,
    List.append_assoc] at h
  have hcut := congrArg (cut closeBracket) (List.cons.inj h).2
  rw [List.singleton_append, List.singleton_append, cut_append (hclose idx),
    cut_append (hclose idx')] at hcut
  exact Int.ofNat_inj.mp (decimalText_inj (Prod.mk.inj hcut).1)

namespace TypeField

theorem path_ne_nil {field : TypeField} (h : WellNamed field.2) : field.path ≠ [] := by
  unfold path joinPath
  split
  · exact h.name.1
  · exact fun hnil => absurd (List.append_eq_nil_iff.mp hnil).2 (List.cons_ne_nil _ _)

theorem element_path {currentPath : Bytes} (hne : currentPath ≠ []) (idx : Nat)
    (element : TypeTreeNode) :
    path (currentPath ++ indexText idx, element) =
      currentPath ++ (indexText idx ++ dot :: element.name) := by
  show joinPath (currentPath ++ indexText idx) element.name = _
  rw [joinPath, if_neg (fun hnil => hne (List.append_eq_nil_iff.mp hnil).1), List.append_assoc]

/-- A branch has a valid name under a path that is not empty, which continues that of the field. -/
theorem branch_spec {field b : TypeField} (h : WellNamed field.2) (hmem : b ∈ field.branches) :
    WellNamed b.2 ∧ ∃ tail, tail ≠ [] ∧ Behind tail ∧ b.path = field.path ++ tail := by
  have hne := path_ne_nil h
  unfold branches at hmem
  split at hmem
  · next hkind =>
    obtain ⟨child, hchild, rfl⟩ := List.mem_map.mp hmem
    refine ⟨?_, dot :: child.name, List.cons_ne_nil _ _, .inr ⟨dot, child.name, rfl, .inl rfl⟩,
      if_neg hne⟩
    cases h with
    | intro _ _ children _ => exact children hkind child hchild
  · next hkind =>
    have helement := mem_elements hmem
    refine ⟨?_, ?_⟩
    · cases h with
      | intro _ _ _ element => exact element hkind b.2 helement
    · unfold elements at hmem
      split at hmem
      · next size element _ _ =>
        obtain ⟨idx, -, rfl⟩ := List.mem_map.mp hmem
        exact ⟨indexText idx ++ dot :: element.name, List.cons_ne_nil _ _,
          .inr ⟨openBracket, _, rfl, .inr rfl⟩, element_path hne idx element⟩
      · cases hmem
  · cases hmem

/-- The path of a leaf continues the path of every field above it. -/
theorem path_of_leafAt {field leaf : TypeField} {position : List Nat}
    (h : tree.LeafAt field position leaf)
    (hnamed : WellNamed field.2) : ∃ tail, Behind tail ∧ leaf.path = field.path ++ tail := by
  induction h with
  | here _ => exact ⟨[], .inl rfl, (List.append_nil _).symm⟩
  | branch hbranch _ ih =>
    obtain ⟨hb, tail, hne, hbehind, hpath⟩ := branch_spec hnamed (List.mem_of_getElem? hbranch)
    obtain ⟨rest, -, hleaf⟩ := ih hb
    refine ⟨tail ++ rest, ?_, by rw [hleaf, hpath, List.append_assoc]⟩
    rcases hbehind with hnil | ⟨c, more, rfl, hc⟩
    · exact absurd hnil hne
    · exact .inr ⟨c, more ++ rest, rfl, hc⟩

/-- Different children of a struct have no path in common. -/
theorem children_apart {parent : Bytes} {children : List TypeTreeNode}
    (hsiblings : (children.map fun child => child.name).Nodup)
    (hnamed : ∀ child ∈ children, WellNamed child) {i j : Nat} {b b' : TypeField}
    {tail tail' : Bytes}
    (hb : (children.map fun child => (parent, child))[i]? = some b)
    (hb' : (children.map fun child => (parent, child))[j]? = some b') (htail : Behind tail)
    (htail' : Behind tail') (h : b.path ++ tail = b'.path ++ tail') : i = j := by
  rw [List.getElem?_map] at hb hb'
  obtain ⟨child, hchild, rfl⟩ := Option.map_eq_some_iff.mp hb
  obtain ⟨child', hchild', rfl⟩ := Option.map_eq_some_iff.mp hb'
  have hname := (hnamed child (List.mem_of_getElem? hchild)).name
  have hname' := (hnamed child' (List.mem_of_getElem? hchild')).name
  have heq : child.name = child'.name := joinPath_append_inj hname hname' htail htail' h
  -- a name stands once among siblings
  have hi : (children.map fun child => child.name)[i]? = some child.name := by
    rw [List.getElem?_map, hchild, Option.map_some]
  have hj : (children.map fun child => child.name)[j]? = some child.name := by
    rw [List.getElem?_map, hchild', Option.map_some, heq]
  have hlt : i < (children.map fun child => child.name).length :=
    (List.getElem?_eq_some_iff.mp hi).1
  exact (List.getElem?_inj hlt hsiblings).mp (hi.trans hj.symm)

/-- Different branches of a field have no path in common. -/
theorem branches_apart {field : TypeField} (hnamed : WellNamed field.2) {i j : Nat}
    {b b' : TypeField}
    {tail tail' : Bytes} (hb : field.branches[i]? = some b) (hb' : field.branches[j]? = some b')
    (htail : Behind tail) (htail' : Behind tail') (h : b.path ++ tail = b'.path ++ tail') :
    i = j := by
  have hne := path_ne_nil hnamed
  unfold branches at hb hb'
  split at hb
  · next hkind =>
    rw [hkind] at hb'
    cases hnamed with
    | intro _ siblings children _ =>
      exact children_apart (siblings hkind) (children hkind) hb hb' htail htail' h
  · next hkind =>
    rw [hkind] at hb'
    dsimp only at hb'
    unfold elements at hb hb'
    split at hb
    · next size element hsize helement =>
      rw [hsize, helement] at hb'
      dsimp only at hb'
      rw [List.getElem?_map] at hb hb'
      obtain ⟨idx, hidx, rfl⟩ := Option.map_eq_some_iff.mp hb
      obtain ⟨idx', hidx', rfl⟩ := Option.map_eq_some_iff.mp hb'
      have hrange : ∀ {k n : Nat}, (List.range size.toNat)[k]? = some n → n = k := by
        intro k n hk
        obtain ⟨hlt, hget⟩ := List.getElem?_eq_some_iff.mp hk
        rw [← hget, List.getElem_range]
      -- the paths agree up to the index
      rw [element_path hne, element_path hne, List.append_assoc, List.append_assoc,
        List.append_assoc,
        List.append_assoc] at h
      rw [← hrange hidx, ← hrange hidx']
      exact indexText_append_inj (List.append_cancel_left h)
    · cases hb
  · cases hb

/-- A path tells the leaf that it is of, below one field. -/
theorem leafAt_unique {field leaf : TypeField} {position : List Nat}
    (h : tree.LeafAt field position leaf)
    (hnamed : WellNamed field.2) {leaf' : TypeField} {position' : List Nat}
    (h' : tree.LeafAt field position' leaf') (hpath : leaf.path = leaf'.path) :
    position = position' ∧ leaf = leaf' := by
  induction h generalizing position' with
  | here hleaf =>
    cases h' with
    | here _ => exact ⟨rfl, rfl⟩
    | branch hbranch _ =>
      rw [tree.leaf_nil _ hleaf] at hbranch
      cases hbranch
  | branch hbranch hat ih =>
    cases h' with
    | here hleaf =>
      rw [tree.leaf_nil _ hleaf] at hbranch
      cases hbranch
    | branch hbranch' hat' =>
      obtain ⟨hb, -⟩ := branch_spec hnamed (List.mem_of_getElem? hbranch)
      obtain ⟨hb', -⟩ := branch_spec hnamed (List.mem_of_getElem? hbranch')
      -- both paths continue those of the branches that were taken
      obtain ⟨tail, htail, hleaf⟩ := path_of_leafAt hat hb
      obtain ⟨tail', htail', hleaf'⟩ := path_of_leafAt hat' hb'
      have hsame : _ ++ tail = _ ++ tail' := hleaf.symm.trans (hpath.trans hleaf')
      obtain rfl := branches_apart hnamed hbranch hbranch' htail htail' hsame
      obtain rfl := Option.some.inj (hbranch.symm.trans hbranch')
      obtain ⟨rfl, rfl⟩ := ih hb hat' hpath
      exact ⟨rfl, rfl⟩

end TypeField

/-- A leaf of a tree, at its position below the root. -/
def LeafBelow (root : TypeTreeNode) (position : List Nat) (leaf : TypeField) : Prop :=
  TypeField.tree.LeafAmong 0 (rootFields root) position leaf

/-- A path tells the leaf of a tree that it is of. -/
theorem leafBelow_unique {root : TypeTreeNode}
    (hsiblings : (root.children.map fun child => child.name).Nodup)
    (hnamed : ∀ child ∈ root.children, WellNamed child) {position position' : List Nat}
    {leaf leaf' : TypeField} (h : LeafBelow root position leaf)
    (h' : LeafBelow root position' leaf')
    (hpath : leaf.path = leaf'.path) : position = position' ∧ leaf = leaf' := by
  obtain ⟨i, b, rest, rfl, hb, hat⟩ := h
  obtain ⟨j, b', rest', rfl, hb', hat'⟩ := h'
  have hwell : ∀ {i : Nat} {b : TypeField}, (rootFields root)[i]? = some b → WellNamed b.2 := by
    intro i b hb
    obtain ⟨child, hmem, rfl⟩ := List.mem_map.mp (List.mem_of_getElem? hb)
    exact hnamed child hmem
  obtain ⟨tail, htail, hleaf⟩ := TypeField.path_of_leafAt hat (hwell hb)
  obtain ⟨tail', htail', hleaf'⟩ := TypeField.path_of_leafAt hat' (hwell hb')
  have hsame : _ ++ tail = _ ++ tail' := hleaf.symm.trans (hpath.trans hleaf')
  obtain rfl := TypeField.children_apart hsiblings hnamed hb hb' htail htail' hsame
  obtain rfl := Option.some.inj (hb.symm.trans hb')
  obtain ⟨rfl, rfl⟩ := TypeField.leafAt_unique hat (hwell hb) hat' hpath
  exact ⟨rfl, rfl⟩

/-- A struct is flattened into as many paths as it has leaves, depth first in the order of
declarations and indices; with valid names that differ among siblings no two paths are the same,
and each tells its leaf. -/
theorem flattenFieldPaths_faithful (root : TypeTreeNode) (hroot : root.kind = .struct) :
    (flattenFieldPaths root).length = leafCount root ∧
    countLeafFields root = UInt64.ofNat (leafCount root) ∧
    (∃ leaves, flattenFieldPaths root = leaves.map TypeField.path ∧
      Branching.Enumerated (LeafBelow root) leaves) ∧
    ((root.children.map fun child => child.name).Nodup →
      (∀ child ∈ root.children, WellNamed child) →
      (flattenFieldPaths root).Nodup ∧
      ∀ position position' leaf leaf', LeafBelow root position leaf →
        LeafBelow root position' leaf' →
        leaf.path = leaf'.path → position = position' ∧ leaf = leaf') := by
  have henumerated :
      Branching.Enumerated (LeafBelow root) ((rootFields root).flatMap TypeField.tree.leaves) :=
    Branching.enumerated_flatMap (fun field _ => Branching.enumerated_leaves field) 0
  have hpaths := flattenFieldPaths_eq hroot
  refine ⟨length_flattenFieldPaths hroot, countLeafFieldsImpl_eq root, ⟨_, hpaths, henumerated⟩, ?_⟩
  intro hsiblings hnamed
  refine ⟨?_, fun position position' leaf leaf' h h' hpath =>
    leafBelow_unique hsiblings hnamed h h' hpath⟩
  -- equal paths would stand at one position, and positions increase
  obtain ⟨fields, hleaves, hsorted, hmem⟩ := henumerated
  rw [hpaths, ← hleaves, List.map_map]
  refine List.pairwise_map.mpr (hsorted.imp_of_mem fun {field field'} hfield hfield' hlt heq => ?_)
  obtain ⟨hposition, -⟩ := leafBelow_unique hsiblings hnamed ((hmem field.1 field.2).mp hfield)
    ((hmem field'.1 field'.2).mp hfield') heq
  rw [hposition] at hlt
  exact List.lt_irrefl _ hlt

/-- A struct with a number and an array of three. -/
def sampleType : TypeTreeNode where
  name := text "Root"
  kind := .struct
  children := [
    { name := text "id", kind := .primitive },
    { name := text "data", kind := .array, elementType := some { name := text "v", kind := .primitive },
      fixedArraySize := some 3 }]

example : flattenFieldPaths sampleType =
    [text "id", text "data[0].v", text "data[1].v", text "data[2].v"] := by decide +kernel

theorem flattenFieldPaths_faithful_sample :
    (flattenFieldPaths sampleType).length = 4 ∧ (flattenFieldPaths sampleType).Nodup := by
  obtain ⟨hlength, -, -, hunique⟩ := flattenFieldPaths_faithful sampleType rfl
  refine ⟨hlength.trans (by decide +kernel), (hunique (by decide +kernel) fun child hmem => ?_).1⟩
  have hvalid : ValidName (text "id") ∧ ValidName (text "data") ∧ ValidName (text "v") := by
    unfold ValidName
    decide +kernel
  obtain ⟨hid, hdata, hv⟩ := hvalid
  have hleaf : ∀ name, ValidName name → WellNamed { name := name, kind := .primitive } :=
    fun name hname => .intro hname (fun h => by cases h) (fun h => by cases h) (fun h => by cases h)
  rcases List.mem_cons.mp hmem with rfl | hmem
  · exact hleaf _ hid
  · obtain rfl := List.mem_singleton.mp hmem
    refine .intro hdata (fun h => by cases h) (fun h => by cases h) fun _ element helement => ?_
    obtain rfl := Option.some.inj helement
    exact hleaf _ hv

end PlotJugglerSdk
