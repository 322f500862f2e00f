import PlotJugglerSdk.Dialog.EventDispatch

/-!
# Trees that are forests

A snapshot of a tree is a flat list of items that name their parents. It is accepted as a whole,
and only where it is well typed and a forest; what is accepted is the list as it stands.

* `TreeItemPayload`   — an item and its cells, as a document
* `Forest`            — every item is told by its id, and has a root above it
* `treeItems_snapshot` — the reader accepts the forests and nothing else
-/

namespace PlotJugglerSdk

namespace Dialog

open Wire Json Lexing Value WidgetEvent Trees

/-! ## Documents of items -/

structure TreeCellPayload (value : Value) (cell : TreeCell) : Prop where
  isObject : ∃ members, value = .object members
  text : value.find "text" = some (.string cell.text)
  sortValue : value.find "sort_value" = none ∧ cell.sortValue = none ∨
    ∃ key, value.find "sort_value" = some key ∧ KeyPayload key cell.sortValue
  tooltip : Defaulted value "tooltip" .string [] cell.tooltip
  icon : Defaulted value "icon" .string [] cell.icon

def checkStateToJson (state : TreeCheckState) : Value :=
  .string (Json.text (treeCheckStateWireValue state))

structure TreeItemPayload (value : Value) (item : TreeItem) : Prop where
  isObject : ∃ members, value = .object members
  id : value.find "id" = some (.string item.id)
  parentId : value.find "parent_id" = some (.string item.parentId)
  cells : ∃ values, value.find "cells" = some (.array values) ∧
    List.Forall₂ TreeCellPayload values item.cells
  enabled : Defaulted value "enabled" .boolean true item.enabled
  selectable : Defaulted value "selectable" .boolean true item.selectable
  mayHaveChildren : Defaulted value "may_have_children" .boolean false item.mayHaveChildren
  checkState : Defaulted value "check_state" checkStateToJson .none item.checkState

/-! ## Forests -/

/-- Following the parents from an item comes to a root. -/
inductive ReachesRoot (items : List TreeItem) : TreeItem → Prop
  | root {item : TreeItem} (h : item.parentId = []) : ReachesRoot items item
  | up {item parent : TreeItem} (hmem : parent ∈ items) (hid : parent.id = item.parentId)
    (h : ReachesRoot items parent) : ReachesRoot items item

structure Forest (items : List TreeItem) : Prop where
  named : ∀ item ∈ items, item.id ≠ []
  apart : (items.map TreeItem.id).Nodup
  parents : ∀ item ∈ items, item.parentId ≠ [] → ∃ parent ∈ items, parent.id = item.parentId
  rooted : ∀ item ∈ items, ReachesRoot items item

/-- The document is a list of well-typed items, and they are a forest. -/
structure TreeSnapshot (encoded : Value) (items : List TreeItem) : Prop where
  typed : ∃ values, encoded = .array values ∧ List.Forall₂ TreeItemPayload values items
  forest : Forest items

/-! ## One item -/

theorem decodeSortValue_iff {cell : Value} {key : Option NumericValue} :
    decodeSortValue cell = some key ↔
      cell.find "sort_value" = none ∧ key = none ∨
        ∃ value, cell.find "sort_value" = some value ∧ KeyPayload value key := by
  unfold decodeSortValue
  cases hfind : cell.find "sort_value" with
  | none =>
    constructor
    · exact fun h => .inl ⟨rfl, (Option.some.inj h).symm⟩
    · rintro (⟨-, rfl⟩ | ⟨value, hvalue, -⟩)
      · rfl
      · exact nomatch hvalue
  | some value =>
    refine decodeKey_iff.trans ⟨fun h => .inr ⟨value, rfl, h⟩, ?_⟩
    rintro (⟨hnone, -⟩ | ⟨other, hother, h⟩)
    · exact nomatch hnone
    · rw [Option.some.inj hother]
      exact h

theorem decodeTreeCell_iff {place : Bytes} (before : List TreeCell) (value : Value)
    (cell : TreeCell) :
    decodeTreeCell place before value = .ok cell ↔ TreeCellPayload value cell ∧ True := by
  unfold decodeTreeCell
  constructor
  · intro h
    obtain ⟨object, hobject, h⟩ := Scan.bind_eq_ok.mp h
    obtain ⟨display, hdisplay, h⟩ := Scan.bind_eq_ok.mp h
    obtain ⟨sortValue, hsort, h⟩ := Scan.bind_eq_ok.mp h
    obtain ⟨tooltip, htooltip, h⟩ := Scan.bind_eq_ok.mp h
    obtain ⟨icon, hicon, hitem⟩ := Scan.bind_eq_ok.mp h
    obtain ⟨hmembers, rfl⟩ := asObject_iff.mp (require_ok.mp hobject)
    obtain rfl := Except.ok.inj hitem
    exact ⟨⟨hmembers, getString_iff.mp (require_ok.mp hdisplay),
      decodeSortValue_iff.mp (require_ok.mp hsort), optionalString_iff.mp (require_ok.mp htooltip),
      optionalString_iff.mp (require_ok.mp hicon)⟩, trivial⟩
  · rintro ⟨h, -⟩
    refine Scan.bind_eq_ok.mpr ⟨value, require_ok.mpr (asObject_iff.mpr ⟨h.isObject, rfl⟩), ?_⟩
    refine Scan.bind_eq_ok.mpr ⟨_, require_ok.mpr (getString_iff.mpr h.text), ?_⟩
    refine Scan.bind_eq_ok.mpr ⟨_, require_ok.mpr (decodeSortValue_iff.mpr h.sortValue), ?_⟩
    refine Scan.bind_eq_ok.mpr ⟨_, require_ok.mpr (optionalString_iff.mpr h.tooltip), ?_⟩
    exact Scan.bind_eq_ok.mpr ⟨_, require_ok.mpr (optionalString_iff.mpr h.icon), rfl⟩

theorem decodeTreeCells_iff {place : Bytes} {values : List Value} {cells : List TreeCell} :
    decodeOnto (decodeTreeCell place) [] values = .ok cells ↔
      List.Forall₂ TreeCellPayload values cells := by
  rw [decodeOnto_iff decodeTreeCell_iff]
  constructor
  · rintro ⟨items, rfl, hall, -⟩
    exact hall
  · exact fun h => ⟨cells, rfl, h, each_true _ _⟩

theorem decodeCheckState_iff {place : Bytes} {encoded : Value} {state : TreeCheckState} :
    decodeCheckState place encoded = .ok state ↔
      Defaulted encoded "check_state" checkStateToJson .none state := by
  unfold decodeCheckState Defaulted
  cases encoded.find "check_state" with
  | none =>
    constructor
    · exact fun h => .inr ⟨rfl, (Except.ok.inj h).symm⟩
    · rintro (h | ⟨-, rfl⟩)
      · exact nomatch h
      · rfl
  | some value =>
    constructor
    · intro h
      obtain ⟨content, hcontent, h⟩ := Scan.bind_eq_ok.mp h
      rw [asString_iff.mp (require_ok.mp hcontent),
        checkStateFromWireValue_iff.mp (require_ok.mp h)]
      exact .inl rfl
    · rintro (h | ⟨h, -⟩)
      · rw [Option.some.inj h]
        refine Scan.bind_eq_ok.mpr ⟨_, require_ok.mpr (asString_iff.mpr rfl), ?_⟩
        exact require_ok.mpr (checkStateFromWireValue_iff.mpr rfl)
      · exact nomatch h

/-- An item that is no parent of itself, under an id of its own. -/
def FreshItem (before : List TreeItem) (item : TreeItem) : Prop :=
  (item.id ≠ [] ∧ item.parentId ≠ item.id) ∧ ∀ other ∈ before, other.id ≠ item.id

theorem decodeTreeItem_iff (before : List TreeItem) (value : Value) (item : TreeItem) :
    decodeTreeItem before value = .ok item ↔ TreeItemPayload value item ∧
      FreshItem before item := by
  unfold decodeTreeItem
  constructor
  · intro h
    -- the checks of the decoder, one by one and in its order
    obtain ⟨object, hobject, h⟩ := Scan.bind_eq_ok.mp h
    obtain ⟨id, hid, h⟩ := Scan.bind_eq_ok.mp h
    obtain ⟨_, hfilled, h⟩ := Scan.bind_eq_ok.mp h
    obtain ⟨_, hnew, h⟩ := Scan.bind_eq_ok.mp h
    obtain ⟨parentId, hparent, h⟩ := Scan.bind_eq_ok.mp h
    obtain ⟨_, hself, h⟩ := Scan.bind_eq_ok.mp h
    obtain ⟨values, hvalues, h⟩ := Scan.bind_eq_ok.mp h
    obtain ⟨cells, hcells, h⟩ := Scan.bind_eq_ok.mp h
    obtain ⟨enabled, henabled, h⟩ := Scan.bind_eq_ok.mp h
    obtain ⟨selectable, hselectable, h⟩ := Scan.bind_eq_ok.mp h
    obtain ⟨mayHaveChildren, hchildren, h⟩ := Scan.bind_eq_ok.mp h
    obtain ⟨checkState, hstate, hitem⟩ := Scan.bind_eq_ok.mp h
    obtain ⟨hmembers, rfl⟩ := asObject_iff.mp (require_ok.mp hobject)
    obtain rfl := Except.ok.inj hitem
    refine ⟨⟨hmembers, getString_iff.mp (require_ok.mp hid),
      getString_iff.mp (require_ok.mp hparent),
      ⟨values, bind_asArray_iff.mp (require_ok.mp hvalues), decodeTreeCells_iff.mp hcells⟩,
      decodeOptionalBool_iff.mp (require_ok.mp henabled),
      decodeOptionalBool_iff.mp (require_ok.mp hselectable),
      decodeOptionalBool_iff.mp (require_ok.mp hchildren), decodeCheckState_iff.mp hstate⟩,
      ⟨refuse_ok.mp hfilled, refuse_ok.mp hself⟩, fun other hother heq => ?_⟩
    exact refuse_ok.mp hnew ⟨other, hother, heq⟩
  · rintro ⟨h, ⟨hfilled, hself⟩, hnew⟩
    obtain ⟨values, hvalues, hcells⟩ := h.cells
    refine Scan.bind_eq_ok.mpr ⟨value, require_ok.mpr (asObject_iff.mpr ⟨h.isObject, rfl⟩), ?_⟩
    refine Scan.bind_eq_ok.mpr ⟨_, require_ok.mpr (getString_iff.mpr h.id), ?_⟩
    refine Scan.bind_eq_ok.mpr ⟨(), refuse_ok.mpr hfilled, ?_⟩
    refine Scan.bind_eq_ok.mpr
      ⟨(), refuse_ok.mpr fun ⟨other, hother, heq⟩ => hnew other hother heq, ?_⟩
    refine Scan.bind_eq_ok.mpr ⟨_, require_ok.mpr (getString_iff.mpr h.parentId), ?_⟩
    refine Scan.bind_eq_ok.mpr ⟨(), refuse_ok.mpr hself, ?_⟩
    refine Scan.bind_eq_ok.mpr ⟨_, require_ok.mpr (bind_asArray_iff.mpr hvalues), ?_⟩
    refine Scan.bind_eq_ok.mpr ⟨_, decodeTreeCells_iff.mpr hcells, ?_⟩
    refine Scan.bind_eq_ok.mpr ⟨_, require_ok.mpr (decodeOptionalBool_iff.mpr h.enabled), ?_⟩
    refine Scan.bind_eq_ok.mpr ⟨_, require_ok.mpr (decodeOptionalBool_iff.mpr h.selectable), ?_⟩
    refine Scan.bind_eq_ok.mpr ⟨_,
      require_ok.mpr (decodeOptionalBool_iff.mpr h.mayHaveChildren), ?_⟩
    exact Scan.bind_eq_ok.mpr ⟨_, decodeCheckState_iff.mpr h.checkState, rfl⟩

/-! ## Parents by their place -/

section Places

variable {items : List TreeItem}

theorem parentIndex_eq_some {i j : Nat} (h : parentIndex items i = some j) :
    ∃ item parent, items[i]? = some item ∧ items[j]? = some parent ∧ parent.id = item.parentId := by
  unfold parentIndex at h
  obtain ⟨item, hitem, h⟩ := Option.bind_eq_some_iff.mp h
  split at h
  · exact nomatch h
  · obtain ⟨hlt, hid, -⟩ := List.findIdx?_eq_some_iff_getElem.mp h
    exact ⟨item, items[j], hitem, List.getElem?_eq_getElem hlt, of_decide_eq_true hid⟩

theorem parentIndex_lt {i j : Nat} (h : parentIndex items i = some j) : j < items.length := by
  obtain ⟨-, parent, -, hparent, -⟩ := parentIndex_eq_some h
  exact (List.getElem?_eq_some_iff.mp hparent).1

/-- Where every named parent is there, only a root has no place above it. -/
theorem parentIndex_eq_none
    (hparents : ∀ item ∈ items, item.parentId ≠ [] → ∃ parent ∈ items, parent.id = item.parentId)
    {i : Nat} {item : TreeItem} (hitem : items[i]? = some item) :
    parentIndex items i = none ↔ item.parentId = [] := by
  unfold parentIndex
  rw [hitem, Option.bind_some]
  split
  · exact ⟨fun _ => ‹_›, fun _ => rfl⟩
  · rename_i hnamed
    rw [List.findIdx?_eq_none_iff]
    constructor
    · intro hnone
      obtain ⟨parent, hmem, hid⟩ := hparents item (List.mem_of_getElem? hitem) hnamed
      exact absurd (hnone parent hmem) (by rw [decide_eq_true hid]; exact Bool.noConfusion)
    · exact fun hroot => absurd hroot hnamed

theorem eq_of_id (hapart : (items.map TreeItem.id).Nodup) {item other : TreeItem}
    (hitem : item ∈ items) (hother : other ∈ items) (hid : item.id = other.id) : item = other :=
  List.inj_on_of_nodup_map hapart hitem hother hid

/-- A walk over places that comes to a root follows the parents to one. -/
theorem reachesRoot_of_grounded
    (hparents : ∀ item ∈ items, item.parentId ≠ [] → ∃ parent ∈ items, parent.id = item.parentId)
    {i : Nat} (h : Grounded (parentIndex items) i) {item : TreeItem}
    (hitem : items[i]? = some item) :
    ReachesRoot items item := by
  obtain ⟨root, hup, hroot⟩ := h
  induction hup using Relation.ReflTransGen.head_induction_on generalizing item with
  | refl => exact .root ((parentIndex_eq_none hparents hitem).mp hroot)
  | head hstep _ ih =>
    obtain ⟨child, parent, hchild, hparent, hid⟩ := parentIndex_eq_some hstep
    obtain rfl := Option.some.inj (hitem.symm.trans hchild)
    exact .up (List.mem_of_getElem? hparent) hid (ih hparent)

theorem grounded_of_reachesRoot (hapart : (items.map TreeItem.id).Nodup) {item : TreeItem}
    (h : ReachesRoot items item) {i : Nat} (hitem : items[i]? = some item) :
    Grounded (parentIndex items) i := by
  induction h generalizing i with
  | root hroot =>
    refine ⟨i, .refl, ?_⟩
    unfold parentIndex
    rw [hitem, Option.bind_some, if_pos hroot]
  | up hmem hid _ ih =>
    cases hnext : parentIndex items i with
    | none => exact ⟨i, .refl, hnext⟩
    | some j =>
      -- the place above holds the parent, as no other item has its id
      obtain ⟨child, parent, hchild, hparent, hparentId⟩ := parentIndex_eq_some hnext
      obtain rfl := Option.some.inj (hitem.symm.trans hchild)
      obtain rfl := eq_of_id hapart (List.mem_of_getElem? hparent) hmem (hparentId.trans hid.symm)
      exact grounded_of_up (.single hnext) (ih hparent)

/-- No item of a forest names itself. -/
theorem Forest.not_self (h : Forest items) {item : TreeItem} (hitem : item ∈ items) :
    item.parentId ≠ item.id := by
  have hreaches := h.rooted item hitem
  induction hreaches with
  | root hroot => exact fun heq => h.named _ hitem (heq.symm.trans hroot)
  | up hmem hid _ ih =>
    intro heq
    obtain rfl := eq_of_id h.apart hmem hitem (hid.trans heq)
    exact ih hmem heq

theorem parentMissing_iff (item : TreeItem) :
    parentMissing items item = false ↔
      (item.parentId ≠ [] → ∃ parent ∈ items, parent.id = item.parentId) := by
  unfold parentMissing
  by_cases hroot : item.parentId = []
  · rw [decide_eq_false (not_not.mpr hroot), Bool.false_and]
    exact ⟨fun _ hnamed => absurd hroot hnamed, fun _ => rfl⟩
  · rw [decide_eq_true hroot, Bool.true_and, Bool.not_eq_false', List.any_eq_true]
    constructor
    · rintro ⟨parent, hmem, hid⟩ -
      exact ⟨parent, hmem, of_decide_eq_true hid⟩
    · intro h
      obtain ⟨parent, hmem, hid⟩ := h hroot
      exact ⟨parent, hmem, decide_eq_true hid⟩

end Places

/-! ## Snapshots -/

/-- What passes the checks of the items, of their parents and of their cycles is a forest. -/
theorem decodeTreeItems_iff {encoded : Value} {items : List TreeItem} :
    decodeTreeItems encoded = .ok items ↔ TreeSnapshot encoded items := by
  unfold decodeTreeItems
  constructor
  · intro h
    obtain ⟨values, hvalues, h⟩ := Scan.bind_eq_ok.mp h
    obtain ⟨read, hread, hchecks⟩ := Scan.bind_eq_ok.mp h
    obtain ⟨read, rfl, htyped, heach⟩ := (decodeOnto_iff decodeTreeItem_iff).mp hread
    split at hchecks
    · exact nomatch hchecks
    · rename_i hmissing
      split at hchecks
      · exact nomatch hchecks
      · rename_i hcycle
        obtain rfl := Except.ok.inj hchecks
        obtain ⟨hgood, -, hapart⟩ := each_named_iff.mp heach
        have hparents : ∀ item ∈ read, item.parentId ≠ [] →
            ∃ parent ∈ read, parent.id = item.parentId := by
          intro item hitem
          refine (parentMissing_iff item).mp (Bool.eq_false_of_not_eq_true ?_)
          exact List.find?_eq_none.mp hmissing item hitem
        have hrooted := (findCycle_none_iff fun i j => parentIndex_lt).mp hcycle
        refine ⟨⟨values, asArray_iff.mp (require_ok.mp hvalues), htyped⟩,
          fun item hitem => (hgood item hitem).1, hapart, hparents, fun item hitem => ?_⟩
        obtain ⟨i, hi⟩ := List.mem_iff_getElem?.mp hitem
        exact reachesRoot_of_grounded hparents (hrooted i (List.getElem?_eq_some_iff.mp hi).1) hi
  · rintro ⟨⟨values, rfl, htyped⟩, hforest⟩
    refine Scan.bind_eq_ok.mpr ⟨values, require_ok.mpr rfl, ?_⟩
    refine Scan.bind_eq_ok.mpr ⟨items, ?_, ?_⟩
    · refine (decodeOnto_iff decodeTreeItem_iff).mpr ⟨items, rfl, htyped, ?_⟩
      exact each_named_iff.mpr
        ⟨fun item hitem => ⟨hforest.named item hitem, hforest.not_self hitem⟩, nofun, hforest.apart⟩
    · have hmissing : items.find? (parentMissing items) = none := by
        refine List.find?_eq_none.mpr fun item hitem => ?_
        rw [(parentMissing_iff item).mpr (hforest.parents item hitem)]
        exact Bool.false_ne_true
      have hcycle : findCycle (parentIndex items) items.length = none := by
        refine (findCycle_none_iff fun i j => parentIndex_lt).mpr fun i hi => ?_
        exact grounded_of_reachesRoot hforest.apart (hforest.rooted items[i] (List.getElem_mem hi))
          (List.getElem?_eq_getElem hi)
      rw [hmissing]
      dsimp only
      rw [hcycle]

/-- A tree snapshot is read exactly where it is a well-typed forest, and as it stands; the walk up
from an item ends within as many steps as there are items that were not seen. -/
theorem treeItems_snapshot (view : WidgetDataView) (name : Bytes) (encoded : Value)
    (h : view.member name "tree_items" = some encoded) :
    (∀ items, view.treeItems name = .ok (some items) ↔ TreeSnapshot encoded items) ∧
      ∀ items marks start,
        (climb (parentIndex items) { marks, path := [], current := start }).path.length ≤
          marks.count .unseen := by
  refine ⟨fun items => ?_, fun items marks start => ?_⟩
  · unfold WidgetDataView.treeItems
    rw [h, ← decodeTreeItems_iff]
    dsimp only
    cases decodeTreeItems encoded with
    | error reason => exact ⟨nofun, nofun⟩
    | ok read =>
      constructor
      · exact fun heq => congrArg _ (Option.some.inj (Except.ok.inj heq))
      · exact fun heq => congrArg _ (congrArg some (Except.ok.inj heq))
  · exact climb_length _

/-- A child that stands before its parent. -/
def childFirst : Value :=
  .array
    [.object [(text "id", .string (text "b")), (text "parent_id", .string (text "a")),
        (text "cells", .array [.object [(text "text", .string (text "leaf"))]])],
      .object [(text "id", .string (text "a")), (text "parent_id", .string []),
        (text "cells", .array [])]]

theorem childFirst_snapshot :
    TreeSnapshot childFirst
      [{ id := text "b", parentId := text "a", cells := [{ text := text "leaf" }] }, { id := text "a" }] := by
  refine ((treeItems_snapshot
    ⟨.object [(text "tree", .object [(text "tree_items", childFirst)])]⟩ (text "tree")
      childFirst ?_).1
      _).mp ?_
  · rfl
  · decide +kernel

end Dialog

end PlotJugglerSdk
