import PlotJugglerSdk.Dialog.DeltaRuns
import PlotJugglerSdk.Dialog.Pickers
import PlotJugglerSdk.Dialog.TreeSnapshots

/-!
# What the readers make of a value that has travelled

For each structured channel the value that a setter writes, printed and parsed, is decoded as the
value that was set; a sort key is the same number, and no key where it was no finite one.

* `ItemArrives`           — an item of a tree, beside the one that was set
* `decode…_arrived`       — one decoder each
-/

namespace PlotJugglerSdk

namespace Dialog

open Wire Json Lexing Value WidgetEvent

/-! ## Trees -/

/-- A cell of a tree, read as it was set but for the type of its key. -/
structure TreeCellArrives (sent read : TreeCell) : Prop where
  key : SameKey sent.sortValue read.sortValue
  other : read = { sent with sortValue := read.sortValue }

/-- An item of a tree, read as it was set but for the keys of its cells. -/
structure ItemArrives (sent read : TreeItem) : Prop where
  cells : List.Forall₂ TreeCellArrives sent.cells read.cells
  other : read = { sent with cells := read.cells }

def arrivedCell (cell : TreeCell) : TreeCell := { cell with sortValue := arrivedKey cell.sortValue }

def arrivedItem (item : TreeItem) : TreeItem := { item with cells := item.cells.map arrivedCell }

theorem itemArrives (item : TreeItem) : ItemArrives item (arrivedItem item) where
  cells := by
    show List.Forall₂ _ item.cells (item.cells.map arrivedCell)
    rw [List.forall₂_map_right_iff]
    exact List.forall₂_same.mpr fun cell _ => ⟨sameKey_arrived cell.sortValue, rfl⟩
  other := rfl

theorem treeCellPayload_arrived (cell : TreeCell) :
    TreeCellPayload cell.toJson.arrived (arrivedCell cell) := by
  have hfind (key : String) : cell.toJson.arrived.find key = _ := find_arrived_fields key _
  obtain ⟨content, sortValue, tooltip, icon⟩ := cell
  refine ⟨⟨_, arrived_object _⟩, hfind "text", ?_, ?_, ?_⟩
  · rw [hfind]
    cases sortValue with
    | none =>
      refine .inl ⟨?_, rfl⟩
      cases tooltip <;> cases icon <;> rfl
    | some value => exact .inr ⟨_, rfl, keyPayload_arrived (some value)⟩
  · unfold Defaulted
    rw [hfind]
    cases tooltip with
    | nil => exact .inr ⟨by cases sortValue <;> cases icon <;> rfl, rfl⟩
    | cons byte bytes => exact .inl (by cases sortValue <;> rfl)
  · unfold Defaulted
    rw [hfind]
    cases icon with
    | nil => exact .inr ⟨by cases sortValue <;> cases tooltip <;> rfl, rfl⟩
    | cons byte bytes => exact .inl (by cases sortValue <;> cases tooltip <;> rfl)

theorem treeItemPayload_arrived (item : TreeItem) :
    TreeItemPayload item.toJson.arrived (arrivedItem item) where
  isObject := ⟨_, arrived_object _⟩
  id := find_arrived_fields "id" _
  parentId := find_arrived_fields "parent_id" _
  cells := by
    refine ⟨_, (find_arrived_fields "cells" _).trans (congrArg some (arrived_array _)), ?_⟩
    show List.Forall₂ _ _ (item.cells.map arrivedCell)
    rw [List.forall₂_map_left_iff, List.forall₂_map_left_iff, List.forall₂_map_right_iff]
    exact List.forall₂_same.mpr fun cell _ => treeCellPayload_arrived cell
  enabled := .inl (find_arrived_fields "enabled" _)
  selectable := .inl (find_arrived_fields "selectable" _)
  mayHaveChildren := .inl (find_arrived_fields "may_have_children" _)
  checkState := .inl (find_arrived_fields "check_state" _)

/-- Keys play no part in what the parents of items are. -/
theorem Forest.arrived {items : List TreeItem} (h : Forest items) :
    Forest (items.map arrivedItem) := by
  refine ⟨List.forall_mem_map.mpr h.named, ?_, ?_, ?_⟩
  · rw [List.map_map]
    exact h.apart
  · refine List.forall_mem_map.mpr fun item hitem hnamed => ?_
    obtain ⟨parent, hmem, hid⟩ := h.parents item hitem hnamed
    exact ⟨arrivedItem parent, List.mem_map_of_mem hmem, hid⟩
  · refine List.forall_mem_map.mpr fun item hitem => ?_
    induction h.rooted item hitem with
    | root hroot => exact .root hroot
    | up hmem hid _ ih => exact .up (List.mem_map_of_mem hmem) hid (ih hmem)

theorem decodeTreeItems_arrived {items : List TreeItem} (h : Forest items) :
    decodeTreeItems (Value.array (items.map TreeItem.toJson)).arrived =
      .ok (items.map arrivedItem) := by
  refine decodeTreeItems_iff.mpr ⟨⟨_, arrived_array _, ?_⟩, h.arrived⟩
  rw [List.forall₂_map_left_iff, List.forall₂_map_left_iff, List.forall₂_map_right_iff]
  exact List.forall₂_same.mpr fun item _ => treeItemPayload_arrived item

/-! ## Tables -/

theorem displayRow_strings (row : List Bytes) : displayRow (strings row) = some row := by
  show some ((row.map Value.string).map fun cell => (asString cell).getD []) = some row
  rw [List.map_map]
  exact congrArg some (List.map_id row)

theorem decodeRows_arrived (rows : List (List Bytes)) :
    (asArray (textRows rows).arrived).bind (List.mapM displayRow) = some rows := by
  rw [textRows_arrived]
  refine Scan.mapM_some_iff.mpr ?_
  rw [List.forall₂_map_left_iff]
  exact List.forall₂_same.mpr fun row _ => displayRow_strings row

/-! ## Charts -/

/-- A curve as a host sees it. -/
def ChartSeries.seen (series : ChartSeries) : ChartSeriesView where
  label := series.label
  points := series.points.map fun point => (point.x, point.y)
  color := series.color
  dashed := series.dashed

/-- The coordinates of a curve are finite. -/
def ChartSeries.FinitePoints (series : ChartSeries) : Prop :=
  ∀ point ∈ series.points, Finite point.x ∧ Finite point.y

theorem decodePoint_arrived {point : ChartPoint} (hx : Finite point.x) (hy : Finite point.y) :
    decodePoint (Value.array [.float point.x, .float point.y]).arrived =
      some (point.x, point.y) := by
  rw [arrived_array, List.map_cons, List.map_cons, List.map_nil, arrived_float hx, arrived_float hy]
  rfl

theorem decodeSeries_arrived {series : ChartSeries} (h : series.FinitePoints) :
    decodeSeries series.toJson.arrived = some series.seen := by
  have hfind (key : String) : series.toJson.arrived.find key = _ := find_arrived_fields key _
  have hpoints :
      (((series.toJson.arrived.find "points").bind asArray).getD []).filterMap decodePoint =
      series.points.map fun point => (point.x, point.y) := by
    have harray : (series.toJson.arrived.find "points").bind asArray = _ :=
      bind_asArray_iff.mpr ((hfind "points").trans (congrArg some (arrived_array _)))
    rw [harray, Option.getD_some, List.map_map, List.filterMap_map]
    exact List.filterMap_eq_map_iff_forall_eq_some.mpr fun point hpoint =>
      decodePoint_arrived (h point hpoint).1 (h point hpoint).2
  have hlabel : WidgetEvent.getString "label" series.toJson.arrived = some series.label :=
    getString_iff.mpr (hfind "label")
  have hcolor : (WidgetEvent.getString "color" series.toJson.arrived).getD [] = series.color := by
    unfold WidgetEvent.getString
    rw [hfind]
    obtain ⟨label, points, color, dashed⟩ := series
    cases color <;> cases dashed <;> rfl
  have hdashed : (WidgetEvent.getBool "dashed" series.toJson.arrived).getD false =
      series.dashed := by
    unfold WidgetEvent.getBool
    rw [hfind]
    obtain ⟨label, points, color, dashed⟩ := series
    cases color <;> cases dashed <;> rfl
  obtain ⟨members, hmembers⟩ : ∃ members, series.toJson.arrived = .object members :=
    ⟨_, arrived_object _⟩
  rw [hmembers] at hpoints hlabel hcolor hdashed ⊢
  unfold decodeSeries
  dsimp only
  rw [hpoints, hlabel, hcolor, hdashed]
  rfl

theorem chartSeries_arrived {series : List ChartSeries} (h : ∀ curve ∈ series, curve.FinitePoints) :
    (asArray (Value.array (series.map ChartSeries.toJson)).arrived).map
    (List.filterMap decodeSeries) =
      some (series.map ChartSeries.seen) := by
  rw [arrived_array]
  show some ((List.map arrived (List.map _ series)).filterMap decodeSeries) = _
  rw [List.map_map, List.filterMap_map]
  exact congrArg some (List.filterMap_eq_map_iff_forall_eq_some.mpr fun curve hcurve =>
    decodeSeries_arrived (h curve hcurve))

/-! ## Scenes -/

/-- A scene names its kind and each of its topics. -/
structure SceneView.Named (view : SceneView) : Prop where
  kind : view.kind ≠ []
  topics : ∀ topic ∈ view.topics, topic.topic ≠ []

theorem decodeSceneTopic_arrived {topic : SceneTopic} (h : topic.topic ≠ []) :
    decodeSceneTopic
      (fields [("topic", .string topic.topic), ("dataset", .string topic.dataset)]).arrived =
      .ok topic := by
  unfold decodeSceneTopic
  refine Scan.bind_eq_ok.mpr ⟨topic.topic, require_ok.mpr (nonEmptyString_iff.mpr ⟨?_, h⟩), ?_⟩
  · exact find_arrived_fields "topic" _
  · refine Scan.bind_eq_ok.mpr ⟨topic.dataset,
      require_ok.mpr (optionalString_iff.mpr (.inl ?_)), rfl⟩
    exact find_arrived_fields "dataset" _

theorem decodeSceneView_arrived {view : SceneView} (h : view.Named) :
    decodeSceneView view.toJson.arrived = .ok view := by
  have htopics : view.toJson.arrived.find "topics" = _ := find_arrived_fields "topics" _
  have hkind : view.toJson.arrived.find "kind" = _ := find_arrived_fields "kind" _
  obtain ⟨members, hmembers⟩ : ∃ members, view.toJson.arrived = .object members :=
    ⟨_, arrived_object _⟩
  rw [hmembers] at htopics hkind ⊢
  unfold decodeSceneView
  refine Scan.bind_eq_ok.mpr ⟨view.kind,
    require_ok.mpr (nonEmptyString_iff.mpr ⟨hkind, h.kind⟩), ?_⟩
  rw [htopics]
  refine Scan.bind_eq_ok.mpr ⟨_, require_ok.mpr (asArray_iff.mpr (arrived_array _)), ?_⟩
  refine Scan.bind_eq_ok.mpr ⟨view.topics, Scan.mapM_ok_iff.mpr ?_, rfl⟩
  rw [List.forall₂_map_left_iff, List.forall₂_map_left_iff]
  exact List.forall₂_same.mpr fun topic htopic => decodeSceneTopic_arrived (h.topics topic htopic)

/-! ## Sliders and timelines -/

theorem asWrappedInt_arrived (n : Int32) : asWrappedInt (ofInt n).arrived = some n :=
  asWrappedInt_ofInt n

theorem decodeMarker_arrived (marker : RangeSliderMarker) :
    decodeMarker marker.toJson.arrived = some marker := by
  have hstart : (marker.toJson.arrived.find "start").bind asWrappedInt = some marker.start := by
    rw [show marker.toJson.arrived.find "start" = _ from find_arrived_fields "start" _]
    exact asWrappedInt_arrived marker.start
  have hstop : (marker.toJson.arrived.find "end").bind asWrappedInt = some marker.stop := by
    rw [show marker.toJson.arrived.find "end" = _ from find_arrived_fields "end" _]
    exact asWrappedInt_arrived marker.stop
  have hlabel : WidgetEvent.getString "label" marker.toJson.arrived = some marker.label :=
    getString_iff.mpr (find_arrived_fields "label" _)
  unfold decodeMarker
  rw [hstart, hstop, hlabel]
  rfl

theorem rangeMarkers_arrived (markers : List RangeSliderMarker) :
    (asArray (Value.array (markers.map RangeSliderMarker.toJson)).arrived).map
      (List.filterMap decodeMarker) = some markers := by
  rw [arrived_array]
  show some ((List.map arrived (List.map _ markers)).filterMap decodeMarker) = _
  rw [List.map_map, List.filterMap_map]
  refine congrArg some ((List.filterMap_eq_map_iff_forall_eq_some.mpr fun marker _ => ?_).trans
    (List.map_id markers))
  exact decodeMarker_arrived marker

theorem timelineMarks_arrived (marks : List TimelineMark) :
    (marks.map fun mark => (WidgetEventBuilder.timelineMarkToJson mark).arrived).mapM
      timelineMarkFromJson =
      .ok marks := by
  refine Scan.mapM_ok_iff.mpr ?_
  rw [List.forall₂_map_left_iff]
  exact List.forall₂_same.mpr fun mark _ => timelineMark_reread mark

/-- A time is read as it was printed. -/
theorem time_arrived (value : Int64) :
    parseInteger (-2 ^ 63) (2 ^ 63 - 1) (decimalText value.toInt) = some value.toInt :=
  parseInteger_printed value.le_toInt (Int.le_sub_one_of_lt value.toInt_lt)

end Dialog

end PlotJugglerSdk
