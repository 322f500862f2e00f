import PlotJugglerSdk.Dialog.ArrivedChannels

/-!
# Widget data arrive as they were set

A dialog calls setters in any order, on any widgets, and sends one document. For each widget and
each structured channel the host reads what the last call on that channel has set; the other
calls could be left out.

* `StructuredChannel`    — the members that the readers of a channel look at
* `Arrives`              — what the view of a document shows of a widget
* `widget_data_arrives`  — for every sequence of calls
* `wide_column_lost`     — a column beyond the type `int` does not arrive
-/

namespace PlotJugglerSdk

namespace Dialog

open Wire Json Lexing Value WidgetEvent

/-! ## Channels -/

inductive StructuredChannel where
  | table
  | tableDelta
  | rowColors
  | cellTooltips
  | treeItems
  | treeSelection
  | treeExpansion
  | treeVisibility
  | filePicker
  | sceneView
  | timelineMarks
  | timelineSpan
  | sliderMarkers
  | sliderSpan
  | chartSeries
  deriving DecidableEq

namespace StructuredChannel

/-- The members that carry a channel. -/
def keys : StructuredChannel → List String
  | table => ["rows", "column_values"]
  | tableDelta => ["table_delta"]
  | rowColors => ["row_colors"]
  | cellTooltips => ["cell_tooltips"]
  | treeItems => ["tree_items"]
  | treeSelection => ["tree_selected_ids"]
  | treeExpansion => ["tree_expanded_ids"]
  | treeVisibility => ["tree_visible_ids"]
  | filePicker => ["file_picker"]
  | sceneView => ["scene_view"]
  | timelineMarks => ["marker_timeline_marks"]
  | timelineSpan => ["marker_timeline_time_min_ns", "marker_timeline_time_max_ns"]
  | sliderMarkers => ["range_markers"]
  | sliderSpan => ["range_time_min_ns", "range_time_max_ns"]
  | chartSeries => ["chart_series"]

end StructuredChannel

namespace Call

/-- The channel that a call sets, if it is a structured one. -/
def channel : Call → Option StructuredChannel
  | assign _ _ | request _ => none
  | setTableRows _ _ | setTableItems _ _ => some .table
  | setRowColor _ _ _ => some .rowColors
  | setCellTooltip _ _ _ _ => some .cellTooltips
  | appendTableRows _ _ _ | appendTableItems _ _ _ | updateTableCells _ _ _ | removeTableRows _
    _ _ =>
    some .tableDelta
  | setTreeItems _ _ => some .treeItems
  | setTreeSelectedIds _ _ => some .treeSelection
  | setTreeExpandedIds _ _ => some .treeExpansion
  | setTreeVisibleIds _ _ | clearTreeVisibleIds _ => some .treeVisibility
  | setChartSeries _ _ | clearChart _ => some .chartSeries
  | setSceneView _ _ | clearSceneView _ => some .sceneView
  | setFilePickerOptions _ _ _ => some .filePicker
  | setRangeSliderTimeSpan _ _ _ => some .sliderSpan
  | setRangeSliderMarkers _ _ => some .sliderMarkers
  | setMarkerTimelineMarks _ _ => some .timelineMarks
  | setMarkerTimelineTimeSpan _ _ _ => some .timelineSpan

/-! ### What a call sets -/

def tableRows : Call → Option (List (List TableItem))
  | setTableRows _ rows => some (plainRows rows)
  | setTableItems _ rows => some rows
  | _ => none

def treeItems : Call → Option (List TreeItem)
  | setTreeItems _ items => some items
  | _ => none

def treeSelectedIds : Call → Option (List Bytes)
  | setTreeSelectedIds _ ids => some ids
  | _ => none

def treeExpandedIds : Call → Option (List Bytes)
  | setTreeExpandedIds _ ids => some ids
  | _ => none

/-- The ids of a filter, or none where the call takes it away. -/
def treeVisibility : Call → Option (Option (List Bytes))
  | setTreeVisibleIds _ ids => some (some ids)
  | clearTreeVisibleIds _ => some none
  | _ => none

def filePickerOptions : Call → Option FilePickerOptions
  | setFilePickerOptions _ _ options => some options
  | _ => none

/-- A scene, or none where the call takes it away. -/
def sceneView : Call → Option (Option SceneView)
  | setSceneView _ view => some (some view)
  | clearSceneView _ => some none
  | _ => none

def markerTimelineMarks : Call → Option (List TimelineMark)
  | setMarkerTimelineMarks _ marks => some marks
  | _ => none

def markerTimelineTimeSpan : Call → Option (Int64 × Int64)
  | setMarkerTimelineTimeSpan _ minNs maxNs => some (minNs, maxNs)
  | _ => none

def rangeSliderMarkers : Call → Option (List RangeSliderMarker)
  | setRangeSliderMarkers _ markers => some markers
  | _ => none

def rangeSliderTimeSpan : Call → Option (Int64 × Int64)
  | setRangeSliderTimeSpan _ minNs maxNs => some (minNs, maxNs)
  | _ => none

def chartSeries : Call → Option (List ChartSeries)
  | setChartSeries _ series => some series
  | clearChart _ => some []
  | _ => none

end Call

/-! ## What is written -/

namespace Call

/-- The edits of a call on structured channels; plain rows are rows without keys. -/
def structuredEdits : Call → List (String × Option Value)
  | assign _ _ => []
  | setTableRows _ rows =>
    [("rows", some (textRows (displayTexts (plainRows rows)))),
      ("column_values", columnsMember (keyColumns (plainRows rows)))]
  | setFilePickerOptions _ _ options => [("file_picker", some options.toJson)]
  | call => call.edits

end Call

/-- A setter of plain members writes no structured channel. -/
theorem plain_apart (plain : PlainMembers) {key : String} (hkey : key ∈ structuredChannelKeys) :
    ∀ member ∈ plain.members, member.1 ≠ key := by
  rintro member hmember rfl
  have hapart := List.all_eq_true.mp plain.apart member hmember
  rw [List.contains_iff_mem.mpr hkey] at hapart
  exact Bool.false_ne_true hapart

/-- Beside its options a structured picker only writes members of legacy pickers. -/
theorem picker_apart (options : FilePickerOptions) :
    ∀ key ∈ structuredChannelKeys, key ∉ (Call.legacyPicker options).map Prod.fst ∧
      key ≠ "button_text" ∧ key ≠ "title" := by
  have hkeys : (Call.legacyPicker options).map Prod.fst =
      ["action", "filter", "default_suffix"] := by
    unfold Call.legacyPicker
    cases options.mode <;> rfl
  rw [hkeys]
  decide

theorem written_structured {key : String} (hkey : key ∈ structuredChannelKeys) (call : Call) :
    call.written key = call.structuredEdits.reverse.lookup key := by
  cases call with
  -- its members are none of the structured channels
  | assign name plain =>
    refine List.lookup_eq_none_iff.mpr fun edit hedit => bne_iff_ne.mpr fun heq => ?_
    obtain ⟨member, hmember, rfl⟩ := List.mem_map.mp (List.mem_reverse.mp hedit)
    exact plain_apart plain hkey member hmember heq.symm
  | setFilePickerOptions name buttonText options =>
    obtain ⟨hlegacy, hbutton, htitle⟩ := picker_apart options key hkey
    have hnone : (Call.legacyPicker options).reverse.lookup key = none := by
      refine List.lookup_eq_none_iff.mpr fun edit hedit => bne_iff_ne.mpr fun heq => ?_
      exact hlegacy (List.mem_map.mpr ⟨edit, List.mem_reverse.mp hedit, heq.symm⟩)
    show (([("button_text", _), ("file_picker", _), ("title", _)] ++
      Call.legacyPicker options).reverse).lookup key = _
    -- the legacy members come last and hold no structured channel
    rw [List.reverse_append, List.lookup_append, hnone, Option.none_or]
    show List.lookup key [("title", _), ("file_picker", _), ("button_text", _)] = _
    rw [SortedMap.lookup_cons, if_neg htitle, SortedMap.lookup_cons, SortedMap.lookup_cons,
      if_neg hbutton]
    exact (SortedMap.lookup_cons key "file_picker" _ []).symm
  | setTableRows name rows =>
    show _ = List.lookup key [("column_values", columnsMember (keyColumns (plainRows rows))),
      ("rows", some (textRows (displayTexts (plainRows rows))))]
    -- plain rows are shown as they are and have no keys
    rw [displayTexts_plainRows, keyColumns_plainRows]
    rfl
  | _ => rfl

section Written

variable (call : Call)

theorem written_rows :
    call.written "rows" = call.tableRows.map fun rows => some (textRows (displayTexts rows)) :=
  (written_structured (by decide) call).trans (by cases call <;> rfl)

theorem written_columnValues :
    call.written "column_values" = call.tableRows.map fun rows => columnsMember (keyColumns rows) :=
  (written_structured (by decide) call).trans (by cases call <;> rfl)

theorem written_treeItems :
    call.written "tree_items" =
      call.treeItems.map fun items => some (.array (items.map TreeItem.toJson)) :=
  (written_structured (by decide) call).trans (by cases call <;> rfl)

theorem written_treeSelectedIds :
    call.written "tree_selected_ids" = call.treeSelectedIds.map fun ids => some (strings ids) :=
  (written_structured (by decide) call).trans (by cases call <;> rfl)

theorem written_treeExpandedIds :
    call.written "tree_expanded_ids" = call.treeExpandedIds.map fun ids => some (strings ids) :=
  (written_structured (by decide) call).trans (by cases call <;> rfl)

theorem written_treeVisibleIds :
    call.written "tree_visible_ids" = call.treeVisibility.map fun ids =>
      some (ids.elim .null strings) :=
  (written_structured (by decide) call).trans (by cases call <;> rfl)

theorem written_filePicker :
    call.written "file_picker" = call.filePickerOptions.map fun options => some options.toJson :=
  (written_structured (by decide) call).trans (by cases call <;> rfl)

theorem written_sceneView :
    call.written "scene_view" =
      call.sceneView.map fun view => some (view.elim .null SceneView.toJson) :=
  (written_structured (by decide) call).trans (by cases call <;> rfl)

theorem written_timelineMarks :
    call.written "marker_timeline_marks" = call.markerTimelineMarks.map fun marks =>
      some (.array (marks.map WidgetEventBuilder.timelineMarkToJson)) :=
  (written_structured (by decide) call).trans (by cases call <;> rfl)

theorem written_rangeMarkers :
    call.written "range_markers" = call.rangeSliderMarkers.map fun markers =>
      some (.array (markers.map RangeSliderMarker.toJson)) :=
  (written_structured (by decide) call).trans (by cases call <;> rfl)

theorem written_chartSeries :
    call.written "chart_series" = call.chartSeries.map fun series =>
      some (.array (series.map ChartSeries.toJson)) :=
  (written_structured (by decide) call).trans (by cases call <;> rfl)

theorem written_timelineSpan :
    (call.written "marker_timeline_time_min_ns" = call.markerTimelineTimeSpan.map fun span =>
        some (.string (decimalText span.1.toInt))) ∧
      call.written "marker_timeline_time_max_ns" = call.markerTimelineTimeSpan.map fun span =>
        some (.string (decimalText span.2.toInt)) :=
  ⟨(written_structured (by decide) call).trans (by cases call <;> rfl),
    (written_structured (by decide) call).trans (by cases call <;> rfl)⟩

theorem written_rangeSpan :
    (call.written "range_time_min_ns" = call.rangeSliderTimeSpan.map fun span =>
        some (.string (decimalText span.1.toInt))) ∧
      call.written "range_time_max_ns" = call.rangeSliderTimeSpan.map fun span =>
        some (.string (decimalText span.2.toInt)) :=
  ⟨(written_structured (by decide) call).trans (by cases call <;> rfl),
    (written_structured (by decide) call).trans (by cases call <;> rfl)⟩

end Written

/-! ## What a host reads -/

/-- The view shows of a widget what the last call on each channel has set. -/
structure Arrives (view : WidgetDataView) (name : Bytes) (calls : List Call) : Prop where
  rows : view.tableRows name = (lastSet Call.tableRows calls).map displayTexts
  columns : ColumnsArrive ((lastSet Call.tableRows calls).getD []) (view.tableColumnValues name)
  noDelta : lastDelta (calls.filterMap Call.deltaOp) = none → view.tableDelta name = none
  delta : ∀ seq ops, lastDelta (calls.filterMap Call.deltaOp) = some (seq, ops) →
    IndicesNonNegative ops → ColumnsFit ops →
      ∃ read, view.tableDelta name = some read ∧ DeltaArrives seq ops read
  wideDelta : ∀ seq ops, lastDelta (calls.filterMap Call.deltaOp) = some (seq, ops) →
    ¬ ColumnsFit ops → view.tableDelta name = none
  noTree : lastSet Call.treeItems calls = none → view.treeItems name = .ok none
  tree : ∀ items, lastSet Call.treeItems calls = some items → Forest items →
    ∃ read, view.treeItems name = .ok (some read) ∧ List.Forall₂ ItemArrives items read
  selectedIds : view.treeSelectedIds name = lastSet Call.treeSelectedIds calls
  expandedIds : view.treeExpandedIds name = lastSet Call.treeExpandedIds calls
  visibility : view.treeVisibilityUpdate name =
    (lastSet Call.treeVisibility calls).map fun ids => ids.elim { mode := .reset } fun ids =>
      { ids }
  structuredPicker : view.isStructuredFilePicker name =
      (lastSet Call.filePickerOptions calls).isSome
  noPicker : lastSet Call.filePickerOptions calls = none → view.filePickerOptions name = .ok none
  picker : ∀ options, lastSet Call.filePickerOptions calls = some options → options.Valid →
    view.filePickerOptions name = .ok (some options)
  noScene : lastSet Call.sceneView calls = none → view.sceneView name = none
  clearedScene : lastSet Call.sceneView calls = some none → view.sceneView name = some (.ok {})
  scene : ∀ scene, lastSet Call.sceneView calls = some (some scene) → scene.Named →
    view.sceneView name = some (.ok scene)
  timelineMarks : view.markerTimelineMarks name = .ok (lastSet Call.markerTimelineMarks calls)
  timelineSpan : view.markerTimelineTimeSpan name = lastSet Call.markerTimelineTimeSpan calls
  sliderMarkers : view.rangeSliderMarkers name = lastSet Call.rangeSliderMarkers calls
  sliderSpan : view.rangeSliderTimeSpan name = lastSet Call.rangeSliderTimeSpan calls
  noChart : lastSet Call.chartSeries calls = none → view.chartSeries name = none
  chart : ∀ series, lastSet Call.chartSeries calls = some series →
    (∀ curve ∈ series, curve.FinitePoints) →
      view.chartSeries name = some (series.map ChartSeries.seen)

section Reads

variable {view : WidgetDataView} {name : Bytes} {calls : List Call}
  (h : ShowsEntry view name (entryAfter calls))

include h

/-- A member shows what the last call that writes it has set. -/
theorem member_lastSet {α : Type} {key : String} {set : Call → Option α} {encode : α → Option Value}
    (hkey : key ∉ Call.accumulatedKeys)
    (hwritten : ∀ call, call.written key = (set call).map encode) :
    view.member name key = ((lastSet set calls).bind encode).map Value.arrived := by
  rw [h key, get_lastSet hkey hwritten]

theorem tableColumns_read :
    ColumnsArrive ((lastSet Call.tableRows calls).getD []) (view.tableColumnValues name) := by
  unfold WidgetDataView.tableColumnValues
  rw [member_lastSet h (by decide) written_rows, member_lastSet h (by decide) written_columnValues]
  cases lastSet Call.tableRows calls with
  | none => exact columnsArrive_nil [] rfl
  | some rows =>
    -- the columns are measured against the rows that were sent with them
    have hcount : (((some (textRows (displayTexts rows)).arrived).bind asArray).getD []).length =
        rows.length := by
      rw [textRows_arrived]
      exact (List.length_map _).trans (List.length_map _)
    rw [Option.bind_some, Option.map_some, hcount, Option.bind_some, Option.getD_some]
    unfold columnsMember
    -- without a key the member is erased
    by_cases hnil : keyColumns rows = []
    · rw [if_pos (List.isEmpty_iff.mpr hnil)]
      exact columnsArrive_nil rows hnil
    · rw [if_neg fun hempty => hnil (List.isEmpty_iff.mp hempty), Option.map_some, arrived_object]
      exact tableColumns_arrive rows

theorem member_tableDelta :
    view.member name "table_delta" = (lastDelta (calls.filterMap Call.deltaOp)).map fun delta =>
      (Value.object (deltaMembers delta.1 delta.2)).arrived := by
  rw [h "table_delta", get_tableDelta, Option.map_map]
  rfl

/-- A time span that was set by one call is read as a pair. -/
theorem timeSpan_read {minKey maxKey : String} {set : Call → Option (Int64 × Int64)}
    (hmin : minKey ∉ Call.accumulatedKeys) (hmax : maxKey ∉ Call.accumulatedKeys)
    (hwritten : ∀ call,
      (call.written minKey = (set call).map fun span => some (.string (decimalText span.1.toInt))) ∧
        call.written maxKey = (set call).map fun span =>
          some (.string (decimalText span.2.toInt))) :
    view.timeSpan name minKey maxKey = lastSet set calls := by
  unfold WidgetDataView.timeSpan WidgetDataView.getString
  rw [member_lastSet h hmin fun call => (hwritten call).1,
    member_lastSet h hmax fun call => (hwritten call).2]
  cases lastSet set calls with
  | none => rfl
  | some span =>
    refine Option.bind_eq_some_iff.mpr ⟨_, rfl, Option.bind_eq_some_iff.mpr ⟨_, rfl, ?_⟩⟩
    refine Option.bind_eq_some_iff.mpr ⟨_, time_arrived span.1, ?_⟩
    refine Option.bind_eq_some_iff.mpr ⟨_, time_arrived span.2, ?_⟩
    rw [Int64.ofInt_toInt, Int64.ofInt_toInt]

theorem arrives_of_entry : Arrives view name calls where
  rows := by
    unfold WidgetDataView.tableRows
    rw [member_lastSet h (by decide) written_rows]
    cases lastSet Call.tableRows calls with
    | none => rfl
    -- text that was sent is a string of the document, and read as it is
    | some rows => exact decodeRows_arrived (displayTexts rows)
  columns := tableColumns_read h
  noDelta hnone := by
    unfold WidgetDataView.tableDelta WidgetDataView.tableDeltaSeq
    rw [member_tableDelta h, hnone]
    rfl
  delta seq ops hdelta hindices hfits := by
    refine tableDelta_arrives ?_ rfl hindices hfits
    rw [member_tableDelta h, hdelta]
    rfl
  wideDelta seq ops hdelta hwide := by
    unfold ColumnsFit at hwide
    -- a column with keys lies beyond the type `int`
    push Not at hwide
    obtain ⟨column, hhas, hge⟩ := hwide
    have hmember := member_tableDelta h
    rw [hdelta] at hmember
    exact tableDelta_refused hmember rfl hhas (Nat.not_lt.mpr hge)
  noTree hnone := by
    unfold WidgetDataView.treeItems
    rw [member_lastSet h (by decide) written_treeItems, hnone]
    rfl
  tree items hitems hforest := by
    refine ⟨items.map arrivedItem, ?_, ?_⟩
    · unfold WidgetDataView.treeItems
      rw [member_lastSet h (by decide) written_treeItems, hitems]
      show (decodeTreeItems (Value.array (items.map TreeItem.toJson)).arrived).map some = _
      rw [decodeTreeItems_arrived hforest]
      rfl
    · rw [List.forall₂_map_right_iff]
      exact List.forall₂_same.mpr fun item _ => itemArrives item
  selectedIds := by
    unfold WidgetDataView.treeSelectedIds WidgetDataView.getStrictStringArray
    rw [member_lastSet h (by decide) written_treeSelectedIds]
    cases lastSet Call.treeSelectedIds calls with
    | none => rfl
    | some ids => exact decodeStrictStringArray_iff.mpr (arrived_strings ids)
  expandedIds := by
    unfold WidgetDataView.treeExpandedIds WidgetDataView.getStrictStringArray
    rw [member_lastSet h (by decide) written_treeExpandedIds]
    cases lastSet Call.treeExpandedIds calls with
    | none => rfl
    | some ids => exact decodeStrictStringArray_iff.mpr (arrived_strings ids)
  visibility := by
    unfold WidgetDataView.treeVisibilityUpdate
    rw [member_lastSet h (by decide) written_treeVisibleIds]
    cases lastSet Call.treeVisibility calls with
    | none => rfl
    | some update =>
      -- the null of a reset is a member too
      cases update with
      | none => rfl
      | some ids =>
        show (decodeStrictStringArray (strings ids).arrived).map _ = _
        rw [decodeStrictStringArray_iff.mpr (arrived_strings ids)]
        rfl
  structuredPicker := by
    unfold WidgetDataView.isStructuredFilePicker
    rw [member_lastSet h (by decide) written_filePicker]
    cases lastSet Call.filePickerOptions calls <;> rfl
  noPicker hnone := by
    unfold WidgetDataView.filePickerOptions
    rw [member_lastSet h (by decide) written_filePicker, hnone]
    rfl
  picker options hoptions hvalid := by
    unfold WidgetDataView.filePickerOptions
    rw [member_lastSet h (by decide) written_filePicker, hoptions]
    show (decodeFilePicker options.toJson.arrived).map some = _
    rw [decodeFilePicker_iff.mpr ⟨filePickerPayload_arrived options, hvalid⟩]
    rfl
  noScene hnone := by
    unfold WidgetDataView.sceneView
    rw [member_lastSet h (by decide) written_sceneView, hnone]
    rfl
  clearedScene hcleared := by
    unfold WidgetDataView.sceneView
    rw [member_lastSet h (by decide) written_sceneView, hcleared]
    rfl
  scene scene hscene hnamed := by
    unfold WidgetDataView.sceneView
    rw [member_lastSet h (by decide) written_sceneView, hscene]
    exact congrArg some (decodeSceneView_arrived hnamed)
  timelineMarks := by
    unfold WidgetDataView.markerTimelineMarks
    rw [member_lastSet h (by decide) written_timelineMarks]
    cases lastSet Call.markerTimelineMarks calls with
    | none => rfl
    | some marks =>
      rw [Option.bind_some, Option.map_some, arrived_array, List.map_map]
      exact congrArg (Except.map some) (timelineMarks_arrived marks)
  timelineSpan := timeSpan_read h (by decide) (by decide) written_timelineSpan
  sliderMarkers := by
    unfold WidgetDataView.rangeSliderMarkers
    rw [member_lastSet h (by decide) written_rangeMarkers]
    cases lastSet Call.rangeSliderMarkers calls with
    | none => rfl
    | some markers => exact rangeMarkers_arrived markers
  sliderSpan := timeSpan_read h (by decide) (by decide) written_rangeSpan
  noChart hnone := by
    unfold WidgetDataView.chartSeries
    rw [member_lastSet h (by decide) written_chartSeries, hnone]
    rfl
  chart series hseries hfinite := by
    unfold WidgetDataView.chartSeries
    rw [member_lastSet h (by decide) written_chartSeries, hseries]
    exact chartSeries_arrived hfinite

end Reads

/-! ## Calls on other channels -/

/-- What the readers of a channel say of a widget is the same in both views. -/
def ReadAlike (view view' : WidgetDataView) (name : Bytes) : StructuredChannel → Prop
  | .table =>
    view.tableRows name = view'.tableRows name ∧
      view.tableColumnValues name = view'.tableColumnValues name
  | .tableDelta => view.tableDelta name = view'.tableDelta name
  | .rowColors => view.member name "row_colors" = view'.member name "row_colors"
  | .cellTooltips => view.member name "cell_tooltips" = view'.member name "cell_tooltips"
  | .treeItems => view.treeItems name = view'.treeItems name
  | .treeSelection => view.treeSelectedIds name = view'.treeSelectedIds name
  | .treeExpansion => view.treeExpandedIds name = view'.treeExpandedIds name
  | .treeVisibility => view.treeVisibilityUpdate name = view'.treeVisibilityUpdate name
  | .filePicker =>
    view.isStructuredFilePicker name = view'.isStructuredFilePicker name ∧
      view.filePickerOptions name = view'.filePickerOptions name
  | .sceneView => view.sceneView name = view'.sceneView name
  | .timelineMarks => view.markerTimelineMarks name = view'.markerTimelineMarks name
  | .timelineSpan => view.markerTimelineTimeSpan name = view'.markerTimelineTimeSpan name
  | .sliderMarkers => view.rangeSliderMarkers name = view'.rangeSliderMarkers name
  | .sliderSpan => view.rangeSliderTimeSpan name = view'.rangeSliderTimeSpan name
  | .chartSeries => view.chartSeries name = view'.chartSeries name

/-- The readers of a channel look at its members and at nothing else. -/
theorem readAlike_of_members {view view' : WidgetDataView} {name : Bytes}
    {channel : StructuredChannel}
    (h : ∀ key ∈ channel.keys, view.member name key = view'.member name key) :
    ReadAlike view view' name channel := by
  -- most readers look at one member, a few at two
  cases channel with
  | table =>
    have hrows := h "rows" (by decide)
    constructor
    · unfold WidgetDataView.tableRows
      rw [hrows]
    · unfold WidgetDataView.tableColumnValues
      rw [hrows, h "column_values" (by decide)]
  | tableDelta =>
    show view.tableDelta name = view'.tableDelta name
    unfold WidgetDataView.tableDelta WidgetDataView.tableDeltaSeq
    rw [h "table_delta" (by decide)]
  | rowColors => exact h "row_colors" (by decide)
  | cellTooltips => exact h "cell_tooltips" (by decide)
  | treeItems =>
    show view.treeItems name = view'.treeItems name
    unfold WidgetDataView.treeItems
    rw [h "tree_items" (by decide)]
  | treeSelection => exact congrArg (Option.bind · _) (h "tree_selected_ids" (by decide))
  | treeExpansion => exact congrArg (Option.bind · _) (h "tree_expanded_ids" (by decide))
  | treeVisibility =>
    show view.treeVisibilityUpdate name = view'.treeVisibilityUpdate name
    unfold WidgetDataView.treeVisibilityUpdate
    rw [h "tree_visible_ids" (by decide)]
  | filePicker =>
    have hoptions := h "file_picker" (by decide)
    constructor
    · exact congrArg Option.isSome hoptions
    · unfold WidgetDataView.filePickerOptions
      rw [hoptions]
  | sceneView => exact congrArg (Option.map decodeSceneView) (h "scene_view" (by decide))
  | timelineMarks =>
    show view.markerTimelineMarks name = view'.markerTimelineMarks name
    unfold WidgetDataView.markerTimelineMarks
    rw [h "marker_timeline_marks" (by decide)]
  | timelineSpan =>
    show view.timeSpan name _ _ = view'.timeSpan name _ _
    unfold WidgetDataView.timeSpan WidgetDataView.getString
    rw [h "marker_timeline_time_min_ns" (by decide), h "marker_timeline_time_max_ns" (by decide)]
  | sliderMarkers =>
    show view.rangeSliderMarkers name = view'.rangeSliderMarkers name
    unfold WidgetDataView.rangeSliderMarkers
    rw [h "range_markers" (by decide)]
  | sliderSpan =>
    show view.timeSpan name _ _ = view'.timeSpan name _ _
    unfold WidgetDataView.timeSpan WidgetDataView.getString
    rw [h "range_time_min_ns" (by decide), h "range_time_max_ns" (by decide)]
  | chartSeries =>
    show view.chartSeries name = view'.chartSeries name
    unfold WidgetDataView.chartSeries
    rw [h "chart_series" (by decide)]

/-- No member carries two channels. -/
theorem channel_keys_apart {a b : StructuredChannel} {key : String} (ha : key ∈ a.keys)
    (hb : key ∈ b.keys) : a = b := by
  have hdisjoint : a = b ∨ (a.keys.all fun key => !b.keys.contains key) = true := by
    -- fifteen channels, each with its list of keys
    cases a <;> cases b <;> decide
  refine hdisjoint.resolve_right fun hall => ?_
  have hnot := List.all_eq_true.mp hall key ha
  rw [List.contains_iff_mem.mpr hb] at hnot
  exact Bool.false_ne_true hnot

theorem mem_structuredChannelKeys {channel : StructuredChannel} {key : String}
    (h : key ∈ channel.keys) :
    key ∈ structuredChannelKeys := by
  have hall : (channel.keys.all fun key => structuredChannelKeys.contains key) = true := by
    cases channel <;> decide
  exact List.contains_iff_mem.mp (List.all_eq_true.mp hall key h)

/-- Of the structured channels a call writes its own only. -/
theorem channel_of_key {call : Call} {key : String} (hkey : key ∈ call.keys)
    (hstructured : key ∈ structuredChannelKeys) :
    ∃ channel, call.channel = some channel ∧ key ∈ channel.keys := by
  cases call with
  | assign name plain =>
    obtain ⟨edit, hedit, rfl⟩ := List.mem_map.mp hkey
    obtain ⟨member, hmember, rfl⟩ := List.mem_map.mp hedit
    exact absurd rfl (plain_apart plain hstructured member hmember)
  | request command => exact nomatch hkey
  | setFilePickerOptions name buttonText options =>
    obtain ⟨hlegacy, hbutton, htitle⟩ := picker_apart options key hstructured
    refine ⟨.filePicker, rfl, List.mem_singleton.mpr ?_⟩
    -- of the members of a picker its options are the structured one
    rcases List.mem_cons.mp hkey with rfl | hkey
    · exact absurd rfl hbutton
    · rcases List.mem_cons.mp hkey with rfl | hkey
      · rfl
      · rcases List.mem_cons.mp hkey with rfl | hkey
        · exact absurd rfl htitle
        · exact absurd hkey hlegacy
  -- a cleared chart loses its markers with its series
  | clearChart name =>
    refine ⟨.chartSeries, rfl, List.mem_singleton.mpr ?_⟩
    rcases List.mem_cons.mp hkey with rfl | hkey
    · rfl
    · rw [List.mem_singleton.mp hkey] at hstructured
      exact absurd hstructured (by decide)
  | _ => exact ⟨_, rfl, hkey⟩

/-- Without a call the other widgets, and the channels it does not set, read the same. -/
structure LeavesOthers (call : Call) (view view' : WidgetDataView) : Prop where
  members : ∀ name key, requestPrefix.isPrefixOf name = false →
    call.target ≠ some name ∨ key ∉ call.keys → view.member name key = view'.member name key
  channels : ∀ name channel, requestPrefix.isPrefixOf name = false →
    call.target ≠ some name ∨ call.channel ≠ some channel → ReadAlike view view' name channel

/-- The calls on a widget that write a member do not change where another call is left out. -/
theorem get_without {name : Bytes} {key : String} {call : Call} (before after : List Call)
    (h : call.target ≠ some name ∨ key ∉ call.keys) :
    (entryAfter (callsOn name (before ++ call :: after))).get key =
      (entryAfter (callsOn name (before ++ after))).get key := by
  rw [← get_purged key (callsOn name (before ++ call :: after)),
    ← get_purged key (callsOn name (before ++ after))]
  -- the call is on another widget or does not write the member: the filter drops it
  have hsame : (callsOn name (before ++ call :: after)).filter (fun call => key ∈ call.keys) =
      (callsOn name (before ++ after)).filter (fun call => key ∈ call.keys) := by
    unfold callsOn
    rw [List.filter_filter, List.filter_filter, List.filter_append, List.filter_append,
      List.filter_cons,
      if_neg]
    rw [Bool.and_eq_true, decide_eq_true_iff, decide_eq_true_iff]
    rintro ⟨hkey, htarget⟩
    exact h.elim (fun hne => hne htarget) fun hnot => hnot hkey
  rw [hsame]

/-! ## Documents -/

/-- A widget without calls is not there, and shows the members of an empty object: none. -/
theorem showsEntry_of_lookup {data : Members} {name : Bytes} {calls : List Call}
    (h : data.lookup name =
      if callsOn name calls = [] then none else some (.object (entryAfter (callsOn name calls)))) :
    ShowsEntry (WidgetDataView.mk (Value.object data).arrived) name
      (entryAfter (callsOn name calls)) := by
  intro key
  split at h
  · rename_i hnone
    -- no call has named the widget
    have hwidget : (WidgetDataView.mk (Value.object data).arrived).widget name = none := by
      unfold WidgetDataView.widget
      rw [arrived_object]
      dsimp only
      rw [lookup_arrived, h]
      rfl
    unfold WidgetDataView.member
    rw [hwidget, hnone]
    rfl
  · exact member_arrived h key

theorem leavesOthers {calls before after : List Call} {call : Call} {data data' : Members}
    (hcalls : calls = before ++ call :: after)
    (h : ∀ name, requestPrefix.isPrefixOf name = false → data.lookup name =
      if callsOn name calls = [] then none else some (.object (entryAfter (callsOn name calls))))
    (h' : ∀ name, requestPrefix.isPrefixOf name = false → data'.lookup name =
      if callsOn name (before ++ after) = [] then none
      else some (.object (entryAfter (callsOn name (before ++ after))))) :
    LeavesOthers call ⟨(Value.object data).arrived⟩ ⟨(Value.object data').arrived⟩ := by
  have hmembers : ∀ name key, requestPrefix.isPrefixOf name = false →
      call.target ≠ some name ∨ key ∉ call.keys →
        (WidgetDataView.mk (Value.object data).arrived).member name key =
          (WidgetDataView.mk (Value.object data').arrived).member name key := by
    intro name key hname hother
    rw [showsEntry_of_lookup (h name hname) key, showsEntry_of_lookup (h' name hname) key, hcalls,
      get_without before after hother]
  refine ⟨hmembers, fun name channel hname hother => readAlike_of_members fun key hkey => ?_⟩
  -- a member of a channel that the call does not set is not written by it
  refine hmembers name key hname (hother.imp_right fun hchannel hwritten => hchannel ?_)
  obtain ⟨channel', hsome, hkey'⟩ := channel_of_key hwritten (mem_structuredChannelKeys hkey)
  rw [channel_keys_apart hkey hkey']
  exact hsome

/-- For every sequence of calls the view of the text that is sent shows of each widget what the
last call on each channel has set; a call that is left out changes no other widget or channel. -/
theorem widget_data_arrives (dump : Value → Bytes) (parse : Bytes → Option Value)
    (calls : List Call)
    (hnamed : ∀ call ∈ calls, call.Named) (htexts : ∀ call ∈ calls, call.ValidTexts)
    (hparse : ∀ data, WidgetData.run calls = .ok data → (Value.object data).Dumps →
      parse (WidgetData.toJson dump data) = some (Value.object data).arrived) :
    ∃ data, WidgetData.run calls = .ok data ∧
      (∀ name, requestPrefix.isPrefixOf name = false →
        Arrives (WidgetDataView.ofJson parse (WidgetData.toJson dump data)) name
          (callsOn name calls)) ∧
      ∀ before call after, calls = before ++ call :: after →
        ∃ data', WidgetData.run (before ++ after) = .ok data' ∧
          LeavesOthers call (WidgetDataView.ofJson parse (WidgetData.toJson dump data))
            ⟨(Value.object data').arrived⟩ := by
  obtain ⟨data, hrun, -, hlookup⟩ := run_entry hnamed
  have hview : WidgetDataView.ofJson parse (WidgetData.toJson dump data) =
      ⟨(Value.object data).arrived⟩ := by
    unfold WidgetDataView.ofJson
    rw [hparse data hrun (run_dumps htexts hrun), Option.getD_some]
  refine ⟨data, hrun, fun name hname => ?_, fun before call after hcalls => ?_⟩
  · rw [hview]
    exact arrives_of_entry (showsEntry_of_lookup (hlookup name hname))
  · have hnamed' : ∀ other ∈ before ++ after, other.Named := by
      intro other hother
      refine hnamed other ?_
      rw [hcalls]
      exact (List.mem_append.mp hother).elim (List.mem_append_left _) fun hlater =>
        List.mem_append_right _ (List.mem_cons_of_mem _ hlater)
    obtain ⟨data', hrun', -, hlookup'⟩ := run_entry hnamed'
    rw [hview]
    exact ⟨data', hrun', leavesOthers hcalls hlookup hlookup'⟩

/-- A table with one row and the empty filter of a tree. -/
theorem widget_data_arrives_pair :
    ∃ data, WidgetData.run
        [.setTableRows (text "table") [[text "a"]], .setTreeVisibleIds (text "tree") []] =
          .ok data ∧
      (∀ name, requestPrefix.isPrefixOf name = false →
        Arrives
          (WidgetDataView.ofJson
            (fun _ => some (.object
              [(text "table", .object [(text "rows", .array [.array [.string (text "a")]])]),
                (text "tree", .object [(text "tree_visible_ids", .array [])])]))
            (WidgetData.toJson (fun _ => text "a document") data))
          name
          (callsOn name [.setTableRows (text "table") [[text "a"]], .setTreeVisibleIds (text "tree") []])) ∧
      ∀ before call after,
        [Call.setTableRows (text "table") [[text "a"]], .setTreeVisibleIds (text "tree") []] =
            before ++ call :: after →
          ∃ data', WidgetData.run (before ++ after) = .ok data' ∧
            LeavesOthers call
              (WidgetDataView.ofJson
                (fun _ => some (.object
                  [(text "table", .object [(text "rows", .array [.array [.string (text "a")]])]),
                    (text "tree", .object [(text "tree_visible_ids", .array [])])]))
                (WidgetData.toJson (fun _ => text "a document") data))
              ⟨(Value.object data').arrived⟩ := by
  refine widget_data_arrives (fun _ => text "a document") _
    [.setTableRows (text "table") [[text "a"]], .setTreeVisibleIds (text "tree") []] ?_ ?_ ?_
  · refine List.forall_mem_cons.mpr ⟨?_, List.forall_mem_singleton.mpr ?_⟩
    all_goals
      intro name hname
      obtain rfl := Option.some.inj hname
      decide
  · refine List.forall_mem_cons.mpr ⟨⟨validUtf8_text _, ?_⟩, List.forall_mem_singleton.mpr
      ⟨validUtf8_text _, fun _ hmem => nomatch hmem⟩⟩
    refine List.forall_mem_singleton.mpr (List.forall_mem_singleton.mpr (validUtf8_text _))
  · intro data hrun _
    obtain rfl := Except.ok.inj hrun
    rfl

/-! ## What does not arrive -/

/-- A row whose only key stands in a column beyond the type `int`. -/
def wideRow : List TableItem :=
  List.replicate (2 ^ 31) { text := [] } ++ [{ text := [], value := some (.int8 1) }]

theorem keyIn_wideRow (column : Nat) :
    keyIn column wideRow = if column = 2 ^ 31 then some (.int8 1) else none := by
  have hlength : (List.replicate (2 ^ 31) ({ text := [] } : TableItem)).length = 2 ^ 31 :=
    List.length_replicate
  unfold keyIn wideRow
  rcases Nat.lt_trichotomy column (2 ^ 31) with hlt | rfl | hgt
  · rw [List.getElem?_append_left (hlength.symm ▸ hlt), List.getElem?_replicate, if_pos hlt,
      if_neg (Nat.ne_of_lt hlt)]
    rfl
  · rw [List.getElem?_append_right (Nat.le_of_eq hlength), hlength, Nat.sub_self, if_pos rfl]
    rfl
  · rw [List.getElem?_append_right (hlength.symm ▸ Nat.le_of_lt hgt), hlength,
      List.getElem?_eq_none (Nat.sub_pos_of_lt hgt), if_neg (Nat.ne_of_gt hgt)]
    rfl

theorem hasKeys_wideRow (column : Nat) : HasKeys [wideRow] column ↔ column = 2 ^ 31 := by
  unfold HasKeys
  constructor
  · rintro ⟨row, hrow, hkey⟩
    rw [List.mem_singleton.mp hrow, keyIn_wideRow] at hkey
    by_contra hne
    rw [if_neg hne] at hkey
    exact Bool.false_ne_true hkey
  · intro heq
    refine ⟨wideRow, List.mem_singleton_self _, ?_⟩
    rw [keyIn_wideRow, if_pos heq]
    rfl

/-- A key in a column beyond the type `int` is not read, and of two calls of a kind under one
sequence number the second replaces the first. -/
theorem wide_column_lost :
    HasKeys [wideRow] (2 ^ 31) ∧
      (∃ data, WidgetData.run [.setTableItems (text "table") [wideRow]] = .ok data ∧
        (WidgetDataView.mk (Value.object data).arrived).tableColumnValues (text "table") = []) ∧
      ∃ data, WidgetData.run
          [.appendTableRows (text "table") 1 [[text "a"]], .appendTableRows (text "table") 1 [[text "b"]]] =
            .ok data ∧
        (WidgetDataView.mk (Value.object data).arrived).tableDelta (text "table") =
          some { seq := 1, append := [[text "b"]] } := by
  refine ⟨(hasKeys_wideRow _).mpr rfl, ?_, _, rfl, by decide +kernel⟩
  have hnamed : ∀ call ∈ [Call.setTableItems (text "table") [wideRow]], call.Named := by
    refine List.forall_mem_singleton.mpr fun name hname => ?_
    obtain rfl := Option.some.inj hname
    decide
  obtain ⟨data, hrun, -, hlookup⟩ := run_entry hnamed
  refine ⟨data, hrun, List.eq_nil_iff_forall_not_mem.mpr fun entry hentry => ?_⟩
  have hon : callsOn (text "table") [Call.setTableItems (text "table") [wideRow]] =
      [.setTableItems (text "table") [wideRow]] := by
    have htarget : (Call.setTableItems (text "table") [wideRow]).target = some (text "table") := rfl
    unfold callsOn
    rw [List.filter_cons, if_pos (decide_eq_true htarget), List.filter_nil]
  have hcolumns :=
    (arrives_of_entry (showsEntry_of_lookup (hlookup (text "table") (by decide)))).columns
  rw [hon] at hcolumns
  obtain ⟨number, -, hfits, hhas, -⟩ := hcolumns.sent entry.1 entry.2 hentry
  exact absurd ((hasKeys_wideRow number).mp hhas) (Nat.ne_of_lt hfits)

end Dialog

end PlotJugglerSdk
