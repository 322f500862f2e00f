import PlotJugglerSdk.Dialog.EventRoundTrip
import PlotJugglerSdk.Json.Editing
import PlotJugglerSdk.Lexing.Decimal
import PlotJugglerSdk.Numeric.Binary

/-!
# WidgetData

The builder of the JSON document a dialog sends to its host: one object for each widget, with
a member for each property. A setter of the source is a call here; most of them only store
members (`Call.assign`), and those of the structured channels have calls of their own. What a
call does to the object of its widget is `Call.change`.

* `TableItem`, `TreeItem`, … — what the structured channels carry
* `Call`                     — the setters
* `WidgetData.run`           — the document of a sequence of calls
-/

namespace PlotJugglerSdk

namespace Dialog

open Json Lexing Value Wire

/-! ## What is sent -/

/-- `PJ::NumericValue`; a float is its pattern. -/
inductive NumericValue where
  | float (bits : F32)
  | double (bits : F64)
  | int8 (value : Int8)
  | int16 (value : Int16)
  | int32 (value : Int32)
  | int64 (value : Int64)
  | uint8 (value : UInt8)
  | uint16 (value : UInt16)
  | uint32 (value : UInt32)
  | uint64 (value : UInt64)
  deriving DecidableEq

/-- The JSON value of the alternative that is set. -/
def NumericValue.toJson : NumericValue → Value
  | float bits => .float (Binary.widen bits)
  | double bits => .float bits
  | int8 value => .integer value.toInt64
  | int16 value => .integer value.toInt64
  | int32 value => .integer value.toInt64
  | int64 value => .integer value
  | uint8 value => .unsigned value.toUInt64
  | uint16 value => .unsigned value.toUInt64
  | uint32 value => .unsigned value.toUInt64
  | uint64 value => .unsigned value

structure TableItem where
  text : Bytes
  value : Option NumericValue := none
  deriving DecidableEq

structure TableCellUpdate where
  row : Int32 := 0
  col : Int32 := 0
  item : TableItem
  deriving DecidableEq

structure ChartPoint where
  x : F64
  y : F64
  deriving DecidableEq

structure ChartSeries where
  label : Bytes
  points : List ChartPoint
  color : Bytes := []
  dashed : Bool := false
  deriving DecidableEq

structure ChartMarker where
  kind : Bytes
  x0 : F64 := .zero
  x1 : F64 := .zero
  y0 : F64 := .zero
  y1 : F64 := .zero
  hasValue : Bool := false
  color : Bytes := []
  label : Bytes := []

structure SceneTopic where
  topic : Bytes
  dataset : Bytes := []
  deriving DecidableEq

structure SceneView where
  kind : Bytes := []
  topics : List SceneTopic := []
  deriving DecidableEq

structure RangeSliderMarker where
  start : Int32 := 0
  stop : Int32 := 0
  label : Bytes := []
  deriving DecidableEq

structure TreeCell where
  text : Bytes
  sortValue : Option NumericValue := none
  tooltip : Bytes := []
  icon : Bytes := []
  deriving DecidableEq

structure TreeItem where
  id : Bytes
  parentId : Bytes := []
  cells : List TreeCell := []
  enabled : Bool := true
  selectable : Bool := true
  checkState : TreeCheckState := .none
  mayHaveChildren : Bool := false
  deriving DecidableEq

structure FilePickerFilter where
  id : Bytes
  label : Bytes
  patterns : List Bytes
  deriving DecidableEq

structure FilePickerOptions where
  mode : FilePickerMode := .openFile
  title : Bytes := []
  acceptLabel : Bytes := []
  initialDirectory : Bytes := []
  suggestedName : Bytes := []
  defaultSuffix : Bytes := []
  filters : List FilePickerFilter := []
  initiallySelectedFilterId : Bytes := []
  confirmOverwrite : Bool := true
  deriving DecidableEq

/-! ## Encoding -/

def textRows (rows : List (List Bytes)) : Value := .array (rows.map strings)

/-- The key of the cell in a column, where it has one. -/
def keyIn (column : Nat) (row : List TableItem) : Option NumericValue :=
  row[column]?.bind TableItem.value

def keyToJson : Option NumericValue → Value
  | some value => value.toJson
  | none => .null

/-- The second loop of `encodeTypedRows`: a member for each column that has a key. -/
def keyColumns (rows : List (List TableItem)) : Members :=
  let maxCols := rows.foldl (fun maxCols row => max maxCols row.length) 0
  (List.range maxCols).foldl
    (fun columns column =>
      if rows.any fun row => (keyIn column row).isSome then
        columns.setAt (decimalText column)
          (.array (rows.map fun row => keyToJson (keyIn column row)))
      else columns) []

/-- The display texts and the sparse map of the keys. -/
def encodeTypedRows (rows : List (List TableItem)) : Value × Members :=
  (textRows (rows.map fun row => row.map TableItem.text), keyColumns rows)

def ChartSeries.toJson (series : ChartSeries) : Value :=
  fields
    ([("label", .string series.label),
        ("points", .array
          (series.points.map fun point => .array [.float point.x, .float point.y]))] ++
      (if series.color ≠ [] then [("color", .string series.color)] else []) ++
      if series.dashed then [("dashed", .boolean true)] else [])

def ChartMarker.toJson (marker : ChartMarker) : Value :=
  fields
    ([("kind", .string marker.kind), ("x0", .float marker.x0), ("x1", .float marker.x1),
        ("y0", .float marker.y0), ("y1", .float marker.y1),
          ("has_value", .boolean marker.hasValue)] ++
      (if marker.color ≠ [] then [("color", .string marker.color)] else []) ++
      if marker.label ≠ [] then [("label", .string marker.label)] else [])

def SceneView.toJson (view : SceneView) : Value :=
  fields
    [("kind", .string view.kind),
      ("topics", .array (view.topics.map fun topic =>
        fields [("topic", .string topic.topic), ("dataset", .string topic.dataset)]))]

def RangeSliderMarker.toJson (marker : RangeSliderMarker) : Value :=
  fields
    [("start", ofInt marker.start), ("end", ofInt marker.stop), ("label", .string marker.label)]

def TreeCell.toJson (cell : TreeCell) : Value :=
  fields
    ([("text", .string cell.text)] ++
      (cell.sortValue.toList.map fun value => ("sort_value", value.toJson)) ++
      (if cell.tooltip ≠ [] then [("tooltip", .string cell.tooltip)] else []) ++
      if cell.icon ≠ [] then [("icon", .string cell.icon)] else [])

def TreeItem.toJson (item : TreeItem) : Value :=
  fields
    [("id", .string item.id), ("parent_id", .string item.parentId),
      ("cells", .array (item.cells.map TreeCell.toJson)), ("enabled", .boolean item.enabled),
      ("selectable", .boolean item.selectable),
      ("check_state", .string (text (treeCheckStateWireValue item.checkState))),
      ("may_have_children", .boolean item.mayHaveChildren)]

def FilePickerFilter.toJson (filter : FilePickerFilter) : Value :=
  fields
    [("id", .string filter.id), ("label", .string filter.label),
      ("patterns", strings filter.patterns)]

def FilePickerOptions.toJson (options : FilePickerOptions) : Value :=
  fields
    [("mode", .string (text options.mode.wireValue)), ("title", .string options.title),
      ("accept_label", .string options.acceptLabel),
      ("initial_directory", .string options.initialDirectory),
      ("suggested_name", .string options.suggestedName),
      ("default_suffix", .string options.defaultSuffix),
      ("filters", .array (options.filters.map FilePickerFilter.toJson)),
      ("initially_selected_filter_id", .string options.initiallySelectedFilterId),
      ("confirm_overwrite", .boolean options.confirmOverwrite)]

/-- `Images (*.png *.jpg);;All files (*)`, for hosts without structured pickers. -/
def legacyFilter (filters : List FilePickerFilter) : Bytes :=
  filters.foldl
    (fun legacy filter =>
      (if legacy = [] then [] else legacy ++ text ";;") ++ filter.label ++ text " (" ++
        (List.intersperse (text " ") filter.patterns).flatten ++ text ")") []

/-! ## Calls -/

/-- The members of the structured channels. -/
def structuredChannelKeys : List String :=
  ["rows", "column_values", "table_delta", "row_colors", "cell_tooltips", "tree_items",
    "tree_selected_ids", "tree_expanded_ids", "tree_visible_ids", "file_picker", "scene_view",
    "marker_timeline_marks", "marker_timeline_time_min_ns", "marker_timeline_time_max_ns",
    "range_markers", "range_time_min_ns", "range_time_max_ns", "chart_series"]

/-- Members that belong to no structured channel. -/
structure PlainMembers where
  members : List (String × Value)
  apart : (members.all fun member => !structuredChannelKeys.contains member.1) = true := by rfl

/-- The keys of the commands to the dialog itself begin with this. -/
def requestPrefix : Bytes := text "__request"

structure DialogRequest where
  key : String
  value : Value
  marked : requestPrefix.isPrefixOf (text key) = true := by decide

/-- A call of a setter. The overloads with `TableItem` rows and with picker options have
names of their own. -/
inductive Call where
  | assign (name : Bytes) (plain : PlainMembers)
  | request (command : DialogRequest)
  | setTableRows (name : Bytes) (rows : List (List Bytes))
  | setTableItems (name : Bytes) (rows : List (List TableItem))
  | setRowColor (name : Bytes) (row : Int32) (colorHex : Bytes)
  | setCellTooltip (name : Bytes) (row col : Int32) (tooltip : Bytes)
  | appendTableRows (name : Bytes) (seq : UInt64) (rows : List (List Bytes))
  | appendTableItems (name : Bytes) (seq : UInt64) (rows : List (List TableItem))
  | updateTableCells (name : Bytes) (seq : UInt64) (cells : List TableCellUpdate)
  | removeTableRows (name : Bytes) (seq : UInt64) (rows : List Int32)
  | setTreeItems (name : Bytes) (items : List TreeItem)
  | setTreeSelectedIds (name : Bytes) (ids : List Bytes)
  | setTreeExpandedIds (name : Bytes) (ids : List Bytes)
  | setTreeVisibleIds (name : Bytes) (ids : List Bytes)
  | clearTreeVisibleIds (name : Bytes)
  | setChartSeries (name : Bytes) (series : List ChartSeries)
  | clearChart (name : Bytes)
  | setSceneView (name : Bytes) (view : SceneView)
  | clearSceneView (name : Bytes)
  | setFilePickerOptions (name buttonText : Bytes) (options : FilePickerOptions)
  | setRangeSliderTimeSpan (name : Bytes) (minNs maxNs : Int64)
  | setRangeSliderMarkers (name : Bytes) (markers : List RangeSliderMarker)
  | setMarkerTimelineMarks (name : Bytes) (marks : List TimelineMark)
  | setMarkerTimelineTimeSpan (name : Bytes) (minNs maxNs : Int64)

namespace Call

/-! ### The setters that only store members -/

def setText (name text : Bytes) : Call := .assign name { members := [("text", .string text)] }

def setPlaceholder (name text : Bytes) : Call :=
  .assign name { members := [("placeholder", .string text)] }

def setReadOnly (name : Bytes) (readOnly : Bool) : Call :=
  .assign name { members := [("read_only", .boolean readOnly)] }

def setCurrentIndex (name : Bytes) (index : Int32) : Call :=
  .assign name { members := [("current_index", ofInt index)] }

def setItems (name : Bytes) (items : List Bytes) : Call :=
  .assign name { members := [("items", strings items)] }

def setChecked (name : Bytes) (checked : Bool) : Call :=
  .assign name { members := [("checked", .boolean checked)] }

def setValue (name : Bytes) (value : Int32) : Call :=
  .assign name { members := [("value", ofInt value)] }

def setValueDouble (name : Bytes) (value : F64) : Call :=
  .assign name { members := [("value", .float value)] }

def setRange (name : Bytes) (min max : Int32) : Call :=
  .assign name { members := [("min", ofInt min), ("max", ofInt max)] }

def setListItems (name : Bytes) (items : List Bytes) : Call :=
  .assign name { members := [("list_items", strings items)] }

def setSelectedItems (name : Bytes) (selected : List Bytes) : Call :=
  .assign name { members := [("selected_items", strings selected)] }

def setListItemColors (name : Bytes) (colors : List Bytes) : Call :=
  .assign name { members := [("list_item_colors", strings colors)] }

def setListItemsDeletable (name : Bytes) (deletable : Bool) : Call :=
  .assign name { members := [("list_deletable", .boolean deletable)] }

def setListItemsDisabled (name : Bytes) (disabled : List Bytes) : Call :=
  .assign name { members := [("list_disabled_items", strings disabled)] }

def setListSelectionMode (name : Bytes) (multi : Bool) : Call :=
  .assign name { members := [("list_multi_select", .boolean multi)] }

def setListPlaceholder (name text : Bytes) : Call :=
  .assign name { members := [("list_placeholder", .string text)] }

def setTableHeaders (name : Bytes) (headers : List Bytes) : Call :=
  .assign name { members := [("headers", strings headers)] }

def setTableSortIndicator (name : Bytes) (column : Int32) (ascending : Bool) : Call :=
  .assign name
    { members :=
        [("sort_indicator", fields [("col", ofInt column), ("asc", .boolean ascending)])] }

def setSelectedRows (name : Bytes) (rows : List Int32) : Call :=
  .assign name { members := [("selected_rows", .array (rows.map ofInt))] }

def setDisabledRows (name : Bytes) (rows : List Int32) : Call :=
  .assign name { members := [("disabled_rows", .array (rows.map ofInt))] }

def setVisibleRows (name : Bytes) (visible : List Int32) : Call :=
  .assign name { members := [("visible_rows", .array (visible.map ofInt))] }

def clearVisibleRows (name : Bytes) : Call := .assign name { members := [("visible_rows", .null)] }

def setTableRadioColumn (name : Bytes) (column checkedRow : Int32) : Call :=
  .assign name
    { members := [("radio_column", ofInt column), ("radio_checked_row", ofInt checkedRow)] }

def setTreeHeaders (name : Bytes) (headers : List Bytes) : Call :=
  .assign name { members := [("tree_headers", strings headers)] }

def setTreeSelectionMode (name : Bytes) (multi : Bool) : Call :=
  .assign name { members := [("tree_multi_selection", .boolean multi)] }

def setChartMarkers (name : Bytes) (markers : List ChartMarker) : Call :=
  .assign name { members := [("chart_markers", .array (markers.map ChartMarker.toJson))] }

def setChartZoomEnabled (name : Bytes) (enabled : Bool := true) : Call :=
  .assign name { members := [("chart_zoom_enabled", .boolean enabled)] }

def setChartAutoZoom (name : Bytes) (enabled : Bool) : Call :=
  .assign name { members := [("chart_auto_zoom", .boolean enabled)] }

def setChartPlaceholder (name text : Bytes) : Call :=
  .assign name { members := [("chart_placeholder", .string text)] }

def setPlainText (name text : Bytes) : Call :=
  .assign name { members := [("plain_text", .string text)] }

def setCodeContent (name code : Bytes) : Call :=
  .assign name { members := [("code_content", .string code)] }

def setCodeLanguage (name lang : Bytes) : Call :=
  .assign name { members := [("code_language", .string lang)] }

def setCodeCursor (name : Bytes) (cursor : Int32) : Call :=
  .assign name { members := [("code_cursor", ofInt cursor)] }

def setCodeCaretTracking (name : Bytes) (enabled : Bool := true) : Call :=
  .assign name { members := [("code_caret_tracking", .boolean enabled)] }

def setLabel (name text : Bytes) : Call := .assign name { members := [("label", .string text)] }

def setButtonText (name text : Bytes) : Call :=
  .assign name { members := [("button_text", .string text)] }

def setButtonIcon (name svgData : Bytes) : Call :=
  .assign name { members := [("button_icon_svg", .string svgData)] }

def setButtonIconNamed (name iconId : Bytes) : Call :=
  .assign name { members := [("button_icon_name", .string iconId)] }

def setShortcut (name keySequence : Bytes) : Call :=
  .assign name { members := [("shortcut", .string keySequence)] }

def setFilePicker (name buttonText filter title : Bytes) : Call :=
  .assign name
    { members :=
        [("button_text", .string buttonText), ("action", .string (text "file_picker")),
          ("filter", .string filter), ("title", .string title)] }

def setSaveFilePicker (name buttonText filter title : Bytes) (defaultSuffix : Bytes := []) : Call :=
  .assign name
    { members :=
        [("button_text", .string buttonText), ("action", .string (text "save_file_picker")),
          ("filter", .string filter), ("title", .string title),
          ("default_suffix", .string defaultSuffix)] }

def setFolderPicker (name buttonText title : Bytes) : Call :=
  .assign name
    { members :=
        [("button_text", .string buttonText), ("action", .string (text "folder_picker")),
          ("title", .string title)] }

def setDateTime (name iso8601 : Bytes) : Call :=
  .assign name { members := [("datetime", .string iso8601)] }

def setDateTimeRange (name minIso maxIso : Bytes) : Call :=
  .assign name { members := [("datetime_min", .string minIso), ("datetime_max", .string maxIso)] }

def setRangeSliderBounds (name : Bytes) (min max : Int32) : Call :=
  .assign name { members := [("range_min", ofInt min), ("range_max", ofInt max)] }

def setRangeSliderValues (name : Bytes) (lower upper : Int32) : Call :=
  .assign name { members := [("range_lower", ofInt lower), ("range_upper", ofInt upper)] }

def setMarkerTimelineBounds (name : Bytes) (min max : Int32) : Call :=
  .assign name
    { members := [("marker_timeline_min", ofInt min), ("marker_timeline_max", ofInt max)] }

def setFieldValid (name : Bytes) (ok : Bool) (tooltip : Bytes := []) : Call :=
  .assign name { members := [("valid", .boolean ok), ("valid_tooltip", .string tooltip)] }

def setDateRangePlaceholder (name earliestIso latestIso : Bytes) : Call :=
  .assign name
    { members :=
        [("date_range_earliest", .string earliestIso), ("date_range_latest", .string latestIso)] }

def setOkEnabled (enabled : Bool) (name : Bytes := text "buttonBox") : Call :=
  .assign name { members := [("ok_enabled", .boolean enabled)] }

def setTabIndex (name : Bytes) (index : Int32) : Call :=
  .assign name { members := [("tab_index", ofInt index)] }

def setStackedPage (name pageObjectName : Bytes) : Call :=
  .assign name { members := [("stacked_page", .string pageObjectName)] }

def setStackedIndex (name : Bytes) (index : Int32) : Call :=
  .assign name { members := [("stacked_index", ofInt index)] }

def setEnabled (name : Bytes) (enabled : Bool) : Call :=
  .assign name { members := [("enabled", .boolean enabled)] }

def setVisible (name : Bytes) (visible : Bool) : Call :=
  .assign name { members := [("visible", .boolean visible)] }

def setDropTarget (name : Bytes) (isTarget : Bool := true) : Call :=
  .assign name { members := [("drop_target", .boolean isTarget)] }

/-! ### Commands to the dialog -/

def requestAccept : Call := .request { key := "__request_accept", value := .boolean true }

def requestSubDialog (uiXml : Bytes) : Call :=
  .request { key := "__request_sub_dialog", value := fields [("ui", .string uiXml)] }

def requestSubPanel (uiXml : Bytes) : Call :=
  .request { key := "__request_sub_panel", value := fields [("ui", .string uiXml)] }

def closeSubPanel : Call := .request { key := "__request_sub_panel_close", value := .boolean true }

def requestClose (reason : Bytes) : Call :=
  .request { key := "__request_close", value := .string reason }

end Call

/-! ## What a call does to its widget -/

/-- The operations of a table delta. -/
inductive DeltaOp where
  | append (rows : List (List Bytes))
  | appendItems (rows : List (List TableItem))
  | updateCells (cells : List TableCellUpdate)
  | removeRows (rows : List Int32)

/-- The member with the keys of typed rows; no column has keys where it is removed. -/
def columnsMember (columns : Members) : Option Value :=
  if columns.isEmpty then none else some (.object columns)

/-- `[row, col, text]` or `[row, col, text, value]`. -/
def TableCellUpdate.toJson (cell : TableCellUpdate) : Value :=
  .array
    ([ofInt cell.row, ofInt cell.col, .string cell.item.text] ++
      cell.item.value.toList.map NumericValue.toJson)

def DeltaOp.edits : DeltaOp → List (String × Option Value)
  | append rows => [("append", some (textRows rows)), ("append_values", none)]
  | appendItems rows =>
    [("append", some (encodeTypedRows rows).1),
      ("append_values", columnsMember (encodeTypedRows rows).2)]
  | updateCells cells => [("update_cells", some (.array (cells.map TableCellUpdate.toJson)))]
  | removeRows rows => [("remove_rows", some (.array (rows.map ofInt)))]

/-- The members of an object; any other value is replaced by an empty one. -/
def objectOf : Option Value → Members
  | some (.object members) => members
  | _ => []

/-- `tableDeltaEntry`: another sequence number than the one that stands starts a fresh delta.
The member is only ever written here, as an unsigned integer. -/
def tableDeltaEntry (seq : UInt64) (entry : Members) : Members :=
  let delta := objectOf (entry.get "table_delta")
  match delta.get "seq" with
  | some (.unsigned stored) => if stored = seq then delta else [(text "seq", .unsigned seq)]
  | _ => [(text "seq", .unsigned seq)]

namespace Call

/-- The widget of a call; a command to the dialog has none. -/
def target : Call → Option Bytes
  | .request _ => none
  | assign name _ | setTableRows name _ | setTableItems name _ | setRowColor name _ _
  | setCellTooltip name _ _ _ | appendTableRows name _ _ | appendTableItems name _ _
  | updateTableCells name _ _ | removeTableRows name _ _ | setTreeItems name _
  | setTreeSelectedIds name _ | setTreeExpandedIds name _ | setTreeVisibleIds name _
  | clearTreeVisibleIds name | setChartSeries name _ | clearChart name | setSceneView name _
  | clearSceneView name | setFilePickerOptions name _ _ | setRangeSliderTimeSpan name _ _
  | setRangeSliderMarkers name _ | setMarkerTimelineMarks name _
  | setMarkerTimelineTimeSpan name _ _ => some name

/-- A call that adds to the delta of a table, with its sequence number. -/
def deltaOp : Call → Option (UInt64 × DeltaOp)
  | appendTableRows _ seq rows => some (seq, .append rows)
  | appendTableItems _ seq rows => some (seq, .appendItems rows)
  | updateTableCells _ seq cells => some (seq, .updateCells cells)
  | removeTableRows _ seq rows => some (seq, .removeRows rows)
  | _ => none

/-- The legacy members beside structured picker options, by the mode. -/
def legacyPicker (options : FilePickerOptions) : List (String × Option Value) :=
  match options.mode with
  | .openFile | .openFiles =>
    [("action", some (.string (text "file_picker"))),
      ("filter", some (.string (legacyFilter options.filters))), ("default_suffix", none)]
  | .saveFile =>
    [("action", some (.string (text "save_file_picker"))),
      ("filter", some (.string (legacyFilter options.filters))),
      ("default_suffix", some (.string options.defaultSuffix))]
  | .selectDirectory =>
    [("action", some (.string (text "folder_picker"))), ("filter", none), ("default_suffix", none)]

/-- The members a call sets or removes, where they do not depend on those that stand. -/
def edits : Call → List (String × Option Value)
  | assign _ plain => plain.members.map fun member => (member.1, some member.2)
  -- rows of plain texts have no values behind them
  | setTableRows _ rows => [("rows", some (textRows rows)), ("column_values", none)]
  | setTableItems _ rows =>
    [("rows", some (encodeTypedRows rows).1),
      ("column_values", columnsMember (encodeTypedRows rows).2)]
  | setTreeItems _ items => [("tree_items", some (.array (items.map TreeItem.toJson)))]
  | setTreeSelectedIds _ ids => [("tree_selected_ids", some (strings ids))]
  | setTreeExpandedIds _ ids => [("tree_expanded_ids", some (strings ids))]
  | setTreeVisibleIds _ ids => [("tree_visible_ids", some (strings ids))]
  | clearTreeVisibleIds _ => [("tree_visible_ids", some .null)]
  | setChartSeries _ series => [("chart_series", some (.array (series.map ChartSeries.toJson)))]
  | clearChart _ => [("chart_series", some (.array [])), ("chart_markers", some (.array []))]
  | setSceneView _ view => [("scene_view", some view.toJson)]
  | clearSceneView _ => [("scene_view", some .null)]
  -- the picker as a whole, and its legacy members for hosts that know no other
  | setFilePickerOptions _ buttonText options =>
    [("button_text", some (.string buttonText)), ("file_picker", some options.toJson),
      ("title", some (.string options.title))] ++ legacyPicker options
  | setRangeSliderTimeSpan _ minNs maxNs =>
    [("range_time_min_ns", some (.string (decimalText minNs.toInt))),
      ("range_time_max_ns", some (.string (decimalText maxNs.toInt)))]
  | setRangeSliderMarkers _ markers =>
    [("range_markers", some (.array (markers.map RangeSliderMarker.toJson)))]
  | setMarkerTimelineMarks _ marks =>
    [("marker_timeline_marks",
      some (.array (marks.map WidgetEventBuilder.timelineMarkToJson)))]
  | setMarkerTimelineTimeSpan _ minNs maxNs =>
    [("marker_timeline_time_min_ns", some (.string (decimalText minNs.toInt))),
      ("marker_timeline_time_max_ns", some (.string (decimalText maxNs.toInt)))]
  | _ => []

/-- What a call makes of the object of its widget. -/
def change (call : Call) (entry : Members) : Members :=
  match call with
  | setRowColor _ row colorHex =>
    entry.set "row_colors" (.object ((objectOf (entry.get "row_colors")).setAt
      (decimalText row.toInt) (.string colorHex)))
  | setCellTooltip _ row col tooltip =>
    entry.set "cell_tooltips" (.object ((objectOf (entry.get "cell_tooltips")).setAt
      (decimalText row.toInt ++ text "," ++ decimalText col.toInt) (.string tooltip)))
  | call =>
    match call.deltaOp with
    | some (seq, op) =>
      entry.set "table_delta" (.object ((tableDeltaEntry seq entry).edited op.edits))
    | none => entry.edited call.edits

end Call

/-! ## The document -/

/-- `entry`, with what is then done to the object. -/
def modifyEntry (name : Bytes) (change : Members → Members) (data : Members) :
    Except JsonError Members :=
  match data.lookup name with
  | none | some .null => .ok (data.setAt name (.object (change [])))
  | some (.object entry) => .ok (data.setAt name (.object (change entry)))
  | some _ => .error (.typeError 305)

def Call.run (call : Call) (data : Members) : Except JsonError Members :=
  match call with
  | .request command => .ok (data.set command.key command.value)
  | call => call.target.elim (.ok data) fun name => modifyEntry name call.change data

namespace WidgetData

/-- The document of a sequence of calls. -/
def run (calls : List Call) : Except JsonError Members :=
  calls.foldlM (fun data call => call.run data) []

def toJson (dump : Value → Bytes) (data : Members) : Bytes := dump (.object data)

end WidgetData

/-! ## Texts -/

namespace Call

def ValidRows (rows : List (List TableItem)) : Prop :=
  ∀ row ∈ rows, ∀ item ∈ row, ValidUtf8 item.text

/-- The texts of a call are UTF-8. -/
def ValidTexts : Call → Prop
  | assign name plain => ValidUtf8 name ∧ ∀ member ∈ plain.members, member.2.Dumps
  | .request command => command.value.Dumps
  | setTableRows name rows | appendTableRows name _ rows =>
    ValidUtf8 name ∧ ∀ row ∈ rows, Event.AllUtf8 row
  | setTableItems name rows | appendTableItems name _ rows => ValidUtf8 name ∧ ValidRows rows
  | setRowColor name _ colorHex => ValidUtf8 name ∧ ValidUtf8 colorHex
  | setCellTooltip name _ _ tooltip => ValidUtf8 name ∧ ValidUtf8 tooltip
  | updateTableCells name _ cells => ValidUtf8 name ∧ ∀ cell ∈ cells, ValidUtf8 cell.item.text
  | removeTableRows name _ _ | clearTreeVisibleIds name | clearChart name | clearSceneView name
  | setRangeSliderTimeSpan name _ _ | setMarkerTimelineMarks name _
  | setMarkerTimelineTimeSpan name _ _ => ValidUtf8 name
  | setTreeItems name items =>
    ValidUtf8 name ∧ ∀ item ∈ items, ValidUtf8 item.id ∧ ValidUtf8 item.parentId ∧
      ∀ cell ∈ item.cells, ValidUtf8 cell.text ∧ ValidUtf8 cell.tooltip ∧ ValidUtf8 cell.icon
  | setTreeSelectedIds name ids | setTreeExpandedIds name ids | setTreeVisibleIds name ids =>
    ValidUtf8 name ∧ Event.AllUtf8 ids
  | setChartSeries name series =>
    ValidUtf8 name ∧ ∀ curve ∈ series, ValidUtf8 curve.label ∧ ValidUtf8 curve.color
  | setSceneView name view =>
    ValidUtf8 name ∧ ValidUtf8 view.kind ∧
      ∀ topic ∈ view.topics, ValidUtf8 topic.topic ∧ ValidUtf8 topic.dataset
  | setFilePickerOptions name buttonText options =>
    ValidUtf8 name ∧ ValidUtf8 buttonText ∧ ValidUtf8 options.title ∧
      ValidUtf8 options.acceptLabel ∧ ValidUtf8 options.initialDirectory ∧
      ValidUtf8 options.suggestedName ∧ ValidUtf8 options.defaultSuffix ∧
      ValidUtf8 options.initiallySelectedFilterId ∧
      ∀ filter ∈ options.filters,
        ValidUtf8 filter.id ∧ ValidUtf8 filter.label ∧ Event.AllUtf8 filter.patterns
  | setRangeSliderMarkers name markers =>
    ValidUtf8 name ∧ ∀ marker ∈ markers, ValidUtf8 marker.label

/-- The name of its widget is not one of the dialog's commands. -/
def Named (call : Call) : Prop := ∀ name ∈ call.target, requestPrefix.isPrefixOf name = false

end Call

end Dialog

end PlotJugglerSdk
