import PlotJugglerSdk.Dialog.WidgetData
import PlotJugglerSdk.Trees.ParentWalk

/-!
# WidgetDataView

The readers a host has for the document of a dialog. A reader looks at members of one widget
(`WidgetDataView.member`); a widget or a member that is not there is read as nothing, and what
is there is decoded more or less strictly: table rows keep their shape, a malformed delta,
tree or picker is refused as a whole.

* `WidgetDataView.…`    — the readers of the structured channels
* `numericFromJson`     — a sort key
* `TableDeltaView`      — the operations of a delta, its removals in the order to apply them
-/

namespace PlotJugglerSdk

namespace Dialog

open Json Lexing Value Wire Trees

/-- The document of a host; a text that does not parse has no widgets. -/
structure WidgetDataView where
  data : Value

/-! ## Decoding -/

/-- The widest alternative that keeps the number. -/
def numericFromJson : Value → Option NumericValue
  | .unsigned value => some (.uint64 value)
  | .integer value => some (.int64 value)
  | .float bits => some (.double bits)
  | _ => none

/-- A key that may be null. -/
def decodeKey : Value → Option (Option NumericValue)
  | .null => some none
  | value => (numericFromJson value).map some

/-- The keys of each column that has some, in the order of the columns. -/
abbrev KeyColumns := List (Int × List (Option NumericValue))

/-- The key of a column: an `int` that is not negative. -/
def columnIndex (key : Bytes) : Option Int :=
  (parseInteger (-2 ^ 31) (2 ^ 31 - 1) key).filter fun column => 0 ≤ column

def KeyColumns.emplace (column : Int) (keys : List (Option NumericValue)) (columns : KeyColumns) :
    KeyColumns :=
  SortedMap.emplace (fun a b => decide (a < b)) column keys columns

def require {α : Type} (reason : Bytes) (value : Option α) : Except Bytes α :=
  value.elim (.error reason) .ok

def refuse (bad : Prop) [Decidable bad] (reason : Bytes) : Except Bytes Unit :=
  if bad then .error reason else .ok ()

def asObject : Value → Option Value
  | .object members => some (.object members)
  | _ => none

def asArray : Value → Option (List Value)
  | .array values => some values
  | _ => none

/-- A loop that decodes the values of an array one by one, each with those before it. -/
def decodeOnto {α : Type} (decode : List α → Value → Except Bytes α) :
    List α → List Value → Except Bytes (List α)
  | decoded, [] => .ok decoded
  | decoded, value :: values => do
    let next ← decode decoded value
    decodeOnto decode (decoded ++ [next]) values

def quoted (value : Bytes) : Bytes := text "'" ++ value ++ text "'"

/-- An element of an array, in the text of an error. -/
def element (place : Bytes) (index : Nat) : Bytes :=
  place ++ text "[" ++ decimalText index ++ text "]"

/-- `decodeOptionalBool` -/
def decodeOptionalBool (key : String) (default : Bool) (object : Value) : Option Bool :=
  match object.find key with
  | none => some default
  | some value => WidgetEvent.asBool value

/-! ### Trees -/

def decodeSortValue (cell : Value) : Option (Option NumericValue) :=
  match cell.find "sort_value" with
  | none => some none
  | some value => decodeKey value

def decodeTreeCell (place : Bytes) (cells : List TreeCell) (encoded : Value) :
    Except Bytes TreeCell := do
  let place := element (place ++ text ".cells") cells.length
  let encoded ← require (place ++ text " must be an object") (asObject encoded)
  let display ← require (place ++ text ".text must be a string")
    (WidgetEvent.getString "text" encoded)
  let sortValue ← require (place ++ text ".sort_value must be a number or null")
    (decodeSortValue encoded)
  let tooltip ← require (place ++ text ".tooltip must be a string")
    (WidgetEvent.optionalString "tooltip" encoded)
  let icon ← require (place ++ text ".icon must be a string")
    (WidgetEvent.optionalString "icon" encoded)
  .ok { text := display, sortValue, tooltip, icon }

def decodeCheckState (place : Bytes) (encoded : Value) : Except Bytes TreeCheckState :=
  match encoded.find "check_state" with
  | none => .ok .none
  | some state => do
    let value ← require (place ++ text ".check_state must be a string") (WidgetEvent.asString state)
    require (place ++ text ".check_state has invalid value " ++ quoted value)
      (treeCheckStateFromWireValue value)

def decodeTreeItem (items : List TreeItem) (encoded : Value) : Except Bytes TreeItem := do
  let place := element (text "tree_items") items.length
  let encoded ← require (place ++ text " must be an object") (asObject encoded)
  let id ← require (place ++ text ".id must be a string") (WidgetEvent.getString "id" encoded)
  refuse (id = []) (place ++ text ".id must not be empty")
  -- `items` are the ones decoded so far
  refuse (∃ item ∈ items, item.id = id) (text "tree_items contains duplicate id " ++ quoted id)
  let parentId ← require (place ++ text ".parent_id must be a string")
    (WidgetEvent.getString "parent_id" encoded)
  -- that the parent is there is looked at when all are read
  refuse (parentId = id) (text "tree item " ++ quoted id ++ text " must not be its own parent")
  let encodedCells ← require (place ++ text ".cells must be an array")
    ((encoded.find "cells").bind asArray)
  let cells ← decodeOnto (decodeTreeCell place) [] encodedCells
  let enabled ← require (place ++ text ".enabled must be a boolean")
    (decodeOptionalBool "enabled" true encoded)
  let selectable ← require (place ++ text ".selectable must be a boolean")
    (decodeOptionalBool "selectable" true encoded)
  let mayHaveChildren ← require (place ++ text ".may_have_children must be a boolean")
    (decodeOptionalBool "may_have_children" false encoded)
  let checkState ← decodeCheckState place encoded
  .ok { id, parentId, cells, enabled, selectable, checkState, mayHaveChildren }

/-- Whether the parent that an item names is none of the items. -/
def parentMissing (items : List TreeItem) (item : TreeItem) : Bool :=
  decide (item.parentId ≠ []) && !items.any fun other => other.id = item.parentId

/-- The place of the parent of an item. -/
def parentIndex (items : List TreeItem) (index : Nat) : Option Nat :=
  items[index]?.bind fun item =>
    if item.parentId = [] then none else items.findIdx? fun other => other.id = item.parentId

def decodeTreeItems (encoded : Value) : Except Bytes (List TreeItem) := do
  let encodedItems ← require (text "tree_items must be an array") (asArray encoded)
  let items ← decodeOnto decodeTreeItem [] encodedItems
  match items.find? (parentMissing items) with
  | some item =>
    .error (text "tree item " ++ quoted item.id ++ text " references missing parent " ++
      quoted item.parentId)
  | none =>
    match findCycle (parentIndex items) items.length with
    | some index =>
      .error (text "tree_items contains a parent cycle involving " ++
        quoted ((items[index]?.map TreeItem.id).getD []))
    | none => .ok items

/-! ### Tables -/

/-- The cells of a row; one that is no text stands empty, so that those behind it keep their
columns. -/
def displayRow : Value → Option (List Bytes)
  | .array cells => some (cells.map fun cell => (WidgetEvent.asString cell).getD [])
  | _ => none

/-- The keys of a column, where they are as many as the rows. -/
def addColumn (rowCount : Nat) (columns : KeyColumns) (member : Bytes × Value) : KeyColumns :=
  match columnIndex member.1, member.2 with
  | some column, .array values =>
    if values.length = rowCount then columns.emplace column (values.map numericFromJson) else
      columns
  | _, _ => columns

structure CellUpdate where
  row : Int32 := 0
  col : Int32 := 0
  text : Bytes
  value : Option NumericValue
  deriving DecidableEq

structure TableDeltaView where
  seq : UInt64 := 0
  append : List (List Bytes) := []
  appendValues : KeyColumns := []
  updateCells : List CellUpdate := []
  removeRows : List Int32 := []
  deriving DecidableEq

/-- A member of a delta; where it is missing the default stands. -/
def optionalMember {α : Type} (key : String) (default : α) (decode : Value → Option α)
    (object : Value) : Option α :=
  match object.find key with
  | none => some default
  | some value => decode value

def decodeRows : Value → Option (List (List Bytes))
  | .array rows => rows.mapM WidgetEvent.decodeStrictStringArray
  | _ => none

/-- A column of the keys of a delta; one that is malformed refuses them all. -/
def addStrictColumn (rowCount : Nat) (columns : KeyColumns) (member : Bytes × Value) :
    Option KeyColumns := do
  let column ← columnIndex member.1
  let values ← asArray member.2
  if values.length = rowCount then
    let keys ← values.mapM decodeKey
    some (columns.emplace column keys)
  else none

def decodeAppendValues (rowCount : Nat) : Value → Option KeyColumns
  | .object members => members.foldlM (addStrictColumn rowCount) []
  | _ => none

/-- `is_number_integer`, and not negative as an `int`. -/
def decodeIndex (value : Value) : Option Int32 :=
  (WidgetEvent.asWrappedInt value).filter fun index => 0 ≤ index

def decodeCellUpdate : Value → Option CellUpdate
  | .array [row, col, .string text] => do
    let row ← decodeIndex row
    let col ← decodeIndex col
    some { row, col, text, value := none }
  | .array [row, col, .string text, value] => do
    let row ← decodeIndex row
    let col ← decodeIndex col
    let value ← decodeKey value
    some { row, col, text, value }
  | _ => none

def decodeCellUpdates : Value → Option (List CellUpdate)
  | .array updates => updates.mapM decodeCellUpdate
  | _ => none

/-- `std::unique` -/
def unique : List Int32 → List Int32
  | [] => []
  | [row] => [row]
  | row :: next :: rows =>
    if row = next then unique (next :: rows) else row :: unique (next :: rows)

/-- Greatest first, each once: a row that is removed moves none that still is to be removed. -/
def descending (rows : List Int32) : List Int32 :=
  unique (rows.mergeSort fun a b => decide (b ≤ a))

def decodeRemoveRows : Value → Option (List Int32)
  | .array rows => (rows.mapM decodeIndex).map descending
  | _ => none

/-! ### Charts, scenes and sliders -/

structure ChartSeriesView where
  label : Bytes := []
  points : List (F64 × F64) := []
  color : Bytes := []
  dashed : Bool := false
  deriving DecidableEq

def decodePoint : Value → Option (F64 × F64)
  | .array [x, y] => do
    let x ← WidgetEvent.asDouble x
    let y ← WidgetEvent.asDouble y
    some (x, y)
  | _ => none

/-- A member that is missing or of another type keeps its default. -/
def decodeSeries : Value → Option ChartSeriesView
  | .object members =>
    let series := Value.object members
    some
      { label := (WidgetEvent.getString "label" series).getD []
        points := (((series.find "points").bind asArray).getD []).filterMap decodePoint
        color := (WidgetEvent.getString "color" series).getD []
        dashed := (WidgetEvent.getBool "dashed" series).getD false }
  | _ => none

def decodeSceneTopic (entry : Value) : Except Bytes SceneTopic := do
  let topic ← require (text "scene_view topic entries need a non-empty string topic")
    (WidgetEvent.nonEmptyString "topic" entry)
  let dataset ← require (text "scene_view topic dataset must be a string")
    (WidgetEvent.optionalString "dataset" entry)
  .ok { topic, dataset }

def decodeSceneView : Value → Except Bytes SceneView
  | .null => .ok {}
  | value => do
    let kind ← require (text "scene_view must be an object with a non-empty string kind")
      (WidgetEvent.nonEmptyString "kind" value)
    match value.find "topics" with
    | none => .ok { kind }
    | some encoded => do
      let entries ← require (text "scene_view topics must be an array") (asArray encoded)
      let topics ← entries.mapM decodeSceneTopic
      .ok { kind, topics }

def decodeMarker (marker : Value) : Option RangeSliderMarker := do
  let start ← (marker.find "start").bind WidgetEvent.asWrappedInt
  some
    { start
      stop := ((marker.find "end").bind WidgetEvent.asWrappedInt).getD start
      label := (WidgetEvent.getString "label" marker).getD [] }

/-! ### File pickers -/

def decodePattern (place : Bytes) (patterns : List Bytes) (encoded : Value) : Except Bytes Bytes :=
  require (element (place ++ text ".patterns") patterns.length ++
    text " must be a non-empty string")
    ((WidgetEvent.asString encoded).filter fun pattern => !pattern.isEmpty)

def decodeFilter (filters : List FilePickerFilter) (encoded : Value) :
    Except Bytes FilePickerFilter := do
  let place := element (text "file_picker.filters") filters.length
  let encoded ← require (place ++ text " must be an object") (asObject encoded)
  let id ← require (place ++ text ".id and .label must be strings")
    (WidgetEvent.getString "id" encoded)
  let label ← require (place ++ text ".id and .label must be strings")
    (WidgetEvent.getString "label" encoded)
  refuse (id = []) (place ++ text ".id must not be empty")
  refuse (∃ filter ∈ filters, filter.id = id)
    (text "file_picker.filters contains duplicate id " ++ quoted id)
  -- a filter without patterns would match nothing
  let encodedPatterns ← require (place ++ text ".patterns must be a non-empty array")
    (((encoded.find "patterns").bind asArray).filter fun values => !values.isEmpty)
  let patterns ← decodeOnto (decodePattern place) [] encodedPatterns
  .ok { id, label, patterns }

/-- A text that has to be there, `decodeRequiredString`; all of a picker share one error. -/
def pickerString (key : String) (picker : Value) : Except Bytes Bytes :=
  require (text "file_picker string fields must all be present and strings")
    (WidgetEvent.getString key picker)

def decodeFilePicker (encoded : Value) : Except Bytes FilePickerOptions := do
  let picker ← require (text "file_picker must be an object") (asObject encoded)
  -- the mode comes first: whatever else is wrong, its error is the one reported
  let modeText ← require (text "file_picker.mode must be a string")
    (WidgetEvent.getString "mode" picker)
  let mode ← require (text "file_picker.mode has invalid value " ++ quoted modeText)
    (filePickerModeFromWireValue modeText)
  let title ← pickerString "title" picker
  let acceptLabel ← pickerString "accept_label" picker
  let initialDirectory ← pickerString "initial_directory" picker
  let suggestedName ← pickerString "suggested_name" picker
  let defaultSuffix ← pickerString "default_suffix" picker
  let initiallySelectedFilterId ← pickerString "initially_selected_filter_id" picker
  let confirmOverwrite ← require (text "file_picker.confirm_overwrite must be a boolean")
    (WidgetEvent.getBool "confirm_overwrite" picker)
  let encodedFilters ← require (text "file_picker.filters must be an array")
    ((picker.find "filters").bind asArray)
  let filters ← decodeOnto decodeFilter [] encodedFilters
  -- no filter need be selected
  refuse (initiallySelectedFilterId ≠ [] ∧
    ∀ filter ∈ filters, filter.id ≠ initiallySelectedFilterId)
    (text "file_picker.initially_selected_filter_id references missing filter " ++
      quoted initiallySelectedFilterId)
  .ok
    { mode, title, acceptLabel, initialDirectory, suggestedName, defaultSuffix, filters,
      initiallySelectedFilterId, confirmOverwrite }

/-! ## The readers -/

inductive TreeVisibilityMode where
  | filter
  | reset
  deriving DecidableEq

structure TreeVisibilityUpdate where
  mode : TreeVisibilityMode := .filter
  ids : List Bytes := []
  deriving DecidableEq

namespace WidgetDataView

def ofJson (parse : Bytes → Option Value) (json : Bytes) : WidgetDataView where
  data := (parse json).getD (.object [])

/-- The object of a widget. -/
def widget (view : WidgetDataView) (name : Bytes) : Option Value :=
  match view.data with
  | .object entries => (entries.lookup name).bind asObject
  | _ => none

/-- A member of the object of a widget. -/
def member (view : WidgetDataView) (name : Bytes) (key : String) : Option Value :=
  (view.widget name).bind (Value.find key)

variable (view : WidgetDataView) (name : Bytes)

def getString (key : String) : Option Bytes := (view.member name key).bind WidgetEvent.asString

def getStrictStringArray (key : String) : Option (List Bytes) :=
  (view.member name key).bind WidgetEvent.decodeStrictStringArray

/-- The items of a tree, or why they are refused. -/
def treeItems : Except Bytes (Option (List TreeItem)) :=
  match view.member name "tree_items" with
  | none => .ok none
  | some encoded => (decodeTreeItems encoded).map some

def treeSelectedIds : Option (List Bytes) := view.getStrictStringArray name "tree_selected_ids"

def treeExpandedIds : Option (List Bytes) := view.getStrictStringArray name "tree_expanded_ids"

def treeVisibilityUpdate : Option TreeVisibilityUpdate :=
  match view.member name "tree_visible_ids" with
  | some .null => some { mode := .reset }
  | some encoded => (WidgetEvent.decodeStrictStringArray encoded).map fun ids => { ids }
  | none => none

def tableRows : Option (List (List Bytes)) :=
  ((view.member name "rows").bind asArray).bind (List.mapM displayRow)

def tableColumnValues : KeyColumns :=
  let rowCount := (((view.member name "rows").bind asArray).getD []).length
  match view.member name "column_values" with
  | some (.object members) => members.foldl (addColumn rowCount) []
  | _ => []

def tableDeltaSeq : Option UInt64 :=
  match (view.member name "table_delta").bind (Value.find "seq") with
  | some (.unsigned seq) => some seq
  | _ => none

def tableDelta : Option TableDeltaView := do
  let seq ← view.tableDeltaSeq name
  let delta ← view.member name "table_delta"
  let append ← optionalMember "append" [] decodeRows delta
  let appendValues ← optionalMember "append_values" [] (decodeAppendValues append.length) delta
  let updateCells ← optionalMember "update_cells" [] decodeCellUpdates delta
  let removeRows ← optionalMember "remove_rows" [] decodeRemoveRows delta
  some { seq, append, appendValues, updateCells, removeRows }

def chartSeries : Option (List ChartSeriesView) :=
  ((view.member name "chart_series").bind asArray).map (List.filterMap decodeSeries)

/-- The scene of a frame: nothing to change, a view (the empty one removes it), or why the
document is refused. -/
def sceneView : Option (Except Bytes SceneView) :=
  (view.member name "scene_view").map decodeSceneView

/-- The member alone claims the channel, also where its value is malformed. -/
def isStructuredFilePicker : Bool := (view.member name "file_picker").isSome

/-- The options of a structured picker, or why they are refused. -/
def filePickerOptions : Except Bytes (Option FilePickerOptions) :=
  match view.member name "file_picker" with
  | none => .ok none
  | some encoded => (decodeFilePicker encoded).map some

/-- The action of a legacy picker. -/
def hasAction (action : String) : Bool := decide (view.getString name "action" = some (text action))

def isFilePicker : Bool := view.hasAction name "file_picker"

def isSaveFilePicker : Bool := view.hasAction name "save_file_picker"

def isFolderPicker : Bool := view.hasAction name "folder_picker"

def saveFilePickerDefaultSuffix : Option Bytes := view.getString name "default_suffix"

def filePickerFilter : Option Bytes := view.getString name "filter"

def filePickerTitle : Option Bytes := view.getString name "title"

def folderPickerTitle : Option Bytes := view.getString name "title"

/-- A pair of nanosecond texts. -/
def timeSpan (minKey maxKey : String) : Option (Int64 × Int64) := do
  let minText ← view.getString name minKey
  let maxText ← view.getString name maxKey
  let minNs ← parseInteger (-2 ^ 63) (2 ^ 63 - 1) minText
  let maxNs ← parseInteger (-2 ^ 63) (2 ^ 63 - 1) maxText
  some (.ofInt minNs, .ofInt maxNs)

def rangeSliderTimeSpan : Option (Int64 × Int64) :=
  view.timeSpan name "range_time_min_ns" "range_time_max_ns"

def rangeSliderMarkers : Option (List RangeSliderMarker) :=
  ((view.member name "range_markers").bind asArray).map (List.filterMap decodeMarker)

def markerTimelineMarks : Except JsonError (Option (List TimelineMark)) :=
  match view.member name "marker_timeline_marks" with
  | some (.array marks) => (marks.mapM WidgetEvent.timelineMarkFromJson).map some
  | _ => .ok none

def markerTimelineTimeSpan : Option (Int64 × Int64) :=
  view.timeSpan name "marker_timeline_time_min_ns" "marker_timeline_time_max_ns"

end WidgetDataView

end Dialog

end PlotJugglerSdk
