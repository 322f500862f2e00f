import PlotJugglerSdk.Builtin.DoubleArithmetic
import PlotJugglerSdk.Json.Documents

/-!
# Reading dialog events

An event is a flat JSON object, and its keys say what kind it is. The getters of
`WidgetEvent` read it defensively; `dispatch` tries the structured channels first
and then the legacy channels in their order, and calls one typed callback at most.

* `WidgetEvent.…`            — the getters
* `Channel`, `legacyChannels` — a getter and the callback it feeds
* `dispatch`                 — `DialogPluginTyped::onWidgetEvent` on the parsed text
-/

namespace PlotJugglerSdk

namespace Dialog

open Wire Json

/-! ## What events carry -/

inductive FilePickerMode where
  | openFile
  | openFiles
  | saveFile
  | selectDirectory
  deriving DecidableEq

def FilePickerMode.wireValue : FilePickerMode → String
  | openFile => "open_file"
  | openFiles => "open_files"
  | saveFile => "save_file"
  | selectDirectory => "select_directory"

def filePickerModeFromWireValue (value : Bytes) : Option FilePickerMode :=
  if value = text "open_file" then some .openFile
  else if value = text "open_files" then some .openFiles
  else if value = text "save_file" then some .saveFile
  else if value = text "select_directory" then some .selectDirectory
  else none

inductive FilePickerStatus where
  | selected
  | cancelled
  | unsupported
  | error
  deriving DecidableEq

def FilePickerStatus.wireValue : FilePickerStatus → String
  | selected => "selected"
  | cancelled => "cancelled"
  | unsupported => "unsupported"
  | error => "error"

def filePickerStatusFromWireValue (value : Bytes) : Option FilePickerStatus :=
  if value = text "selected" then some .selected
  else if value = text "cancelled" then some .cancelled
  else if value = text "unsupported" then some .unsupported
  else if value = text "error" then some .error
  else none

structure FilePickerResult where
  status : FilePickerStatus := .cancelled
  mode : FilePickerMode := .openFile
  paths : List Bytes := []
  displayNames : List Bytes := []
  selectedFilterId : Bytes := []
  error : Bytes := []
  deriving DecidableEq

/-- The key and the path of the legacy selection beside a valid `selected` result. -/
def filePickerLegacySelection (result : FilePickerResult) : Option (String × Bytes) :=
  match result.status, result.paths with
  | .selected, path :: paths =>
    if (path :: paths).any List.isEmpty then none
    else
      some (if result.mode = .selectDirectory then "folder_selected" else "file_selected", path)
  | _, _ => none

inductive TreeCheckState where
  | none
  | unchecked
  | partiallyChecked
  | checked
  deriving DecidableEq

def treeCheckStateWireValue : TreeCheckState → String
  | .none => "none"
  | .unchecked => "unchecked"
  | .partiallyChecked => "partially_checked"
  | .checked => "checked"

def treeCheckStateFromWireValue (value : Bytes) : Option TreeCheckState :=
  if value = text "none" then some .none
  else if value = text "unchecked" then some .unchecked
  else if value = text "partially_checked" then some .partiallyChecked
  else if value = text "checked" then some .checked
  else Option.none

structure SceneViewError where
  kind : Bytes := []
  topic : Bytes := []
  dataset : Bytes := []
  reason : Bytes := []
  deriving DecidableEq

structure TimelineMark where
  id : Int32 := 0
  region : Bool := true
  start : Int32 := 0
  stop : Int32 := 0
  deriving DecidableEq

structure DroppedItem where
  name : Bytes
  dataSourceId : UInt32 := 0
  deriving DecidableEq

/-- The typed callbacks, each with its arguments. -/
inductive Callback where
  | onTextChanged (text : Bytes)
  | onIndexChanged (index : Int32)
  | onToggled (checked : Bool)
  | onValueChanged (value : Int32)
  | onValueChangedDouble (value : F64)
  | onSelectionChanged (selected : List Bytes)
  | onClicked
  | onFileSelected (path : Bytes)
  | onFolderSelected (path : Bytes)
  | onTabChanged (index : Int32)
  | onItemDoubleClicked (index : Int32)
  | onItemDeleteRequested (index : Int32)
  | onItemContextAction (index : Int32) (actionId : Bytes)
  | onHeaderClicked (sectionIndex : Int32)
  | onTableRadioSelected (row : Int32)
  | onCodeChangedWithCursor (code : Bytes) (cursor : Int32)
  | onDroppedItems (items : List DroppedItem)
  | onChartViewChanged (xMin xMax yMin yMax : F64)
  | onRangeChanged (lower upper : Int32)
  | onMarkerTimelineChanged (marks : List TimelineMark)
  | onDateRangeChanged (fromIso toIso : Bytes)
  | onDateTimeChanged (iso8601 : Bytes)
  | onStackedPageChanged (index : Int32) (pageObjectName : Bytes)
  | onTreeSelectionChanged (ids : List Bytes)
  | onTreeItemActivated (id : Bytes) (column : Int32)
  | onTreeExpansionChanged (id : Bytes) (expanded : Bool)
  | onTreeCheckStateChanged (id : Bytes) (state : TreeCheckState)
  | onFilePickerResult (result : FilePickerResult)
  | onSceneViewError (error : SceneViewError)
  deriving DecidableEq

/-- The exceptions of the JSON library, by their number. -/
inductive JsonError where
  | typeError (id : Nat)
  deriving DecidableEq

/-! ## The getters -/

namespace WidgetEvent

def asString : Value → Option Bytes
  | .string value => some value
  | _ => none

def asBool : Value → Option Bool
  | .boolean value => some value
  | _ => none

/-- `is_number`, then `get<double>`. -/
def asDouble : Value → Option F64
  | .float bits => some bits
  | .unsigned value => some (.ofInt value.toNat)
  | .integer value => some (.ofInt value.toInt)
  | _ => none

/-- `is_number_integer`, then `get<int>`, which wraps around. -/
def asWrappedInt : Value → Option Int32
  | .unsigned value => some value.toUInt32.toInt32
  | .integer value => some value.toInt32
  | _ => none

def decodeInt : Value → Option Int32
  | .unsigned value => if value > 0x7FFFFFFF then none else some value.toUInt32.toInt32
  | .integer value =>
    if value < -0x80000000 || value > 0x7FFFFFFF then none else some value.toInt32
  | _ => none

def decodeStrictStringArray : Value → Option (List Bytes)
  | .array values => values.mapM asString
  | _ => none

/-- The texts of an array; what is no text is skipped. -/
def decodeStringArray : Value → Option (List Bytes)
  | .array values => some (values.filterMap asString)
  | _ => none

def getString (key : String) (event : Value) : Option Bytes := (event.find key).bind asString

def getInt (key : String) (event : Value) : Option Int32 := (event.find key).bind decodeInt

def getBool (key : String) (event : Value) : Option Bool := (event.find key).bind asBool

def valueDouble (event : Value) : Option F64 := (event.find "value").bind asDouble

def selectedItems (event : Value) : Option (List Bytes) :=
  (event.find "selected_items").bind decodeStringArray

def clicked (event : Value) : Option Unit :=
  if getBool "clicked" event = some true then some () else none

/-- One text member of a scene-view error; the default stands when it is missing. -/
def optionalString (key : String) (object : Value) : Option Bytes :=
  match object.find key with
  | none => some []
  | some value => asString value

def optionalStringArray (key : String) (object : Value) : Option (List Bytes) :=
  match object.find key with
  | none => some []
  | some value => decodeStrictStringArray value

def sceneViewError (event : Value) : Option SceneViewError := do
  let object ← event.find "scene_view_error"
  if object matches .object _ then
    let kind ← optionalString "kind" object
    let topic ← optionalString "topic" object
    let dataset ← optionalString "dataset" object
    let reason ← optionalString "reason" object
    if reason = [] then none else some { kind, topic, dataset, reason }
  else none

def filePickerResult (event : Value) : Option FilePickerResult := do
  let object ← event.find "file_picker_result"
  if object matches .object _ then
    let status ← (getString "status" object).bind filePickerStatusFromWireValue
    let mode ← (getString "mode" object).bind filePickerModeFromWireValue
    let paths ← (object.find "paths").bind decodeStrictStringArray
    if paths.any List.isEmpty || (status = .selected && paths.isEmpty) then none
    else
      let displayNames ← optionalStringArray "display_names" object
      let selectedFilterId ← optionalString "selected_filter_id" object
      let error ← optionalString "error" object
      some { status, mode, paths, displayNames, selectedFilterId, error }
  else none

def nonEmptyString (key : String) (object : Value) : Option Bytes :=
  (getString key object).filter fun value => !value.isEmpty

def nonNegativeInt (key : String) (object : Value) : Option Int32 :=
  (getInt key object).filter fun value => 0 ≤ value

def treeSelectionChanged (event : Value) : Option (List Bytes) :=
  ((event.find "tree_selection_changed").bind decodeStrictStringArray).filter fun ids =>
    !ids.any List.isEmpty

def treeItemActivated (event : Value) : Option (Bytes × Int32) := do
  let object ← event.find "tree_item_activated"
  let id ← nonEmptyString "id" object
  let column ← nonNegativeInt "column" object
  some (id, column)

def treeExpansionChanged (event : Value) : Option (Bytes × Bool) := do
  let object ← event.find "tree_expansion_changed"
  let id ← nonEmptyString "id" object
  let expanded ← getBool "expanded" object
  some (id, expanded)

def treeCheckStateChanged (event : Value) : Option (Bytes × TreeCheckState) := do
  let object ← event.find "tree_check_state_changed"
  let id ← nonEmptyString "id" object
  let state ← (getString "state" object).bind treeCheckStateFromWireValue
  some (id, state)

def itemContextAction (event : Value) : Option (Int32 × Bytes) := do
  let object ← event.find "item_context_action"
  let action ← nonEmptyString "action" object
  let index ← nonNegativeInt "index" object
  some (index, action)

def codeCursor (event : Value) : Option Int32 := (event.find "code_cursor").bind asWrappedInt

def itemsDropped (event : Value) : Option (List Bytes) :=
  (event.find "items_dropped").bind decodeStringArray

/-- What is no 32-bit id counts as unknown, so the list stays aligned. -/
def decodeDataSource : Value → UInt32
  | .unsigned value => if value ≤ 0xFFFFFFFF then value.toUInt32 else 0
  | _ => 0

def itemsDroppedDataSources (event : Value) : List UInt32 :=
  match event.find "items_dropped_data_sources" with
  | some (.array values) => values.map decodeDataSource
  | _ => []

def dateRangeChanged (event : Value) : Option (Bytes × Bytes) := do
  let fromIso ← getString "date_from_iso" event
  let toIso ← getString "date_to_iso" event
  some (fromIso, toIso)

def rangeChanged (event : Value) : Option (Int32 × Int32) := do
  let lower ← (event.find "range_lower").bind asWrappedInt
  let upper ← (event.find "range_upper").bind asWrappedInt
  some (lower, upper)

def chartViewChanged (event : Value) : Option (F64 × F64 × F64 × F64) := do
  let xMin ← (event.find "chart_x_min").bind asDouble
  let xMax ← (event.find "chart_x_max").bind asDouble
  let yMin ← (event.find "chart_y_min").bind asDouble
  let yMax ← (event.find "chart_y_max").bind asDouble
  some (xMin, xMax, yMin, yMax)

/-- `value(key, default)` of an object, for `int`: any number or boolean will do. -/
def intValue (key : String) (default : Int32) : Value → Except JsonError Int32
  | .object members =>
    match (Value.object members).find key with
    | none => .ok default
    | some (.unsigned value) => .ok value.toUInt32.toInt32
    | some (.integer value) => .ok value.toInt32
    | some (.float bits) => .ok (F64.truncate bits)
    | some (.boolean value) => .ok (if value then 1 else 0)
    | some _ => .error (.typeError 302)
  | _ => .error (.typeError 306)

def boolValue (key : String) (default : Bool) : Value → Except JsonError Bool
  | .object members =>
    match (Value.object members).find key with
    | none => .ok default
    | some (.boolean value) => .ok value
    | some _ => .error (.typeError 302)
  | _ => .error (.typeError 306)

def timelineMarkFromJson (value : Value) : Except JsonError TimelineMark := do
  let id ← intValue "id" 0 value
  let region ← boolValue "region" true value
  let start ← intValue "start" 0 value
  let stop ← intValue "end" 0 value
  .ok { id, region, start, stop }

def markerTimelineChanged (event : Value) : Except JsonError (Option (List TimelineMark)) :=
  match event.find "marker_timeline_marks" with
  | some (.array values) => (values.mapM timelineMarkFromJson).map some
  | _ => .ok none

end WidgetEvent

/-! ## Keys that are not there -/

section Absent

variable {key : String} {event : Value}

theorem find_none (h : event.contains key = false) : event.find key = none :=
  Option.isNone_iff_eq_none.mp (by
    rw [← Option.not_isSome]
    exact congrArg Bool.not h)

theorem getString_none (h : event.contains key = false) :
    WidgetEvent.getString key event = none := by
  unfold WidgetEvent.getString
  rw [find_none h]
  rfl

theorem getInt_none (h : event.contains key = false) : WidgetEvent.getInt key event = none := by
  unfold WidgetEvent.getInt
  rw [find_none h]
  rfl

theorem getBool_none (h : event.contains key = false) : WidgetEvent.getBool key event = none := by
  unfold WidgetEvent.getBool
  rw [find_none h]
  rfl

end Absent

/-! ## Dispatch -/

/-- A getter with the callback it feeds, and a key without which it reads nothing. -/
structure Channel where
  key : String
  read : Value → Except JsonError (Option Callback)
  absent : ∀ event, event.contains key = false → read event = .ok none

/-- A channel that cannot throw. -/
def Channel.of {α : Type} (key : String) (get : Value → Option α) (call : α → Callback)
    (absent : ∀ event, event.contains key = false → get event = none) : Channel where
  key := key
  read event := .ok ((get event).map call)
  absent event h := by
    rw [absent event h]
    rfl

/-- The items of a drop, each with the source at its place. -/
def droppedItems (names : List Bytes) (dataSources : List UInt32) : List DroppedItem :=
  names.mapIdx fun index name => { name, dataSourceId := dataSources[index]?.getD 0 }

/-- The channels below the structured ones, in the order they are tried. -/
def legacyChannels : List Channel :=
  [ .of "item_context_action" WidgetEvent.itemContextAction
      (fun (index, action) => .onItemContextAction index action)
      fun event h => by rw [WidgetEvent.itemContextAction, find_none h]; rfl,
    .of "chart_x_min" WidgetEvent.chartViewChanged
      (fun (xMin, xMax, yMin, yMax) => .onChartViewChanged xMin xMax yMin yMax)
      fun event h => by rw [WidgetEvent.chartViewChanged, find_none h]; rfl,
    .of "range_lower" WidgetEvent.rangeChanged (fun (lower, upper) => .onRangeChanged lower upper)
      fun event h => by rw [WidgetEvent.rangeChanged, find_none h]; rfl,
    { key := "marker_timeline_marks"
      read := fun event =>
        (WidgetEvent.markerTimelineChanged event).map (Option.map .onMarkerTimelineChanged)
      absent := fun event h => by rw [WidgetEvent.markerTimelineChanged, find_none h]; rfl },
    .of "date_from_iso" WidgetEvent.dateRangeChanged
      (fun (fromIso, toIso) => .onDateRangeChanged fromIso toIso)
      fun event h => by rw [WidgetEvent.dateRangeChanged, getString_none h]; rfl,
    .of "datetime_iso" (WidgetEvent.getString "datetime_iso") .onDateTimeChanged
      fun _ => getString_none,
    .of "items_dropped"
      (fun event => (WidgetEvent.itemsDropped event).map fun names =>
        droppedItems names (WidgetEvent.itemsDroppedDataSources event))
      .onDroppedItems
      fun event h => by rw [WidgetEvent.itemsDropped, find_none h]; rfl,
    .of "code_changed"
      (fun event => (WidgetEvent.getString "code_changed" event).map fun code =>
        (code, (WidgetEvent.codeCursor event).getD (-1)))
      (fun (code, cursor) => .onCodeChangedWithCursor code cursor)
      fun event h => by rw [getString_none h]; rfl,
    .of "text" (WidgetEvent.getString "text") .onTextChanged fun _ => getString_none,
    .of "current_index" (WidgetEvent.getInt "current_index") .onIndexChanged fun _ => getInt_none,
    .of "checked" (WidgetEvent.getBool "checked") .onToggled fun _ => getBool_none,
    .of "file_selected" (WidgetEvent.getString "file_selected") .onFileSelected
      fun _ => getString_none,
    .of "folder_selected" (WidgetEvent.getString "folder_selected") .onFolderSelected
      fun _ => getString_none,
    .of "clicked" WidgetEvent.clicked (fun _ => .onClicked)
      fun event h => by rw [WidgetEvent.clicked, getBool_none h]; rfl,
    .of "selected_items" WidgetEvent.selectedItems .onSelectionChanged
      fun event h => by rw [WidgetEvent.selectedItems, find_none h]; rfl,
    .of "tab_index" (WidgetEvent.getInt "tab_index") .onTabChanged fun _ => getInt_none,
    .of "item_double_clicked_index" (WidgetEvent.getInt "item_double_clicked_index")
      .onItemDoubleClicked fun _ => getInt_none,
    .of "item_delete_index" (WidgetEvent.getInt "item_delete_index") .onItemDeleteRequested
      fun _ => getInt_none,
    .of "header_section" (WidgetEvent.getInt "header_section") .onHeaderClicked
      fun _ => getInt_none,
    .of "table_radio_row" (WidgetEvent.getInt "table_radio_row") .onTableRadioSelected
      fun _ => getInt_none,
    .of "value" (WidgetEvent.getInt "value") .onValueChanged fun _ => getInt_none,
    .of "value" WidgetEvent.valueDouble .onValueChangedDouble
      fun event h => by rw [WidgetEvent.valueDouble, find_none h]; rfl ]

/-- The callback of the first channel that reads something. -/
def firstOf : List Channel → Value → Except JsonError (Option Callback)
  | [], _ => .ok none
  | channel :: channels, event =>
    match channel.read event with
    | .error e => .error e
    | .ok (some callback) => .ok (some callback)
    | .ok none => firstOf channels event

/-- The structured picker: a legacy key beside it must agree with it. -/
def pickerChannel (event : Value) : Option Callback := do
  let result ← WidgetEvent.filePickerResult event
  let hasFile := event.contains "file_selected"
  let hasFolder := event.contains "folder_selected"
  if result.status = .selected then
    let (key, path) ← filePickerLegacySelection result
    -- the legacy keys exclude each other
    if hasFile && hasFolder then none
    else if hasFile || hasFolder then
      let expectsFolder := key = "folder_selected"
      if hasFolder ≠ expectsFolder then none
      else
        let compatibilityPath :=
          WidgetEvent.getString (if expectsFolder then "folder_selected" else "file_selected") event
        if compatibilityPath = some path then some (.onFilePickerResult result) else none
    else some (.onFilePickerResult result)
  -- nothing was selected, so nothing may stand under them
  else if hasFile || hasFolder then none
  else some (.onFilePickerResult result)

def treeKeys : List String :=
  ["tree_selection_changed", "tree_item_activated", "tree_expansion_changed",
    "tree_check_state_changed"]

/-- The number of members of an object. -/
def size : Value → Nat
  | .object members => members.length
  | .array values => values.length
  | .null => 0
  | _ => 1

/-- The tree channels, of an event that has one of their keys. -/
def treeChannel (event : Value) : Option Callback :=
  if treeKeys.countP event.contains ≠ 1 || size event ≠ 1 then none
  else if event.contains "tree_selection_changed" then
    (WidgetEvent.treeSelectionChanged event).map .onTreeSelectionChanged
  else if event.contains "tree_item_activated" then
    (WidgetEvent.treeItemActivated event).map fun (id, column) => .onTreeItemActivated id column
  else if event.contains "tree_expansion_changed" then
    (WidgetEvent.treeExpansionChanged event).map fun (id, expanded) =>
      .onTreeExpansionChanged id expanded
  else
    (WidgetEvent.treeCheckStateChanged event).map fun (id, state) =>
      .onTreeCheckStateChanged id state

def stackedChannel (event : Value) : Option Callback := do
  let index ← WidgetEvent.nonNegativeInt "stacked_index" event
  let page ← WidgetEvent.nonEmptyString "stacked_page" event
  some (.onStackedPageChanged index page)

/-- The one typed callback that is called on a parsed event, if any. -/
def dispatch (event : Value) : Except JsonError (Option Callback) :=
  if event.contains "file_picker_result" then .ok (pickerChannel event)
  else if event.contains "scene_view_error" then
    .ok ((WidgetEvent.sceneViewError event).map .onSceneViewError)
  else if treeKeys.countP event.contains ≠ 0 then .ok (treeChannel event)
  else if event.contains "stacked_index" || event.contains "stacked_page" then
    .ok (stackedChannel event)
  else firstOf legacyChannels event

/-- `onWidgetEvent`: a text that does not parse is an event without keys. -/
def onWidgetEvent (parse : Bytes → Option Value) (eventJson : Bytes) :
    Except JsonError (Option Callback) :=
  dispatch ((parse eventJson).getD (.object []))

end Dialog

end PlotJugglerSdk
