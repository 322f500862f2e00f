import PlotJugglerSdk.Dialog.WidgetEvent

/-!
# Dialog events arrive

The host builds an event, its text travels, and the plugin dispatches what it reads
of it. All kinds of events share one flat object, so a kind is told from the others by
its keys only: no channel before the event's own finds its key there.

* `WidgetEventBuilder.…` — the document of each kind of event
* `Event.callback`       — the call it is to arrive as
* `event_arrives`        — it does
-/

namespace PlotJugglerSdk

namespace Dialog

open Wire Json Value

/-! ## Building -/

def ofInt (value : Int32) : Value := .integer value.toInt64

namespace WidgetEventBuilder

def textChanged (value : Bytes) : Value := fields [("text", .string value)]

def indexChanged (index : Int32) : Value := fields [("current_index", ofInt index)]

def indexTextChanged (index : Int32) (currentText : Bytes) : Value :=
  fields [("current_index", ofInt index), ("current_text", .string currentText)]

def toggled (checked : Bool) : Value := fields [("checked", .boolean checked)]

def valueChanged (value : Int32) : Value := fields [("value", ofInt value)]

def valueChangedDouble (value : F64) : Value := fields [("value", .float value)]

def selectionChanged (selected : List Bytes) : Value :=
  fields [("selected_items", strings selected)]

def clicked : Value := fields [("clicked", .boolean true)]

def fileSelected (path : Bytes) : Value := fields [("file_selected", .string path)]

def folderSelected (path : Bytes) : Value := fields [("folder_selected", .string path)]

def filePickerMembers (result : FilePickerResult) : List (String × Value) :=
  [("status", .string (text result.status.wireValue)),
    ("mode", .string (text result.mode.wireValue)), ("paths", strings result.paths),
    ("display_names", strings result.displayNames),
    ("selected_filter_id", .string result.selectedFilterId), ("error", .string result.error)]

/-- A selection is repeated under its legacy key. -/
def filePickerResult (result : FilePickerResult) : Value :=
  let document := fields (filePickerMembers result)
  match filePickerLegacySelection result with
  | some (key, path) => fields [("file_picker_result", document), (key, .string path)]
  | none => fields [("file_picker_result", document)]

def sceneViewError (error : SceneViewError) : Value :=
  fields
    [("scene_view_error",
      fields
        [("kind", .string error.kind), ("topic", .string error.topic),
          ("dataset", .string error.dataset), ("reason", .string error.reason)])]

def tabChanged (index : Int32) : Value := fields [("tab_index", ofInt index)]

def stackedPageChanged (index : Int32) (pageObjectName : Bytes) : Value :=
  fields [("stacked_index", ofInt index), ("stacked_page", .string pageObjectName)]

def treeSelectionChanged (ids : List Bytes) : Value :=
  fields [("tree_selection_changed", strings ids)]

def treeItemActivated (id : Bytes) (column : Int32) : Value :=
  fields [("tree_item_activated", fields [("id", .string id), ("column", ofInt column)])]

def treeExpansionChanged (id : Bytes) (expanded : Bool) : Value :=
  fields [("tree_expansion_changed", fields [("id", .string id), ("expanded", .boolean expanded)])]

def treeCheckStateChanged (id : Bytes) (state : TreeCheckState) : Value :=
  fields
    [("tree_check_state_changed",
      fields [("id", .string id), ("state", .string (text (treeCheckStateWireValue state)))])]

def itemDoubleClicked (index : Int32) : Value :=
  fields [("item_double_clicked_index", ofInt index)]

def itemDeleteRequested (index : Int32) : Value := fields [("item_delete_index", ofInt index)]

def itemContextAction (index : Int32) (actionId : Bytes) : Value :=
  fields [("item_context_action", fields [("index", ofInt index), ("action", .string actionId)])]

def headerClicked (sectionIndex : Int32) : Value := fields [("header_section", ofInt sectionIndex)]

def tableRadioSelected (row : Int32) : Value := fields [("table_radio_row", ofInt row)]

/-- The cursor is written only when it is known. -/
def codeChanged (code : Bytes) (cursor : Int32) : Value :=
  if 0 ≤ cursor then fields [("code_changed", .string code), ("code_cursor", ofInt cursor)]
  else fields [("code_changed", .string code)]

def itemsDropped (labels : List Bytes) : Value := fields [("items_dropped", strings labels)]

def itemsDroppedFrom (labels : List Bytes) (dataSourceIds : List UInt32) : Value :=
  fields
    [("items_dropped", strings labels),
      ("items_dropped_data_sources", .array (dataSourceIds.map fun id => .unsigned id.toUInt64))]

def dateRangeChanged (fromIso toIso : Bytes) : Value :=
  fields [("date_from_iso", .string fromIso), ("date_to_iso", .string toIso)]

def dateTimeChanged (iso8601 : Bytes) : Value := fields [("datetime_iso", .string iso8601)]

def rangeChanged (lower upper : Int32) : Value :=
  fields [("range_lower", ofInt lower), ("range_upper", ofInt upper)]

def timelineMarkToJson (mark : TimelineMark) : Value :=
  fields
    [("id", ofInt mark.id), ("region", .boolean mark.region), ("start", ofInt mark.start),
      ("end", ofInt mark.stop)]

def markerTimelineChanged (marks : List TimelineMark) : Value :=
  fields [("marker_timeline_marks", .array (marks.map timelineMarkToJson))]

def chartViewChanged (xMin xMax yMin yMax : F64) : Value :=
  fields
    [("chart_x_min", .float xMin), ("chart_x_max", .float xMax), ("chart_y_min", .float yMin),
      ("chart_y_max", .float yMax)]

end WidgetEventBuilder

/-- A call of the builder. -/
inductive Event where
  | textChanged (value : Bytes)
  | indexChanged (index : Int32)
  | indexTextChanged (index : Int32) (currentText : Bytes)
  | toggled (checked : Bool)
  | valueChanged (value : Int32)
  | valueChangedDouble (value : F64)
  | selectionChanged (selected : List Bytes)
  | clicked
  | fileSelected (path : Bytes)
  | folderSelected (path : Bytes)
  | filePickerResult (result : FilePickerResult)
  | sceneViewError (error : SceneViewError)
  | tabChanged (index : Int32)
  | stackedPageChanged (index : Int32) (pageObjectName : Bytes)
  | treeSelectionChanged (ids : List Bytes)
  | treeItemActivated (id : Bytes) (column : Int32)
  | treeExpansionChanged (id : Bytes) (expanded : Bool)
  | treeCheckStateChanged (id : Bytes) (state : TreeCheckState)
  | itemDoubleClicked (index : Int32)
  | itemDeleteRequested (index : Int32)
  | itemContextAction (index : Int32) (actionId : Bytes)
  | headerClicked (sectionIndex : Int32)
  | tableRadioSelected (row : Int32)
  | codeChanged (code : Bytes) (cursor : Int32)
  | itemsDropped (labels : List Bytes)
  | itemsDroppedFrom (labels : List Bytes) (dataSourceIds : List UInt32)
  | dateRangeChanged (fromIso toIso : Bytes)
  | dateTimeChanged (iso8601 : Bytes)
  | rangeChanged (lower upper : Int32)
  | markerTimelineChanged (marks : List TimelineMark)
  | chartViewChanged (xMin xMax yMin yMax : F64)

namespace Event

def build : Event → Value
  | textChanged value => WidgetEventBuilder.textChanged value
  | indexChanged index => WidgetEventBuilder.indexChanged index
  | indexTextChanged index currentText => WidgetEventBuilder.indexTextChanged index currentText
  | toggled checked => WidgetEventBuilder.toggled checked
  | valueChanged value => WidgetEventBuilder.valueChanged value
  | valueChangedDouble value => WidgetEventBuilder.valueChangedDouble value
  | selectionChanged selected => WidgetEventBuilder.selectionChanged selected
  | clicked => WidgetEventBuilder.clicked
  | fileSelected path => WidgetEventBuilder.fileSelected path
  | folderSelected path => WidgetEventBuilder.folderSelected path
  | filePickerResult result => WidgetEventBuilder.filePickerResult result
  | sceneViewError error => WidgetEventBuilder.sceneViewError error
  | tabChanged index => WidgetEventBuilder.tabChanged index
  | stackedPageChanged index pageObjectName =>
    WidgetEventBuilder.stackedPageChanged index pageObjectName
  | treeSelectionChanged ids => WidgetEventBuilder.treeSelectionChanged ids
  | treeItemActivated id column => WidgetEventBuilder.treeItemActivated id column
  | treeExpansionChanged id expanded => WidgetEventBuilder.treeExpansionChanged id expanded
  | treeCheckStateChanged id state => WidgetEventBuilder.treeCheckStateChanged id state
  | itemDoubleClicked index => WidgetEventBuilder.itemDoubleClicked index
  | itemDeleteRequested index => WidgetEventBuilder.itemDeleteRequested index
  | itemContextAction index actionId => WidgetEventBuilder.itemContextAction index actionId
  | headerClicked sectionIndex => WidgetEventBuilder.headerClicked sectionIndex
  | tableRadioSelected row => WidgetEventBuilder.tableRadioSelected row
  | codeChanged code cursor => WidgetEventBuilder.codeChanged code cursor
  | itemsDropped labels => WidgetEventBuilder.itemsDropped labels
  | itemsDroppedFrom labels dataSourceIds =>
    WidgetEventBuilder.itemsDroppedFrom labels dataSourceIds
  | dateRangeChanged fromIso toIso => WidgetEventBuilder.dateRangeChanged fromIso toIso
  | dateTimeChanged iso8601 => WidgetEventBuilder.dateTimeChanged iso8601
  | rangeChanged lower upper => WidgetEventBuilder.rangeChanged lower upper
  | markerTimelineChanged marks => WidgetEventBuilder.markerTimelineChanged marks
  | chartViewChanged xMin xMax yMin yMax =>
    WidgetEventBuilder.chartViewChanged xMin xMax yMin yMax

def AllUtf8 (values : List Bytes) : Prop := ∀ value ∈ values, ValidUtf8 value

/-- The payloads a host sends: UTF-8 texts, finite doubles, and what the reader of the
kind asks for. -/
def Valid : Event → Prop
  | textChanged value => ValidUtf8 value
  | indexChanged _ | toggled _ | valueChanged _ | clicked | tabChanged _ => True
  | indexTextChanged _ currentText => ValidUtf8 currentText
  | valueChangedDouble value => Finite value
  | selectionChanged selected => AllUtf8 selected
  | fileSelected path | folderSelected path => ValidUtf8 path
  | filePickerResult result =>
    AllUtf8 result.paths ∧ AllUtf8 result.displayNames ∧ ValidUtf8 result.selectedFilterId ∧
      ValidUtf8 result.error ∧ (∀ path ∈ result.paths, path ≠ []) ∧
      (result.status = .selected → result.paths ≠ [])
  | sceneViewError error =>
    ValidUtf8 error.kind ∧ ValidUtf8 error.topic ∧ ValidUtf8 error.dataset ∧
      ValidUtf8 error.reason ∧ error.reason ≠ []
  | stackedPageChanged index pageObjectName =>
    0 ≤ index ∧ ValidUtf8 pageObjectName ∧ pageObjectName ≠ []
  | treeSelectionChanged ids => AllUtf8 ids ∧ ∀ id ∈ ids, id ≠ []
  | treeItemActivated id column => ValidUtf8 id ∧ id ≠ [] ∧ 0 ≤ column
  | treeExpansionChanged id _ | treeCheckStateChanged id _ => ValidUtf8 id ∧ id ≠ []
  | itemDoubleClicked _ | itemDeleteRequested _ | headerClicked _ | tableRadioSelected _ => True
  | itemContextAction index actionId => 0 ≤ index ∧ ValidUtf8 actionId ∧ actionId ≠ []
  | codeChanged code _ => ValidUtf8 code
  | itemsDropped labels | itemsDroppedFrom labels _ => AllUtf8 labels
  | dateRangeChanged fromIso toIso => ValidUtf8 fromIso ∧ ValidUtf8 toIso
  | dateTimeChanged iso8601 => ValidUtf8 iso8601
  | rangeChanged _ _ | markerTimelineChanged _ => True
  | chartViewChanged xMin xMax yMin yMax =>
    Finite xMin ∧ Finite xMax ∧ Finite yMin ∧ Finite yMax

/-- The call an event is to arrive as. The current text has no place in its callback, a
cursor that is not known is -1, and a label without a source has source 0. -/
def callback : Event → Callback
  | textChanged value => .onTextChanged value
  | indexChanged index | indexTextChanged index _ => .onIndexChanged index
  | toggled checked => .onToggled checked
  | valueChanged value => .onValueChanged value
  | valueChangedDouble value => .onValueChangedDouble value
  | selectionChanged selected => .onSelectionChanged selected
  | clicked => .onClicked
  | fileSelected path => .onFileSelected path
  | folderSelected path => .onFolderSelected path
  | filePickerResult result => .onFilePickerResult result
  | sceneViewError error => .onSceneViewError error
  | tabChanged index => .onTabChanged index
  | stackedPageChanged index pageObjectName => .onStackedPageChanged index pageObjectName
  | treeSelectionChanged ids => .onTreeSelectionChanged ids
  | treeItemActivated id column => .onTreeItemActivated id column
  | treeExpansionChanged id expanded => .onTreeExpansionChanged id expanded
  | treeCheckStateChanged id state => .onTreeCheckStateChanged id state
  | itemDoubleClicked index => .onItemDoubleClicked index
  | itemDeleteRequested index => .onItemDeleteRequested index
  | itemContextAction index actionId => .onItemContextAction index actionId
  | headerClicked sectionIndex => .onHeaderClicked sectionIndex
  | tableRadioSelected row => .onTableRadioSelected row
  | codeChanged code cursor => .onCodeChangedWithCursor code (if 0 ≤ cursor then cursor else -1)
  | itemsDropped labels => .onDroppedItems (labels.map fun name => { name })
  | itemsDroppedFrom labels dataSourceIds => .onDroppedItems (droppedItems labels dataSourceIds)
  | dateRangeChanged fromIso toIso => .onDateRangeChanged fromIso toIso
  | dateTimeChanged iso8601 => .onDateTimeChanged iso8601
  | rangeChanged lower upper => .onRangeChanged lower upper
  | markerTimelineChanged marks => .onMarkerTimelineChanged marks
  | chartViewChanged xMin xMax yMin yMax => .onChartViewChanged xMin xMax yMin yMax

end Event

/-! ## Integers -/

theorem setWidth_signExtend (value : BitVec 32) :
    BitVec.setWidth 32 (BitVec.signExtend 64 value) = value := by
  apply BitVec.eq_of_getLsbD_eq
  intro i hi
  rw [BitVec.getLsbD_setWidth, BitVec.getLsbD_signExtend]
  simp [hi]
  omega

theorem wrapped_int64 (value : Int32) : value.toInt64.toUInt64.toUInt32.toInt32 = value := by
  apply Int32.toBitVec_inj.mp
  exact setWidth_signExtend _

/-- A 32-bit integer that is not negative is below the bound of the reader. -/
theorem toUInt64_small {value : Int32} (h : 0 ≤ value.toInt64) :
    ¬ value.toInt64.toUInt64 > 0x7FFFFFFF := by
  have hnat : value.toInt64.toUInt64.toNat = value.toInt64.toNatClampNeg :=
    Int64.toNat_toUInt64_of_le h
  have hint : value.toInt64.toInt = value.toInt := Int32.toInt_toInt64 value
  have hlt : value.toInt < 2 ^ 31 := value.toInt_lt
  intro hgt
  have hbig : (0x7FFFFFFF : UInt64).toNat < value.toInt64.toUInt64.toNat := hgt
  rw [hnat, Int64.toNatClampNeg, hint] at hbig
  have hbound : (0x7FFFFFFF : UInt64).toNat = 2147483647 := by decide
  omega

/-- A negative 32-bit integer is inside the bounds of the reader. -/
theorem toInt64_bounds {value : Int32} (h : ¬ 0 ≤ value.toInt64) :
    (value.toInt64 < -0x80000000 || value.toInt64 > 0x7FFFFFFF) = false := by
  have hint : value.toInt64.toInt = value.toInt := Int32.toInt_toInt64 value
  have hle : -2 ^ 31 ≤ value.toInt := value.le_toInt
  have hlow : ¬ value.toInt64 < -0x80000000 := by
    rw [Int64.lt_iff_toInt_lt, hint, show (-0x80000000 : Int64).toInt = -2147483648 by decide]
    omega
  have hhigh : ¬ value.toInt64 > 0x7FFFFFFF := by
    intro hgt
    rw [gt_iff_lt, Int64.lt_iff_toInt_lt, hint,
      show (0x7FFFFFFF : Int64).toInt = 2147483647 by decide] at hgt
    rw [Int64.le_iff_toInt_le, hint, show (0 : Int64).toInt = 0 by decide] at h
    omega
  rw [decide_eq_false hlow, decide_eq_false hhigh]
  rfl

theorem reread_ofInt (value : Int32) :
    (ofInt value).reread =
      if 0 ≤ value.toInt64 then .unsigned value.toInt64.toUInt64 else .integer value.toInt64 := by
  rw [ofInt, reread]

/-- An integer is read as it was written. -/
theorem decodeInt_ofInt (value : Int32) :
    WidgetEvent.decodeInt (ofInt value).reread = some value := by
  rw [reread_ofInt]
  by_cases h : 0 ≤ value.toInt64
  · rw [if_pos h, WidgetEvent.decodeInt, if_neg (toUInt64_small h), wrapped_int64]
  · rw [if_neg h, WidgetEvent.decodeInt, toInt64_bounds h, Int32.toInt32_toInt64]
    rfl

theorem asWrappedInt_ofInt (value : Int32) :
    WidgetEvent.asWrappedInt (ofInt value).reread = some value := by
  rw [reread_ofInt]
  by_cases h : 0 ≤ value.toInt64
  · rw [if_pos h, WidgetEvent.asWrappedInt, wrapped_int64]
  · rw [if_neg h, WidgetEvent.asWrappedInt, Int32.toInt32_toInt64]

/-! ## What is read of a built document -/

theorem find_reread (key : String) (members : List (String × Value)) :
    (fields members).reread.find key = (members.lookup key).map reread := by
  rw [reread_fields, find_fields]
  induction members with
  | nil => rfl
  | cons member members ih =>
    obtain ⟨name, value⟩ := member
    rw [List.map_cons, List.lookup_cons, List.lookup_cons, ih]
    cases key == name <;> rfl

theorem contains_reread (key : String) (members : List (String × Value)) :
    (fields members).reread.contains key = (members.map Prod.fst).contains key := by
  rw [reread_fields, contains_fields, List.map_map]
  rfl

/-! ## The channel of an event -/

/-- The keys of the channels above the legacy ones. -/
def structuredKeys : List String :=
  "file_picker_result" :: "scene_view_error" :: "stacked_index" :: "stacked_page" :: treeKeys

theorem dispatch_plain {event : Value}
    (h : ∀ key ∈ structuredKeys, event.contains key = false) :
    dispatch event = firstOf legacyChannels event := by
  have htree : treeKeys.countP event.contains = 0 := by
    rw [List.countP_eq_zero]
    intro key hkey
    rw [h key (by simp [structuredKeys, hkey])]
    decide
  rw [dispatch, h "file_picker_result" (by decide), h "scene_view_error" (by decide), htree,
    h "stacked_index" (by decide), h "stacked_page" (by decide)]
  rfl

/-- Channels whose keys are not there are passed over. -/
theorem firstOf_drop {event : Value} (i : Nat) (channels : List Channel)
    (h : ∀ channel ∈ channels.take i, event.contains channel.key = false) :
    firstOf channels event = firstOf (channels.drop i) event := by
  induction i generalizing channels with
  | zero => rfl
  | succ i ih =>
    cases channels with
    | nil => rfl
    | cons channel channels =>
      have hnone : channel.read event = .ok none :=
        channel.absent event (h channel (by simp))
      rw [firstOf, hnone]
      exact ih channels fun other hother => h other (List.mem_cons_of_mem _ hother)

theorem firstOf_cons {event : Value} {channel : Channel} {channels : List Channel}
    {callback : Callback} (h : channel.read event = .ok (some callback)) :
    firstOf (channel :: channels) event = .ok (some callback) := by
  rw [firstOf, h]

/-- An event of the keys `keys` is told by the first legacy channel that has one of
them, when that channel reads something. -/
theorem arrives_at (keys : List String) (i : Nat) {members : List (String × Value)}
    {channel : Channel} {channels : List Channel} {callback : Callback}
    (hkeys : members.map Prod.fst = keys)
    (hplain : ∀ key ∈ structuredKeys, keys.contains key = false)
    (hearlier : ∀ channel ∈ legacyChannels.take i, keys.contains channel.key = false)
    (hchannel : legacyChannels.drop i = channel :: channels)
    (hread : channel.read (fields members).reread = .ok (some callback)) :
    dispatch (fields members).reread = .ok (some callback) := by
  have hcontains : ∀ key, (fields members).reread.contains key = keys.contains key := by
    intro key
    rw [contains_reread, hkeys]
  rw [dispatch_plain fun key hkey => (hcontains key).trans (hplain key hkey),
    firstOf_drop i legacyChannels fun channel hchannel =>
      (hcontains channel.key).trans (hearlier channel hchannel),
    hchannel]
  exact firstOf_cons hread

/-! ## The getters on what was built -/

section Getters

variable {key : String} {members : List (String × Value)}

theorem getString_reread {value : Bytes} (h : members.lookup key = some (.string value)) :
    WidgetEvent.getString key (fields members).reread = some value := by
  rw [WidgetEvent.getString, find_reread, h]
  rfl

theorem getBool_reread {value : Bool} (h : members.lookup key = some (.boolean value)) :
    WidgetEvent.getBool key (fields members).reread = some value := by
  rw [WidgetEvent.getBool, find_reread, h]
  rfl

theorem getInt_reread {value : Int32} (h : members.lookup key = some (ofInt value)) :
    WidgetEvent.getInt key (fields members).reread = some value := by
  rw [WidgetEvent.getInt, find_reread, h]
  exact decodeInt_ofInt value

theorem wrappedInt_reread {value : Int32} (h : members.lookup key = some (ofInt value)) :
    ((fields members).reread.find key).bind WidgetEvent.asWrappedInt = some value := by
  rw [find_reread, h]
  exact asWrappedInt_ofInt value

theorem double_reread {value : F64} (h : members.lookup key = some (.float value)) :
    ((fields members).reread.find key).bind WidgetEvent.asDouble = some value := by
  rw [find_reread, h]
  rfl

theorem nonEmptyString_reread {value : Bytes} (h : members.lookup key = some (.string value))
    (hne : value ≠ []) :
    WidgetEvent.nonEmptyString key (fields members).reread = some value := by
  rw [WidgetEvent.nonEmptyString, getString_reread h]
  have hfilled : value.isEmpty = false := List.isEmpty_eq_false_iff.mpr hne
  rw [Option.filter_some, hfilled]
  rfl

theorem nonNegativeInt_reread {value : Int32} (h : members.lookup key = some (ofInt value))
    (hle : 0 ≤ value) :
    WidgetEvent.nonNegativeInt key (fields members).reread = some value := by
  rw [WidgetEvent.nonNegativeInt, getInt_reread h, Option.filter_some, decide_eq_true hle]
  rfl

theorem decodeStringArray_strings (values : List Bytes) :
    WidgetEvent.decodeStringArray (strings values) = some values := by
  show some ((values.map string).filterMap WidgetEvent.asString) = some values
  rw [List.filterMap_map]
  exact congrArg some (List.filterMap_some (l := values))

theorem decodeStrictStringArray_strings (values : List Bytes) :
    WidgetEvent.decodeStrictStringArray (strings values) = some values := by
  show (values.map string).mapM WidgetEvent.asString = some values
  induction values with
  | nil => rfl
  | cons value values ih =>
    rw [List.map_cons, List.mapM_cons, ih]
    rfl

theorem strings_reread {values : List Bytes} (h : members.lookup key = some (strings values)) :
    (fields members).reread.find key = some (strings values) := by
  rw [find_reread, h, Option.map_some, reread_strings]

end Getters

/-! ## The legacy kinds -/

theorem text_arrives {key : String} {call : Bytes → Callback} (i : Nat) (value : Bytes)
    {channels : List Channel} {absent : _}
    (hplain : ∀ other ∈ structuredKeys, [key].contains other = false)
    (hearlier : ∀ channel ∈ legacyChannels.take i, [key].contains channel.key = false)
    (hchannel : legacyChannels.drop i =
      .of key (WidgetEvent.getString key) call absent :: channels) :
    dispatch (fields [(key, .string value)]).reread = .ok (some (call value)) := by
  refine arrives_at [key] i rfl hplain hearlier hchannel ?_
  show Except.ok ((WidgetEvent.getString key _).map call) = _
  rw [getString_reread List.lookup_cons_self]
  rfl

theorem int_arrives {key : String} {call : Int32 → Callback} (i : Nat) (value : Int32)
    {channels : List Channel} {absent : _}
    (hplain : ∀ other ∈ structuredKeys, [key].contains other = false)
    (hearlier : ∀ channel ∈ legacyChannels.take i, [key].contains channel.key = false)
    (hchannel : legacyChannels.drop i =
      .of key (WidgetEvent.getInt key) call absent :: channels) :
    dispatch (fields [(key, ofInt value)]).reread = .ok (some (call value)) := by
  refine arrives_at [key] i rfl hplain hearlier hchannel ?_
  show Except.ok ((WidgetEvent.getInt key _).map call) = _
  rw [getInt_reread List.lookup_cons_self]
  rfl

/-- The text beside the index is read by no channel. -/
theorem indexTextChanged_arrives (index : Int32) (currentText : Bytes) :
    dispatch (WidgetEventBuilder.indexTextChanged index currentText).reread =
      .ok (some (.onIndexChanged index)) := by
  refine arrives_at ["current_index", "current_text"] 9 rfl (by decide) (by decide) rfl ?_
  show Except.ok ((WidgetEvent.getInt "current_index" _).map _) = _
  rw [getInt_reread rfl]
  rfl

theorem toggled_arrives (checked : Bool) :
    dispatch (WidgetEventBuilder.toggled checked).reread = .ok (some (.onToggled checked)) := by
  refine arrives_at ["checked"] 10 rfl (by decide) (by decide) rfl ?_
  show Except.ok ((WidgetEvent.getBool "checked" _).map _) = _
  rw [getBool_reread rfl]
  rfl

theorem clicked_arrives : dispatch WidgetEventBuilder.clicked.reread = .ok (some .onClicked) := by
  refine arrives_at ["clicked"] 13 rfl (by decide) (by decide) rfl ?_
  show Except.ok ((WidgetEvent.clicked _).map _) = _
  rw [WidgetEvent.clicked, getBool_reread rfl]
  rfl

theorem selectionChanged_arrives (selected : List Bytes) :
    dispatch (WidgetEventBuilder.selectionChanged selected).reread =
      .ok (some (.onSelectionChanged selected)) := by
  refine arrives_at ["selected_items"] 14 rfl (by decide) (by decide) rfl ?_
  show Except.ok ((WidgetEvent.selectedItems _).map _) = _
  rw [WidgetEvent.selectedItems, strings_reread rfl, Option.bind_some, decodeStringArray_strings]
  rfl

/-- The channel of integers comes first and reads no double. -/
theorem valueChangedDouble_arrives (value : F64) :
    dispatch (WidgetEventBuilder.valueChangedDouble value).reread =
      .ok (some (.onValueChangedDouble value)) := by
  have hplain : ∀ key ∈ structuredKeys, ["value"].contains key = false := by decide
  have hearlier : ∀ channel ∈ legacyChannels.take 20, ["value"].contains channel.key = false := by
    decide
  have hcontains : ∀ key, (WidgetEventBuilder.valueChangedDouble value).reread.contains key =
      ["value"].contains key := fun key => contains_reread key [("value", .float value)]
  rw [dispatch_plain fun key hkey => (hcontains key).trans (hplain key hkey),
    firstOf_drop 20 legacyChannels fun channel hchannel =>
      (hcontains channel.key).trans (hearlier channel hchannel)]
  rfl

theorem itemContextAction_arrives {index : Int32} {actionId : Bytes} (hindex : 0 ≤ index)
    (hne : actionId ≠ []) :
    dispatch (WidgetEventBuilder.itemContextAction index actionId).reread =
      .ok (some (.onItemContextAction index actionId)) := by
  refine arrives_at ["item_context_action"] 0 rfl (by decide) (by decide) rfl ?_
  show Except.ok ((WidgetEvent.itemContextAction _).map _) = _
  rw [WidgetEvent.itemContextAction, find_reread]
  show Except.ok (Option.map _ (do
    let action ← WidgetEvent.nonEmptyString "action" (fields _).reread
    let index ← WidgetEvent.nonNegativeInt "index" (fields _).reread
    some (index, action))) = _
  rw [nonEmptyString_reread rfl hne, nonNegativeInt_reread rfl hindex]
  rfl

theorem codeChanged_arrives (code : Bytes) (cursor : Int32) :
    dispatch (WidgetEventBuilder.codeChanged code cursor).reread =
      .ok (some (.onCodeChangedWithCursor code (if 0 ≤ cursor then cursor else -1))) := by
  unfold WidgetEventBuilder.codeChanged
  by_cases hcursor : 0 ≤ cursor
  · rw [if_pos hcursor, if_pos hcursor]
    refine arrives_at ["code_changed", "code_cursor"] 7 rfl (by decide) (by decide) rfl ?_
    show Except.ok (((WidgetEvent.getString "code_changed" _).map fun code =>
      (code, (WidgetEvent.codeCursor _).getD (-1))).map _) = _
    rw [getString_reread rfl, WidgetEvent.codeCursor, wrappedInt_reread rfl]
    rfl
  · rw [if_neg hcursor, if_neg hcursor]
    refine arrives_at ["code_changed"] 7 rfl (by decide) (by decide) rfl ?_
    show Except.ok (((WidgetEvent.getString "code_changed" _).map fun code =>
      (code, (WidgetEvent.codeCursor _).getD (-1))).map _) = _
    rw [getString_reread rfl]
    rfl

theorem dateRangeChanged_arrives (fromIso toIso : Bytes) :
    dispatch (WidgetEventBuilder.dateRangeChanged fromIso toIso).reread =
      .ok (some (.onDateRangeChanged fromIso toIso)) := by
  refine arrives_at ["date_from_iso", "date_to_iso"] 4 rfl (by decide) (by decide) rfl ?_
  show Except.ok ((WidgetEvent.dateRangeChanged _).map _) = _
  rw [WidgetEvent.dateRangeChanged, getString_reread rfl, getString_reread rfl]
  rfl

theorem rangeChanged_arrives (lower upper : Int32) :
    dispatch (WidgetEventBuilder.rangeChanged lower upper).reread =
      .ok (some (.onRangeChanged lower upper)) := by
  refine arrives_at ["range_lower", "range_upper"] 2 rfl (by decide) (by decide) rfl ?_
  show Except.ok ((WidgetEvent.rangeChanged _).map _) = _
  rw [WidgetEvent.rangeChanged, wrappedInt_reread rfl, wrappedInt_reread rfl]
  rfl

theorem chartViewChanged_arrives (xMin xMax yMin yMax : F64) :
    dispatch (WidgetEventBuilder.chartViewChanged xMin xMax yMin yMax).reread =
      .ok (some (.onChartViewChanged xMin xMax yMin yMax)) := by
  refine arrives_at ["chart_x_min", "chart_x_max", "chart_y_min", "chart_y_max"] 1 rfl
    (by decide) (by decide) rfl ?_
  show Except.ok ((WidgetEvent.chartViewChanged _).map _) = _
  rw [WidgetEvent.chartViewChanged, double_reread rfl, double_reread rfl, double_reread rfl,
    double_reread rfl]
  rfl

/-! ## Drops -/

theorem decodeDataSource_toUInt64 (id : UInt32) :
    WidgetEvent.decodeDataSource (.unsigned id.toUInt64) = id := by
  have hle : id.toUInt64 ≤ 0xFFFFFFFF := by
    rw [UInt64.le_iff_toNat_le, UInt32.toNat_toUInt64]
    have hlt : id.toNat < 2 ^ 32 := id.toNat_lt
    show id.toNat ≤ 4294967295
    omega
  rw [WidgetEvent.decodeDataSource, if_pos hle, UInt32.toUInt32_toUInt64]

/-- The sources come back in their places. -/
theorem dataSources_reread (ids : List UInt32) :
    (rereadAll (ids.map fun id => .unsigned id.toUInt64)).map WidgetEvent.decodeDataSource =
      ids := by
  have hid : ((WidgetEvent.decodeDataSource ∘ reread) ∘
      fun id : UInt32 => .unsigned id.toUInt64) = id := by
    funext id
    exact decodeDataSource_toUInt64 id
  rw [rereadAll_eq, List.map_map, List.map_map, hid, List.map_id]

theorem itemsDroppedFrom_arrives (labels : List Bytes) (dataSourceIds : List UInt32) :
    dispatch (WidgetEventBuilder.itemsDroppedFrom labels dataSourceIds).reread =
      .ok (some (.onDroppedItems (droppedItems labels dataSourceIds))) := by
  refine arrives_at ["items_dropped", "items_dropped_data_sources"] 6 rfl (by decide) (by decide)
    rfl ?_
  show Except.ok (((WidgetEvent.itemsDropped _).map fun names =>
    droppedItems names (WidgetEvent.itemsDroppedDataSources _)).map _) = _
  rw [WidgetEvent.itemsDropped, strings_reread rfl, Option.bind_some, decodeStringArray_strings,
    WidgetEvent.itemsDroppedDataSources, find_reread]
  show Except.ok (some (Callback.onDroppedItems (droppedItems labels
    ((rereadAll (dataSourceIds.map fun id => .unsigned id.toUInt64)).map _)))) = _
  rw [dataSources_reread]

/-- Without a list of sources every item has source 0. -/
theorem droppedItems_nil (names : List Bytes) :
    droppedItems names [] = names.map fun name => { name } := by
  unfold droppedItems
  rw [List.mapIdx_eq_iff]
  intro i
  rw [List.getElem?_map]
  rfl

theorem itemsDropped_arrives (labels : List Bytes) :
    dispatch (WidgetEventBuilder.itemsDropped labels).reread =
      .ok (some (.onDroppedItems (labels.map fun name => { name }))) := by
  refine arrives_at ["items_dropped"] 6 rfl (by decide) (by decide) rfl ?_
  show Except.ok (((WidgetEvent.itemsDropped _).map fun names =>
    droppedItems names (WidgetEvent.itemsDroppedDataSources _)).map _) = _
  rw [WidgetEvent.itemsDropped, strings_reread rfl, Option.bind_some, decodeStringArray_strings,
    ← droppedItems_nil]
  rfl

/-! ## Timelines -/

theorem intValue_reread {key : String} {default value : Int32} {members : List (String × Value)}
    (h : members.lookup key = some (ofInt value)) :
    WidgetEvent.intValue key default (fields members).reread = .ok value := by
  have hfind : (fields members).reread.find key = some (ofInt value).reread := by
    rw [find_reread, h]
    rfl
  rw [reread_fields] at hfind ⊢
  unfold fields at hfind ⊢
  rw [WidgetEvent.intValue, hfind]
  by_cases hle : 0 ≤ value.toInt64
  · have hread : (ofInt value).reread = .unsigned value.toInt64.toUInt64 := by
      rw [reread_ofInt, if_pos hle]
    rw [hread]
    exact congrArg Except.ok (wrapped_int64 value)
  · have hread : (ofInt value).reread = .integer value.toInt64 := by
      rw [reread_ofInt, if_neg hle]
    rw [hread]
    exact congrArg Except.ok (Int32.toInt32_toInt64 value)

theorem timelineMark_reread (mark : TimelineMark) :
    WidgetEvent.timelineMarkFromJson (WidgetEventBuilder.timelineMarkToJson mark).reread =
      .ok mark := by
  unfold WidgetEvent.timelineMarkFromJson WidgetEventBuilder.timelineMarkToJson
  rw [intValue_reread rfl, intValue_reread rfl, intValue_reread rfl]
  rfl

theorem timelineMarks_reread (marks : List TimelineMark) :
    (rereadAll (marks.map WidgetEventBuilder.timelineMarkToJson)).mapM
      WidgetEvent.timelineMarkFromJson = .ok marks := by
  induction marks with
  | nil => rfl
  | cons mark marks ih =>
    rw [List.map_cons, rereadAll, List.mapM_cons, timelineMark_reread, ih]
    rfl

theorem markerTimelineChanged_arrives (marks : List TimelineMark) :
    dispatch (WidgetEventBuilder.markerTimelineChanged marks).reread =
      .ok (some (.onMarkerTimelineChanged marks)) := by
  refine arrives_at ["marker_timeline_marks"] 3 rfl (by decide) (by decide) rfl ?_
  show (WidgetEvent.markerTimelineChanged _).map _ = _
  rw [WidgetEvent.markerTimelineChanged, find_reread]
  show (((rereadAll (marks.map WidgetEventBuilder.timelineMarkToJson)).mapM
    WidgetEvent.timelineMarkFromJson).map some).map _ = _
  rw [timelineMarks_reread]
  rfl

/-! ## The structured kinds -/

theorem stackedPageChanged_arrives {index : Int32} {pageObjectName : Bytes} (hindex : 0 ≤ index)
    (hne : pageObjectName ≠ []) :
    dispatch (WidgetEventBuilder.stackedPageChanged index pageObjectName).reread =
      .ok (some (.onStackedPageChanged index pageObjectName)) := by
  show Except.ok (stackedChannel _) = _
  unfold stackedChannel WidgetEventBuilder.stackedPageChanged
  rw [nonNegativeInt_reread rfl hindex, nonEmptyString_reread rfl hne]
  rfl

theorem optionalString_reread {key : String} {value : Bytes} {members : List (String × Value)}
    (h : members.lookup key = some (.string value)) :
    WidgetEvent.optionalString key (fields members).reread = some value := by
  rw [WidgetEvent.optionalString, find_reread, h]
  rfl

theorem sceneViewError_arrives {error : SceneViewError} (hne : error.reason ≠ []) :
    dispatch (WidgetEventBuilder.sceneViewError error).reread =
      .ok (some (.onSceneViewError error)) := by
  have hread : WidgetEvent.sceneViewError (WidgetEventBuilder.sceneViewError error).reread =
      some error := by
    let members : List (String × Value) :=
      [("kind", .string error.kind), ("topic", .string error.topic),
        ("dataset", .string error.dataset), ("reason", .string error.reason)]
    show (do
      let kind ← WidgetEvent.optionalString "kind" (fields members).reread
      let topic ← WidgetEvent.optionalString "topic" (fields members).reread
      let dataset ← WidgetEvent.optionalString "dataset" (fields members).reread
      let reason ← WidgetEvent.optionalString "reason" (fields members).reread
      if reason = [] then none else some ({ kind, topic, dataset, reason } : SceneViewError)) = _
    rw [optionalString_reread rfl, optionalString_reread rfl, optionalString_reread rfl,
      optionalString_reread rfl]
    show (if error.reason = [] then none else some error) = some error
    rw [if_neg hne]
  show Except.ok ((WidgetEvent.sceneViewError _).map _) = _
  rw [hread]
  rfl

/-! ## Trees -/

theorem filled_ids {ids : List Bytes} (h : ∀ id ∈ ids, id ≠ []) : ids.any List.isEmpty = false := by
  rw [List.any_eq_false]
  intro id hid
  rw [List.isEmpty_eq_false_iff.mpr (h id hid)]
  decide

theorem treeSelectionChanged_arrives {ids : List Bytes} (hne : ∀ id ∈ ids, id ≠ []) :
    dispatch (WidgetEventBuilder.treeSelectionChanged ids).reread =
      .ok (some (.onTreeSelectionChanged ids)) := by
  show Except.ok ((WidgetEvent.treeSelectionChanged _).map _) = _
  unfold WidgetEvent.treeSelectionChanged WidgetEventBuilder.treeSelectionChanged
  rw [strings_reread rfl, Option.bind_some, decodeStrictStringArray_strings, Option.filter_some,
    filled_ids hne]
  rfl

theorem treeItemActivated_arrives {id : Bytes} {column : Int32} (hid : id ≠ [])
    (hcolumn : 0 ≤ column) :
    dispatch (WidgetEventBuilder.treeItemActivated id column).reread =
      .ok (some (.onTreeItemActivated id column)) := by
  show Except.ok (Option.map _ (do
    let id ← WidgetEvent.nonEmptyString "id" (fields _).reread
    let column ← WidgetEvent.nonNegativeInt "column" (fields _).reread
    some (id, column))) = _
  rw [nonEmptyString_reread rfl hid, nonNegativeInt_reread rfl hcolumn]
  rfl

theorem treeExpansionChanged_arrives {id : Bytes} (hid : id ≠ []) (expanded : Bool) :
    dispatch (WidgetEventBuilder.treeExpansionChanged id expanded).reread =
      .ok (some (.onTreeExpansionChanged id expanded)) := by
  show Except.ok (Option.map _ (do
    let id ← WidgetEvent.nonEmptyString "id" (fields _).reread
    let expanded ← WidgetEvent.getBool "expanded" (fields _).reread
    some (id, expanded))) = _
  rw [nonEmptyString_reread rfl hid, getBool_reread rfl]
  rfl

theorem treeCheckState_reread (state : TreeCheckState) :
    treeCheckStateFromWireValue (text (treeCheckStateWireValue state)) = some state := by
  cases state <;> decide

theorem treeCheckStateChanged_arrives {id : Bytes} (hid : id ≠ []) (state : TreeCheckState) :
    dispatch (WidgetEventBuilder.treeCheckStateChanged id state).reread =
      .ok (some (.onTreeCheckStateChanged id state)) := by
  show Except.ok (Option.map _ (do
    let id ← WidgetEvent.nonEmptyString "id" (fields _).reread
    let state ← (WidgetEvent.getString "state" (fields _).reread).bind treeCheckStateFromWireValue
    some (id, state))) = _
  rw [nonEmptyString_reread rfl hid, getString_reread rfl]
  show Except.ok (Option.map _ (do
    let state ← treeCheckStateFromWireValue (text (treeCheckStateWireValue state))
    some (id, state))) = _
  rw [treeCheckState_reread]
  rfl

/-! ## Pickers -/

theorem pickerStatus_reread (status : FilePickerStatus) :
    filePickerStatusFromWireValue (text status.wireValue) = some status := by
  cases status <;> decide

theorem pickerMode_reread (mode : FilePickerMode) :
    filePickerModeFromWireValue (text mode.wireValue) = some mode := by
  cases mode <;> decide

section Pickers

variable {result : FilePickerResult}

theorem filePickerResult_read {event : Value}
    (hfind : event.find "file_picker_result" =
      some (fields (WidgetEventBuilder.filePickerMembers result)).reread)
    (hpaths : ∀ path ∈ result.paths, path ≠ [])
    (hselected : result.status = .selected → result.paths ≠ []) :
    WidgetEvent.filePickerResult event = some result := by
  let document := (fields (WidgetEventBuilder.filePickerMembers result)).reread
  have hstatus : (WidgetEvent.getString "status" document).bind filePickerStatusFromWireValue =
      some result.status := by
    rw [show WidgetEvent.getString "status" document = some _ from getString_reread rfl]
    exact pickerStatus_reread result.status
  have hmode : (WidgetEvent.getString "mode" document).bind filePickerModeFromWireValue =
      some result.mode := by
    rw [show WidgetEvent.getString "mode" document = some _ from getString_reread rfl]
    exact pickerMode_reread result.mode
  have hpathsFound : document.find "paths" = some (strings result.paths) := strings_reread rfl
  have hnames : WidgetEvent.optionalStringArray "display_names" document =
      some result.displayNames := by
    rw [WidgetEvent.optionalStringArray, show document.find "display_names" = some _ from
      strings_reread rfl]
    exact decodeStrictStringArray_strings result.displayNames
  have hfilter : WidgetEvent.optionalString "selected_filter_id" document =
      some result.selectedFilterId := optionalString_reread rfl
  have herror : WidgetEvent.optionalString "error" document = some result.error :=
    optionalString_reread rfl
  -- what a picker may report passes the check of the reader
  have hkept : (result.paths.any List.isEmpty ||
      (result.status = .selected && result.paths.isEmpty)) = false := by
    rw [filled_ids hpaths, Bool.false_or]
    by_cases hsel : result.status = .selected
    · rw [List.isEmpty_eq_false_iff.mpr (hselected hsel), Bool.and_false]
    · rw [decide_eq_false hsel, Bool.false_and]
  unfold WidgetEvent.filePickerResult
  rw [hfind]
  show (do
    let status ← (WidgetEvent.getString "status" document).bind filePickerStatusFromWireValue
    let mode ← (WidgetEvent.getString "mode" document).bind filePickerModeFromWireValue
    let paths ← (document.find "paths").bind WidgetEvent.decodeStrictStringArray
    if paths.any List.isEmpty || (status = FilePickerStatus.selected && paths.isEmpty) then none
    else
      let displayNames ← WidgetEvent.optionalStringArray "display_names" document
      let selectedFilterId ← WidgetEvent.optionalString "selected_filter_id" document
      let error ← WidgetEvent.optionalString "error" document
      some ({ status, mode, paths, displayNames, selectedFilterId, error } : FilePickerResult)) = _
  rw [hstatus, hmode, hpathsFound, Option.bind_some, decodeStrictStringArray_strings, hnames,
    hfilter, herror]
  show (if result.paths.any List.isEmpty || (result.status = .selected && result.paths.isEmpty)
    then none else some result) = _
  rw [hkept]
  rfl

/-- A valid selection has a legacy key, the one of its mode. -/
theorem legacySelection_selected (hselected : result.status = .selected)
    (hpaths : ∀ path ∈ result.paths, path ≠ []) (hne : result.paths ≠ []) :
    ∃ path, filePickerLegacySelection result =
      some (if result.mode = .selectDirectory then "folder_selected" else "file_selected", path) := by
  unfold filePickerLegacySelection
  rw [hselected]
  cases hlist : result.paths with
  | nil => exact absurd hlist hne
  | cons path paths =>
    rw [hlist] at hpaths
    refine ⟨path, ?_⟩
    show (if (path :: paths).any List.isEmpty then _ else _) = _
    rw [filled_ids hpaths]
    rfl

theorem legacySelection_other (hother : result.status ≠ .selected) :
    filePickerLegacySelection result = none := by
  unfold filePickerLegacySelection
  split
  · rename_i hselected _
    exact absurd hselected hother
  · rfl

/-- Beside a selection stands the legacy key the reader expects. -/
theorem pickerChannel_selected {key : String} {path : Bytes}
    (hkey : key = if result.mode = .selectDirectory then "folder_selected" else "file_selected")
    (hlegacy : filePickerLegacySelection result = some (key, path))
    (hselected : result.status = .selected)
    (hread : WidgetEvent.filePickerResult (fields
      [("file_picker_result", fields (WidgetEventBuilder.filePickerMembers result)),
        (key, .string path)]).reread = some result) :
    pickerChannel (fields
      [("file_picker_result", fields (WidgetEventBuilder.filePickerMembers result)),
        (key, .string path)]).reread = some (.onFilePickerResult result) := by
  unfold pickerChannel
  rw [hread]
  show (if result.status = .selected then _ else _) = _
  rw [if_pos hselected, hlegacy]
  by_cases hmode : result.mode = .selectDirectory
  · rw [if_pos hmode] at hkey
    subst hkey
    show (if some path = some path then _ else _) = _
    exact if_pos rfl
  · rw [if_neg hmode] at hkey
    subst hkey
    show (if some path = some path then _ else _) = _
    exact if_pos rfl

theorem pickerChannel_other (hother : result.status ≠ .selected)
    (hread : WidgetEvent.filePickerResult (fields
      [("file_picker_result", fields (WidgetEventBuilder.filePickerMembers result))]).reread =
        some result) :
    pickerChannel (fields
      [("file_picker_result", fields (WidgetEventBuilder.filePickerMembers result))]).reread =
        some (.onFilePickerResult result) := by
  unfold pickerChannel
  rw [hread]
  show (if result.status = .selected then _ else _) = _
  rw [if_neg hother]
  rfl

theorem filePickerResult_arrives (hpaths : ∀ path ∈ result.paths, path ≠ [])
    (hselected : result.status = .selected → result.paths ≠ []) :
    dispatch (WidgetEventBuilder.filePickerResult result).reread =
      .ok (some (.onFilePickerResult result)) := by
  unfold WidgetEventBuilder.filePickerResult
  by_cases hstatus : result.status = .selected
  · obtain ⟨path, hlegacy⟩ := legacySelection_selected hstatus hpaths (hselected hstatus)
    rw [hlegacy]
    show Except.ok (pickerChannel (fields _).reread) = _
    rw [pickerChannel_selected rfl hlegacy hstatus
      (filePickerResult_read rfl hpaths hselected)]
  · rw [legacySelection_other hstatus]
    show Except.ok (pickerChannel (fields _).reread) = _
    rw [pickerChannel_other hstatus (filePickerResult_read rfl hpaths hselected)]

end Pickers

/-! ## What is printed -/

theorem printable_dataSources (ids : List UInt32) :
    (array (ids.map fun id => .unsigned id.toUInt64)).Printable := by
  refine printable_array fun value hvalue => ?_
  obtain ⟨id, hid, rfl⟩ := List.mem_map.mp hvalue
  trivial

theorem printable_marks (marks : List TimelineMark) :
    (array (marks.map WidgetEventBuilder.timelineMarkToJson)).Printable := by
  refine printable_array fun value hvalue => ?_
  obtain ⟨mark, hmark, rfl⟩ := List.mem_map.mp hvalue
  refine printable_cons trivial (printable_cons trivial (printable_cons trivial ?_))
  exact printable_cons trivial printable_nil

theorem filePickerResult_printable {result : FilePickerResult}
    (h : (Event.filePickerResult result).Valid) :
    (WidgetEventBuilder.filePickerResult result).Printable := by
  obtain ⟨hpaths, hnames, hfilter, herror, -, -⟩ := h
  have hdocument : (fields (WidgetEventBuilder.filePickerMembers result)).Printable := by
    refine printable_cons (validUtf8_text _) (printable_cons (validUtf8_text _) ?_)
    refine printable_cons (printable_strings hpaths) (printable_cons (printable_strings hnames) ?_)
    exact printable_cons hfilter (printable_cons herror printable_nil)
  show Value.Printable (match filePickerLegacySelection result with
    | some (key, path) =>
      fields [("file_picker_result", fields (WidgetEventBuilder.filePickerMembers result)),
        (key, .string path)]
    | none => fields [("file_picker_result", fields (WidgetEventBuilder.filePickerMembers result))])
  split
  · rename_i key path hlegacy
    have hpath : path ∈ result.paths := by
      unfold filePickerLegacySelection at hlegacy
      split at hlegacy
      · rename_i first rest _ hlist
        split at hlegacy
        · cases hlegacy
        · cases hlegacy
          rw [hlist]
          exact List.mem_cons_self
      · cases hlegacy
    exact printable_cons hdocument (printable_cons (hpaths path hpath) printable_nil)
  · exact printable_cons hdocument printable_nil

/-- A valid event has a text. -/
theorem build_printable {event : Event} (h : event.Valid) : event.build.Printable := by
  cases event with
  | textChanged value => exact printable_cons h printable_nil
  | indexChanged index => exact printable_cons trivial printable_nil
  | indexTextChanged index currentText =>
    exact printable_cons trivial (printable_cons h printable_nil)
  | toggled checked => exact printable_cons trivial printable_nil
  | valueChanged value => exact printable_cons trivial printable_nil
  | valueChangedDouble value => exact printable_cons h printable_nil
  | selectionChanged selected => exact printable_cons (printable_strings h) printable_nil
  | clicked => exact printable_cons trivial printable_nil
  | fileSelected path => exact printable_cons h printable_nil
  | folderSelected path => exact printable_cons h printable_nil
  | filePickerResult result => exact filePickerResult_printable h
  | sceneViewError error =>
    obtain ⟨hkind, htopic, hdataset, hreason, -⟩ := h
    refine printable_cons (printable_cons hkind (printable_cons htopic ?_)) printable_nil
    exact printable_cons hdataset (printable_cons hreason printable_nil)
  | tabChanged index => exact printable_cons trivial printable_nil
  | stackedPageChanged index pageObjectName =>
    exact printable_cons trivial (printable_cons h.2.1 printable_nil)
  | treeSelectionChanged ids => exact printable_cons (printable_strings h.1) printable_nil
  | treeItemActivated id column =>
    exact printable_cons (printable_cons h.1 (printable_cons trivial printable_nil)) printable_nil
  | treeExpansionChanged id expanded =>
    exact printable_cons (printable_cons h.1 (printable_cons trivial printable_nil)) printable_nil
  | treeCheckStateChanged id state =>
    refine printable_cons (printable_cons h.1 (printable_cons ?_ printable_nil)) printable_nil
    exact validUtf8_text _
  | itemDoubleClicked index => exact printable_cons trivial printable_nil
  | itemDeleteRequested index => exact printable_cons trivial printable_nil
  | itemContextAction index actionId =>
    refine printable_cons (printable_cons trivial ?_) printable_nil
    exact printable_cons h.2.1 printable_nil
  | headerClicked sectionIndex => exact printable_cons trivial printable_nil
  | tableRadioSelected row => exact printable_cons trivial printable_nil
  | codeChanged code cursor =>
    show (WidgetEventBuilder.codeChanged code cursor).Printable
    unfold WidgetEventBuilder.codeChanged
    -- a negative cursor is not sent
    by_cases hcursor : 0 ≤ cursor
    · rw [if_pos hcursor]
      exact printable_cons h (printable_cons trivial printable_nil)
    · rw [if_neg hcursor]
      exact printable_cons h printable_nil
  | itemsDropped labels => exact printable_cons (printable_strings h) printable_nil
  | itemsDroppedFrom labels dataSourceIds =>
    refine printable_cons (printable_strings h) (printable_cons ?_ printable_nil)
    exact printable_dataSources dataSourceIds
  | dateRangeChanged fromIso toIso =>
    exact printable_cons h.1 (printable_cons h.2 printable_nil)
  | dateTimeChanged iso8601 => exact printable_cons h printable_nil
  | rangeChanged lower upper => exact printable_cons trivial (printable_cons trivial printable_nil)
  | markerTimelineChanged marks => exact printable_cons (printable_marks marks) printable_nil
  | chartViewChanged xMin xMax yMin yMax =>
    obtain ⟨hxMin, hxMax, hyMin, hyMax⟩ := h
    refine printable_cons hxMin (printable_cons hxMax (printable_cons hyMin ?_))
    exact printable_cons hyMax printable_nil

/-! ## Arrival -/

/-- What is read of a valid event is told as the call of its kind. -/
theorem dispatch_build {event : Event} (h : event.Valid) :
    dispatch event.build.reread = .ok (some event.callback) := by
  -- one channel for each event, and its position among the channels
  cases event with
  | textChanged value => exact text_arrives 8 value (by decide) (by decide) rfl
  | indexChanged index => exact int_arrives 9 index (by decide) (by decide) rfl
  | indexTextChanged index currentText => exact indexTextChanged_arrives index currentText
  | toggled checked => exact toggled_arrives checked
  | valueChanged value => exact int_arrives 20 value (by decide) (by decide) rfl
  | valueChangedDouble value => exact valueChangedDouble_arrives value
  | selectionChanged selected => exact selectionChanged_arrives selected
  | clicked => exact clicked_arrives
  | fileSelected path => exact text_arrives 11 path (by decide) (by decide) rfl
  | folderSelected path => exact text_arrives 12 path (by decide) (by decide) rfl
  | filePickerResult result =>
    obtain ⟨-, -, -, -, hpaths, hselected⟩ := h
    exact filePickerResult_arrives hpaths hselected
  | sceneViewError error => exact sceneViewError_arrives h.2.2.2.2
  | tabChanged index => exact int_arrives 15 index (by decide) (by decide) rfl
  | stackedPageChanged index pageObjectName => exact stackedPageChanged_arrives h.1 h.2.2
  | treeSelectionChanged ids => exact treeSelectionChanged_arrives h.2
  | treeItemActivated id column => exact treeItemActivated_arrives h.2.1 h.2.2
  | treeExpansionChanged id expanded => exact treeExpansionChanged_arrives h.2 expanded
  | treeCheckStateChanged id state => exact treeCheckStateChanged_arrives h.2 state
  | itemDoubleClicked index => exact int_arrives 16 index (by decide) (by decide) rfl
  | itemDeleteRequested index => exact int_arrives 17 index (by decide) (by decide) rfl
  | itemContextAction index actionId => exact itemContextAction_arrives h.1 h.2.2
  | headerClicked sectionIndex => exact int_arrives 18 sectionIndex (by decide) (by decide) rfl
  | tableRadioSelected row => exact int_arrives 19 row (by decide) (by decide) rfl
  | codeChanged code cursor => exact codeChanged_arrives code cursor
  | itemsDropped labels => exact itemsDropped_arrives labels
  | itemsDroppedFrom labels dataSourceIds => exact itemsDroppedFrom_arrives labels dataSourceIds
  | dateRangeChanged fromIso toIso => exact dateRangeChanged_arrives fromIso toIso
  | dateTimeChanged iso8601 => exact text_arrives 5 iso8601 (by decide) (by decide) rfl
  | rangeChanged lower upper => exact rangeChanged_arrives lower upper
  | markerTimelineChanged marks => exact markerTimelineChanged_arrives marks
  | chartViewChanged xMin xMax yMin yMax => exact chartViewChanged_arrives xMin xMax yMin yMax

/-- A valid event calls the callback of its kind, with its arguments, and no other. -/
theorem event_arrives (dump : Value → Bytes) (parse : Bytes → Option Value) (event : Event)
    (hvalid : event.Valid)
    (hparse : event.build.Printable → parse (dump event.build) = some event.build.reread) :
    onWidgetEvent parse (dump event.build) = .ok (some event.callback) := by
  unfold onWidgetEvent
  rw [hparse (build_printable hvalid)]
  exact dispatch_build hvalid

/-- A text changed to `hi`. -/
theorem event_arrives_text :
    onWidgetEvent (fun _ => some (fields [("text", .string (text "hi"))]))
        (text "\x7b\"text\":\"hi\"\x7d") =
      .ok (some (.onTextChanged (text "hi"))) :=
  event_arrives (fun _ => text "\x7b\"text\":\"hi\"\x7d")
    (fun _ => some (fields [("text", .string (text "hi"))])) (.textChanged (text "hi"))
    (validUtf8_text "hi") fun _ => rfl

/-- Arguments the callbacks do not carry: the current text of a combo box, and a cursor
that is negative but not -1. -/
theorem arguments_dropped :
    dispatch (Event.indexTextChanged 2 (text "two")).build.reread =
        dispatch (Event.indexTextChanged 2 (text "three")).build.reread ∧
      dispatch (Event.codeChanged (text "x") (-5)).build.reread =
        .ok (some (.onCodeChangedWithCursor (text "x") (-1))) := by
  constructor
  · exact (indexTextChanged_arrives 2 (text "two")).trans
      (indexTextChanged_arrives 2 (text "three")).symm
  · exact codeChanged_arrives (text "x") (-5)

end Dialog

end PlotJugglerSdk
