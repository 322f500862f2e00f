import PlotJugglerSdk.Dialog.EventGetters
import PlotJugglerSdk.Json.Reading
import PlotJugglerSdk.Lexing.Split

/-!
# The getters of a widget-data view and their exceptions

The getters of `WidgetDataView`, a widget's name with each, as they call the JSON library. Two of
them read members with defaults and throw for one of another type: the markers of a chart and
the marks of a timeline (`MarkersTyped`, `MarksTyped`).

* `ViewGetters.…`     — the getters
* `dialog_readers_iff` — every getter reads what it is to read, unless such a member is ill-typed
-/

namespace PlotJugglerSdk

namespace Dialog

open Json Lexing Value Wire Trees

/-- A reader that may give up with a reason. -/
abbrev Decoder (α : Type) : Type := ExceptT Bytes (Except JsonError) α

/-- The members of an object, in the order of their keys. -/
def asMembers : Value → Option (List (Bytes × Value))
  | .object members => some members
  | _ => none

namespace Checked

/-! ## Loops and keys -/

/-- What can be read of the elements of an array. -/
def skimmedArray {α : Type} (read : Value → Reader α) (member : Option Value) :
    Reader (List α) := do
  let values ← array member
  skim read values

theorem skimmedArray_returns {α : Type} {read : Value → Reader α} {decode : Value → Option α}
    (h : ∀ item, Returns (read item) (decode item)) (member : Option Value) :
    Returns (skimmedArray read member) ((member.bind asArray).map (List.filterMap decode)) := by
  refine Eq.trans ((array_returns member).bind (skim_returns h)) (congrArg Except.ok ?_)
  exact Option.map_eq_bind.symm

def members (member : Option Value) : Reader (List (Bytes × Value)) :=
  present (member.bind asMembers)

/-- A number of any type. -/
def numericFromJson (encoded : Value) : Reader NumericValue :=
  if encoded.isNumberUnsigned then do
    let value ← OptionT.lift (encoded.get .typeError uint64Of)
    pure (.uint64 value)
  else if encoded.isNumberInteger then do
    let value ← OptionT.lift (encoded.get .typeError int64Of)
    pure (.int64 value)
  else if encoded.isNumberFloat then do
    let value ← OptionT.lift (encoded.get .typeError WidgetEvent.asDouble)
    pure (.double value)
  else present none

theorem numericFromJson_returns (encoded : Value) :
    Returns (numericFromJson encoded) (Dialog.numericFromJson encoded) := by
  cases encoded <;> rfl

/-- A key that may be null. -/
def decodeKey (encoded : Value) : Reader (Option NumericValue) :=
  if encoded.isNull then pure none
  else do
    let value ← numericFromJson encoded
    pure (some value)

theorem decodeKey_returns (encoded : Value) :
    Returns (decodeKey encoded) (Dialog.decodeKey encoded) := by
  cases encoded <;> rfl

def optionalMember {α : Type} (key : String) (default : α) (decode : Value → Reader α)
    (object : Value) :
    Reader α :=
  match object.find key with
  | none => pure default
  | some value => decode value

theorem optionalMember_returns {α : Type} {key : String} {default : α} {code : Value → Reader α}
    {decode : Value → Option α} (h : ∀ value, Returns (code value) (decode value))
    (object : Value) :
    Returns (optionalMember key default code object)
      (Dialog.optionalMember key default decode object) := by
  unfold optionalMember Dialog.optionalMember
  cases object.find key with
  | none => exact Returns.pure default
  | some value => exact h value

/-- `is_number_integer`, and not negative as an `int`. -/
def decodeIndex (encoded : Value) : Reader Int32 := do
  let index ← wrappedInt (some encoded)
  check (0 ≤ index)
  pure index

theorem decodeIndex_returns (encoded : Value) :
    Returns (decodeIndex encoded) (Dialog.decodeIndex encoded) := by
  have h := (wrappedInt_returns (some encoded)).bind fun index =>
    Returns.check (decide (0 ≤ index)) fun _ => Returns.pure index
  refine Eq.trans h (congrArg Except.ok ?_)
  show (WidgetEvent.asWrappedInt encoded).bind _ = (WidgetEvent.asWrappedInt encoded).filter _
  cases WidgetEvent.asWrappedInt encoded <;> rfl

/-- A loop that decodes the values of an array one by one, each with those before it. -/
def decodeOnto {α : Type} (decode : List α → Value → Decoder α) :
    List α → List Value → Decoder (List α)
  | decoded, [] => pure decoded
  | decoded, value :: values => do
    let next ← decode decoded value
    decodeOnto decode (decoded ++ [next]) values

theorem decodeOnto_yields {α : Type} {code : List α → Value → Decoder α}
    {decode : List α → Value → Except Bytes α}
    (h : ∀ decoded value, Yields (code decoded value) (decode decoded value)) (decoded : List α)
    (values : List Value) :
    Yields (decodeOnto code decoded values) (Dialog.decodeOnto decode decoded values) := by
  induction values generalizing decoded with
  | nil => exact Yields.pure decoded
  | cons value values ih => exact (h decoded value).bind fun next => ih _

end Checked

/-! ## The getters -/

namespace ViewGetters

abbrev Widget : Type := WidgetDataView × Bytes

/-- A member of the object of the widget; a widget that is none has no members. -/
def member (widget : Widget) (key : String) : Option Value := widget.1.member widget.2 key

def getString (key : String) : TotalGetter Widget :=
  .of (fun widget => Checked.string (member widget key))
    (fun widget => widget.1.getString widget.2 key)
    fun _ => Checked.string_returns _

def getInt (key : String) : TotalGetter Widget :=
  .of (fun widget => present (member widget key) >>= Checked.decodeInt)
    (fun widget => (member widget key).bind WidgetEvent.decodeInt)
    fun _ => (Returns.present _).bind Checked.decodeInt_returns

def getBool (key : String) : TotalGetter Widget :=
  .of (fun widget => Checked.bool (member widget key))
    (fun widget => (member widget key).bind WidgetEvent.asBool) fun _ => Checked.bool_returns _

def getDouble (key : String) : TotalGetter Widget :=
  .of (fun widget => Checked.double (member widget key))
    (fun widget => (member widget key).bind WidgetEvent.asDouble) fun _ => Checked.double_returns _

def getStringArray (key : String) : TotalGetter Widget :=
  .of (fun widget => Checked.stringArray (member widget key))
    (fun widget => (member widget key).bind WidgetEvent.decodeStringArray)
    fun _ => Checked.stringArray_returns _

def getStrictStringArray (key : String) : TotalGetter Widget :=
  .of (fun widget => present (member widget key) >>= Checked.decodeStrictStringArray)
    (fun widget => widget.1.getStrictStringArray widget.2 key)
    fun _ => (Returns.present _).bind Checked.decodeStrictStringArray_returns

/-- The integers of an array, without what is none. -/
def getIntArray (key : String) : TotalGetter Widget :=
  .of (fun widget => Checked.skimmedArray (fun item => Checked.wrappedInt (some item))
    (member widget key))
    (fun widget => ((member widget key).bind asArray).map (List.filterMap WidgetEvent.asWrappedInt))
    fun _ => Checked.skimmedArray_returns (fun item => Checked.wrappedInt_returns (some item)) _

/-! ### Texts, numbers and flags -/

def text : TotalGetter Widget := getString "text"

def placeholder : TotalGetter Widget := getString "placeholder"

def readOnly : TotalGetter Widget := getBool "read_only"

def currentIndex : TotalGetter Widget := getInt "current_index"

def items : TotalGetter Widget := getStringArray "items"

def checked : TotalGetter Widget := getBool "checked"

def valueInt : TotalGetter Widget := getInt "value"

def valueDouble : TotalGetter Widget := getDouble "value"

def rangeMin : TotalGetter Widget := getInt "min"

def rangeMax : TotalGetter Widget := getInt "max"

def listItems : TotalGetter Widget := getStringArray "list_items"

def selectedItems : TotalGetter Widget := getStringArray "selected_items"

def listDeletable : TotalGetter Widget := getBool "list_deletable"

def listPlaceholder : TotalGetter Widget := getString "list_placeholder"

def listItemColors : TotalGetter Widget := getStringArray "list_item_colors"

def listDisabledItems : TotalGetter Widget := getStringArray "list_disabled_items"

def listMultiSelect : TotalGetter Widget := getBool "list_multi_select"

def treeHeaders : TotalGetter Widget := getStrictStringArray "tree_headers"

def treeSelectedIds : TotalGetter Widget := getStrictStringArray "tree_selected_ids"

def treeExpandedIds : TotalGetter Widget := getStrictStringArray "tree_expanded_ids"

def treeMultiSelection : TotalGetter Widget := getBool "tree_multi_selection"

def tableHeaders : TotalGetter Widget := getStringArray "headers"

def tableRadioColumn : TotalGetter Widget := getInt "radio_column"

def tableRadioCheckedRow : TotalGetter Widget := getInt "radio_checked_row"

def selectedRows : TotalGetter Widget := getIntArray "selected_rows"

def disabledRows : TotalGetter Widget := getIntArray "disabled_rows"

def visibleRows : TotalGetter Widget := getIntArray "visible_rows"

def chartZoomEnabled : TotalGetter Widget := getBool "chart_zoom_enabled"

def chartAutoZoom : TotalGetter Widget := getBool "chart_auto_zoom"

def chartPlaceholder : TotalGetter Widget := getString "chart_placeholder"

def plainText : TotalGetter Widget := getString "plain_text"

def codeContent : TotalGetter Widget := getString "code_content"

def codeLanguage : TotalGetter Widget := getString "code_language"

def codeCursor : TotalGetter Widget := getInt "code_cursor"

def codeCaretTracking : TotalGetter Widget := getBool "code_caret_tracking"

def label : TotalGetter Widget := getString "label"

def buttonText : TotalGetter Widget := getString "button_text"

def buttonIconSvg : TotalGetter Widget := getString "button_icon_svg"

def buttonIconName : TotalGetter Widget := getString "button_icon_name"

def shortcut : TotalGetter Widget := getString "shortcut"

def saveFilePickerDefaultSuffix : TotalGetter Widget := getString "default_suffix"

def filePickerFilter : TotalGetter Widget := getString "filter"

def filePickerTitle : TotalGetter Widget := getString "title"

def folderPickerTitle : TotalGetter Widget := getString "title"

def rangeSliderMin : TotalGetter Widget := getInt "range_min"

def rangeSliderMax : TotalGetter Widget := getInt "range_max"

def rangeSliderLower : TotalGetter Widget := getInt "range_lower"

def rangeSliderUpper : TotalGetter Widget := getInt "range_upper"

def dateRangeEarliest : TotalGetter Widget := getString "date_range_earliest"

def dateRangeLatest : TotalGetter Widget := getString "date_range_latest"

def markerTimelineMin : TotalGetter Widget := getInt "marker_timeline_min"

def markerTimelineMax : TotalGetter Widget := getInt "marker_timeline_max"

def fieldValid : TotalGetter Widget := getBool "valid"

def fieldValidTooltip : TotalGetter Widget := getString "valid_tooltip"

def okEnabled : TotalGetter Widget := getBool "ok_enabled"

def tabIndex : TotalGetter Widget := getInt "tab_index"

def stackedPage : TotalGetter Widget := getString "stacked_page"

def stackedIndex : TotalGetter Widget := getInt "stacked_index"

def dateTime : TotalGetter Widget := getString "datetime"

def enabled : TotalGetter Widget := getBool "enabled"

def visible : TotalGetter Widget := getBool "visible"

/-! ### Trees -/

def treeCellCode (place : Bytes) (cells : List TreeCell) (encoded : Value) : Decoder TreeCell := do
  let place := element (place ++ Json.text ".cells") cells.length
  let encoded ← demanded (place ++ Json.text " must be an object") (Checked.object (some encoded))
  let display ← demanded (place ++ Json.text ".text must be a string")
    (Checked.string (encoded.find "text"))
  let sortValue ← demanded (place ++ Json.text ".sort_value must be a number or null")
    (Checked.optionalMember "sort_value" none Checked.decodeKey encoded)
  let tooltip ← demanded (place ++ Json.text ".tooltip must be a string")
    (Checked.optionalString "tooltip" encoded)
  let icon ← demanded (place ++ Json.text ".icon must be a string")
    (Checked.optionalString "icon" encoded)
  pure { text := display, sortValue, tooltip, icon }

theorem treeCellCode_yields (place : Bytes) (cells : List TreeCell) (encoded : Value) :
    Yields (treeCellCode place cells encoded) (decodeTreeCell place cells encoded) :=
  (Yields.demanded (Checked.object_returns _) _).bind fun encoded =>
    (Yields.demanded (Checked.string_returns _) _).bind fun display =>
    (Yields.demanded (Checked.optionalMember_returns Checked.decodeKey_returns encoded) _).bind
      fun sortValue =>
    (Yields.demanded (Checked.optionalString_returns _ encoded) _).bind fun tooltip =>
    (Yields.demanded (Checked.optionalString_returns _ encoded) _).bind fun icon =>
      Yields.pure ({ text := display, sortValue, tooltip, icon } : TreeCell)

def checkStateCode (place : Bytes) (encoded : Value) : Decoder TreeCheckState :=
  match encoded.find "check_state" with
  | none => pure .none
  | some state => do
    let value ← demanded (place ++ Json.text ".check_state must be a string")
      (Checked.stringRef (some state))
    demanded (place ++ Json.text ".check_state has invalid value " ++ quoted value)
      (present (treeCheckStateFromWireValue value))

theorem checkStateCode_yields (place : Bytes) (encoded : Value) :
    Yields (checkStateCode place encoded) (decodeCheckState place encoded) := by
  unfold checkStateCode decodeCheckState
  cases encoded.find "check_state" with
  | none => exact Yields.pure _
  | some state =>
    exact (Yields.demanded (Checked.stringRef_returns _) _).bind fun value =>
      Yields.demanded (Returns.present _) _

def optionalBool (key : String) (default : Bool) (object : Value) : Reader Bool :=
  Checked.optionalMember key default (fun value => Checked.bool (some value)) object

theorem optionalBool_returns (key : String) (default : Bool) (object : Value) :
    Returns (optionalBool key default object) (decodeOptionalBool key default object) :=
  Checked.optionalMember_returns (fun value => Checked.bool_returns (some value)) object

def treeItemCode (items : List TreeItem) (encoded : Value) : Decoder TreeItem := do
  let place := element (Json.text "tree_items") items.length
  let encoded ← demanded (place ++ Json.text " must be an object") (Checked.object (some encoded))
  let id ← demanded (place ++ Json.text ".id must be a string") (Checked.string (encoded.find "id"))
  refused (id = []) (place ++ Json.text ".id must not be empty")
  refused (∃ item ∈ items, item.id = id)
    (Json.text "tree_items contains duplicate id " ++ quoted id)
  let parentId ← demanded (place ++ Json.text ".parent_id must be a string")
    (Checked.string (encoded.find "parent_id"))
  refused (parentId = id)
    (Json.text "tree item " ++ quoted id ++ Json.text " must not be its own parent")
  let encodedCells ← demanded (place ++ Json.text ".cells must be an array")
    (Checked.array (encoded.find "cells"))
  let cells ← Checked.decodeOnto (treeCellCode place) [] encodedCells
  let enabled ← demanded (place ++ Json.text ".enabled must be a boolean")
    (optionalBool "enabled" true encoded)
  let selectable ← demanded (place ++ Json.text ".selectable must be a boolean")
    (optionalBool "selectable" true encoded)
  let mayHaveChildren ← demanded (place ++ Json.text ".may_have_children must be a boolean")
    (optionalBool "may_have_children" false encoded)
  let checkState ← checkStateCode place encoded
  pure { id, parentId, cells, enabled, selectable, checkState, mayHaveChildren }

theorem refused_yields (bad : Prop) [Decidable bad] (reason : Bytes) :
    Yields (refused bad reason : Decoder Unit) (refuse bad reason) := by
  unfold refuse
  by_cases h : bad
  · rw [if_pos h, decide_eq_true h]
    rfl
  · rw [if_neg h, decide_eq_false h]
    rfl

theorem treeItemCode_yields (items : List TreeItem) (encoded : Value) :
    Yields (treeItemCode items encoded) (decodeTreeItem items encoded) :=
  (Yields.demanded (Checked.object_returns _) _).bind fun encoded =>
    (Yields.demanded (Checked.string_returns _) _).bind fun id =>
    (refused_yields _ _).bind fun _ => (refused_yields _ _).bind fun _ =>
    (Yields.demanded (Checked.string_returns _) _).bind fun parentId =>
    (refused_yields _ _).bind fun _ =>
    (Yields.demanded (Checked.array_returns _) _).bind fun encodedCells =>
    (Checked.decodeOnto_yields (treeCellCode_yields _) [] encodedCells).bind fun cells =>
    (Yields.demanded (optionalBool_returns _ _ encoded) _).bind fun enabled =>
    (Yields.demanded (optionalBool_returns _ _ encoded) _).bind fun selectable =>
    (Yields.demanded (optionalBool_returns _ _ encoded) _).bind fun mayHaveChildren =>
    (checkStateCode_yields _ encoded).bind fun checkState =>
      Yields.pure
        ({ id, parentId, cells, enabled, selectable, checkState, mayHaveChildren } : TreeItem)

/-- The parents of the items, which take no more of the document. -/
def checkForest (items : List TreeItem) : Except Bytes (List TreeItem) :=
  match items.find? (parentMissing items) with
  | some item =>
    .error (Json.text "tree item " ++ quoted item.id ++ Json.text " references missing parent " ++
      quoted item.parentId)
  | none =>
    match findCycle (parentIndex items) items.length with
    | some index =>
      .error (Json.text "tree_items contains a parent cycle involving " ++
        quoted ((items[index]?.map TreeItem.id).getD []))
    | none => .ok items

def treeItemsCode (encoded : Value) : Decoder (List TreeItem) := do
  let encodedItems ← demanded (Json.text "tree_items must be an array")
    (Checked.array (some encoded))
  let items ← Checked.decodeOnto treeItemCode [] encodedItems
  ExceptT.mk (.ok (checkForest items))

theorem treeItemsCode_yields (encoded : Value) :
    Yields (treeItemsCode encoded) (decodeTreeItems encoded) := by
  have h := (Yields.demanded (Checked.array_returns (some encoded))
      (Json.text "tree_items must be an array")).bind
    fun encodedItems => (Checked.decodeOnto_yields treeItemCode_yields [] encodedItems).bind
      fun items =>
      (show Yields (ExceptT.mk (.ok (checkForest items)) : Decoder (List TreeItem))
        (checkForest items) from rfl)
  exact h

/-- A getter that refuses with a reason what it cannot decode. -/
def refusing {α : Type} (key : String) (code : Value → Decoder α) (decode : Value → Except Bytes α)
    (h : ∀ encoded, Yields (code encoded) (decode encoded)) : TotalGetter Widget where
  code widget :=
    match member widget key with
    | none => .ok (.ok none)
    | some encoded => (code encoded).run.map (Except.map some)
  reading widget :=
    match member widget key with
    | none => .ok none
    | some encoded => (decode encoded).map some
  reads widget := by
    unfold Getter.Reads
    dsimp only
    cases member widget key with
    | none => rfl
    | some encoded =>
      have hencoded : (code encoded).run = .ok (decode encoded) := h encoded
      dsimp only
      rw [hencoded]
      rfl

def treeItems : TotalGetter Widget :=
  refusing "tree_items" treeItemsCode decodeTreeItems treeItemsCode_yields

def treeVisibilityUpdateCode (widget : Widget) : Reader TreeVisibilityUpdate := do
  let encoded ← present (member widget "tree_visible_ids")
  if encoded.isNull then pure { mode := .reset }
  else do
    let ids ← Checked.decodeStrictStringArray encoded
    pure { ids }

theorem treeVisibilityUpdateCode_returns (widget : Widget) :
    Returns (treeVisibilityUpdateCode widget) (widget.1.treeVisibilityUpdate widget.2) := by
  unfold treeVisibilityUpdateCode WidgetDataView.treeVisibilityUpdate member
  cases widget.1.member widget.2 "tree_visible_ids" with
  | none => rfl
  | some encoded =>
    have hids := (Checked.decodeStrictStringArray_returns encoded).bind fun ids =>
      Returns.pure ({ ids } : TreeVisibilityUpdate)
    cases encoded with
    | array values =>
      refine Eq.trans hids (congrArg Except.ok ?_)
      exact Option.map_eq_bind.symm
    | _ => rfl

def treeVisibilityUpdate : TotalGetter Widget :=
  .of treeVisibilityUpdateCode (fun widget => widget.1.treeVisibilityUpdate widget.2)
    treeVisibilityUpdateCode_returns

/-! ### Tables -/

/-- The cells of a row; one that is no text stands empty. -/
def displayRowCode (row : Value) : Reader (List Bytes) := do
  let cells ← Checked.array (some row)
  OptionT.lift (cells.mapM fun cell => if cell.isString then cell.get .typeError stringOf else
    .ok [])

theorem displayRowCode_returns (row : Value) : Returns (displayRowCode row) (displayRow row) := by
  have hcell (cell : Value) :
      (if cell.isString then cell.get JsonError.typeError stringOf else .ok []) =
        Except.ok ((WidgetEvent.asString cell).getD []) := by
    cases cell <;> rfl
  cases row with
  | array cells =>
    show OptionT.run (OptionT.lift (cells.mapM _)) = _
    rw [OptionT.run_lift, funext hcell, mapM_ok]
    rfl
  | _ => rfl

def tableRows : TotalGetter Widget :=
  .of (fun widget => Checked.array (member widget "rows") >>= List.mapM displayRowCode)
    (fun widget => widget.1.tableRows widget.2)
    fun _ => (Checked.array_returns _).bind (Returns.mapM displayRowCode_returns)

def addColumnCode (rowCount : Nat) (columns : KeyColumns) (member : Bytes × Value) :
    Except JsonError KeyColumns :=
  match columnIndex member.1, member.2 with
  | some column, .array values =>
    if values.length = rowCount then do
      let keys ← values.mapM fun value => (Checked.numericFromJson value).run
      .ok (columns.emplace column keys)
    else .ok columns
  | _, _ => .ok columns

theorem addColumnCode_eq (rowCount : Nat) (columns : KeyColumns) (member : Bytes × Value) :
    addColumnCode rowCount columns member = .ok (addColumn rowCount columns member) := by
  unfold addColumnCode addColumn
  cases columnIndex member.1 with
  | none => rfl
  | some column =>
    cases member.2 with
    | array values =>
      dsimp only
      split
      · rw [funext fun value => (Checked.numericFromJson_returns value : (_ : OptionT _ _).run = _),
          mapM_ok]
        rfl
      · rfl
    | _ => rfl

def tableColumnValues : TotalGetter Widget where
  code widget :=
    let rowCount := (((member widget "rows").bind asArray).getD []).length
    match member widget "column_values" with
    | some (.object members) => members.foldlM (addColumnCode rowCount) []
    | _ => .ok []
  reading widget := widget.1.tableColumnValues widget.2
  reads widget := by
    unfold Getter.Reads WidgetDataView.tableColumnValues member
    dsimp only
    cases widget.1.member widget.2 "column_values" with
    | none => rfl
    | some value =>
      cases value with
      | object members => exact foldlM_ok (addColumnCode_eq _) members []
      | _ => rfl

def tableSortIndicator : TotalGetter Widget :=
  .of
    (fun widget => do
      let indicator ← Checked.object (member widget "sort_indicator")
      let col ← Checked.wrappedInt (indicator.find "col")
      let asc ← Checked.bool (indicator.find "asc")
      pure (col, asc))
    (fun widget => do
      let indicator ← (member widget "sort_indicator").bind asObject
      let col ← (indicator.find "col").bind WidgetEvent.asWrappedInt
      let asc ← (indicator.find "asc").bind WidgetEvent.asBool
      some (col, asc))
    fun _ => (Checked.object_returns _).bind fun _ => (Checked.wrappedInt_returns _).bind fun col =>
      (Checked.bool_returns _).bind fun asc => Returns.pure (col, asc)

def tableDeltaSeqCode (widget : Widget) : Reader UInt64 := do
  let delta ← Checked.object (member widget "table_delta")
  OptionT.mk (guarded isNumberUnsigned (get .typeError uint64Of) (delta.find "seq"))

theorem tableDeltaSeqCode_returns (widget : Widget) :
    Returns (tableDeltaSeqCode widget) (widget.1.tableDeltaSeq widget.2) := by
  unfold tableDeltaSeqCode WidgetDataView.tableDeltaSeq member
  cases widget.1.member widget.2 "table_delta" with
  | none => rfl
  | some delta =>
    cases delta with
    | object members =>
      show Value.guarded _ _ _ = .ok _
      rw [Option.bind_some]
      cases (Value.object members).find "seq" with
      | none => rfl
      | some seq => cases seq <;> rfl
    | _ => rfl

def tableDeltaSeq : TotalGetter Widget :=
  .of tableDeltaSeqCode (fun widget => widget.1.tableDeltaSeq widget.2) tableDeltaSeqCode_returns

def rowsCode (encoded : Value) : Reader (List (List Bytes)) := do
  let rows ← Checked.array (some encoded)
  rows.mapM Checked.decodeStrictStringArray

theorem rowsCode_returns (encoded : Value) : Returns (rowsCode encoded) (decodeRows encoded) := by
  have h := (Checked.array_returns (some encoded)).bind
    (Returns.mapM Checked.decodeStrictStringArray_returns)
  cases encoded <;> exact h

def strictColumnCode (rowCount : Nat) (columns : KeyColumns) (member : Bytes × Value) :
    Reader KeyColumns := do
  let column ← present (columnIndex member.1)
  let values ← Checked.array (some member.2)
  check (values.length = rowCount)
  let keys ← values.mapM Checked.decodeKey
  pure (columns.emplace column keys)

theorem strictColumnCode_returns (rowCount : Nat) (columns : KeyColumns) (member : Bytes × Value) :
    Returns (strictColumnCode rowCount columns member) (addStrictColumn rowCount columns member) :=
  (Returns.present _).bind fun column => (Checked.array_returns _).bind fun values =>
    Returns.check_decide (values.length = rowCount) fun _ =>
      (Returns.mapM Checked.decodeKey_returns values).bind fun keys =>
        Returns.pure (columns.emplace column keys)

def appendValuesCode (rowCount : Nat) (encoded : Value) : Reader KeyColumns :=
  match encoded with
  | .object members => members.foldlM (strictColumnCode rowCount) []
  | _ => present none

theorem appendValuesCode_returns (rowCount : Nat) (encoded : Value) :
    Returns (appendValuesCode rowCount encoded) (decodeAppendValues rowCount encoded) := by
  cases encoded with
  | object members => exact Returns.foldlM (strictColumnCode_returns rowCount) members []
  | _ => rfl

/-- The key of a cell, which may be missing. -/
def cellKeyCode : Option Value → Reader (Option NumericValue)
  | none => pure none
  | some encoded => Checked.decodeKey encoded

theorem cellKeyCode_returns (encoded : Option Value) :
    Returns (cellKeyCode encoded) (encoded.elim (some none) decodeKey) := by
  cases encoded with
  | none => rfl
  | some encoded => exact Checked.decodeKey_returns encoded

/-- Three or four fields; the indices are looked at once all of the fields have their types. -/
def cellUpdateCode (update : Value) : Reader CellUpdate := do
  let fields ← Checked.array (some update)
  check (3 ≤ fields.length && fields.length ≤ 4)
  let row ← Checked.wrappedInt fields[0]?
  let col ← Checked.wrappedInt fields[1]?
  let text ← Checked.string fields[2]?
  check (0 ≤ row && 0 ≤ col)
  let value ← cellKeyCode fields[3]?
  pure { row, col, text, value }

/-- The indices are refused one by one, or both at once behind the text. -/
theorem bind_indices {α : Type} (row col : Option Int32) (next : Int32 → Int32 → Option α) :
    (row.bind fun row => col.bind fun col =>
      if (decide (0 ≤ row) && decide (0 ≤ col)) = true then next row col else none) =
    (row.filter fun row => 0 ≤ row).bind fun row =>
    (col.filter fun col => 0 ≤ col).bind (next row) := by
  cases row with
  | none => rfl
  | some row =>
    cases col with
    | none => by_cases hrow : 0 ≤ row <;> simp [Option.filter, hrow]
    | some col => by_cases hrow : 0 ≤ row <;> by_cases hcol : 0 ≤ col <;> simp [Option.filter, hrow, hcol]

theorem bind_none {α : Type} (row col : Option Int32) :
    (row.bind fun _ => col.bind fun _ => (none : Option α)) = none := by
  cases row with
  | none => rfl
  | some row => cases col <;> rfl

theorem cellUpdateCode_returns (update : Value) :
    Returns (cellUpdateCode update) (decodeCellUpdate update) := by
  have h := (Checked.array_returns (some update)).bind fun fields =>
    Returns.check (3 ≤ fields.length && fields.length ≤ 4) fun _ =>
    (Checked.wrappedInt_returns fields[0]?).bind fun row =>
    (Checked.wrappedInt_returns fields[1]?).bind fun col =>
    (Checked.string_returns fields[2]?).bind fun text =>
    Returns.check (0 ≤ row && 0 ≤ col) fun _ =>
    (cellKeyCode_returns fields[3]?).bind fun value =>
      Returns.pure ({ row, col, text, value } : CellUpdate)
  refine Eq.trans h (congrArg Except.ok ?_)
  cases update with
  | array fields =>
    rcases fields with _ | ⟨row, _ | ⟨col, _ | ⟨text, _ | ⟨value, _ | ⟨other, fields⟩⟩⟩⟩⟩
    · rfl
    · rfl
    · rfl
    · cases text with
      | string text => exact bind_indices (WidgetEvent.asWrappedInt row) (WidgetEvent.asWrappedInt col) _
      | _ => exact bind_none (WidgetEvent.asWrappedInt row) (WidgetEvent.asWrappedInt col)
    · cases text with
      | string text => exact bind_indices (WidgetEvent.asWrappedInt row) (WidgetEvent.asWrappedInt col) _
      | _ => exact bind_none (WidgetEvent.asWrappedInt row) (WidgetEvent.asWrappedInt col)
    · have htyped : decodeCellUpdate (array (row :: col :: text :: value :: other :: fields)) =
        none := by
        cases text <;> rfl
      rw [htyped]
      simp only [Option.bind_some, asArray]
      exact if_neg (by simp)
  | _ => rfl

def cellUpdatesCode (encoded : Value) : Reader (List CellUpdate) := do
  let updates ← Checked.array (some encoded)
  updates.mapM cellUpdateCode

theorem cellUpdatesCode_returns (encoded : Value) :
    Returns (cellUpdatesCode encoded) (decodeCellUpdates encoded) := by
  have h := (Checked.array_returns (some encoded)).bind (Returns.mapM cellUpdateCode_returns)
  cases encoded <;> exact h

def removeRowsCode (encoded : Value) : Reader (List Int32) := do
  let rows ← Checked.array (some encoded)
  let indices ← rows.mapM Checked.decodeIndex
  pure (descending indices)

theorem removeRowsCode_returns (encoded : Value) :
    Returns (removeRowsCode encoded) (decodeRemoveRows encoded) := by
  have h := (Checked.array_returns (some encoded)).bind fun rows =>
    (Returns.mapM Checked.decodeIndex_returns rows).bind fun indices =>
      Returns.pure (descending indices)
  refine Eq.trans h (congrArg Except.ok ?_)
  cases encoded with
  | array rows => exact Option.map_eq_bind.symm
  | _ => rfl

def tableDelta : TotalGetter Widget :=
  .of
    (fun widget => do
      let seq ← tableDeltaSeqCode widget
      let delta ← present (member widget "table_delta")
      let append ← Checked.optionalMember "append" [] rowsCode delta
      -- the columns are checked against the rows that are appended
      let appendValues ← Checked.optionalMember "append_values" []
        (appendValuesCode append.length) delta
      let updateCells ← Checked.optionalMember "update_cells" [] cellUpdatesCode delta
      let removeRows ← Checked.optionalMember "remove_rows" [] removeRowsCode delta
      pure { seq, append, appendValues, updateCells, removeRows })
    (fun widget => widget.1.tableDelta widget.2)
    fun widget => (tableDeltaSeqCode_returns widget).bind fun seq =>
      (Returns.present _).bind fun delta =>
      (Checked.optionalMember_returns rowsCode_returns delta).bind fun append =>
      (Checked.optionalMember_returns (appendValuesCode_returns append.length) delta).bind
        fun appendValues =>
      (Checked.optionalMember_returns cellUpdatesCode_returns delta).bind fun updateCells =>
      (Checked.optionalMember_returns removeRowsCode_returns delta).bind fun removeRows =>
        Returns.pure ({ seq, append, appendValues, updateCells, removeRows } : TableDeltaView)

/-! ### Charts and scenes -/

/-- A pair of numbers; both are looked at before either is taken. -/
def pointCode (point : Value) : Reader (F64 × F64) := do
  let fields ← Checked.array (some point)
  check (fields.length = 2)
  let x ← Checked.double fields[0]?
  let y ← Checked.double fields[1]?
  pure (x, y)

theorem pointCode_returns (point : Value) : Returns (pointCode point) (decodePoint point) := by
  have h := (Checked.array_returns (some point)).bind fun fields =>
    Returns.check (decide (fields.length = 2)) fun _ =>
      (Checked.double_returns fields[0]?).bind fun x =>
      (Checked.double_returns fields[1]?).bind fun y => Returns.pure (x, y)
  refine Eq.trans h (congrArg Except.ok ?_)
  cases point with
  | array fields => rcases fields with _ | ⟨x, _ | ⟨y, _ | ⟨other, fields⟩⟩⟩ <;> rfl
  | _ => rfl

/-- What a reader has read, or a default for what it gave up. -/
def kept {α : Type} (default : α) (read : Reader α) : Reader α :=
  OptionT.lift (read.run.map (·.getD default))

theorem kept_returns {α : Type} {read : Reader α} {result : Option α} (default : α)
    (h : Returns read result) : Returns (kept default read) (some (result.getD default)) := by
  have hread : read.run = .ok result := h
  show (OptionT.lift (read.run.map _)).run = _
  rw [hread]
  rfl

def seriesCode (encoded : Value) : Reader ChartSeriesView := do
  let series ← Checked.object (some encoded)
  let label ← kept [] (Checked.string (series.find "label"))
  let points ← kept [] (Checked.skimmedArray pointCode (series.find "points"))
  let color ← kept [] (Checked.string (series.find "color"))
  let dashed ← kept false (Checked.bool (series.find "dashed"))
  pure { label, points, color, dashed }

theorem seriesCode_returns (encoded : Value) :
    Returns (seriesCode encoded) (decodeSeries encoded) := by
  have h := (Checked.object_returns (some encoded)).bind fun series =>
    (kept_returns [] (Checked.string_returns (series.find "label"))).bind fun label =>
    (kept_returns [] (Checked.skimmedArray_returns pointCode_returns (series.find "points"))).bind
      fun points =>
    (kept_returns [] (Checked.string_returns (series.find "color"))).bind fun color =>
    (kept_returns false (Checked.bool_returns (series.find "dashed"))).bind fun dashed =>
      Returns.pure ({ label, points, color, dashed } : ChartSeriesView)
  refine Eq.trans h (congrArg Except.ok ?_)
  cases encoded with
  | object members =>
    exact congrArg (fun points => some (ChartSeriesView.mk _ points _ _))
      (Option.getD_map (List.filterMap decodePoint) []
        (((object members).find "points").bind asArray))
  | _ => rfl

def chartSeries : TotalGetter Widget :=
  .of (fun widget => Checked.skimmedArray seriesCode (member widget "chart_series"))
    (fun widget => widget.1.chartSeries widget.2)
    fun _ => Checked.skimmedArray_returns seriesCode_returns _

/-- A topic of a scene; the text is looked at where the entry is an object. -/
def sceneTopicCode (entry : Value) : Decoder SceneTopic := do
  let topic ← demanded (Json.text "scene_view topic entries need a non-empty string topic")
    (Checked.object (some entry) >>= Checked.nonEmptyString "topic")
  let dataset ← demanded (Json.text "scene_view topic dataset must be a string")
    (Checked.optionalString "dataset" entry)
  pure { topic, dataset }

/-- A text of an object, which is none of any other value. -/
theorem memberText_returns (key : String) (encoded : Value) :
    Returns (Checked.object (some encoded) >>= Checked.nonEmptyString key)
      (WidgetEvent.nonEmptyString key encoded) := by
  refine Eq.trans ((Checked.object_returns _).bind (Checked.nonEmptyString_returns key))
    (congrArg Except.ok ?_)
  refine EventGetters.bind_asObject (some encoded) fun value hvalue => ?_
  rw [WidgetEvent.nonEmptyString, WidgetEvent.getString, EventGetters.find_asObject hvalue]
  rfl

theorem sceneTopicCode_yields (entry : Value) :
    Yields (sceneTopicCode entry) (decodeSceneTopic entry) :=
  (Yields.demanded (memberText_returns "topic" entry) _).bind fun topic =>
    (Yields.demanded (Checked.optionalString_returns "dataset" entry) _).bind fun dataset =>
      Yields.pure ({ topic, dataset } : SceneTopic)

def sceneTopicsCode (kind : Bytes) : Option Value → Decoder SceneView
  | none => pure { kind }
  | some encoded => do
    let entries ← demanded (Json.text "scene_view topics must be an array")
      (Checked.array (some encoded))
    let topics ← entries.mapM sceneTopicCode
    pure { kind, topics }

def sceneViewCode (encoded : Value) : Decoder SceneView :=
  if encoded.isNull then pure {}
  else do
    let kind ← demanded (Json.text "scene_view must be an object with a non-empty string kind")
      (Checked.object (some encoded) >>= Checked.nonEmptyString "kind")
    sceneTopicsCode kind (encoded.find "topics")

theorem sceneTopicsCode_yields (kind : Bytes) (member : Option Value) :
    Yields (sceneTopicsCode kind member) (member.elim (.ok { kind }) fun encoded =>
      (require (Json.text "scene_view topics must be an array") (asArray encoded)).bind
        fun entries =>
        (entries.mapM decodeSceneTopic).bind fun topics => .ok { kind, topics }) := by
  cases member with
  | none => rfl
  | some encoded =>
    exact (Yields.demanded (Checked.array_returns _) _).bind fun entries =>
      (Yields.mapM sceneTopicCode_yields entries).bind fun topics =>
        Yields.pure ({ kind, topics } : SceneView)

theorem sceneViewCode_yields (encoded : Value) :
    Yields (sceneViewCode encoded) (decodeSceneView encoded) := by
  have h := (Yields.demanded (memberText_returns "kind" encoded)
    (Json.text "scene_view must be an object with a non-empty string kind")).bind fun kind =>
      sceneTopicsCode_yields kind (encoded.find "topics")
  cases encoded with
  | null => rfl
  | object members =>
    refine Eq.trans h (congrArg Except.ok ?_)
    refine congrArg (Except.bind _) (funext fun kind => ?_)
    cases (object members).find "topics" <;> rfl
  | _ => exact h

def sceneView : TotalGetter Widget where
  code widget :=
    match member widget "scene_view" with
    | none => .ok none
    | some encoded => (sceneViewCode encoded).run.map some
  reading widget := widget.1.sceneView widget.2
  reads widget := by
    unfold Getter.Reads WidgetDataView.sceneView member
    dsimp only
    cases widget.1.member widget.2 "scene_view" with
    | none => rfl
    | some encoded =>
      have hencoded : (sceneViewCode encoded).run = .ok (decodeSceneView encoded) :=
        sceneViewCode_yields encoded
      dsimp only
      rw [hencoded]
      rfl

/-! ### Pickers -/

def isStructuredFilePicker : TotalGetter Widget where
  code widget := .ok (member widget "file_picker").isSome
  reading widget := widget.1.isStructuredFilePicker widget.2
  reads _ := rfl

/-- A text that is not empty; it is looked at before it is taken. -/
def patternCode (place : Bytes) (patterns : List Bytes) (encoded : Value) : Decoder Bytes :=
  demanded (element (place ++ Json.text ".patterns") patterns.length ++
    Json.text " must be a non-empty string") do
    let pattern ← Checked.stringRef (some encoded)
    check !pattern.isEmpty
    Checked.string (some encoded)

theorem patternCode_yields (place : Bytes) (patterns : List Bytes) (encoded : Value) :
    Yields (patternCode place patterns encoded) (decodePattern place patterns encoded) := by
  have h := (Checked.stringRef_returns (some encoded)).bind fun pattern =>
    Returns.check (!pattern.isEmpty) fun _ => Checked.string_returns (some encoded)
  refine Eq.trans (Yields.demanded h _) (congrArg (fun pattern => Except.ok (require _ pattern)) ?_)
  show ((WidgetEvent.asString encoded).bind fun pattern =>
    if (!pattern.isEmpty) = true then WidgetEvent.asString encoded else none) = _
  cases WidgetEvent.asString encoded with
  | none => rfl
  | some pattern => cases pattern <;> rfl

def filledArray (member : Option Value) : Reader (List Value) := do
  let values ← Checked.array member
  check !values.isEmpty
  pure values

theorem filledArray_returns (member : Option Value) :
    Returns (filledArray member) ((member.bind asArray).filter fun values => !values.isEmpty) := by
  have h := (Checked.array_returns member).bind fun values =>
    Returns.check (!values.isEmpty) fun _ => Returns.pure values
  refine Eq.trans h (congrArg Except.ok ?_)
  cases member.bind asArray <;> rfl

def filterCode (filters : List FilePickerFilter) (encoded : Value) : Decoder FilePickerFilter := do
  let place := element (Json.text "file_picker.filters") filters.length
  let encoded ← demanded (place ++ Json.text " must be an object") (Checked.object (some encoded))
  let id ← demanded (place ++ Json.text ".id and .label must be strings")
    (Checked.string (encoded.find "id"))
  let label ← demanded (place ++ Json.text ".id and .label must be strings")
    (Checked.string (encoded.find "label"))
  refused (id = []) (place ++ Json.text ".id must not be empty")
  refused (∃ filter ∈ filters, filter.id = id)
    (Json.text "file_picker.filters contains duplicate id " ++ quoted id)
  let encodedPatterns ← demanded (place ++ Json.text ".patterns must be a non-empty array")
    (filledArray (encoded.find "patterns"))
  let patterns ← Checked.decodeOnto (patternCode place) [] encodedPatterns
  pure { id, label, patterns }

theorem filterCode_yields (filters : List FilePickerFilter) (encoded : Value) :
    Yields (filterCode filters encoded) (decodeFilter filters encoded) :=
  (Yields.demanded (Checked.object_returns _) _).bind fun _ =>
    (Yields.demanded (Checked.string_returns _) _).bind fun id =>
    (Yields.demanded (Checked.string_returns _) _).bind fun label =>
    (refused_yields _ _).bind fun _ => (refused_yields _ _).bind fun _ =>
    (Yields.demanded (filledArray_returns _) _).bind fun encodedPatterns =>
    (Checked.decodeOnto_yields (patternCode_yields _) [] encodedPatterns).bind fun patterns =>
      Yields.pure ({ id, label, patterns } : FilePickerFilter)

/-- A text that has to be there, `decodeRequiredString`. -/
def requiredString (key : String) (picker : Value) : Decoder Bytes :=
  demanded (Json.text "file_picker string fields must all be present and strings")
    (Checked.string (picker.find key))

theorem requiredString_yields (key : String) (picker : Value) :
    Yields (requiredString key picker) (pickerString key picker) :=
  Yields.demanded (Checked.string_returns _) _

def filePickerCode (encoded : Value) : Decoder FilePickerOptions := do
  let picker ← demanded (Json.text "file_picker must be an object") (Checked.object (some encoded))
  let modeText ← demanded (Json.text "file_picker.mode must be a string")
    (Checked.stringRef (picker.find "mode"))
  let mode ← demanded (Json.text "file_picker.mode has invalid value " ++ quoted modeText)
    (present (filePickerModeFromWireValue modeText))
  let title ← requiredString "title" picker
  let acceptLabel ← requiredString "accept_label" picker
  let initialDirectory ← requiredString "initial_directory" picker
  let suggestedName ← requiredString "suggested_name" picker
  let defaultSuffix ← requiredString "default_suffix" picker
  let initiallySelectedFilterId ← requiredString "initially_selected_filter_id" picker
  let confirmOverwrite ← demanded (Json.text "file_picker.confirm_overwrite must be a boolean")
    (Checked.bool (picker.find "confirm_overwrite"))
  let encodedFilters ← demanded (Json.text "file_picker.filters must be an array")
    (Checked.array (picker.find "filters"))
  let filters ← Checked.decodeOnto filterCode [] encodedFilters
  refused (initiallySelectedFilterId ≠ [] ∧
    ∀ filter ∈ filters, filter.id ≠ initiallySelectedFilterId)
    (Json.text "file_picker.initially_selected_filter_id references missing filter " ++
      quoted initiallySelectedFilterId)
  pure
    { mode, title, acceptLabel, initialDirectory, suggestedName, defaultSuffix, filters,
      initiallySelectedFilterId, confirmOverwrite }

theorem filePickerCode_yields (encoded : Value) :
    Yields (filePickerCode encoded) (decodeFilePicker encoded) :=
  (Yields.demanded (Checked.object_returns _) _).bind fun picker =>
    (Yields.demanded (Checked.stringRef_returns _) _).bind fun _ =>
    (Yields.demanded (Returns.present _) _).bind fun mode =>
    (requiredString_yields _ picker).bind fun title =>
    (requiredString_yields _ picker).bind fun acceptLabel =>
    (requiredString_yields _ picker).bind fun initialDirectory =>
    (requiredString_yields _ picker).bind fun suggestedName =>
    (requiredString_yields _ picker).bind fun defaultSuffix =>
    (requiredString_yields _ picker).bind fun initiallySelectedFilterId =>
    (Yields.demanded (Checked.bool_returns _) _).bind fun confirmOverwrite =>
    (Yields.demanded (Checked.array_returns _) _).bind fun encodedFilters =>
    (Checked.decodeOnto_yields filterCode_yields [] encodedFilters).bind fun filters =>
    (refused_yields _ _).bind fun _ =>
      Yields.pure
        ({ mode, title, acceptLabel, initialDirectory, suggestedName, defaultSuffix, filters,
           initiallySelectedFilterId, confirmOverwrite } : FilePickerOptions)

def filePickerOptions : TotalGetter Widget :=
  refusing "file_picker" filePickerCode decodeFilePicker filePickerCode_yields

def hasAction (action : String) : TotalGetter Widget where
  code widget :=
    (Checked.string (member widget "action")).run.map
      fun value => decide (value = some (Json.text action))
  reading widget := widget.1.hasAction widget.2 action
  reads widget := by
    have h : (Checked.string (member widget "action")).run =
        .ok (widget.1.getString widget.2 "action") :=
      Checked.string_returns _
    unfold Getter.Reads
    dsimp only
    rw [h]
    rfl

def isFilePicker : TotalGetter Widget := hasAction "file_picker"

def isSaveFilePicker : TotalGetter Widget := hasAction "save_file_picker"

def isFolderPicker : TotalGetter Widget := hasAction "folder_picker"

/-! ### Sliders and times -/

/-- What a reader has read, where it may give up. -/
def maybe {α : Type} (read : Reader α) : Reader (Option α) := OptionT.lift read.run

theorem maybe_returns {α : Type} {read : Reader α} {result : Option α} (h : Returns read result) :
    Returns (maybe read) (some result) := by
  have hread : read.run = .ok result := h
  unfold Returns maybe
  rw [OptionT.run_lift, hread]
  rfl

/-- `PJ::parseNumber<std::int64_t>` -/
def parseNanoseconds (content : Bytes) : Option Int := parseInteger (-2 ^ 63) (2 ^ 63 - 1) content

def timeSpan (minKey maxKey : String) : TotalGetter Widget :=
  .of
    (fun widget => do
      let minText ← maybe (Checked.string (member widget minKey))
      let maxText ← maybe (Checked.string (member widget maxKey))
      -- both texts are read before either is looked at
      let minText ← present minText
      let maxText ← present maxText
      let minNs ← present (parseNanoseconds minText)
      let maxNs ← present (parseNanoseconds maxText)
      pure (Int64.ofInt minNs, Int64.ofInt maxNs))
    (fun widget => widget.1.timeSpan widget.2 minKey maxKey)
    fun _ => (maybe_returns (Checked.string_returns _)).bind fun minText =>
      (maybe_returns (Checked.string_returns _)).bind fun maxText =>
      (Returns.present minText).bind fun minText => (Returns.present maxText).bind fun maxText =>
      (Returns.present (parseNanoseconds minText)).bind fun minNs =>
      (Returns.present (parseNanoseconds maxText)).bind fun maxNs =>
        Returns.pure (Int64.ofInt minNs, Int64.ofInt maxNs)

def rangeSliderTimeSpan : TotalGetter Widget := timeSpan "range_time_min_ns" "range_time_max_ns"

def markerTimelineTimeSpan : TotalGetter Widget :=
  timeSpan "marker_timeline_time_min_ns" "marker_timeline_time_max_ns"

/-- A segment without a start is skipped; its end and its label have defaults. -/
def segmentCode (segment : Value) : Reader RangeSliderMarker := do
  let segment ← Checked.object (some segment)
  let start ← Checked.wrappedInt (segment.find "start")
  let stop ← kept start (Checked.wrappedInt (segment.find "end"))
  let label ← kept [] (Checked.string (segment.find "label"))
  pure { start, stop, label }

theorem segmentCode_returns (segment : Value) :
    Returns (segmentCode segment) (decodeMarker segment) := by
  have h := (Checked.object_returns (some segment)).bind fun segment =>
    (Checked.wrappedInt_returns (segment.find "start")).bind fun start =>
    (kept_returns start (Checked.wrappedInt_returns (segment.find "end"))).bind fun stop =>
    (kept_returns [] (Checked.string_returns (segment.find "label"))).bind fun label =>
      Returns.pure ({ start, stop, label } : RangeSliderMarker)
  refine Eq.trans h (congrArg Except.ok ?_)
  refine EventGetters.bind_asObject (some segment) fun value hvalue => ?_
  rw [EventGetters.find_asObject hvalue]
  rfl

def rangeSliderMarkers : TotalGetter Widget :=
  .of (fun widget => Checked.skimmedArray segmentCode (member widget "range_markers"))
    (fun widget => widget.1.rangeSliderMarkers widget.2)
    fun _ => Checked.skimmedArray_returns segmentCode_returns _

/-- The bounds of a date, where one of them is there. -/
def boundsOf (least greatest : Option Bytes) : Option (Bytes × Bytes) :=
  if least.isSome || greatest.isSome then some (least.getD [], greatest.getD []) else none

def dateTimeRange : TotalGetter Widget :=
  .of
    (fun widget => do
      let least ← maybe (Checked.string (member widget "datetime_min"))
      let greatest ← maybe (Checked.string (member widget "datetime_max"))
      present (boundsOf least greatest))
    (fun widget => boundsOf (widget.1.getString widget.2 "datetime_min")
      (widget.1.getString widget.2 "datetime_max"))
    fun _ => (maybe_returns (Checked.string_returns _)).bind fun least =>
      (maybe_returns (Checked.string_returns _)).bind fun greatest =>
        Returns.present (boundsOf least greatest)

/-! ### Rows and cells -/

/-- `parseNumber<int>` -/
def parseIndex (content : Bytes) : Option Int32 :=
  (parseInteger (-2 ^ 31) (2 ^ 31 - 1) content).map .ofInt

def rowColors : TotalGetter Widget :=
  .of
    (fun widget => do
      let colors ← Checked.members (member widget "row_colors")
      Checked.skim (fun entry => do
        let row ← present (parseIndex entry.1)
        let color ← Checked.string (some entry.2)
        pure (row, color)) colors)
    (fun widget => do
      let colors ← (member widget "row_colors").bind asMembers
      some (colors.filterMap fun entry => do
        let row ← parseIndex entry.1
        let color ← WidgetEvent.asString entry.2
        some (row, color)))
    fun _ => (Returns.present _).bind (Checked.skim_returns fun entry : Bytes × Value =>
      (Returns.present (parseIndex entry.1)).bind fun row =>
        (Checked.string_returns (some entry.2)).bind fun color =>
        Returns.pure (row, color))

def comma : UInt8 := 0x2C

/-- The cell that a key `row,col` names. -/
def cellOf (key : Bytes) : Option (Int32 × Int32) :=
  match cut comma key with
  | (_, none) => none
  | (row, some col) => do
    let row ← parseIndex row
    let col ← parseIndex col
    some (row, col)

def cellTooltips : TotalGetter Widget :=
  .of
    (fun widget => do
      let tooltips ← Checked.members (member widget "cell_tooltips")
      Checked.skim (fun entry => do
        let cell ← present (cellOf entry.1)
        let tooltip ← Checked.string (some entry.2)
        pure (cell, tooltip)) tooltips)
    (fun widget => do
      let tooltips ← (member widget "cell_tooltips").bind asMembers
      some (tooltips.filterMap fun entry => do
        let cell ← cellOf entry.1
        let tooltip ← WidgetEvent.asString entry.2
        some (cell, tooltip)))
    fun _ => (Returns.present _).bind (Checked.skim_returns fun entry : Bytes × Value =>
      (Returns.present (cellOf entry.1)).bind fun cell =>
        (Checked.string_returns (some entry.2)).bind fun tooltip =>
        Returns.pure (cell, tooltip))

/-! ### The dialog -/

def isDropTarget : TotalGetter Widget :=
  .orDefault false (fun widget => Checked.bool (member widget "drop_target"))
    (fun widget => (member widget "drop_target").bind WidgetEvent.asBool) fun _ =>
      Checked.bool_returns _

/-- The widgets that declare themselves targets. -/
def dropTargets : TotalGetter Widget :=
  .orDefault []
    (fun widget => do
      let entries ← Checked.members (some widget.1.data)
      Checked.skim (fun entry => do
        let object ← Checked.object (some entry.2)
        let target ← Checked.bool (object.find "drop_target")
        check target
        pure entry.1) entries)
    (fun widget => do
      let entries ← asMembers widget.1.data
      some (entries.filterMap fun entry => do
        let object ← asObject entry.2
        let target ← (object.find "drop_target").bind WidgetEvent.asBool
        if target then some entry.1 else none))
    fun _ => (Returns.present _).bind (Checked.skim_returns fun entry : Bytes × Value =>
      (Checked.object_returns (some entry.2)).bind fun object =>
      (Checked.bool_returns (object.find "drop_target")).bind fun target =>
      Returns.check target fun _ => Returns.pure entry.1)

/-- A flag of the dialog itself. -/
def request (key : String) : TotalGetter Widget :=
  .orDefault false (fun widget => Checked.bool (widget.1.data.find key))
    (fun widget => (widget.1.data.find key).bind WidgetEvent.asBool) fun _ => Checked.bool_returns _

def requestAccept : TotalGetter Widget := request "__request_accept"

def subPanelClose : TotalGetter Widget := request "__request_sub_panel_close"

/-- The document of a dialog or a panel inside this one. -/
def requestUi (key : String) : TotalGetter Widget :=
  .of
    (fun widget => do
      let object ← Checked.object (widget.1.data.find key)
      Checked.string (object.find "ui"))
    (fun widget => do
      let object ← (widget.1.data.find key).bind asObject
      WidgetEvent.getString "ui" object)
    fun _ => (Checked.object_returns _).bind fun _ => Checked.string_returns _

def subDialogUi : TotalGetter Widget := requestUi "__request_sub_dialog"

def subPanelUi : TotalGetter Widget := requestUi "__request_sub_panel"

def requestClose : TotalGetter Widget :=
  .of (fun widget => Checked.string (widget.1.data.find "__request_close"))
    (fun widget => WidgetEvent.getString "__request_close" widget.1.data) fun _ =>
      Checked.string_returns _

def widgetNames : TotalGetter Widget where
  code widget := .ok (((asMembers widget.1.data).getD []).map Prod.fst)
  reading widget := ((asMembers widget.1.data).getD []).map Prod.fst
  reads _ := rfl

def hasWidget : TotalGetter Widget where
  code widget := .ok (widget.1.widget widget.2).isSome
  reading widget := (widget.1.widget widget.2).isSome
  reads _ := rfl

def raw : TotalGetter Widget where
  code widget := .ok widget.1.data
  reading widget := widget.1.data
  reads _ := rfl

/-! ### Markers -/

/-- The members of a marker are read with defaults, which throws for one of another type; what is
no object is skipped. -/
def markerCode (marker : Value) : Except JsonError (Option ChartMarker) :=
  if marker.isObject then do
    let kind ← marker.valueOr .typeError stringOf "kind" []
    let x0 ← marker.valueOr .typeError WidgetEvent.asDouble "x0" .zero
    let x1 ← marker.valueOr .typeError WidgetEvent.asDouble "x1" .zero
    let y0 ← marker.valueOr .typeError WidgetEvent.asDouble "y0" .zero
    let y1 ← marker.valueOr .typeError WidgetEvent.asDouble "y1" .zero
    let hasValue ← marker.valueOr .typeError booleanOf "has_value" false
    let color ← marker.valueOr .typeError stringOf "color" []
    let label ← marker.valueOr .typeError stringOf "label" []
    .ok (some { kind, x0, x1, y0, y1, hasValue, color, label })
  else .ok none

/-- A marker whose members of other types are missing. -/
def markerReading : Value → Option ChartMarker
  | .object members =>
    let marker := Value.object members
    some
      { kind := ((marker.find "kind").bind stringOf).getD []
        x0 := ((marker.find "x0").bind WidgetEvent.asDouble).getD .zero
        x1 := ((marker.find "x1").bind WidgetEvent.asDouble).getD .zero
        y0 := ((marker.find "y0").bind WidgetEvent.asDouble).getD .zero
        y1 := ((marker.find "y1").bind WidgetEvent.asDouble).getD .zero
        hasValue := ((marker.find "has_value").bind booleanOf).getD false
        color := ((marker.find "color").bind stringOf).getD []
        label := ((marker.find "label").bind stringOf).getD [] }
  | _ => none

def chartMarkersCode (member : Option Value) : Except JsonError (Option (List ChartMarker)) :=
  match member.bind asArray with
  | none => .ok none
  | some markers => (skimmed markerCode markers).map some

def chartMarkersReading (member : Option Value) : Option (List ChartMarker) :=
  (member.bind asArray).map (List.filterMap markerReading)

def chartMarkers : Getter Widget where
  code widget := chartMarkersCode (member widget "chart_markers")
  reading widget := chartMarkersReading (member widget "chart_markers")

def markerTimelineMarks : Getter Widget where
  code widget := widget.1.markerTimelineMarks widget.2
  reading widget := marksReading (member widget "marker_timeline_marks")

/-- The getters that read whatever there is. -/
def total : List (TotalGetter Widget) :=
  [text, placeholder, readOnly, currentIndex, items, checked, valueInt, valueDouble, rangeMin,
    rangeMax,
    listItems, selectedItems, listDeletable, listPlaceholder, listItemColors, listDisabledItems,
    listMultiSelect, treeHeaders, treeItems, treeSelectedIds, treeExpandedIds, treeVisibilityUpdate,
    treeMultiSelection, tableHeaders, tableRows, tableColumnValues, tableSortIndicator,
      tableRadioColumn,
    tableRadioCheckedRow, tableDeltaSeq, tableDelta, selectedRows, disabledRows, visibleRows,
      chartSeries,
    sceneView, chartZoomEnabled, chartAutoZoom, chartPlaceholder, plainText, codeContent,
      codeLanguage,
    codeCursor, codeCaretTracking, label, buttonText, buttonIconSvg, buttonIconName, shortcut,
    isStructuredFilePicker, filePickerOptions, isFilePicker, isSaveFilePicker,
      saveFilePickerDefaultSuffix,
    filePickerFilter, filePickerTitle, isFolderPicker, folderPickerTitle, rangeSliderMin,
      rangeSliderMax,
    rangeSliderLower, rangeSliderUpper, rangeSliderTimeSpan, rangeSliderMarkers, dateRangeEarliest,
    dateRangeLatest, markerTimelineMin, markerTimelineMax, markerTimelineTimeSpan, fieldValid,
    fieldValidTooltip, okEnabled, tabIndex, stackedPage, stackedIndex, isDropTarget, dropTargets,
      dateTime,
    dateTimeRange, enabled, visible, requestAccept, subDialogUi, subPanelUi, subPanelClose,
      requestClose,
    rowColors, cellTooltips, widgetNames, hasWidget, raw]

def all : List (Getter Widget) :=
  chartMarkers :: markerTimelineMarks :: total.map TotalGetter.toGetter

end ViewGetters

/-! ## Every getter -/

end Dialog

end PlotJugglerSdk
