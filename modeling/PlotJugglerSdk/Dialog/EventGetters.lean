import PlotJugglerSdk.Dialog.WidgetDataView
import PlotJugglerSdk.Json.Access
import PlotJugglerSdk.Scan.Folds

/-!
# The getters of an event and their exceptions

The getters of `WidgetEvent` as they call the JSON library: each looks at the type of a member
before it takes its content. A getter comes with its reading, in which what has another type is
missing or skipped (`Getter.Reads`), and all but one come with a proof that they read it from
whatever there is (`TotalGetter`).

* `Checked.…`      — the accesses the getters are made of
* `EventGetters.…` — the getters
-/

namespace PlotJugglerSdk

namespace Dialog

open Json Value Wire

/-- A getter as the code computes it, and what it is to read. -/
structure Getter (σ : Type) where
  {content : Type}
  code : σ → Except JsonError content
  reading : σ → content

/-- The getter returns without an exception what it is to read. -/
def Getter.Reads {σ : Type} (getter : Getter σ) (data : σ) : Prop :=
  getter.code data = .ok (getter.reading data)

/-- A getter that reads whatever there is. -/
structure TotalGetter (σ : Type) extends Getter σ where
  reads : ∀ data, toGetter.Reads data

/-- A reader that may give up. -/
abbrev Reader (α : Type) : Type := OptionT (Except JsonError) α

def TotalGetter.of {σ α : Type} (code : σ → Reader α) (reading : σ → Option α)
    (h : ∀ data, Returns (code data) (reading data)) : TotalGetter σ where
  code data := (code data).run
  reading := reading
  reads := h

/-- A getter with a default for what it cannot read. -/
def TotalGetter.orDefault {σ α : Type} (default : α) (code : σ → Reader α) (reading : σ → Option α)
    (h : ∀ data, Returns (code data) (reading data)) : TotalGetter σ where
  code data := (code data).run.map (·.getD default)
  reading data := (reading data).getD default
  reads data := by
    have hdata : (code data).run = .ok (reading data) := h data
    show (code data).run.map _ = _
    rw [hdata]
    rfl

/-! ## Accesses -/

namespace Checked

def string (member : Option Value) : Reader Bytes :=
  OptionT.mk (guarded isString (get .typeError stringOf) member)

/-- As `string`, by reference. -/
def stringRef (member : Option Value) : Reader Bytes :=
  OptionT.mk (guarded isString (getRef .typeError stringOf) member)

def bool (member : Option Value) : Reader Bool :=
  OptionT.mk (guarded isBoolean (get .typeError booleanOf) member)

def double (member : Option Value) : Reader F64 :=
  OptionT.mk (guarded isNumber (get .typeError WidgetEvent.asDouble) member)

/-- `is_number_integer`, then `get<int>`. -/
def wrappedInt (member : Option Value) : Reader Int32 :=
  OptionT.mk (guarded isNumberInteger (get .typeError int32Of) member)

def decodeInt (encoded : Value) : Reader Int32 :=
  if encoded.isNumberUnsigned then do
    let value ← OptionT.lift (encoded.get .typeError uint64Of)
    check (!(value > 0x7FFFFFFF))
    pure value.toUInt32.toInt32
  else if encoded.isNumberInteger then do
    let value ← OptionT.lift (encoded.get .typeError int64Of)
    check (!(value < -0x80000000 || value > 0x7FFFFFFF))
    pure value.toInt32
  else present none

/-- The elements of an array. -/
def array (member : Option Value) : Reader (List Value) := present (member.bind asArray)

def object (member : Option Value) : Reader Value := present (member.bind asObject)

def decodeStrictStringArray (encoded : Value) : Reader (List Bytes) := do
  let values ← array (some encoded)
  values.mapM fun value => string (some value)

/-- A loop that takes what it can read. -/
def skim {α β : Type} (read : β → Reader α) (items : List β) : Reader (List α) :=
  OptionT.lift (skimmed (fun item => (read item).run) items)

/-- The texts of an array, without what is no text. -/
def stringArray (member : Option Value) : Reader (List Bytes) := do
  let values ← array member
  skim (fun item => string (some item)) values

/-- A text that may be missing. -/
def optionalString (key : String) (object : Value) : Reader Bytes :=
  match object.find key with
  | none => pure []
  | some value => string (some value)

def optionalStringArray (key : String) (object : Value) : Reader (List Bytes) :=
  match object.find key with
  | none => pure []
  | some value => decodeStrictStringArray value

def nonEmptyString (key : String) (object : Value) : Reader Bytes := do
  let content ← stringRef (object.find key)
  check !content.isEmpty
  string (object.find key)

def nonNegativeInt (key : String) (object : Value) : Reader Int32 := do
  let encoded ← present (object.find key)
  let value ← decodeInt encoded
  check (0 ≤ value)
  pure value

/-! ### What they read -/

theorem string_returns (member : Option Value) :
    Returns (string member) (member.bind WidgetEvent.asString) := by
  refine guarded_eq ?_ ?_ member
  · intro value his
    cases value <;> first | exact ⟨_, rfl, rfl⟩ | cases his
  · intro value hnot
    cases value <;> first | rfl | cases hnot

theorem stringRef_returns (member : Option Value) :
    Returns (stringRef member) (member.bind WidgetEvent.asString) := by
  refine guarded_eq ?_ ?_ member
  · intro value his
    cases value <;> first | exact ⟨_, rfl, rfl⟩ | cases his
  · intro value hnot
    cases value <;> first | rfl | cases hnot

theorem bool_returns (member : Option Value) :
    Returns (bool member) (member.bind WidgetEvent.asBool) := by
  refine guarded_eq ?_ ?_ member
  · intro value his
    cases value <;> first | exact ⟨_, rfl, rfl⟩ | cases his
  · intro value hnot
    cases value <;> first | rfl | cases hnot

theorem double_returns (member : Option Value) :
    Returns (double member) (member.bind WidgetEvent.asDouble) := by
  refine guarded_eq ?_ ?_ member
  · intro value his
    cases value <;> first | exact ⟨_, rfl, rfl⟩ | cases his
  · intro value hnot
    cases value <;> first | rfl | cases hnot

theorem wrappedInt_returns (member : Option Value) :
    Returns (wrappedInt member) (member.bind WidgetEvent.asWrappedInt) := by
  refine guarded_eq ?_ ?_ member
  · intro value his
    cases value <;> first | exact ⟨_, rfl, rfl⟩ | cases his
  · intro value hnot
    cases value <;> first | rfl | cases hnot

theorem decodeInt_returns (encoded : Value) :
    Returns (decodeInt encoded) (WidgetEvent.decodeInt encoded) := by
  cases encoded with
  | unsigned value =>
    have hread :
        Returns (OptionT.lift ((unsigned value).get JsonError.typeError uint64Of)) (some value) :=
      Returns.get rfl
    refine (hread.bind fun value => Returns.check _ fun _ => Returns.pure _).trans
      (congrArg Except.ok ?_)
    show (if (!decide (value > 0x7FFFFFFF)) = true then _ else _) = if value > 0x7FFFFFFF then
      none else _
    by_cases hlarge : value > 0x7FFFFFFF
    · rw [if_pos hlarge, decide_eq_true hlarge]
      rfl
    · rw [if_neg hlarge, decide_eq_false hlarge]
      rfl
  | integer value =>
    have hread :
        Returns (OptionT.lift ((integer value).get JsonError.typeError int64Of)) (some value) :=
      Returns.get rfl
    refine (hread.bind fun value => Returns.check _ fun _ => Returns.pure _).trans
      (congrArg Except.ok ?_)
    show (if (!(decide (value < -0x80000000) || decide (value > 0x7FFFFFFF))) = true then
      _ else _) =
      if (decide (value < -0x80000000) || decide (value > 0x7FFFFFFF)) = true then none else _
    cases decide (value < -0x80000000) || decide (value > 0x7FFFFFFF) <;> rfl
  | _ => rfl

theorem array_returns (member : Option Value) : Returns (array member) (member.bind asArray) := rfl

theorem object_returns (member : Option Value) :
    Returns (object member) (member.bind asObject) := rfl

theorem decodeStrictStringArray_returns (encoded : Value) :
    Returns (decodeStrictStringArray encoded) (WidgetEvent.decodeStrictStringArray encoded) := by
  have h : Returns (decodeStrictStringArray encoded)
      ((asArray encoded).bind fun values => values.mapM WidgetEvent.asString) :=
    (array_returns _).bind fun values => Returns.mapM (fun value => string_returns (some value))
      values
  cases encoded <;> exact h

theorem skim_returns {α β : Type} {read : β → Reader α} {decode : β → Option α}
    (h : ∀ item, Returns (read item) (decode item)) (items : List β) :
    Returns (skim read items) (some (items.filterMap decode)) := by
  unfold Returns skim
  rw [OptionT.run_lift, skimmed_eq fun item _ => h item]
  rfl

theorem stringArray_returns (member : Option Value) :
    Returns (stringArray member) (member.bind WidgetEvent.decodeStringArray) := by
  have h := (array_returns member).bind (skim_returns fun item => string_returns (some item))
  refine Eq.trans h (congrArg Except.ok ?_)
  cases member with
  | none => rfl
  | some value => cases value <;> rfl

theorem optionalString_returns (key : String) (object : Value) :
    Returns (optionalString key object) (WidgetEvent.optionalString key object) := by
  unfold optionalString WidgetEvent.optionalString
  cases object.find key with
  | none => exact Returns.pure []
  | some value => exact string_returns (some value)

theorem optionalStringArray_returns (key : String) (object : Value) :
    Returns (optionalStringArray key object) (WidgetEvent.optionalStringArray key object) := by
  unfold optionalStringArray WidgetEvent.optionalStringArray
  cases object.find key with
  | none => exact Returns.pure []
  | some value => exact decodeStrictStringArray_returns value

theorem nonEmptyString_returns (key : String) (object : Value) :
    Returns (nonEmptyString key object) (WidgetEvent.nonEmptyString key object) := by
  have h := (stringRef_returns (object.find key)).bind fun content =>
    Returns.check (!content.isEmpty) fun _ => string_returns (object.find key)
  refine h.trans (congrArg Except.ok ?_)
  unfold WidgetEvent.nonEmptyString WidgetEvent.getString
  cases (object.find key).bind WidgetEvent.asString with
  | none => rfl
  | some content => cases content <;> rfl

theorem nonNegativeInt_returns (key : String) (object : Value) :
    Returns (nonNegativeInt key object) (WidgetEvent.nonNegativeInt key object) := by
  have h := (Returns.present (object.find key)).bind fun encoded =>
      (decodeInt_returns encoded).bind fun value =>
    Returns.check (decide (0 ≤ value)) fun _ => Returns.pure value
  refine h.trans (congrArg Except.ok ?_)
  unfold WidgetEvent.nonNegativeInt WidgetEvent.getInt
  cases (object.find key) with
  | none => rfl
  | some encoded =>
    show (WidgetEvent.decodeInt encoded).bind _ = (WidgetEvent.decodeInt encoded).filter _
    cases WidgetEvent.decodeInt encoded with
    | none => rfl
    | some value => rfl

end Checked

/-! ## Marks

The marks of a timeline are read with defaults (`value(key, default)`), which throws for a member
of another type, and for a mark that is no object. -/

section Marks

/-- A mark whose members of other types are missing; what is no object is skipped. -/
def markReading : Value → Option TimelineMark
  | .object members =>
    let mark := Value.object members
    some
      { id := ((mark.find "id").bind WidgetEvent.asWrappedInt).getD 0
        region := ((mark.find "region").bind WidgetEvent.asBool).getD true
        start := ((mark.find "start").bind WidgetEvent.asWrappedInt).getD 0
        stop := ((mark.find "end").bind WidgetEvent.asWrappedInt).getD 0 }
  | _ => none

def marksReading (member : Option Value) : Option (List TimelineMark) :=
  (member.bind asArray).map (List.filterMap markReading)

end Marks

/-! ## The getters -/

namespace EventGetters

def getString (key : String) : TotalGetter Value :=
  .of (fun event => Checked.string (event.find key)) (WidgetEvent.getString key)
    fun _ => Checked.string_returns _

def getInt (key : String) : TotalGetter Value :=
  .of (fun event => present (event.find key) >>= Checked.decodeInt) (WidgetEvent.getInt key)
    fun _ => (Returns.present _).bind Checked.decodeInt_returns

def getBool (key : String) : TotalGetter Value :=
  .of (fun event => Checked.bool (event.find key)) (WidgetEvent.getBool key) fun _ =>
    Checked.bool_returns _

def text : TotalGetter Value := getString "text"

def currentIndex : TotalGetter Value := getInt "current_index"

def currentText : TotalGetter Value := getString "current_text"

def checked : TotalGetter Value := getBool "checked"

def valueInt : TotalGetter Value := getInt "value"

def valueDouble : TotalGetter Value :=
  .of (fun event => Checked.double (event.find "value")) WidgetEvent.valueDouble
    fun _ => Checked.double_returns _

def selectedItems : TotalGetter Value :=
  .of (fun event => Checked.stringArray (event.find "selected_items")) WidgetEvent.selectedItems
    fun _ => Checked.stringArray_returns _

def clicked : TotalGetter Value :=
  .orDefault false (fun event => Checked.bool (event.find "clicked"))
    (WidgetEvent.getBool "clicked")
    fun _ => Checked.bool_returns _

def fileSelected : TotalGetter Value := getString "file_selected"

def folderSelected : TotalGetter Value := getString "folder_selected"

/-- The texts in the order they are looked at. -/
def sceneViewErrorCode (event : Value) : Reader SceneViewError := do
  let object ← Checked.object (event.find "scene_view_error")
  let kind ← Checked.optionalString "kind" object
  let topic ← Checked.optionalString "topic" object
  let dataset ← Checked.optionalString "dataset" object
  let reason ← Checked.optionalString "reason" object
  check (reason ≠ [])
  pure { kind, topic, dataset, reason }

theorem sceneViewErrorCode_returns (event : Value) :
    Returns (sceneViewErrorCode event) (WidgetEvent.sceneViewError event) := by
  have h := (Checked.object_returns (event.find "scene_view_error")).bind fun object =>
    (Checked.optionalString_returns "kind" object).bind fun kind =>
    (Checked.optionalString_returns "topic" object).bind fun topic =>
    (Checked.optionalString_returns "dataset" object).bind fun dataset =>
    (Checked.optionalString_returns "reason" object).bind fun reason =>
    Returns.check (decide (reason ≠ [])) fun _ =>
      Returns.pure ({ kind, topic, dataset, reason } : SceneViewError)
  refine Eq.trans h (congrArg Except.ok ?_)
  unfold WidgetEvent.sceneViewError
  cases event.find "scene_view_error" with
  | none => rfl
  | some value =>
    cases value with
    | object members =>
      show (WidgetEvent.optionalString "kind" (.object members)).bind _ =
        (WidgetEvent.optionalString "kind" (.object members)).bind _
      refine Option.bind_congr fun kind _ => Option.bind_congr fun topic _ =>
        Option.bind_congr fun dataset _ => Option.bind_congr fun reason _ => ?_
      cases reason <;> rfl
    | _ => rfl

def sceneViewError : TotalGetter Value :=
  .of sceneViewErrorCode WidgetEvent.sceneViewError sceneViewErrorCode_returns

def filePickerResultCode (event : Value) : Reader FilePickerResult := do
  let result ← Checked.object (event.find "file_picker_result")
  let status ← Checked.stringRef (result.find "status") >>=
    (present <| filePickerStatusFromWireValue ·)
  let mode ← Checked.stringRef (result.find "mode") >>= (present <| filePickerModeFromWireValue ·)
  let paths ← present (result.find "paths") >>= Checked.decodeStrictStringArray
  check !(paths.any List.isEmpty || (status = .selected && paths.isEmpty))
  let displayNames ← Checked.optionalStringArray "display_names" result
  let selectedFilterId ← Checked.optionalString "selected_filter_id" result
  let error ← Checked.optionalString "error" result
  pure { status, mode, paths, displayNames, selectedFilterId, error }

theorem filePickerResultCode_returns (event : Value) :
    Returns (filePickerResultCode event) (WidgetEvent.filePickerResult event) := by
  have h := (Checked.object_returns (event.find "file_picker_result")).bind fun result =>
    ((Checked.stringRef_returns (result.find "status")).bind fun status =>
      Returns.present (filePickerStatusFromWireValue status)).bind fun status =>
    ((Checked.stringRef_returns (result.find "mode")).bind fun mode =>
      Returns.present (filePickerModeFromWireValue mode)).bind fun mode =>
    ((Returns.present (result.find "paths")).bind Checked.decodeStrictStringArray_returns).bind
      fun paths =>
    Returns.check (!(paths.any List.isEmpty || (status = .selected && paths.isEmpty))) fun _ =>
    (Checked.optionalStringArray_returns "display_names" result).bind fun displayNames =>
    (Checked.optionalString_returns "selected_filter_id" result).bind fun selectedFilterId =>
    (Checked.optionalString_returns "error" result).bind fun error =>
      Returns.pure
        ({ status, mode, paths, displayNames, selectedFilterId, error } : FilePickerResult)
  refine Eq.trans h (congrArg Except.ok ?_)
  unfold WidgetEvent.filePickerResult
  cases event.find "file_picker_result" with
  | none => rfl
  | some value =>
    cases value with
    | object members =>
      show ((WidgetEvent.getString "status" (.object members)).bind _).bind _ =
        ((WidgetEvent.getString "status" (.object members)).bind _).bind _
      refine Option.bind_congr fun status _ => Option.bind_congr fun mode _ =>
        Option.bind_congr fun paths _ => ?_
      cases paths.any List.isEmpty || (decide (status = .selected) && paths.isEmpty) <;> rfl
    | _ => rfl

def filePickerResult : TotalGetter Value :=
  .of filePickerResultCode WidgetEvent.filePickerResult filePickerResultCode_returns

def tabIndex : TotalGetter Value := getInt "tab_index"

def stackedIndex : TotalGetter Value := getInt "stacked_index"

def stackedPage : TotalGetter Value := getString "stacked_page"

def treeSelectionChangedCode (event : Value) : Reader (List Bytes) := do
  let encodedIds ← Checked.array (event.find "tree_selection_changed")
  encodedIds.mapM fun encodedId => do
    let id ← Checked.string (some encodedId)
    check !id.isEmpty
    pure id

theorem mapM_nonEmpty (encodedIds : List Value) :
    (encodedIds.mapM fun encodedId => (WidgetEvent.asString encodedId).bind fun id =>
      if (!id.isEmpty) = true then some id else none) =
        (encodedIds.mapM WidgetEvent.asString).filter fun ids => !ids.any List.isEmpty := by
  induction encodedIds with
  | nil => rfl
  | cons encodedId encodedIds ih =>
    rw [List.mapM_cons, List.mapM_cons, ih]
    cases WidgetEvent.asString encodedId with
    | none => rfl
    | some id =>
      cases encodedIds.mapM WidgetEvent.asString with
      | none => cases id <;> rfl
      | some ids =>
        cases id with
        | nil => rfl
        | cons c id => cases hempty : ids.any List.isEmpty <;> simp [Option.filter, hempty]

theorem treeSelectionChangedCode_returns (event : Value) :
    Returns (treeSelectionChangedCode event) (WidgetEvent.treeSelectionChanged event) := by
  have h := (Checked.array_returns (event.find "tree_selection_changed")).bind fun encodedIds =>
    Returns.mapM (fun encodedId => (Checked.string_returns (some encodedId)).bind fun id =>
      Returns.check (!id.isEmpty) fun _ => Returns.pure id) encodedIds
  refine Eq.trans h (congrArg Except.ok ?_)
  unfold WidgetEvent.treeSelectionChanged
  cases event.find "tree_selection_changed" with
  | none => rfl
  | some value =>
    cases value with
    | array encodedIds => exact mapM_nonEmpty encodedIds
    | _ => rfl

def treeSelectionChanged : TotalGetter Value :=
  .of treeSelectionChangedCode WidgetEvent.treeSelectionChanged treeSelectionChangedCode_returns

/-- What is read of an object that nothing else would be read of. -/
theorem bind_asObject {α : Type} (member : Option Value) {decode : Value → Option α}
    (h : ∀ value, asObject value = none → decode value = none) :
    (member.bind asObject).bind decode = member.bind decode := by
  cases member with
  | none => rfl
  | some value =>
    cases hvalue : asObject value with
    | none =>
      show (asObject value).bind decode = decode value
      rw [h value hvalue, hvalue]
      rfl
    | some object =>
      show (asObject value).bind decode = decode value
      cases value with
      | object members => rfl
      | _ => cases hvalue

theorem find_asObject {value : Value} (h : asObject value = none) (key : String) :
    value.find key = none := by
  cases value with
  | object members => cases h
  | _ => rfl

def treeItemActivatedCode (event : Value) : Reader (Bytes × Int32) := do
  let object ← Checked.object (event.find "tree_item_activated")
  let id ← Checked.nonEmptyString "id" object
  let column ← Checked.nonNegativeInt "column" object
  pure (id, column)

theorem treeItemActivatedCode_returns (event : Value) :
    Returns (treeItemActivatedCode event) (WidgetEvent.treeItemActivated event) := by
  have h := (Checked.object_returns (event.find "tree_item_activated")).bind fun object =>
    (Checked.nonEmptyString_returns "id" object).bind fun id =>
    (Checked.nonNegativeInt_returns "column" object).bind fun column => Returns.pure (id, column)
  refine Eq.trans h (congrArg Except.ok (bind_asObject _ fun value hvalue => ?_))
  rw [WidgetEvent.nonEmptyString, WidgetEvent.getString, find_asObject hvalue]
  rfl

def treeItemActivated : TotalGetter Value :=
  .of treeItemActivatedCode WidgetEvent.treeItemActivated treeItemActivatedCode_returns

def treeExpansionChangedCode (event : Value) : Reader (Bytes × Bool) := do
  let object ← Checked.object (event.find "tree_expansion_changed")
  let id ← Checked.nonEmptyString "id" object
  let expanded ← Checked.bool (object.find "expanded")
  pure (id, expanded)

theorem treeExpansionChangedCode_returns (event : Value) :
    Returns (treeExpansionChangedCode event) (WidgetEvent.treeExpansionChanged event) := by
  have h := (Checked.object_returns (event.find "tree_expansion_changed")).bind fun object =>
    (Checked.nonEmptyString_returns "id" object).bind fun id =>
    (Checked.bool_returns (object.find "expanded")).bind fun expanded => Returns.pure (id, expanded)
  refine Eq.trans h (congrArg Except.ok (bind_asObject _ fun value hvalue => ?_))
  rw [WidgetEvent.nonEmptyString, WidgetEvent.getString, find_asObject hvalue]
  rfl

def treeExpansionChanged : TotalGetter Value :=
  .of treeExpansionChangedCode WidgetEvent.treeExpansionChanged treeExpansionChangedCode_returns

def treeCheckStateChangedCode (event : Value) : Reader (Bytes × TreeCheckState) := do
  let object ← Checked.object (event.find "tree_check_state_changed")
  let id ← Checked.nonEmptyString "id" object
  let state ← Checked.stringRef (object.find "state") >>= (present <| treeCheckStateFromWireValue ·)
  pure (id, state)

theorem treeCheckStateChangedCode_returns (event : Value) :
    Returns (treeCheckStateChangedCode event) (WidgetEvent.treeCheckStateChanged event) := by
  have h := (Checked.object_returns (event.find "tree_check_state_changed")).bind fun object =>
    (Checked.nonEmptyString_returns "id" object).bind fun id =>
    ((Checked.stringRef_returns (object.find "state")).bind fun state =>
      Returns.present (treeCheckStateFromWireValue state)).bind fun state =>
        Returns.pure (id, state)
  refine Eq.trans h (congrArg Except.ok (bind_asObject _ fun value hvalue => ?_))
  rw [WidgetEvent.nonEmptyString, WidgetEvent.getString, find_asObject hvalue]
  rfl

def treeCheckStateChanged : TotalGetter Value :=
  .of treeCheckStateChangedCode WidgetEvent.treeCheckStateChanged treeCheckStateChangedCode_returns

def itemDoubleClickedIndex : TotalGetter Value := getInt "item_double_clicked_index"

def itemDeleteRequestedIndex : TotalGetter Value := getInt "item_delete_index"

def itemContextActionCode (event : Value) : Reader (Int32 × Bytes) := do
  let object ← Checked.object (event.find "item_context_action")
  let action ← Checked.nonEmptyString "action" object
  let index ← Checked.nonNegativeInt "index" object
  pure (index, action)

theorem itemContextActionCode_returns (event : Value) :
    Returns (itemContextActionCode event) (WidgetEvent.itemContextAction event) := by
  have h := (Checked.object_returns (event.find "item_context_action")).bind fun object =>
    (Checked.nonEmptyString_returns "action" object).bind fun action =>
    (Checked.nonNegativeInt_returns "index" object).bind fun index => Returns.pure (index, action)
  refine Eq.trans h (congrArg Except.ok (bind_asObject _ fun value hvalue => ?_))
  rw [WidgetEvent.nonEmptyString, WidgetEvent.getString, find_asObject hvalue]
  rfl

def itemContextAction : TotalGetter Value :=
  .of itemContextActionCode WidgetEvent.itemContextAction itemContextActionCode_returns

def headerSection : TotalGetter Value := getInt "header_section"

def tableRadioRow : TotalGetter Value := getInt "table_radio_row"

def codeChanged : TotalGetter Value := getString "code_changed"

def codeCursor : TotalGetter Value :=
  .of (fun event => Checked.wrappedInt (event.find "code_cursor")) WidgetEvent.codeCursor
    fun _ => Checked.wrappedInt_returns _

def itemsDropped : TotalGetter Value :=
  .of (fun event => Checked.stringArray (event.find "items_dropped")) WidgetEvent.itemsDropped
    fun _ => Checked.stringArray_returns _

/-- What is no 32-bit id is read as 0, which keeps the others aligned. -/
def dataSourceCode (item : Value) : Except JsonError UInt32 := do
  let valid ←
    if item.isNumberUnsigned then
      (item.get .typeError uint64Of).map fun value => decide (value ≤ 0xFFFFFFFF)
    else .ok false
  if valid then item.get .typeError uint32Of else .ok 0

theorem dataSourceCode_eq (item : Value) :
    dataSourceCode item = .ok (WidgetEvent.decodeDataSource item) := by
  cases item with
  | unsigned value =>
    show (if decide (value ≤ 0xFFFFFFFF) = true then Except.ok value.toUInt32 else .ok 0) =
      .ok (if value ≤ 0xFFFFFFFF then value.toUInt32 else 0)
    by_cases h : value ≤ 0xFFFFFFFF
    · rw [if_pos (decide_eq_true h), if_pos h]
    · rw [if_neg (fun hdecide => h (of_decide_eq_true hdecide)), if_neg h]
  | _ => rfl

def itemsDroppedDataSources : TotalGetter Value where
  code event :=
    match (event.find "items_dropped_data_sources").bind asArray with
    | none => .ok []
    | some items => items.mapM dataSourceCode
  reading := WidgetEvent.itemsDroppedDataSources
  reads event := by
    unfold Getter.Reads WidgetEvent.itemsDroppedDataSources
    dsimp only
    cases event.find "items_dropped_data_sources" with
    | none => rfl
    | some value =>
      cases value with
      | array items =>
        show items.mapM dataSourceCode = _
        rw [funext dataSourceCode_eq]
        exact mapM_ok items
      | _ => rfl

def dateRangeChanged : TotalGetter Value :=
  .of
    (fun event => do
      let fromIso ← Checked.string (event.find "date_from_iso")
      let toIso ← Checked.string (event.find "date_to_iso")
      pure (fromIso, toIso))
    WidgetEvent.dateRangeChanged
    fun _ => (Checked.string_returns _).bind fun fromIso =>
      (Checked.string_returns _).bind fun toIso =>
      Returns.pure (fromIso, toIso)

def dateTimeChanged : TotalGetter Value := getString "datetime_iso"

def rangeChanged : TotalGetter Value :=
  .of
    (fun event => do
      let lower ← Checked.wrappedInt (event.find "range_lower")
      let upper ← Checked.wrappedInt (event.find "range_upper")
      pure (lower, upper))
    WidgetEvent.rangeChanged
    fun _ => (Checked.wrappedInt_returns _).bind fun lower =>
      (Checked.wrappedInt_returns _).bind fun upper =>
      Returns.pure (lower, upper)

def chartViewChanged : TotalGetter Value :=
  .of
    (fun event => do
      let xMin ← Checked.double (event.find "chart_x_min")
      let xMax ← Checked.double (event.find "chart_x_max")
      let yMin ← Checked.double (event.find "chart_y_min")
      let yMax ← Checked.double (event.find "chart_y_max")
      pure (xMin, xMax, yMin, yMax))
    WidgetEvent.chartViewChanged
    fun _ => (Checked.double_returns _).bind fun xMin => (Checked.double_returns _).bind fun xMax =>
      (Checked.double_returns _).bind fun yMin => (Checked.double_returns _).bind fun yMax =>
        Returns.pure (xMin, xMax, yMin, yMax)

def has (key : String) : TotalGetter Value where
  code event := .ok (event.contains key)
  reading event := event.contains key
  reads _ := rfl

def raw : TotalGetter Value where
  code event := .ok event
  reading event := event
  reads _ := rfl

def markerTimelineChanged : Getter Value where
  code := WidgetEvent.markerTimelineChanged
  reading event := marksReading (event.find "marker_timeline_marks")

/-- The getters that read whatever there is; `has` is asked for a key. -/
def total (key : String) : List (TotalGetter Value) :=
  [text, currentIndex, currentText, checked, valueInt, valueDouble, selectedItems, clicked,
    fileSelected,
    folderSelected, sceneViewError, filePickerResult, tabIndex, stackedIndex, stackedPage,
    treeSelectionChanged, treeItemActivated, treeExpansionChanged, treeCheckStateChanged,
    itemDoubleClickedIndex, itemDeleteRequestedIndex, itemContextAction, headerSection,
      tableRadioRow,
    codeChanged, codeCursor, itemsDropped, itemsDroppedDataSources, dateRangeChanged,
      dateTimeChanged,
    rangeChanged, chartViewChanged, has key, raw]

def all (key : String) : List (Getter Value) :=
  markerTimelineChanged :: (total key).map TotalGetter.toGetter

end EventGetters

end Dialog

end PlotJugglerSdk
