import PlotJugglerSdk.Dialog.Payloads
import PlotJugglerSdk.Order.SortedMap

/-!
# Dispatch fails closed

`onWidgetEvent` with the callbacks it calls: each is recorded when it is called, so that an
event that calls none is told from one whose callback declines. Four channels claim an event
before the legacy ones; what they accept is said here of the document, not of the decoders.

* `Claim`, `claims`           — the channels that claim an event, in the order of their priority
* `handleWidgetEvent_decided` — who is called, and who is not
-/

namespace PlotJugglerSdk

namespace Dialog

open Wire Json Value WidgetEvent

/-! ## Handling an event -/

/-- Callbacks are recorded in the order they are called, and an exception may leave. -/
abbrev Handling := ExceptT JsonError (StateM (List Callback))

/-- What came of an event: the result or an exception, and the callbacks that were called. -/
abbrev Outcome := Except JsonError Bool × List Callback

section Handlers

variable (plugin : Callback → Bool)

/-- `return onText(...)` and its likes. -/
def call (callback : Callback) : Handling Bool := do
  modify fun called => called ++ [callback]
  return plugin callback

/-- Call what was read; nothing is called where nothing was. -/
def callRead : Option Callback → Handling Bool
  | some callback => call plugin callback
  | none => return false

def tryChannels : List Channel → Value → Handling Bool
  | [], _ => return false
  | channel :: channels, event =>
    match channel.read event with
    | .error e => throw e
    | .ok (some callback) => call plugin callback
    | .ok none => tryChannels channels event

def handle (event : Value) : Handling Bool :=
  if event.contains "file_picker_result" then callRead plugin (pickerChannel event)
  else if event.contains "scene_view_error" then
    callRead plugin ((sceneViewError event).map .onSceneViewError)
  else if treeKeys.countP event.contains ≠ 0 then callRead plugin (treeChannel event)
  else if event.contains "stacked_index" || event.contains "stacked_page" then
    callRead plugin (stackedChannel event)
  else tryChannels plugin legacyChannels event

def handleWidgetEvent (parse : Bytes → Option Value) (eventJson : Bytes) : Outcome :=
  (handle plugin ((parse eventJson).getD (.object []))).run.run []

/-- The outcome of a dispatch. -/
def delivered : Except JsonError (Option Callback) → Outcome
  | .error e => (.error e, [])
  | .ok none => (.ok false, [])
  | .ok (some callback) => (.ok (plugin callback), [callback])

variable {plugin}

theorem run_callRead (read : Option Callback) :
    (callRead plugin read).run.run [] = delivered plugin (.ok read) := by
  cases read <;> rfl

theorem run_tryChannels (channels : List Channel) (event : Value) :
    (tryChannels plugin channels event).run.run [] = delivered plugin (firstOf channels event) := by
  induction channels with
  | nil => rfl
  | cons channel channels ih =>
    rw [tryChannels, firstOf]
    cases channel.read event with
    | error e => rfl
    | ok read =>
      cases read with
      | some callback => rfl
      | none => exact ih

/-- Handling an event calls what its dispatch chooses. -/
theorem run_handle (event : Value) :
    (handle plugin event).run.run [] = delivered plugin (dispatch event) := by
  unfold handle dispatch
  split
  · exact run_callRead _
  · split
    · exact run_callRead _
    · split
      · exact run_callRead _
      · split
        · exact run_callRead _
        · exact run_tryChannels _ _

theorem delivered_le_one (chosen : Except JsonError (Option Callback)) :
    (delivered plugin chosen).2.length ≤ 1 := by
  cases chosen with
  | error e => exact Nat.zero_le 1
  | ok read =>
    cases read with
    | none => exact Nat.zero_le 1
    | some callback => exact Nat.le_refl 1

end Handlers

/-! ## Picker results -/

structure PickerPayload (object : Value) (result : FilePickerResult) : Prop where
  isObject : ∃ members, object = .object members
  status : object.find "status" = some (.string (text result.status.wireValue))
  mode : object.find "mode" = some (.string (text result.mode.wireValue))
  paths : object.find "paths" = some (strings result.paths)
  filled : ∀ path ∈ result.paths, path ≠ []
  selected : result.status = .selected → result.paths ≠ []
  displayNames : Defaulted object "display_names" strings [] result.displayNames
  selectedFilterId : Defaulted object "selected_filter_id" .string [] result.selectedFilterId
  error : Defaulted object "error" .string [] result.error

def legacyKey (mode : FilePickerMode) : String :=
  if mode = .selectDirectory then "folder_selected" else "file_selected"

/-- A legacy key beside the result is the one of its mode, and its value is the first of the
selected paths. -/
def LegacyAgrees (event : Value) (result : FilePickerResult) : Prop :=
  ∀ key ∈ ["file_selected", "folder_selected"], ∀ value, event.find key = some value →
    result.status = .selected ∧ key = legacyKey result.mode ∧
      ∃ path rest, result.paths = path :: rest ∧ value = .string path

/-- The event is a picker result, and nothing beside it contradicts it. -/
def PickerEvent (event : Value) (callback : Callback) : Prop :=
  ∃ object result, event.find "file_picker_result" = some object ∧ PickerPayload object result ∧
    LegacyAgrees event result ∧ callback = .onFilePickerResult result

/-- Words are told apart if each is read as its own item and no other text is read. -/
theorem word_iff {α : Type} {parse : Bytes → Option α} (wire : α → Bytes)
    (hreads : ∀ item, parse (wire item) = some item) {value : Bytes} {item : α}
    (hknown : parse value = some item → ∃ known, value = wire known) :
    parse value = some item ↔ value = wire item := by
  constructor
  · intro h
    obtain ⟨known, rfl⟩ := hknown h
    rw [Option.some.inj ((hreads known).symm.trans h)]
  · rintro rfl
    exact hreads item

theorem statusFromWireValue_iff {value : Bytes} {status : FilePickerStatus} :
    filePickerStatusFromWireValue value = some status ↔ value = text status.wireValue := by
  refine word_iff (fun status : FilePickerStatus => text status.wireValue)
    (fun status => by cases status <;> decide) fun h => ?_
  unfold filePickerStatusFromWireValue at h
  split_ifs at h with h1 h2 h3 h4
  exacts [⟨.selected, h1⟩, ⟨.cancelled, h2⟩, ⟨.unsupported, h3⟩, ⟨.error, h4⟩]

theorem modeFromWireValue_iff {value : Bytes} {mode : FilePickerMode} :
    filePickerModeFromWireValue value = some mode ↔ value = text mode.wireValue := by
  refine word_iff (fun mode : FilePickerMode => text mode.wireValue)
    (fun mode => by cases mode <;> decide) fun h => ?_
  unfold filePickerModeFromWireValue at h
  split_ifs at h with h1 h2 h3 h4
  exacts [⟨.openFile, h1⟩, ⟨.openFiles, h2⟩, ⟨.saveFile, h3⟩, ⟨.selectDirectory, h4⟩]

theorem checkStateFromWireValue_iff {value : Bytes} {state : TreeCheckState} :
    treeCheckStateFromWireValue value = some state ↔
      value = text (treeCheckStateWireValue state) := by
  refine word_iff (fun state => text (treeCheckStateWireValue state))
    (fun state => by cases state <;> decide) fun h => ?_
  unfold treeCheckStateFromWireValue at h
  split_ifs at h with h1 h2 h3 h4
  exacts [⟨.none, h1⟩, ⟨.unchecked, h2⟩, ⟨.partiallyChecked, h3⟩, ⟨.checked, h4⟩]

theorem getString_bind_iff {α : Type} {key : String} {object : Value} {parse : Bytes → Option α}
    {wire : α → Bytes} (h : ∀ content value, parse content = some value ↔ content = wire value)
    {value : α} :
    (getString key object).bind parse = some value ↔
      object.find key = some (.string (wire value)) := by
  rw [Option.bind_eq_some_iff]
  constructor
  · rintro ⟨content, hcontent, hvalue⟩
    rw [getString_iff.mp hcontent, (h content value).mp hvalue]
  · exact fun hfind => ⟨_, getString_iff.mpr hfind, (h _ _).mpr rfl⟩

/-- The paths of a result that are refused. -/
theorem badPaths_iff {status : FilePickerStatus} {paths : List Bytes} :
    ¬ (paths.any List.isEmpty || (decide (status = .selected) && paths.isEmpty)) = true ↔
      (∀ path ∈ paths, path ≠ []) ∧ (status = .selected → paths ≠ []) := by
  rw [Bool.or_eq_true, not_or, List.any_eq_true, Bool.and_eq_true, decide_eq_true_iff,
    List.isEmpty_iff]
  constructor
  · rintro ⟨hpaths, hselected⟩
    refine ⟨fun path hpath hnil => hpaths ⟨path, hpath, List.isEmpty_iff.mpr hnil⟩, ?_⟩
    exact fun hstatus hnil => hselected ⟨hstatus, hnil⟩
  · rintro ⟨hpaths, hselected⟩
    refine ⟨?_, fun hand => hselected hand.1 hand.2⟩
    rintro ⟨path, hpath, hnil⟩
    exact hpaths path hpath (List.isEmpty_iff.mp hnil)

theorem filePickerResult_iff {event : Value} {result : FilePickerResult} :
    filePickerResult event = some result ↔
      ∃ object, event.find "file_picker_result" = some object ∧ PickerPayload object result := by
  unfold filePickerResult
  rw [Option.bind_eq_bind, Option.bind_eq_some_iff]
  refine exists_congr fun object => and_congr_right fun _ => ?_
  constructor
  · intro h
    cases object with
    | object members =>
      rw [if_pos rfl] at h
      -- the members in the order of the reader; the paths are checked before the rest is read
      obtain ⟨status, hstatus, h⟩ := Option.bind_eq_some_iff.mp h
      obtain ⟨mode, hmode, h⟩ := Option.bind_eq_some_iff.mp h
      obtain ⟨paths, hpaths, h⟩ := Option.bind_eq_some_iff.mp h
      obtain ⟨encoded, hencoded, hdecoded⟩ := Option.bind_eq_some_iff.mp hpaths
      split at h
      · exact nomatch h
      · rename_i hgood
        obtain ⟨hfilled, hselected⟩ := badPaths_iff.mp hgood
        obtain ⟨displayNames, hnames, h⟩ := Option.bind_eq_some_iff.mp h
        obtain ⟨filterId, hfilter, h⟩ := Option.bind_eq_some_iff.mp h
        obtain ⟨error, herror, h⟩ := Option.bind_eq_some_iff.mp h
        obtain rfl := Option.some.inj h
        refine ⟨⟨members, rfl⟩, (getString_bind_iff fun _ _ => statusFromWireValue_iff).mp hstatus,
          (getString_bind_iff fun _ _ => modeFromWireValue_iff).mp hmode, ?_, hfilled, hselected,
          optionalStringArray_iff.mp hnames, optionalString_iff.mp hfilter, optionalString_iff.mp
            herror⟩
        rw [hencoded, decodeStrictStringArray_iff.mp hdecoded]
    | _ => exact nomatch h
  · intro h
    obtain ⟨members, rfl⟩ := h.isObject
    rw [if_pos rfl]
    refine Option.bind_eq_some_iff.mpr
      ⟨_, (getString_bind_iff fun _ _ => statusFromWireValue_iff).mpr h.status, ?_⟩
    refine Option.bind_eq_some_iff.mpr
      ⟨_, (getString_bind_iff fun _ _ => modeFromWireValue_iff).mpr h.mode, ?_⟩
    refine Option.bind_eq_some_iff.mpr ⟨result.paths, ?_, ?_⟩
    · rw [h.paths]
      exact decodeStrictStringArray_iff.mpr rfl
    · rw [if_neg (badPaths_iff.mpr ⟨h.filled, h.selected⟩)]
      refine Option.bind_eq_some_iff.mpr ⟨_, optionalStringArray_iff.mpr h.displayNames, ?_⟩
      refine Option.bind_eq_some_iff.mpr ⟨_, optionalString_iff.mpr h.selectedFilterId, ?_⟩
      exact Option.bind_eq_some_iff.mpr ⟨_, optionalString_iff.mpr h.error, rfl⟩

/-- A selection that passed the checks of its payload has a legacy key and path. -/
theorem legacySelection_eq {result : FilePickerResult} {path : Bytes} {rest : List Bytes}
    (hstatus : result.status = .selected) (hpaths : result.paths = path :: rest)
    (hfilled : ∀ path ∈ result.paths, path ≠ []) :
    filePickerLegacySelection result = some (legacyKey result.mode, path) := by
  have hany : (path :: rest).any List.isEmpty = false := by
    rw [List.any_eq_false]
    intro other hother hempty
    exact hfilled other (hpaths ▸ hother) (List.isEmpty_iff.mp hempty)
  unfold filePickerLegacySelection
  rw [hstatus, hpaths]
  show (if (path :: rest).any List.isEmpty then none else _) = _
  rw [hany]
  rfl

theorem legacyAgrees_iff {event : Value} {result : FilePickerResult} :
    LegacyAgrees event result ↔
      (∀ value, event.find "file_selected" = some value → result.status = .selected ∧
        result.mode ≠ .selectDirectory ∧
          ∃ path rest, result.paths = path :: rest ∧ value = .string path) ∧
      (∀ value, event.find "folder_selected" = some value → result.status = .selected ∧
        result.mode = .selectDirectory ∧
          ∃ path rest, result.paths = path :: rest ∧ value = .string path) := by
  have hfile : "file_selected" = legacyKey result.mode ↔ result.mode ≠ .selectDirectory := by
    unfold legacyKey
    split
    · exact ⟨fun h => absurd h (by decide), fun h => absurd ‹_› h⟩
    · exact ⟨fun _ => ‹_›, fun _ => rfl⟩
  have hfolder : "folder_selected" = legacyKey result.mode ↔ result.mode = .selectDirectory := by
    unfold legacyKey
    split
    · exact ⟨fun _ => ‹_›, fun _ => rfl⟩
    · exact ⟨fun h => absurd h (by decide), fun h => absurd h ‹_›⟩
  unfold LegacyAgrees
  rw [List.forall_mem_cons, List.forall_mem_singleton, hfile, hfolder]

/-- What the legacy keys beside a well-formed result decide; the cases are which of them are
there, and the mode. -/
theorem pickerChannel_of_result {event : Value} {result : FilePickerResult} {callback : Callback}
    (hresult : filePickerResult event = some result) :
    pickerChannel event = some callback ↔
      LegacyAgrees event result ∧ callback = .onFilePickerResult result := by
  obtain ⟨object, -, hpayload⟩ := filePickerResult_iff.mp hresult
  rw [legacyAgrees_iff]
  unfold pickerChannel Value.contains
  rw [hresult, Option.bind_eq_bind, Option.bind_some]
  dsimp only
  -- a selection is also sent under the key of the older pickers, for the mode it has
  by_cases hstatus : result.status = .selected
  · obtain ⟨path, rest, hpaths⟩ := List.exists_cons_of_ne_nil (hpayload.selected hstatus)
    rw [if_pos hstatus, legacySelection_eq hstatus hpaths hpayload.filled, Option.bind_eq_bind,
      Option.bind_some]
    dsimp only
    cases hfile : event.find "file_selected" with
    | none =>
      cases hfolder : event.find "folder_selected" with
      | none => simp [eq_comm]
      -- a folder where a folder was to be picked, and with the same path
      | some folder =>
        have hread : getString "folder_selected" event = asString folder := by
          rw [getString, hfolder, Option.bind_some]
        by_cases hmode : result.mode = .selectDirectory
        · have hkey : legacyKey result.mode = "folder_selected" := if_pos hmode
          rw [hkey]
          simp [hmode, hstatus, hpaths, hread, eq_comm]
          intro _
          rw [eq_comm, asString_iff]
        · simp [legacyKey, hmode]
    | some file =>
      cases hfolder : event.find "folder_selected" with
      | none =>
        have hread : getString "file_selected" event = asString file := by
          rw [getString, hfile, Option.bind_some]
        by_cases hmode : result.mode = .selectDirectory
        · simp [legacyKey, hmode]
        · have hkey : legacyKey result.mode = "file_selected" := if_neg hmode
          rw [hkey]
          simp [hmode, hstatus, hpaths, hread, eq_comm]
          intro _
          rw [eq_comm, asString_iff]
      | some folder =>
        by_cases hmode : result.mode = .selectDirectory
        · simp [hmode]
        · simp [hmode]
  · -- without a selection neither of the older keys may be there
    rw [if_neg hstatus]
    cases hfile : event.find "file_selected" with
    | none =>
      cases hfolder : event.find "folder_selected" with
      | none => simp [eq_comm]
      | some folder => simp [hstatus]
    | some file => simp [hstatus]

theorem pickerChannel_iff {event : Value} {callback : Callback} :
    pickerChannel event = some callback ↔ PickerEvent event callback := by
  constructor
  · intro h
    obtain ⟨result, hresult, -⟩ := Option.bind_eq_some_iff.mp h
    obtain ⟨object, hobject, hpayload⟩ := filePickerResult_iff.mp hresult
    obtain ⟨hagrees, hcallback⟩ := (pickerChannel_of_result hresult).mp h
    exact ⟨object, result, hobject, hpayload, hagrees, hcallback⟩
  · rintro ⟨object, result, hobject, hpayload, hagrees, hcallback⟩
    have hresult := filePickerResult_iff.mpr ⟨object, hobject, hpayload⟩
    exact (pickerChannel_of_result hresult).mpr ⟨hagrees, hcallback⟩

/-! ## Scene-view errors -/

structure SceneViewErrorPayload (object : Value) (error : SceneViewError) : Prop where
  isObject : ∃ members, object = .object members
  kind : Defaulted object "kind" .string [] error.kind
  topic : Defaulted object "topic" .string [] error.topic
  dataset : Defaulted object "dataset" .string [] error.dataset
  reason : object.find "reason" = some (.string error.reason)
  filled : error.reason ≠ []

def SceneViewErrorEvent (event : Value) (callback : Callback) : Prop :=
  ∃ object error, event.find "scene_view_error" = some object ∧ SceneViewErrorPayload object error ∧
    callback = .onSceneViewError error

theorem sceneViewError_iff {event : Value} {error : SceneViewError} :
    sceneViewError event = some error ↔
      ∃ object, event.find "scene_view_error" = some object ∧
        SceneViewErrorPayload object error := by
  unfold sceneViewError
  rw [Option.bind_eq_bind, Option.bind_eq_some_iff]
  refine exists_congr fun object => and_congr_right fun _ => ?_
  constructor
  · intro h
    cases object with
    | object members =>
      rw [if_pos rfl] at h
      obtain ⟨kind, hkind, h⟩ := Option.bind_eq_some_iff.mp h
      obtain ⟨topic, htopic, h⟩ := Option.bind_eq_some_iff.mp h
      obtain ⟨dataset, hdataset, h⟩ := Option.bind_eq_some_iff.mp h
      obtain ⟨reason, hreason, h⟩ := Option.bind_eq_some_iff.mp h
      split at h
      · exact nomatch h
      · rename_i hfilled
        obtain rfl := Option.some.inj h
        refine ⟨⟨members, rfl⟩, optionalString_iff.mp hkind, optionalString_iff.mp htopic,
          optionalString_iff.mp hdataset, ?_, hfilled⟩
        -- the reason may be missing for the reader and not for the check behind it
        rcases optionalString_iff.mp hreason with hfind | ⟨-, hnil⟩
        · exact hfind
        · exact absurd hnil hfilled
    | _ => exact nomatch h
  · intro h
    obtain ⟨members, rfl⟩ := h.isObject
    rw [if_pos rfl]
    refine Option.bind_eq_some_iff.mpr ⟨_, optionalString_iff.mpr h.kind, ?_⟩
    refine Option.bind_eq_some_iff.mpr ⟨_, optionalString_iff.mpr h.topic, ?_⟩
    refine Option.bind_eq_some_iff.mpr ⟨_, optionalString_iff.mpr h.dataset, ?_⟩
    refine Option.bind_eq_some_iff.mpr ⟨_, optionalString_iff.mpr (.inl h.reason), ?_⟩
    exact if_neg h.filled

theorem sceneChannel_iff {event : Value} {callback : Callback} :
    (sceneViewError event).map .onSceneViewError = some callback ↔
      SceneViewErrorEvent event callback := by
  rw [Option.map_eq_some_iff]
  constructor
  · rintro ⟨error, herror, rfl⟩
    obtain ⟨object, hobject, hpayload⟩ := sceneViewError_iff.mp herror
    exact ⟨object, error, hobject, hpayload, rfl⟩
  · rintro ⟨object, error, hobject, hpayload, rfl⟩
    exact ⟨error, sceneViewError_iff.mpr ⟨object, hobject, hpayload⟩, rfl⟩

/-! ## Trees -/

inductive TreeKey where
  | selection
  | activation
  | expansion
  | checkState

def TreeKey.name : TreeKey → String
  | selection => "tree_selection_changed"
  | activation => "tree_item_activated"
  | expansion => "tree_expansion_changed"
  | checkState => "tree_check_state_changed"

/-- What the four tree keys may hold. -/
inductive TreePayload : TreeKey → Value → Callback → Prop
  | selection {ids : List Bytes} (filled : ∀ id ∈ ids, id ≠ []) :
    TreePayload .selection (strings ids) (.onTreeSelectionChanged ids)
  | activation {payload : Value} {id : Bytes} {column : Int32}
    (hid : payload.find "id" = some (.string id)) (filled : id ≠ [])
    (hcolumn : (payload.find "column").bind integral = some column.toInt) (hpos : 0 ≤ column) :
    TreePayload .activation payload (.onTreeItemActivated id column)
  | expansion {payload : Value} {id : Bytes} {expanded : Bool}
    (hid : payload.find "id" = some (.string id)) (filled : id ≠ [])
    (hexpanded : payload.find "expanded" = some (.boolean expanded)) :
    TreePayload .expansion payload (.onTreeExpansionChanged id expanded)
  | checkState {payload : Value} {id : Bytes} {state : TreeCheckState}
    (hid : payload.find "id" = some (.string id)) (filled : id ≠ [])
    (hstate : payload.find "state" = some (.string (text (treeCheckStateWireValue state)))) :
    TreePayload .checkState payload (.onTreeCheckStateChanged id state)

/-- The event has the tree key and no other. -/
def TreeEvent (event : Value) (callback : Callback) : Prop :=
  ∃ (key : TreeKey) (payload : Value),
    event = .object [(text key.name, payload)] ∧ TreePayload key payload callback

theorem mem_treeKeys {name : String} : name ∈ treeKeys ↔ ∃ key : TreeKey, key.name = name := by
  constructor
  · intro h
    rcases List.mem_cons.mp h with rfl | h
    · exact ⟨.selection, rfl⟩
    rcases List.mem_cons.mp h with rfl | h
    · exact ⟨.activation, rfl⟩
    rcases List.mem_cons.mp h with rfl | h
    · exact ⟨.expansion, rfl⟩
    obtain rfl := List.mem_singleton.mp h
    exact ⟨.checkState, rfl⟩
  · rintro ⟨key, rfl⟩
    cases key <;> decide

section TreeMembers

variable {payload : Value} {callback : Callback}

theorem find_single (key other : String) (payload : Value) :
    (Value.object [(text key, payload)]).find other = if other = key then some payload else
      none := by
  show [(text key, payload)].lookup (text other) = _
  rw [SortedMap.lookup_cons, List.lookup_nil]
  by_cases heq : other = key
  · rw [if_pos heq, if_pos (congrArg text heq)]
  · rw [if_neg heq, if_neg fun htext => heq (text_inj htext)]

theorem contains_single (key other : String) (payload : Value) :
    (Value.object [(text key, payload)]).contains other = decide (other = key) := by
  rw [Value.contains, find_single]
  by_cases heq : other = key
  · rw [if_pos heq, decide_eq_true heq]; rfl
  · rw [if_neg heq, decide_eq_false heq]; rfl

theorem treeSelection_iff :
    (treeSelectionChanged (.object [(text "tree_selection_changed", payload)])).map
        .onTreeSelectionChanged = some callback ↔
      TreePayload .selection payload callback := by
  unfold treeSelectionChanged
  rw [find_single, if_pos rfl, Option.bind_some, Option.map_eq_some_iff]
  constructor
  · rintro ⟨ids, hids, rfl⟩
    obtain ⟨hdecoded, hfilled⟩ := Option.filter_eq_some_iff.mp hids
    obtain rfl := decodeStrictStringArray_iff.mp hdecoded
    refine .selection fun id hid hnil => ?_
    rw [Bool.not_eq_true', List.any_eq_false] at hfilled
    exact hfilled id hid (List.isEmpty_iff.mpr hnil)
  · intro h
    cases h with
    | selection filled =>
      refine ⟨_, Option.filter_eq_some_iff.mpr ⟨decodeStrictStringArray_iff.mpr rfl, ?_⟩, rfl⟩
      rw [filled_ids filled]
      rfl

theorem treeActivation_iff :
    (treeItemActivated (.object [(text "tree_item_activated", payload)])).map
        (fun (id, column) => Callback.onTreeItemActivated id column) = some callback ↔
      TreePayload .activation payload callback := by
  unfold treeItemActivated
  rw [find_single, if_pos rfl, Option.bind_eq_bind, Option.bind_some, Option.map_eq_some_iff]
  constructor
  · rintro ⟨⟨id, column⟩, hread, rfl⟩
    obtain ⟨id, hid, hread⟩ := Option.bind_eq_some_iff.mp hread
    obtain ⟨column, hcolumn, hread⟩ := Option.bind_eq_some_iff.mp hread
    obtain ⟨rfl, rfl⟩ := Prod.mk.inj (Option.some.inj hread)
    obtain ⟨hid, hfilled⟩ := nonEmptyString_iff.mp hid
    obtain ⟨hcolumn, hpos⟩ := nonNegativeInt_iff.mp hcolumn
    exact .activation hid hfilled hcolumn hpos
  · intro h
    cases h with
    | activation hid hfilled hcolumn hpos =>
      refine ⟨(_, _),
        Option.bind_eq_some_iff.mpr ⟨_, nonEmptyString_iff.mpr ⟨hid, hfilled⟩, ?_⟩, rfl⟩
      exact Option.bind_eq_some_iff.mpr ⟨_, nonNegativeInt_iff.mpr ⟨hcolumn, hpos⟩, rfl⟩

theorem treeExpansion_iff :
    (treeExpansionChanged (.object [(text "tree_expansion_changed", payload)])).map
        (fun (id, expanded) => Callback.onTreeExpansionChanged id expanded) = some callback ↔
      TreePayload .expansion payload callback := by
  unfold treeExpansionChanged
  rw [find_single, if_pos rfl, Option.bind_eq_bind, Option.bind_some, Option.map_eq_some_iff]
  constructor
  · rintro ⟨⟨id, expanded⟩, hread, rfl⟩
    obtain ⟨id, hid, hread⟩ := Option.bind_eq_some_iff.mp hread
    obtain ⟨expanded, hexpanded, hread⟩ := Option.bind_eq_some_iff.mp hread
    obtain ⟨rfl, rfl⟩ := Prod.mk.inj (Option.some.inj hread)
    obtain ⟨hid, hfilled⟩ := nonEmptyString_iff.mp hid
    exact .expansion hid hfilled (getBool_iff.mp hexpanded)
  · intro h
    cases h with
    | expansion hid hfilled hexpanded =>
      refine ⟨(_, _),
        Option.bind_eq_some_iff.mpr ⟨_, nonEmptyString_iff.mpr ⟨hid, hfilled⟩, ?_⟩, rfl⟩
      exact Option.bind_eq_some_iff.mpr ⟨_, getBool_iff.mpr hexpanded, rfl⟩

theorem treeCheckState_iff :
    (treeCheckStateChanged (.object [(text "tree_check_state_changed", payload)])).map
        (fun (id, state) => Callback.onTreeCheckStateChanged id state) = some callback ↔
      TreePayload .checkState payload callback := by
  unfold treeCheckStateChanged
  rw [find_single, if_pos rfl, Option.bind_eq_bind, Option.bind_some, Option.map_eq_some_iff]
  constructor
  · rintro ⟨⟨id, state⟩, hread, rfl⟩
    obtain ⟨id, hid, hread⟩ := Option.bind_eq_some_iff.mp hread
    obtain ⟨state, hstate, hread⟩ := Option.bind_eq_some_iff.mp hread
    obtain ⟨rfl, rfl⟩ := Prod.mk.inj (Option.some.inj hread)
    obtain ⟨hid, hfilled⟩ := nonEmptyString_iff.mp hid
    exact .checkState hid hfilled
      ((getString_bind_iff fun _ _ => checkStateFromWireValue_iff).mp hstate)
  · intro h
    cases h with
    | checkState hid hfilled hstate =>
      refine ⟨(_, _),
        Option.bind_eq_some_iff.mpr ⟨_, nonEmptyString_iff.mpr ⟨hid, hfilled⟩, ?_⟩, rfl⟩
      exact Option.bind_eq_some_iff.mpr
        ⟨_, (getString_bind_iff fun _ _ => checkStateFromWireValue_iff).mpr hstate, rfl⟩

/-- An event with a tree key and no other member. -/
theorem treeChannel_single (key : TreeKey) :
    treeChannel (.object [(text key.name, payload)]) = some callback ↔
      TreePayload key payload callback := by
  have hone : ∀ name ∈ treeKeys, treeKeys.countP (fun other => decide (other = name)) =
      1 := by decide
  have hcount : treeKeys.countP (Value.object [(text key.name, payload)]).contains = 1 := by
    rw [← hone key.name (mem_treeKeys.mpr ⟨key, rfl⟩)]
    exact List.countP_congr fun other _ => by rw [contains_single]
  have hsize : Dialog.size (.object [(text key.name, payload)]) = 1 := rfl
  unfold treeChannel
  rw [hcount, hsize, if_neg (by decide), contains_single, contains_single, contains_single]
  cases key with
  | selection => exact treeSelection_iff
  | activation => exact treeActivation_iff
  | expansion => exact treeExpansion_iff
  | checkState => exact treeCheckState_iff

end TreeMembers

/-- A tree key of an event whose only member it is. -/
theorem single_of_treeChannel {event : Value} {callback : Callback}
    (h : treeChannel event = some callback) :
    ∃ (key : TreeKey) (payload : Value), event = .object [(text key.name, payload)] := by
  unfold treeChannel at h
  split at h
  · exact nomatch h
  · rename_i hsingle
    rw [Bool.or_eq_true, not_or, decide_eq_true_iff, decide_eq_true_iff, not_not,
      not_not] at hsingle
    obtain ⟨hcount, hsize⟩ := hsingle
    obtain ⟨name, hname, hcontains⟩ := List.countP_pos_iff.mp (hcount.symm ▸ Nat.one_pos)
    obtain ⟨key, rfl⟩ := mem_treeKeys.mp hname
    cases event with
    | object members =>
      obtain ⟨⟨name, payload⟩, rfl⟩ := List.length_eq_one_iff.mp hsize
      refine ⟨key, payload, ?_⟩
      rw [Value.contains, find, SortedMap.lookup_cons] at hcontains
      split at hcontains
      · rw [‹text key.name = name›]
      · exact nomatch hcontains
    | _ => exact nomatch hcontains

theorem treeChannel_iff {event : Value} {callback : Callback} :
    treeChannel event = some callback ↔ TreeEvent event callback := by
  constructor
  · intro h
    obtain ⟨key, payload, rfl⟩ := single_of_treeChannel h
    exact ⟨key, payload, rfl, (treeChannel_single key).mp h⟩
  · rintro ⟨key, payload, rfl, hpayload⟩
    exact (treeChannel_single key).mpr hpayload

/-! ## Stacked pages -/

def StackedEvent (event : Value) (callback : Callback) : Prop :=
  ∃ (index : Int32) (page : Bytes),
    (event.find "stacked_index").bind integral = some index.toInt ∧ 0 ≤ index ∧
      event.find "stacked_page" = some (.string page) ∧ page ≠ [] ∧
        callback = .onStackedPageChanged index page

theorem stackedChannel_iff {event : Value} {callback : Callback} :
    stackedChannel event = some callback ↔ StackedEvent event callback := by
  unfold stackedChannel
  rw [Option.bind_eq_bind, Option.bind_eq_some_iff]
  constructor
  · rintro ⟨index, hindex, h⟩
    obtain ⟨page, hpage, h⟩ := Option.bind_eq_some_iff.mp h
    obtain ⟨hindex, hpos⟩ := nonNegativeInt_iff.mp hindex
    obtain ⟨hpage, hfilled⟩ := nonEmptyString_iff.mp hpage
    exact ⟨index, page, hindex, hpos, hpage, hfilled, (Option.some.inj h).symm⟩
  · rintro ⟨index, page, hindex, hpos, hpage, hfilled, rfl⟩
    refine ⟨index, nonNegativeInt_iff.mpr ⟨hindex, hpos⟩, ?_⟩
    exact Option.bind_eq_some_iff.mpr ⟨page, nonEmptyString_iff.mpr ⟨hpage, hfilled⟩, rfl⟩

/-! ## Priorities -/

/-- A channel that claims every event that has one of its keys, and what it accepts. -/
structure Claim where
  keys : List String
  accepts : Value → Callback → Prop

def Claim.Present (claim : Claim) (event : Value) : Prop :=
  ∃ key ∈ claim.keys, event.contains key = true

/-- The channels above the legacy ones, the first of them first. -/
def claims : List Claim :=
  [{ keys := ["file_picker_result"], accepts := PickerEvent },
    { keys := ["scene_view_error"], accepts := SceneViewErrorEvent },
    { keys := treeKeys, accepts := TreeEvent },
    { keys := ["stacked_index", "stacked_page"], accepts := StackedEvent }]

/-- The callback of an event a channel accepts is called; of any other event none is. -/
def Decides (plugin : Callback → Bool) (accepts : Callback → Prop) (outcome : Outcome) : Prop :=
  (∃ callback, accepts callback ∧ outcome = (.ok (plugin callback), [callback])) ∨
    (∀ callback, ¬ accepts callback) ∧ outcome = (.ok false, [])

theorem decides_of_iff {plugin : Callback → Bool} {accepts : Callback → Prop}
    {read : Option Callback} (h : ∀ callback, read = some callback ↔ accepts callback) :
    Decides plugin accepts (delivered plugin (.ok read)) := by
  cases read with
  | none =>
    refine .inr ⟨fun callback haccepts => ?_, rfl⟩
    exact nomatch (h callback).mpr haccepts
  | some callback => exact .inl ⟨callback, (h callback).mp rfl, rfl⟩

theorem present_one {key : String} {accepts : Value → Callback → Prop} {event : Value} :
    Claim.Present { keys := [key], accepts } event ↔ event.contains key = true :=
  ⟨fun ⟨_, hkey, h⟩ => List.mem_singleton.mp hkey ▸ h,
    fun h => ⟨key, List.mem_singleton.mpr rfl, h⟩⟩

theorem present_tree {accepts : Value → Callback → Prop} {event : Value} :
    Claim.Present { keys := treeKeys, accepts } event ↔ treeKeys.countP event.contains ≠ 0 := by
  rw [← Nat.pos_iff_ne_zero, List.countP_pos_iff]
  rfl

theorem present_stacked {accepts : Value → Callback → Prop} {event : Value} :
    Claim.Present { keys := ["stacked_index", "stacked_page"], accepts } event ↔
      (event.contains "stacked_index" || event.contains "stacked_page") = true := by
  unfold Claim.Present
  constructor
  · rintro ⟨key, hkey, h⟩
    rcases List.mem_cons.mp hkey with rfl | hkey
    · rw [h, Bool.true_or]
    · rw [List.mem_singleton.mp hkey] at h
      rw [h, Bool.or_true]
  · intro h
    rcases (Bool.or_eq_true _ _).mp h with h | h
    · exact ⟨_, List.mem_cons_self, h⟩
    · exact ⟨_, List.mem_cons_of_mem _ (List.mem_singleton.mpr rfl), h⟩

/-- The legacy channels in their order: the first that reads something is called. -/
def LegacyDecided (plugin : Callback → Bool) (event : Value) (outcome : Outcome) : Prop :=
  (∀ front channel rest callback, legacyChannels = front ++ channel :: rest →
      (∀ other ∈ front, other.read event = .ok none) → channel.read event = .ok (some callback) →
        outcome = (.ok (plugin callback), [callback])) ∧
    ((∀ channel ∈ legacyChannels, channel.read event = .ok none) → outcome = (.ok false, []))

theorem firstOf_append {front channels : List Channel} {event : Value}
    (h : ∀ other ∈ front, other.read event = .ok none) :
    firstOf (front ++ channels) event = firstOf channels event := by
  induction front with
  | nil => rfl
  | cons channel front ih =>
    rw [List.cons_append, firstOf, h channel List.mem_cons_self]
    exact ih fun other hother => h other (List.mem_cons_of_mem _ hother)

theorem legacyDecided (plugin : Callback → Bool) (event : Value) :
    LegacyDecided plugin event (delivered plugin (firstOf legacyChannels event)) := by
  constructor
  · intro front channel rest callback hchannels hfront hread
    rw [hchannels, firstOf_append hfront, firstOf_cons hread]
    rfl
  · intro h
    have hnone := @firstOf_append _ [] _ h
    rw [List.append_nil] at hnone
    rw [hnone]
    rfl

/-- The first of the claims that is there decides; the cases are which one it is. -/
theorem dispatch_claim {plugin : Callback → Bool} {event : Value} {front rest : List Claim}
    {claim : Claim} (hclaims : claims = front ++ claim :: rest)
    (hfront : ∀ other ∈ front, ¬ other.Present event) (hclaim : claim.Present event) :
    Decides plugin (claim.accepts event) (delivered plugin (dispatch event)) := by
  unfold dispatch
  unfold claims at hclaims
  rcases front with - | ⟨picker, front⟩
  · rw [List.nil_append, List.cons.injEq] at hclaims
    obtain ⟨rfl, -⟩ := hclaims
    rw [if_pos (present_one.mp hclaim)]
    exact decides_of_iff fun _ => pickerChannel_iff
  rw [List.cons_append, List.cons.injEq] at hclaims
  obtain ⟨rfl, hclaims⟩ := hclaims
  rw [if_neg (mt present_one.mpr (hfront _ List.mem_cons_self))]
  replace hfront := (List.forall_mem_cons.mp hfront).2
  rcases front with - | ⟨scene, front⟩
  · rw [List.nil_append, List.cons.injEq] at hclaims
    obtain ⟨rfl, -⟩ := hclaims
    rw [if_pos (present_one.mp hclaim)]
    exact decides_of_iff fun _ => sceneChannel_iff
  rw [List.cons_append, List.cons.injEq] at hclaims
  obtain ⟨rfl, hclaims⟩ := hclaims
  rw [if_neg (mt present_one.mpr (hfront _ List.mem_cons_self))]
  replace hfront := (List.forall_mem_cons.mp hfront).2
  rcases front with - | ⟨tree, front⟩
  · rw [List.nil_append, List.cons.injEq] at hclaims
    obtain ⟨rfl, -⟩ := hclaims
    rw [if_pos (present_tree.mp hclaim)]
    exact decides_of_iff fun _ => treeChannel_iff
  rw [List.cons_append, List.cons.injEq] at hclaims
  obtain ⟨rfl, hclaims⟩ := hclaims
  rw [if_neg (mt present_tree.mpr (hfront _ List.mem_cons_self))]
  replace hfront := (List.forall_mem_cons.mp hfront).2
  rcases front with - | ⟨stacked, front⟩
  · rw [List.nil_append, List.cons.injEq] at hclaims
    obtain ⟨rfl, -⟩ := hclaims
    rw [if_pos (present_stacked.mp hclaim)]
    exact decides_of_iff fun _ => stackedChannel_iff
  rw [List.cons_append, List.cons.injEq] at hclaims
  obtain ⟨rfl, hclaims⟩ := hclaims
  exact absurd hclaims.symm (List.append_ne_nil_of_right_ne_nil _ (List.cons_ne_nil _ _))

/-- At most one callback is called on an event, and the channels are tried in their order: the
first of the four claims whose key is there decides alone, and an event it does not accept calls
no callback and is not handled; the legacy channels are tried where none of the four is there. -/
theorem handleWidgetEvent_decided (plugin : Callback → Bool) (parse : Bytes → Option Value)
    (eventJson : Bytes) :
    let event := (parse eventJson).getD (.object [])
    let outcome := handleWidgetEvent plugin parse eventJson
    outcome.2.length ≤ 1 ∧
      (∀ front claim rest, claims = front ++ claim :: rest →
        (∀ other ∈ front, ¬ other.Present event) → claim.Present event →
          Decides plugin (claim.accepts event) outcome) ∧
      ((∀ claim ∈ claims, ¬ claim.Present event) → LegacyDecided plugin event outcome) := by
  intro event outcome
  have houtcome : outcome = delivered plugin (dispatch event) := run_handle event
  rw [houtcome]
  refine ⟨delivered_le_one _, ?_, ?_⟩
  · intro front claim rest hclaims hfront hclaim
    exact dispatch_claim hclaims hfront hclaim
  · intro habsent
    have hpicker := mt present_one.mpr (habsent _ List.mem_cons_self)
    have hscene := mt present_one.mpr (habsent _ (List.mem_cons_of_mem _ List.mem_cons_self))
    have htree := mt present_tree.mpr
      (habsent _ (List.mem_cons_of_mem _ (List.mem_cons_of_mem _ List.mem_cons_self)))
    have hstacked := mt present_stacked.mpr (habsent _ (List.mem_cons_of_mem _
      (List.mem_cons_of_mem _ (List.mem_cons_of_mem _ (List.mem_singleton.mpr rfl)))))
    rw [dispatch, if_neg hpicker, if_neg hscene, if_neg htree, if_neg hstacked]
    exact legacyDecided plugin event

end Dialog

end PlotJugglerSdk
