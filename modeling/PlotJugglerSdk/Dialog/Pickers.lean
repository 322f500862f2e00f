import PlotJugglerSdk.Dialog.EventDispatch
import PlotJugglerSdk.Dialog.WidgetTexts

/-!
# The picker of a button

Four setters turn a button into a picker, over one set of members. The last call is meant to
decide the whole picker; the structured setter removes what it does not write, the plain ones
leave it.

* `decodeFilePicker_iff` — the structured options a reader accepts
* `Reports`              — the view shows the picker of one call
* `Replaces`             — the calls before leave nothing that the last one does not write
* `picker_reports_iff`   — the last call decides exactly where it replaces the others
-/

namespace PlotJugglerSdk

namespace Dialog

open Json Lexing Value Wire WidgetEvent

/-! ## Structured options -/

/-- The options name their filters apart, and every filter has patterns. -/
structure FilePickerOptions.Valid (options : FilePickerOptions) : Prop where
  named : ∀ filter ∈ options.filters, filter.id ≠ []
  apart : (options.filters.map FilePickerFilter.id).Nodup
  patterns : ∀ filter ∈ options.filters, filter.patterns ≠ [] ∧
    ∀ pattern ∈ filter.patterns, pattern ≠ []
  selected : options.initiallySelectedFilterId = [] ∨
    ∃ filter ∈ options.filters, filter.id = options.initiallySelectedFilterId

structure FilterPayload (value : Value) (filter : FilePickerFilter) : Prop where
  isObject : ∃ members, value = .object members
  id : value.find "id" = some (.string filter.id)
  label : value.find "label" = some (.string filter.label)
  patterns : value.find "patterns" = some (strings filter.patterns)

structure FilePickerPayload (value : Value) (options : FilePickerOptions) : Prop where
  isObject : ∃ members, value = .object members
  mode : value.find "mode" = some (.string (text options.mode.wireValue))
  title : value.find "title" = some (.string options.title)
  acceptLabel : value.find "accept_label" = some (.string options.acceptLabel)
  initialDirectory : value.find "initial_directory" = some (.string options.initialDirectory)
  suggestedName : value.find "suggested_name" = some (.string options.suggestedName)
  defaultSuffix : value.find "default_suffix" = some (.string options.defaultSuffix)
  selected : value.find "initially_selected_filter_id" =
    some (.string options.initiallySelectedFilterId)
  confirmOverwrite : value.find "confirm_overwrite" = some (.boolean options.confirmOverwrite)
  filters : ∃ values, value.find "filters" = some (.array values) ∧
    List.Forall₂ FilterPayload values options.filters

theorem decodePattern_iff {place : Bytes} (before : List Bytes) (value : Value) (pattern : Bytes) :
    decodePattern place before value = .ok pattern ↔
      (value = .string pattern ∧ pattern ≠ []) ∧ True := by
  unfold decodePattern
  rw [require_ok, Option.filter_eq_some_iff, asString_iff, Bool.not_eq_true',
    List.isEmpty_eq_false_iff,
    and_true]

theorem decodePatterns_iff {place : Bytes} {values : List Value} {patterns : List Bytes} :
    decodeOnto (decodePattern place) [] values = .ok patterns ↔
      values = patterns.map .string ∧ ∀ pattern ∈ patterns, pattern ≠ [] := by
  rw [decodeOnto_iff decodePattern_iff]
  constructor
  · rintro ⟨items, rfl, hall, -⟩
    induction hall with
    | nil => exact ⟨rfl, nofun⟩
    | cons hone _ ih =>
      obtain ⟨rfl, hne⟩ := hone
      rw [ih.1, List.map_cons, List.forall_mem_cons]
      exact ⟨rfl, hne, ih.2⟩
  · rintro ⟨rfl, hne⟩
    refine ⟨patterns, rfl, ?_, each_true _ _⟩
    rw [List.forall₂_map_left_iff]
    exact List.forall₂_same.mpr fun pattern hpattern => ⟨rfl, hne pattern hpattern⟩

/-- A filter under an id of its own, with patterns. -/
def FreshFilter (before : List FilePickerFilter) (filter : FilePickerFilter) : Prop :=
  (filter.id ≠ [] ∧ filter.patterns ≠ [] ∧ ∀ pattern ∈ filter.patterns, pattern ≠ []) ∧
    ∀ other ∈ before, other.id ≠ filter.id

theorem decodeFilter_iff (before : List FilePickerFilter) (value : Value)
    (filter : FilePickerFilter) :
    decodeFilter before value = .ok filter ↔ FilterPayload value filter ∧
      FreshFilter before filter := by
  unfold decodeFilter
  constructor
  · intro h
    -- the checks of the decoder, one by one and in its order
    obtain ⟨object, hobject, h⟩ := Scan.bind_eq_ok.mp h
    obtain ⟨id, hid, h⟩ := Scan.bind_eq_ok.mp h
    obtain ⟨label, hlabel, h⟩ := Scan.bind_eq_ok.mp h
    obtain ⟨_, hfilled, h⟩ := Scan.bind_eq_ok.mp h
    obtain ⟨_, hnew, h⟩ := Scan.bind_eq_ok.mp h
    obtain ⟨values, hvalues, h⟩ := Scan.bind_eq_ok.mp h
    obtain ⟨patterns, hpatterns, hitem⟩ := Scan.bind_eq_ok.mp h
    obtain ⟨hmembers, rfl⟩ := asObject_iff.mp (require_ok.mp hobject)
    obtain rfl := Except.ok.inj hitem
    obtain ⟨hfind, hsome⟩ := Option.filter_eq_some_iff.mp (require_ok.mp hvalues)
    obtain ⟨rfl, hne⟩ := decodePatterns_iff.mp hpatterns
    refine ⟨⟨hmembers, getString_iff.mp (require_ok.mp hid),
      getString_iff.mp (require_ok.mp hlabel),
      bind_asArray_iff.mp hfind⟩, ⟨refuse_ok.mp hfilled, ?_, hne⟩, fun other hother heq => ?_⟩
    · rintro rfl
      exact nomatch hsome
    · exact refuse_ok.mp hnew ⟨other, hother, heq⟩
  · rintro ⟨h, hfresh⟩
    obtain ⟨⟨hid, hsome, hne⟩, hnew⟩ : (_ ∧ _ ∧ _) ∧ _ := hfresh
    refine Scan.bind_eq_ok.mpr ⟨value, require_ok.mpr (asObject_iff.mpr ⟨h.isObject, rfl⟩), ?_⟩
    refine Scan.bind_eq_ok.mpr ⟨_, require_ok.mpr (getString_iff.mpr h.id), ?_⟩
    refine Scan.bind_eq_ok.mpr ⟨_, require_ok.mpr (getString_iff.mpr h.label), ?_⟩
    refine Scan.bind_eq_ok.mpr ⟨(), refuse_ok.mpr hid, ?_⟩
    refine Scan.bind_eq_ok.mpr
      ⟨(), refuse_ok.mpr fun ⟨other, hother, heq⟩ => hnew other hother heq, ?_⟩
    refine Scan.bind_eq_ok.mpr ⟨filter.patterns.map .string, require_ok.mpr ?_, ?_⟩
    · refine Option.filter_eq_some_iff.mpr ⟨bind_asArray_iff.mpr h.patterns, ?_⟩
      rw [Bool.not_eq_true', List.isEmpty_eq_false_iff]
      exact fun hnil => hsome (List.map_eq_nil_iff.mp hnil)
    · exact Scan.bind_eq_ok.mpr ⟨_, decodePatterns_iff.mpr ⟨rfl, hne⟩, rfl⟩

theorem pickerString_ok {key : String} {picker : Value} {content : Bytes} :
    pickerString key picker = .ok content ↔ picker.find key = some (.string content) :=
  require_ok.trans getString_iff

/-- The reader accepts the documents of valid options, and reads them as they are. -/
theorem decodeFilePicker_iff {encoded : Value} {options : FilePickerOptions} :
    decodeFilePicker encoded = .ok options ↔ FilePickerPayload encoded options ∧ options.Valid := by
  unfold decodeFilePicker
  constructor
  · intro h
    -- the checks of the decoder, one by one and in its order
    obtain ⟨object, hobject, h⟩ := Scan.bind_eq_ok.mp h
    obtain ⟨modeText, hmodeText, h⟩ := Scan.bind_eq_ok.mp h
    obtain ⟨mode, hmode, h⟩ := Scan.bind_eq_ok.mp h
    obtain ⟨title, htitle, h⟩ := Scan.bind_eq_ok.mp h
    obtain ⟨acceptLabel, haccept, h⟩ := Scan.bind_eq_ok.mp h
    obtain ⟨initialDirectory, hdirectory, h⟩ := Scan.bind_eq_ok.mp h
    obtain ⟨suggestedName, hname, h⟩ := Scan.bind_eq_ok.mp h
    obtain ⟨defaultSuffix, hsuffix, h⟩ := Scan.bind_eq_ok.mp h
    obtain ⟨selected, hselected, h⟩ := Scan.bind_eq_ok.mp h
    obtain ⟨confirm, hconfirm, h⟩ := Scan.bind_eq_ok.mp h
    obtain ⟨values, hvalues, h⟩ := Scan.bind_eq_ok.mp h
    obtain ⟨filters, hfilters, h⟩ := Scan.bind_eq_ok.mp h
    obtain ⟨_, hknown, hitem⟩ := Scan.bind_eq_ok.mp h
    obtain ⟨hmembers, rfl⟩ := asObject_iff.mp (require_ok.mp hobject)
    obtain rfl := Except.ok.inj hitem
    have hmodeText' := getString_iff.mp (require_ok.mp hmodeText)
    rw [modeFromWireValue_iff.mp (require_ok.mp hmode)] at hmodeText'
    obtain ⟨items, hitems, hall, heach⟩ := (decodeOnto_iff decodeFilter_iff).mp hfilters
    obtain rfl : filters = items := hitems
    obtain ⟨hgood, -, hapart⟩ := each_named_iff.mp heach
    refine ⟨⟨hmembers, hmodeText', pickerString_ok.mp htitle, pickerString_ok.mp haccept,
      pickerString_ok.mp hdirectory, pickerString_ok.mp hname, pickerString_ok.mp hsuffix,
      pickerString_ok.mp hselected, getBool_iff.mp (require_ok.mp hconfirm), values,
      bind_asArray_iff.mp (require_ok.mp hvalues), hall⟩, ?_⟩
    refine ⟨fun filter hfilter => (hgood filter hfilter).1, hapart,
      fun filter hfilter => (hgood filter hfilter).2, ?_⟩
    -- the last check refuses a selected filter that is none of the filters
    by_contra hnone
    rw [not_or, not_exists] at hnone
    refine refuse_ok.mp hknown ⟨hnone.1, fun filter hfilter heq => ?_⟩
    exact hnone.2 filter ⟨hfilter, heq⟩
  · rintro ⟨h, hvalid⟩
    obtain ⟨values, hvalues, hall⟩ := h.filters
    refine Scan.bind_eq_ok.mpr ⟨encoded, require_ok.mpr (asObject_iff.mpr ⟨h.isObject, rfl⟩), ?_⟩
    refine Scan.bind_eq_ok.mpr ⟨_, require_ok.mpr (getString_iff.mpr h.mode), ?_⟩
    refine Scan.bind_eq_ok.mpr ⟨_, require_ok.mpr (modeFromWireValue_iff.mpr rfl), ?_⟩
    refine Scan.bind_eq_ok.mpr ⟨_, pickerString_ok.mpr h.title, ?_⟩
    refine Scan.bind_eq_ok.mpr ⟨_, pickerString_ok.mpr h.acceptLabel, ?_⟩
    refine Scan.bind_eq_ok.mpr ⟨_, pickerString_ok.mpr h.initialDirectory, ?_⟩
    refine Scan.bind_eq_ok.mpr ⟨_, pickerString_ok.mpr h.suggestedName, ?_⟩
    refine Scan.bind_eq_ok.mpr ⟨_, pickerString_ok.mpr h.defaultSuffix, ?_⟩
    refine Scan.bind_eq_ok.mpr ⟨_, pickerString_ok.mpr h.selected, ?_⟩
    refine Scan.bind_eq_ok.mpr ⟨_, require_ok.mpr (getBool_iff.mpr h.confirmOverwrite), ?_⟩
    refine Scan.bind_eq_ok.mpr ⟨values, require_ok.mpr (bind_asArray_iff.mpr hvalues), ?_⟩
    refine Scan.bind_eq_ok.mpr ⟨options.filters, ?_, ?_⟩
    · refine (decodeOnto_iff decodeFilter_iff).mpr ⟨options.filters, rfl, hall, ?_⟩
      refine each_named_iff.mpr ⟨fun filter hfilter => ?_, nofun, hvalid.apart⟩
      exact ⟨hvalid.named filter hfilter, hvalid.patterns filter hfilter⟩
    · refine Scan.bind_eq_ok.mpr ⟨(), refuse_ok.mpr ?_, rfl⟩
      rintro ⟨hne, hunknown⟩
      rcases hvalid.selected with hnil | ⟨filter, hfilter, heq⟩
      · exact hne hnil
      · exact hunknown filter hfilter heq

theorem filterPayload_arrived (filter : FilePickerFilter) :
    FilterPayload filter.toJson.arrived filter where
  isObject := ⟨_, arrived_object _⟩
  id := find_arrived_fields "id" _
  label := find_arrived_fields "label" _
  patterns := (find_arrived_fields "patterns" _).trans (congrArg some (arrived_strings _))

/-- Options arrive as a document of them. -/
theorem filePickerPayload_arrived (options : FilePickerOptions) :
    FilePickerPayload options.toJson.arrived options where
  isObject := ⟨_, arrived_object _⟩
  mode := find_arrived_fields "mode" _
  title := find_arrived_fields "title" _
  acceptLabel := find_arrived_fields "accept_label" _
  initialDirectory := find_arrived_fields "initial_directory" _
  suggestedName := find_arrived_fields "suggested_name" _
  defaultSuffix := find_arrived_fields "default_suffix" _
  selected := find_arrived_fields "initially_selected_filter_id" _
  confirmOverwrite := find_arrived_fields "confirm_overwrite" _
  filters := by
    refine ⟨_, (find_arrived_fields "filters" _).trans (congrArg some (arrived_array _)), ?_⟩
    rw [List.forall₂_map_left_iff, List.forall₂_map_left_iff]
    exact List.forall₂_same.mpr fun filter _ => filterPayload_arrived filter

/-! ## The setters -/

inductive PickerCall where
  | setFilePicker (buttonText filter title : Bytes)
  | setFilePickerOptions (buttonText : Bytes) (options : FilePickerOptions)
  | setSaveFilePicker (buttonText filter title : Bytes) (defaultSuffix : Bytes := [])
  | setFolderPicker (buttonText title : Bytes)

inductive PickerKind where
  | file
  | save
  | folder
  deriving DecidableEq

def PickerKind.action : PickerKind → String
  | file => "file_picker"
  | save => "save_file_picker"
  | folder => "folder_picker"

namespace PickerCall

/-- The call on a widget. -/
def on (name : Bytes) : PickerCall → Call
  | setFilePicker buttonText filter title => .setFilePicker name buttonText filter title
  | setFilePickerOptions buttonText options => .setFilePickerOptions name buttonText options
  | setSaveFilePicker buttonText filter title defaultSuffix =>
    .setSaveFilePicker name buttonText filter title defaultSuffix
  | setFolderPicker buttonText title => .setFolderPicker name buttonText title

/-- What a mode is to a host without structured pickers. -/
def kindOfMode : FilePickerMode → PickerKind
  | .openFile | .openFiles => .file
  | .saveFile => .save
  | .selectDirectory => .folder

def kind : PickerCall → PickerKind
  | setFilePicker _ _ _ => .file
  | setFilePickerOptions _ options => kindOfMode options.mode
  | setSaveFilePicker _ _ _ _ => .save
  | setFolderPicker _ _ => .folder

def options : PickerCall → Option FilePickerOptions
  | setFilePickerOptions _ options => some options
  | _ => none

def title : PickerCall → Bytes
  | setFilePicker _ _ title | setSaveFilePicker _ _ title _ | setFolderPicker _ title => title
  | setFilePickerOptions _ options => options.title

/-- The legacy filter text; a folder has none. -/
def filter : PickerCall → Option Bytes
  | setFilePicker _ filter _ | setSaveFilePicker _ filter _ _ => some filter
  | setFilePickerOptions _ options =>
    if kindOfMode options.mode = .folder then none else some (legacyFilter options.filters)
  | setFolderPicker _ _ => none

/-- The suffix of a picker that saves. -/
def defaultSuffix : PickerCall → Option Bytes
  | setSaveFilePicker _ _ _ defaultSuffix => some defaultSuffix
  | setFilePickerOptions _ options =>
    if kindOfMode options.mode = .save then some options.defaultSuffix else none
  | _ => none

end PickerCall

/-- The view shows the picker of one call. -/
structure Reports (view : WidgetDataView) (name : Bytes) (call : PickerCall) : Prop where
  structured : view.isStructuredFilePicker name = call.options.isSome
  options : ∀ options ∈ call.options, options.Valid →
    view.filePickerOptions name = .ok (some options)
  isFile : view.isFilePicker name = decide (call.kind = .file)
  isSave : view.isSaveFilePicker name = decide (call.kind = .save)
  isFolder : view.isFolderPicker name = decide (call.kind = .folder)
  filter : view.filePickerFilter name = call.filter
  fileTitle : view.filePickerTitle name = some call.title
  folderTitle : view.folderPickerTitle name = some call.title
  defaultSuffix : view.saveFilePickerDefaultSuffix name = call.defaultSuffix

/-- The calls before leave no member that the last call does not write. -/
def Replaces (before : List PickerCall) : PickerCall → Prop
  | .setFilePickerOptions _ _ => True
  | .setSaveFilePicker _ _ _ _ => ∀ call ∈ before, call.options = none
  | .setFilePicker _ _ _ => ∀ call ∈ before, call.options = none ∧ call.defaultSuffix = none
  | .setFolderPicker _ _ =>
    ∀ call ∈ before, call.options = none ∧ call.filter = none ∧ call.defaultSuffix = none

/-! ## The members of a picker -/

/-- The object of a widget after picker calls. -/
def pickerEntry (name : Bytes) (calls : List PickerCall) : Members :=
  entryAfter (calls.map (PickerCall.on name))

theorem pickerEntry_concat {key : String} (hkey : key ∉ Call.accumulatedKeys) (name : Bytes)
    (before : List PickerCall) (last : PickerCall) :
    (pickerEntry name (before ++ [last])).get key =
      ((last.on name).written key).getD ((pickerEntry name before).get key) := by
  unfold pickerEntry
  rw [List.map_append, List.map_singleton, entryAfter_concat]
  exact get_change hkey _ _

section Written

variable (name : Bytes) (call : PickerCall)

/-- Every picker call writes its action and its title. -/
theorem written_action :
    (call.on name).written "action" = some (some (.string (text call.kind.action))) := by
  cases call with
  | setFilePickerOptions buttonText options =>
    obtain ⟨mode⟩ := options
    cases mode <;> rfl
  | _ => rfl

theorem written_title : (call.on name).written "title" = some (some (.string call.title)) := by
  cases call with
  | setFilePickerOptions buttonText options =>
    obtain ⟨mode⟩ := options
    cases mode <;> rfl
  | _ => rfl

theorem written_filter (h : ∀ buttonText title, call ≠ .setFolderPicker buttonText title) :
    (call.on name).written "filter" = some (call.filter.map .string) := by
  cases call with
  | setFilePickerOptions buttonText options =>
    obtain ⟨mode⟩ := options
    cases mode <;> rfl
  | setFolderPicker buttonText title => exact absurd rfl (h buttonText title)
  | _ => rfl

/-- Only the structured setter writes the options, and no setter removes them. -/
theorem written_options :
    (call.on name).written "file_picker" =
      (call.options.map FilePickerOptions.toJson).map some := by
  cases call with
  | setFilePickerOptions buttonText options =>
    obtain ⟨mode⟩ := options
    cases mode <;> rfl
  | _ => rfl

/-- A plain setter sets the suffix or leaves it. -/
theorem written_plainSuffix (h : call.options = none) :
    (call.on name).written "default_suffix" = (call.defaultSuffix.map Value.string).map some := by
  cases call with
  | setFilePickerOptions buttonText options => exact nomatch h
  | _ => rfl

theorem written_plainFilter (h : call.options = none) :
    (call.on name).written "filter" = (call.filter.map Value.string).map some := by
  cases call with
  | setFilePickerOptions buttonText options => exact nomatch h
  | _ => rfl

theorem written_structuredSuffix (h : call.options ≠ none) :
    (call.on name).written "default_suffix" = some (call.defaultSuffix.map .string) := by
  cases call with
  | setFilePickerOptions buttonText options =>
    obtain ⟨mode⟩ := options
    cases mode <;> rfl
  | _ => exact absurd rfl h

end Written

/-- A member that calls set and never remove is missing where none of them sets it. -/
theorem pickerEntry_eq_none {key : String} (hkey : key ∉ Call.accumulatedKeys) (name : Bytes)
    (set : PickerCall → Option Value) {calls : List PickerCall}
    (h : ∀ call ∈ calls, (call.on name).written key = (set call).map some) :
    (pickerEntry name calls).get key = none ↔ ∀ call ∈ calls, set call = none := by
  induction calls using List.reverseRecOn with
  | nil => exact iff_of_true rfl nofun
  | append_singleton calls last ih =>
    have hlast := h last (List.mem_append_right _ (List.mem_singleton_self last))
    rw [pickerEntry_concat hkey, hlast, List.forall_mem_append, List.forall_mem_singleton,
      ← ih fun call hcall => h call (List.mem_append_left _ hcall)]
    cases set last with
    | none => exact ⟨fun hnone => ⟨hnone, rfl⟩, And.left⟩
    | some value => exact ⟨nofun, fun hand => nomatch hand.2⟩

section Leftovers

variable {name : Bytes} {before : List PickerCall}

theorem leftover_options :
    (pickerEntry name before).get "file_picker" = none ↔ ∀ call ∈ before, call.options = none := by
  rw [pickerEntry_eq_none (by decide) name (fun call => call.options.map FilePickerOptions.toJson)
    fun call _ => written_options name call]
  simp only [Option.map_eq_none_iff]

theorem leftover_suffix (h : ∀ call ∈ before, call.options = none) :
    (pickerEntry name before).get "default_suffix" = none ↔
      ∀ call ∈ before, call.defaultSuffix = none := by
  rw [pickerEntry_eq_none (by decide) name (fun call => call.defaultSuffix.map Value.string)
    fun call hcall => written_plainSuffix name call (h call hcall)]
  simp only [Option.map_eq_none_iff]

theorem leftover_filter (h : ∀ call ∈ before, call.options = none) :
    (pickerEntry name before).get "filter" = none ↔ ∀ call ∈ before, call.filter = none := by
  rw [pickerEntry_eq_none (by decide) name (fun call => call.filter.map Value.string)
    fun call hcall => written_plainFilter name call (h call hcall)]
  simp only [Option.map_eq_none_iff]

end Leftovers

/-! ## The view -/

/-- The view of a printed document shows the members of a widget as they arrive. -/
theorem member_arrived {data entry : Members} {name : Bytes}
    (h : data.lookup name = some (.object entry)) (key : String) :
    (WidgetDataView.mk (Value.object data).arrived).member name key =
      (entry.get key).map Value.arrived := by
  have hwidget : (WidgetDataView.mk (Value.object data).arrived).widget name =
      some (Value.object entry).arrived := by
    unfold WidgetDataView.widget
    rw [arrived_object]
    dsimp only
    rw [lookup_arrived, h, Option.map_some, Option.bind_some, arrived_object]
    rfl
  unfold WidgetDataView.member
  rw [hwidget, Option.bind_some]
  exact find_arrived_object key entry

/-- Texts arrive as they were. -/
theorem map_arrived_string (content : Option Bytes) :
    (content.map Value.string).map Value.arrived = content.map Value.string := by
  cases content <;> rfl

/-- Calls on one widget make its object and nothing else. -/
theorem run_on {name : Bytes} {calls : List Call} (h : ∀ call ∈ calls, call.target = some name) :
    WidgetData.run calls =
      .ok (if calls = [] then [] else [(name, .object (entryAfter calls))]) := by
  induction calls using List.reverseRecOn with
  | nil => rfl
  | append_singleton calls call ih =>
    have htarget := h call (List.mem_append_right _ (List.mem_singleton_self call))
    have hrun (data : Members) : call.run data = modifyEntry name call.change data := by
      cases call with
      | request command => exact nomatch htarget
      | _ =>
        obtain rfl := Option.some.inj htarget
        rfl
    have hcalls := ih fun other hother => h other (List.mem_append_left _ hother)
    unfold WidgetData.run at hcalls ⊢
    rw [List.foldlM_append, hcalls,
      if_neg (List.append_ne_nil_of_right_ne_nil _ (List.cons_ne_nil _ _))]
    show List.foldlM (fun data call => call.run data) _ [call] = _
    rw [List.foldlM_cons, hrun, entryAfter_concat]
    -- the first call makes the entry, the others change it
    by_cases hnil : calls = []
    · rw [hnil]
      rfl
    · rw [if_neg hnil]
      have hlookup : [(name, Value.object (entryAfter calls))].lookup name =
          some (.object (entryAfter calls)) := by rw [SortedMap.lookup_cons, if_pos rfl]
      have hset (value : Value) :
          Members.setAt name value [(name, Value.object (entryAfter calls))] =
          [(name, value)] := by
        unfold Members.setAt SortedMap.insert
        rw [if_pos rfl]
      unfold modifyEntry
      rw [hlookup]
      dsimp only
      rw [hset]
      rfl

theorem PickerCall.on_target (name : Bytes) (call : PickerCall) :
    (call.on name).target = some name := by
  cases call <;> rfl

section Views

variable {name : Bytes} {before : List PickerCall} {last : PickerCall} {view : WidgetDataView}

/-- The view shows the members of the widget after the calls. -/
def ShowsEntry (view : WidgetDataView) (name : Bytes) (entry : Members) : Prop :=
  ∀ key, view.member name key = (entry.get key).map Value.arrived

variable (h : ShowsEntry view name (pickerEntry name (before ++ [last])))

include h

theorem member_concat {key : String} (hkey : key ∉ Call.accumulatedKeys) :
    view.member name key =
      (((last.on name).written key).getD ((pickerEntry name before).get key)).map
        Value.arrived := by
  rw [h key, pickerEntry_concat hkey]

/-- A text that the last call sets or removes is read as such. -/
theorem getString_written {key : String} (hkey : key ∉ Call.accumulatedKeys)
    {content : Option Bytes}
    (hwritten : (last.on name).written key = some (content.map .string)) :
    view.getString name key = content := by
  unfold WidgetDataView.getString
  rw [member_concat h hkey, hwritten, Option.getD_some, map_arrived_string]
  cases content <;> rfl

theorem hasAction_iff (kind : PickerKind) :
    view.hasAction name kind.action = decide (last.kind = kind) := by
  have haction : view.getString name "action" = some (text last.kind.action) :=
    getString_written h (by decide) (written_action name last)
  unfold WidgetDataView.hasAction
  rw [haction, decide_eq_decide, Option.some.injEq]
  constructor
  · intro htext
    have hname := text_inj htext
    revert hname
    cases last.kind <;> cases kind <;> decide
  · exact fun hkind => by rw [hkind]

theorem getString_title : view.getString name "title" = some last.title :=
  getString_written h (by decide) (written_title name last)

/-- A member that the last call leaves is missing only where it was missing before. -/
theorem member_kept {key : String} (hkey : key ∉ Call.accumulatedKeys)
    (hwritten : (last.on name).written key = none) :
    view.member name key = none ↔ (pickerEntry name before).get key = none := by
  rw [member_concat h hkey, hwritten, Option.getD_none, Option.map_eq_none_iff]

theorem structured_iff (hplain : last.options = none) :
    view.isStructuredFilePicker name = false ↔ ∀ call ∈ before, call.options = none := by
  unfold WidgetDataView.isStructuredFilePicker
  rw [Option.isSome_eq_false_iff, Option.isNone_iff_eq_none,
    member_kept h (by decide) (by rw [written_options, hplain]; rfl), leftover_options]

/-- A text that picker calls set is a text, so that it is read where it stands. -/
theorem getString_kept {key : String} (hkey : key ∉ Call.accumulatedKeys)
    (hwritten : (last.on name).written key = none)
    (htext : ∀ value, (pickerEntry name before).get key = some value → ∃ content, value = .string content) :
    view.getString name key = none ↔ (pickerEntry name before).get key = none := by
  unfold WidgetDataView.getString
  rw [member_concat h hkey, hwritten, Option.getD_none]
  cases hget : (pickerEntry name before).get key with
  | none => exact iff_of_true rfl rfl
  | some value =>
    obtain ⟨content, rfl⟩ := htext value hget
    exact ⟨nofun, nofun⟩

omit h in
/-- The texts of a picker are texts. -/
theorem pickerEntry_text {key : String} (hkey : key ∉ Call.accumulatedKeys)
    (hwritten : ∀ call : PickerCall, (call.on name).written key = none ∨
      ∃ content : Option Bytes, (call.on name).written key = some (content.map .string))
    {value : Value} (hvalue : (pickerEntry name before).get key = some value) :
    ∃ content, value = .string content := by
  induction before using List.reverseRecOn with
  | nil => exact nomatch hvalue
  | append_singleton before last ih =>
    rw [pickerEntry_concat hkey] at hvalue
    rcases hwritten last with hnone | ⟨content, hsome⟩
    · rw [hnone] at hvalue
      exact ih hvalue
    · rw [hsome, Option.getD_some] at hvalue
      obtain ⟨bytes, -, rfl⟩ := Option.map_eq_some_iff.mp hvalue
      exact ⟨bytes, rfl⟩

theorem suffix_kept (hlast : last.options = none) (hnone : last.defaultSuffix = none) :
    view.saveFilePickerDefaultSuffix name = none ↔ (pickerEntry name before).get "default_suffix" =
      none := by
  refine getString_kept h (by decide) (by rw [written_plainSuffix name last hlast, hnone]; rfl) ?_
  refine fun value hvalue => pickerEntry_text (by decide) (fun call => ?_) hvalue
  by_cases hplain : call.options = none
  · rw [written_plainSuffix name call hplain]
    cases call.defaultSuffix with
    | none => exact .inl rfl
    | some content => exact .inr ⟨some content, rfl⟩
  · exact .inr ⟨_, written_structuredSuffix name call hplain⟩

theorem filter_kept (hlast : last.options = none) (hnone : last.filter = none) :
    view.filePickerFilter name = none ↔ (pickerEntry name before).get "filter" = none := by
  refine getString_kept h (by decide) (by rw [written_plainFilter name last hlast, hnone]; rfl) ?_
  refine fun value hvalue => pickerEntry_text (by decide) (fun call => ?_) hvalue
  cases call with
  | setFolderPicker buttonText title => exact .inl rfl
  | _ => exact .inr ⟨_, written_filter name _ nofun⟩

/-- Of what a plain call reports only the members that it does not write are in question. -/
theorem reports_plain (hplain : last.options = none)
    (hfilter : last.filter = none ∨ (last.on name).written "filter" = some (last.filter.map .string))
    (hsuffix : last.defaultSuffix = none ∨
      (last.on name).written "default_suffix" = some (last.defaultSuffix.map .string)) :
    Reports view name last ↔
      view.isStructuredFilePicker name = false ∧
        (last.filter = none → view.filePickerFilter name = none) ∧
          (last.defaultSuffix = none → view.saveFilePickerDefaultSuffix name = none) := by
  constructor
  · intro hreports
    refine ⟨?_, fun hnone => hreports.filter.trans hnone,
      fun hnone => hreports.defaultSuffix.trans hnone⟩
    rw [hreports.structured, hplain]
    rfl
  · rintro ⟨hstructured, hfilter', hsuffix'⟩
    refine ⟨?_, ?_, hasAction_iff h .file, hasAction_iff h .save, hasAction_iff h .folder, ?_,
      getString_title h, getString_title h, ?_⟩
    · rw [hstructured, hplain]
      rfl
    · intro options hoptions
      rw [hplain] at hoptions
      exact nomatch hoptions
    · rcases hfilter with hnone | hwritten
      · rw [hnone, hfilter' hnone]
      · exact getString_written h (by decide) hwritten
    · rcases hsuffix with hnone | hwritten
      · rw [hnone, hsuffix' hnone]
      · exact getString_written h (by decide) hwritten

/-- A structured call decides everything. -/
theorem reports_structured {buttonText : Bytes} {options : FilePickerOptions}
    (hlast : last = .setFilePickerOptions buttonText options) : Reports view name last := by
  have hoptions : view.member name "file_picker" = some options.toJson.arrived := by
    rw [member_concat h (by decide), written_options, hlast]
    rfl
  refine ⟨?_, ?_, hasAction_iff h .file, hasAction_iff h .save, hasAction_iff h .folder, ?_,
    getString_title h, getString_title h, ?_⟩
  · unfold WidgetDataView.isStructuredFilePicker
    rw [hoptions, hlast]
    rfl
  · intro given hgiven hvalid
    rw [hlast] at hgiven
    obtain rfl := Option.some.inj hgiven
    unfold WidgetDataView.filePickerOptions
    rw [hoptions]
    dsimp only
    rw [decodeFilePicker_iff.mpr ⟨filePickerPayload_arrived options, hvalid⟩]
    rfl
  · refine getString_written h (by decide) (written_filter name last fun text title heq => ?_)
    rw [hlast] at heq
    exact nomatch heq
  · refine getString_written h (by decide) (written_structuredSuffix name last ?_)
    rw [hlast]
    exact Option.some_ne_none options

/-- The last call decides what the view reports exactly where it replaces the calls before. -/
theorem reports_iff : Reports view name last ↔ Replaces before last := by
  cases hlast : last with
  | setFilePickerOptions buttonText options =>
    rw [← hlast]
    refine iff_of_true (reports_structured h hlast) ?_
    rw [hlast]
    exact trivial
  | setSaveFilePicker buttonText filter title defaultSuffix =>
    rw [← hlast,
      reports_plain h (by rw [hlast]; rfl) (.inr (by rw [hlast]; rfl)) (.inr (by rw [hlast]; rfl)),
      structured_iff h (by rw [hlast]; rfl), hlast]
    exact ⟨And.left, fun hbefore => ⟨hbefore, nofun, nofun⟩⟩
  | setFilePicker buttonText filter title =>
    have hplain : last.options = none := by rw [hlast]; rfl
    have hnone : last.defaultSuffix = none := by rw [hlast]; rfl
    rw [← hlast, reports_plain h hplain (.inr (by rw [hlast]; rfl)) (.inl hnone),
      structured_iff h hplain]
    constructor
    · rintro ⟨hbefore, -, hsuffix⟩
      rw [hlast]
      intro call hcall
      have hkept := (leftover_suffix hbefore).mp ((suffix_kept h hplain hnone).mp (hsuffix hnone))
      exact ⟨hbefore call hcall, hkept call hcall⟩
    · rw [hlast]
      intro hbefore
      have hstructured : ∀ call ∈ before, call.options = none :=
        fun call hcall => (hbefore call hcall).1
      refine ⟨hstructured, nofun, fun _ => ?_⟩
      exact (suffix_kept h hplain hnone).mpr
        ((leftover_suffix hstructured).mpr fun call hcall => (hbefore call hcall).2)
  | setFolderPicker buttonText title =>
    have hplain : last.options = none := by rw [hlast]; rfl
    have hnone : last.defaultSuffix = none := by rw [hlast]; rfl
    have hnone' : last.filter = none := by rw [hlast]; rfl
    rw [← hlast, reports_plain h hplain (.inl hnone') (.inl hnone), structured_iff h hplain]
    constructor
    · rintro ⟨hbefore, hfilter, hsuffix⟩
      rw [hlast]
      intro call hcall
      have hkept := (leftover_suffix hbefore).mp ((suffix_kept h hplain hnone).mp (hsuffix hnone))
      have hkept' :=
        (leftover_filter hbefore).mp ((filter_kept h hplain hnone').mp (hfilter hnone'))
      exact ⟨hbefore call hcall, hkept' call hcall, hkept call hcall⟩
    · rw [hlast]
      intro hbefore
      have hstructured : ∀ call ∈ before, call.options = none :=
        fun call hcall => (hbefore call hcall).1
      refine ⟨hstructured, fun _ => ?_, fun _ => ?_⟩
      · exact (filter_kept h hplain hnone').mpr
          ((leftover_filter hstructured).mpr fun call hcall => (hbefore call hcall).2.1)
      · exact (suffix_kept h hplain hnone).mpr
          ((leftover_suffix hstructured).mpr fun call hcall => (hbefore call hcall).2.2)

end Views

/-- Over the text of a document that picker calls on one widget have built, the view shows the
picker of the last call exactly where it replaces what the others have left. -/
theorem picker_reports_iff (dump : Value → Bytes) (parse : Bytes → Option Value) (name : Bytes)
    (before : List PickerCall) (last : PickerCall)
    (htexts : ∀ call ∈ before ++ [last], (call.on name).ValidTexts)
    (hparse : ∀ data, WidgetData.run ((before ++ [last]).map (PickerCall.on name)) = .ok data →
      (Value.object data).Dumps →
        parse (WidgetData.toJson dump data) = some (Value.object data).arrived) :
    ∃ data, WidgetData.run ((before ++ [last]).map (PickerCall.on name)) = .ok data ∧
      (Reports (WidgetDataView.ofJson parse (WidgetData.toJson dump data)) name last ↔
        Replaces before last) := by
  have hnonempty : (before ++ [last]).map (PickerCall.on name) ≠ [] := by
    rw [List.map_append]
    exact List.append_ne_nil_of_right_ne_nil _ (List.cons_ne_nil _ _)
  have htargets : ∀ call ∈ (before ++ [last]).map (PickerCall.on name), call.target =
      some name := by
    intro call hcall
    obtain ⟨picker, -, rfl⟩ := List.mem_map.mp hcall
    exact picker.on_target name
  have hrun := run_on htargets
  rw [if_neg hnonempty] at hrun
  refine ⟨_, hrun, reports_iff fun key => ?_⟩
  have hdumps := run_dumps (by
    intro call hcall
    obtain ⟨picker, hpicker, rfl⟩ := List.mem_map.mp hcall
    exact htexts picker hpicker) hrun
  unfold WidgetDataView.ofJson
  rw [hparse _ hrun hdumps, Option.getD_some]
  refine member_arrived ?_ key
  rw [SortedMap.lookup_cons, if_pos rfl]
  rfl

/-- A picker of folders that was one before. -/
theorem picker_reports_folder :
    ∃ data, WidgetData.run
        [.setFolderPicker (text "out") (text "Browse") (text "Folder"),
          .setFolderPicker (text "out") (text "Choose") (text "Output")] = .ok data ∧
      (Reports
          (WidgetDataView.ofJson
            (fun _ => some (.object [(text "out", .object
              [(text "action", .string (text "folder_picker")), (text "button_text", .string (text "Choose")),
                (text "title", .string (text "Output"))])]))
            (WidgetData.toJson (fun _ => text "a document") data))
          (text "out") (.setFolderPicker (text "Choose") (text "Output")) ↔
        Replaces [.setFolderPicker (text "Browse") (text "Folder")]
          (.setFolderPicker (text "Choose") (text "Output"))) := by
  refine picker_reports_iff (fun _ => text "a document") _ (text "out")
    [.setFolderPicker (text "Browse") (text "Folder")]
      (.setFolderPicker (text "Choose") (text "Output"))
    ?_ ?_
  · have hcall (buttonText title : String) :
        ((PickerCall.setFolderPicker (text buttonText) (text title)).on (text "out")).ValidTexts :=
      ⟨validUtf8_text _, DumpsEach.cons (dumps_string (validUtf8_text _))
        (.cons (dumps_string (validUtf8_text _)) (.cons (dumps_string (validUtf8_text _)) .nil))⟩
    exact List.forall_mem_cons.mpr ⟨hcall _ _, List.forall_mem_singleton.mpr (hcall _ _)⟩
  · intro data hrun _
    obtain rfl := Except.ok.inj hrun
    rfl

/-- A structured picker that is turned into a plain one still is a structured picker. -/
theorem structured_remains :
    ∃ data, WidgetData.run
        [.setFilePickerOptions (text "open") (text "Open") {},
          .setFilePicker (text "open") (text "Open") (text "*.csv") (text "Open a table")] =
            .ok data ∧
      (WidgetDataView.mk (Value.object data).arrived).isStructuredFilePicker (text "open") = true ∧
      ¬ Reports (WidgetDataView.mk (Value.object data).arrived) (text "open")
        (.setFilePicker (text "Open") (text "*.csv") (text "Open a table")) := by
  refine ⟨_, rfl, by decide, fun h => ?_⟩
  exact absurd h.structured (by decide)

end Dialog

end PlotJugglerSdk
