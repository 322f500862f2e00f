import PlotJugglerSdk.Host.ModuleManifest
import PlotJugglerSdk.Host.SemVer
import PlotJugglerSdk.Json.Access
import PlotJugglerSdk.Lexing.Paths
import PlotJugglerSdk.Scan.Folds

/-!
# The plugin catalog

What a host learns of a plugin library before it uses it (`plugin_catalog.cpp`). The library
exports the function table of a family; the table, or an instance made with it, has the
manifest; `decodeManifest` reads that as a descriptor. What the loader of the platform says
about a symbol is part of the library here, and the JSON library is a parameter.

* `decodeManifest_ok_iff`        — the manifests that are accepted, and their descriptors
* `findEmbeddedManifest_ok_iff`  — which of the tables of a library counts
* `inspectPluginDso_ok_iff`      — both of them, for a library file
-/

namespace PlotJugglerSdk

open Wire Json Lexing

inductive PluginFamily
  | unknown | dataSource | messageParser | toolbox | dialog | widget
  deriving DecidableEq, Repr

/-- One widget type of a widget plugin. -/
structure WidgetTypeDescriptor where
  type : Bytes
  name : Bytes
  icon : Bytes
  settingsJson : Bytes

structure PluginDescriptor where
  dsoPath : Bytes
  abiMajor : UInt32
  family : PluginFamily
  id : Bytes
  name : Bytes
  version : Bytes
  minPlotjugglerVersion : Bytes
  description : Bytes
  category : Bytes
  encoding : List Bytes
  fileExtensions : List Bytes
  capabilities : List Bytes
  minSdkRequired : Bytes
  suggestedSdkVersion : Bytes
  badge : Bytes
  widgets : List WidgetTypeDescriptor
  qtModules : List Bytes

def PJ_ABI_VERSION : UInt32 := 5

namespace PluginCatalog

/-! ## Reading a manifest -/

def readStringArray (j : Value) (key : String) : Except Bytes (List Bytes) :=
  match j.find key with
  | none => .ok []
  | some (.array values) =>
    values.mapM fun
      | .string value => .ok value
      | _ => .error (text "plugin embedded manifest key contains a non-string value: " ++ text key)
  | some _ => .error (text "plugin embedded manifest key must be an array of strings: " ++ text key)

/-- A missing optional member reads as an empty text; a required one must not be empty. -/
def readString (j : Value) (key : String) (required : Bool) : Except Bytes Bytes :=
  if required then
    match j.find key with
    | some (.string (b :: value)) => .ok (b :: value)
    | _ => .error (text "plugin embedded manifest missing required string key: " ++ text key)
  else
    match j.find key with
    | none => .ok []
    | some (.string value) => .ok value
    | some _ => .error (text "plugin embedded manifest key must be a string: " ++ text key)

section Manifest

-- `nlohmann::json::parse`, an error being the text of its exception, and `dump`
variable (parseJson : Bytes → Except Bytes Value) (dumpJson : Value → Bytes)

/-- One entry of `widgets`; the types of the entries before it are `seenTypes`. -/
def readWidgetType (seenTypes : List Bytes) (entry : Value) :
    Except Bytes WidgetTypeDescriptor :=
  if !entry.isObject then
    .error (text "plugin embedded manifest widgets entries must be objects")
  else do
    let type ← readString entry "type" true
    let name ← readString entry "name" true
    let icon ← readString entry "icon" false
    -- the slash joins the id of a plugin and a type into the id of a panel
    if type.contains kSlash then
      .error (text "plugin embedded manifest widget type must not contain '/': " ++ type)
    else if seenTypes.contains type then
      .error (text "plugin embedded manifest declares widget type twice: " ++ type)
    else
      match entry.find "settings" with
      | none => .ok { type, name, icon, settingsJson := text "[]" }
      | some (.array settings) =>
        .ok { type, name, icon, settingsJson := dumpJson (.array settings) }
      | some _ =>
        .error (text "plugin embedded manifest widget settings must be an array: " ++ type)

def readWidgetTypes (j : Value) : Except Bytes (List WidgetTypeDescriptor) :=
  match j.find "widgets" with
  | some (.array (entry :: entries)) =>
    (entry :: entries).foldlM (fun widgets entry => do
      let widget ← readWidgetType dumpJson (widgets.map WidgetTypeDescriptor.type) entry
      .ok (widgets ++ [widget])) []
  | _ => .error (text "plugin embedded manifest missing required widgets array")

/-- `min_sdk_required`: nothing, or one version. -/
def readMinSdk (j : Value) : Except Bytes Bytes := do
  let minSdkRequired ← readString j "min_sdk_required" false
  if minSdkRequired = [] then .ok minSdkRequired
  else
    match SemVer.ofText minSdkRequired with
    | .ok _ => .ok minSdkRequired
    | .error e =>
      .error (text "plugin embedded manifest key min_sdk_required has invalid semantic version "
        ++ text "value \"" ++ minSdkRequired ++ text "\": " ++ e)

/-- `encoding`, which a message parser must have. -/
def readEncoding (family : PluginFamily) (j : Value) : Except Bytes (List Bytes) := do
  let encoding ← readStringArray j "encoding"
  if family = .messageParser ∧ encoding = [] then
    .error (text "plugin embedded manifest missing required encoding array")
  else .ok encoding

/-- What only the manifest of a widget plugin has. -/
def readWidgetParts (family : PluginFamily) (j : Value) :
    Except Bytes (List Bytes × List WidgetTypeDescriptor) :=
  if family = .widget then do
    let qtModules ← readStringArray j "qt_modules"
    let widgets ← readWidgetTypes dumpJson j
    .ok (qtModules, widgets)
  else .ok ([], [])

def decodeManifest (sourcePath : Bytes) (family : PluginFamily) (manifestJson : Bytes) :
    Except Bytes PluginDescriptor :=
  if manifestJson = [] then .error (text "plugin embedded manifest is empty")
  else
    match parseJson manifestJson with
    | .error what => .error (text "plugin embedded manifest is invalid JSON: " ++ what)
    | .ok j =>
      if !j.isObject then .error (text "plugin embedded manifest must be a JSON object")
      else do
        let id ← readString j "id" true
        let name ← readString j "name" true
        let version ← readString j "version" true
        let description ← readString j "description" false
        let category ← readString j "category" false
        let minPlotjugglerVersion ← readString j "min_plotjuggler_version" false
        let suggestedSdkVersion ← readString j "suggested_sdk_version" false
        let badge ← readString j "badge" false
        let minSdkRequired ← readMinSdk j
        let fileExtensions ← readStringArray j "file_extensions"
        let capabilities ← readStringArray j "capabilities"
        let encoding ← readEncoding family j
        let (qtModules, widgets) ← readWidgetParts dumpJson family j
        .ok { dsoPath := sourcePath, abiMajor := PJ_ABI_VERSION, family, id, name, version,
              minPlotjugglerVersion, description, category, encoding, fileExtensions,
              capabilities, minSdkRequired, suggestedSdkVersion, badge, widgets, qtModules }

end Manifest

/-! ## Finding a manifest -/

/-- A function table as a library exports it. -/
structure FamilyVtable where
  protocolVersion : UInt32
  structSize : UInt32
  /-- The function slots that hold a pointer. -/
  filled : String → Bool
  manifestJson : Option Bytes
  /-- What `create` gives, with what `get_manifest` returns for it; used for dialogs. -/
  created : Option (Option Bytes)

/-- The two spellings of a path that are recorded before a library is opened. -/
structure LibraryPathIdentity where
  loadPath : Bytes
  resolvedPath : Bytes

/-- An open library: what `resolveSymbol` says about its symbols, for a path that they must be
defined in, and what the symbol stands for. A pointer may be null. -/
structure LoadedLibrary where
  abiVersion : LibraryPathIdentity → Except Bytes (Option UInt32)
  vtable : LibraryPathIdentity → String → Except Bytes (Option FamilyVtable)

structure ManifestCandidate where
  family : PluginFamily
  manifestJson : Bytes

/-- What a table of a family must have. -/
structure FamilyShape where
  family : PluginFamily
  symbol : String
  familyName : String
  expectedProtocol : UInt32
  minVtableSize : UInt32
  baseline : String
  requiredSlots : List String

def FamilyVtable.present (vt : FamilyVtable) (slot : String) : Bool :=
  if slot = "manifest_json" then vt.manifestJson.isSome else vt.filled slot

/-- `validateSlots` -/
def validateRequiredSlots (familyName : String) (vt : FamilyVtable) :
    List String → Except Bytes Unit
  | [] => .ok ()
  | slot :: slots =>
    if vt.present slot then validateRequiredSlots familyName vt slots
    else .error (text familyName ++ text " vtable missing required slot: " ++ text slot)

/-- The table a library exports for a family, where it is complete. -/
def completeVtable (shape : FamilyShape) (handle : LoadedLibrary) (origin : LibraryPathIdentity) :
    Except Bytes FamilyVtable := do
  match ← handle.vtable origin shape.symbol with
  | none => .error (text shape.symbol ++ text " returned null")
  | some vt =>
    if vt.protocolVersion ≠ shape.expectedProtocol then
      .error (text shape.familyName ++ text " protocol version mismatch")
    else if vt.structSize < shape.minVtableSize then
      .error (text shape.familyName ++ text " vtable smaller than " ++ text shape.baseline
        ++ text " baseline")
    else
      validateRequiredSlots shape.familyName vt shape.requiredSlots
      .ok vt

def probeDirectVtable (shape : FamilyShape) (handle : LoadedLibrary)
    (origin : LibraryPathIdentity) : Except Bytes ManifestCandidate := do
  let vt ← completeVtable shape handle origin
  .ok { family := shape.family, manifestJson := vt.manifestJson.getD [] }

def dataSourceShape : FamilyShape where
  family := .dataSource
  symbol := "PJ_get_data_source_vtable"
  familyName := "DataSource"
  expectedProtocol := 4
  minVtableSize := 128
  baseline := "v4.0"
  requiredSlots := ["create", "destroy", "manifest_json", "capabilities", "bind", "save_config",
    "load_config", "start", "stop", "pause", "resume", "poll", "current_state", "get_dialog",
    "get_plugin_extension"]

def messageParserShape : FamilyShape where
  family := .messageParser
  symbol := "PJ_get_message_parser_vtable"
  familyName := "MessageParser"
  expectedProtocol := 4
  minVtableSize := 80
  baseline := "v4.0"
  requiredSlots := ["create", "destroy", "manifest_json", "bind", "bind_schema", "save_config",
    "load_config", "parse", "get_plugin_extension"]

def toolboxShape : FamilyShape where
  family := .toolbox
  symbol := "PJ_get_toolbox_vtable"
  familyName := "Toolbox"
  expectedProtocol := 4
  minVtableSize := 88
  baseline := "v4.0"
  requiredSlots := ["create", "destroy", "manifest_json", "capabilities", "bind", "save_config",
    "load_config", "get_dialog", "on_data_changed", "get_plugin_extension"]

def dialogShape : FamilyShape where
  family := .dialog
  symbol := "PJ_get_dialog_vtable"
  familyName := "Dialog"
  expectedProtocol := 4
  minVtableSize := 96
  baseline := "v4.0"
  requiredSlots := ["create", "destroy", "get_manifest", "get_ui_content", "get_widget_data",
    "on_widget_event", "on_tick", "on_accepted", "on_rejected", "save_config", "load_config"]

def widgetShape : FamilyShape where
  family := .widget
  symbol := "PJ_get_widget_vtable"
  familyName := "Widget"
  expectedProtocol := 1
  minVtableSize := 96
  baseline := "v1.0"
  requiredSlots := ["create", "destroy", "manifest_json", "build_info", "bind", "inputs",
    "create_qwidget", "on_update", "save_config", "load_config", "get_plugin_extension"]

section Probes

variable (handle : LoadedLibrary) (origin : LibraryPathIdentity)

def tryDataSource : Except Bytes ManifestCandidate :=
  probeDirectVtable dataSourceShape handle origin

def tryMessageParser : Except Bytes ManifestCandidate :=
  probeDirectVtable messageParserShape handle origin

def tryToolbox : Except Bytes ManifestCandidate := probeDirectVtable toolboxShape handle origin

/-- The size up to which a dialog's table has the slot of a static manifest. -/
def dialogManifestSlotEnd : UInt32 := 104

/-- A dialog's manifest is an optional slot; without it one is asked for at an instance. -/
def tryDialog : Except Bytes ManifestCandidate := do
  let vt ← completeVtable dialogShape handle origin
  match vt.manifestJson, decide (dialogManifestSlotEnd ≤ vt.structSize) with
  | some manifestJson, true => .ok { family := .dialog, manifestJson }
  | _, _ =>
    match vt.created with
    | none => .error (text "PJ_dialog_vtable_t::create returned null")
    | some manifest => .ok { family := .dialog, manifestJson := manifest.getD [] }

def tryWidget : Except Bytes ManifestCandidate := probeDirectVtable widgetShape handle origin

/-- The first probe that finds something; `errors` are those of the probes before. -/
def firstCandidate (errors : List Bytes) :
    List (String × Except Bytes ManifestCandidate) → Except Bytes ManifestCandidate
  | [] => .error (text "no supported plugin vtable found" ++ errors.flatMap (text "; " ++ ·))
  | (_, .ok candidate) :: _ => .ok candidate
  | (label, .error e) :: probes => firstCandidate (errors ++ [text label ++ text ": " ++ e]) probes

def findEmbeddedManifest : Except Bytes ManifestCandidate :=
  firstCandidate []
    [("data_source", tryDataSource handle origin),
     ("message_parser", tryMessageParser handle origin),
     ("toolbox", tryToolbox handle origin),
     ("dialog", tryDialog handle origin),
     ("widget", tryWidget handle origin)]

def checkPluginAbiVersion : Except Bytes Unit :=
  match handle.abiVersion origin with
  | .error e => .error (text "plugin missing pj_plugin_abi_version symbol: " ++ e)
  | .ok none => .error (text "plugin pj_plugin_abi_version mismatch (expected 5, got null)")
  | .ok (some actual) =>
    if actual ≠ PJ_ABI_VERSION then
      .error (text "plugin pj_plugin_abi_version mismatch (expected 5, got " ++ decimal actual.toNat
        ++ text ")")
    else .ok ()

end Probes

/-! ## Inspecting a library -/

def hasDsoSuffix (path : Bytes) : Bool := Paths.extension path = text ".so"

/-- An open library, which the caller keeps; a null handle is none. What becomes of a path, and
the JSON library, are parameters. -/
def inspectPluginDso (recordPath : Bytes → Except Bytes LibraryPathIdentity)
    (parseJson : Bytes → Except Bytes Value) (dumpJson : Value → Bytes)
    (handle : Option LoadedLibrary) (dsoPath : Bytes) : Except Bytes PluginDescriptor :=
  if !hasDsoSuffix dsoPath then .error (text "not a platform plugin DSO: " ++ dsoPath)
  else
    Except.mapError (fun e => dsoPath ++ text ": " ++ e) do
      match handle with
      | none => .error (text "library not loaded")
      | some handle => do
        let recordedPath ← recordPath dsoPath
        checkPluginAbiVersion handle recordedPath
        let candidate ← findEmbeddedManifest handle recordedPath
        decodeManifest parseJson dumpJson dsoPath candidate.family candidate.manifestJson

end PluginCatalog

namespace PluginCatalog

/-! ## The manifests that are accepted -/

/-- A member that must be there, and not be empty. -/
def RequiredText (j : Value) (key : String) (value : Bytes) : Prop :=
  j.find key = some (.string value) ∧ value ≠ []

def OptionalText (j : Value) (key : String) (value : Bytes) : Prop :=
  j.find key = some (.string value) ∨ j.find key = none ∧ value = []

def TextArray (j : Value) (key : String) (values : List Bytes) : Prop :=
  j.find key = some (.array (values.map .string)) ∨ j.find key = none ∧ values = []

section Declared

variable (dumpJson : Value → Bytes)

structure DeclaresWidget (entry : Value) (widget : WidgetTypeDescriptor) : Prop where
  type : RequiredText entry "type" widget.type
  noSlash : kSlash ∉ widget.type
  name : RequiredText entry "name" widget.name
  icon : OptionalText entry "icon" widget.icon
  settings : entry.find "settings" = none ∧ widget.settingsJson = text "[]" ∨
    ∃ settings, entry.find "settings" = some (.array settings) ∧
      widget.settingsJson = dumpJson (.array settings)

/-- The widget types, at least one and no two of one name. -/
def DeclaresWidgets (j : Value) (widgets : List WidgetTypeDescriptor) : Prop :=
  ∃ entries, j.find "widgets" = some (.array entries) ∧ entries ≠ [] ∧
    List.Forall₂ (DeclaresWidget dumpJson) entries widgets ∧
    (widgets.map WidgetTypeDescriptor.type).Nodup

/-- The descriptor is what the manifest says. -/
structure Declares (j : Value) (d : PluginDescriptor) : Prop where
  id : RequiredText j "id" d.id
  name : RequiredText j "name" d.name
  version : RequiredText j "version" d.version
  description : OptionalText j "description" d.description
  category : OptionalText j "category" d.category
  minPlotjugglerVersion : OptionalText j "min_plotjuggler_version" d.minPlotjugglerVersion
  suggestedSdkVersion : OptionalText j "suggested_sdk_version" d.suggestedSdkVersion
  badge : OptionalText j "badge" d.badge
  minSdkRequired : OptionalText j "min_sdk_required" d.minSdkRequired
  minSdkVersion : d.minSdkRequired ≠ [] →
    ∃ version metadata, SemVer.Spells version metadata d.minSdkRequired
  fileExtensions : TextArray j "file_extensions" d.fileExtensions
  capabilities : TextArray j "capabilities" d.capabilities
  encoding : TextArray j "encoding" d.encoding
  parserEncoding : d.family = .messageParser → d.encoding ≠ []
  widgetParts : d.family = .widget →
    TextArray j "qt_modules" d.qtModules ∧ DeclaresWidgets dumpJson j d.widgets
  otherParts : d.family ≠ .widget → d.qtModules = [] ∧ d.widgets = []

end Declared

/-! ## One lemma for each reader -/

theorem isObject_of_find {j value : Value} {key : String} (h : j.find key = some value) :
    j.isObject = true := by
  cases j with
  | object members => rfl
  | _ => cases h

theorem mapM_strings_ok_iff {e : Bytes} {values : List Value} {strings : List Bytes} :
    (values.mapM fun
      | .string value => .ok value
      | _ => .error e : Except Bytes (List Bytes)) = .ok strings ↔
      values = strings.map .string := by
  rw [Scan.mapM_ok_iff]
  constructor
  · intro h
    induction h with
    | nil => rfl
    | @cons value s values strings hone _ ih =>
      rw [List.map_cons, ih]
      cases value with
      | string value => rw [Except.ok.inj hone]
      | _ => cases hone
  · rintro rfl
    induction strings with
    | nil => exact .nil
    | cons s strings ih => exact .cons rfl ih

theorem readStringArray_ok_iff {j : Value} {key : String} {values : List Bytes} :
    readStringArray j key = .ok values ↔ TextArray j key values := by
  unfold readStringArray TextArray
  split
  · next hnone =>
    rw [hnone]
    constructor
    · intro h
      exact .inr ⟨rfl, (Except.ok.inj h).symm⟩
    · rintro (h | ⟨-, rfl⟩)
      · cases h
      · rfl
  · next members hsome =>
    rw [hsome, mapM_strings_ok_iff]
    constructor
    · rintro rfl
      exact .inl rfl
    · rintro (h | ⟨h, -⟩)
      · exact Value.array.inj (Option.some.inj h)
      · cases h
  · next value hother hsome =>
    rw [hsome]
    constructor
    · intro h
      cases h
    · rintro (h | ⟨h, -⟩)
      · exact absurd (Option.some.inj h) (hother _)
      · cases h

theorem readString_required_iff {j : Value} {key : String} {value : Bytes} :
    readString j key true = .ok value ↔ RequiredText j key value := by
  unfold readString RequiredText
  rw [if_pos rfl]
  split
  · next b rest hsome =>
    rw [hsome]
    constructor
    · intro h
      obtain rfl := Except.ok.inj h
      exact ⟨rfl, List.cons_ne_nil b rest⟩
    · rintro ⟨h, -⟩
      rw [Value.string.inj (Option.some.inj h)]
  · next hother =>
    constructor
    · intro h
      cases h
    · rintro ⟨h, hne⟩
      obtain ⟨b, rest, rfl⟩ := List.exists_cons_of_ne_nil hne
      exact absurd h (hother b rest)

theorem readString_optional_iff {j : Value} {key : String} {value : Bytes} :
    readString j key false = .ok value ↔ OptionalText j key value := by
  unfold readString OptionalText
  rw [if_neg Bool.false_ne_true]
  split
  · next hnone =>
    rw [hnone]
    constructor
    · intro h
      exact .inr ⟨rfl, (Except.ok.inj h).symm⟩
    · rintro (h | ⟨-, rfl⟩)
      · cases h
      · rfl
  · next s hsome =>
    rw [hsome]
    constructor
    · intro h
      exact .inl (by rw [Except.ok.inj h])
    · rintro (h | ⟨h, -⟩)
      · rw [Value.string.inj (Option.some.inj h)]
      · cases h
  · next other hother hsome =>
    rw [hsome]
    constructor
    · intro h
      cases h
    · rintro (h | ⟨h, -⟩)
      · exact absurd (Option.some.inj h) (hother _)
      · cases h

theorem readMinSdk_ok_iff {j : Value} {value : Bytes} :
    readMinSdk j = .ok value ↔ OptionalText j "min_sdk_required" value ∧
      (value ≠ [] → ∃ version metadata, SemVer.Spells version metadata value) := by
  unfold readMinSdk
  rw [Scan.bind_eq_ok]
  constructor
  · rintro ⟨s, hs, h⟩
    split at h
    · next hnil =>
      obtain rfl := Except.ok.inj h
      exact ⟨readString_optional_iff.mp hs, fun hne => absurd hnil hne⟩
    · split at h
      · next version hversion =>
        obtain rfl := Except.ok.inj h
        exact ⟨readString_optional_iff.mp hs, fun _ => ⟨version, SemVer.ofText_ok_iff.mp hversion⟩⟩
      · cases h
  · rintro ⟨hs, hversion⟩
    refine ⟨value, readString_optional_iff.mpr hs, ?_⟩
    split
    · rfl
    · next hne =>
      obtain ⟨version, hspells⟩ := hversion hne
      rw [SemVer.ofText_ok_iff.mpr hspells]

theorem readEncoding_ok_iff {family : PluginFamily} {j : Value} {encoding : List Bytes} :
    readEncoding family j = .ok encoding ↔
      TextArray j "encoding" encoding ∧ (family = .messageParser → encoding ≠ []) := by
  unfold readEncoding
  rw [Scan.bind_eq_ok]
  constructor
  · rintro ⟨values, hvalues, h⟩
    split at h
    · cases h
    · next hneeded =>
      obtain rfl := Except.ok.inj h
      exact ⟨readStringArray_ok_iff.mp hvalues, fun hfamily hnil => hneeded ⟨hfamily, hnil⟩⟩
  · rintro ⟨hvalues, hneeded⟩
    refine ⟨encoding, readStringArray_ok_iff.mpr hvalues, ?_⟩
    rw [if_neg]
    rintro ⟨hfamily, hnil⟩
    exact hneeded hfamily hnil

section Widgets

variable {dumpJson : Value → Bytes}

theorem readWidgetType_ok_iff {seenTypes : List Bytes} {entry : Value}
    {widget : WidgetTypeDescriptor} :
    readWidgetType dumpJson seenTypes entry = .ok widget ↔
      DeclaresWidget dumpJson entry widget ∧ widget.type ∉ seenTypes := by
  unfold readWidgetType
  constructor
  · intro h
    split at h
    · cases h
    · obtain ⟨type, htype, h⟩ := Scan.bind_eq_ok.mp h
      obtain ⟨name, hname, h⟩ := Scan.bind_eq_ok.mp h
      obtain ⟨icon, hicon, h⟩ := Scan.bind_eq_ok.mp h
      rw [readString_required_iff] at htype hname
      rw [readString_optional_iff] at hicon
      split at h
      · cases h
      · next hslash =>
        rw [List.contains_iff_mem] at hslash
        split at h
        · cases h
        · next hseen =>
          rw [List.contains_iff_mem] at hseen
          split at h
          · next hnone =>
            obtain rfl := Except.ok.inj h
            exact ⟨⟨htype, hslash, hname, hicon, .inl ⟨hnone, rfl⟩⟩, hseen⟩
          · next settings hsome =>
            obtain rfl := Except.ok.inj h
            exact ⟨⟨htype, hslash, hname, hicon, .inr ⟨settings, hsome, rfl⟩⟩, hseen⟩
          · cases h
  · rintro ⟨hdeclares, hseen⟩
    obtain ⟨type, name, icon, settingsJson⟩ := widget
    rw [isObject_of_find hdeclares.type.1]
    refine Scan.bind_eq_ok.mpr ⟨type, readString_required_iff.mpr hdeclares.type, ?_⟩
    refine Scan.bind_eq_ok.mpr ⟨name, readString_required_iff.mpr hdeclares.name, ?_⟩
    refine Scan.bind_eq_ok.mpr ⟨icon, readString_optional_iff.mpr hdeclares.icon, ?_⟩
    rw [if_neg (List.contains_iff_mem.not.mpr hdeclares.noSlash),
      if_neg (List.contains_iff_mem.not.mpr hseen)]
    rcases hdeclares.settings with ⟨hnone, hsettings⟩ | ⟨settings, hsome, hsettings⟩
    · rw [hnone, ← hsettings]
    · obtain rfl : settingsJson = dumpJson (.array settings) := hsettings
      rw [hsome]

/-- The loop keeps the types of the widgets it has read apart. -/
theorem readWidgets_ok_iff {entries : List Value} {widgets : List WidgetTypeDescriptor} :
    (entries.foldlM (fun widgets entry => do
      let widget ← readWidgetType dumpJson (widgets.map WidgetTypeDescriptor.type) entry
      .ok (widgets ++ [widget])) [] : Except Bytes (List WidgetTypeDescriptor)) = .ok widgets ↔
      List.Forall₂ (DeclaresWidget dumpJson) entries widgets ∧
        (widgets.map WidgetTypeDescriptor.type).Nodup := by
  have hstep (entry : Value) (_ : entry ∈ entries) (read read' : List WidgetTypeDescriptor) :
      (do
        let widget ← readWidgetType dumpJson (read.map WidgetTypeDescriptor.type) entry
        .ok (read ++ [widget]) : Except Bytes (List WidgetTypeDescriptor)) = .ok read' ↔
        ∃ widget, DeclaresWidget dumpJson entry widget ∧
          WidgetTypeDescriptor.type widget ∉ read.map WidgetTypeDescriptor.type ∧
          read' = read ++ [widget] := by
    rw [Scan.bind_eq_ok]
    constructor
    · rintro ⟨widget, hwidget, h⟩
      obtain ⟨hdeclares, hnew⟩ := readWidgetType_ok_iff.mp hwidget
      exact ⟨widget, hdeclares, hnew, (Except.ok.inj h).symm⟩
    · rintro ⟨widget, hdeclares, hnew, rfl⟩
      exact ⟨widget, readWidgetType_ok_iff.mpr ⟨hdeclares, hnew⟩, rfl⟩
  have hnone : (([] : List WidgetTypeDescriptor).map WidgetTypeDescriptor.type).Nodup :=
    List.nodup_nil
  refine (Scan.foldlM_distinct_iff hstep hnone).trans ?_
  constructor
  · rintro ⟨more, hmore, hnodup, rfl⟩
    exact ⟨hmore, hnodup⟩
  · rintro ⟨hmore, hnodup⟩
    exact ⟨widgets, hmore, hnodup, rfl⟩

theorem readWidgetTypes_ok_iff {j : Value} {widgets : List WidgetTypeDescriptor} :
    readWidgetTypes dumpJson j = .ok widgets ↔ DeclaresWidgets dumpJson j widgets := by
  unfold readWidgetTypes DeclaresWidgets
  split
  · next entry entries hsome =>
    rw [readWidgets_ok_iff, hsome]
    constructor
    · rintro ⟨hwidgets, hnodup⟩
      exact ⟨_, rfl, List.cons_ne_nil entry entries, hwidgets, hnodup⟩
    · rintro ⟨_, h, -, hwidgets, hnodup⟩
      rw [← Value.array.inj (Option.some.inj h)] at hwidgets
      exact ⟨hwidgets, hnodup⟩
  · next hother =>
    constructor
    · intro h
      cases h
    · rintro ⟨entries, h, hne, -⟩
      obtain ⟨entry, entries, rfl⟩ := List.exists_cons_of_ne_nil hne
      exact absurd h (hother entry entries)

theorem readWidgetParts_ok_iff {family : PluginFamily} {j : Value}
    {parts : List Bytes × List WidgetTypeDescriptor} :
    readWidgetParts dumpJson family j = .ok parts ↔
      (family = .widget →
        TextArray j "qt_modules" parts.1 ∧ DeclaresWidgets dumpJson j parts.2) ∧
      (family ≠ .widget → parts.1 = [] ∧ parts.2 = []) := by
  obtain ⟨qtModules, widgets⟩ := parts
  unfold readWidgetParts
  split
  · next hfamily =>
    rw [Scan.bind_eq_ok]
    constructor
    · rintro ⟨modules, hmodules, h⟩
      obtain ⟨types, htypes, h⟩ := Scan.bind_eq_ok.mp h
      obtain ⟨rfl, rfl⟩ := Prod.mk.inj (Except.ok.inj h)
      exact ⟨fun _ => ⟨readStringArray_ok_iff.mp hmodules, readWidgetTypes_ok_iff.mp htypes⟩,
        fun hother => absurd hfamily hother⟩
    · rintro ⟨h, -⟩
      obtain ⟨hmodules, htypes⟩ := h hfamily
      exact ⟨qtModules, readStringArray_ok_iff.mpr hmodules,
        Scan.bind_eq_ok.mpr ⟨widgets, readWidgetTypes_ok_iff.mpr htypes, rfl⟩⟩
  · next hfamily =>
    constructor
    · intro h
      obtain ⟨rfl, rfl⟩ := Prod.mk.inj (Except.ok.inj h)
      exact ⟨fun heq => absurd heq hfamily, fun _ => ⟨rfl, rfl⟩⟩
    · rintro ⟨-, h⟩
      obtain ⟨rfl, rfl⟩ := h hfamily
      rfl

end Widgets

section Decoded

variable {parseJson : Bytes → Except Bytes Value} {dumpJson : Value → Bytes}

theorem decodeManifest_ok_iff {sourcePath manifestJson : Bytes} {family : PluginFamily}
    {d : PluginDescriptor} :
    decodeManifest parseJson dumpJson sourcePath family manifestJson = .ok d ↔
      manifestJson ≠ [] ∧ d.dsoPath = sourcePath ∧ d.abiMajor = PJ_ABI_VERSION ∧
        d.family = family ∧ ∃ j, parseJson manifestJson = .ok j ∧ Declares dumpJson j d := by
  unfold decodeManifest
  constructor
  · intro h
    split at h
    · cases h
    · next hne =>
      refine ⟨hne, ?_⟩
      split at h
      · cases h
      · next j hj =>
        split at h
        · cases h
        · simp only [Scan.bind_eq_ok, readString_required_iff, readString_optional_iff,
            readStringArray_ok_iff, readMinSdk_ok_iff, readEncoding_ok_iff,
            readWidgetParts_ok_iff] at h
          obtain ⟨id, hid, name, hname, version, hversion, description, hdescription, category,
            hcategory, minVersion, hminVersion, suggested, hsuggested, badge, hbadge, minSdk,
            ⟨hminSdk, hminSdkVersion⟩, extensions, hextensions, capabilities, hcapabilities,
            encoding, ⟨hencoding, hneeded⟩, ⟨qtModules, widgets⟩, ⟨hwidget, hother⟩, h⟩ := h
          obtain rfl := Except.ok.inj h
          exact ⟨rfl, rfl, rfl, j, hj, hid, hname, hversion, hdescription, hcategory, hminVersion,
            hsuggested, hbadge, hminSdk, hminSdkVersion, hextensions, hcapabilities, hencoding,
            hneeded, hwidget, hother⟩
  · rintro ⟨hne, hpath, habi, hfamily, j, hj, hd⟩
    rw [if_neg hne, hj]
    dsimp only
    rw [isObject_of_find hd.id.1]
    simp only [Bool.not_true, Bool.false_eq_true, if_false, Scan.bind_eq_ok,
      readString_required_iff, readString_optional_iff, readStringArray_ok_iff,
      readMinSdk_ok_iff, readEncoding_ok_iff, readWidgetParts_ok_iff]
    obtain rfl := hfamily
    refine ⟨_, hd.id, _, hd.name, _, hd.version, _, hd.description, _, hd.category, _,
      hd.minPlotjugglerVersion, _, hd.suggestedSdkVersion, _, hd.badge, _,
      ⟨hd.minSdkRequired, hd.minSdkVersion⟩, _, hd.fileExtensions, _, hd.capabilities, _,
      ⟨hd.encoding, hd.parserEncoding⟩, (d.qtModules, d.widgets), ⟨hd.widgetParts, hd.otherParts⟩,
      ?_⟩
    rw [← hpath, ← habi]

end Decoded

/-! ## The table that counts -/

/-- The library exports a complete table of the family. -/
structure HasVtable (shape : FamilyShape) (handle : LoadedLibrary) (origin : LibraryPathIdentity)
    (vt : FamilyVtable) : Prop where
  exported : handle.vtable origin shape.symbol = .ok (some vt)
  version : vt.protocolVersion = shape.expectedProtocol
  size : shape.minVtableSize ≤ vt.structSize
  slots : ∀ slot ∈ shape.requiredSlots, vt.present slot = true

/-- A dialog's manifest is in its table where the table reaches that far, and otherwise what an
instance says. -/
def DialogManifest (vt : FamilyVtable) (manifest : Bytes) : Prop :=
  if dialogManifestSlotEnd ≤ vt.structSize ∧ vt.manifestJson.isSome then
    vt.manifestJson = some manifest
  else ∃ said, vt.created = some said ∧ manifest = said.getD []

/-- Where a table of a family has its manifest. -/
def ManifestIn (vt : FamilyVtable) (manifest : Bytes) : PluginFamily → Prop
  | .dialog => DialogManifest vt manifest
  | _ => vt.manifestJson = some manifest

theorem manifestIn_of_ne {vt : FamilyVtable} {manifest : Bytes} {family : PluginFamily}
    (h : family ≠ .dialog) : ManifestIn vt manifest family ↔ vt.manifestJson = some manifest := by
  cases family with
  | dialog => exact absurd rfl h
  | _ => exact Iff.rfl

/-- The library has a complete table of the family, with this manifest. -/
def Gives (shape : FamilyShape) (handle : LoadedLibrary) (origin : LibraryPathIdentity)
    (manifest : Bytes) : Prop :=
  ∃ vt, HasVtable shape handle origin vt ∧ ManifestIn vt manifest shape.family

/-- The families in the order in which a library is asked for them. -/
def families : List (String × FamilyShape) :=
  [("data_source", dataSourceShape), ("message_parser", messageParserShape),
   ("toolbox", toolboxShape), ("dialog", dialogShape), ("widget", widgetShape)]

-- a table that is long enough has room for its header and for every slot it must fill
example : ∀ family ∈ families,
    family.2.minVtableSize.toNat = 8 + 8 * family.2.requiredSlots.length := by decide

/-- The library's first complete table is one of this family. -/
def Offers (handle : LoadedLibrary) (origin : LibraryPathIdentity) (family : PluginFamily)
    (manifest : Bytes) : Prop :=
  ∃ before label shape after, families = before ++ (label, shape) :: after ∧
    shape.family = family ∧ Gives shape handle origin manifest ∧
    ∀ earlier ∈ before, ∀ other, ¬ Gives earlier.2 handle origin other

theorem validateRequiredSlots_ok_iff {familyName : String} {vt : FamilyVtable}
    {slots : List String} :
    validateRequiredSlots familyName vt slots = .ok () ↔
      ∀ slot ∈ slots, vt.present slot = true := by
  induction slots with
  | nil => exact ⟨fun _ _ h => (nomatch h), fun _ => rfl⟩
  | cons slot slots ih =>
    rw [validateRequiredSlots, List.forall_mem_cons, ← ih]
    split
    · next hpresent => exact ⟨fun h => ⟨hpresent, h⟩, And.right⟩
    · next hmissing =>
      constructor
      · intro h
        cases h
      · exact fun h => absurd h.1 hmissing

section Probed

variable {handle : LoadedLibrary} {origin : LibraryPathIdentity}

theorem completeVtable_ok_iff {shape : FamilyShape} {vt : FamilyVtable} :
    completeVtable shape handle origin = .ok vt ↔ HasVtable shape handle origin vt := by
  unfold completeVtable
  rw [Scan.bind_eq_ok]
  constructor
  · rintro ⟨entry, hentry, h⟩
    split at h
    · cases h
    · next found =>
      split at h
      · cases h
      · next hversion =>
        split at h
        · cases h
        · next hsize =>
          obtain ⟨_, hslots, h⟩ := Scan.bind_eq_ok.mp h
          obtain rfl := Except.ok.inj h
          exact ⟨hentry, not_not.mp hversion, UInt32.not_lt.mp hsize,
            validateRequiredSlots_ok_iff.mp hslots⟩
  · intro h
    refine ⟨some vt, h.exported, ?_⟩
    dsimp only
    rw [if_neg (not_not.mpr h.version), if_neg (UInt32.not_lt.mpr h.size),
      validateRequiredSlots_ok_iff.mpr h.slots]
    rfl

/-- A table with a manifest slot that must be filled has a manifest: the probe never stands one
in for it. -/
theorem probeDirectVtable_ok_iff {shape : FamilyShape} {candidate : ManifestCandidate}
    (hslot : "manifest_json" ∈ shape.requiredSlots) (hfamily : shape.family ≠ .dialog) :
    probeDirectVtable shape handle origin = .ok candidate ↔
      shape.family = candidate.family ∧ Gives shape handle origin candidate.manifestJson := by
  unfold probeDirectVtable Gives
  simp only [Scan.bind_eq_ok, manifestIn_of_ne hfamily]
  constructor
  · rintro ⟨vt, hvt, h⟩
    have hvt := completeVtable_ok_iff.mp hvt
    obtain rfl := Except.ok.inj h
    obtain ⟨manifest, hmanifest⟩ := Option.isSome_iff_exists.mp (hvt.slots _ hslot)
    exact ⟨rfl, vt, hvt, by rw [hmanifest]; rfl⟩
  · rintro ⟨hsame, vt, hvt, hmanifest⟩
    refine ⟨vt, completeVtable_ok_iff.mpr hvt, ?_⟩
    rw [hmanifest, hsame]
    rfl

theorem tryDialog_ok_iff {candidate : ManifestCandidate} :
    tryDialog handle origin = .ok candidate ↔
      dialogShape.family = candidate.family ∧
        Gives dialogShape handle origin candidate.manifestJson := by
  unfold tryDialog Gives
  rw [Scan.bind_eq_ok]
  constructor
  · rintro ⟨vt, hvt, h⟩
    suffices PluginFamily.dialog = candidate.family ∧ DialogManifest vt candidate.manifestJson from
      ⟨this.1, vt, completeVtable_ok_iff.mp hvt, this.2⟩
    unfold DialogManifest
    split at h
    · next manifest hmanifest hsize =>
      obtain rfl := Except.ok.inj h
      rw [hmanifest, if_pos ⟨of_decide_eq_true hsize, rfl⟩]
      exact ⟨rfl, rfl⟩
    · next hneither =>
      rw [if_neg]
      · split at h
        · cases h
        · next said hsaid =>
          obtain rfl := Except.ok.inj h
          exact ⟨rfl, said, hsaid, rfl⟩
      · rintro ⟨hsize, hsome⟩
        obtain ⟨manifest, hmanifest⟩ := Option.isSome_iff_exists.mp hsome
        exact hneither manifest hmanifest (decide_eq_true hsize)
  · rintro ⟨hsame, vt, hvt, hmanifest⟩
    refine ⟨vt, completeVtable_ok_iff.mpr hvt, ?_⟩
    obtain ⟨family, manifestJson⟩ := candidate
    obtain rfl : PluginFamily.dialog = family := hsame
    change DialogManifest vt manifestJson at hmanifest
    unfold DialogManifest at hmanifest
    split at hmanifest
    · next hthere =>
      rw [hmanifest, decide_eq_true hthere.1]
    · next hmissing =>
      obtain ⟨said, hsaid, rfl⟩ := hmanifest
      split
      · next manifest hsome hsize =>
        exact absurd ⟨of_decide_eq_true hsize, by rw [hsome]; rfl⟩ hmissing
      · rw [hsaid]

/-- One of the five probes. -/
def probe (shape : FamilyShape) (handle : LoadedLibrary) (origin : LibraryPathIdentity) :
    Except Bytes ManifestCandidate :=
  if shape.family = .dialog then tryDialog handle origin else probeDirectVtable shape handle origin

theorem probe_ok_iff {label : String} {shape : FamilyShape} (h : (label, shape) ∈ families)
    {candidate : ManifestCandidate} :
    probe shape handle origin = .ok candidate ↔
      shape.family = candidate.family ∧ Gives shape handle origin candidate.manifestJson := by
  simp only [families, List.mem_cons, Prod.mk.injEq, List.not_mem_nil, or_false] at h
  rcases h with ⟨-, rfl⟩ | ⟨-, rfl⟩ | ⟨-, rfl⟩ | ⟨-, rfl⟩ | ⟨-, rfl⟩
  · exact probeDirectVtable_ok_iff (by decide) (by decide)
  · exact probeDirectVtable_ok_iff (by decide) (by decide)
  · exact probeDirectVtable_ok_iff (by decide) (by decide)
  · exact tryDialog_ok_iff
  · exact probeDirectVtable_ok_iff (by decide) (by decide)

theorem firstCandidate_ok_iff {errors : List Bytes}
    {probes : List (String × Except Bytes ManifestCandidate)} {candidate : ManifestCandidate} :
    firstCandidate errors probes = .ok candidate ↔
      ∃ before label after, probes = before ++ (label, .ok candidate) :: after ∧
        ∀ earlier ∈ before, ∀ other, earlier.2 ≠ .ok other := by
  induction probes generalizing errors with
  | nil =>
    rw [firstCandidate]
    constructor
    · intro h
      cases h
    · rintro ⟨before, label, after, h, -⟩
      cases before <;> cases h
  | cons first probes ih =>
    obtain ⟨name, result⟩ := first
    cases result with
    | ok found =>
      rw [firstCandidate]
      constructor
      · intro h
        obtain rfl := Except.ok.inj h
        exact ⟨[], name, probes, rfl, fun _ h => nomatch h⟩
      · rintro ⟨before, label, after, h, hnone⟩
        cases before with
        | nil => rw [(Prod.mk.inj (List.cons.inj h).1).2]
        | cons earlier before =>
          rw [List.cons_append, List.cons.injEq] at h
          exact absurd (congrArg Prod.snd h.1).symm (hnone earlier List.mem_cons_self found)
    | error e =>
      rw [firstCandidate, ih]
      constructor
      · rintro ⟨before, label, after, rfl, hnone⟩
        refine ⟨(name, .error e) :: before, label, after, rfl, ?_⟩
        rw [List.forall_mem_cons]
        exact ⟨fun _ => nofun, hnone⟩
      · rintro ⟨before, label, after, h, hnone⟩
        cases before with
        | nil => cases (Prod.mk.inj (List.cons.inj h).1).2
        | cons earlier before =>
          rw [List.cons_append, List.cons.injEq] at h
          exact ⟨before, label, after, h.2, fun p hp => hnone p (List.mem_cons_of_mem earlier hp)⟩

theorem findEmbeddedManifest_ok_iff {candidate : ManifestCandidate} :
    findEmbeddedManifest handle origin = .ok candidate ↔
      Offers handle origin candidate.family candidate.manifestJson := by
  have hprobes : findEmbeddedManifest handle origin =
      firstCandidate [] (families.map fun family => (family.1, probe family.2 handle origin)) := rfl
  rw [hprobes, firstCandidate_ok_iff]
  constructor
  · rintro ⟨before, label, after, h, hnone⟩
    obtain ⟨front, rest, hfamilies, rfl, hrest⟩ := List.map_eq_append_iff.mp h
    obtain ⟨⟨name, shape⟩, back, rfl, hhit, -⟩ := List.map_eq_cons_iff.mp hrest
    have hmem : ∀ family ∈ front ++ (name, shape) :: back, family ∈ families :=
      fun family hfamily => hfamilies ▸ hfamily
    have hhere := hmem (name, shape) (List.mem_append_right front List.mem_cons_self)
    obtain ⟨hfamily, hgives⟩ :=
      (probe_ok_iff hhere).mp (Prod.mk.inj hhit).2
    refine ⟨front, name, shape, back, hfamilies, hfamily, hgives, ?_⟩
    intro earlier hearlier other hother
    refine hnone _ (List.mem_map_of_mem hearlier) ⟨earlier.2.family, other⟩ ?_
    exact (probe_ok_iff (hmem earlier (List.mem_append_left _ hearlier))).mpr ⟨rfl, hother⟩
  · rintro ⟨front, name, shape, back, hfamilies, hfamily, hgives, hnone⟩
    have hmem : ∀ family ∈ front ++ (name, shape) :: back, family ∈ families :=
      fun family hfamily => hfamilies ▸ hfamily
    have hhere := hmem (name, shape) (List.mem_append_right front List.mem_cons_self)
    refine ⟨front.map fun family => (family.1, probe family.2 handle origin), name,
      back.map fun family => (family.1, probe family.2 handle origin), ?_, ?_⟩
    · rw [hfamilies, List.map_append, List.map_cons,
        (probe_ok_iff hhere).mpr ⟨hfamily, hgives⟩]
    · intro earlier hearlier other hother
      obtain ⟨family, hmemFront, rfl⟩ := List.mem_map.mp hearlier
      exact hnone family hmemFront _
        ((probe_ok_iff (hmem family (List.mem_append_left _ hmemFront))).mp hother).2

theorem checkPluginAbiVersion_ok_iff {u : Unit} :
    checkPluginAbiVersion handle origin = .ok u ↔
      handle.abiVersion origin = .ok (some PJ_ABI_VERSION) := by
  unfold checkPluginAbiVersion
  split
  · next e herror =>
    rw [herror]
    exact ⟨nofun, nofun⟩
  · next hnull =>
    rw [hnull]
    exact ⟨nofun, nofun⟩
  · next actual hactual =>
    rw [hactual, ite_not]
    constructor
    · intro h
      split at h
      · next hsame => rw [hsame]
      · cases h
    · intro h
      rw [if_pos (Option.some.inj (Except.ok.inj h))]

end Probed

/-! ## Libraries -/

/-- The file name of a shared library: a name, and `.so` behind it. -/
theorem hasDsoSuffix_iff (path : Bytes) :
    hasDsoSuffix path = true ↔ ∃ stem, stem ≠ [] ∧ Paths.filename path = stem ++ text ".so" := by
  unfold hasDsoSuffix
  rw [decide_eq_true_iff]
  exact @Paths.extension_eq_iff path [0x73, 0x6F] (by decide) (by decide)

section Inspected

variable {recordPath : Bytes → Except Bytes LibraryPathIdentity}
  {parseJson : Bytes → Except Bytes Value} {dumpJson : Value → Bytes}

/-- Which open libraries are plugins, and what the catalog says of each: the file name and the
version of the interface are right, and the manifest of the first complete table is accepted, as
one of that family. Every refusal names the file. -/
theorem inspectPluginDso_ok_iff (handle : Option LoadedLibrary) (dsoPath : Bytes) :
    (∀ d, inspectPluginDso recordPath parseJson dumpJson handle dsoPath = .ok d ↔
      (∃ stem, stem ≠ [] ∧ Paths.filename dsoPath = stem ++ text ".so") ∧
      d.dsoPath = dsoPath ∧ d.abiMajor = PJ_ABI_VERSION ∧
      ∃ library origin manifest j,
        handle = some library ∧ recordPath dsoPath = .ok origin ∧
        library.abiVersion origin = .ok (some PJ_ABI_VERSION) ∧
        Offers library origin d.family manifest ∧ manifest ≠ [] ∧
        parseJson manifest = .ok j ∧ Declares dumpJson j d) ∧
    ∀ e, inspectPluginDso recordPath parseJson dumpJson handle dsoPath = .error e →
      e = text "not a platform plugin DSO: " ++ dsoPath ∨
        ∃ cause, e = dsoPath ++ text ": " ++ cause := by
  unfold inspectPluginDso
  rw [← hasDsoSuffix_iff]
  cases hasDsoSuffix dsoPath with
  | false =>
    refine ⟨fun d => ⟨nofun, fun h => nomatch h.1⟩, fun e h => ?_⟩
    exact .inl (Except.error.inj h).symm
  | true =>
    constructor
    · intro d
      rw [Bool.not_true, if_neg Bool.false_ne_true, Scan.mapError_ok_iff]
      cases handle with
      | none => exact ⟨nofun, fun ⟨_, _, _, _, _, _, _, h, _⟩ => nomatch h⟩
      | some library =>
        simp only [Scan.bind_eq_ok, checkPluginAbiVersion_ok_iff, findEmbeddedManifest_ok_iff,
          decodeManifest_ok_iff]
        constructor
        · rintro ⟨origin, horigin, _, habi, candidate, hoffers, hne, hpath, hmajor, hfamily, j, hj,
            hdeclares⟩
          rw [← hfamily] at hoffers
          exact ⟨trivial, hpath, hmajor, library, origin, _, j, rfl, horigin, habi, hoffers, hne,
            hj, hdeclares⟩
        · rintro ⟨-, hpath, hmajor, _, origin, manifest, j, ⟨⟩, horigin, habi, hoffers, hne, hj,
            hdeclares⟩
          exact ⟨origin, horigin, (), habi, ⟨d.family, manifest⟩, hoffers, hne, hpath, hmajor, rfl,
            j, hj, hdeclares⟩
    · intro e h
      rw [Bool.not_true, if_neg Bool.false_ne_true] at h
      obtain ⟨cause, -, rfl⟩ := Scan.mapError_error_iff.mp h
      exact .inr ⟨cause, rfl⟩

end Inspected

end PluginCatalog

end PlotJugglerSdk
