import Mathlib.Data.List.Induction
import PlotJugglerSdk.Host.ObjectOutput
import PlotJugglerSdk.Json.Reading
import PlotJugglerSdk.Plugin.ErrorBlock
import PlotJugglerSdk.Scan.Folds

/-!
# A panel of a widget

One instance of a widget plugin under its host: the author's class, what the SDK keeps around
it, and the host's handle, which believes nothing it is handed. The author's functions may throw
wherever they are called.

* `inputs_ok_iff`    — which arrays of inputs a host takes, and what it then has
* `panel_run`        — what the SDK keeps, after any run of calls
* `inputs_delivered` — a host has the inputs the class declares, if they are well formed
* `messages_run`     — one message for each run of failing updates
-/

namespace PlotJugglerSdk

open Wire Json

inductive WidgetInputKind where
  | kNumber
  | kText
  | kObject
  deriving DecidableEq

def PJ_WIDGET_INPUT_NUMBER : UInt32 := 0

def PJ_WIDGET_INPUT_TEXT : UInt32 := 1

def PJ_WIDGET_INPUT_OBJECT : UInt32 := 2

def PJ_WIDGET_INPUT_MULTIPLE : UInt32 := (1 : UInt32) <<< 0

def WidgetInputKind.code : WidgetInputKind → UInt32
  | .kNumber => PJ_WIDGET_INPUT_NUMBER
  | .kText => PJ_WIDGET_INPUT_TEXT
  | .kObject => PJ_WIDGET_INPUT_OBJECT

def WidgetInputKind.ofCode (code : UInt32) : Option WidgetInputKind :=
  if code = PJ_WIDGET_INPUT_NUMBER then some .kNumber
  else if code = PJ_WIDGET_INPUT_TEXT then some .kText
  else if code = PJ_WIDGET_INPUT_OBJECT then some .kObject
  else none

structure WidgetInput where
  name : Bytes
  label : Bytes := []
  unit : Bytes := []
  kind : WidgetInputKind := .kNumber
  multiple : Bool := false
  deriving DecidableEq

/-! ## What crosses -/

structure PJ_widget_input_t where
  name : BytesView
  label : BytesView
  unit : BytesView
  kind : UInt32
  flags : UInt32

/-- What `inputs` writes: at least as many entries as it counts, unless the pointer is null. -/
structure InputsArray where
  inputs : Option (List PJ_widget_input_t)
  count : UInt32
  borrowed : ∀ entries ∈ inputs, count.toNat ≤ entries.length

namespace WidgetHandle

def kMaxInputs : Nat := 4096

def kMaxInputTextBytes : Nat := 1 <<< 20

def checkedWidgetView (view : BytesView) (maxBytes : Nat) (what : String) : Except Bytes Bytes :=
  match view with
  | .null size =>
    if size = 0 then .ok []
    else .error (text ("widget plugin produced an invalid " ++ what ++ " string view"))
  | .bytes content =>
    if content.length > maxBytes then
      .error (text ("widget plugin produced an invalid " ++ what ++ " string view"))
    else .ok content

structure CopiedInputs where
  result : List WidgetInput := []
  names : List Bytes := []

/-- One round of the loop. The three views are checked before any of them is looked at, and the
first that fails is the one that is told. -/
def copyInput (copied : CopiedInputs) (input : PJ_widget_input_t) : Except Bytes CopiedInputs := do
  let name ← checkedWidgetView input.name kMaxInputTextBytes "input name"
  let label ← checkedWidgetView input.label kMaxInputTextBytes "input label"
  let unit ← checkedWidgetView input.unit kMaxInputTextBytes "input unit"
  if name = [] then .error (text "widget plugin returned an input with an empty name")
  else if copied.names.contains name then
    .error (text "widget plugin returned the input name '" ++ name ++ text "' twice")
  else
    match WidgetInputKind.ofCode input.kind with
    | none =>
      .error (text "widget plugin returned input '" ++ name ++ text "' with unknown kind " ++
        text (toString input.kind.toNat))
    | some kind =>
      .ok
        { result := copied.result ++
            [{ name, label, unit, kind, multiple := input.flags &&& PJ_WIDGET_INPUT_MULTIPLE ≠ 0 }]
          names := name :: copied.names }

/-- The handle's `inputs`, on what the plugin's function came to. -/
def inputs (answer : Except PJError InputsArray) : Except Bytes (List WidgetInput) :=
  match answer with
  | .error err =>
    .error (text (if err.message ≠ "" then errorToString err else "inputs failed"))
  | .ok array =>
    if array.count = 0 then .ok []
    else
      match array.inputs with
      | none => .error (text "widget plugin returned a null inputs array with a non-zero count")
      | some entries =>
        if array.count.toNat > kMaxInputs then
          .error (text "widget plugin returned an impossible number of inputs")
        else
          match (entries.take array.count.toNat).foldlM copyInput {} with
          | .error e => .error e
          | .ok copied => .ok copied.result

end WidgetHandle

/-! ## The instance -/

/-- The virtual functions of a widget. `Own` is what the author's class keeps for itself, and a
function that throws may have changed it. -/
structure WidgetClass (Own Values : Type) where
  inputs : Own → Except (Option String) (List WidgetInput)
  onUpdate : Own → Values → Except (Option String) Unit × Own
  saveConfig : Own → Except (Option String) Bytes
  loadConfig : Own → Bytes → Outcome Unit × Own

inductive WidgetMessageLevel where
  | kInfo
  | kWarning
  | kError
  deriving DecidableEq

/-- An instance of `WidgetPluginBase` and the messages its host has; a host view that is not bound
has no messages. -/
structure WidgetPanel (Own : Type) where
  own : Own
  configBuf : Bytes := []
  inputsSnapshot : List WidgetInput := []
  inputsAbi : List PJ_widget_input_t := []
  onUpdateFailureReported : Bool := false
  hostBound : Bool := true
  messages : List (WidgetMessageLevel × Bytes) := []

namespace WidgetPanel

variable {Own Values : Type} (cls : WidgetClass Own Values)

def abiInput (input : WidgetInput) : PJ_widget_input_t where
  name := .bytes input.name
  label := .bytes input.label
  unit := .bytes input.unit
  kind := input.kind.code
  flags := if input.multiple then PJ_WIDGET_INPUT_MULTIPLE else 0

def handedOut (entries : List PJ_widget_input_t) : InputsArray where
  inputs := some entries
  count := UInt32.ofNat entries.length
  borrowed handed hhanded := by
    obtain rfl := Option.some.inj hhanded
    rw [UInt32.toNat_ofNat']
    exact Nat.mod_le _ _

/-- A throw leaves the array of the call before as it was. -/
def trampolineInputs (self : WidgetPanel Own) : Except PJError InputsArray × WidgetPanel Own :=
  match cls.inputs self.own with
  | .error (some what) => (.error (fillError 1 "plugin" ("inputs threw: " ++ what)), self)
  | .error none => (.error (fillError 1 "plugin" "unknown exception in inputs"), self)
  | .ok snapshot =>
    let abi := snapshot.map abiInput
    (.ok (handedOut abi), { self with inputsSnapshot := snapshot, inputsAbi := abi })

/-- The bridge's end of a message; the views of an instance are never null. -/
def reportWidgetMessage (self : WidgetPanel Own) (level : WidgetMessageLevel) (message : Bytes) :
    WidgetPanel Own :=
  if !self.hostBound then self
  else
    match WidgetHandle.checkedWidgetView (.bytes message) WidgetHandle.kMaxInputTextBytes
        "message" with
    | .ok message => { self with messages := self.messages ++ [(level, message)] }
    | .error e => { self with messages := self.messages ++ [(.kWarning, e)] }

def updateFailureText (what : Option String) : String :=
  match what with
  | some what => "onUpdate threw: " ++ what
  | none => "unknown exception in onUpdate"

def reportOnUpdateFailure (self : WidgetPanel Own) (what : Option String) : WidgetPanel Own :=
  if self.onUpdateFailureReported then self
  else
    { self with onUpdateFailureReported := true }.reportWidgetMessage .kError
      (text (updateFailureText what))

def trampolineOnUpdate (self : WidgetPanel Own) (values : Values) : WidgetPanel Own :=
  match cls.onUpdate self.own values with
  | (.ok (), own) => { self with own, onUpdateFailureReported := false }
  | (.error what, own) => { self with own }.reportOnUpdateFailure what

def trampolineSaveConfig (self : WidgetPanel Own) : Except PJError Bytes × WidgetPanel Own :=
  match cls.saveConfig self.own with
  | .error (some what) => (.error (fillError 1 "plugin" ("save_config threw: " ++ what)), self)
  | .error none => (.error (fillError 1 "plugin" "unknown exception in save_config"), self)
  | .ok config => (.ok config, { self with configBuf := config })

def trampolineLoadConfig (self : WidgetPanel Own) (configJson : Bytes) :
    Except PJError Unit × WidgetPanel Own :=
  -- the array of the last `inputs` may describe settings that are about to change
  let self := { self with inputsAbi := [], inputsSnapshot := [] }
  match cls.loadConfig self.own configJson with
  | (.ok (), own) => (.ok (), { self with own })
  | (.error message, own) => (.error (fillError 1 "plugin" message), { self with own })
  | (.exception (some what), own) =>
    (.error (fillError 1 "plugin" ("load_config threw: " ++ what)), { self with own })
  | (.exception none, own) =>
    (.error (fillError 1 "plugin" "unknown exception in load_config"), { self with own })

/-! ## Runs -/

inductive Call (Values : Type) where
  | inputs
  | onUpdate (values : Values)
  | saveConfig
  | loadConfig (configJson : Bytes)

def step (self : WidgetPanel Own) : Call Values → WidgetPanel Own
  | .inputs => (self.trampolineInputs cls).2
  | .onUpdate values => self.trampolineOnUpdate cls values
  | .saveConfig => (self.trampolineSaveConfig cls).2
  | .loadConfig configJson => (self.trampolineLoadConfig cls configJson).2

end WidgetPanel

/-! ## Which inputs a host takes -/

namespace WidgetHandle

theorem checkedWidgetView_ok_iff {view : BytesView} {maxBytes : Nat} {what : String}
    {content : Bytes} :
    checkedWidgetView view maxBytes what = .ok content ↔
      view.read = some content ∧ content.length ≤ maxBytes := by
  cases view with
  | null size =>
    by_cases hsize : size = 0
    · simp [checkedWidgetView, BytesView.read, hsize]
      rintro rfl
      exact Nat.zero_le _
    · simp [checkedWidgetView, BytesView.read, hsize]
  | bytes content' =>
    by_cases hlength : content'.length > maxBytes
    · simp only [checkedWidgetView, BytesView.read, hlength, if_true, reduceCtorEq,
        Option.some.injEq, false_iff]
      rintro ⟨rfl, hfits⟩
      omega
    · simp only [checkedWidgetView, BytesView.read, hlength, if_false, Except.ok.injEq,
        Option.some.injEq]
      exact ⟨fun h => ⟨h, h ▸ Nat.not_lt.mp hlength⟩, And.left⟩

/-- An entry says what an input is. -/
structure Describes (entry : PJ_widget_input_t) (input : WidgetInput) : Prop where
  name : entry.name.read = some input.name
  label : entry.label.read = some input.label
  unit : entry.unit.read = some input.unit
  kind : entry.kind = input.kind.code
  multiple : input.multiple = decide (entry.flags &&& PJ_WIDGET_INPUT_MULTIPLE ≠ 0)

/-- An input of a name, whose texts fit. -/
structure Bounded (input : WidgetInput) : Prop where
  named : input.name ≠ []
  name : input.name.length ≤ kMaxInputTextBytes
  label : input.label.length ≤ kMaxInputTextBytes
  unit : input.unit.length ≤ kMaxInputTextBytes

structure WellFormedInputs (inputs : List WidgetInput) : Prop where
  count : inputs.length ≤ kMaxInputs
  bounded : ∀ input ∈ inputs, Bounded input
  distinct : (inputs.map WidgetInput.name).Nodup

def copiedInputs (inputs : List WidgetInput) : CopiedInputs where
  result := inputs
  names := (inputs.map WidgetInput.name).reverse

theorem kindOfCode_eq_some_iff {code : UInt32} {kind : WidgetInputKind} :
    WidgetInputKind.ofCode code = some kind ↔ code = kind.code := by
  unfold WidgetInputKind.ofCode
  constructor
  · intro h
    split_ifs at h with hnumber htext hobject
    all_goals
      obtain rfl := Option.some.inj h
      assumption
  · rintro rfl
    cases kind <;> decide

theorem copyInput_ok_iff {before : List WidgetInput} {entry : PJ_widget_input_t}
    {copied : CopiedInputs} :
    copyInput (copiedInputs before) entry = .ok copied ↔
      ∃ input, Describes entry input ∧ Bounded input ∧
        input.name ∉ before.map WidgetInput.name ∧ copied = copiedInputs (before ++ [input]) := by
  unfold copyInput
  simp only [Scan.bind_eq_ok, checkedWidgetView_ok_iff]
  constructor
  · rintro ⟨name, ⟨hname, hnameFits⟩, label, ⟨hlabel, hlabelFits⟩, unit, ⟨hunit, hunitFits⟩, h⟩
    split at h
    · cases h
    rename_i hnamed
    split at h
    · cases h
    rename_i hnew
    cases hkind : WidgetInputKind.ofCode entry.kind with
    | none => simp [hkind] at h
    | some kind =>
      rw [hkind] at h
      obtain rfl := Except.ok.inj h
      refine ⟨{ name, label, unit, kind
                multiple := entry.flags &&& PJ_WIDGET_INPUT_MULTIPLE ≠ 0 },
        ⟨hname, hlabel, hunit, kindOfCode_eq_some_iff.mp hkind, rfl⟩,
        ⟨hnamed, hnameFits, hlabelFits, hunitFits⟩, ?_, ?_⟩
      · simpa [copiedInputs] using hnew
      · simp [copiedInputs]
  · rintro ⟨input, htold, hbounded, hnew, rfl⟩
    refine ⟨_, ⟨htold.name, hbounded.name⟩, _, ⟨htold.label, hbounded.label⟩, _,
      ⟨htold.unit, hbounded.unit⟩, ?_⟩
    rw [if_neg hbounded.named, if_neg (by simpa [copiedInputs] using hnew),
      kindOfCode_eq_some_iff.mpr htold.kind]
    simp [copiedInputs, ← htold.multiple]

theorem copyInputs_ok_iff {before : List WidgetInput} {entries : List PJ_widget_input_t}
    {copied : CopiedInputs} (hdistinct : (before.map WidgetInput.name).Nodup) :
    entries.foldlM copyInput (copiedInputs before) = .ok copied ↔
      ∃ inputs, List.Forall₂ Describes entries inputs ∧ (∀ input ∈ inputs, Bounded input) ∧
        ((before ++ inputs).map WidgetInput.name).Nodup ∧
        copied = copiedInputs (before ++ inputs) := by
  induction entries generalizing before with
  | nil =>
    rw [List.foldlM_nil]
    constructor
    · intro h
      obtain rfl := Except.ok.inj h
      exact ⟨[], .nil, nofun, by simpa using hdistinct, by simp⟩
    · rintro ⟨inputs, hsay, -, -, rfl⟩
      obtain rfl := List.forall₂_nil_left_iff.mp hsay
      rw [List.append_nil]
      rfl
  | cons entry entries ih =>
    rw [List.foldlM_cons, Scan.bind_eq_ok]
    constructor
    · rintro ⟨next, hnext, hrest⟩
      obtain ⟨input, htold, hbounded, hnew, rfl⟩ := copyInput_ok_iff.mp hnext
      have hfresh : ((before ++ [input]).map WidgetInput.name).Nodup := by
        rw [List.map_append, List.map_singleton]
        exact List.nodup_append.mpr
          ⟨hdistinct, List.nodup_singleton _, fun a ha b hb heq => hnew
            (List.mem_singleton.mp hb ▸ heq ▸ ha)⟩
      obtain ⟨inputs, hsay, hbound, hnodup, rfl⟩ := (ih hfresh).mp hrest
      rw [← List.append_cons] at hnodup
      exact ⟨input :: inputs, .cons htold hsay, List.forall_mem_cons.mpr ⟨hbounded, hbound⟩,
        hnodup, by simp⟩
    · rintro ⟨inputs, hall, hbound, hnodup, rfl⟩
      obtain ⟨input, inputs, htold, hsay, rfl⟩ := List.forall₂_cons_left_iff.mp hall
      obtain ⟨hbounded, hbound⟩ := List.forall_mem_cons.mp hbound
      rw [List.append_cons] at hnodup
      have hfresh := hnodup
      rw [List.map_append] at hfresh
      have hfresh := hfresh.of_append_left
      refine ⟨_, copyInput_ok_iff.mpr ⟨input, htold, hbounded, ?_, rfl⟩,
        (ih hfresh).mpr ⟨inputs, hsay, hbound, hnodup, by simp⟩⟩
      rw [List.map_append] at hfresh
      exact fun hmem => (List.nodup_append.mp hfresh).2.2 _ hmem _ (by simp) rfl

/-- A host takes an array whose entries all describe inputs, if these are well formed, and then
has these. -/
theorem inputs_ok_iff (array : InputsArray) (inputs : List WidgetInput) :
    WidgetHandle.inputs (.ok array) = .ok inputs ↔
      List.Forall₂ Describes ((array.inputs.getD []).take array.count.toNat) inputs ∧
        inputs.length = array.count.toNat ∧ WellFormedInputs inputs := by
  have hloop (entries : List PJ_widget_input_t) (copied : CopiedInputs) :
      entries.foldlM copyInput {} = .ok copied ↔ _ := @copyInputs_ok_iff [] entries copied
        List.nodup_nil
  unfold WidgetHandle.inputs
  by_cases hzero : array.count = 0
  · simp only [hzero, if_true, Except.ok.injEq, UInt32.toNat_zero, List.take_zero,
      List.forall₂_nil_left_iff, List.length_eq_zero_iff]
    constructor
    · rintro rfl
      exact ⟨rfl, rfl, ⟨Nat.zero_le _, nofun, List.nodup_nil⟩⟩
    · exact fun h => h.1.symm
  · have hpos : array.count.toNat ≠ 0 := fun h => hzero (UInt32.toNat_inj.mp h)
    simp only [hzero, if_false]
    cases hinputs : array.inputs with
    | none =>
      simp only [reduceCtorEq, Option.getD_none, List.take_nil, List.forall₂_nil_left_iff,
        false_iff]
      rintro ⟨rfl, hlength, -⟩
      exact hpos hlength.symm
    | some entries =>
      have htaken : (entries.take array.count.toNat).length = array.count.toNat :=
        List.length_take_of_le (array.borrowed entries hinputs)
      simp only [Option.getD_some]
      by_cases hcount : array.count.toNat > kMaxInputs
      · simp only [hcount, if_true, reduceCtorEq, false_iff]
        rintro ⟨-, hlength, hformed⟩
        have hle := hformed.count
        omega
      · simp only [hcount, if_false]
        constructor
        · intro h
          cases hcopied : (entries.take array.count.toNat).foldlM copyInput {} with
          | error e => simp [hcopied] at h
          | ok copied =>
            rw [hcopied] at h
            obtain rfl := Except.ok.inj h
            obtain ⟨inputs, hsay, hbounded, hnodup, rfl⟩ := (hloop _ _).mp hcopied
            have hlength := hsay.length_eq.symm.trans htaken
            exact ⟨hsay, hlength, ⟨hlength ▸ Nat.not_lt.mp hcount, hbounded, hnodup⟩⟩
        · rintro ⟨hsay, -, hformed⟩
          rw [(hloop _ _).mpr ⟨inputs, hsay, hformed.bounded, hformed.distinct, rfl⟩]
          rfl

end WidgetHandle

/-! ## The class alone -/

namespace WidgetPanel

open WidgetHandle

variable {Own Values : Type} (cls : WidgetClass Own Values)

/-- What a call makes of what the author's class keeps. -/
def ownStep (own : Own) : Call Values → Own
  | .inputs => own
  | .onUpdate values => (cls.onUpdate own values).2
  | .saveConfig => own
  | .loadConfig configJson => (cls.loadConfig own configJson).2

def ownAfter (own : Own) (calls : List (Call Values)) : Own := calls.foldl (ownStep cls) own

/-- What the updates of a run came to, in their order. -/
def updateOutcomes (own : Own) : List (Call Values) → List (Except (Option String) Unit)
  | [] => []
  | .onUpdate values :: calls =>
    (cls.onUpdate own values).1 :: updateOutcomes (cls.onUpdate own values).2 calls
  | call :: calls => updateOutcomes (ownStep cls own call) calls

/-- The message of an update that failed. One that is too long is told to be so. -/
def failureMessage (what : Option String) : WidgetMessageLevel × Bytes :=
  if (text (updateFailureText what)).length > kMaxInputTextBytes then
    (.kWarning, text "widget plugin produced an invalid message string view")
  else (.kError, text (updateFailureText what))

/-- The messages of a series of updates: of each that fails where the one before it, if there is
one, did not. -/
def failureMessages (outcomes : List (Except (Option String) Unit)) :
    List (WidgetMessageLevel × Bytes) :=
  ((.ok () :: outcomes).zip outcomes).filterMap fun
    | (.ok (), .error what) => some (failureMessage what)
    | _ => none

theorem updateOutcomes_append (own : Own) (calls later : List (Call Values)) :
    updateOutcomes cls own (calls ++ later) =
      updateOutcomes cls own calls ++ updateOutcomes cls (ownAfter cls own calls) later := by
  induction calls generalizing own with
  | nil => rfl
  | cons call calls ih =>
    cases call with
    | onUpdate values => exact congrArg (_ :: ·) (ih _)
    | inputs => exact ih _
    | saveConfig => exact ih _
    | loadConfig configJson => exact ih _

/-- A list beside itself moved on by one, with one more element. -/
theorem zip_cons_append {α : Type} (first last : α) (list : List α) :
    (first :: (list ++ [last])).zip (list ++ [last]) =
      (first :: list).zip list ++ [(list.getLast?.getD first, last)] := by
  induction list generalizing first with
  | nil => rfl
  | cons next list ih =>
    rw [List.cons_append, List.zip_cons_cons, ih, List.zip_cons_cons, List.cons_append,
      List.getLast?_cons]
    rfl

theorem failureMessages_append_singleton (outcomes : List (Except (Option String) Unit))
    (outcome : Except (Option String) Unit) :
    failureMessages (outcomes ++ [outcome]) =
      failureMessages outcomes ++
        match outcomes.getLast?.getD (.ok ()), outcome with
        | .ok (), .error what => [failureMessage what]
        | _, _ => [] := by
  unfold failureMessages
  rw [zip_cons_append, List.filterMap_append]
  rcases outcomes.getLast?.getD (.ok ()) with _ | ⟨⟨⟩⟩ <;> rcases outcome with _ | ⟨⟨⟩⟩ <;> simp

/-! ## What the SDK keeps around it -/

/-- After some calls, on an instance that was fresh before them. -/
structure Kept (start : Own) (hostBound : Bool) (calls : List (Call Values))
    (panel : WidgetPanel Own) : Prop where
  own : panel.own = ownAfter cls start calls
  bound : panel.hostBound = hostBound
  reported : panel.onUpdateFailureReported =
    match (updateOutcomes cls start calls).getLast? with
    | some (.error _) => true
    | _ => false
  messages : panel.messages =
    if hostBound then failureMessages (updateOutcomes cls start calls) else []

theorem reportWidgetMessage_eq (self : WidgetPanel Own) (what : Option String) :
    self.reportWidgetMessage .kError (text (updateFailureText what)) =
      { self with
        messages := self.messages ++ if self.hostBound then [failureMessage what] else [] } := by
  obtain ⟨own, configBuf, inputsSnapshot, inputsAbi, reported, bound, messages⟩ := self
  cases bound with
  | false => simp [reportWidgetMessage]
  | true =>
    by_cases hlength : (text (updateFailureText what)).length > kMaxInputTextBytes
    · simp [reportWidgetMessage, checkedWidgetView, failureMessage, hlength]
    · simp [reportWidgetMessage, checkedWidgetView, failureMessage, hlength]

variable {cls} {own : Own} {hostBound : Bool} {calls : List (Call Values)}
  {self : WidgetPanel Own}

/-- A call that is no update only has to keep what the updates are told by. -/
theorem Kept.quiet (h : Kept cls own hostBound calls self) {call : Call Values}
    {after : WidgetPanel Own}
    (hcall : updateOutcomes cls (ownAfter cls own calls) [call] = [])
    (hown : after.own = ownStep cls self.own call) (hbound : after.hostBound = self.hostBound)
    (hreported : after.onUpdateFailureReported = self.onUpdateFailureReported)
    (hmessages : after.messages = self.messages) :
    Kept cls own hostBound (calls ++ [call]) after := by
  have houtcomes : updateOutcomes cls own (calls ++ [call]) = updateOutcomes cls own calls := by
    rw [updateOutcomes_append, hcall, List.append_nil]
  refine ⟨?_, hbound.trans h.bound, ?_, ?_⟩
  · rw [hown, h.own]
    simp [ownAfter]
  · rw [houtcomes, hreported, h.reported]
  · rw [houtcomes, hmessages, h.messages]

theorem Kept.update (h : Kept cls own hostBound calls self) (values : Values) :
    Kept cls own hostBound (calls ++ [.onUpdate values]) (self.trampolineOnUpdate cls values) := by
  have houtcomes : updateOutcomes cls own (calls ++ [.onUpdate values]) =
      updateOutcomes cls own calls ++ [(cls.onUpdate self.own values).1] := by
    rw [updateOutcomes_append, h.own]
    rfl
  have hown : (cls.onUpdate self.own values).2 = ownAfter cls own (calls ++ [.onUpdate values]) := by
    rw [h.own]
    simp [ownAfter, ownStep]
  unfold trampolineOnUpdate
  rcases hupdate : cls.onUpdate self.own values with ⟨what | ⟨⟨⟩⟩, after⟩
  · rw [hupdate] at houtcomes hown
    dsimp only
    unfold reportOnUpdateFailure
    dsimp only
    cases hreported : self.onUpdateFailureReported with
    | true =>
      -- the update before this one failed too, so this one is not told
      refine ⟨hown, h.bound, ?_, ?_⟩
      · simp [houtcomes]
      · have hbefore := h.reported
        rw [hreported] at hbefore
        have hmessages := h.messages
        rw [houtcomes, failureMessages_append_singleton]
        split at hbefore
        · rename_i what' hlast
          simp [hlast, hmessages]
        · cases hbefore
    | false =>
      rw [if_neg Bool.false_ne_true, reportWidgetMessage_eq]
      refine ⟨hown, h.bound, ?_, ?_⟩
      · simp [houtcomes]
      · have hbefore := h.reported
        rw [hreported] at hbefore
        have hlast : (updateOutcomes cls own calls).getLast?.getD (.ok ()) = .ok () := by
          split at hbefore
          · cases hbefore
          · rename_i hnot
            rcases hl : (updateOutcomes cls own calls).getLast? with _ | ⟨what' | ⟨⟨⟩⟩⟩
            · rfl
            · exact absurd hl (hnot what')
            · rfl
        rw [houtcomes, failureMessages_append_singleton, hlast]
        simp only [h.messages, h.bound]
        cases hostBound <;> simp
  · rw [hupdate] at houtcomes hown
    refine ⟨hown, h.bound, ?_, ?_⟩
    · simp [houtcomes]
    · rw [houtcomes, failureMessages_append_singleton]
      simp [h.messages]

theorem panel_run (cls : WidgetClass Own Values) (own : Own) (hostBound : Bool)
    (calls : List (Call Values)) :
    Kept cls own hostBound calls (calls.foldl (step cls) { own, hostBound }) := by
  induction calls using List.reverseRecOn with
  | nil => exact ⟨rfl, rfl, rfl, by simp [updateOutcomes, failureMessages]⟩
  | append_singleton calls call ih =>
    rw [List.foldl_append, List.foldl_cons, List.foldl_nil]
    cases call with
    | onUpdate values => exact ih.update values
    | inputs =>
      simp only [step, trampolineInputs]
      split <;> exact ih.quiet rfl rfl rfl rfl rfl
    | saveConfig =>
      simp only [step, trampolineSaveConfig]
      split <;> exact ih.quiet rfl rfl rfl rfl rfl
    | loadConfig configJson =>
      simp only [step, trampolineLoadConfig]
      split <;> rename_i hload <;>
        exact ih.quiet rfl (by simp [ownStep, hload]) rfl rfl rfl

/-- Over any run of calls, the host is told of a failing update exactly where the update before
it, if there was one, did not fail. -/
theorem messages_run (cls : WidgetClass Own Values) (own : Own) (calls : List (Call Values)) :
    (calls.foldl (step cls) { own }).messages = failureMessages (updateOutcomes cls own calls) :=
  (panel_run cls own true calls).messages

end WidgetPanel

/-! ## The inputs of a panel -/

namespace WidgetPanel

open WidgetHandle

variable {Own Values : Type}

theorem describes_abiInput_iff {input input' : WidgetInput} :
    Describes (abiInput input) input' ↔ input' = input := by
  have hmultiple (multiple : Bool) : decide
      ((if multiple then PJ_WIDGET_INPUT_MULTIPLE else 0) &&& PJ_WIDGET_INPUT_MULTIPLE ≠ 0) =
        multiple := by
    cases multiple <;> decide
  constructor
  · intro h
    obtain ⟨name, label, unit, kind, multiple⟩ := input'
    obtain ⟨hname, hlabel, hunit, hkind, htold⟩ := h
    obtain rfl := Option.some.inj hname
    obtain rfl := Option.some.inj hlabel
    obtain rfl := Option.some.inj hunit
    have hsame : kind = input.kind :=
      Option.some.inj
        ((kindOfCode_eq_some_iff.mpr hkind).symm.trans (kindOfCode_eq_some_iff.mpr rfl))
    rw [hsame, show multiple = input.multiple from htold.trans (hmultiple _)]
  · rintro rfl
    exact ⟨rfl, rfl, rfl, rfl, (hmultiple _).symm⟩

theorem forall₂_abiInput_iff {declared inputs : List WidgetInput} :
    List.Forall₂ Describes (declared.map abiInput) inputs ↔ inputs = declared := by
  rw [List.forall₂_map_left_iff]
  simp only [describes_abiInput_iff, eq_comm (a := _)]
  rw [List.forall₂_eq_eq_eq, eq_comm]

theorem handedOut_ok_iff {declared inputs : List WidgetInput} :
    WidgetHandle.inputs (.ok (handedOut (declared.map abiInput))) = .ok inputs ↔
      inputs = declared.take (declared.length % 2 ^ 32) ∧ WellFormedInputs inputs := by
  have hcount : (handedOut (declared.map abiInput)).count.toNat = declared.length % 2 ^ 32 := by
    rw [handedOut, UInt32.toNat_ofNat', List.length_map]
  rw [inputs_ok_iff, hcount]
  simp only [handedOut, Option.getD_some, ← List.map_take, forall₂_abiInput_iff]
  constructor
  · exact fun ⟨hinputs, _, hformed⟩ => ⟨hinputs, hformed⟩
  · rintro ⟨rfl, hformed⟩
    exact ⟨rfl, List.length_take_of_le (Nat.mod_le _ _), hformed⟩

variable (cls : WidgetClass Own Values)

/-- A call that puts another array in the place of the one handed out. -/
def Replaces (own : Own) : Call Values → Prop
  | .inputs => ∃ declared, cls.inputs own = .ok declared
  | .loadConfig _ => True
  | .onUpdate _ | .saveConfig => False

/-- A run without such a call. -/
def Undisturbed (own : Own) : List (Call Values) → Prop
  | [] => True
  | call :: calls => ¬Replaces cls own call ∧ Undisturbed (ownStep cls own call) calls

variable {cls}

theorem reportOnUpdateFailure_kept (self : WidgetPanel Own) (what : Option String) :
    (self.reportOnUpdateFailure what).own = self.own ∧
      (self.reportOnUpdateFailure what).inputsAbi = self.inputsAbi := by
  unfold reportOnUpdateFailure
  split
  · exact ⟨rfl, rfl⟩
  · rw [reportWidgetMessage_eq]
    exact ⟨rfl, rfl⟩

theorem step_undisturbed {self : WidgetPanel Own} {call : Call Values}
    (h : ¬Replaces cls self.own call) :
    (self.step cls call).own = ownStep cls self.own call ∧
      (self.step cls call).inputsAbi = self.inputsAbi := by
  cases call with
  | inputs =>
    simp only [step, trampolineInputs]
    split
    · exact ⟨rfl, rfl⟩
    · exact ⟨rfl, rfl⟩
    · rename_i declared hdeclared
      exact absurd ⟨declared, hdeclared⟩ h
  | onUpdate values =>
    simp only [step, trampolineOnUpdate, ownStep]
    split <;> rename_i hupdate <;> rw [hupdate]
    · exact ⟨rfl, rfl⟩
    · exact reportOnUpdateFailure_kept _ _
  | saveConfig =>
    simp only [step, trampolineSaveConfig]
    split <;> exact ⟨rfl, rfl⟩
  | loadConfig configJson => exact absurd trivial h

theorem array_kept {self : WidgetPanel Own} {calls : List (Call Values)}
    (h : Undisturbed cls self.own calls) :
    (calls.foldl (step cls) self).inputsAbi = self.inputsAbi := by
  induction calls generalizing self with
  | nil => rfl
  | cons call calls ih =>
    obtain ⟨hown, habi⟩ := step_undisturbed h.1
    rw [List.foldl_cons, ih (by rw [hown]; exact h.2), habi]

/-- After any run of calls a host that asks for the inputs has just those the class declares now,
if they are well formed; and the array it was handed stays where it is until an answered `inputs`
or a `load_config`. -/
theorem inputs_delivered (cls : WidgetClass Own Values) (own : Own) (calls : List (Call Values)) :
    let asked := (calls.foldl (step cls) { own }).trampolineInputs cls
    (∀ inputs, WidgetHandle.inputs asked.1 = .ok inputs ↔
        ∃ declared, cls.inputs (ownAfter cls own calls) = .ok declared ∧
          -- the count is one of 32 bits
          inputs = declared.take (declared.length % 2 ^ 32) ∧ WellFormedInputs inputs) ∧
      ∀ array later, asked.1 = .ok array → Undisturbed cls asked.2.own later →
        array.inputs = some (later.foldl (step cls) asked.2).inputsAbi := by
  intro asked
  have hown := (panel_run cls own true calls).own
  have hasked : asked = (calls.foldl (step cls) { own }).trampolineInputs cls := rfl
  unfold trampolineInputs at hasked
  rw [hown] at hasked
  cases hdeclared : cls.inputs (ownAfter cls own calls) with
  | error what =>
    have hrefused : ∃ err, asked.1 = .error err := by
      rw [hasked, hdeclared]
      cases what with
      | none => exact ⟨_, rfl⟩
      | some what => exact ⟨_, rfl⟩
    obtain ⟨err, herr⟩ := hrefused
    refine ⟨fun inputs => ?_, fun array later harray => ?_⟩
    · rw [herr]
      simp [WidgetHandle.inputs]
    · rw [herr] at harray
      cases harray
  | ok declared =>
    have hanswer : asked.1 = .ok (handedOut (declared.map abiInput)) := by
      rw [hasked, hdeclared]
    have hkept : asked.2.inputsAbi = declared.map abiInput := by
      rw [hasked, hdeclared]
    refine ⟨fun inputs => ?_, fun array later harray hlater => ?_⟩
    · rw [hanswer, handedOut_ok_iff]
      simp
    · obtain rfl := Except.ok.inj (hanswer.symm.trans harray)
      rw [array_kept hlater, hkept]
      rfl

end WidgetPanel

end PlotJugglerSdk
