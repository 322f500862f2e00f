import PlotJugglerSdk.Host.ClaimRules
import PlotJugglerSdk.Json.Access
import PlotJugglerSdk.Json.Documents
import PlotJugglerSdk.Json.Sameness
import PlotJugglerSdk.Numeric.Checked
import PlotJugglerSdk.Order.SortedMap
import PlotJugglerSdk.Scan.Folds

/-!
# Evaluation reports

A host answers an evaluation with a report: how much of the asked range it covered, and a bundle
of inputs and outputs for each instant that was evaluated. `parseEvaluationReport` reads the
report of any text; every accessor of the JSON library that it uses is modelled with the
exception it would throw.

* `ReportPayload` — a report as a document, with its rules across members
* `Coherent`      — what a client may rely on in a report it was given
* `parseEvaluationReport_iff` — what is read, what is not, and that nothing throws
-/

namespace PlotJugglerSdk

namespace Source

open Wire Json Value

/-! ## Reports -/

inductive EvaluationStop where
  | complete
  | budgetTime
  | budgetEvaluations
  | budgetBytes
  | budgetReport
  | cancelled
  | error
  deriving DecidableEq

inductive EvaluationOutputStatus where
  | ok
  | unavailable
  | empty
  | error
  deriving DecidableEq

/-- `value` and `summary` are null where the report has none. -/
structure EvaluationOutput where
  status : EvaluationOutputStatus := .ok
  value : Value := .null
  summary : Value := .null
  reason : Bytes := []

structure EvaluationBundle where
  requestedNs : Int64 := 0
  stampNs : Int64 := 0
  inputs : List (Bytes × Int64) := []
  outputs : List (Bytes × EvaluationOutput) := []

structure EvaluationGap where
  fromNs : Int64 := 0
  toNs : Int64 := 0
  deriving DecidableEq

structure DataProcessorOutput where
  name : Bytes
  type : Bytes
  deriving DecidableEq

structure EvaluationReport where
  candidates : UInt64 := 0
  evaluated : UInt64 := 0
  stopped : EvaluationStop := .complete
  error : Bytes := []
  gaps : List EvaluationGap := []
  bundles : List EvaluationBundle := []
  inferredOutputs : List DataProcessorOutput := []

/-- The text of an error, or the number of an exception. -/
inductive ReportFailure where
  | refused (reason : Bytes)
  | thrown (id : Nat)

/-! ## The parser -/

def demand {α : Type} (reason : Bytes) (value : Option α) : Except ReportFailure α :=
  value.elim (.error (.refused reason)) .ok

def refuseIf (bad : Prop) [Decidable bad] (reason : Bytes) : Except ReportFailure Unit :=
  if bad then .error (.refused reason) else .ok ()

def toSignedTicks (ticks : UInt64) : Option Int64 :=
  if ticks > 0x7FFFFFFFFFFFFFFF then none else some ticks.toInt64

/-- `reportInt64`: unsigned first, so that nothing is narrowed. -/
def reportInt64 (value : Value) : Except ReportFailure (Option Int64) :=
  if value.isNumberUnsigned then (value.get .thrown uint64Of).map toSignedTicks
  else guarded isNumberInteger (get .thrown int64Of) (some value)

def reportInt64Member (key : String) (object : Value) : Except ReportFailure (Option Int64) :=
  match object.find key with
  | none => .ok none
  | some value => reportInt64 value

def reportString (key : String) (object : Value) : Except ReportFailure (Option Bytes) :=
  guarded isString (get .thrown stringOf) (object.find key)

def reportEnum {α : Type} (names : List (String × α)) (name : Option Bytes) : Option α :=
  names.findSome? fun entry => if name = some (text entry.1) then some entry.2 else none

/-- `kStops` -/
def stops : List (String × EvaluationStop) :=
  [("complete", .complete), ("budget_time", .budgetTime),
    ("budget_evaluations", .budgetEvaluations),
    ("budget_bytes", .budgetBytes), ("budget_report", .budgetReport), ("cancelled", .cancelled),
    ("error", .error)]

/-- `kStatuses` -/
def statuses : List (String × EvaluationOutputStatus) :=
  [("ok", .ok), ("unavailable", .unavailable), ("empty", .empty), ("error", .error)]

def isReportOutputType (type : Bytes) : Bool :=
  type = text "number" || type = text "string" || type = text "unknown" ||
    (parseBuiltinObjectType type).isSome

/-- A member that may be missing; one of another type is refused. -/
def optionalField (key : String) (is : Value → Bool) (reason : Bytes) (object : Value) :
    Except ReportFailure (Option Value) :=
  match object.find key with
  | none => .ok none
  | some value => if is value then .ok (some value) else .error (.refused reason)

/-- The text of such a member, `get_ref`. -/
def optionalText (key : String) (reason : Bytes) (object : Value) : Except ReportFailure Bytes := do
  match ← optionalField key isString reason object with
  | none => .ok []
  | some value => value.getRef .thrown stringOf

def parseGap (gap : Value) : Except ReportFailure EvaluationGap := do
  let fromNs ← reportInt64Member "from_ns" gap
  let toNs ← reportInt64Member "to_ns" gap
  let fromNs ← demand (text "coverage.gaps entries need int64 from_ns and to_ns") fromNs
  let toNs ← demand (text "coverage.gaps entries need int64 from_ns and to_ns") toNs
  .ok { fromNs, toNs }

/-- The order of a `std::map` with text keys. -/
def keyBefore (a b : Bytes) : Bool := decide (a < b)

/-- An input of a bundle, beside those before it and the newest of them. -/
def addInput (requestedNs : Int64) (state : List (Bytes × Int64) × Option Int64)
    (input : Bytes × Value) : Except ReportFailure (List (Bytes × Int64) × Option Int64) := do
  let resolved ← reportInt64 input.2
  let resolved ← demand (text "bundle input '" ++ input.1 ++ text "' must be an int64 timestamp")
    resolved
  refuseIf (resolved > requestedNs)
    (text "bundle input '" ++ input.1 ++ text "' resolves after requested_ns")
  .ok (SortedMap.emplace keyBefore input.1 resolved state.1,
    some (state.2.elim resolved fun newest => max newest resolved))

def parseOutput (name : Bytes) (fields : Value) : Except ReportFailure EvaluationOutput := do
  let status ← reportString "status" fields
  let status ← demand
    (text "output '" ++ name ++ text "' has unknown status '" ++ status.getD [] ++ text "'")
    (reportEnum statuses status)
  let value ← optionalField "value" (fun value => value.isNumber || value.isString)
    (text "output '" ++ name ++ text "' value must be a number or a string") fields
  let summary ← optionalField "summary" isObject
    (text "output '" ++ name ++ text "' summary must be an object") fields
  let reason ← optionalText "reason" (text "output '" ++ name ++ text "' reason must be a string")
    fields
  .ok { status, value := value.getD .null, summary := summary.getD .null, reason }

def addOutput (outputs : List (Bytes × EvaluationOutput)) (item : Bytes × Value) :
    Except ReportFailure (List (Bytes × EvaluationOutput)) := do
  let output ← parseOutput item.1 item.2
  .ok (SortedMap.emplace keyBefore item.1 output outputs)

def membersOf : Value → Option (List (Bytes × Value))
  | .object members => some members
  | _ => none

def elementsIn : Value → Option (List Value)
  | .array values => some values
  | _ => none

def parseBundle (entry : Value) : Except ReportFailure EvaluationBundle := do
  let reason := text "a bundle needs an int64 requested_ns, an inputs object and an outputs object"
  let requestedNs ← reportInt64Member "requested_ns" entry
  let requestedNs ← demand reason requestedNs
  let inputs ← demand reason ((entry.find "inputs").bind membersOf)
  let outputs ← demand reason ((entry.find "outputs").bind membersOf)
  let (resolved, newest) ← inputs.foldlM (addInput requestedNs) ([], none)
  let parsed ← outputs.foldlM addOutput []
  .ok { requestedNs, stampNs := newest.getD requestedNs, inputs := resolved, outputs := parsed }

def parseInferred (entry : Value) : Except ReportFailure DataProcessorOutput := do
  let name ← reportString "name" entry
  let type ← reportString "type" entry
  let name ← demand (text "report outputs entries need a string name and type") name
  let type ← demand (text "report outputs entries need a string name and type") type
  refuseIf (isReportOutputType type = false)
    (text "report output '" ++ name ++ text "' has unknown type '" ++ type ++ text "'")
  .ok { name, type }

/-- The `outputs` at the root, which may be missing. -/
def parseInferredOutputs (doc : Value) : Except ReportFailure (List DataProcessorOutput) :=
  match doc.find "outputs" with
  | none => .ok []
  | some inferred => do
    let entries ← demand (text "report outputs must be an array") (elementsIn inferred)
    entries.mapM parseInferred

/-- The `coverage` object, as a report without bundles. -/
def parseCoverage (coverage : Value) : Except ReportFailure EvaluationReport := do
  let counts := text "coverage.candidates and coverage.evaluated must be unsigned integers"
  let candidates ← demand counts ((coverage.find "candidates").filter isNumberUnsigned)
  let evaluated ← demand counts ((coverage.find "evaluated").filter isNumberUnsigned)
  -- the numbers are unsigned by now; what the conversion can do is throw
  let candidates ← candidates.get .thrown uint64Of
  let evaluated ← evaluated.get .thrown uint64Of
  refuseIf (evaluated > candidates) (text "coverage.evaluated exceeds coverage.candidates")
  let stopped ← reportString "stopped" coverage
  let stopped ← demand (text "unknown coverage.stopped '" ++ stopped.getD [] ++ text "'")
    (reportEnum stops stopped)
  refuseIf (coverage.contains "error" ≠ decide (stopped = .error))
    (text "coverage.error must be present exactly when coverage.stopped is 'error'")
  let error ← optionalText "error" (text "coverage.error must be a string") coverage
  let gaps ← demand (text "coverage.gaps must be an array") ((coverage.find "gaps").bind elementsIn)
  let gaps ← gaps.mapM parseGap
  .ok { candidates, evaluated, stopped, error, gaps }

def parseEvaluationReport (parse : Bytes → Option Value) (json : Bytes) :
    Except ReportFailure EvaluationReport := do
  refuseIf (0 ∈ json) (text "evaluation report contains a NUL byte")
  let doc ← demand (text "evaluation report is not a JSON object") ((parse json).filter isObject)
  let needs := text "evaluation report needs a coverage object and a bundles array"
  let coverage ← demand needs ((doc.find "coverage").filter isObject)
  let bundles ← demand needs ((doc.find "bundles").bind elementsIn)
  let report ← parseCoverage coverage
  let bundles ← bundles.mapM parseBundle
  refuseIf (bundles.length ≠ report.evaluated.toNat)
    (text "coverage.evaluated must equal the number of bundles")
  let inferredOutputs ← parseInferredOutputs doc
  .ok { report with bundles, inferredOutputs }

/-! ## Reports as documents -/

def EvaluationStop.name : EvaluationStop → String
  | .complete => "complete"
  | .budgetTime => "budget_time"
  | .budgetEvaluations => "budget_evaluations"
  | .budgetBytes => "budget_bytes"
  | .budgetReport => "budget_report"
  | .cancelled => "cancelled"
  | .error => "error"

def EvaluationOutputStatus.name : EvaluationOutputStatus → String
  | .ok => "ok"
  | .unavailable => "unavailable"
  | .empty => "empty"
  | .error => "error"

/-- A count of nanoseconds: an integer of the document, and the same one. -/
def Nanoseconds (value : Value) (ns : Int64) : Prop := value.integral = some ns.toInt

/-- A member that is there and of which something holds. -/
def Has (object : Value) (key : String) (holds : Value → Prop) : Prop :=
  ∃ value, object.find key = some value ∧ holds value

/-- A member that may be missing, and then is null. -/
def MayHave (object : Value) (key : String) (is : Value → Bool) (value : Value) : Prop :=
  object.find key = none ∧ value = .null ∨ object.find key = some value ∧ is value = true

/-- A text that may be missing, and then is empty. -/
def MayHaveText (object : Value) (key : String) (content : Bytes) : Prop :=
  object.find key = none ∧ content = [] ∨ object.find key = some (.string content)

/-- The elements of an array, one by one. -/
def ElementsAre {α : Type} (payload : Value → α → Prop) (items : List α) (encoded : Value) : Prop :=
  ∃ values, encoded = .array values ∧ List.Forall₂ payload values items

/-- The members of an object, one by one under their keys. -/
def MembersAre {α : Type} (payload : Value → α → Prop) (entries : List (Bytes × α))
    (encoded : Value) : Prop :=
  ∃ members, encoded = .object members ∧
    List.Forall₂ (fun member entry => member.1 = entry.1 ∧ payload member.2 entry.2) members entries

structure GapPayload (encoded : Value) (gap : EvaluationGap) : Prop where
  fromNs : Has encoded "from_ns" (Nanoseconds · gap.fromNs)
  toNs : Has encoded "to_ns" (Nanoseconds · gap.toNs)

structure OutputPayload (encoded : Value) (output : EvaluationOutput) : Prop where
  status : encoded.find "status" = some (.string (text output.status.name))
  value : MayHave encoded "value" (fun value => value.isNumber || value.isString) output.value
  summary : MayHave encoded "summary" isObject output.summary
  reason : MayHaveText encoded "reason" output.reason

/-- The stamp of a bundle is the newest of its inputs, or the requested one. -/
def Newest (bundle : EvaluationBundle) : Prop :=
  bundle.inputs = [] ∧ bundle.stampNs = bundle.requestedNs ∨
    (∃ input ∈ bundle.inputs, input.2 = bundle.stampNs) ∧
      ∀ input ∈ bundle.inputs, input.2 ≤ bundle.stampNs

structure BundlePayload (encoded : Value) (bundle : EvaluationBundle) : Prop where
  requestedNs : Has encoded "requested_ns" (Nanoseconds · bundle.requestedNs)
  inputs : Has encoded "inputs" (MembersAre Nanoseconds bundle.inputs)
  resolved : ∀ input ∈ bundle.inputs, input.2 ≤ bundle.requestedNs
  stampNs : Newest bundle
  outputs : Has encoded "outputs" (MembersAre OutputPayload bundle.outputs)

structure InferredPayload (encoded : Value) (output : DataProcessorOutput) : Prop where
  name : encoded.find "name" = some (.string output.name)
  type : encoded.find "type" = some (.string output.type)
  known : isReportOutputType output.type = true

structure CoveragePayload (encoded : Value) (report : EvaluationReport) : Prop where
  candidates : encoded.find "candidates" = some (.unsigned report.candidates)
  evaluated : encoded.find "evaluated" = some (.unsigned report.evaluated)
  bounded : report.evaluated ≤ report.candidates
  stopped : encoded.find "stopped" = some (.string (text report.stopped.name))
  present : encoded.contains "error" = true ↔ report.stopped = .error
  error : MayHaveText encoded "error" report.error
  gaps : Has encoded "gaps" (ElementsAre GapPayload report.gaps)

structure ReportPayload (doc : Value) (report : EvaluationReport) : Prop where
  coverage : Has doc "coverage" (CoveragePayload · report)
  bundles : Has doc "bundles" (ElementsAre BundlePayload report.bundles)
  evaluated : report.bundles.length = report.evaluated.toNat
  outputs : doc.find "outputs" = none ∧ report.inferredOutputs = [] ∨
    Has doc "outputs" (ElementsAre InferredPayload report.inferredOutputs)

/-- What holds of a report whatever its text. -/
structure Coherent (report : EvaluationReport) : Prop where
  evaluated : report.bundles.length = report.evaluated.toNat
  bounded : report.evaluated ≤ report.candidates
  error : report.error ≠ [] → report.stopped = .error
  resolved : ∀ bundle ∈ report.bundles, ∀ input ∈ bundle.inputs, input.2 ≤ bundle.requestedNs
  stamps : ∀ bundle ∈ report.bundles, Newest bundle

/-! ## Checks -/

theorem demand_ok {α : Type} {reason : Bytes} {read : Option α} {value : α} :
    demand reason read = .ok value ↔ read = some value := by
  cases read with
  | none => exact ⟨nofun, nofun⟩
  | some other => exact ⟨fun h => congrArg some (Except.ok.inj h), fun h => congrArg _ (Option.some.inj h)⟩

theorem refuseIf_ok {bad : Prop} [Decidable bad] {reason : Bytes} {passed : Unit} :
    refuseIf bad reason = .ok passed ↔ ¬ bad := by
  unfold refuseIf
  split
  · exact ⟨nofun, fun h => absurd ‹bad› h⟩
  · exact ⟨fun _ => ‹¬ bad›, fun _ => rfl⟩

theorem membersOf_iff {value : Value} {members : List (Bytes × Value)} :
    membersOf value = some members ↔ value = .object members := by
  cases value with
  | object others => exact ⟨fun h => congrArg _ (Option.some.inj h), fun h => by cases h; rfl⟩
  | _ => exact ⟨nofun, nofun⟩

theorem elementsIn_iff {value : Value} {values : List Value} :
    elementsIn value = some values ↔ value = .array values := by
  cases value with
  | array others => exact ⟨fun h => congrArg _ (Option.some.inj h), fun h => by cases h; rfl⟩
  | _ => exact ⟨nofun, nofun⟩

theorem bind_membersOf {read : Option Value} {members : List (Bytes × Value)} :
    read.bind membersOf = some members ↔ read = some (.object members) := by
  rw [Option.bind_eq_some_iff]
  constructor
  · rintro ⟨value, hread, hvalue⟩
    rw [hread, membersOf_iff.mp hvalue]
  · exact fun h => ⟨_, h, rfl⟩

theorem bind_elementsIn {read : Option Value} {values : List Value} :
    read.bind elementsIn = some values ↔ read = some (.array values) := by
  rw [Option.bind_eq_some_iff]
  constructor
  · rintro ⟨value, hread, hvalue⟩
    rw [hread, elementsIn_iff.mp hvalue]
  · exact fun h => ⟨_, h, rfl⟩

/-! ## Integers -/

/-- The integer of a value, where it is one of 64 bits with a sign. -/
def signed : Value → Option Int64
  | .unsigned value => toSignedTicks value
  | .integer value => some value
  | _ => none

theorem reportInt64_eq (value : Value) : reportInt64 value = .ok (signed value) := by
  cases value <;> rfl

theorem signed_iff {value : Value} {ns : Int64} :
    signed value = some ns ↔ Nanoseconds value ns := by
  unfold Nanoseconds
  cases value with
  | unsigned value =>
    have hmax : (0x7FFFFFFFFFFFFFFF : UInt64).toNat = 2 ^ 63 - 1 := by decide
    have hout : value > 0x7FFFFFFFFFFFFFFF ↔ 2 ^ 63 - 1 < value.toNat := by
      rw [gt_iff_lt, UInt64.lt_iff_toNat_lt, hmax]
    have hns : ns.toInt < 2 ^ 63 := ns.toInt_lt
    rw [signed, toSignedTicks, integral, Option.some.injEq]
    split
    · next h =>
      have hvalue := hout.mp h
      refine ⟨nofun, fun heq => ?_⟩
      omega
    · next h =>
      have hvalue : ¬ 2 ^ 63 - 1 < value.toNat := fun hlt => h (hout.mpr hlt)
      have hint : value.toInt64.toInt = value.toNat := Signed.toInt_toInt64 (by omega)
      rw [Option.some.injEq, ← hint, Int64.toInt_inj]
  | integer value =>
    rw [signed, integral, Option.some.injEq, Option.some.injEq, Int64.toInt_inj]
  | _ => exact ⟨nofun, nofun⟩

theorem reportInt64Member_eq (key : String) (object : Value) :
    reportInt64Member key object = .ok ((object.find key).bind signed) := by
  unfold reportInt64Member
  cases object.find key with
  | none => rfl
  | some value => exact reportInt64_eq value

theorem bind_signed {object : Value} {key : String} {ns : Int64} :
    (object.find key).bind signed = some ns ↔ Has object key (Nanoseconds · ns) := by
  rw [Option.bind_eq_some_iff]
  exact exists_congr fun value => and_congr_right fun _ => signed_iff

/-! ## Texts and enumerations -/

theorem reportString_eq (key : String) (object : Value) :
    reportString key object = .ok ((object.find key).bind stringOf) := by
  unfold reportString
  cases object.find key with
  | none => rfl
  | some value => cases value <;> rfl

theorem bind_stringOf {object : Value} {key : String} {content : Bytes} :
    (object.find key).bind stringOf = some content ↔ object.find key = some (.string content) := by
  rw [Option.bind_eq_some_iff]
  constructor
  · rintro ⟨value, hfind, hvalue⟩
    cases value with
    | string other => rw [hfind, ← Option.some.inj hvalue]
    | _ => cases hvalue
  · exact fun h => ⟨_, h, rfl⟩

/-- A table that names every value of an enumeration. -/
theorem reportEnum_iff {α : Type} {names : List (String × α)} {label : α → String}
    (hnames : ∀ entry ∈ names, entry.1 = label entry.2) (hall : ∀ a, (label a, a) ∈ names)
    (hinj : ∀ a b, label a = label b → a = b) {name : Option Bytes} {a : α} :
    reportEnum names name = some a ↔ name = some (text (label a)) := by
  have hmatch (entry : String × α) (hentry : entry ∈ names) (b : α)
      (h : (if name = some (text entry.1) then some entry.2 else none) = some b) :
      name = some (text (label b)) := by
    split at h
    · next hname => rw [← Option.some.inj h, ← hnames entry hentry, hname]
    · cases h
  constructor
  · intro h
    obtain ⟨entry, hentry, hsome⟩ := List.exists_of_findSome?_eq_some h
    exact hmatch entry hentry a hsome
  · rintro rfl
    cases hread : reportEnum names (some (text (label a))) with
    | none =>
      -- the table has the name, so that the search cannot come to its end
      have hnone := List.findSome?_eq_none_iff.mp hread (label a, a) (hall a)
      rw [if_pos rfl] at hnone
      cases hnone
    | some b =>
      obtain ⟨entry, hentry, hsome⟩ := List.exists_of_findSome?_eq_some hread
      have hb := hmatch entry hentry b hsome
      rw [hinj a b (text_inj (Option.some.inj hb))]

theorem reportEnum_stops {name : Option Bytes} {stop : EvaluationStop} :
    reportEnum stops name = some stop ↔ name = some (text stop.name) := by
  refine reportEnum_iff (by decide) ?_ ?_
  · intro a
    cases a <;> decide
  · intro a b h
    cases a <;> cases b <;> first | rfl | exact absurd h (by decide)

theorem reportEnum_statuses {name : Option Bytes} {status : EvaluationOutputStatus} :
    reportEnum statuses name = some status ↔ name = some (text status.name) := by
  refine reportEnum_iff (by decide) ?_ ?_
  · intro a
    cases a <;> decide
  · intro a b h
    cases a <;> cases b <;> first | rfl | exact absurd h (by decide)

/-! ## Members that may be missing -/

theorem optionalField_ok {key : String} {is : Value → Bool} {reason : Bytes} {object : Value}
    {read : Option Value} :
    optionalField key is reason object = .ok read ↔
      object.find key = read ∧ ∀ value, read = some value → is value = true := by
  unfold optionalField
  cases object.find key with
  | none =>
    constructor
    · intro h
      obtain rfl := Except.ok.inj h
      exact ⟨rfl, nofun⟩
    · exact fun h => congrArg _ h.1
  | some value =>
    dsimp only
    split
    · next his =>
      constructor
      · intro h
        obtain rfl := Except.ok.inj h
        exact ⟨rfl, fun other hother => by rw [← Option.some.inj hother]; exact his⟩
      · exact fun h => congrArg _ h.1
    · next his => exact ⟨nofun, fun h => absurd (h.2 value h.1.symm) his⟩

theorem optionalField_mayHave {key : String} {is : Value → Bool} {reason : Bytes}
    {object value : Value} :
    (∃ read, optionalField key is reason object = .ok read ∧ read.getD .null = value) ↔
      MayHave object key is value := by
  unfold MayHave
  constructor
  · rintro ⟨read, hread, rfl⟩
    obtain ⟨hfind, his⟩ := optionalField_ok.mp hread
    cases read with
    | none => exact .inl ⟨hfind, rfl⟩
    | some value => exact .inr ⟨hfind, his value rfl⟩
  · rintro (⟨hfind, rfl⟩ | ⟨hfind, his⟩)
    · exact ⟨none, optionalField_ok.mpr ⟨hfind, nofun⟩, rfl⟩
    · refine ⟨some value, optionalField_ok.mpr ⟨hfind, fun other hother => ?_⟩, rfl⟩
      rw [← Option.some.inj hother]
      exact his

theorem optionalText_ok {key : String} {reason : Bytes} {object : Value} {content : Bytes} :
    optionalText key reason object = .ok content ↔ MayHaveText object key content := by
  unfold optionalText MayHaveText
  rw [Scan.bind_eq_ok]
  constructor
  · rintro ⟨read, hread, hcontent⟩
    obtain ⟨hfind, his⟩ := optionalField_ok.mp hread
    cases read with
    | none => exact .inl ⟨hfind, (Except.ok.inj hcontent).symm⟩
    | some value =>
      cases value with
      | string other =>
        right
        rw [hfind, ← Except.ok.inj hcontent]
      | _ => cases his _ rfl
  · rintro (⟨hfind, rfl⟩ | hfind)
    · exact ⟨none, optionalField_ok.mpr ⟨hfind, nofun⟩, rfl⟩
    · refine ⟨_, optionalField_ok.mpr ⟨hfind, fun other hother => ?_⟩, rfl⟩
      rw [← Option.some.inj hother]
      rfl

/-! ## Gaps, inputs and outputs -/

theorem parseGap_ok {encoded : Value} {gap : EvaluationGap} :
    parseGap encoded = .ok gap ↔ GapPayload encoded gap := by
  unfold parseGap
  rw [reportInt64Member_eq, reportInt64Member_eq]
  constructor
  · intro h
    obtain ⟨fromRead, hfromRead, h⟩ := Scan.bind_eq_ok.mp h
    obtain ⟨toRead, htoRead, h⟩ := Scan.bind_eq_ok.mp h
    obtain ⟨fromNs, hfrom, h⟩ := Scan.bind_eq_ok.mp h
    obtain ⟨toNs, hto, h⟩ := Scan.bind_eq_ok.mp h
    obtain rfl := Except.ok.inj h
    rw [← Except.ok.inj hfromRead, demand_ok, bind_signed] at hfrom
    rw [← Except.ok.inj htoRead, demand_ok, bind_signed] at hto
    exact ⟨hfrom, hto⟩
  · rintro ⟨hfrom, hto⟩
    rw [bind_signed.mpr hfrom, bind_signed.mpr hto]
    rfl

/-- What is put into the inputs of a bundle. -/
def putInput (state : List (Bytes × Int64) × Option Int64) (entry : Bytes × Int64) :
    List (Bytes × Int64) × Option Int64 :=
  (SortedMap.emplace keyBefore entry.1 entry.2 state.1,
    some (state.2.elim entry.2 fun newest => max newest entry.2))

theorem addInput_ok {requestedNs : Int64} {state state' : List (Bytes × Int64) × Option Int64}
    {input : Bytes × Value} :
    addInput requestedNs state input = .ok state' ↔
      ∃ entry : Bytes × Int64,
        ((input.1 = entry.1 ∧ Nanoseconds input.2 entry.2) ∧ entry.2 ≤ requestedNs) ∧
          state' = putInput state entry := by
  unfold addInput
  rw [reportInt64_eq]
  constructor
  · intro h
    obtain ⟨read, hread, h⟩ := Scan.bind_eq_ok.mp h
    obtain ⟨resolved, hresolved, h⟩ := Scan.bind_eq_ok.mp h
    obtain ⟨_, hrefuse, h⟩ := Scan.bind_eq_ok.mp h
    obtain rfl := Except.ok.inj h
    rw [← Except.ok.inj hread, demand_ok, signed_iff] at hresolved
    rw [refuseIf_ok] at hrefuse
    exact ⟨(input.1, resolved), ⟨⟨rfl, hresolved⟩, Int64.not_lt.mp hrefuse⟩, rfl⟩
  · rintro ⟨⟨key, resolved⟩, ⟨⟨hkey, hresolved⟩, hle⟩, rfl⟩
    obtain rfl : input.1 = key := hkey
    refine Scan.bind_eq_ok.mpr ⟨_, rfl, Scan.bind_eq_ok.mpr ⟨resolved, ?_, ?_⟩⟩
    · rw [demand_ok, signed_iff]
      exact hresolved
    · exact Scan.bind_eq_ok.mpr ⟨(), refuseIf_ok.mpr (Int64.not_lt.mpr hle), rfl⟩

/-- The newest of the stamps, from one that is there already. -/
def newestOf (newest : Option Int64) (entries : List (Bytes × Int64)) : Option Int64 :=
  entries.foldl (fun newest entry => some (newest.elim entry.2 fun newest => max newest entry.2))
    newest

/-- Members under the keys of others stand in the same order. -/
theorem ascending_of_keys {α : Type} {payload : Value → α → Prop} {members : List (Bytes × Value)}
    {entries : List (Bytes × α)} (hsorted : (members.map Prod.fst).Pairwise (· < ·))
    (h : List.Forall₂ (fun member entry => member.1 = entry.1 ∧ payload member.2 entry.2) members
      entries) : SortedMap.Ascending keyBefore entries := by
  have hkeys : members.map Prod.fst = entries.map Prod.fst := by
    clear hsorted
    induction h with
    | nil => rfl
    | cons hone _ ih => rw [List.map_cons, List.map_cons, hone.1, ih]
  rw [hkeys, List.pairwise_map] at hsorted
  exact hsorted.imp fun hlt => decide_eq_true hlt

theorem foldl_putInput (done : List (Bytes × Int64)) {entries : List (Bytes × Int64)}
    {newest : Option Int64}
    (h : SortedMap.Ascending keyBefore (done ++ entries)) :
    entries.foldl putInput (done, newest) = (done ++ entries, newestOf newest entries) := by
  rw [← SortedMap.foldl_emplace Ranking.decisive_bytes h]
  clear h
  induction entries generalizing done newest with
  | nil => rfl
  | cons entry entries ih => exact ih _

theorem max_stamp (a b : Int64) : max a b = a ∧ b ≤ a ∨ max a b = b ∧ a ≤ b := by
  by_cases h : a ≤ b
  · exact .inr ⟨if_pos h, h⟩
  · exact .inl ⟨if_neg h, (Int64.le_total a b).resolve_left h⟩

theorem newestOf_some (entries : List (Bytes × Int64)) (newest : Int64) :
    ∃ top, newestOf (some newest) entries = some top ∧
      (top = newest ∨ ∃ entry ∈ entries, entry.2 = top) ∧
      newest ≤ top ∧ ∀ entry ∈ entries, entry.2 ≤ top := by
  induction entries generalizing newest with
  | nil => exact ⟨newest, rfl, .inl rfl, Int64.le_refl newest, nofun⟩
  | cons entry entries ih =>
    obtain ⟨top, htop, hfrom, hle, hall⟩ := ih (max newest entry.2)
    have hboth : newest ≤ max newest entry.2 ∧ entry.2 ≤ max newest entry.2 := by
      rcases max_stamp newest entry.2 with ⟨hmax, hle⟩ | ⟨hmax, hle⟩
      · rw [hmax]
        exact ⟨Int64.le_refl newest, hle⟩
      · rw [hmax]
        exact ⟨hle, Int64.le_refl entry.2⟩
    refine ⟨top, htop, ?_, Int64.le_trans hboth.1 hle, ?_⟩
    · rcases hfrom with hfrom | ⟨later, hlater, hstamp⟩
      · rcases max_stamp newest entry.2 with ⟨hmax, -⟩ | ⟨hmax, -⟩
        · exact .inl (hfrom.trans hmax)
        · exact .inr ⟨entry, List.mem_cons_self, (hfrom.trans hmax).symm⟩
      · exact .inr ⟨later, List.mem_cons_of_mem entry hlater, hstamp⟩
    · intro other hother
      rcases List.mem_cons.mp hother with rfl | hlater
      · exact Int64.le_trans hboth.2 hle
      · exact hall other hlater

/-- The stamp of a bundle is told by its inputs. -/
theorem newest_iff {bundle : EvaluationBundle} :
    Newest bundle ↔ bundle.stampNs = (newestOf none bundle.inputs).getD bundle.requestedNs := by
  unfold Newest
  cases hinputs : bundle.inputs with
  | nil =>
    constructor
    · rintro (⟨-, hstamp⟩ | ⟨⟨_, hmem, -⟩, -⟩)
      · exact hstamp
      · cases hmem
    · exact fun hstamp => .inl ⟨rfl, hstamp⟩
  | cons first rest =>
    obtain ⟨top, htop, hfrom, hle, hall⟩ := newestOf_some rest first.2
    have htops : newestOf none (first :: rest) = some top := htop
    have hmem : ∃ input ∈ first :: rest, input.2 = top := by
      rcases hfrom with rfl | ⟨input, hinput, hstamp⟩
      · exact ⟨first, List.mem_cons_self, rfl⟩
      · exact ⟨input, List.mem_cons_of_mem first hinput, hstamp⟩
    have hbound : ∀ input ∈ first :: rest, input.2 ≤ top := List.forall_mem_cons.mpr ⟨hle, hall⟩
    rw [htops, Option.getD_some]
    constructor
    · rintro (⟨hnil, -⟩ | ⟨⟨input, hinput, hstamp⟩, hmost⟩)
      · cases hnil
      · -- two stamps that bound each other
        obtain ⟨other, hother, rfl⟩ := hmem
        exact Int64.le_antisymm (hstamp ▸ hbound input hinput) (hmost other hother)
    · rintro hstamp
      rw [hstamp]
      exact .inr ⟨hmem, hbound⟩

theorem parseOutput_ok {name : Bytes} {encoded : Value} {output : EvaluationOutput} :
    parseOutput name encoded = .ok output ↔ OutputPayload encoded output := by
  unfold parseOutput
  rw [reportString_eq]
  constructor
  · intro h
    obtain ⟨read, hread, h⟩ := Scan.bind_eq_ok.mp h
    obtain ⟨status, hstatus, h⟩ := Scan.bind_eq_ok.mp h
    obtain ⟨value, hvalue, h⟩ := Scan.bind_eq_ok.mp h
    obtain ⟨summary, hsummary, h⟩ := Scan.bind_eq_ok.mp h
    obtain ⟨reason, hreason, h⟩ := Scan.bind_eq_ok.mp h
    obtain rfl := Except.ok.inj h
    rw [demand_ok, reportEnum_statuses, ← Except.ok.inj hread, bind_stringOf] at hstatus
    exact
      { status := hstatus
        value := optionalField_mayHave.mp ⟨value, hvalue, rfl⟩
        summary := optionalField_mayHave.mp ⟨summary, hsummary, rfl⟩
        reason := optionalText_ok.mp hreason }
  · rintro ⟨hstatus, hvalue, hsummary, hreason⟩
    obtain ⟨value, hread, hgetD⟩ := optionalField_mayHave.mpr hvalue
    obtain ⟨summary, hread', hgetD'⟩ := optionalField_mayHave.mpr hsummary
    refine Scan.bind_eq_ok.mpr ⟨_, rfl, Scan.bind_eq_ok.mpr ⟨output.status, ?_, ?_⟩⟩
    · rw [demand_ok, reportEnum_statuses, bind_stringOf]
      exact hstatus
    · refine Scan.bind_eq_ok.mpr ⟨value, hread, Scan.bind_eq_ok.mpr ⟨summary, hread', ?_⟩⟩
      refine Scan.bind_eq_ok.mpr ⟨output.reason, optionalText_ok.mpr hreason, ?_⟩
      rw [hgetD, hgetD']

theorem addOutput_ok {outputs outputs' : List (Bytes × EvaluationOutput)} {item : Bytes × Value} :
    addOutput outputs item = .ok outputs' ↔
      ∃ entry : Bytes × EvaluationOutput, (item.1 = entry.1 ∧ OutputPayload item.2 entry.2) ∧
        outputs' = SortedMap.emplace keyBefore entry.1 entry.2 outputs := by
  unfold addOutput
  rw [Scan.bind_eq_ok]
  constructor
  · rintro ⟨output, houtput, h⟩
    exact ⟨(item.1, output), ⟨rfl, parseOutput_ok.mp houtput⟩, (Except.ok.inj h).symm⟩
  · rintro ⟨⟨key, output⟩, ⟨hkey, houtput⟩, rfl⟩
    obtain rfl : item.1 = key := hkey
    exact ⟨output, parseOutput_ok.mpr houtput, rfl⟩

/-- The entries of a bundle that a member of the document has, in its order. -/
theorem inputs_ok {requestedNs : Int64} {members : List (Bytes × Value)}
    {resolved : List (Bytes × Int64)} {newest : Option Int64}
    (hsorted : (members.map Prod.fst).Pairwise (· < ·)) :
    members.foldlM (addInput requestedNs) ([], none) = .ok (resolved, newest) ↔
      List.Forall₂ (fun member entry => member.1 = entry.1 ∧ Nanoseconds member.2 entry.2) members
          resolved ∧
        (∀ entry ∈ resolved, entry.2 ≤ requestedNs) ∧ newest = newestOf none resolved := by
  rw [Scan.foldlM_ok_iff (f := addInput requestedNs) fun _ _ _ _ => addInput_ok]
  constructor
  · rintro ⟨entries, hrelated, heq⟩
    have hkeys := hrelated.imp fun _ _ h => h.1
    rw [foldl_putInput [] (ascending_of_keys hsorted hkeys)] at heq
    obtain ⟨rfl, rfl⟩ := Prod.mk.inj heq
    refine ⟨hkeys, fun entry hentry => ?_, rfl⟩
    obtain ⟨_, -, hone⟩ := Scan.exists_of_forall₂_right hrelated hentry
    exact hone.2
  · rintro ⟨hkeys, hle, rfl⟩
    refine ⟨resolved, ?_, ?_⟩
    · exact List.forall₂_iff_zip.mpr ⟨hkeys.length_eq, fun hmem =>
        ⟨(List.forall₂_iff_zip.mp hkeys).2 hmem, hle _ (List.of_mem_zip hmem).2⟩⟩
    · rw [foldl_putInput [] (ascending_of_keys hsorted hkeys)]
      rfl

theorem outputs_ok {members : List (Bytes × Value)} {outputs : List (Bytes × EvaluationOutput)}
    (hsorted : (members.map Prod.fst).Pairwise (· < ·)) :
    members.foldlM addOutput [] = .ok outputs ↔
      List.Forall₂ (fun member entry => member.1 = entry.1 ∧ OutputPayload member.2 entry.2) members
        outputs := by
  rw [Scan.foldlM_ok_iff (f := addOutput) fun _ _ _ _ => addOutput_ok]
  have hfold (entries : List (Bytes × EvaluationOutput))
      (hrelated : List.Forall₂ (fun member entry => member.1 = entry.1 ∧
        OutputPayload member.2 entry.2)
        members entries) :
      entries.foldl (fun map entry => SortedMap.emplace keyBefore entry.1 entry.2 map) [] =
        entries :=
    show _ = [] ++ entries from
      SortedMap.foldl_emplace Ranking.decisive_bytes (ascending_of_keys hsorted hrelated)
  constructor
  · rintro ⟨entries, hrelated, rfl⟩
    rw [hfold entries hrelated]
    exact hrelated
  · exact fun h => ⟨outputs, h, (hfold outputs h).symm⟩

/-! ## Bundles, coverage and the report -/

theorem has_members {α : Type} {object : Value} {key : String} {payload : Value → α → Prop}
    {entries : List (Bytes × α)} :
    Has object key (MembersAre payload entries) ↔
      ∃ members, object.find key = some (.object members) ∧
        List.Forall₂ (fun member entry => member.1 = entry.1 ∧ payload member.2 entry.2) members
          entries := by
  constructor
  · rintro ⟨value, hfind, members, rfl, hall⟩
    exact ⟨members, hfind, hall⟩
  · rintro ⟨members, hfind, hall⟩
    exact ⟨.object members, hfind, members, rfl, hall⟩

theorem has_elements {α : Type} {object : Value} {key : String} {payload : Value → α → Prop}
    {items : List α} :
    Has object key (ElementsAre payload items) ↔
      ∃ values, object.find key = some (.array values) ∧ List.Forall₂ payload values items := by
  constructor
  · rintro ⟨value, hfind, values, rfl, hall⟩
    exact ⟨values, hfind, hall⟩
  · rintro ⟨values, hfind, hall⟩
    exact ⟨.array values, hfind, values, rfl, hall⟩

theorem parseBundle_ok {encoded : Value} (hsorted : encoded.KeySorted) {bundle : EvaluationBundle} :
    parseBundle encoded = .ok bundle ↔ BundlePayload encoded bundle := by
  unfold parseBundle
  rw [reportInt64Member_eq]
  constructor
  · intro h
    obtain ⟨read, hread, h⟩ := Scan.bind_eq_ok.mp h
    obtain ⟨requestedNs, hrequested, h⟩ := Scan.bind_eq_ok.mp h
    obtain ⟨inputs, hinputs, h⟩ := Scan.bind_eq_ok.mp h
    obtain ⟨outputs, houtputs, h⟩ := Scan.bind_eq_ok.mp h
    obtain ⟨⟨resolved, newest⟩, hresolved, h⟩ := Scan.bind_eq_ok.mp h
    obtain ⟨parsed, hparsed, h⟩ := Scan.bind_eq_ok.mp h
    obtain rfl := Except.ok.inj h
    rw [demand_ok, bind_membersOf] at hinputs houtputs
    rw [← Except.ok.inj hread, demand_ok, bind_signed] at hrequested
    obtain ⟨hkeys, hle, hnewest⟩ := (inputs_ok (keySorted_of_find hinputs hsorted).1).mp hresolved
    rw [outputs_ok (keySorted_of_find houtputs hsorted).1] at hparsed
    exact
      { requestedNs := hrequested
        inputs := has_members.mpr ⟨inputs, hinputs, hkeys⟩
        resolved := hle
        stampNs := newest_iff.mpr (by rw [hnewest])
        outputs := has_members.mpr ⟨outputs, houtputs, hparsed⟩ }
  · rintro ⟨hrequested, hinputs, hle, hstamp, houtputs⟩
    obtain ⟨inputs, hfind, hkeys⟩ := has_members.mp hinputs
    obtain ⟨outputs, hfind', hparsed⟩ := has_members.mp houtputs
    refine Scan.bind_eq_ok.mpr ⟨_, rfl, Scan.bind_eq_ok.mpr ⟨bundle.requestedNs, ?_, ?_⟩⟩
    · rw [demand_ok, bind_signed]
      exact hrequested
    refine Scan.bind_eq_ok.mpr ⟨inputs, demand_ok.mpr (bind_membersOf.mpr hfind), ?_⟩
    refine Scan.bind_eq_ok.mpr ⟨outputs, demand_ok.mpr (bind_membersOf.mpr hfind'), ?_⟩
    refine Scan.bind_eq_ok.mpr ⟨(bundle.inputs, newestOf none bundle.inputs), ?_, ?_⟩
    · exact (inputs_ok (keySorted_of_find hfind hsorted).1).mpr ⟨hkeys, hle, rfl⟩
    · refine Scan.bind_eq_ok.mpr
        ⟨bundle.outputs, (outputs_ok (keySorted_of_find hfind' hsorted).1).mpr hparsed, ?_⟩
      rw [← newest_iff.mp hstamp]

theorem parseInferred_ok {encoded : Value} {output : DataProcessorOutput} :
    parseInferred encoded = .ok output ↔ InferredPayload encoded output := by
  unfold parseInferred
  rw [reportString_eq, reportString_eq]
  constructor
  · intro h
    obtain ⟨nameRead, hnameRead, h⟩ := Scan.bind_eq_ok.mp h
    obtain ⟨typeRead, htypeRead, h⟩ := Scan.bind_eq_ok.mp h
    obtain ⟨name, hname, h⟩ := Scan.bind_eq_ok.mp h
    obtain ⟨type, htype, h⟩ := Scan.bind_eq_ok.mp h
    obtain ⟨_, hknown, h⟩ := Scan.bind_eq_ok.mp h
    obtain rfl := Except.ok.inj h
    rw [← Except.ok.inj hnameRead, demand_ok, bind_stringOf] at hname
    rw [← Except.ok.inj htypeRead, demand_ok, bind_stringOf] at htype
    exact ⟨hname, htype, Bool.eq_true_of_not_eq_false (refuseIf_ok.mp hknown)⟩
  · rintro ⟨hname, htype, hknown⟩
    rw [hname, htype]
    refine Scan.bind_eq_ok.mpr ⟨_, rfl, Scan.bind_eq_ok.mpr ⟨_, rfl, ?_⟩⟩
    refine Scan.bind_eq_ok.mpr ⟨output.name, rfl, Scan.bind_eq_ok.mpr ⟨output.type, rfl, ?_⟩⟩
    exact Scan.bind_eq_ok.mpr
      ⟨(), refuseIf_ok.mpr fun hfalse => Bool.false_ne_true (hfalse.symm.trans hknown), rfl⟩

theorem parseInferredOutputs_ok {doc : Value} {outputs : List DataProcessorOutput} :
    parseInferredOutputs doc = .ok outputs ↔
      doc.find "outputs" = none ∧ outputs = [] ∨
        Has doc "outputs" (ElementsAre InferredPayload outputs) := by
  rw [has_elements, parseInferredOutputs]
  cases doc.find "outputs" with
  | none =>
    constructor
    · exact fun h => .inl ⟨rfl, (Except.ok.inj h).symm⟩
    · rintro (⟨-, rfl⟩ | ⟨_, hfind, -⟩)
      · rfl
      · cases hfind
  | some inferred =>
    dsimp only
    rw [Scan.bind_eq_ok]
    constructor
    · rintro ⟨entries, hentries, hall⟩
      obtain rfl := elementsIn_iff.mp (demand_ok.mp hentries)
      exact .inr ⟨entries, rfl, (Scan.mapM_related_iff fun _ _ _ => parseInferred_ok).mp hall⟩
    · rintro (⟨hnone, -⟩ | ⟨entries, hfind, hall⟩)
      · cases hnone
      · obtain rfl := Option.some.inj hfind
        exact ⟨entries, rfl, (Scan.mapM_related_iff fun _ _ _ => parseInferred_ok).mpr hall⟩

/-- A count that is checked and then read. -/
theorem filter_unsigned {object value : Value} {key : String} :
    (object.find key).filter isNumberUnsigned = some value ↔
      ∃ count, value = .unsigned count ∧ object.find key = some (.unsigned count) := by
  rw [Option.filter_eq_some_iff]
  constructor
  · rintro ⟨hfind, his⟩
    cases value with
    | unsigned count => exact ⟨count, rfl, hfind⟩
    | _ => cases his
  · rintro ⟨count, rfl, hfind⟩
    exact ⟨hfind, rfl⟩

/-- What a coverage object says, and nothing else, is in the report that is read of it. -/
theorem parseCoverage_ok {encoded : Value} {report : EvaluationReport} :
    parseCoverage encoded = .ok report ↔
      CoveragePayload encoded report ∧ report.bundles = [] ∧ report.inferredOutputs = [] := by
  unfold parseCoverage
  rw [reportString_eq]
  constructor
  · intro h
    obtain ⟨candidatesValue, hcandidates, h⟩ := Scan.bind_eq_ok.mp h
    obtain ⟨evaluatedValue, hevaluated, h⟩ := Scan.bind_eq_ok.mp h
    rw [demand_ok, filter_unsigned] at hcandidates hevaluated
    obtain ⟨candidates, rfl, hcandidates⟩ := hcandidates
    obtain ⟨evaluated, rfl, hevaluated⟩ := hevaluated
    obtain ⟨candidates', hread, h⟩ := Scan.bind_eq_ok.mp h
    obtain rfl := Except.ok.inj hread
    obtain ⟨evaluated', hread', h⟩ := Scan.bind_eq_ok.mp h
    obtain rfl := Except.ok.inj hread'
    obtain ⟨_, hbounded, h⟩ := Scan.bind_eq_ok.mp h
    obtain ⟨stopRead, hstopRead, h⟩ := Scan.bind_eq_ok.mp h
    obtain ⟨stopped, hstopped, h⟩ := Scan.bind_eq_ok.mp h
    obtain ⟨_, hpresent, h⟩ := Scan.bind_eq_ok.mp h
    obtain ⟨error, herror, h⟩ := Scan.bind_eq_ok.mp h
    obtain ⟨gapValues, hgapValues, h⟩ := Scan.bind_eq_ok.mp h
    obtain ⟨gaps, hgaps, h⟩ := Scan.bind_eq_ok.mp h
    obtain rfl := Except.ok.inj h
    rw [demand_ok, reportEnum_stops, ← Except.ok.inj hstopRead, bind_stringOf] at hstopped
    rw [demand_ok, bind_elementsIn] at hgapValues
    have hsame := Decidable.not_not.mp (refuseIf_ok.mp hpresent)
    refine ⟨?_, rfl, rfl⟩
    exact
      { candidates := hcandidates
        evaluated := hevaluated
        bounded := UInt64.not_lt.mp (refuseIf_ok.mp hbounded)
        stopped := hstopped
        present := by rw [hsame, decide_eq_true_iff]
        error := optionalText_ok.mp herror
        gaps := has_elements.mpr
          ⟨gapValues, hgapValues, (Scan.mapM_related_iff fun _ _ _ => parseGap_ok).mp hgaps⟩ }
  · rintro ⟨⟨hcandidates, hevaluated, hbounded, hstopped, hpresent, herror, hgaps⟩, hbundles,
      houtputs⟩
    obtain ⟨gapValues, hgapValues, hgaps⟩ := has_elements.mp hgaps
    have hpresent' : encoded.contains "error" = decide (report.stopped = .error) := by
      rw [Bool.eq_iff_iff, decide_eq_true_iff]
      exact hpresent
    refine Scan.bind_eq_ok.mpr ⟨_, demand_ok.mpr (filter_unsigned.mpr ⟨_, rfl, hcandidates⟩), ?_⟩
    refine Scan.bind_eq_ok.mpr ⟨_, demand_ok.mpr (filter_unsigned.mpr ⟨_, rfl, hevaluated⟩), ?_⟩
    refine Scan.bind_eq_ok.mpr ⟨_, rfl, Scan.bind_eq_ok.mpr ⟨_, rfl, ?_⟩⟩
    refine Scan.bind_eq_ok.mpr ⟨(), refuseIf_ok.mpr (UInt64.not_lt.mpr hbounded), ?_⟩
    refine Scan.bind_eq_ok.mpr ⟨_, rfl, Scan.bind_eq_ok.mpr ⟨report.stopped, ?_, ?_⟩⟩
    · rw [demand_ok, reportEnum_stops, bind_stringOf]
      exact hstopped
    refine Scan.bind_eq_ok.mpr ⟨(), refuseIf_ok.mpr (not_not_intro hpresent'), ?_⟩
    refine Scan.bind_eq_ok.mpr ⟨report.error, optionalText_ok.mpr herror, ?_⟩
    refine Scan.bind_eq_ok.mpr ⟨gapValues, demand_ok.mpr (bind_elementsIn.mpr hgapValues), ?_⟩
    refine Scan.bind_eq_ok.mpr
      ⟨report.gaps, (Scan.mapM_related_iff fun _ _ _ => parseGap_ok).mpr hgaps, ?_⟩
    rw [← hbundles, ← houtputs]

/-! ## No exceptions -/

/-- An error with a text, and not an exception. -/
def Refused (failure : ReportFailure) : Prop := ∃ reason, failure = .refused reason

theorem demand_fails {α : Type} (reason : Bytes) (read : Option α) :
    Scan.Fails Refused (demand reason read) := by
  cases read with
  | none => exact Scan.Fails.error ⟨reason, rfl⟩
  | some value => exact Scan.Fails.ok value

theorem refuseIf_fails (bad : Prop) [Decidable bad] (reason : Bytes) :
    Scan.Fails Refused (refuseIf bad reason) :=
  Scan.Fails.ite (fun _ => Scan.Fails.error ⟨reason, rfl⟩) fun _ => Scan.Fails.ok ()

theorem reportInt64Member_fails (key : String) (object : Value) :
    Scan.Fails Refused (reportInt64Member key object) := by
  rw [reportInt64Member_eq]
  exact Scan.Fails.ok _

theorem reportString_fails (key : String) (object : Value) :
    Scan.Fails Refused (reportString key object) := by
  rw [reportString_eq]
  exact Scan.Fails.ok _

theorem optionalField_fails (key : String) (is : Value → Bool) (reason : Bytes) (object : Value) :
    Scan.Fails Refused (optionalField key is reason object) := by
  unfold optionalField
  cases object.find key with
  | none => exact Scan.Fails.ok _
  | some value => exact Scan.Fails.ite (fun _ => Scan.Fails.ok _) fun _ => Scan.Fails.error ⟨reason, rfl⟩

/-- The reference is taken of a text only. -/
theorem optionalText_fails (key : String) (reason : Bytes) (object : Value) :
    Scan.Fails Refused (optionalText key reason object) := by
  refine (optionalField_fails key isString reason object).bind fun read hread => ?_
  obtain ⟨-, his⟩ := optionalField_ok.mp hread
  cases read with
  | none => exact Scan.Fails.ok _
  | some value =>
    cases value with
    | string content => exact Scan.Fails.ok content
    | _ => cases his _ rfl

theorem parseGap_fails (gap : Value) : Scan.Fails Refused (parseGap gap) := by
  refine (reportInt64Member_fails "from_ns" gap).bind fun _ _ => ?_
  refine (reportInt64Member_fails "to_ns" gap).bind fun _ _ => ?_
  refine (demand_fails _ _).bind fun _ _ => (demand_fails _ _).bind fun _ _ => ?_
  exact Scan.Fails.ok _

theorem addInput_fails (requestedNs : Int64) (state : List (Bytes × Int64) × Option Int64)
    (input : Bytes × Value) : Scan.Fails Refused (addInput requestedNs state input) := by
  unfold addInput
  rw [reportInt64_eq]
  refine (Scan.Fails.ok _).bind fun _ _ => (demand_fails _ _).bind fun _ _ => ?_
  exact (refuseIf_fails _ _).bind fun _ _ => Scan.Fails.ok _

theorem parseOutput_fails (name : Bytes) (fields : Value) :
    Scan.Fails Refused (parseOutput name fields) := by
  refine (reportString_fails "status" fields).bind fun _ _ => (demand_fails _ _).bind fun _ _ => ?_
  refine (optionalField_fails _ _ _ fields).bind fun _ _ => ?_
  refine (optionalField_fails _ _ _ fields).bind fun _ _ => ?_
  exact (optionalText_fails _ _ fields).bind fun _ _ => Scan.Fails.ok _

theorem parseBundle_fails (entry : Value) : Scan.Fails Refused (parseBundle entry) := by
  refine (reportInt64Member_fails "requested_ns" entry).bind fun _ _ => ?_
  refine (demand_fails _ _).bind fun requestedNs _ => ?_
  refine (demand_fails _ _).bind fun inputs _ => (demand_fails _ _).bind fun outputs _ => ?_
  refine (Scan.Fails.foldlM (fun input _ state => addInput_fails requestedNs state input) _).bind
    fun _ _ => ?_
  refine (Scan.Fails.foldlM (fun item _ state => ?_) _).bind fun _ _ => Scan.Fails.ok _
  exact (parseOutput_fails item.1 item.2).bind fun _ _ => Scan.Fails.ok _

theorem parseInferred_fails (entry : Value) : Scan.Fails Refused (parseInferred entry) := by
  refine (reportString_fails "name" entry).bind fun _ _ => ?_
  refine (reportString_fails "type" entry).bind fun _ _ => ?_
  refine (demand_fails _ _).bind fun _ _ => (demand_fails _ _).bind fun _ _ => ?_
  exact (refuseIf_fails _ _).bind fun _ _ => Scan.Fails.ok _

theorem parseInferredOutputs_fails (doc : Value) :
    Scan.Fails Refused (parseInferredOutputs doc) := by
  unfold parseInferredOutputs
  cases doc.find "outputs" with
  | none => exact Scan.Fails.ok _
  | some inferred =>
    exact (demand_fails _ _).bind fun _ _ => Scan.Fails.mapM fun entry _ =>
      parseInferred_fails entry

/-- The counts are read of unsigned integers only. -/
theorem parseCoverage_fails (coverage : Value) : Scan.Fails Refused (parseCoverage coverage) := by
  refine (demand_fails _ _).bind fun candidates hcandidates => ?_
  refine (demand_fails _ _).bind fun evaluated hevaluated => ?_
  obtain ⟨count, rfl, -⟩ := filter_unsigned.mp (demand_ok.mp hcandidates)
  obtain ⟨count', rfl, -⟩ := filter_unsigned.mp (demand_ok.mp hevaluated)
  refine (Scan.Fails.ok count).bind fun _ _ => (Scan.Fails.ok count').bind fun _ _ => ?_
  refine (refuseIf_fails _ _).bind fun _ _ => ?_
  refine (reportString_fails "stopped" coverage).bind fun _ _ =>
    (demand_fails _ _).bind fun _ _ => ?_
  refine (refuseIf_fails _ _).bind fun _ _ => (optionalText_fails _ _ coverage).bind fun _ _ => ?_
  refine (demand_fails _ _).bind fun _ _ => ?_
  exact (Scan.Fails.mapM fun gap _ => parseGap_fails gap).bind fun _ _ => Scan.Fails.ok _

theorem parseEvaluationReport_fails (parse : Bytes → Option Value) (json : Bytes) :
    Scan.Fails Refused (parseEvaluationReport parse json) := by
  refine (refuseIf_fails _ _).bind fun _ _ => (demand_fails _ _).bind fun doc _ => ?_
  refine (demand_fails _ _).bind fun coverage _ => (demand_fails _ _).bind fun bundles _ => ?_
  refine (parseCoverage_fails coverage).bind fun report _ => ?_
  refine (Scan.Fails.mapM fun entry _ => parseBundle_fails entry).bind fun _ _ => ?_
  refine (refuseIf_fails _ _).bind fun _ _ => ?_
  exact (parseInferredOutputs_fails doc).bind fun _ _ => Scan.Fails.ok _

/-! ## What is accepted -/

theorem isObject_of_find {object value : Value} {key : String} (h : object.find key = some value) :
    object.isObject = true := by
  cases object with
  | object members => rfl
  | _ => cases h

theorem parseEvaluationReport_ok {parse : Bytes → Option Value} {json : Bytes}
    (hparse : ∀ text doc, parse text = some doc → doc.KeySorted) {report : EvaluationReport} :
    parseEvaluationReport parse json = .ok report ↔
      0 ∉ json ∧ ∃ doc, parse json = some doc ∧ ReportPayload doc report := by
  unfold parseEvaluationReport
  constructor
  · intro h
    -- the checks in the order of the parser; the coverage is parsed without its lists
    obtain ⟨_, hnul, h⟩ := Scan.bind_eq_ok.mp h
    obtain ⟨doc, hdoc, h⟩ := Scan.bind_eq_ok.mp h
    obtain ⟨coverage, hcoverage, h⟩ := Scan.bind_eq_ok.mp h
    obtain ⟨values, hvalues, h⟩ := Scan.bind_eq_ok.mp h
    obtain ⟨covered, hcovered, h⟩ := Scan.bind_eq_ok.mp h
    obtain ⟨bundles, hbundles, h⟩ := Scan.bind_eq_ok.mp h
    obtain ⟨_, hcount, h⟩ := Scan.bind_eq_ok.mp h
    obtain ⟨inferred, hinferred, h⟩ := Scan.bind_eq_ok.mp h
    obtain rfl := Except.ok.inj h
    rw [demand_ok, Option.filter_eq_some_iff] at hdoc hcoverage
    rw [demand_ok, bind_elementsIn] at hvalues
    -- the objects inside are sorted as the document is
    have hsorted : KeySortedAll values := keySorted_of_find hvalues (hparse json doc hdoc.1)
    obtain ⟨hpayload, -, -⟩ := parseCoverage_ok.mp hcovered
    refine ⟨refuseIf_ok.mp hnul, doc, hdoc.1, ?_⟩
    exact
      { coverage := ⟨coverage, hcoverage.1, { hpayload with }⟩
        bundles := has_elements.mpr ⟨values, hvalues, (Scan.mapM_related_iff fun value hvalue _ =>
          parseBundle_ok (keySorted_of_mem hvalue hsorted)).mp hbundles⟩
        evaluated := Decidable.not_not.mp (refuseIf_ok.mp hcount)
        outputs := parseInferredOutputs_ok.mp hinferred }
  · rintro ⟨hnul, doc, hdoc, ⟨coverage, hfind, hpayload⟩, hbundles, hcount, hinferred⟩
    obtain ⟨values, hvalues, hbundles⟩ := has_elements.mp hbundles
    have hsorted : KeySortedAll values := keySorted_of_find hvalues (hparse json doc hdoc)
    refine Scan.bind_eq_ok.mpr ⟨(), refuseIf_ok.mpr hnul, Scan.bind_eq_ok.mpr ⟨doc, ?_, ?_⟩⟩
    · rw [demand_ok, Option.filter_eq_some_iff]
      exact ⟨hdoc, isObject_of_find hfind⟩
    refine Scan.bind_eq_ok.mpr ⟨coverage, ?_, ?_⟩
    · rw [demand_ok, Option.filter_eq_some_iff]
      exact ⟨hfind, isObject_of_find hpayload.candidates⟩
    refine Scan.bind_eq_ok.mpr ⟨values, demand_ok.mpr (bind_elementsIn.mpr hvalues), ?_⟩
    refine Scan.bind_eq_ok.mpr ⟨{ report with bundles := [], inferredOutputs := [] }, ?_, ?_⟩
    · exact parseCoverage_ok.mpr ⟨{ hpayload with }, rfl, rfl⟩
    refine Scan.bind_eq_ok.mpr ⟨report.bundles, ?_, ?_⟩
    · exact (Scan.mapM_related_iff fun value hvalue _ =>
        parseBundle_ok (keySorted_of_mem hvalue hsorted)).mpr hbundles
    refine Scan.bind_eq_ok.mpr ⟨(), refuseIf_ok.mpr (not_not_intro hcount), ?_⟩
    exact Scan.bind_eq_ok.mpr ⟨report.inferredOutputs, parseInferredOutputs_ok.mpr hinferred, rfl⟩

theorem ReportPayload.coherent {doc : Value} {report : EvaluationReport}
    (h : ReportPayload doc report) :
    Coherent report := by
  obtain ⟨⟨coverage, -, hcoverage⟩, hbundles, hevaluated, -⟩ := h
  obtain ⟨values, -, hbundles⟩ := has_elements.mp hbundles
  have hbundle (bundle : EvaluationBundle) (hmem : bundle ∈ report.bundles) :
      ∃ value, BundlePayload value bundle := by
    obtain ⟨value, -, hpayload⟩ := Scan.exists_of_forall₂_right hbundles hmem
    exact ⟨value, hpayload⟩
  refine ⟨hevaluated, hcoverage.bounded, ?_, ?_, ?_⟩
  · intro hne
    rcases hcoverage.error with ⟨-, hnil⟩ | hfind
    · exact absurd hnil hne
    · refine hcoverage.present.mp ?_
      rw [Value.contains, hfind]
      rfl
  · intro bundle hmem
    obtain ⟨value, hpayload⟩ := hbundle bundle hmem
    exact hpayload.resolved
  · intro bundle hmem
    obtain ⟨value, hpayload⟩ := hbundle bundle hmem
    exact hpayload.stampNs

/-- Nothing throws, the documents of reports are accepted and no others, and what is accepted is
coherent. -/
theorem parseEvaluationReport_iff (parse : Bytes → Option Value)
    (hparse : ∀ text doc, parse text = some doc → doc.KeySorted) (json : Bytes) :
    (∀ id, parseEvaluationReport parse json ≠ .error (.thrown id)) ∧
      ∀ report,
        (parseEvaluationReport parse json = .ok report ↔
          0 ∉ json ∧ ∃ doc, parse json = some doc ∧ ReportPayload doc report) ∧
        (parseEvaluationReport parse json = .ok report → Coherent report) := by
  refine ⟨fun id h => ?_, fun report => ⟨parseEvaluationReport_ok hparse, fun h => ?_⟩⟩
  · obtain ⟨reason, hreason⟩ := parseEvaluationReport_fails parse json _ h
    cases hreason
  · obtain ⟨-, doc, -, hpayload⟩ := (parseEvaluationReport_ok hparse).mp h
    exact hpayload.coherent

/-- A report with one bundle, as text, as document and as it is read. -/
def sampleText : Bytes :=
  text "\x7b\"bundles\":[\x7b\"inputs\":\x7b\"a\":-5\x7d,\"outputs\":\x7b\x7d,\"requested_ns\":7\x7d],"
    ++ text "\"coverage\":\x7b\"candidates\":2,\"evaluated\":1,\"gaps\":[],\"stopped\":\"cancelled\"\x7d\x7d"

def sampleDocument : Value :=
  fields
    [("bundles", .array [fields [("inputs", fields [("a", .integer (-5))]), ("outputs", fields []),
        ("requested_ns", .unsigned 7)]]),
      ("coverage", fields
        [("candidates", .unsigned 2), ("evaluated", .unsigned 1), ("gaps", .array []),
        ("stopped", .string (text "cancelled"))])]

def sampleReport : EvaluationReport where
  candidates := 2
  evaluated := 1
  stopped := .cancelled
  bundles := [{ requestedNs := 7, stampNs := -5, inputs := [(text "a", -5)] }]

/-- A library that has read this text before. -/
def sampleParse (json : Bytes) : Option Value :=
  if json = sampleText then some sampleDocument else none

theorem sampleDocument_sorted : sampleDocument.KeySorted := by
  refine ⟨by decide,
    ⟨⟨by decide, ⟨by decide, trivial, trivial⟩, ⟨by decide, trivial⟩, trivial, trivial⟩,
    trivial⟩, ⟨by decide, trivial, trivial, trivial, trivial, trivial⟩, trivial⟩

theorem sampleReport_coherent :
    parseEvaluationReport sampleParse sampleText = .ok sampleReport ∧ Coherent sampleReport := by
  have hread : parseEvaluationReport sampleParse sampleText = .ok sampleReport := rfl
  have hparse : ∀ text doc, sampleParse text = some doc → doc.KeySorted := by
    intro text doc h
    rw [sampleParse] at h
    split at h
    · rw [← Option.some.inj h]
      exact sampleDocument_sorted
    · cases h
  exact ⟨hread, ((parseEvaluationReport_iff sampleParse hparse sampleText).2 sampleReport).2 hread⟩

end Source

end PlotJugglerSdk
