import PlotJugglerSdk.Dialog.WidgetDataView
import PlotJugglerSdk.Json.Sameness
import PlotJugglerSdk.Scan.Folds

/-!
# What the accessors accept

A reader of a dialog document takes its members apart with a few strict accessors. Here is what
each of them accepts, said of the JSON value and not of the way it is taken apart: a text, a
boolean, an array of texts, an integer of the type `int`, a member that may be missing.

* `asString_iff`, `asBool_iff`, `decodeStrictStringArray_iff` — values of one type
* `decodeInt_iff`   — an integer that fits
* `asWrappedInt_eq` — an integer that is narrowed
* `Defaulted`       — a member that may be missing
* `KeyPayload`      — a sort key, or none
* `decodeOnto_iff`  — an array that is decoded one element after the other
-/

namespace PlotJugglerSdk

namespace Dialog

open Wire Json Value WidgetEvent

/-! ## Values -/

theorem asString_iff {value : Value} {content : Bytes} :
    asString value = some content ↔ value = .string content := by
  cases value with
  | string other => exact ⟨fun h => congrArg _ (Option.some.inj h), fun h => by cases h; rfl⟩
  | _ => exact ⟨nofun, nofun⟩

theorem asBool_iff {value : Value} {flag : Bool} :
    asBool value = some flag ↔ value = .boolean flag := by
  cases value with
  | boolean other => exact ⟨fun h => congrArg _ (Option.some.inj h), fun h => by cases h; rfl⟩
  | _ => exact ⟨nofun, nofun⟩

theorem decodeStrictStringArray_iff {value : Value} {texts : List Bytes} :
    decodeStrictStringArray value = some texts ↔ value = strings texts := by
  constructor
  · intro h
    cases value with
    | array values =>
      have hall := Scan.mapM_some_iff.mp h
      show Value.array values = .array (texts.map .string)
      congr 1
      induction hall with
      | nil => rfl
      | cons hone _ ih => rw [asString_iff.mp hone, ih (Scan.mapM_some_iff.mpr ‹_›), List.map_cons]
    | _ => exact nomatch h
  · rintro rfl
    exact decodeStrictStringArray_strings texts

/-! ## Integers -/

theorem toInt32_toUInt32_eq (value : UInt64) :
    value.toUInt32.toInt32 = Int32.ofInt (value.toNat : Int) := by
  rw [Int32.ofInt_eq_ofNat]
  apply Int32.toBitVec_inj.mp
  apply BitVec.eq_of_toNat_eq
  show (BitVec.setWidth 32 value.toBitVec).toNat = (BitVec.ofNat 32 value.toNat).toNat
  rw [BitVec.toNat_setWidth, BitVec.toNat_ofNat]
  rfl

/-- `get<int>` narrows the number. -/
theorem asWrappedInt_eq (value : Value) : asWrappedInt value = value.integral.map Int32.ofInt := by
  cases value with
  | unsigned value => exact congrArg some (toInt32_toUInt32_eq value)
  | integer value => exact congrArg some (Int32.ofInt_int64ToInt value).symm
  | _ => rfl

/-- The number is one of the type `int`. -/
def FitsInt (number : Int) : Prop := -2 ^ 31 ≤ number ∧ number < 2 ^ 31

theorem toInt_ofInt_fits {number : Int} (h : FitsInt number) :
    (Int32.ofInt number).toInt = number :=
  Int32.toInt_ofInt_of_le h.1 h.2

theorem fitsInt_toInt (value : Int32) : FitsInt value.toInt := ⟨value.le_toInt, value.toInt_lt⟩

/-- `decodeInt` takes the numbers that fit, as they are. -/
theorem decodeInt_iff {value : Value} {n : Int32} :
    decodeInt value = some n ↔ value.integral = some n.toInt := by
  have hfits := fitsInt_toInt n
  have hofInt : Int32.ofInt n.toInt = n := Int32.ofInt_toInt n
  unfold FitsInt at hfits
  cases value with
  | unsigned value =>
    have hmax : (0x7FFFFFFF : UInt64).toNat = 2147483647 := by decide
    -- the limits are compared as machine numbers, the payload as an integer
    have hout : value > 0x7FFFFFFF ↔ 2147483647 < value.toNat := by
      rw [gt_iff_lt, UInt64.lt_iff_toNat_lt, hmax]
    rw [decodeInt, integral, toInt32_toUInt32_eq]
    split
    · rename_i h
      have hvalue := hout.mp h
      constructor
      · intro h
        cases h
      · intro h
        have heq := Option.some.inj h
        omega
    · rename_i h
      have hvalue : ¬ 2147483647 < value.toNat := fun hlt => h (hout.mpr hlt)
      rw [Option.some.injEq, Option.some.injEq]
      constructor
      · rintro rfl
        exact (toInt_ofInt_fits ⟨by omega, by omega⟩).symm
      · intro h
        rw [h, hofInt]
  | integer value =>
    have hmin : (-0x80000000 : Int64).toInt = -2147483648 := by decide
    have hmax : (0x7FFFFFFF : Int64).toInt = 2147483647 := by decide
    rw [decodeInt, integral, ← Int32.ofInt_int64ToInt]
    have hout : (value < -0x80000000 || value > 0x7FFFFFFF) = true ↔
        value.toInt < -2147483648 ∨ 2147483647 < value.toInt := by
      rw [Bool.or_eq_true, decide_eq_true_iff, decide_eq_true_iff, gt_iff_lt, Int64.lt_iff_toInt_lt,
        Int64.lt_iff_toInt_lt, hmin, hmax]
    split
    · rename_i h
      have hvalue := hout.mp h
      constructor
      · intro h
        cases h
      · intro h
        have heq := Option.some.inj h
        omega
    · rename_i h
      have hvalue : ¬ (value.toInt < -2147483648 ∨ 2147483647 < value.toInt) :=
        fun hor => h (hout.mpr hor)
      rw [Option.some.injEq, Option.some.injEq]
      constructor
      · rintro rfl
        exact (toInt_ofInt_fits ⟨by omega, by omega⟩).symm
      · intro h
        rw [h, hofInt]
  | _ =>
    constructor
    · intro h
      cases h
    · intro h
      cases h

/-! ## Members -/

section Members

variable {key : String} {object : Value}

theorem getString_iff {content : Bytes} :
    getString key object = some content ↔ object.find key = some (.string content) := by
  rw [getString, Option.bind_eq_some_iff]
  constructor
  · rintro ⟨value, hfind, hvalue⟩
    rw [hfind, asString_iff.mp hvalue]
  · exact fun h => ⟨_, h, rfl⟩

theorem getBool_iff {flag : Bool} :
    getBool key object = some flag ↔ object.find key = some (.boolean flag) := by
  rw [getBool, Option.bind_eq_some_iff]
  constructor
  · rintro ⟨value, hfind, hvalue⟩
    rw [hfind, asBool_iff.mp hvalue]
  · exact fun h => ⟨_, h, rfl⟩

theorem getInt_iff {n : Int32} :
    getInt key object = some n ↔ (object.find key).bind integral = some n.toInt := by
  rw [getInt, Option.bind_eq_some_iff, Option.bind_eq_some_iff]
  constructor
  · rintro ⟨value, hfind, hvalue⟩
    exact ⟨value, hfind, decodeInt_iff.mp hvalue⟩
  · rintro ⟨value, hfind, hvalue⟩
    exact ⟨value, hfind, decodeInt_iff.mpr hvalue⟩

theorem nonEmptyString_iff {content : Bytes} :
    nonEmptyString key object = some content ↔
      object.find key = some (.string content) ∧ content ≠ [] := by
  rw [nonEmptyString, Option.filter_eq_some_iff, getString_iff, Bool.not_eq_true',
    List.isEmpty_eq_false_iff]

theorem nonNegativeInt_iff {n : Int32} :
    nonNegativeInt key object = some n ↔ (object.find key).bind integral = some n.toInt ∧
      0 ≤ n := by
  rw [nonNegativeInt, Option.filter_eq_some_iff, getInt_iff, decide_eq_true_iff]

/-- A member that may be missing, and then has a default. -/
def Defaulted {α : Type} (object : Value) (key : String) (encode : α → Value) (default value : α) :
    Prop :=
  object.find key = some (encode value) ∨ object.find key = none ∧ value = default

theorem defaulted_iff {α : Type} {encode : α → Value} {decode : Value → Option α}
    (h : ∀ value content, decode value = some content ↔ value = encode content)
    {default content : α}
    {read : Option α} (hread : read = (object.find key).elim (some default) decode) :
    read = some content ↔ Defaulted object key encode default content := by
  rw [hread]
  unfold Defaulted
  cases object.find key with
  | none =>
    rw [Option.elim_none, Option.some.injEq]
    exact ⟨fun heq => .inr ⟨rfl, heq.symm⟩, fun hor => hor.elim nofun fun hand => hand.2.symm⟩
  | some value =>
    rw [Option.elim_some, h, Option.some.injEq]
    exact ⟨.inl, fun hor => hor.elim id nofun⟩

theorem optionalString_iff {content : Bytes} :
    optionalString key object = some content ↔ Defaulted object key .string [] content := by
  refine defaulted_iff (fun _ _ => asString_iff) ?_
  unfold optionalString
  cases object.find key <;> rfl

theorem optionalStringArray_iff {texts : List Bytes} :
    optionalStringArray key object = some texts ↔ Defaulted object key strings [] texts := by
  refine defaulted_iff (fun _ _ => decodeStrictStringArray_iff) ?_
  unfold optionalStringArray
  cases object.find key <;> rfl

end Members

/-! ## Sort keys -/

/-- A sort key as the number it is, or null for none. -/
inductive KeyPayload : Value → Option NumericValue → Prop
  | null : KeyPayload .null none
  | unsigned (value : UInt64) : KeyPayload (.unsigned value) (some (.uint64 value))
  | integer (value : Int64) : KeyPayload (.integer value) (some (.int64 value))
  | float (bits : F64) : KeyPayload (.float bits) (some (.double bits))

theorem decodeKey_iff {value : Value} {key : Option NumericValue} :
    decodeKey value = some key ↔ KeyPayload value key := by
  constructor
  · intro h
    cases value with
    | null => rw [← Option.some.inj h]; exact .null
    | unsigned value => rw [← Option.some.inj h]; exact .unsigned value
    | integer value => rw [← Option.some.inj h]; exact .integer value
    | float bits => rw [← Option.some.inj h]; exact .float bits
    | _ => exact nomatch h
  · intro h
    cases h <;> rfl

/-! ## Checks and loops -/

theorem require_ok {α : Type} {reason : Bytes} {read : Option α} {value : α} :
    require reason read = .ok value ↔ read = some value := by
  cases read with
  | none => exact ⟨nofun, nofun⟩
  | some other => exact ⟨fun h => congrArg some (Except.ok.inj h), fun h => congrArg _ (Option.some.inj h)⟩

theorem refuse_ok {bad : Prop} [Decidable bad] {reason : Bytes} {passed : Unit} :
    refuse bad reason = .ok passed ↔ ¬ bad := by
  unfold refuse
  split
  · exact ⟨nofun, fun h => absurd ‹bad› h⟩
  · exact ⟨fun _ => ‹¬ bad›, fun _ => rfl⟩

theorem asObject_iff {value object : Value} :
    asObject value = some object ↔ (∃ members, value = .object members) ∧ object = value := by
  cases value with
  | object members =>
    exact ⟨fun h => ⟨⟨members, rfl⟩, (Option.some.inj h).symm⟩, fun h => congrArg some h.2.symm⟩
  | _ => exact ⟨nofun, fun h => nomatch h.1.choose_spec⟩

theorem asArray_iff {value : Value} {values : List Value} :
    asArray value = some values ↔ value = .array values := by
  cases value with
  | array others => exact ⟨fun h => congrArg _ (Option.some.inj h), fun h => by cases h; rfl⟩
  | _ => exact ⟨nofun, nofun⟩

theorem bind_asArray_iff {read : Option Value} {values : List Value} :
    read.bind asArray = some values ↔ read = some (.array values) := by
  rw [Option.bind_eq_some_iff]
  constructor
  · rintro ⟨value, hread, hvalue⟩
    rw [hread, asArray_iff.mp hvalue]
  · exact fun h => ⟨_, h, rfl⟩

theorem decodeOptionalBool_iff {key : String} {default flag : Bool} {object : Value} :
    decodeOptionalBool key default object = some flag ↔
      Defaulted object key .boolean default flag := by
  refine defaulted_iff (fun _ _ => asBool_iff) ?_
  unfold decodeOptionalBool
  cases object.find key <;> rfl

/-- Each element is fresh beside those before it. -/
def Each {α : Type} (fresh : List α → α → Prop) : List α → List α → Prop
  | _, [] => True
  | before, item :: items => fresh before item ∧ Each fresh (before ++ [item]) items

/-- A loop that decodes an array, by what it accepts of one element. -/
theorem decodeOnto_iff {α : Type} {decode : List α → Value → Except Bytes α}
    {payload : Value → α → Prop} {fresh : List α → α → Prop}
    (h : ∀ before value item, decode before value = .ok item ↔ payload value item ∧ fresh before item)
    {decoded all : List α} {values : List Value} :
    decodeOnto decode decoded values = .ok all ↔
      ∃ items, all = decoded ++ items ∧ List.Forall₂ payload values items ∧
        Each fresh decoded items := by
  induction values generalizing decoded with
  | nil =>
    rw [decodeOnto]
    constructor
    · intro heq
      exact ⟨[], by rw [List.append_nil]; exact (Except.ok.inj heq).symm, .nil, trivial⟩
    · rintro ⟨items, rfl, hall, -⟩
      cases hall
      rw [List.append_nil]
  -- what was decoded before is part of the statement: an item may be refused for it
  | cons value values ih =>
    rw [decodeOnto, Scan.bind_eq_ok]
    constructor
    · rintro ⟨item, hitem, hrest⟩
      obtain ⟨hpayload, hfresh⟩ := (h decoded value item).mp hitem
      obtain ⟨items, rfl, hall, heach⟩ := ih.mp hrest
      exact ⟨item :: items, by rw [List.append_assoc]; rfl, .cons hpayload hall, hfresh, heach⟩
    · rintro ⟨items, rfl, hall, heach⟩
      cases hall with
      | cons hpayload hall =>
        rename_i item items
        refine ⟨item, (h decoded value item).mpr ⟨hpayload, heach.1⟩,
          ih.mpr ⟨items, ?_, hall, heach.2⟩⟩
        rw [List.append_assoc]
        rfl

/-- Where nothing has to be fresh. -/
theorem each_true {α : Type} (before items : List α) : Each (fun _ _ => True) before items := by
  induction items generalizing before with
  | nil => trivial
  | cons item items ih => exact ⟨trivial, ih _⟩

/-- Elements that have to be good, and different from those before by what names them. -/
theorem each_named_iff {α κ : Type} {good : α → Prop} {name : α → κ} {before items : List α} :
    Each (fun before item => good item ∧ ∀ other ∈ before, name other ≠ name item) before items ↔
      (∀ item ∈ items, good item) ∧
        (∀ item ∈ items, ∀ other ∈ before, name other ≠ name item) ∧ (items.map name).Nodup := by
  induction items generalizing before with
  | nil => exact ⟨fun _ => ⟨nofun, nofun, List.nodup_nil⟩, fun _ => trivial⟩
  | cons item items ih =>
    rw [Each, ih, List.map_cons, List.nodup_cons, List.forall_mem_cons, List.forall_mem_cons]
    constructor
    · rintro ⟨⟨hgood, hnew⟩, hall, hothers, hnodup⟩
      refine ⟨⟨hgood, hall⟩, ⟨hnew, fun next hnext other hother => ?_⟩, ?_, hnodup⟩
      · exact hothers next hnext other (List.mem_append_left _ hother)
      · rintro hmem
        obtain ⟨next, hnext, hname⟩ := List.mem_map.mp hmem
        exact hothers next hnext item (List.mem_append_right _ (List.mem_singleton.mpr rfl))
          hname.symm
    · rintro ⟨⟨hgood, hall⟩, ⟨hnew, hothers⟩, hfirst, hnodup⟩
      refine ⟨⟨hgood, hnew⟩, hall, fun next hnext other hother => ?_, hnodup⟩
      rcases List.mem_append.mp hother with hother | hother
      · exact hothers next hnext other hother
      · rw [List.mem_singleton.mp hother]
        exact fun hname => hfirst (List.mem_map.mpr ⟨next, hnext, hname.symm⟩)

end Dialog

end PlotJugglerSdk
