import Mathlib.Data.Rat.Cast.Defs
import PlotJugglerSdk.Dialog.TableDeltas
import PlotJugglerSdk.Dialog.WidgetTexts

/-!
# Sort keys

Typed rows travel as their texts, with a member for each column that has keys. A key arrives as
the number it was, and as none where it was no finite number. A column is told by its number, an
`int` on the reading side.

* `SameKey`       — a key that is read, beside the one that was sent
* `ColumnsArrive` — the columns that are read, beside the rows that were sent
* `tableColumns_arrive`, `appendValues_arrive` — a table, and the rows that a delta appends
-/

namespace PlotJugglerSdk

namespace Dialog

open Wire Json Lexing Value WidgetEvent

/-! ## Keys -/

/-- The number that a key is; an infinity is none, nor is what is not a number. -/
def NumericValue.number : NumericValue → Option ℚ
  | float bits => Binary.single bits
  | double bits => Binary.double bits
  | int8 value => some value.toInt
  | int16 value => some value.toInt
  | int32 value => some value.toInt
  | int64 value => some value.toInt
  | uint8 value => some value.toNat
  | uint16 value => some value.toNat
  | uint32 value => some value.toNat
  | uint64 value => some value.toNat

/-- The same number is read, and no key where there is no number. -/
def SameKey (sent read : Option NumericValue) : Prop :=
  read.map NumericValue.number = (sent.bind NumericValue.number).map some

/-- What the reader makes of a key that has travelled. -/
def arrivedKey (key : Option NumericValue) : Option NumericValue :=
  numericFromJson (keyToJson key).arrived

/-- An integer is read as the number it is, whether it comes back signed or not. -/
theorem number_integer (value : Int64) :
    (numericFromJson (Value.integer value).arrived).map NumericValue.number =
      some (some (value.toInt : ℚ)) := by
  show (numericFromJson (if 0 ≤ value then .unsigned value.toUInt64 else .integer value)).map _ = _
  split
  · rename_i h
    have hnonneg : 0 ≤ value.toInt := Int64.le_iff_toInt_le.mp h
    have hnat : (value.toUInt64.toNat : ℤ) = value.toInt := by
      rw [Int64.toNat_toUInt64_of_le h, Int64.toNatClampNeg, Int.toNat_of_nonneg hnonneg]
    show some (some (value.toUInt64.toNat : ℚ)) = _
    rw [← hnat, Int.cast_natCast]
  · rfl

theorem number_float (bits : F64) :
    (numericFromJson (Value.float bits).arrived).map NumericValue.number =
      (Binary.double bits).map some := by
  by_cases h : Finite bits
  · rw [arrived_float h]
    have hsome : Binary.double bits ≠ none :=
      fun hnone => h ((Binary.double_eq_none_iff bits).mp hnone)
    obtain ⟨number, hnumber⟩ := Option.ne_none_iff_exists'.mp hsome
    show some (Binary.double bits) = _
    rw [hnumber]
    rfl
  · have hnone : Binary.double bits = none := (Binary.double_eq_none_iff bits).mpr (not_not.mp h)
    show (numericFromJson (Value.reread (if Finite bits then .float bits else .null))).map _ = _
    rw [if_neg h, hnone]
    rfl

theorem sameKey_arrived (key : Option NumericValue) : SameKey key (arrivedKey key) := by
  unfold SameKey arrivedKey
  cases key with
  | none => rfl
  | some value =>
    cases value with
    | float bits =>
      refine (number_float _).trans ?_
      rw [Binary.double_widen]
      rfl
    | double bits => exact number_float bits
    | int8 value => exact (number_integer _).trans (by rw [Int8.toInt_toInt64]; rfl)
    | int16 value => exact (number_integer _).trans (by rw [Int16.toInt_toInt64]; rfl)
    | int32 value => exact (number_integer _).trans (by rw [Int32.toInt_toInt64]; rfl)
    | int64 value => exact number_integer value
    | uint8 value => exact congrArg (fun n : ℕ => some (some (n : ℚ))) value.toNat_toUInt64
    | uint16 value => exact congrArg (fun n : ℕ => some (some (n : ℚ))) value.toNat_toUInt64
    | uint32 value => exact congrArg (fun n : ℕ => some (some (n : ℚ))) value.toNat_toUInt64
    | uint64 value => rfl

/-- A key arrives as a number or as null, so that a strict reader takes it, too. -/
theorem keyPayload_arrived (key : Option NumericValue) :
    KeyPayload (keyToJson key).arrived (arrivedKey key) := by
  have hinteger (value : Int64) :
      KeyPayload (Value.integer value).arrived (numericFromJson (Value.integer value).arrived) := by
    show KeyPayload (if 0 ≤ value then .unsigned value.toUInt64 else .integer value)
      (numericFromJson (if 0 ≤ value then .unsigned value.toUInt64 else .integer value))
    -- a number that is not negative is reread as an unsigned one
    split
    · exact .unsigned _
    · exact .integer _
  have hfloat (bits : F64) :
      KeyPayload (Value.float bits).arrived (numericFromJson (Value.float bits).arrived) := by
    show KeyPayload (Value.reread (if Finite bits then .float bits else .null))
      (numericFromJson (Value.reread (if Finite bits then .float bits else .null)))
    -- a number that is not finite is printed as null
    split
    · exact .float _
    · exact .null
  unfold arrivedKey
  cases key with
  | none => exact .null
  | some value =>
    cases value with
    | float bits => exact hfloat _
    | double bits => exact hfloat bits
    | int8 value => exact hinteger _
    | int16 value => exact hinteger _
    | int32 value => exact hinteger _
    | int64 value => exact hinteger value
    | uint8 value => exact .unsigned _
    | uint16 value => exact .unsigned _
    | uint32 value => exact .unsigned _
    | uint64 value => exact .unsigned value

/-! ## The columns that are sent -/

section Columns

variable (rows : List (List TableItem))

/-- A cell of the column has a key. -/
def HasKeys (column : Nat) : Prop := ∃ row ∈ rows, (keyIn column row).isSome = true

/-- A column is sent as an array with the key of each row. -/
def columnJson (column : Nat) : Value := .array (rows.map fun row => keyToJson (keyIn column row))

theorem le_foldl_max (start : Nat) :
    start ≤ rows.foldl (fun maxCols row => max maxCols row.length) start ∧
      ∀ row ∈ rows, row.length ≤ rows.foldl (fun maxCols row => max maxCols row.length) start := by
  induction rows generalizing start with
  | nil => exact ⟨le_refl start, nofun⟩
  | cons first rows ih =>
    obtain ⟨hstart, hrows⟩ := ih (max start first.length)
    rw [List.foldl_cons, List.forall_mem_cons]
    exact ⟨(le_max_left _ _).trans hstart, (le_max_right _ _).trans hstart, hrows⟩

/-- A row that has a key in a column is longer than its number. -/
theorem lt_length_of_key {column : Nat} {row : List TableItem}
    (h : (keyIn column row).isSome = true) :
    column < row.length := by
  unfold keyIn at h
  by_contra hlong
  rw [List.getElem?_eq_none (Nat.le_of_not_lt hlong)] at h
  exact Bool.false_ne_true h

/-- The members of the columns that have keys, under their numbers. -/
theorem mem_keyColumns (member : Bytes × Value) :
    member ∈ keyColumns rows ↔
      ∃ column : Nat, HasKeys rows column ∧
        member = (decimalText column, columnJson rows column) := by
  unfold keyColumns
  dsimp only
  generalize hcount : rows.foldl (fun maxCols row => max maxCols row.length) 0 = count
  have hkeyed (column : Nat) :
      (rows.any fun row => (keyIn column row).isSome) = true ↔ HasKeys rows column :=
        List.any_eq_true
  constructor
  · have hfold (columns : List Nat) (members : Members)
        (h : member ∈ columns.foldl (fun members column =>
          if rows.any fun row => (keyIn column row).isSome then
            members.setAt (decimalText column) (columnJson rows column) else members) members) :
        member ∈ members ∨ ∃ column : Nat, HasKeys rows column ∧
          member = (decimalText column, columnJson rows column) := by
      induction columns generalizing members with
      | nil => exact .inl h
      | cons column columns ih =>
        rw [List.foldl_cons] at h
        rcases ih _ h with hmember | hfound
        · split at hmember
          · rcases SortedMap.mem_insert hmember with hnew | hold
            · exact .inr ⟨column, (hkeyed column).mp ‹_›, hnew⟩
            · exact .inl hold
          · exact .inl hmember
        · exact .inr hfound
    intro h
    exact (hfold (List.range count) [] h).resolve_left List.not_mem_nil
  · rintro ⟨column, hhas, rfl⟩
    -- the column is set when its turn comes, and later turns set other ones or the same
    have hfold (columns : List Nat) (members : Members)
        (h : column ∈ columns ∨
          members.lookup (decimalText column) = some (columnJson rows column)) :
        (columns.foldl (fun members column =>
          if rows.any fun row => (keyIn column row).isSome then
            members.setAt (decimalText column) (columnJson rows column) else
              members) members).lookup
              (decimalText column) = some (columnJson rows column) := by
      induction columns generalizing members with
      | nil => exact h.resolve_left List.not_mem_nil
      | cons other columns ih =>
        rw [List.foldl_cons]
        refine ih _ ?_
        by_cases hother : column = other
        · right
          rw [← hother, if_pos ((hkeyed column).mpr hhas), lookup_setAt, if_pos rfl]
        · rcases h with hmem | hlookup
          · exact .inl ((List.mem_cons.mp hmem).resolve_left hother)
          · right
            split
            · rw [lookup_setAt, if_neg fun heq => hother (Int.natCast_inj.mp (decimalText_inj heq))]
              exact hlookup
            · exact hlookup
    refine SortedMap.mem_of_lookup (hfold (List.range count) [] (.inl (List.mem_range.mpr ?_)))
    obtain ⟨row, hrow, hkey⟩ := hhas
    rw [← hcount]
    exact Nat.lt_of_lt_of_le (lt_length_of_key hkey) ((le_foldl_max rows 0).2 row hrow)

/-- Rows without keys send no columns. -/
theorem keyColumns_eq_nil (h : ∀ column, ¬ HasKeys rows column) : keyColumns rows = [] := by
  refine List.eq_nil_iff_forall_not_mem.mpr fun member hmember => ?_
  obtain ⟨column, hhas, -⟩ := (mem_keyColumns rows member).mp hmember
  exact h column hhas

/-! ## The columns that are read -/

/-- The view has the columns with keys, up to the greatest `int`, each with the keys of the rows. -/
structure ColumnsArrive (columns : KeyColumns) : Prop where
  ascending : SortedMap.Ascending columnBefore columns
  sent : ∀ column keys, (column, keys) ∈ columns → ∃ number : Nat, column = number ∧
    number < 2 ^ 31 ∧
    HasKeys rows number ∧ List.Forall₂ SameKey (rows.map (keyIn number)) keys
  all : ∀ number : Nat, number < 2 ^ 31 → HasKeys rows number →
    ∃ keys, ((number : Int), keys) ∈ columns

/-- What is read of the keys of a column. -/
def arrivedColumn (column : Nat) : List (Option NumericValue) :=
  rows.map fun row => arrivedKey (keyIn column row)

/-- A column with an entry of its own. -/
def columnEntry (rowCount : Nat) (member : Bytes × Value) :
    Option (Int × List (Option NumericValue)) :=
  (columnIndex member.1).bind fun column => ((asArray member.2).filter fun values =>
    values.length = rowCount).map fun values => (column, values.map numericFromJson)

/-- What arrives of the members with the keys. -/
def arrivedMembers : Members := (keyColumns rows).map fun member => (member.1, member.2.arrived)

/-- The columns that are read of the members. -/
def arrivedEntries : List (Int × List (Option NumericValue)) :=
  (arrivedMembers rows).filterMap (columnEntry rows.length)

theorem columnIndex_printed (column : Nat) :
    columnIndex (decimalText column) = if column < 2 ^ 31 then some (column : Int) else none := by
  unfold columnIndex
  split
  · rw [parseInteger_printed (by omega) (by omega), Option.filter_some, if_pos]
    exact decide_eq_true (Int.natCast_nonneg column)
  · rw [parseInteger_outside (by omega)]
    rfl

theorem columnJson_arrived (column : Nat) :
    (columnJson rows column).arrived =
      .array (rows.map fun row => (keyToJson (keyIn column row)).arrived) := by
  unfold columnJson
  rw [arrived_array, List.map_map]
  rfl

theorem columnEntry_arrived (column : Nat) :
    columnEntry rows.length (decimalText column, (columnJson rows column).arrived) =
      if column < 2 ^ 31 then some ((column : Int), arrivedColumn rows column) else none := by
  unfold columnEntry
  rw [columnIndex_printed, columnJson_arrived]
  split
  · show ((some (rows.map fun row => (keyToJson (keyIn column row)).arrived)).filter _).map _ = _
    rw [Option.filter_some, if_pos (decide_eq_true (List.length_map _)), Option.map_some,
      List.map_map]
    rfl
  · rfl

theorem mem_arrivedMembers (member : Bytes × Value) :
    member ∈ arrivedMembers rows ↔ ∃ column : Nat, HasKeys rows column ∧
      member = (decimalText column, (columnJson rows column).arrived) := by
  unfold arrivedMembers
  rw [List.mem_map]
  constructor
  · rintro ⟨sent, hsent, rfl⟩
    obtain ⟨column, hhas, rfl⟩ := (mem_keyColumns rows sent).mp hsent
    exact ⟨column, hhas, rfl⟩
  · rintro ⟨column, hhas, rfl⟩
    exact ⟨_, (mem_keyColumns rows _).mpr ⟨column, hhas, rfl⟩, rfl⟩

theorem mem_arrivedEntries (entry : Int × List (Option NumericValue)) :
    entry ∈ arrivedEntries rows ↔ ∃ column : Nat, HasKeys rows column ∧ column < 2 ^ 31 ∧
      entry = ((column : Int), arrivedColumn rows column) := by
  unfold arrivedEntries
  rw [List.mem_filterMap]
  constructor
  · rintro ⟨member, hmember, hentry⟩
    obtain ⟨column, hhas, rfl⟩ := (mem_arrivedMembers rows member).mp hmember
    rw [columnEntry_arrived] at hentry
    split at hentry
    · exact ⟨column, hhas, ‹_›, (Option.some.inj hentry).symm⟩
    · exact nomatch hentry
  · rintro ⟨column, hhas, hfits, rfl⟩
    refine ⟨_, (mem_arrivedMembers rows _).mpr ⟨column, hhas, rfl⟩, ?_⟩
    rw [columnEntry_arrived, if_pos hfits]

/-- A map that carries the columns that are read has what was sent. -/
theorem columnsArrive_firstColumns : ColumnsArrive rows (firstColumns (arrivedEntries rows)) := by
  have hagree : Agree (arrivedEntries rows) := by
    intro a ha b hb hsame
    obtain ⟨column, -, -, rfl⟩ := (mem_arrivedEntries rows a).mp ha
    obtain ⟨other, -, -, rfl⟩ := (mem_arrivedEntries rows b).mp hb
    rw [Int.natCast_inj.mp hsame]
  obtain ⟨hascending, hmem⟩ := carries_iff.mpr ⟨rfl, hagree⟩
  refine ⟨hascending, fun column keys hentry => ?_, fun number hfits hhas => ?_⟩
  · obtain ⟨number, hhas, hfits, heq⟩ := (mem_arrivedEntries rows _).mp ((hmem _).mp hentry)
    obtain ⟨rfl, rfl⟩ := Prod.mk.inj heq
    refine ⟨number, rfl, hfits, hhas, ?_⟩
    unfold arrivedColumn
    rw [List.forall₂_map_left_iff, List.forall₂_map_right_iff]
    exact List.forall₂_same.mpr fun row _ => sameKey_arrived (keyIn number row)
  · exact ⟨_, (hmem _).mpr ((mem_arrivedEntries rows _).mpr ⟨number, hhas, hfits, rfl⟩)⟩

theorem columnsArrive_nil (h : keyColumns rows = []) : ColumnsArrive rows [] := by
  have hnone := columnsArrive_firstColumns rows
  unfold arrivedEntries arrivedMembers at hnone
  rw [h] at hnone
  exact hnone

/-! ## The readers -/

/-- The reader of a table takes a member that is a column and passes over any other. -/
theorem addColumn_eq (rowCount : Nat) (columns : KeyColumns) (member : Bytes × Value) :
    addColumn rowCount columns member = (columnEntry rowCount member).elim columns fun entry =>
      columns.emplace entry.1 entry.2 := by
  obtain ⟨key, value⟩ := member
  unfold addColumn columnEntry
  dsimp only
  cases columnIndex key with
  | none => rfl
  | some column =>
    cases value with
    | array values =>
      dsimp only [asArray, Option.bind_some]
      rw [Option.filter_some]
      -- a column whose length is not the number of the rows is no column
      by_cases hlength : values.length = rowCount
      · rw [if_pos hlength, if_pos (decide_eq_true hlength)]
        rfl
      · rw [if_neg hlength, if_neg fun h => hlength (of_decide_eq_true h)]
        rfl
    | _ => rfl

theorem foldl_addColumn (rowCount : Nat) (members : Members) (columns : KeyColumns) :
    members.foldl (addColumn rowCount) columns =
      (members.filterMap (columnEntry rowCount)).foldl
        (fun columns entry => columns.emplace entry.1 entry.2) columns := by
  induction members generalizing columns with
  | nil => rfl
  | cons member members ih =>
    rw [List.foldl_cons, addColumn_eq, ih, List.filterMap_cons]
    cases columnEntry rowCount member with
    | none => rfl
    | some entry => rfl

theorem tableColumns_arrive :
    ColumnsArrive rows ((arrivedMembers rows).foldl (addColumn rows.length) []) := by
  rw [foldl_addColumn]
  exact columnsArrive_firstColumns rows

/-- The reader of a delta takes the columns where each has a number of the type `int`. -/
theorem appendValues_arrive (hfits : ∀ column, HasKeys rows column → column < 2 ^ 31) :
    ∃ columns, ColumnsPayload rows.length KeepsFirst (.object (arrivedMembers rows)) columns ∧
      ColumnsArrive rows columns := by
  refine ⟨_, ⟨_, arrivedEntries rows, rfl, ?_, rfl⟩, columnsArrive_firstColumns rows⟩
  have hentry : ∀ member ∈ arrivedMembers rows, ∃ entry,
      columnEntry rows.length member = some entry ∧ ColumnPayload rows.length member entry := by
    intro member hmember
    obtain ⟨column, hhas, rfl⟩ := (mem_arrivedMembers rows member).mp hmember
    have hcolumn := hfits column hhas
    refine ⟨_, (columnEntry_arrived rows column).trans (if_pos hcolumn), ?_, ?_, List.length_map _⟩
    · exact (columnIndex_printed column).trans (if_pos hcolumn)
    · refine ⟨_, columnJson_arrived rows column, ?_⟩
      unfold arrivedColumn
      rw [List.forall₂_map_left_iff, List.forall₂_map_right_iff]
      exact List.forall₂_same.mpr fun row _ => keyPayload_arrived (keyIn column row)
  unfold arrivedEntries
  -- from here on only the entries of the members matter
  generalize arrivedMembers rows = members at hentry ⊢
  induction members with
  | nil => exact .nil
  | cons member members ih =>
    obtain ⟨⟨entry, hsome, hpayload⟩, hrest⟩ := List.forall_mem_cons.mp hentry
    rw [List.filterMap_cons_some hsome]
    exact .cons hpayload (ih hrest)

/-- A column beyond the type `int` refuses them all. -/
theorem appendValues_refused {column : Nat} (hhas : HasKeys rows column) (hwide : ¬ column < 2 ^ 31)
    {rowCount : Nat} {columns : KeyColumns} :
    ¬ ColumnsPayload rowCount KeepsFirst (.object (arrivedMembers rows)) columns := by
  rintro ⟨members, entries, hmembers, hall, -⟩
  obtain rfl := Value.object.inj hmembers
  obtain ⟨entry, -, hentry⟩ :=
    Scan.exists_of_forall₂_left hall ((mem_arrivedMembers rows _).mpr ⟨column, hhas, rfl⟩)
  have hindex := hentry.column
  rw [columnIndex_printed, if_neg hwide] at hindex
  exact nomatch hindex

end Columns

end Dialog

end PlotJugglerSdk
