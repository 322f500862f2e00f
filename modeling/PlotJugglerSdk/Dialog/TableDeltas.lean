import PlotJugglerSdk.Dialog.Payloads

/-!
# Deltas of a table

A delta is meant to be read exactly or not at all: every row and column of it is an `int` that is
not negative, and what is read carries the indices, texts and keys of the document. The reader
narrows an index before it looks at the sign, and keeps the first of two columns of one number.

* `DeltaPayload`     — a delta as a document, for a way of reading indices and columns
* `TypedDelta`       — a document whose integers narrow to indices
* `tableDelta_exact` — when the reader keeps the contract
-/

namespace PlotJugglerSdk

namespace Dialog

open Wire Json Lexing Value WidgetEvent

/-! ## Documents of deltas -/

/-- A row or column: an `int` that is not negative. -/
def Index (value : Value) (n : Int32) : Prop := value.integral = some n.toInt ∧ 0 ≤ n

/-- What `get<int>` makes of an integer, where it is not negative. -/
def Narrowed (value : Value) (n : Int32) : Prop :=
  value.integral.map Int32.ofInt = some n ∧ 0 ≤ n

/-- A member that may be missing, and then has a default. -/
def Member {α : Type} (object : Value) (key : String) (default : α) (payload : Value → α → Prop)
    (value : α) : Prop :=
  object.find key = none ∧ value = default ∨
    ∃ encoded, object.find key = some encoded ∧ payload encoded value

/-- The elements of an array, one by one. -/
def Elements {α : Type} (payload : Value → α → Prop) (encoded : Value) (items : List α) : Prop :=
  ∃ values, encoded = .array values ∧ List.Forall₂ payload values items

/-- A column with the keys of the rows that are appended. -/
structure ColumnPayload (rowCount : Nat) (member : Bytes × Value)
    (entry : Int × List (Option NumericValue)) : Prop where
  column : columnIndex member.1 = some entry.1
  keys : Elements KeyPayload member.2 entry.2
  length : entry.2.length = rowCount

/-- The order of the columns. -/
def columnBefore (a b : Int) : Bool := decide (a < b)

/-- A map that has the columns and no others. -/
def Carries (entries : List (Int × List (Option NumericValue))) (columns : KeyColumns) : Prop :=
  SortedMap.Ascending columnBefore columns ∧ ∀ entry, entry ∈ columns ↔ entry ∈ entries

/-- A map that keeps the first column of each number. -/
def firstColumns (entries : List (Int × List (Option NumericValue))) : KeyColumns :=
  entries.foldl (fun columns entry => columns.emplace entry.1 entry.2) []

def ColumnsPayload (rowCount : Nat)
    (carries : List (Int × List (Option NumericValue)) → KeyColumns → Prop) (encoded : Value)
    (columns : KeyColumns) : Prop :=
  ∃ members entries, encoded = .object members ∧
    List.Forall₂ (ColumnPayload rowCount) members entries ∧ carries entries columns

/-- A cell that is replaced, with or without a key. -/
inductive CellPayload (index : Value → Int32 → Prop) : Value → CellUpdate → Prop
  | keyless {row col : Value} {r c : Int32} (text : Bytes) (hrow : index row r)
    (hcol : index col c) :
    CellPayload index (.array [row, col, .string text]) { row := r, col := c, text, value := none }
  | keyed {row col value : Value} {r c : Int32} {key : Option NumericValue} (text : Bytes)
    (hrow : index row r) (hcol : index col c) (hkey : KeyPayload value key) :
    CellPayload index (.array [row, col, .string text, value])
      { row := r, col := c, text, value := key }

/-- The rows to remove, greatest first and each once. -/
def RemovedPayload (index : Value → Int32 → Prop) (encoded : Value) (removed : List Int32) : Prop :=
  ∃ rows, Elements index encoded rows ∧ removed.Pairwise (· > ·) ∧ ∀ row, row ∈ removed ↔ row ∈ rows

structure DeltaPayload (index : Value → Int32 → Prop)
    (carries : List (Int × List (Option NumericValue)) → KeyColumns → Prop) (delta : Value)
    (view : TableDeltaView) : Prop where
  seq : delta.find "seq" = some (.unsigned view.seq)
  append : Member delta "append" [] (Elements fun row cells => row = strings cells) view.append
  appendValues :
    Member delta "append_values" [] (ColumnsPayload view.append.length carries) view.appendValues
  updateCells : Member delta "update_cells" [] (Elements (CellPayload index)) view.updateCells
  removeRows : Member delta "remove_rows" [] (RemovedPayload index) view.removeRows

/-- What a delta says: its indices as they are, and every column it names. -/
abbrev ExactDelta : Value → TableDeltaView → Prop := DeltaPayload Index Carries

/-! ## What goes wrong -/

def elementsOf (encoded : Option Value) : List Value :=
  match encoded with
  | some (.array values) => values
  | _ => []

/-- The values of a delta that stand where an index is due. -/
def indices (delta : Value) : List Value :=
  (elementsOf (delta.find "update_cells")).flatMap
    (fun update => (elementsOf (some update)).take 2) ++
    elementsOf (delta.find "remove_rows")

/-- An index is an integer outside the type `int`. -/
def IndexOverflows (delta : Value) : Prop :=
  ∃ value ∈ indices delta, ∃ n, value.integral = some n ∧ ¬ FitsInt n

/-- Two columns of different keys have one number, as `"1"` and `"01"` have. -/
def ColumnsConflict (delta : Value) : Prop :=
  ∃ members, delta.find "append_values" = some (.object members) ∧
    ∃ a ∈ members, ∃ b ∈ members, columnIndex a.1 = columnIndex b.1 ∧ a.2 ≠ b.2

/-- Every operation has its shape, where an index is any integer whose low half is not negative. -/
structure TypedDelta (delta : Value) : Prop where
  seq : ∃ seq, delta.find "seq" = some (.unsigned seq)
  rows : ∃ rows, Member delta "append" [] (Elements fun row cells => row = strings cells) rows ∧
    ∀ encoded, delta.find "append_values" = some encoded → ∃ members, encoded = .object members ∧
      ∀ member ∈ members, ∃ entry, ColumnPayload rows.length member entry
  updateCells : ∀ encoded, delta.find "update_cells" = some encoded →
    ∃ updates, encoded = .array updates ∧
      ∀ update ∈ updates, ∃ cell, CellPayload Narrowed update cell
  removeRows : ∀ encoded, delta.find "remove_rows" = some encoded →
    ∃ rows, encoded = .array rows ∧ ∀ row ∈ rows, ∃ n, Narrowed row n

/-! ## Members and arrays -/

theorem optionalMember_iff {α : Type} {key : String} {default value : α} {object : Value}
    {decode : Value → Option α} {payload : Value → α → Prop}
    (h : ∀ encoded value, decode encoded = some value ↔ payload encoded value) :
    optionalMember key default decode object = some value ↔
      Member object key default payload value := by
  unfold optionalMember Member
  cases object.find key with
  | none =>
    constructor
    · exact fun heq => .inl ⟨rfl, (Option.some.inj heq).symm⟩
    · rintro (⟨-, rfl⟩ | ⟨encoded, hencoded, -⟩)
      · rfl
      · exact nomatch hencoded
  | some encoded =>
    refine (h encoded value).trans ⟨fun hpayload => .inr ⟨encoded, rfl, hpayload⟩, ?_⟩
    rintro (⟨hnone, -⟩ | ⟨other, hother, hpayload⟩)
    · exact nomatch hnone
    · rw [Option.some.inj hother]
      exact hpayload

theorem Member.imp {α : Type} {key : String} {default value : α} {object : Value}
    {payload payload' : Value → α → Prop} (h : Member object key default payload value)
    (himp : ∀ encoded, object.find key = some encoded → payload encoded value → payload' encoded value) :
    Member object key default payload' value := by
  obtain hmissing | ⟨encoded, hfind, hpayload⟩ := h
  · exact .inl hmissing
  · exact .inr ⟨encoded, hfind, himp encoded hfind hpayload⟩

theorem elements_iff {α : Type} {decode : Value → Option α} {payload : Value → α → Prop}
    (h : ∀ value item, decode value = some item ↔ payload value item) {encoded : Value}
    {items : List α} :
    (asArray encoded).bind (List.mapM decode) = some items ↔ Elements payload encoded items := by
  rw [Option.bind_eq_some_iff]
  unfold Elements
  constructor
  · rintro ⟨values, hvalues, hitems⟩
    exact ⟨values, asArray_iff.mp hvalues, (Scan.mapM_some_iff.mp hitems).imp fun a b => (h a b).mp⟩
  · rintro ⟨values, rfl, hall⟩
    exact ⟨values, rfl, Scan.mapM_some_iff.mpr (hall.imp fun a b => (h a b).mpr)⟩

/-! ## Rows and cells -/

theorem decodeRows_iff {encoded : Value} {rows : List (List Bytes)} :
    decodeRows encoded = some rows ↔
      Elements (fun row cells => row = strings cells) encoded rows := by
  rw [← elements_iff fun value item => decodeStrictStringArray_iff]
  cases encoded <;> rfl

theorem decodeIndex_iff {value : Value} {n : Int32} :
    decodeIndex value = some n ↔ Narrowed value n := by
  unfold decodeIndex Narrowed
  rw [Option.filter_eq_some_iff, asWrappedInt_eq, decide_eq_true_iff]

theorem decodeCellUpdate_iff {encoded : Value} {cell : CellUpdate} :
    decodeCellUpdate encoded = some cell ↔ CellPayload Narrowed encoded cell := by
  constructor
  · intro h
    unfold decodeCellUpdate at h
    split at h
    · obtain ⟨r, hr, h⟩ := Option.bind_eq_some_iff.mp h
      obtain ⟨c, hc, hcell⟩ := Option.bind_eq_some_iff.mp h
      rw [← Option.some.inj hcell]
      exact .keyless _ (decodeIndex_iff.mp hr) (decodeIndex_iff.mp hc)
    · obtain ⟨r, hr, h⟩ := Option.bind_eq_some_iff.mp h
      obtain ⟨c, hc, h⟩ := Option.bind_eq_some_iff.mp h
      obtain ⟨key, hkey, hcell⟩ := Option.bind_eq_some_iff.mp h
      rw [← Option.some.inj hcell]
      exact .keyed _ (decodeIndex_iff.mp hr) (decodeIndex_iff.mp hc) (decodeKey_iff.mp hkey)
    · exact nomatch h
  · intro h
    cases h with
    | keyless text hrow hcol =>
      rw [decodeCellUpdate, decodeIndex_iff.mpr hrow, decodeIndex_iff.mpr hcol]
      rfl
    | keyed text hrow hcol hkey =>
      rw [decodeCellUpdate, decodeIndex_iff.mpr hrow, decodeIndex_iff.mpr hcol,
        decodeKey_iff.mpr hkey]
      rfl

theorem decodeCellUpdates_iff {encoded : Value} {cells : List CellUpdate} :
    decodeCellUpdates encoded = some cells ↔ Elements (CellPayload Narrowed) encoded cells := by
  rw [← elements_iff fun value item => decodeCellUpdate_iff]
  cases encoded <;> rfl

/-! ## Removals -/

theorem mem_unique {row : Int32} (rows : List Int32) : row ∈ unique rows ↔ row ∈ rows := by
  fun_induction unique rows with
  | case1 => exact Iff.rfl
  | case2 => exact Iff.rfl
  | case3 next rows ih =>
    rw [ih, List.mem_cons, List.mem_cons, List.mem_cons, ← or_assoc, or_self]
  | case4 first next rows hne ih => rw [List.mem_cons, ih, List.mem_cons (a := row) (b := first)]

/-- In a list that descends equal rows are neighbours, so each is left once. -/
theorem pairwise_unique {rows : List Int32} (h : rows.Pairwise (· ≥ ·)) :
    (unique rows).Pairwise (· > ·) := by
  fun_induction unique rows with
  | case1 => exact .nil
  | case2 => exact List.pairwise_singleton _ _
  | case3 next rows ih => exact ih (List.pairwise_cons.mp h).2
  | case4 first next rows hne ih =>
    obtain ⟨hfirst, hrest⟩ := List.pairwise_cons.mp h
    refine List.pairwise_cons.mpr ⟨fun row hrow => ?_, ih hrest⟩
    have hle : next ≤ first := hfirst next List.mem_cons_self
    have hlt : next < first := Int32.lt_of_le_of_ne hle (Ne.symm hne)
    obtain rfl | hlater := List.mem_cons.mp ((mem_unique _).mp hrow)
    · exact hlt
    · exact Int32.lt_of_le_of_lt ((List.pairwise_cons.mp hrest).1 row hlater) hlt

theorem mem_descending {row : Int32} (rows : List Int32) : row ∈ descending rows ↔ row ∈ rows :=
  (mem_unique _).trans List.mem_mergeSort

theorem pairwise_descending (rows : List Int32) : (descending rows).Pairwise (· > ·) := by
  apply pairwise_unique
  have hsorted := List.pairwise_mergeSort
    (fun (a b c : Int32) (hab : decide (b ≤ a) = true) (hbc : decide (c ≤ b) = true) =>
      decide_eq_true (Int32.le_trans (of_decide_eq_true hbc) (of_decide_eq_true hab)))
    (fun a b => by
      rw [Bool.or_eq_true, decide_eq_true_iff, decide_eq_true_iff]
      exact Int32.le_total b a) rows
  exact hsorted.imp of_decide_eq_true

/-- Removals that descend are told by the rows they remove. -/
theorem eq_descending_iff {removed rows : List Int32} :
    removed = descending rows ↔ removed.Pairwise (· > ·) ∧ ∀ row, row ∈ removed ↔ row ∈ rows := by
  constructor
  · rintro rfl
    exact ⟨pairwise_descending rows, fun row => mem_descending rows⟩
  · rintro ⟨hdescends, hmem⟩
    have hirrefl : Std.Irrefl (fun a b : Int32 => a > b) := ⟨fun a => Int32.lt_irrefl⟩
    have hantisymm : Std.Antisymm (fun a b : Int32 => a > b) :=
      ⟨fun a b hab hba => absurd hab (Int32.lt_asymm hba)⟩
    exact hdescends.eq_of_mem_iff (pairwise_descending rows) fun row =>
      (hmem row).trans (mem_descending rows).symm

theorem decodeRemoveRows_iff {encoded : Value} {removed : List Int32} :
    decodeRemoveRows encoded = some removed ↔ RemovedPayload Narrowed encoded removed := by
  have hrows : decodeRemoveRows encoded = ((asArray encoded).bind (List.mapM decodeIndex)).map
      descending := by
    cases encoded <;> rfl
  rw [hrows, Option.map_eq_some_iff]
  unfold RemovedPayload
  constructor
  · rintro ⟨rows, hrows, rfl⟩
    exact ⟨rows, (elements_iff fun _ _ => decodeIndex_iff).mp hrows, eq_descending_iff.mp rfl⟩
  · rintro ⟨rows, hrows, hremoved⟩
    exact ⟨rows, (elements_iff fun _ _ => decodeIndex_iff).mpr hrows,
      (eq_descending_iff.mpr hremoved).symm⟩

/-! ## Columns -/

theorem columnOrder : Ranking.Decisive columnBefore where
  asymm hab := decide_eq_false (lt_asymm (of_decide_eq_true hab))
  trans hab hbc := decide_eq_true (lt_trans (of_decide_eq_true hab) (of_decide_eq_true hbc))
  total hne := (lt_or_gt_of_ne hne).imp decide_eq_true decide_eq_true

theorem addStrictColumn_iff {rowCount : Nat} {columns result : KeyColumns}
    {member : Bytes × Value} :
    addStrictColumn rowCount columns member = some result ↔
      ∃ entry, ColumnPayload rowCount member entry ∧ result = columns.emplace entry.1 entry.2 := by
  unfold addStrictColumn
  constructor
  · intro h
    obtain ⟨column, hcolumn, h⟩ := Option.bind_eq_some_iff.mp h
    obtain ⟨values, hvalues, h⟩ := Option.bind_eq_some_iff.mp h
    split at h
    · rename_i hlength
      obtain ⟨keys, hkeys, hresult⟩ := Option.bind_eq_some_iff.mp h
      have hall := (Scan.mapM_some_iff.mp hkeys).imp fun _ _ => decodeKey_iff.mp
      exact ⟨(column, keys), ⟨hcolumn, ⟨values, asArray_iff.mp hvalues, hall⟩,
        hall.length_eq.symm.trans hlength⟩, (Option.some.inj hresult).symm⟩
    · exact nomatch h
  · rintro ⟨⟨column, keys⟩, ⟨hcolumn, ⟨values, hvalues, hall⟩, hlength⟩, rfl⟩
    refine Option.bind_eq_some_iff.mpr ⟨column, hcolumn, ?_⟩
    refine Option.bind_eq_some_iff.mpr ⟨values, asArray_iff.mpr hvalues, ?_⟩
    rw [if_pos (hall.length_eq.trans hlength)]
    exact Option.bind_eq_some_iff.mpr
      ⟨keys, Scan.mapM_some_iff.mpr (hall.imp fun _ _ => decodeKey_iff.mpr), rfl⟩

theorem foldlM_addStrictColumn {rowCount : Nat} {members : List (Bytes × Value)}
    {columns result : KeyColumns} :
    members.foldlM (addStrictColumn rowCount) columns = some result ↔
      ∃ entries, List.Forall₂ (ColumnPayload rowCount) members entries ∧
        result = entries.foldl (fun columns entry => columns.emplace entry.1 entry.2) columns := by
  induction members generalizing columns with
  | nil =>
    rw [List.foldlM_nil]
    constructor
    · exact fun h => ⟨[], .nil, (Option.some.inj h).symm⟩
    · rintro ⟨entries, hall, rfl⟩
      rw [List.forall₂_nil_left_iff.mp hall]
      rfl
  | cons member members ih =>
    rw [List.foldlM_cons, Option.bind_eq_bind, Option.bind_eq_some_iff]
    constructor
    · rintro ⟨next, hnext, hrest⟩
      obtain ⟨entry, hentry, rfl⟩ := addStrictColumn_iff.mp hnext
      obtain ⟨entries, hall, rfl⟩ := ih.mp hrest
      exact ⟨entry :: entries, .cons hentry hall, rfl⟩
    · rintro ⟨entries, hall, rfl⟩
      obtain ⟨entry, rest, hentry, hrest, rfl⟩ := List.forall₂_cons_left_iff.mp hall
      exact ⟨_, addStrictColumn_iff.mpr ⟨entry, hentry, rfl⟩, ih.mpr ⟨rest, hrest, rfl⟩⟩

/-- Of the columns of one number the first is kept. -/
def KeepsFirst (entries : List (Int × List (Option NumericValue))) (columns : KeyColumns) : Prop :=
  columns = firstColumns entries

theorem decodeAppendValues_iff {rowCount : Nat} {encoded : Value} {columns : KeyColumns} :
    decodeAppendValues rowCount encoded = some columns ↔
      ColumnsPayload rowCount KeepsFirst encoded columns := by
  unfold ColumnsPayload
  constructor
  · intro h
    cases encoded with
    | object members =>
      obtain ⟨entries, hall, hcolumns⟩ := foldlM_addStrictColumn.mp h
      exact ⟨members, entries, rfl, hall, hcolumns⟩
    | _ => exact nomatch h
  · rintro ⟨members, entries, rfl, hall, hcolumns⟩
    exact foldlM_addStrictColumn.mpr ⟨entries, hall, hcolumns⟩

theorem foldl_emplace_lookup (column : Int) (entries : List (Int × List (Option NumericValue)))
    (columns : KeyColumns) :
    (entries.foldl (fun columns entry => columns.emplace entry.1 entry.2) columns).lookup column =
      (columns.lookup column).or (entries.lookup column) := by
  induction entries generalizing columns with
  | nil => rw [List.foldl_nil, List.lookup_nil, Option.or_none]
  | cons entry entries ih =>
    rw [List.foldl_cons, ih, SortedMap.lookup_cons]
    rw [KeyColumns.emplace, SortedMap.lookup_emplace]
    by_cases hcolumn : column = entry.1
    · rw [if_pos hcolumn, if_pos hcolumn, hcolumn]
      cases columns.lookup entry.1 <;> rfl
    · rw [if_neg hcolumn, if_neg hcolumn]

theorem lookup_firstColumns (column : Int) (entries : List (Int × List (Option NumericValue))) :
    (firstColumns entries).lookup column = entries.lookup column :=
  (foldl_emplace_lookup column entries []).trans (Option.none_or ..)

theorem ascending_firstColumns (entries : List (Int × List (Option NumericValue))) :
    SortedMap.Ascending columnBefore (firstColumns entries) := by
  have hfold (columns : KeyColumns) (h : SortedMap.Ascending columnBefore columns) :
      SortedMap.Ascending columnBefore
        (entries.foldl (fun (columns : KeyColumns) entry => columns.emplace entry.1 entry.2)
          columns) := by
    induction entries generalizing columns with
    | nil => exact h
    | cons entry entries ih => exact ih _ (SortedMap.ascending_emplace columnOrder h)
  exact hfold [] .nil

/-- Columns of one number have the same keys. -/
def Agree (entries : List (Int × List (Option NumericValue))) : Prop :=
  ∀ a ∈ entries, ∀ b ∈ entries, a.1 = b.1 → a.2 = b.2

theorem Agree.lookup_iff {entries : List (Int × List (Option NumericValue))} (h : Agree entries)
    {entry : Int × List (Option NumericValue)} :
    entries.lookup entry.1 = some entry.2 ↔ entry ∈ entries := by
  refine ⟨SortedMap.mem_of_lookup, fun hmem => ?_⟩
  cases hlookup : entries.lookup entry.1 with
  | none =>
    have hne := List.lookup_eq_none_iff.mp hlookup entry hmem
    rw [bne_self_eq_false] at hne
    exact nomatch hne
  | some keys => exact congrArg some (h (entry.1, keys) (SortedMap.mem_of_lookup hlookup) entry hmem rfl)

theorem carries_iff {entries : List (Int × List (Option NumericValue))} {columns : KeyColumns} :
    Carries entries columns ↔ KeepsFirst entries columns ∧ Agree entries := by
  have hascending := ascending_firstColumns entries
  have hfirst (hagree : Agree entries) (entry : Int × List (Option NumericValue)) :
      entry ∈ firstColumns entries ↔ entry ∈ entries := by
    rw [← hascending.lookup_iff columnOrder, lookup_firstColumns]
    exact hagree.lookup_iff
  constructor
  · rintro ⟨hcolumns, hmem⟩
    have hagree : Agree entries := by
      rintro ⟨column, keys⟩ ha ⟨other, keys'⟩ hb hsame
      obtain rfl : column = other := hsame
      exact hcolumns.eq_of_key columnOrder ((hmem _).mpr ha) ((hmem _).mpr hb)
    refine ⟨hcolumns.ext columnOrder hascending fun entry => ?_, hagree⟩
    rw [hmem, hfirst hagree]
  · rintro ⟨rfl, hagree⟩
    exact ⟨hascending, hfirst hagree⟩

theorem KeyPayload.functional {value : Value} {key key' : Option NumericValue}
    (h : KeyPayload value key) (h' : KeyPayload value key') : key = key' :=
  Option.some.inj ((decodeKey_iff.mpr h).symm.trans (decodeKey_iff.mpr h'))

theorem KeyPayload.injective {value value' : Value} {key : Option NumericValue}
    (h : KeyPayload value key) (h' : KeyPayload value' key) : value = value' := by
  cases h <;> cases h' <;> rfl

theorem agree_iff {rowCount : Nat} {members : List (Bytes × Value)}
    {entries : List (Int × List (Option NumericValue))}
    (h : List.Forall₂ (ColumnPayload rowCount) members entries) :
    Agree entries ↔
      ∀ a ∈ members, ∀ b ∈ members, columnIndex a.1 = columnIndex b.1 → a.2 = b.2 := by
  constructor
  · intro hagree a ha b hb hsame
    obtain ⟨entry, hentry, hcolumn, ⟨values, hvalues, hkeys⟩, -⟩ := Scan.exists_of_forall₂_left h ha
    obtain ⟨entry', hentry', hcolumn', ⟨values', hvalues', hkeys'⟩, -⟩ :=
      Scan.exists_of_forall₂_left h hb
    rw [hcolumn, hcolumn'] at hsame
    rw [hagree entry hentry entry' hentry' (Option.some.inj hsame)] at hkeys
    have heq : values = values' :=
      List.left_unique_forall₂' (fun _ _ _ hkey hkey' => hkey.injective hkey') hkeys hkeys'
    rw [hvalues, hvalues', heq]
  · intro hsame entry hentry entry' hentry' hcolumns
    obtain ⟨a, ha, hcolumn, ⟨values, hvalues, hkeys⟩, -⟩ := Scan.exists_of_forall₂_right h hentry
    obtain ⟨b, hb, hcolumn', ⟨values', hvalues', hkeys'⟩, -⟩ :=
      Scan.exists_of_forall₂_right h hentry'
    have hmembers := hsame a ha b hb (by rw [hcolumn, hcolumn', hcolumns])
    rw [hvalues, hvalues'] at hmembers
    rw [Value.array.inj hmembers] at hkeys
    exact List.right_unique_forall₂' (fun _ _ _ hkey hkey' => hkey.functional hkey') hkeys hkeys'

/-! ## The reader -/

/-- What the reader makes of a delta: narrowed indices, and the first column of each number. -/
theorem tableDelta_iff {view : WidgetDataView} {name : Bytes} {delta : Value}
    (h : view.member name "table_delta" = some delta) {read : TableDeltaView} :
    view.tableDelta name = some read ↔ DeltaPayload Narrowed KeepsFirst delta read := by
  -- the sequence number is read by a reader of its own
  have hseq {seq : UInt64} :
      view.tableDeltaSeq name = some seq ↔ delta.find "seq" = some (.unsigned seq) := by
    unfold WidgetDataView.tableDeltaSeq
    rw [h, Option.bind_some]
    constructor
    · intro hread
      split at hread
      · rename_i hfind
        rw [hfind, Option.some.inj hread]
      · exact nomatch hread
    · intro hfind
      rw [hfind]
  unfold WidgetDataView.tableDelta
  constructor
  · intro hread
    obtain ⟨seq, hseq', hread⟩ := Option.bind_eq_some_iff.mp hread
    obtain ⟨delta', hdelta, hread⟩ := Option.bind_eq_some_iff.mp hread
    obtain rfl : delta = delta' := Option.some.inj (h.symm.trans hdelta)
    obtain ⟨append, happend, hread⟩ := Option.bind_eq_some_iff.mp hread
    obtain ⟨appendValues, hvalues, hread⟩ := Option.bind_eq_some_iff.mp hread
    obtain ⟨updateCells, hcells, hread⟩ := Option.bind_eq_some_iff.mp hread
    obtain ⟨removeRows, hrows, hread⟩ := Option.bind_eq_some_iff.mp hread
    rw [← Option.some.inj hread]
    exact
      { seq := hseq.mp hseq'
        append := (optionalMember_iff fun _ _ => decodeRows_iff).mp happend
        appendValues := (optionalMember_iff fun _ _ => decodeAppendValues_iff).mp hvalues
        updateCells := (optionalMember_iff fun _ _ => decodeCellUpdates_iff).mp hcells
        removeRows := (optionalMember_iff fun _ _ => decodeRemoveRows_iff).mp hrows }
  · intro hpayload
    refine Option.bind_eq_some_iff.mpr ⟨_, hseq.mpr hpayload.seq, ?_⟩
    refine Option.bind_eq_some_iff.mpr ⟨delta, h, ?_⟩
    refine Option.bind_eq_some_iff.mpr
      ⟨_, (optionalMember_iff fun _ _ => decodeRows_iff).mpr hpayload.append, ?_⟩
    refine Option.bind_eq_some_iff.mpr
      ⟨_, (optionalMember_iff fun _ _ => decodeAppendValues_iff).mpr hpayload.appendValues, ?_⟩
    refine Option.bind_eq_some_iff.mpr
      ⟨_, (optionalMember_iff fun _ _ => decodeCellUpdates_iff).mpr hpayload.updateCells, ?_⟩
    exact Option.bind_eq_some_iff.mpr
      ⟨_, (optionalMember_iff fun _ _ => decodeRemoveRows_iff).mpr hpayload.removeRows, rfl⟩

/-! ## Indices -/

section Indices

variable {index index' : Value → Int32 → Prop} {delta : Value} {view : TableDeltaView}
  {carries carries' : List (Int × List (Option NumericValue)) → KeyColumns → Prop}

theorem mem_indices_of_cell {updates : List Value}
    (h : delta.find "update_cells" = some (.array updates))
    {cells : List Value} (hmem : .array cells ∈ updates) {value : Value}
    (hvalue : value ∈ cells.take 2) :
    value ∈ indices delta := by
  unfold indices
  rw [h]
  exact List.mem_append_left _ (List.mem_flatMap.mpr ⟨_, hmem, hvalue⟩)

theorem mem_indices_of_row {rows : List Value} (h : delta.find "remove_rows" = some (.array rows))
    {value : Value} (hmem : value ∈ rows) : value ∈ indices delta := by
  unfold indices
  rw [h]
  exact List.mem_append_right _ hmem

theorem CellPayload.imp {update : Value} {cell : CellUpdate} (h : CellPayload index update cell)
    (hindex : ∀ cells, update = .array cells → ∀ value ∈ cells.take 2, ∀ n, index value n → index' value n) :
    CellPayload index' update cell := by
  cases h with
  | keyless text hrow hcol =>
    refine .keyless text (hindex _ rfl _ ?_ _ hrow) (hindex _ rfl _ ?_ _ hcol)
    · exact List.mem_cons_self
    · exact List.mem_cons_of_mem _ List.mem_cons_self
  | keyed text hrow hcol hkey =>
    refine .keyed text (hindex _ rfl _ ?_ _ hrow) (hindex _ rfl _ ?_ _ hcol) hkey
    · exact List.mem_cons_self
    · exact List.mem_cons_of_mem _ List.mem_cons_self

/-- Another way of reading indices and columns, where it reads those of the delta alike. -/
theorem DeltaPayload.imp (h : DeltaPayload index carries delta view)
    (hindex : ∀ value ∈ indices delta, ∀ n, index value n → index' value n)
    (hcarries : ∀ members entries, delta.find "append_values" = some (.object members) →
      List.Forall₂ (ColumnPayload view.append.length) members entries →
        carries entries view.appendValues → carries' entries view.appendValues) :
    DeltaPayload index' carries' delta view where
  seq := h.seq
  append := h.append
  appendValues := by
    refine h.appendValues.imp fun encoded hfind => ?_
    rintro ⟨members, entries, rfl, hall, hcolumns⟩
    exact ⟨members, entries, rfl, hall, hcarries members entries hfind hall hcolumns⟩
  updateCells := by
    refine h.updateCells.imp fun encoded hfind => ?_
    rintro ⟨updates, rfl, hall⟩
    refine ⟨updates, rfl, ?_⟩
    have hmem :=
      (List.forall₂_and_left updates view.updateCells).mpr ⟨fun _ hupdate => hupdate, hall⟩
    refine hmem.imp fun update cell ⟨hupdate, hcell⟩ => ?_
    refine hcell.imp fun cells heq value hvalue => hindex value ?_
    rw [heq] at hupdate
    exact mem_indices_of_cell hfind hupdate hvalue
  removeRows := by
    refine h.removeRows.imp fun encoded hfind => ?_
    rintro ⟨rows, ⟨values, rfl, hall⟩, hremoved⟩
    refine ⟨rows, ⟨values, rfl, ?_⟩, hremoved⟩
    have hmem := (List.forall₂_and_left values rows).mpr ⟨fun _ hvalue => hvalue, hall⟩
    exact hmem.imp fun value n ⟨hvalue, hn⟩ => hindex value (mem_indices_of_row hfind hvalue) n hn

/-- In a delta that is read every index is. -/
theorem DeltaPayload.index_of_mem (h : DeltaPayload index carries delta view) {value : Value}
    (hvalue : value ∈ indices delta) : ∃ n, index value n := by
  unfold indices at hvalue
  rcases List.mem_append.mp hvalue with hcell | hrow
  · obtain ⟨update, hupdate, htake⟩ := List.mem_flatMap.mp hcell
    rcases h.updateCells with ⟨hnone, -⟩ | ⟨encoded, hfind, updates, rfl, hall⟩
    · rw [hnone] at hupdate
      exact nomatch hupdate
    · rw [hfind] at hupdate
      obtain ⟨cell, -, hpayload⟩ := Scan.exists_of_forall₂_left hall hupdate
      cases hpayload with
      | keyless text hrow hcol =>
        obtain rfl | htake := List.mem_cons.mp htake
        · exact ⟨_, hrow⟩
        · rw [List.mem_singleton.mp htake]
          exact ⟨_, hcol⟩
      | keyed text hrow hcol hkey =>
        obtain rfl | htake := List.mem_cons.mp htake
        · exact ⟨_, hrow⟩
        · rw [List.mem_singleton.mp htake]
          exact ⟨_, hcol⟩
  · rcases h.removeRows with ⟨hnone, -⟩ | ⟨encoded, hfind, rows, ⟨values, rfl, hall⟩, -⟩
    · rw [hnone] at hrow
      exact nomatch hrow
    · rw [hfind] at hrow
      obtain ⟨n, -, hn⟩ := Scan.exists_of_forall₂_left hall hrow
      exact ⟨n, hn⟩

end Indices

/-- An index that fits is what it narrows to. -/
theorem Index.narrowed {value : Value} {n : Int32} (h : Index value n) : Narrowed value n := by
  refine ⟨?_, h.2⟩
  rw [h.1, Option.map_some, Int32.ofInt_toInt]

theorem Narrowed.index {value : Value} {n : Int32} (h : Narrowed value n)
    (hfits : ∀ number, value.integral = some number → FitsInt number) : Index value n := by
  obtain ⟨number, hnumber, rfl⟩ := Option.map_eq_some_iff.mp h.1
  exact ⟨by rw [hnumber, toInt_ofInt_fits (hfits number hnumber)], h.2⟩

/-! ## Typed deltas -/

theorem Member.exists_iff {α : Type} {object : Value} {key : String} {default : α}
    {payload : Value → α → Prop} :
    (∃ value, Member object key default payload value) ↔
      ∀ encoded, object.find key = some encoded → ∃ value, payload encoded value := by
  constructor
  · rintro ⟨value, ⟨hnone, -⟩ | ⟨encoded, hfind, hpayload⟩⟩ other hother
    · exact nomatch hnone.symm.trans hother
    · obtain rfl := Option.some.inj (hfind.symm.trans hother)
      exact ⟨value, hpayload⟩
  · intro h
    cases hfind : object.find key with
    | none => exact ⟨default, .inl ⟨hfind, rfl⟩⟩
    | some encoded =>
      obtain ⟨value, hpayload⟩ := h encoded hfind
      exact ⟨value, .inr ⟨encoded, hfind, hpayload⟩⟩

theorem Elements.exists_iff {α : Type} {payload : Value → α → Prop} {encoded : Value} :
    (∃ items, Elements payload encoded items) ↔
      ∃ values, encoded = .array values ∧ ∀ value ∈ values, ∃ item, payload value item := by
  constructor
  · rintro ⟨items, values, hvalues, hall⟩
    exact ⟨values, hvalues, Scan.exists_forall₂_iff.mp ⟨items, hall⟩⟩
  · rintro ⟨values, hvalues, hall⟩
    obtain ⟨items, hitems⟩ := Scan.exists_forall₂_iff.mpr hall
    exact ⟨items, values, hvalues, hitems⟩

/-- The typed deltas are those that the reader takes. -/
theorem typedDelta_iff {delta : Value} :
    TypedDelta delta ↔ ∃ view, DeltaPayload Narrowed KeepsFirst delta view := by
  constructor
  · rintro ⟨⟨seq, hseq⟩, ⟨rows, hrows, hcolumns⟩, hcells, hremoved⟩
    -- a column is read wherever its member has the right type
    have hvalues :
        ∃ columns, Member delta "append_values" [] (ColumnsPayload rows.length KeepsFirst)
        columns := by
      refine Member.exists_iff.mpr fun encoded hfind => ?_
      obtain ⟨members, hmembers, hall⟩ := hcolumns encoded hfind
      obtain ⟨entries, hentries⟩ := Scan.exists_forall₂_iff.mpr hall
      exact ⟨_, members, entries, hmembers, hentries, rfl⟩
    -- rows are removed in descending order, whatever the order of their indices
    have hremovals :
        ∃ removed, Member delta "remove_rows" [] (RemovedPayload Narrowed) removed := by
      refine Member.exists_iff.mpr fun encoded hfind => ?_
      obtain ⟨values, hvalues⟩ := Elements.exists_iff.mpr (hremoved encoded hfind)
      exact ⟨_, values, hvalues, eq_descending_iff.mp rfl⟩
    obtain ⟨columns, hcolumns⟩ := hvalues
    obtain ⟨cells, hcells⟩ := Member.exists_iff.mpr fun encoded hfind =>
      Elements.exists_iff.mpr (hcells encoded hfind)
    obtain ⟨removed, hremoved⟩ := hremovals
    exact ⟨⟨seq, rows, columns, cells, removed⟩, hseq, hrows, hcolumns, hcells, hremoved⟩
  · rintro ⟨view, h⟩
    refine ⟨⟨view.seq, h.seq⟩, ⟨view.append, h.append, fun encoded hfind => ?_⟩,
      fun encoded hfind => ?_,
      fun encoded hfind => ?_⟩
    · obtain ⟨columns, members, entries, hmembers, hall, -⟩ :=
        Member.exists_iff.mp ⟨_, h.appendValues⟩ encoded hfind
      exact ⟨members, hmembers, Scan.exists_forall₂_iff.mp ⟨entries, hall⟩⟩
    · exact Elements.exists_iff.mp (Member.exists_iff.mp ⟨_, h.updateCells⟩ encoded hfind)
    · obtain ⟨removed, rows, hrows, -⟩ := Member.exists_iff.mp ⟨_, h.removeRows⟩ encoded hfind
      exact Elements.exists_iff.mp ⟨rows, hrows⟩

/-! ## The contract -/

theorem ExactDelta.narrowed {delta : Value} {read : TableDeltaView} (h : ExactDelta delta read) :
    DeltaPayload Narrowed KeepsFirst delta read :=
  h.imp (fun _ _ _ => Index.narrowed) fun _ _ _ _ hcarries => (carries_iff.mp hcarries).1

/-- What is exact has no index that overflows, and no columns that conflict. -/
theorem ExactDelta.sound {delta : Value} {read : TableDeltaView} (h : ExactDelta delta read) :
    ¬ IndexOverflows delta ∧ ¬ ColumnsConflict delta := by
  constructor
  · rintro ⟨value, hvalue, number, hnumber, hwide⟩
    obtain ⟨n, hn, -⟩ := h.index_of_mem hvalue
    rw [Option.some.inj (hnumber.symm.trans hn)] at hwide
    exact hwide (fitsInt_toInt n)
  · rintro ⟨members, hfind, a, ha, b, hb, hsame, hne⟩
    rcases h.appendValues with ⟨hnone, -⟩ | ⟨encoded, hfind', members', entries, rfl, hall,
      hcarries⟩
    · exact nomatch hnone.symm.trans hfind
    · obtain rfl := Value.object.inj (Option.some.inj (hfind.symm.trans hfind'))
      exact hne ((agree_iff hall).mp (carries_iff.mp hcarries).2 a ha b hb hsame)

theorem DeltaPayload.exact {delta : Value} {read : TableDeltaView}
    (h : DeltaPayload Narrowed KeepsFirst delta read) (hindex : ¬ IndexOverflows delta)
    (hcolumns : ¬ ColumnsConflict delta) : ExactDelta delta read := by
  refine h.imp (fun value hvalue n hn => ?_) fun members entries hfind hall hfirst => ?_
  · refine hn.index fun number hnumber => ?_
    by_contra hwide
    exact hindex ⟨value, hvalue, number, hnumber, hwide⟩
  · refine carries_iff.mpr ⟨hfirst, (agree_iff hall).mpr fun a ha b hb hsame => ?_⟩
    by_contra hne
    exact hcolumns ⟨members, hfind, a, ha, b, hb, hsame, hne⟩

/-- The reader keeps the contract of a delta unless the delta is typed and still has an index
outside `int` or two columns of one number. -/
theorem tableDelta_exact (view : WidgetDataView) (name : Bytes) (delta : Value)
    (h : view.member name "table_delta" = some delta) :
    (∀ read, view.tableDelta name = some read ↔ ExactDelta delta read) ↔
      (TypedDelta delta → ¬ IndexOverflows delta ∧ ¬ ColumnsConflict delta) := by
  constructor
  · intro hexact htyped
    obtain ⟨read, hread⟩ := typedDelta_iff.mp htyped
    exact ((hexact read).mp ((tableDelta_iff h).mpr hread)).sound
  · intro hsound read
    rw [tableDelta_iff h]
    constructor
    · intro hread
      obtain ⟨hindex, hcolumns⟩ := hsound (typedDelta_iff.mpr ⟨read, hread⟩)
      exact hread.exact hindex hcolumns
    · exact ExactDelta.narrowed

/-- A delta that removes the row `2 ^ 32`, which no table has. -/
def wideRemoval : Value :=
  .object [(text "remove_rows", .array [.unsigned 4294967296]), (text "seq", .unsigned 1)]

/-- It is read as one that removes the first row. -/
theorem wideRemoval_narrowed :
    (WidgetDataView.mk (.object [(text "table", .object [(text "table_delta", wideRemoval)])])).tableDelta
        (text "table") = some { seq := 1, removeRows := [0] } ∧
      ∀ read, ¬ ExactDelta wideRemoval read := by
  refine ⟨by decide +kernel,
    fun read h => h.sound.1 ⟨.unsigned 4294967296, ?_, 4294967296, rfl, ?_⟩⟩
  · exact List.mem_singleton_self _
  · exact fun hfits => absurd hfits.2 (by decide)

/-- A delta that removes the sixth row. -/
def plainRemoval : Value :=
  .object [(text "remove_rows", .array [.unsigned 5]), (text "seq", .unsigned 7)]

theorem plainRemoval_exact : ExactDelta plainRemoval { seq := 7, removeRows := [5] } := by
  refine ((tableDelta_exact
    ⟨.object [(text "table", .object [(text "table_delta", plainRemoval)])]⟩ (text "table")
      plainRemoval rfl).mpr (fun _ => ⟨?_, ?_⟩) _).mp (by decide +kernel)
  · rintro ⟨value, hvalue, number, hnumber, hwide⟩
    rw [List.mem_singleton.mp hvalue] at hnumber
    rw [← Option.some.inj hnumber] at hwide
    exact hwide ⟨by decide, by decide⟩
  · rintro ⟨members, hfind, -⟩
    exact nomatch hfind

end Dialog

end PlotJugglerSdk
