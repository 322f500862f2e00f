import Mathlib.Data.List.DropRight
import PlotJugglerSdk.Dialog.SortKeys

/-!
# The delta of a sequence of calls

The calls that change a table add to one delta as long as they name one sequence number; another
number starts a fresh delta. Of each kind of operation the last call counts.

* `lastDelta`          — the operations since the number last changed
* `get_tableDelta`     — the member of a widget is the delta of these
* `tableDelta_arrives` — and what the reader makes of it
-/

namespace PlotJugglerSdk

namespace Dialog

open Wire Json Lexing Value WidgetEvent

/-! ## Operations -/

/-- Rows of texts are rows without keys. -/
def plainRows (rows : List (List Bytes)) : List (List TableItem) :=
  rows.map fun row => row.map fun content => { text := content }

def displayTexts (rows : List (List TableItem)) : List (List Bytes) :=
  rows.map fun row => row.map TableItem.text

theorem displayTexts_plainRows (rows : List (List Bytes)) :
    displayTexts (plainRows rows) = rows := by
  unfold displayTexts plainRows
  rw [List.map_map]
  refine (List.map_congr_left fun row _ => ?_).trans (List.map_id rows)
  show (row.map fun content => ({ text := content } : TableItem)).map TableItem.text = id row
  rw [List.map_map]
  exact List.map_id row

theorem plainRows_keyless (rows : List (List Bytes)) (column : Nat) :
    ¬ HasKeys (plainRows rows) column := by
  rintro ⟨row, hrow, hkey⟩
  obtain ⟨texts, -, rfl⟩ := List.mem_map.mp hrow
  unfold keyIn at hkey
  rw [List.getElem?_map] at hkey
  cases hcell : texts[column]? with
  | none =>
    rw [hcell] at hkey
    exact Bool.false_ne_true hkey
  | some content =>
    rw [hcell] at hkey
    exact Bool.false_ne_true hkey

theorem keyColumns_plainRows (rows : List (List Bytes)) : keyColumns (plainRows rows) = [] :=
  keyColumns_eq_nil _ (plainRows_keyless rows)

namespace DeltaOp

/-- The rows that an operation appends. -/
def appended : DeltaOp → Option (List (List TableItem))
  | append rows => some (plainRows rows)
  | appendItems rows => some rows
  | _ => none

/-- The cells that it replaces. -/
def updated : DeltaOp → Option (List TableCellUpdate)
  | updateCells cells => some cells
  | _ => none

/-- The rows that it removes. -/
def removed : DeltaOp → Option (List Int32)
  | removeRows rows => some rows
  | _ => none

end DeltaOp

/-- What the last operation of a kind says. -/
def lastOp {α : Type} (get : DeltaOp → Option (List α)) (ops : List DeltaOp) : List α :=
  ((ops.filterMap get).getLast?).getD []

/-- The operations under the sequence number that stands: those since it last changed. -/
def lastDelta (ops : List (UInt64 × DeltaOp)) : Option (UInt64 × List DeltaOp) :=
  ops.getLast?.map fun last => (last.1, (ops.rtakeWhile fun op => op.1 = last.1).map Prod.snd)

theorem lastDelta_concat (ops : List (UInt64 × DeltaOp)) (seq : UInt64) (op : DeltaOp) :
    lastDelta (ops ++ [(seq, op)]) =
      some (seq, ((lastDelta ops).elim [] fun delta => if delta.1 = seq then delta.2 else []) ++ [op]) := by
  have hsame : (ops.rtakeWhile fun op => op.1 = seq).map Prod.snd =
      (lastDelta ops).elim [] fun delta => if delta.1 = seq then delta.2 else [] := by
    unfold lastDelta
    cases hlast : ops.getLast? with
    | none =>
      rw [List.getLast?_eq_none_iff.mp hlast]
      rfl
    | some last =>
      rw [Option.map_some, Option.elim_some]
      dsimp only
      split
      · rename_i heq
        rw [heq]
      · rename_i hne
        obtain ⟨front, rfl⟩ := List.getLast?_eq_some_iff.mp hlast
        rw [List.rtakeWhile_concat, if_neg fun htrue => hne (of_decide_eq_true htrue)]
        rfl
  show ((ops ++ [(seq, op)]).getLast?).map _ = _
  rw [List.getLast?_concat, Option.map_some, List.rtakeWhile_concat, if_pos (decide_eq_true rfl),
    List.map_append, hsame]
  rfl

/-! ## The member of a widget -/

/-- The object of a delta. -/
def deltaMembers (seq : UInt64) (ops : List DeltaOp) : Members :=
  ops.foldl (fun delta op => delta.edited op.edits) [(text "seq", .unsigned seq)]

theorem deltaMembers_concat (seq : UInt64) (ops : List DeltaOp) (op : DeltaOp) :
    deltaMembers seq (ops ++ [op]) = (deltaMembers seq ops).edited op.edits := by
  unfold deltaMembers
  rw [List.foldl_append, List.foldl_cons, List.foldl_nil]

section Members

variable (seq : UInt64) (ops : List DeltaOp)

/-- No operation writes the number. -/
theorem get_seq : (deltaMembers seq ops).get "seq" = some (.unsigned seq) := by
  have hwritten (op : DeltaOp) :
      op.edits.reverse.lookup "seq" = (none : Option Value).map some := by
    cases op <;> rfl
  have hnone : ops.filterMap (fun _ => (none : Option Value)) = [] :=
    List.filterMap_eq_nil_iff.mpr fun _ _ => rfl
  refine (Members.get_foldl_edited hwritten ops _).trans ?_
  rw [hnone]
  rfl

theorem get_append :
    (deltaMembers seq ops).get "append" =
      ((ops.filterMap DeltaOp.appended).getLast?).map fun rows => textRows (displayTexts rows) := by
  have hwritten (op : DeltaOp) : op.edits.reverse.lookup "append" =
      op.appended.map fun rows => some (textRows (displayTexts rows)) := by
    cases op with
    | append rows =>
      show _ = some (some (textRows (displayTexts (plainRows rows))))
      rw [displayTexts_plainRows]
      rfl
    | _ => rfl
  refine (Members.get_foldl_edited hwritten ops _).trans ?_
  cases (ops.filterMap DeltaOp.appended).getLast? <;> rfl

theorem get_appendValues :
    (deltaMembers seq ops).get "append_values" =
      ((ops.filterMap DeltaOp.appended).getLast?).bind fun rows =>
        columnsMember (keyColumns rows) := by
  have hwritten (op : DeltaOp) : op.edits.reverse.lookup "append_values" =
      op.appended.map fun rows => columnsMember (keyColumns rows) := by
    cases op with
    | append rows =>
      show _ = some (columnsMember (keyColumns (plainRows rows)))
      rw [keyColumns_plainRows]
      rfl
    | _ => rfl
  refine (Members.get_foldl_edited hwritten ops _).trans ?_
  cases (ops.filterMap DeltaOp.appended).getLast? <;> rfl

theorem get_updateCells :
    (deltaMembers seq ops).get "update_cells" =
      ((ops.filterMap DeltaOp.updated).getLast?).map fun cells =>
        .array (cells.map TableCellUpdate.toJson) := by
  have hwritten (op : DeltaOp) : op.edits.reverse.lookup "update_cells" =
      op.updated.map fun cells => some (.array (cells.map TableCellUpdate.toJson)) := by
    cases op <;> rfl
  refine (Members.get_foldl_edited hwritten ops _).trans ?_
  cases (ops.filterMap DeltaOp.updated).getLast? <;> rfl

theorem get_removeRows :
    (deltaMembers seq ops).get "remove_rows" =
      ((ops.filterMap DeltaOp.removed).getLast?).map fun rows => .array (rows.map ofInt) := by
  have hwritten (op : DeltaOp) : op.edits.reverse.lookup "remove_rows" =
      op.removed.map fun rows => some (.array (rows.map ofInt)) := by
    cases op <;> rfl
  refine (Members.get_foldl_edited hwritten ops _).trans ?_
  cases (ops.filterMap DeltaOp.removed).getLast? <;> rfl

end Members

/-- A call without an operation leaves the delta. -/
theorem change_delta_none {call : Call} (h : call.deltaOp = none) (entry : Members) :
    (call.change entry).get "table_delta" = entry.get "table_delta" := by
  cases call with
  | assign name plain =>
    refine get_change_of_not_mem (fun hmem => ?_) entry
    obtain ⟨edit, hedit, hkey⟩ := List.mem_map.mp hmem
    obtain ⟨member, hmember, rfl⟩ := List.mem_map.mp hedit
    have hapart := List.all_eq_true.mp plain.apart member hmember
    rw [show member.1 = "table_delta" from hkey] at hapart
    exact absurd hapart (by decide)
  | setFilePickerOptions name buttonText options =>
    refine get_change_of_not_mem ?_ entry
    obtain ⟨mode⟩ := options
    cases mode <;> exact of_decide_eq_true rfl
  | appendTableRows name seq rows => exact nomatch h
  | appendTableItems name seq rows => exact nomatch h
  | updateTableCells name seq cells => exact nomatch h
  | removeTableRows name seq rows => exact nomatch h
  | _ => exact get_change_of_not_mem (of_decide_eq_true rfl) entry

theorem change_delta_some {call : Call} {seq : UInt64} {op : DeltaOp}
    (h : call.deltaOp = some (seq, op))
    (entry : Members) :
    (call.change entry).get "table_delta" =
      some (.object ((tableDeltaEntry seq entry).edited op.edits)) := by
  have hchange : call.change entry =
      entry.set "table_delta" (.object ((tableDeltaEntry seq entry).edited op.edits)) := by
    cases call with
    | appendTableRows name seq rows => obtain ⟨rfl, rfl⟩ := Prod.mk.inj (Option.some.inj h); rfl
    | appendTableItems name seq rows => obtain ⟨rfl, rfl⟩ := Prod.mk.inj (Option.some.inj h); rfl
    | updateTableCells name seq cells => obtain ⟨rfl, rfl⟩ := Prod.mk.inj (Option.some.inj h); rfl
    | removeTableRows name seq rows => obtain ⟨rfl, rfl⟩ := Prod.mk.inj (Option.some.inj h); rfl
    | _ => exact nomatch h
  rw [hchange, Members.get_set, if_pos rfl]

/-- The entry that an operation is added to holds the operations under its number so far. -/
theorem tableDeltaEntry_eq {entry : Members} {delta : Option (UInt64 × List DeltaOp)}
    (h : entry.get "table_delta" = delta.map fun delta => .object (deltaMembers delta.1 delta.2))
    (seq : UInt64) :
    tableDeltaEntry seq entry =
      deltaMembers seq (delta.elim [] fun delta => if delta.1 = seq then delta.2 else []) := by
  unfold tableDeltaEntry
  dsimp only
  rw [h]
  cases delta with
  | none => rfl
  | some delta =>
    dsimp only [Option.map_some, Option.elim_some, objectOf]
    rw [get_seq]
    dsimp only
    split
    · rename_i hsame
      rw [hsame]
    · rfl

/-- What stands in a widget is the delta of the last operations on it. -/
theorem get_tableDelta (calls : List Call) :
    (entryAfter calls).get "table_delta" =
      (lastDelta (calls.filterMap Call.deltaOp)).map fun delta =>
        .object (deltaMembers delta.1 delta.2) := by
  induction calls using List.reverseRecOn with
  | nil => rfl
  | append_singleton calls call ih =>
    rw [entryAfter_concat, List.filterMap_append]
    cases hop : call.deltaOp with
    | none =>
      rw [change_delta_none hop, ih, List.filterMap_cons_none hop, List.filterMap_nil,
        List.append_nil]
    | some delta =>
      obtain ⟨seq, op⟩ := delta
      rw [change_delta_some hop, tableDeltaEntry_eq ih, List.filterMap_cons_some hop,
        List.filterMap_nil,
        lastDelta_concat, Option.map_some, deltaMembers_concat]

/-! ## The delta that is read -/

/-- A cell that is read, beside the one that was sent. -/
structure CellUpdateArrives (sent : TableCellUpdate) (read : CellUpdate) : Prop where
  row : read.row = sent.row
  col : read.col = sent.col
  text : read.text = sent.item.text
  key : SameKey sent.item.value read.value

/-- The delta that is read has the operations, its removals descending and each once. -/
structure DeltaArrives (seq : UInt64) (ops : List DeltaOp) (read : TableDeltaView) : Prop where
  seq : read.seq = seq
  append : read.append = displayTexts (lastOp DeltaOp.appended ops)
  appendValues : ColumnsArrive (lastOp DeltaOp.appended ops) read.appendValues
  updateCells : List.Forall₂ CellUpdateArrives (lastOp DeltaOp.updated ops) read.updateCells
  removeRows : read.removeRows.Pairwise (· > ·) ∧
    ∀ row, row ∈ read.removeRows ↔ row ∈ lastOp DeltaOp.removed ops

/-- The rows and columns that the operations name are not negative. -/
structure IndicesNonNegative (ops : List DeltaOp) : Prop where
  cells : ∀ cell ∈ lastOp DeltaOp.updated ops, 0 ≤ cell.row ∧ 0 ≤ cell.col
  rows : ∀ row ∈ lastOp DeltaOp.removed ops, 0 ≤ row

/-- The columns of the keys that are appended are numbers of the type `int`. -/
def ColumnsFit (ops : List DeltaOp) : Prop :=
  ∀ column, HasKeys (lastOp DeltaOp.appended ops) column → column < 2 ^ 31

theorem textRows_arrived (rows : List (List Bytes)) : (textRows rows).arrived = textRows rows := by
  unfold textRows
  rw [arrived_array, List.map_map]
  congr 1
  exact List.map_congr_left fun row _ => arrived_strings row

/-- An index arrives as the number it was. -/
theorem narrowed_arrived {n : Int32} (h : 0 ≤ n) : Narrowed (ofInt n).arrived n :=
  ⟨(asWrappedInt_eq _).symm.trans (asWrappedInt_ofInt n), h⟩

/-- What the reader makes of a cell. -/
def arrivedUpdate (cell : TableCellUpdate) : CellUpdate where
  row := cell.row
  col := cell.col
  text := cell.item.text
  value := arrivedKey cell.item.value

theorem cellPayload_arrived {cell : TableCellUpdate} (hrow : 0 ≤ cell.row) (hcol : 0 ≤ cell.col) :
    CellPayload Narrowed cell.toJson.arrived (arrivedUpdate cell) := by
  obtain ⟨row, col, ⟨content, value⟩⟩ := cell
  unfold TableCellUpdate.toJson
  rw [arrived_array]
  cases value with
  | none => exact .keyless content (narrowed_arrived hrow) (narrowed_arrived hcol)
  | some key =>
    exact .keyed content (narrowed_arrived hrow) (narrowed_arrived hcol)
      (keyPayload_arrived (some key))

section Read

variable {seq : UInt64} {ops : List DeltaOp} {delta : Value}

/-- The members of the delta that arrives. -/
def IsDelta (seq : UInt64) (ops : List DeltaOp) (delta : Value) : Prop :=
  delta = (Value.object (deltaMembers seq ops)).arrived

theorem find_delta (h : IsDelta seq ops delta) (key : String) :
    delta.find key = ((deltaMembers seq ops).get key).map Value.arrived := by
  rw [show delta = _ from h]
  exact find_arrived_object key _

theorem append_arrives (h : IsDelta seq ops delta) :
    Member delta "append" [] (Elements fun row cells => row = strings cells)
      (displayTexts (lastOp DeltaOp.appended ops)) := by
  unfold Member lastOp
  rw [find_delta h, get_append]
  cases (ops.filterMap DeltaOp.appended).getLast? with
  | none => exact .inl ⟨rfl, rfl⟩
  | some rows =>
    refine .inr ⟨_, congrArg some (textRows_arrived _), _, rfl, ?_⟩
    rw [List.forall₂_map_left_iff]
    exact List.forall₂_same.mpr fun row _ => rfl

/-- The member with the keys of appended rows, where there are keys. -/
theorem find_appendValues (h : IsDelta seq ops delta) :
    delta.find "append_values" =
      if keyColumns (lastOp DeltaOp.appended ops) = [] then none
      else some (.object (arrivedMembers (lastOp DeltaOp.appended ops))) := by
  rw [find_delta h, get_appendValues]
  unfold lastOp columnsMember arrivedMembers
  cases (ops.filterMap DeltaOp.appended).getLast? with
  | none => rfl
  | some rows =>
    rw [Option.bind_some, Option.getD_some]
    by_cases hnil : keyColumns rows = []
    · rw [if_pos hnil, if_pos (List.isEmpty_iff.mpr hnil)]
      rfl
    · rw [if_neg hnil, if_neg fun hempty => hnil (List.isEmpty_iff.mp hempty), Option.map_some,
        arrived_object]

theorem appendValues_member (h : IsDelta seq ops delta) (hfits : ColumnsFit ops) :
    ∃ columns, Member delta "append_values" []
        (ColumnsPayload (lastOp DeltaOp.appended ops).length KeepsFirst) columns ∧
      ColumnsArrive (lastOp DeltaOp.appended ops) columns := by
  have hfind := find_appendValues h
  obtain ⟨columns, hpayload, harrive⟩ := appendValues_arrive (lastOp DeltaOp.appended ops) hfits
  split at hfind
  · exact ⟨[], .inl ⟨hfind, rfl⟩, columnsArrive_nil _ ‹_›⟩
  · exact ⟨columns, .inr ⟨_, hfind, hpayload⟩, harrive⟩

theorem updateCells_arrive (h : IsDelta seq ops delta) (hindices : IndicesNonNegative ops) :
    ∃ cells, Member delta "update_cells" [] (Elements (CellPayload Narrowed)) cells ∧
      List.Forall₂ CellUpdateArrives (lastOp DeltaOp.updated ops) cells := by
  have hcells := hindices.cells
  unfold Member
  rw [find_delta h, get_updateCells]
  unfold lastOp at hcells ⊢
  cases hlast : (ops.filterMap DeltaOp.updated).getLast? with
  | none => exact ⟨[], .inl ⟨rfl, rfl⟩, .nil⟩
  | some cells =>
    rw [hlast, Option.getD_some] at hcells
    refine ⟨cells.map arrivedUpdate, .inr ⟨_, rfl, _, arrived_array _, ?_⟩, ?_⟩
    · rw [List.map_map, List.forall₂_map_left_iff, List.forall₂_map_right_iff]
      exact List.forall₂_same.mpr fun cell hcell =>
        cellPayload_arrived (hcells cell hcell).1 (hcells cell hcell).2
    · rw [Option.getD_some, List.forall₂_map_right_iff]
      exact List.forall₂_same.mpr fun cell _ => ⟨rfl, rfl, rfl, sameKey_arrived cell.item.value⟩

theorem removeRows_arrive (h : IsDelta seq ops delta) (hindices : IndicesNonNegative ops) :
    Member delta "remove_rows" [] (RemovedPayload Narrowed)
      (descending (lastOp DeltaOp.removed ops)) := by
  have hrows := hindices.rows
  unfold Member
  rw [find_delta h, get_removeRows]
  unfold lastOp at hrows ⊢
  cases hlast : (ops.filterMap DeltaOp.removed).getLast? with
  | none => exact .inl ⟨rfl, (eq_descending_iff.mpr ⟨.nil, fun _ => Iff.rfl⟩).symm⟩
  | some rows =>
    rw [hlast, Option.getD_some] at hrows
    refine .inr ⟨_, rfl, rows, ⟨_, arrived_array _, ?_⟩, eq_descending_iff.mp rfl⟩
    rw [List.map_map, List.forall₂_map_left_iff]
    exact List.forall₂_same.mpr fun row hrow => narrowed_arrived (hrows row hrow)

end Read

section Views

variable {view : WidgetDataView} {name : Bytes} {seq : UInt64} {ops : List DeltaOp} {delta : Value}
  (hmember : view.member name "table_delta" = some delta) (h : IsDelta seq ops delta)

include hmember h

/-- The delta is read with the operations that were written, where its indices are not negative. -/
theorem tableDelta_arrives (hindices : IndicesNonNegative ops) (hfits : ColumnsFit ops) :
    ∃ read, view.tableDelta name = some read ∧ DeltaArrives seq ops read := by
  obtain ⟨columns, hvalues, hcolumns⟩ := appendValues_member h hfits
  obtain ⟨cells, hcells, hupdates⟩ := updateCells_arrive h hindices
  refine ⟨⟨seq, displayTexts (lastOp DeltaOp.appended ops), columns, cells,
    descending (lastOp DeltaOp.removed ops)⟩, (tableDelta_iff hmember).mpr ?_, ?_⟩
  · have hlength : (displayTexts (lastOp DeltaOp.appended ops)).length =
        (lastOp DeltaOp.appended ops).length := List.length_map _
    refine ⟨?_, append_arrives h, ?_, hcells, removeRows_arrive h hindices⟩
    · rw [find_delta h, get_seq]
      rfl
    · rw [hlength]
      exact hvalues
  · exact ⟨rfl, rfl, hcolumns, hupdates, eq_descending_iff.mp rfl⟩

/-- A column that is no `int` takes the whole delta away. -/
theorem tableDelta_refused {column : Nat} (hhas : HasKeys (lastOp DeltaOp.appended ops) column)
    (hwide : ¬ column < 2 ^ 31) : view.tableDelta name = none := by
  by_contra hsome
  obtain ⟨read, hread⟩ := Option.ne_none_iff_exists'.mp hsome
  have hmissing : keyColumns (lastOp DeltaOp.appended ops) ≠ [] :=
    List.ne_nil_of_mem ((mem_keyColumns _ _).mpr ⟨column, hhas, rfl⟩)
  have hfind := find_appendValues h
  rw [if_neg hmissing] at hfind
  rcases ((tableDelta_iff hmember).mp hread).appendValues with ⟨hnone, -⟩ | ⟨encoded, hencoded,
    hpayload⟩
  · exact nomatch hnone.symm.trans hfind
  · obtain rfl := Option.some.inj (hfind.symm.trans hencoded)
    exact appendValues_refused _ hhas hwide hpayload

end Views

end Dialog

end PlotJugglerSdk
