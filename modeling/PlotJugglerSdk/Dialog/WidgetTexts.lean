import PlotJugglerSdk.Dialog.WidgetChannels
import PlotJugglerSdk.Lexing.Utf8
import PlotJugglerSdk.Scan.Folds

/-!
# The text of a document

A document is printed where its strings are UTF-8. Each encoder of the builder keeps to that, and
so does each setter; the document of a sequence of calls with valid texts has a text
(`run_dumps`).
-/

namespace PlotJugglerSdk

namespace Dialog

open Json Lexing Value Wire

/-! ## Encoders -/

theorem dumps_ofInt (value : Int32) : (ofInt value).Dumps := trivial

theorem dumps_map {α : Type} {encode : α → Value} {items : List α}
    (h : ∀ item ∈ items, (encode item).Dumps) : (Value.array (items.map encode)).Dumps := by
  refine dumps_array fun value hvalue => ?_
  obtain ⟨item, hitem, rfl⟩ := List.mem_map.mp hvalue
  exact h item hitem

theorem NumericValue.dumps (value : NumericValue) : value.toJson.Dumps := by
  cases value with
  | float bits => exact dumps_float _
  | double bits => exact dumps_float _
  | _ => trivial

theorem keyToJson_dumps (key : Option NumericValue) : (keyToJson key).Dumps := by
  cases key with
  | none => trivial
  | some value => exact value.dumps

theorem textRows_dumps {rows : List (List Bytes)} (h : ∀ row ∈ rows, Event.AllUtf8 row) :
    (textRows rows).Dumps := dumps_map fun row hrow => dumps_strings (h row hrow)

/-- Members whose keys and values are printed. -/
def DumpsAll (members : Members) : Prop := ∀ member ∈ members, ValidUtf8 member.1 ∧ member.2.Dumps

theorem DumpsAll.setAt {members : Members} (h : DumpsAll members) {key : Bytes} {value : Value}
    (hkey : ValidUtf8 key) (hvalue : value.Dumps) : DumpsAll (members.setAt key value) := by
  intro member hmember
  rcases SortedMap.mem_insert hmember with rfl | hmember
  · exact ⟨hkey, hvalue⟩
  · exact h member hmember

theorem DumpsAll.set {members : Members} (h : DumpsAll members) (key : String) {value : Value}
    (hvalue : value.Dumps) : DumpsAll (members.set key value) := h.setAt (validUtf8_text key) hvalue

theorem DumpsAll.remove {members : Members} (h : DumpsAll members) (key : String) :
    DumpsAll (members.remove key) := fun member hmember => h member (SortedMap.mem_erase hmember)

theorem DumpsAll.edited {members : Members} (h : DumpsAll members)
    {edits : List (String × Option Value)}
    (hedits : ∀ edit ∈ edits, ∀ value ∈ edit.2, value.Dumps) :
    DumpsAll (members.edited edits) := by
  unfold Members.edited
  induction edits generalizing members with
  | nil => exact h
  | cons edit edits ih =>
    refine ih ?_ fun other hother => hedits other (List.mem_cons_of_mem _ hother)
    obtain ⟨key, change⟩ := edit
    cases change with
    | none => exact h.remove key
    | some value => exact h.set key (hedits (key, some value) List.mem_cons_self value rfl)

theorem dumpsAll_nil : DumpsAll [] := fun _ hmember => nomatch hmember

theorem keyColumns_dumps (rows : List (List TableItem)) : DumpsAll (keyColumns rows) := by
  unfold keyColumns
  dsimp only
  generalize List.range _ = indices
  have hfold (columns : Members) (h : DumpsAll columns) :
      DumpsAll (indices.foldl (fun columns column =>
        if rows.any fun row => (keyIn column row).isSome then
          columns.setAt (decimalText column)
            (.array (rows.map fun row => keyToJson (keyIn column row)))
        else columns) columns) := by
    induction indices generalizing columns with
    | nil => exact h
    | cons column indices ih =>
      rw [List.foldl_cons]
      refine ih _ ?_
      split
      · exact h.setAt (validUtf8_decimalText _) (dumps_map fun row _ => keyToJson_dumps _)
      · exact h
  exact hfold [] dumpsAll_nil

theorem columnsMember_dumps {columns : Members} (h : DumpsAll columns) :
    ∀ value ∈ columnsMember columns, value.Dumps := by
  intro value hvalue
  unfold columnsMember at hvalue
  split at hvalue
  · exact nomatch hvalue
  · obtain rfl := Option.some.inj hvalue
    exact dumps_object.mpr h

/-- Members under spelled keys whose values are printed. -/
def DumpsEach (members : List (String × Value)) : Prop := ∀ member ∈ members, member.2.Dumps

theorem DumpsEach.nil : DumpsEach [] := fun _ hmember => nomatch hmember

theorem DumpsEach.cons {key : String} {value : Value} {members : List (String × Value)}
    (hvalue : value.Dumps) (h : DumpsEach members) : DumpsEach ((key, value) :: members) :=
  List.forall_mem_cons.mpr ⟨hvalue, h⟩

theorem DumpsEach.append {members members' : List (String × Value)} (h : DumpsEach members)
    (h' : DumpsEach members') : DumpsEach (members ++ members') :=
      List.forall_mem_append.mpr ⟨h, h'⟩

/-- A member that is written only where it says something. -/
theorem DumpsEach.optional {given : Prop} [Decidable given] {key : String} {value : Value}
    (h : value.Dumps) : DumpsEach (if given then [(key, value)] else []) := by
  split
  · exact .cons h .nil
  · exact .nil

theorem ChartSeries.dumps {series : ChartSeries} (hlabel : ValidUtf8 series.label)
    (hcolor : ValidUtf8 series.color) : series.toJson.Dumps := by
  have hpoints : (Value.array (series.points.map fun point =>
      .array [.float point.x, .float point.y])).Dumps := by
    refine dumps_map fun point _ => dumps_array ?_
    exact List.forall_mem_cons.mpr ⟨dumps_float _, List.forall_mem_singleton.mpr (dumps_float _)⟩
  refine dumps_fields ?_
  exact (DumpsEach.append (.append (.cons (dumps_string hlabel) (.cons hpoints .nil))
    (.optional (dumps_string hcolor))) (.optional trivial))

theorem SceneView.dumps {view : SceneView} (hkind : ValidUtf8 view.kind)
    (htopics : ∀ topic ∈ view.topics, ValidUtf8 topic.topic ∧ ValidUtf8 topic.dataset) :
    view.toJson.Dumps := by
  refine dumps_fields (DumpsEach.cons (dumps_string hkind) (.cons ?_ .nil))
  refine dumps_map fun topic htopic => dumps_fields ?_
  obtain ⟨hname, hdataset⟩ := htopics topic htopic
  exact DumpsEach.cons (dumps_string hname) (.cons (dumps_string hdataset) .nil)

theorem RangeSliderMarker.dumps {marker : RangeSliderMarker} (h : ValidUtf8 marker.label) :
    marker.toJson.Dumps :=
  dumps_fields (DumpsEach.cons trivial (.cons trivial (.cons (dumps_string h) .nil)))

theorem TreeCell.dumps {cell : TreeCell} (htext : ValidUtf8 cell.text)
    (htooltip : ValidUtf8 cell.tooltip) (hicon : ValidUtf8 cell.icon) : cell.toJson.Dumps := by
  have hkey : DumpsEach (cell.sortValue.toList.map fun value => ("sort_value", value.toJson)) := by
    intro member hmember
    obtain ⟨value, -, rfl⟩ := List.mem_map.mp hmember
    exact value.dumps
  refine dumps_fields (DumpsEach.append (.append (.append ?_ hkey) ?_) ?_)
  · exact .cons (dumps_string htext) .nil
  · exact .optional (dumps_string htooltip)
  · exact .optional (dumps_string hicon)

theorem TreeItem.dumps {item : TreeItem} (hid : ValidUtf8 item.id)
    (hparent : ValidUtf8 item.parentId)
    (hcells : ∀ cell ∈ item.cells,
      ValidUtf8 cell.text ∧ ValidUtf8 cell.tooltip ∧ ValidUtf8 cell.icon) : item.toJson.Dumps := by
  refine dumps_fields (DumpsEach.cons (dumps_string hid) (.cons (dumps_string hparent) (.cons ?_
    (.cons trivial
      (.cons trivial (.cons (dumps_string (validUtf8_text _)) (.cons trivial .nil)))))))
  refine dumps_map fun cell hcell => ?_
  obtain ⟨htext, htooltip, hicon⟩ := hcells cell hcell
  exact TreeCell.dumps htext htooltip hicon

theorem FilePickerFilter.dumps {filter : FilePickerFilter} (hid : ValidUtf8 filter.id)
    (hlabel : ValidUtf8 filter.label) (hpatterns : Event.AllUtf8 filter.patterns) :
    filter.toJson.Dumps :=
  dumps_fields (DumpsEach.cons (dumps_string hid) (.cons (dumps_string hlabel)
    (.cons (dumps_strings hpatterns) .nil)))

/-- The texts of picker options are UTF-8. -/
structure FilePickerOptions.ValidTexts (options : FilePickerOptions) : Prop where
  title : ValidUtf8 options.title
  acceptLabel : ValidUtf8 options.acceptLabel
  initialDirectory : ValidUtf8 options.initialDirectory
  suggestedName : ValidUtf8 options.suggestedName
  defaultSuffix : ValidUtf8 options.defaultSuffix
  selected : ValidUtf8 options.initiallySelectedFilterId
  filters : ∀ filter ∈ options.filters,
    ValidUtf8 filter.id ∧ ValidUtf8 filter.label ∧ Event.AllUtf8 filter.patterns

theorem FilePickerOptions.dumps {options : FilePickerOptions} (h : options.ValidTexts) :
    options.toJson.Dumps := by
  refine dumps_fields
    (DumpsEach.cons (dumps_string (validUtf8_text _)) (.cons (dumps_string h.title)
    (.cons (dumps_string h.acceptLabel) (.cons (dumps_string h.initialDirectory)
      (.cons (dumps_string h.suggestedName) (.cons (dumps_string h.defaultSuffix) (.cons ?_
        (.cons (dumps_string h.selected) (.cons trivial .nil)))))))))
  refine dumps_map fun filter hfilter => ?_
  obtain ⟨hid, hlabel, hpatterns⟩ := h.filters filter hfilter
  exact FilePickerFilter.dumps hid hlabel hpatterns

theorem validUtf8_flatten {texts : List Bytes} (h : Event.AllUtf8 texts) :
    ValidUtf8 texts.flatten := by
  induction texts with
  | nil => exact validUtf8_text ""
  | cons first texts ih =>
    obtain ⟨hfirst, hrest⟩ := List.forall_mem_cons.mp h
    exact validUtf8_append hfirst (ih hrest)

theorem allUtf8_intersperse {separator : Bytes} (hseparator : ValidUtf8 separator)
    {texts : List Bytes}
    (h : Event.AllUtf8 texts) : Event.AllUtf8 (List.intersperse separator texts) := by
  induction texts with
  | nil => exact h
  | cons first texts ih =>
    obtain ⟨hfirst, hrest⟩ := List.forall_mem_cons.mp h
    cases texts with
    | nil => exact h
    | cons next texts =>
      exact List.forall_mem_cons.mpr ⟨hfirst, List.forall_mem_cons.mpr ⟨hseparator, ih hrest⟩⟩

theorem legacyFilter_validUtf8 {filters : List FilePickerFilter}
    (h : ∀ filter ∈ filters, ValidUtf8 filter.label ∧ Event.AllUtf8 filter.patterns) :
    ValidUtf8 (legacyFilter filters) := by
  unfold legacyFilter
  suffices hfold : ∀ legacy, ValidUtf8 legacy → ValidUtf8 (filters.foldl
      (fun legacy filter =>
        (if legacy = [] then [] else legacy ++ text ";;") ++ filter.label ++ text " (" ++
          (List.intersperse (text " ") filter.patterns).flatten ++ text ")") legacy) from
    hfold [] (validUtf8_text "")
  induction filters with
  | nil => exact fun _ hlegacy => hlegacy
  | cons filter filters ih =>
    intro legacy hlegacy
    obtain ⟨⟨hlabel, hpatterns⟩, hrest⟩ := List.forall_mem_cons.mp h
    refine ih hrest _ ?_
    have hstart : ValidUtf8 (if legacy = [] then [] else legacy ++ text ";;") := by
      split
      · exact validUtf8_text ""
      · exact validUtf8_append hlegacy (validUtf8_text ";;")
    have hspaced := allUtf8_intersperse (validUtf8_text " ") hpatterns
    exact validUtf8_append (validUtf8_append (validUtf8_append (validUtf8_append hstart hlabel)
      (validUtf8_text " (")) (validUtf8_flatten hspaced)) (validUtf8_text ")")

/-! ## Calls -/

/-- The edits of an object whose values are printed. -/
def DumpsEdits (edits : List (String × Option Value)) : Prop :=
  ∀ edit ∈ edits, ∀ value ∈ edit.2, value.Dumps

theorem DumpsEdits.nil : DumpsEdits [] := fun _ hedit => nomatch hedit

theorem DumpsEdits.set {key : String} {value : Value} {edits : List (String × Option Value)}
    (hvalue : value.Dumps) (h : DumpsEdits edits) : DumpsEdits ((key, some value) :: edits) := by
  refine List.forall_mem_cons.mpr ⟨fun other hother => ?_, h⟩
  rw [← Option.some.inj hother]
  exact hvalue

theorem DumpsEdits.remove {key : String} {edits : List (String × Option Value)}
    (h : DumpsEdits edits) :
    DumpsEdits ((key, none) :: edits) :=
  List.forall_mem_cons.mpr ⟨(fun _ hnone => nomatch hnone), h⟩

theorem DumpsEdits.columns {key : String} {columns : Members} {edits : List (String × Option Value)}
    (hcolumns : DumpsAll columns) (h : DumpsEdits edits) :
    DumpsEdits ((key, columnsMember columns) :: edits) :=
  List.forall_mem_cons.mpr ⟨columnsMember_dumps hcolumns, h⟩

theorem typedRows_dumps {rows : List (List TableItem)} (h : Call.ValidRows rows) :
    (encodeTypedRows rows).1.Dumps := by
  refine textRows_dumps fun row hrow => ?_
  obtain ⟨items, hitems, rfl⟩ := List.mem_map.mp hrow
  intro display hdisplay
  obtain ⟨item, hitem, rfl⟩ := List.mem_map.mp hdisplay
  exact h items hitems item hitem

theorem TableCellUpdate.dumps {cell : TableCellUpdate} (h : ValidUtf8 cell.item.text) :
    cell.toJson.Dumps := by
  refine dumps_array (List.forall_mem_append.mpr ⟨?_, fun value hvalue => ?_⟩)
  · refine List.forall_mem_cons.mpr ⟨trivial, List.forall_mem_cons.mpr ⟨trivial, ?_⟩⟩
    exact List.forall_mem_singleton.mpr (dumps_string h)
  · obtain ⟨key, -, rfl⟩ := List.mem_map.mp hvalue
    exact key.dumps

theorem Call.deltaOp_dumps {call : Call} (h : call.ValidTexts) {seq : UInt64} {op : DeltaOp}
    (hop : call.deltaOp = some (seq, op)) : DumpsEdits op.edits := by
  cases call with
  | appendTableRows name seq' rows =>
    obtain ⟨rfl, rfl⟩ := Prod.mk.inj (Option.some.inj hop)
    exact .set (textRows_dumps h.2) (.remove .nil)
  | appendTableItems name seq' rows =>
    obtain ⟨rfl, rfl⟩ := Prod.mk.inj (Option.some.inj hop)
    exact .set (typedRows_dumps h.2) (.columns (keyColumns_dumps rows) .nil)
  | updateTableCells name seq' cells =>
    obtain ⟨rfl, rfl⟩ := Prod.mk.inj (Option.some.inj hop)
    exact .set (dumps_map fun cell hcell => TableCellUpdate.dumps (h.2 cell hcell)) .nil
  | removeTableRows name seq' rows =>
    obtain ⟨rfl, rfl⟩ := Prod.mk.inj (Option.some.inj hop)
    exact .set (dumps_map fun row _ => dumps_ofInt row) .nil
  | _ => exact nomatch hop

theorem Call.legacyPicker_dumps {options : FilePickerOptions} (h : options.ValidTexts) :
    DumpsEdits (Call.legacyPicker options) := by
  have hfilter : (Value.string (legacyFilter options.filters)).Dumps :=
    dumps_string (legacyFilter_validUtf8 fun filter hfilter => (h.filters filter hfilter).2)
  have haction (action : String) : (Value.string (text action)).Dumps :=
    dumps_string (validUtf8_text action)
  unfold Call.legacyPicker
  cases options.mode with
  | openFile => exact .set (haction _) (.set hfilter (.remove .nil))
  | openFiles => exact .set (haction _) (.set hfilter (.remove .nil))
  | saveFile => exact .set (haction _) (.set hfilter (.set (dumps_string h.defaultSuffix) .nil))
  | selectDirectory => exact .set (haction _) (.remove (.remove .nil))

theorem Call.pickerTexts {name buttonText : Bytes} {options : FilePickerOptions}
    (h : (Call.setFilePickerOptions name buttonText options).ValidTexts) : options.ValidTexts := by
  obtain ⟨-, -, htitle, haccept, hdirectory, hname, hsuffix, hselected, hfilters⟩ := h
  exact ⟨htitle, haccept, hdirectory, hname, hsuffix, hselected, hfilters⟩

theorem Call.edits_dumps {call : Call} (h : call.ValidTexts) : DumpsEdits call.edits := by
  have hspan (value : Int64) : (Value.string (decimalText value.toInt)).Dumps :=
    dumps_string (validUtf8_decimalText _)
  -- a call prints the texts it was given, and numbers, which always print
  cases call with
  | assign name plain =>
    intro edit hedit value hvalue
    obtain ⟨member, hmember, rfl⟩ := List.mem_map.mp hedit
    rw [← Option.some.inj hvalue]
    exact h.2 member hmember
  | setTableRows name rows => exact .set (textRows_dumps h.2) (.remove .nil)
  | setTableItems name rows =>
    exact .set (typedRows_dumps h.2) (.columns (keyColumns_dumps rows) .nil)
  | setTreeItems name items =>
    refine .set (dumps_map fun item hitem => ?_) .nil
    obtain ⟨hid, hparent, hcells⟩ := h.2 item hitem
    exact TreeItem.dumps hid hparent hcells
  | setTreeSelectedIds name ids => exact .set (dumps_strings h.2) .nil
  | setTreeExpandedIds name ids => exact .set (dumps_strings h.2) .nil
  | setTreeVisibleIds name ids => exact .set (dumps_strings h.2) .nil
  | clearTreeVisibleIds name => exact .set trivial .nil
  | setChartSeries name series =>
    refine .set (dumps_map fun curve hcurve => ?_) .nil
    obtain ⟨hlabel, hcolor⟩ := h.2 curve hcurve
    exact ChartSeries.dumps hlabel hcolor
  | clearChart name => exact .set trivial (.set trivial .nil)
  | setSceneView name view => exact .set (SceneView.dumps h.2.1 h.2.2) .nil
  | clearSceneView name => exact .set trivial .nil
  | setFilePickerOptions name buttonText options =>
    have hoptions := Call.pickerTexts h
    refine .set (dumps_string h.2.1) (.set (FilePickerOptions.dumps hoptions)
      (.set (dumps_string hoptions.title) ?_))
    exact Call.legacyPicker_dumps hoptions
  | setRangeSliderTimeSpan name minNs maxNs => exact .set (hspan minNs) (.set (hspan maxNs) .nil)
  | setRangeSliderMarkers name markers =>
    exact .set (dumps_map fun marker hmarker => RangeSliderMarker.dumps (h.2 marker hmarker)) .nil
  | setMarkerTimelineMarks name marks =>
    exact .set (dumps_map fun mark _ => dumps_fields
      (DumpsEach.cons trivial (.cons trivial (.cons trivial (.cons trivial .nil))))) .nil
  | setMarkerTimelineTimeSpan name minNs maxNs => exact .set (hspan minNs) (.set (hspan maxNs) .nil)
  | _ => exact .nil

/-! ## Documents -/

/-- The members of what stands in an object stand in a printed document, too. -/
theorem DumpsAll.objectOf {members : Members} (h : DumpsAll members) (key : Bytes) :
    DumpsAll (objectOf (members.lookup key)) := by
  cases hlookup : members.lookup key with
  | none => exact dumpsAll_nil
  | some value =>
    cases value with
    | object entry => exact dumps_object.mp (h _ (SortedMap.mem_of_lookup hlookup)).2
    | _ => exact dumpsAll_nil

theorem tableDeltaEntry_dumps {entry : Members} (h : DumpsAll entry) (seq : UInt64) :
    DumpsAll (tableDeltaEntry seq entry) := by
  have hfresh : DumpsAll [(text "seq", .unsigned seq)] :=
    List.forall_mem_singleton.mpr ⟨validUtf8_text "seq", trivial⟩
  unfold tableDeltaEntry
  dsimp only
  split
  · split
    · exact h.objectOf (text "table_delta")
    · exact hfresh
  · exact hfresh

theorem Call.change_dumps {call : Call} (h : call.ValidTexts) {entry : Members}
    (hentry : DumpsAll entry) : DumpsAll (call.change entry) := by
  have hdelta {seq : UInt64} {op : DeltaOp} (hop : call.deltaOp = some (seq, op)) :
      DumpsAll (entry.set "table_delta" (.object ((tableDeltaEntry seq entry).edited op.edits))) :=
    hentry.set _ (dumps_object.mpr
      ((tableDeltaEntry_dumps hentry seq).edited (Call.deltaOp_dumps h hop)))
  cases call with
  | setRowColor name row colorHex =>
    refine hentry.set _ (dumps_object.mpr ?_)
    exact (hentry.objectOf _).setAt (validUtf8_decimalText _) (dumps_string h.2)
  | setCellTooltip name row col tooltip =>
    refine hentry.set _ (dumps_object.mpr ?_)
    refine (hentry.objectOf _).setAt ?_ (dumps_string h.2)
    exact validUtf8_append (validUtf8_append (validUtf8_decimalText _) (validUtf8_text ","))
      (validUtf8_decimalText _)
  | appendTableRows name seq rows => exact hdelta rfl
  | appendTableItems name seq rows => exact hdelta rfl
  | updateTableCells name seq cells => exact hdelta rfl
  | removeTableRows name seq rows => exact hdelta rfl
  | _ => exact hentry.edited (Call.edits_dumps h)

theorem Call.target_validUtf8 {call : Call} (h : call.ValidTexts) {name : Bytes}
    (htarget : call.target = some name) : ValidUtf8 name := by
  cases call with
  | request command => exact nomatch htarget
  | removeTableRows | clearTreeVisibleIds | clearChart | clearSceneView | setRangeSliderTimeSpan
  | setMarkerTimelineMarks | setMarkerTimelineTimeSpan =>
    obtain rfl := Option.some.inj htarget
    exact h
  | _ =>
    obtain rfl := Option.some.inj htarget
    exact h.1

/-- A call with valid texts leaves a document that is printed. -/
theorem Call.run_dumps {call : Call} (h : call.ValidTexts) {data after : Members}
    (hdata : DumpsAll data) (hrun : call.run data = .ok after) : DumpsAll after := by
  have hmodify {name : Bytes} (hname : ValidUtf8 name)
      (hafter : modifyEntry name call.change data = .ok after) : DumpsAll after := by
    unfold modifyEntry at hafter
    split at hafter
    · obtain rfl := Except.ok.inj hafter
      exact hdata.setAt hname (dumps_object.mpr (Call.change_dumps h dumpsAll_nil))
    · obtain rfl := Except.ok.inj hafter
      exact hdata.setAt hname (dumps_object.mpr (Call.change_dumps h dumpsAll_nil))
    · rename_i entry hlookup
      obtain rfl := Except.ok.inj hafter
      have hentry := dumps_object.mp (hdata _ (SortedMap.mem_of_lookup hlookup)).2
      exact hdata.setAt hname (dumps_object.mpr (Call.change_dumps h hentry))
    · exact nomatch hafter
  cases call with
  | request command =>
    obtain rfl := Except.ok.inj hrun
    exact hdata.set _ h
  | _ => exact hmodify (Call.target_validUtf8 h rfl) hrun

/-- The document of a sequence of calls with valid texts is printed. -/
theorem run_dumps {calls : List Call} (h : ∀ call ∈ calls, call.ValidTexts) {data : Members}
    (hrun : WidgetData.run calls = .ok data) : (Value.object data).Dumps := by
  refine dumps_object.mpr ?_
  unfold WidgetData.run at hrun
  exact Scan.foldlM_invariant DumpsAll
    (fun call hcall _ _ hbefore hafter => Call.run_dumps (h call hcall) hbefore hafter)
      dumpsAll_nil hrun

end Dialog

end PlotJugglerSdk
