import PlotJugglerSdk.Dialog.WidgetDataView

/-!
# The document of a sequence of calls

Calls on one widget leave the others alone, and a member of a widget is decided by the calls
that write it: what stands under a key is what the last of them wrote.

* `run_entry`          — the object of a widget after a sequence of calls
* `get_lastSet`        — a member is what the last call that writes it has set
* `get_purged`         — the calls that do not write it could be left out
-/

namespace PlotJugglerSdk

namespace Dialog

open Json Lexing Value Wire

/-! ## Widgets -/

/-- The object of a widget so far. -/
def entryOf (name : Bytes) (data : Members) : Members := objectOf (data.lookup name)

/-- Everything but the commands to the dialog is the object of a widget. -/
def Objects (data : Members) : Prop :=
  ∀ name value, requestPrefix.isPrefixOf name = false → data.lookup name = some value →
    ∃ entry, value = .object entry

/-- The calls on a widget. -/
def callsOn (name : Bytes) (calls : List Call) : List Call :=
  calls.filter fun call => call.target = some name

/-- The object of a widget after the calls on it. -/
def entryAfter (calls : List Call) : Members := calls.foldl (fun entry call => call.change entry) []

theorem entryAfter_concat (calls : List Call) (call : Call) :
    entryAfter (calls ++ [call]) = call.change (entryAfter calls) := by
  unfold entryAfter
  rw [List.foldl_append, List.foldl_cons, List.foldl_nil]

theorem lookup_setAt (wanted key : Bytes) (value : Value) (data : Members) :
    (data.setAt key value).lookup wanted = if wanted = key then some value else
      data.lookup wanted :=
  SortedMap.lookup_insert wanted

theorem modifyEntry_ok {name : Bytes} {data : Members} (hobjects : Objects data)
    (hname : requestPrefix.isPrefixOf name = false) (change : Members → Members) :
    modifyEntry name change data =
      .ok (data.setAt name (.object (change (entryOf name data)))) := by
  unfold modifyEntry entryOf
  cases hlookup : data.lookup name with
  | none => rfl
  | some value =>
    obtain ⟨entry, rfl⟩ := hobjects name value hname hlookup
    rfl

/-- A call changes the object of its widget and nothing else. -/
theorem run_call {call : Call} {data : Members} (hnamed : call.Named) (hobjects : Objects data) :
    ∃ after, call.run data = .ok after ∧ Objects after ∧
      ∀ name, requestPrefix.isPrefixOf name = false →
        after.lookup name =
          if call.target = some name then some (.object (call.change (entryOf name data)))
          else data.lookup name := by
  cases htarget : call.target with
  | none =>
    obtain ⟨command, rfl⟩ : ∃ command, call = .request command := by
      cases call with
      | request command => exact ⟨command, rfl⟩
      | _ => exact nomatch htarget
    have hapart : ∀ name, requestPrefix.isPrefixOf name = false → name ≠ text command.key := by
      rintro name hname rfl
      exact nomatch command.marked.symm.trans hname
    refine ⟨data.set command.key command.value, rfl, ?_, ?_⟩
    · intro name value hname hvalue
      rw [Members.set, lookup_setAt, if_neg (hapart name hname)] at hvalue
      exact hobjects name value hname hvalue
    · intro name hname
      rw [Members.set, lookup_setAt, if_neg (hapart name hname), if_neg nofun]
  | some target =>
    have hrun : call.run data = modifyEntry target call.change data := by
      cases call with
      | request command => exact nomatch htarget
      | _ =>
        obtain rfl := Option.some.inj htarget
        rfl
    refine ⟨_, hrun.trans (modifyEntry_ok hobjects (hnamed target htarget) call.change), ?_, ?_⟩
    · intro name value hname hvalue
      rw [lookup_setAt] at hvalue
      split at hvalue
      · exact ⟨_, (Option.some.inj hvalue).symm⟩
      · exact hobjects name value hname hvalue
    · intro name _
      rw [lookup_setAt]
      by_cases hsame : name = target
      · rw [if_pos hsame, if_pos (congrArg some hsame.symm), hsame]
      · rw [if_neg hsame, if_neg fun h => hsame (Option.some.inj h).symm]

/-- What a document is after a sequence of calls: it has the widgets the calls are on, each with
the object the calls on it make. -/
theorem run_entry {calls : List Call} (hnamed : ∀ call ∈ calls, call.Named) :
    ∃ data, WidgetData.run calls = .ok data ∧ Objects data ∧
      ∀ name, requestPrefix.isPrefixOf name = false →
        data.lookup name =
          if callsOn name calls = [] then none
          else some (.object (entryAfter (callsOn name calls))) := by
  induction calls using List.reverseRecOn with
  | nil => exact ⟨[], rfl, (fun _ _ _ h => by cases h), fun _ _ => rfl⟩
  | append_singleton calls call ih =>
    obtain ⟨data, hrun, hobjects, hlookup⟩ := ih fun other hother =>
      hnamed other (List.mem_append_left _ hother)
    obtain ⟨after, hafter, hobjects', hlookup'⟩ :=
      run_call (hnamed call (List.mem_append_right _ (List.mem_singleton.mpr rfl))) hobjects
    refine ⟨after, ?_, hobjects', fun name hname => ?_⟩
    · show List.foldlM (fun data call => call.run data) [] (calls ++ [call]) = .ok after
      have hrun' : List.foldlM (fun data call => Call.run call data) [] calls = .ok data := hrun
      rw [List.foldlM_append, hrun']
      show List.foldlM (fun data call => call.run data) data [call] = .ok after
      rw [List.foldlM_cons, hafter]
      rfl
    · rw [hlookup' name hname]
      unfold callsOn
      rw [List.filter_append]
      -- the call changes the entry of its own widget
      by_cases htarget : call.target = some name
      · have hentry : entryOf name data = entryAfter (callsOn name calls) := by
          unfold entryOf
          rw [hlookup name hname]
          split
          · rw [‹callsOn name calls = []›]
            rfl
          · rfl
        rw [if_pos htarget, List.filter_cons, if_pos (decide_eq_true htarget), List.filter_nil,
          if_neg (List.append_ne_nil_of_right_ne_nil _ (List.cons_ne_nil _ _)), hentry]
        unfold entryAfter callsOn
        rw [List.foldl_append]
        rfl
      · rw [if_neg htarget, List.filter_cons, if_neg fun h => htarget (of_decide_eq_true h),
          List.filter_nil, List.append_nil]
        exact hlookup name hname

/-! ## Members -/

namespace Call

/-- The keys whose member a call makes out of the one that stands. -/
def accumulatedKeys : List String := ["row_colors", "cell_tooltips", "table_delta"]

/-- What a call leaves under a key, if it writes it: a value, or none where it removes it. -/
def written (key : String) (call : Call) : Option (Option Value) := call.edits.reverse.lookup key

/-- The keys a call writes. -/
def keys : Call → List String
  | setRowColor _ _ _ => ["row_colors"]
  | setCellTooltip _ _ _ _ => ["cell_tooltips"]
  | call => if call.deltaOp.isSome then ["table_delta"] else call.edits.map Prod.fst

end Call

theorem get_change {key : String} (hkey : key ∉ Call.accumulatedKeys) (call : Call)
    (entry : Members) :
    (call.change entry).get key = (call.written key).getD (entry.get key) := by
  have hother : ∀ other ∈ Call.accumulatedKeys, key ≠ other :=
    fun other hmem heq => hkey (heq ▸ hmem)
  cases call with
  | setRowColor name row colorHex =>
    exact (Members.get_set _ _ _ _).trans (if_neg (hother "row_colors" (by decide)))
  | setCellTooltip name row col tooltip =>
    exact (Members.get_set _ _ _ _).trans (if_neg (hother "cell_tooltips" (by decide)))
  | appendTableRows name seq rows =>
    exact (Members.get_set _ _ _ _).trans (if_neg (hother "table_delta" (by decide)))
  | appendTableItems name seq rows =>
    exact (Members.get_set _ _ _ _).trans (if_neg (hother "table_delta" (by decide)))
  | updateTableCells name seq cells =>
    exact (Members.get_set _ _ _ _).trans (if_neg (hother "table_delta" (by decide)))
  | removeTableRows name seq rows =>
    exact (Members.get_set _ _ _ _).trans (if_neg (hother "table_delta" (by decide)))
  | _ => exact Members.get_edited key _ entry

/-- The last value that a call of the list sets. -/
def lastSet {α : Type} (set : Call → Option α) (calls : List Call) : Option α :=
  (calls.filterMap set).getLast?

/-- What stands under a key was set by the last call that writes it. -/
theorem get_lastSet {α : Type} {key : String} {set : Call → Option α} {encode : α → Option Value}
    (hkey : key ∉ Call.accumulatedKeys)
    (hwritten : ∀ call, call.written key = (set call).map encode)
    (calls : List Call) : (entryAfter calls).get key = (lastSet set calls).bind encode := by
  unfold entryAfter lastSet
  induction calls using List.reverseRecOn with
  | nil => rfl
  | append_singleton calls call ih =>
    rw [List.foldl_append, List.foldl_cons, List.foldl_nil, get_change hkey, ih, hwritten,
      List.filterMap_append, List.getLast?_append]
    cases hset : set call with
    | none => rw [List.filterMap_cons_none hset]; rfl
    | some value => rw [List.filterMap_cons_some hset]; rfl

/-! ## What does not write a member -/

theorem get_change_of_not_mem {key : String} {call : Call} (h : key ∉ call.keys) (entry : Members) :
    (call.change entry).get key = entry.get key := by
  have hedits : ∀ edits : List (String × Option Value), key ∉ edits.map Prod.fst →
      (entry.edited edits).get key = entry.get key := by
    intro edits hedits
    have hnone : edits.reverse.lookup key = none := by
      refine List.lookup_eq_none_iff.mpr fun edit hedit => bne_iff_ne.mpr fun heq => ?_
      exact hedits (List.mem_map.mpr ⟨edit, List.mem_reverse.mp hedit, heq.symm⟩)
    rw [Members.get_edited, hnone]
    rfl
  have hset : ∀ other value, key ∉ [other] → (entry.set other value).get key = entry.get key := by
    intro other value hother
    rw [Members.get_set, if_neg fun heq => hother (List.mem_singleton.mpr heq)]
  cases call with
  | setRowColor name row colorHex => exact hset _ _ h
  | setCellTooltip name row col tooltip => exact hset _ _ h
  | appendTableRows name seq rows => exact hset _ _ h
  | appendTableItems name seq rows => exact hset _ _ h
  | updateTableCells name seq cells => exact hset _ _ h
  | removeTableRows name seq rows => exact hset _ _ h
  | _ => exact hedits _ h

/-- What a call leaves under a key depends on what stood there only. -/
theorem get_change_congr {key : String} (call : Call) {entry other : Members}
    (h : entry.get key = other.get key) :
    (call.change entry).get key = (call.change other).get key := by
  -- a call that builds on a member reads that member only
  have hset : ∀ set : String, ∀ value : Members → Value,
      (key = set → value entry = value other) →
      (entry.set set (value entry)).get key = (other.set set (value other)).get key := by
    intro set value hvalue
    rw [Members.get_set, Members.get_set, h]
    split
    · rw [hvalue ‹key = set›]
    · rfl
  -- an operation of a delta builds on the delta that is there
  have hdelta : ∀ seq op, (entry.set "table_delta"
        (.object ((tableDeltaEntry seq entry).edited op))).get key =
      (other.set "table_delta" (.object ((tableDeltaEntry seq other).edited op))).get key := by
    intro seq op
    refine hset "table_delta" (fun entry => .object ((tableDeltaEntry seq entry).edited op)) ?_
    rintro rfl
    unfold tableDeltaEntry
    rw [h]
  cases call with
  | setRowColor name row colorHex =>
    refine hset "row_colors" (fun entry => .object ((objectOf (entry.get "row_colors")).setAt
      (decimalText row.toInt) (.string colorHex))) ?_
    rintro rfl
    rw [h]
  | setCellTooltip name row col tooltip =>
    refine hset "cell_tooltips" (fun entry => .object ((objectOf (entry.get "cell_tooltips")).setAt
      (decimalText row.toInt ++ text "," ++ decimalText col.toInt) (.string tooltip))) ?_
    rintro rfl
    rw [h]
  | appendTableRows name seq rows => exact hdelta seq _
  | appendTableItems name seq rows => exact hdelta seq _
  | updateTableCells name seq cells => exact hdelta seq _
  | removeTableRows name seq rows => exact hdelta seq _
  | _ =>
    refine (Members.get_edited key _ entry).trans
      (Eq.trans ?_ (Members.get_edited key _ other).symm)
    rw [h]

/-- The calls that do not write a key could be left out. -/
theorem get_purged (key : String) (calls : List Call) :
    (entryAfter (calls.filter fun call => key ∈ call.keys)).get key =
    (entryAfter calls).get key := by
  unfold entryAfter
  suffices h : ∀ entry other : Members, entry.get key = other.get key →
      ((calls.filter fun call => key ∈ call.keys).foldl (fun entry call => call.change entry)
        entry).get
          key =
        (calls.foldl (fun entry call => call.change entry) other).get key from h [] [] rfl
  induction calls with
  | nil => exact fun _ _ h => h
  | cons call calls ih =>
    intro entry other h
    rw [List.foldl_cons]
    by_cases hkey : key ∈ call.keys
    · rw [List.filter_cons, if_pos (decide_eq_true hkey), List.foldl_cons]
      exact ih _ _ (get_change_congr call h)
    · rw [List.filter_cons, if_neg fun hmem => hkey (of_decide_eq_true hmem)]
      exact ih _ _ (h.trans (get_change_of_not_mem hkey other).symm)

end Dialog

end PlotJugglerSdk
