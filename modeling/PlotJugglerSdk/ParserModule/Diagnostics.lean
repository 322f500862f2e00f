import PlotJugglerSdk.Lexing.Utf8
import PlotJugglerSdk.ParserModule.ModuleExports

/-!
# Diagnostics of a parser module

A failing call leaves a message behind: in its instance, among the errors of bad tokens, or as
the last error of a creation. `lastError` shows it under the token of the call. Every message
passes through buffers of 512 bytes that are filled without regard to characters.

* `failureMessage` — the message of the exit that a call takes
* `Usable`         — what a host can do something with: a text, and the beginning of the message
* `diagnostics_usable_iff` — when a diagnostic is usable
-/

namespace PlotJugglerSdk.ParserModule.ModuleExports

open Wire Json Lexing

variable {π : Type}

/-! ## Messages -/

namespace Instance

/-- The message of a bind that is not OK. -/
def bindMessage (cls : ParserClass π) (block : Option Bytes) (inst : Instance π) : Option String :=
  match block with
  | none => some "BindingInfo buffer is unreadable"
  | some block =>
    match readBindingInfo block with
    | .error message => some message
    | .ok info =>
      if info.claimIndex ≠ inst.claimIndex then
        some "BindingInfo claim index does not match the instance"
      else
        match (cls.bind block info inst.parser).2 with
        | none => some "parser-module bind threw an exception"
        | some .ok => none
        | some (.decline message) => some message
        | some (.error message) => some message

/-- The message of a parse that is not OK. -/
def parseMessage (cls : ParserClass π) (input : Option Bytes) (inst : Instance π) : Option String :=
  if ¬inst.bound then some "parser-module instance is not bound"
  else
    match input with
    | none => some "ParseInput buffer is unreadable"
    | some block =>
      match readParseInput block with
      | .error message => some message
      | .ok input =>
        match (routeOutput cls inst.route (input.map (slice block)) inst.parser).2 with
        | none => some "parser-module parse threw an exception"
        | some (.error message) => some message
        | some (.ok _) => none

end Instance

namespace Exports

def createMessage (cls : ParserClass π) (claimIndex : UInt32) (construction : Construction π)
    (allocated : Bool) (exports : Exports π) : Option String :=
  if cls.claimCount ≤ claimIndex then some "claim index is outside the module manifest"
  else
    match construction with
    | .outOfMemory => some "parser-module instance allocation failed"
    | .threw => some "parser-module constructor failed"
    | .made parser =>
      match (exports.table.create { serial := exports.made, parser, claimIndex } allocated).1 with
      | .error message => some message
      | .ok _ => none

def bindMessage (cls : ParserClass π) (token : UInt64) (block : Option Bytes)
    (exports : Exports π) :
    Option String :=
  match exports.table.find token with
  | none => some "pj_module_bind received a stale or unknown instance token"
  | some inst => inst.bindMessage cls block

def parseMessage (cls : ParserClass π) (token : UInt64) (input : Option Bytes)
    (exports : Exports π) :
    Option String :=
  match exports.table.find token with
  | none => some "pj_module_parse received a stale or unknown instance token"
  | some inst => inst.parseMessage cls input

end Exports

/-- The message of the exit that a call takes, if that is one with a message. -/
def failureMessage (cls : ParserClass π) (exports : Exports π) : ExportCall π → Option String
  | .create claimIndex construction allocated =>
    exports.createMessage cls claimIndex construction allocated
  | .destroy _ => none
  | .bind token block => exports.bindMessage cls token block
  | .parse token input => exports.parseMessage cls token input

/-- The call returns a negative result, or the token of failed creations. -/
def Fails (cls : ParserClass π) (exports : Exports π) : ExportCall π → Prop
  | .create claimIndex construction allocated =>
    (exports.create cls claimIndex construction allocated).1 = kCreationErrorToken
  | .destroy _ => False
  | .bind token block => (exports.bind cls token block).1 < 0
  | .parse token input => (exports.parse cls token input).1 < 0

/-- The token under which the diagnostic of a call is asked for. -/
def diagnosticToken : ExportCall π → UInt64
  | .create _ _ _ => kCreationErrorToken
  | .destroy token | .bind token _ | .parse token _ => token

/-- A text, and the beginning of the message. -/
def Usable (message : String) (diagnostic : Bytes) : Prop :=
  ValidUtf8 diagnostic ∧ diagnostic <+: text message

/-- A bind or parse of the token that stands for failed creations, behind such a failure. -/
def Masked (exports : Exports π) : ExportCall π → Prop
  | .bind token _ | .parse token _ => token = kCreationErrorToken ∧ exports.creationError ≠ []
  | _ => False

/-! ## Records -/

theorem toList_loop (bytes : ByteArray) (i : Nat) (r : List UInt8) :
    ByteArray.toList.loop bytes i r = r.reverse ++ bytes.data.toList.drop i := by
  have hsize : bytes.data.toList.length = bytes.size := rfl
  unfold ByteArray.toList.loop
  split
  · next h =>
    have hlength : i < bytes.data.toList.length := h
    have hget : bytes.get! i = bytes.data.toList[i] := getElem!_pos bytes.data i h
    rw [toList_loop, hget, List.reverse_cons, List.append_assoc, List.singleton_append,
      List.getElem_cons_drop]
  · next h => rw [List.drop_eq_nil_of_le (by omega), List.append_nil]
termination_by bytes.size - i

theorem recordError_eq (message : String) : recordError message = (text message).take 511 := by
  rw [recordError, ByteArray.toList, toList_loop]
  rfl

theorem text_eq (message : String) : text message = encode message.toList := by
  have hbytes : message.toList.utf8Encode = message.toByteArray := String.utf8Encode_toList
  show message.toByteArray.data.toList = encode message.toList
  rw [← hbytes, List.utf8Encode, List.data_toByteArray]
  rfl

/-- A record is shown up to its buffer's end, to a host with a buffer that is large enough. -/
theorem shown_recordError (message : String) {capacity : UInt64} (hcapacity : 512 ≤ capacity) :
    ((recordError message).takeWhile (· != 0)).take capacity.toNat = shown 511 (text message) := by
  have hnat : 512 ≤ capacity.toNat := UInt64.le_iff_toNat_le.mp hcapacity
  have hlength : ((recordError message).takeWhile (· != 0)).length ≤ 511 := by
    refine Nat.le_trans (List.takeWhile_prefix _).length_le ?_
    rw [recordError_eq, List.length_take]
    exact Nat.min_le_left _ _
  rw [List.take_of_length_le (by omega), recordError_eq]
  rfl

/-- What is shown of a message is usable unless its buffer cuts a character. -/
theorem usable_shown (message : String) :
    Usable message (shown 511 (text message)) ↔ ¬ CutInside 511 message.toList := by
  rw [← validUtf8_shown_iff, ← text_eq]
  exact ⟨And.left, fun h => ⟨h, shown_prefix 511 (text message)⟩⟩

/-- A message that fits is not cut. -/
theorem not_cutInside {message : String} (h : (text message).length ≤ 511) :
    ¬ CutInside 511 message.toList := by
  rintro ⟨before, c, after, hchars, -, hends, -⟩
  rw [text_eq, hchars, encode, List.flatMap_append, List.flatMap_cons, List.length_append,
    List.length_append, String.length_utf8EncodeChar] at h
  unfold encode at hends
  omega

/-! ## Exits -/

/-- A bind is OK, or leaves its message with the instance. -/
theorem Instance.bind_outcome (cls : ParserClass π) (block : Option Bytes) (inst : Instance π) :
    (inst.bind cls block).1 = kModuleOk ∨
      ∃ message, inst.bindMessage cls block = some message ∧
        (inst.bind cls block).2.error = recordError message := by
  unfold Instance.bind Instance.bindMessage
  cases block with
  | none => exact .inr ⟨_, rfl, rfl⟩
  | some block =>
    dsimp only
    cases readBindingInfo block with
    | error message => exact .inr ⟨message, rfl, rfl⟩
    | ok info =>
      dsimp only
      split
      · exact .inr ⟨_, rfl, rfl⟩
      · rcases cls.bind block info inst.parser with ⟨parser, _ | _ | message | message⟩
        · exact .inr ⟨_, rfl, rfl⟩
        · exact .inl rfl
        · exact .inr ⟨message, rfl, rfl⟩
        · exact .inr ⟨message, rfl, rfl⟩

theorem Instance.parse_outcome (cls : ParserClass π) (input : Option Bytes) (inst : Instance π) :
    (inst.parse cls input).1 = kModuleOk ∨
      ∃ message, inst.parseMessage cls input = some message ∧
        (inst.parse cls input).2.error = recordError message := by
  unfold Instance.parse Instance.parseMessage
  split
  · exact .inr ⟨_, rfl, rfl⟩
  · cases input with
    | none => exact .inr ⟨_, rfl, rfl⟩
    | some block =>
      dsimp only
      cases readParseInput block with
      | error message => exact .inr ⟨message, rfl, rfl⟩
      | ok input =>
        dsimp only
        rcases routeOutput cls inst.route (input.map (slice block)) inst.parser with
          ⟨parser, _ | message | output⟩
        · exact .inr ⟨_, rfl, rfl⟩
        · exact .inr ⟨message, rfl, rfl⟩
        · exact .inl rfl

/-- The texts of failed creations. -/
def creationTexts : List String :=
  ["claim index is outside the module manifest", "parser-module instance allocation failed",
    "parser-module constructor failed", "parser-module instance-table allocation failed",
    "parser-module instance table is full"]

theorem create_error {ι : Type} {inst : ι} {allocated : Bool} {table table' : Table ι}
    {message : String}
    (h : table.create inst allocated = (.error message, table')) : message ∈ creationTexts := by
  unfold Table.create at h
  dsimp only at h
  split at h
  · cases h
  · split at h
    · obtain ⟨hmessage, -⟩ := Prod.mk.inj h
      obtain rfl := Except.error.inj hmessage
      decide
    · split at h
      · obtain ⟨hmessage, -⟩ := Prod.mk.inj h
        obtain rfl := Except.error.inj hmessage
        decide
      · cases h

/-- A creation issues a token, or leaves its message as the last error of one. -/
theorem create_outcome (cls : ParserClass π) (claimIndex : UInt32) (construction : Construction π)
    (allocated : Bool) (exports : Exports π) :
    ((∃ inst table' token, exports.table.create inst allocated = (.ok token, table') ∧
        (exports.create cls claimIndex construction allocated).1 = token) ∧
      (exports.create cls claimIndex construction allocated).2.creationError =
        exports.creationError) ∨
    ∃ message ∈ creationTexts,
      exports.createMessage cls claimIndex construction allocated = some message ∧
        (exports.create cls claimIndex construction allocated).2.creationError =
          recordError message := by
  unfold Exports.create Exports.createMessage
  split
  · exact .inr ⟨_, by decide, rfl, rfl⟩
  · cases construction with
    | outOfMemory => exact .inr ⟨_, by decide, rfl, rfl⟩
    | threw => exact .inr ⟨_, by decide, rfl, rfl⟩
    | made parser =>
      dsimp only
      rcases hcreate : exports.table.create { serial := exports.made, parser, claimIndex }
        allocated with
        ⟨message | token, table⟩
      · rw [hcreate]
        exact .inr ⟨message, create_error hcreate, rfl, rfl⟩
      · rw [hcreate]
        exact .inl ⟨⟨_, table, token, hcreate, rfl⟩, rfl⟩

/-! ## Runs -/

/-- The last error of a creation is one of its texts, or there was none. -/
def CreationRecord (exports : Exports π) : Prop :=
  exports.creationError = [] ∨ ∃ message ∈ creationTexts, exports.creationError =
    recordError message

theorem CreationRecord.step {cls : ParserClass π} {state : Exports π × History Nat}
    (h : CreationRecord state.1) (call : ExportCall π) :
    CreationRecord (ModuleExports.step cls state call).1 := by
  cases call with
  | create claimIndex construction allocated =>
    show CreationRecord (state.1.create cls claimIndex construction allocated).2
    unfold CreationRecord
    rcases create_outcome cls claimIndex construction allocated state.1 with
      ⟨-, hsame⟩ | ⟨message, hmem, -, hrecord⟩
    · rw [hsame]
      exact h
    · exact .inr ⟨message, hmem, hrecord⟩
  | destroy token =>
    show CreationRecord (state.1.destroy token)
    unfold Exports.destroy
    cases state.1.table.findSlot token <;> exact h
  | bind token block =>
    show CreationRecord (state.1.bind cls token block).2
    unfold Exports.bind
    cases state.1.table.find token <;> exact h
  | parse token input =>
    show CreationRecord (state.1.parse cls token input).2
    unfold Exports.parse
    cases state.1.table.find token <;> exact h

theorem creationRecord_run (cls : ParserClass π) (calls : List (ExportCall π)) :
    CreationRecord (run cls calls).1 := by
  induction calls using List.reverseRecOn with
  | nil => exact .inl rfl
  | append_singleton calls call ih =>
    unfold run at ih ⊢
    rw [List.foldl_append]
    exact ih.step call

/-! ## Diagnostics -/

theorem find_creationErrorToken {ι : Type} (table : Table ι) :
    table.find kCreationErrorToken = none := rfl

/-- The message of a call with a bad token. -/
def badTokenTexts : List String :=
  ["pj_module_bind received a stale or unknown instance token",
    "pj_module_parse received a stale or unknown instance token"]

/-- No text of a failed creation says anything about a bad token. -/
theorem creationTexts_other : ∀ message ∈ creationTexts, ∀ other ∈ badTokenTexts,
    ¬ shown 511 (text message) <+: text other := by decide

theorem creationTexts_ne : ∀ message ∈ creationTexts, (text message).take 511 ≠ [] := by decide

theorem badTokenTexts_fit : ∀ message ∈ badTokenTexts, (text message).length ≤ 511 := by decide

theorem usable_badToken {exports : Exports π} (hrecord : CreationRecord exports) {token : UInt64}
    (hfind : exports.table.find token = none) {message : String}
    (hmessage : message ∈ badTokenTexts)
    {capacity : UInt64} (hcapacity : 512 ≤ capacity) :
    Usable message ((exports.failBadToken message).lastError token capacity) ↔
      ¬ (token = kCreationErrorToken ∧ exports.creationError ≠ []) ∧
        ¬ CutInside 511 message.toList := by
  have hcut := not_cutInside (badTokenTexts_fit message hmessage)
  by_cases htoken : token = kCreationErrorToken
  · have hlast : (exports.failBadToken message).lastError token capacity =
        (exports.creationError.takeWhile (· != 0)).take capacity.toNat := by
      unfold Exports.lastError
      rw [if_pos htoken]
      rfl
    rw [hlast]
    rcases hrecord with hnone | ⟨other, hother, hrecord⟩
    · rw [hnone, List.takeWhile_nil, List.take_nil]
      exact iff_of_true ⟨validUtf8_nil, List.nil_prefix⟩ ⟨fun h => h.2 rfl, hcut⟩
    · -- the last error of a creation hides the message
      rw [hrecord, shown_recordError other hcapacity]
      refine iff_of_false (fun h => creationTexts_other other hother message hmessage h.2)
        fun h => ?_
      refine h.1 ⟨htoken, fun hnil => ?_⟩
      rw [recordError_eq] at hnil
      exact creationTexts_ne other hother hnil
  · have hlast : (exports.failBadToken message).lastError token capacity =
        ((recordError message).takeWhile (· != 0)).take capacity.toNat := by
      unfold Exports.lastError
      rw [if_neg htoken]
      simp only [Exports.failBadToken, hfind]
    rw [hlast, shown_recordError message hcapacity, usable_shown]
    exact (and_iff_right fun h => htoken h.1).symm

theorem usable_instance {exports : Exports π} {token : UInt64} {inst : Instance π}
    (hfind : exports.table.find token = some inst) {f : Instance π → Instance π} {message : String}
    (hrecord : (f inst).error = recordError message) {capacity : UInt64}
    (hcapacity : 512 ≤ capacity) :
    Usable message
        (({ exports with table := exports.table.update token f } : Exports π).lastError token capacity) ↔
      ¬ (token = kCreationErrorToken ∧ exports.creationError ≠ []) ∧
        ¬ CutInside 511 message.toList := by
  have htoken : token ≠ kCreationErrorToken := by
    rintro rfl
    rw [find_creationErrorToken] at hfind
    cases hfind
  have hlast : ({ exports with table := exports.table.update token f } : Exports π).lastError token
      capacity =
      ((recordError message).takeWhile (· != 0)).take capacity.toNat := by
    unfold Exports.lastError
    rw [if_neg htoken, ← hrecord]
    dsimp only
    rw [find_update f hfind]
  rw [hlast, shown_recordError message hcapacity, usable_shown]
  exact (and_iff_right fun h => htoken h.1).symm

/-- The diagnostic of a failing call is usable, unless the end of its buffer cuts a character of
the message, or the message is that of a bad token that stands for a failed creation. -/
theorem diagnostics_usable_iff (cls : ParserClass π) (calls : List (ExportCall π))
    (call : ExportCall π)
    (capacity : UInt64) (hfails : Fails cls (run cls calls).1 call) (hcapacity : 512 ≤ capacity) :
    ∃ message, failureMessage cls (run cls calls).1 call = some message ∧
      (Usable message
          ((step cls (run cls calls) call).1.lastError (diagnosticToken call) capacity) ↔
        ¬ Masked (run cls calls).1 call ∧ ¬ CutInside 511 message.toList) := by
  have hsound := sound_run cls calls
  have hrecord := creationRecord_run cls calls
  generalize hstate : run cls calls = state at hfails hsound hrecord
  cases call with
  | create claimIndex construction allocated =>
    rcases create_outcome cls claimIndex construction allocated state.1 with
      ⟨⟨inst, table, token, hcreate, htoken⟩, -⟩ | ⟨message, -, hmessage, herror⟩
    · -- a token that is issued is not the one of failed creations
      exfalso
      rcases create_cases inst allocated hsound.keeps.fits with
        ⟨message, hfailed⟩ | ⟨index, generation, table', hcreated, -, -, -, hchanged, hfits⟩
      · rw [hcreate] at hfailed
        cases hfailed
      · rw [hcreate] at hcreated
        obtain ⟨hok, rfl⟩ := Prod.mk.inj hcreated
        obtain rfl := Except.ok.inj hok
        exact tokenFor_ne_zero generation (hchanged.index_lt hfits) (htoken.symm.trans hfails)
    · refine ⟨message, hmessage, ?_⟩
      have hlast :
          (state.1.create cls claimIndex construction allocated).2.lastError kCreationErrorToken
          capacity = shown 511 (text message) := by
        rw [← shown_recordError message hcapacity, ← herror]
        rfl
      show Usable message ((state.1.create cls claimIndex construction allocated).2.lastError
        kCreationErrorToken capacity) ↔ ¬ False ∧ _
      rw [hlast, usable_shown]
      exact (and_iff_right not_false).symm
  | destroy token => exact hfails.elim
  | bind token block =>
    replace hfails : (state.1.bind cls token block).1 < 0 := hfails
    show ∃ message, state.1.bindMessage cls token block = some message ∧
      (Usable message ((state.1.bind cls token block).2.lastError token capacity) ↔
        ¬ (token = kCreationErrorToken ∧ state.1.creationError ≠ []) ∧ _)
    unfold Exports.bind at hfails ⊢
    unfold Exports.bindMessage
    cases hfind : state.1.table.find token with
    | none => exact ⟨_, rfl, usable_badToken hrecord hfind (by decide) hcapacity⟩
    | some inst =>
      rw [hfind] at hfails
      rcases inst.bind_outcome cls block with hok | ⟨message, hmessage, herror⟩
      · exact absurd (hok ▸ hfails : kModuleOk < 0) (by decide)
      · exact ⟨message, hmessage, usable_instance hfind herror hcapacity⟩
  | parse token input =>
    replace hfails : (state.1.parse cls token input).1 < 0 := hfails
    show ∃ message, state.1.parseMessage cls token input = some message ∧
      (Usable message ((state.1.parse cls token input).2.lastError token capacity) ↔
        ¬ (token = kCreationErrorToken ∧ state.1.creationError ≠ []) ∧ _)
    unfold Exports.parse at hfails ⊢
    unfold Exports.parseMessage
    cases hfind : state.1.table.find token with
    | none => exact ⟨_, rfl, usable_badToken hrecord hfind (by decide) hcapacity⟩
    | some inst =>
      rw [hfind] at hfails
      rcases inst.parse_outcome cls input with hok | ⟨message, hmessage, herror⟩
      · exact absurd (hok ▸ hfails : kModuleOk < 0) (by decide)
      · exact ⟨message, hmessage, usable_instance hfind herror hcapacity⟩

theorem outsideClaim_usable :
    ∃ message, failureMessage quietParser (run quietParser []).1 (.create 5 (.made ()) true) =
      some message ∧
      (Usable message
          ((step quietParser (run quietParser []) (.create 5 (.made ()) true)).1.lastError
            kCreationErrorToken 512) ↔
        ¬ Masked (run quietParser []).1 (.create 5 (.made ()) true) ∧
          ¬ CutInside 511 message.toList) :=
  diagnostics_usable_iff quietParser [] (.create 5 (.made ()) true) 512 rfl (by decide)

/-- 256 times U+00E9, in 512 bytes. -/
def accents : String := String.ofList (List.replicate 256 (Char.ofNat 0xE9))

def accentParser : ParserClass Unit where
  claimCount := 1
  bind _ _ parser := (parser, some (.error accents))
  parseObject _ parser := (parser, some (.ok, []))
  parseScalars _ parser := (parser, some (.ok, []))

/-- A block of the scalar route, with six empty fields. -/
def emptyBlock : Bytes := [1, 0, 1, 0, 0, 0, 0, 0, 0, 0, 0, 0, 6, 0, 0, 0] ++ List.replicate 48 0

theorem accents_cut : CutInside 511 accents.toList := by
  have hchars : accents.toList = List.replicate 256 (Char.ofNat 0xE9) := String.toList_ofList
  have hsize : (Char.ofNat 0xE9).utf8Size = 2 := by decide
  have hlength : (encode (List.replicate 255 (Char.ofNat 0xE9))).length = 510 := by
    rw [encode, List.length_flatMap, List.map_replicate, String.length_utf8EncodeChar, hsize,
      List.sum_replicate_nat]
  refine ⟨List.replicate 255 (Char.ofNat 0xE9), Char.ofNat 0xE9, [], ?_, ?_, ?_, ?_⟩
  · rw [hchars, ← List.replicate_succ']
  · omega
  · omega
  · intro hmem
    exact absurd (List.mem_replicate.mp hmem).2 (by decide)

theorem accents_unusable :
    Fails accentParser (run accentParser [.create 0 (.made ()) true]).1
      (.bind 0x100000001 (some emptyBlock)) ∧
      failureMessage accentParser (run accentParser [.create 0 (.made ()) true]).1
        (.bind 0x100000001 (some emptyBlock)) = some accents ∧
      ¬ Usable accents
        ((step accentParser (run accentParser [.create 0 (.made ()) true])
          (.bind 0x100000001 (some emptyBlock))).1.lastError 0x100000001 512) := by
  have hfind : (run accentParser [.create 0 (.made ()) true]).1.table.find 0x100000001 =
      some { serial := 0, parser := (), claimIndex := 0 } := rfl
  have husable := @usable_instance Unit _ _ _ hfind
    (fun inst => (inst.bind accentParser (some emptyBlock)).2) accents rfl 512 (by decide)
  have hnegative : kModuleError < 0 := by decide
  exact ⟨hnegative, rfl, fun h => (husable.mp h).2 accents_cut⟩

end PlotJugglerSdk.ParserModule.ModuleExports
