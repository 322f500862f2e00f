import PlotJugglerSdk.ParserModule.InstanceTable
import PlotJugglerSdk.ParserModule.ObjectWriter

/-!
# The exports of a parser module

What `PJ_FUNCTIONAL_PARSER` puts around a parser class: `create`, `destroy`,
`bind`, `parse` and `lastError` over the instance table. The parser itself is
any `ParserClass`: it may accept, decline, fail or throw at any call.

`tokens_generational` is the table's invariant over whole runs of these calls.
-/

namespace PlotJugglerSdk.ParserModule

open Wire

inductive Status where
  | ok
  | decline (message : String)
  | error (message : String)
  deriving DecidableEq

/-- A functional parser. Each call may throw, which is `none`; the parser is
left as it is then. Of a writer handed to the parser, the calls it made on it
are returned. -/
structure ParserClass (π : Type) where
  claimCount : UInt32
  bind : Bytes → BindingInfo → π → π × Option Status
  parseObject : ParseInputV1 Bytes → π → π × Option (Status × List Call)
  parseScalars : ParseInputV1 Bytes → π → π × Option (Status × List ScalarWriter.Call)

namespace ModuleExports

def kModuleOk : Int32 := 0

def kModuleDecline : Int32 := 1

def kModuleError : Int32 := -1

def kModuleBadToken : Int32 := -2

def kModuleMalformedInput : Int32 := -3

def kModuleBadClaimIndex : Int32 := -4

def kCreationErrorToken : UInt64 := 0

/-- The message as a buffer of `kErrorBufferSize` bytes keeps it. -/
def recordError (message : String) : Bytes := message.toUTF8.toList.take 511

variable {π : Type}

/-! ## Instances -/

/-- `serial` says which construction made the instance; it stands for the
object's address. -/
structure Instance (π : Type) where
  serial : Nat
  parser : π
  claimIndex : UInt32
  route : UInt16 := 1
  bound : Bool := false
  output : Bytes := []
  error : Bytes := []

namespace Instance

def fail (code : Int32) (message : String) (inst : Instance π) : Int32 × Instance π :=
  (code, { inst with error := recordError message })

/-- `block` is `none` when the buffer is unreadable. -/
def bind (cls : ParserClass π) (block : Option Bytes) (inst : Instance π) : Int32 × Instance π :=
  match block with
  | none => inst.fail kModuleMalformedInput "BindingInfo buffer is unreadable"
  | some block =>
    match readBindingInfo block with
    | .error message => inst.fail kModuleMalformedInput message
    | .ok info =>
      if info.claimIndex ≠ inst.claimIndex then
        inst.fail kModuleBadClaimIndex "BindingInfo claim index does not match the instance"
      else
        match cls.bind block info inst.parser with
        -- an exception leaves the binding as it was
        | (parser, none) =>
          { inst with parser }.fail kModuleError "parser-module bind threw an exception"
        | (parser, some .ok) =>
          (kModuleOk, { inst with parser, bound := true, route := info.route, error := [] })
        -- a refusal unbinds, and the route is the new one all the same
        | (parser, some (.decline message)) =>
          { inst with parser, bound := false, route := info.route }.fail kModuleDecline message
        | (parser, some (.error message)) =>
          { inst with parser, bound := false, route := info.route }.fail kModuleError message

/-- The output of a route: the parser is called and its writer finished. -/
def routeOutput (cls : ParserClass π) (route : UInt16) (input : ParseInputV1 Bytes) (parser : π) :
    π × Option (Except String Bytes) :=
  -- 1 is the scalar route, 2 the object route; the header is refused with any other
  if route = 2 then
    match cls.parseObject input parser with
    | (parser, none) => (parser, none)
    | (parser, some (.ok, calls)) => (parser, some (ObjectWriter.run input.payload calls).finish)
    -- at a parse, to decline is an error
    | (parser, some (.decline message, _)) => (parser, some (.error message))
    | (parser, some (.error message, _)) => (parser, some (.error message))
  else
    match cls.parseScalars input parser with
    | (parser, none) => (parser, none)
    | (parser, some (.ok, calls)) => (parser, some (ScalarWriter.run calls).finish)
    | (parser, some (.decline message, _)) => (parser, some (.error message))
    | (parser, some (.error message, _)) => (parser, some (.error message))

/-- `input` is `none` when a buffer is unreadable. The descriptor of a parse that
is OK is the instance's output. -/
def parse (cls : ParserClass π) (input : Option Bytes) (inst : Instance π) : Int32 × Instance π :=
  if ¬inst.bound then inst.fail kModuleError "parser-module instance is not bound"
  else
    match input with
    | none => inst.fail kModuleMalformedInput "ParseInput buffer is unreadable"
    | some block =>
      match readParseInput block with
      | .error message => inst.fail kModuleMalformedInput message
      | .ok input =>
        match routeOutput cls inst.route (input.map (slice block)) inst.parser with
        | (parser, none) =>
          { inst with parser }.fail kModuleError "parser-module parse threw an exception"
        -- the output of the parse before stays where it is
        | (parser, some (.error message)) => { inst with parser }.fail kModuleError message
        | (parser, some (.ok output)) => (kModuleOk, { inst with parser, output, error := [] })

end Instance

/-! ## Exports -/

structure Exports (π : Type) where
  table : Table (Instance π) := {}
  /-- Instances made so far. -/
  made : Nat := 0
  creationError : Bytes := []
  badTokenError : Bytes := []

/-- What `new Instance` comes to. -/
inductive Construction (π : Type) where
  | made (parser : π)
  | outOfMemory
  | threw

namespace Exports

def recordCreationError (message : String) (exports : Exports π) : Exports π :=
  { exports with creationError := recordError message }

def failBadToken (message : String) (exports : Exports π) : Exports π :=
  { exports with badTokenError := recordError message }

def create (cls : ParserClass π) (claimIndex : UInt32) (construction : Construction π)
    (allocated : Bool) (exports : Exports π) : UInt64 × Exports π :=
  if cls.claimCount ≤ claimIndex then
    (kCreationErrorToken,
      exports.recordCreationError "claim index is outside the module manifest")
  else
    match construction with
    | .outOfMemory =>
      (kCreationErrorToken, exports.recordCreationError "parser-module instance allocation failed")
    | .threw => (kCreationErrorToken, exports.recordCreationError
      "parser-module constructor failed")
    | .made parser =>
      match exports.table.create { serial := exports.made, parser, claimIndex } allocated with
      -- the instance was made and is thrown away again
      | (.error message, table) =>
        (kCreationErrorToken,
          { exports with table, made := exports.made + 1 }.recordCreationError message)
      | (.ok token, table) => (token, { exports with table, made := exports.made + 1 })

def destroy (token : UInt64) (exports : Exports π) : Exports π :=
  match exports.table.findSlot token with
  | none => exports.failBadToken "pj_module_destroy received a stale or unknown instance token"
  | some _ => { exports with table := exports.table.destroy token }

def bind (cls : ParserClass π) (token : UInt64) (block : Option Bytes) (exports : Exports π) :
    Int32 × Exports π :=
  match exports.table.find token with
  | none =>
    (kModuleBadToken,
      exports.failBadToken "pj_module_bind received a stale or unknown instance token")
  | some inst =>
    ((inst.bind cls block).1,
      { exports with table := exports.table.update token fun inst => (inst.bind cls block).2 })

def parse (cls : ParserClass π) (token : UInt64) (input : Option Bytes) (exports : Exports π) :
    Int32 × Exports π :=
  match exports.table.find token with
  | none =>
    (kModuleBadToken,
      exports.failBadToken "pj_module_parse received a stale or unknown instance token")
  | some inst =>
    ((inst.parse cls input).1,
      { exports with table := exports.table.update token fun inst => (inst.parse cls input).2 })

/-- The text, up to its terminator, as much as the caller's buffer takes. -/
def lastError (token : UInt64) (capacity : UInt64) (exports : Exports π) : Bytes :=
  let source :=
    if token = kCreationErrorToken then exports.creationError
    else
      match exports.table.find token with
      | some inst => inst.error
      | none => exports.badTokenError
  (source.takeWhile (· != 0)).take capacity.toNat

end Exports

/-! ## Runs -/

inductive ExportCall (π : Type) where
  | create (claimIndex : UInt32) (construction : Construction π) (allocated : Bool)
  | destroy (token : UInt64)
  | bind (token : UInt64) (block : Option Bytes)
  | parse (token : UInt64) (input : Option Bytes)

/-- One call, and what it adds to the history of tokens: a token issued names the
instance made for it, a token destroyed is no longer live. -/
def step (cls : ParserClass π) (state : Exports π × History Nat) :
    ExportCall π → Exports π × History Nat
  | .create claimIndex construction allocated =>
    let (token, exports) := state.1.create cls claimIndex construction allocated
    (exports, if token = kCreationErrorToken then state.2 else state.2.issue token state.1.made)
  | .destroy token => (state.1.destroy token, state.2.retire token)
  | .bind token block => ((state.1.bind cls token block).2, state.2)
  | .parse token input => ((state.1.parse cls token input).2, state.2)

def run (cls : ParserClass π) (calls : List (ExportCall π)) : Exports π × History Nat :=
  calls.foldl (step cls) ({}, {})

/-- The table keeps the history, and the instances it holds are numbered apart. -/
structure Sound (exports : Exports π) (history : History Nat) : Prop where
  keeps : Keeps Instance.serial exports.table history
  numbered : ∀ entry ∈ history.live, entry.2 < exports.made
  apart : (history.live.map (·.2)).Nodup

theorem Instance.serial_bind (cls : ParserClass π) (block : Option Bytes) (inst : Instance π) :
    (inst.bind cls block).2.serial = inst.serial := by
  unfold Instance.bind
  cases block with
  | none => rfl
  | some block =>
    dsimp only
    cases readBindingInfo block with
    | error message => rfl
    | ok info =>
      dsimp only
      split
      · rfl
      · rcases cls.bind block info inst.parser with ⟨parser, _ | _ | _ | _⟩ <;> rfl

theorem Instance.serial_parse (cls : ParserClass π) (input : Option Bytes) (inst : Instance π) :
    (inst.parse cls input).2.serial = inst.serial := by
  unfold Instance.parse
  split
  · rfl
  · cases input with
    | none => rfl
    | some block =>
      dsimp only
      cases readParseInput block with
      | error message => rfl
      | ok input =>
        dsimp only
        rcases routeOutput cls inst.route (input.map (slice block)) inst.parser with
          ⟨parser, _ | _ | _⟩ <;> rfl

theorem tokenFor_ne_zero {index : Nat} (generation : UInt32) (hindex : index + 1 < 2 ^ 32) :
    tokenFor index generation ≠ kCreationErrorToken := by
  intro hzero
  have hnat := toNat_tokenFor generation hindex
  rw [hzero] at hnat
  have hkNat : kCreationErrorToken.toNat = 0 := rfl
  omega

/-- What `create` of the exports comes to: it fails and the table is as it was, or
it issues a token for the instance just made. -/
theorem create_token (cls : ParserClass π) (claimIndex : UInt32) (construction : Construction π)
    (allocated : Bool) {exports : Exports π} {history : History Nat}
    (h : Keeps Instance.serial exports.table history) :
    ((exports.create cls claimIndex construction allocated).1 = kCreationErrorToken ∧
      (exports.create cls claimIndex construction allocated).2.table = exports.table ∧
      exports.made ≤ (exports.create cls claimIndex construction allocated).2.made) ∨
    ((exports.create cls claimIndex construction allocated).1 ≠ kCreationErrorToken ∧
      ∃ inst token, inst.serial = exports.made ∧
        (exports.create cls claimIndex construction allocated).1 = token ∧
        exports.table.create inst allocated =
          (.ok token, (exports.create cls claimIndex construction allocated).2.table) ∧
        (exports.create cls claimIndex construction allocated).2.made = exports.made + 1) := by
  unfold Exports.create
  split
  · exact Or.inl ⟨rfl, rfl, le_rfl⟩
  · cases construction with
    | outOfMemory => exact Or.inl ⟨rfl, rfl, le_rfl⟩
    | threw => exact Or.inl ⟨rfl, rfl, le_rfl⟩
    | made parser =>
      dsimp only
      obtain ⟨message, hfailed⟩ | ⟨index, generation, table, hcreated, -, -, -, hchanged, hfits⟩ :=
        create_cases { serial := exports.made, parser, claimIndex : Instance π } allocated h.fits
      · rw [hfailed]
        exact Or.inl ⟨rfl, rfl, Nat.le_succ _⟩
      · rw [hcreated]
        exact Or.inr ⟨tokenFor_ne_zero generation (hchanged.index_lt hfits),
          _, _, rfl, rfl, hcreated, rfl⟩

theorem Sound.step {cls : ParserClass π} {exports : Exports π} {history : History Nat}
    (h : Sound exports history) (call : ExportCall π) :
    Sound (ModuleExports.step cls (exports, history) call).1
      (ModuleExports.step cls (exports, history) call).2 := by
  cases call with
  | create claimIndex construction allocated =>
    unfold ModuleExports.step
    dsimp only
    obtain ⟨hzero, htable, hmade⟩ | ⟨hne, inst, token, hserial, htoken, hcreate, hmade⟩ :=
      create_token cls claimIndex construction allocated h.keeps
    · rw [if_pos hzero]
      refine ⟨by rw [htable]; exact h.keeps, ?_, h.apart⟩
      intro entry hmem
      exact Nat.lt_of_lt_of_le (h.numbered entry hmem) hmade
    · rw [if_neg hne, htoken, ← hserial]
      refine ⟨h.keeps.create hcreate, ?_, ?_⟩
      · intro entry hmem
        rw [hmade]
        rcases List.mem_append.mp hmem with hold | hnew
        · exact Nat.lt_succ_of_lt (h.numbered entry hold)
        · rw [List.mem_singleton.mp hnew, hserial]
          exact Nat.lt_succ_self _
      · -- the new instance's number is larger than all before it
        unfold History.issue
        rw [List.map_append]
        refine List.Nodup.append h.apart (List.nodup_singleton _) ?_
        intro serial hold hnew
        obtain ⟨entry, hmem, rfl⟩ := List.mem_map.mp hold
        have hlt := h.numbered entry hmem
        rw [List.mem_singleton.mp hnew, hserial] at hlt
        exact absurd hlt (Nat.lt_irrefl _)
  | destroy token =>
    have htable : (exports.destroy token).table = exports.table.destroy token := by
      unfold Exports.destroy Table.destroy
      cases exports.table.findSlot token <;> rfl
    have hmade : (exports.destroy token).made = exports.made := by
      unfold Exports.destroy
      cases exports.table.findSlot token <;> rfl
    refine ⟨?_, ?_, ?_⟩
    · show Keeps Instance.serial (exports.destroy token).table (history.retire token)
      rw [htable]
      exact h.keeps.destroy token
    · intro entry hmem
      show entry.2 < (exports.destroy token).made
      rw [hmade]
      exact h.numbered entry (List.mem_filter.mp hmem).1
    · exact h.apart.sublist (List.filter_sublist.map _)
  | bind token block =>
    show Sound (exports.bind cls token block).2 history
    unfold Exports.bind
    cases exports.table.find token with
    | none => exact ⟨h.keeps, h.numbered, h.apart⟩
    | some inst => exact ⟨h.keeps.update token (Instance.serial_bind cls block), h.numbered, h.apart⟩
  | parse token input =>
    show Sound (exports.parse cls token input).2 history
    unfold Exports.parse
    cases exports.table.find token with
    | none => exact ⟨h.keeps, h.numbered, h.apart⟩
    | some inst => exact ⟨h.keeps.update token (Instance.serial_parse cls input), h.numbered, h.apart⟩

theorem sound_run (cls : ParserClass π) (calls : List (ExportCall π)) :
    Sound (run cls calls).1 (run cls calls).2 := by
  induction calls using List.reverseRecOn with
  | nil => exact ⟨keeps_empty _, by simp [run], by simp [run]⟩
  | append_singleton calls call ih =>
    unfold run at ih ⊢
    rw [List.foldl_append]
    exact ih.step call

/-- Tokens are issued once, a token that is not live resolves nowhere, and a live
one to the instance made for it, which no other live token names. -/
theorem tokens_generational (cls : ParserClass π) (calls : List (ExportCall π)) :
    (run cls calls).2.issued.Nodup ∧
    (∀ token, token ∉ (run cls calls).2.live.map (·.1) →
      (∀ block, (run cls calls).1.bind cls token block = (kModuleBadToken,
        (run cls calls).1.failBadToken
          "pj_module_bind received a stale or unknown instance token")) ∧
      (∀ input, (run cls calls).1.parse cls token input = (kModuleBadToken,
        (run cls calls).1.failBadToken
          "pj_module_parse received a stale or unknown instance token")) ∧
      ∀ capacity, (run cls calls).1.lastError token capacity =
        ((if token = kCreationErrorToken then (run cls calls).1.creationError
          else (run cls calls).1.badTokenError).takeWhile (· != 0)).take capacity.toNat) ∧
    (∀ token serial, (token, serial) ∈ (run cls calls).2.live →
      ∃ inst, (run cls calls).1.table.find token = some inst ∧ inst.serial = serial) ∧
    ((run cls calls).2.live.map (·.2)).Nodup := by
  have hsound := sound_run cls calls
  refine ⟨hsound.keeps.nodup, ?_, ?_, hsound.apart⟩
  · intro token hdead
    -- what the table finds is what the history holds live
    have hfind : (run cls calls).1.table.find token = none := by
      rw [← Option.not_isSome_iff_eq_none]
      intro hsome
      obtain ⟨inst, hinst⟩ := Option.isSome_iff_exists.mp hsome
      exact hdead (List.mem_map.mpr ⟨_, hsound.keeps.find_iff.mpr ⟨inst, hinst, rfl⟩, rfl⟩)
    refine ⟨?_, ?_, ?_⟩
    · intro block
      unfold Exports.bind
      rw [hfind]
    · intro input
      unfold Exports.parse
      rw [hfind]
    · intro capacity
      unfold Exports.lastError
      rw [hfind]
  · intro token serial hlive
    exact hsound.keeps.find_iff.mp hlive

/-! A parser of no opinion, and a slot used twice. -/

def quietParser : ParserClass Unit where
  claimCount := 1
  bind _ _ parser := (parser, some .ok)
  parseObject _ parser := (parser, some (.ok, []))
  parseScalars _ parser := (parser, some (.ok, []))

theorem tokens_generational_reuse :
    ((run quietParser [.create 0 (.made ()) true, .destroy 0x100000001,
      .create 0 (.made ()) true]).1.bind quietParser 0x100000001 none).1 = kModuleBadToken ∧
    ∃ inst, (run quietParser [.create 0 (.made ()) true, .destroy 0x100000001,
      .create 0 (.made ()) true]).1.table.find 0x200000001 = some inst ∧ inst.serial = 1 :=
  ⟨congrArg Prod.fst (((tokens_generational quietParser [.create 0 (.made ()) true,
      .destroy 0x100000001, .create 0 (.made ()) true]).2.1 0x100000001 (by decide)).1 none),
    (tokens_generational quietParser [.create 0 (.made ()) true,
      .destroy 0x100000001, .create 0 (.made ()) true]).2.2.1 0x200000001 1 (by decide)⟩

/-! ## Binding -/

/-- The route a BindingInfo asks for. -/
def bindRoute (block : Option Bytes) : Option UInt16 :=
  block.bind fun block => (readBindingInfo block).toOption.map (·.route)

/-- A bind that is over before the parser has answered. -/
def Interrupted (cls : ParserClass π) (block : Option Bytes) (inst : Instance π) : Prop :=
  match block with
  | none => True
  | some block =>
    match readBindingInfo block with
    | .error _ => True
    | .ok info =>
      info.claimIndex ≠ inst.claimIndex ∨ (cls.bind block info inst.parser).2 = none

/-- The wrapper's record is the last bind's, if that was OK. -/
structure BoundTo (inst : Instance π) (last : Option UInt16) : Prop where
  bound : inst.bound = last.isSome
  route : ∀ route, last = some route → inst.route = route ∧ (route = 1 ∨ route = 2)

theorem readBindingInfo_route {block : Bytes} {info : BindingInfo}
    (h : readBindingInfo block = .ok info) : info.route = 1 ∨ info.route = 2 := by
  unfold readBindingInfo at h
  split at h
  · exact absurd h (by simp)
  · cases hheader : readBindingHeader { bytes := block } with
    | none => simp [hheader] at h
    | some read =>
      obtain ⟨header, reader⟩ := read
      simp only [hheader] at h
      split at h
      · exact absurd h (by simp)
      · next hroute =>
        split at h
        · exact absurd h (by simp)
        · split at h
          · exact absurd h (by simp)
          · obtain rfl := Except.ok.inj h
            dsimp only
            by_contra hother
            exact hroute (Or.inr (not_or.mp hother))

theorem kModuleMalformedInput_ne : kModuleMalformedInput ≠ kModuleOk := by decide

theorem kModuleBadClaimIndex_ne : kModuleBadClaimIndex ≠ kModuleOk := by decide

theorem kModuleDecline_ne : kModuleDecline ≠ kModuleOk := by decide

theorem kModuleError_ne : kModuleError ≠ kModuleOk := by decide

/-- A bind that is interrupted is not OK, and what the wrapper has recorded stays. -/
theorem bind_interrupted {cls : ParserClass π} {block : Option Bytes} {inst : Instance π}
    (h : Interrupted cls block inst) :
    (inst.bind cls block).1 ≠ kModuleOk ∧ (inst.bind cls block).2.bound = inst.bound ∧
      (inst.bind cls block).2.route = inst.route := by
  unfold Interrupted at h
  unfold Instance.bind
  cases block with
  | none => exact ⟨kModuleMalformedInput_ne, rfl, rfl⟩
  | some block =>
    dsimp only at h ⊢
    cases hread : readBindingInfo block with
    | error message => exact ⟨kModuleMalformedInput_ne, rfl, rfl⟩
    | ok info =>
      rw [hread] at h
      dsimp only at h ⊢
      by_cases hclaim : info.claimIndex ≠ inst.claimIndex
      · rw [if_pos hclaim]
        exact ⟨kModuleBadClaimIndex_ne, rfl, rfl⟩
      · rw [if_neg hclaim]
        have hthrew := h.resolve_left hclaim
        rcases hanswer : cls.bind block info inst.parser with ⟨parser, answer⟩
        rw [hanswer] at hthrew
        obtain rfl : answer = none := hthrew
        exact ⟨kModuleError_ne, rfl, rfl⟩

/-- A bind the parser has answered leaves the wrapper bound exactly if it is OK. -/
theorem bind_answered {cls : ParserClass π} {block : Option Bytes} {inst : Instance π}
    (h : ¬Interrupted cls block inst) :
    ∃ route, bindRoute block = some route ∧ (route = 1 ∨ route = 2) ∧
      (inst.bind cls block).2.route = route ∧
      ((inst.bind cls block).2.bound = true ↔ (inst.bind cls block).1 = kModuleOk) := by
  unfold Interrupted at h
  unfold Instance.bind bindRoute
  cases block with
  | none => exact absurd trivial h
  | some block =>
    dsimp only at h ⊢
    rw [Option.bind_some]
    cases hread : readBindingInfo block with
    | error message =>
      rw [hread] at h
      exact absurd trivial h
    | ok info =>
      rw [hread] at h
      dsimp only at h ⊢
      -- neither an unknown claim nor a class that does not return comes between
      obtain ⟨hclaim, hreturned⟩ := not_or.mp h
      rw [if_neg hclaim]
      refine ⟨info.route, rfl, readBindingInfo_route hread, ?_⟩
      rcases hanswer : cls.bind block info inst.parser with ⟨parser, answer⟩
      rw [hanswer] at hreturned
      cases answer with
      | none => exact absurd rfl hreturned
      | some status =>
        cases status with
        | ok => exact ⟨rfl, iff_of_true rfl rfl⟩
        | decline message => exact ⟨rfl, iff_of_false (by simp [Instance.fail]) kModuleDecline_ne⟩
        | error message => exact ⟨rfl, iff_of_false (by simp [Instance.fail]) kModuleError_ne⟩

/-- What the last bind is after one more. -/
def lastBind (code : Int32) (block : Option Bytes) : Option UInt16 :=
  if code = kModuleOk then bindRoute block else none

/-- After a bind the wrapper's record is true, unless the bind interrupted a binding. -/
theorem boundTo_bind {cls : ParserClass π} {block : Option Bytes} {inst : Instance π}
    (hclean : inst.bound = true → ¬Interrupted cls block inst) :
    BoundTo (inst.bind cls block).2 (lastBind (inst.bind cls block).1 block) := by
  unfold lastBind
  by_cases hinterrupted : Interrupted cls block inst
  · obtain ⟨hcode, hbound, -⟩ := bind_interrupted hinterrupted
    rw [if_neg hcode]
    refine ⟨?_, by simp⟩
    rw [hbound, Option.isSome_none, ← Bool.not_eq_true]
    exact fun hwas => hclean hwas hinterrupted
  · obtain ⟨route, hroute, hvalid, hrecorded, hbound⟩ := bind_answered hinterrupted
    by_cases hcode : (inst.bind cls block).1 = kModuleOk
    · rw [if_pos hcode, hroute]
      refine ⟨hbound.mpr hcode, ?_⟩
      intro route' hsame
      obtain rfl := Option.some.inj hsame
      exact ⟨hrecorded, hvalid⟩
    · rw [if_neg hcode]
      refine ⟨?_, by simp⟩
      rw [Option.isSome_none, ← Bool.not_eq_true]
      exact mt hbound.mp hcode

/-! ## Parsing -/

/-- The route a descriptor is of. -/
def outputRoute {ρ : Type} : OutputDescriptorV1 ρ → UInt16
  | .scalar _ => 1
  | .object _ => 2

theorem outputRoute_map {ρ σ : Type} (f : ρ → σ) (output : OutputDescriptorV1 ρ) :
    outputRoute (output.map f) = outputRoute output := by
  cases output <;> rfl

/-- An output is of the route it was made by. -/
theorem routeOutput_ok {cls : ParserClass π} {route : UInt16} {input : ParseInputV1 Bytes}
    {parser parser' : π} {output : Bytes} (hvalid : route = 1 ∨ route = 2)
    (h : Instance.routeOutput cls route input parser = (parser', some (.ok output))) :
    ∃ view, readOutputDescriptorV1 output = .ok view ∧ outputRoute view = route := by
  unfold Instance.routeOutput at h
  split at h
  · next hobject =>
    rcases hparse : cls.parseObject input parser with ⟨after, _ | ⟨_ | _ | _, calls⟩⟩ <;>
      simp only [hparse, Prod.mk.injEq, Option.some.injEq, reduceCtorEq, and_false] at h
    obtain ⟨wire, view, -, hread, hview⟩ := ObjectWriter.readOutputDescriptorV1_finish h.2
    refine ⟨view, hread, ?_⟩
    rw [← outputRoute_map (slice output), hview, hobject]
    rfl
  · next hscalar =>
    rcases hparse : cls.parseScalars input parser with ⟨after, _ | ⟨_ | _ | _, calls⟩⟩ <;>
      simp only [hparse, Prod.mk.injEq, Option.some.injEq, reduceCtorEq, and_false] at h
    obtain ⟨view, hread, hview⟩ := ScalarWriter.readOutputDescriptorV1_finish h.2
    refine ⟨view, hread, ?_⟩
    rw [← outputRoute_map (slice output), hview, hvalid.resolve_right hscalar]
    rfl

/-- A parse that is OK was on a bound instance and ran its route. -/
theorem parse_ok {cls : ParserClass π} {input : Option Bytes} {inst : Instance π}
    {last : Option UInt16} (h : BoundTo inst last) (hcode : (inst.parse cls input).1 = kModuleOk) :
    ∃ route view, last = some route ∧
      readOutputDescriptorV1 (inst.parse cls input).2.output = .ok view ∧
        outputRoute view = route := by
  unfold Instance.parse at hcode ⊢
  split at hcode
  · exact absurd hcode kModuleError_ne
  · next hbound =>
    rw [if_neg hbound]
    obtain ⟨route, rfl⟩ : ∃ route, last = some route := by
      rw [← Option.isSome_iff_exists, ← h.bound]
      exact not_not.mp hbound
    obtain ⟨hroute, hvalid⟩ := h.route route rfl
    cases input with
    | none => exact absurd hcode kModuleMalformedInput_ne
    | some block =>
      dsimp only at hcode ⊢
      cases hread : readParseInput block with
      | error message =>
        rw [hread] at hcode
        exact absurd hcode kModuleMalformedInput_ne
      | ok input =>
        rw [hread] at hcode
        dsimp only at hcode ⊢
        -- the route of the binding decides which output the class is asked for
        rcases houtput : Instance.routeOutput cls inst.route (input.map (slice block))
          inst.parser with
          ⟨parser, _ | _ | output⟩
        · rw [houtput] at hcode
          exact absurd hcode kModuleError_ne
        · rw [houtput] at hcode
          exact absurd hcode kModuleError_ne
        · rw [hroute] at houtput
          obtain ⟨view, hview, hsame⟩ := routeOutput_ok hvalid houtput
          exact ⟨route, view, rfl, hview, hsame⟩

theorem parse_kept (cls : ParserClass π) (input : Option Bytes) (inst : Instance π) :
    (inst.parse cls input).2.bound = inst.bound ∧ (inst.parse cls input).2.route = inst.route := by
  unfold Instance.parse
  split
  · exact ⟨rfl, rfl⟩
  · cases input with
    | none => exact ⟨rfl, rfl⟩
    | some block =>
      dsimp only
      cases readParseInput block with
      | error message => exact ⟨rfl, rfl⟩
      | ok input =>
        dsimp only
        rcases Instance.routeOutput cls inst.route (input.map (slice block)) inst.parser with
          ⟨parser, _ | _ | _⟩ <;> exact ⟨rfl, rfl⟩

theorem BoundTo.parse {cls : ParserClass π} {input : Option Bytes} {inst : Instance π}
    {last : Option UInt16} (h : BoundTo inst last) : BoundTo (inst.parse cls input).2 last := by
  obtain ⟨hbound, hroute⟩ := parse_kept cls input inst
  refine ⟨hbound.trans h.bound, ?_⟩
  rw [hroute]
  exact h.route

end ModuleExports

end PlotJugglerSdk.ParserModule
