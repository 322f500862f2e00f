import PlotJugglerSdk.Host.ObjectOutput
import PlotJugglerSdk.ParserModule.ModuleExports

/-!
# The host's handle on a module instance

`NativeParserModuleInstance` drives one token: it writes the blocks, calls the
module and keeps a record of its own of what is bound. The module's wrapper
keeps another one (`ModuleExports.Instance`).

A wrapper that is bound stays bound when a later bind ends before the parser has
answered, by a block it cannot read or by an exception
(`interrupted_bind_parses`). `bind_unbinds` is the claim of both records for the
runs without such a bind.
-/

namespace PlotJugglerSdk

open Wire ParserModule ModuleExports

/-! ## Results -/

inductive ParserModuleFaultKind where
  | none
  | dataError
  | contractViolation
  deriving DecidableEq

inductive ParserModuleBindOutcome where
  | accept
  | decline
  | error
  deriving DecidableEq

structure ParserModuleBindResult where
  outcome : ParserModuleBindOutcome := .error
  fault : ParserModuleFaultKind := .none
  resultCode : Int32
  message : Bytes := []
  deriving DecidableEq

inductive ParserModuleOutput where
  | scalar (output : ScalarOutputV1 Bytes)
  | object (output : ParserModuleObjectOutput)

structure ParserModuleParseResult where
  fault : ParserModuleFaultKind := .none
  resultCode : Int32
  message : Bytes := []
  output : Option ParserModuleOutput := none

def contractViolation (code : Int32) (message : String) : ParserModuleParseResult :=
  { fault := .contractViolation, resultCode := code, message := message.toUTF8.toList }

/-! ## The handle -/

structure NativeParserModuleInstance where
  token : UInt64 := kCreationErrorToken
  claimIndex : UInt32 := 0
  boundRoute : Route := .scalar
  expectedObjectType : UInt16 := 0
  bound : Bool := false

variable {π : Type}

/-- `copyLastError`: the wrapper never writes past the buffer. -/
def copyLastError (exports : Exports π) (token : UInt64) : Bytes := exports.lastError token 512

namespace NativeParserModuleInstance

def create (cls : ParserClass π) (claimIndex : UInt32) (construction : Construction π)
    (allocated : Bool) (exports : Exports π) :
    Except Bytes NativeParserModuleInstance × Exports π :=
  let (token, exports) := exports.create cls claimIndex construction allocated
  if token = kCreationErrorToken then (.error (copyLastError exports kCreationErrorToken), exports)
  else (.ok { token, claimIndex }, exports)

/-- What the handle makes of the module's answer to a bind. -/
def bindAnswer (info : BindingInfoV1 Bytes) (code : Int32) (message : Bytes)
    (handle : NativeParserModuleInstance) : ParserModuleBindResult × NativeParserModuleInstance :=
  if code = kModuleOk then
    ({ outcome := .accept, resultCode := code },
      { handle with
        boundRoute := info.route
        expectedObjectType := info.expectedObjectType
        bound := true })
  else
    -- whatever else the module says, the binding before is gone
    let handle := { handle with bound := false }
    if code = kModuleDecline then ({ outcome := .decline, resultCode := code, message }, handle)
    else if code < 0 then
      -- a module that says no is not at fault; one that does not know its own token is
      ({ fault := if code = kModuleBadToken then .contractViolation else .none
         resultCode := code
         message }, handle)
    else
      ({ fault := .contractViolation
         resultCode := code
         message :=
           "pj_module_bind returned an out-of-contract positive result".toUTF8.toList }, handle)

def bind (cls : ParserClass π) (info : BindingInfoV1 Bytes) (handle : NativeParserModuleInstance)
    (exports : Exports π) :
    Except String ParserModuleBindResult × NativeParserModuleInstance × Exports π :=
  if handle.token = kCreationErrorToken then
    (.error "cannot bind an invalid native parser-module instance", handle, exports)
  else if info.claimIndex ≠ handle.claimIndex then
    (.error "BindingInfo claim_index does not match the created instance", handle, exports)
  else
    match writeBindingInfoV1 info with
    | .error e => (.error e, handle, exports)
    | .ok encoded =>
      let (code, exports) := exports.bind cls handle.token (some encoded)
      let (result, handle) := handle.bindAnswer info code (copyLastError exports handle.token)
      (.ok result, handle, exports)

section Parse

variable [FloatOps]

/-- What the handle makes of a descriptor. -/
def ownOutput (handle : NativeParserModuleInstance) (input : ParseInputV1 Bytes) (code : Int32)
    (outputBytes : Bytes) : ParserModuleParseResult :=
  match readOutputDescriptorV1 outputBytes with
  | .error e => contractViolation code ("malformed output descriptor: " ++ e)
  | .ok descriptor =>
    -- the host goes by the route it bound, not by what the descriptor says
    if handle.boundRoute = .scalar then
      match descriptor.map (slice outputBytes) with
      | .object _ =>
        contractViolation code "output descriptor route does not match the scalar binding"
      | .scalar scalar => { resultCode := code, output := some (.scalar scalar) }
    else
      match descriptor.map (slice outputBytes) with
      | .scalar _ =>
        contractViolation code "output descriptor route does not match the object binding"
      | .object object =>
        match ownObjectOutput object input.payload handle.expectedObjectType with
        | .error e => contractViolation code e
        | .ok owned => { resultCode := code, output := some (.object owned) }

def parse (cls : ParserClass π) (input : ParseInputV1 Bytes) (handle : NativeParserModuleInstance)
    (exports : Exports π) : Except String ParserModuleParseResult × Exports π :=
  if handle.token = kCreationErrorToken then
    (.error "cannot parse with an invalid native parser-module instance", exports)
  else if ¬handle.bound then (.error "cannot parse before an accepted module bind", exports)
  else
    match writeParseInputV1 input with
    | .error e => (.error e, exports)
    | .ok encoded =>
      let (code, exports) := exports.parse cls handle.token (some encoded)
      if code < 0 then
        (.ok
          { fault := if code = kModuleBadToken then .contractViolation else .dataError
            resultCode := code
            message := copyLastError exports handle.token }, exports)
      else if code ≠ kModuleOk then
        (.ok (contractViolation code "pj_module_parse returned a nonzero non-error result"),
          exports)
      else
        -- the descriptor stands in the module's memory; an empty one is unreadable
        match (exports.table.find handle.token).elim [] (·.output) with
        | [] =>
          (.ok (contractViolation code "pj_module_parse returned an unreadable output descriptor"),
            exports)
        | b :: tail => (.ok (handle.ownOutput input code (b :: tail)), exports)

end Parse

end NativeParserModuleInstance

/-! ## Calls on one token -/

inductive InstanceCall where
  | bind (block : Option Bytes)
  | parse (input : Option Bytes)

/-- Every parse that is OK ran the route of the last bind, and that was OK;
`last` is its route. -/
def Unbinds (cls : ParserClass π) (token : UInt64) :
    Exports π → Option UInt16 → List InstanceCall → Prop
  | _, _, [] => True
  | exports, _, .bind block :: calls =>
    Unbinds cls token (exports.bind cls token block).2
      (lastBind (exports.bind cls token block).1 block) calls
  | exports, last, .parse input :: calls =>
    ((exports.parse cls token input).1 = kModuleOk →
      ∃ route inst view, last = some route ∧
        (exports.parse cls token input).2.table.find token = some inst ∧
          readOutputDescriptorV1 inst.output = .ok view ∧ outputRoute view = route) ∧
      Unbinds cls token (exports.parse cls token input).2 last calls

/-- No bind on a bound instance is over before the parser has answered. -/
def Uninterrupted (cls : ParserClass π) (token : UInt64) :
    Exports π → List InstanceCall → Prop
  | _, [] => True
  | exports, .bind block :: calls =>
    (∀ inst, exports.table.find token = some inst → inst.bound = true →
      ¬Interrupted cls block inst) ∧
      Uninterrupted cls token (exports.bind cls token block).2 calls
  | exports, .parse input :: calls =>
    Uninterrupted cls token (exports.parse cls token input).2 calls

/-- A call on a live token is a call on its instance. -/
theorem bind_live (cls : ParserClass π) {exports : Exports π} {token : UInt64} {inst : Instance π}
    (hfind : exports.table.find token = some inst) (block : Option Bytes) :
    (exports.bind cls token block).1 = (inst.bind cls block).1 ∧
      (exports.bind cls token block).2.table.find token = some (inst.bind cls block).2 := by
  unfold Exports.bind
  rw [hfind]
  exact ⟨rfl, find_update _ hfind⟩

theorem parse_live (cls : ParserClass π) {exports : Exports π} {token : UInt64} {inst : Instance π}
    (hfind : exports.table.find token = some inst) (input : Option Bytes) :
    (exports.parse cls token input).1 = (inst.parse cls input).1 ∧
      (exports.parse cls token input).2.table.find token = some (inst.parse cls input).2 := by
  unfold Exports.parse
  rw [hfind]
  exact ⟨rfl, find_update _ hfind⟩

/-- The wrapper's record, carried through the calls. -/
theorem unbinds_of_uninterrupted {cls : ParserClass π} {token : UInt64} (calls : List InstanceCall)
    {exports : Exports π} {last : Option UInt16} {inst : Instance π}
    (hfind : exports.table.find token = some inst) (hbound : BoundTo inst last)
    (h : Uninterrupted cls token exports calls) : Unbinds cls token exports last calls := by
  induction calls generalizing exports last inst with
  | nil => trivial
  | cons call calls ih =>
    cases call with
    | bind block =>
      obtain ⟨hcode, hnext⟩ := bind_live cls hfind block
      unfold Uninterrupted at h
      unfold Unbinds
      rw [hcode]
      exact ih hnext (boundTo_bind (h.1 inst hfind)) h.2
    | parse input =>
      obtain ⟨hcode, hnext⟩ := parse_live cls hfind input
      unfold Uninterrupted at h
      unfold Unbinds
      refine ⟨?_, ih hnext hbound.parse h⟩
      intro hok
      rw [hcode] at hok
      obtain ⟨route, view, hlast, hread, hroute⟩ := parse_ok hbound hok
      exact ⟨route, _, view, hlast, hnext, hread, hroute⟩

/-! ## Calls through the handle -/

inductive HandleCall where
  | bind (info : BindingInfoV1 Bytes)
  | parse (input : ParseInputV1 Bytes)

/-- Both records say the same: bound or not, and if so on which route. -/
def Agree (handle : NativeParserModuleInstance) (exports : Exports π) : Prop :=
  ∃ inst, exports.table.find handle.token = some inst ∧ handle.bound = inst.bound ∧
    (handle.bound = true → handle.boundRoute.toUInt16 = inst.route)

section Handle

variable [FloatOps]

/-- The records agree now and after every call. -/
def Agreeing (cls : ParserClass π) :
    NativeParserModuleInstance → Exports π → List HandleCall → Prop
  | handle, exports, [] => Agree handle exports
  | handle, exports, .bind info :: calls =>
    Agree handle exports ∧
      Agreeing cls (handle.bind cls info exports).2.1 (handle.bind cls info exports).2.2 calls
  | handle, exports, .parse input :: calls =>
    Agree handle exports ∧ Agreeing cls handle (handle.parse cls input exports).2 calls

/-- No bind the handle makes on a bound instance is over before the parser has
answered. -/
def HandleUninterrupted (cls : ParserClass π) :
    NativeParserModuleInstance → Exports π → List HandleCall → Prop
  | _, _, [] => True
  | handle, exports, .bind info :: calls =>
    (∀ block inst, writeBindingInfoV1 info = .ok block →
      exports.table.find handle.token = some inst → inst.bound = true →
        ¬Interrupted cls (some block) inst) ∧
      HandleUninterrupted cls (handle.bind cls info exports).2.1
        (handle.bind cls info exports).2.2 calls
  | handle, exports, .parse input :: calls =>
    HandleUninterrupted cls handle (handle.parse cls input exports).2 calls

omit [FloatOps] in
/-- The kit reads the route the host wrote. -/
theorem bindRoute_write {info : BindingInfoV1 Bytes} {block : Bytes}
    (h : writeBindingInfoV1 info = .ok block) :
    bindRoute (some block) = some info.route.toUInt16 := by
  obtain ⟨view, hread, hview⟩ := readBindingInfoV1_write h
  have hagrees := readBindingInfo_agrees block
  unfold bindRoute
  rw [Option.bind_some, hagrees, hread, ← hview]
  rfl

omit [FloatOps] in
theorem agree_bind {cls : ParserClass π} {handle : NativeParserModuleInstance} {exports : Exports π}
    {info : BindingInfoV1 Bytes} (h : Agree handle exports)
    (hclean : ∀ block inst, writeBindingInfoV1 info = .ok block →
      exports.table.find handle.token = some inst → inst.bound = true →
        ¬Interrupted cls (some block) inst) :
    Agree (handle.bind cls info exports).2.1 (handle.bind cls info exports).2.2 := by
  unfold NativeParserModuleInstance.bind
  split
  · exact h
  · split
    · exact h
    · cases hwrite : writeBindingInfoV1 info with
      | error e => exact h
      | ok block =>
        obtain ⟨inst, hfind, -, -⟩ := h
        obtain ⟨hcode, hnext⟩ := bind_live cls hfind (some block)
        have hbound : BoundTo (inst.bind cls (some block)).2
            (lastBind (inst.bind cls (some block)).1 (some block)) :=
          boundTo_bind (hclean block inst hwrite hfind)
        rw [← hcode] at hbound
        unfold lastBind at hbound
        dsimp only
        unfold NativeParserModuleInstance.bindAnswer
        by_cases hok : (exports.bind cls handle.token (some block)).1 = kModuleOk
        · rw [if_pos hok] at hbound ⊢
          rw [bindRoute_write hwrite] at hbound
          exact ⟨_, hnext, hbound.bound.symm, fun _ => (hbound.route _ rfl).1.symm⟩
        · rw [if_neg hok] at hbound ⊢
          have hunbound : (inst.bind cls (some block)).2.bound = false := hbound.bound
          -- whatever the code is, the handle is unbound
          dsimp only
          split
          · exact ⟨_, hnext, hunbound.symm, by simp⟩
          · split
            · exact ⟨_, hnext, hunbound.symm, by simp⟩
            · exact ⟨_, hnext, hunbound.symm, by simp⟩

theorem agree_parse {cls : ParserClass π} {handle : NativeParserModuleInstance}
    {exports : Exports π} {input : ParseInputV1 Bytes} (h : Agree handle exports) :
    Agree handle (handle.parse cls input exports).2 := by
  -- the handle either stops before the module or lets it parse once
  have hafter : (handle.parse cls input exports).2 = exports ∨
      ∃ block, (handle.parse cls input exports).2 =
        (exports.parse cls handle.token (some block)).2 := by
    unfold NativeParserModuleInstance.parse
    split
    · exact Or.inl rfl
    · split
      · exact Or.inl rfl
      · cases writeParseInputV1 input with
        | error e => exact Or.inl rfl
        | ok block =>
          refine Or.inr ⟨block, ?_⟩
          dsimp only
          split
          · rfl
          · split
            · rfl
            · split <;> rfl
  obtain hsame | ⟨block, hparsed⟩ := hafter
  · rw [hsame]
    exact h
  · obtain ⟨inst, hfind, hbound, hroute⟩ := h
    obtain ⟨-, hnext⟩ := parse_live cls hfind (some block)
    obtain ⟨hkeptBound, hkeptRoute⟩ := parse_kept cls (some block) inst
    rw [hparsed]
    refine ⟨_, hnext, hbound.trans hkeptBound.symm, ?_⟩
    intro hwas
    rw [hkeptRoute]
    exact hroute hwas

theorem agreeing_of_uninterrupted {cls : ParserClass π} (calls : List HandleCall)
    {handle : NativeParserModuleInstance} {exports : Exports π} (hagree : Agree handle exports)
    (h : HandleUninterrupted cls handle exports calls) : Agreeing cls handle exports calls := by
  induction calls generalizing handle exports with
  | nil => exact hagree
  | cons call calls ih =>
    cases call with
    | bind info =>
      unfold HandleUninterrupted at h
      exact ⟨hagree, ih (agree_bind hagree h.1) h.2⟩
    | parse input =>
      unfold HandleUninterrupted at h
      exact ⟨hagree, ih (agree_parse hagree) h⟩

/-- In runs without a bind that interrupts a binding, a failed bind unbinds, and
the handle's record and the wrapper's agree. -/
theorem bind_unbinds {cls : ParserClass π} {exports : Exports π} {token : UInt64}
    {inst : Instance π} (hfind : exports.table.find token = some inst)
    (hfresh : inst.bound = false) :
    (∀ calls, Uninterrupted cls token exports calls → Unbinds cls token exports none calls) ∧
    (∀ claimIndex calls, HandleUninterrupted cls { token, claimIndex } exports calls →
      Agreeing cls { token, claimIndex } exports calls) := by
  refine ⟨?_, ?_⟩
  · intro calls h
    exact unbinds_of_uninterrupted calls hfind ⟨hfresh, by simp⟩ h
  · intro claimIndex calls h
    exact agreeing_of_uninterrupted calls ⟨inst, hfind, hfresh.symm, by simp⟩ h

end Handle

/-! ## A bind that interrupts a binding -/

/-- Accepts its first bind and throws at the next. -/
def moodyParser : ParserClass Bool where
  claimCount := 1
  bind _ _ seen := (true, if seen then none else some .ok)
  parseObject _ seen := (seen, some (.ok, []))
  parseScalars _ seen := (seen, some (.ok, []))

/-- A module with one instance of it. -/
def moodyModule : Exports Bool := (Exports.create moodyParser 0 (.made false) true {}).2

def scalarBinding : BindingInfoV1 Bytes :=
  { encoding := [], typeName := [], schema := [], claimId := [], configJson := [], schemaDigest := [] }

def scalarBlock : Bytes := (writeBindingInfoV1 scalarBinding).toOption.getD []

theorem bind_unbinds_once :
    Unbinds moodyParser 0x100000001 moodyModule none
        [.bind (some scalarBlock), .parse (some (List.replicate 24 0))] ∧
      @Agreeing Bool binary64 moodyParser { token := 0x100000001 } moodyModule
        [.bind scalarBinding] := by
  have hfind : moodyModule.table.find 0x100000001 =
      some { serial := 0, parser := false, claimIndex := 0 } := rfl
  obtain ⟨hunbinds, hagreeing⟩ := @bind_unbinds Bool binary64 moodyParser moodyModule 0x100000001
    { serial := 0, parser := false, claimIndex := 0 } hfind rfl
  refine ⟨hunbinds _ ⟨?_, trivial⟩, hagreeing 0 _ ⟨?_, trivial⟩⟩
  · intro inst hinst hbound
    obtain rfl := Option.some.inj (hfind.symm.trans hinst)
    exact absurd hbound (by decide)
  · intro block inst _ hinst hbound
    obtain rfl := Option.some.inj (hfind.symm.trans hinst)
    exact absurd hbound (by decide)

/-- The second bind is answered by an exception. The wrapper stays bound, so the
parse after it is OK, and the handle's record says otherwise. -/
theorem interrupted_bind_parses :
    ¬Unbinds moodyParser 0x100000001 moodyModule none
        [.bind (some scalarBlock), .bind (some scalarBlock),
          .parse (some (List.replicate 24 0))] ∧
      ¬@Agreeing Bool binary64 moodyParser { token := 0x100000001 } moodyModule
        [.bind scalarBinding, .bind scalarBinding] := by
  refine ⟨?_, ?_⟩
  · intro h
    obtain ⟨route, inst, view, hlast, -⟩ := h.1 rfl
    have hnone : (none : Option UInt16) = some route := hlast
    exact absurd hnone (by simp)
  · rintro ⟨-, -, inst, hfind, hbound, -⟩
    have hstill : (((Exports.bind moodyParser 0x100000001 (some scalarBlock)
        (Exports.bind moodyParser 0x100000001 (some scalarBlock) moodyModule).2).2.table.find
          0x100000001).map Instance.bound) = some true := rfl
    have hparser : some inst.bound = some true :=
      (congrArg (Option.map Instance.bound) hfind).symm.trans hstill
    have hdiffer : false = true := hbound.trans (Option.some.inj hparser)
    exact absurd hdiffer (by decide)

end PlotJugglerSdk
