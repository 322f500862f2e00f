import PlotJugglerSdk.Host.ModuleManifest
import PlotJugglerSdk.Json.Documents
import PlotJugglerSdk.Plugin.MessageParser

/-!
# The claims a table of handlers makes

A plugin of the SDK classifies the routes of a schema from its table, and the host makes a
claim of the classification or refuses it. The two sides keep rules of their own, and they do
not agree on every table: a handler without a route, or one that makes objects of no type, is
fine for the plugin and an error for the host.

* `trampolineClassifyRoutes`  — the plugin's answer
* `exactClaim_handler_ok_iff` — the claim the host makes of it, and when it makes one
-/

namespace PlotJugglerSdk.MessageParserInstance

open Wire Json MessageParserHandle

variable {Own Field : Type}

/-- The route flags of a handler: the functions it has. -/
def routeFlags (handler : SchemaHandler Own Field) : UInt16 :=
  (if handler.parseScalars.isSome then kRouteFlagScalar else 0) |||
    if handler.parseObject.isSome then kRouteFlagObject else 0

def classifyRoutes (self : MessageParserInstance Own Field) (typeName : String) :
    RouteClassification :=
  match self.findSchemaHandler typeName with
  | none =>
    { routeFlags := 0
      matchKind := PJ_PARSER_ROUTE_MATCH_EXACT_V1
      status := PJ_PARSER_ROUTE_STATUS_DECLINED_V1
      objectType := BuiltinObjectType.none.code }
  | some handler =>
    { routeFlags := routeFlags handler
      matchKind := PJ_PARSER_ROUTE_MATCH_EXACT_V1
      status := PJ_PARSER_ROUTE_STATUS_CLAIMED_V1
      -- the type of a handler that makes no objects is not told
      objectType := if handler.parseObject.isSome then handler.objectType.code
        else BuiltinObjectType.none.code }

/-- A name that is a null pointer claiming a size is `none`; `hasOut` is that the caller wants
the answer somewhere. -/
def trampolineClassifyRoutes (self : MessageParserInstance Own Field) (typeName : Option String)
    (schema : BytesView) (hasOut : Bool) : Except PJError RouteClassification :=
  if !hasOut then
    .error (fillError 2 "plugin" "classify_routes called with null output")
  else
    match typeName, schema.read with
    | some typeName, some _ => .ok (self.classifyRoutes typeName)
    | _, _ =>
      .error (fillError 2 "plugin" "classify_routes called with an invalid borrowed view")

/-! ## What a claim says of a handler -/

section Claims

variable {providerId encoding typeName : Bytes} {provenance : ParserClaimProvenance}
  {digests : Finset Bytes} {handler : SchemaHandler Own Field}

/-- The claim that stands for a handler, under the normal name of its schema. -/
def handlerClaim (providerId : Bytes) (provenance : ParserClaimProvenance) (encoding : Bytes)
    (digests : Finset Bytes) (handler : SchemaHandler Own Field) (typeName : Bytes) :
    ParserClaim where
  encoding
  typeName
  routeFlags := routeFlags handler
  objectType := if handler.parseObject.isSome then some handler.objectType.code else none
  schemaDigests := digests
  providerId
  claimId := text "handler:" ++ encoding ++ text ":" ++ typeName
  provenance

/-- A handler that can be claimed: it has a route, and objects of some type if it makes any. -/
def Claimable (handler : SchemaHandler Own Field) : Prop :=
  (handler.parseScalars.isSome ∨ handler.parseObject.isSome) ∧
    (handler.parseObject.isSome → handler.objectType ≠ .none)

theorem routeFlags_object : routeFlags handler &&& kRouteFlagObject ≠ 0 ↔
    handler.parseObject.isSome := by
  unfold routeFlags
  cases handler.parseScalars.isSome <;> cases handler.parseObject.isSome <;> decide

theorem routeFlags_known :
    routeFlags handler &&& ~~~(kRouteFlagScalar ||| kRouteFlagObject) = 0 := by
  unfold routeFlags
  cases handler.parseScalars.isSome <;> cases handler.parseObject.isSome <;> decide

theorem routeFlags_ne_zero : routeFlags handler ≠ 0 ↔
    handler.parseScalars.isSome ∨ handler.parseObject.isSome := by
  unfold routeFlags
  cases handler.parseScalars.isSome <;> cases handler.parseObject.isSome <;> decide

theorem isKnownObjectType_code (type : BuiltinObjectType) :
    isKnownObjectType type.code = true ↔ type ≠ .none := by
  cases type <;> decide

/-- Only the wildcard has the normal name of the wildcard. -/
theorem normalizeParserTypeName_ne_any {normal : Bytes}
    (h : normalizeParserTypeName encoding typeName = .ok normal) (hany : typeName ≠ kAnyType) :
    normal ≠ kAnyType := by
  unfold normalizeParserTypeName at h
  split at h
  · exact absurd h (by simp)
  split at h
  · exact absurd h (by simp)
  split at h
  · obtain ⟨package, name, rfl, -⟩ := normalizeRos2TypeName_ok h
    -- two slashes, so it is not the wildcard
    intro heq
    have hslash : kSlash ∈ kAnyType := heq ▸ by simp
    exact absurd hslash (by decide)
  split at h
  · exact (normalizeProtobufTypeName_ok h).2.1
  · exact Except.ok.inj h ▸ hany

/-- What the host's rules come to for a handler's claim. -/
theorem validated_handlerClaim (hnormal : normalizeParserTypeName encoding typeName = .ok typeName)
    (hany : typeName ≠ kAnyType) :
    Validated (handlerClaim providerId provenance encoding digests handler typeName) ↔
      providerId ≠ [] ∧ isRegisteredParserEncoding encoding = true ∧ Claimable handler ∧
        ∀ digest ∈ digests, isSchemaDigest digest = true := by
  have hobject : hasObjectRoute
      (handlerClaim providerId provenance encoding digests handler typeName) ↔
        handler.parseObject.isSome := routeFlags_object
  constructor
  · intro h
    refine ⟨h.providerId, h.encoding, ⟨routeFlags_ne_zero.mp h.routes.1, ?_⟩, h.digests⟩
    intro hsome
    have hknown := h.knownType
    simp only [handlerClaim, hsome, if_true, Option.all_some] at hknown
    exact (isKnownObjectType_code _).mp hknown
  · rintro ⟨hprovider, hencoding, ⟨hroutes, htype⟩, hdigests⟩
    exact
      { providerId := hprovider
        claimId := by
          have hprefix : text "handler:" ≠ [] := by decide
          simp [handlerClaim, hprefix]
        priority := show (-1000 : Int32) ≤ 0 ∧ (0 : Int32) ≤ 1000 by decide
        encoding := hencoding
        typeName := hnormal
        routes := ⟨routeFlags_ne_zero.mpr hroutes, routeFlags_known⟩
        wildcard := fun hwildcard => absurd hwildcard hany
        objectType := by
          rw [hobject]
          simp only [handlerClaim]
          split <;> simp [*]
        knownType := by
          simp only [handlerClaim]
          split
          · next hsome => simpa using (isKnownObjectType_code _).mpr (htype hsome)
          · rfl
        digests := hdigests }

/-- A claim under its normal name is passed unchanged or not at all. -/
theorem normalizeAndValidateClaim_handlerClaim {claim : ParserClaim}
    (hnormal : normalizeParserTypeName encoding typeName = .ok typeName) :
    normalizeAndValidateClaim
        (handlerClaim providerId provenance encoding digests handler typeName) = .ok claim ↔
      Validated (handlerClaim providerId provenance encoding digests handler typeName) ∧
        claim = handlerClaim providerId provenance encoding digests handler typeName := by
  constructor
  · intro h
    obtain ⟨typeName', htypeName, rfl, hvalidated⟩ := normalizeAndValidateClaim_ok h
    obtain rfl : typeName = typeName' := Except.ok.inj (hnormal.symm.trans htypeName)
    exact ⟨hvalidated, rfl⟩
  · rintro ⟨hvalidated, rfl⟩
    exact hvalidated.normalizeAndValidateClaim

/-- The host's claim for a schema with a handler. -/
theorem exactClaim_of_handler {self : MessageParserInstance Own Field} {name : String}
    {encodings : List Bytes} (hfind : self.findSchemaHandler name = some handler)
    (hencoding : encoding ∈ encodings) (hname : name ≠ "*") :
    exactClaim providerId provenance encodings
        { encoding, typeName := text name, classification := self.classifyRoutes name,
          schemaDigests := digests } =
      (do
        let typeName ← normalizeParserTypeName encoding (text name)
        let claim ← normalizeAndValidateClaim
          (handlerClaim providerId provenance encoding digests handler typeName)
        .ok (some claim)) := by
  have hany : text name ≠ kAnyType := fun h => hname (text_inj h)
  have hclaimed : PJ_PARSER_ROUTE_STATUS_CLAIMED_V1 ≠ PJ_PARSER_ROUTE_STATUS_DECLINED_V1 := by
    decide
  have hobject : routeFlags handler &&& kRouteFlagObject ≠ 0 ↔ handler.parseObject.isSome :=
    routeFlags_object
  unfold exactClaim classifyRoutes handlerClaim
  cases hroute : handler.parseObject.isSome with
  | true => simp [hfind, hencoding, hany, hclaimed, hobject, hroute]
  | false => simp [hfind, hencoding, hany, hclaimed, hobject, hroute]

/-- A handler for the name of the wildcard is not one for every schema. -/
theorem exactClaim_any {self : MessageParserInstance Own Field} {encodings : List Bytes}
    (hfind : self.findSchemaHandler "*" = some handler) (hencoding : encoding ∈ encodings) :
    exactClaim providerId provenance encodings
        { encoding, typeName := text "*", classification := self.classifyRoutes "*",
          schemaDigests := digests } =
      .error (text "parser route classification extension cannot report wildcard claims") := by
  have hany : text "*" = kAnyType := rfl
  have hclaimed : PJ_PARSER_ROUTE_STATUS_CLAIMED_V1 ≠ PJ_PARSER_ROUTE_STATUS_DECLINED_V1 := by
    decide
  unfold exactClaim classifyRoutes
  simp [hfind, hencoding, hany, hclaimed]

theorem exactClaim_handler_ok_iff {self : MessageParserInstance Own Field} {name : String}
    {encodings : List Bytes} {made : Option ParserClaim}
    (hfind : self.findSchemaHandler name = some handler) (hencoding : encoding ∈ encodings) :
    exactClaim providerId provenance encodings
          { encoding, typeName := text name, classification := self.classifyRoutes name,
            schemaDigests := digests } = .ok made ↔
      name ≠ "*" ∧ providerId ≠ [] ∧ isRegisteredParserEncoding encoding = true ∧
        (∀ digest ∈ digests, isSchemaDigest digest = true) ∧ Claimable handler ∧
        ∃ typeName, normalizeParserTypeName encoding (text name) = .ok typeName ∧
          made = some (handlerClaim providerId provenance encoding digests handler typeName) := by
  by_cases hname : name = "*"
  · subst hname
    rw [exactClaim_any hfind hencoding]
    simp
  · have hany : text name ≠ kAnyType := fun h => hname (text_inj h)
    rw [exactClaim_of_handler hfind hencoding hname]
    cases hnormal : normalizeParserTypeName encoding (text name) with
    | error e => simp [bind, Except.bind]
    | ok typeName =>
      have hpassed : ∀ claim, normalizeAndValidateClaim
          (handlerClaim providerId provenance encoding digests handler typeName) = .ok claim ↔
          _ := fun _ => normalizeAndValidateClaim_handlerClaim (normalizeParserTypeName_normal hnormal)
      rw [validated_handlerClaim (normalizeParserTypeName_normal hnormal)
        (normalizeParserTypeName_ne_any hnormal hany)] at hpassed
      cases hclaim : normalizeAndValidateClaim
          (handlerClaim providerId provenance encoding digests handler typeName) with
      | error e =>
        rw [hclaim] at hpassed
        simp only [bind, Except.bind, hclaim, reduceCtorEq, Except.ok.injEq, false_iff]
        rintro ⟨-, hprovider, hregistered, hdigests, hclaimable, -⟩
        exact absurd ((hpassed _).mpr ⟨⟨hprovider, hregistered, hclaimable, hdigests⟩, rfl⟩)
          (by simp)
      | ok claim =>
        rw [hclaim] at hpassed
        obtain ⟨⟨hprovider, hregistered, hclaimable, hdigests⟩, rfl⟩ := (hpassed claim).mp rfl
        simp only [bind, Except.bind, hclaim, Except.ok.injEq]
        constructor
        · rintro rfl
          exact ⟨hname, hprovider, hregistered, hdigests, hclaimable, typeName, rfl, rfl⟩
        · rintro ⟨-, -, -, -, -, typeName', rfl, rfl⟩
          rfl

/-- The host's claim for a classified schema: none where the table has no handler, and where it
has one the handler's, if the host's rules let it pass. -/
theorem exactClaim_classifyRoutes (self : MessageParserInstance Own Field) (name : String)
    (providerId : Bytes) (provenance : ParserClaimProvenance) (encodings : List Bytes)
    (encoding : Bytes) (digests : Finset Bytes) :
    let exact : ParserPluginExactClaim :=
      { encoding, typeName := text name, classification := self.classifyRoutes name,
        schemaDigests := digests }
    (exactClaim providerId provenance encodings exact = .ok none ↔
        encoding ∈ encodings ∧ self.findSchemaHandler name = none) ∧
      ∀ claim, exactClaim providerId provenance encodings exact = .ok (some claim) ↔
        encoding ∈ encodings ∧ name ≠ "*" ∧ providerId ≠ [] ∧
          isRegisteredParserEncoding encoding = true ∧
          (∀ digest ∈ digests, isSchemaDigest digest = true) ∧
          ∃ handler typeName, self.findSchemaHandler name = some handler ∧ Claimable handler ∧
            normalizeParserTypeName encoding (text name) = .ok typeName ∧
            claim = handlerClaim providerId provenance encoding digests handler typeName := by
  intro exact
  by_cases hencoding : encoding ∈ encodings
  · cases hfind : self.findSchemaHandler name with
    | none =>
      have hclaim : exactClaim providerId provenance encodings exact = .ok none := by
        simp [exactClaim, exact, classifyRoutes, hfind, hencoding]
      rw [hclaim]
      simp [hencoding]
    | some handler =>
      refine ⟨?_, fun claim => ?_⟩
      · rw [exactClaim_handler_ok_iff hfind hencoding]
        simp
      · rw [exactClaim_handler_ok_iff hfind hencoding]
        simp only [hencoding, true_and, Option.some.injEq]
        constructor
        · rintro ⟨hname, hprovider, hregistered, hdigests, hclaimable, typeName, hnormal, rfl⟩
          exact ⟨hname, hprovider, hregistered, hdigests, handler, typeName, rfl, hclaimable,
            hnormal, rfl⟩
        · rintro ⟨hname, hprovider, hregistered, hdigests, _, typeName, rfl, hclaimable, hnormal,
            rfl⟩
          exact ⟨hname, hprovider, hregistered, hdigests, hclaimable, typeName, hnormal, rfl⟩
  · have hclaim : exactClaim providerId provenance encodings exact =
        .error (text "parser exact claim encoding is absent from its manifest: " ++ encoding) := by
      simp [exactClaim, exact, hencoding]
    rw [hclaim]
    simp [hencoding]

end Claims

end PlotJugglerSdk.MessageParserInstance
