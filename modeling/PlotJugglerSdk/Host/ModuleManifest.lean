import PlotJugglerSdk.Host.ClaimRules

/-!
# Where claims come from

A parser module declares its claims in a JSON manifest
(`decodeParserModuleManifest`); for a parser plugin the host writes them itself,
one wildcard claim for every encoding of its manifest and one exact claim for
every type it classified (`synthesizeParserPluginClaims`). Reading the manifest's
bytes is the JSON library's, a parameter here.
-/

namespace PlotJugglerSdk

open Wire Json

/-! ## Semantic versions -/

namespace SemVer

def isAsciiDigit (c : UInt8) : Bool := 0x30 ≤ c ∧ c ≤ 0x39

def isAsciiLetter (c : UInt8) : Bool := (0x41 ≤ c ∧ c ≤ 0x5A) ∨ (0x61 ≤ c ∧ c ≤ 0x7A)

def isNumeric (identifier : Bytes) : Bool := identifier.all isAsciiDigit && identifier ≠ []

def isValidIdentifier (identifier : Bytes) : Bool :=
  identifier ≠ [] && identifier.all fun c => isAsciiDigit c || isAsciiLetter c || c = 0x2D

/-- The identifiers between the dots; one after a trailing dot is empty. -/
def parseIdentifiers (s kind : Bytes) (rejectNumericLeadingZero : Bool) :
    Except Bytes (List Bytes) :=
  if s = [] then .error (kind ++ text " identifiers must not be empty")
  else
    (s.splitOn kDot).mapM fun identifier =>
      if !isValidIdentifier identifier then
        .error (kind ++ text " contains an invalid identifier")
      else if rejectNumericLeadingZero && identifier.length > 1 &&
          identifier.head? = some 0x30 && isNumeric identifier then
        .error (kind ++ text " numeric identifiers must not contain leading zeros")
      else .ok identifier

def parseCore (s : Bytes) : Except Bytes (List Bytes) := do
  let components ← parseIdentifiers s (text "core version") true
  if components.length ≠ 3 then
    .error (text "core version must contain exactly three numeric components")
  else if !components.all isNumeric then
    .error (text "core version components must be numeric")
  else .ok components

/-- The text before the first `separator`, and the one after it. -/
def cut (separator : UInt8) (s : Bytes) : Bytes × Option Bytes :=
  match s.span (· ≠ separator) with
  | (front, []) => (front, none)
  | (front, _ :: rest) => (front, some rest)

/-- The core components and the pre-release identifiers. -/
def parse (s : Bytes) : Except Bytes (List Bytes × List Bytes) := do
  if s = [] then .error (text "semantic version must not be empty")
  else
    let (versionAndPrerelease, build) := cut 0x2B s
    if let some build := build then
      let _ ← parseIdentifiers build (text "build metadata") false
    let (core, prerelease) := cut 0x2D versionAndPrerelease
    let components ← parseCore core
    match prerelease with
    | none => .ok (components, [])
    | some prerelease => do
      let identifiers ← parseIdentifiers prerelease (text "pre-release") true
      .ok (components, identifiers)

end SemVer

/-! ## Module manifests -/

def PJ_PARSER_MODULE_ABI_VERSION : UInt64 := 1

structure ParserModuleManifest where
  id : Bytes
  name : Bytes
  version : Bytes
  claims : List ParserClaim

def requiredString (object : Value) (key : String) (context : Bytes) : Except Bytes Bytes :=
  match object.find key with
  | some (.string (b :: s)) => .ok (b :: s)
  | _ => .error (context ++ text " missing required non-empty string key: " ++ text key)

/-- `std::to_string` -/
def decimal (n : Nat) : Bytes := text (toString n)

def claimError (index : Nat) (message : String) : Bytes :=
  text "parser module manifest claim " ++ decimal index ++ text message

def requiredPriority (object : Value) (index : Nat) : Except Bytes Int32 :=
  match object.find "priority" with
  | some (.unsigned value) =>
    if value > 0x7FFFFFFF then
      .error (text "parser module manifest claim priority does not fit int32")
    else .ok value.toInt64.toInt32
  | some (.integer value) =>
    if value < -0x80000000 ∨ value > 0x7FFFFFFF then
      .error (text "parser module manifest claim priority does not fit int32")
    else .ok value.toInt32
  | _ => .error (claimError index " missing integer priority")

def readRoutes (index : Nat) : UInt16 → List Value → Except Bytes UInt16
  | flags, [] => .ok flags
  | flags, .string name :: routes =>
    if name = text "scalar" then readRoutes index (flags ||| kRouteFlagScalar) routes
    else if name = text "object" then readRoutes index (flags ||| kRouteFlagObject) routes
    else .error (text "parser module manifest claim uses unknown route: " ++ name)
  | _, _ :: _ => .error (claimError index " routes must contain strings")

def readRouteFlags (claim : Value) (index : Nat) : Except Bytes UInt16 :=
  match claim.find "routes" with
  | some (.array (route :: routes)) => readRoutes index 0 (route :: routes)
  | _ => .error (claimError index " requires a non-empty routes array")

def readDigests (index : Nat) : List Value → Except Bytes (Finset Bytes)
  | [] => .ok ∅
  | .string digest :: values => do
    let digests ← readDigests index values
    .ok (insert digest digests)
  | _ :: _ => .error (claimError index " schema_digests must contain strings")

def readSchemaDigests (claim : Value) (index : Nat) : Except Bytes (Finset Bytes) :=
  match claim.find "schema_digests" with
  | none => .ok ∅
  | some (.array values) => readDigests index values
  | some _ => .error (claimError index " schema_digests must be an array")

def readObjectType (claim : Value) : Except Bytes (Option UInt16) :=
  match claim.find "object_type" with
  | none => .ok none
  | some (.string s) =>
    match parseBuiltinObjectType s with
    | some type =>
      if type = .none then
        .error (text "parser module manifest claim uses unknown object_type: " ++ s)
      else .ok (some type.code)
    | none => .error (text "parser module manifest claim uses unknown object_type: " ++ s)
  | some _ => .error (text "parser module manifest claim object_type must be a string")

/-- One claim of a manifest. -/
def decodeClaim (id : Bytes) (provenance : ParserClaimProvenance) (claim : Value) (index : Nat) :
    Except Bytes ParserClaim :=
  match claim with
  | .object _ => do
    -- where a claim comes from is for the host to say
    if claim.contains "provenance" then
      .error (text "parser module manifest claim must not declare host-owned provenance")
    else
      let claimId ← requiredString claim "claim_id" (text "parser module manifest claim")
      let encoding ← requiredString claim "encoding" (text "parser module manifest claim")
      let typeName ← requiredString claim "type_name" (text "parser module manifest claim")
      let routeFlags ← readRouteFlags claim index
      let priority ← requiredPriority claim index
      let schemaDigests ← readSchemaDigests claim index
      let objectType ← readObjectType claim
      normalizeAndValidateClaim
        { encoding, typeName, routeFlags, objectType, schemaDigests, providerId := id, claimId,
          priority, provenance }
  | _ => .error (claimError index " must be an object")

def duplicateIdentity (claim : ParserClaim) : Bytes :=
  text "duplicate parser claim identity: " ++ claimIdentity claim

/-- The claims array; `claims` are the ones read so far. -/
def decodeClaims (id : Bytes) (provenance : ParserClaimProvenance) :
    List ParserClaim → List Value → Except Bytes (List ParserClaim)
  | claims, [] => .ok claims
  | claims, value :: values => do
    let claim ← decodeClaim id provenance value claims.length
    if identityOf claim ∈ claims.map identityOf then .error (duplicateIdentity claim)
    else decodeClaims id provenance (claims ++ [claim]) values

section Manifest

-- `nlohmann::json::parse`; an error is the text of its exception
variable (parseJson : Bytes → Except Bytes Value)

def decodeParserModuleManifest (manifestJson : Bytes) (provenance : ParserClaimProvenance) :
    Except Bytes ParserModuleManifest :=
  if manifestJson = [] then .error (text "parser module manifest is empty")
  else
    match parseJson manifestJson with
    | .error what => .error (text "parser module manifest is invalid JSON: " ++ what)
    | .ok json =>
      match json with
      | .object _ => do
        if json.contains "provenance" then
          .error (text "parser module manifest must not declare host-owned provenance")
        else
          match json.find "module_abi" with
          | some (.unsigned abi) =>
            if abi ≠ PJ_PARSER_MODULE_ABI_VERSION then
              .error (text "parser module manifest module_abi does not match host ABI 1")
            else
              let id ← requiredString json "id" (text "parser module manifest")
              let name ← requiredString json "name" (text "parser module manifest")
              let version ← requiredString json "version" (text "parser module manifest")
              match SemVer.parse version with
              | .error e =>
                .error (text "parser module manifest version is not valid SemVer: " ++ e)
              | .ok _ =>
                match json.find "claims" with
                | some (.array values) =>
                  let claims ← decodeClaims id provenance [] values
                  .ok { id, name, version, claims }
                | _ => .error (text "parser module manifest requires a claims array")
          -- a signed integer is negative
          | some (.integer _) =>
            .error (text "parser module manifest module_abi does not match host ABI 1")
          | _ => .error (text "parser module manifest missing integer module_abi")
      | _ => .error (text "parser module manifest must be a JSON object")

end Manifest

/-! ## Parser plugins -/

/-- `PJ_route_classification_v1_t` -/
structure RouteClassification where
  routeFlags : UInt16
  matchKind : UInt16
  status : UInt16
  objectType : UInt16

def PJ_PARSER_ROUTE_MATCH_EXACT_V1 : UInt16 := 0

def PJ_PARSER_ROUTE_STATUS_CLAIMED_V1 : UInt16 := 0

def PJ_PARSER_ROUTE_STATUS_DECLINED_V1 : UInt16 := 1

structure ParserPluginExactClaim where
  encoding : Bytes
  typeName : Bytes
  classification : RouteClassification
  schemaDigests : Finset Bytes

/-- One wildcard claim for each encoding; `claims` are the ones made so far. -/
def wildcardClaims (providerId : Bytes) (provenance : ParserClaimProvenance) :
    List ParserClaim → List Bytes → Except Bytes (List ParserClaim)
  | claims, [] => .ok claims
  | claims, encoding :: encodings => do
    let claim ← normalizeAndValidateClaim
      { encoding, typeName := kAnyType, routeFlags := kRouteFlagScalar, providerId,
        claimId := text "wildcard:" ++ encoding, provenance }
    if encoding ∈ claims.map ParserClaim.encoding ∨ identityOf claim ∈ claims.map identityOf then
      .error (duplicateIdentity claim)
    else wildcardClaims providerId provenance (claims ++ [claim]) encodings

/-- The claim of one classified type, or none for a type the plugin declined. -/
def exactClaim (providerId : Bytes) (provenance : ParserClaimProvenance) (encodings : List Bytes)
    (exact : ParserPluginExactClaim) : Except Bytes (Option ParserClaim) :=
  let classification := exact.classification
  if !encodings.contains exact.encoding then
    .error (text "parser exact claim encoding is absent from its manifest: " ++ exact.encoding)
  else if classification.matchKind ≠ PJ_PARSER_ROUTE_MATCH_EXACT_V1 then
    .error (text "parser route classification reported a non-exact match")
  else if classification.status = PJ_PARSER_ROUTE_STATUS_DECLINED_V1 then
    -- a type that is declined must claim nothing
    if classification.routeFlags ≠ 0 ∨
        classification.objectType ≠ BuiltinObjectType.none.code then
      .error (text "declined parser route classification contains claimed route data")
    else .ok none
  else if classification.status ≠ PJ_PARSER_ROUTE_STATUS_CLAIMED_V1 then
    .error (text "parser route classification has an invalid status")
  else if exact.typeName = kAnyType then
    .error (text "parser route classification extension cannot report wildcard claims")
  else
    let object := classification.routeFlags &&& kRouteFlagObject ≠ 0
    if ¬object ∧ classification.objectType ≠ BuiltinObjectType.none.code then
      .error (text "parser route classification has object_type without an object route")
    else do
      let typeName ← normalizeParserTypeName exact.encoding exact.typeName
      let claim ← normalizeAndValidateClaim
        { encoding := exact.encoding
          typeName
          routeFlags := classification.routeFlags
          objectType := if object then some classification.objectType else none
          schemaDigests := exact.schemaDigests
          providerId
          -- a plugin names no claims of its own: the id is made of what is claimed
          claimId := text "handler:" ++ exact.encoding ++ text ":" ++ typeName
          provenance }
      .ok (some claim)

def exactClaims (providerId : Bytes) (provenance : ParserClaimProvenance)
    (encodings : List Bytes) :
    List ParserClaim → List ParserPluginExactClaim → Except Bytes (List ParserClaim)
  | claims, [] => .ok claims
  | claims, exact :: rest => do
    match ← exactClaim providerId provenance encodings exact with
    | none => exactClaims providerId provenance encodings claims rest
    | some claim =>
      if identityOf claim ∈ claims.map identityOf then .error (duplicateIdentity claim)
      else exactClaims providerId provenance encodings (claims ++ [claim]) rest

def synthesizeParserPluginClaims (providerId : Bytes) (manifestEncodings : List Bytes)
    (exact : List ParserPluginExactClaim) (provenance : ParserClaimProvenance) :
    Except Bytes (List ParserClaim) :=
  if providerId = [] then .error (text "parser plugin provider id must not be empty")
  else do
    let claims ← wildcardClaims providerId provenance [] manifestEncodings
    exactClaims providerId provenance manifestEncodings claims exact

end PlotJugglerSdk
