import PlotJugglerSdk.Json.Sameness
import PlotJugglerSdk.Lexing.Decimal
import PlotJugglerSdk.Source.Sha256

/-!
# Source descriptors

A source descriptor is a JSON object whose identity fields are the request: their canonical
text is digested into the identity. Whatever else a descriptor may hold is for presentation,
and what it may not hold is refused, at any depth.

* `sha256_standard`      — the digest, its text, and the identities that carry it
* `boundsViolation_iff`  — what is refused, at any depth
* `descriptor_identity`  — which descriptors are accepted, and which have one identity
-/

namespace PlotJugglerSdk

open Wire Json Lexing

/-! ## Identities -/

/-- At least 128 bits, at most the digest, and whole bytes. -/
def normalizedHexChars (hexChars : Nat) : Nat :=
  if hexChars < 32 then 32
  else if hexChars > 64 then 64
  else hexChars - hexChars % 2

def kHex : Bytes := text "0123456789abcdef"

def sha256Hex (data : Bytes) (hexChars : Nat) : Bytes :=
  let digest := sha256 data
  (List.range (normalizedHexChars hexChars / 2)).flatMap fun i =>
    [kHex.getD (digest.getD i 0 >>> 4).toNat 0, kHex.getD (digest.getD i 0 &&& 0xF).toNat 0]

structure IdentityScheme where
  schemePrefix : Bytes
  digestHexChars : Nat := 32

namespace IdentityScheme

def hexChars (scheme : IdentityScheme) : Nat := normalizedHexChars scheme.digestHexChars

def identityFor (scheme : IdentityScheme) (canonicalJson : Bytes) : Bytes :=
  scheme.schemePrefix ++ sha256Hex canonicalJson scheme.hexChars

def digestOf (scheme : IdentityScheme) (identity : Bytes) : Option Bytes :=
  let hexChars := scheme.hexChars
  if identity.length ≠ scheme.schemePrefix.length + hexChars ∨
      scheme.schemePrefix.isPrefixOf identity = false then none
  else
    let hex := identity.drop scheme.schemePrefix.length
    let lowerHex := hex.all fun c => 0x30 ≤ c && c ≤ 0x39 || 0x61 ≤ c && c ≤ 0x66
    if lowerHex = false then none else some hex

end IdentityScheme

/-! ## Descriptors -/

structure SourceDescriptorPolicy where
  identityFields : List Bytes
  presentationFields : List Bytes
  deniedKeys : List Bytes
  identity : IdentityScheme
  maxDescriptorBytes : Nat := 64 * 1024
  maxStringBytes : Nat := 4096
  maxContainerEntries : Nat := 4096

def kMaxDepth : Nat := 16

def kDeniedKeyViolationPrefix : Bytes := text "carries credential-shaped key: "

def isAllowedField (key : Bytes) (policy : SourceDescriptorPolicy) : Bool :=
  policy.identityFields.contains key || policy.presentationFields.contains key

mutual

def boundsViolation (policy : SourceDescriptorPolicy) (depth : Nat) (value : Value) :
    Option Bytes :=
  -- before anything else, so that the recursion is bounded by it
  if depth > kMaxDepth then
    some (text "descriptor nests deeper than " ++ decimalText kMaxDepth ++ text " levels")
  else
    match value with
    | .string value =>
      if value.length > policy.maxStringBytes then
        some (text "a string value exceeds the " ++ decimalText policy.maxStringBytes ++
          text "-byte limit")
      else none
    | .array values =>
      if values.length > policy.maxContainerEntries then
        some (text "an array exceeds the " ++ decimalText policy.maxContainerEntries ++
          text "-entry limit")
      else entriesViolation policy depth values
    | .object members =>
      if members.length > policy.maxContainerEntries then
        some (text "an object exceeds the " ++ decimalText policy.maxContainerEntries ++
          text "-member limit")
      else membersViolation policy depth members
    | _ => none

/-- The loop over the entries of an array. -/
def entriesViolation (policy : SourceDescriptorPolicy) (depth : Nat) : List Value → Option Bytes
  | [] => none
  | entry :: entries =>
    (boundsViolation policy (depth + 1) entry).or (entriesViolation policy depth entries)

/-- The loop over the members of an object. -/
def membersViolation (policy : SourceDescriptorPolicy) (depth : Nat) :
    List (Bytes × Value) → Option Bytes
  | [] => none
  | (key, value) :: members =>
    if key.length > policy.maxStringBytes then
      some (text "an object key exceeds the " ++ decimalText policy.maxStringBytes ++
        text "-byte limit")
    else if policy.deniedKeys.contains key then some (kDeniedKeyViolationPrefix ++ key)
    else (boundsViolation policy (depth + 1) value).or (membersViolation policy depth members)

end

/-- The value that the library reads of a text is a parameter; none where the text is no JSON. -/
def parseSourceDescriptor (parse : Bytes → Option Value) (json : Bytes)
    (policy : SourceDescriptorPolicy) : Except Bytes Value :=
  -- the text is bounded before it is parsed
  if json.length > policy.maxDescriptorBytes then
    .error (text "descriptor exceeds the " ++ decimalText policy.maxDescriptorBytes ++
      text "-byte limit")
  else
    match parse json with
    | none => .error (text "descriptor is not valid JSON")
    | some (.object members) =>
      -- the fields of the descriptor itself; what is nested may have any
      match members.find? fun item => !isAllowedField item.1 policy with
      | some item => .error (text "unknown field \"" ++ item.1 ++ text "\"")
      | none =>
        match boundsViolation policy 0 (.object members) with
        | some violation => .error violation
        | none => .ok (.object members)
    | some _ => .error (text "descriptor is not a JSON object")

/-- `std::unique`. -/
def unique : List Bytes → List Bytes
  | [] => []
  | [field] => [field]
  | field :: next :: fields =>
    if field = next then unique (next :: fields) else field :: unique (next :: fields)

/-- `operator[]` of an object that keeps the order of its members, and the assignment. -/
def assign (key : Bytes) (value : Value) : List (Bytes × Value) → List (Bytes × Value)
  | [] => [(key, value)]
  | (other, old) :: members =>
    if other = key then (other, value) :: members else (other, old) :: assign key value members

/-- A round of the loop over the identity fields. -/
def assignField (members canonical : List (Bytes × Value)) (field : Bytes) : List (Bytes × Value) :=
  match members.lookup field with
  | some value => assign field value canonical
  | none => canonical

/-- The fields of the canonical text. -/
def canonicalMembers (descriptor : Value) (policy : SourceDescriptorPolicy) :
    List (Bytes × Value) :=
  match descriptor with
  | .object members =>
    (unique (policy.identityFields.mergeSort fun a b => decide (a ≤ b))).foldl
      (assignField members) []
  | _ => []

/-- The text that the library prints of a value is a parameter. -/
def canonicalSourceDescriptorJson (dump : Value → Bytes) (descriptor : Value)
    (policy : SourceDescriptorPolicy) : Bytes :=
  dump (.object (canonicalMembers descriptor policy))

def sourceDescriptorIdentity (dump : Value → Bytes) (descriptor : Value)
    (policy : SourceDescriptorPolicy) : Bytes :=
  policy.identity.identityFor (canonicalSourceDescriptorJson dump descriptor policy)

/-! ## The text of a digest -/

/-- A digit of the hexadecimal notation, in lower case. -/
def lowerHexDigit (n : Nat) : UInt8 := UInt8.ofNat (Nat.digitChar n).toNat

def lowerHex (bytes : Bytes) : Bytes :=
  bytes.flatMap fun b => [lowerHexDigit (b.toNat / 16), lowerHexDigit (b.toNat % 16)]

theorem length_lowerHex (bytes : Bytes) : (lowerHex bytes).length = 2 * bytes.length := by
  unfold lowerHex
  induction bytes with
  | nil => rfl
  | cons b bytes ih =>
    rw [List.flatMap_cons, List.length_append, ih, List.length_cons]
    exact Nat.add_comm 2 _

theorem all_lowerHex (bytes : Bytes) :
    (lowerHex bytes).all (fun c => 0x30 ≤ c && c ≤ 0x39 || 0x61 ≤ c && c ≤ 0x66) = true := by
  have hdigit : ∀ n < 16, ((0x30 ≤ lowerHexDigit n && lowerHexDigit n ≤ 0x39) ||
      (0x61 ≤ lowerHexDigit n && lowerHexDigit n ≤ 0x66)) = true := by decide
  rw [List.all_eq_true]
  intro c hmem
  obtain ⟨b, -, hc⟩ := List.mem_flatMap.mp hmem
  have hb := b.toNat_lt
  simp only [List.mem_cons, List.not_mem_nil, or_false] at hc
  rcases hc with rfl | rfl
  · exact hdigit _ (by omega)
  · exact hdigit _ (Nat.mod_lt _ (by decide))

theorem normalizedHexChars_spec (hexChars : Nat) :
    32 ≤ normalizedHexChars hexChars ∧ normalizedHexChars hexChars ≤ 64 ∧
      normalizedHexChars hexChars % 2 = 0 := by
  unfold normalizedHexChars
  split
  · decide
  · split
    · decide
    · omega

theorem normalizedHexChars_idem (hexChars : Nat) :
    normalizedHexChars (normalizedHexChars hexChars) = normalizedHexChars hexChars := by
  obtain ⟨hlow, hhigh, heven⟩ := normalizedHexChars_spec hexChars
  generalize normalizedHexChars hexChars = width at hlow hhigh heven
  unfold normalizedHexChars
  rw [if_neg (by omega), if_neg (by omega), heven, Nat.sub_zero]

theorem length_sha256 (data : Bytes) : (sha256 data).length = 32 := rfl

/-- The text is that of the first bytes of the digest. -/
theorem sha256Hex_eq (data : Bytes) (hexChars : Nat) :
    sha256Hex data hexChars = lowerHex ((sha256 data).take (normalizedHexChars hexChars / 2)) := by
  have hdigits : ∀ n < 16, kHex.getD n 0 = lowerHexDigit n := by decide
  have hbyte : ∀ b : UInt8, [kHex.getD (b >>> 4).toNat 0, kHex.getD (b &&& 0xF).toNat 0] =
      [lowerHexDigit (b.toNat / 16), lowerHexDigit (b.toNat % 16)] := by
    intro b
    have hb := b.toNat_lt
    have hhigh : (b >>> 4).toNat = b.toNat / 16 := by
      rw [UInt8.toNat_shiftRight]
      exact Nat.shiftRight_eq_div_pow b.toNat 4
    have hlow : (b &&& 0xF).toNat = b.toNat % 16 := by
      rw [UInt8.toNat_and]
      exact Nat.and_two_pow_sub_one_eq_mod b.toNat 4
    rw [hhigh, hlow, hdigits _ (by omega), hdigits _ (Nat.mod_lt _ (by decide))]
  have hlength := length_sha256 data
  obtain ⟨-, hwidth, -⟩ := normalizedHexChars_spec hexChars
  -- the bytes that the loop reads
  have hread :
      (List.range (normalizedHexChars hexChars / 2)).map (fun i => (sha256 data).getD i 0) =
      (sha256 data).take (normalizedHexChars hexChars / 2) := by
    apply List.ext_getElem
    · rw [List.length_map, List.length_range, List.length_take]
      omega
    · intro i hi hi'
      rw [List.length_map, List.length_range] at hi
      rw [List.getElem_map, List.getElem_range, List.getElem_take, List.getD_eq_getElem]
  unfold sha256Hex lowerHex
  rw [← hread, List.flatMap_map]
  exact congrArg (fun f => List.flatMap f _) (funext fun i => hbyte _)

theorem length_sha256Hex (data : Bytes) (hexChars : Nat) :
    (sha256Hex data hexChars).length = normalizedHexChars hexChars := by
  obtain ⟨-, hhigh, heven⟩ := normalizedHexChars_spec hexChars
  have hlength := length_sha256 data
  rw [sha256Hex_eq, length_lowerHex, List.length_take]
  omega

/-- The digest of an identity is the text that it was made of. -/
theorem digestOf_identityFor (scheme : IdentityScheme) (data : Bytes) :
    scheme.digestOf (scheme.identityFor data) = some (sha256Hex data scheme.digestHexChars) := by
  have hhex : sha256Hex data scheme.hexChars = sha256Hex data scheme.digestHexChars := by
    rw [sha256Hex_eq, sha256Hex_eq, IdentityScheme.hexChars, normalizedHexChars_idem]
  have hlength : (sha256Hex data scheme.digestHexChars).length = scheme.hexChars :=
    length_sha256Hex data scheme.digestHexChars
  have hlower := all_lowerHex ((sha256 data).take (normalizedHexChars scheme.digestHexChars / 2))
  rw [← sha256Hex_eq] at hlower
  have hbegins : scheme.schemePrefix.isPrefixOf
      (scheme.schemePrefix ++ sha256Hex data scheme.digestHexChars) = true :=
    List.isPrefixOf_iff_prefix.mpr (List.prefix_append _ _)
  unfold IdentityScheme.digestOf IdentityScheme.identityFor
  rw [hhex, List.drop_left, List.length_append, hlength, hbegins]
  dsimp only
  rw [hlower, if_neg (by simp)]
  exact if_neg (by simp)

/-- The digest is the standard's, its text is that of its first bytes, and an identity gives it
back. -/
theorem sha256_standard (data : Bytes) (h : data.length < 2 ^ 61) :
    Sha256.bitsOf (sha256 data) = Fips180.sha256 (Sha256.bitsOf data) ∧
    (sha256 data).length = 32 ∧
    (∀ hexChars, sha256Hex data hexChars =
      lowerHex ((sha256 data).take (normalizedHexChars hexChars / 2))) ∧
    ∀ scheme : IdentityScheme,
      scheme.digestOf (scheme.identityFor data) = some (sha256Hex data scheme.digestHexChars) :=
  ⟨bitsOf_sha256 h, length_sha256 data, sha256Hex_eq data,
    fun scheme => digestOf_identityFor scheme data⟩

theorem sha256_standard_empty :
    Sha256.bitsOf (sha256 []) = Fips180.sha256 (Sha256.bitsOf []) :=
  (sha256_standard [] (by decide)).1

/-! ## What is refused -/

/-- The limits of a policy on one value, whatever is inside. -/
def WithinLimits (policy : SourceDescriptorPolicy) : Value → Prop
  | .string value => value.length ≤ policy.maxStringBytes
  | .array values => values.length ≤ policy.maxContainerEntries
  | .object members =>
    members.length ≤ policy.maxContainerEntries ∧
      ∀ key value, (key, value) ∈ members →
        key.length ≤ policy.maxStringBytes ∧ key ∉ policy.deniedKeys
  | _ => True

/-- The limits at every depth, in a value that stands at a depth itself. -/
def Bounded (policy : SourceDescriptorPolicy) (depth : Nat) (value : Value) : Prop :=
  ∀ inside inner, Value.Occurs value inside inner →
    depth + inside ≤ kMaxDepth ∧ WithinLimits policy inner

theorem bounded_array_iff {policy : SourceDescriptorPolicy} {depth : Nat} {values : List Value} :
    Bounded policy depth (.array values) ↔
      depth ≤ kMaxDepth ∧ values.length ≤ policy.maxContainerEntries ∧
        ∀ value ∈ values, Bounded policy (depth + 1) value := by
  constructor
  · intro h
    obtain ⟨hdepth, hlength⟩ := h 0 _ (.here _)
    refine ⟨hdepth, hlength, fun value hmem inside inner hinner => ?_⟩
    rw [Nat.add_right_comm]
    exact h (inside + 1) inner (.element hmem hinner)
  · rintro ⟨hdepth, hlength, hvalues⟩ inside inner hinner
    cases hinner with
    | here => exact ⟨hdepth, hlength⟩
    | element hmem hinner =>
      obtain ⟨hinside, hlimits⟩ := hvalues _ hmem _ _ hinner
      rw [Nat.add_right_comm] at hinside
      exact ⟨hinside, hlimits⟩

theorem bounded_object_iff {policy : SourceDescriptorPolicy} {depth : Nat}
    {members : List (Bytes × Value)} :
    Bounded policy depth (.object members) ↔
      depth ≤ kMaxDepth ∧ members.length ≤ policy.maxContainerEntries ∧
        ∀ key value, (key, value) ∈ members →
          key.length ≤ policy.maxStringBytes ∧ key ∉ policy.deniedKeys ∧
            Bounded policy (depth + 1) value := by
  constructor
  · intro h
    obtain ⟨hdepth, hlength, hkeys⟩ := h 0 _ (.here _)
    refine ⟨hdepth, hlength, fun key value hmem => ?_⟩
    refine ⟨(hkeys key value hmem).1, (hkeys key value hmem).2, fun inside inner hinner => ?_⟩
    rw [Nat.add_right_comm]
    exact h (inside + 1) inner (.member hmem hinner)
  · rintro ⟨hdepth, hlength, hmembers⟩ inside inner hinner
    cases hinner with
    | here =>
      exact ⟨hdepth, hlength, fun key value hmem =>
        ⟨(hmembers key value hmem).1, (hmembers key value hmem).2.1⟩⟩
    | member hmem hinner =>
      obtain ⟨hinside, hlimits⟩ := (hmembers _ _ hmem).2.2 _ _ hinner
      rw [Nat.add_right_comm] at hinside
      exact ⟨hinside, hlimits⟩

/-- A value with nothing inside. -/
theorem bounded_scalar_iff {policy : SourceDescriptorPolicy} {depth : Nat} {value : Value}
    (h : ∀ inside inner, Value.Occurs value inside inner → inside = 0 ∧ inner = value) :
    Bounded policy depth value ↔ depth ≤ kMaxDepth ∧ WithinLimits policy value := by
  constructor
  · exact fun hbounded => hbounded 0 value (.here value)
  · rintro hlimits inside inner hinner
    obtain ⟨rfl, rfl⟩ := h inside inner hinner
    exact hlimits

mutual

theorem boundsViolation_iff {policy : SourceDescriptorPolicy} {depth : Nat} {value : Value} :
    boundsViolation policy depth value = none ↔ Bounded policy depth value := by
  unfold boundsViolation
  -- the depth is checked of every value, scalar or not
  by_cases hdepth : depth > kMaxDepth
  · rw [if_pos hdepth]
    refine ⟨fun h => (by cases h), fun h => ?_⟩
    exact absurd (h 0 value (.here value)).1 (Nat.not_le_of_lt hdepth)
  rw [if_neg hdepth]
  have hle : depth ≤ kMaxDepth := Nat.le_of_not_lt hdepth
  match value with
  | .null | .boolean _ | .integer _ | .unsigned _ | .float _ =>
    -- nothing occurs in these but they themselves
    refine ⟨fun _ => (bounded_scalar_iff fun inside inner hinner => ?_).mpr ⟨hle, trivial⟩,
      fun _ => rfl⟩
    cases hinner
    exact ⟨rfl, rfl⟩
  | .string value =>
    rw [bounded_scalar_iff fun inside inner hinner => by
      cases hinner
      exact ⟨rfl, rfl⟩]
    dsimp only
    split
    · next hlong => exact ⟨fun h => (by cases h), fun h => absurd h.2 (Nat.not_le_of_lt hlong)⟩
    · next hshort => exact ⟨fun _ => ⟨hle, Nat.le_of_not_lt hshort⟩, fun _ => rfl⟩
  | .array values =>
    rw [bounded_array_iff]
    dsimp only
    split
    · next hlong => exact ⟨fun h => (by cases h), fun h => absurd h.2.1 (Nat.not_le_of_lt hlong)⟩
    · next hshort =>
      -- the entries stand one level deeper
      rw [entriesViolation_iff]
      exact ⟨fun h => ⟨hle, Nat.le_of_not_lt hshort, h⟩, fun h => h.2.2⟩
  | .object members =>
    rw [bounded_object_iff]
    dsimp only
    split
    · next hlong => exact ⟨fun h => (by cases h), fun h => absurd h.2.1 (Nat.not_le_of_lt hlong)⟩
    · next hshort =>
      -- and so do the members
      rw [membersViolation_iff]
      exact ⟨fun h => ⟨hle, Nat.le_of_not_lt hshort, h⟩, fun h => h.2.2⟩

theorem entriesViolation_iff {policy : SourceDescriptorPolicy} {depth : Nat} {values : List Value} :
    entriesViolation policy depth values = none ↔
      ∀ value ∈ values, Bounded policy (depth + 1) value := by
  match values with
  | [] => exact ⟨fun _ value hmem => absurd hmem List.not_mem_nil, fun _ => rfl⟩
  | value :: values =>
    rw [entriesViolation, Option.or_eq_none_iff, boundsViolation_iff, entriesViolation_iff,
      List.forall_mem_cons]

theorem membersViolation_iff {policy : SourceDescriptorPolicy} {depth : Nat}
    {members : List (Bytes × Value)} :
    membersViolation policy depth members = none ↔
      ∀ key value, (key, value) ∈ members →
        key.length ≤ policy.maxStringBytes ∧ key ∉ policy.deniedKeys ∧
          Bounded policy (depth + 1) value := by
  match members with
  | [] => exact ⟨fun _ key value hmem => absurd hmem List.not_mem_nil, fun _ => rfl⟩
  | (key, value) :: members =>
    -- the first member and the others, in the order in which they are checked
    have hcons : (∀ key' value', (key', value') ∈ (key, value) :: members →
        key'.length ≤ policy.maxStringBytes ∧ key' ∉ policy.deniedKeys ∧
          Bounded policy (depth + 1) value') ↔
        (key.length ≤ policy.maxStringBytes ∧ key ∉ policy.deniedKeys ∧
          Bounded policy (depth + 1) value) ∧
        ∀ key' value', (key', value') ∈ members →
          key'.length ≤ policy.maxStringBytes ∧ key' ∉ policy.deniedKeys ∧
            Bounded policy (depth + 1) value' := by
      simp only [← Prod.forall', List.forall_mem_cons]
    rw [hcons, membersViolation]
    split
    · next hlong => exact ⟨fun h => (by cases h), fun h => absurd h.1.1 (Nat.not_le_of_lt hlong)⟩
    · next hshort =>
      split
      · next hdenied =>
        exact ⟨fun h => (by cases h), fun h => absurd (List.contains_iff_mem.mp hdenied) h.1.2.1⟩
      · next hallowed =>
        rw [Option.or_eq_none_iff, boundsViolation_iff, membersViolation_iff]
        exact ⟨fun h =>
          ⟨⟨Nat.le_of_not_lt hshort, fun hmem => hallowed (List.contains_iff_mem.mpr hmem),
          h.1⟩, h.2⟩, fun h => ⟨h.1.2.2, h.2⟩⟩

end

/-! ## Canonical members -/

theorem mem_unique_iff {field : Bytes} {fields : List Bytes} :
    field ∈ unique fields ↔ field ∈ fields := by
  induction fields with
  | nil => rfl
  | cons first fields ih =>
    cases fields with
    | nil => rfl
    | cons next fields =>
      rw [unique]
      by_cases heq : first = next
      · rw [if_pos heq, ih, heq]
        constructor
        · exact List.mem_cons_of_mem next
        · intro hmem
          cases List.mem_cons.mp hmem with
          | inl hnext => exact hnext ▸ List.mem_cons_self
          | inr hrest => exact hrest
      · rw [if_neg heq]
        constructor
        · intro hmem
          cases List.mem_cons.mp hmem with
          | inl hfirst => exact List.mem_cons.mpr (.inl hfirst)
          | inr hrest => exact List.mem_cons_of_mem first (ih.mp hrest)
        · intro hmem
          cases List.mem_cons.mp hmem with
          | inl hfirst => exact List.mem_cons.mpr (.inl hfirst)
          | inr hrest => exact List.mem_cons_of_mem first (ih.mpr hrest)

theorem lookup_assign (key field : Bytes) (value : Value) (members : List (Bytes × Value)) :
    (assign field value members).lookup key = if key = field then some value else
      members.lookup key := by
  induction members with
  | nil =>
    rw [assign, List.lookup_cons]
    by_cases h : key = field
    · rw [h, beq_self_eq_true, if_pos rfl]
    · rw [beq_false_of_ne h, if_neg h]
  | cons first members ih =>
    obtain ⟨other, old⟩ := first
    rw [assign]
    by_cases hother : other = field
    · rw [if_pos hother, List.lookup_cons, List.lookup_cons, hother]
      by_cases h : key = field
      · rw [h, beq_self_eq_true, if_pos rfl]
      · rw [beq_false_of_ne h, if_neg h]
    · rw [if_neg hother, List.lookup_cons, List.lookup_cons, ih]
      by_cases h : key = other
      · rw [h, beq_self_eq_true]
        exact (if_neg hother).symm
      · rw [beq_false_of_ne h]

theorem lookup_assignField (key field : Bytes) (members canonical : List (Bytes × Value)) :
    (assignField members canonical field).lookup key =
      if key = field then (members.lookup key).or (canonical.lookup key) else
        canonical.lookup key := by
  unfold assignField
  by_cases hkey : key = field
  · rw [if_pos hkey, hkey]
    cases members.lookup field with
    | none => rfl
    | some value =>
      dsimp only
      rw [lookup_assign, if_pos rfl, Option.some_or]
  · rw [if_neg hkey]
    cases members.lookup field with
    | none => rfl
    | some value =>
      dsimp only
      rw [lookup_assign, if_neg hkey]

/-- The loop of the canonical members: a field that it visits has what the descriptor has. -/
theorem lookup_foldl_assignField (key : Bytes) (members : List (Bytes × Value))
    (fields : List Bytes)
    (canonical : List (Bytes × Value)) :
    (fields.foldl (assignField members) canonical).lookup key =
      if key ∈ fields then (members.lookup key).or (canonical.lookup key) else
        canonical.lookup key := by
  induction fields generalizing canonical with
  | nil => rfl
  | cons field fields ih =>
    rw [List.foldl_cons, ih, lookup_assignField]
    by_cases hkey : key = field
    · -- the field of this round: the later rounds assign the same value again
      rw [if_pos hkey, if_pos (List.mem_cons.mpr (.inl hkey))]
      cases members.lookup key with
      | none => simp only [Option.none_or, ite_self]
      | some value => simp only [Option.some_or, ite_self]
    · rw [if_neg hkey]
      by_cases hrest : key ∈ fields
      · rw [if_pos hrest, if_pos (List.mem_cons_of_mem field hrest)]
      · rw [if_neg hrest, if_neg fun hmem => (List.mem_cons.mp hmem).elim hkey hrest]

theorem lookup_canonicalMembers {key : Bytes} {descriptor : Value} {policy : SourceDescriptorPolicy}
    (h : key ∈ policy.identityFields) :
    (canonicalMembers descriptor policy).lookup key = descriptor.member key := by
  unfold canonicalMembers Value.member
  cases descriptor with
  | object members =>
    dsimp only
    rw [lookup_foldl_assignField, if_pos (mem_unique_iff.mpr (List.mem_mergeSort.mpr h)),
      List.lookup_nil, Option.or_none]
  | _ => rfl

/-- The canonical members depend on the identity fields only. -/
theorem canonicalMembers_congr {members members' : List (Bytes × Value)}
    {policy : SourceDescriptorPolicy}
    (h : ∀ field ∈ policy.identityFields, members.lookup field = members'.lookup field) :
    canonicalMembers (.object members) policy = canonicalMembers (.object members') policy := by
  unfold canonicalMembers
  dsimp only
  apply List.foldl_ext
  intro canonical field hmem
  unfold assignField
  rw [h field (List.mem_mergeSort.mp (mem_unique_iff.mp hmem))]

/-! ## Normal forms of canonical members -/

theorem normalMembers_assign (key : Bytes) (value : Value) (members : List (Bytes × Value)) :
    Value.normalMembers (assign key value members) =
      assign key value.normal (Value.normalMembers members) := by
  induction members with
  | nil => rfl
  | cons first members ih =>
    obtain ⟨other, old⟩ := first
    rw [Value.normalMembers, assign, assign]
    by_cases hother : other = key
    · rw [if_pos hother, if_pos hother, Value.normalMembers]
    · rw [if_neg hother, if_neg hother, Value.normalMembers, ih]

theorem normalMembers_foldl (members : List (Bytes × Value)) (fields : List Bytes)
    (canonical : List (Bytes × Value)) :
    Value.normalMembers (fields.foldl (assignField members) canonical) =
      fields.foldl (assignField (Value.normalMembers members)) (Value.normalMembers canonical) := by
  induction fields generalizing canonical with
  | nil => rfl
  | cons field fields ih =>
    have hround : Value.normalMembers (assignField members canonical field) =
        assignField (Value.normalMembers members) (Value.normalMembers canonical) field := by
      unfold assignField
      rw [Value.lookup_normalMembers]
      cases members.lookup field with
      | none => rfl
      | some value => exact normalMembers_assign field value canonical
    rw [List.foldl_cons, List.foldl_cons, ih, hround]

theorem normalMembers_canonicalMembers (members : List (Bytes × Value))
    (policy : SourceDescriptorPolicy) :
    Value.normalMembers (canonicalMembers (.object members) policy) =
      canonicalMembers (.object (Value.normalMembers members)) policy :=
  normalMembers_foldl members _ []

/-! ## Accepted descriptors -/

/-- The text is accepted, as this descriptor. -/
def Accepted (parse : Bytes → Option Value) (policy : SourceDescriptorPolicy) (json : Bytes)
    (descriptor : Value) : Prop :=
  json.length ≤ policy.maxDescriptorBytes ∧ parse json = some descriptor ∧
    ∃ members, descriptor = .object members ∧
      (∀ key value, (key, value) ∈ members →
        key ∈ policy.identityFields ∨ key ∈ policy.presentationFields) ∧
      Bounded policy 0 (.object members)

theorem isAllowedField_iff {key : Bytes} {policy : SourceDescriptorPolicy} :
    isAllowedField key policy = true ↔
      key ∈ policy.identityFields ∨ key ∈ policy.presentationFields := by
  unfold isAllowedField
  rw [Bool.or_eq_true, List.contains_iff_mem, List.contains_iff_mem]

theorem parseSourceDescriptor_ok_iff {parse : Bytes → Option Value}
    {policy : SourceDescriptorPolicy}
    {json : Bytes} {descriptor : Value} :
    parseSourceDescriptor parse json policy = .ok descriptor ↔
      Accepted parse policy json descriptor := by
  unfold parseSourceDescriptor Accepted
  by_cases hlong : json.length > policy.maxDescriptorBytes
  · rw [if_pos hlong]
    exact ⟨fun h => (by cases h), fun h => absurd h.1 (Nat.not_le_of_lt hlong)⟩
  rw [if_neg hlong]
  constructor
  · intro h
    split at h
    · cases h
    · next members hparse =>
      split at h
      · cases h
      · next hallowed =>
        split at h
        · cases h
        · next hbounds =>
          obtain rfl := Except.ok.inj h
          refine ⟨Nat.le_of_not_lt hlong, hparse, members, rfl, fun key value hmem => ?_,
            boundsViolation_iff.mp hbounds⟩
          have hno := List.find?_eq_none.mp hallowed (key, value) hmem
          exact isAllowedField_iff.mp (by simpa using hno)
    · cases h
  · rintro ⟨-, hparse, members, rfl, hallowed, hbounds⟩
    have hfind : members.find? (fun item => !isAllowedField item.1 policy) = none := by
      rw [List.find?_eq_none]
      rintro ⟨key, value⟩ hmem
      rw [isAllowedField_iff.mpr (hallowed key value hmem)]
      exact Bool.false_ne_true
    rw [hparse]
    dsimp only
    rw [hfind]
    dsimp only
    rw [boundsViolation_iff.mpr hbounds]

/-- The identity of a descriptor is that of its identity fields, and no text is accepted but
those within the policy. The library keeps the members of what it reads in key order, and what
it prints of a canonical object tells the object, up to how an integer is kept. -/
theorem descriptor_identity (parse : Bytes → Option Value) (dump : Value → Bytes)
    (policy : SourceDescriptorPolicy)
    (hparse : ∀ json value, parse json = some value → value.KeySorted)
    (hdump : ∀ json json' descriptor descriptor', Accepted parse policy json descriptor →
      Accepted parse policy json' descriptor' →
      (dump (.object (canonicalMembers descriptor policy)) =
          dump (.object (canonicalMembers descriptor' policy)) ↔
        Value.normalMembers (canonicalMembers descriptor policy) =
          Value.normalMembers (canonicalMembers descriptor' policy))) :
    (∀ json descriptor, parseSourceDescriptor parse json policy = .ok descriptor ↔
      Accepted parse policy json descriptor) ∧
    ∀ json json' descriptor descriptor',
      parseSourceDescriptor parse json policy = .ok descriptor →
      parseSourceDescriptor parse json' policy = .ok descriptor' →
      ((∀ field ∈ policy.identityFields,
          Option.Rel Value.Same (descriptor.member field) (descriptor'.member field)) →
        canonicalSourceDescriptorJson dump descriptor policy =
          canonicalSourceDescriptorJson dump descriptor' policy ∧
        sourceDescriptorIdentity dump descriptor policy =
          sourceDescriptorIdentity dump descriptor' policy) ∧
      ((∃ field ∈ policy.identityFields,
          ¬ Option.Rel Value.Same (descriptor.member field) (descriptor'.member field)) →
        canonicalSourceDescriptorJson dump descriptor policy ≠
          canonicalSourceDescriptorJson dump descriptor' policy) := by
  refine ⟨fun json descriptor => parseSourceDescriptor_ok_iff, ?_⟩
  intro json json' descriptor descriptor' h h'
  rw [parseSourceDescriptor_ok_iff] at h h'
  have hsorted := hparse json descriptor h.2.1
  have hsorted' := hparse json' descriptor' h'.2.1
  have htext := hdump json json' descriptor descriptor' h h'
  obtain ⟨-, -, members, rfl, -⟩ := h
  obtain ⟨-, -, members', rfl, -⟩ := h'
  constructor
  · intro hagree
    have hcanonical : canonicalSourceDescriptorJson dump (.object members) policy =
        canonicalSourceDescriptorJson dump (.object members') policy := by
      unfold canonicalSourceDescriptorJson
      rw [htext, normalMembers_canonicalMembers, normalMembers_canonicalMembers]
      apply canonicalMembers_congr
      intro field hmem
      rw [Value.lookup_normalMembers, Value.lookup_normalMembers]
      exact Value.normal_member_eq hsorted hsorted' (hagree field hmem)
    refine ⟨hcanonical, ?_⟩
    unfold sourceDescriptorIdentity
    rw [hcanonical]
  · rintro ⟨field, hmem, hdiffer⟩ hequal
    -- equal texts are of canonical members that agree on every identity field
    have hmembers := congrArg (List.lookup field) (htext.mp hequal)
    rw [Value.lookup_normalMembers, Value.lookup_normalMembers, lookup_canonicalMembers hmem,
      lookup_canonicalMembers hmem] at hmembers
    exact hdiffer (Value.same_member_of_normal_eq hmembers)

/-! ## A descriptor with one identity field -/

def sampleMembers (a n : UInt64) : List (Bytes × Value) :=
  [(text "a", .unsigned a), (text "n", .unsigned n)]

def samplePolicy : SourceDescriptorPolicy where
  identityFields := [text "a"]
  presentationFields := [text "n"]
  deniedKeys := [text "token"]
  identity := { schemePrefix := text "sample:" }

/-- What the library reads of four texts. -/
def sampleParse (json : Bytes) : Option Value :=
  if json = text "\x7b\"a\":1,\"n\":2\x7d" then some (.object (sampleMembers 1 2))
  else if json = text "\x7b \"n\": 3, \"a\": 1 \x7d" then some (.object (sampleMembers 1 3))
  else if json = text "\x7b\"a\":2,\"n\":2\x7d" then some (.object (sampleMembers 2 2))
  else none

/-- What the library prints of an object with one integer. -/
def sampleDump : Value → Bytes
  | .object [(_, .unsigned a)] => text "\x7b\"a\":" ++ decimalText a.toNat ++ text "\x7d"
  | _ => text "null"

theorem canonicalMembers_sample (a n : UInt64) :
    canonicalMembers (.object (sampleMembers a n)) samplePolicy = [(text "a", .unsigned a)] := by
  unfold canonicalMembers samplePolicy
  dsimp only
  rw [List.mergeSort_singleton]
  rfl

theorem sampleParse_some {json : Bytes} {descriptor : Value}
    (h : sampleParse json = some descriptor) :
    ∃ a n, (a = 1 ∨ a = 2) ∧ descriptor = .object (sampleMembers a n) := by
  unfold sampleParse at h
  split at h
  · exact ⟨1, 2, .inl rfl, (Option.some.inj h).symm⟩
  · split at h
    · exact ⟨1, 3, .inl rfl, (Option.some.inj h).symm⟩
    · split at h
      · exact ⟨2, 2, .inr rfl, (Option.some.inj h).symm⟩
      · cases h

theorem keySorted_sample (a n : UInt64) : (Value.object (sampleMembers a n)).KeySorted := by
  refine ⟨?_, trivial, trivial, trivial⟩
  show [text "a", text "n"].Pairwise (· < ·)
  decide +kernel

theorem sampleDump_iff {a a' : UInt64} (h : a = 1 ∨ a = 2) (h' : a' = 1 ∨ a' = 2) :
    sampleDump (.object [(text "a", .unsigned a)]) =
      sampleDump (.object [(text "a", .unsigned a')]) ↔
      Value.normalMembers [(text "a", .unsigned a)] =
        Value.normalMembers [(text "a", .unsigned a')] := by
  have hvalue : Value.normalMembers [(text "a", .unsigned a)] =
      Value.normalMembers [(text "a", .unsigned a')] ↔ a = a' := by
    constructor
    · intro heq
      exact Value.unsigned.inj (Prod.mk.inj (List.cons.inj heq).1).2
    · intro heq
      rw [heq]
  rw [hvalue]
  have htexts : sampleDump (.object [(text "a", .unsigned 1)]) ≠
      sampleDump (.object [(text "a", .unsigned 2)]) := by
    show text "\x7b\"a\":" ++ decimalText 1 ++ text "\x7d" ≠
      text "\x7b\"a\":" ++ decimalText 2 ++ text "\x7d"
    decide +kernel
  rcases h with rfl | rfl <;> rcases h' with rfl | rfl
  · exact ⟨fun _ => rfl, fun _ => rfl⟩
  · exact ⟨fun heq => absurd heq htexts, fun heq => absurd heq (by decide)⟩
  · exact ⟨fun heq => absurd heq.symm htexts, fun heq => absurd heq (by decide)⟩
  · exact ⟨fun _ => rfl, fun _ => rfl⟩

theorem accepted_sample {json : Bytes} {a n : UInt64} (hlength : json.length ≤ 65536)
    (hparse : sampleParse json = some (.object (sampleMembers a n))) :
    parseSourceDescriptor sampleParse json samplePolicy = .ok (.object (sampleMembers a n)) := by
  refine parseSourceDescriptor_ok_iff.mpr
    ⟨hlength, hparse, sampleMembers a n, rfl, fun key value hmem => ?_, boundsViolation_iff.mp ?_⟩
  · cases List.mem_cons.mp hmem with
    | inl hfirst => exact .inl (List.mem_singleton.mpr (Prod.mk.inj hfirst).1)
    | inr hrest =>
      exact .inr (List.mem_singleton.mpr (Prod.mk.inj (List.mem_singleton.mp hrest)).1)
  · have hkeys : (text "a").length ≤ 4096 ∧ (text "n").length ≤ 4096 ∧
        [text "token"].contains (text "a") = false ∧
          [text "token"].contains (text "n") = false := by
      decide +kernel
    obtain ⟨ha, hn, hadenied, hndenied⟩ := hkeys
    simp only [boundsViolation, membersViolation, sampleMembers, samplePolicy, hadenied, hndenied,
      if_neg (Nat.not_lt_of_le ha), if_neg (Nat.not_lt_of_le hn), kMaxDepth]
    rfl

/-- The presentation and the order of the members do not matter, and the identity field does. -/
theorem descriptor_identity_sample :
    canonicalSourceDescriptorJson sampleDump (.object (sampleMembers 1 2)) samplePolicy =
        canonicalSourceDescriptorJson sampleDump (.object (sampleMembers 1 3)) samplePolicy ∧
      canonicalSourceDescriptorJson sampleDump (.object (sampleMembers 1 2)) samplePolicy ≠
        canonicalSourceDescriptorJson sampleDump (.object (sampleMembers 2 2)) samplePolicy := by
  have hfirst : parseSourceDescriptor sampleParse (text "\x7b\"a\":1,\"n\":2\x7d") samplePolicy =
      .ok (.object (sampleMembers 1 2)) := accepted_sample (by decide +kernel) rfl
  have hsecond :
      parseSourceDescriptor sampleParse (text "\x7b \"n\": 3, \"a\": 1 \x7d") samplePolicy =
      .ok (.object (sampleMembers 1 3)) := accepted_sample (by decide +kernel) rfl
  have hthird : parseSourceDescriptor sampleParse (text "\x7b\"a\":2,\"n\":2\x7d") samplePolicy =
      .ok (.object (sampleMembers 2 2)) := accepted_sample (by decide +kernel) rfl
  -- the two hypotheses on the parser and the printer, for the sample
  have hidentity := (descriptor_identity sampleParse sampleDump samplePolicy
    (by
      intro json value hparse
      obtain ⟨a, n, -, rfl⟩ := sampleParse_some hparse
      exact keySorted_sample a n)
    (by
      rintro json json' descriptor descriptor' ⟨-, hparse, -⟩ ⟨-, hparse', -⟩
      obtain ⟨a, n, ha, rfl⟩ := sampleParse_some hparse
      obtain ⟨a', n', ha', rfl⟩ := sampleParse_some hparse'
      rw [canonicalMembers_sample, canonicalMembers_sample]
      exact sampleDump_iff ha ha')).2
  constructor
  · refine ((hidentity _ _ _ _ hfirst hsecond).1 fun field hmem => ?_).1
    obtain rfl := List.mem_singleton.mp hmem
    exact .some (.refl _)
  · refine (hidentity _ _ _ _ hfirst hthird).2 ⟨text "a", List.mem_singleton_self _,
      fun hsame => ?_⟩
    cases hsame with
    | some hsame =>
      cases hsame with
      | number h h' =>
        obtain rfl := Option.some.inj h
        exact absurd (Option.some.inj h') (by decide)

end PlotJugglerSdk
