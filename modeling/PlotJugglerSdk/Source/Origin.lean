import PlotJugglerSdk.Lexing.Padded
import PlotJugglerSdk.Lexing.Split

/-!
# Server origins

Trust in a server and the release of credentials to it are keyed by scheme, host and port. A
URI is cut at the first `://`, its authority ends at the first slash behind it, and the port
stands behind the last colon of the authority.

* `parseOrigin_uri`   — the parts of a URI and the origin that it has
* `origins_canonical` — an origin is read back from its key
-/

namespace PlotJugglerSdk

open Wire Json Lexing

/-! ## Text utilities -/

def lowerByte (c : UInt8) : UInt8 := if 0x41 ≤ c ∧ c ≤ 0x5a then c + 0x20 else c

def lowerAscii (value : Bytes) : Bytes := value.map lowerByte

/-- Numbers that do not fit 32 bits are no port either. -/
def parsePort (text : Bytes) : Option UInt16 :=
  (digitsValue text).bind fun value =>
    if value = 0 ∨ value > 65535 then none else some (UInt16.ofNat value)

/-! ## Origins -/

namespace Origins

def colon : UInt8 := 0x3a

def slash : UInt8 := 0x2f

def questionMark : UInt8 := 0x3f

def hash : UInt8 := 0x23

def schemeEnd : Bytes := [0x3a, 0x2f, 0x2f]

end Origins

open Origins

def validHostBytes (host : Bytes) : Bool :=
  !host.isEmpty && host.all fun c =>
    0x61 ≤ c && c ≤ 0x7a || 0x30 ≤ c && c ≤ 0x39 || c == 0x2e || c == 0x2d || c == 0x5f

def validateSchemelessOrigin (origin : Bytes) : Except Bytes Unit :=
  match cut colon origin with
  | (_, none) => .error (text "origin must be host:port")
  | (host, some port) =>
    if host = [] then .error (text "origin must be host:port")
    else if validHostBytes host = false then
      .error (text "origin host must be lowercase [a-z0-9._-]")
    else if port = [] ∨ port.length > 5 ∨ port.head? = some 0x30 ∨ parsePort port = none then
      .error (text "origin port must be a 1..65535 decimal with no leading zero")
    else .ok ()

structure Origin where
  scheme : Bytes
  host : Bytes
  port : UInt16 := 0
  deriving DecidableEq

structure OriginPolicy where
  allowedSchemes : List Bytes
  defaultPorts : List (Bytes × UInt16)

/-- The host of an authority, and the port that it has or the scheme implies. -/
def hostAndPort (policy : OriginPolicy) (scheme authority : Bytes) : Option (Bytes × UInt16) :=
  match cutLast colon authority with
  | none => (policy.defaultPorts.lookup scheme).map fun port => (lowerAscii authority, port)
  | some (host, digits) =>
    if host = [] then none else (parsePort digits).map fun port => (lowerAscii host, port)

def parseOrigin (uri : Bytes) (policy : OriginPolicy) : Option Origin :=
  match cutAt schemeEnd uri with
  | none => none
  | some (scheme, rest) =>
    if scheme = [] then none
    else if policy.allowedSchemes.contains (lowerAscii scheme) = false then none
    -- no origin has a query or a fragment
    else if questionMark ∈ uri ∨ hash ∈ uri then none
    else
      -- a path is cut off and not looked at
      let authority := (cut slash rest).1
      if authority = [] then none
      else
        match hostAndPort policy (lowerAscii scheme) authority with
        | none => none
        | some (host, port) =>
          if validHostBytes host = false then none else some ⟨lowerAscii scheme, host, port⟩

def originKey (origin : Origin) : Bytes :=
  origin.scheme ++ schemeEnd ++ origin.host ++ colon :: decimalText origin.port.toNat

def sameOrigin (a b : Bytes) (policy : OriginPolicy) : Bool :=
  (parseOrigin a policy).isSome && (parseOrigin b policy).isSome &&
    parseOrigin a policy == parseOrigin b policy

/-- What separates the origins of a list. -/
def isListSeparator (c : UInt8) : Bool :=
  c == 0x2c || c == 0x3b || c == 0x20 || 0x09 ≤ c && c ≤ 0x0d

/-- Entries that fail to parse are dropped. -/
def parseOriginList (text : Bytes) (policy : OriginPolicy) : List Origin :=
  ((text.splitOnP isListSeparator).filter fun entry => !entry.isEmpty).filterMap fun entry =>
    parseOrigin entry policy

def originAllowed (uri : Bytes) (allowlist : List Origin) (policy : OriginPolicy) : Bool :=
  match parseOrigin uri policy with
  | none => false
  | some origin => allowlist.contains origin

/-! ## Lower case -/

theorem lowerByte_fixed {c : UInt8} (h : ¬ (0x41 ≤ c ∧ c ≤ 0x5a)) : lowerByte c = c := if_neg h

/-- A byte that is no small letter is the lower case of itself only. -/
theorem lowerByte_eq_iff {c mark : UInt8} (hmark : mark < 0x41) :
    lowerByte c = mark ↔ c = mark := by
  have hbytes : ∀ n < 256, 0x41 ≤ n → 0x41 ≤ (lowerByte (UInt8.ofNat n)).toNat := by
    unfold lowerByte
    decide +kernel
  constructor
  · intro h
    by_cases hletter : 0x41 ≤ c ∧ c ≤ 0x5a
    · have hlow := hbytes c.toNat c.toNat_lt (UInt8.le_iff_toNat_le.mp hletter.1)
      rw [UInt8.ofNat_toNat, h] at hlow
      have hmark' : mark.toNat < 0x41 := UInt8.lt_iff_toNat_lt.mp hmark
      omega
    · rw [lowerByte_fixed hletter] at h
      exact h
  · rintro rfl
    exact lowerByte_fixed fun h => absurd h.1 (UInt8.not_le.mpr hmark)

theorem lowerByte_idem (c : UInt8) : lowerByte (lowerByte c) = lowerByte c := by
  have hbytes : ∀ n < 256, lowerByte (lowerByte (UInt8.ofNat n)) = lowerByte (UInt8.ofNat n) := by
    unfold lowerByte
    decide +kernel
  rw [← UInt8.ofNat_toNat (x := c)]
  exact hbytes c.toNat c.toNat_lt

theorem lowerAscii_idem (value : Bytes) : lowerAscii (lowerAscii value) = lowerAscii value := by
  unfold lowerAscii
  rw [List.map_map]
  exact List.map_congr_left fun c _ => lowerByte_idem c

theorem mem_lowerAscii_iff {mark : UInt8} {value : Bytes} (hmark : mark < 0x41) :
    mark ∈ lowerAscii value ↔ mark ∈ value := by
  unfold lowerAscii
  rw [List.mem_map]
  constructor
  · rintro ⟨c, hmem, hc⟩
    rwa [← (lowerByte_eq_iff hmark).mp hc]
  · exact fun hmem => ⟨mark, hmem, (lowerByte_eq_iff hmark).mpr rfl⟩

theorem schemeEnd_infix_lowerAscii {value : Bytes} :
    schemeEnd <:+: lowerAscii value ↔ schemeEnd <:+: value := by
  have hfixed : lowerAscii schemeEnd = schemeEnd := by decide
  unfold lowerAscii
  rw [List.infix_map_iff]
  constructor
  · rintro ⟨word, hinfix, hword⟩
    have hlength : word.length = 3 := by
      rw [← List.length_map (f := lowerByte), ← hword]
      rfl
    obtain ⟨first, second, third, rfl⟩ := List.length_eq_three.mp hlength
    obtain ⟨hfirst, hrest⟩ := List.cons.inj hword
    obtain ⟨hsecond, hrest⟩ := List.cons.inj hrest
    obtain ⟨hthird, -⟩ := List.cons.inj hrest
    rw [(lowerByte_eq_iff (by decide)).mp hfirst.symm,
      (lowerByte_eq_iff (by decide)).mp hsecond.symm,
      (lowerByte_eq_iff (by decide)).mp hthird.symm] at hinfix
    exact hinfix
  · exact fun hinfix => ⟨schemeEnd, hinfix, hfixed.symm⟩

/-- No occurrence of the end of a scheme begins in the scheme and ends behind it. -/
theorem schemeEnd_infix_append {scheme : Bytes} :
    schemeEnd <:+: scheme ++ schemeEnd.dropLast ↔ schemeEnd <:+: scheme := by
  have hlast : ∀ whole : Bytes, ∀ last : UInt8, last ≠ 0x2f → ¬ schemeEnd <:+ whole ++ [last] := by
    rintro whole last hne ⟨front, hfront⟩
    have h := congrArg List.getLast? hfront
    rw [List.getLast?_append, List.getLast?_append] at h
    exact hne (Option.some.inj h).symm
  have hpair : ∀ whole : Bytes, ¬ schemeEnd <:+ whole ++ [0x3a] ++ [0x2f] := by
    rintro whole ⟨front, hfront⟩
    have hcons : front ++ [0x3a, 0x2f] ++ [0x2f] = whole ++ [0x3a] ++ [0x2f] := by
      rw [← hfront, List.append_assoc]
      rfl
    have hinner := List.append_cancel_right hcons
    have h := congrArg List.getLast? hinner
    rw [List.getLast?_append, List.getLast?_append] at h
    exact absurd (Option.some.inj h) (by decide)
  have hsplit : scheme ++ schemeEnd.dropLast = scheme ++ [0x3a] ++ [0x2f] := by
    rw [List.append_assoc]
    rfl
  rw [hsplit, List.infix_concat_iff, List.infix_concat_iff]
  constructor
  · rintro (h | h | h)
    · exact absurd h (hpair scheme)
    · exact absurd h (hlast scheme 0x3a (by decide))
    · exact h
  · exact fun h => .inr (.inr h)

/-! ## The parts of a URI -/

/-- A URI in its parts. The path begins with its slash; the port is none where no colon stands
behind the host. -/
structure UriParts where
  scheme : Bytes
  host : Bytes
  port : Option Bytes
  path : Bytes

namespace UriParts

def authority (parts : UriParts) : Bytes :=
  match parts.port with
  | none => parts.host
  | some digits => parts.host ++ colon :: digits

def uri (parts : UriParts) : Bytes := parts.scheme ++ schemeEnd ++ (parts.authority ++ parts.path)

/-- The parts are cut where the separators of a URI stand. -/
structure WellCut (parts : UriParts) : Prop where
  scheme : ¬ schemeEnd <:+: parts.scheme
  authority : slash ∉ parts.authority
  host : parts.port = none → colon ∉ parts.host
  port : ∀ digits, parts.port = some digits → colon ∉ digits
  path : parts.path = [] ∨ ∃ rest, parts.path = slash :: rest

/-- The port that is written, or that the scheme implies. -/
def effectivePort (parts : UriParts) (policy : OriginPolicy) : Option UInt16 :=
  match parts.port with
  | none => policy.defaultPorts.lookup (lowerAscii parts.scheme)
  | some digits => parsePort digits

/-- The origin of a URI in these parts. -/
def HasOrigin (parts : UriParts) (policy : OriginPolicy) (origin : Origin) : Prop :=
  parts.scheme ≠ [] ∧ lowerAscii parts.scheme ∈ policy.allowedSchemes ∧
    questionMark ∉ parts.uri ∧ hash ∉ parts.uri ∧
    parts.effectivePort policy = some origin.port ∧ validHostBytes origin.host = true ∧
    origin.scheme = lowerAscii parts.scheme ∧ origin.host = lowerAscii parts.host

variable {parts : UriParts}

theorem cut_authority (h : parts.WellCut) :
    (cut slash (parts.authority ++ parts.path)).1 = parts.authority := by
  cases h.path with
  | inl hnil =>
    rw [hnil, List.append_nil, cut_of_notMem h.authority]
  | inr hslash =>
    obtain ⟨rest, hrest⟩ := hslash
    rw [hrest, cut_append h.authority]

theorem cutAt_uri (h : parts.WellCut) :
    cutAt schemeEnd parts.uri = some (parts.scheme, parts.authority ++ parts.path) :=
  cutAt_append (fun hinfix => h.scheme (schemeEnd_infix_append.mp hinfix)) _

theorem hostAndPort_authority (h : parts.WellCut) (hhost : parts.host ≠ [])
    (policy : OriginPolicy) :
    hostAndPort policy (lowerAscii parts.scheme) parts.authority =
      (parts.effectivePort policy).map fun port => (lowerAscii parts.host, port) := by
  have hcolon := h.host
  have hdigits := h.port
  unfold hostAndPort authority effectivePort
  cases hport : parts.port with
  | none =>
    dsimp only
    rw [cutLast_eq_none_iff.mpr (hcolon hport)]
  | some digits =>
    dsimp only
    rw [cutLast_append _ (hdigits digits hport)]
    exact if_neg hhost

/-- A lone port has no host. -/
theorem hostAndPort_nil (h : parts.WellCut) (hhost : parts.host = []) (hne : parts.authority ≠ [])
    (policy : OriginPolicy) (scheme : Bytes) : hostAndPort policy scheme parts.authority =
      none := by
  have hdigits := h.port
  unfold authority at hne
  unfold hostAndPort authority
  cases hport : parts.port with
  | none =>
    rw [hport] at hne
    exact absurd hhost hne
  | some digits =>
    dsimp only
    rw [cutLast_append _ (hdigits digits hport)]
    exact if_pos hhost

/-- Every URI with the end of a scheme is in parts. -/
theorem exists_of_cutAt {uri scheme rest : Bytes} (h : cutAt schemeEnd uri = some (scheme, rest)) :
    ∃ parts : UriParts, parts.WellCut ∧ parts.uri = uri ∧ parts.scheme = scheme := by
  obtain ⟨hlist, hno⟩ := cutAt_eq_some h
  have hscheme : ¬ schemeEnd <:+: scheme := fun hinfix =>
    hno (by decide) (schemeEnd_infix_append.mpr hinfix)
  -- the path, with its slash
  obtain ⟨authority, path, hrest, hauthority, hpath⟩ : ∃ authority path, rest = authority ++ path ∧
      slash ∉ authority ∧ (path = [] ∨ ∃ behind, path = slash :: behind) := by
    have hrejoined := rejoined_cut slash rest
    have hnot := notMem_cut slash rest
    cases hcut : cut slash rest with
    | mk authority behind =>
      rw [hcut] at hrejoined hnot
      cases behind with
      | none => exact ⟨authority, [], by rw [List.append_nil]; exact hrejoined.symm, hnot, .inl rfl⟩
      | some behind => exact ⟨authority, slash :: behind, hrejoined.symm, hnot, .inr ⟨behind, rfl⟩⟩
  -- the port, with its colon
  cases hlast : cutLast colon authority with
  | none =>
    refine ⟨⟨scheme, authority, none, path⟩, ⟨hscheme, hauthority, ?_, ?_, hpath⟩, ?_, rfl⟩
    · exact fun _ => cutLast_eq_none_iff.mp hlast
    · exact fun digits hport => by cases hport
    · rw [hlist, hrest]
      rfl
  | some cuts =>
    obtain ⟨host, digits⟩ := cuts
    obtain ⟨hparts, hdigits⟩ := cutLast_eq_some hlast
    refine ⟨⟨scheme, host, some digits, path⟩, ⟨hscheme, ?_, ?_, ?_, hpath⟩, ?_, rfl⟩
    · show slash ∉ host ++ colon :: digits
      rwa [← hparts]
    · exact fun hport => by cases hport
    · intro digits' hport
      rwa [← Option.some.inj hport]
    · rw [hlist, hrest, hparts]
      rfl

end UriParts

/-- The parts of a URI tell whether it has an origin, and which. -/
theorem parseOrigin_uri {parts : UriParts} {policy : OriginPolicy} {origin : Origin}
    (h : parts.WellCut) : parseOrigin parts.uri policy = some origin ↔
      parts.HasOrigin policy origin := by
  unfold parseOrigin UriParts.HasOrigin
  rw [UriParts.cutAt_uri h]
  dsimp only
  rw [UriParts.cut_authority h]
  by_cases hscheme : parts.scheme = []
  · rw [if_pos hscheme]
    exact ⟨fun hnone => (by cases hnone), fun horigin => absurd hscheme horigin.1⟩
  rw [if_neg hscheme]
  by_cases hallowed : lowerAscii parts.scheme ∈ policy.allowedSchemes
  case neg =>
    rw [if_pos (by rw [← Bool.not_eq_true, List.contains_iff_mem]; exact hallowed)]
    exact ⟨fun hnone => (by cases hnone), fun horigin => absurd horigin.2.1 hallowed⟩
  rw [if_neg (by rw [Bool.not_eq_false, List.contains_iff_mem]; exact hallowed)]
  by_cases hmarks : questionMark ∈ parts.uri ∨ hash ∈ parts.uri
  · rw [if_pos hmarks]
    refine ⟨fun hnone => (by cases hnone), fun horigin => ?_⟩
    exact absurd hmarks (not_or.mpr ⟨horigin.2.2.1, horigin.2.2.2.1⟩)
  rw [if_neg hmarks]
  rw [not_or] at hmarks
  by_cases hhost : parts.host = []
  · -- no byte of a host, whether the authority is empty or a lone port
    have hnone : ∀ origin' : Origin, origin'.host = lowerAscii parts.host →
        ¬ validHostBytes origin'.host = true := by
      intro origin' heq
      rw [heq, hhost]
      exact Bool.false_ne_true
    refine ⟨fun hsome => ?_, fun horigin => ?_⟩
    · by_cases hauthority : parts.authority = []
      · rw [if_pos hauthority] at hsome
        cases hsome
      rw [if_neg hauthority, UriParts.hostAndPort_nil h hhost hauthority] at hsome
      cases hsome
    · obtain ⟨-, -, -, -, -, hvalid, -, heq⟩ := horigin
      exact absurd hvalid (hnone origin heq)
  have hauthority : parts.authority ≠ [] := by
    unfold UriParts.authority
    cases parts.port with
    | none => exact hhost
    | some digits => exact fun hnil => hhost (List.append_eq_nil_iff.mp hnil).1
  rw [if_neg hauthority, UriParts.hostAndPort_authority h hhost]
  cases parts.effectivePort policy with
  | none => exact ⟨fun hnone => (by cases hnone), fun horigin => by cases horigin.2.2.2.2.1⟩
  | some port =>
    rw [Option.map_some]
    dsimp only
    constructor
    · intro hsome
      split at hsome
      · cases hsome
      · next hvalid =>
        obtain rfl := Option.some.inj hsome
        exact ⟨hscheme, hallowed, hmarks.1, hmarks.2, rfl, Bool.not_eq_false _ ▸ hvalid, rfl, rfl⟩
    · rintro ⟨-, -, -, -, hport, hvalid, hscheme', hhost'⟩
      obtain ⟨scheme, host, port'⟩ := origin
      dsimp only at hport hvalid hscheme' hhost'
      obtain rfl := Option.some.inj hport
      rw [if_neg (by rw [← hhost', hvalid]; decide), hscheme', hhost']

/-- An origin comes from a URI in parts. -/
theorem parts_of_parseOrigin {uri : Bytes} {policy : OriginPolicy} {origin : Origin}
    (h : parseOrigin uri policy = some origin) :
    ∃ parts : UriParts, parts.WellCut ∧ parts.uri = uri ∧ parts.HasOrigin policy origin := by
  cases hcut : cutAt schemeEnd uri with
  | none =>
    unfold parseOrigin at h
    rw [hcut] at h
    cases h
  | some cuts =>
    obtain ⟨scheme, rest⟩ := cuts
    obtain ⟨parts, hwell, huri, -⟩ := UriParts.exists_of_cutAt hcut
    refine ⟨parts, hwell, huri, ?_⟩
    rw [← huri] at h
    exact (parseOrigin_uri hwell).mp h

/-! ## Ports -/

theorem parsePort_eq_some_iff {digits : Bytes} {port : UInt16} :
    parsePort digits = some port ↔ digitsValue digits = some port.toNat ∧ port ≠ 0 := by
  have hport := port.toNat_lt
  unfold parsePort
  constructor
  · intro h
    obtain ⟨value, hvalue, hbound⟩ := Option.bind_eq_some_iff.mp h
    split at hbound
    · cases hbound
    · next hrange =>
      rw [not_or] at hrange
      obtain rfl := Option.some.inj hbound
      have hnat : (UInt16.ofNat value).toNat = value :=
        UInt16.toNat_ofNat_of_lt' (show value < 2 ^ 16 by omega)
      refine ⟨by rw [hnat]; exact hvalue, fun hzero => hrange.1 ?_⟩
      rw [← hnat, hzero]
      rfl
  · rintro ⟨hvalue, hne⟩
    have hpos : port.toNat ≠ 0 := fun hzero => hne (UInt16.toNat_inj.mp hzero)
    rw [hvalue, Option.bind_some, if_neg (by omega), UInt16.ofNat_toNat]

/-- The text of a port is read as that port, unless the port is zero. -/
theorem parsePort_decimalText (port : UInt16) :
    parsePort (decimalText port.toNat) = some port ↔ port ≠ 0 := by
  rw [parsePort_eq_some_iff, decimalText_natCast, digitsValue_printed]
  exact ⟨fun h => h.2, fun h => ⟨rfl, h⟩⟩

theorem notMem_of_parsePort {digits : Bytes} {port : UInt16} {mark : UInt8}
    (h : parsePort digits = some port) (hmark : ¬ (0x30 ≤ mark ∧ mark ≤ 0x39)) : mark ∉ digits := by
  have hvalue := (parsePort_eq_some_iff.mp h).1
  unfold digitsValue at hvalue
  split at hvalue
  · cases hvalue
  · exact fun hmem => hmark (digit_of_digitsFrom hvalue mark hmem)

theorem notMem_decimalText {n : Nat} {mark : UInt8} (hmark : ¬ (0x30 ≤ mark ∧ mark ≤ 0x39)) :
    mark ∉ decimalText n := by
  rw [decimalText_natCast]
  exact fun hmem => hmark (digit_of_digitsFrom (digitsFrom_printed n) mark hmem)

/-! ## Hosts -/

/-- The small letters, the digits, the dot, the hyphen and the underscore. -/
def HostByte (c : UInt8) : Prop :=
  0x61 ≤ c ∧ c ≤ 0x7a ∨ 0x30 ≤ c ∧ c ≤ 0x39 ∨ c = 0x2e ∨ c = 0x2d ∨ c = 0x5f

theorem validHostBytes_iff {host : Bytes} :
    validHostBytes host = true ↔ host ≠ [] ∧ ∀ c ∈ host, HostByte c := by
  unfold validHostBytes HostByte
  rw [Bool.and_eq_true, List.all_eq_true]
  simp only [Bool.not_eq_true', List.isEmpty_eq_false_iff, Bool.or_eq_true, Bool.and_eq_true,
    decide_eq_true_eq, beq_iff_eq, or_assoc]

theorem notMem_of_validHostBytes {host : Bytes} {mark : UInt8} (h : validHostBytes host = true)
    (hmark : ¬ HostByte mark) : mark ∉ host :=
  fun hmem => hmark ((validHostBytes_iff.mp h).2 mark hmem)

/-- A host in lower case stays as it is. -/
theorem lowerAscii_of_validHostBytes {host : Bytes} (h : validHostBytes host = true) :
    lowerAscii host = host := by
  unfold lowerAscii
  rw [List.map_congr_left (g := id), List.map_id]
  intro c hmem
  apply lowerByte_fixed
  intro hletter
  have hlow : 0x41 ≤ c.toNat := UInt8.le_iff_toNat_le.mp hletter.1
  have hhigh : c.toNat ≤ 0x5a := UInt8.le_iff_toNat_le.mp hletter.2
  rcases (validHostBytes_iff.mp h).2 c hmem with hc | hc | rfl | rfl | rfl
  · have hc' : 0x61 ≤ c.toNat := UInt8.le_iff_toNat_le.mp hc.1
    omega
  · have hc' : c.toNat ≤ 0x39 := UInt8.le_iff_toNat_le.mp hc.2
    omega
  · exact absurd hletter (by decide)
  · exact absurd hletter (by decide)
  · exact absurd hletter (by decide)

/-! ## Scheme-less origins -/

/-- What is accepted is a host and a port as they are printed. -/
theorem validateSchemelessOrigin_ok_iff {origin : Bytes} :
    validateSchemelessOrigin origin = .ok () ↔
      ∃ host, ∃ port : UInt16, port ≠ 0 ∧ validHostBytes host = true ∧
        origin = host ++ colon :: decimalText port.toNat := by
  constructor
  · intro h
    unfold validateSchemelessOrigin at h
    have hrejoined := rejoined_cut colon origin
    cases hcut : cut colon origin with
    | mk host tail =>
      rw [hcut] at h hrejoined
      cases tail with
      | none => cases h
      | some digits =>
        dsimp only at h
        -- the three guards of the source, in its order
        split at h
        · cases h
        split at h
        · cases h
        split at h
        · cases h
        · next hvalid hport =>
          rw [not_or, not_or, not_or] at hport
          obtain ⟨-, -, hhead, hnumber⟩ := hport
          obtain ⟨port, hsome⟩ := Option.ne_none_iff_exists'.mp hnumber
          obtain ⟨hvalue, hne⟩ := parsePort_eq_some_iff.mp hsome
          refine ⟨host, port, hne, Bool.not_eq_false _ ▸ hvalid, ?_⟩
          -- digits without a leading zero are the text of the port
          rw [decimalText_natCast, ← eq_printed_of_digitsValue hvalue hhead]
          exact hrejoined.symm
  · rintro ⟨host, port, hne, hvalid, rfl⟩
    have hcolon : colon ∉ host := notMem_of_validHostBytes hvalid (by unfold HostByte; decide)
    have hpos : port.toNat ≠ 0 := fun hzero => hne (UInt16.toNat_inj.mp hzero)
    -- conversely a printed port passes each check of the digits
    have hlength : (decimalText port.toNat).length ≤ 5 := by
      rw [decimalText_natCast]
      exact length_printed_le (by decide) (Nat.lt_trans port.toNat_lt (by decide))
    have hhead : (decimalText port.toNat).head? ≠ some 0x30 := by
      rw [decimalText_natCast]
      exact head_printed_ne_zero hpos
    have hnil : decimalText port.toNat ≠ [] := by
      obtain ⟨digit, rest, heq, -⟩ := head_printed port.toNat
      rw [decimalText_natCast, heq]
      exact List.cons_ne_nil digit rest
    have hparse := (parsePort_decimalText port).mpr hne
    unfold validateSchemelessOrigin
    rw [cut_append hcolon]
    dsimp only
    rw [if_neg (validHostBytes_iff.mp hvalid).1, if_neg (by rw [hvalid]; decide), if_neg]
    rw [not_or, not_or, not_or]
    exact ⟨hnil, by omega, hhead, by rw [hparse]; exact Option.some_ne_none port⟩

/-! ## Keys of origins -/

/-- A key in parts. -/
def keyParts (scheme host : Bytes) (port : UInt16) : UriParts :=
  ⟨scheme, host, some (decimalText port.toNat), []⟩

theorem originKey_eq_uri (origin : Origin) :
    originKey origin = (keyParts origin.scheme origin.host origin.port).uri := by
  unfold originKey keyParts UriParts.uri UriParts.authority
  rw [List.append_nil, List.append_assoc]

theorem keyParts_wellCut {scheme host : Bytes} {port : UInt16} (hscheme : ¬ schemeEnd <:+: scheme)
    (hhost : validHostBytes host = true) : (keyParts scheme host port).WellCut := by
  have hcolon : colon ∉ decimalText port.toNat := notMem_decimalText (by decide)
  have hslash : slash ∉ decimalText port.toNat := notMem_decimalText (by decide)
  have hslash' : slash ∉ host := notMem_of_validHostBytes hhost (by unfold HostByte; decide)
  refine ⟨hscheme, fun hmem => ?_, fun hport => (by cases hport), fun digits hport => ?_, .inl rfl⟩
  · cases List.mem_append.mp hmem with
    | inl hmem => exact hslash' hmem
    | inr hmem =>
      cases List.mem_cons.mp hmem with
      | inl heq => exact absurd heq (by decide)
      | inr hmem => exact hslash hmem
  · rw [← Option.some.inj hport]
    exact hcolon

/-- What begins a query or a fragment stands in a URI where it stands in the scheme or the path,
if the host and the port have none. -/
theorem mem_uri_iff {parts : UriParts} {mark : UInt8} (hmark : mark = questionMark ∨ mark = hash)
    (hhost : mark ∉ parts.host) (hport : ∀ digits, parts.port = some digits → mark ∉ digits) :
    mark ∈ parts.uri ↔ mark ∈ parts.scheme ∨ mark ∈ parts.path := by
  have hnoend : mark ∉ schemeEnd := by rcases hmark with rfl | rfl <;> decide
  have hnocolon : mark ≠ colon := by rcases hmark with rfl | rfl <;> decide
  have hauthority : mark ∉ parts.authority := by
    unfold UriParts.authority
    cases hcase : parts.port with
    | none => exact hhost
    | some digits =>
      dsimp only
      rw [List.mem_append, List.mem_cons, not_or, not_or]
      exact ⟨hhost, hnocolon, hport digits hcase⟩
  unfold UriParts.uri
  rw [List.mem_append, List.mem_append, List.mem_append]
  constructor
  · rintro ((h | h) | (h | h))
    · exact .inl h
    · exact absurd h hnoend
    · exact absurd h hauthority
    · exact .inr h
  · rintro (h | h)
    · exact .inl (.inl h)
    · exact .inr (.inr h)

/-- No valid host and no digits begin a query or a fragment. -/
theorem mark_spec {mark : UInt8} (hmark : mark = questionMark ∨ mark = hash) :
    ¬ HostByte mark ∧ ¬ (0x30 ≤ mark ∧ mark ≤ 0x39) ∧ mark < 0x41 := by
  unfold HostByte
  rcases hmark with rfl | rfl <;> decide

theorem mem_keyParts_uri_iff {scheme host : Bytes} {port : UInt16} {mark : UInt8}
    (hhost : validHostBytes host = true) (hmark : mark = questionMark ∨ mark = hash) :
    mark ∈ (keyParts scheme host port).uri ↔ mark ∈ scheme := by
  obtain ⟨hnohost, hnodigit, -⟩ := mark_spec hmark
  rw [mem_uri_iff hmark (notMem_of_validHostBytes hhost hnohost) fun digits hport => by
    rw [← Option.some.inj hport]
    exact notMem_decimalText hnodigit]
  exact ⟨fun h => h.resolve_right List.not_mem_nil, .inl⟩

/-- The key of a scheme, a host and a port is read as that origin under four conditions on the
scheme and one on the port. -/
theorem parseOrigin_key_iff {policy : OriginPolicy} {scheme host : Bytes} {port : UInt16}
    (hscheme : ¬ schemeEnd <:+: scheme) (hhost : validHostBytes host = true) :
    parseOrigin (originKey ⟨scheme, host, port⟩) policy = some ⟨scheme, host, port⟩ ↔
      scheme ≠ [] ∧ scheme = lowerAscii scheme ∧ scheme ∈ policy.allowedSchemes ∧
        questionMark ∉ scheme ∧ hash ∉ scheme ∧ port ≠ 0 := by
  rw [originKey_eq_uri, parseOrigin_uri (keyParts_wellCut hscheme hhost)]
  unfold UriParts.HasOrigin
  rw [mem_keyParts_uri_iff hhost (.inl rfl), mem_keyParts_uri_iff hhost (.inr rfl)]
  show scheme ≠ [] ∧ lowerAscii scheme ∈ policy.allowedSchemes ∧ questionMark ∉ scheme ∧
    hash ∉ scheme ∧ parsePort (decimalText port.toNat) = some port ∧ validHostBytes host = true ∧
    scheme = lowerAscii scheme ∧ host = lowerAscii host ↔ _
  rw [parsePort_decimalText, lowerAscii_of_validHostBytes hhost]
  constructor
  · rintro ⟨hne, hallowed, hquestion, hhash, hport, -, hlower, -⟩
    rw [← hlower] at hallowed
    exact ⟨hne, hlower, hallowed, hquestion, hhash, hport⟩
  · rintro ⟨hne, hlower, hallowed, hquestion, hhash, hport⟩
    rw [hlower] at hallowed
    exact ⟨hne, hallowed, hquestion, hhash, hport, hhost, hlower, rfl⟩

/-! ## Origins and their keys -/

/-- A scheme that the key of an origin keeps. -/
structure SchemeForm (scheme : Bytes) : Prop where
  ne_nil : scheme ≠ []
  lower : scheme = lowerAscii scheme
  schemeEnd : ¬ schemeEnd <:+: scheme
  questionMark : questionMark ∉ scheme
  hash : hash ∉ scheme

/-- The origin of a URI has a scheme of this form. -/
theorem UriParts.HasOrigin.schemeForm {parts : UriParts} {policy : OriginPolicy} {origin : Origin}
    (h : parts.HasOrigin policy origin) (hwell : parts.WellCut) : SchemeForm origin.scheme := by
  obtain ⟨hne, -, hquestion, hhash, -, -, hscheme, -⟩ := h
  have hmem : ∀ mark, mark ∈ parts.scheme → mark ∈ parts.uri := fun mark hmem =>
    List.mem_append.mpr (.inl (List.mem_append.mpr (.inl hmem)))
  rw [hscheme]
  refine ⟨fun hnil => hne (List.map_eq_nil_iff.mp hnil), (lowerAscii_idem _).symm,
    fun hinfix => hwell.scheme (schemeEnd_infix_lowerAscii.mp hinfix), fun hmark =>
      ?_, fun hmark => ?_⟩
  · exact hquestion (hmem _ ((mem_lowerAscii_iff (by decide)).mp hmark))
  · exact hhash (hmem _ ((mem_lowerAscii_iff (by decide)).mp hmark))

/-- An origin with a port is read back from its key. -/
theorem parseOrigin_originKey {uri : Bytes} {policy : OriginPolicy} {origin : Origin}
    (h : parseOrigin uri policy = some origin) (hport : origin.port ≠ 0) :
    parseOrigin (originKey origin) policy = some origin := by
  obtain ⟨parts, hwell, -, horigin⟩ := parts_of_parseOrigin h
  have hform := horigin.schemeForm hwell
  obtain ⟨-, hallowed, -, -, -, hhost, hscheme, -⟩ := horigin
  rw [← hscheme] at hallowed
  exact (parseOrigin_key_iff hform.schemeEnd hhost).mpr
    ⟨hform.ne_nil, hform.lower, hallowed, hform.questionMark, hform.hash, hport⟩

/-- A port of zero is no written one. -/
theorem defaultPort_of_port_eq_zero {uri : Bytes} {policy : OriginPolicy} {origin : Origin}
    (h : parseOrigin uri policy = some origin) (hport : origin.port = 0) :
    policy.defaultPorts.lookup origin.scheme = some 0 := by
  obtain ⟨parts, -, -, -, -, -, -, heffective, -, hscheme, -⟩ := parts_of_parseOrigin h
  unfold UriParts.effectivePort at heffective
  rw [hport] at heffective
  split at heffective
  · rw [hscheme]
    exact heffective
  · exact absurd rfl (parsePort_eq_some_iff.mp heffective).2

/-- The last slash of a key stands behind the scheme. -/
theorem originKey_inj {scheme scheme' : Bytes} {origin origin' : Bytes} (h : slash ∉ origin)
    (h' : slash ∉ origin') (heq : scheme ++ schemeEnd ++ origin = scheme' ++ schemeEnd ++ origin') :
    scheme = scheme' ∧ origin = origin' := by
  have hsplit : ∀ scheme origin : Bytes, scheme ++ schemeEnd ++ origin =
      (scheme ++ [colon, slash]) ++ slash :: origin := by
    intro scheme origin
    rw [List.append_assoc, List.append_assoc]
    rfl
  have hcut := congrArg (cutLast slash) heq
  rw [hsplit, hsplit, cutLast_append _ h, cutLast_append _ h'] at hcut
  obtain ⟨hscheme, horigin⟩ := Prod.mk.inj (Option.some.inj hcut)
  exact ⟨List.append_cancel_right hscheme, horigin⟩

theorem slash_notMem_key {host : Bytes} {port : UInt16} (hhost : validHostBytes host = true) :
    slash ∉ host ++ colon :: decimalText port.toNat := by
  rw [List.mem_append, List.mem_cons, not_or, not_or]
  exact ⟨notMem_of_validHostBytes hhost (by unfold HostByte; decide), by decide,
    notMem_decimalText (by decide)⟩

/-- Which schemes make a URI of every origin without a scheme, one that keeps its text. -/
theorem parseOrigin_scheme_iff {policy : OriginPolicy} {scheme text : Bytes}
    (hvalid : validateSchemelessOrigin text = .ok ()) (hallowed : scheme ∈ policy.allowedSchemes) :
    (∃ origin, parseOrigin (scheme ++ schemeEnd ++ text) policy = some origin ∧
      originKey origin = scheme ++ schemeEnd ++ text) ↔ SchemeForm scheme := by
  obtain ⟨host, port, hport, hhost, rfl⟩ := validateSchemelessOrigin_ok_iff.mp hvalid
  have hkey : originKey ⟨scheme, host, port⟩ =
      scheme ++ schemeEnd ++ (host ++ colon :: decimalText port.toNat) := by
    unfold originKey
    rw [List.append_assoc _ host]
  constructor
  · rintro ⟨origin, hparse, hequal⟩
    obtain ⟨parts, hwell, -, horigin⟩ := parts_of_parseOrigin hparse
    have hvalid' : validHostBytes origin.host = true := horigin.2.2.2.2.2.1
    unfold originKey at hequal
    rw [List.append_assoc _ origin.host] at hequal
    rw [← (originKey_inj (slash_notMem_key hvalid') (slash_notMem_key hhost) hequal).1]
    exact horigin.schemeForm hwell
  · intro hform
    refine ⟨⟨scheme, host, port⟩, ?_, hkey⟩
    rw [← hkey, parseOrigin_key_iff hform.schemeEnd hhost]
    exact ⟨hform.ne_nil, hform.lower, hallowed, hform.questionMark, hform.hash, hport⟩

/-! ## Comparing URIs -/

theorem sameOrigin_iff {a b : Bytes} {policy : OriginPolicy} :
    sameOrigin a b policy = true ↔
      ∃ origin, parseOrigin a policy = some origin ∧ parseOrigin b policy = some origin := by
  unfold sameOrigin
  rw [Bool.and_eq_true, Bool.and_eq_true, beq_iff_eq]
  constructor
  · rintro ⟨⟨ha, -⟩, heq⟩
    obtain ⟨origin, horigin⟩ := Option.isSome_iff_exists.mp ha
    exact ⟨origin, horigin, heq ▸ horigin⟩
  · rintro ⟨origin, ha, hb⟩
    rw [ha, hb]
    exact ⟨⟨rfl, rfl⟩, rfl⟩

/-- Parts that agree up to case, and in the port, have the same origin. -/
theorem hasOrigin_congr {parts parts' : UriParts} {policy : OriginPolicy} {origin : Origin}
    (hpath : ∀ mark, mark = questionMark ∨ mark = hash → mark ∉ parts'.path)
    (hscheme : lowerAscii parts.scheme = lowerAscii parts'.scheme)
    (hhost : lowerAscii parts.host = lowerAscii parts'.host)
    (hport : parts.effectivePort policy = parts'.effectivePort policy)
    (h : parts.HasOrigin policy origin) : parts'.HasOrigin policy origin := by
  obtain ⟨hne, hallowed, hquestion, hhash, heffective, hvalid, horigin, horigin'⟩ := h
  -- the marks are looked for in the whole URI, but only the scheme and the path can hold one
  have hmarks : ∀ mark, mark = questionMark ∨ mark = hash → mark ∉ parts.uri →
      mark ∉ parts'.uri := by
    intro mark hmark hnot
    obtain ⟨hnohost, hnodigit, hlow⟩ := mark_spec hmark
    have hnothost : mark ∉ parts'.host := by
      rw [← mem_lowerAscii_iff hlow, ← hhost, ← horigin']
      exact notMem_of_validHostBytes hvalid hnohost
    have hnotport : ∀ digits, parts'.port = some digits → mark ∉ digits := by
      intro digits hdigits
      rw [hport] at heffective
      unfold UriParts.effectivePort at heffective
      rw [hdigits] at heffective
      exact notMem_of_parsePort heffective hnodigit
    rw [mem_uri_iff hmark hnothost hnotport]
    rintro (hmem | hmem)
    · apply hnot
      rw [← mem_lowerAscii_iff hlow, ← hscheme, mem_lowerAscii_iff hlow] at hmem
      exact List.mem_append.mpr (.inl (List.mem_append.mpr (.inl hmem)))
    · exact hpath mark hmark hmem
  refine ⟨?_, ?_, hmarks _ (.inl rfl) hquestion, hmarks _ (.inr rfl) hhash, ?_, hvalid, ?_, ?_⟩
  · intro hnil
    rw [hnil] at hscheme
    exact hne (List.map_eq_nil_iff.mp hscheme)
  · rwa [← hscheme]
  · rwa [← hport]
  · rwa [← hscheme]
  · rwa [← hhost]

theorem parseOrigin_congr {parts parts' : UriParts} {policy : OriginPolicy} (hwell : parts.WellCut)
    (hwell' : parts'.WellCut)
    (hpath : ∀ mark, mark = questionMark ∨ mark = hash → mark ∉ parts.path ∧ mark ∉ parts'.path)
    (hscheme : lowerAscii parts.scheme = lowerAscii parts'.scheme)
    (hhost : lowerAscii parts.host = lowerAscii parts'.host)
    (hport : parts.effectivePort policy = parts'.effectivePort policy) :
    parseOrigin parts.uri policy = parseOrigin parts'.uri policy := by
  apply Option.ext
  intro origin
  rw [parseOrigin_uri hwell, parseOrigin_uri hwell']
  constructor
  · exact hasOrigin_congr (fun mark hmark => (hpath mark hmark).2) hscheme hhost hport
  · exact hasOrigin_congr (fun mark hmark => (hpath mark hmark).1) hscheme.symm hhost.symm
      hport.symm

theorem originAllowed_iff {uri : Bytes} {allowlist : List Origin} {policy : OriginPolicy} :
    originAllowed uri allowlist policy = true ↔
      ∃ origin ∈ allowlist, parseOrigin uri policy = some origin := by
  unfold originAllowed
  cases parseOrigin uri policy with
  | none => exact ⟨fun h => (by cases h), fun ⟨_, _, h⟩ => (by cases h)⟩
  | some parsed =>
    dsimp only
    rw [List.contains_iff_mem]
    constructor
    · exact fun hmem => ⟨parsed, hmem, rfl⟩
    · rintro ⟨origin, hmem, heq⟩
      rwa [Option.some.inj heq]

/-- An origin is told by its key, and a URI by its scheme, its host and its port; the parts of
every URI that has an origin are known. -/
theorem origins_canonical (policy : OriginPolicy) :
    (∀ uri origin, parseOrigin uri policy = some origin →
      (origin.host ≠ [] ∧ ∀ c ∈ origin.host, HostByte c) ∧
      (origin.port ≠ 0 → parseOrigin (originKey origin) policy = some origin ∧
        validateSchemelessOrigin (origin.host ++ colon :: decimalText origin.port.toNat) = .ok ()) ∧
      (origin.port = 0 → policy.defaultPorts.lookup origin.scheme = some 0)) ∧
    (∀ text, validateSchemelessOrigin text = .ok () → ∀ scheme ∈ policy.allowedSchemes,
      ((∃ origin, parseOrigin (scheme ++ schemeEnd ++ text) policy = some origin ∧
        originKey origin = scheme ++ schemeEnd ++ text) ↔ SchemeForm scheme)) ∧
    (∀ a b, sameOrigin a b policy = sameOrigin b a policy) ∧
    (∀ a b c, sameOrigin a b policy = true → sameOrigin b c policy = true →
      sameOrigin a c policy = true) ∧
    (∀ uri, parseOrigin uri policy ≠ none → ∃ parts : UriParts, parts.WellCut ∧ parts.uri = uri) ∧
    (∀ parts parts' : UriParts, parts.WellCut → parts'.WellCut →
      (∀ mark, mark = questionMark ∨ mark = hash → mark ∉ parts.path ∧ mark ∉ parts'.path) →
      lowerAscii parts.scheme = lowerAscii parts'.scheme →
      lowerAscii parts.host = lowerAscii parts'.host →
      parts.effectivePort policy = parts'.effectivePort policy →
      ∀ other, sameOrigin parts.uri other policy = sameOrigin parts'.uri other policy) ∧
    ∀ uri allowlist, originAllowed uri allowlist policy = true ↔
      ∃ origin ∈ allowlist, parseOrigin uri policy = some origin := by
  refine ⟨?_, fun text hvalid scheme hallowed => parseOrigin_scheme_iff hvalid hallowed, ?_, ?_,
    ?_, ?_,
    fun uri allowlist => originAllowed_iff⟩
  · intro uri origin h
    obtain ⟨parts, -, -, horigin⟩ := parts_of_parseOrigin h
    have hvalid : validHostBytes origin.host = true := horigin.2.2.2.2.2.1
    refine ⟨validHostBytes_iff.mp hvalid, fun hport => ⟨parseOrigin_originKey h hport, ?_⟩,
      defaultPort_of_port_eq_zero h⟩
    exact validateSchemelessOrigin_ok_iff.mpr ⟨origin.host, origin.port, hport, hvalid, rfl⟩
  · intro a b
    -- both say that the two URIs have one origin
    rw [Bool.eq_iff_iff, sameOrigin_iff, sameOrigin_iff]
    constructor
    · exact fun ⟨origin, ha, hb⟩ => ⟨origin, hb, ha⟩
    · exact fun ⟨origin, hb, ha⟩ => ⟨origin, ha, hb⟩
  · intro a b c hab hbc
    obtain ⟨origin, ha, hb⟩ := sameOrigin_iff.mp hab
    obtain ⟨origin', hb', hc⟩ := sameOrigin_iff.mp hbc
    obtain rfl := Option.some.inj (hb.symm.trans hb')
    exact sameOrigin_iff.mpr ⟨origin, ha, hc⟩
  · intro uri hsome
    obtain ⟨origin, h⟩ := Option.ne_none_iff_exists'.mp hsome
    obtain ⟨parts, hwell, huri, -⟩ := parts_of_parseOrigin h
    exact ⟨parts, hwell, huri⟩
  · intro parts parts' hwell hwell' hpath hscheme hhost hport other
    unfold sameOrigin
    rw [parseOrigin_congr hwell hwell' hpath hscheme hhost hport]

/-- A default port of zero, and a scheme that is listed in upper case. -/
theorem origins_counterexample :
    parseOrigin (text "s://h") ⟨[text "s"], [(text "s", 0)]⟩ = some ⟨text "s", text "h", 0⟩ ∧
      parseOrigin (originKey ⟨text "s", text "h", 0⟩) ⟨[text "s"], [(text "s", 0)]⟩ = none ∧
      validateSchemelessOrigin (text "h:0") ≠ .ok () ∧
      validateSchemelessOrigin (text "h:1") = .ok () ∧
      parseOrigin (text "S://h:1") ⟨[text "S"], []⟩ = none := by
  refine ⟨by decide +kernel, by decide +kernel, ?_, rfl, by decide +kernel⟩
  intro h
  cases h

end PlotJugglerSdk
