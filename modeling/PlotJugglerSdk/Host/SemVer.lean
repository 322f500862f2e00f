import PlotJugglerSdk.Host.ModuleManifest
import PlotJugglerSdk.Lexing.Split
import PlotJugglerSdk.Scan.Folds

/-!
# The grammar of semantic versions

A text is cut at the first plus and what stands before it at the first hyphen, although
hyphens may stand in the identifiers too. Numbers have any number of digits and stay texts.

* `parseIdentifiers_ok_iff` — the words that make a dotted list
* `parse_ok_iff`            — the parts that a text is read into
* `isValid_iff`             — which texts are versions
-/

namespace PlotJugglerSdk

open Wire Json Lexing

/-- A version as `parse` constructs it: three numbers and the pre-release identifiers. -/
structure SemVer where
  major : Bytes
  minor : Bytes
  patch : Bytes
  prerelease : List Bytes
  deriving DecidableEq

namespace SemVer

/-- The object that `parse` makes of the components and the pre-release identifiers. -/
def construct (parts : List Bytes × List Bytes) : SemVer where
  major := parts.1.getD 0 []
  minor := parts.1.getD 1 []
  patch := parts.1.getD 2 []
  prerelease := parts.2

def ofText (s : Bytes) : Except Bytes SemVer := (parse s).map construct

def isValid (s : Bytes) : Bool := (ofText s).toBool

/-! ## The grammar -/

def hyphen : UInt8 := 0x2D

def plus : UInt8 := 0x2B

/-- A digit, a letter or a hyphen. -/
def IdentifierByte (c : UInt8) : Prop :=
  0x30 ≤ c ∧ c ≤ 0x39 ∨ 0x41 ≤ c ∧ c ≤ 0x5A ∨ 0x61 ≤ c ∧ c ≤ 0x7A ∨ c = hyphen

def Identifier (word : Bytes) : Prop := word ≠ [] ∧ ∀ c ∈ word, IdentifierByte c

def Digits (word : Bytes) : Prop := word ≠ [] ∧ ∀ c ∈ word, 0x30 ≤ c ∧ c ≤ 0x39

/-- A zero stands first only where it stands alone. -/
def NoLeadingZero (word : Bytes) : Prop := word.head? = some 0x30 → word = [0x30]

def Numeral (word : Bytes) : Prop := Digits word ∧ NoLeadingZero word

def PrereleaseIdentifier (word : Bytes) : Prop :=
  Identifier word ∧ (Digits word → NoLeadingZero word)

def dotted (words : List Bytes) : Bytes := [kDot].intercalate words

/-- A separator and a dotted list, or nothing. -/
def suffixed (sep : UInt8) (words : List Bytes) : Bytes :=
  if words = [] then [] else sep :: dotted words

/-- The text of a version and of build identifiers by the grammar of semantic versions. -/
structure Spells (version : SemVer) (metadata : List Bytes) (text : Bytes) : Prop where
  major : Numeral version.major
  minor : Numeral version.minor
  patch : Numeral version.patch
  prerelease : ∀ word ∈ version.prerelease, PrereleaseIdentifier word
  build : ∀ word ∈ metadata, Identifier word
  spelled : text = dotted [version.major, version.minor, version.patch] ++
    suffixed hyphen version.prerelease ++ suffixed plus metadata

/-! ## One identifier -/

theorem isAsciiDigit_iff {c : UInt8} : isAsciiDigit c = true ↔ 0x30 ≤ c ∧ c ≤ 0x39 :=
  decide_eq_true_iff

theorem isAsciiLetter_iff {c : UInt8} :
    isAsciiLetter c = true ↔ 0x41 ≤ c ∧ c ≤ 0x5A ∨ 0x61 ≤ c ∧ c ≤ 0x7A :=
  decide_eq_true_iff

theorem isNumeric_iff {word : Bytes} : isNumeric word = true ↔ Digits word := by
  unfold isNumeric Digits
  rw [Bool.and_eq_true, List.all_eq_true, decide_eq_true_iff, and_comm]
  simp only [isAsciiDigit_iff]

theorem isValidIdentifier_iff {word : Bytes} : isValidIdentifier word = true ↔ Identifier word := by
  unfold isValidIdentifier Identifier IdentifierByte hyphen
  rw [Bool.and_eq_true, List.all_eq_true, decide_eq_true_iff]
  simp only [Bool.or_eq_true, isAsciiDigit_iff, isAsciiLetter_iff, decide_eq_true_iff, or_assoc]

theorem Digits.identifier {word : Bytes} (h : Digits word) : Identifier word :=
  ⟨h.1, fun c hmem => .inl (h.2 c hmem)⟩

theorem Identifier.notMem {word : Bytes} (h : Identifier word) {sep : UInt8}
    (hsep : ¬ IdentifierByte sep) : sep ∉ word :=
  fun hmem => hsep (h.2 sep hmem)

theorem not_identifierByte_dot : ¬ IdentifierByte kDot := by
  unfold IdentifierByte
  decide

theorem not_identifierByte_plus : ¬ IdentifierByte plus := by
  unfold IdentifierByte
  decide

/-- Numbers hold no hyphen, although identifiers may. -/
theorem Digits.hyphen_notMem {word : Bytes} (h : Digits word) : hyphen ∉ word :=
  fun hmem => absurd (h.2 hyphen hmem) (by decide)

/-- What the check of a leading zero looks at. -/
theorem noLeadingZero_iff {word : Bytes} :
    NoLeadingZero word ↔ ¬ (1 < word.length ∧ word.head? = some 0x30) := by
  unfold NoLeadingZero
  cases word with
  | nil => simp
  | cons c rest =>
    rw [List.head?_cons, Option.some.injEq, List.cons.injEq, List.length_cons]
    constructor
    · rintro h ⟨hlong, hzero⟩
      rw [(h hzero).2] at hlong
      exact absurd hlong (by decide)
    · intro h hzero
      refine ⟨hzero, ?_⟩
      by_contra hne
      have hlong : 0 < rest.length := List.length_pos_iff.mpr hne
      exact h ⟨by omega, hzero⟩

/-! ## Lists of identifiers -/

/-- The words that a list takes: those without a leading zero where that is asked for. -/
def Accepted (rejectNumericLeadingZero : Bool) (word : Bytes) : Prop :=
  Identifier word ∧ (rejectNumericLeadingZero = true → Digits word → NoLeadingZero word)

theorem accepted_iff_identifier {word : Bytes} : Accepted false word ↔ Identifier word := by
  unfold Accepted
  simp

theorem accepted_iff_prerelease {word : Bytes} :
    Accepted true word ↔ PrereleaseIdentifier word := by
  unfold Accepted PrereleaseIdentifier
  simp

/-- One round of the loop of `parseIdentifiers`. -/
theorem identifier_ok_iff {kind word word' : Bytes} {reject : Bool} :
    (if !isValidIdentifier word then
        Except.error (kind ++ text " contains an invalid identifier")
      else if reject && word.length > 1 && word.head? = some 0x30 && isNumeric word then
        Except.error (kind ++ text " numeric identifiers must not contain leading zeros")
      else Except.ok word) = .ok word' ↔ word' = word ∧ Accepted reject word := by
  unfold Accepted
  rw [noLeadingZero_iff, ← isValidIdentifier_iff, ← isNumeric_iff]
  -- the two checks of the source, each against its side of the grammar
  by_cases hvalid : isValidIdentifier word = true
  · by_cases hzero : (reject && word.length > 1 && word.head? = some 0x30 && isNumeric word) = true
    · rw [if_neg (by simp [hvalid]), if_pos hzero]
      simp only [Bool.and_eq_true, decide_eq_true_iff] at hzero
      obtain ⟨⟨⟨hreject, hlong⟩, hhead⟩, hnumeric⟩ := hzero
      constructor
      · intro h
        cases h
      · rintro ⟨-, -, hno⟩
        exact absurd ⟨hlong, hhead⟩ (hno hreject hnumeric)
    · rw [if_neg (by simp [hvalid]), if_neg hzero]
      simp only [Bool.and_eq_true, decide_eq_true_iff] at hzero
      constructor
      · intro h
        refine ⟨(Except.ok.inj h).symm, hvalid, ?_⟩
        rintro hreject hnumeric ⟨hlong, hhead⟩
        exact hzero ⟨⟨⟨hreject, hlong⟩, hhead⟩, hnumeric⟩
      · rintro ⟨rfl, -⟩
        rfl
  · rw [if_pos (by simp [hvalid])]
    constructor
    · intro h
      cases h
    · rintro ⟨-, h, -⟩
      exact absurd h hvalid

theorem forall₂_eq_and_iff {holds : Bytes → Prop} {words words' : List Bytes} :
    List.Forall₂ (fun word word' => word' = word ∧ holds word) words words' ↔
      words' = words ∧ ∀ word ∈ words, holds word := by
  constructor
  · intro h
    induction h with
    | nil => exact ⟨rfl, fun word hmem => absurd hmem List.not_mem_nil⟩
    | cons hhead _ ih =>
      obtain ⟨rfl, hholds⟩ := hhead
      obtain ⟨rfl, hrest⟩ := ih
      exact ⟨rfl, List.forall_mem_cons.mpr ⟨hholds, hrest⟩⟩
  · rintro ⟨rfl, h⟩
    exact List.forall₂_same.mpr fun word hmem => ⟨rfl, h word hmem⟩

/-- A list of identifiers is accepted when it makes the text between its dots. -/
theorem parseIdentifiers_ok_iff {s kind : Bytes} {reject : Bool} {words : List Bytes} :
    parseIdentifiers s kind reject = .ok words ↔
      words ≠ [] ∧ dotted words = s ∧ ∀ word ∈ words, Accepted reject word := by
  unfold parseIdentifiers
  by_cases hs : s = []
  · rw [if_pos hs]
    constructor
    · intro h
      cases h
    · rintro ⟨hne, hdotted, haccepted⟩
      rw [hs] at hdotted
      exact absurd hdotted (intercalate_ne_nil hne fun word hmem => (haccepted word hmem).1.1)
  · rw [if_neg hs, Scan.mapM_ok_iff]
    simp only [identifier_ok_iff]
    rw [forall₂_eq_and_iff]
    constructor
    · rintro ⟨rfl, haccepted⟩
      exact ⟨List.splitOn_ne_nil _ _, List.intercalate_splitOn _, haccepted⟩
    · rintro ⟨hne, hdotted, haccepted⟩
      have hsplit : s.splitOn kDot = words := splitOn_eq_iff.mpr
        ⟨hne, fun word hmem => (haccepted word hmem).1.notMem not_identifierByte_dot, hdotted⟩
      rw [hsplit]
      exact ⟨rfl, haccepted⟩

/-- Three words make the core of a version: numbers that have no leading zeros. -/
theorem parseCore_ok_iff {s : Bytes} {components : List Bytes} :
    parseCore s = .ok components ↔
      components.length = 3 ∧ dotted components = s ∧ ∀ word ∈ components, Numeral word := by
  unfold parseCore
  rw [Scan.bind_eq_ok]
  constructor
  · rintro ⟨words, hwords, h⟩
    obtain ⟨-, hdotted, haccepted⟩ := parseIdentifiers_ok_iff.mp hwords
    split at h
    · cases h
    · next hlength =>
      split at h
      · cases h
      · next hnumeric =>
        obtain rfl := Except.ok.inj h
        rw [Bool.not_eq_true', Bool.not_eq_false, List.all_eq_true] at hnumeric
        refine ⟨not_not.mp hlength, hdotted, fun word hmem => ?_⟩
        have hdigits : Digits word := isNumeric_iff.mp (hnumeric word hmem)
        exact ⟨hdigits, (haccepted word hmem).2 rfl hdigits⟩
  · rintro ⟨hlength, hdotted, hnumerals⟩
    refine ⟨components, parseIdentifiers_ok_iff.mpr ⟨?_, hdotted, ?_⟩, ?_⟩
    · rintro rfl
      cases hlength
    · exact fun word hmem => ⟨(hnumerals word hmem).1.identifier,
        fun _ _ => (hnumerals word hmem).2⟩
    · have hnumeric : components.all isNumeric = true :=
        List.all_eq_true.mpr fun word hmem => isNumeric_iff.mpr (hnumerals word hmem).1
      rw [if_neg (not_not.mpr hlength), if_neg (by simp [hnumeric])]

/-! ## A version -/

theorem cut_eq (sep : UInt8) (s : Bytes) : SemVer.cut sep s = Lexing.cut sep s := by
  unfold SemVer.cut
  rw [List.span_eq_takeWhile_dropWhile]
  induction s with
  | nil => rfl
  | cons c rest ih =>
    by_cases hc : c = sep
    · rw [List.takeWhile_cons_of_neg (by simp [hc]), List.dropWhile_cons_of_neg (by simp [hc]),
        Lexing.cut, if_pos hc]
    · rw [List.takeWhile_cons_of_pos (by simp [hc]), List.dropWhile_cons_of_pos (by simp [hc]),
        Lexing.cut, if_neg hc, ← ih]
      cases rest.dropWhile (decide <| · ≠ sep) <;> rfl

/-- The identifiers behind a separator; where it is missing there are none. -/
def identifiersBehind (kind : Bytes) (reject : Bool) : Option Bytes → Except Bytes (List Bytes)
  | none => .ok []
  | some s => parseIdentifiers s kind reject

/-- What stands behind the separator of a suffix. -/
def behind (words : List Bytes) : Option Bytes := if words = [] then none else some (dotted words)

theorem rejoined_behind (sep : UInt8) (first : Bytes) (words : List Bytes) :
    rejoined sep (first, behind words) = first ++ suffixed sep words := by
  unfold behind suffixed
  by_cases h : words = []
  · rw [if_pos h, if_pos h, List.append_nil]
    rfl
  · rw [if_neg h, if_neg h]
    rfl

theorem identifiersBehind_ok_iff {kind : Bytes} {reject : Bool} {tail : Option Bytes}
    {words : List Bytes} :
    identifiersBehind kind reject tail = .ok words ↔
      tail = behind words ∧ ∀ word ∈ words, Accepted reject word := by
  unfold behind
  cases tail with
  | none =>
    constructor
    · intro h
      obtain rfl := Except.ok.inj h
      exact ⟨rfl, fun word hmem => absurd hmem List.not_mem_nil⟩
    · rintro ⟨h, -⟩
      split at h
      · next hnil => rw [hnil, identifiersBehind]
      · cases h
  | some s =>
    rw [identifiersBehind, parseIdentifiers_ok_iff]
    constructor
    · rintro ⟨hne, rfl, haccepted⟩
      exact ⟨(if_neg hne).symm, haccepted⟩
    · rintro ⟨h, haccepted⟩
      split at h
      · cases h
      · next hne => exact ⟨hne, (Option.some.inj h).symm, haccepted⟩

/-- `parse` step by step: the build identifiers, the core, and the pre-release. -/
theorem parse_eq (s : Bytes) :
    parse s =
      if s = [] then .error (text "semantic version must not be empty")
      else
        (identifiersBehind (text "build metadata") false (Lexing.cut plus s).2).bind fun _ =>
        (parseCore (Lexing.cut hyphen (Lexing.cut plus s).1).1).bind fun components =>
        (identifiersBehind (text "pre-release") true
          (Lexing.cut hyphen (Lexing.cut plus s).1).2).bind fun identifiers =>
        .ok (components, identifiers) := by
  unfold parse plus hyphen
  rw [cut_eq]
  dsimp only
  rw [cut_eq]
  cases Lexing.cut 0x2B s with
  | mk versionAndPrerelease build =>
    cases Lexing.cut 0x2D versionAndPrerelease with
    | mk core prerelease => cases build <;> cases prerelease <;> rfl

theorem forall_mem_dotted {words : List Bytes} {holds : UInt8 → Prop} (hdot : holds kDot)
    (h : ∀ word ∈ words, ∀ c ∈ word, holds c) : ∀ c ∈ dotted words, holds c :=
  forall_mem_intercalate hdot h

theorem forall_mem_suffixed {sep : UInt8} {words : List Bytes} {holds : UInt8 → Prop}
    (hsep : holds sep) (hdot : holds kDot) (h : ∀ word ∈ words, ∀ c ∈ word, holds c) :
    ∀ c ∈ suffixed sep words, holds c := by
  unfold suffixed
  split
  · exact fun c hmem => absurd hmem List.not_mem_nil
  · exact List.forall_mem_cons.mpr ⟨hsep, forall_mem_dotted hdot h⟩

/-- The first hyphen of a version stands behind its core. -/
theorem hyphen_notMem_core {components : List Bytes} (h : ∀ word ∈ components, Numeral word) :
    hyphen ∉ dotted components := by
  have hall : ∀ c ∈ dotted components, c ≠ hyphen :=
    forall_mem_dotted (by decide) fun word hword c hc heq =>
      (h word hword).1.hyphen_notMem (heq ▸ hc)
  exact fun hmem => hall hyphen hmem rfl

/-- The first plus of a version stands behind its pre-release. -/
theorem plus_notMem_version {components identifiers : List Bytes}
    (hcore : ∀ word ∈ components, Numeral word)
    (hpre : ∀ word ∈ identifiers, PrereleaseIdentifier word) :
    plus ∉ dotted components ++ suffixed hyphen identifiers := by
  have hword : ∀ word, Identifier word → ∀ c ∈ word, c ≠ plus := fun word h c hc heq =>
    not_identifierByte_plus (heq ▸ h.2 c hc)
  have hcores : ∀ c ∈ dotted components, c ≠ plus :=
    forall_mem_dotted (by decide) fun word hmem => hword word (hcore word hmem).1.identifier
  have hpres : ∀ c ∈ suffixed hyphen identifiers, c ≠ plus :=
    forall_mem_suffixed (by decide) (by decide) fun word hmem => hword word (hpre word hmem).1
  intro hmem
  rcases List.mem_append.mp hmem with hmem | hmem
  · exact hcores plus hmem rfl
  · exact hpres plus hmem rfl

/-- The parts that a text is read into are those that it spells. -/
theorem parse_ok_iff {s : Bytes} {parts : List Bytes × List Bytes} :
    parse s = .ok parts ↔
      parts.1.length = 3 ∧ (∀ word ∈ parts.1, Numeral word) ∧
      (∀ word ∈ parts.2, PrereleaseIdentifier word) ∧
      ∃ metadata, (∀ word ∈ metadata, Identifier word) ∧
        s = dotted parts.1 ++ suffixed hyphen parts.2 ++ suffixed plus metadata := by
  rw [parse_eq]
  obtain ⟨components, identifiers⟩ := parts
  constructor
  · intro h
    split at h
    · cases h
    · obtain ⟨metadata, hmetadata, h⟩ := Scan.bind_eq_ok.mp h
      obtain ⟨components', hcore, h⟩ := Scan.bind_eq_ok.mp h
      obtain ⟨identifiers', hpre, h⟩ := Scan.bind_eq_ok.mp h
      cases Except.ok.inj h
      obtain ⟨hbuild, hmetadata⟩ := identifiersBehind_ok_iff.mp hmetadata
      obtain ⟨hlength, hdotted, hnumerals⟩ := parseCore_ok_iff.mp hcore
      obtain ⟨hbehind, hpre⟩ := identifiersBehind_ok_iff.mp hpre
      refine ⟨hlength, hnumerals, fun word hmem => accepted_iff_prerelease.mp (hpre word hmem),
        metadata, fun word hmem => accepted_iff_identifier.mp (hmetadata word hmem), ?_⟩
      -- the text before the plus, and then the whole of it
      have hversion : dotted components ++ suffixed hyphen identifiers = (Lexing.cut plus s).1 := by
        rw [← rejoined_behind, hdotted, ← hbehind]
        exact rejoined_cut hyphen _
      rw [hversion, ← rejoined_behind, ← hbuild]
      exact (rejoined_cut plus s).symm
  · rintro ⟨hlength, hnumerals, hpre, metadata, hmetadata, hs⟩
    have hplus : Lexing.cut plus s =
        (dotted components ++ suffixed hyphen identifiers, behind metadata) := by
      rw [cut_eq_iff, rejoined_behind]
      exact ⟨plus_notMem_version hnumerals hpre, hs.symm⟩
    have hhyphen : Lexing.cut hyphen (dotted components ++ suffixed hyphen identifiers) =
        (dotted components, behind identifiers) := by
      rw [cut_eq_iff, rejoined_behind]
      exact ⟨hyphen_notMem_core hnumerals, rfl⟩
    have hcore : parseCore (dotted components) = .ok components :=
      parseCore_ok_iff.mpr ⟨hlength, rfl, hnumerals⟩
    have hidentifiers : identifiersBehind (text "pre-release") true (behind identifiers) =
        .ok identifiers := identifiersBehind_ok_iff.mpr
      ⟨rfl, fun word hmem => accepted_iff_prerelease.mpr (hpre word hmem)⟩
    have hbuild : identifiersBehind (text "build metadata") false (behind metadata) =
        .ok metadata := identifiersBehind_ok_iff.mpr
      ⟨rfl, fun word hmem => accepted_iff_identifier.mpr (hmetadata word hmem)⟩
    have hne : s ≠ [] := by
      rw [hs]
      intro hnil
      obtain ⟨hnil, -⟩ := List.append_eq_nil_iff.mp hnil
      obtain ⟨hnil, -⟩ := List.append_eq_nil_iff.mp hnil
      have hcomponents : components ≠ [] := by
        rintro rfl
        cases hlength
      exact intercalate_ne_nil hcomponents (fun word hmem => (hnumerals word hmem).1.1) hnil
    rw [if_neg hne, hplus]
    dsimp only
    rw [hhyphen]
    dsimp only
    rw [hbuild, hcore, hidentifiers]
    rfl

/-- The version that a text is read as, by the grammar. -/
theorem ofText_ok_iff {s : Bytes} {version : SemVer} :
    ofText s = .ok version ↔ ∃ metadata, Spells version metadata s := by
  unfold ofText
  constructor
  · intro h
    cases hparse : parse s with
    | error e =>
      rw [hparse] at h
      cases h
    | ok parts =>
      rw [hparse] at h
      obtain rfl := Except.ok.inj h
      obtain ⟨hlength, hnumerals, hpre, metadata, hmetadata, hs⟩ := parse_ok_iff.mp hparse
      obtain ⟨components, identifiers⟩ := parts
      obtain ⟨major, minor, patch, rfl⟩ := List.length_eq_three.mp hlength
      exact ⟨metadata, hnumerals major (by simp), hnumerals minor (by simp),
        hnumerals patch (by simp), hpre, hmetadata, hs⟩
  · rintro ⟨metadata, hspells⟩
    have hparse : parse s =
        .ok ([version.major, version.minor, version.patch], version.prerelease) := by
      refine parse_ok_iff.mpr ⟨rfl, ?_, hspells.prerelease, metadata, hspells.build,
        hspells.spelled⟩
      simp only [List.mem_cons, List.not_mem_nil, or_false]
      rintro word (rfl | rfl | rfl)
      · exact hspells.major
      · exact hspells.minor
      · exact hspells.patch
    rw [hparse]
    rfl

/-- The texts that are versions are those of the grammar, and each is read as what it spells. -/
theorem isValid_iff (s : Bytes) :
    (isValid s = true ↔ ∃ version metadata, Spells version metadata s) ∧
      ∀ version, ofText s = .ok version ↔ ∃ metadata, Spells version metadata s := by
  refine ⟨?_, fun version => ofText_ok_iff⟩
  unfold isValid
  constructor
  · intro h
    cases hread : ofText s with
    | error e =>
      rw [hread] at h
      cases h
    | ok version => exact ⟨version, ofText_ok_iff.mp hread⟩
  · rintro ⟨version, hspells⟩
    rw [ofText_ok_iff.mpr hspells]
    rfl

end SemVer

end PlotJugglerSdk
