import PlotJugglerSdk.Host.SemVer
import PlotJugglerSdk.Lexing.Numerals
import PlotJugglerSdk.Order.Compared

/-!
# The precedence of versions

`compare` orders numbers of any length by their texts, the length first, which is right as no
number has a leading zero. Every version has a key in a linear order, and `compare` agrees with
the order of the keys.

* `compare_compares`  — `compare` is the order of the keys
* `compare_precedes`  — a total order of the versions, equal on the same version only
-/

namespace PlotJugglerSdk

open Wire Json Lexing Compared

namespace SemVer

def compareNumeric (lhs rhs : Bytes) : Ordering :=
  if lhs.length < rhs.length then .lt
  else if lhs.length > rhs.length then .gt
  else if lhs < rhs then .lt
  else if lhs > rhs then .gt
  else .eq

def compareLexical (lhs rhs : Bytes) : Ordering :=
  if lhs < rhs then .lt
  else if lhs > rhs then .gt
  else .eq

/-- One round of the loop of `compare`. -/
def compareIdentifier (lhs rhs : Bytes) : Ordering :=
  if isNumeric lhs ≠ isNumeric rhs then if isNumeric lhs then .lt else .gt
  else if isNumeric lhs then compareNumeric lhs rhs
  else compareLexical lhs rhs

/-- The loop of `compare`, and the comparison of the sizes after it. -/
def compareIdentifiers : List Bytes → List Bytes → Ordering
  | [], [] => .eq
  | [], _ :: _ => .lt
  | _ :: _, [] => .gt
  | lhs :: rest, rhs :: rest' => (compareIdentifier lhs rhs).then (compareIdentifiers rest rest')

def comparePrerelease (lhs rhs : List Bytes) : Ordering :=
  if lhs = [] ∧ rhs = [] then .eq
  else if lhs = [] then .gt
  else if rhs = [] then .lt
  else compareIdentifiers lhs rhs

def compare (version other : SemVer) : Ordering :=
  (compareNumeric version.major other.major).then
    ((compareNumeric version.minor other.minor).then
      ((compareNumeric version.patch other.patch).then
        (comparePrerelease version.prerelease other.prerelease)))

/-! ## Keys -/

/-- Numbers first, by their value, and then the others, by their bytes. -/
abbrev IdentifierKey := ℕ ⊕ₗ List ℕ

/-- The core, and the identifiers of a pre-release below every release. -/
abbrev Precedence := ℕ ×ₗ ℕ ×ₗ ℕ ×ₗ WithTop (List IdentifierKey)

def digit (c : UInt8) : ℕ := c.toNat - 0x30

def number (word : Bytes) : ℕ := positional 10 (word.map digit)

def identifierKey (word : Bytes) : IdentifierKey :=
  if isNumeric word then toLex (.inl (number word)) else toLex (.inr (word.map UInt8.toNat))

def prereleaseKey (identifiers : List Bytes) : WithTop (List IdentifierKey) :=
  if identifiers = [] then ⊤ else ↑(identifiers.map identifierKey)

def precedence (version : SemVer) : Precedence :=
  toLex (number version.major, toLex (number version.minor, toLex (number version.patch,
    prereleaseKey version.prerelease)))

/-! ## Numbers and words -/

theorem eq_of_not_lt {lhs rhs : Bytes} (h : ¬ lhs < rhs) (h' : ¬ lhs > rhs) : lhs = rhs :=
  List.le_antisymm h' h

/-- The digit of a byte, bounded and in the order of the bytes. -/
theorem digit_lt {word : Bytes} (h : Digits word) : ∀ d ∈ word.map digit, d < 10 := by
  intro d hmem
  obtain ⟨c, hc, rfl⟩ := List.mem_map.mp hmem
  have hle : c.toNat ≤ 0x39 := UInt8.le_iff_toNat_le.mp (h.2 c hc).2
  unfold digit
  omega

theorem digit_lt_digit {lhs rhs : Bytes} (h : Digits lhs) :
    ∀ c ∈ lhs, ∀ c' ∈ rhs, c < c' → digit c < digit c' := by
  intro c hc c' _ hlt
  have hlow : 0x30 ≤ c.toNat := UInt8.le_iff_toNat_le.mp (h.2 c hc).1
  have hlt' : c.toNat < c'.toNat := UInt8.lt_iff_toNat_lt.mp hlt
  unfold digit
  omega

theorem head?_digit_ne_zero {word : Bytes} (h : Numeral word) (hlong : 1 < word.length) :
    (word.map digit).head? ≠ some 0 := by
  obtain ⟨⟨_, hdigits⟩, hzero⟩ := h
  cases word with
  | nil => exact absurd hlong (by decide)
  | cons c rest =>
    intro hhead
    have hc : digit c = 0 := Option.some.inj hhead
    have hlow : 0x30 ≤ c.toNat := UInt8.le_iff_toNat_le.mp (hdigits c List.mem_cons_self).1
    unfold digit at hc
    have heq : c = 0x30 := UInt8.toNat_inj.mp (by show c.toNat = 0x30; omega)
    rw [hzero (congrArg some heq)] at hlong
    exact absurd hlong (by decide)

theorem number_lt_of_shorter {lhs rhs : Bytes} (h : Numeral lhs) (h' : Numeral rhs)
    (hlength : lhs.length < rhs.length) : number lhs < number rhs := by
  have hpos : 0 < lhs.length := List.length_pos_iff.mpr h.1.1
  refine positional_lt_of_shorter (by decide) (digit_lt h.1) ?_ (head?_digit_ne_zero h' (by omega))
  rw [List.length_map, List.length_map]
  exact hlength

theorem number_lt_of_lt {lhs rhs : Bytes} (h : Numeral lhs) (hlength : lhs.length = rhs.length)
    (hlt : lhs < rhs) : number lhs < number rhs := by
  refine positional_lt_of_lt (by decide) (digit_lt h.1) ?_ (map_lt_map (digit_lt_digit h.1) hlt)
  rw [List.length_map, List.length_map, hlength]

/-- Length and text order numerals as their values. -/
theorem compareNumeric_compares {lhs rhs : Bytes} (h : Numeral lhs) (h' : Numeral rhs) :
    (compareNumeric lhs rhs).Compares (number lhs) (number rhs) := by
  unfold compareNumeric
  by_cases hshort : lhs.length < rhs.length
  · rw [if_pos hshort]
    exact number_lt_of_shorter h h' hshort
  · rw [if_neg hshort]
    by_cases hlong : lhs.length > rhs.length
    · rw [if_pos hlong]
      exact number_lt_of_shorter h' h hlong
    · rw [if_neg hlong]
      have hlength : lhs.length = rhs.length := by omega
      by_cases hlt : lhs < rhs
      · rw [if_pos hlt]
        exact number_lt_of_lt h hlength hlt
      · rw [if_neg hlt]
        by_cases hgt : lhs > rhs
        · rw [if_pos hgt]
          exact number_lt_of_lt h' hlength.symm hgt
        · rw [if_neg hgt]
          exact congrArg number (eq_of_not_lt hlt hgt)

theorem compareLexical_compares (lhs rhs : Bytes) :
    (compareLexical lhs rhs).Compares (lhs.map UInt8.toNat) (rhs.map UInt8.toNat) := by
  unfold compareLexical
  have hmap : ∀ {lhs rhs : Bytes}, lhs < rhs → lhs.map UInt8.toNat < rhs.map UInt8.toNat :=
    fun hlt => map_lt_map (fun _ _ _ _ hc => UInt8.lt_iff_toNat_lt.mp hc) hlt
  by_cases hlt : lhs < rhs
  · rw [if_pos hlt]
    exact hmap hlt
  · rw [if_neg hlt]
    by_cases hgt : lhs > rhs
    · rw [if_pos hgt]
      exact hmap hgt
    · rw [if_neg hgt]
      exact congrArg (List.map UInt8.toNat) (eq_of_not_lt hlt hgt)

/-! ## Identifiers and versions -/

theorem compareIdentifier_compares {lhs rhs : Bytes} (h : PrereleaseIdentifier lhs)
    (h' : PrereleaseIdentifier rhs) :
    (compareIdentifier lhs rhs).Compares (identifierKey lhs) (identifierKey rhs) := by
  unfold compareIdentifier identifierKey
  by_cases hlhs : isNumeric lhs = true
  · by_cases hrhs : isNumeric rhs = true
    · rw [if_neg (by rw [hlhs, hrhs]; exact fun hne => hne rfl), if_pos hlhs, if_pos hlhs,
        if_pos hrhs]
      have hdigits : Digits lhs := isNumeric_iff.mp hlhs
      have hdigits' : Digits rhs := isNumeric_iff.mp hrhs
      exact compares_inl (compareNumeric_compares ⟨hdigits, h.2 hdigits⟩ ⟨hdigits', h'.2 hdigits'⟩)
    · rw [if_pos (by rw [hlhs]; exact fun heq => hrhs heq.symm), if_pos hlhs, if_pos hlhs,
        if_neg hrhs]
      exact Sum.Lex.inl_lt_inr _ _
  · by_cases hrhs : isNumeric rhs = true
    · rw [if_pos (by rw [hrhs]; exact hlhs), if_neg hlhs, if_neg hlhs, if_pos hrhs]
      exact Sum.Lex.inl_lt_inr _ _
    · rw [Bool.not_eq_true] at hlhs hrhs
      rw [hlhs, hrhs, if_neg (fun hne => hne rfl), if_neg Bool.false_ne_true,
        if_neg Bool.false_ne_true,
        if_neg Bool.false_ne_true]
      exact compares_inr (compareLexical_compares lhs rhs)

theorem compareIdentifiers_compares {lhs rhs : List Bytes}
    (h : ∀ word ∈ lhs, PrereleaseIdentifier word) (h' : ∀ word ∈ rhs, PrereleaseIdentifier word) :
    (compareIdentifiers lhs rhs).Compares (lhs.map identifierKey) (rhs.map identifierKey) := by
  induction lhs generalizing rhs with
  | nil =>
    cases rhs with
    | nil => exact compares_of_eq rfl
    | cons word' rest' => exact compares_of_lt (List.nil_lt_cons _ _)
  | cons word rest ih =>
    cases rhs with
    | nil => exact compares_of_gt (List.nil_lt_cons _ _)
    | cons word' rest' =>
      exact then_cons
        (compareIdentifier_compares (h word List.mem_cons_self) (h' word' List.mem_cons_self))
        (ih (fun w hmem => h w (List.mem_cons_of_mem _ hmem))
          fun w hmem => h' w (List.mem_cons_of_mem _ hmem))

/-- A release stands above all its pre-releases. -/
theorem comparePrerelease_compares {lhs rhs : List Bytes}
    (h : ∀ word ∈ lhs, PrereleaseIdentifier word) (h' : ∀ word ∈ rhs, PrereleaseIdentifier word) :
    (comparePrerelease lhs rhs).Compares (prereleaseKey lhs) (prereleaseKey rhs) := by
  unfold comparePrerelease prereleaseKey
  by_cases hlhs : lhs = []
  · by_cases hrhs : rhs = []
    · rw [if_pos ⟨hlhs, hrhs⟩, if_pos hlhs, if_pos hrhs]
      exact compares_of_eq rfl
    · rw [if_neg fun hboth => hrhs hboth.2, if_pos hlhs, if_pos hlhs, if_neg hrhs]
      exact compares_of_gt (WithTop.coe_lt_top _)
  · by_cases hrhs : rhs = []
    · rw [if_neg fun hboth => hlhs hboth.1, if_neg hlhs, if_pos hrhs, if_neg hlhs, if_pos hrhs]
      exact compares_of_lt (WithTop.coe_lt_top _)
    · rw [if_neg fun hboth => hlhs hboth.1, if_neg hlhs, if_neg hrhs, if_neg hlhs, if_neg hrhs]
      exact compares_coe (compareIdentifiers_compares h h')

/-- A version of the grammar agrees with every other in what `compare` says of their keys. -/
theorem compare_compares {version other : SemVer} {metadata metadata' : List Bytes}
    {s t : Bytes} (h : Spells version metadata s) (h' : Spells other metadata' t) :
    (compare version other).Compares (precedence version) (precedence other) :=
  then_pair (compareNumeric_compares h.major h'.major)
    (then_pair (compareNumeric_compares h.minor h'.minor)
      (then_pair (compareNumeric_compares h.patch h'.patch)
        (comparePrerelease_compares h.prerelease h'.prerelease)))

/-! ## Equal versions -/

theorem compareLexical_eq_iff {lhs rhs : Bytes} : compareLexical lhs rhs = .eq ↔ lhs = rhs := by
  constructor
  · intro h
    have hmap : lhs.map UInt8.toNat = rhs.map UInt8.toNat :=
      (compareLexical_compares lhs rhs).eq_eq.mp h
    exact List.map_injective_iff.mpr (fun _ _ => UInt8.toNat_inj.mp) hmap
  · rintro rfl
    exact (compareLexical_compares lhs lhs).eq_eq.mpr rfl

/-- Texts of one length are compared as texts. -/
theorem compareNumeric_eq_iff {lhs rhs : Bytes} : compareNumeric lhs rhs = .eq ↔ lhs = rhs := by
  constructor
  · intro h
    unfold compareNumeric at h
    split at h
    · cases h
    · split at h
      · cases h
      · exact compareLexical_eq_iff.mp h
  · rintro rfl
    unfold compareNumeric
    rw [if_neg (Nat.lt_irrefl _), if_neg (Nat.lt_irrefl _)]
    exact compareLexical_eq_iff.mpr rfl

theorem compareIdentifier_eq_iff {lhs rhs : Bytes} :
    compareIdentifier lhs rhs = .eq ↔ lhs = rhs := by
  unfold compareIdentifier
  constructor
  · intro h
    split at h
    · split at h <;> cases h
    · split at h
      · exact compareNumeric_eq_iff.mp h
      · exact compareLexical_eq_iff.mp h
  · rintro rfl
    rw [if_neg fun hne => hne rfl]
    split
    · exact compareNumeric_eq_iff.mpr rfl
    · exact compareLexical_eq_iff.mpr rfl

theorem compareIdentifiers_eq_iff {lhs rhs : List Bytes} :
    compareIdentifiers lhs rhs = .eq ↔ lhs = rhs := by
  induction lhs generalizing rhs with
  | nil =>
    cases rhs with
    | nil => exact ⟨fun _ => rfl, fun _ => rfl⟩
    | cons word' rest' => exact ⟨fun h => (by cases h), fun h => (by cases h)⟩
  | cons word rest ih =>
    cases rhs with
    | nil => exact ⟨fun h => (by cases h), fun h => (by cases h)⟩
    | cons word' rest' =>
      rw [compareIdentifiers, Ordering.then_eq_eq, compareIdentifier_eq_iff, ih, List.cons.injEq]

theorem comparePrerelease_eq_iff {lhs rhs : List Bytes} :
    comparePrerelease lhs rhs = .eq ↔ lhs = rhs := by
  unfold comparePrerelease
  by_cases hlhs : lhs = []
  · by_cases hrhs : rhs = []
    · rw [if_pos ⟨hlhs, hrhs⟩, hlhs, hrhs]
      exact ⟨fun _ => rfl, fun _ => rfl⟩
    · rw [if_neg fun hboth => hrhs hboth.2, if_pos hlhs]
      exact ⟨fun h => (by cases h), fun h => absurd (h.symm.trans hlhs) hrhs⟩
  · by_cases hrhs : rhs = []
    · rw [if_neg fun hboth => hlhs hboth.1, if_neg hlhs, if_pos hrhs]
      exact ⟨fun h => (by cases h), fun h => absurd (h.trans hrhs) hlhs⟩
    · rw [if_neg fun hboth => hlhs hboth.1, if_neg hlhs, if_neg hrhs]
      exact compareIdentifiers_eq_iff

theorem compare_eq_iff {version other : SemVer} :
    compare version other = .eq ↔
      version.major = other.major ∧ version.minor = other.minor ∧ version.patch = other.patch ∧
        version.prerelease = other.prerelease := by
  unfold compare
  rw [Ordering.then_eq_eq, Ordering.then_eq_eq, Ordering.then_eq_eq, compareNumeric_eq_iff,
    compareNumeric_eq_iff, compareNumeric_eq_iff, comparePrerelease_eq_iff]

/-- What stands before the first plus spells the version too, without build identifiers. -/
theorem Spells.released {version : SemVer} {metadata : List Bytes} {s : Bytes}
    (h : Spells version metadata s) : Spells version [] (Lexing.cut plus s).1 := by
  have hnumerals : ∀ word ∈ [version.major, version.minor, version.patch], Numeral word := by
    simp only [List.mem_cons, List.not_mem_nil, or_false]
    rintro word (rfl | rfl | rfl)
    · exact h.major
    · exact h.minor
    · exact h.patch
  have hcut : Lexing.cut plus s =
      (dotted [version.major, version.minor, version.patch] ++ suffixed hyphen version.prerelease,
        behind metadata) := by
    rw [cut_eq_iff, rejoined_behind]
    exact ⟨plus_notMem_version hnumerals h.prerelease, h.spelled.symm⟩
  refine ⟨h.major, h.minor, h.patch, h.prerelease,
    fun word hmem => absurd hmem List.not_mem_nil, ?_⟩
  rw [hcut]
  exact (List.append_nil _).symm

/-- Versions are equal in precedence when their texts differ in the build identifiers only. -/
theorem compare_eq_iff_cut {version other : SemVer} {s t : Bytes} (h : ofText s = .ok version)
    (h' : ofText t = .ok other) :
    compare version other = .eq ↔ (Lexing.cut plus s).1 = (Lexing.cut plus t).1 := by
  obtain ⟨metadata, hspells⟩ := ofText_ok_iff.mp h
  obtain ⟨metadata', hspells'⟩ := ofText_ok_iff.mp h'
  have hleft := hspells.released.spelled
  have hright := hspells'.released.spelled
  rw [compare_eq_iff]
  constructor
  · rintro ⟨hmajor, hminor, hpatch, hpre⟩
    rw [hleft, hright, hmajor, hminor, hpatch, hpre]
  · intro hcut
    -- one text is read as one version
    have hread : ofText (Lexing.cut plus s).1 = .ok version :=
      ofText_ok_iff.mpr ⟨[], hspells.released⟩
    have hread' : ofText (Lexing.cut plus t).1 = .ok other :=
      ofText_ok_iff.mpr ⟨[], hspells'.released⟩
    rw [hcut, hread'] at hread
    obtain rfl := Except.ok.inj hread
    exact ⟨rfl, rfl, rfl, rfl⟩

/-- A total order of the versions that were read, by precedence. -/
theorem compare_precedes {s t u : Bytes} {version other third : SemVer}
    (hs : ofText s = .ok version) (ht : ofText t = .ok other) (hu : ofText u = .ok third) :
    (compare version other).Compares (precedence version) (precedence other) ∧
    compare other version = (compare version other).swap ∧
    (compare version other ≠ .gt → compare other third ≠ .gt → compare version third ≠ .gt) ∧
    (compare version other = .lt → compare other third ≠ .gt → compare version third = .lt) ∧
    (compare version other ≠ .gt → compare other third = .lt → compare version third = .lt) ∧
    (compare version other = .eq ↔
      version.major = other.major ∧ version.minor = other.minor ∧ version.patch = other.patch ∧
        version.prerelease = other.prerelease) ∧
    (compare version other = .eq ↔ (Lexing.cut plus s).1 = (Lexing.cut plus t).1) := by
  obtain ⟨metadata, hversion⟩ := ofText_ok_iff.mp hs
  obtain ⟨metadata', hother⟩ := ofText_ok_iff.mp ht
  obtain ⟨metadata'', hthird⟩ := ofText_ok_iff.mp hu
  have hfirst := compare_compares hversion hother
  have hback := compare_compares hother hversion
  have hsecond := compare_compares hother hthird
  have hboth := compare_compares hversion hthird
  exact ⟨hfirst, compares_keys_swap hfirst hback, compares_keys_trans hfirst hsecond hboth,
    compares_keys_trans_lt hfirst hsecond hboth, compares_keys_lt_trans hfirst hsecond hboth,
    compare_eq_iff, compare_eq_iff_cut hs ht⟩

theorem compare_precedes_releases :
    compare ⟨text "1", text "2", text "9", [text "rc", text "2"]⟩
      ⟨text "1", text "2", text "10", []⟩ = .lt :=
  (@compare_precedes (text "1.2.9-rc.2") (text "1.2.10-rc.10+b.01") (text "1.2.10+b") _
    ⟨text "1", text "2", text "10", [text "rc", text "10"]⟩ _ rfl rfl rfl).2.2.2.1 rfl
    (by rw [show compare _ _ = Ordering.lt from rfl]; decide)

end SemVer

end PlotJugglerSdk
