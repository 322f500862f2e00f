import PlotJugglerSdk.Lexing.Split
import PlotJugglerSdk.Source.Presentation

/-!
# Settings groups of sources

What is shown for a source is stored under a settings group that is named after the identity of
the source, in an alphabet without the separator of groups.

* `base64UrlDecode_unpadded`        — the name of a group tells the identity
* `settingsGroups_apart`            — no two identities share a key, and none is inside another's
                                      group
* `recordSourcePresentation_frame`  — a record for one source leaves the others' settings
-/

namespace PlotJugglerSdk

open Wire Json Lexing

def kSettingsPrefix : Bytes := text "source_presentation/v1/"

def kBase64UrlAlphabet : Bytes :=
  text "ABCDEFGHIJKLMNOPQRSTUVWXYZabcdefghijklmnopqrstuvwxyz0123456789-_"

/-- A character of six bits of the value. -/
def sextet (value shift : UInt32) : UInt8 :=
  kBase64UrlAlphabet.getD ((value >>> shift) &&& 0x3f).toNat 0

/-- The loop over the groups of three bytes, and the two tails behind it. -/
def base64UrlUnpadded : Bytes → Bytes
  | first :: second :: third :: bytes =>
    let value := (first.toUInt32 <<< 16) ||| (second.toUInt32 <<< 8) ||| third.toUInt32
    sextet value 18 :: sextet value 12 :: sextet value 6 :: sextet value 0 ::
      base64UrlUnpadded bytes
  | [first] =>
    let value := first.toUInt32 <<< 16
    [sextet value 18, sextet value 12]
  | [first, second] =>
    let value := (first.toUInt32 <<< 16) ||| (second.toUInt32 <<< 8)
    [sextet value 18, sextet value 12, sextet value 6]
  | [] => []

def sourcePresentationSettingsGroup (identity : Bytes) : Bytes :=
  kSettingsPrefix ++ base64UrlUnpadded identity

structure SourcePresentation where
  displayName : Bytes
  fallbackName : Bytes
  origin : Bytes

/-- The host's settings: a value by its key, and the settings after a value was set. -/
structure SettingsView (σ : Type) where
  value : σ → Bytes → Option Bytes
  setValue : σ → Bytes → Bytes → σ

section Record

variable {σ : Type} (settings : SettingsView σ)

def setIfChanged (store : σ) (key value : Bytes) : σ :=
  if settings.value store key ≠ some value then settings.setValue store key value else store

def recordSourcePresentation (store : σ) (identity : Bytes)
    (presentation : SourcePresentation) : σ :=
  if identity = [] then store
  else
    let group := sourcePresentationSettingsGroup identity
    let displayName := capPresentation
      (if presentation.displayName = [] then presentation.fallbackName else
        presentation.displayName)
    let store := setIfChanged settings store (group ++ text "/display_name") displayName
    if presentation.origin = [] then store
    else setIfChanged settings store (group ++ text "/origin") (capPresentation presentation.origin)

end Record

/-! ## Reading the name of a group -/

def base64UrlIndex (c : UInt8) : Nat := kBase64UrlAlphabet.idxOf c

/-- The bytes that a text was made of. -/
def base64UrlDecode : Bytes → Bytes
  | p :: q :: r :: s :: bytes =>
    let value := base64UrlIndex p * 262144 + base64UrlIndex q * 4096 + base64UrlIndex r * 64 +
      base64UrlIndex s
    UInt8.ofNat (value / 65536) :: UInt8.ofNat (value / 256) :: UInt8.ofNat value ::
      base64UrlDecode bytes
  | [p, q] => [UInt8.ofNat ((base64UrlIndex p * 262144 + base64UrlIndex q * 4096) / 65536)]
  | [p, q, r] =>
    let value := base64UrlIndex p * 262144 + base64UrlIndex q * 4096 + base64UrlIndex r * 64
    [UInt8.ofNat (value / 65536), UInt8.ofNat (value / 256)]
  | _ => []

theorem kBase64UrlAlphabet_index : ∀ n < 64, base64UrlIndex (kBase64UrlAlphabet.getD n 0) = n := by
  decide +kernel

/-- The letters, digits, the hyphen and the underscore. -/
def IsBase64Url (c : UInt8) : Prop :=
  0x41 ≤ c ∧ c ≤ 0x5a ∨ 0x61 ≤ c ∧ c ≤ 0x7a ∨ 0x30 ≤ c ∧ c ≤ 0x39 ∨ c = 0x2d ∨ c = 0x5f

theorem kBase64UrlAlphabet_isBase64Url :
    ∀ n < 64, IsBase64Url (kBase64UrlAlphabet.getD n 0) := by
  unfold IsBase64Url
  decide +kernel

theorem sextet_index {value shift : UInt32} (hshift : shift.toNat < 32) :
    ((value >>> shift) &&& 0x3f).toNat = value.toNat / 2 ^ shift.toNat % 64 := by
  rw [UInt32.toNat_and, UInt32.toNat_shiftRight, Nat.mod_eq_of_lt hshift, Nat.shiftRight_eq_div_pow]
  exact Nat.and_two_pow_sub_one_eq_mod _ 6

theorem base64UrlIndex_sextet {value shift : UInt32} (hshift : shift.toNat < 32) :
    base64UrlIndex (sextet value shift) = value.toNat / 2 ^ shift.toNat % 64 := by
  unfold sextet
  rw [sextet_index hshift, kBase64UrlAlphabet_index _ (Nat.mod_lt _ (by decide))]

theorem isBase64Url_sextet {value shift : UInt32} (hshift : shift.toNat < 32) :
    IsBase64Url (sextet value shift) := by
  unfold sextet
  rw [sextet_index hshift]
  exact kBase64UrlAlphabet_isBase64Url _ (Nat.mod_lt _ (by decide))

/-- Three bytes side by side. -/
theorem toNat_group (first second third : UInt8) :
    ((first.toUInt32 <<< 16) ||| (second.toUInt32 <<< 8) ||| third.toUInt32).toNat =
      first.toNat * 65536 + second.toNat * 256 + third.toNat := by
  have hfirst := first.toNat_lt
  have hsecond := second.toNat_lt
  have hthird := third.toNat_lt
  have hunit : ∀ byte : UInt8, byte.toUInt32 = UInt32.ofNat byte.toNat := fun byte =>
    (UInt32.ofNat_uInt8ToNat byte).symm
  have hlow : (UInt32.ofNat second.toNat <<< 8 ||| UInt32.ofNat third.toNat) =
      UInt32.ofNat (second.toNat * 256 + third.toNat) := shift_or 8 hthird (by decide) (by omega)
  have hall : (UInt32.ofNat first.toNat <<< 16 ||| UInt32.ofNat
      (second.toNat * 256 + third.toNat)) =
      UInt32.ofNat (first.toNat * 65536 + (second.toNat * 256 + third.toNat)) :=
    shift_or 16 (show second.toNat * 256 + third.toNat < 2 ^ 16 by omega) (by decide) (by omega)
  rw [hunit, hunit, hunit, UInt32.or_assoc, hlow, hall,
    UInt32.toNat_ofNat_of_lt' (show _ < 2 ^ 32 by omega), Nat.add_assoc]

theorem toNat_pair (first second : UInt8) :
    ((first.toUInt32 <<< 16) ||| (second.toUInt32 <<< 8)).toNat =
      first.toNat * 65536 + second.toNat * 256 := by
  have h := toNat_group first second 0
  have hunit : (0 : UInt8).toUInt32 = 0 := rfl
  have hzero : (0 : UInt8).toNat = 0 := rfl
  rw [hunit, UInt32.or_zero, hzero, Nat.add_zero] at h
  exact h

theorem toNat_single (first : UInt8) : (first.toUInt32 <<< 16).toNat = first.toNat * 65536 := by
  have h := toNat_pair first 0
  have hunit : (0 : UInt8).toUInt32 <<< 8 = 0 := rfl
  have hzero : (0 : UInt8).toNat * 256 = 0 := rfl
  rw [hunit, UInt32.or_zero, hzero, Nat.add_zero] at h
  exact h

theorem ofNat_eq_byte {n : Nat} (byte : UInt8) (h : n % 256 = byte.toNat) :
    UInt8.ofNat n = byte := by
  apply UInt8.toNat_inj.mp
  rw [UInt8.toNat_ofNat']
  exact h

theorem base64UrlDecode_unpadded (bytes : Bytes) :
    base64UrlDecode (base64UrlUnpadded bytes) = bytes := by
  have hindex : ∀ value : UInt32, base64UrlIndex (sextet value 18) = value.toNat / 262144 % 64 ∧
      base64UrlIndex (sextet value 12) = value.toNat / 4096 % 64 ∧
      base64UrlIndex (sextet value 6) = value.toNat / 64 % 64 ∧
      base64UrlIndex (sextet value 0) = value.toNat % 64 := by
    intro value
    refine ⟨base64UrlIndex_sextet (by decide), base64UrlIndex_sextet (by decide),
      base64UrlIndex_sextet (by decide), ?_⟩
    rw [base64UrlIndex_sextet (by decide)]
    exact congrArg (· % 64) (Nat.div_one _)
  induction bytes using base64UrlUnpadded.induct with
  | case1 first second third bytes ih =>
    -- the four characters hold the three bytes
    have hvalue := toNat_group first second third
    have hsextets := hindex ((first.toUInt32 <<< 16) ||| (second.toUInt32 <<< 8) ||| third.toUInt32)
    rw [base64UrlUnpadded]
    generalize (first.toUInt32 <<< 16) ||| (second.toUInt32 <<< 8) ||| third.toUInt32 = value at *
    obtain ⟨h18, h12, h6, h0⟩ := hsextets
    have hfirst := first.toNat_lt
    have hsecond := second.toNat_lt
    have hthird := third.toNat_lt
    rw [base64UrlDecode, h18, h12, h6, h0, ih]
    rw [ofNat_eq_byte first (by omega), ofNat_eq_byte second (by omega),
      ofNat_eq_byte third (by omega)]
  | case2 first =>
    have hvalue := toNat_single first
    have hsextets := hindex (first.toUInt32 <<< 16)
    rw [base64UrlUnpadded]
    generalize first.toUInt32 <<< 16 = value at *
    obtain ⟨h18, h12, -, -⟩ := hsextets
    have hfirst := first.toNat_lt
    rw [base64UrlDecode, h18, h12, ofNat_eq_byte first (by omega)]
  | case3 first second =>
    have hvalue := toNat_pair first second
    have hsextets := hindex ((first.toUInt32 <<< 16) ||| (second.toUInt32 <<< 8))
    rw [base64UrlUnpadded]
    generalize (first.toUInt32 <<< 16) ||| (second.toUInt32 <<< 8) = value at *
    obtain ⟨h18, h12, h6, -⟩ := hsextets
    have hfirst := first.toNat_lt
    have hsecond := second.toNat_lt
    rw [base64UrlDecode, h18, h12, h6]
    rw [ofNat_eq_byte first (by omega), ofNat_eq_byte second (by omega)]
  | case4 => rfl

theorem isBase64Url_unpadded {bytes : Bytes} {c : UInt8} (h : c ∈ base64UrlUnpadded bytes) :
    IsBase64Url c := by
  induction bytes using base64UrlUnpadded.induct with
  | case1 first second third bytes ih =>
    rw [base64UrlUnpadded] at h
    simp only [List.mem_cons] at h
    rcases h with rfl | rfl | rfl | rfl | hrest
    · exact isBase64Url_sextet (by decide)
    · exact isBase64Url_sextet (by decide)
    · exact isBase64Url_sextet (by decide)
    · exact isBase64Url_sextet (by decide)
    · exact ih hrest
  | case2 first =>
    simp only [base64UrlUnpadded, List.mem_cons, List.not_mem_nil, or_false] at h
    rcases h with rfl | rfl
    · exact isBase64Url_sextet (by decide)
    · exact isBase64Url_sextet (by decide)
  | case3 first second =>
    simp only [base64UrlUnpadded, List.mem_cons, List.not_mem_nil, or_false] at h
    rcases h with rfl | rfl | rfl
    · exact isBase64Url_sextet (by decide)
    · exact isBase64Url_sextet (by decide)
    · exact isBase64Url_sextet (by decide)
  | case4 => cases h

/-! ## Keys -/

def separator : UInt8 := 0x2f

theorem separator_notMem_unpadded (bytes : Bytes) : separator ∉ base64UrlUnpadded bytes := by
  intro h
  have hno : ¬ IsBase64Url separator := by
    unfold IsBase64Url
    decide
  exact hno (isBase64Url_unpadded h)

/-- What stands behind the separator of a group tells nothing about the group. -/
theorem group_append_inj {identity identity' rest rest' : Bytes}
    (h : sourcePresentationSettingsGroup identity ++ separator :: rest =
      sourcePresentationSettingsGroup identity' ++ separator :: rest') :
    identity = identity' ∧ rest = rest' := by
  unfold sourcePresentationSettingsGroup at h
  rw [List.append_assoc, List.append_assoc] at h
  have hcut := congrArg (cut separator) (List.append_cancel_left h)
  rw [cut_append (separator_notMem_unpadded identity),
    cut_append (separator_notMem_unpadded identity')] at hcut
  obtain ⟨hname, hrest⟩ := Prod.mk.inj hcut
  refine ⟨?_, Option.some.inj hrest⟩
  rw [← base64UrlDecode_unpadded identity, hname, base64UrlDecode_unpadded]

/-- What the settings of a source are called behind the group. -/
def settingNames : List Bytes := [text "/display_name", text "/origin"]

theorem settingNames_separated {name : Bytes} (h : name ∈ settingNames) :
    ∃ rest, name = separator :: rest := by
  rcases List.mem_cons.mp h with rfl | h
  · exact ⟨text "display_name", by decide +kernel⟩
  · obtain rfl := List.mem_singleton.mp h
    exact ⟨text "origin", by decide +kernel⟩

/-- The names of groups tell the identities, in an alphabet without the separator; no two
identities share a key, and no key is inside the group of another identity. -/
theorem settingsGroups_apart :
    (∀ identity, base64UrlDecode (base64UrlUnpadded identity) = identity) ∧
    (∀ identity, ∀ c ∈ base64UrlUnpadded identity, IsBase64Url c) ∧
    (∀ identity identity', identity ≠ identity' →
      base64UrlUnpadded identity ≠ base64UrlUnpadded identity') ∧
    (∀ identity identity', ∀ name ∈ settingNames, ∀ name' ∈ settingNames,
      (identity, name) ≠ (identity', name') →
      sourcePresentationSettingsGroup identity ++ name ≠
        sourcePresentationSettingsGroup identity' ++ name') ∧
    ∀ identity identity', ∀ name ∈ settingNames, identity ≠ identity' →
      ¬ sourcePresentationSettingsGroup identity ++ text "/" <+:
        sourcePresentationSettingsGroup identity' ++ name := by
  refine ⟨base64UrlDecode_unpadded, fun identity c => isBase64Url_unpadded, ?_, ?_, ?_⟩
  · intro identity identity' hne heq
    apply hne
    rw [← base64UrlDecode_unpadded identity, heq, base64UrlDecode_unpadded]
  · -- the text of a group ends at the first separator behind the prefix
    intro identity identity' name hname name' hname' hne heq
    obtain ⟨rest, rfl⟩ := settingNames_separated hname
    obtain ⟨rest', rfl⟩ := settingNames_separated hname'
    obtain ⟨hidentity, hrest⟩ := group_append_inj heq
    exact hne (by rw [hidentity, hrest])
  · rintro identity identity' name hname hne ⟨inner, hinner⟩
    obtain ⟨rest, rfl⟩ := settingNames_separated hname
    rw [List.append_assoc] at hinner
    -- the group with its separator would begin both keys
    have hgroups : sourcePresentationSettingsGroup identity ++ separator :: inner =
        sourcePresentationSettingsGroup identity' ++ separator :: rest := hinner
    exact hne (group_append_inj hgroups).1

/-! ## Records -/

section Frame

variable {σ : Type} {settings : SettingsView σ}

/-- A value that is set is read back, and no other key's value changes. -/
structure SettingsView.Lawful (settings : SettingsView σ) : Prop where
  value_setValue : ∀ store key value, settings.value (settings.setValue store key value) key =
    some value
  value_other : ∀ store key value other, other ≠ key →
    settings.value (settings.setValue store key value) other = settings.value store other

theorem value_setIfChanged_other (h : settings.Lawful) {store : σ} {key other value : Bytes}
    (hne : other ≠ key) :
    settings.value (setIfChanged settings store key value) other = settings.value store other := by
  unfold setIfChanged
  split
  · exact h.value_other store key value other hne
  · rfl

/-- A record for one source leaves the settings of every other source. -/
theorem recordSourcePresentation_frame (h : settings.Lawful) (store : σ)
    {identity other name : Bytes}
    (presentation : SourcePresentation) (hne : other ≠ identity) (hname : name ∈ settingNames) :
    settings.value (recordSourcePresentation settings store identity presentation)
        (sourcePresentationSettingsGroup other ++ name) =
      settings.value store (sourcePresentationSettingsGroup other ++ name) := by
  have hkey : ∀ name' ∈ settingNames, sourcePresentationSettingsGroup other ++ name ≠
      sourcePresentationSettingsGroup identity ++ name' := by
    intro name' hname' heq
    obtain ⟨rest, rfl⟩ := settingNames_separated hname
    obtain ⟨rest', rfl⟩ := settingNames_separated hname'
    exact hne (group_append_inj heq).1
  have hdisplay := hkey (text "/display_name") List.mem_cons_self
  have horigin := hkey (text "/origin") (List.mem_cons_of_mem _ List.mem_cons_self)
  unfold recordSourcePresentation
  split
  · rfl
  · dsimp only
    split
    · exact value_setIfChanged_other h hdisplay
    · rw [value_setIfChanged_other h horigin, value_setIfChanged_other h hdisplay]

end Frame

end PlotJugglerSdk
