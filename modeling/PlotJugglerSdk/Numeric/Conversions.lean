import Mathlib.Algebra.Order.Floor.Ring
import Mathlib.Data.Rat.Floor
import PlotJugglerSdk.Numeric.Binary

/-!
# Conversions of doubles

What a double becomes where something smaller is asked for: a single, rounded to the nearest, or
an integer, without its fraction. Singles come back through doubles (`narrow_widen`), except
that not-a-number comes back quiet; a bounded conversion to an integer is a clamped one
(`clamped_truncated`).
-/

namespace Binary

/-! ## Singles -/

/-- `value / 2 ^ shift` to the nearest, a tie to the even one. -/
def roundShift (value shift : Nat) : Nat :=
  let unit := 2 ^ shift
  let rest := value % unit
  let down := value / unit
  if unit < 2 * rest ∨ 2 * rest = unit ∧ down % 2 = 1 then down + 1 else down

/-- The conversion of a double to a single. -/
def narrow (bits : UInt64) : UInt32 :=
  let sign := bits.toNat / 2 ^ 63
  let exponent := bits.toNat / 2 ^ 52 % 2 ^ 11
  let fraction := bits.toNat % 2 ^ 52
  if exponent = 2047 then
    -- not-a-number keeps the leading bits of its payload, and is quiet
    let payload := if fraction = 0 then 0 else 2 ^ 22 + fraction / 2 ^ 29 % 2 ^ 22
    .ofNat (sign * 2 ^ 31 + 255 * 2 ^ 23 + payload)
  else
    let significand := if exponent = 0 then fraction else 2 ^ 52 + fraction
    -- below the normal singles more bits are rounded off; a carry belongs to the exponent
    let magnitude := (exponent - 897) * 2 ^ 23 + roundShift significand (29 + (897 - exponent))
    .ofNat (sign * 2 ^ 31 + min magnitude (255 * 2 ^ 23))

/-- Not-a-number that signals is made quiet by an operation on it. -/
def quieted (bits : UInt32) : UInt32 :=
  let exponent := bits.toNat / 2 ^ 23 % 2 ^ 8
  let fraction := bits.toNat % 2 ^ 23
  if exponent = 255 ∧ fraction ≠ 0 ∧ fraction < 2 ^ 22 then .ofNat (bits.toNat + 2 ^ 22) else bits

theorem roundShift_mul (value shift : Nat) : roundShift (value * 2 ^ shift) shift = value := by
  have hpos : 0 < 2 ^ shift := Nat.two_pow_pos shift
  unfold roundShift
  dsimp only
  rw [Nat.mul_mod_left, Nat.mul_div_cancel _ hpos, if_neg (by omega)]

theorem roundShift_zero (shift : Nat) : roundShift 0 shift = 0 := by
  have hmul := roundShift_mul 0 shift
  rwa [Nat.zero_mul] at hmul

/-- A pattern comes back from its parts. -/
theorem ofNat_parts (bits : UInt32) :
    UInt32.ofNat (bits.toNat / 2 ^ 31 * 2 ^ 31 +
      (bits.toNat / 2 ^ 23 % 2 ^ 8 * 2 ^ 23 + bits.toNat % 2 ^ 23)) = bits := by
  have hlt : bits.toNat < 2 ^ 32 := bits.toNat_lt
  have hparts : bits.toNat / 2 ^ 31 * 2 ^ 31 +
      (bits.toNat / 2 ^ 23 % 2 ^ 8 * 2 ^ 23 + bits.toNat % 2 ^ 23) = bits.toNat := by omega
  rw [hparts, UInt32.ofNat_toNat]

theorem toNat_pattern {sign exponent fraction : Nat} (hsign : sign < 2)
    (hexponent : exponent < 2 ^ 11) (hfraction : fraction < 2 ^ 52) :
    (pattern sign exponent fraction).toNat / 2 ^ 63 = sign ∧
      (pattern sign exponent fraction).toNat / 2 ^ 52 % 2 ^ 11 = exponent ∧
      (pattern sign exponent fraction).toNat % 2 ^ 52 = fraction := by
  have hbits : (pattern sign exponent fraction).toNat =
      sign * 2 ^ 63 + exponent * 2 ^ 52 + fraction := by
    rw [pattern, UInt64.toNat_ofNat']
    omega
  rw [hbits]
  omega

/-- The normal form of a single's significand in a double. -/
theorem scaled_significand {fraction : Nat} (hzero : fraction ≠ 0) (hlt : fraction < 2 ^ 53) :
    2 ^ 52 ≤ fraction * 2 ^ (52 - fraction.log2) ∧
      fraction * 2 ^ (52 - fraction.log2) < 2 ^ 53 ∧ fraction.log2 ≤ 52 := by
  obtain ⟨hlow, hhigh⟩ := log2_bounds hzero
  have hlog : fraction.log2 ≤ 52 := by
    by_contra hnot
    have hpow : 2 ^ 53 ≤ 2 ^ fraction.log2 := Nat.pow_le_pow_right (by decide) (by omega)
    omega
  refine ⟨?_, ?_, hlog⟩
  · calc 2 ^ 52 = 2 ^ fraction.log2 * 2 ^ (52 - fraction.log2) := by
          rw [← Nat.pow_add, Nat.add_sub_cancel' hlog]
      _ ≤ _ := Nat.mul_le_mul_right _ hlow
  · calc fraction * 2 ^ (52 - fraction.log2)
          < 2 ^ (fraction.log2 + 1) * 2 ^ (52 - fraction.log2) :=
        Nat.mul_lt_mul_of_pos_right hhigh (Nat.two_pow_pos _)
      _ = 2 ^ 53 := by
        rw [← Nat.pow_add]
        congr 1
        omega

/-- A single that does not signal comes back from the double it was converted to. -/
theorem narrow_widen {bits : UInt32}
    (h : bits.toNat / 2 ^ 23 % 2 ^ 8 = 255 → bits.toNat % 2 ^ 23 = 0 ∨ 2 ^ 22 ≤ bits.toNat % 2 ^ 23) :
    narrow (widen bits) = bits := by
  have hlt : bits.toNat < 2 ^ 32 := bits.toNat_lt
  have hback := ofNat_parts bits
  revert hback h
  unfold widen
  generalize hs : bits.toNat / 2 ^ 31 = sign
  generalize he : bits.toNat / 2 ^ 23 % 2 ^ 8 = exponent
  generalize hf : bits.toNat % 2 ^ 23 = fraction
  have hsign : sign < 2 := by omega
  have hexponent : exponent < 256 := by omega
  have hfraction : fraction < 2 ^ 23 := by omega
  intro h hback
  dsimp only
  by_cases hspecial : exponent = 255
  · -- an infinity, or a payload with its quiet bit
    rw [if_pos hspecial]
    obtain ⟨hs', he', hf'⟩ :=
      toNat_pattern hsign (by decide : 2047 < 2 ^ 11) (by omega : fraction * 2 ^ 29 < 2 ^ 52)
    unfold narrow
    rw [hs', he', hf', if_pos rfl]
    rw [hspecial] at hback
    have hpayload : (if fraction * 2 ^ 29 = 0 then 0 else
        2 ^ 22 + fraction * 2 ^ 29 / 2 ^ 29 % 2 ^ 22) = fraction := by
      rcases h hspecial with hzero | hquiet
      · rw [hzero, Nat.zero_mul, if_pos rfl]
      · rw [if_neg (by omega)]
        omega
    dsimp only
    rw [hpayload, Nat.add_assoc, hback]
  rw [if_neg hspecial]
  by_cases hnormal : exponent = 0
  · rw [if_neg (not_not.mpr hnormal)]
    rw [hnormal] at hback
    by_cases hzero : fraction = 0
    · rw [if_pos hzero]
      obtain ⟨hs', he', hf'⟩ :=
        toNat_pattern hsign (by decide : 0 < 2 ^ 11) (by decide : 0 < 2 ^ 52)
      unfold narrow
      rw [hs', he', hf', if_neg (by decide)]
      rw [hzero] at hback
      dsimp only
      rw [if_pos rfl, roundShift_zero, Nat.min_eq_left (by decide)]
      exact hback
    · -- the shift undoes the normal form of a small fraction
      rw [if_neg hzero]
      obtain ⟨hlow, hhigh, -⟩ := scaled_significand hzero (by omega)
      have hlog : fraction.log2 ≤ 22 := by
        by_contra hnot
        have hpow : 2 ^ 23 ≤ 2 ^ fraction.log2 := Nat.pow_le_pow_right (by decide) (by omega)
        have hself := (log2_bounds hzero).1
        omega
      obtain ⟨hs', he', hf'⟩ := toNat_pattern hsign (by omega : 874 + fraction.log2 < 2 ^ 11)
        (by omega : fraction * 2 ^ (52 - fraction.log2) - 2 ^ 52 < 2 ^ 52)
      unfold narrow
      rw [hs', he', hf', if_neg (by omega)]
      dsimp only
      have hshift : 29 + (897 - (874 + fraction.log2)) = 52 - fraction.log2 := by omega
      have hhidden : 874 + fraction.log2 - 897 = 0 := by omega
      rw [if_neg (by omega), Nat.add_sub_cancel' hlow, hshift, roundShift_mul, hhidden,
        Nat.min_eq_left (by omega)]
      exact hback
  · -- the fraction is moved and moved back
    rw [if_pos hnormal]
    obtain ⟨hs', he', hf'⟩ := toNat_pattern hsign (by omega : exponent + 896 < 2 ^ 11)
      (by omega : fraction * 2 ^ 29 < 2 ^ 52)
    unfold narrow
    rw [hs', he', hf', if_neg (by omega)]
    dsimp only
    have hshift : 29 + (897 - (exponent + 896)) = 29 := by omega
    have hsignificand : 2 ^ 52 + fraction * 2 ^ 29 = (2 ^ 23 + fraction) * 2 ^ 29 := by omega
    have hmagnitude : (exponent + 896 - 897) * 2 ^ 23 + (2 ^ 23 + fraction) =
        exponent * 2 ^ 23 + fraction := by omega
    rw [if_neg (by omega), hshift, hsignificand, roundShift_mul, hmagnitude,
      Nat.min_eq_left (by omega), hback]

theorem narrow_widen_quieted (bits : UInt32) : narrow (widen (quieted bits)) = quieted bits := by
  apply narrow_widen
  have hlt : bits.toNat < 2 ^ 32 := bits.toNat_lt
  unfold quieted
  dsimp only
  split
  · next hsignals =>
    -- the quiet bit is set, and nothing is carried
    rw [UInt32.toNat_ofNat']
    omega
  · next hquiet => omega

/-! ## Order -/

def isNaN (bits : UInt64) : Bool := bits.toNat / 2 ^ 52 % 2 ^ 11 = 2047 ∧ bits.toNat % 2 ^ 52 ≠ 0

def isNegative (bits : UInt64) : Bool := 2 ^ 63 ≤ bits.toNat

/-- `a <= b`: by what the patterns stand for, the infinities at the two ends, and never where one
of them is not a number. -/
def lessEqual (a b : UInt64) : Bool :=
  if isNaN a || isNaN b then false
  else
    match double a, double b with
    | some p, some q => p ≤ q
    | none, some _ => isNegative a
    | some _, none => !isNegative b
    | none, none => isNegative a || !isNegative b

theorem isNaN_of_double {bits : UInt64} {q : ℚ} (h : double bits = some q) : isNaN bits = false := by
  have hfinite : ¬ bits.toNat / 2 ^ 52 % 2 ^ 11 = 2047 := by
    rw [← double_eq_none_iff, h]
    exact nofun
  exact decide_eq_false fun hnan => hfinite hnan.1

section Compared

variable {a b : UInt64} {p q : ℚ}

theorem lessEqual_finite (ha : double a = some p) (hb : double b = some q) :
    lessEqual a b = decide (p ≤ q) := by
  unfold lessEqual
  rw [isNaN_of_double ha, isNaN_of_double hb, ha, hb]
  rfl

/-- An infinity is below a number where it is negative. -/
theorem lessEqual_infinite_left (ha : double a = none) (hnan : isNaN a = false)
    (hb : double b = some q) : lessEqual a b = isNegative a := by
  unfold lessEqual
  rw [hnan, isNaN_of_double hb, ha, hb]
  rfl

theorem lessEqual_infinite_right (hb : double b = none) (hnan : isNaN b = false)
    (ha : double a = some p) : lessEqual a b = !isNegative b := by
  unfold lessEqual
  rw [hnan, isNaN_of_double ha, ha, hb]
  rfl

end Compared

/-! ## Integers -/

/-- A number without its fraction: toward zero. -/
def truncated (q : ℚ) : ℤ := if 0 ≤ q then ⌊q⌋ else ⌈q⌉

theorem truncated_intCast (n : ℤ) : truncated n = n := by
  unfold truncated
  rw [Int.floor_intCast, Int.ceil_intCast, ite_self]

theorem truncated_mono {p q : ℚ} (h : p ≤ q) : truncated p ≤ truncated q := by
  unfold truncated
  by_cases hp : 0 ≤ p
  · rw [if_pos hp, if_pos (hp.trans h)]
    exact Int.floor_mono h
  · rw [if_neg hp]
    by_cases hq : 0 ≤ q
    · rw [if_pos hq]
      -- zero is between them
      have hup : ⌈p⌉ ≤ 0 := Int.ceil_le.mpr (by exact_mod_cast le_of_not_ge hp)
      exact hup.trans (Int.floor_nonneg.mpr hq)
    · rw [if_neg hq]
      exact Int.ceil_mono h

/-- A conversion that takes its bounds where it is asked for more is one that is clamped. -/
theorem clamped_truncated {lo hi : ℤ} (h : lo ≤ hi) (q : ℚ) :
    (if q ≤ lo then lo else if (hi : ℚ) ≤ q then hi else truncated q) =
      max lo (min hi (truncated q)) := by
  split
  · next hlow =>
    have hle := truncated_mono hlow
    rw [truncated_intCast] at hle
    omega
  · next hlow =>
    have hge := truncated_mono (le_of_not_ge hlow)
    rw [truncated_intCast] at hge
    split
    · next hhigh =>
      have hmore := truncated_mono hhigh
      rw [truncated_intCast] at hmore
      omega
    · next hhigh =>
      have hless := truncated_mono (le_of_not_ge hhigh)
      rw [truncated_intCast] at hless
      omega

end Binary
