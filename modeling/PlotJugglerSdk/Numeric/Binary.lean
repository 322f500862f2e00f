import Mathlib.Algebra.Field.Rat
import Mathlib.Algebra.GroupWithZero.Basic
import Mathlib.Tactic.Ring
import Mathlib.Data.Nat.Log

/-!
# Binary floating point

The number a pattern of an IEEE 754 binary format stands for, none where it is an infinity or
not a number, and the conversion of single to double patterns, which is exact
(`double_widen`).
-/

namespace Binary

/-- The number of a pattern with `precision` fraction bits and `width` exponent bits. -/
def value (precision width bits : Nat) : Option ℚ :=
  let exponent := bits / 2 ^ precision % 2 ^ width
  let fraction := bits % 2 ^ precision
  let sign : ℚ := if bits / 2 ^ (precision + width) % 2 = 1 then -1 else 1
  let bias : ℤ := 2 ^ (width - 1) - 1
  if exponent = 2 ^ width - 1 then none
  else if exponent = 0 then some (sign * (fraction * 2 ^ (1 - bias - precision)))
  else some (sign * ((2 ^ precision + fraction : ℕ) * 2 ^ (exponent - bias - precision)))

def single (bits : UInt32) : Option ℚ := value 23 8 bits.toNat

def double (bits : UInt64) : Option ℚ := value 52 11 bits.toNat

/-- A double pattern from its parts. -/
def pattern (sign exponent fraction : Nat) : UInt64 :=
  .ofNat (sign * 2 ^ 63 + exponent * 2 ^ 52 + fraction)

/-- The conversion of a single to a double. -/
def widen (bits : UInt32) : UInt64 :=
  let sign := bits.toNat / 2 ^ 31
  let exponent := bits.toNat / 2 ^ 23 % 2 ^ 8
  let fraction := bits.toNat % 2 ^ 23
  if exponent = 255 then pattern sign 2047 (fraction * 2 ^ 29)
  else if exponent ≠ 0 then pattern sign (exponent + 896) (fraction * 2 ^ 29)
  else if fraction = 0 then pattern sign 0 0
  else
    -- a subnormal single is a normal double
    pattern sign (874 + fraction.log2) (fraction * 2 ^ (52 - fraction.log2) - 2 ^ 52)

/-- A pattern without a number has the greatest exponent. -/
theorem double_eq_none_iff (bits : UInt64) :
    double bits = none ↔ bits.toNat / 2 ^ 52 % 2 ^ 11 = 2047 := by
  show (if _ = 2 ^ 11 - 1 then none else _) = none ↔ _
  constructor
  · intro hnone
    split at hnone
    · assumption
    · split at hnone
      · exact nomatch hnone
      · exact nomatch hnone
  · intro hspecial
    exact if_pos hspecial

/-! ## The conversion is exact -/

def signed (sign : Nat) (magnitude : ℚ) : ℚ := (if sign = 1 then -1 else 1) * magnitude

theorem double_pattern {sign exponent fraction : Nat} (hsign : sign < 2)
    (hexponent : exponent < 2 ^ 11)
    (hfraction : fraction < 2 ^ 52) :
    double (pattern sign exponent fraction) =
      if exponent = 2047 then none
      else if exponent = 0 then some (signed sign (fraction * 2 ^ (-1074 : ℤ)))
      else some (signed sign ((2 ^ 52 + fraction : ℕ) * 2 ^ ((exponent : ℤ) - 1075))) := by
  have hbits : (pattern sign exponent fraction).toNat =
      sign * 2 ^ 63 + exponent * 2 ^ 52 + fraction := by
    rw [pattern, UInt64.toNat_ofNat']
    omega
  have he : (sign * 2 ^ 63 + exponent * 2 ^ 52 + fraction) / 2 ^ 52 % 2 ^ 11 = exponent := by omega
  have hf : (sign * 2 ^ 63 + exponent * 2 ^ 52 + fraction) % 2 ^ 52 = fraction := by omega
  have hs : (sign * 2 ^ 63 + exponent * 2 ^ 52 + fraction) / 2 ^ (52 + 11) % 2 = sign := by omega
  rw [double, value, hbits, he, hf, hs]
  have hbias : ((exponent : ℤ) - (2 ^ (11 - 1) - 1) - (52 : ℕ)) = exponent - 1075 := by omega
  rw [hbias]
  rfl

theorem single_parts {bits sign exponent fraction : Nat}
    (hs : bits / 2 ^ 31 = sign) (hsign : sign < 2) (he : bits / 2 ^ 23 % 2 ^ 8 = exponent)
    (hf : bits % 2 ^ 23 = fraction) :
    value 23 8 bits =
      if exponent = 255 then none
      else if exponent = 0 then some (signed sign (fraction * 2 ^ (-149 : ℤ)))
      else some (signed sign ((2 ^ 23 + fraction : ℕ) * 2 ^ ((exponent : ℤ) - 150))) := by
  have hmod : bits / 2 ^ (23 + 8) % 2 = sign := by omega
  rw [value, he, hf, hmod]
  have hbias : ((exponent : ℤ) - (2 ^ (8 - 1) - 1) - (23 : ℕ)) = exponent - 150 := by omega
  rw [hbias]
  rfl

theorem log2_bounds {n : Nat} (h : n ≠ 0) : 2 ^ n.log2 ≤ n ∧ n < 2 ^ (n.log2 + 1) :=
  ⟨Nat.log2_self_le h, Nat.lt_log2_self⟩

theorem two_zpow_add (m n : ℤ) : (2 : ℚ) ^ (m + n) = 2 ^ m * 2 ^ n := zpow_add₀ two_ne_zero m n

/-- The double a single is converted to is the same number. -/
theorem double_widen (bits : UInt32) : double (widen bits) = single bits := by
  have hlt : bits.toNat < 2 ^ 32 := bits.toNat_lt
  unfold widen single
  generalize hs : bits.toNat / 2 ^ 31 = sign
  generalize he : bits.toNat / 2 ^ 23 % 2 ^ 8 = exponent
  generalize hf : bits.toNat % 2 ^ 23 = fraction
  have hsign : sign < 2 := by omega
  have hexponent : exponent < 256 := by omega
  have hfraction : fraction < 2 ^ 23 := by omega
  rw [single_parts hs hsign he hf]
  dsimp only
  by_cases hspecial : exponent = 255
  · rw [if_pos hspecial, if_pos hspecial, double_pattern hsign (by decide) (by omega), if_pos rfl]
  rw [if_neg hspecial, if_neg hspecial]
  by_cases hnormal : exponent = 0
  · rw [if_neg (not_not.mpr hnormal), if_pos hnormal]
    by_cases hzero : fraction = 0
    · rw [if_pos hzero, double_pattern hsign (by decide) (by decide), if_neg (by decide),
        if_pos rfl,
        hzero, Nat.cast_zero, zero_mul, zero_mul]
    · -- the leading bit of the fraction becomes the hidden bit
      obtain ⟨hlow, hhigh⟩ := log2_bounds hzero
      have hlog : fraction.log2 ≤ 22 := by
        by_contra hnot
        have hpow : 2 ^ 23 ≤ 2 ^ fraction.log2 := Nat.pow_le_pow_right (by decide) (by omega)
        omega
      have hsplit : 2 ^ 52 = 2 ^ fraction.log2 * 2 ^ (52 - fraction.log2) := by
        rw [← Nat.pow_add, Nat.add_sub_cancel' (by omega)]
      have hle : 2 ^ 52 ≤ fraction * 2 ^ (52 - fraction.log2) := by
        rw [hsplit]
        exact Nat.mul_le_mul_right _ hlow
      have hgt : fraction * 2 ^ (52 - fraction.log2) < 2 ^ 53 := by
        have hsplit' : 2 ^ 53 = 2 ^ (fraction.log2 + 1) * 2 ^ (52 - fraction.log2) := by
          rw [← Nat.pow_add]
          congr 1
          omega
        rw [hsplit']
        exact Nat.mul_lt_mul_of_pos_right hhigh (Nat.two_pow_pos _)
      rw [if_neg hzero, double_pattern hsign (by omega) (by omega), if_neg (by omega),
        if_neg (by omega), Nat.add_sub_cancel' hle]
      have hscale : ((fraction * 2 ^ (52 - fraction.log2) : ℕ) : ℚ) *
          2 ^ (((874 + fraction.log2 : ℕ) : ℤ) - 1075) = fraction * 2 ^ (-149 : ℤ) := by
        have hexp : (-149 : ℤ) = ((52 - fraction.log2 : ℕ) : ℤ) +
            (((874 + fraction.log2 : ℕ) : ℤ) - 1075) := by omega
        rw [hexp, two_zpow_add, zpow_natCast]
        push_cast
        ring
      rw [hscale]
  · rw [if_pos hnormal, if_neg hnormal, double_pattern hsign (by omega) (by omega),
      if_neg (by omega), if_neg (by omega)]
    have hscale : ((2 ^ 52 + fraction * 2 ^ 29 : ℕ) : ℚ) * 2 ^ (((exponent + 896 : ℕ) : ℤ) - 1075) =
        (2 ^ 23 + fraction : ℕ) * 2 ^ ((exponent : ℤ) - 150) := by
      have hexp : (exponent : ℤ) - 150 = (29 : ℕ) + (((exponent + 896 : ℕ) : ℤ) - 1075) := by omega
      rw [hexp, two_zpow_add, zpow_natCast]
      push_cast
      ring
    rw [hscale]

end Binary
