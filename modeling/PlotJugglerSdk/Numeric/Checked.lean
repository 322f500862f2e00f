import Mathlib.Algebra.Group.Int.Defs
import Mathlib.Algebra.Group.Nat.Defs
import Mathlib.Tactic.Common

/-!
# Checked 64-bit arithmetic

An operation is none where the exact result does not fit, and the wrapping operation where
it does (`add_eq`, `sub_eq`, `mul_eq`, `div_eq`). `Signed` is the arithmetic of a language
where overflow is undefined, `Unsigned` the one that shows whether a computation wraps.
-/

namespace Signed

/-- The integers of signed 64 bits. -/
def Fits (n : Int) : Prop := -2 ^ 63 ≤ n ∧ n < 2 ^ 63

instance (n : Int) : Decidable (Fits n) := inferInstanceAs (Decidable (_ ∧ _))

/-- An operation with the exact result `n`. -/
def exact (n : Int) : Option Int64 := if Fits n then some (Int64.ofInt n) else none

def add (a b : Int64) : Option Int64 := exact (a.toInt + b.toInt)

def sub (a b : Int64) : Option Int64 := exact (a.toInt - b.toInt)

def mul (a b : Int64) : Option Int64 := exact (a.toInt * b.toInt)

/-- Division toward zero, by anything but zero. -/
def div (a b : Int64) : Option Int64 := if b = 0 then none else exact (a.toInt.tdiv b.toInt)

/-- The remainder of `div`, where there is one. -/
def rem (a b : Int64) : Option Int64 := (div a b).bind fun _ => exact (a.toInt.tmod b.toInt)

theorem fits_toInt (a : Int64) : Fits a.toInt := by
  have hlow := a.le_toInt
  have hhigh := a.toInt_lt
  exact ⟨hlow, hhigh⟩

theorem toInt_ofInt {n : Int} (h : Fits n) : (Int64.ofInt n).toInt = n := by
  obtain ⟨hlow, hhigh⟩ := h
  exact Int64.toInt_ofInt_of_le hlow hhigh

theorem exact_eq_some_iff {n : Int} {a : Int64} : exact n = some a ↔ a.toInt = n := by
  unfold exact
  constructor
  · intro h
    split at h
    · next hfits =>
      obtain rfl := Option.some.inj h
      exact toInt_ofInt hfits
    · cases h
  · rintro rfl
    rw [if_pos (fits_toInt a), Int64.ofInt_toInt]

/-! The exact value of a wrapping operation that does not wrap. -/

section Fitting

variable {a b : Int64}

theorem toInt_add (h : Fits (a.toInt + b.toInt)) : (a + b).toInt = a.toInt + b.toInt := by
  obtain ⟨hlow, hhigh⟩ := h
  rw [Int64.toInt_add, Int.bmod_eq_of_le (by omega) (by omega)]

theorem toInt_sub (h : Fits (a.toInt - b.toInt)) : (a - b).toInt = a.toInt - b.toInt := by
  obtain ⟨hlow, hhigh⟩ := h
  rw [Int64.toInt_sub, Int.bmod_eq_of_le (by omega) (by omega)]

theorem toInt_mul (h : Fits (a.toInt * b.toInt)) : (a * b).toInt = a.toInt * b.toInt := by
  obtain ⟨hlow, hhigh⟩ := h
  rw [Int64.toInt_mul, Int.bmod_eq_of_le (by omega) (by omega)]

theorem toInt_div (h : Fits (a.toInt.tdiv b.toInt)) : (a / b).toInt = a.toInt.tdiv b.toInt := by
  obtain ⟨hlow, hhigh⟩ := h
  rw [Int64.toInt_div, Int.bmod_eq_of_le (by omega) (by omega)]

theorem add_eq (h : Fits (a.toInt + b.toInt)) : add a b = some (a + b) :=
  exact_eq_some_iff.mpr (toInt_add h)

theorem sub_eq (h : Fits (a.toInt - b.toInt)) : sub a b = some (a - b) :=
  exact_eq_some_iff.mpr (toInt_sub h)

theorem mul_eq (h : Fits (a.toInt * b.toInt)) : mul a b = some (a * b) :=
  exact_eq_some_iff.mpr (toInt_mul h)

theorem div_eq (hzero : b ≠ 0) (h : Fits (a.toInt.tdiv b.toInt)) : div a b = some (a / b) := by
  rw [div, if_neg hzero]
  exact exact_eq_some_iff.mpr (toInt_div h)

theorem rem_eq (hzero : b ≠ 0) (h : Fits (a.toInt.tdiv b.toInt)) : rem a b = some (a % b) := by
  have hexact : exact (a.toInt.tmod b.toInt) = some (a % b) :=
    exact_eq_some_iff.mpr (Int64.toInt_mod a b)
  rw [rem, div_eq hzero h]
  exact hexact

/-- The product and then the sum, both exact. -/
theorem mul_add_eq {c : Int64} (hmul : Fits (a.toInt * b.toInt))
    (hsum : Fits (a.toInt * b.toInt + c.toInt)) :
    (mul a b).bind (fun product => add product c) = some (a * b + c) := by
  have hproduct := toInt_mul hmul
  have hadd : add (a * b) c = some (a * b + c) := by
    apply add_eq
    rwa [hproduct]
  rw [mul_eq hmul]
  exact hadd

/-- A quotient by a positive number is no larger than what is divided. -/
theorem fits_tdiv (h : 0 < b.toInt) : Fits (a.toInt.tdiv b.toInt) := by
  obtain ⟨hlow, hhigh⟩ := fits_toInt a
  have habs : (a.toInt.tdiv b.toInt).natAbs ≤ a.toInt.natAbs := by
    rw [Int.natAbs_tdiv]
    exact Nat.div_le_self _ _
  have hneg : a.toInt ≤ 0 → a.toInt.tdiv b.toInt ≤ 0 := by
    intro h0
    have hopp := Int.tdiv_nonneg (a := -a.toInt) (b := b.toInt) (by omega) (by omega)
    rw [Int.neg_tdiv] at hopp
    omega
  constructor <;> omega

/-! A product that is divided by a factor's bound. -/

/-- The floor of `n * p / k`, by the quotient and the remainder of `n`. -/
theorem ediv_mul_add_emod_mul_ediv (n p : Int) {k : Int} (h : k ≠ 0) :
    n / k * p + n % k * p / k = n * p / k := by
  have hsplit : n * p = n % k * p + n / k * p * k := by
    calc n * p = (n % k + k * (n / k)) * p := by rw [Int.emod_add_mul_ediv]
      _ = n % k * p + n / k * p * k := by rw [Int.add_mul, Int.mul_comm k, Int.mul_right_comm]
  rw [hsplit, Int.add_mul_ediv_right _ _ h, Int.add_comm]

/-! The two guards of a product that is not computed until it is known to fit. -/

/-- A positive factor, against the largest number. -/
theorem maxValue_div_lt_iff (h : 0 < a.toInt) :
    (Int64.maxValue / a).toInt < b.toInt ↔ 2 ^ 63 ≤ a.toInt * b.toInt := by
  rw [toInt_div (fits_tdiv h), Int64.toInt_maxValue, Int.tdiv_eq_ediv_of_nonneg (by decide),
    Int.ediv_lt_iff_lt_mul h, Int.mul_comm]
  omega

/-- A negative factor and a positive one, against the least number. -/
theorem lt_minValue_div_iff (h : 0 < b.toInt) :
    a.toInt < (Int64.minValue / b).toInt ↔ a.toInt * b.toInt < -2 ^ 63 := by
  -- the quotient of the least number rounds up, the one of its opposite rounds down
  have hdiv : Int64.minValue.toInt.tdiv b.toInt = -(2 ^ 63 / b.toInt) := by
    rw [Int64.toInt_minValue, Int.neg_tdiv, Int.tdiv_eq_ediv_of_nonneg (by decide)]
  have hlt : 2 ^ 63 / b.toInt < -a.toInt ↔ 2 ^ 63 < -a.toInt * b.toInt :=
    Int.ediv_lt_iff_lt_mul h
  rw [toInt_div (fits_tdiv h), hdiv]
  rw [Int.neg_mul] at hlt
  omega

end Fitting

/-! ## Unsigned patterns -/

/-- The pattern of a number that is not negative, or of one plus a whole turn. -/
theorem toInt_cases (a : Int64) :
    (0 ≤ a.toInt ∧ a.toInt = a.toUInt64.toNat) ∨
      (a.toInt < 0 ∧ a.toInt = a.toUInt64.toNat - 2 ^ 64) := by
  have hcond : a.toInt =
      if 2 * a.toUInt64.toNat < 2 ^ 64 then (a.toUInt64.toNat : Int)
      else (a.toUInt64.toNat : Int) - (2 ^ 64 : Nat) := BitVec.toInt_eq_toNat_cond _
  have hlt : a.toUInt64.toNat < 2 ^ 64 := a.toUInt64.toNat_lt
  split at hcond <;> omega

theorem toInt_toInt64 {pattern : UInt64} (h : pattern.toNat < 2 ^ 63) :
    pattern.toInt64.toInt = pattern.toNat := by
  have hcases := toInt_cases pattern.toInt64
  rw [UInt64.toUInt64_toInt64] at hcases
  obtain ⟨-, heq⟩ | ⟨hneg, heq⟩ := hcases
  · exact heq
  · obtain ⟨hlow, -⟩ := fits_toInt pattern.toInt64
    omega

/-- The difference of the patterns of two ordered numbers is their distance, which may be
more than the greatest number. -/
theorem toNat_sub_patterns {a b : Int64} (h : a.toInt ≤ b.toInt) :
    ((b.toUInt64 - a.toUInt64).toNat : Int) = b.toInt - a.toInt := by
  have ha := toInt_cases a
  have hb := toInt_cases b
  obtain ⟨halow, hahigh⟩ := fits_toInt a
  obtain ⟨hblow, hbhigh⟩ := fits_toInt b
  have halt : a.toUInt64.toNat < 2 ^ 64 := a.toUInt64.toNat_lt
  have hblt : b.toUInt64.toNat < 2 ^ 64 := b.toUInt64.toNat_lt
  rw [UInt64.toNat_sub]
  omega

end Signed

namespace Unsigned

/-- An operation with the exact result `n`. -/
def exact (n : Nat) : Option UInt64 := if n < 2 ^ 64 then some (UInt64.ofNat n) else none

def add (a b : UInt64) : Option UInt64 := exact (a.toNat + b.toNat)

def mul (a b : UInt64) : Option UInt64 := exact (a.toNat * b.toNat)

theorem exact_eq_some_iff {n : Nat} {a : UInt64} : exact n = some a ↔ a.toNat = n := by
  unfold exact
  constructor
  · intro h
    split at h
    · next hlt =>
      obtain rfl := Option.some.inj h
      exact UInt64.toNat_ofNat_of_lt' hlt
    · cases h
  · rintro rfl
    rw [if_pos a.toNat_lt, UInt64.ofNat_toNat]

section Fitting

variable {a b : UInt64}

theorem toNat_add (h : a.toNat + b.toNat < 2 ^ 64) : (a + b).toNat = a.toNat + b.toNat := by
  rw [UInt64.toNat_add, Nat.mod_eq_of_lt h]

theorem toNat_mul (h : a.toNat * b.toNat < 2 ^ 64) : (a * b).toNat = a.toNat * b.toNat := by
  rw [UInt64.toNat_mul, Nat.mod_eq_of_lt h]

theorem mul_eq (h : a.toNat * b.toNat < 2 ^ 64) : mul a b = some (a * b) :=
  exact_eq_some_iff.mpr (toNat_mul h)

end Fitting

/-- Two 32-bit numbers have a product. -/
theorem widened_mul_le (a b : UInt32) : a.toNat * b.toNat ≤ (2 ^ 32 - 1) * (2 ^ 32 - 1) := by
  have ha := a.toNat_lt
  have hb := b.toNat_lt
  exact Nat.mul_le_mul (by omega) (by omega)

end Unsigned
