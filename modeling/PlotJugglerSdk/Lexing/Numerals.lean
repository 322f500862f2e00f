import Mathlib.Data.Nat.Digits.Defs
import Mathlib.Data.List.Lex

/-!
# Numerals of any length

A list of digits, the most significant first, and the number it denotes. Without leading zeros
a longer numeral denotes a larger number, and numerals of one length are ordered as their
digits are.

* `positional_lt_of_shorter` — numerals of different length
* `positional_lt_of_lt`      — numerals of one length
-/

namespace Lexing

/-- The number of a list of digits, the most significant first. -/
def positional (base : ℕ) (digits : List ℕ) : ℕ := Nat.ofDigits base digits.reverse

variable {base : ℕ} {digits digits' : List ℕ}

theorem positional_cons (digit : ℕ) (digits : List ℕ) :
    positional base (digit :: digits) =
      digit * base ^ digits.length + positional base digits := by
  unfold positional
  rw [List.reverse_cons, Nat.ofDigits_append, Nat.ofDigits_singleton, List.length_reverse,
    mul_comm, add_comm]

theorem positional_lt (hbase : 1 < base) (h : ∀ digit ∈ digits, digit < base) :
    positional base digits < base ^ digits.length := by
  unfold positional
  rw [← List.length_reverse]
  exact Nat.ofDigits_lt_base_pow_length hbase fun digit hmem => h digit (List.mem_reverse.mp hmem)

theorem le_positional_cons {digit : ℕ} (hdigit : digit ≠ 0) :
    base ^ digits.length ≤ positional base (digit :: digits) := by
  rw [positional_cons]
  have hpos : 1 * base ^ digits.length ≤ digit * base ^ digits.length :=
    Nat.mul_le_mul_right _ (Nat.one_le_iff_ne_zero.mpr hdigit)
  omega

/-- A leading digit that is no zero outweighs every shorter numeral. -/
theorem positional_lt_of_shorter (hbase : 1 < base) (h : ∀ digit ∈ digits, digit < base)
    (hlength : digits.length < digits'.length) (hhead : digits'.head? ≠ some 0) :
    positional base digits < positional base digits' := by
  cases digits' with
  | nil => exact absurd hlength (Nat.not_lt_zero _)
  | cons digit digits' =>
    have hdigit : digit ≠ 0 := fun hzero => hhead (congrArg some hzero)
    have hle : digits.length ≤ digits'.length := Nat.le_of_lt_succ hlength
    calc positional base digits
        < base ^ digits.length := positional_lt hbase h
      _ ≤ base ^ digits'.length := Nat.pow_le_pow_right (by omega) hle
      _ ≤ positional base (digit :: digits') := le_positional_cons hdigit

/-- Of two numerals of one length the first different digit decides. -/
theorem positional_lt_of_lt (hbase : 1 < base) (h : ∀ digit ∈ digits, digit < base)
    (hlength : digits.length = digits'.length) (hlt : digits < digits') :
    positional base digits < positional base digits' := by
  induction digits generalizing digits' with
  | nil =>
    rw [List.length_eq_zero_iff.mp hlength.symm] at hlt
    exact absurd hlt (by simp)
  | cons digit digits ih =>
    cases digits' with
    | nil => cases hlength
    | cons digit' digits' =>
      have hrest : digits.length = digits'.length := Nat.succ.inj hlength
      have hdigits : ∀ digit ∈ digits, digit < base := fun d hmem =>
        h d (List.mem_cons_of_mem _ hmem)
      rw [positional_cons, positional_cons, ← hrest]
      rcases List.cons_lt_cons_iff.mp hlt with hlead | ⟨rfl, hlow⟩
      · -- what follows a smaller digit stays below one unit of its place
        have hbelow : positional base digits < base ^ digits.length := positional_lt hbase hdigits
        have hunit : (digit + 1) * base ^ digits.length ≤ digit' * base ^ digits.length :=
          Nat.mul_le_mul_right _ hlead
        rw [Nat.succ_mul] at hunit
        omega
      · have hnumber : positional base digits < positional base digits' := ih hdigits hrest hlow
        omega

end Lexing
