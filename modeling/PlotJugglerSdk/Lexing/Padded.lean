import PlotJugglerSdk.Lexing.Decimal
import Mathlib.Data.List.Induction
import Mathlib.Tactic.Common

/-!
# Numbers of a fixed width

The decimal text of a number in a field of a given width, and such texts read back. A number
that has no more digits than the field is wide fills it with zeros on the left.

* `zeroPadded_eq`      — the printed field
* `digitsFrom_eq_iff`  — a field is read as the number it was printed for, and no other is
* `drop_eq_append_iff` — a text piece by piece
-/

namespace Lexing

open Json Wire

/-- The last digits of a number, as many as the field is wide. -/
def fixedDigits : Nat → Nat → Bytes
  | 0, _ => []
  | width + 1, n => fixedDigits width (n / 10) ++ [UInt8.ofNat (0x30 + n % 10)]

/-- A number printed with zeros on the left, at least as wide as the field. -/
def zeroPadded (width n : Nat) : Bytes :=
  List.replicate (width - (text n.repr).length) 0x30 ++ text n.repr

/-- A signed number in a field, the sign in front of the zeros. -/
def padded (width : Nat) (value : Int) : Bytes :=
  if value < 0 then minusSign :: zeroPadded (width - 1) value.natAbs
  else zeroPadded width value.natAbs

theorem length_fixedDigits (width n : Nat) : (fixedDigits width n).length = width := by
  induction width generalizing n with
  | zero => rfl
  | succ width ih => rw [fixedDigits, List.length_append, ih, List.length_singleton]

/-- What a field holds is read as the number. -/
theorem digitsFrom_fixedDigits {width n : Nat} (value : Nat) (h : n < 10 ^ width) :
    digitsFrom value (fixedDigits width n) = some (10 ^ width * value + n) := by
  induction width generalizing n with
  | zero =>
    obtain rfl : n = 0 := by omega
    rw [fixedDigits, digitsFrom, Nat.pow_zero, Nat.one_mul, Nat.add_zero]
  | succ width ih =>
    rw [Nat.pow_succ] at h ⊢
    rw [fixedDigits, digitsFrom_append, ih (by omega), Option.bind_some,
      digitsFrom_digit _ (Nat.mod_lt n (by decide)), Option.some.injEq]
    have hdigits := Nat.div_add_mod n 10
    have hvalue : 10 * (10 ^ width * value) = 10 ^ width * 10 * value := by
      rw [Nat.mul_comm (10 ^ width) 10, Nat.mul_assoc]
    omega

/-- Digits that are read fill a field with the number that is read. -/
theorem fixedDigits_of_digitsFrom {digits : Bytes} {n : Nat} (h : digitsFrom 0 digits = some n) :
    digits = fixedDigits digits.length n ∧ n < 10 ^ digits.length := by
  -- the last digit is the last that is read
  induction digits using List.reverseRecOn generalizing n with
  | nil =>
    obtain rfl := Option.some.inj h
    exact ⟨rfl, by decide⟩
  | append_singleton digits digit ih =>
    rw [digitsFrom_append] at h
    obtain ⟨value, hvalue, hdigit⟩ := Option.bind_eq_some_iff.mp h
    obtain ⟨hdigits, hlt⟩ := ih hvalue
    rw [digitsFrom] at hdigit
    split at hdigit
    · next hrange =>
      have hlow : 0x30 ≤ digit.toNat := UInt8.le_iff_toNat_le.mp hrange.1
      have hhigh : digit.toNat ≤ 0x39 := UInt8.le_iff_toNat_le.mp hrange.2
      obtain rfl := Option.some.inj hdigit
      rw [List.length_append, List.length_singleton, Nat.pow_succ, fixedDigits]
      have hquot : (10 * value + (digit.toNat - 0x30)) / 10 = value := by omega
      have hrem : 0x30 + (10 * value + (digit.toNat - 0x30)) % 10 = digit.toNat := by omega
      rw [hquot, hrem, UInt8.ofNat_toNat, ← hdigits]
      exact ⟨rfl, by omega⟩
    · cases hdigit

theorem digitsFrom_eq_iff {digits : Bytes} {n : Nat} :
    digitsFrom 0 digits = some n ↔ digits = fixedDigits digits.length n ∧
      n < 10 ^ digits.length := by
  constructor
  · exact fixedDigits_of_digitsFrom
  · rintro ⟨hdigits, hlt⟩
    rw [hdigits, digitsFrom_fixedDigits 0 hlt, Nat.mul_zero, Nat.zero_add]

/-- A field that is wide enough is filled with zeros. -/
theorem zeroPadded_eq {width n : Nat} (hwidth : 0 < width) (h : n < 10 ^ width) :
    zeroPadded width n = fixedDigits width n := by
  induction width generalizing n with
  | zero => exact absurd hwidth (Nat.lt_irrefl 0)
  | succ width ih =>
    have hsmall : ∀ width, fixedDigits width 0 = List.replicate width 0x30 := by
      intro width
      induction width with
      | zero => rfl
      | succ width ih =>
        rw [fixedDigits, Nat.zero_div, ih, List.replicate_succ']
        rfl
    unfold zeroPadded
    by_cases hdigit : n < 10
    · rw [text_digit hdigit, List.length_singleton, Nat.add_sub_cancel, fixedDigits,
        Nat.div_eq_of_lt hdigit, Nat.mod_eq_of_lt hdigit, hsmall]
    · have hpos : 0 < width := by
        rcases Nat.eq_zero_or_pos width with rfl | hpos
        · omega
        · exact hpos
      rw [Nat.pow_succ] at h
      have hfront := ih (n := n / 10) hpos (by omega)
      rw [text_repr (Nat.le_of_not_lt hdigit), List.length_append, List.length_singleton,
        Nat.add_sub_add_right, ← List.append_assoc, fixedDigits, ← hfront]
      rfl

/-! ## Without leading zeros -/

theorem decimalText_natCast (n : Nat) : decimalText n = text n.repr := by
  unfold decimalText
  rw [Int.repr_eq_if, if_pos (Int.natCast_nonneg n), Int.toNat_natCast]

theorem digit_of_digitsFrom {digits : Bytes} {value n : Nat}
    (h : digitsFrom value digits = some n) :
    ∀ c ∈ digits, 0x30 ≤ c ∧ c ≤ 0x39 := by
  induction digits generalizing value with
  | nil => exact fun c hmem => absurd hmem List.not_mem_nil
  | cons digit digits ih =>
    rw [digitsFrom] at h
    split at h
    · next hdigit =>
      intro c hmem
      cases List.mem_cons.mp hmem with
      | inl heq => exact heq ▸ hdigit
      | inr hrest => exact ih h c hrest
    · cases h

/-- A number that is not zero begins with another digit. -/
theorem head_printed_ne_zero {n : Nat} (h : n ≠ 0) : (text n.repr).head? ≠ some 0x30 := by
  induction n using Nat.strongRecOn with
  | ind n ih =>
    by_cases hdigit : n < 10
    · have hall : ∀ n < 10, n ≠ 0 → UInt8.ofNat (0x30 + n) ≠ 0x30 := by decide
      rw [text_digit hdigit, List.head?_cons]
      exact fun heq => hall n hdigit h (Option.some.inj heq)
    · obtain ⟨digit, rest, heq, -⟩ := head_printed (n / 10)
      have hfront := ih (n / 10) (by omega) (by omega)
      rw [text_repr (Nat.le_of_not_lt hdigit), heq] at *
      exact hfront

theorem length_printed_le {n width : Nat} (hwidth : 0 < width) (h : n < 10 ^ width) :
    (text n.repr).length ≤ width := by
  have hfield := congrArg List.length (zeroPadded_eq hwidth h)
  rw [length_fixedDigits, zeroPadded, List.length_append, List.length_replicate] at hfield
  omega

/-- Digits without a leading zero are the text of the number that they are read as. -/
theorem eq_printed_of_digitsValue {digits : Bytes} {n : Nat} (h : digitsValue digits = some n)
    (hhead : digits.head? ≠ some 0x30) : digits = text n.repr := by
  unfold digitsValue at h
  split at h
  · cases h
  · next hne =>
    obtain ⟨hdigits, hlt⟩ := fixedDigits_of_digitsFrom h
    rw [← zeroPadded_eq (List.length_pos_iff.mpr hne) hlt, zeroPadded] at hdigits
    cases hzeros : digits.length - (text n.repr).length with
    | zero =>
      rw [hzeros] at hdigits
      exact hdigits
    | succ zeros =>
      rw [hzeros, List.replicate_succ] at hdigits
      rw [hdigits] at hhead
      exact absurd rfl hhead

/-! ## Pieces of texts -/

theorem padded_natCast {width n : Nat} (hwidth : 0 < width) (h : n < 10 ^ width) :
    padded width n = fixedDigits width n := by
  unfold padded
  rw [if_neg (by omega), Int.natAbs_natCast, zeroPadded_eq hwidth h]

/-! ## A text piece by piece -/

theorem drop_eq_append_iff {α : Type} {list piece rest : List α} {offset n : Nat}
    (h : piece.length = n) :
    list.drop offset = piece ++ rest ↔
      (list.drop offset).take n = piece ∧ list.drop (offset + n) = rest := by
  rw [← List.drop_drop]
  constructor
  · intro hdrop
    rw [hdrop, ← h, List.take_left, List.drop_left]
    exact ⟨rfl, rfl⟩
  · rintro ⟨htake, hrest⟩
    rw [← htake, ← hrest, List.take_append_drop]

theorem getElem?_eq_some_iff_take {α : Type} {list : List α} {offset : Nat} {x : α} :
    list[offset]? = some x ↔ (list.drop offset).take 1 = [x] := by
  rw [← List.head?_drop]
  cases list.drop offset with
  | nil => simp
  | cons y rest => simp

end Lexing
