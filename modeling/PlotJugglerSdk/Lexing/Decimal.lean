import PlotJugglerSdk.Json.Documents

/-!
# Decimal integers

The decimal text of an integer and a strict parser of such texts: an optional minus sign,
digits to the end, and a value inside the bounds of the type. A text that was printed is read
as the number it was printed for (`parseInteger_printed`), so two numbers have different texts
(`decimalText_inj`).
-/

namespace Lexing

open Json Wire

/-- The text of an integer: a sign where it is negative, and no leading zeros. -/
def decimalText (value : Int) : Bytes := text value.repr

def minusSign : UInt8 := 0x2D

/-- Digits behind those that gave the value so far. -/
def digitsFrom : Nat → Bytes → Option Nat
  | value, [] => some value
  | value, digit :: digits =>
    if 0x30 ≤ digit ∧ digit ≤ 0x39 then digitsFrom (10 * value + (digit.toNat - 0x30)) digits
    else none

def digitsValue (digits : Bytes) : Option Nat := if digits = [] then none else digitsFrom 0 digits

def signedValue (bytes : Bytes) : Option Int :=
  if bytes.head? = some minusSign then (digitsValue bytes.tail).map fun value : Nat =>
    -(value : Int)
  else (digitsValue bytes).map fun value : Nat => (value : Int)

/-- The whole text as an integer of a type with these bounds. -/
def parseInteger (least greatest : Int) (bytes : Bytes) : Option Int :=
  (signedValue bytes).filter fun value => least ≤ value ∧ value ≤ greatest

/-! ## Digits -/

theorem text_append (first second : String) :
    text (first ++ second) = text first ++ text second := by
  show (first ++ second).toByteArray.data.toList = _
  rw [String.toByteArray_append, ByteArray.data_append, Array.toList_append]
  rfl

theorem text_digit {n : Nat} (h : n < 10) : text n.repr = [UInt8.ofNat (0x30 + n)] := by
  rw [Nat.repr_of_lt h]
  revert n
  decide

theorem text_repr {n : Nat} (h : 10 ≤ n) :
    text n.repr = text (n / 10).repr ++ [UInt8.ofNat (0x30 + n % 10)] := by
  rw [Nat.repr_eq_repr_append_repr h, text_append, text_digit (Nat.mod_lt n (by decide))]

theorem digitsFrom_append (value : Nat) (digits more : Bytes) :
    digitsFrom value (digits ++ more) =
      (digitsFrom value digits).bind fun value => digitsFrom value more := by
  induction digits generalizing value with
  | nil => rfl
  | cons digit digits ih =>
    rw [List.cons_append, digitsFrom, digitsFrom]
    split
    · exact ih _
    · rfl

theorem digitsFrom_digit {n : Nat} (value : Nat) (h : n < 10) :
    digitsFrom value [UInt8.ofNat (0x30 + n)] = some (10 * value + n) := by
  have hnat : (UInt8.ofNat (0x30 + n)).toNat = 0x30 + n := by
    rw [UInt8.toNat_ofNat']
    omega
  rw [digitsFrom, if_pos, hnat, digitsFrom, Nat.add_sub_cancel_left]
  rw [UInt8.le_iff_toNat_le, UInt8.le_iff_toNat_le, hnat,
    show (0x30 : UInt8).toNat = 0x30 by decide,
    show (0x39 : UInt8).toNat = 0x39 by decide]
  omega

theorem digitsFrom_printed (n : Nat) : digitsFrom 0 (text n.repr) = some n := by
  induction n using Nat.strongRecOn with
  | ind n ih =>
    by_cases h : n < 10
    · rw [text_digit h, digitsFrom_digit 0 h, Nat.mul_zero, Nat.zero_add]
    · rw [text_repr (Nat.le_of_not_lt h), digitsFrom_append, ih (n / 10) (by omega),
        Option.bind_some,
        digitsFrom_digit _ (Nat.mod_lt n (by decide)), Nat.div_add_mod]

/-- A natural number begins with a digit. -/
theorem head_printed (n : Nat) :
    ∃ digit rest, text n.repr = digit :: rest ∧ digit ≠ minusSign := by
  induction n using Nat.strongRecOn with
  | ind n ih =>
    by_cases h : n < 10
    · have hdigit : ∀ n < 10, UInt8.ofNat (0x30 + n) ≠ minusSign := by decide
      exact ⟨_, _, text_digit h, hdigit n h⟩
    · obtain ⟨digit, rest, heq, hne⟩ := ih (n / 10) (by omega)
      rw [text_repr (Nat.le_of_not_lt h), heq]
      exact ⟨digit, _, rfl, hne⟩

theorem digitsValue_printed (n : Nat) : digitsValue (text n.repr) = some n := by
  obtain ⟨digit, rest, heq, -⟩ := head_printed n
  rw [digitsValue, if_neg (by rw [heq]; exact List.cons_ne_nil _ _), digitsFrom_printed]

/-! ## Integers -/

theorem signedValue_printed (value : Int) : signedValue (decimalText value) = some value := by
  unfold decimalText
  rw [Int.repr_eq_if, signedValue]
  split
  · rename_i h
    obtain ⟨digit, rest, heq, hne⟩ := head_printed value.toNat
    rw [if_neg, digitsValue_printed, Option.map_some, Int.toNat_of_nonneg h]
    rw [heq]
    exact fun hhead => hne (Option.some.inj hhead)
  · have hminus : text "-" = [minusSign] := by decide
    rw [text_append, hminus, List.singleton_append, List.head?_cons, if_pos rfl, List.tail_cons,
      digitsValue_printed, Option.map_some, Int.toNat_of_nonneg (by omega), Int.neg_neg]

/-- What was printed inside the bounds is read back. -/
theorem parseInteger_printed {least greatest value : Int} (hleast : least ≤ value)
    (hgreatest : value ≤ greatest) :
    parseInteger least greatest (decimalText value) = some value := by
  rw [parseInteger, signedValue_printed, Option.filter_some, if_pos]
  exact decide_eq_true ⟨hleast, hgreatest⟩

/-- What was printed outside the bounds is read as no number. -/
theorem parseInteger_outside {least greatest value : Int}
    (h : ¬ (least ≤ value ∧ value ≤ greatest)) :
    parseInteger least greatest (decimalText value) = none := by
  rw [parseInteger, signedValue_printed, Option.filter_some, if_neg]
  exact fun htrue => h (of_decide_eq_true htrue)

theorem decimalText_inj {a b : Int} (h : decimalText a = decimalText b) : a = b := by
  have ha := signedValue_printed a
  rw [h, signedValue_printed] at ha
  exact (Option.some.inj ha).symm

theorem validUtf8_decimalText (value : Int) : ValidUtf8 (decimalText value) := validUtf8_text _

end Lexing
