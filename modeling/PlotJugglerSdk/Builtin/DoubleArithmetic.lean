import PlotJugglerSdk.Builtin.Objects

/-!
# Double arithmetic

The floating-point operations of the codecs on IEEE 754 binary64 bit patterns,
rounded to nearest, ties to even. `colorExact_binary64` is what a round trip of
colors through doubles rests on.
-/

namespace PlotJugglerSdk

open Wire

namespace F64

/-- Sign and exponent of a pattern, then its 52 fraction bits. -/
def high (x : F64) : Nat := x.toNat / 2 ^ 52

def exponent (x : F64) : Nat := x.high % 2 ^ 11

def fraction (x : F64) : Nat := x.toNat % 2 ^ 52

def negative (x : F64) : Bool := 2 ^ 11 ≤ x.high

/-- The pattern with the given high part and fraction; a carry out of the
fraction belongs to the exponent. -/
def ofParts (high fraction : Nat) : F64 := UInt64.ofNat (high * 2 ^ 52 + fraction)

/-- `value` to 53 significant bits. -/
def roundSignificand (value : Nat) : Nat :=
  let unit := 2 ^ (Nat.log2 value - 52)
  let rest := value % unit
  let down := value / unit
  if unit < 2 * rest ∨ (2 * rest = unit ∧ down % 2 = 1) then (down + 1) * unit else down * unit

/-- `b / 255`, never a tie: 255 is odd. -/
def byteToNormalized (b : UInt8) : F64 :=
  if b = 0 then .zero
  else
    let k := 59 - Nat.log2 b.toNat
    let k := if b.toNat * 2 ^ k / 255 < 2 ^ 52 then k + 1 else k
    .ofParts (1023 + 52 - k) ((2 * (b.toNat * 2 ^ k) + 255) / 510 - 2 ^ 52)

/-- Everything up to zero is zero, everything from one on is 255; in between
the product and the sum are rounded to 53 bits each before the cast truncates. -/
def normalizedToByte (x : F64) : UInt8 :=
  if x.negative ∨ x.exponent = 0 then 0
  else if 1023 ≤ x.exponent then 255
  else
    let scale := 1075 - x.exponent
    let product := roundSignificand ((2 ^ 52 + x.fraction) * 255)
    let sum := roundSignificand (2 * product + 2 ^ scale)
    UInt8.ofNat (sum / 2 ^ (scale + 1))

def twice (x : F64) : F64 :=
  if x.exponent = 2047 then x
  else if x.exponent = 0 then .ofParts x.high (2 * x.fraction)
  else if x.exponent = 2046 then .ofParts (x.high + 1) 0
  else .ofParts (x.high + 1) x.fraction

def half (x : F64) : F64 :=
  if x.exponent = 2047 then x
  else if 2 ≤ x.exponent then .ofParts (x.high - 1) x.fraction
  else
    -- the result is subnormal: the last bit is rounded off
    let significand := if x.exponent = 1 then 2 ^ 52 + x.fraction else x.fraction
    let rounded := if significand % 4 = 3 then significand / 2 + 1 else significand / 2
    .ofParts (x.high - x.exponent) rounded

/-- The conversion of a 64-bit integer. -/
def ofInt (value : Int) : F64 :=
  let magnitude := roundSignificand value.natAbs
  let exponent := Nat.log2 magnitude
  let sign := if value < 0 then 2 ^ 11 else 0
  if magnitude = 0 then .ofParts 0 0
  else .ofParts (sign + 1023 + exponent) (magnitude * 2 ^ 52 / 2 ^ exponent - 2 ^ 52)

/-- Truncation to `int`, which the language leaves undefined out of range. -/
def truncate (x : F64) : Int32 :=
  let significand := 2 ^ 52 + x.fraction
  let magnitude : Nat :=
    if x.exponent < 1023 then 0
    else if x.exponent < 1075 then significand / 2 ^ (1075 - x.exponent)
    else significand * 2 ^ (x.exponent - 1075)
  .ofInt (if x.negative then -(magnitude : Int) else magnitude)

end F64

/-- The arithmetic of the target. -/
@[reducible] def binary64 : FloatOps where
  byteToNormalized := F64.byteToNormalized
  normalizedToByte := F64.normalizedToByte
  twice := F64.twice
  half := F64.half

theorem colorExact_binary64 : binary64.ColorExact := by
  have hall : ∀ n < 256, F64.normalizedToByte (F64.byteToNormalized (UInt8.ofNat n)) =
      UInt8.ofNat n := by
    decide +kernel
  intro byte
  have hbyte := hall byte.toNat byte.toNat_lt
  rwa [UInt8.ofNat_toNat] at hbyte

end PlotJugglerSdk
