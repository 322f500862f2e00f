import PlotJugglerSdk.Builtin.TimeMath
import PlotJugglerSdk.Calendar.Gregorian
import PlotJugglerSdk.Lexing.Padded

/-!
# Timestamps as text

Timestamps are printed as the civil time of their second, and read from civil times with a
fraction and an offset.

* `parseIso8601Utc_eq_some_iff` — the texts that are read, and as which instants
* `iso8601_agrees`              — what is printed is read as the second it was printed for
-/

namespace PlotJugglerSdk

open Wire Lexing Calendar Signed

/-! ## Printing -/

structure UtcTime where
  year : Int := 1970
  month : Int := 1
  day : Int := 1
  hour : Int := 0
  minute : Int := 0
  second : Int := 0

def utcFromNanoseconds (tsNs : Int64) : UtcTime :=
  -- floors, also before the epoch
  let whole := tsNs.toInt / 1000000000
  let midnight := whole / 86400
  let date := yearMonthDay midnight
  let time := whole - midnight * 86400
  { year := date.year, month := date.month, day := date.day
    hour := time / 3600, minute := time % 3600 / 60, second := time % 60 }

/-- `snprintf` into a buffer of 32 bytes. -/
def formatDate (utc : UtcTime) (separator : UInt8) (dayFirst : Bool) : Bytes :=
  if dayFirst then
    (padded 2 utc.day ++ [separator] ++ padded 2 utc.month ++ [separator] ++
      padded 4 utc.year).take 31
  else
    (padded 4 utc.year ++ [separator] ++ padded 2 utc.month ++ [separator] ++
      padded 2 utc.day).take 31

/-- `snprintf` into a buffer of 16 bytes. -/
def formatTime (utc : UtcTime) : Bytes :=
  (padded 2 utc.hour ++ [0x3A] ++ padded 2 utc.minute ++ [0x3A] ++ padded 2 utc.second).take 15

def formatIso8601Utc (timestampNs : Int64) : Bytes :=
  let utc := utcFromNanoseconds timestampNs
  formatDate utc 0x2D false ++ [0x54] ++ formatTime utc

/-! ## Reading -/

namespace Iso8601

def isDigit (character : UInt8) : Bool := 0x30 ≤ character && character ≤ 0x39

def parseFixedDigits (text : Bytes) (offset count : Nat) : Option Nat :=
  if offset + count > text.length then none
  else digitsFrom 0 ((text.drop offset).take count)

/-- The loop over the digits of a fraction: how many there are, their value, and what stands
behind them. A tenth one fails. -/
def fractionDigits (count value : Nat) : Bytes → Option (Nat × Nat × Bytes)
  | [] => some (count, value, [])
  | character :: rest =>
    if isDigit character then
      if 9 ≤ count then none
      else fractionDigits (count + 1) (value * 10 + (character.toNat - 0x30)) rest
    else some (count, value, character :: rest)

/-- The nanoseconds of a fraction, if there is one, and what stands behind it. -/
def parseFraction (text : Bytes) : Option (Nat × Bytes) :=
  if text.head? = some 0x2E then do
    let (fractionDigits, value, rest) ← fractionDigits 0 0 text.tail
    if fractionDigits = 0 then none
    else some (value * 10 ^ (9 - fractionDigits), rest)
  else some (0, text)

/-- The minutes of an offset, with a colon or without, unless the text ends. -/
def parseOffsetMinutes (text : Bytes) : Option (Nat × Bytes) :=
  if text = [] then some (0, [])
  else do
    let text := if text.head? = some 0x3A then text.tail else text
    let offsetMinutes ← parseFixedDigits text 0 2
    some (offsetMinutes, text.drop 2)

/-- The seconds of a zone, and what stands behind it. -/
def parseOffset (text : Bytes) : Option (Int × Bytes) :=
  if text.head? = some 0x5A then some (0, text.tail)
  else if text.head? = some 0x2B ∨ text.head? = some 0x2D then do
    let sign : Int := if text.head? = some 0x2D then -1 else 1
    let offsetHours ← parseFixedDigits text.tail 0 2
    let (offsetMinutes, rest) ← parseOffsetMinutes (text.tail.drop 2)
    if offsetHours > 23 ∨ offsetMinutes > 59 then none
    else some (sign * (offsetHours * 3600 + offsetMinutes * 60), rest)
  else some (0, text)

end Iso8601

open Iso8601

def parseIso8601Utc (text : Bytes) : Option Int64 :=
  if text = [] ∨ text.length < 19 then none
  -- the separators stand at fixed places: YYYY-MM-DDTHH:MM:SS
  else if text[4]? ≠ some 0x2D ∨ text[7]? ≠ some 0x2D ∨ text[10]? ≠ some 0x54 ∨
      text[13]? ≠ some 0x3A ∨ text[16]? ≠ some 0x3A then none
  else do
    let year ← parseFixedDigits text 0 4
    let month ← parseFixedDigits text 5 2
    let day ← parseFixedDigits text 8 2
    let hour ← parseFixedDigits text 11 2
    let minute ← parseFixedDigits text 14 2
    let second ← parseFixedDigits text 17 2
    let date : Date := { year, month, day }
    if ¬ date.Valid ∨ hour > 23 ∨ minute > 59 ∨ second > 59 then none
    else do
      let (fractionalNs, rest) ← parseFraction (text.drop 19)
      let (offsetSeconds, rest) ← parseOffset rest
      -- nothing may follow the zone
      if rest ≠ [] then none
      else
        -- a local time is its zone's offset ahead of UTC
        let midnightSeconds := sysDays date * 86400
        let seconds := midnightSeconds + hour * 3600 + minute * 60 + second - offsetSeconds
        combineSecondsAndNanos (Int64.ofInt seconds) (Int64.ofNat fractionalNs)

/-! ## The texts of civil times -/

namespace Iso8601

/-- A fraction of one to nine digits, and its nanoseconds. -/
inductive FractionText : Bytes → Nat → Prop
  | absent : FractionText [] 0
  | digits {width value : Nat} (hpos : 0 < width) (hwidth : width ≤ 9)
    (hvalue : value < 10 ^ width) :
    FractionText (0x2E :: fixedDigits width value) (value * 10 ^ (9 - width))

/-- The byte of a sign. -/
def signByte (negative : Bool) : UInt8 := if negative then 0x2D else 0x2B

def signed (negative : Bool) (seconds : Int) : Int := if negative then -seconds else seconds

/-- A zone, and its offset in seconds. -/
inductive ZoneText : Bytes → Int → Prop
  | absent : ZoneText [] 0
  | utc : ZoneText [0x5A] 0
  | hours (negative : Bool) {hours : Nat} (hhours : hours ≤ 23) :
    ZoneText (signByte negative :: fixedDigits 2 hours) (signed negative (hours * 3600))
  | joined (negative : Bool) {hours minutes : Nat} (hhours : hours ≤ 23) (hminutes : minutes ≤ 59) :
    ZoneText (signByte negative :: (fixedDigits 2 hours ++ fixedDigits 2 minutes))
      (signed negative (hours * 3600 + minutes * 60))
  | colon (negative : Bool) {hours minutes : Nat} (hhours : hours ≤ 23) (hminutes : minutes ≤ 59) :
    ZoneText (signByte negative :: (fixedDigits 2 hours ++ 0x3A :: fixedDigits 2 minutes))
      (signed negative (hours * 3600 + minutes * 60))

/-- A date of the years 0 to 9999 and a time of the day. -/
structure Civil where
  year : Nat
  month : Nat
  day : Nat
  hour : Nat
  minute : Nat
  second : Nat
  date_valid : ({ year, month, day } : Date).Valid
  year_le : year ≤ 9999
  hour_le : hour ≤ 23
  minute_le : minute ≤ 59
  second_le : second ≤ 59

/-- `YYYY-MM-DDTHH:MM:SS`, in front of what follows. -/
def Civil.textBefore (civil : Civil) (rest : Bytes) : Bytes :=
  fixedDigits 4 civil.year ++ ([0x2D] ++ (fixedDigits 2 civil.month ++ ([0x2D] ++
    (fixedDigits 2 civil.day ++ ([0x54] ++ (fixedDigits 2 civil.hour ++ ([0x3A] ++
      (fixedDigits 2 civil.minute ++ ([0x3A] ++ (fixedDigits 2 civil.second ++ rest))))))))))

/-- The seconds since the epoch. -/
def Civil.seconds (civil : Civil) : Int :=
  sysDays { year := civil.year, month := civil.month, day := civil.day } * 86400 +
    civil.hour * 3600 + civil.minute * 60 + civil.second

/-- The texts of instants, in nanoseconds: the civil time minus the offset. -/
inductive InstantText : Bytes → Int → Prop
  | mk (civil : Civil) {fraction zone : Bytes} {nanoseconds : Nat} {offset : Int}
    (hfraction : FractionText fraction nanoseconds) (hzone : ZoneText zone offset) :
    InstantText (civil.textBefore (fraction ++ zone))
      ((civil.seconds - offset) * 1000000000 + nanoseconds)

/-! ## Fields -/

theorem isDigit_iff {character : UInt8} :
    isDigit character = true ↔ 0x30 ≤ character ∧ character ≤ 0x39 := by
  unfold isDigit
  rw [Bool.and_eq_true, decide_eq_true_iff, decide_eq_true_iff]

theorem parseFixedDigits_eq_some_iff {text : Bytes} {offset count value : Nat}
    (hcount : 0 < count) :
    parseFixedDigits text offset count = some value ↔
      value < 10 ^ count ∧ (text.drop offset).take count = fixedDigits count value := by
  unfold parseFixedDigits
  by_cases hshort : offset + count > text.length
  · rw [if_pos hshort]
    constructor
    · intro h
      cases h
    · rintro ⟨-, h⟩
      have hlength := congrArg List.length h
      rw [length_fixedDigits, List.length_take, List.length_drop] at hlength
      omega
  · have hlength : ((text.drop offset).take count).length = count := by
      rw [List.length_take, List.length_drop]
      omega
    rw [if_neg hshort, digitsFrom_eq_iff, hlength, and_comm]

/-- A field at the beginning of a text. -/
theorem parseFixedDigits_zero_iff {text : Bytes} {count value : Nat} (hcount : 0 < count) :
    parseFixedDigits text 0 count = some value ↔
      value < 10 ^ count ∧ text = fixedDigits count value ++ text.drop count := by
  have hpiece : text.drop 0 = fixedDigits count value ++ text.drop count ↔
      (text.drop 0).take count = fixedDigits count value ∧
        text.drop (0 + count) = text.drop count :=
    drop_eq_append_iff (length_fixedDigits count value)
  rw [List.drop_zero, Nat.zero_add] at hpiece
  rw [parseFixedDigits_eq_some_iff hcount, List.drop_zero, hpiece]
  exact ⟨fun h => ⟨h.1, h.2, rfl⟩, fun h => ⟨h.1, h.2.1⟩⟩

/-- A field has digits only. -/
theorem isDigit_of_head?_fixedDigits {width value : Nat} {character : UInt8}
    (h : (fixedDigits width value).head? = some character) : isDigit character = true := by
  induction width generalizing value with
  | zero => cases h
  | succ width ih =>
    rw [fixedDigits, List.head?_append] at h
    cases hfirst : (fixedDigits width (value / 10)).head? with
    | some first =>
      rw [hfirst] at h
      obtain rfl := Option.some.inj h
      exact ih hfirst
    | none =>
      rw [hfirst] at h
      obtain rfl := Option.some.inj h
      have hdigit : ∀ n < 10, isDigit (UInt8.ofNat (0x30 + n)) = true := by decide
      exact hdigit _ (Nat.mod_lt value (by decide))

/-! ## Fractions -/

/-- The digits of a fraction are all those up to the first other character. -/
theorem fractionDigits_eq_some_iff {text rest : Bytes} {count value count' value' : Nat} :
    fractionDigits count value text = some (count', value', rest) ↔
      ∃ digits, text = digits ++ rest ∧ digitsFrom value digits = some value' ∧
        count' = count + digits.length ∧ (digits = [] ∨ count' ≤ 9) ∧
        ∀ character, rest.head? = some character → isDigit character = false := by
  induction text generalizing count value with
  -- at the end of the text no digit is left to read
  | nil =>
    rw [fractionDigits]
    constructor
    · intro h
      cases h
      exact ⟨[], rfl, rfl, rfl, .inl rfl, fun character hhead => by cases hhead⟩
    · rintro ⟨digits, htext, hvalue, hcount, -, -⟩
      obtain ⟨rfl, rfl⟩ := List.append_eq_nil_iff.mp htext.symm
      cases hvalue
      rw [hcount]
      rfl
  | cons character text ih =>
    rw [fractionDigits]
    by_cases hdigit : isDigit character = true
    · rw [if_pos hdigit]
      have hrange := isDigit_iff.mp hdigit
      -- a tenth digit is refused, so that none may stand here
      by_cases hfull : 9 ≤ count
      · rw [if_pos hfull]
        constructor
        · intro h
          cases h
        · rintro ⟨digits, htext, -, hcount, hwidth, hrest⟩
          cases digits with
          | nil =>
            rw [List.nil_append] at htext
            have hno := hrest character (by rw [← htext]; rfl)
            rw [hdigit] at hno
            cases hno
          | cons digit digits =>
            rcases hwidth with hnil | hwidth
            · cases hnil
            · rw [List.length_cons] at hcount
              omega
      · -- one digit more on both sides
        rw [if_neg hfull, ih]
        constructor
        · rintro ⟨digits, rfl, hvalue, hcount, hwidth, hrest⟩
          refine ⟨character :: digits, rfl, ?_, ?_, .inr ?_, hrest⟩
          · rw [digitsFrom, if_pos hrange, Nat.mul_comm 10]
            exact hvalue
          · rw [List.length_cons]
            omega
          · rcases hwidth with rfl | hwidth
            · rw [List.length_nil] at hcount
              omega
            · exact hwidth
        · rintro ⟨digits, htext, hvalue, hcount, hwidth, hrest⟩
          cases digits with
          | nil =>
            rw [List.nil_append] at htext
            have hno := hrest character (by rw [← htext]; rfl)
            rw [hdigit] at hno
            cases hno
          | cons digit digits =>
            obtain ⟨rfl, rfl⟩ := List.cons.inj htext
            rw [digitsFrom, if_pos hrange, Nat.mul_comm 10] at hvalue
            rw [List.length_cons] at hcount
            refine ⟨digits, rfl, hvalue, by omega, .inr ?_, hrest⟩
            rcases hwidth with hnil | hwidth
            · cases hnil
            · exact hwidth
    · -- the first character that is no digit ends the fraction
      rw [if_neg hdigit]
      constructor
      · intro h
        cases h
        refine ⟨[], rfl, rfl, rfl, .inl rfl, fun c hhead => ?_⟩
        obtain rfl := Option.some.inj hhead
        exact Bool.not_eq_true _ ▸ hdigit
      · rintro ⟨digits, htext, hvalue, hcount, -, -⟩
        cases digits with
        | nil =>
          cases hvalue
          rw [hcount, htext]
          rfl
        | cons digit digits =>
          obtain ⟨rfl, -⟩ := List.cons.inj htext
          rw [digitsFrom] at hvalue
          split at hvalue
          · next hrange => exact absurd (isDigit_iff.mpr hrange) hdigit
          · cases hvalue

theorem parseFraction_sound {text rest : Bytes} {nanoseconds : Nat}
    (h : parseFraction text = some (nanoseconds, rest)) :
    ∃ fraction, text = fraction ++ rest ∧ FractionText fraction nanoseconds := by
  unfold parseFraction at h
  split at h
  · next hdot =>
    obtain ⟨⟨width, value, behind⟩, hdigits, h⟩ := Option.bind_eq_some_iff.mp h
    replace h : (if width = 0 then none else some (value * 10 ^ (9 - width), behind)) =
      some (nanoseconds, rest) := h
    split at h
    · cases h
    · next hne =>
      cases h
      obtain ⟨digits, htail, hvalue, hwidth, hbound, -⟩ := fractionDigits_eq_some_iff.mp hdigits
      rw [Nat.zero_add] at hwidth
      obtain ⟨hfixed, hlt⟩ := fixedDigits_of_digitsFrom hvalue
      rw [← hwidth] at hfixed hlt
      have hnine : width ≤ 9 := by
        rcases hbound with rfl | hnine
        · exact absurd hwidth hne
        · exact hnine
      refine ⟨0x2E :: fixedDigits width value, ?_, .digits (Nat.pos_of_ne_zero hne) hnine hlt⟩
      rw [← hfixed, List.cons_append, ← htail]
      exact (List.cons_head?_tail hdot).symm
  · cases h
    exact ⟨[], rfl, .absent⟩

theorem parseFraction_complete {fraction rest : Bytes} {nanoseconds : Nat}
    (h : FractionText fraction nanoseconds)
    (hrest : ∀ character, rest.head? = some character →
      isDigit character = false ∧ character ≠ 0x2E) :
    parseFraction (fraction ++ rest) = some (nanoseconds, rest) := by
  unfold parseFraction
  cases h with
  | absent =>
    rw [List.nil_append, if_neg fun hdot => (hrest _ hdot).2 rfl]
  | @digits width value hpos hwidth hvalue =>
    have hread : digitsFrom 0 (fixedDigits width value) = some value := by
      rw [digitsFrom_fixedDigits 0 hvalue, Nat.mul_zero, Nat.zero_add]
    have hdigits : fractionDigits 0 0 (fixedDigits width value ++ rest) =
        some (width, value, rest) := by
      refine fractionDigits_eq_some_iff.mpr ⟨fixedDigits width value, rfl, hread, ?_, .inr hwidth,
        fun character hhead => (hrest character hhead).1⟩
      rw [length_fixedDigits, Nat.zero_add]
    rw [List.cons_append, List.head?_cons, if_pos rfl, List.tail_cons, hdigits]
    exact if_neg (Nat.pos_iff_ne_zero.mp hpos)

/-! ## Zones -/

theorem parseOffsetMinutes_eq_some_iff {text : Bytes} {minutes : Nat} :
    parseOffsetMinutes text = some (minutes, []) ↔
      text = [] ∧ minutes = 0 ∨
        minutes < 10 ^ 2 ∧
          (text = fixedDigits 2 minutes ∨ text = 0x3A :: fixedDigits 2 minutes) := by
  -- the field behind the colon, or without it, is the rest of the text
  have hfield : ∀ text : Bytes, ((parseFixedDigits text 0 2).bind fun offsetMinutes =>
      some (offsetMinutes, text.drop 2)) = some (minutes, []) ↔
        minutes < 10 ^ 2 ∧ text = fixedDigits 2 minutes := by
    intro text
    rw [Option.bind_eq_some_iff]
    constructor
    · rintro ⟨value, hvalue, h⟩
      obtain ⟨hlt, htext⟩ := (parseFixedDigits_zero_iff (by decide)).mp hvalue
      obtain ⟨rfl, hrest⟩ := Prod.mk.inj (Option.some.inj h)
      rw [hrest, List.append_nil] at htext
      exact ⟨hlt, htext⟩
    · rintro ⟨hlt, rfl⟩
      have hrest : (fixedDigits 2 minutes).drop 2 = [] :=
        List.drop_eq_nil_of_le (Nat.le_of_eq (length_fixedDigits 2 minutes))
      refine ⟨minutes, (parseFixedDigits_zero_iff (by decide)).mpr ⟨hlt, ?_⟩, by rw [hrest]⟩
      rw [hrest, List.append_nil]
  have hcolon : ∀ minutes, (fixedDigits 2 minutes).head? ≠ some 0x3A := fun minutes hhead =>
    absurd (isDigit_of_head?_fixedDigits hhead) (by decide)
  have hne : ∀ minutes, fixedDigits 2 minutes ≠ [] := fun minutes hnil => by
    have hlength := length_fixedDigits 2 minutes
    rw [hnil] at hlength
    cases hlength
  unfold parseOffsetMinutes
  by_cases hnil : text = []
  · rw [if_pos hnil]
    constructor
    · intro h
      obtain ⟨rfl, -⟩ := Prod.mk.inj (Option.some.inj h)
      exact .inl ⟨hnil, rfl⟩
    · rintro (⟨-, rfl⟩ | ⟨-, rfl | rfl⟩)
      · rfl
      · exact absurd hnil (hne minutes)
      · cases hnil
  · rw [if_neg hnil]
    by_cases hhead : text.head? = some 0x3A
    · rw [if_pos hhead]
      refine (hfield text.tail).trans ?_
      have hcons : text = 0x3A :: text.tail := (List.cons_head?_tail hhead).symm
      constructor
      · rintro ⟨hlt, htail⟩
        rw [htail] at hcons
        exact .inr ⟨hlt, .inr hcons⟩
      · rintro (⟨h, -⟩ | ⟨hlt, rfl | h⟩)
        · exact absurd h hnil
        · exact absurd hhead (hcolon minutes)
        · rw [h]
          exact ⟨hlt, rfl⟩
    · rw [if_neg hhead]
      refine (hfield text).trans ?_
      constructor
      · rintro ⟨hlt, htext⟩
        exact .inr ⟨hlt, .inl htext⟩
      · rintro (⟨h, -⟩ | ⟨hlt, htext | rfl⟩)
        · exact absurd h hnil
        · exact ⟨hlt, htext⟩
        · exact absurd rfl hhead

/-- The sign of an offset, as the source computes it. -/
theorem signed_eq (negative : Bool) (seconds : Int) :
    signed negative seconds =
      (if some (signByte negative) = some (0x2D : UInt8) then (-1 : Int) else 1) * seconds := by
  cases negative
  · rw [if_neg (by decide), Int.one_mul]
    rfl
  · rw [if_pos (by decide), Int.neg_mul, Int.one_mul]
    rfl

/-- An offset behind its sign. -/
theorem offset_eq_some_iff {negative : Bool} {text : Bytes} {offset : Int} :
    parseOffset (signByte negative :: text) = some (offset, []) ↔
      ∃ hours minutes : Nat, hours ≤ 23 ∧ minutes ≤ 59 ∧
        offset = signed negative (hours * 3600 + minutes * 60) ∧
        (text = fixedDigits 2 hours ∧ minutes = 0 ∨
          text = fixedDigits 2 hours ++ fixedDigits 2 minutes ∨
          text = fixedDigits 2 hours ++ 0x3A :: fixedDigits 2 minutes) := by
  unfold parseOffset
  have hnotZ : (signByte negative :: text).head? ≠ some 0x5A := by
    cases negative <;> exact fun h => absurd (Option.some.inj h) (by decide)
  have hsign : (signByte negative :: text).head? = some 0x2B ∨
      (signByte negative :: text).head? = some 0x2D := by
    cases negative
    · exact .inl rfl
    · exact .inr rfl
  rw [if_neg hnotZ, if_pos hsign, List.tail_cons, List.head?_cons]
  constructor
  · intro h
    obtain ⟨hours, hhours, h⟩ := Option.bind_eq_some_iff.mp h
    obtain ⟨⟨minutes, rest⟩, hminutes, h⟩ := Option.bind_eq_some_iff.mp h
    replace h : (if hours > 23 ∨ minutes > 59 then none else
      some ((if some (signByte negative) = some (0x2D : UInt8) then (-1 : Int) else 1) *
        (hours * 3600 + minutes * 60), rest)) = some (offset, []) := h
    obtain ⟨hlt, htext⟩ := (parseFixedDigits_zero_iff (by decide)).mp hhours
    split at h
    · cases h
    · next hbound =>
      obtain ⟨hoffset, rfl⟩ := Prod.mk.inj (Option.some.inj h)
      refine ⟨hours, minutes, by omega, by omega, ?_, ?_⟩
      · rw [signed_eq, ← hoffset]
      · rcases parseOffsetMinutes_eq_some_iff.mp hminutes with ⟨hnil, rfl⟩ | ⟨-, hfield | hfield⟩
        · rw [hnil, List.append_nil] at htext
          exact .inl ⟨htext, rfl⟩
        · rw [hfield] at htext
          exact .inr (.inl htext)
        · rw [hfield] at htext
          exact .inr (.inr htext)
  · rintro ⟨hours, minutes, hhours, hminutes, rfl, htext⟩
    -- whichever way it is written, the hours come first
    have hsplit : ∃ rest, text = fixedDigits 2 hours ++ rest ∧
        parseOffsetMinutes rest = some (minutes, []) := by
      rcases htext with ⟨rfl, rfl⟩ | rfl | rfl
      · exact ⟨[], (List.append_nil _).symm, rfl⟩
      · exact ⟨_, rfl, parseOffsetMinutes_eq_some_iff.mpr (.inr ⟨by omega, .inl rfl⟩)⟩
      · exact ⟨_, rfl, parseOffsetMinutes_eq_some_iff.mpr (.inr ⟨by omega, .inr rfl⟩)⟩
    obtain ⟨rest, rfl, hrest⟩ := hsplit
    have hdrop : (fixedDigits 2 hours ++ rest).drop 2 = rest :=
      List.drop_left' (length_fixedDigits 2 hours)
    have hread : parseFixedDigits (fixedDigits 2 hours ++ rest) 0 2 = some hours :=
      (parseFixedDigits_zero_iff (by decide)).mpr ⟨by omega, by rw [hdrop]⟩
    rw [hread, Option.bind_eq_bind, Option.bind_some, hdrop, hrest, Option.bind_eq_bind,
      Option.bind_some, signed_eq]
    exact if_neg (by omega)

theorem parseOffset_eq_some_iff {text : Bytes} {offset : Int} :
    parseOffset text = some (offset, []) ↔ ZoneText text offset := by
  constructor
  · intro h
    cases text with
    | nil =>
      obtain ⟨rfl, -⟩ := Prod.mk.inj (Option.some.inj h)
      exact .absent
    | cons character text =>
      by_cases hutc : character = 0x5A
      · rw [hutc] at h ⊢
        obtain ⟨rfl, rfl⟩ := Prod.mk.inj (Option.some.inj h)
        exact .utc
      · by_cases hsign : character = 0x2B ∨ character = 0x2D
        · have hbyte : ∃ negative, character = signByte negative := by
            rcases hsign with rfl | rfl
            · exact ⟨false, rfl⟩
            · exact ⟨true, rfl⟩
          obtain ⟨negative, rfl⟩ := hbyte
          obtain ⟨hours, minutes, hhours, hminutes, rfl, htext⟩ := offset_eq_some_iff.mp h
          rcases htext with ⟨rfl, rfl⟩ | rfl | rfl
          · rw [Int.ofNat_zero, Int.zero_mul, Int.add_zero]
            exact .hours negative hhours
          · exact .joined negative hhours hminutes
          · exact .colon negative hhours hminutes
        · -- no zone, and the character is left behind
          rw [parseOffset, List.head?_cons, if_neg (fun hhead => hutc (Option.some.inj hhead)),
            if_neg (fun hhead => hsign (hhead.imp Option.some.inj Option.some.inj))] at h
          cases h
  · intro h
    cases h with
    | absent => rfl
    | utc => rfl
    | hours negative hhours =>
      refine offset_eq_some_iff.mpr ⟨_, 0, hhours, by decide, ?_, .inl ⟨rfl, rfl⟩⟩
      rw [Int.ofNat_zero, Int.zero_mul, Int.add_zero]
    | joined negative hhours hminutes =>
      exact offset_eq_some_iff.mpr ⟨_, _, hhours, hminutes, rfl, .inr (.inl rfl)⟩
    | colon negative hhours hminutes =>
      exact offset_eq_some_iff.mpr ⟨_, _, hhours, hminutes, rfl, .inr (.inr rfl)⟩

/-- A zone does not go on with a fraction. -/
theorem ZoneText.head {text : Bytes} {offset : Int} (h : ZoneText text offset) :
    ∀ character, text.head? = some character → isDigit character = false ∧ character ≠ 0x2E := by
  have hsign : ∀ negative, isDigit (signByte negative) = false ∧
      signByte negative ≠ 0x2E := by decide
  intro character hhead
  cases h with
  | absent => cases hhead
  | utc =>
    obtain rfl := Option.some.inj hhead
    decide
  | hours negative hhours =>
    obtain rfl := Option.some.inj hhead
    exact hsign negative
  | joined negative hhours hminutes =>
    obtain rfl := Option.some.inj hhead
    exact hsign negative
  | colon negative hhours hminutes =>
    obtain rfl := Option.some.inj hhead
    exact hsign negative

/-! ## Bounds -/

theorem FractionText.lt {text : Bytes} {nanoseconds : Nat} (h : FractionText text nanoseconds) :
    nanoseconds < 1000000000 := by
  cases h with
  | absent => decide
  | @digits width value hpos hwidth hvalue =>
    calc value * 10 ^ (9 - width) < 10 ^ width * 10 ^ (9 - width) :=
          Nat.mul_lt_mul_of_pos_right hvalue (Nat.pow_pos (by decide))
      _ = 10 ^ 9 := by rw [← Nat.pow_add, Nat.add_sub_cancel' hwidth]

theorem ZoneText.bounds {text : Bytes} {offset : Int} (h : ZoneText text offset) :
    -86400 < offset ∧ offset < 86400 := by
  have hsigned : ∀ (negative : Bool) (seconds : Int), 0 ≤ seconds → seconds < 86400 →
      -86400 < signed negative seconds ∧ signed negative seconds < 86400 := by
    intro negative seconds hlow hhigh
    cases negative
    · show -86400 < seconds ∧ seconds < 86400
      omega
    · show -86400 < -seconds ∧ -seconds < 86400
      omega
  cases h with
  | absent => decide
  | utc => decide
  | hours negative hhours => exact hsigned negative _ (by omega) (by omega)
  | joined negative hhours hminutes => exact hsigned negative _ (by omega) (by omega)
  | colon negative hhours hminutes => exact hsigned negative _ (by omega) (by omega)

theorem Civil.fields_lt (civil : Civil) :
    civil.year < 10 ^ 4 ∧ civil.month < 10 ^ 2 ∧ civil.day < 10 ^ 2 ∧ civil.hour < 10 ^ 2 ∧
      civil.minute < 10 ^ 2 ∧ civil.second < 10 ^ 2 := by
  obtain ⟨year, month, day, hour, minute, second, ⟨-, hmonths, -, hdays⟩, hyear, hhour, hminute,
    hsecond⟩ := civil
  have hmonth : month ≤ 12 := hmonths
  have hday : day ≤ 31 := Nat.le_trans hdays (daysInMonth_le _ _)
  dsimp only
  omega

theorem Civil.seconds_bounds (civil : Civil) :
    -10 ^ 12 < civil.seconds ∧ civil.seconds < 10 ^ 12 := by
  obtain ⟨year, month, day, hour, minute, second, ⟨hmonth, hmonths, hday, hdays⟩, hyear, hhour,
    hminute, hsecond⟩ := civil
  have hlast : day ≤ 31 := Nat.le_trans hdays (daysInMonth_le _ _)
  have hbefore : daysOfMonths year (month - 1) ≤ 31 * (month - 1) := daysOfMonths_le _ _
  have hmonths' : month ≤ 12 := hmonths
  unfold Civil.seconds sysDays daysBeforeYear
  dsimp only
  omega

theorem combine_eq_some_iff {seconds : Int} {nanoseconds : Nat} {timestampNs : Int64}
    (hseconds : Fits seconds) (hnanoseconds : nanoseconds < 1000000000) :
    combineSecondsAndNanos (Int64.ofInt seconds) (Int64.ofNat nanoseconds) = some timestampNs ↔
      timestampNs.toInt = seconds * 1000000000 + nanoseconds := by
  have hsec : (Int64.ofInt seconds).toInt = seconds := toInt_ofInt hseconds
  have hnan : (Int64.ofNat nanoseconds).toInt = nanoseconds := by
    rw [← Int64.ofInt_eq_ofNat]
    exact toInt_ofInt ⟨by omega, by omega⟩
  rw [combineSecondsAndNanos_eq, hsec, hnan]
  constructor
  · intro h
    split at h
    · next hrange =>
      rw [← Option.some.inj h]
      exact toInt_ofInt ⟨hrange.2.2.1, hrange.2.2.2⟩
    · cases h
  · intro h
    obtain ⟨hlow, hhigh⟩ := fits_toInt timestampNs
    rw [if_pos (by omega), ← h, Int64.ofInt_toInt]

/-! ## Civil times -/

/-- A civil time, field by field. -/
theorem eq_textBefore_iff {civil : Civil} {text rest : Bytes} :
    text = civil.textBefore rest ↔
      (text.drop 0).take 4 = fixedDigits 4 civil.year ∧ (text.drop 4).take 1 = [0x2D] ∧
      (text.drop 5).take 2 = fixedDigits 2 civil.month ∧ (text.drop 7).take 1 = [0x2D] ∧
      (text.drop 8).take 2 = fixedDigits 2 civil.day ∧ (text.drop 10).take 1 = [0x54] ∧
      (text.drop 11).take 2 = fixedDigits 2 civil.hour ∧ (text.drop 13).take 1 = [0x3A] ∧
      (text.drop 14).take 2 = fixedDigits 2 civil.minute ∧ (text.drop 16).take 1 = [0x3A] ∧
      (text.drop 17).take 2 = fixedDigits 2 civil.second ∧ text.drop 19 = rest := by
  have hstart : text = civil.textBefore rest ↔ text.drop 0 = civil.textBefore rest := by
    rw [List.drop_zero]
  rw [hstart, Civil.textBefore]
  rw [drop_eq_append_iff (length_fixedDigits 4 _), drop_eq_append_iff List.length_singleton,
    drop_eq_append_iff (length_fixedDigits 2 _), drop_eq_append_iff List.length_singleton,
    drop_eq_append_iff (length_fixedDigits 2 _), drop_eq_append_iff List.length_singleton,
    drop_eq_append_iff (length_fixedDigits 2 _), drop_eq_append_iff List.length_singleton,
    drop_eq_append_iff (length_fixedDigits 2 _), drop_eq_append_iff List.length_singleton,
    drop_eq_append_iff (length_fixedDigits 2 _)]

/-- The texts that are read, and the instants that they are read as. -/
theorem parseIso8601Utc_eq_some_iff {text : Bytes} {timestampNs : Int64} :
    parseIso8601Utc text = some timestampNs ↔ InstantText text timestampNs.toInt := by
  unfold parseIso8601Utc
  constructor
  · intro h
    split at h
    · cases h
    split at h
    · cases h
    next hseparators =>
    -- the separators stand, and then every field is read in turn
    simp only [not_or, not_not, getElem?_eq_some_iff_take] at hseparators
    obtain ⟨hdash, hdash', hT, hcolon, hcolon'⟩ := hseparators
    obtain ⟨year, hyear, h⟩ := Option.bind_eq_some_iff.mp h
    obtain ⟨month, hmonth, h⟩ := Option.bind_eq_some_iff.mp h
    obtain ⟨day, hday, h⟩ := Option.bind_eq_some_iff.mp h
    obtain ⟨hour, hhour, h⟩ := Option.bind_eq_some_iff.mp h
    obtain ⟨minute, hminute, h⟩ := Option.bind_eq_some_iff.mp h
    obtain ⟨second, hsecond, h⟩ := Option.bind_eq_some_iff.mp h
    rw [parseFixedDigits_eq_some_iff (by decide)] at hyear hmonth hday hhour hminute hsecond
    dsimp only at h
    split at h
    · cases h
    next hranges =>
    -- the ranges of the fields, and what stands behind the seconds
    simp only [not_or, not_not, Nat.not_lt] at hranges
    obtain ⟨hvalid, hhours, hminutes, hseconds⟩ := hranges
    obtain ⟨⟨nanoseconds, behind⟩, hfraction, h⟩ := Option.bind_eq_some_iff.mp h
    obtain ⟨⟨offset, rest⟩, hoffset, h⟩ := Option.bind_eq_some_iff.mp h
    dsimp only at hoffset h
    split at h
    · cases h
    next hend =>
    obtain rfl : rest = [] := not_not.mp hend
    obtain ⟨fraction, hrest, hfraction⟩ := parseFraction_sound hfraction
    have hzone : ZoneText behind offset := parseOffset_eq_some_iff.mp hoffset
    -- what was read makes a civil time, whose text is that which was read
    let civil : Civil := {
      year, month, day, hour, minute, second, date_valid := hvalid
      year_le := by omega, hour_le := hhours, minute_le := hminutes, second_le := hseconds }
    have htext : text = civil.textBefore (fraction ++ behind) :=
      eq_textBefore_iff.mpr ⟨hyear.2, hdash, hmonth.2, hdash', hday.2, hT, hhour.2, hcolon,
        hminute.2, hcolon', hsecond.2, hrest⟩
    have hbounds : -10 ^ 12 < civil.seconds ∧ civil.seconds < 10 ^ 12 := civil.seconds_bounds
    have hzoneBounds := hzone.bounds
    -- no product or sum of the combination leaves the type
    have hinstant : timestampNs.toInt = (civil.seconds - offset) * 1000000000 + nanoseconds :=
      (combine_eq_some_iff (by unfold Fits; omega) hfraction.lt).mp h
    rw [htext, hinstant]
    exact .mk civil hfraction hzone
  · intro h
    generalize hinstant : timestampNs.toInt = instant at h
    cases h with
    -- the other direction: the guards of the reader one after the other
    | @mk civil fraction zone nanoseconds offset hfraction hzone =>
      generalize htext : civil.textBefore (fraction ++ zone) = text
      obtain ⟨hyear, hdash, hmonth, hdash', hday, hT, hhour, hcolon, hminute, hcolon', hsecond,
        hrest⟩ := eq_textBefore_iff.mp htext.symm
      have hbounds := civil.fields_lt
      have hseconds : -10 ^ 12 < civil.seconds ∧ civil.seconds < 10 ^ 12 := civil.seconds_bounds
      have hzoneBounds := hzone.bounds
      have hlong : ¬ (text = [] ∨ text.length < 19) := by
        rintro (rfl | hshort)
        · cases hT
        · have hlength := congrArg List.length hsecond
          rw [length_fixedDigits, List.length_take, List.length_drop] at hlength
          omega
      rw [if_neg hlong, if_neg (by
        simp only [not_or, not_not, getElem?_eq_some_iff_take]
        exact ⟨hdash, hdash', hT, hcolon, hcolon'⟩)]
      have hreads : ∀ {offset count value : Nat}, 0 < count → value < 10 ^ count →
          (text.drop offset).take count = fixedDigits count value →
            parseFixedDigits text offset count = some value :=
        fun hcount hlt hfield => (parseFixedDigits_eq_some_iff hcount).mpr ⟨hlt, hfield⟩
      rw [hreads (by decide) hbounds.1 hyear, hreads (by decide) hbounds.2.1 hmonth,
        hreads (by decide) hbounds.2.2.1 hday, hreads (by decide) hbounds.2.2.2.1 hhour,
        hreads (by decide) hbounds.2.2.2.2.1 hminute, hreads (by decide) hbounds.2.2.2.2.2 hsecond]
      simp only [Option.bind_eq_bind, Option.bind_some]
      have hvalid := civil.date_valid
      -- a civil time is in range by its own fields
      have hranges :
          ¬ (¬ ({ year := civil.year, month := civil.month, day := civil.day } : Date).Valid ∨
          civil.hour > 23 ∨ civil.minute > 59 ∨ civil.second > 59) := by
        rintro (hno | hno | hno | hno)
        · exact hno hvalid
        · exact absurd civil.hour_le (Nat.not_le_of_lt hno)
        · exact absurd civil.minute_le (Nat.not_le_of_lt hno)
        · exact absurd civil.second_le (Nat.not_le_of_lt hno)
      rw [if_neg hranges, hrest, parseFraction_complete hfraction hzone.head, Option.bind_some]
      dsimp only
      rw [parseOffset_eq_some_iff.mpr hzone, Option.bind_some]
      dsimp only
      rw [if_neg (not_not.mpr rfl)]
      have hfits : Fits (civil.seconds - offset) := by
        unfold Fits
        omega
      exact (combine_eq_some_iff hfits hfraction.lt).mpr hinstant

end Iso8601

open Iso8601

/-! ## What is printed -/

theorem year_of_timestamp (tsNs : Int64) :
    0 ≤ (yearMonthDay (tsNs.toInt / 1000000000 / 86400)).year ∧
      (yearMonthDay (tsNs.toInt / 1000000000 / 86400)).year < 10000 := by
  obtain ⟨hlow, hhigh⟩ := fits_toInt tsNs
  have hyears : daysBeforeYear 0 = -366 ∧ daysBeforeYear 1970 = 719162 ∧
      daysBeforeYear 10000 = 3652059 := by decide
  exact year_yearMonthDay (by omega) (by omega)

/-- What is printed is the civil time of the second that an instant falls into. -/
theorem formatIso8601Utc_eq (tsNs : Int64) :
    ∃ civil : Civil, formatIso8601Utc tsNs = civil.textBefore [] ∧
      civil.seconds = tsNs.toInt / 1000000000 := by
  obtain ⟨hyear, hyears⟩ := year_of_timestamp tsNs
  have hvalid := valid_yearMonthDay (tsNs.toInt / 1000000000 / 86400)
  have hdays := sysDays_yearMonthDay (tsNs.toInt / 1000000000 / 86400)
  unfold formatIso8601Utc utcFromNanoseconds
  dsimp only
  generalize tsNs.toInt / 1000000000 = whole at *
  generalize yearMonthDay (whole / 86400) = date at *
  obtain ⟨year, month, day⟩ := date
  -- every field is a natural number
  obtain ⟨year, rfl⟩ : ∃ n : Nat, year = n := Int.eq_ofNat_of_zero_le hyear
  replace hyears : (year : Int) < 10000 := hyears
  obtain ⟨time, htime⟩ := Int.eq_ofNat_of_zero_le (show 0 ≤ whole - whole / 86400 * 86400 by omega)
  have hlt : time < 86400 := by omega
  let civil : Civil := {
    year, month, day, hour := time / 3600, minute := time % 3600 / 60, second := time % 60
    date_valid := hvalid, year_le := by omega, hour_le := by omega, minute_le := by omega
    second_le := by omega }
  refine ⟨civil, ?_, ?_⟩
  · have hbounds := civil.fields_lt
    have hhour : ((time : Int) / 3600) = (time / 3600 : Nat) := rfl
    have hminute : ((time : Int) % 3600 / 60) = (time % 3600 / 60 : Nat) := rfl
    have hsecond : ((time : Int) % 60) = (time % 60 : Nat) := rfl
    rw [htime, hhour, hminute, hsecond]
    unfold formatDate formatTime
    rw [if_neg Bool.false_ne_true]
    dsimp only
    rw [padded_natCast (by decide) hbounds.1, padded_natCast (by decide) hbounds.2.1,
      padded_natCast (by decide) hbounds.2.2.1, padded_natCast (by decide) hbounds.2.2.2.1,
      padded_natCast (by decide) hbounds.2.2.2.2.1, padded_natCast (by decide) hbounds.2.2.2.2.2]
    -- the buffers are large enough
    rw [List.take_of_length_le (by simp [length_fixedDigits]),
      List.take_of_length_le (by simp [length_fixedDigits])]
    unfold Civil.textBefore
    simp only [List.append_assoc, List.append_nil]
  · have hday : sysDays { year := (year : Int), month, day } = whole / 86400 := hdays
    show sysDays { year := (year : Int), month, day } * 86400 + ((time / 3600 : Nat) : Int) * 3600 +
      ((time % 3600 / 60 : Nat) : Int) * 60 + ((time % 60 : Nat) : Int) = whole
    rw [hday]
    omega

/-- What is printed is read as the second it was printed for, and the texts that are read are
those of the instants that fit, each read as its instant. -/
theorem iso8601_agrees :
    (∀ t : Int64, Fits (t.toInt / 1000000000 * 1000000000) →
      parseIso8601Utc (formatIso8601Utc t) =
        some (Int64.ofInt (t.toInt / 1000000000 * 1000000000))) ∧
    (∀ text, (parseIso8601Utc text).isSome ↔ ∃ instant, InstantText text instant ∧ Fits instant) ∧
    (∀ text timestampNs,
      parseIso8601Utc text = some timestampNs ↔ InstantText text timestampNs.toInt) := by
  refine ⟨?_, ?_, fun text timestampNs => parseIso8601Utc_eq_some_iff⟩
  · intro t hfits
    obtain ⟨civil, htext, hseconds⟩ := formatIso8601Utc_eq t
    rw [parseIso8601Utc_eq_some_iff, toInt_ofInt hfits, htext, ← hseconds]
    have hmk := InstantText.mk civil .absent .absent
    rw [Int.sub_zero, Int.ofNat_zero, Int.add_zero] at hmk
    exact hmk
  · intro text
    rw [Option.isSome_iff_exists]
    constructor
    · rintro ⟨timestampNs, h⟩
      exact ⟨timestampNs.toInt, parseIso8601Utc_eq_some_iff.mp h, fits_toInt timestampNs⟩
    · rintro ⟨instant, hinstant, hfits⟩
      refine ⟨Int64.ofInt instant, parseIso8601Utc_eq_some_iff.mpr ?_⟩
      rw [toInt_ofInt hfits]
      exact hinstant

end PlotJugglerSdk
